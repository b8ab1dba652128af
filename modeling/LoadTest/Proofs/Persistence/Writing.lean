import LoadTest.Persistence.Persister
import LoadTest.Proofs.Persistence.Paths
/-!
# Writing a snapshot

A write goes through a temporary file whose name is never that of the snapshot file. So a
file is either replaced as a whole, or is what it was; what a persister does with a snapshot
comes down to whether the snapshot is due, and then to this one replacement.
-/

namespace LoadTest.Persistence

open Testdata

namespace Location

/-- A name has at most one dot more than its stem. -/
private theorem count_dot_le (name : List Char) :
    name.count '.' ≤ (stem name).count '.' + 1 := by
  rcases stem_cases name with hname | ⟨ending, hending, -, hname⟩
  · rw [hname]
    omega
  · have hcount := congrArg (List.count '.') hname
    rw [List.count_append, List.count_cons_self, List.count_eq_zero_of_not_mem hending] at hcount
    omega

/-- The temporary file is not the snapshot file. -/
theorem temporaryName_ne_name (l : Location) (process thread : ℕ) :
    l.temporaryName process thread ≠ l.name := by
  intro h
  have hdots := count_dot_le l.name.toList
  have hcount := congrArg (fun s : String => s.toList.count '.') h
  have htemporary : ".tmp".toList.count '.' = 1 := by decide
  have hjson : ".json.".toList.count '.' = 2 := by decide
  simp only [temporaryName, String.toList_append, String.toList_ofList, List.count_append,
    htemporary, hjson] at hcount
  omega

end Location

namespace Folder

variable {files : Dict ByteArray} {fault : Option Fault} {temporary : String}
  {contents : ByteArray}

/-- Making the folder changes no file. -/
theorem read?_make {f : Folder} (h : f.make fault = .ok files) (name : String) :
    files.get? name = f.read? name := by
  cases f with
  | missing =>
    simp only [make] at h
    split at h
    · cases h
    · cases h
      rfl
  | unreachable | blocked => cases h
  | present files' =>
    cases h
    rfl

/-- Writing the temporary file changes no other file. -/
theorem get?_writeTemporary (fault : Option Fault) (temporary : String) (contents : ByteArray)
    (files : Dict ByteArray) {other : String} (h : other ≠ temporary) :
    (writeTemporary fault temporary contents files).2.get? other = files.get? other := by
  unfold writeTemporary
  split <;> simp only [Dict.get?_insert_of_ne _ _ h.symm]

/-- A file is replaced as a whole, or no file but the temporary one has changed. -/
theorem replace_cases (f : Folder) (fault : Option Fault) (temporary name : String)
    (contents : ByteArray) :
    (∃ f', f.replace fault temporary name contents = (.ok (), f') ∧
      f'.read? name = some contents ∧
      ∀ other, other ≠ name → other ≠ temporary → f'.read? other = f.read? other) ∨
    ∃ e f', f.replace fault temporary name contents = (.error e, f') ∧
      ∀ other, other ≠ temporary → f'.read? other = f.read? other := by
  cases hmake : f.make fault with
  | error e =>
    right
    exact ⟨e, f, by rw [replace, hmake], fun _ _ => rfl⟩
  | ok files =>
    have hwritten : ∀ other, other ≠ temporary →
        (writeTemporary fault temporary contents files).2.get? other = f.read? other := by
      intro other hother
      rw [get?_writeTemporary _ _ _ _ hother, read?_make hmake]
    cases hr : writeTemporary fault temporary contents files with
    | mk result files' =>
      rw [hr] at hwritten
      cases result with
      | error e =>
        right
        exact ⟨e, present files', by simp only [replace, hmake, hr], hwritten⟩
      | ok u =>
        by_cases hrename : fault = some .rename || !isFileName name
        · right
          refine ⟨.rename, present files', ?_, hwritten⟩
          simp only [replace, hmake, hr, if_pos hrename]
        · left
          refine ⟨present ((files'.erase temporary).insert name contents), ?_,
            Dict.get?_insert_self _ _ _, ?_⟩
          · simp only [replace, hmake, hr, if_neg hrename]
          intro other hname htemporary
          rw [read?_present, Dict.get?_insert_of_ne _ _ hname.symm, Dict.get?_erase,
            if_neg htemporary.symm]
          exact hwritten other htemporary

end Folder

namespace Persister

/-- Where a snapshot is to be written, if it is not empty, none was written before and there
is a place for it. -/
def due? (p : Persister) (s : Snapshot) : Option Location :=
  if p.hasPersisted || s.isEmpty then none else p.location

variable {p : Persister} {s : Snapshot}

theorem due?_eq_some {l : Location} :
    p.due? s = some l ↔ p.hasPersisted = false ∧ s.isEmpty = false ∧ p.location = some l := by
  unfold due?
  cases p.hasPersisted <;> cases s.isEmpty <;> simp

/-- What is not due is not written. -/
theorem persist_of_not_due (folder : Folder) (a : Attempt) (h : p.due? s = none) :
    p.persist folder a s = (.ok false, p, folder) := by
  unfold due? at h
  unfold persist
  split at h
  · next hnot => rw [if_pos hnot]
  · next hdue => rw [if_neg hdue, h]

/-- What is due replaces the snapshot file. -/
theorem persist_of_due (folder : Folder) (a : Attempt) {l : Location} (h : p.due? s = some l) :
    p.persist folder a s =
      match folder.replace a.fault (l.temporaryName a.process a.thread) l.name s.toText.toUTF8 with
      | (.ok (), folder) => (.ok true, { p with hasPersisted := true }, folder)
      | (.error e, folder) => (.error (e.error l a), p, folder) := by
  obtain ⟨hpersisted, hempty, hlocation⟩ := due?_eq_some.1 h
  unfold persist
  rw [hpersisted, hempty, hlocation]
  rfl

end Persister

end LoadTest.Persistence
