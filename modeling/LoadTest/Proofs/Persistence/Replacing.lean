import LoadTest.Proofs.Persistence.Placement
import LoadTest.Proofs.Persistence.Writing
/-!
# Snapshots are written as a whole or not at all

Whichever step of a write fails, the snapshot file is what it was; if none fails, it has all of
the new text. The write goes by way of another path: that of the snapshot file with another
ending, which is never the same path.
-/

namespace LoadTest.Persistence

open Testdata

/-! ## Replacing a file -/

/-- A file has all of its new contents if something was done, and otherwise what it had. -/
structure WholeOrKept (before after : Folder) (name : String) (contents : ByteArray)
    (done : Prop) : Prop where
  whole : done → after.read? name = some contents
  kept : ¬ done → after.read? name = before.read? name

/-- Replacing a file in a folder comes to the step that fails: only a missing folder is made. -/
def Fault.IsMet (e : Fault) (f : Folder) : Prop := e = .makeFolder → f = .missing

namespace Folder

variable {f : Folder} {fault : Option Fault} {temporary name : String} {contents : ByteArray}
  {files : Dict ByteArray}

/-- A temporary file is written if files can have its name and none of the steps up to the last
one fails. -/
theorem writeTemporary_eq_ok_iff :
    (writeTemporary fault temporary contents files).1 = .ok () ↔
      isFileName temporary ∧ ∀ e, fault = some e → e = .makeFolder ∨ e = .rename := by
  unfold writeTemporary
  cases isFileName temporary with
  | false => simp
  | true =>
    cases fault with
    | none => simp
    | some e => cases e <;> simp

/-- In a folder that is there a file is replaced if files can have both names and no step
fails. -/
theorem replace_eq_ok_of_make (h : f.make fault = .ok files) :
    (f.replace fault temporary name contents).1 = .ok () ↔
      isFileName temporary ∧ isFileName name ∧ ∀ e, fault = some e → e = .makeFolder := by
  have htemporary : (writeTemporary fault temporary contents files).1 = .ok () ↔ _ :=
    writeTemporary_eq_ok_iff
  rw [replace, h]
  dsimp only
  cases hwritten : writeTemporary fault temporary contents files with
  | mk result files' =>
    rw [hwritten] at htemporary
    cases result with
    | error e =>
      simp only [reduceCtorEq, false_iff, not_and, not_forall] at htemporary ⊢
      intro hname _
      obtain ⟨e', he', hne⟩ := htemporary hname
      exact ⟨e', he', fun hmake => hne (.inl hmake)⟩
    | ok u =>
      obtain ⟨hname, hsteps⟩ := htemporary.1 rfl
      cases fault with
      | none => cases hn : isFileName name <;> simp [hname]
      | some e =>
        rcases hsteps e rfl with rfl | rfl
        · cases hn : isFileName name <;> simp [hname]
        · simp

/-- A file is replaced exactly if the folder is there or can be made, files can have both names
and the write does not come to a step that fails. -/
theorem replace_eq_ok_iff :
    (f.replace fault temporary name contents).1 = .ok () ↔
      f ≠ .unreachable ∧ f ≠ .blocked ∧ isFileName temporary ∧ isFileName name ∧
        ∀ e, fault = some e → ¬ e.IsMet f := by
  cases f with
  | unreachable | blocked => simp [replace, make]
  | missing =>
    by_cases hfault : fault = some .makeFolder
    · simp [replace, make, hfault, Fault.IsMet]
    · have hmake : missing.make fault = .ok ∅ := if_neg hfault
      rw [replace_eq_ok_of_make hmake]
      have hnone : (∀ e, fault = some e → e = .makeFolder) ↔ ∀ e, fault = some e → False :=
        forall_congr' fun e => imp_congr_right fun he => ⟨fun hm => hfault (hm ▸ he), False.elim⟩
      simp [hnone, Fault.IsMet]
  | present files =>
    rw [replace_eq_ok_of_make rfl]
    simp [Fault.IsMet]

/-- The steps of a write leave all files alone but the temporary one and, at the end, the one
that is replaced. -/
theorem wholeOrKept_replace (f : Folder) (fault : Option Fault) {temporary name : String}
    (contents : ByteArray) (h : name ≠ temporary) :
    WholeOrKept f (f.replace fault temporary name contents).2 name contents
      ((f.replace fault temporary name contents).1 = .ok ()) := by
  rcases f.replace_cases fault temporary name contents with
    ⟨f', hreplace, hread, -⟩ | ⟨e, f', hreplace, hread⟩
  · rw [hreplace]
    exact ⟨fun _ => hread, fun hnot => (hnot rfl).elim⟩
  · rw [hreplace]
    exact ⟨nofun, fun _ => hread name h⟩

/-- Whether a file was replaced or not, other files than the temporary one are what they were. -/
theorem read?_replace_of_ne (f : Folder) (fault : Option Fault) {temporary name other : String}
    (contents : ByteArray) (hname : other ≠ name) (htemporary : other ≠ temporary) :
    (f.replace fault temporary name contents).2.read? other = f.read? other := by
  rcases f.replace_cases fault temporary name contents with
    ⟨f', hreplace, -, hread⟩ | ⟨e, f', hreplace, hread⟩
  · rw [hreplace]
    exact hread other hname htemporary
  · rw [hreplace]
    exact hread other htemporary

end Folder

/-! ## Writing a snapshot -/

/-- Write a snapshot to a place. -/
def Location.write (l : Location) (folder : Folder) (a : Attempt) (s : Snapshot) :
    Except Fault Unit × Folder :=
  folder.replace a.fault (l.temporaryName a.process a.thread) l.name s.toText.toUTF8

/-- A write leaves the snapshot file as a whole or as it was. -/
theorem Location.wholeOrKept_write (l : Location) (folder : Folder) (a : Attempt) (s : Snapshot) :
    WholeOrKept folder (l.write folder a s).2 l.name s.toText.toUTF8
      ((l.write folder a s).1 = .ok ()) :=
  folder.wholeOrKept_replace a.fault s.toText.toUTF8 (l.temporaryName_ne_name _ _).symm

namespace Persister

variable {p : Persister} {l : Location}

/-- A persister says that it has written a snapshot exactly if the snapshot was due and its
write succeeded. -/
theorem persist_eq_true_iff (folder : Folder) (a : Attempt) (s : Snapshot)
    (h : p.location = some l) :
    (p.persist folder a s).1 = .ok true ↔
      p.hasPersisted = false ∧ s.isEmpty = false ∧ (l.write folder a s).1 = .ok () := by
  cases hdue : p.due? s with
  | none =>
    rw [persist_of_not_due folder a hdue]
    simp only [Except.ok.injEq, Bool.false_eq_true, false_iff]
    rintro ⟨hpersisted, hempty, -⟩
    rw [due?_eq_some.2 ⟨hpersisted, hempty, h⟩] at hdue
    cases hdue
  | some l' =>
    obtain ⟨hpersisted, hempty, hlocation⟩ := due?_eq_some.1 hdue
    obtain rfl := Option.some.inj (h.symm.trans hlocation)
    rw [persist_of_due folder a hdue, ← Location.write]
    rcases l.write folder a s with ⟨_ | _, folder'⟩ <;> simp [hpersisted, hempty]

/-- A persister leaves the snapshot file as a whole or as it was. -/
theorem wholeOrKept_persist (folder : Folder) (a : Attempt) (s : Snapshot)
    (h : p.location = some l) :
    WholeOrKept folder (p.persist folder a s).2.2 l.name s.toText.toUTF8
      ((p.persist folder a s).1 = .ok true) := by
  cases hdue : p.due? s with
  | none =>
    rw [persist_of_not_due folder a hdue]
    exact ⟨nofun, fun _ => rfl⟩
  | some l' =>
    obtain rfl := Option.some.inj (h.symm.trans (due?_eq_some.1 hdue).2.2)
    have hwrite := l.wholeOrKept_write folder a s
    rw [persist_of_due folder a hdue, ← Location.write]
    rcases hwritten : l.write folder a s with ⟨e | u, folder'⟩ <;> rw [hwritten] at hwrite
    · exact ⟨nofun, fun _ => hwrite.kept nofun⟩
    · exact ⟨fun _ => hwrite.whole rfl, fun hnot => (hnot rfl).elim⟩

end Persister

/-- Writing the snapshot of a feature is all or nothing. Whatever the snapshot file held before,
if anything, and whichever step of the write fails, the file afterwards has all of the new text
if the write succeeds, and otherwise it is what it was; it succeeds exactly if no step that it
comes to fails. Other files than the temporary one are left alone. The same holds of a persister,
which says that it has written the snapshot exactly if the snapshot was due and the write
succeeded. The file is the last component of its path, and the path of the temporary file is
never that of the snapshot file. -/
theorem Location.written_whole_or_kept (root feature : String) (folder : Folder) (a : Attempt)
    (s : Snapshot) :
    let l := make root feature
    let temporary := l.temporaryName a.process a.thread
    let written := l.write folder a s
    WholeOrKept folder written.2 l.name s.toText.toUTF8 (written.1 = .ok ()) ∧
    (written.1 = .ok () ↔ folder ≠ .unreachable ∧ folder ≠ .blocked ∧
      isFileName temporary ∧ isFileName l.name ∧ ∀ e, a.fault = some e → ¬ e.IsMet folder) ∧
    (∀ other, other ≠ l.name → other ≠ temporary →
      written.2.read? other = folder.read? other) ∧
    (∀ hasPersisted,
      let persisted := (⟨some l, hasPersisted⟩ : Persister).persist folder a s
      WholeOrKept folder persisted.2.2 l.name s.toText.toUTF8 (persisted.1 = .ok true) ∧
      (persisted.1 = .ok true ↔
        hasPersisted = false ∧ s.isEmpty = false ∧ written.1 = .ok ())) ∧
    lastName? l.path.toList = some l.name.toList ∧ join l.folder temporary ≠ l.path := by
  refine ⟨wholeOrKept_write _ folder a s, Folder.replace_eq_ok_iff,
    fun _ => Folder.read?_replace_of_ne folder a.fault _, fun _ => ⟨?_, ?_⟩,
    lastName?_path_make root feature, ?_⟩
  · exact Persister.wholeOrKept_persist folder a s rfl
  · exact Persister.persist_eq_true_iff folder a s rfl
  · exact fun hpath => temporaryName_ne_name _ _ _ (join_inj.1 hpath)

/-- The files of two features. -/
def twoFeatures : Folder :=
  .present (Dict.ofList
    [("cart.json", "old cart".toUTF8), ("checkout.json", "old checkout".toUTF8)])

/-- A write that breaks off after three bytes leaves both files as they were. One that does not
gives the first all of its new text, and leaves the other. -/
theorem twoFeatures_written_or_kept :
    let l := Location.make "/srv/ctx" "features/checkout.feature"
    let snapshot : Snapshot := Dict.ofList [("A", Dict.ofList [("n", .str "4 | step=1")])]
    let broken := l.write twoFeatures { fault := some (.write 3) } snapshot
    let whole := l.write twoFeatures {} snapshot
    (broken.2.read? "checkout.json" = some "old checkout".toUTF8 ∧
      broken.2.read? "cart.json" = some "old cart".toUTF8) ∧
    whole.2.read? "checkout.json" =
      some "\x7b\n  \"A\": \x7b\n    \"n\": \"4 | step=1\"\n  \x7d\n\x7d".toUTF8 ∧
    whole.2.read? "cart.json" = some "old cart".toUTF8 := by
  intro l snapshot broken whole
  obtain ⟨hbroken, hdone, hothers, -⟩ := Location.written_whole_or_kept "/srv/ctx"
    "features/checkout.feature" twoFeatures { fault := some (.write 3) } snapshot
  obtain ⟨hwhole, hdone', hothers', -⟩ := Location.written_whole_or_kept "/srv/ctx"
    "features/checkout.feature" twoFeatures {} snapshot
  refine ⟨⟨?_, ?_⟩, ?_, ?_⟩
  · exact hbroken.kept fun hok => (hdone.1 hok).2.2.2.2 _ rfl nofun
  · exact hothers "cart.json" (by decide) (by decide)
  · refine (hwhole.whole (hdone'.2 ⟨nofun, nofun, by decide, by decide, nofun⟩)).trans ?_
    decide +kernel
  · exact hothers' "cart.json" (by decide) (by decide)

end LoadTest.Persistence
