import LoadTest.Proofs.Json.Printed
/-!
# Indented objects

The indented text of an object is read back like its compact text, as the readers pass over
the blanks in front of keys, values and the closing brace. What is left to show for a
dictionary is that the texts of its values are read back, one level deeper.
-/

namespace LoadTest.Json

open Text (Symbol)

theorem blank_newLine (level : ℕ) : Blank (newLine level) := by
  simp [Blank, newLine]

theorem indentedMembers_eq (level : ℕ) (ms : List (String × Json)) :
    indentedMembers level ms =
      membersChars (newLine level) (fun m => ':' :: ' ' :: indentedChars level m.2) ms := by
  induction ms with
  | nil => rfl
  | cons m ms ih =>
    cases ms with
    | nil => simp [indentedMembers, membersChars, memberChars]
    | cons n ns =>
      rw [indentedMembers, ih]
      simp [membersChars, memberChars]

/-- The closing brace stands behind the opening one, or on a line of its own. -/
theorem indentedChars_obj (level : ℕ) (ms : List (String × Json)) :
    ∃ trail, Blank trail ∧ indentedChars level (.obj ms) =
      '\x7b' :: (indentedMembers (level + 1) ms ++ (trail ++ ['\x7d'])) := by
  cases ms with
  | nil => exact ⟨[], blank_nil, rfl⟩
  | cons m ms => exact ⟨newLine level, blank_newLine level, by simp [indentedChars]⟩

/-- A string has the same text at every level. -/
theorem indentedChars_str (level : ℕ) (t : String) :
    indentedChars level (.str t) = compactChars (.str t) := by
  simp [indentedChars, compactChars]

namespace Shape

/-- A shape passes over a blank in front of a value. -/
def SkipsBlanks (shape : Shape) : Prop :=
  ∀ levels s, shape levels (some ' ' :: s) = shape levels s

theorem skipsBlanks_any : any.SkipsBlanks := by
  intro levels s
  cases levels <;> simp [any, value, skipBlanks]

theorem skipsBlanks_dictOf (shape : Shape) : (dictOf shape).SkipsBlanks := by
  intro levels s
  simp [dictOf, unexpected, skipBlanks]

variable {shape : Shape} {levels : ℕ}

theorem SkipsBlanks.reads (h : shape.SkipsBlanks) {text : List Char}
    {o : Except TextFault Json} (hread : Reads (shape levels) text o) :
    Reads (shape levels) (' ' :: text) o := by
  intro s hs
  rw [List.map_cons, List.cons_append, h]
  exact hread s hs

theorem dictOf_brace (s : List Symbol) :
    dictOf shape (levels + 1) (some '\x7b' :: s) =
      mapRead ofDict (members (enter (shape levels)) (s.length + 1) true ∅ s) := by
  simp [dictOf, skipBlanks, deeper]

/-- Members whose values are all read are entered one after another. -/
theorem foldlM_enter (ms : List (String × Json)) (d : Dict Json) :
    ms.foldlM (fun d m => (.ok (d.insert m.1 m.2) : Except TextFault (Dict Json))) d =
      .ok (ms.foldl (fun d m => d.insert m.1 m.2) d) := by
  induction ms generalizing d with
  | nil => rfl
  | cons m ms ih => exact ih _

/-- The indented text of a dictionary is read back if those of its values are. -/
theorem reads_dictOf (hshape : shape.SkipsBlanks) {level : ℕ} {d : Dict Json}
    (hread : ∀ m ∈ d.entries,
      Reads (shape levels) (indentedChars (level + 1) m.2) (.ok m.2)) :
    Reads (dictOf shape (levels + 1)) (indentedChars level (ofDict d)) (.ok (ofDict d)) := by
  intro s _
  obtain ⟨trail, htrail, htext⟩ := indentedChars_obj level d.entries
  have hchars : (indentedChars level (ofDict d)).map some ++ s =
      some '\x7b' :: ((membersChars (newLine (level + 1))
        (fun m => ':' :: ' ' :: indentedChars (level + 1) m.2) d.entries).map some ++
          (trail.map some ++ some '\x7d' :: s)) := by
    rw [ofDict, htext, indentedMembers_eq]
    simp
  have hmember : ∀ m ∈ d.entries, ∀ e : Dict Json, Reads (enter (shape levels) e m.1)
      (':' :: ' ' :: indentedChars (level + 1) m.2) (.ok (e.insert m.1 m.2)) :=
    fun m hm e => reads_enter (hshape.reads (hread m hm)) e m.1
  have hfuel := length_le_membersChars (newLine (level + 1))
    (fun m => ':' :: ' ' :: indentedChars (level + 1) m.2) d.entries
  rw [hchars, dictOf_brace, members_membersChars (blank_newLine _) htrail hmember
    (by simp; omega), foldlM_enter]
  show (.ok (ofDict (Dict.ofList d.entries), s) : Except TextFault _) = .ok (ofDict d, s)
  rw [Dict.ofList_entries]

end Shape

end LoadTest.Json
