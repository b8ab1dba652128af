import LoadTest.Testdata.Source
import LoadTest.Proofs.Text.Delimiters
import LoadTest.Proofs.Text.Numerals
/-!
# Counters are restored exactly from saved texts

A counter is restored from two numerals with a bar and `step=` between them, blanks aside, and
from nothing else. What a counter writes is such a text. A counter that is not restored is left
as it was.
-/

namespace LoadTest.Testdata.Counter

open Text (AllBlank IsPadded isNumeral_integerChars)

/-- The texts that a counter can be restored from, with the next value and the step that they
name. Both are numerals of 64-bit integers, and blanks may stand around the numerals and in front
of `step=`. -/
inductive IsSaved : List Char → Int64 → Int64 → Prop where
  | mk {before blanks behind : List Char} {next step : Int64} (hnext : IsPadded before next.toInt)
    (hblanks : AllBlank blanks) (hstep : IsPadded behind step.toInt) :
    IsSaved (before ++ '|' :: (blanks ++ ("step=".toList ++ behind))) next step

theorem toList_step : "step=".toList = ['s', 't', 'e', 'p', '='] := by decide

/-! ## The step -/

/-- Blanks at the ends of what follows the bar are removed, but not those behind `step=`. -/
theorem trim_step {blanks lead digits trail : List Char} {z : ℤ} (hblanks : AllBlank blanks)
    (hdigits : Text.IsNumeral digits z) (htrail : AllBlank trail) :
    Text.trim (blanks ++ ("step=".toList ++ (lead ++ (digits ++ trail)))) =
      "step=".toList ++ (lead ++ digits) := by
  have hstart : ∀ c ∈ ("step=".toList ++ (lead ++ digits)).head?, Text.isBlank c = false := by
    rw [toList_step]
    rintro _ ⟨⟩
    decide
  have hend : ∀ c ∈ ("step=".toList ++ (lead ++ digits)).getLast?, Text.isBlank c = false := by
    rw [← List.append_assoc, List.getLast?_append_of_ne_nil _ hdigits.ne_nil]
    exact fun c hc => hdigits.not_blank c (List.mem_of_mem_getLast? hc)
  simpa using Text.trim_of_ends hblanks htrail hstart hend

/-- The step is read from a numeral behind `step=`, and from nothing else. -/
theorem savedStep?_eq_some_iff {cs : List Char} {step : Int64} :
    savedStep? cs = some step ↔ ∃ blanks behind, AllBlank blanks ∧ IsPadded behind step.toInt ∧
      cs = blanks ++ ("step=".toList ++ behind) := by
  constructor
  · intro h
    obtain ⟨lead, trail, hlead, htrail, hcs⟩ := Text.exists_trim cs
    unfold savedStep? at h
    split at h
    · next rest htrim =>
      rw [htrim] at hcs
      exact ⟨lead, rest ++ trail, hlead, (Text.int64?_trim_eq_some_iff.1 h).append htrail,
        toList_step ▸ hcs⟩
    · cases h
  · generalize hz : step.toInt = z
    rintro ⟨blanks, _, hblanks, @⟨lead, digits, _, _, hlead, hdigits, htrail⟩, rfl⟩
    have hpadded : IsPadded (lead ++ digits) step.toInt := by
      simpa [hz] using IsPadded.mk hlead hdigits Text.allBlank_nil
    rw [savedStep?, trim_step hblanks hdigits htrail, toList_step]
    exact Text.int64?_trim_eq_some_iff.2 hpadded

/-! ## The whole text -/

/-- A padded numeral has no bar. -/
theorem bar_not_mem {cs : List Char} {z : ℤ} (h : IsPadded cs z) : '|' ∉ cs := by
  intro hbar
  rcases h.mem hbar with h | h | h | h <;> exact absurd h (by decide)

/-- A text without a bar says nothing. -/
theorem parseSaved?_of_not_mem {text : String} (h : '|' ∉ text.toList) :
    parseSaved? text = none := by
  rw [parseSaved?, Text.span_of_not_mem h]

/-- A text is split at its first bar. -/
theorem parseSaved?_of_split {text : String} {before behind : List Char} (h : '|' ∉ before)
    (htext : text.toList = before ++ '|' :: behind) :
    parseSaved? text = (savedStep? behind).bind fun step =>
      (Text.int64? (Text.trim before)).map fun next => (next, step) := by
  rw [parseSaved?, htext, Text.span_append h]
  dsimp only
  cases savedStep? behind with
  | none => rfl
  | some step => cases Text.int64? (Text.trim before) <;> rfl

/-- The two numbers are read from the texts that name them, and from no others. -/
theorem parseSaved?_eq_some_iff {text : String} {next step : Int64} :
    parseSaved? text = some (next, step) ↔ IsSaved text.toList next step := by
  constructor
  · intro h
    by_cases hbar : '|' ∈ text.toList
    · obtain ⟨before, behind, htext, hfirst⟩ := List.eq_append_cons_of_mem hbar
      rw [parseSaved?_of_split hfirst htext, Option.bind_eq_some_iff] at h
      obtain ⟨_, hstep, h⟩ := h
      obtain ⟨_, hnext, ⟨⟩⟩ := Option.map_eq_some_iff.1 h
      obtain ⟨blanks, rest, hblanks, hrest, rfl⟩ := savedStep?_eq_some_iff.1 hstep
      exact htext ▸ .mk (Text.int64?_trim_eq_some_iff.1 hnext) hblanks hrest
    · rw [parseSaved?_of_not_mem hbar] at h
      cases h
  · generalize htext : text.toList = cs
    rintro ⟨hnext, hblanks, hstep⟩
    rw [parseSaved?_of_split (bar_not_mem hnext) htext,
      savedStep?_eq_some_iff.2 ⟨_, _, hblanks, hstep, rfl⟩,
      Text.int64?_trim_eq_some_iff.2 hnext, Option.bind_some, Option.map_some]

/-- Both numerals may have a sign, leading zeros and blanks around them. -/
example : parseSaved? "\u3000+007\t|\n step= -5 " = some (7, -5) := by decide

/-- What stands behind a second bar is no numeral. -/
example : parseSaved? "7 | step=1 | step=2" = none := by decide

/-- A counter is restored from the texts that name its next value and its step. -/
theorem restore_eq_ok_iff {c c' : Counter} {text : String} :
    c.restore text = .ok c' ↔
      ∃ next step, IsSaved text.toList next step ∧ c' = ⟨next, step, c.persists⟩ := by
  simp only [← parseSaved?_eq_some_iff, restore]
  rcases parseSaved? text with _ | ⟨next, step⟩
  · simp
  · simp [eq_comm]

/-! ## Writing -/

/-- The saved text of a counter names what is next and what the step is. -/
theorem isSaved_saved (c : Counter) : IsSaved c.saved.toList c.next c.step := by
  have hmiddle : " | step=".toList = [' '] ++ '|' :: ([' '] ++ "step=".toList) := by decide
  have htext : c.saved.toList = (Text.integerChars c.next.toInt ++ [' ']) ++
      '|' :: ([' '] ++ ("step=".toList ++ Text.integerChars c.step.toInt)) := by
    simp only [saved, Text.decimal, String.toList_append, String.toList_ofList, hmiddle,
      List.append_assoc, List.cons_append, List.nil_append]
  rw [htext]
  exact .mk ((isNumeral_integerChars _).padded.append Text.allBlank_space) Text.allBlank_space
    (isNumeral_integerChars _).padded

/-! ## Restoring in place -/

/-- The error of a text from which nothing can be restored. -/
def unrestorable (text : String) : Error :=
  .materialize "integer_incrementer" ("cannot restore from \"" ++ text ++ "\"")

/-- Restoring in place stores both numbers of a text, or nothing. -/
theorem run_restoreInPlace (c : Counter) (text : String) :
    (restoreInPlace text).run c =
      match parseSaved? text with
      | some (next, step) => .ok () ⟨next, step, c.persists⟩
      | none => .error (unrestorable text) c := by
  unfold restoreInPlace parseSaved?
  rcases text.toList.span (· ≠ '|') with ⟨before, _ | ⟨bar, behind⟩⟩
  · rfl
  · dsimp only
    cases savedStep? behind with
    | none => rfl
    | some step =>
      cases Text.int64? (Text.trim before) with
      | none => rfl
      | some next => rfl

/-- A counter is restored exactly from the texts that name a next value and a step, which it takes
over. Any other text is an error that names it, and leaves the counter as it was. What a counter
that persists leaves behind is such a text, and restores it to itself. Making a restored copy
gives the same counter, or the same error, as restoring in place. -/
theorem restored_exactly (c : Counter) (text : String) :
    (∀ c', (restoreInPlace text).run c = .ok () c' ↔
      ∃ next step, IsSaved text.toList next step ∧ c' = ⟨next, step, c.persists⟩) ∧
    (∀ e c', (restoreInPlace text).run c = .error e c' ↔
      (∀ next step, ¬ IsSaved text.toList next step) ∧ e = unrestorable text ∧ c' = c) ∧
    (restoreInPlace c.saved).run c = .ok () c ∧
    (∀ v, (Source.counter c).initial? = some v ↔ c.persists = true ∧ v = .str c.saved) ∧
    (restoreInPlace text).run c =
      match c.restore text with
      | .ok c' => .ok () c'
      | .error e => .error e c := by
  refine ⟨fun c' => ?_, fun e c' => ?_, ?_, fun v => ?_, ?_⟩
  · simp only [← parseSaved?_eq_some_iff, run_restoreInPlace]
    rcases parseSaved? text with _ | ⟨next, step⟩
    · simp
    · simp [eq_comm]
  · simp only [← parseSaved?_eq_some_iff, run_restoreInPlace]
    rcases parseSaved? text with _ | ⟨next, step⟩
    · simp [eq_comm]
    · simp
  · rw [run_restoreInPlace, parseSaved?_eq_some_iff.2 c.isSaved_saved]
  · rw [Source.initial?]
    cases c.persists <;> simp [eq_comm]
  · rw [run_restoreInPlace, restore]
    cases parseSaved? text <;> rfl

end LoadTest.Testdata.Counter
