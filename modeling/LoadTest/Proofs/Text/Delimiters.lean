import Mathlib
/-!
# Splitting at a delimiter

A list is split at the first place where a delimiter stands, which goes with what is behind it. A
list without a delimiter stays whole. Split backwards, a list is split at the last delimiter.
-/

namespace LoadTest.Text

variable {α : Type} [DecidableEq α] {c : α}

theorem span_of_not_mem {cs : List α} (h : c ∉ cs) : cs.span (· ≠ c) = (cs, []) := by
  have hno : ∀ d ∈ cs, decide (d ≠ c) = true :=
    fun d hd => decide_eq_true fun hdc => h (hdc ▸ hd)
  rw [List.span_eq_takeWhile_dropWhile, List.takeWhile_eq_self_iff.2 hno,
    List.dropWhile_eq_nil_iff.2 hno]

theorem span_append {before : List α} (h : c ∉ before) (behind : List α) :
    (before ++ c :: behind).span (· ≠ c) = (before, c :: behind) := by
  have hno : ∀ d ∈ before, decide (d ≠ c) = true :=
    fun d hd => decide_eq_true fun hdc => h (hdc ▸ hd)
  rw [List.span_eq_takeWhile_dropWhile, List.takeWhile_append_of_pos hno,
    List.dropWhile_append_of_pos hno]
  simp

/-- A list has no delimiter, or a first one. -/
theorem span_cases (c : α) (cs : List α) :
    c ∉ cs ∧ cs.span (· ≠ c) = (cs, []) ∨
      ∃ before behind, c ∉ before ∧ cs = before ++ c :: behind ∧
        cs.span (· ≠ c) = (before, c :: behind) := by
  by_cases h : c ∈ cs
  · obtain ⟨before, behind, rfl, hfirst⟩ := List.eq_append_cons_of_mem h
    exact .inr ⟨before, behind, hfirst, rfl, span_append hfirst behind⟩
  · exact .inl ⟨h, span_of_not_mem h⟩

end LoadTest.Text
