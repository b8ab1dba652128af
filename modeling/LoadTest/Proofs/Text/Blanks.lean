import LoadTest.Text.Blank
import Mathlib
/-!
# What is left without blanks

Removing the blanks around a text takes blanks away from both ends, and stops at characters
that are none.
-/

namespace LoadTest.Text

/-- There is nothing but blanks. -/
def AllBlank (cs : List Char) : Prop := ∀ c ∈ cs, isBlank c = true

theorem allBlank_nil : AllBlank [] := List.forall_mem_nil _

theorem isBlank_space : isBlank ' ' = true := rfl

theorem allBlank_space : AllBlank [' '] := List.forall_mem_singleton.2 isBlank_space

theorem isBlank_of_isDigit {c : Char} (h : c.isDigit) : isBlank c = false := by
  have hrange : 48 ≤ c.toNat ∧ c.toNat ≤ 57 := by
    simpa [Char.isDigit, UInt32.le_iff_toNat_le] using h
  simp only [isBlank, Bool.or_eq_false_iff, Bool.and_eq_false_iff, decide_eq_false_iff_not]
  omega

theorem AllBlank.append {cs ds : List Char} (hcs : AllBlank cs) (hds : AllBlank ds) :
    AllBlank (cs ++ ds) :=
  List.forall_mem_append.2 ⟨hcs, hds⟩

/-- Only blanks are removed. -/
theorem exists_trim (cs : List Char) :
    ∃ lead trail, AllBlank lead ∧ AllBlank trail ∧ cs = lead ++ (trim cs ++ trail) := by
  refine ⟨cs.takeWhile isBlank, ((trimStart cs).reverse.takeWhile isBlank).reverse,
    fun _ => List.mem_takeWhile_imp, fun c hc => ?_, ?_⟩
  · exact List.mem_takeWhile_imp (List.mem_reverse.1 hc)
  · rw [trim, trimEnd, ← List.reverse_append, List.takeWhile_append_dropWhile, List.reverse_reverse]
    exact List.takeWhile_append_dropWhile.symm

/-- A text that does not start with a blank loses nothing at its start. -/
private theorem dropWhile_isBlank_eq_self {cs : List Char} (h : ∀ c ∈ cs.head?, isBlank c = false) :
    cs.dropWhile isBlank = cs := by
  cases cs with
  | nil => rfl
  | cons c cs => exact List.dropWhile_cons_of_neg (by rw [h c rfl]; decide)

/-- What has no blanks at its ends is left when blanks around it are removed. -/
theorem trim_of_ends {lead cs trail : List Char} (hlead : AllBlank lead) (htrail : AllBlank trail)
    (hstart : ∀ c ∈ cs.head?, isBlank c = false) (hend : ∀ c ∈ cs.getLast?, isBlank c = false) :
    trim (lead ++ (cs ++ trail)) = cs := by
  have hfront : trimStart (lead ++ (cs ++ trail)) = (cs ++ trail).dropWhile isBlank :=
    List.dropWhile_append_of_pos hlead
  rw [trim, hfront]
  cases cs with
  | nil =>
    rw [List.nil_append, List.dropWhile_eq_nil_iff.2 htrail]
    rfl
  | cons c cs =>
    have hkeep : (c :: cs ++ trail).dropWhile isBlank = c :: cs ++ trail :=
      dropWhile_isBlank_eq_self hstart
    rw [hkeep, trimEnd, List.reverse_append,
      List.dropWhile_append_of_pos fun d hd => htrail d (List.mem_reverse.1 hd),
      dropWhile_isBlank_eq_self (by rwa [List.head?_reverse]), List.reverse_reverse]

/-- What has no blanks is left when blanks around it are removed. -/
theorem trim_of_blanks {lead cs trail : List Char} (hlead : AllBlank lead)
    (htrail : AllBlank trail) (hcs : ∀ c ∈ cs, isBlank c = false) :
    trim (lead ++ (cs ++ trail)) = cs :=
  trim_of_ends hlead htrail (fun c hc => hcs c (List.mem_of_mem_head? hc))
    fun c hc => hcs c (List.mem_of_mem_getLast? hc)

end LoadTest.Text
