import LoadTest.Persistence.Location
import LoadTest.Proofs.Text.Delimiters
/-!
# Paths of snapshot files

A path is split at its slashes, and a text without a slash is one part of it. The name of a
snapshot file is made of one part of the path of the feature file, and so can be one part itself.
-/

namespace LoadTest.Persistence.Location

/-! ## Components -/

theorem splitSlash_ne_nil (path : List Char) : splitSlash path ≠ [] := by
  cases path with
  | nil => exact List.cons_ne_nil _ _
  | cons c path =>
    rw [splitSlash]
    split
    · exact List.cons_ne_nil _ _
    · split <;> exact List.cons_ne_nil _ _

/-- No component has a slash. -/
theorem slash_not_mem_of_mem_splitSlash {path part : List Char} (h : part ∈ splitSlash path) :
    '/' ∉ part := by
  induction path generalizing part with
  | nil =>
    rw [List.mem_singleton.1 h]
    exact List.not_mem_nil
  | cons c path ih =>
    rw [splitSlash] at h
    split at h
    · rcases List.mem_cons.1 h with rfl | h
      · exact List.not_mem_nil
      · exact ih h
    · next hc =>
      split at h
      · next hnil => exact absurd hnil (splitSlash_ne_nil path)
      · next first others hparts =>
        rw [hparts] at ih
        rcases List.mem_cons.1 h with rfl | h
        · exact List.not_mem_cons_of_ne_of_not_mem (Ne.symm hc) (ih List.mem_cons_self)
        · exact ih (List.mem_cons_of_mem _ h)

/-- A path without a slash is one component. -/
theorem splitSlash_of_not_mem {part : List Char} (h : '/' ∉ part) : splitSlash part = [part] := by
  induction part with
  | nil => rfl
  | cons c part ih =>
    obtain ⟨hc, hpart⟩ := List.ne_and_not_mem_of_not_mem_cons h
    rw [splitSlash, if_neg hc.symm, ih hpart]

/-- A slash ends a component. -/
theorem splitSlash_append (front behind : List Char) :
    splitSlash (front ++ '/' :: behind) = splitSlash front ++ splitSlash behind := by
  induction front with
  | nil => rfl
  | cons c front ih =>
    rw [List.cons_append, splitSlash, splitSlash, ih]
    split
    · rfl
    · cases hparts : splitSlash front with
      | nil => exact absurd hparts (splitSlash_ne_nil front)
      | cons first others => rfl

/-- What can be the name of something in a folder: a single component that leads neither back to
the folder nor up. -/
structure IsName (chars : List Char) : Prop where
  nonempty : chars ≠ []
  slash : '/' ∉ chars
  ne_here : chars ≠ ['.']
  ne_up : chars ≠ ['.', '.']

/-- What is longer than two dots and has no slash is a name. -/
theorem isName_of_length {chars : List Char} (hslash : '/' ∉ chars) (h : 2 < chars.length) :
    IsName chars := by
  refine ⟨?_, hslash, ?_, ?_⟩ <;>
    rintro rfl <;> simp at h

/-! ## Joined paths -/

/-- Different names in a folder have different paths. -/
theorem join_inj {path a b : String} : join path a = join path b ↔ a = b := by
  refine ⟨fun h => ?_, congrArg _⟩
  have hchars := congrArg String.toList h
  unfold join at hchars
  rw [← String.toList_inj]
  split at hchars <;> simpa [String.toList_append] using hchars

/-! ## The file of a feature -/

/-- A name is its own stem, or its stem is followed by the last dot of the name. -/
theorem stem_cases (name : List Char) :
    stem name = name ∨
      ∃ ending, '.' ∉ ending ∧ stem name ≠ [] ∧ name = stem name ++ '.' :: ending := by
  rcases Text.span_cases '.' name.reverse with
    ⟨-, hspan⟩ | ⟨behind, _ | ⟨c, before⟩, hlast, hname, hspan⟩
  · exact .inl (by rw [stem, hspan])
  · exact .inl (by rw [stem, hspan])
  · have hstem : stem name = (c :: before).reverse := by rw [stem, hspan]
    refine .inr ⟨behind.reverse, fun hdot => hlast (List.mem_reverse.1 hdot), by simp [hstem], ?_⟩
    rw [hstem, ← List.reverse_inj, hname]
    simp

/-- The stem of a name has none but its characters. -/
theorem mem_of_mem_stem {name : List Char} {c : Char} (h : c ∈ stem name) : c ∈ name := by
  rcases stem_cases name with hname | ⟨ending, -, -, hname⟩
  · exact hname ▸ h
  · rw [hname]
    exact List.mem_append_left _ h

/-- The last component of a path has no slash. -/
theorem slash_not_mem_of_lastName? {path part : List Char} (h : lastName? path = some part) :
    '/' ∉ part := by
  unfold lastName? at h
  split at h
  · next hlast =>
    split at h
    · cases h
    · cases h
      have hmem := List.mem_of_getLast? hlast
      exact slash_not_mem_of_mem_splitSlash (List.mem_filter.1 hmem).1
  · cases h

/-- The name of a snapshot file is the stem of a component, and an ending. -/
theorem toList_name_make (root feature : String) :
    (make root feature).name.toList =
      ((lastName? feature.toList).map stem).getD [] ++ ['.', 'j', 's', 'o', 'n'] := by
  have hending : ".json".toList = ['.', 'j', 's', 'o', 'n'] := by decide
  rw [make, String.toList_append, String.toList_ofList, hending]

/-- The name of a snapshot file has no slash. -/
theorem slash_not_mem_name_make (root feature : String) :
    '/' ∉ (make root feature).name.toList := by
  rw [toList_name_make, List.mem_append, not_or]
  refine ⟨?_, by decide⟩
  cases hlast : lastName? feature.toList with
  | none => exact List.not_mem_nil
  | some part => exact fun hmem => slash_not_mem_of_lastName? hlast (mem_of_mem_stem hmem)

/-- The name of a snapshot file is a name. -/
theorem isName_make (root feature : String) : IsName (make root feature).name.toList := by
  refine isName_of_length (slash_not_mem_name_make root feature) ?_
  rw [toList_name_make, List.length_append]
  simp

end LoadTest.Persistence.Location
