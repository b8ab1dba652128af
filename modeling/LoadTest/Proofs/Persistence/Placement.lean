import LoadTest.Proofs.Persistence.Paths
import LoadTest.Proofs.Text.Numerals
/-!
# Snapshot files stay in their folder

A path is a row of components, and each leads on from where the ones before it lead. The path of a
snapshot file has two more than its root: the folder `persistent`, and one name. So the file lies
directly in that folder, whatever the feature file is called.
-/

namespace LoadTest.Persistence

/-! ## Components -/

/-- A component of a path. -/
inductive Component where
  /-- The folder that holds all others, where an absolute path starts. -/
  | root
  /-- A single dot at the start of a path. -/
  | here
  /-- Two dots, which lead one folder up. -/
  | up
  /-- Something in the folder that the path has come to. -/
  | name (chars : List Char)
  deriving DecidableEq, Repr

namespace Component

open Location (IsName)

/-- The component that a part of a path between slashes is. An empty part is none, and neither is
a single dot. -/
def ofPart? (part : List Char) : Option Component :=
  if part = [] ∨ part = ['.'] then none
  else if part = ['.', '.'] then some up
  else some (name part)

/-- The component that stands in front of the parts of a path. The root does if there is a slash in
front of the path, and a single dot does if it is the first part. -/
def start? : List (List Char) → Option Component
  | [] :: _ :: _ => some root
  | ['.'] :: _ => some here
  | _ => none

/-- The components that some parts are. -/
def ofParts (parts : List (List Char)) : List Component :=
  (start? parts).toList ++ parts.filterMap ofPart?

/-- The characters of a name. -/
def name? : Component → Option (List Char)
  | name chars => some chars
  | _ => none

theorem ofPart?_name {chars : List Char} (h : IsName chars) :
    ofPart? chars = some (name chars) := by
  rw [ofPart?, if_neg (not_or.2 ⟨h.nonempty, h.ne_here⟩), if_neg h.ne_up]

theorem start?_cons (part : List Char) (parts : List (List Char)) :
    start? (part :: parts) =
      if part = [] then if parts = [] then none else some root
      else if part = ['.'] then some here else none := by
  cases part with
  | nil => cases parts <;> rfl
  | cons c part =>
    rw [if_neg (List.cons_ne_nil _ _)]
    split
    · next hhere =>
      cases hhere
      rfl
    · next hhere =>
      unfold start?
      split
      · next heq => cases heq
      · next heq =>
        cases heq
        exact absurd rfl hhere
      · rfl

/-- A name in place of nothing at the end of a path is one more component. -/
theorem ofParts_append_name {parts : List (List Char)} (h : parts ≠ []) {chars : List Char}
    (hname : IsName chars) :
    ofParts (parts ++ [chars]) = ofParts (parts ++ [[]]) ++ [name chars] := by
  have hstart : start? (parts ++ [chars]) = start? (parts ++ [[]]) := by
    obtain ⟨part, parts, rfl⟩ := List.exists_cons_of_ne_nil h
    simp [start?_cons]
  have hnothing : [[]].filterMap ofPart? = [] := rfl
  rw [ofParts, ofParts, hstart, List.filterMap_append, List.filterMap_append, hnothing,
    List.append_nil, List.append_assoc]
  simp [ofPart?_name hname]

/-- Nothing at the end of a path is no component. -/
theorem ofParts_append_nil {parts : List (List Char)} (h : parts ≠ []) (hempty : parts ≠ [[]]) :
    ofParts (parts ++ [[]]) = ofParts parts := by
  have hstart : start? (parts ++ [[]]) = start? parts := by
    obtain ⟨part, parts, rfl⟩ := List.exists_cons_of_ne_nil h
    rw [List.cons_append, start?_cons, start?_cons]
    split
    · next hpart => simp_all
    · rfl
  have hnothing : [[]].filterMap ofPart? = [] := rfl
  rw [ofParts, ofParts, hstart, List.filterMap_append, hnothing, List.append_nil]

/-- The parts that count are names, or lead up. -/
theorem filterMap_ofPart? (parts : List (List Char)) :
    parts.filterMap ofPart? = (parts.filter fun part => part ≠ [] ∧ part ≠ ['.']).map fun part =>
      if part = ['.', '.'] then up else name part := by
  induction parts with
  | nil => rfl
  | cons part parts ih =>
    rw [List.filterMap_cons, List.filter_cons, ih, ofPart?]
    by_cases hnothing : part = [] ∨ part = ['.']
    · have hdrop : ¬ (part ≠ [] ∧ part ≠ ['.']) := by tauto
      simp [hnothing, hdrop]
    · have hkeep : part ≠ [] ∧ part ≠ ['.'] := not_or.1 hnothing
      by_cases hup : part = ['.', '.'] <;> simp [hkeep, hup]

/-- What stands in front of the parts of a path is no name. -/
theorem name?_start? (parts : List (List Char)) :
    (start? parts).toList.getLast?.bind name? = none := by
  unfold start?
  split <;> rfl

end Component

namespace Location

/-- The components of a path. -/
def components (path : List Char) : List Component := Component.ofParts (splitSlash path)

/-- A path leads to what has a name in the folder that another path leads to. -/
def IsChild (folder path name : String) : Prop :=
  components path.toList = components folder.toList ++ [.name name.toList]

theorem splitSlash_eq_empty {path : List Char} (h : splitSlash path = [[]]) : path = [] := by
  cases path with
  | nil => rfl
  | cons c path =>
    rw [splitSlash] at h
    split at h
    · exact absurd (List.cons.inj h).2 (splitSlash_ne_nil path)
    · split at h <;> simp at h

/-- A slash at the end of a path does not lead anywhere. -/
theorem components_append_slash {path : List Char} (h : path ≠ []) :
    components (path ++ ['/']) = components path := by
  rw [components, splitSlash_append]
  exact Component.ofParts_append_nil (splitSlash_ne_nil path) fun hsplit =>
    h (splitSlash_eq_empty hsplit)

/-- A name behind a slash is one more component. -/
theorem components_append_name (path : List Char) {name : List Char} (h : IsName name) :
    components (path ++ '/' :: name) = components (path ++ ['/']) ++ [.name name] := by
  rw [components, components, splitSlash_append, splitSlash_append, splitSlash_of_not_mem h.slash]
  exact Component.ofParts_append_name (splitSlash_ne_nil path) h

theorem components_name {name : List Char} (h : IsName name) : components name = [.name name] := by
  simp [components, splitSlash_of_not_mem h.slash, Component.ofParts, Component.start?_cons,
    h.nonempty, h.ne_here, Component.ofPart?_name h]

/-- A name that is joined to a path is one more component. -/
theorem isChild_join (folder : String) {name : String} (h : IsName name.toList) :
    IsChild folder (join folder name) name := by
  unfold IsChild join
  split
  · next hfolder =>
    rcases hfolder with rfl | hslash
    · have hempty : components "".toList = [] := rfl
      rw [String.empty_append, hempty, components_name h, List.nil_append]
    · obtain ⟨front, hfront⟩ := List.getLast?_eq_some_iff.1 hslash
      rw [String.toList_append, hfront, List.append_assoc]
      exact components_append_name front h
  · next hfolder =>
    obtain ⟨hempty, -⟩ := not_or.1 hfolder
    have hslash : "/".toList = ['/'] := by decide
    rw [String.toList_append, String.toList_append, hslash, List.append_assoc,
      List.singleton_append, components_append_name _ h,
      components_append_slash (by simpa using hempty)]

/-- Go on along another path. One that starts with a slash starts over. -/
def follow (path next : String) : String :=
  if next.toList.head? = some '/' then next else join path next

/-- A path without a slash is joined. -/
theorem follow_eq_join (path : String) {next : String} (h : '/' ∉ next.toList) :
    follow path next = join path next :=
  if_neg fun hhead => h (List.mem_of_mem_head? hhead)

/-! ## The name of the file -/

/-- What a path leads to has a name if its last component is one. -/
theorem lastName?_eq (path : List Char) :
    lastName? path = (components path).getLast?.bind Component.name? := by
  rw [lastName?, components, Component.ofParts, Component.filterMap_ofPart?, List.getLast?_append,
    List.getLast?_map]
  cases ((splitSlash path).filter fun part => part ≠ [] ∧ part ≠ ['.']).getLast? with
  | none => exact (Component.name?_start? _).symm
  | some part => by_cases h : part = ['.', '.'] <;> simp [h, Component.name?]

/-- The last component of a path is the name that it leads to in a folder. -/
theorem lastName?_of_isChild {folder path name : String} (h : IsChild folder path name) :
    lastName? path.toList = some name.toList := by
  unfold IsChild at h
  rw [lastName?_eq, h, List.getLast?_concat]
  rfl

/-- What a name says in front of its ending. The ending starts at the last dot, but not at the
first character. -/
inductive IsStem : List Char → List Char → Prop where
  | cut {front ending : List Char} (hfront : front ≠ []) (hending : '.' ∉ ending) :
    IsStem (front ++ '.' :: ending) front
  | whole {name : List Char} (h : '.' ∉ name.tail) : IsStem name name

theorem stem_append {front ending : List Char} (hfront : front ≠ []) (hending : '.' ∉ ending) :
    stem (front ++ '.' :: ending) = front := by
  obtain ⟨c, before, hback⟩ := List.exists_cons_of_ne_nil (List.reverse_ne_nil_iff.2 hfront)
  have hname : (front ++ '.' :: ending).reverse = ending.reverse ++ '.' :: c :: before := by
    simp [hback]
  rw [stem, hname, Text.span_append fun hdot => hending (List.mem_reverse.1 hdot)]
  dsimp only
  rw [← hback, List.reverse_reverse]

theorem stem_eq_self {name : List Char} (h : '.' ∉ name.tail) : stem name = name := by
  rcases stem_cases name with hname | ⟨ending, -, hfront, hname⟩
  · exact hname
  · obtain ⟨c, front, hcons⟩ := List.exists_cons_of_ne_nil hfront
    rw [hname, hcons] at h
    simp at h

/-- A name with a dot behind its first character has a last one. -/
theorem exists_last_dot {name : List Char} (h : '.' ∈ name.tail) :
    ∃ front ending, front ≠ [] ∧ '.' ∉ ending ∧ name = front ++ '.' :: ending := by
  cases name with
  | nil => cases h
  | cons c rest =>
    obtain ⟨behind, before, hback, hlast⟩ := List.eq_append_cons_of_mem (List.mem_reverse.2 h)
    refine ⟨c :: before.reverse, behind.reverse, List.cons_ne_nil _ _,
      fun hdot => hlast (List.mem_reverse.1 hdot), ?_⟩
    rw [List.tail_cons, List.reverse_eq_iff] at hback
    simp [hback]

/-- Each name has one stem. -/
theorem isStem_iff {name front : List Char} : IsStem name front ↔ stem name = front := by
  constructor
  · rintro (⟨hfront, hending⟩ | htail)
    · exact stem_append hfront hending
    · exact stem_eq_self htail
  · rintro rfl
    by_cases hdot : '.' ∈ name.tail
    · obtain ⟨front, ending, hfront, hending, rfl⟩ := exists_last_dot hdot
      rw [stem_append hfront hending]
      exact .cut hfront hending
    · rw [stem_eq_self hdot]
      exact .whole hdot

/-- What the path of a feature file calls the feature: the stem of the last component if that is a
name, and otherwise nothing. -/
inductive Calls (path : List Char) : List Char → Prop where
  | named {name front : List Char} (hlast : (components path).getLast? = some (.name name))
    (h : IsStem name front) : Calls path front
  | unnamed (h : ∀ name, (components path).getLast? ≠ some (.name name)) : Calls path []

/-- A path calls its feature one thing only. -/
theorem calls_iff {path front : List Char} :
    Calls path front ↔ ((lastName? path).map stem).getD [] = front := by
  rw [lastName?_eq]
  constructor
  · rintro (⟨hlast, h⟩ | h)
    · rw [hlast]
      exact isStem_iff.1 h
    · cases hlast : (components path).getLast? with
      | none => rfl
      | some last =>
        cases last with
        | name name => exact absurd hlast (h name)
        | _ => rfl
  · rintro rfl
    cases hlast : (components path).getLast? with
    | none => exact .unnamed (by simp [hlast])
    | some last =>
      cases last with
      | name name => exact .named hlast (isStem_iff.2 rfl)
      | _ => exact .unnamed (by simp [hlast])

/-! ## The file of a feature -/

theorem isName_persistent : IsName "persistent".toList := by
  constructor <;> decide

/-- The numbers in the name of a temporary file have no slash. -/
theorem slash_not_mem_decimal (z : ℤ) : '/' ∉ (Text.decimal z).toList := by
  rw [Text.decimal, String.toList_ofList]
  intro hslash
  rcases (Text.isNumeral_integerChars z).mem hslash with h | h | h <;> exact absurd h (by decide)

/-- The name of a temporary file is a name. -/
theorem isName_temporaryName (root feature : String) (process thread : ℕ) :
    IsName ((make root feature).temporaryName process thread).toList := by
  have hstem : '/' ∉ stem (make root feature).name.toList :=
    fun hslash => slash_not_mem_name_make root feature (mem_of_mem_stem hslash)
  have hjson : '/' ∉ ".json.".toList := by decide
  have hdot : '/' ∉ ".".toList := by decide
  have htmp : '/' ∉ ".tmp".toList := by decide
  have hlong : ".json.".toList.length = 6 := by decide
  simp only [temporaryName, String.toList_append, String.toList_ofList]
  refine isName_of_length ?_ ?_
  · simp only [List.mem_append, hstem, hjson, hdot, htmp, slash_not_mem_decimal, or_self,
      not_false_eq_true]
  · simp only [List.length_append, hlong]
    omega

/-- The last component of the path of a snapshot file is the name of the file. -/
theorem lastName?_path_make (root feature : String) :
    lastName? (make root feature).path.toList = some (make root feature).name.toList :=
  lastName?_of_isChild (isChild_join _ (isName_make root feature))

/-- A location is the place of a feature under a root. -/
structure IsPlace (l : Location) (root feature : String) : Prop where
  /-- The folder is what the root leads on to along `persistent`, and the path goes on from it. -/
  folder : l.folder = follow root "persistent"
  path : l.path = follow l.folder l.name
  /-- The name is what the feature is called, and an ending. -/
  called : ∃ front, Calls feature.toList front ∧ l.name = String.ofList front ++ ".json"
  name : IsName l.name.toList
  /-- From the root it is one component to the folder, and from there one to the file. -/
  isChild_folder : IsChild root l.folder "persistent"
  isChild_path : IsChild l.folder l.path l.name
  /-- So it is to the files under whose names new versions are written. -/
  temporary : ∀ process thread, let other := l.temporaryName process thread
    IsName other.toList ∧ IsChild l.folder (join l.folder other) other

/-- Whatever the root and the feature file are, the snapshot file lies directly in the folder
`persistent` of the root, under a single name with the ending `.json` that has no slash and leads
neither back to the folder nor up. An environment that names the root and the feature file names
this file. -/
theorem make_stays_in_folder (root feature : String) :
    (make root feature).IsPlace root feature ∧
      (ofEnvironment (some root) (some feature)).1 = some (make root feature) := by
  have hname := isName_make root feature
  refine ⟨?_, rfl⟩
  constructor
  case folder => exact (follow_eq_join root isName_persistent.slash).symm
  case path => exact (follow_eq_join _ hname.slash).symm
  case called => exact ⟨_, calls_iff.2 rfl, rfl⟩
  case name => exact hname
  case isChild_folder => exact isChild_join root isName_persistent
  case isChild_path => exact isChild_join _ hname
  case temporary =>
    intro process thread
    have hother := isName_temporaryName root feature process thread
    exact ⟨hother, isChild_join _ hother⟩

/-- The root is kept as it is, and of the feature file only the stem of its name. -/
example : (make "ctx/.." "/features/../..hidden.feature/./").path =
    "ctx/../persistent/..hidden.json" := by decide

end Location

end LoadTest.Persistence
