import LoadTest.Text.Numeral
/-!
# Where the snapshot is kept

The snapshot of a feature lies in the `persistent` folder of the context root, in a file
named for the stem of the feature file. The stem is one component of a path, so the file
lies directly in that folder whatever the feature file is called.
-/

namespace LoadTest.Persistence

/-- Whether a file can have a name: one of at most 255 bytes without the character zero. -/
def isFileName (name : String) : Bool :=
  name.utf8ByteSize ≤ 255 && !name.toList.contains '\x00'

/-- A file of a folder. -/
structure Location where
  folder : String
  name : String
  deriving DecidableEq, Repr

namespace Location

/-- The parts of a path between slashes; empty ones count. -/
def splitSlash : List Char → List (List Char)
  | [] => [[]]
  | c :: cs =>
    if c = '/' then [] :: splitSlash cs
    else
      match splitSlash cs with
      | [] => [[c]]
      | part :: parts => (c :: part) :: parts

/-- The last component of a path. Empty parts and single dots are no components, and a path
that ends by going up names nothing. -/
def lastName? (path : List Char) : Option (List Char) :=
  match ((splitSlash path).filter fun part => part ≠ [] ∧ part ≠ ['.']).getLast? with
  | some part => if part = ['.', '.'] then none else some part
  | none => none

/-- A name without its part from the last dot on, unless it starts with that dot. -/
def stem (name : List Char) : List Char :=
  match name.reverse.span (· ≠ '.') with
  | (_, _ :: c :: before) => (c :: before).reverse
  | _ => name

/-- A path and one more component, with a slash between them where one is needed. -/
def join (path component : String) : String :=
  if path = "" ∨ path.toList.getLast? = some '/' then path ++ component
  else path ++ "/" ++ component

/-- The snapshot file of a feature. -/
def make (root feature : String) : Location :=
  ⟨join root "persistent",
    String.ofList (((lastName? feature.toList).map stem).getD []) ++ ".json"⟩

/-- The path of the file. -/
def path (l : Location) : String := join l.folder l.name

/-- Whether the folder can be made: every component of its path can be the name of a file,
and the path has less than 4096 bytes. -/
def isReachable (l : Location) : Bool :=
  l.folder.utf8ByteSize < 4096 &&
    (splitSlash l.folder.toList).all fun part => isFileName (String.ofList part)

/-- The name under which a new version is written before it replaces the file. The numbers
are those of the process and of the thread that write. -/
def temporaryName (l : Location) (process thread : Nat) : String :=
  String.ofList (stem l.name.toList) ++ ".json." ++ Text.decimal process ++ "." ++
    Text.decimal thread ++ ".tmp"

/-! ## The environment -/

/-- The variable that holds the feature file. -/
def featureVariable : String := "SWARMKEEP_FEATURE_FILE"

/-- The variable that holds the context root. -/
def rootVariable : String := "SWARMKEEP_CONTEXT_ROOT"

/-- The snapshot file that two variables of the environment name. Without both there is
none, and a line of the log says so. -/
def ofEnvironment (root feature : Option String) : Option Location × List String :=
  match root, feature with
  | some root, some feature => (some (make root feature), [])
  | _, _ =>
    (none, ["WARN " ++ featureVariable ++ " or " ++ rootVariable ++
      " not set, variable state will not be persisted"])

end Location

end LoadTest.Persistence
