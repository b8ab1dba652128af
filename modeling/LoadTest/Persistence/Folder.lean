import LoadTest.Dict
import LoadTest.Persistence.Location
/-!
# The folder of snapshots

A folder as far as a snapshot sees it: it may be missing, and perhaps it cannot be made;
something else may be there in its place; or it holds files. A file is replaced in steps, each
of which may fail; until the last one succeeds the file keeps its contents, and then it has all
of the new ones. A step that needs a name which no file can have always fails.
-/

namespace LoadTest.Persistence

/-- What stands where the folder should be. -/
inductive Folder where
  /-- There is nothing yet. -/
  | missing
  /-- There is nothing, and no folder can be made there. -/
  | unreachable
  /-- Something that is no folder is there. -/
  | blocked
  /-- The folder is there and holds files. -/
  | present (files : Dict ByteArray)

/-- The step of replacing a file that fails. -/
inductive Fault where
  /-- The folder cannot be made. -/
  | makeFolder
  /-- The temporary file cannot be opened. -/
  | openTemporary
  /-- Only so many bytes are written. -/
  | write (written : Nat)
  /-- What was written cannot be flushed. -/
  | flush
  /-- What was written cannot be brought to the disk. -/
  | synchronize
  /-- The temporary file cannot take the place of the file. -/
  | rename
  deriving DecidableEq, Repr

namespace Folder

/-- The folder of a location before anything was written. -/
def initial (l : Location) : Folder := if l.isReachable then missing else unreachable

/-- The contents of a file. -/
def read? (f : Folder) (name : String) : Option ByteArray :=
  match f with
  | present files => files.get? name
  | _ => none

/-- The names of the files, ascending. -/
def names : Folder → List String
  | present files => files.keys
  | _ => []

/-- The files of the folder, which is made if it is missing. What is there and is no folder is
found out only when the temporary file is opened. -/
def make (fault : Option Fault) : Folder → Except Fault (Dict ByteArray)
  | missing => if fault = some .makeFolder then .error .makeFolder else .ok ∅
  | unreachable => .error .makeFolder
  | blocked => .error .openTemporary
  | present files => .ok files

/-- Bring contents into a temporary file. -/
def writeTemporary (fault : Option Fault) (temporary : String) (contents : ByteArray)
    (files : Dict ByteArray) : Except Fault Unit × Dict ByteArray :=
  match if isFileName temporary then fault else some .openTemporary with
  | some .openTemporary => (.error .openTemporary, files)
  | some (.write n) => (.error (.write n), files.insert temporary (contents.extract 0 n))
  | some .flush => (.error .flush, files.insert temporary contents)
  | some .synchronize => (.error .synchronize, files.insert temporary contents)
  | _ => (.ok (), files.insert temporary contents)

/-- Give a file new contents by way of a temporary file. -/
def replace (f : Folder) (fault : Option Fault) (temporary name : String)
    (contents : ByteArray) : Except Fault Unit × Folder :=
  match f.make fault with
  | .error e => (.error e, f)
  | .ok files =>
    match writeTemporary fault temporary contents files with
    | (.error e, files) => (.error e, present files)
    | (.ok (), files) =>
      if fault = some .rename || !isFileName name then (.error .rename, present files)
      else (.ok (), present ((files.erase temporary).insert name contents))

/-- Set the contents of a file from outside, where that is possible. -/
def overwrite (f : Folder) (name : String) (contents : ByteArray) : Folder :=
  if isFileName name then
    match f with
    | missing => present ((∅ : Dict ByteArray).insert name contents)
    | unreachable => unreachable
    | blocked => blocked
    | present files => present (files.insert name contents)
  else f

@[simp] theorem read?_missing (name : String) : missing.read? name = none := rfl

@[simp] theorem read?_unreachable (name : String) : unreachable.read? name = none := rfl

@[simp] theorem read?_blocked (name : String) : blocked.read? name = none := rfl

@[simp] theorem read?_present (files : Dict ByteArray) (name : String) :
    (present files).read? name = files.get? name := rfl

end Folder

end LoadTest.Persistence
