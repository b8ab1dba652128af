import LoadTest.Persistence.Folder
import LoadTest.Persistence.Location
import LoadTest.Testdata.Snapshot
/-!
# Persisting snapshots

A run writes its snapshot at most once, and never an empty one. A write that failed has not
happened, and may be tried again. The text of an input or output error is that of the
operating system, which is not told here; the path is.
-/

namespace LoadTest.Persistence

open LoadTest.Testdata

/-- Where a run keeps its snapshot, if anywhere, and whether it has been written. -/
structure Persister where
  location : Option Location := none
  hasPersisted : Bool := false
  deriving DecidableEq, Repr

/-- What the outside world has to do with a write: the numbers of the process and of the
thread, and the step that fails, if one does. -/
structure Attempt where
  process : Nat := 1
  thread : Nat := 1
  fault : Option Fault := none
  deriving DecidableEq, Repr

/-- The error of a step that failed. -/
def Fault.error (l : Location) (a : Attempt) : Fault → Error
  | .makeFolder => .io "" (some l.folder)
  | .rename => .io "" (some l.path)
  | _ => .io "" (some (Location.join l.folder (l.temporaryName a.process a.thread)))

namespace Persister

/-- The snapshot that an earlier run left behind, if there is one. -/
def load (p : Persister) (folder : Folder) : Except Error (Option Snapshot) :=
  match p.location with
  | none => .ok none
  | some l =>
    match folder.read? l.name with
    | none => .ok none
    | some bytes =>
      match String.fromUTF8? bytes with
      | none => .error (.io "" (some l.path))
      | some text =>
        match Snapshot.ofText text with
        | .ok s => .ok (some s)
        | .error f => .error (.ofFault f)

/-- Write a snapshot, unless it is empty, was written before or has no place. The result
says whether it was written. -/
def persist (p : Persister) (folder : Folder) (a : Attempt) (s : Snapshot) :
    Except Error Bool × Persister × Folder :=
  if p.hasPersisted || s.isEmpty then (.ok false, p, folder)
  else
    match p.location with
    | none => (.ok false, p, folder)
    | some l =>
      match folder.replace a.fault (l.temporaryName a.process a.thread) l.name
        s.toText.toUTF8 with
      | (.ok (), folder) => (.ok true, { p with hasPersisted := true }, folder)
      | (.error e, folder) => (.error (e.error l a), p, folder)

end Persister

end LoadTest.Persistence
