import LoadTest.Error
import LoadTest.Json.Printer
import LoadTest.Json.Shape
/-!
# Snapshots

What a run leaves behind for the next one: for each scenario the saved values of its
persisting sources.
-/

namespace LoadTest.Testdata

open Json

/-- Saved values by scenario and name of the source. -/
abbrev Snapshot := Dict (Dict Json)

namespace Snapshot

/-- Read a snapshot from a value. -/
def ofJson : Conversion Snapshot := Json.dictOf (Json.dictOf asIs)

/-- A snapshot as a value. -/
def toJson (s : Snapshot) : Json := .ofDict (s.map Json.ofDict)

/-- The shape of a snapshot file. -/
def shape : Shape := .dictOf (.dictOf .any)

/-- Read a snapshot from the text of a file. -/
def ofText (text : String) : Except TextFault Snapshot :=
  decodeText shape (fun v => (ofJson v).toOption) (Text.symbols text)

/-- The text of a snapshot file. -/
def toText (s : Snapshot) : String := s.toJson.indented

end Snapshot

end LoadTest.Testdata
