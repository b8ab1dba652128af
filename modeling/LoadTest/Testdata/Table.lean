import LoadTest.Response
import LoadTest.Testdata.Source
/-!
# Tables of variables

A table holds the sources of one scenario and lists the keys that it serves. A served key is
the name of a source, or the name of a source, a dot and an attribute. Serving all keys once
reads each source at most once, however many keys refer to it. Sources that were read stay
read when a later key fails.
-/

namespace LoadTest.Testdata

/-- The sources of a scenario and the keys served from them, each key once. -/
structure Table where
  sources : Dict Source := ∅
  keys : List String := []
  deriving Repr, Inhabited

/-- The part of a key before its last dot, and the part behind it. -/
def splitLastDot (key : String) : Option (String × String) :=
  match key.toList.reverse.span (· ≠ '.') with
  | (_, []) => none
  | (behind, _ :: before) =>
    some (String.ofList before.reverse, String.ofList behind.reverse)

namespace Table

/-- Serve a key, unless it is served already. -/
def expose (t : Table) (key : String) : Table :=
  if t.keys.contains key then t else { t with keys := t.keys ++ [key] }

/-- Set the source of a name that is served only through its attributes. -/
def declareHidden (t : Table) (name : String) (source : Source) : Table :=
  { t with sources := t.sources.insert name source }

/-- Set the source of a name and serve it. -/
def declare (t : Table) (name : String) (source : Source) : Table :=
  (t.declareHidden name source).expose name

end Table

/-- The source name and the attribute of a served key. A source of exactly that name comes
before a split at the last dot. -/
def resolve (sources : Dict Source) (key : String) : Option (String × Option String) :=
  if sources.contains key then some (key, none)
  else
    match splitLastDot key with
    | some (base, attr) =>
      if sources.contains base then some (base, some attr) else none
    | none => none

/-- The state of serving the keys of a table: the sources, what was read so far, and what
has been served from it. -/
structure Serving where
  sources : Dict Source
  values : Dict Json := ∅
  payload : Payload := {}
  deriving Repr

namespace Serving

/-- The value of a source in this serving, which is read if it was not before. -/
def valueOf (outside : String → Moment) (base : String) (source : Source) (s : Serving) :
    Except Failure (Json × Serving) :=
  match s.values.get? base with
  | some v => .ok (v, s)
  | none =>
    match source.read (outside base) with
    | .error e => .error e
    | .ok (v, source) =>
      .ok (v, { s with
        sources := s.sources.insert base source
        values := s.values.insert base v })

/-- Put a value under its key, and under the alias of the key. -/
def serve (aliases : Dict String) (key : String) (value : Json) (s : Serving) : Serving :=
  { s with payload :=
    { «variables» := s.payload.variables.insert key value
      aliases :=
        match aliases.get? key with
        | some a => s.payload.aliases.insert a value
        | none => s.payload.aliases } }

/-- The value of a key: that of its source, or an attribute of it. -/
def projected (key : String) (value : Json) : Option String → Except Failure Json
  | none => .ok value
  | some attr =>
    match project key value attr with
    | .ok v => .ok v
    | .error e => .error (.error e)

/-- Whether a source is known to lack an attribute. -/
def lacks (source : Source) : Option String → Bool
  | none => false
  | some attr => !source.attributes.isEmpty && !source.attributes.contains attr

/-- Serve one key. What happened before a failure stays. -/
def step (outside : String → Moment) (aliases : Dict String) (key : String) (s : Serving) :
    Serving × Option Failure :=
  match resolve s.sources key with
  | none => (s, some (.error (.materialize key "no variable source declared")))
  | some (base, attr) =>
    match s.sources.get? base with
    | none => (s, some (.error (.materialize base "no variable source declared")))
    | some source =>
      if source.isOnConsumer then (s, none)
      else if lacks source attr then
        (s, some (.error (.materialize key
          ("\"" ++ base ++ "\" has no attribute \"" ++ attr.getD "" ++ "\""))))
      else
        match valueOf outside base source s with
        | .error e => (s, some e)
        | .ok (value, s) =>
          match projected key value attr with
          | .error e => (s, some e)
          | .ok v => (serve aliases key v s, none)

/-- Serve keys in their order up to the first failure. -/
def run (outside : String → Moment) (aliases : Dict String) :
    List String → Serving → Serving × Option Failure
  | [], s => (s, none)
  | key :: keys, s =>
    match step outside aliases key s with
    | (s, none) => run outside aliases keys s
    | (s, some e) => (s, some e)

end Serving

/-- Serve every key of a table once. The table keeps the sources as they were left. -/
def Table.materialize (t : Table) (outside : String → Moment) (aliases : Dict String) :
    Except Failure Payload × Table :=
  match Serving.run outside aliases t.keys ⟨t.sources, ∅, {}⟩ with
  | (s, none) => (.ok s.payload, { t with sources := s.sources })
  | (s, some e) => (.error e, { t with sources := s.sources })

end LoadTest.Testdata
