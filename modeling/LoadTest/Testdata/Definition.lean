import LoadTest.Json.Outline
import LoadTest.Testdata.Producer
/-!
# Definitions of test data

A definition lists scenarios with their variables, and says for each variable where its
values come from. A valid definition has non-empty scenario names, each once, no alias
`variables`, and a key for every variable. Building one gives a table to every scenario that
declares variables or exposes keys; a persisting counter continues from the snapshot.
-/

namespace LoadTest.Testdata

open Json

/-! ## Configuration of sources -/

/-- Where a definition says that the values of a variable come from. -/
inductive SourceConfig where
  | literal (value : Json)
  | integerIncrementer (start step : Int64) (persist : Bool)
  | rowReader (rows : List (Dict Json)) (repeats : Bool)
  | randomInteger (min max : Int64)
  | timestamp (format : Option String) (offsetSeconds : Int64)
  | onConsumer
  deriving Repr

namespace SourceConfig

/-- The types of sources and their fields, in their order. -/
def types : List (String × List String) :=
  [("literal", ["value"]), ("integer_incrementer", ["start", "step", "persist"]),
    ("row_reader", ["rows", "repeat"]), ("random_integer", ["min", "max"]),
    ("timestamp", ["format", "offset_seconds"]), ("on_consumer", [])]

/-- The fields of a type of sources, if it is a known one. -/
def fieldsOf (type : String) : Option (List String) :=
  (types.find? (·.1 = type)).map (·.2)

/-- The type of a source, from the tag. -/
def asType : Conversion String
  | .str s =>
    if (fieldsOf s).isSome then .ok s else .error (.unknownVariant s (types.map (·.1)))
  | v => .error (.wrongType v "variant identifier")

/-- Read the fields of a source of a type from the members of an object. -/
def ofMembers (type : String) (members : List (String × Json)) :
    Except Mismatch SourceConfig :=
  match type with
  | "literal" => do
    let value ← field? members "value" asIs
    let value ← required "value" value
    return .literal value
  | "integer_incrementer" => do
    let persist ← field? members "persist" asBool
    let start ← field? members "start" asInt64
    let step ← field? members "step" asInt64
    return .integerIncrementer (start.getD 1) (step.getD 1) (persist.getD false)
  | "row_reader" => do
    let repeats ← field? members "repeat" asBool
    let rows ← field? members "rows" (Json.listOf (Json.dictOf asIs))
    let rows ← required "rows" rows
    return .rowReader rows (repeats.getD false)
  | "random_integer" => do
    let max ← field? members "max" asInt64
    let min ← field? members "min" asInt64
    let min ← required "min" min
    let max ← required "max" max
    return .randomInteger min max
  | "timestamp" => do
    let format ← field? members "format" (Json.optional asString)
    let offset ← field? members "offset_seconds" asInt64
    return .timestamp format.join (offset.getD 0)
  | _ => return .onConsumer

/-- More items than a source of some type has fields are refused. -/
def atMost (size : Nat) (items : List Json) : Except Mismatch Unit :=
  if items.length ≤ size then .ok ()
  else
    .error (.wrongLength items.length
      (Text.decimal size ++ (if size = 1 then " element" else " elements") ++ " in sequence"))

/-- Read the fields of a source of a type from the items behind the tag of an array. -/
def ofItems (type : String) (items : List Json) : Except Mismatch SourceConfig :=
  match type with
  | "literal" => do
    let value ← item? items 0 asIs
    let value ← requiredItem "struct variant SourceConfig::Literal" 1 0 value
    atMost 1 items
    return .literal value
  | "integer_incrementer" => do
    let start ← item? items 0 asInt64
    let step ← item? items 1 asInt64
    let persist ← item? items 2 asBool
    atMost 3 items
    return .integerIncrementer (start.getD 1) (step.getD 1) (persist.getD false)
  | "row_reader" => do
    let rows ← item? items 0 (Json.listOf (Json.dictOf asIs))
    let rows ← requiredItem "struct variant SourceConfig::RowReader" 2 0 rows
    let repeats ← item? items 1 asBool
    atMost 2 items
    return .rowReader rows (repeats.getD false)
  | "random_integer" => do
    let min ← item? items 0 asInt64
    let min ← requiredItem "struct variant SourceConfig::RandomInteger" 2 0 min
    let max ← item? items 1 asInt64
    let max ← requiredItem "struct variant SourceConfig::RandomInteger" 2 1 max
    atMost 2 items
    return .randomInteger min max
  | "timestamp" => do
    let format ← item? items 0 (Json.optional asString)
    let offset ← item? items 1 asInt64
    atMost 2 items
    return .timestamp format.join (offset.getD 0)
  | _ => do
    atMost 0 items
    return .onConsumer

/-- Read the configuration of a source: an object with a tag, or an array that starts with
the tag. -/
def ofJson : Conversion SourceConfig
  | .obj members => do
    let type ← field? members "type" asType
    let type ← required "type" type
    ofMembers type members
  | .arr [] => .error (.missingField "type")
  | .arr (tag :: items) => do
    let type ← asType tag
    ofItems type items
  | v => .error (.wrongType v "internally tagged enum SourceConfig")

/-- The configuration of a source as a value, with all fields. -/
def toJson : SourceConfig → Json
  | literal value => object [("type", .str "literal"), ("value", value)]
  | integerIncrementer start step persist =>
    object [("type", .str "integer_incrementer"), ("start", ofInt64 start),
      ("step", ofInt64 step), ("persist", .bool persist)]
  | rowReader rows repeats =>
    object [("type", .str "row_reader"), ("rows", .arr (rows.map ofDict)),
      ("repeat", .bool repeats)]
  | randomInteger min max =>
    object [("type", .str "random_integer"), ("min", ofInt64 min), ("max", ofInt64 max)]
  | timestamp format offset =>
    object [("type", .str "timestamp"), ("format", ofOption .str format),
      ("offset_seconds", ofInt64 offset)]
  | onConsumer => object [("type", .str "on_consumer")]

/-- The shape of a source in a definition file. -/
def shape : Shape :=
  .tagged ⟨"type", fieldsOf, fun v => (ofJson v).toBool⟩

/-- The text of a truth value. -/
def boolText (b : Bool) : String := if b then "true" else "false"

/-- Some named parts between braces. -/
def braced (name : String) (parts : List (String × String)) : String :=
  name ++ " \x7b " ++ ", ".intercalate (parts.map fun p => p.1 ++ ": " ++ p.2) ++ " \x7d"

/-- How the configuration of a source is shown in a message. -/
def outline : SourceConfig → String
  | literal value => braced "Literal" [("value", value.outline)]
  | integerIncrementer start step persist =>
    braced "IntegerIncrementer"
      [("start", Text.decimal start.toInt), ("step", Text.decimal step.toInt),
        ("persist", boolText persist)]
  | rowReader rows repeats =>
    braced "RowReader"
      [("rows", "[" ++ ", ".intercalate (rows.map outlineRow) ++ "]"),
        ("repeat", boolText repeats)]
  | randomInteger min max =>
    braced "RandomInteger"
      [("min", Text.decimal min.toInt), ("max", Text.decimal max.toInt)]
  | timestamp format offset =>
    let format := match format with
      | none => "None"
      | some f => "Some(" ++ Text.quoted f ++ ")"
    braced "Timestamp" [("format", format), ("offset_seconds", Text.decimal offset.toInt)]
  | onConsumer => "OnConsumer"

/-- Make the source of a configuration. A persisting counter continues from a saved text. -/
def build (saved : Option Json) : SourceConfig → Except Failure Source
  | literal value => .ok (.literal value)
  | integerIncrementer start step false => .ok (.counter ⟨start, step, false⟩)
  | integerIncrementer start step true =>
    match saved.bind Json.string? with
    | none => .ok (.counter ⟨start, step, true⟩)
    | some text =>
      match Counter.restore ⟨start, step, true⟩ text with
      | .ok c => .ok (.counter c)
      | .error e => .error (.error e)
  | rowReader rows repeats => .ok (.rows ⟨rows, 0, repeats⟩)
  | randomInteger min max =>
    match IntRange.make min max with
    | .ok r => .ok (.random r)
    | .error e => .error (.error e)
  | timestamp format offset =>
    match Clock.make format offset with
    | .ok c => .ok (.clock c)
    | .error c => .error (.crash c)
  | onConsumer => .ok .onConsumer

end SourceConfig

/-! ## Variables and scenarios -/

/-- A variable of a scenario. A hidden one is not served by itself. -/
structure VariableConfig where
  key : String
  hidden : Bool := false
  source : SourceConfig
  deriving Repr

namespace VariableConfig

/-- Read a variable from an object or from the list of its fields. -/
def ofJson : Conversion VariableConfig
  | .obj members => do
    let hidden ← field? members "hidden" asBool
    let key ← field? members "key" asString
    let source ← field? members "source" SourceConfig.ofJson
    let key ← required "key" key
    let source ← required "source" source
    return ⟨key, hidden.getD false, source⟩
  | .arr items => do
    let key ← item? items 0 asString
    let key ← requiredItem "struct VariableConfig" 3 0 key
    let hidden ← item? items 1 asBool
    let source ← item? items 2 SourceConfig.ofJson
    let source ← requiredItem "struct VariableConfig" 3 2 source
    Json.atMost 3 items
    return ⟨key, hidden.getD false, source⟩
  | v => .error (.wrongType v "struct VariableConfig")

/-- A variable as a value. -/
def toJson (v : VariableConfig) : Json :=
  object [("key", .str v.key), ("hidden", .bool v.hidden), ("source", v.source.toJson)]

/-- The shape of a variable in a definition file. -/
def shape : Shape :=
  .record [⟨"key", .text, true⟩, ⟨"hidden", .boolean, false⟩,
    ⟨"source", SourceConfig.shape, true⟩]

end VariableConfig

/-- A scenario of a definition. -/
structure ScenarioConfig where
  identifier : String
  iterations : UInt64 := 0
  aliases : Dict String := ∅
  «variables» : List VariableConfig := []
  expose : List String := []
  deriving Repr

namespace ScenarioConfig

/-- Read a scenario from an object or from the list of its fields. -/
def ofJson : Conversion ScenarioConfig
  | .obj members => do
    let aliases ← field? members "aliases" (Json.dictOf asString)
    let expose ← field? members "expose" (Json.listOf asString)
    let identifier ← field? members "identifier" asString
    let iterations ← field? members "iterations" asUInt64
    let declared ← field? members "variables" (Json.listOf VariableConfig.ofJson)
    let identifier ← required "identifier" identifier
    return ⟨identifier, iterations.getD 0, aliases.getD ∅, declared.getD [], expose.getD []⟩
  | .arr items => do
    let identifier ← item? items 0 asString
    let identifier ← requiredItem "struct ScenarioConfig" 5 0 identifier
    let iterations ← item? items 1 asUInt64
    let aliases ← item? items 2 (Json.dictOf asString)
    let declared ← item? items 3 (Json.listOf VariableConfig.ofJson)
    let expose ← item? items 4 (Json.listOf asString)
    Json.atMost 5 items
    return ⟨identifier, iterations.getD 0, aliases.getD ∅, declared.getD [], expose.getD []⟩
  | v => .error (.wrongType v "struct ScenarioConfig")

/-- A scenario as a value. -/
def toJson (s : ScenarioConfig) : Json :=
  object [("identifier", .str s.identifier), ("iterations", ofUInt64 s.iterations),
    ("aliases", ofDict (s.aliases.map .str)),
    ("variables", .arr (s.variables.map VariableConfig.toJson)),
    ("expose", .arr (s.expose.map .str))]

/-- The shape of a scenario in a definition file. -/
def shape : Shape :=
  .record [⟨"identifier", .text, true⟩, ⟨"iterations", .uint64, false⟩,
    ⟨"aliases", .dictOf .text, false⟩, ⟨"variables", .listOf VariableConfig.shape, false⟩,
    ⟨"expose", .listOf .text, false⟩]

/-- What is kept of a scenario beside its table. -/
def toScenario (s : ScenarioConfig) : Scenario := ⟨s.identifier, s.iterations, s.aliases⟩

/-- Whether a scenario has a table. -/
def hasTable (s : ScenarioConfig) : Bool := !s.variables.isEmpty || !s.expose.isEmpty

/-- Declare variables one after another. -/
def declareAll (saved : Option (Dict Json)) :
    List VariableConfig → Table → Except Failure Table
  | [], t => .ok t
  | v :: vs, t =>
    match v.source.build (saved.bind (·.get? v.key)) with
    | .error e => .error e
    | .ok source =>
      declareAll saved vs
        (if v.hidden then t.declareHidden v.key source else t.declare v.key source)

/-- The table of a scenario: its variables, then the keys that it exposes. -/
def buildTable (s : ScenarioConfig) (saved : Option (Dict Json)) : Except Failure Table :=
  match declareAll saved s.variables {} with
  | .error e => .error e
  | .ok t => .ok (s.expose.foldl Table.expose t)

/-- Check a scenario by itself. -/
def validate (s : ScenarioConfig) : Except Error Unit :=
  match s.aliases.entries.find? (·.2 = "variables") with
  | some (key, _) =>
    .error (.validation (s.identifier ++ ".aliases")
      ("\"" ++ key ++ "\" cannot be aliased as \"variables\""))
  | none =>
    match s.variables.find? (·.key = "") with
    | some v =>
      .error (.validation (s.identifier ++ ".variables")
        ("variable with source " ++ v.source.outline ++ " has no key"))
    | none => .ok ()

end ScenarioConfig

/-! ## Definitions -/

/-- A definition of test data. -/
structure Definition where
  scenarios : List ScenarioConfig := []
  deriving Repr

namespace Definition

/-- Read a definition from an object or from the list of its fields. -/
def ofJson : Conversion Definition
  | .obj members => do
    let scenarios ← field? members "scenarios" (Json.listOf ScenarioConfig.ofJson)
    return ⟨scenarios.getD []⟩
  | .arr items => do
    let scenarios ← item? items 0 (Json.listOf ScenarioConfig.ofJson)
    Json.atMost 1 items
    return ⟨scenarios.getD []⟩
  | v => .error (.wrongType v "struct TestdataDefinition")

/-- A definition as a value. -/
def toJson (d : Definition) : Json :=
  object [("scenarios", .arr (d.scenarios.map ScenarioConfig.toJson))]

/-- The shape of a definition file. -/
def shape : Shape := .record [⟨"scenarios", .listOf ScenarioConfig.shape, false⟩]

/-- Read a definition from the text of a file. -/
def ofText (text : String) : Except TextFault Definition :=
  decodeText shape (fun v => (ofJson v).toOption) (Text.symbols text)

/-- Check scenarios one after another, given the names of those before. -/
def validateFrom (seen : List String) : List ScenarioConfig → Except Error Unit
  | [] => .ok ()
  | s :: rest =>
    if s.identifier = "" then
      .error (.validation "identifier" "scenario identifier cannot be empty")
    else if seen.contains s.identifier then
      .error (.validation "identifier" ("scenario \"" ++ s.identifier ++ "\" is defined twice"))
    else
      match s.validate with
      | .error e => .error e
      | .ok () => validateFrom (s.identifier :: seen) rest

/-- Check names, aliases and keys before anything is built. -/
def validate (d : Definition) : Except Error Unit := validateFrom [] d.scenarios

/-- Build the tables of scenarios one after another. -/
def buildTables (snapshot : Snapshot) :
    List ScenarioConfig → Dict Table → Except Failure (Dict Table)
  | [], tables => .ok tables
  | s :: rest, tables =>
    match s.buildTable (snapshot.get? s.identifier) with
    | .error e => .error e
    | .ok t =>
      buildTables snapshot rest (if s.hasTable then tables.insert s.identifier t else tables)

/-- Build the producer of a definition. Persisting counters continue from the snapshot. -/
def build (d : Definition) (snapshot : Snapshot) : Except Failure Producer :=
  match d.validate with
  | .error e => .error (.error e)
  | .ok () =>
    match buildTables snapshot d.scenarios ∅ with
    | .error e => .error e
    | .ok tables => .ok (.make (d.scenarios.map ScenarioConfig.toScenario) tables)

end Definition

end LoadTest.Testdata
