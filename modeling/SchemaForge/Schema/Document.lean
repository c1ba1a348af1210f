import SchemaForge.Schema.Basic
import SchemaForge.Schema.Structure
import SchemaForge.DataType.Decode
import SchemaForge.Diagnostic
import SchemaForge.FilePath
import SchemaForge.Text.Case
import SchemaForge.Yaml.Reader

/-! Schema documents. A document is read by the format that its file name tells, held to the
structure that all documents have, and decoded entry by entry; the first entry that fails is the
one reported. -/

namespace SchemaForge

open Json (Value Object)

structure Source where
  name : String
  contents : String
  deriving DecidableEq, Repr, Inhabited

inductive SchemaError where
  | syntaxError (e : SourceError)
  | malformedYaml (e : SourceError)
  | unsupportedFormat (file : String)
  | structure (file : String) (violations : List String)
  | decode (file dataType message : String)
  | unknownKind (file name kind : String)
  | invalidName (file name : String)
  | enumBacking (file name expr : String)
  | duplicateMember (file dataType member : String)
  | notAnObject
  deriving Inhabited, Repr

namespace SchemaError

def message : SchemaError → String
  | .syntaxError e | .malformedYaml e => e.message
  | .unsupportedFormat file => s!"unsupported schema document format: {file}"
  | .structure file violations =>
    s!"{file} is not a valid schema document:\n  " ++ String.intercalate "\n  " violations
  | .decode file dataType message => s!"{file}: cannot decode data type '{dataType}': {message}"
  | .unknownKind file name kind => s!"{file}: data type '{name}' has unknown type '{kind}'"
  | .invalidName file name =>
    s!"{file}: data type name '{name}' cannot be used as an artifact file name"
  | .enumBacking file name expr =>
    s!"{file}: enum '{name}' must be backed by a plain type name, found '{expr}'"
  | .duplicateMember file dataType member =>
    s!"{file}: '{member}' is declared more than once in '{dataType}'"
  | .notAnObject => "embedded document schema is unusable: document root is not an object"

def code : SchemaError → String
  | .syntaxError _ | .malformedYaml _ => SourceError.code
  | .unsupportedFormat _ => "dtgen::schema::unsupported_format"
  | .structure .. => "dtgen::schema::structure"
  | .decode .. => "dtgen::schema::decode"
  | .unknownKind .. => "dtgen::schema::unknown_kind"
  | .invalidName .. => "dtgen::schema::invalid_name"
  | .enumBacking .. => "dtgen::schema::enum_backing"
  | .duplicateMember .. => "dtgen::schema::duplicate_member"
  | .notAnObject => "dtgen::schema::internal"

def help? : SchemaError → Option String
  | .syntaxError e | .malformedYaml e => e.advice
  | .unsupportedFormat _ => some "schema documents must end in .json, .yaml or .yml"
  | .unknownKind .. => some "use \"class\" or \"enum\""
  | .invalidName .. =>
    some "data type names must not contain '/', '\\', '..' or NUL characters"
  | _ => none

end SchemaError

inductive DocumentFormat where
  | json
  | yaml
  deriving DecidableEq, Repr, Inhabited

def DocumentFormat.ofFileName? (file : String) : Option DocumentFormat :=
  match (FilePath.extension? file).map Text.asciiLower with
  | some "json" => some .json
  | some "yaml" => some .yaml
  | some "yml" => some .yaml
  | _ => none

namespace Document

def read (file source : String) : Except SchemaError Value :=
  match DocumentFormat.ofFileName? file with
  | some .json =>
    match Json.read source with
    | .ok v => .ok v
    | .error e => .error (.syntaxError (.ofJson e source file))
  | some .yaml =>
    match Yaml.read source with
    | .ok v => .ok v
    | .error e => .error (.malformedYaml (.ofYaml e source file))
  | none => .error (.unsupportedFormat file)

def hasDoubleDot : List Char → Bool
  | '.' :: '.' :: _ => true
  | _ :: rest => hasDoubleDot rest
  | [] => false

def fileNameSafe (name : String) : Bool :=
  !(name.toList.any fun c => c == '/' || c == '\\' || c == '\x00') && !hasDoubleDot name.toList

def kindOf (file name : String) (o : Object) : Except SchemaError Kind :=
  match o.get? "type" with
  | none => .ok .cls
  | some (.string s) =>
    match Kind.parse? s with
    | some k => .ok k
    | none => .error (.unknownKind file name s)
  | some v => .error (.unknownKind file name v.text)

def nameOf (o : Object) : String := ((o.get? "name").bind Value.asString?).getD ""

/-- Decode an entry: its name is checked first, then its fields, then what an enum rests on. -/
def decodeEntry (file : String) (v : Value) : Except SchemaError DataType :=
  match v with
  | .object o => do
    let name := nameOf o
    if !fileNameSafe name then .error (.invalidName file name)
    else
      let kind ← kindOf file name o
      let fields := Value.object (Object.eraseSwap o "type")
      match kind with
      | .cls =>
        match Decode.classType fields with
        | .ok c => .ok (.cls c)
        | .error e => .error (.decode file name e.message)
      | .enum =>
        match Decode.enumType fields with
        | .ok e =>
          if e.dataType.plain then .ok (.enum e)
          else .error (.enumBacking file e.name e.dataType.text)
        | .error e => .error (.decode file name e.message)
  | v => .error (.decode file v.text "expected an object")

/-- Decode an entry, refuse members of one name, and order the members if asked to. -/
def entry (alphabetize : Bool) (file : String) (v : Value) : Except SchemaError DataType := do
  let d ← decodeEntry file v
  match d.duplicateMember? with
  | some member => .error (.duplicateMember file d.name member)
  | none => .ok (if alphabetize then d.alphabetize else d)

def versionOf (o : Object) : String :=
  match o.get? "version" with
  | some (.string s) => s
  | some (.number n) => n.text
  | _ => ""

def entriesOf (o : Object) : List Value :=
  match o.get? "dataTypes" with
  | some (.array items) => items
  | _ => []

def ofValue (alphabetize : Bool) (file : String) (v : Value) : Except SchemaError Schema :=
  let violations := Structure.violations v
  if violations.isEmpty then
    match v with
    | .object o => do
      let dataTypes ← (entriesOf o).mapM (entry alphabetize file)
      .ok ⟨versionOf o, dataTypes⟩
    | _ => .error .notAnObject
  else .error (.structure file (violations.map (·.text)))

def parse (alphabetize : Bool) (source : Source) : Except SchemaError Schema := do
  ofValue alphabetize source.name (← read source.name source.contents)

def parseAll (alphabetize : Bool) (sources : List Source) : Except SchemaError Schema := do
  let schemas ← sources.mapM (parse alphabetize)
  .ok (Schema.merge schemas)

end Document

end SchemaForge
