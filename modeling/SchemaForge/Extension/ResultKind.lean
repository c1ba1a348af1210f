import SchemaForge.Text.Case
import SchemaForge.Text.Utf8
import SchemaForge.Decimal.Layout

/-! The kinds of results that scripts hand back, and how a result can fail to be of its kind. -/

namespace SchemaForge.Extension

open Text (Utf8.Fault)

inductive ResultKind where
  | array
  | boolean
  | date
  | number
  | object
  | string
  deriving DecidableEq, Repr, Inhabited

namespace ResultKind

def all : List ResultKind := [.array, .boolean, .date, .number, .object, .string]

def text : ResultKind → String
  | .array => "array"
  | .boolean => "boolean"
  | .date => "date"
  | .number => "number"
  | .object => "object"
  | .string => "string"

def parse? (s : String) : Option ResultKind := all.find? fun kind => kind.text == Text.lower s

end ResultKind

inductive ConversionError where
  | badText (fault : Utf8.Fault)
  | unsupported (typeName : String)
  | recursive
  | bytes
  /-- A key of a keyed table is no text; the first key is told from the others. -/
  | badKey (found : String) (first : Bool)
  | keyBytes (first : Bool)
  deriving Inhabited, Repr

namespace ConversionError

def keyExpected (first : Bool) : String := if first then "a string key" else "a string"

def message : ConversionError → String
  | .badText fault => s!"error converting Lua string to &str ({fault.message})"
  | .unsupported typeName => s!"deserialize error: unsupported value type `{typeName}`"
  | .recursive => "deserialize error: recursive table detected"
  | .bytes => "deserialize error: invalid type: byte array, expected any valid JSON value"
  | .badKey found first => s!"deserialize error: invalid type: {found}, expected {keyExpected first}"
  | .keyBytes true => "deserialize error: invalid type: byte array, expected a string key"
  | .keyBytes false => "deserialize error: invalid value: byte array, expected a string"

end ConversionError

inductive MarshalError where
  | mismatch (expected : ResultKind) (found : String)
  | nonFinite (x : Float)
  | invalidDate (text : String)
  | conversion (cause : ConversionError)
  deriving Inhabited, Repr

namespace MarshalError

def message : MarshalError → String
  | .mismatch expected found => s!"expected a {expected.text} result, script returned {found}"
  | .nonFinite x => s!"number result is not finite: {Decimal.plainText x}"
  | .invalidDate text => s!"invalid date '{text}': expected RFC 3339 text or unix seconds"
  | .conversion cause => s!"cannot convert value: {cause.message}"

end MarshalError

def unknownKindMessage (text : String) : String :=
  s!"unknown result kind '{text}' (valid: " ++
    String.intercalate ", " (ResultKind.all.map ResultKind.text) ++ ")"

end SchemaForge.Extension
