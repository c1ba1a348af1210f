import SchemaForge.Extension.ResultKind
import SchemaForge.Calendar.Instant
import SchemaForge.Json.Value
import SchemaForge.Script.Heap

/-! Values on their way to scripts and back. JSON becomes fresh tables, null becomes nothing; a result
becomes JSON of the kind it was registered for. -/

namespace SchemaForge.Extension

open Json (Object)
open Script (Heap Numeric Table)
open Text (Utf8.ofString Utf8.decode)

def numberToScript : Json.Number → Numeric
  | .int i => if Word.isSigned i then .int (Int64.ofInt i) else .float (Float.ofInt i)
  | .float x => .float x

/-- The table of a JSON array: it is marked as a list, and holds a place for every item. -/
def listTable (values : List Script.Value) : Table := ⟨values.toArray, [], 0, .listMark⟩

def fieldTable (fields : List (String × Script.Value)) : Table :=
  fields.foldl (fun t f => t.set (.text f.1) f.2) (Table.sized 0 fields.length)

mutual

/-- A value that scripts can use. Every array and object becomes a table of its own. -/
def toScript (h : Heap) : Json.Value → Heap × Script.Value
  | .null => (h, .nil)
  | .bool b => (h, .bool b)
  | .number n => (h, .number (numberToScript n))
  | .string s => (h, .text s)
  | .array items =>
    let (h, values) := listToScript h items
    let (h, place) := h.newTable (listTable values)
    (h, .table place)
  | .object entries =>
    let (h, fields) := fieldsToScript h entries
    let (h, place) := h.newTable (fieldTable fields)
    (h, .table place)

def listToScript (h : Heap) : List Json.Value → Heap × List Script.Value
  | [] => (h, [])
  | v :: rest =>
    let (h, value) := toScript h v
    let (h, values) := listToScript h rest
    (h, value :: values)

def fieldsToScript (h : Heap) : List (String × Json.Value) → Heap × List (String × Script.Value)
  | [] => (h, [])
  | (key, v) :: rest =>
    let (h, value) := toScript h v
    let (h, fields) := fieldsToScript h rest
    (h, (key, value) :: fields)

end

def isList (t : Table) : Bool := t.border != 0 || t.metatable == .listMark

def keyDescription (h : Heap) : Script.Value → String
  | .bool true => "boolean `true`"
  | .bool false => "boolean `false`"
  | .number (.int i) => s!"integer `{i.toInt}`"
  | .number (.float x) =>
    if x.isFinite && (Decimal.whole? x).isSome then s!"floating point `{Decimal.plainText x}.0`"
    else s!"floating point `{Decimal.plainText x}`"
  | .table place => if isList (h.table place) then "sequence" else "map"
  | v => v.typeName

/-- The text that a key is. `around` are the tables that it stands in. -/
def keyText (h : Heap) (around : List Nat) (first : Bool) (key : Script.Value) :
    Except ConversionError String :=
  match key with
  | .string b =>
    match Utf8.decode b with
    | .ok s => .ok s
    | .error _ => .error (.keyBytes first)
  | .table place =>
    if around.contains place then .error .recursive
    else .error (.badKey (keyDescription h key) first)
  | .bool _ | .number _ => .error (.badKey (keyDescription h key) first)
  | v => .error (.unsupported v.exactTypeName)

def entriesToJson (h : Heap) (around : List Nat)
    (convert : Script.Value → Except ConversionError Json.Value) (first : Bool) :
    List (Script.Value × Script.Value) → Except ConversionError Object
  | [] => .ok []
  | (key, v) :: rest => do
    let recursive := match v with
      | .table place => around.contains place
      | _ => false
    let keyRecursive := match key with
      | .table place => around.contains place
      | _ => false
    if keyRecursive || recursive then .error .recursive
    else
      let name ← keyText h around first key
      let value ← convert v
      let others ← entriesToJson h around convert false rest
      .ok ((name, value) :: others)

/-- The JSON form of a value inside the tables `around`. No table stands in itself, so the nesting
is never deeper than there are tables; `depth` counts down from that. -/
def valueToJson (h : Heap) (depth : Nat) (around : List Nat) :
    Script.Value → Except ConversionError Json.Value
  | .nil => .ok .null
  | .bool b => .ok (.bool b)
  | .number (.int i) => .ok (.number (.int i.toInt))
  | .number (.float x) => .ok (Json.Value.ofFloat x)
  | .string b =>
    match Utf8.decode b with
    | .ok s => .ok (.string s)
    | .error _ => .error .bytes
  | .table place =>
    if around.contains place then .error .recursive
    else
      match depth with
      | 0 => .error .recursive
      | depth + 1 =>
        let t := h.table place
        let convert := valueToJson h depth (place :: around)
        if isList t then (t.sequence.mapM convert).map .array
        else (entriesToJson h (place :: around) convert true t.pairs).map .object
  | v => .error (.unsupported v.exactTypeName)

def tableToJson (h : Heap) (place : Nat) : Except MarshalError Json.Value :=
  match valueToJson h (h.tables.size + 1) [] (.table place) with
  | .ok v => .ok v
  | .error e => .error (.conversion e)

def textOf (bytes : Text.Utf8.Bytes) : Except MarshalError String :=
  match Utf8.decode bytes with
  | .ok s => .ok s
  | .error fault => .error (.conversion (.badText fault))

/-- The date of seconds since 1970, to the nearest nanosecond of the second they lie in. -/
def dateOfSeconds (seconds : Float) : Except MarshalError Json.Value :=
  if !seconds.isFinite then .error (.nonFinite seconds)
  else
    let whole := Decimal.floor seconds
    let nanos := min (Decimal.nearest ((seconds - Decimal.ofWhole whole) * 1e9)) 999999999
    match Calendar.Instant.ofSeconds? whole nanos with
    | some i => .ok (.string i.text)
    | none => .error (.invalidDate (Decimal.plainText seconds))

def ResultKind.convert (kind : ResultKind) (h : Heap) (v : Script.Value) :
    Except MarshalError Json.Value :=
  match kind, v with
  | .string, .string b => (textOf b).map .string
  | .string, .number (.int i) => .ok (.string (toString i.toInt))
  | .string, .number (.float x) => .ok (.string (Decimal.plainText x))
  | .string, .bool b => .ok (.string (if b then "true" else "false"))
  | .boolean, .bool b => .ok (.bool b)
  | .number, .number (.int i) => .ok (.number (.int i.toInt))
  | .number, .number (.float x) =>
    if x.isFinite then .ok (.number (.float x)) else .error (.nonFinite x)
  | .date, .number n => dateOfSeconds n.toFloat
  | .date, .string b => do
    let text ← textOf b
    match Calendar.Instant.parse? text with
    | some i => .ok (.string i.text)
    | none => .error (.invalidDate text)
  | .array, .table place => do
    match ← tableToJson h place with
    | .array items => .ok (.array items)
    | .object [] => .ok (.array [])
    | _ => .error (.mismatch .array "keyed table")
  | .object, .table place => do
    match ← tableToJson h place with
    | .object entries => .ok (.object entries)
    | .array [] => .ok (.object [])
    | _ => .error (.mismatch .object "sequence table")
  | kind, v => .error (.mismatch kind v.exactTypeName)

end SchemaForge.Extension
