import SchemaForge.Json.Printer
import SchemaForge.Yaml.Node
import SchemaForge.Yaml.Scalar

/-! YAML text as a JSON value: aliases repeat the anchored value, keys are taken by their text, and
merge keys bring in the entries that are not written out. -/

namespace SchemaForge.Yaml

open Json (Value Object)

abbrev Anchors := List (String × Value)

def coreTag (name : String) (tag : String) : Bool :=
  tag == "!!" ++ name || tag == "!<tag:yaml.org,2002:" ++ name ++ ">"

def isLocalTag (tag : String) : Bool :=
  tag.startsWith "!" && tag != "!" && !tag.startsWith "!!" && !tag.startsWith "!<tag:"

def unexpectedTag : String := "invalid type: enum, expected any valid JSON value"

def scalarValue (text : String) (plain : Bool) (tag : Option String) : Result Value :=
  let must (expected : String) (v : Option Value) : Result Value :=
    match v with
    | some v => .ok v
    | none => unplaced s!"invalid value: string {Json.quote text}, expected {expected}"
  match tag with
  | some tag =>
    if coreTag "bool" tag then must "a boolean" ((bool? text).map .bool)
    else if coreTag "int" tag then
      must "an integer"
        ((int? text.toList).bind fun i => if intFits i then some (.number (.int i)) else none)
    else if coreTag "float" tag then must "a float" ((float? text).map Value.ofFloat)
    else if coreTag "null" tag then must "null" (if isNull text then some .null else none)
    else if isLocalTag tag then unplaced unexpectedTag
    else .ok (.string text)
  | none => if plain then must "any valid JSON value" (plain? text) else .ok (.string text)

def badKey : String := "invalid type: a key has to be a scalar, expected a string key"

def keyText (anchors : Anchors) : Node → Result String
  | .scalar text _ _ => .ok text
  | .anchored _ node => keyText anchors node
  | .alias name =>
    match anchors.lookup name with
    | some (.string s) => .ok s
    | some (.number (.int i)) => .ok (toString i)
    | some (.bool b) => .ok (if b then "true" else "false")
    | _ => unplaced badKey
  | _ => unplaced badKey

def isMergeKey : Node → Bool
  | .scalar text plain _ => plain && text == "<<"
  | _ => false

def badMerge : String := "expected a mapping or list of mappings for merging"

def mergeSources : Value → Result (List Object)
  | .object o => .ok [o]
  | .array items => items.mapM fun
    | .object o => .ok o
    | _ => unplaced badMerge
  | _ => unplaced badMerge

def addMissing (o : Object) (source : Object) : Object :=
  source.foldl (fun o e => if Object.contains o e.1 then o else o ++ [e]) o

mutual

def toValue (anchors : Anchors) : Node → Result (Value × Anchors)
  | .scalar text plain tag => do .ok (← scalarValue text plain tag, anchors)
  | .alias name =>
    match anchors.lookup name with
    | some v => .ok (v, anchors)
    | none => unplaced "unknown anchor"
  | .anchored name node => do
    let (v, anchors) ← toValue anchors node
    .ok (v, (name, v) :: anchors)
  | .sequence items tag => do
    if (tag.map isLocalTag).getD false then unplaced unexpectedTag
    else
      let (vs, anchors) ← toValues anchors items
      .ok (.array vs, anchors)
  | .mapping entries tag => do
    if (tag.map isLocalTag).getD false then unplaced unexpectedTag
    else
      let (o, merged, anchors) ← toEntries anchors [] [] entries
      .ok (.object (merged.foldl addMissing o), anchors)

def toValues (anchors : Anchors) : List Node → Result (List Value × Anchors)
  | [] => .ok ([], anchors)
  | n :: rest => do
    let (v, anchors) ← toValue anchors n
    let (vs, anchors) ← toValues anchors rest
    .ok (v :: vs, anchors)

def toEntries (anchors : Anchors) (o : Object) (merged : List Object) :
    List (Node × Node) → Result (Object × List Object × Anchors)
  | [] => .ok (o, merged, anchors)
  | (k, n) :: rest => do
    let (v, after) ← toValue anchors n
    if isMergeKey k then
      toEntries after o (merged ++ (← mergeSources v)) rest
    else
      let key ← keyText anchors k
      let after := match k with
        | .anchored name _ => (name, Value.string key) :: after
        | _ => after
      toEntries after (Object.insert o key v) merged rest

end

def read (text : String) : Result Value := do
  let (tokens, ending) ← Lexer.tokensOf text
  let node ← Node.ofTokens tokens ending
  let (v, _) ← toValue [] node
  .ok v

def writtenEntries (anchors : Anchors) :
    List (Node × Node) → Result (List (String × Value))
  | [] => .ok []
  | (k, n) :: rest => do
    let key ← keyText anchors k
    let (v, anchors) ← toValue anchors n
    .ok ((key, v) :: (← writtenEntries anchors rest))

/-- Read a text whose document is a mapping or has nothing written in it. -/
def readEntries (text : String) : Result (List (String × Value)) := do
  let (tokens, ending) ← Lexer.tokensOf text
  match ← Node.ofTokens tokens ending with
  | .mapping entries none => writtenEntries [] entries
  | .scalar "" true none => .ok []
  | _ => unplaced "invalid type, expected a mapping"

end SchemaForge.Yaml
