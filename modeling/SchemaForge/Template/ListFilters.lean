import SchemaForge.Template.Arguments
import SchemaForge.Template.Path
import SchemaForge.Text.Case

/-! Filters on arrays and objects. -/

namespace SchemaForge.Template.Filters

open Json (Value Object)

def onList (name : String) (f : List Value → Value) : String × Builtin :=
  (name, fun v _ => do
    let items ← Taking.list.ofValue name v
    pure (f items))

def nth : Builtin := fun v args => do
  let items ← Taking.list.ofValue "nth" v
  if items.isEmpty then pure (.string "")
  else
    let n ← Taking.count.orFail "nth" "n" args (.needs "nth" "an" "n")
    pure (items[n]?.getD (.string ""))

def join : Builtin := fun v args => do
  let items ← Taking.list.ofValue "join" v
  let between ← match args.find? "sep" with
    | some sep => Taking.text.ofArgument "truncate" "sep" sep
    | none => pure ""
  pure (.string (String.intercalate (unescapeBreaks between) (items.map shown)))

inductive Key where
  | flag (b : Bool)
  | number (x : Float)
  | text (s : String)
  | size (n : Nat)
  deriving Inhabited

def Key.notAfter : Key → Key → Bool
  | .flag a, .flag b => !a || b
  | .number x, .number y => !(y < x)
  | .text a, .text b => decide (a ≤ b)
  | .size m, .size n => decide (m ≤ n)
  | _, _ => true

def keyLike (sample v : Value) : Use Key :=
  match sample, v with
  | .null, _ => .error (.because "Null is not a sortable value")
  | .object _, _ => .error (.because "Object is not a sortable value")
  | .bool _, .bool b => .ok (.flag b)
  | .number _, .number n => .ok (.number (asFloat n))
  | .string _, .string s => .ok (.text s)
  | .array _, .array items => .ok (.size items.length)
  | .bool _, v => .error (.because ("expected bool got " ++ v.text))
  | .number _, v => .error (.because ("expected number got " ++ v.text))
  | .string _, v => .error (.because ("expected string got " ++ v.text))
  | .array _, v => .error (.because ("expected array got " ++ v.text))

def attributeOf (path : String) (v : Value) : Use Value :=
  match Path.follow v path with
  | some a => .ok a
  | none => .error (.because s!"attribute '{path}' does not reference a field")

def sort : Builtin := fun v args => do
  let items ← Taking.list.ofValue "sort" v
  match items with
  | [] => pure (.array [])
  | first :: _ =>
    let path ← Taking.text.orElse "sort" "attribute" args ""
    let sample ← attributeOf path first
    let _ ← keyLike sample sample
    let keyed ← items.mapM fun item => do
      let key ← keyLike sample (← attributeOf path item)
      pure (item, key)
    pure (.array ((keyed.mergeSort fun a b => a.2.notAfter b.2).map (·.1)))

/-- What tells items apart; texts do so by their small letters unless case matters. -/
def mark (caseSensitive : Bool) (sample v : Value) : Use (Option Value) :=
  match sample, v with
  | .null, _ => .error (.because "Null is not a unique value")
  | .array _, _ => .error (.because "Unique arrays are not implemented")
  | .object _, _ => .error (.because "Unique objects are not implemented")
  | .number (.float _), _ => .error (.because "Unique floats are not implemented")
  | .bool _, .bool b => .ok (some (.bool b))
  | .number _, .number (.int i) =>
    if i < Word.signedEnd then .ok (some (.number (.int i)))
    else .error (.because ("expected number got " ++ v.text))
  | .number _, .number _ => .error (.because ("expected number got " ++ v.text))
  | .string _, .string s => .ok (some (.string (if caseSensitive then s else Text.lower s)))
  | _, _ => .error (.because "unique filter can't compare multiple types")

def uniqueFrom (caseSensitive : Bool) (path : String) (sample : Value) (seen : List Value) :
    List Value → Use (List Value)
  | [] => pure []
  | item :: rest =>
    match Path.follow item path with
    | none => uniqueFrom caseSensitive path sample seen rest
    | some v => do
      match ← mark caseSensitive sample v with
      | none => uniqueFrom caseSensitive path sample seen rest
      | some m =>
        if seen.any (same m) then uniqueFrom caseSensitive path sample seen rest
        else
          let kept ← uniqueFrom caseSensitive path sample (m :: seen) rest
          pure (item :: kept)

def unique : Builtin := fun v args => do
  let items ← Taking.list.ofValue "unique" v
  match items with
  | [] => pure (.array [])
  | first :: _ =>
    let caseSensitive ← Taking.flag.orElse "unique" "case_sensitive" args false
    let path ← Taking.text.orElse "unique" "attribute" args ""
    let sample ← attributeOf path first
    let _ ← mark caseSensitive sample sample
    let kept ← uniqueFrom caseSensitive path sample [] items
    pure (.array kept)

def addToGroup (groups : Object) (key : String) (item : Value) : Object :=
  match groups.get? key with
  | some (.array items) => groups.insert key (.array (items ++ [item]))
  | _ => groups.insert key (.array [item])

def groupBy : Builtin := fun v args => do
  let items ← Taking.list.ofValue "group_by" v
  if items.isEmpty then pure (.object [])
  else
    let path ← Taking.text.orFail "group_by" "attribute" args
      (.needs "group_by" "an" "attribute")
    pure (.object (items.foldl (fun groups item =>
      match Path.follow item path with
      | none => groups
      | some .null => groups
      | some (.string s) => addToGroup groups s item
      | some key => addToGroup groups key.text item) []))

def select : Builtin := fun v args => do
  let items ← Taking.list.ofValue "filter" v
  if items.isEmpty then pure (.array [])
  else
    let path ← Taking.text.orFail "filter" "attribute" args (.needs "filter" "an" "attribute")
    let wanted := (args.find? "value").getD .null
    pure (.array (items.filter fun item =>
      match wanted, (Path.follow item path).getD .null with
      | .null, .null => false
      | .null, _ => true
      | wanted, found => same found wanted))

def map : Builtin := fun v args => do
  let items ← Taking.list.ofValue "map" v
  if items.isEmpty then pure (.array [])
  else
    let path ← Taking.text.orFail "map" "attribute" args (.needs "map" "an" "attribute")
    pure (.array (items.filterMap fun item =>
      match Path.follow item path with
      | some .null => none
      | found => found))

def placeAt (x : Float) (length : Nat) : Nat :=
  if x ≥ 0 then x.toUInt64.toNat else (Float.ofNat length + x).toUInt64.toNat

def slice : Builtin := fun v args => do
  let items ← Taking.list.ofValue "slice" v
  if items.isEmpty then pure (.array [])
  else
    let start ← match args.find? "start" with
      | some s => do pure (placeAt (← Taking.float.ofArgument "slice" "start" s) items.length)
      | none => pure 0
    let stop ← match args.find? "end" with
      | some e => do pure (placeAt (← Taking.float.ofArgument "slice" "end" e) items.length)
      | none => pure items.length
    pure (.array ((items.take stop).drop start))

def concat : Builtin := fun v args => do
  let items ← Taking.list.ofValue "concat" v
  match args.find? "with" with
  | none => .error (.needs "concat" "a" "with")
  | some (.array more) => pure (.array (items ++ more))
  | some item => pure (.array (items ++ [item]))

def length : Builtin := fun v _ =>
  match v with
  | .array items => .ok (ofCount items.length)
  | .object o => .ok (ofCount o.length)
  | .string s => .ok (ofCount s.length)
  | _ => .error (.because
    "Filter `length` was used on a value that isn't an array, an object, or a string.")

def reverse : Builtin := fun v _ =>
  match v with
  | .array items => .ok (.array items.reverse)
  | .string s => .ok (.string (String.ofList s.toList.reverse))
  | v => .error (.because ("Filter `reverse` received an incorrect type for arg `value`: got `" ++
      v.text ++ "` but expected Array|String"))

def get : Builtin := fun v args => do
  let key ← Taking.text.orFail "get" "key" args (.needs "get" "an" "key")
  match v with
  | .object o =>
    match Object.get? o key, args.find? "default" with
    | some found, _ => pure found
    | none, some default => pure default
    | none, none => .error (.because
      ("Filter `get` tried to get key `" ++ key ++ "` but it wasn't found"))
  | _ => .error (.because "Filter `get` was used on a value that isn't an object")

def jsonText : Builtin := fun v args =>
  match args.find? "pretty" with
  | some (.bool true) => .ok (.string (layered 0 v))
  | _ => .ok (.string v.text)

def onLists : List (String × Builtin) := [
  onList "first" (fun items => items.head?.getD (.string "")),
  onList "last" (fun items => items.getLast?.getD (.string "")), ("nth", nth), ("join", join),
  ("sort", sort), ("unique", unique), ("group_by", groupBy), ("filter", select), ("map", map),
  ("slice", slice), ("concat", concat), ("length", length), ("reverse", reverse), ("get", get),
  ("json_encode", jsonText), ("as_str", fun v _ => .ok (.string (shown v)))]

end SchemaForge.Template.Filters
