/-! JSON values. An object keeps its entries in the order in which they came. -/

namespace SchemaForge.Json

/-- A number is a whole number of at most 64 bits, signed or unsigned, or a binary64 number. -/
inductive Number where
  | int (value : Int)
  | float (value : Float)
  deriving Inhabited, Repr

inductive Value where
  | null
  | bool (value : Bool)
  | number (value : Number)
  | string (text : String)
  | array (items : List Value)
  | object (entries : List (String × Value))
  deriving Inhabited, Repr

abbrev Object := List (String × Value)

namespace Object

def get? (o : Object) (key : String) : Option Value := o.lookup key

def keys (o : Object) : List String := o.map (·.1)

def contains (o : Object) (key : String) : Bool := o.any (·.1 == key)

def insert : Object → String → Value → Object
  | [], key, value => [(key, value)]
  | (k, v) :: rest, key, value =>
    if k == key then (key, value) :: rest else (k, v) :: insert rest key value

def ofEntries (entries : List (String × Value)) : Object :=
  entries.foldl (fun o e => insert o e.1 e.2) []

def erase (o : Object) (key : String) : Object := o.filter (·.1 != key)

def eraseSwap : Object → String → Object
  | [], _ => []
  | (k, v) :: rest, key =>
    if k == key then
      match rest.getLast? with
      | some last => last :: rest.dropLast
      | none => []
    else (k, v) :: eraseSwap rest key

def Distinct (o : Object) : Prop := (keys o).Nodup

end Object

namespace Value

def asString? : Value → Option String
  | .string s => some s
  | _ => none

def get? : Value → String → Option Value
  | .object o, key => Object.get? o key
  | _, _ => none

def ofNat (n : Nat) : Value := .number (.int n)

/-- A binary64 number as a value; infinities and missing numbers have no JSON form. -/
def ofFloat (x : Float) : Value := if x.isFinite then .number (.float x) else .null

end Value

end SchemaForge.Json
