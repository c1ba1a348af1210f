import SchemaForge.Json.Printer
import SchemaForge.Text.Listing

/-! Values as templates take them: how they appear in a text, which of them hold, and which are the
same. -/

namespace SchemaForge.Template

open Json (Value Object Number)

abbrev Args := List (String × Value)

def Args.find? (args : Args) (name : String) : Option Value := args.lookup name

def asFloat : Number → Float
  | .int i => Float.ofInt i
  | .float x => x

mutual

def shown : Value → String
  | .null => ""
  | .bool b => if b then "true" else "false"
  | .number (.int i) => toString i
  | .number (.float x) => Decimal.plainText x
  | .string s => s
  | .array items => "[" ++ String.intercalate ", " (shownItems items) ++ "]"
  | .object _ => "[object]"

def shownItems : List Value → List String
  | [] => []
  | v :: rest => shown v :: shownItems rest

end

def isTruthy : Value → Bool
  | .null => false
  | .bool b => b
  | .number (.int i) => i != 0
  | .number (.float x) => x != 0 && !x.isNaN
  | .string s => !s.isEmpty
  | .array items => !items.isEmpty
  | .object o => !o.isEmpty

def sameNumber : Number → Number → Bool
  | .int a, .int b => a == b
  | .float x, .float y => x == y
  | _, _ => false

mutual

/-- Whether two values are the same; the order of an object's keys does not matter. -/
def same : Value → Value → Bool
  | .null, .null => true
  | .bool a, .bool b => a == b
  | .number a, .number b => sameNumber a b
  | .string a, .string b => a == b
  | .array as, .array bs => sameItems as bs
  | .object as, .object bs => as.length == bs.length && sameEntries as bs
  | _, _ => false

def sameItems : List Value → List Value → Bool
  | [], [] => true
  | a :: as, b :: bs => same a b && sameItems as bs
  | _, _ => false

def sameEntries : List (String × Value) → Object → Bool
  | [], _ => true
  | (k, v) :: rest, o =>
    (match Object.get? o k with
    | some w => same v w
    | none => false) && sameEntries rest o

end

mutual

def listed : Value → String
  | .null => "Null"
  | .bool b => "Bool(" ++ (if b then "true" else "false") ++ ")"
  | .number n => "Number(" ++ n.text ++ ")"
  | .string s => "String(" ++ Text.listed s ++ ")"
  | .array items => "Array [" ++ String.intercalate ", " (listedItems items) ++ "]"
  | .object o => "Object \x7b" ++ String.intercalate ", " (listedEntries o) ++ "\x7d"

def listedItems : List Value → List String
  | [] => []
  | v :: rest => listed v :: listedItems rest

def listedEntries : List (String × Value) → List String
  | [] => []
  | (k, v) :: rest => (Text.listed k ++ ": " ++ listed v) :: listedEntries rest

end

mutual

def layered (depth : Nat) : Value → String
  | .array [] => "[]"
  | .array (v :: rest) =>
    "[\n" ++ String.intercalate ",\n" (layeredItems (depth + 1) (v :: rest)) ++ "\n" ++
      String.ofList (List.replicate (2 * depth) ' ') ++ "]"
  | .object [] => "\x7b\x7d"
  | .object (e :: rest) =>
    "\x7b\n" ++ String.intercalate ",\n" (layeredEntries (depth + 1) (e :: rest)) ++ "\n" ++
      String.ofList (List.replicate (2 * depth) ' ') ++ "\x7d"
  | v => v.text

def layeredItems (depth : Nat) : List Value → List String
  | [] => []
  | v :: rest =>
    (String.ofList (List.replicate (2 * depth) ' ') ++ layered depth v) :: layeredItems depth rest

def layeredEntries (depth : Nat) : List (String × Value) → List String
  | [] => []
  | (k, v) :: rest =>
    (String.ofList (List.replicate (2 * depth) ' ') ++ Json.quote k ++ ": " ++ layered depth v) ::
      layeredEntries depth rest

end

end SchemaForge.Template
