import SchemaForge.Template.Value
import SchemaForge.Text.Blank
import SchemaForge.Text.Search

/-! What the filters, tests and functions that are always there share: how their arguments are
taken, and how they refuse them. -/

namespace SchemaForge.Template

open Json (Value)

inductive Misuse where
  | value (filter : String) (found : Value) (expected : String)
  | argument (filter name : String) (found : Value) (expected : String)
  | expects (filter name : String)
  | needs (filter article name : String)
  | because (text : String)
  deriving Inhabited

def Misuse.message : Misuse → String
  | .value filter found expected =>
    "Filter `" ++ filter ++ "` was called on an incorrect value: got `" ++ found.text ++
      "` but expected a " ++ expected
  | .argument filter name found expected =>
    "Filter `" ++ filter ++ "` received an incorrect type for arg `" ++ name ++ "`: got `" ++
      found.text ++ "` but expected a " ++ expected
  | .expects filter name => "Filter `" ++ filter ++ "` expected an arg called `" ++ name ++ "`"
  | .needs filter article name =>
    "The `" ++ filter ++ "` filter has to have " ++ article ++ " `" ++ name ++ "` argument"
  | .because text => text

abbrev Use (α : Type) := Except Misuse α

abbrev Builtin := Value → Args → Use Value

structure Taking (α : Type) where
  name : String
  take? : Value → Option α

namespace Taking

def text : Taking String := ⟨"String", Value.asString?⟩

def flag : Taking Bool := ⟨"bool", fun v =>
  match v with
  | .bool b => some b
  | _ => none⟩

def list : Taking (List Value) := ⟨"Vec<Value>", fun v =>
  match v with
  | .array items => some items
  | _ => none⟩

def wholeIn (low high : Int) (v : Value) : Option Int :=
  match v with
  | .number (.int i) => if low ≤ i ∧ i < high then some i else none
  | _ => none

def count : Taking Nat := ⟨"usize", fun v => (wholeIn 0 Word.unsignedEnd v).map Int.toNat⟩

def int64 : Taking Int := ⟨"i64", wholeIn (-(Word.signedEnd : Int)) Word.signedEnd⟩

def int32 : Taking Int := ⟨"i32", wholeIn (-(Word.signedEnd32 : Int)) Word.signedEnd32⟩

def nat32 : Taking Nat := ⟨"u32", fun v => (wholeIn 0 Word.unsignedEnd32 v).map Int.toNat⟩

def float : Taking Float := ⟨"f64", fun v =>
  match v with
  | .number n => some (asFloat n)
  | _ => none⟩

variable {α : Type}

def ofValue (t : Taking α) (filter : String) (v : Value) : Use α :=
  match t.take? v with
  | some a => .ok a
  | none => .error (.value filter v t.name)

def ofArgument (t : Taking α) (filter name : String) (v : Value) : Use α :=
  match t.take? v with
  | some a => .ok a
  | none => .error (.argument filter name v t.name)

def orElse (t : Taking α) (filter name : String) (args : Args) (default : α) : Use α :=
  match args.find? name with
  | some v => t.ofArgument filter name v
  | none => .ok default

def orFail (t : Taking α) (filter name : String) (args : Args) (missing : Misuse) : Use α :=
  match args.find? name with
  | some v => t.ofArgument filter name v
  | none => .error missing

end Taking

def unescapeBreaks (s : String) : String := Text.replace (Text.replace s "\\n" "\n") "\\t" "\t"

def ofCount (n : Nat) : Value := .number (.int n)

def ofInt (i : Int) : Value := .number (.int i)

end SchemaForge.Template
