import SchemaForge.Decimal.Exact
import SchemaForge.System
import SchemaForge.Template.Arguments
import SchemaForge.Template.DateFilter
import SchemaForge.Template.ListFilters
import SchemaForge.Template.NumberFilters
import SchemaForge.Template.TextFilters

/-! The filters, tests and functions that every template knows. A function may look at the computer
that the template renders on. -/

namespace SchemaForge.Template

open Json (Value)

def builtinFilters : List (String × Builtin) :=
  Filters.onTexts ++ Filters.onLists ++ Filters.onNumbers ++ [("date", Filters.date)]

/-- A test of a variable, which may be undefined, with some arguments. -/
abbrev Test := Option Value → List Value → Use Bool

namespace Test

def atMost (name : String) (max : Nat) (args : List Value) : Use Unit :=
  if args.length ≤ max then .ok ()
  else if max = 0 then .error (.because ("Tester `" ++ name ++
      "` was called with some args but this test doesn't take args"))
  else .error (.because s!"Tester `{name}` was called with {args.length} args, the max number is {max}")

def isDefined (name : String) (v : Option Value) : Use Value :=
  match v with
  | some v => .ok v
  | none => .error (.because s!"Tester `{name}` was called on an undefined variable")

def asText (name what : String) (v : Option Value) : Use String :=
  match v with
  | some (.string s) => .ok s
  | _ => .error (.because s!"Tester `{name}` was called {what} that isn't a string")

def simple (name : String) (f : Value → Use Bool) : String × Test :=
  (name, fun v args => do
    atMost name 0 args
    f (← isDefined name v))

def textual (name : String) (f : String → String → Bool) : String × Test :=
  (name, fun v args => do
    atMost name 1 args
    let v ← isDefined name v
    let s ← asText name "on a variable" (some v)
    let t ← asText name "with a parameter" args.head?
    pure (f s t))

def isOdd (v : Value) : Use Bool :=
  match v with
  | .number n => .ok (Decimal.truncMod (asFloat n) 2 != 0)
  | _ => .error (.because "Tester `odd` was called on a variable that isn't a number")

def divides : Test := fun v args => do
  atMost "divisibleby" 1 args
  match ← isDefined "divisibleby" v with
  | .number n =>
    match args.head? with
    | some (.number d) => pure (Decimal.truncMod (asFloat n) (asFloat d) == 0)
    | _ => .error (.because "Tester `divisibleby` was called with a parameter that isn't a number")
  | _ => .error (.because "Tester `divisibleby` was called on a variable that isn't a number")

def holdsIn : Test := fun v args => do
  atMost "containing" 1 args
  match ← isDefined "containing" v with
  | .string s => do
    let t ← asText "containing" "with a parameter" args.head?
    pure (Text.contains s t)
  | .array items => pure (items.any (same (args.head?.getD .null)))
  | .object o => do
    let key ← asText "containing" "with a parameter" args.head?
    pure (Json.Object.contains o key)
  | _ => .error (.because "Tester `containing` can only be used on string, array or map")

end Test

open Test in
def builtinTests : List (String × Test) := [
  ("defined", fun v args => do
    atMost "defined" 0 args
    pure v.isSome),
  ("undefined", fun v args => do
    atMost "undefined" 0 args
    pure v.isNone),
  simple "odd" isOdd,
  simple "even" (fun v => do
    let odd ← isOdd v
    pure !odd),
  simple "string" (fun v => .ok (match v with
    | .string _ => true
    | _ => false)),
  simple "number" (fun v => .ok (match v with
    | .number _ => true
    | _ => false)),
  ("divisibleby", divides),
  simple "iterable" (fun v => .ok (match v with
    | .array _ => true
    | .object _ => true
    | _ => false)),
  simple "object" (fun v => .ok (match v with
    | .object _ => true
    | _ => false)),
  textual "starting_with" Text.startsWith, textual "ending_with" Text.endsWith,
  ("containing", holdsIn)]

inductive Told where
  | value (v : Use Value)
  | environment (name : String) (next : Option String → Use Value)
  | answer (r : Request) (next : r.Answer → Use Value)

namespace Functions

def argument {α : Type} (t : Taking α) (function name called expected : String) (args : Args)
    (default : Use α) : Use α :=
  match args.find? name with
  | none => default
  | some v =>
    match t.take? v with
    | some a => .ok a
    | none => .error (.because ("Function `" ++ function ++ "` received " ++ name ++ "=" ++ v.text ++
        " but `" ++ called ++ "` can only be a " ++ expected))

def range (args : Args) : Told := .value do
  let start ← argument .count "range" "start" "start" "number" args (.ok 0)
  let step ← argument .count "range" "step_by" "step" "number" args (.ok 1)
  let stop ← argument .count "range" "end" "end" "number" args
    (.error (.because "Function `range` was called without a `end` argument"))
  if stop < start then
    .error (.because
      "Function `range` was called with a `start` argument greater than the `end` one")
  else
    pure (.array ((List.range ((stop - start + step - 1) / step)).map fun i =>
      ofCount (start + i * step)))

def raise (args : Args) : Told := .value do
  let text ← argument .text "throw" "message" "message" "string" args
    (.error (.because "Function `throw` was called without a `message` argument"))
  .error (.because text)

def environment (args : Args) : Told :=
  let name := argument .text "get_env" "name" "name" "string" args
    (.error (.because "Function `get_env` didn't receive a `name` argument"))
  match name with
  | .error e => .value (.error e)
  | .ok name => .environment name fun found =>
    match found, args.find? "default" with
    | some s, _ => .ok (.string s)
    | none, some v => .ok v
    | none, none => .error (.because ("Environment variable `" ++ name ++ "` not found"))

def now (args : Args) : Told :=
  let flag (name : String) := argument .flag "now" name name "boolean" args (.ok false)
  match flag "utc", flag "timestamp" with
  | .error e, _ => .value (.error e)
  | _, .error e => .value (.error e)
  | .ok utc, .ok timestamp => .answer .clock fun (i, ahead) =>
    let t := Filters.LocalTime.ofSeconds i.seconds i.nanos (if utc then 0 else ahead)
    .ok (if timestamp then ofInt i.seconds else .string t.text)

def chance (args : Args) : Told :=
  let bound (name : String) := argument .int64 "get_random" name name "number" args
  let missing := .because "Function `get_random` didn't receive an `end` argument"
  match bound "start" (.ok 0), bound "end" (.error missing) with
  | .error e, _ => .value (.error e)
  | _, .error e => .value (.error e)
  | .ok low, .ok high =>
    if low < high then .answer (.random low high) fun n => .ok (ofInt n)
    else .value (.error (.because "cannot sample empty range"))

end Functions

def builtinFunctions : List (String × (Args → Told)) := [
  ("range", Functions.range), ("throw", Functions.raise), ("get_env", Functions.environment),
  ("now", Functions.now), ("get_random", Functions.chance)]

end SchemaForge.Template
