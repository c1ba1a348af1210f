import SchemaForge.Script.Native

/-! Library functions on the computer around: its clock and calendar, its environment, processes, and
the names of files. -/

namespace SchemaForge.Script.Library

open Text (Utf8.ofString)
open Text.Utf8 (Bytes)

/-- A path or command as the computer is told it: up to the first zero byte. -/
def pathArgument (args : Args) (n : Nat) : Args.Result Bytes := do
  return (← args.bytes n).takeWhile (· != 0)

def noted (front : Bytes) (e : SystemFault) : List Value :=
  [.nil, .string (front ++ Utf8.ofString e.message), .int e.code]

def doneTo {α : Type} (path : Bytes) : Except SystemFault α → List Value
  | .ok _ => [.bool true]
  | .error e => noted (path ++ Utf8.ofString ": ") e

def doneOf {α : Type} : Except SystemFault α → List Value
  | .ok _ => [.bool true]
  | .error e => noted [] e

def ended : Except SystemFault Ending → List Value
  | .ok (.exit 0) => [.bool true, .text "exit", .int 0]
  | .ok (.exit code) => [.nil, .text "exit", .int code]
  | .ok (.signal number) => [.nil, .text "signal", .int number]
  | .error e => noted [] e

def onClock (_ : Args) : Native (List Value) := do
  return [.float (← Native.ask .processorTime)]

def currentSeconds : Native Int := do
  return (← Native.ask .clock).1.seconds

def dateConversions : List String :=
  ("aAbBcCdDeFgGhHIjmMnprRStTuUVwWxXyYzZ%".toList.map fun c => String.ofList [c]) ++
    ["Ec", "EC", "Ex", "EX", "Ey", "EY", "Od", "Oe", "OH", "OI", "Om", "OM", "OS", "Ou", "OU", "OV",
      "Ow", "OW", "Oy"]

def dateConversion (format : Bytes) : Args.Result (Bytes × Bytes) :=
  let known (n : Nat) : Bool :=
    dateConversions.contains (String.ofList ((format.take n).map fun b => Char.ofNat b.toNat))
  if known 1 then .ok (format.take 1, format.drop 1)
  else if 2 ≤ format.length && known 2 then .ok (format.take 2, format.drop 2)
  else
    Args.wrong 1 s!"invalid conversion specifier '%{Text.Utf8.decodeLossy (format.takeWhile (· != 0))}'"

def formatDate (t : BrokenTime) (fuel : Nat) (format : Bytes) : Native Bytes :=
  match fuel, format with
  | 0, _ | _, [] => return []
  | fuel + 1, 37 :: rest => do
    let (conversion, rest) ← dateConversion rest
    let text ← Native.ask (.formatTime conversion t)
    return text ++ (← formatDate t fuel rest)
  | fuel + 1, b :: rest => do return b :: (← formatDate t fuel rest)

def dateFields (t : BrokenTime) : List (String × Int) :=
  [("year", t.year), ("month", t.month), ("day", t.day), ("hour", t.hour), ("min", t.minute),
    ("sec", t.second), ("yday", t.yearDay), ("wday", t.weekday + 1)]

def withDate (table : Table) (t : BrokenTime) : Table :=
  let table := (dateFields t).foldl (fun table e => table.set (.text e.1) (.int e.2)) table
  match t.daylight with
  | some b => table.set (.text "isdst") (.bool b)
  | none => table

def onDate (args : Args) : Native (List Value) := do
  let format ← args.bytesOr 1 (Utf8.ofString "%c")
  let seconds ← if (args.get 2).isNil then currentSeconds else args.int 2
  let (utc, format) := match format with
    | 33 :: rest => (true, rest)
    | format => (false, format)
  match ← Native.ask (.breakTime utc seconds) with
  | none => Native.message "date result cannot be represented in this installation"
  | some t =>
    if format == Utf8.ofString "*t" then return [← Native.newTable (withDate (Table.sized 0 9) t)]
    return [.string (← formatDate t format.length format)]

/-- A part of a time in a table. The computer counts it from `offset` on, in 32 bits. -/
def dateField (table : Value) (key : String) (fallback : Option Int) (offset : Int) : Native Int := do
  let v ← Native.get table (.text key)
  match v.toNumber?.bind Numeric.toInt? with
  | some i =>
    let above : Int := Word.signedEnd32
    let inBounds := if 0 ≤ i.toInt then i.toInt - offset < above else -above + offset ≤ i.toInt
    if inBounds then return i.toInt
    Native.message s!"field '{key}' is out-of-bound"
  | none =>
    if !v.isNil then Native.message s!"field '{key}' is not an integer"
    match fallback with
    | some i => return i
    | none => Native.message s!"field '{key}' missing in date table"

def onTime (args : Args) : Native (List Value) := do
  let unknown : Native (List Value) :=
    Native.message "time result cannot be represented in this installation"
  if (args.get 1).isNil then return [.int (← currentSeconds)]
  let place ← args.table 1
  let table := Value.table place
  let year ← dateField table "year" none 1900
  let month ← dateField table "month" none 1
  let day ← dateField table "day" none 0
  let hour ← dateField table "hour" (some 12) 0
  let minute ← dateField table "min" (some 0) 0
  let second ← dateField table "sec" (some 0) 0
  let daylight := match ← Native.get table (.text "isdst") with
    | .nil => none
    | v => some v.truthy
  match ← Native.ask (.makeTime ⟨year, month, day, hour, minute, second, 0, 0, daylight⟩) with
  | none => unknown
  | some (seconds, t) =>
    for (key, n) in dateFields t do Native.set table (.text key) (.int n)
    if let some b := t.daylight then Native.set table (.text "isdst") (.bool b)
    if seconds = -1 then unknown else return [.int seconds]

def onDifftime (args : Args) : Native (List Value) := do
  let later ← args.int 1
  let earlier ← args.int 2
  return [.float (Decimal.ofWhole (later - earlier))]

def onExecute (args : Args) : Native (List Value) := do
  if (args.get 1).isNil then return [.bool (← Native.ask .hasShell)]
  let command ← pathArgument args 1
  return ended (← Native.ask (.execute command))

def onExit (args : Args) : Native (List Value) := do
  let code ← match args.get 1 with
    | .bool b => pure (if b then 0 else 1)
    | _ => args.intOr 1 0
  .fail (.exit code)

def onGetenv (args : Args) : Native (List Value) := do
  let name := Text.Utf8.decodeLossy (← pathArgument args 1)
  return [((← Native.access (.environment name) .pure).map Value.text).getD .nil]

def onFileRemove (args : Args) : Native (List Value) := do
  let path ← pathArgument args 1
  return doneTo path (← Native.ask (.remove path))

def onFileRename (args : Args) : Native (List Value) := do
  let path ← pathArgument args 1
  let newPath ← pathArgument args 2
  return doneOf (← Native.ask (.rename path newPath))

def onSetlocale (args : Args) : Native (List Value) := do
  let name ← if (args.get 1).isNil then pure none else some <$> pathArgument args 1
  let category ← args.option 2 (some "all")
    ["all", "collate", "ctype", "monetary", "numeric", "time"]
  return [((← Native.ask (.setLocale (Utf8.ofString category) name)).map Value.string).getD .nil]

def onTmpname (_ : Args) : Native (List Value) := do
  match ← Native.ask .temporaryName with
  | some name => return [.string name]
  | none => Native.message "unable to generate a unique filename"

end SchemaForge.Script.Library
