import SchemaForge.Script.Native

/-! Library functions on values of all kinds. -/

namespace SchemaForge.Script.Library

open Text (Utf8.ofString)
open Text.Utf8 (Bytes)

def failText (text : String) : List Value := [.nil, .text text]

def digitValue? (c : Char) : Option Nat :=
  if c.isDigit then some (c.toNat - 48)
  else if c.isAlpha then some (c.toLower.toNat - 87) else none

def wholeInBase? (base : Nat) (b : Bytes) : Option Int :=
  let cs := Numeric.charsOf b
  let body := ((cs.dropWhile Numeric.isSpace).reverse.dropWhile Numeric.isSpace).reverse
  let (negative, ds) := match body with
    | '-' :: rest => (true, rest)
    | rest => (false, rest)
  let values := ds.map fun c => (digitValue? c).getD 99
  if ds.isEmpty || values.any (fun v => base ≤ v) then none
  else
    let n : Int := (values.foldl (fun n v => n * base + v) 0 : Nat)
    some (if negative then -n else n)

def onTonumber (args : Args) : Native (List Value) := do
  if (args.get 2).isNil then
    match args.get 1 with
    | .number n => return [.number n]
    | .string b => return [((Numeric.ofBytes? b).map Value.number).getD .nil]
    | _ =>
      let _ ← args.any 1
      return [.nil]
  else
    let base ← args.int 2
    match args.get 1 with
    | .string b =>
      Args.check 2 "base out of range" (2 ≤ base && base ≤ 36)
      return [((wholeInBase? base.toNat b).map Value.int).getD .nil]
    | _ => args.wrongType 1 "string"

def onSelect (args : Args) : Native (List Value) := do
  let count := args.length - 1
  match args.get 1 with
  | .string [35] => return [.int count]
  | _ =>
    let n ← args.int 1
    if n = 0 || (count : Int) < -n then .fail (.argument 1 "index out of range")
    else if n < 0 then return args.drop (args.length - (-n).toNat)
    else return args.drop n.toNat

def onGetmetatable (args : Args) : Native (List Value) := do
  let v ← args.any 1
  match ← Native.metamethod v "__metatable", v with
  | .nil, .table place =>
    match (← Native.table place).metatable with
    | .none => return [.nil]
    | .listMark => return [.bool false]
    | .table m => return [.table m]
  | .nil, .failure _ => return [.bool false]
  | .nil, v => return [((← Native.metatable v).map Value.table).getD .nil]
  | shown, _ => return [shown]

def onSetmetatable (args : Args) : Native (List Value) := do
  let place ← args.table 1
  let m ← match (args[1]? : Option Value) with
    | some .nil => pure Meta.none
    | some (.table m) => pure (Meta.table m)
    | _ => args.wrongType 2 "nil or table"
  let t ← Native.table place
  if t.metatable == .listMark || !(← Native.metamethod (.table place) "__metatable").isNil then
    Native.message "cannot change a protected metatable"
  Native.setTable place { t with metatable := m }
  return [.table place]

def onRawset (args : Args) : Native (List Value) := do
  let place ← args.table 1
  let key ← args.any 2
  let value ← args.any 3
  match key.badKey? with
  | some reason => Native.raiseText reason
  | none =>
    Native.setTable place ((← Native.table place).set key.normalKey value)
    return [.table place]

def onRawlen (args : Args) : Native (List Value) := do
  match args.get 1 with
  | .table place => return [.int (← Native.table place).border]
  | .string b => return [.int b.length]
  | _ => args.wrongType 1 "table or string"

def onNext (args : Args) : Native (List Value) := do
  let t ← Native.table (← args.table 1)
  let entry (found : Option (Value × Value)) : List Value :=
    match found with
    | some (k, v) => [k, v]
    | none => [.nil]
  match args.get 2 with
  | .nil => return entry t.pairs.head?
  | key =>
    let all := (t.items.toList.mapIdx fun i v => (Value.int (i + 1), v)) ++ t.entries
    let isKey (e : Value × Value) : Bool := e.1.rawEqual key.normalKey
    if !all.any isKey then Native.message "invalid key to 'next'"
    let behind := (all.dropWhile fun e => !isKey e).drop 1
    return entry (behind.find? fun e => !e.2.isNil)

def onPairs (args : Args) : Native (List Value) := do
  let v ← args.any 1
  match ← Native.metamethod v "__pairs" with
  | .nil => return [.builtin .next, v, .nil]
  | f =>
    let results ← Native.results f [v]
    return (List.range 3).map fun i => results[i]?.getD .nil

def onIpairsStep (args : Args) : Native (List Value) := do
  let i := Value.int ((← args.int 2) + 1)
  let v ← Native.get (args.get 1) i
  return if v.isNil then [.nil] else [i, v]

def onPrint (args : Args) : Native (List Value) := do
  let texts ← args.mapM Native.textOf
  Native.print (([9] : Bytes).intercalate texts ++ [10])
  return []

def onWarn (args : Args) : Native (List Value) := do
  let _ ← args.bytes 1
  for n in List.range args.length do
    let _ ← args.bytes (n + 1)
  return []

def keptSetting (n : Int) : Int := (Int.tdiv n 4) % 256 * 4

def modeName (c : Collector) : Value := .text (if c.generational then "generational" else "incremental")

def onCollectgarbage (args : Args) : Native (List Value) := do
  let option ← args.option 1 (some "collect") ["stop", "restart", "collect", "count", "step",
    "setpause", "setstepmul", "isrunning", "generational", "incremental"]
  let c ← Native.collector
  match option with
  | "stop" =>
    Native.setCollector { c with running := false }
    return [.int 0]
  | "restart" =>
    Native.setCollector { c with running := true }
    return [.int 0]
  | "count" => return [.float (← Native.ask .memory)]
  | "step" =>
    let amount ← args.intOr 2 0
    return [.bool (← Native.ask (.collect amount))]
  | "setpause" =>
    Native.setCollector { c with pause := keptSetting (← args.intOr 2 0) }
    return [.int c.pause]
  | "setstepmul" =>
    Native.setCollector { c with multiplier := keptSetting (← args.intOr 2 0) }
    return [.int c.multiplier]
  | "isrunning" => return [.bool c.running]
  | "generational" =>
    let _ ← args.intOr 2 0
    let _ ← args.intOr 3 0
    Native.setCollector { c with generational := true }
    return [modeName c]
  | "incremental" =>
    let pause ← args.intOr 2 0
    let multiplier ← args.intOr 3 0
    let _ ← args.intOr 4 0
    Native.setCollector { c with
      generational := false
      pause := if pause = 0 then c.pause else keptSetting pause
      multiplier := if multiplier = 0 then c.multiplier else keptSetting multiplier }
    return [modeName c]
  | _ => return [.int 0]

end SchemaForge.Script.Library
