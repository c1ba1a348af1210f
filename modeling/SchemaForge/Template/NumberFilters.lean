import SchemaForge.Calendar.Instant
import SchemaForge.Decimal.Rounded
import SchemaForge.Template.Arguments

/-! Filters on numbers. -/

namespace SchemaForge.Template.Filters

open Json (Value)

def magnitude : Builtin := fun v _ =>
  match v with
  | .number (.int i) => .ok (ofInt i.natAbs)
  | .number (.float x) => .ok (Value.ofFloat x.abs)
  | _ => .error (.because "Filter `abs` was used on a value that isn't a number.")

def plural : Builtin := fun v args => do
  let x ← Taking.float.ofValue "pluralize" v
  let many ← Taking.text.orElse "pluralize" "plural" args "s"
  let one ← Taking.text.orElse "pluralize" "singular" args ""
  pure (.string (if (x.abs - 1).abs > 2.220446049250313e-16 then many else one))

def powerOfTen (n : Int) : Float :=
  if 0 ≤ n then Float.ofScientific 1 false n.toNat else Float.ofScientific 1 true n.natAbs

def round : Builtin := fun v args => do
  let x ← Taking.float.ofValue "round" v
  let way ← Taking.text.orElse "round" "method" args "common"
  let places ← Taking.int32.orElse "round" "precision" args 0
  let scale := powerOfTen places
  match way with
  | "common" => pure (Value.ofFloat ((scale * x).round / scale))
  | "ceil" => pure (Value.ofFloat ((scale * x).ceil / scale))
  | "floor" => pure (Value.ofFloat ((scale * x).floor / scale))
  | way => .error (.because ("Filter `round` received an incorrect value for arg `method`: got `" ++
      Text.listed way ++ "`, only common, ceil and floor are allowed"))

def decimalUnits : List String := ["B", "kB", "MB", "GB", "TB", "PB", "EB"]

def binaryUnits : List String := ["B", "KiB", "MiB", "GiB", "TiB", "PiB", "EiB"]

def sizeText (units : List String) (n : Nat) : String :=
  let rank := ((List.range 6).filter fun k => Nat.pow 1024 (k + 1) ≤ n).length
  let unit := units[rank]?.getD "B"
  let unitSize := Nat.pow 1024 rank
  if n % unitSize = 0 then toString (n / unitSize) ++ " " ++ unit
  else
    let x := Float.ofNat n / Float.ofNat unitSize
    String.ofList ((Decimal.Magnitude.ofBits x.toBits).fixed 2) ++ " " ++ unit

def fileSize : Builtin := fun v args => do
  let n ← Taking.count.ofValue "filesizeformat" v
  let binary ← Taking.flag.orElse "filesizeformat" "binary" args false
  pure (.string (sizeText (if binary then binaryUnits else decimalUnits) n))

def onNumbers : List (String × Builtin) := [
  ("abs", magnitude), ("pluralize", plural), ("round", round), ("filesizeformat", fileSize)]

end SchemaForge.Template.Filters
