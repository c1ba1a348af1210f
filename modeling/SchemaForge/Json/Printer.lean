import SchemaForge.Json.Value
import SchemaForge.Decimal.Layout

/-! Compact JSON text: no spaces, keys in order, only quotes, backslashes and control characters
escaped. -/

namespace SchemaForge.Json

def hexDigit (n : Nat) : Char := Char.ofNat (if n < 10 then 48 + n else 87 + n)

def escapeChar (c : Char) : List Char :=
  if c = '"' then ['\\', '"']
  else if c = '\\' then ['\\', '\\']
  else if c = '\n' then ['\\', 'n']
  else if c = '\r' then ['\\', 'r']
  else if c = '\t' then ['\\', 't']
  else if c.toNat = 8 then ['\\', 'b']
  else if c.toNat = 12 then ['\\', 'f']
  else if c.toNat < 32 then
    ['\\', 'u', '0', '0', hexDigit (c.toNat / 16), hexDigit (c.toNat % 16)]
  else [c]

def quote (s : String) : String :=
  String.ofList ('"' :: s.toList.flatMap escapeChar ++ ['"'])

def Number.text : Number → String
  | .int i => toString i
  | .float x => Decimal.jsonText x

mutual

def Value.text : Value → String
  | .null => "null"
  | .bool b => if b then "true" else "false"
  | .number n => n.text
  | .string s => quote s
  | .array items => "[" ++ String.intercalate "," (Value.texts items) ++ "]"
  | .object entries => "\x7b" ++ String.intercalate "," (Value.entryTexts entries) ++ "\x7d"

def Value.texts : List Value → List String
  | [] => []
  | v :: rest => v.text :: Value.texts rest

def Value.entryTexts : List (String × Value) → List String
  | [] => []
  | (k, v) :: rest => (quote k ++ ":" ++ v.text) :: Value.entryTexts rest

end

def Object.text (o : Object) : String := (Value.object o).text

end SchemaForge.Json
