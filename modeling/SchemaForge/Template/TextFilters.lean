import SchemaForge.Script.Number
import SchemaForge.Template.Arguments
import SchemaForge.Text.Case
import SchemaForge.Text.Grapheme

/-! Filters on texts. -/

namespace SchemaForge.Template.Filters

open Json (Value)

def onText (name : String) (f : String → String) : String × Builtin :=
  (name, fun v _ => do
    let s ← Taking.text.ofValue name v
    pure (.string (f s)))

def trimmed (left right : Bool) (s : String) : String :=
  let cs := if left then Text.trimLeft s.toList else s.toList
  String.ofList (if right then Text.trimRight cs else cs)

def capitalized (s : String) : String :=
  match s.toList with
  | [] => ""
  | c :: rest => String.ofList (Text.upperChar c) ++ Text.lower (String.ofList rest)

def isWordChar (c : Char) : Bool :=
  c.isAlphanum || c == '_' || (0xAA ≤ c.toNat && !Text.isBlank c && !(0x2000 ≤ c.toNat && c.toNat ≤ 0x2BFF) &&
    !(0x3000 ≤ c.toNat && c.toNat ≤ 0x3004) && c.toNat != 0xAB && c.toNat != 0xBB && c.toNat != 0xD7 &&
    c.toNat != 0xF7)

def wordFrom (cs : List Char) : List Char :=
  ((cs.takeWhile fun c => isWordChar c || c == '\'').reverse.dropWhile (· == '\'')).reverse

def titledUpTo : Nat → Bool → List Char → List Char
  | 0, _, cs => cs
  | fuel + 1, inWord, cs =>
    match cs with
    | [] => []
    | c :: rest =>
      if isWordChar c && !inWord then
        let word := wordFrom (c :: rest)
        Text.upperChar c ++ (Text.lower (String.ofList (word.drop 1))).toList ++
          titledUpTo fuel true ((c :: rest).drop word.length)
      else c :: titledUpTo fuel (isWordChar c) rest

def titled (s : String) : String := String.ofList (titledUpTo (s.length + 1) false s.toList)

def escapeWith (table : List (Char × String)) (s : String) : String :=
  String.ofList (s.toList.flatMap fun c =>
    match table.lookup c with
    | some code => code.toList
    | none => [c])

def htmlCodes : List (Char × String) :=
  [('&', "&amp;"), ('<', "&lt;"), ('>', "&gt;"), ('"', "&quot;"), ('\'', "&#x27;"),
    ('/', "&#x2F;")]

def xmlCodes : List (Char × String) :=
  [('&', "&amp;"), ('<', "&lt;"), ('>', "&gt;"), ('"', "&quot;"), ('\'', "&apos;")]

def slashCodes : List (Char × String) := [('\\', "\\\\"), ('"', "\\\""), ('\'', "\\'")]

def afterComment? (cs : List Char) : Option (List Char) :=
  let rec go : List Char → Option (List Char)
    | '-' :: '-' :: '>' :: rest => some rest
    | '\n' :: _ => none
    | _ :: rest => go rest
    | [] => none
  match cs with
  | '<' :: '!' :: '-' :: '-' :: rest => go rest
  | _ => none

def afterTag? (cs : List Char) : Option (List Char) :=
  match cs with
  | '<' :: rest =>
    match rest.dropWhile (· != '>') with
    | _ :: behind => some behind
    | [] => none
  | _ => none

def withoutTagsUpTo : Nat → List Char → List Char
  | 0, cs => cs
  | fuel + 1, cs =>
    match cs with
    | [] => []
    | c :: rest =>
      match afterComment? cs <|> afterTag? cs with
      | some behind => withoutTagsUpTo fuel behind
      | none => c :: withoutTagsUpTo fuel rest

def withoutTags (s : String) : String := String.ofList (withoutTagsUpTo (s.length + 1) s.toList)

def spacelessUpTo : Nat → List Char → List Char
  | 0, cs => cs
  | fuel + 1, cs =>
    match cs with
    | [] => []
    | c :: rest =>
      let behind := rest.dropWhile Text.isBlank
      if c == '>' && behind.length < rest.length && behind.head? == some '<' then
        '>' :: '<' :: spacelessUpTo fuel (behind.drop 1)
      else c :: spacelessUpTo fuel rest

def spaceless (s : String) : String := String.ofList (spacelessUpTo (s.length + 1) s.toList)

def percentEncoded (keep : Char → Bool) (s : String) : String :=
  let hex := fun n => Char.ofNat (if n < 10 then 48 + n else 55 + n)
  String.ofList (s.toList.flatMap fun c =>
    if keep c then [c]
    else (String.utf8EncodeChar c).flatMap fun b =>
      ['%', hex (b.toNat / 16), hex (b.toNat % 16)])

def isUrlChar (c : Char) : Bool := c.isAlphanum || "-._~/%".toList.contains c

def slug (s : String) : String :=
  let (out, _) := s.toList.foldl (fun (out, apart) c =>
    if c.isAlphanum then (c.toLower :: (if apart && !out.isEmpty then '-' :: out else out), false)
    else (out, true)) (([] : List Char), false)
  String.ofList out.reverse

def truncate : Builtin := fun v args => do
  let s ← Taking.text.ofValue "truncate" v
  let length ← Taking.count.orElse "truncate" "length" args 255
  let mark ← Taking.text.orElse "truncate" "end" args "…"
  let gs := Text.graphemes s
  pure (.string (if gs.length ≤ length then s else String.join (gs.take length) ++ mark))

def replace : Builtin := fun v args => do
  let s ← Taking.text.ofValue "replace" v
  let needle ← Taking.text.orFail "replace" "from" args (.expects "replace" "from")
  let other ← Taking.text.orFail "replace" "to" args (.expects "replace" "to")
  pure (.string (Text.replace s needle other))

def dropping (name : String) (f : String → String → String) : String × Builtin :=
  (name, fun v args => do
    let s ← Taking.text.ofValue name v
    let pattern ← Taking.text.orFail name "pat" args (.expects name "pat")
    pure (.string (f s (unescapeBreaks pattern))))

def split : Builtin := fun v args => do
  let s ← Taking.text.ofValue "split" v
  let pattern ← Taking.text.orFail "split" "pat" args (.expects "split" "pat")
  pure (.array ((Text.pieces s (unescapeBreaks pattern)).map .string))

def indentLines (lead : String) (first blank : Bool) : Nat → List String → List String
  | _, [] => []
  | i, line :: rest =>
    let deeper := if i = 0 then first else blank || !(Text.trimLeft line.toList).isEmpty
    (if deeper then lead ++ line else line) :: indentLines lead first blank (i + 1) rest

def indent : Builtin := fun v args => do
  let s ← Taking.text.ofValue "indent" v
  let lead ← Taking.text.orElse "indent" "prefix" args "    "
  let first ← Taking.flag.orElse "indent" "first" args false
  let blank ← Taking.flag.orElse "indent" "blank" args false
  pure (.string (String.intercalate "\n" (indentLines lead first blank 0 (Text.lines s))))

def wordCount : Builtin := fun v _ => do
  let s ← Taking.text.ofValue "wordcount" v
  pure (ofCount ((s.toList.splitBy fun a b => Text.isBlank a == Text.isBlank b).filter fun word =>
    word.any (!Text.isBlank ·)).length)

def digitIn? (base : Nat) (c : Char) : Option Nat :=
  let n := c.toNat
  let d := if c.isDigit then n - 48 else if c.isLower then n - 87 else if c.isUpper then n - 55
    else 99
  if d < base then some d else none

def intIn? (base : Nat) (cs : List Char) : Option Int :=
  let (negative, ds) := match cs with
    | '-' :: rest => (true, rest)
    | '+' :: rest => (false, rest)
    | rest => (false, rest)
  if ds.isEmpty then none
  else
    match ds.mapM (digitIn? base) with
    | none => none
    | some values =>
      let n : Int := (values.foldl (fun n d => n * base + d) 0 : Nat)
      let z := if negative then -n else n
      if Word.isSigned z then some z else none

def floatOf? (s : String) : Option Float :=
  let cs := s.toList
  let body := match cs with
    | '-' :: rest => rest
    | '+' :: rest => rest
    | rest => rest
  let negative := cs.head? == some '-'
  let word := Text.asciiLower (String.ofList body)
  if word == "inf" || word == "infinity" then some (if negative then -1.0 / 0.0 else 1.0 / 0.0)
  else if word == "nan" then some (0.0 / 0.0)
  else (Script.Numeric.decimal? negative body).map Script.Numeric.toFloat

def toInt : Builtin := fun v args => do
  let default ← Taking.int64.orElse "int" "default" args 0
  let base ← Taking.nat32.orElse "int" "base" args 10
  match v with
  | .string s =>
    let s := Text.trim s
    let s := if base = 2 then Text.dropLeading s "0b" else if base = 8 then Text.dropLeading s "0o"
      else if base = 16 then Text.dropLeading s "0x" else s
    match intIn? base s.toList with
    | some i => pure (ofInt i)
    | none =>
      if s.toList.contains '.' then
        match floatOf? s with
        | some x => pure (ofInt x.toInt64.toInt)
        | none => pure (ofInt default)
      else pure (ofInt default)
  | .number n => pure (ofInt (asFloat n).toInt64.toInt)
  | _ => .error (.because "Filter `int` received an unexpected type")

def toFloat : Builtin := fun v args => do
  let default ← Taking.float.orElse "float" "default" args 0
  match v with
  | .string s => pure (Value.ofFloat ((floatOf? (Text.trim s)).getD default))
  | .number n => pure (Value.ofFloat (asFloat n))
  | _ => .error (.because "Filter `float` received an unexpected type")

def onTexts : List (String × Builtin) := [
  onText "lower" Text.lower, onText "upper" Text.upper, onText "trim" (trimmed true true),
  onText "trim_start" (trimmed true false), onText "trim_end" (trimmed false true),
  dropping "trim_start_matches" Text.dropLeading, dropping "trim_end_matches" Text.dropTrailing,
  ("truncate", truncate), ("wordcount", wordCount), ("replace", replace),
  onText "capitalize" capitalized, onText "title" titled,
  onText "linebreaksbr" (fun s => Text.replace (Text.replace s "\r\n" "<br>") "\n" "<br>"),
  ("indent", indent), onText "striptags" withoutTags, onText "spaceless" spaceless,
  onText "urlencode" (percentEncoded isUrlChar),
  onText "urlencode_strict" (percentEncoded Char.isAlphanum), onText "slugify" slug,
  onText "addslashes" (escapeWith slashCodes),
  ("escape", fun v _ => do
    let s ← Taking.text.ofValue "escape_html" v
    pure (.string (escapeWith htmlCodes s))),
  onText "escape_xml" (escapeWith xmlCodes), ("split", split), ("int", toInt), ("float", toFloat)]

end SchemaForge.Template.Filters
