import SchemaForge.Yaml.Token

/-! The lexer of YAML text. -/

namespace SchemaForge.Yaml.Lexer

/-- Skip blanks, comments and line ends. A line end in block context allows a key behind it, and a
tab is then no blank. -/
def skipToToken : Nat → Lexer → Lexer
  | 0, l => l
  | fuel + 1, l =>
    match l.rest with
    | ' ' :: _ => skipToToken fuel l.advance
    | '\t' :: _ => if l.inFlow || !l.keyAllowed then skipToToken fuel l.advance else l
    | '#' :: _ => skipToToken fuel (l.skip (l.rest.takeWhile (· != '\n')).length)
    | '\n' :: _ =>
      let l := l.advance
      skipToToken fuel (if l.inFlow then l else { l with keyAllowed := true })
    | _ => l

def documentMark (mark : Char) (l : Lexer) : Bool :=
  l.column == 0 && l.rest.take 3 == [mark, mark, mark] && blankAt (l.rest.drop 3)

/-- What follows a line end inside a scalar: a space for one line end, else the further line ends. -/
def foldBreaks (further : Nat) : List Char :=
  if further = 0 then [' '] else List.replicate further '\n'

/-- What stands between two words of a plain scalar: blanks, or line ends after the first one. -/
inductive Gap where
  | none
  | blanks (cs : List Char)
  | breaks (further : Nat)
  deriving Inhabited

def Gap.text : Gap → List Char
  | .none => []
  | .blanks cs => cs.reverse
  | .breaks further => foldBreaks further

def isFlowMark (c : Char) : Bool :=
  c == ',' || c == '[' || c == ']' || c == '{' || c == '}'

/-- Whether a plain scalar ends in front of these characters, which start with no blank. -/
def plainEnds (flow : Bool) (cs : List Char) : Bool :=
  match cs with
  | ':' :: rest => blankAt rest || (flow && (rest.head?.map isFlowMark).getD false)
  | c :: _ => flow && isFlowMark c
  | [] => true

/-- Read the words and gaps of a plain scalar. `text` is reversed. -/
def plainFrom (indent : Int) : Nat → List Char → Gap → Lexer → Result (List Char × Gap × Lexer)
  | 0, text, gap, l => .ok (text, gap, l)
  | fuel + 1, text, gap, l =>
    match l.rest with
    | [] => .ok (text, gap, l)
    | c :: _ =>
      if isBlank c then
        match gap with
        | .none => plainFrom indent fuel text (.blanks [c]) l.advance
        | .blanks cs => plainFrom indent fuel text (.blanks (c :: cs)) l.advance
        | .breaks _ =>
          if c == '\t' && (l.column : Int) < indent then 
            l.fail "found a tab character that violates indentation"
          else plainFrom indent fuel text gap l.advance
      else if c == '\n' then
        match gap with
        | .breaks n => plainFrom indent fuel text (.breaks (n + 1)) l.advance
        | _ => plainFrom indent fuel text (.breaks 0) l.advance
      else
        let fresh := match gap with
          | .none => false
          | _ => true
        let onNewLine := match gap with
          | .breaks _ => true
          | _ => false
        if onNewLine && !l.inFlow && (l.column : Int) < indent then .ok (text, gap, l)
        else if documentMark '-' l || documentMark '.' l then .ok (text, gap, l)
        else if fresh && c == '#' then .ok (text, gap, l)
        else if plainEnds l.inFlow l.rest then .ok (text, gap, l)
        else plainFrom indent fuel (c :: (gap.text.reverse ++ text)) .none l.advance

def plainScalar (l : Lexer) : Result Lexer := do
  let l ← l.markKey
  let l := { l with keyAllowed := false }
  let (text, gap, l) ← plainFrom (l.indent + 1) l.rest.length [] .none l
  let l := l.emit (.scalar (String.ofList text.reverse) true)
  match gap with
  | .breaks _ => .ok { l with keyAllowed := true }
  | _ => .ok l

def endOfText : String := "found unexpected end of stream"

def quotedGap : Nat → List Char → Option Nat → Lexer → Result (List Char × Lexer)
  | 0, blanks, breaks, l => .ok ((breaks.map foldBreaks).getD blanks.reverse, l)
  | fuel + 1, blanks, breaks, l =>
    match l.rest with
    | '\n' :: _ => quotedGap fuel blanks (some ((breaks.map (· + 1)).getD 0)) l.advance
    | c :: _ =>
      if isBlank c then
        quotedGap fuel (if breaks.isNone then c :: blanks else blanks) breaks l.advance
      else .ok ((breaks.map foldBreaks).getD blanks.reverse, l)
    | [] => l.fail endOfText

def hexValue? (c : Char) : Option Nat :=
  if '0' ≤ c && c ≤ '9' then some (c.toNat - 48)
  else if 'a' ≤ c && c ≤ 'f' then some (c.toNat - 87)
  else if 'A' ≤ c && c ≤ 'F' then some (c.toNat - 55)
  else none

def hexEscape (width : Nat) (cs : List Char) : Option Char :=
  if cs.length < width then none
  else do
    let n ← (cs.take width).foldlM (fun n c => (hexValue? c).map (n * 16 + ·)) 0
    if n < 0xD800 || (0xDFFF < n && n ≤ 0x10FFFF) then some (Char.ofNat n) else none

def hexFault (width : Nat) (cs : List Char) : String :=
  if (cs.take width).length < width || (cs.take width).any (fun c => (hexValue? c).isNone) then
    "did not find expected hexdecimal number"
  else "found invalid Unicode character escape code"

def simpleEscape? : Char → Option Char
  | '0' => some '\x00'
  | 'a' => some '\x07'
  | 'b' => some '\x08'
  | 't' => some '\t'
  | '\t' => some '\t'
  | 'n' => some '\n'
  | 'v' => some '\x0b'
  | 'f' => some '\x0c'
  | 'r' => some '\r'
  | 'e' => some '\x1b'
  | ' ' => some ' '
  | '"' => some '"'
  | '/' => some '/'
  | '\\' => some '\\'
  | 'N' => some '\u0085'
  | '_' => some '\u00a0'
  | 'L' => some '\u2028'
  | 'P' => some '\u2029'
  | _ => none

def doubleQuotedFrom : Nat → List Char → Lexer → Result (List Char × Lexer)
  | 0, _, l => l.fail endOfText
  | fuel + 1, text, l =>
    if documentMark '-' l || documentMark '.' l then l.fail "found unexpected document indicator"
    else
      match l.rest with
      | [] => l.fail endOfText
      | '"' :: _ => .ok (text.reverse, l.advance)
      | '\\' :: '\n' :: _ =>
        let l := l.skip 2
        doubleQuotedFrom fuel text (l.skip (l.rest.takeWhile isBlank).length)
      | '\\' :: 'x' :: rest =>
        match hexEscape 2 rest with
        | some c => doubleQuotedFrom fuel (c :: text) (l.skip 4)
        | none => l.fail (hexFault 2 rest)
      | '\\' :: 'u' :: rest =>
        match hexEscape 4 rest with
        | some c => doubleQuotedFrom fuel (c :: text) (l.skip 6)
        | none => l.fail (hexFault 4 rest)
      | '\\' :: 'U' :: rest =>
        match hexEscape 8 rest with
        | some c => doubleQuotedFrom fuel (c :: text) (l.skip 10)
        | none => l.fail (hexFault 8 rest)
      | '\\' :: c :: _ =>
        match simpleEscape? c with
        | some c => doubleQuotedFrom fuel (c :: text) (l.skip 2)
        | none => l.fail "found unknown escape character"
      | c :: _ =>
        if isBlank c || c == '\n' then do
          let (gap, l) ← quotedGap l.rest.length [] none l
          doubleQuotedFrom fuel (gap.reverse ++ text) l
        else doubleQuotedFrom fuel (c :: text) l.advance

def singleQuotedFrom : Nat → List Char → Lexer → Result (List Char × Lexer)
  | 0, _, l => l.fail endOfText
  | fuel + 1, text, l =>
    if documentMark '-' l || documentMark '.' l then l.fail "found unexpected document indicator"
    else
      match l.rest with
      | [] => l.fail endOfText
      | '\'' :: '\'' :: _ => singleQuotedFrom fuel ('\'' :: text) (l.skip 2)
      | '\'' :: _ => .ok (text.reverse, l.advance)
      | c :: _ =>
        if isBlank c || c == '\n' then do
          let (gap, l) ← quotedGap l.rest.length [] none l
          singleQuotedFrom fuel (gap.reverse ++ text) l
        else singleQuotedFrom fuel (c :: text) l.advance

def quotedScalar (single : Bool) (l : Lexer) : Result Lexer := do
  let l ← l.markKey
  let l := { l with keyAllowed := false }.advance
  let (text, l) ← if single then singleQuotedFrom (l.rest.length + 1) [] l
    else doubleQuotedFrom (l.rest.length + 1) [] l
  .ok (l.emit (.scalar (String.ofList text) false))

inductive Chomping where
  | clip
  | strip
  | keep
  deriving DecidableEq, Repr, Inhabited

def badHeader : String := "did not find expected comment or line break"

def blockHeader : Nat → Option Chomping → Option Nat → Lexer →
    Result (Chomping × Option Nat × Lexer)
  | 0, _, _, l => l.fail badHeader
  | fuel + 1, chomping, width, l =>
    match l.rest with
    | '+' :: _ =>
      if chomping.isSome then l.fail badHeader else blockHeader fuel (some .keep) width l.advance
    | '-' :: _ =>
      if chomping.isSome then l.fail badHeader else blockHeader fuel (some .strip) width l.advance
    | c :: _ =>
      if c.isDigit then
        if c == '0' then l.fail "found an indentation indicator equal to 0"
        else if width.isSome then l.fail badHeader
        else blockHeader fuel chomping (some (c.toNat - 48)) l.advance
      else
        let blanks := l.rest.takeWhile isBlank
        let l := l.skip blanks.length
        let l := match l.rest with
          | '#' :: _ =>
            if blanks.isEmpty then l else l.skip (l.rest.takeWhile (· != '\n')).length
          | _ => l
        match l.rest with
        | [] => .ok (chomping.getD .clip, width, l)
        | '\n' :: _ => .ok (chomping.getD .clip, width, l.advance)
        | _ => l.fail badHeader
    | [] => .ok (chomping.getD .clip, width, l)

/-- Skip the spaces of indentation and the empty lines in front of a line: how many line ends stood
there and how far in the spaces reached. -/
def blockBreaks (indent : Nat) : Nat → Nat → Nat → Lexer → Result (Nat × Nat × Lexer)
  | 0, breaks, widest, l => .ok (breaks, widest, l)
  | fuel + 1, breaks, widest, l =>
    let spaces := (l.rest.takeWhile (· == ' ')).length
    let taken := if indent = 0 then spaces else min spaces (indent - l.column)
    let l := l.skip taken
    let widest := max widest l.column
    match l.rest with
    | '\t' :: _ =>
      if indent = 0 || l.column < indent then 
        l.fail "found a tab character where an indentation space is expected"
      else .ok (breaks, widest, l)
    | '\n' :: _ => blockBreaks indent fuel (breaks + 1) widest l.advance
    | _ => .ok (breaks, widest, l)

/-- Read the lines of a block scalar. `text` is reversed; `pending` tells whether the line before
ended in a line end that is not written yet, and `breaks` how many empty lines followed it. -/
def blockLines (indent : Nat) (literal : Bool) : Nat → List Char → Bool → Bool → Nat → Lexer →
    Result (List Char × Bool × Nat × Lexer)
  | 0, text, pending, _, breaks, l => .ok (text, pending, breaks, l)
  | fuel + 1, text, pending, leadingBlank, breaks, l =>
    if l.column != indent || l.rest.isEmpty then .ok (text, pending, breaks, l)
    else do
      let startsBlank := (l.rest.head?.map isBlank).getD false
      let joint : List Char :=
        if pending then
          if !literal && !leadingBlank && !startsBlank then foldBreaks breaks
          else '\n' :: List.replicate breaks '\n'
        else List.replicate breaks '\n'
      let content := l.rest.takeWhile (· != '\n')
      let l := l.skip content.length
      let text := content.reverse ++ (joint.reverse ++ text)
      match l.rest with
      | '\n' :: _ =>
        let (breaks, _, l) ← blockBreaks indent l.rest.length 0 0 l.advance
        blockLines indent literal fuel text true startsBlank breaks l
      | _ => .ok (text, false, 0, l)

def blockScalar (literal : Bool) (l : Lexer) : Result Lexer := do
  let l ← l.dropKey
  let l := { l with keyAllowed := true }.advance
  let (chomping, width, l) ← blockHeader l.rest.length.succ none none l
  let base := l.indent.toNat
  let fixed := match width with
    | some n => if 0 ≤ l.indent then base + n else n
    | none => 0
  let (breaks, widest, l) ← blockBreaks fixed l.rest.length 0 0 l
  let indent := if fixed = 0 then max (max widest (l.indent + 1).toNat) 1 else fixed
  let (text, pending, trailing, l) ← blockLines indent literal l.rest.length [] false false breaks l
  let ending : List Char := match chomping with
    | .strip => []
    | .clip => if pending then ['\n'] else []
    | .keep => (if pending then ['\n'] else []) ++ List.replicate trailing '\n'
  .ok (l.emit (.scalar (String.ofList (text.reverse ++ ending)) false))

def isNameChar (c : Char) : Bool := c.isAlphanum || c == '_' || c == '-'

def anchorName (l : Lexer) : Result (String × Lexer) :=
  let name := l.rest.takeWhile isNameChar
  let l := l.skip name.length
  let ends := match l.rest with
    | [] => true
    | c :: _ => isBlank c || c == '\n' || c == '?' || c == ':' || c == ',' || c == ']' || c == '}' ||
      c == '%' || c == '@' || c == '\x60'
  if name.isEmpty || !ends then 
    l.fail "did not find expected alphabetic or numeric character"
  else .ok (String.ofList name, l)

def aliasOrAnchor (make : String → Token) (l : Lexer) : Result Lexer := do
  let l ← l.markKey
  let (name, l) ← anchorName { l with keyAllowed := false }.advance
  .ok (l.emit (make name))

def tag (l : Lexer) : Result Lexer := do
  let l ← l.markKey
  let l := { l with keyAllowed := false }
  let text := l.rest.takeWhile fun c => !(isBlank c || c == '\n' || (l.inFlow && isFlowMark c))
  let l := l.skip text.length
  .ok (l.emit (.tag (String.ofList text)))

def flowStart (t : Token) (l : Lexer) : Result Lexer := do
  let l ← l.markKey
  .ok ({ l with keys := none :: l.keys, keyAllowed := true }.advance.emit t)

def flowEnd (t : Token) (l : Lexer) : Result Lexer := do
  let l ← l.dropKey
  let keys := if l.inFlow then l.keys.tail else l.keys
  .ok ({ l with keys, keyAllowed := false }.advance.emit t)

def flowEntry (l : Lexer) : Result Lexer := do
  let l ← l.dropKey
  .ok ({ l with keyAllowed := true }.advance.emit .flowEntry)

def blockEntry (l : Lexer) : Result Lexer := do
  if !l.inFlow && !l.keyAllowed then 
    l.fail "block sequence entries are not allowed in this context"
  else
    let l ← (l.openBlock l.column none .blockSequenceStart).dropKey
    .ok ({ l with keyAllowed := true }.advance.emit .blockEntry)

def explicitKey (l : Lexer) : Result Lexer := do
  if !l.inFlow && !l.keyAllowed then 
    l.fail "mapping keys are not allowed in this context"
  else
    let l ← (l.openBlock l.column none .blockMappingStart).dropKey
    .ok ({ l with keyAllowed := !l.inFlow }.advance.emit .key)

def value (l : Lexer) : Result Lexer :=
  match l.keys.head? with
  | some (some mark) =>
    let l := (l.emitAt mark .key).openBlock mark.column (some mark) .blockMappingStart
    .ok ({ (l.setKey none) with keyAllowed := false }.advance.emit .value)
  | _ =>
    if !l.inFlow && !l.keyAllowed then 
      l.fail "mapping values are not allowed in this context"
    else
      let l := l.openBlock l.column none .blockMappingStart
      .ok ({ l with keyAllowed := !l.inFlow }.advance.emit .value)

def documentToken (t : Token) (l : Lexer) : Result Lexer := do
  let l ← (l.closeBlocks (-1)).dropKey
  .ok (({ l with keyAllowed := false }.skip 3).emit t)

def directive (l : Lexer) : Result Lexer := do
  let l ← (l.closeBlocks (-1)).dropKey
  let l := { l with keyAllowed := false }
  .ok ((l.skip (l.rest.takeWhile (· != '\n')).length).emit .directive)

def isIndicator (c : Char) : Bool :=
  "-?:,[]\x7b\x7d#&*!|>'\"%@\x60".toList.contains c

def startsPlain (flow : Bool) (c : Char) (rest : List Char) : Bool :=
  !(isBlank c || c == '\n' || isIndicator c) || (c == '-' && !blankAt rest) ||
    (!flow && (c == '?' || c == ':') && !blankAt rest)

def next (l : Lexer) : Result (Option Lexer) := do
  let l := skipToToken l.rest.length l
  let l ← l.dropStaleKeys
  let l := { l with start := l.mark }
  let l := l.closeBlocks l.column
  match l.rest with
  | [] => .ok none
  | c :: rest =>
    if l.column == 0 && c == '%' then some <$> l.directive
    else if documentMark '-' l then some <$> l.documentToken .documentStart
    else if documentMark '.' l then some <$> l.documentToken .documentEnd
    else if c == '[' then some <$> l.flowStart .flowSequenceStart
    else if c == '{' then some <$> l.flowStart .flowMappingStart
    else if c == ']' then some <$> l.flowEnd .flowSequenceEnd
    else if c == '}' then some <$> l.flowEnd .flowMappingEnd
    else if c == ',' && l.inFlow then some <$> l.flowEntry
    else if c == '-' && blankAt rest then some <$> l.blockEntry
    else if c == '?' && blankAt rest then some <$> l.explicitKey
    else if c == ':' && (blankAt rest || l.inFlow) then some <$> l.value
    else if c == '*' then some <$> l.aliasOrAnchor .alias
    else if c == '&' then some <$> l.aliasOrAnchor .anchor
    else if c == '!' then some <$> l.tag
    else if c == '|' && !l.inFlow then some <$> l.blockScalar true
    else if c == '>' && !l.inFlow then some <$> l.blockScalar false
    else if c == '\'' then some <$> l.quotedScalar true
    else if c == '"' then some <$> l.quotedScalar false
    else if startsPlain l.inFlow c rest then some <$> l.plainScalar
    else l.fail "found character that cannot start any token"

def finish (l : Lexer) : Result (List Placed × Mark) := do
  let l := { l with start := l.mark }
  let l ← (l.closeBlocks (-1)).dropKey
  .ok (l.tokens.toList, l.mark)

def run : Nat → Lexer → Result (List Placed × Mark)
  | 0, l => l.fail endOfText
  | fuel + 1, l => do
    match ← l.next with
    | some l => run fuel l
    | none =>
      let l := skipToToken l.rest.length l
      let l ← l.dropStaleKeys
      finish l

def normalizeBreaks : List Char → List Char
  | '\r' :: '\n' :: rest => '\n' :: normalizeBreaks rest
  | '\r' :: rest => '\n' :: normalizeBreaks rest
  | c :: rest => c :: normalizeBreaks rest
  | [] => []

def isPrintable (c : Char) : Bool :=
  let n := c.toNat
  n == 9 || n == 10 || n == 13 || (0x20 ≤ n && n ≤ 0x7E) || n == 0x85 ||
    (0xA0 ≤ n && n ≤ 0xD7FF) || (0xE000 ≤ n && n ≤ 0xFFFD && n != 0xFEFF) || 0x10000 ≤ n

def tokensOf (text : String) : Result (List Placed × Mark) :=
  let cs := match text.toList with
    | '\uFEFF' :: rest => rest
    | cs => cs
  if cs.all isPrintable then
    let cs := normalizeBreaks cs
    run (cs.length + 2) ⟨cs, 0, 0, 0, ⟨1, 1⟩, #[], -1, [], true, [none]⟩
  else unplaced "control characters are not allowed"

end SchemaForge.Yaml.Lexer
