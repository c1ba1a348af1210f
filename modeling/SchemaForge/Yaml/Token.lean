/-! Tokens of YAML text. Where a nested block starts and ends shows in its indentation; the lexer
turns that into tokens of its own, and puts a key token in front of a key once it has seen the colon
behind it. Each token keeps the place it starts at, so that what breaks a rule can be pointed at. -/

namespace SchemaForge.Yaml

inductive Token where
  | directive
  | documentStart
  | documentEnd
  | blockSequenceStart
  | blockMappingStart
  | blockEnd
  | flowSequenceStart
  | flowSequenceEnd
  | flowMappingStart
  | flowMappingEnd
  | blockEntry
  | flowEntry
  | key
  | value
  | alias (name : String)
  | anchor (name : String)
  | tag (text : String)
  | scalar (text : String) (plain : Bool)
  deriving DecidableEq, Repr, Inhabited

structure Mark where
  line : Nat
  column : Nat
  deriving DecidableEq, Repr, Inhabited

structure Placed where
  mark : Mark
  token : Token
  deriving DecidableEq, Repr, Inhabited

structure SyntaxError where
  cause : String
  mark : Option Mark
  deriving DecidableEq, Repr, Inhabited

def SyntaxError.message (e : SyntaxError) : String :=
  match e.mark with
  | some m => s!"{e.cause} at line {m.line} column {m.column}"
  | none => e.cause

abbrev Result := Except SyntaxError

def unplaced {α : Type} (cause : String) : Result α := .error ⟨cause, none⟩

structure KeyMark where
  required : Bool
  token : Nat
  line : Nat
  column : Nat
  index : Nat
  deriving Repr, Inhabited

structure Lexer where
  rest : List Char
  line : Nat
  column : Nat
  index : Nat
  start : Mark
  tokens : Array Placed
  /-- The column of the open block; -1 outside of all blocks. -/
  indent : Int
  indents : List Int
  keyAllowed : Bool
  /-- One entry for the block context and one more for each open flow collection. -/
  keys : List (Option KeyMark)
  deriving Inhabited

namespace Lexer

def mark (l : Lexer) : Mark := ⟨l.line + 1, l.column + 1⟩

def fail {α : Type} (cause : String) (l : Lexer) : Result α := .error ⟨cause, some l.mark⟩

def isBlank (c : Char) : Bool := c == ' ' || c == '\t'

def blankAt (cs : List Char) : Bool :=
  match cs with
  | [] => true
  | c :: _ => isBlank c || c == '\n'

def inFlow (l : Lexer) : Bool := 1 < l.keys.length

def advance (l : Lexer) : Lexer :=
  match l.rest with
  | [] => l
  | c :: rest =>
    if c = '\n' then { l with rest, line := l.line + 1, column := 0, index := l.index + 1 }
    else { l with rest, column := l.column + 1, index := l.index + 1 }

def skip (n : Nat) (l : Lexer) : Lexer := n.fold (fun _ _ l => l.advance) l

def emit (t : Token) (l : Lexer) : Lexer := { l with tokens := l.tokens.push ⟨l.start, t⟩ }

def emitAt (m : KeyMark) (t : Token) (l : Lexer) : Lexer :=
  { l with tokens := l.tokens.insertIdxIfInBounds m.token ⟨⟨m.line + 1, m.column + 1⟩, t⟩ }

def setKey (mark : Option KeyMark) (l : Lexer) : Lexer :=
  { l with keys := mark :: l.keys.tail }

def missingColon : String := "could not find expected ':'"

def dropKey (l : Lexer) : Result Lexer :=
  match l.keys.head? with
  | some (some mark) => if mark.required then l.fail missingColon else .ok (l.setKey none)
  | _ => .ok l

def markKey (l : Lexer) : Result Lexer :=
  if l.keyAllowed then do
    let l ← l.dropKey
    let required := !l.inFlow && l.indent == (l.column : Int)
    .ok (l.setKey (some ⟨required, l.tokens.size, l.line, l.column, l.index⟩))
  else .ok l

def dropStaleKeys (l : Lexer) : Result Lexer := do
  let keys ← l.keys.mapM fun mark =>
    match mark with
    | some m =>
      if m.line < l.line || m.index + 1024 < l.index then
        if m.required then l.fail missingColon else .ok none
      else .ok (some m)
    | none => .ok none
  .ok { l with keys }

def openBlock (column : Nat) (before : Option KeyMark) (t : Token) (l : Lexer) : Lexer :=
  if !l.inFlow && l.indent < (column : Int) then
    let l := match before with
      | some m => l.emitAt m t
      | none => l.emit t
    { l with indents := l.indent :: l.indents, indent := column }
  else l

def closeBlocksFrom (column : Int) (indents : List Int) (l : Lexer) : Lexer :=
  if l.indent ≤ column then l
  else
    match indents with
    | [] => l
    | i :: rest => closeBlocksFrom column rest { l.emit .blockEnd with indent := i, indents := rest }

def closeBlocks (column : Int) (l : Lexer) : Lexer :=
  if l.inFlow then l else closeBlocksFrom column l.indents l

end Lexer

end SchemaForge.Yaml
