import SchemaForge.Template.Expression

/-! Reading templates: texts, comments, and tags with what stands between them. -/

namespace SchemaForge.Template.Reader

inductive Place where
  | top
  | definition
  | block
  | loop
  | filtered
  deriving DecidableEq, Repr, Inhabited

def opening (s : String) : Reader Bool := do
  literal s
  holds (literal "-")

def closing (s : String) : Reader Bool := do
  gap
  (do literal ("-" ++ s); pure true) <|> (do literal s; pure false)

def tagOpening : Reader Bool := opening "\x7b%"

def tagClosing : Reader Bool := closing "%\x7d"

def wordTag (word : String) : Reader Margins := do
  let left ← tagOpening
  symbol word
  let right ← tagClosing
  pure ⟨left, right⟩

def tagWith {α : Type} (word : String) (body : Reader α) : Reader (Margins × α) := do
  let left ← tagOpening
  keyword word
  let a ← body
  let right ← tagClosing
  pure (⟨left, right⟩, a)

def endTag (word : String) : Reader Margins := do
  let left ← tagOpening
  symbol word
  let _ ← optional? name
  let right ← tagClosing
  pure ⟨left, right⟩

def upTo {α : Type} (p : Reader α) (before : List Char) : List Char → Option ((String × α) × List Char)
  | [] => (p []).map fun (a, rest) => ((String.ofList before.reverse, a), rest)
  | c :: cs =>
    match p (c :: cs) with
    | some (a, rest) => some ((String.ofList before.reverse, a), rest)
    | none => upTo p (c :: before) cs

def comment : Reader Node := do
  let left ← opening "\x7b#"
  let (_, right) ← upTo ((do literal "-#\x7d"; pure true) <|> (do literal "#\x7d"; pure false)) []
  pure (.tag ⟨left, right⟩ .comment)

def output : Reader Node := do
  let left ← opening "\x7b\x7b"
  let e ← expressionOrArray
  let right ← closing "\x7d\x7d"
  pure (.tag ⟨left, right⟩ (.output e))

def replacedBlock : Reader Node := do
  let _ ← opening "\x7b\x7b"
  symbol "super()"
  let _ ← closing "\x7d\x7d"
  pure .replaced

def verbatim : Reader Node := do
  let first ← wordTag "raw"
  let (s, last) ← upTo (wordTag "endraw") []
  pure (.verbatim first s last)

def opensTag : List Char → Bool
  | '\x7b' :: c :: _ => c == '\x7b' || c == '%' || c == '#'
  | _ => false

def textChars : List Char → List Char × List Char
  | [] => ([], [])
  | c :: cs =>
    if opensTag (c :: cs) then ([], c :: cs)
    else
      let (text, rest) := textChars cs
      (c :: text, rest)

def text : Reader Node := fun cs =>
  match textChars cs with
  | ([], _) => none
  | (s, rest) => some (.text (String.ofList s), rest)

def assignment (word : String) (outside : Bool) : Reader Node := do
  let (m, tag) ← tagWith word do
    let n ← name
    symbol "="
    let e ← expressionOrArray
    pure (Tag.assign n e outside)
  pure (.tag m tag)

def insertion : Reader Node := do
  let (m, tag) ← tagWith "include" do
    let names ← (List.singleton <$> string) <|> (do
      symbol "["
      let items ← many do
        let s ← string
        symbol ","
        pure s
      let last ← optional? string
      symbol "]"
      pure (items ++ last.toList))
    let optional ← holds (symbol "ignore missing")
    pure (Tag.insert names optional)
  pure (.tag m tag)

def borrowing : Reader Node := do
  let (m, tag) ← tagWith "import" do
    let template ← string
    wideGap
    literal "as"
    wideGap
    let space ← name
    pure (Tag.borrow template space)
  pure (.tag m tag)

def loneWord (word : String) (t : Tag) : Reader Node := do
  let m ← wordTag word
  pure (.tag m t)

def parameter : Reader Parameter := (do
  let n ← name
  symbol "="
  let o ← (.bool <$> boolean) <|> (.string <$> string) <|> (.float <$> float) <|> (.int <$> int)
  pure ⟨n, some o⟩) <|> (do
  let n ← name
  pure ⟨n, none⟩)

def definitionHead : Reader Region := do
  let n ← name
  symbol "("
  let given ← optional? do
    let ps ← commaSeparated parameter
    let _ ← optional? (symbol ",")
    pure ps
  symbol ")"
  pure (.definition n (given.getD []))

def loopHead : Reader (Option String × String × Expr) := do
  let first ← exactName
  let second ← optional? do
    literal ","
    name
  wideGap
  literal "in"
  wideGap
  let source ← loopSource
  match second with
  | some value => pure (some first, value, source)
  | none => pure (none, first, source)

section Content

variable (nodes : Place → Reader (List Node))

def loop : Reader Node := do
  let (first, key, value, source) ← tagWith "for" loopHead
  let body ← nodes .loop
  let empties ← many do
    let _ ← wordTag "else"
    nodes .loop
  let last ← wordTag "endfor"
  pure (.region first (.loop key value source empties.getLast?) body last)

def branch (place : Place) : Reader Node := do
  let (m, condition) ← tagWith "if" expression
  let body ← nodes place
  let others ← many do
    let (m, condition) ← tagWith "elif" expression
    let body ← nodes place
    pure (Arm.mk m condition body)
  let otherwise ← optional? do
    let m ← wordTag "else"
    let body ← nodes place
    pure (m, body)
  let last ← wordTag "endif"
  pure (.branch (.mk m condition body :: others) otherwise last)

def filterSection : Reader Node := do
  let (first, f) ← tagWith "filter" sectionFilter
  let body ← nodes .filtered
  let last ← wordTag "endfilter"
  pure (.region first (.filtered f) body last)

def block : Reader Node := do
  let (first, n) ← tagWith "block" name
  let body ← nodes .block
  let last ← endTag "endblock"
  pure (.region first (.block n) body last)

def definition : Reader Node := do
  let (first, head) ← tagWith "macro" definitionHead
  let body ← nodes .definition
  let last ← endTag "endmacro"
  pure (.region first head body last)

def placed : Place → Reader Node
  | .top => borrowing <|> definition nodes <|> block nodes
  | .block => replacedBlock <|> block nodes
  | .loop => loneWord "break" .leaveLoop <|> loneWord "continue" .nextItem
  | _ => failure

def node (place : Place) : Reader Node :=
  placed nodes place <|> insertion <|> output <|> comment <|> assignment "set" false <|>
    assignment "set_global" true <|> branch nodes place <|> loop nodes <|> filterSection nodes <|>
    verbatim <|> text

end Content

def nodesUpTo : Nat → Place → Reader (List Node)
  | 0, _ => failure
  | depth + 1, place => many (node (nodesUpTo depth) place)

def read? (source : String) : Option (List Node) :=
  let cs := source.toList
  match nodesUpTo (cs.length + 1) .top cs with
  | some (nodes, []) => some nodes
  | _ => none

end SchemaForge.Template.Reader
