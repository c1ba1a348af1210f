import SchemaForge.Template.Symbols

/-! Reading expressions. Each form is read with the reader for whole expressions at hand, which
stands in parentheses and as an argument; at the end the knot is tied with a limit on how deep
expressions stand in one another. -/

namespace SchemaForge.Template.Reader

def groupOps {α ω : Type} (tight : ω → Bool) (join : ω → α → α → α) (pending : Option (α × ω))
    (current : α) : List (ω × α) → α
  | [] =>
    match pending with
    | some (a, op) => join op a current
    | none => current
  | (op, a) :: rest =>
    if tight op then groupOps tight join pending (join op current a) rest
    else
      let closed := match pending with
        | some (b, before) => join before b current
        | none => current
      groupOps tight join (some (closed, op)) a rest

def isTight : MathOp → Bool
  | .add => false
  | .sub => false
  | _ => true

def mathOp : Reader MathOp :=
  (do symbol "+"; pure .add) <|> (do symbol "-"; pure .sub) <|> (do symbol "*"; pure .mul) <|>
    (do symbol "/"; pure .div) <|> (do symbol "%"; pure .mod)

def mathChain {α : Type} (p : Reader α) (join : MathOp → α → α → α) : Reader α := do
  let first ← p
  let rest ← many do
    let op ← mathOp
    let a ← p
    pure (op, a)
  pure (groupOps isTight join none first rest)

section Forms

variable (whole array : Reader Expr)

def argument : Reader (String × Expr) := do
  let n ← name
  symbol "="
  let e ← whole <|> array
  pure (n, e)

def arguments : Reader (List (String × Expr)) := do
  symbol "("
  let given ← optional? do
    let args ← commaSeparated (argument whole array)
    let _ ← optional? (symbol ",")
    pure args
  symbol ")"
  pure ((given.getD []).foldl (fun args a => args.filter (·.1 != a.1) ++ [a]) [])

def call : Reader Call := do
  let n ← name
  let args ← arguments whole array
  pure (.mk n args)

def filter : Reader Call := do
  symbol "|"
  call whole array <|> (do let n ← name; pure (.mk n []))

def filtered (p : Reader Operand) : Reader Expr := do
  let o ← p
  let fs ← many (filter whole array)
  pure (.mk o false fs)

def testCall : Reader (String × List Expr) := do
  let n ← name
  let args ← optional? do
    symbol "("
    let args ← commaSeparated (whole <|> array)
    symbol ")"
    pure args
  pure (n, args.getD [])

def negatedTest : Reader Operand := do
  let p ← path
  symbol "is"
  symbol "not"
  let (n, args) ← testCall whole array
  pure (.test true p n args)

def plainTest : Reader Operand := do
  let p ← path
  symbol "is"
  let (n, args) ← testCall whole array
  pure (.test false p n args)

def expansion : Reader Operand := do
  let space ← name
  symbol "::"
  let n ← name
  let args ← arguments whole array
  pure (.expand space n args)

def boolean : Reader Bool :=
  (do symbol "true"; pure true) <|> (do symbol "false"; pure false) <|>
    (do symbol "True"; pure true) <|> (do symbol "False"; pure false)

def simple : Reader Operand :=
  (.bool <$> boolean) <|> negatedTest whole array <|> plainTest whole array <|>
    expansion whole array <|> (.call <$> call whole array) <|> (.path <$> path) <|>
    (.float <$> float) <|> (.int <$> int)

def arithmetic : Nat → Reader Operand
  | 0 => failure
  | depth + 1 =>
    mathChain ((do
      symbol "("
      let o ← arithmetic depth
      symbol ")"
      pure o) <|> simple whole array)
      fun op a b => .math op (.plain a) (.plain b)

def filteredArithmetic : Reader Expr := do
  let depth := (← get).length
  filtered whole array (arithmetic whole array depth)

def concatPart : Reader Operand :=
  (.call <$> call whole array) <|> (.float <$> float) <|> (.int <$> int) <|>
    (.string <$> string) <|> (.path <$> path)

def joinTexts : List Operand → List Operand
  | [] => []
  | .string s :: rest =>
    match joinTexts rest with
    | .string t :: rest => .string (s ++ t) :: rest
    | rest => .string s :: rest
  | o :: rest => o :: joinTexts rest

def concatenation : Reader Operand := do
  let first ← concatPart whole array
  let rest ← many do
    symbol "~"
    concatPart whole array
  if rest.isEmpty then failure
  match joinTexts (first :: rest) with
  | [.string s] => pure (.string s)
  | parts => pure (.concat parts)

def filteredText : Reader Expr :=
  filtered whole array (concatenation whole array <|> (.string <$> string))

def comparand : Reader Expr :=
  filteredText whole array <|>
    mathChain (filteredArithmetic whole array) fun op a b => .plain (.math op a b)

def comparisonOp : Reader (Expr → Expr → Operand) :=
  (do symbol "<="; pure (.order .le)) <|> (do symbol ">="; pure (.order .ge)) <|>
    (do symbol "<"; pure (.order .lt)) <|> (do symbol ">"; pure (.order .gt)) <|>
    (do symbol "!="; pure (.equal false)) <|> (do symbol "=="; pure (.equal true))

def comparison : Reader Expr := do
  let lhs ← comparand whole array
  let behind ← optional? do
    let op ← comparisonOp
    let rhs ← comparand whole array
    pure (op, rhs)
  match behind with
  | some (op, rhs) => pure (.plain (op lhs rhs))
  | none => pure lhs

def membership : Reader Expr := do
  let lhs ← filteredText whole array <|> filteredArithmetic whole array
  let negated ← holds (keyword "not")
  symbol "in"
  let rhs ← filteredText whole array <|> array <|> ((fun p => .plain (.path p)) <$> path)
  pure (.plain (.member negated lhs rhs))

/-- A condition, which `not` may stand before, or an expression in parentheses. -/
def condition : Reader Expr :=
  (do
    let negated ← holds (keyword "not")
    let e ← membership whole array <|> comparison whole array
    pure (e.withNegated negated)) <|> (do
    symbol "("
    let e ← whole
    symbol ")"
    pure (e.withNegated false))

def logicOp : Reader LogicOp :=
  (do keyword "or"; pure .or) <|> (do keyword "and"; pure .and)

def wholeOf : Reader Expr := do
  let first ← condition whole array
  let rest ← many do
    let op ← logicOp
    let e ← condition whole array
    pure (op, e)
  pure (groupOps (· == .and) (fun op a b => .plain (.logic op a b)) none first rest)

def arrayOf : Reader Expr :=
  filtered whole array do
    symbol "["
    let items ← many do
      let e ← condition whole array
      symbol ","
      pure e
    let last ← optional? (condition whole array)
    symbol "]"
    pure (.array (items ++ last.toList))

end Forms

def expressions : Nat → Reader Expr × Reader Expr
  | 0 => (failure, failure)
  | depth + 1 =>
    let (whole, array) := expressions depth
    (wholeOf whole array, arrayOf whole array)

def expression : Reader Expr := do
  (expressions ((← get).length + 1)).1

def expressionOrArray : Reader Expr := do
  let (whole, array) := expressions ((← get).length + 1)
  whole <|> array

def loopSource : Reader Expr := do
  let (whole, array) := expressions ((← get).length + 1)
  filteredArithmetic whole array <|> arrayOf whole array

def sectionFilter : Reader Call := do
  let (whole, array) := expressions ((← get).length + 1)
  call whole array <|> (do let n ← name; pure (.mk n []))

end SchemaForge.Template.Reader
