import SchemaForge.Script.Program
import SchemaForge.Script.Token

/-! Scripts from text. A script that does not read, or that breaks a rule on names and jumps, is
refused as a whole and without a reason. -/

namespace SchemaForge.Script

open Text (Utf8.ofString)

namespace Reader

structure Stream where
  rest : List Lexeme
  line : Nat

abbrev Read := StateT Stream Option

def peek : Read (Option Token) := do return (← get).rest.head?.map (·.token)

def nextLine : Read Nat := do
  let s ← get
  return (s.rest.head?.map (·.line)).getD s.line

def take : Read Token := do
  match (← get).rest with
  | lexeme :: rest => set (⟨rest, lexeme.line⟩ : Stream); return lexeme.token
  | [] => failure

def isSymbol (text : String) : Option Token → Bool
  | some (.symbol s) => s == text
  | _ => false

def isKeyword (text : String) : Option Token → Bool
  | some (.keyword s) => s == text
  | _ => false

def trySymbol (text : String) : Read Bool := do
  if isSymbol text (← peek) then let _ ← take; return true else return false

def tryKeyword (text : String) : Read Bool := do
  if isKeyword text (← peek) then let _ ← take; return true else return false

def symbol (text : String) : Read Unit := do if ← trySymbol text then pure () else failure

def keyword (text : String) : Read Unit := do if ← tryKeyword text then pure () else failure

def name : Read String := do
  match ← take with
  | .name s => return s
  | _ => failure

def endsBlock : Option Token → Bool
  | none => true
  | some (.keyword s) => s == "end" || s == "else" || s == "elseif" || s == "until"
  | _ => false

def unaryOp? : Option Token → Option UnaryOp
  | some (.symbol "-") => some .negate
  | some (.symbol "~") => some .complement
  | some (.symbol "#") => some .length
  | some (.keyword "not") => some .not
  | _ => none

inductive Joiner where
  | op (op : BinaryOp)
  | and
  | or

def joiner? : Option Token → Option (Joiner × Nat × Nat)
  | some (.keyword "or") => some (.or, 1, 1)
  | some (.keyword "and") => some (.and, 2, 2)
  | some (.symbol s) =>
    match s with
    | "<" => some (.op .less, 3, 3)
    | ">" => some (.op .greater, 3, 3)
    | "<=" => some (.op .lessEq, 3, 3)
    | ">=" => some (.op .greaterEq, 3, 3)
    | "~=" => some (.op .notEqual, 3, 3)
    | "==" => some (.op .equal, 3, 3)
    | "|" => some (.op .bitOr, 4, 4)
    | "~" => some (.op .bitXor, 5, 5)
    | "&" => some (.op .bitAnd, 6, 6)
    | "<<" => some (.op .shiftLeft, 7, 7)
    | ">>" => some (.op .shiftRight, 7, 7)
    | ".." => some (.op .concat, 9, 8)
    | "+" => some (.op .add, 10, 10)
    | "-" => some (.op .sub, 10, 10)
    | "*" => some (.op .mul, 11, 11)
    | "/" => some (.op .div, 11, 11)
    | "//" => some (.op .floorDiv, 11, 11)
    | "%" => some (.op .mod, 11, 11)
    | "^" => some (.op .pow, 14, 13)
    | _ => none
  | _ => none

def unaryStrength : Nat := 12

def stringExpr (s : String) : Expr := .string (Utf8.ofString s)

def isTarget : Expr → Bool
  | .name .. => true
  | .index .. => true
  | _ => false

def isCall : Expr → Bool
  | .call .. => true
  | .method .. => true
  | _ => false

def names (fuel : Nat) (before : List String) : Read (List String) := do
  let s ← name
  match fuel with
  | 0 => failure
  | fuel + 1 =>
    if ← trySymbol "," then names fuel (s :: before) else return (s :: before).reverse

/-- Local names with their marks: all that are marked are fixed, and at most one is to be closed. -/
def markedNames (fuel : Nat) (before fixed : List String) (closed : Option String) :
    Read (List String × List String × Option String) := do
  let s ← name
  let (fixed, closed) ← if ← trySymbol "<" then do
      let mark ← name
      symbol ">"
      if mark == "const" then pure (s :: fixed, closed)
      else if mark == "close" && closed.isNone then pure (s :: fixed, some s)
      else failure
    else pure (fixed, closed)
  match fuel with
  | 0 => failure
  | fuel + 1 =>
    if ← trySymbol "," then markedNames fuel (s :: before) fixed closed
    else return ((s :: before).reverse, fixed, closed)

def parameters (fuel : Nat) (before : List String) : Read (List String × Bool) := do
  if ← trySymbol "..." then
    symbol ")"
    return (before.reverse, true)
  else
    let s ← name
    match fuel with
    | 0 => failure
    | fuel + 1 =>
      if ← trySymbol "," then parameters fuel (s :: before)
      else
        symbol ")"
        return ((s :: before).reverse, false)

mutual

def expr (fuel limit : Nat) : Read Expr := do
  match fuel with
  | 0 => failure
  | fuel + 1 =>
    let left ← match unaryOp? (← peek) with
      | some op => do
        let _ ← take
        let line := (← get).line
        let operand ← expr fuel unaryStrength
        pure (.unary op operand line)
      | none => simple fuel
    join fuel limit left

def join (fuel limit : Nat) (left : Expr) : Read Expr := do
  match fuel with
  | 0 => failure
  | fuel + 1 =>
    match joiner? (← peek) with
    | none => return left
    | some (joiner, strength, after) =>
      if strength ≤ limit then return left
      else
        let _ ← take
        let line := (← get).line
        let right ← expr fuel after
        let whole := match joiner with
          | .op op => Expr.binary op left right line
          | .and => .and left right
          | .or => .or left right
        join fuel limit whole

def simple (fuel : Nat) : Read Expr := do
  match fuel with
  | 0 => failure
  | fuel + 1 =>
    match ← peek with
    | some (.number v) => let _ ← take; return .number v
    | some (.string b) => let _ ← take; return .string b
    | some (.symbol "...") => let _ ← take; return .varargs
    | some (.symbol "\x7b") => table fuel
    | some (.keyword "nil") => let _ ← take; return .nil
    | some (.keyword "true") => let _ ← take; return .bool true
    | some (.keyword "false") => let _ ← take; return .bool false
    | some (.keyword "function") => do
      let _ ← take
      return .function (← functionBody fuel [])
    | _ => suffixed fuel

def suffixed (fuel : Nat) : Read Expr := do
  match fuel with
  | 0 => failure
  | fuel + 1 =>
    let first ← match ← take with
      | .name s => pure (Expr.name s (← get).line)
      | .symbol "(" => do
        let inner ← expr fuel 0
        symbol ")"
        pure (Expr.single inner)
      | _ => failure
    suffixes fuel first

def suffixes (fuel : Nat) (e : Expr) : Read Expr := do
  match fuel with
  | 0 => failure
  | fuel + 1 =>
    match ← peek with
    | some (.symbol ".") => do
      let _ ← take
      let key ← name
      suffixes fuel (.index e (stringExpr key) (← get).line)
    | some (.symbol "[") => do
      let _ ← take
      let key ← expr fuel 0
      symbol "]"
      suffixes fuel (.index e key (← get).line)
    | some (.symbol ":") => do
      let _ ← take
      let key ← name
      let line ← nextLine
      let args ← arguments fuel
      suffixes fuel (.method e key args line)
    | some (.symbol "(") | some (.symbol "\x7b") | some (.string _) => do
      let line ← nextLine
      let args ← arguments fuel
      suffixes fuel (.call e args line)
    | _ => return e

def arguments (fuel : Nat) : Read (List Expr) := do
  match fuel with
  | 0 => failure
  | fuel + 1 =>
    match ← peek with
    | some (.string b) => let _ ← take; return [.string b]
    | some (.symbol "\x7b") => return [← table fuel]
    | some (.symbol "(") => do
      let _ ← take
      if ← trySymbol ")" then return []
      else
        let args ← exprs fuel []
        symbol ")"
        return args
    | _ => failure

def exprs (fuel : Nat) (before : List Expr) : Read (List Expr) := do
  match fuel with
  | 0 => failure
  | fuel + 1 =>
    let e ← expr fuel 0
    if ← trySymbol "," then exprs fuel (e :: before) else return (e :: before).reverse

def table (fuel : Nat) : Read Expr := do
  match fuel with
  | 0 => failure
  | fuel + 1 =>
    let line ← nextLine
    symbol "\x7b"
    return .table (← items fuel []) line

def items (fuel : Nat) (before : List TableItem) : Read (List TableItem) := do
  match fuel with
  | 0 => failure
  | fuel + 1 =>
    if ← trySymbol "\x7d" then return before.reverse
    else
      let item ← match (← get).rest with
        | ⟨.name key, _⟩ :: ⟨.symbol "=", _⟩ :: _ => do
          let _ ← take
          let _ ← take
          pure (TableItem.keyed (stringExpr key) (← expr fuel 0))
        | ⟨.symbol "[", _⟩ :: _ => do
          let _ ← take
          let key ← expr fuel 0
          symbol "]"
          symbol "="
          pure (TableItem.keyed key (← expr fuel 0))
        | _ => pure (TableItem.positional (← expr fuel 0))
      if (← trySymbol ",") || (← trySymbol ";") then items fuel (item :: before)
      else
        symbol "\x7d"
        return (item :: before).reverse

def functionBody (fuel : Nat) (leading : List String) : Read FunctionBody := do
  match fuel with
  | 0 => failure
  | fuel + 1 =>
    symbol "("
    let (ps, variadic) ← if ← trySymbol ")" then pure ([], false) else parameters fuel []
    let body ← block fuel []
    keyword "end"
    return .mk (leading ++ ps) variadic body

def block (fuel : Nat) (before : List Stat) : Read (List Stat) := do
  match fuel with
  | 0 => failure
  | fuel + 1 =>
    let next ← peek
    if endsBlock next then return before.reverse
    else if isKeyword "return" next then
      let _ ← take
      let line := (← get).line
      let follow ← peek
      let values ← if endsBlock follow || isSymbol ";" follow then pure [] else exprs fuel []
      let _ ← trySymbol ";"
      if endsBlock (← peek) then return (Stat.returns values line :: before).reverse
      else failure
    else if ← trySymbol ";" then block fuel before
    else
      let s ← stat fuel
      block fuel (s :: before)

def stat (fuel : Nat) : Read Stat := do
  match fuel with
  | 0 => failure
  | fuel + 1 =>
    match ← peek with
    | some (.symbol "::") => do
      let _ ← take
      let l ← name
      symbol "::"
      return .label l
    | some (.keyword "break") => let _ ← take; return .leave
    | some (.keyword "goto") => do
      let _ ← take
      return .goto (← name)
    | some (.keyword "do") => do
      let _ ← take
      let body ← block fuel []
      keyword "end"
      return .block body
    | some (.keyword "while") => do
      let _ ← take
      let condition ← expr fuel 0
      keyword "do"
      let body ← block fuel []
      keyword "end"
      return .whileLoop condition body
    | some (.keyword "repeat") => do
      let _ ← take
      let body ← block fuel []
      keyword "until"
      return .repeatLoop body (← expr fuel 0)
    | some (.keyword "if") => let _ ← take; branch fuel
    | some (.keyword "for") => let _ ← take; forLoop fuel
    | some (.keyword "function") => do
      let _ ← take
      let first ← name
      functionName fuel (.name first (← get).line)
    | some (.keyword "local") => do
      let _ ← take
      let line := (← get).line
      if ← tryKeyword "function" then
        let s ← name
        return .localFunction s (← functionBody fuel [])
      else
        let (ns, fixed, closed) ← markedNames fuel [] [] none
        let values ← if ← trySymbol "=" then exprs fuel [] else pure []
        return .locals ns fixed closed values line
    | _ => do
      let e ← suffixed fuel
      let next ← peek
      if isSymbol "=" next || isSymbol "," next then assignment fuel [e]
      else if isCall e then return .call e
      else failure

def assignment (fuel : Nat) (before : List Expr) : Read Stat := do
  match fuel with
  | 0 => failure
  | fuel + 1 =>
    if !before.all isTarget then failure
    else if ← trySymbol "," then
      let e ← suffixed fuel
      assignment fuel (e :: before)
    else
      symbol "="
      let line := (← get).line
      return .assign before.reverse (← exprs fuel []) line

def branch (fuel : Nat) : Read Stat := do
  match fuel with
  | 0 => failure
  | fuel + 1 =>
    let condition ← expr fuel 0
    keyword "then"
    let body ← block fuel []
    if ← tryKeyword "elseif" then return .choose condition body [← branch fuel]
    else
      let otherwise ← if ← tryKeyword "else" then block fuel [] else pure []
      keyword "end"
      return .choose condition body otherwise

def forLoop (fuel : Nat) : Read Stat := do
  match fuel with
  | 0 => failure
  | fuel + 1 =>
    let line := (← get).line
    let ns ← names fuel []
    match ns with
    | [n] =>
      if ← trySymbol "=" then
        let first ← expr fuel 0
        symbol ","
        let last ← expr fuel 0
        let step ← if ← trySymbol "," then expr fuel 0 else pure (.number (.int 1))
        keyword "do"
        let body ← block fuel []
        keyword "end"
        return .countLoop n first last step body line
      else eachLoop fuel ns line
    | _ => eachLoop fuel ns line

def eachLoop (fuel : Nat) (ns : List String) (line : Nat) : Read Stat := do
  match fuel with
  | 0 => failure
  | fuel + 1 =>
    keyword "in"
    let source ← exprs fuel []
    keyword "do"
    let body ← block fuel []
    keyword "end"
    return .eachLoop ns source body line

def functionName (fuel : Nat) (target : Expr) : Read Stat := do
  match fuel with
  | 0 => failure
  | fuel + 1 =>
    if ← trySymbol "." then
      let key ← name
      functionName fuel (.index target (stringExpr key) (← get).line)
    else if ← trySymbol ":" then
      let key ← name
      let line := (← get).line
      return .assign [.index target (stringExpr key) line]
        [.function (← functionBody fuel ["self"])] line
    else
      let line := (← get).line
      return .assign [target] [.function (← functionBody fuel [])] line

end

def fuelFor (tokens : List Lexeme) : Nat := 16 * (tokens.length + 2)

end Reader

namespace Scoping

structure Place where
  /-- The local names in sight, the innermost first, and whether they are fixed. -/
  names : List (String × Bool)
  variadic : Bool
  inLoop : Bool
  /-- The labels that a jump may go to from here. -/
  targets : List String
  labels : List String

def declares : Stat → Bool
  | .locals .. => true
  | .localFunction .. => true
  | _ => false

def isLabel : Stat → Bool
  | .label _ => true
  | _ => false

/-- The labels ahead that a jump may go to: it must not pass a declaration, unless only labels
follow up to the end of a block. The names of a `lingering` block do not end with it. -/
def ahead (lingering passed : Bool) : List Stat → List String
  | [] => []
  | .label l :: rest =>
    if !passed || (!lingering && rest.all isLabel) then l :: ahead lingering passed rest
    else ahead lingering passed rest
  | s :: rest => ahead lingering (passed || declares s) rest

def mayAssign (p : Place) : Expr → Bool
  | .name n _ =>
    match p.names.lookup n with
    | some fixed => !fixed
    | none => true
  | _ => true

def Place.declare (p : Place) (names fixed : List String) : Place :=
  { p with names := names.reverse.map (fun n => (n, fixed.contains n)) ++ p.names }

def Place.after (p : Place) : Stat → Place
  | .locals names fixed _ _ _ => p.declare names fixed
  | .localFunction name _ => p.declare [name] []
  | .label l => { p with labels := l :: p.labels, targets := l :: p.targets }
  | _ => p

def Place.enter (p : Place) (parameters : List String) (variadic : Bool) : Place :=
  (⟨p.names, variadic, false, [], []⟩ : Place).declare parameters []

def Place.looping (p : Place) : Place := { p with inLoop := true }

mutual

def expr (p : Place) : Expr → Bool
  | .varargs => p.variadic
  | .function body => functionBody p body
  | .index object key _ => expr p object && expr p key
  | .call f args _ => expr p f && exprs p args
  | .method object _ args _ => expr p object && exprs p args
  | .unary _ e _ => expr p e
  | .binary _ l r _ => expr p l && expr p r
  | .and l r => expr p l && expr p r
  | .or l r => expr p l && expr p r
  | .single e => expr p e
  | .table is _ => items p is
  | .nil => true
  | .bool _ => true
  | .number _ => true
  | .string _ => true
  | .name .. => true

def exprs (p : Place) : List Expr → Bool
  | [] => true
  | e :: rest => expr p e && exprs p rest

def items (p : Place) : List TableItem → Bool
  | [] => true
  | .positional v :: rest => expr p v && items p rest
  | .keyed k v :: rest => expr p k && expr p v && items p rest

def functionBody (p : Place) : FunctionBody → Bool
  | .mk ps variadic body => block (p.enter ps variadic) false body

def block (p : Place) (lingering : Bool) : List Stat → Bool
  | [] => true
  | s :: rest =>
    stat { p with targets := ahead lingering false rest ++ p.targets } s &&
      block (p.after s) lingering rest

def stat (p : Place) : Stat → Bool
  | .locals _ _ _ values _ => exprs p values
  | .assign targets values _ => targets.all (mayAssign p) && exprs p targets && exprs p values
  | .call e => expr p e
  | .block body => block p false body
  | .whileLoop c body => expr p c && block p.looping false body
  | .repeatLoop body c => block p.looping true body && expr (body.foldl Place.after p) c
  | .choose c body otherwise => expr p c && block p false body && block p false otherwise
  | .countLoop n a b c body _ =>
    expr p a && expr p b && expr p c && block (p.looping.declare [n] []) false body
  | .eachLoop ns source body _ => exprs p source && block (p.looping.declare ns []) false body
  | .localFunction n body => functionBody (p.declare [n] []) body
  | .returns values _ => exprs p values
  | .leave => p.inLoop
  | .goto l => p.targets.contains l
  | .label l => !p.labels.contains l

end

end Scoping

def Program.read? (source : String) : Option Program :=
  match Token.all? source with
  | none => none
  | some (tokens, _) =>
    match (Reader.block (Reader.fuelFor tokens) []).run ⟨tokens, 1⟩ with
    | some (body, ⟨[], _⟩) =>
      if Scoping.block (⟨[], true, false, [], []⟩ : Scoping.Place) false body then some ⟨body⟩ else none
    | _ => none

end SchemaForge.Script
