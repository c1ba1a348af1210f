import SchemaForge.Template.Arithmetic
import SchemaForge.Template.Builtins
import SchemaForge.Template.Compile
import SchemaForge.Template.Scope

/-! Rendering. A template may call filters and functions from outside, which have a state of their
own; rendering threads that state through all calls in the order in which they are made. -/

namespace SchemaForge.Template

open Json (Value Object Number)

/-- The filters and functions from outside, which come before the ones that are always there. A
call yields the state behind it, and a value or the texts of its failure; none if it has ended the
program. -/
structure Callbacks (σ : Type) where
  filter? : String → Option (σ → Value → Args → σ × Except (List String) Value)
  function? : String → Option (σ → Args → σ × Except (List String) Value)

structure Setting (σ : Type) where
  template : Template
  context : Object
  callbacks : Callbacks σ
  system : System

/-- What the template itself changes: its variables, and what the computer has been asked, the latest
first. -/
structure Standing where
  scopes : List Scope
  asked : List Request

structure Progress (σ : Type) extends Standing where
  outside : σ

abbrev Eval (σ α : Type) := ExceptT Failure (StateM (Progress σ)) α

/-- How rendering goes on behind a node: with the next node, the next item or behind the loop. -/
inductive Flow where
  | on
  | nextItem
  | leaveLoop
  deriving DecidableEq, Repr, Inhabited

namespace Render

variable {σ : Type}

def outcome {α : Type} (x : Eval σ α) : Eval σ (Except Failure α) :=
  ExceptT.mk do
    let r ← x.run
    pure (.ok r)

def inside {α : Type} (wrap : Failure → Failure) (x : Eval σ α) : Eval σ α := do
  match ← outcome x with
  | .ok a => pure a
  | .error e => throw (wrap e)

def ofExcept {α : Type} (x : Except Failure α) : Eval σ α :=
  match x with
  | .ok a => pure a
  | .error e => throw e

def ofUse {α : Type} (x : Use α) : Eval σ α :=
  match x with
  | .ok a => pure a
  | .error e => throw (.builtin e.message)

def callOut {α : Type} (f : σ → σ × Except (List String) α) : Eval σ α := do
  let p ← get
  let (outside, r) := f p.outside
  set { p with outside }
  match r with
  | .ok a => pure a
  | .error texts => throw (.callback texts)

def told (st : Setting σ) (t : Told) : Eval σ Value :=
  match t with
  | .value v => ofUse v
  | .environment name next => ofUse (next (st.system.environment name))
  | .answer r next => do
    let p ← get
    set { p with asked := r :: p.asked }
    ofUse (next (st.system.answer p.asked r))

def withScopes (f : List Scope → List Scope) : Eval σ Unit :=
  modify fun p => { p with scopes := f p.scopes }

def push (s : Scope) : Eval σ Unit := withScopes (s :: ·)

def pop : Eval σ Unit := withScopes List.tail

def find (st : Setting σ) (path : String) : Eval σ Value := do
  ofExcept (findVariable st.template.name st.context (← get).scopes path)

def filterOf (st : Setting σ) (name : String) : Eval σ (Value → Args → Eval σ Value) :=
  match st.callbacks.filter? name with
  | some f => pure fun v args => callOut fun s => f s v args
  | none =>
    match builtinFilters.lookup name with
    | some f => pure fun v args => ofUse (f v args)
    | none => throw (.noFilter name)

def functionOf (st : Setting σ) (name : String) : Eval σ (Args → Eval σ Value) :=
  match st.callbacks.function? name with
  | some f => pure fun args => callOut fun s => f s args
  | none =>
    match builtinFunctions.lookup name with
    | some f => pure fun args => told st (f args)
    | none => throw (.noFunction name)

def testOf (name : String) : Eval σ (Option Value → List Value → Eval σ Bool) :=
  match builtinTests.lookup name with
  | some t => pure fun v args => ofUse (t v args)
  | none => throw (.noTest name)

/-- Whether the first filter says what stands for a variable that is not there. -/
def hasDefault (e : Expr) : Bool := (e.filters.head?.map fun c => c.name == "default").getD false

def isSilent (c : Call) : Bool := c.name == "safe" || c.name == "default"

def numberOf? : Value → Option Number
  | .number n => some n
  | _ => none

def concatText? : Value → Option String
  | .string s => some s
  | .number n => some n.text
  | _ => none

def isIn (v container : Value) : Except Failure Bool :=
  match container with
  | .array items => .ok (items.any (same v))
  | .string s =>
    match v with
    | .string t => .ok (Text.contains s t)
    | v => .error (.memberOfText v)
  | .object o =>
    match v with
    | .string key => .ok (Object.contains o key)
    | v => .error (.memberOfObject v)
  | _ => .error .memberOfOther

def sourceName (o : Operand) : Except Failure String :=
  match o with
  | .path p => .ok p
  | .call c => .ok c.name
  | .array _ => .ok "an array literal"
  | o => .error (.loopOver o)

def itemsOf (source : String) (keyed : Bool) (v : Value) :
    Except Failure (List (Option String × Value)) :=
  match v with
  | .array items => if keyed then .error (.keysOfList source) else .ok (items.map ((none, ·)))
  | .string s =>
    if keyed then .error (.keysOfList source)
    else .ok ((Text.graphemes s).map fun g => (none, .string g))
  | .object o =>
    if keyed then .ok (o.map fun e => (some e.1, e.2)) else .error (.keyMissing source)
  | _ => .error (.loopOverOther source)

def rounds (key : Option String) (name : String) (length : Nat) (body : Eval σ (String × Flow)) :
    Nat → String → List (Option String × Value) → Eval σ String
  | _, done, [] => pure done
  | i, done, (itemKey, item) :: rest => do
    let named := match key, itemKey with
      | some k, some value => some (k, value)
      | _, _ => none
    push ⟨.loop ⟨named, name, item, i, length⟩, []⟩
    let (s, flow) ← body
    pop
    if flow == .leaveLoop then pure (done ++ s)
    else rounds key name length body (i + 1) (done ++ s) rest

variable (st : Setting σ)

mutual

def value : Nat → Expr → Eval σ Value
  | 0, _ => throw .tooDeep
  | n + 1, e => do
    match ← operandValue n e with
    | none => pure (.bool true)
    | some v => do
      let v ← applyFilters n v e.filters
      pure (if e.negated then .bool (!isTruthy v) else v)

/-- The value in front of the filters; nothing if `not` stands before a variable that is not
there. -/
def operandValue : Nat → Expr → Eval σ (Option Value)
  | 0, _ => throw .tooDeep
  | n + 1, e =>
    match e.operand with
    | .path p => do
      match ← outcome (find st p) with
      | .ok .null => if hasDefault e then some <$> defaultValue n e else pure (some .null)
      | .ok v => pure (some v)
      | .error failure =>
        if hasDefault e then some <$> defaultValue n e
        else if e.negated then pure none
        else throw failure
    | .string s => pure (some (.string s))
    | .int i => pure (some (.number (.int i)))
    | .float x => pure (some (.number (.float x)))
    | .bool b => pure (some (.bool b))
    | .array items => do
      let vs ← items.mapM (value n)
      pure (some (.array vs))
    | .concat parts => do
      let texts ← parts.mapM (partValue n)
      pure (some (.string (String.join texts)))
    | .member negated lhs rhs => do
      let b ← membership n negated lhs rhs
      pure (some (.bool b))
    | .call c => do
      let v ← callFunction n c
      pure (some v)
    | .expand space name args => do
      let s ← expand n space name args
      pure (some (.string s))
    | .test negated path name args => do
      let b ← testResult n negated path name args
      pure (some (.bool b))
    | .math op lhs rhs => do
      match ← outcome (operandNumber n (.math op lhs rhs)) with
      | .ok (some x) => pure (some (.number x))
      | .ok none => pure (some (.string "NaN"))
      | .error failure => throw failure.shorten
    | .order op lhs rhs => do
      let b ← operandTruth n (.order op lhs rhs) e.negated
      pure (some (.bool b))
    | .equal wanted lhs rhs => do
      let b ← operandTruth n (.equal wanted lhs rhs) e.negated
      pure (some (.bool b))
    | .logic op lhs rhs => do
      let b ← operandTruth n (.logic op lhs rhs) e.negated
      pure (some (.bool b))

def defaultValue : Nat → Expr → Eval σ Value
  | 0, _ => throw .tooDeep
  | n + 1, e =>
    match (e.filters.head?.map Call.args).bind fun args => args.lookup "value" with
    | some d => value n d
    | none => throw .noDefault

def partValue : Nat → Operand → Eval σ String
  | 0, _ => throw .tooDeep
  | n + 1, o =>
    match o with
    | .string s => pure s
    | .int i => pure (toString i)
    | .float x => pure (Decimal.plainText x)
    | .path p => do
      match concatText? (← find st p) with
      | some s => pure s
      | none => throw (.concatPath p)
    | .call c => do
      match concatText? (← callFunction n c) with
      | some s => pure s
      | none => throw (.concatCall c.name)
    | _ => throw .mathOnOther

def argumentValues : Nat → List (String × Expr) → Eval σ Args
  | 0, _ => throw .tooDeep
  | n + 1, args => args.mapM fun a => do
    let v ← value n a.2
    pure (a.1, v)

def applyFilters : Nat → Value → List Call → Eval σ Value
  | 0, _, _ => throw .tooDeep
  | _ + 1, v, [] => pure v
  | n + 1, v, c :: rest => do
    let v ← if isSilent c then pure v else applyFilter n v c
    applyFilters n v rest

def applyFilter : Nat → Value → Call → Eval σ Value
  | 0, _, _ => throw .tooDeep
  | n + 1, v, c => do
    let f ← filterOf st c.name
    let args ← inside (.inFilter c.name) (argumentValues n c.args)
    inside (.inFilter c.name) (f v args)

def callFunction : Nat → Call → Eval σ Value
  | 0, _ => throw .tooDeep
  | n + 1, c => do
    let f ← functionOf st c.name
    let args ← inside (.inFunction c.name) (argumentValues n c.args)
    inside (.inFunction c.name) (f args)

def testResult : Nat → Bool → String → String → List Expr → Eval σ Bool
  | 0, _, _, _, _ => throw .tooDeep
  | n + 1, negated, path, name, args => do
    let test ← testOf name
    let vs ← inside (.inTest name) (args.mapM (value n))
    let v ← outcome (find st path)
    let b ← inside (.inTest name) (test v.toOption vs)
    pure (b != negated)

def membership : Nat → Bool → Expr → Expr → Eval σ Bool
  | 0, _, _, _ => throw .tooDeep
  | n + 1, negated, lhs, rhs => do
    let v ← value n lhs
    let container ← value n rhs
    let b ← ofExcept (isIn v container)
    pure (b != negated)

/-- Whether an expression holds as a condition. A variable that has no value does not, and neither does
one behind which a filter fails; but nothing goes on once the program has been ended. -/
def truth : Nat → Expr → Eval σ Bool
  | 0, _ => throw .tooDeep
  | n + 1, e =>
    match e.operand with
    | .path _ => do
      match ← outcome (value n e) with
      | .ok v => pure (isTruthy v)
      | .error failure => if failure.ended then throw failure else pure false
    | .concat _ => do
      match ← value n e with
      | .string s => pure (!s.isEmpty != e.negated)
      | v => pure (isTruthy v != e.negated)
    | o => operandTruth n o e.negated

def operandTruth : Nat → Operand → Bool → Eval σ Bool
  | 0, _, _ => throw .tooDeep
  | n + 1, o, negated =>
    match o with
    | .logic op lhs rhs => do
      let l ← truth n lhs
      let b ← match op with
        | .and => if l then truth n rhs else pure false
        | .or => if l then pure true else truth n rhs
      pure (b != negated)
    | .order op lhs rhs => do
      let l ← numberOf n lhs
      let r ← numberOf n rhs
      match l, r with
      | some l, some r => pure (op.holds l r != negated)
      | _, _ => throw .orderOfNothing
    | .equal wanted lhs rhs => do
      let l ← value n lhs
      let r ← value n rhs
      match equalAs wanted l r with
      | some b => pure (b != negated)
      | none => pure false
    | .member inverse lhs rhs => do
      let b ← membership n inverse lhs rhs
      pure (b != negated)
    | .test inverse path name args => do
      let b ← testResult n inverse path name args
      pure (b != negated)
    | .bool b => pure (b != negated)
    | .string s => pure (!s.isEmpty != negated)
    | .call c => do
      match ← callFunction n c with
      | .bool b => pure (b != negated)
      | _ => throw (.conditionCall c.name)
    | .expand space name args => do
      let s ← expand n space name args
      pure (!s.isEmpty != negated)
    | .math .. | .int _ | .float _ => do
      match ← operandNumber n o with
      | some x => pure ((asFloat x != 0) != negated)
      | none => pure negated
    | _ => throw .mathOnOther

def numberOf : Nat → Expr → Eval σ (Option Number)
  | 0, _ => throw .tooDeep
  | n + 1, e =>
    if e.filters.isEmpty then operandNumber n e.operand
    else do
      match numberOf? (← value n e) with
      | some x => pure (some x)
      | none => throw .mathOnResult

def operandNumber : Nat → Operand → Eval σ (Option Number)
  | 0, _ => throw .tooDeep
  | n + 1, o =>
    match o with
    | .int i => pure (some (.int i))
    | .float x => pure (some (.float x))
    | .path p => do
      match numberOf? (← find st p) with
      | some x => pure (some x)
      | none => throw (.mathOnPath p)
    | .math op lhs rhs => do
      let l ← numberOf n lhs
      let r ← numberOf n rhs
      match l, r with
      | some l, some r => ofExcept (op.apply lhs rhs l r)
      | _, _ => pure none
    | .call c => do
      match numberOf? (← callFunction n c) with
      | some x => pure (some x)
      | none => throw (.mathOnCall c.name)
    | .string s => throw (.mathOnText s)
    | .bool b => throw (.mathOnBool b)
    | .concat parts => throw (.mathOnConcat parts)
    | .test _ _ name _ => throw (.mathOnTest name)
    | _ => throw .mathOnOther

def expand : Nat → String → String → List (String × Expr) → Eval σ String
  | 0, _, _, _ => throw .tooDeep
  | n + 1, space, name, args => do
    if !st.template.spaces.contains space then throw (.noSpace space st.template.name)
    match st.template.definitions.lookup name with
    | none => throw (.noDefinition space name st.template.name)
    | some d => do
      let names ← d.parameters.mapM fun p => do
        let v ← match args.lookup p.name, p.default? with
          | some e, _ => value n e
          | none, some o => value n (.plain o)
          | none, none => throw (.noArgument name p.name)
        pure (p.name, v)
      push ⟨.definition space name, Object.ofEntries names⟩
      let (s, _) ← nodes n "" d.body
      pop
      pure s

def nodes : Nat → String → List Node → Eval σ (String × Flow)
  | 0, _, _ => throw .tooDeep
  | _ + 1, done, [] => pure (done, .on)
  | n + 1, done, x :: rest => do
    let (s, flow) ← node n x
    match flow with
    | .on => nodes n (done ++ s) rest
    | flow => pure (done ++ s, flow)

def node : Nat → Node → Eval σ (String × Flow)
  | 0, _ => throw .tooDeep
  | n + 1, x =>
    match x with
    | .text s => pure (s, .on)
    | .verbatim _ s _ => pure (s, .on)
    | .replaced => throw .nothingReplaced
    | .tag _ t => tag n t
    | .branch arms otherwise _ => branch n arms otherwise
    | .region _ (.definition _ _) _ _ => pure ("", .on)
    | .region _ (.block name) body _ => nodes n "" ((st.template.blocks.lookup name).getD body)
    | .region _ (.filtered f) body _ => do
      let (s, flow) ← nodes n "" body
      if f.name == "safe" then pure (s, flow)
      else do
        let v ← applyFilter n (.string s) f
        pure (shown v, flow)
    | .region _ (.loop key name source empty) body _ => do
      let sourceText ← ofExcept (sourceName source.operand)
      let v ← value n source
      let items ← ofExcept (itemsOf sourceText key.isSome v)
      match items, empty with
      | [], some other => nodes n "" other
      | items, _ => do
        let s ← rounds key name items.length (nodes n "" body) 0 "" items
        pure (s, .on)

def tag : Nat → Tag → Eval σ (String × Flow)
  | 0, _ => throw .tooDeep
  | n + 1, t =>
    match t with
    | .comment => pure ("", .on)
    | .borrow _ _ => pure ("", .on)
    | .leaveLoop => pure ("", .leaveLoop)
    | .nextItem => pure ("", .nextItem)
    | .output e => do
      let v ← value n e
      pure (shown v, .on)
    | .assign name e outside => do
      let v ← value n e
      withScopes (if outside then Scopes.assignOutside name v else Scopes.assignInner name v)
      pure ("", .on)
    | .insert names optional =>
      if names.contains st.template.name then do
        push ⟨.inserted, []⟩
        let (s, _) ← nodes n "" st.template.nodes
        pop
        pure (s, .on)
      else if optional then pure ("", .on)
      else throw (.noTemplate names)

def branch : Nat → List Arm → Option (Margins × List Node) → Eval σ (String × Flow)
  | 0, _, _ => throw .tooDeep
  | n + 1, [], otherwise =>
    match otherwise with
    | some (_, body) => nodes n "" body
    | none => pure ("", .on)
  | n + 1, arm :: rest, otherwise => do
    let b ← truth n arm.condition
    if b then nodes n "" arm.body else branch n rest otherwise

end

end Render

/-- How deep expressions, nodes and definitions may stand in one another while rendering. -/
def depthLimit : Nat := 1000000

/-- Render a template: the state outside behind all calls, and the text or the failure. Only what the
rendering itself has asked the computer counts for the answers that it gets. -/
def render {σ : Type} (st : Setting σ) (outside : σ) : σ × Except Failure String :=
  let start : Progress σ := ⟨⟨[⟨.template, []⟩], []⟩, outside⟩
  let (r, behind) := (Render.nodes st depthLimit "" st.template.nodes).run.run start
  match r with
  | .ok (s, _) => (behind.outside, .ok s)
  | .error e =>
    (behind.outside, .error (.inTemplate st.template.name (Scopes.definition? behind.scopes) e))

end SchemaForge.Template
