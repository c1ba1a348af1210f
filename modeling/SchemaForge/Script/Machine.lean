import SchemaForge.Script.Operation
import SchemaForge.Script.Library

/-! The running of scripts, one step at a time. What is left to do stands on a stack of frames, so
that errors, jumps and returns are found by looking down the stack. A step never sees the program
that runs the script: where a script calls a function of that program, the step asks for it. -/

namespace SchemaForge.Script

open Text (Utf8.ofString)
open Text.Utf8 (Bytes)

structure Config where
  heap : Heap
  control : Control
  stack : List Frame

inductive Step where
  | next (c : Config)
  /-- A function of the program around is called; the stack waits for its results. -/
  | ask (name : String) (args : List Value) (heap : Heap) (stack : List Frame)
  | done (heap : Heap) (values : List Value)
  | failed (heap : Heap) (v : Value)
  | exited (heap : Heap)

namespace Config

def go (c : Config) (control : Control) : Step := .next { c with control }

def goOn (c : Config) (control : Control) (stack : List Frame) : Step :=
  .next { c with control, stack }

def positionText : Option (Bytes × Nat) → Bytes
  | some (chunk, line) => chunk ++ Utf8.ofString s!":{line}: "
  | none => []

def raiseAt (c : Config) (position : Option (Bytes × Nat)) (message : String) : Step :=
  c.go (.raise (.string (positionText position ++ Utf8.ofString message)))

/-- The scope in which the innermost script function runs is not kept on the stack; errors of an
operation carry their place along. -/
def failIn (c : Config) (scope : Scope) (line : Nat) (message : String) : Step :=
  c.raiseAt (some (scope.chunk, line)) message

/-- The places of the calls around in the running thread, innermost first. -/
def sites : List Frame → List (Option (Bytes × Nat))
  | [] => []
  | .call site _ :: rest | .guarded site :: rest | .handled _ site :: rest => site.position :: sites rest
  | .native _ site _ :: rest => site.position :: sites rest
  | .thread .. :: _ | .ending .. :: _ => []
  | _ :: rest => sites rest

def depth : List Frame → Nat
  | [] => 0
  | .call _ d :: _ => d
  | .thread .. :: _ | .ending .. :: _ => 0
  | _ :: rest => depth rest

def maxDepth : Nat := 190000

def maxNesting : Nat := 199

def argumentMessage (b : Builtin) (site : Site) (n : Nat) (text : String) : String :=
  match site.callee with
  | some ("method", name) =>
    if n = 1 then s!"calling '{name}' on bad self ({text})"
    else s!"bad argument #{n - 1} to '{name}' ({text})"
  | some (_, name) => s!"bad argument #{n} to '{name}' ({text})"
  | none =>
    let name := (Library.qualifiedName b).getD "?"
    s!"bad argument #{n} to '{name}' ({text})"

def fault (c : Config) (b : Builtin) (site : Site) : Fault → Step
  | .message text => c.raiseAt site.position text
  | .argument n text => c.raiseAt site.position (argumentMessage b site n text)
  | .raise v => c.go (.raise v)
  | .exit code => .exited { c.heap with exited := some code }

def native (c : Config) (b : Builtin) (site : Site) : Native (List Value) → Step
  | .pure values => c.go (.give values)
  | .fail f => c.fault b site f
  | .access a next =>
    let (heap, answer) := c.heap.access a
    native { c with heap } b site (next answer)
  | .call f args next => c.goOn (.call f args .none false) (.native b site next :: c.stack)

def raiseError (c : Config) (site : Site) (level : Int) (v : Value) : Step :=
  match v with
  | .string b =>
    if level ≤ 0 then c.go (.raise v)
    else
      let position := ((site.position :: sites c.stack)[level.toNat - 1]?).getD .none
      c.go (.raise (.string (positionText position ++ b)))
  | v => c.go (.raise v)

def bind (heap : Heap) (own : List (String × Nat)) : List String → List Value →
    Heap × List (String × Nat)
  | [], _ => (heap, own)
  | name :: names, values =>
    let (heap, cell) := heap.newCell (values.head?.getD .nil)
    bind heap ((name, cell) :: own) names values.tail

/-- Call a script function; a call in tail position takes the place of the function around it. -/
def enter (c : Config) (chunk : Bytes) (body : FunctionBody) (names : List (String × Nat))
    (args : List Value) (site : Site) (tail : Bool) : Step :=
  let (heap, own) := bind c.heap [] body.parameters args
  let varargs := if body.variadic then args.drop body.parameters.length else []
  let run := Run.enter ⟨chunk, own, names, varargs⟩ body.body
  let rec outside : List Frame → List Frame
    | [] => []
    | .call site d :: rest => .call { site with callee := .none } d :: rest
    | _ :: rest => outside rest
  if tail then .next ⟨heap, .exec run, outside c.stack⟩
  else
    let d := depth c.stack + 1
    if maxDepth < d then c.raiseAt site.position "stack overflow"
    else .next ⟨heap, .exec run, .call site d :: c.stack⟩

def close (c : Config) (v error : Value) (site : Site) (control : Control) (stack : List Frame) :
    Step :=
  let f := match c.heap.metamethod v "__close" with
    | .nil => v
    | f => f
  c.goOn (.call f [v, error] site false) (.after control :: stack)

def threadAt (args : Args) : Args.Result Nat :=
  match args.get 1 with
  | .thread place => .ok place
  | _ => args.wrongType 1 "coroutine"

def resume (c : Config) (place : Nat) (args : List Value) (site : Site) (wrapped : Bool) : Step :=
  let refused (text : String) : Step :=
    if wrapped then c.raiseAt site.position text else c.go (.give [.bool false, .text text])
  let goOn (control : Control) (stack : List Frame) : Step :=
    if maxNesting ≤ (c.stack.filter Frame.nests).length then refused "C stack overflow"
    else .next ⟨c.heap.setThread place .active, control,
      stack ++ .thread place site wrapped :: c.stack⟩
  match c.heap.thread place with
  | .fresh f => goOn (.call f args .none false) []
  | .suspended stack => goOn (.give args) stack
  | .active => refused "cannot resume non-suspended coroutine"
  | .failed .. | .finished => refused "cannot resume dead coroutine"

def splitThread : List Frame → Option (List Frame × Frame × List Frame)
  | [] => none
  | .thread place site wrapped :: below => some ([], .thread place site wrapped, below)
  | .ending place site wrapped :: below => some ([], .ending place site wrapped, below)
  | f :: rest => (splitThread rest).map fun (own, last, below) => (f :: own, last, below)

def mayYield (stack : List Frame) : Bool :=
  match splitThread stack with
  | some (own, .thread .., _) => own.all Frame.yields
  | _ => false

def yield (c : Config) (values : List Value) : Step :=
  match splitThread c.stack with
  | none => c.go (.raise (.text "attempt to yield from outside a coroutine"))
  | some (own, .thread place _ wrapped, below) =>
    if !own.all Frame.yields then c.go (.raise (.text "attempt to yield across a C-call boundary"))
    else .next ⟨c.heap.setThread place (.suspended own),
      .give (if wrapped then values else .bool true :: values), below⟩
  | some _ => c.go (.raise (.text "attempt to yield across a C-call boundary"))

def threadStatus (c : Config) (place : Nat) : String :=
  match c.heap.thread place with
  | .fresh _ | .suspended _ => "suspended"
  | .active => if (runningThread c.stack).getD 0 = place then "running" else "normal"
  | .failed .. | .finished => "dead"

/-- Close the values of a thread that does not run, under an error or none, and tell its end. -/
def endThread (c : Config) (place : Nat) (stack : List Frame) (error : Option Value) (site : Site)
    (wrapped : Bool) (below : List Frame) : Step :=
  let control := match error with
    | some v => .unwind v
    | none => .give []
  .next ⟨c.heap.setThread place .active, control,
    stack.filter Frame.isClosing ++ .ending place site wrapped :: below⟩

def closeThread (c : Config) (place : Nat) (site : Site) : Step :=
  match c.heap.thread place with
  | .fresh _ | .finished => c.endThread place [] none site false c.stack
  | .suspended stack => c.endThread place stack none site false c.stack
  | .failed v stack => c.endThread place stack (some v) site false c.stack
  | .active => c.raiseAt site.position s!"cannot close a {c.threadStatus place} coroutine"

def onThreads (c : Config) (b : Builtin) (args : List Value) (site : Site) : Step :=
  let taking {α : Type} (taken : Args.Result α) (next : α → Step) : Step :=
    match taken with
    | .ok a => next a
    | .error f => c.fault b site f
  let running : Nat := (runningThread c.stack).getD 0
  match b with
  | .coroutineClose => taking (threadAt args) fun place => c.closeThread place site
  | .coroutineCreate => taking (Args.function args 1) fun f =>
    let (heap, place) := c.heap.newThread f
    .next { c with heap, control := .give [.thread place] }
  | .coroutineIsyieldable =>
    if args.isEmpty then c.go (.give [.bool (mayYield c.stack)])
    else taking (threadAt args) fun place =>
      c.go (.give [.bool (if place = running then mayYield c.stack else place ≠ 0)])
  | .coroutineResume => taking (threadAt args) fun place => c.resume place args.tail site false
  | .coroutineRunning => c.go (.give [.thread running, .bool (running = 0)])
  | .coroutineStatus => taking (threadAt args) fun place =>
    c.go (.give [.text (c.threadStatus place)])
  | .coroutineWrap => taking (Args.function args 1) fun f =>
    let (heap, place) := c.heap.newThread f
    let (heap, step) := heap.newClosure (.bound .coroutineWrapped [.thread place])
    .next { c with heap, control := .give [.closure step] }
  | .coroutineWrapped => taking (threadAt args) fun place => c.resume place args.tail site true
  | _ => c.yield args

def builtin (c : Config) (b : Builtin) (args : List Value) (site : Site) : Step :=
  match b with
  | .error =>
    match Args.intOr args 2 1 with
    | .ok level => c.raiseError site level (args.head?.getD .nil)
    | .error f => c.fault b site f
  | .assert =>
    match args with
    | [] => c.fault b site (.argument 1 "value expected")
    | v :: rest =>
      if v.truthy then c.go (.give args)
      else c.raiseError site 1 (rest.head?.getD (.text "assertion failed!"))
  | .pcall =>
    match args with
    | [] => c.fault b site (.argument 1 "value expected")
    | f :: rest => c.goOn (.call f rest .none false) (.guarded site :: c.stack)
  | .xpcall =>
    match Args.function args 2 with
    | .error f => c.fault b site f
    | .ok handler =>
      c.goOn (.call (args.head?.getD .nil) (args.drop 2) .none false) (.handled handler site :: c.stack)
  | .coroutineClose | .coroutineCreate | .coroutineIsyieldable | .coroutineResume
  | .coroutineRunning | .coroutineStatus | .coroutineWrap | .coroutineWrapped | .coroutineYield =>
    c.onThreads b args site
  | b => c.native b site (Library.run b args)

def call (c : Config) (f : Value) (args : List Value) (site : Site) (tail : Bool) : Step :=
  let returning (c : Config) : Config := if tail then { c with stack := .returning :: c.stack } else c
  match f with
  | .closure place =>
    match c.heap.closure place with
    | .script chunk body names => c.enter chunk body names args site tail
    | .bound b state => (returning c).builtin b (state ++ args) site
  | .builtin b => (returning c).builtin b args site
  | .host name => .ask name args c.heap (returning c).stack
  | v =>
    match c.heap.metamethod v "__call" with
    | .nil => c.raiseAt site.position s!"attempt to call a {v.typeName} value{site.callee.text}"
    | handler => c.go (.call handler (v :: args) site tail)

def index (c : Config) (object key : Value) (naming : Naming) (scope : Scope) (line : Nat) : Step :=
  match c.heap.index metaDepth object key with
  | .value v => c.go (.give [v])
  | .call f object key =>
    c.goOn (.call f [object, key] (.event scope line "index") false) (.single :: c.stack)
  | .notTable v => c.failIn scope line s!"attempt to index a {v.typeName} value{naming.text}"
  | .endless => c.failIn scope line "'__index' chain too long; possibly a loop"

def operated (c : Config) (scope : Scope) (line : Nat) : Operated → Step
  | .value v => c.go (.give [v])
  | .call f args event => c.goOn (.call f args (site event) false) (.single :: c.stack)
  | .ask f args event negated =>
    c.goOn (.call f args (site event) false) (.truth negated :: c.stack)
  | .error message => c.failIn scope line message
where
  site (event : String) : Site := .event scope line (event.drop 2).toString

def collect (c : Config) (goal : Goal) (spread : Bool) (done : List Value) (todo : List Expr)
    (scope : Scope) : Step :=
  match todo with
  | [] => c.goOn (.give []) (.collect goal spread done [] scope :: c.stack)
  | e :: rest => c.goOn (.eval e scope) (.collect goal spread done rest scope :: c.stack)

def isMulti : Expr → Bool
  | .call .. => true
  | .method .. => true
  | .varargs => true
  | _ => false

def itemExprs : List TableItem → List Expr
  | [] => []
  | .positional v :: rest => v :: itemExprs rest
  | .keyed k v :: rest => k :: v :: itemExprs rest

def itemShapes : List TableItem → List ItemShape
  | [] => []
  | .positional _ :: rest => .positional :: itemShapes rest
  | .keyed .. :: rest => .keyed :: itemShapes rest

def endsPositional : List TableItem → Bool
  | [] => false
  | [.positional _] => true
  | [.keyed ..] => false
  | _ :: rest => endsPositional rest

def newFunction (heap : Heap) (scope : Scope) (body : FunctionBody) : Heap × Value :=
  let (heap, place) := heap.newClosure (.script scope.chunk body (scope.own ++ scope.outer))
  (heap, .closure place)

def eval (c : Config) (e : Expr) (scope : Scope) (tail : Bool) : Step :=
  match e with
  | .nil => c.go (.give [.nil])
  | .bool b => c.go (.give [.bool b])
  | .number n => c.go (.give [.number n])
  | .string b => c.go (.give [.string b])
  | .varargs => c.go (.give scope.varargs)
  | .function body =>
    let (heap, f) := newFunction c.heap scope body
    .next { c with heap, control := .give [f] }
  | .name n line =>
    match scope.cell? n with
    | some cell => c.go (.give [c.heap.cell cell])
    | none =>
      let globals := ((scope.cell? globalTable).map c.heap.cell).getD .nil
      c.index globals (.text n) (some ("upvalue", globalTable)) scope line
  | .index object key line =>
    c.collect (.index (namingOf scope object) line) false [] [object, key] scope
  | .call f args line => c.collect (.call (namingOf scope f) line tail) true [] (f :: args) scope
  | .method object name args line =>
    c.goOn (.eval object scope) (.method name args line tail scope :: c.stack)
  | .unary op e line => c.collect (.unary op (namingOf scope e) line) false [] [e] scope
  | .binary op l r line =>
    c.collect (.binary op (namingOf scope l) (namingOf scope r) line) false [] [l, r] scope
  | .and l r => c.goOn (.eval l scope) (.andThen r scope :: c.stack)
  | .or l r => c.goOn (.eval l scope) (.orElse r scope :: c.stack)
  | .single e => c.goOn (.eval e scope) (.single :: c.stack)
  | .table items line =>
    c.collect (.table (itemShapes items) line) (endsPositional items) [] (itemExprs items) scope

def splitItems : List ItemShape → List Value → List (Value × Value) × List Value
  | [], _ => ([], [])
  | [.positional], vs => ([], vs)
  | .positional :: rest, vs =>
    let (keyed, items) := splitItems rest vs.tail
    (keyed, vs.head?.getD .nil :: items)
  | .keyed :: rest, vs =>
    let (keyed, items) := splitItems rest (vs.drop 2)
    ((vs[0]?.getD .nil, vs[1]?.getD .nil) :: keyed, items)

def setItems (t : Table) (n : Nat) : List Value → Table
  | [] => t
  | v :: rest => setItems { t with items := t.items.setIfInBounds n v } (n + 1) rest

def makeTable (c : Config) (shapes : List ItemShape) (values : List Value) (scope : Scope)
    (line : Nat) : Step :=
  let (keyed, items) := splitItems shapes values
  match keyed.findSome? fun e => e.1.badKey? with
  | some reason => c.failIn scope line reason
  | none =>
    let t := keyed.foldl (fun t e => t.set e.1.normalKey e.2) (Table.sized items.length keyed.length)
    let (heap, place) := c.heap.newTable (setItems t 0 items)
    .next { c with heap, control := .give [.table place] }

def startCount (first last step : Value) : Except String (Option Counter) :=
  let notNumber (what : String) : Except String (Option Counter) :=
    .error s!"'for' {what} must be a number"
  match first, step with
  | .number (.int i), .number (.int s) =>
    match last.toNumber? with
    | none => notNumber "limit"
    | some n =>
      if s = 0 then .error "'for' step is zero"
      else
        let above : Int := Word.signedEnd
        let limit : Int := match n with
          | .int l => l.toInt
          | .float x =>
            if x.isNaN then (if 0 < s.toInt then -above - 1 else above)
            else
              match Decimal.whole? (if 0 < s.toInt then x.floor else x.ceil) with
              | some z => max (-above - 1) (min above z)
              | none => if 0 < x then above else -above - 1
        let limit := if 0 < s.toInt then min limit (above - 1) else max limit (-above)
        if 0 < s.toInt then
          if limit < i.toInt then .ok none
          else .ok (some (.whole i s ((limit - i.toInt) / s.toInt).toNat))
        else if i.toInt < limit then .ok none
        else .ok (some (.whole i s ((i.toInt - limit) / (-s.toInt)).toNat))
  | _, _ =>
    match last.toNumber?, step.toNumber?, first.toNumber? with
    | none, _, _ => notNumber "limit"
    | _, none, _ => notNumber "step"
    | _, _, none => notNumber "initial value"
    | some l, some s, some i =>
      let (l, s, i) := (l.toFloat, s.toFloat, i.toFloat)
      if s == 0 then .error "'for' step is zero"
      else if (if s > 0 then i <= l else l <= i) then .ok (some (.float i l s))
      else .ok none

def Counter.value : Counter → Value
  | .whole i _ _ => .number (.int i)
  | .float x _ _ => .float x

def Counter.next? : Counter → Option Counter
  | .whole i s (left + 1) => some (.whole (i + s) s left)
  | .whole _ _ 0 => none
  | .float x l s =>
    let x := x + s
    if (if s > 0 then x <= l else l <= x) then some (.float x l s) else none

def turnCount (c : Config) (name : String) (body : List Stat) (counter : Counter) (run : Run)
    (stack : List Frame) : Step :=
  let (heap, own) := bind c.heap run.scope.own [name] [Counter.value counter]
  .next ⟨heap, .exec (.enter { run.scope with own } body),
    .loop (.count name body counter) run :: stack⟩

def turnEach (c : Config) (names : List String) (body : List Stat) (f state control : Value)
    (line : Nat) (run : Run) (stack : List Frame) : Step :=
  c.goOn (.call f [state, control]
    ⟨some (run.scope.chunk, line), some ("for iterator", "for iterator")⟩ false)
    (.eachTest names body f state line run :: stack)

def store (c : Config) (pending : List (Target × List Value × Value)) (run : Run) (line : Nat)
    (stack : List Frame) : Step :=
  match pending with
  | [] => c.goOn (.exec run) stack
  | (target, operands, value) :: rest =>
    let assign (object key : Value) (naming : Naming) : Step :=
      match c.heap.assign metaDepth object key value with
      | (heap, .done) => .next ⟨heap, .give [], .store rest run line :: stack⟩
      | (_, .call f object key value) =>
        c.goOn (.call f [object, key, value] (.event run.scope line "newindex") false)
          (.store rest run line :: stack)
      | (_, .notTable v) =>
        c.failIn run.scope line s!"attempt to index a {v.typeName} value{naming.text}"
      | (_, .badKey reason) => c.failIn run.scope line reason
      | (_, .endless) => c.failIn run.scope line "'__newindex' chain too long; possibly a loop"
    match target with
    | .item naming => assign (operands[0]?.getD .nil) (operands[1]?.getD .nil) naming
    | .variable name =>
      match run.scope.cell? name with
      | some cell => .next ⟨c.heap.setCell cell value, .give [], .store rest run line :: stack⟩
      | none =>
        let globals := ((run.scope.cell? globalTable).map c.heap.cell).getD .nil
        assign globals (.text name) (some ("upvalue", globalTable))

def targetExprs : List Expr → List Expr
  | [] => []
  | .index object key _ :: rest => object :: key :: targetExprs rest
  | _ :: rest => targetExprs rest

def targetsOf (scope : Scope) : List Expr → List Target
  | [] => []
  | .name n _ :: rest => .variable n :: targetsOf scope rest
  | .index object _ _ :: rest => .item (namingOf scope object) :: targetsOf scope rest
  | _ :: rest => targetsOf scope rest

def pairTargets : List Target → List Value → List (Target × List Value) × List Value
  | [], values => ([], values)
  | .variable n :: rest, values =>
    let (pairs, left) := pairTargets rest values
    ((.variable n, []) :: pairs, left)
  | .item naming :: rest, values =>
    let (pairs, left) := pairTargets rest (values.drop 2)
    ((.item naming, values.take 2) :: pairs, left)

def withValues : List (Target × List Value) → List Value → List (Target × List Value × Value)
  | [], _ => []
  | (t, operands) :: rest, values =>
    (t, operands, values.head?.getD .nil) :: withValues rest values.tail

/-- Have a value closed when its block is left; nil and false need no closing. -/
def closeLater (c : Config) (v : Value) (name : String) (scope : Scope) (line : Nat)
    (next : List Frame → Step) : Step :=
  if !v.truthy then next c.stack
  else if (c.heap.metamethod v "__close").isNil then
    c.failIn scope line s!"variable '{name}' got a non-closable value"
  else next (.closing v (.event scope line "close") scope.own.length :: c.stack)

def reach (c : Config) (goal : Goal) (values : List Value) (scope : Scope) (stack : List Frame) :
    Step :=
  let c := { c with stack }
  let value (n : Nat) : Value := values[n]?.getD .nil
  match goal with
  | .call callee line tail =>
    c.go (.call (value 0) values.tail ⟨some (scope.chunk, line), callee⟩ tail)
  | .returns => c.go (.returns values)
  | .locals names closed run line =>
    let (heap, own) := bind c.heap run.scope.own names values
    let run := { run with scope := { run.scope with own } }
    match closed with
    | none => .next { c with heap, control := .exec run }
    | some name =>
      let v := ((own.lookup name).map heap.cell).getD .nil
      { c with heap }.closeLater v name run.scope line fun stack => .next ⟨heap, .exec run, stack⟩
  | .assign targets run line =>
    let (pairs, values) := pairTargets targets values
    c.store (withValues pairs values).reverse run line stack
  | .unary op naming line => c.operated scope line (Operated.unary c.heap op (value 0) naming.text)
  | .binary op left right line =>
    c.operated scope line (Operated.binary c.heap op (value 0) (value 1) left.text right.text)
  | .index naming line => c.index (value 0) (value 1) naming scope line
  | .table shapes line => c.makeTable shapes values scope line
  | .countLoop name body run line =>
    match startCount (value 0) (value 1) (value 2) with
    | .error message => c.failIn scope line message
    | .ok none => c.go (.exec run)
    | .ok (some counter) => c.turnCount name body counter run stack
  | .eachLoop names body run line =>
    let last : Run := { run with all := [], rest := [] }
    if (value 3).truthy then
      { c with stack := .block run :: stack }.closeLater (value 3) "(for state)" scope line
        fun stack => c.turnEach names body (value 0) (value 1) (value 2) line last stack
    else c.turnEach names body (value 0) (value 1) (value 2) line run stack

def give (c : Config) (values : List Value) : Step :=
  let first := values.head?.getD .nil
  match c.stack with
  | [] => .done c.heap values
  | frame :: stack =>
    match frame with
    | .collect goal spread done [] scope =>
      let values := if spread then values else [first]
      c.reach goal (done.reverse ++ values) scope stack
    | .collect goal spread done (e :: rest) scope =>
      c.goOn (.eval e scope) (.collect goal spread (first :: done) rest scope :: stack)
    | .method name args line tail scope =>
      let c := { c with stack := .methodOf first name args line tail scope :: stack }
      c.index first (.text name) (.none) scope line
    | .methodOf object name args line tail scope =>
      let c := { c with stack }
      if args.isEmpty then
        c.go (.call first [object] ⟨some (scope.chunk, line), some ("method", name)⟩ tail)
      else c.collect (.call (some ("method", name)) line tail) true [object, first] args scope
    | .single => c.goOn (.give [first]) stack
    | .truth negated => c.goOn (.give [.bool (first.truthy != negated)]) stack
    | .andThen right scope =>
      if first.truthy then c.goOn (.eval right scope) (.single :: stack)
      else c.goOn (.give [first]) stack
    | .orElse right scope =>
      if first.truthy then c.goOn (.give [first]) stack
      else c.goOn (.eval right scope) (.single :: stack)
    | .discard run => c.goOn (.exec run) stack
    | .choose body otherwise run =>
      c.goOn (.exec (.enter run.scope (if first.truthy then body else otherwise)))
        (.block run :: stack)
    | .whileTest condition body run =>
      if first.truthy then
        c.goOn (.exec (.enter run.scope body)) (.loop (.whileLoop condition body) run :: stack)
      else c.goOn (.exec run) stack
    | .repeatTest body condition run =>
      if first.truthy then c.goOn (.exec run) stack
      else c.goOn (.exec (.enter run.scope body)) (.loop (.repeatLoop body condition) run :: stack)
    | .eachTest names body f state line run =>
      if first.isNil then c.goOn (.exec run) stack
      else
        let (heap, own) := bind c.heap run.scope.own names values
        .next ⟨heap, .exec (.enter { run.scope with own } body),
          .loop (.each names body f state first line) run :: stack⟩
    | .store pending run line => c.store pending run line stack
    | .closing v site _ => c.close v .nil site (.give values) stack
    | .after control => c.goOn control stack
    | .call _ _ => c.goOn (.give values) stack
    | .returning => c.goOn (.returns values) stack
    | .guarded _ | .handled _ _ => c.goOn (.give (.bool true :: values)) stack
    | .handling => c.goOn (.unwind first) stack
    | .thread place _ wrapped =>
      .next ⟨c.heap.setThread place .finished,
        .give (if wrapped then values else .bool true :: values), stack⟩
    | .ending place _ _ =>
      .next ⟨c.heap.setThread place .finished, .give [.bool true], stack⟩
    | .native b site next => { c with stack }.native b site (next values)
    | .block run => c.goOn (.exec run) stack
    | .loop _ run => c.goOn (.exec run) stack

/-- Go on behind the end of a block. The condition of a loop is asked before the values of its body are
closed. -/
def finish (c : Config) (run : Run) : Step :=
  let closing := c.stack.takeWhile Frame.isClosing
  match closing, c.stack.dropWhile Frame.isClosing with
  | _, .loop (.repeatLoop body condition) outer :: stack =>
    c.goOn (.eval condition run.scope) (closing ++ .repeatTest body condition outer :: stack)
  | .closing v site _ :: _, _ => c.close v .nil site (.exec { run with rest := [] }) c.stack.tail
  | _, .block outer :: stack => c.goOn (.exec outer) stack
  | _, .loop (.whileLoop condition body) outer :: stack =>
    c.goOn (.eval condition outer.scope) (.whileTest condition body outer :: stack)
  | _, .loop (.count name body counter) outer :: stack =>
    match Counter.next? counter with
    | some counter => c.turnCount name body counter outer stack
    | none => c.goOn (.exec outer) stack
  | _, .loop (.each names body f state control line) outer :: stack =>
    c.turnEach names body f state control line outer stack
  | _, _ => c.go (.give [])

/-- The statements behind a label of a block, and the count of names declared in front of it. -/
def behindLabel? (label : String) (declared : Nat) : List Stat → Option (List Stat × Nat)
  | [] => none
  | .label l :: rest => if l == label then some (rest, declared) else behindLabel? label declared rest
  | .locals names _ _ _ _ :: rest => behindLabel? label (declared + names.length) rest
  | .localFunction .. :: rest => behindLabel? label (declared + 1) rest
  | _ :: rest => behindLabel? label declared rest

/-- The block from a label of its own on, without the names declared behind the label. -/
def Run.seek? (run : Run) (label : String) : Option Run :=
  (behindLabel? label run.entry run.all).map fun (rest, count) =>
    let own := run.scope.own.drop (run.scope.own.length - count)
    { run with rest, scope := { run.scope with own } }

def exec (c : Config) (run : Run) : Step :=
  let scope := run.scope
  match run.rest with
  | [] => c.finish run
  | s :: rest =>
    let next := { run with rest }
    match s with
    | .locals names _ closed values line =>
      c.collect (.locals names closed next line) true [] values scope
    | .assign targets values line =>
      c.collect (.assign (targetsOf scope targets) next line) true []
        (targetExprs targets ++ values) scope
    | .call e => c.goOn (.eval e scope) (.discard next :: c.stack)
    | .block body => c.goOn (.exec (.enter scope body)) (.block next :: c.stack)
    | .whileLoop condition body =>
      c.goOn (.eval condition scope) (.whileTest condition body next :: c.stack)
    | .repeatLoop body condition =>
      c.goOn (.exec (.enter scope body)) (.loop (.repeatLoop body condition) next :: c.stack)
    | .choose condition body otherwise =>
      c.goOn (.eval condition scope) (.choose body otherwise next :: c.stack)
    | .countLoop name first last step body line =>
      c.collect (.countLoop name body next line) false [] [first, last, step] scope
    | .eachLoop names source body line =>
      c.collect (.eachLoop names body next line) true [] source scope
    | .localFunction name body =>
      let (heap, cell) := c.heap.newCell .nil
      let scope := { scope with own := (name, cell) :: scope.own }
      let (heap, f) := newFunction heap scope body
      .next { c with heap := heap.setCell cell f, control := .exec { next with scope } }
    | .returns [e] _ =>
      if isMulti e && !closes c.stack then c.eval e scope true |> returned e
      else c.collect .returns true [] [e] scope
    | .returns values _ => c.collect .returns true [] values scope
    | .leave => c.go .leave
    | .goto label =>
      match Run.seek? run label, c.stack with
      | some next, .closing v site level :: stack =>
        if next.scope.own.length < level then c.close v .nil site (.exec run) stack
        else c.go (.exec next)
      | some next, _ => c.go (.exec next)
      | none, _ => c.go (.jump label)
    | .label _ => c.go (.exec next)
where
  closes : List Frame → Bool
    | [] | .call .. :: _ => false
    | .closing .. :: _ => true
    | _ :: rest => closes rest
  /-- The varargs of a function that returns them are no call. -/
  returned (e : Expr) (s : Step) : Step :=
    match e, s with
    | .varargs, .next { heap, control := .give values, stack } => .next ⟨heap, .returns values, stack⟩
    | _, s => s

def leaveLoop (c : Config) : List Frame → Step
  | [] => .done c.heap []
  | .closing v site _ :: stack => c.close v .nil site .leave stack
  | .loop _ run :: stack => c.goOn (.exec run) stack
  | _ :: stack => leaveLoop c stack

def jumpTo (c : Config) (label : String) : List Frame → Step
  | [] => .done c.heap []
  | .closing v site _ :: stack => c.close v .nil site (.jump label) stack
  | .block run :: stack | .loop _ run :: stack =>
    if (Run.seek? run label).isSome then c.goOn (.exec { run with rest := [.goto label] }) stack
    else jumpTo c label stack
  | _ :: stack => jumpTo c label stack

def returnFrom (c : Config) (values : List Value) : List Frame → Step
  | [] => .done c.heap values
  | .closing v site _ :: stack => c.close v .nil site (.returns values) stack
  | .call _ _ :: stack => c.goOn (.give values) stack
  | _ :: stack => returnFrom c values stack

/-- Hand an error to the innermost guarded call, closing values on the way, or to the thread that has
resumed the running one. -/
def unwind (c : Config) (v : Value) : List Frame → Step
  | [] => .failed c.heap v
  | .closing x site _ :: stack => c.close x v site (.unwind v) stack
  | .guarded _ :: stack | .handled _ _ :: stack => c.goOn (.give [.bool false, v]) stack
  | .thread place site wrapped :: stack =>
    if wrapped then c.endThread place [] (some v) site true stack
    else .next ⟨c.heap.setThread place (.failed v []), .give [.bool false, v], stack⟩
  | .ending place site wrapped :: stack =>
    let heap := c.heap.setThread place .finished
    if wrapped then { c with heap, stack }.raiseError site 1 v
    else .next ⟨heap, .give [.bool false, v], stack⟩
  | _ :: stack => unwind c v stack

/-- What an error comes upon first, going down the stack: nothing, a guarded call or the end of a
thread, or a function that handles it. -/
def catcher : List Frame → Option Frame
  | [] => none
  | f :: rest =>
    match f with
    | .guarded _ | .handled .. | .thread .. | .ending .. => some f
    | _ => catcher rest

/-- Raise an error. A thread that it ends keeps its values unclosed until it is closed itself. -/
def raiseTo (c : Config) (v : Value) : Step :=
  match catcher c.stack with
  | some (.handled handler _) =>
    let handling := (c.stack.takeWhile fun f => !f.isHandled).filter Frame.isHandling
    if maxNesting ≤ handling.length then c.go (.unwind (.text "error in error handling"))
    else c.goOn (.call handler [v] .none false) (.handling :: c.stack)
  | some (.thread ..) =>
    match splitThread c.stack with
    | some (own, .thread place site wrapped, below) =>
      if wrapped then c.endThread place own (some v) site true below
      else .next ⟨c.heap.setThread place (.failed v own), .give [.bool false, v], below⟩
    | _ => c.go (.unwind v)
  | _ => c.go (.unwind v)

def step (c : Config) : Step :=
  match c.control with
  | .eval e scope => c.eval e scope false
  | .give values => c.give values
  | .exec run => c.exec run
  | .call f args site tail => c.call f args site tail
  | .raise v => c.raiseTo v
  | .unwind v => c.unwind v c.stack
  | .leave => c.leaveLoop c.stack
  | .jump label => c.jumpTo label c.stack
  | .returns values => c.returnFrom values c.stack

end Config

end SchemaForge.Script
