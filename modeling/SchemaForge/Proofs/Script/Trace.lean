import SchemaForge.Script.Session

/-! What scripts ask of the program around them. A run is traced by the calls that it makes of the
program's functions: each call finds the program's state as the calls in front of it have left it, those
that fail among them, and nothing else in a run touches that state. -/

namespace SchemaForge.Script

open Text (Utf8.ofString)

structure Ask (σ : Type) where
  found : σ
  heap : Heap
  function : String
  args : List Value

variable {σ : Type}

namespace Host

/-- The program's state behind a call. A call that fails leaves it as it is. -/
def serve (host : Host σ) (a : Ask σ) : σ :=
  match host.call a.found a.heap a.function a.args with
  | .ok state => state
  | .error _ => a.found

/-- Calls in a row take the program from one state to another, each from where the one in front of it
has left off. -/
inductive Serves (host : Host σ) : σ → List (Ask σ) → σ → Prop
  | nil (state : σ) : Serves host state [] state
  | cons {a : Ask σ} {asks : List (Ask σ)} {last : σ} (rest : Serves host (host.serve a) asks last) :
      Serves host a.found (a :: asks) last

variable {host : Host σ} {state last : σ} {asks : List (Ask σ)}

theorem Serves.append {middle : σ} {more : List (Ask σ)} (h : host.Serves state asks middle)
    (h' : host.Serves middle more last) : host.Serves state (asks ++ more) last := by
  induction h with
  | nil => exact h'
  | cons _ ih => exact .cons (ih h')

theorem Serves.front {before after : List (Ask σ)} {a : Ask σ}
    (h : host.Serves state (before ++ a :: after) last) : host.Serves state before a.found := by
  induction before generalizing state with
  | nil =>
    cases h with
    | cons _ => exact .nil _
  | cons first before ih =>
    cases h with
    | cons rest => exact .cons (ih rest)

end Host

def Outcome.state : Outcome σ → σ
  | .done state _ _ => state
  | .failed state _ _ => state
  | .unfinished state _ => state

def asks (host : Host σ) : Nat → σ → Config → List (Ask σ)
  | 0, _, _ => []
  | fuel + 1, state, c =>
    match c.step with
    | .next c => asks host fuel state c
    | .done _ _ => []
    | .failed _ _ => []
    | .exited _ => []
    | .ask name args heap stack =>
      ⟨state, heap, name, args⟩ ::
        match host.call state heap name args with
        | .ok state => asks host fuel state ⟨heap, .give [], stack⟩
        | .error v => asks host fuel state ⟨heap, .raise v, stack⟩

theorem run_serves (host : Host σ) (fuel : Nat) (state : σ) (c : Config) :
    host.Serves state (asks host fuel state c) (run host fuel state c).state := by
  induction fuel generalizing state c with
  | zero => exact .nil state
  | succ fuel ih =>
    rw [run, asks]
    cases c.step with
    | next c => exact ih state c
    | done heap values => exact .nil state
    | failed heap v => exact .nil state
    | exited heap => exact .nil state
    | ask name args heap stack =>
      refine Host.Serves.cons (a := ⟨state, heap, name, args⟩) ?_
      cases hcall : host.call state heap name args with
      | ok state =>
        simp only [Host.serve, hcall]
        exact ih state _
      | error v =>
        simp only [Host.serve, hcall]
        exact ih state _

namespace Session

/-- The calls that are made while an error that nothing caught is put into words. -/
def errorAsks (host : Host σ) (state : σ) (heap : Heap) : Value → List (Ask σ)
  | .failure _ => []
  | v => asks host stepLimit state ⟨heap, .call (.builtin .tostring) [v] .none false, []⟩

theorem errorAsks_eq (host : Host σ) (state : σ) (heap : Heap) {v : Value}
    (h : ∀ message, v = .failure message → False) : errorAsks host state heap v =
      asks host stepLimit state ⟨heap, .call (.builtin .tostring) [v] .none false, []⟩ := by
  unfold errorAsks
  split
  · exact (h _ rfl).elim
  · rfl

theorem errorOf_serves (host : Host σ) (state : σ) (heap : Heap) (v : Value) :
    host.Serves state (errorAsks host state heap v) (errorOf host state heap v).1.state := by
  unfold errorOf
  split
  · exact .nil state
  · next hv =>
    have hrun := run_serves host stepLimit state
      ⟨heap, .call (.builtin .tostring) [v] .none false, []⟩
    rw [errorAsks_eq host state heap hv]
    split <;> next h => rw [h] at hrun; exact hrun

/-- The calls that are made up to the end, that of putting an error into words among them. -/
def startAsks (host : Host σ) (s : Session σ) (c : Config) : List (Ask σ) :=
  asks host stepLimit s.state c ++
    match run host stepLimit s.state c with
    | .failed state heap v => errorAsks host state heap v
    | _ => []

theorem start_serves (host : Host σ) (s : Session σ) (c : Config) :
    host.Serves s.state (s.startAsks host c) (s.start host c).1.state := by
  have hrun := run_serves host stepLimit s.state c
  rw [startAsks, start]
  cases hend : run host stepLimit s.state c with
  | done state heap values => exact (hend ▸ hrun).append (.nil _)
  | failed state heap v => exact (hend ▸ hrun).append (errorOf_serves host state heap v)
  | unfinished state heap => exact (hend ▸ hrun).append (.nil _)

def callAsks (host : Host σ) (s : Session σ) (f : Value) (args : List Value) : List (Ask σ) :=
  s.startAsks host ⟨s.heap, .call f args .none false, []⟩

theorem call_serves (host : Host σ) (s : Session σ) (f : Value) (args : List Value) :
    host.Serves s.state (s.callAsks host f args) (s.call host f args).1.state :=
  start_serves host s ⟨s.heap, .call f args .none false, []⟩

/-- The calls that a script makes when it is run. A text that is no script makes none. -/
def loadAsks (host : Host σ) (s : Session σ) (name source : String) : List (Ask σ) :=
  match Program.read? source with
  | none => []
  | some program =>
    let (heap, place) := s.heap.newChunk (Library.longName (upToZero (Utf8.ofString name)))
      (.mk [] true program.body) (.table Library.globals)
    startAsks host { s with heap } ⟨heap, .call (.closure place) [] .none false, []⟩

theorem load_serves (host : Host σ) (s : Session σ) (name source : String) :
    host.Serves s.state (s.loadAsks host name source) (s.load host name source).1.state := by
  rw [load, loadAsks]
  cases Program.read? source with
  | none => exact .nil s.state
  | some program => exact start_serves host { s with heap := _ } _

end Session

end SchemaForge.Script
