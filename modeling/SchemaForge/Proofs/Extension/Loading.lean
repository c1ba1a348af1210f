import SchemaForge.Extension.Bridge
import SchemaForge.Proofs.Extension.HostCalls

/-! Loading scripts one after another. The scripts share one state: all calls that they make add up, those
of a script that fails among them, and so does the list of the scripts that load. Loading them for a run
ends with the first that fails. -/

namespace SchemaForge.Extension

open Script (Ask Host Session)

namespace Bridge

/-- A script changes the script state; it is listed if it loads, and named by the error if not. -/
theorem load_cases (b : Bridge) (source : Source) :
    let session := (b.session.load host source.name source.contents).1
    b.load source = (⟨session, b.scripts ++ [source.name]⟩, .ok ()) ∨
      ∃ message, b.load source = (⟨session, b.scripts⟩, .error (.evaluation source.name message)) := by
  intro session
  rw [load]
  dsimp only
  split
  · exact .inl rfl
  · exact .inr ⟨_, rfl⟩

def asks (b : Bridge) (source : Source) : List (Ask Registry) :=
  b.session.loadAsks host source.name source.contents

def loadEach (b : Bridge) (sources : List Source) : Bridge :=
  sources.foldl (fun b source => (b.load source).1) b

def asksOf (b : Bridge) : List Source → List (Ask Registry)
  | [] => []
  | source :: rest => b.asks source ++ asksOf (b.load source).1 rest

theorem load_serves (b : Bridge) (source : Source) :
    host.Serves b.session.state (b.asks source) (b.load source).1.session.state := by
  have hserves := Session.load_serves host b.session source.name source.contents
  rcases b.load_cases source with h | ⟨message, h⟩ <;> rw [h] <;> exact hserves

theorem loadEach_serves (b : Bridge) (sources : List Source) :
    host.Serves b.session.state (b.asksOf sources) (b.loadEach sources).session.state := by
  induction sources generalizing b with
  | nil => exact .nil b.session.state
  | cons source rest ih => exact (b.load_serves source).append (ih (b.load source).1)

def results (b : Bridge) : List Source → List (Source × Except ExtensionError Unit)
  | [] => []
  | source :: rest => (source, (b.load source).2) :: results (b.load source).1 rest

theorem load_scripts (b : Bridge) (source : Source) :
    (b.load source).1.scripts =
      b.scripts ++ if (b.load source).2.isOk then [source.name] else [] := by
  rcases b.load_cases source with h | ⟨message, h⟩ <;> rw [h]
  · rfl
  · exact (List.append_nil _).symm

theorem loadEach_scripts (b : Bridge) (sources : List Source) :
    (b.loadEach sources).scripts =
      b.scripts ++ ((b.results sources).filter (·.2.isOk)).map (·.1.name) := by
  induction sources generalizing b with
  | nil => exact (List.append_nil _).symm
  | cons source rest ih =>
    have hrest : (b.loadEach (source :: rest)).scripts = _ := ih (b.load source).1
    rw [hrest, load_scripts, results, List.filter_cons, List.append_assoc]
    split <;> rfl

theorem load_eq_error {b : Bridge} {source : Source} {e : ExtensionError}
    (h : (b.load source).2 = .error e) : ∃ message, e = .evaluation source.name message := by
  rcases b.load_cases source with hload | ⟨message, hload⟩ <;> rw [hload] at h
  · cases h
  · exact ⟨message, (Except.error.inj h).symm⟩

def Loads (b : Bridge) (sources : List Source) : Prop := ∀ r ∈ b.results sources, r.2 = .ok ()

structure FailsAt (b : Bridge) (sources before : List Source) (source : Source)
    (e : ExtensionError) : Prop where
  split : ∃ after, sources = before ++ source :: after
  loads : b.Loads before
  fails : ((b.loadEach before).load source).2 = .error e

variable {b : Bridge} {sources before : List Source} {source first : Source} {e : ExtensionError}

theorem loads_cons :
    b.Loads (first :: sources) ↔ (b.load first).2 = .ok () ∧ (b.load first).1.Loads sources := by
  rw [Loads, results, List.forall_mem_cons]
  rfl

theorem loadAll_cons (h : (b.load first).2 = .ok ()) :
    b.loadAll (first :: sources) = (b.load first).1.loadAll sources := by
  rw [loadAll]
  dsimp only
  rw [h]

theorem loadAll_of_loads (h : b.Loads sources) : b.loadAll sources = (b.loadEach sources, .ok ()) := by
  induction sources generalizing b with
  | nil => rfl
  | cons first sources ih =>
    obtain ⟨hfirst, hrest⟩ := loads_cons.mp h
    rw [loadAll_cons hfirst]
    exact ih hrest

theorem loadAll_of_failsAt (h : b.FailsAt sources before source e) :
    b.loadAll sources = (b.loadEach (before ++ [source]), .error e) := by
  obtain ⟨⟨after, rfl⟩, loads, fails⟩ := h
  induction before generalizing b with
  | nil =>
    have fails : (b.load source).2 = .error e := fails
    rw [List.nil_append, loadAll]
    dsimp only
    rw [fails]
    rfl
  | cons first before ih =>
    obtain ⟨hfirst, hrest⟩ := loads_cons.mp loads
    rw [List.cons_append, loadAll_cons hfirst]
    exact ih hrest fails

theorem loads_or_failsAt (b : Bridge) (sources : List Source) :
    b.Loads sources ∨ ∃ before source e, b.FailsAt sources before source e := by
  induction sources generalizing b with
  | nil => exact .inl nofun
  | cons first sources ih =>
    cases hfirst : (b.load first).2 with
    | error e => exact .inr ⟨[], first, e, ⟨sources, rfl⟩, nofun, hfirst⟩
    | ok _ =>
      rcases ih (b.load first).1 with hrest | ⟨before, source, e, ⟨after, rfl⟩, loads, fails⟩
      · exact .inl (loads_cons.mpr ⟨hfirst, hrest⟩)
      · exact .inr ⟨first :: before, source, e, ⟨after, rfl⟩, loads_cons.mpr ⟨hfirst, loads⟩, fails⟩

end Bridge

variable {system : System} {sources : List Source} {e : ExtensionError} {x : Extensions}

theorem Extensions.load_eq_ok : Extensions.load sources system = .ok x ↔
    (Bridge.new system).Loads sources ∧ x = ((Bridge.new system).loadEach sources).finish := by
  constructor
  · intro h
    rcases (Bridge.new system).loads_or_failsAt sources with loads | ⟨before, source, e, failsAt⟩
    · rw [Extensions.load, Bridge.loadAll_of_loads loads] at h
      exact ⟨loads, (Except.ok.inj h).symm⟩
    · rw [Extensions.load, Bridge.loadAll_of_failsAt failsAt] at h
      cases h
  · rintro ⟨loads, rfl⟩
    rw [Extensions.load, Bridge.loadAll_of_loads loads]

theorem Extensions.load_eq_error : Extensions.load sources system = .error e ↔
    ∃ before source, (Bridge.new system).FailsAt sources before source e := by
  constructor
  · intro h
    rcases (Bridge.new system).loads_or_failsAt sources with loads | ⟨before, source, e', failsAt⟩
    · rw [Extensions.load, Bridge.loadAll_of_loads loads] at h
      cases h
    · rw [Extensions.load, Bridge.loadAll_of_failsAt failsAt] at h
      cases h
      exact ⟨before, source, failsAt⟩
  · rintro ⟨before, source, failsAt⟩
    rw [Extensions.load, Bridge.loadAll_of_failsAt failsAt]

/-- Registrations are what the last calls carried out for scripts have made them, whatever scripts are
loaded in a row and whichever of them fail. A call that is refused changes nothing, the scripts that
load are listed in their order, and loading for a run ends with the first script that fails. -/
theorem loading_folds_calls (system : System) (sources : List Source) :
    let b := (Bridge.new system).loadEach sources
    let asks := (Bridge.new system).asksOf sources
    b.session.state = some (registeredBy asks) ∧
    b.finish.registrations = registeredBy asks ∧
    LastWritten (asks.filterMap carriedOut) (registeredBy asks) ∧
    (∀ before a after, asks = before ++ a :: after → a.found = some (registeredBy before) ∧
      Served a (registeredBy before) (registeredBy (before ++ [a]))) ∧
    b.scripts = (((Bridge.new system).results sources).filter (·.2.isOk)).map (·.1.name) ∧
    (∀ x, Extensions.load sources system = .ok x ↔ (Bridge.new system).Loads sources ∧ x = b.finish) ∧
    ∀ e, (Extensions.load sources system = .error e ↔
        ∃ before source, (Bridge.new system).FailsAt sources before source e) ∧
      ∀ before source, (Bridge.new system).FailsAt sources before source e →
        (∃ message, e = .evaluation source.name message) ∧
        (Bridge.new system).loadAll sources =
          ((Bridge.new system).loadEach (before ++ [source]), .error e) := by
  intro b asks
  have serves : host.Serves (some Registrations.none) asks b.session.state :=
    (Bridge.new system).loadEach_serves sources
  have hstate : b.session.state = some (registeredBy asks) := foldl_of_serves serves
  refine ⟨hstate, ?_, lastWritten _, fun before a after h => ?_,
    (Bridge.new system).loadEach_scripts sources, fun x => Extensions.load_eq_ok, fun e =>
    ⟨Extensions.load_eq_error, fun before source failsAt => ?_⟩⟩
  · rw [Bridge.finish, hstate]
    rfl
  · rw [h] at serves
    exact served_of_serves serves
  · exact ⟨Bridge.load_eq_error failsAt.fails, Bridge.loadAll_of_failsAt failsAt⟩

end SchemaForge.Extension
