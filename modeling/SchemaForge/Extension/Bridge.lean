import SchemaForge.Extension.Registrations
import SchemaForge.Schema.Document

/-! Loading extension scripts. All scripts of a run share one script state; their registrations add
up, and are taken out of reach of the scripts when loading is finished. -/

namespace SchemaForge.Extension

open Script (Session)
open Text.Utf8 (Bytes)

inductive ExtensionError where
  | evaluation (script message : String)
  deriving DecidableEq, Repr, Inhabited

namespace ExtensionError

def message : ExtensionError → String
  | .evaluation script message => s!"extension script '{script}' failed to load: {message}"

def code : ExtensionError → String
  | .evaluation .. => "dtgen::extension::evaluation"

def help : ExtensionError → String
  | .evaluation .. => "errors raised while an extension script is loading are fatal"

end ExtensionError

structure Bridge where
  session : Session Registry
  scripts : List String

namespace Bridge

def printed (b : Bridge) : List Bytes := b.session.heap.printed.reverse

def exited (b : Bridge) : Option Int := b.session.heap.exited

def new (system : System := .bare) : Bridge :=
  ⟨Session.new host (some Registrations.none) system, []⟩

/-- Run a script. What it registered before an error stays registered. -/
def load (b : Bridge) (source : Source) : Bridge × Except ExtensionError Unit :=
  let (session, result) := b.session.load host source.name source.contents
  match result with
  | .ok _ => (⟨session, b.scripts ++ [source.name]⟩, .ok ())
  | .error e => (⟨session, b.scripts⟩, .error (.evaluation source.name e.message))

def loadAll (b : Bridge) : List Source → Bridge × Except ExtensionError Unit
  | [] => (b, .ok ())
  | source :: rest =>
    let (b, result) := b.load source
    match result with
    | .ok _ => loadAll b rest
    | .error e => (b, .error e)

end Bridge

/-- Extensions that have loaded: their registrations, the state that their functions run in, and what
they run on. -/
structure Extensions where
  registrations : Registrations
  scripts : List String
  session : Session Registry
  system : System

def Bridge.finish (b : Bridge) : Extensions :=
  ⟨b.session.state.getD Registrations.none, b.scripts, { b.session with state := none },
    b.session.heap.system⟩

namespace Extensions

def printed (x : Extensions) : List Bytes := x.session.heap.printed.reverse

def exited (x : Extensions) : Option Int := x.session.heap.exited

def none (system : System := .bare) : Extensions := (Bridge.new system).finish

def load (sources : List Source) (system : System := .bare) : Except ExtensionError Extensions :=
  match (Bridge.new system).loadAll sources with
  | (b, .ok _) => .ok b.finish
  | (_, .error e) => .error e

end Extensions

end SchemaForge.Extension
