/-! The stages of a run. `done`, `validated` and `failed` end one. -/

namespace SchemaForge

inductive Stage where
  | idle
  | loadingExtensions
  | parsingSchemas
  | validating
  | validated
  | rendering (current total : Nat)
  | done
  | failed
  deriving DecidableEq, Repr, Inhabited

def Stage.text : Stage → String
  | .idle => "idle"
  | .loadingExtensions => "loading extensions"
  | .parsingSchemas => "parsing schemas"
  | .validating => "validating"
  | .validated => "validated"
  | .rendering current total => s!"rendering {current}/{total}"
  | .done => "done"
  | .failed => "failed"

end SchemaForge
