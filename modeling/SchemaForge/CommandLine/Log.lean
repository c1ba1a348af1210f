import SchemaForge.Text.Case
import SchemaForge.Text.Search

/-! Messages that a command logs, and which of them are shown. A filter is a list of directives; for a
message counts the one that names most of the place it comes from. -/

namespace SchemaForge.CommandLine

inductive LogLevel where
  | error
  | warn
  | info
  | debug
  | trace
  deriving DecidableEq, Repr, Inhabited

namespace LogLevel

def text : LogLevel → String
  | .error => "ERROR"
  | .warn => " WARN"
  | .info => " INFO"
  | .debug => "DEBUG"
  | .trace => "TRACE"

def rank : LogLevel → Nat
  | .error => 1
  | .warn => 2
  | .info => 3
  | .debug => 4
  | .trace => 5

end LogLevel

structure LogEntry where
  level : LogLevel
  target : String
  text : String
  fields : List (String × String)
  deriving DecidableEq, Repr, Inhabited

namespace LogEntry

def line (e : LogEntry) : String :=
  e.level.text ++ " " ++ e.text ++ String.join (e.fields.map fun f => s!" {f.1}={f.2}")

def ignoredFlag (value : String) : LogEntry :=
  ⟨.warn, "dtgen::core::config", "ignoring DTGEN_ALPHABETIZE, expected true or false",
    [("value", value)]⟩

def malformedConfig (path : String) : LogEntry :=
  ⟨.warn, "dtgen::core::config", "skipping malformed config", [("path", path)]⟩

def noScripts (directory : String) : LogEntry :=
  ⟨.warn, "dtgen::cli::helpers", "no extension scripts found", [("dir", directory)]⟩

def otherVersion (expected found : String) : LogEntry :=
  ⟨.warn, "dtgen::model::schema", "schema documents declare different versions",
    [("expected", expected), ("found", found)]⟩

def fatalExtension (message : String) : LogEntry := ⟨.error, "dtgen::cli::helpers", message, []⟩

def ofVersions (version : String) : List String → List LogEntry
  | [] => []
  | v :: rest =>
    if version.isEmpty then ofVersions v rest
    else if v.isEmpty || v == version then ofVersions version rest
    else otherVersion version v :: ofVersions version rest

end LogEntry

structure LogDirective where
  target : String
  rank : Nat
  deriving DecidableEq, Repr, Inhabited

namespace LogDirective

def rank? (word : String) : Option Nat :=
  let word := Text.asciiLower word
  (List.range 6).find? fun n =>
    word == toString n || some word == ["off", "error", "warn", "info", "debug", "trace"][n]?

def isTargetChar (c : Char) : Bool := c.isAlphanum || c == '_' || c == ':' || c == '-'

def parse? (text : String) : Option LogDirective :=
  match rank? text with
  | some rank => some ⟨"", rank⟩
  | none =>
    match Text.piecesAt '=' text with
    | target :: level =>
      if target.isEmpty || !target.all isTargetChar then none
      else
        match level with
        | [] => some ⟨target, LogLevel.trace.rank⟩
        | [""] => some ⟨target, LogLevel.trace.rank⟩
        | [word] => (rank? word).map (⟨target, ·⟩)
        | _ => none
    | [] => none

end LogDirective

abbrev LogFilter := List LogDirective

namespace LogFilter

def parse? (text : String) : Option LogFilter :=
  match ((Text.piecesAt ',' text).filter fun piece => !piece.isEmpty).mapM LogDirective.parse? with
  | some [] => some [⟨"", LogLevel.error.rank⟩]
  | directives => directives

def ofLevel (word : String) : LogFilter := (parse? word).getD []

def rankAt (f : LogFilter) (target : String) : Nat :=
  ((f.filter fun d => Text.startsWith target d.target).foldl (fun best d =>
    if best.target.length ≤ d.target.length then d else best) ⟨"", 0⟩).rank

def shows (f : LogFilter) (e : LogEntry) : Bool := e.level.rank ≤ f.rankAt e.target

end LogFilter

end SchemaForge.CommandLine
