import SchemaForge.CommandLine.Arguments
import SchemaForge.CommandLine.Log
import SchemaForge.CommandLine.Table
import SchemaForge.Generate.Generator

/-! What a command line comes to: given the files and the environment around the program, the files
behind it, what it prints and logs, and how it exits. Of its messages, those that only inform are left
out. -/

namespace SchemaForge.CommandLine

open Text.Utf8 (Bytes)

structure Surroundings where
  files : FileTree
  environment : String → Option String
  temporaryName : String

structure Outcome where
  exitCode : Nat
  files : FileTree
  output : Bytes
  logged : List LogEntry
  report : Option String
  /-- The code of a reported error that has one. -/
  code : Option String

namespace Surroundings

def userConfigPath? (s : Surroundings) : Option String :=
  match (s.environment "XDG_CONFIG_HOME").filter (·.startsWith "/") with
  | some directory => some (FilePath.join directory "dtgen/config.yaml")
  | none => (s.environment "HOME").map fun home => FilePath.join home ".config/dtgen/config.yaml"

def projectConfigPath : String := ".dtgen.yaml"

def config (s : Surroundings) : Config :=
  Config.load (s.userConfigPath?.bind (Input.readText? s.files))
    (Input.readText? s.files projectConfigPath) s.environment

def configLog (s : Surroundings) : List LogEntry :=
  let files := (s.userConfigPath?.toList ++ [projectConfigPath]).filter fun path =>
    match Input.readText? s.files path with
    | some text => (Config.ofText? text).isNone
    | none => false
  let flags := (s.environment "DTGEN_ALPHABETIZE").toList.filter fun word =>
    (Config.flagOf? word).isNone
  files.map .malformedConfig ++ flags.map .ignoredFlag

def logFilter (s : Surroundings) (i : Invocation) : LogFilter :=
  ((s.environment "RUST_LOG").bind LogFilter.parse?).getD (.ofLevel i.logLevel)

def temporaryRoot (s : Surroundings) : String := (s.environment "TMPDIR").getD "/tmp"

def temporaryPath (s : Surroundings) : String := FilePath.join s.temporaryRoot s.temporaryName

def makeTemporary (s : Surroundings) : Except FileTree.Fault FileTree := do
  let _ ← s.files.locate s.temporaryRoot
  s.files.makeDirectories s.temporaryPath

end Surroundings

inductive Failure where
  | input (e : InputError)
  | generate (e : GenerateError)
  | temporary (fault : FileTree.Fault)
  deriving Inhabited

namespace Failure

/-- Extensions that do not load have an exit code of their own and are logged, not reported. -/
def isLogged : Failure → Bool
  | .generate e => e.isFatalExtension
  | _ => false

def message : Failure → String
  | .input e => e.message
  | .generate e => e.message
  | .temporary fault => fault.message

def exitCode (e : Failure) : Nat := if e.isLogged then 3 else 1

def log (e : Failure) : List LogEntry := if e.isLogged then [.fatalExtension e.message] else []

def report? (e : Failure) : Option String := if e.isLogged then none else some e.message

def code? : Failure → Option String
  | .input e => some e.code
  | .generate e => if e.isFatalExtension then none else some e.code
  | .temporary _ => none

end Failure

/-- What a command leaves: the files, what has been logged and printed, the code with which a script has
ended the program, and how the command has failed. -/
structure Effect where
  files : FileTree
  logged : List LogEntry
  printed : List Bytes
  exited : Option Int
  result : Except Failure String

namespace Effect

def failed (files : FileTree) (logged : List LogEntry) (e : Failure) : Effect :=
  ⟨files, logged, [], none, .error e⟩

/-- A command's own text follows what scripts have printed. Where a script has ended the program, nothing
follows. -/
def outcome (e : Effect) (filter : LogFilter) : Outcome :=
  let logged := e.logged.filter filter.shows
  let output := e.printed.flatten
  match e.exited, e.result with
  | some code, _ => ⟨(code % 256).toNat, e.files, output, logged, none, none⟩
  | none, .ok text => ⟨0, e.files, output ++ Text.Utf8.ofString text, logged, none, none⟩
  | none, .error failure =>
    ⟨failure.exitCode, e.files, output, logged ++ failure.log.filter filter.shows, failure.report?,
      failure.code?⟩

end Effect

/-- The documents, the template and the scripts of a generation run, read in this order. -/
def readInputs (files : FileTree) (a : GenerateArguments) (c : Config) :
    Except InputError GenerationInputs := do
  let schemas ← Input.readSources files a.schemas Input.schemaExtensions
  let template ← Input.readSource files a.template
  let extensions ← Input.readExtensions files c.extensions
  .ok ⟨schemas, template, extensions⟩

def scriptLog (c : Config) (scripts : List Source) : List LogEntry :=
  match c.extensions, scripts with
  | some directory, [] => [.noScripts directory]
  | _, _ => []

def versionLog (alphabetize : Bool) (schemas : List Source) (stages : List Stage) : List LogEntry :=
  match schemas.mapM (Document.parse alphabetize) with
  | .ok read => if .validating ∈ stages then LogEntry.ofVersions "" (read.map (·.version)) else []
  | .error _ => []

/-- The directory for artifacts, and the files with it in place: the one that is set, else a new
temporary one. -/
def outputDirectory (s : Surroundings) (c : Config) : Except Failure (String × FileTree) :=
  match c.output with
  | some path =>
    match Sink.prepareDirectory s.files path with
    | .ok files => .ok (path, files)
    | .error e => .error (.input e)
  | none =>
    match s.makeTemporary with
    | .ok files => .ok (s.temporaryPath, files)
    | .error fault => .error (.temporary fault)

def generatedText (quiet : Bool) (report : GenerationReport) (path : String) : String :=
  if quiet then path ++ "\n"
  else s!"✓ Generated {report.artifacts.length} artifact(s) in {path}\n"

def generate (s : Surroundings) (system : System) (quiet : Bool) (a : GenerateArguments) : Effect :=
  let c := a.config.onto s.config
  match readInputs s.files a c with
  | .error e => .failed s.files s.configLog (.input e)
  | .ok inputs =>
    let logged := s.configLog ++ scriptLog c inputs.extensions
    match outputDirectory s c with
    | .error e => .failed s.files logged e
    | .ok (path, files) =>
      let g := Generator.new ⟨c.alphabetizes, c.fileExtension⟩ system
      let run := g.generate inputs (Sink.directory path) files
      ⟨run.store, logged ++ versionLog c.alphabetizes inputs.schemas run.stages, run.printed, run.exited,
        match run.result with
        | .ok report => .ok (generatedText quiet report path)
        | .error e => .error (.generate e)⟩

def validatedText (schema : Schema) : String :=
  let table := Table.text ["Name", "Kind", "Members"] (schema.dataTypes.map fun d =>
    [d.name, d.kind.text, toString d.memberCount])
  let version := if schema.version.isEmpty then "" else s!" (schema version {schema.version})"
  table ++ s!"\n\n✓ {schema.dataTypes.length} data type(s) valid{version}\n"

def validate (s : Surroundings) (system : System) (quiet : Bool) (a : ValidateArguments) : Effect :=
  let c := a.config.onto s.config
  let inputs : Except InputError (List Source × List Source) := do
    let schemas ← Input.readSources s.files a.schemas Input.schemaExtensions
    .ok (schemas, ← Input.readExtensions s.files c.extensions)
  match inputs with
  | .error e => .failed s.files s.configLog (.input e)
  | .ok (schemas, extensions) =>
    let (_, p) := (Generator.new ⟨c.alphabetizes, none⟩ system).prepare schemas extensions
    let logged := s.configLog ++ scriptLog c extensions ++ versionLog c.alphabetizes schemas p.stages
    ⟨s.files, logged, p.printed, p.exited,
      match p.result with
      | .ok prepared => .ok (if quiet then "" else validatedText prepared.schema.schema)
      | .error e => .error (.generate e)⟩

def completionText (shell : Shell) : String :=
  let words := CommandName.all.map CommandName.text ++ ["help"]
  let spaced := String.intercalate " " words
  match shell with
  | .bash => s!"complete -W \"" ++ spaced ++ "\" dtgen\n"
  | .elvish =>
    "set edit:completion:arg-completer[dtgen] = \x7b|@words| put " ++ spaced ++ " \x7d\n"
  | .fish => "complete -c dtgen -n __fish_use_subcommand -a \"" ++ spaced ++ "\"\n"
  | .powershell =>
    "Register-ArgumentCompleter -Native -CommandName dtgen -ScriptBlock \x7b " ++
      String.intercalate ", " (words.map fun w => "'" ++ w ++ "'") ++ " \x7d\n"
  | .zsh => "compctl -k \"(" ++ spaced ++ ")\" dtgen\n"

def argumentUsage (a : Argument) : String :=
  if a.takesValue then s!"[--{a.name} <value>]" else s!"[--{a.name}]"

def helpText (command : Option CommandName) : String :=
  let usage (command : Option CommandName) : String :=
    let name := match command with
      | some c => [c.text]
      | none => []
    String.intercalate " " (["dtgen"] ++ name ++
      (positions command).map (fun a => s!"<{a.name}>") ++ (known command).map argumentUsage)
  match command with
  | some _ => "Usage: " ++ usage command ++ "\n"
  | none =>
    "Data type code generator\n\n" ++ String.join ((none :: CommandName.all.map some).map fun c =>
      "Usage: " ++ usage c ++ "\n")

def versionText : Option CommandName → String
  | some c => s!"dtgen-{c.text} 0.1.0\n"
  | none => "dtgen 0.1.0\n"

/-- The paths at which a command line makes the program look or write, apart from the files of
settings. -/
def paths (s : Surroundings) (args : List String) : List String :=
  let ofConfig (c : Config) : List String := c.extensions.toList ++ c.output.toList
  match read args with
  | .error _ => []
  | .ok i =>
    match i.command with
    | .generate a =>
      a.schemas :: a.template :: s.temporaryRoot :: ofConfig (a.config.onto s.config)
    | .validate a => a.schemas :: ofConfig (a.config.onto s.config)
    | .completions _ => []

def refused (s : Surroundings) (e : ArgumentError) : Outcome :=
  match e with
  | .help command => ⟨0, s.files, Text.Utf8.ofString (helpText command), [], none, none⟩
  | .version command => ⟨0, s.files, Text.Utf8.ofString (versionText command), [], none, none⟩
  | e => ⟨e.exitCode, s.files, [], [], some e.message, none⟩

def run (s : Surroundings) (args : List String) (system : System := .bare) : Outcome :=
  let system := { system with environment := s.environment }
  match read args with
  | .error e => refused s e
  | .ok i =>
    match i.command with
    | .generate a => (generate s system i.quiet a).outcome (s.logFilter i)
    | .validate a => (validate s system i.quiet a).outcome (s.logFilter i)
    | .completions shell =>
      ⟨0, s.files, Text.Utf8.ofString (completionText shell), [], none, none⟩

end SchemaForge.CommandLine
