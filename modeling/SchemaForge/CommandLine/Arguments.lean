import SchemaForge.Config

/-! Reading a command line. Options and flags stand anywhere behind the command that knows them; a
value stays pending until the next argument is taken or the line ends, so that the first fault in
the order of the line is the one reported, and an argument that nothing knows before a pending
value that is wrong. -/

namespace SchemaForge.CommandLine

inductive CommandName where
  | generate
  | validate
  | completions
  deriving DecidableEq, Repr, Inhabited

namespace CommandName

def all : List CommandName := [.generate, .validate, .completions]

def text : CommandName → String
  | .generate => "generate"
  | .validate => "validate"
  | .completions => "completions"

def parse? (s : String) : Option CommandName := all.find? fun c => c.text == s

end CommandName

inductive Shell where
  | bash
  | elvish
  | fish
  | powershell
  | zsh
  deriving DecidableEq, Repr, Inhabited

namespace Shell

def all : List Shell := [.bash, .elvish, .fish, .powershell, .zsh]

def text : Shell → String
  | .bash => "bash"
  | .elvish => "elvish"
  | .fish => "fish"
  | .powershell => "powershell"
  | .zsh => "zsh"

def parse? (s : String) : Option Shell := all.find? fun x => x.text == s

end Shell

inductive Argument where
  | quiet
  | verbose
  | help
  | version
  | alphabetize
  | output
  | extensions
  | fileExtension
  | schemas
  | template
  | shell
  deriving DecidableEq, Repr, Inhabited

namespace Argument

def name : Argument → String
  | .quiet => "quiet"
  | .verbose => "verbose"
  | .help => "help"
  | .version => "version"
  | .alphabetize => "alphabetize"
  | .output => "output"
  | .extensions => "extensions"
  | .fileExtension => "extension"
  | .schemas => "schemas"
  | .template => "template"
  | .shell => "shell"

def letter? : Argument → Option Char
  | .quiet => some 'q'
  | .verbose => some 'v'
  | .help => some 'h'
  | .version => some 'V'
  | .output => some 'o'
  | .extensions => some 'e'
  | _ => none

def takesValue : Argument → Bool
  | .quiet | .verbose | .help | .version | .alphabetize => false
  | _ => true

/-- Whether a value can stand for the argument. A path is never empty. -/
def admits (a : Argument) (value : String) : Bool :=
  match a with
  | .shell => (Shell.parse? value).isSome
  | .fileExtension => true
  | _ => !value.isEmpty

end Argument

/-- The flags and options that are known behind a command, or in front of all commands. -/
def known : Option CommandName → List Argument
  | none => [.quiet, .verbose, .help, .version]
  | some .generate =>
    [.quiet, .verbose, .help, .version, .alphabetize, .output, .extensions, .fileExtension]
  | some .validate => [.quiet, .verbose, .help, .version, .extensions]
  | some .completions => [.quiet, .verbose, .help, .version]

def positions : Option CommandName → List Argument
  | none => []
  | some .generate => [.schemas, .template]
  | some .validate => [.schemas]
  | some .completions => [.shell]

/-- Why there is nothing to carry out: help or the version is asked for, or the line is wrong. -/
inductive ArgumentError where
  | help (command : Option CommandName)
  | version (command : Option CommandName)
  | nothingGiven
  | missingCommand
  | unknownCommand (text : String)
  | unknownArgument (text : String)
  | missingArgument (a : Argument)
  | invalidValue (a : Argument) (value : String)
  | conflict (a b : Argument)
  | unexpectedValue (a : Argument) (value : String)
  deriving DecidableEq, Repr, Inhabited

namespace ArgumentError

def message : ArgumentError → String
  | .help _ | .version _ => ""
  | .nothingGiven | .missingCommand => "a command is missing"
  | .unknownCommand text => s!"unknown command: {text}"
  | .unknownArgument text => s!"unexpected argument: {text}"
  | .missingArgument a => s!"missing argument: {a.name}"
  | .invalidValue a value => s!"invalid value for {a.name}: {value}"
  | .conflict a b =>
    if a = b then s!"{a.name} is given more than once"
    else s!"{a.name} and {b.name} exclude each other"
  | .unexpectedValue a value => s!"{a.name} takes no value: {value}"

def exitCode : ArgumentError → Nat
  | .help _ | .version _ => 0
  | _ => 2

end ArgumentError

structure Reading where
  command : Option CommandName
  /-- The arguments taken so far with their values; a flag's is empty. -/
  taken : List (Argument × String)
  /-- The last argument that takes a value, and its value once that has been met. -/
  pending : Option (Argument × Option String)
  plainOnly : Bool
  positions : List Argument
  deriving Inhabited

namespace Reading

def start (command : Option CommandName) : Reading :=
  ⟨command, [], none, false, CommandLine.positions command⟩

abbrev Result := Except ArgumentError

def has (r : Reading) (a : Argument) : Bool := r.taken.any (·.1 == a)

def take (r : Reading) (a : Argument) (value : Option String) : Result Reading :=
  match a, value with
  | .help, _ => .error (.help r.command)
  | .version, _ => .error (.version r.command)
  | a, value =>
    if a.takesValue && value.isNone then .error (.invalidValue a "")
    else if r.has a then .error (.conflict a a)
    else
      let text := value.getD ""
      if a.takesValue && !a.admits text then .error (.invalidValue a text)
      else .ok { r with taken := r.taken ++ [(a, text)] }

def settle (r : Reading) : Result Reading :=
  match r.pending with
  | some (a, value) => { r with pending := none }.take a value
  | none => .ok r

def takeNow (r : Reading) (a : Argument) (value : Option String) : Result Reading := do
  (← r.settle).take a value

def await (r : Reading) (a : Argument) : Result Reading := do
  .ok { (← r.settle) with pending := some (a, none) }

/-- An argument behind two dashes, in which a value may be written behind an equality sign. -/
def long (r : Reading) (text : List Char) : Result Reading :=
  let name := String.ofList (text.takeWhile (· != '='))
  let value := match text.dropWhile (· != '=') with
    | _ :: rest => some (String.ofList rest)
    | [] => none
  match (known r.command).find? fun a => a.name == name with
  | none => .error (.unknownArgument ("--" ++ name))
  | some a =>
    match a.takesValue, value with
    | true, some value => r.takeNow a (some value)
    | true, none => r.await a
    | false, some value => .error (.unexpectedValue a value)
    | false, none => r.takeNow a none

/-- Letters behind one dash. The rest behind the letter of an option is its value. -/
def letters (r : Reading) : List Char → Result Reading
  | [] => .ok r
  | c :: rest =>
    match (known r.command).find? fun a => a.letter? == some c with
    | none => .error (.unknownArgument ("-" ++ c.toString))
    | some a =>
      if a.takesValue then
        match rest with
        | [] => r.await a
        | '=' :: value => r.takeNow a (some (String.ofList value))
        | value => r.takeNow a (some (String.ofList value))
      else do letters (← r.takeNow a none) rest

/-- A value by its position. In front of all commands there is none, so that a command is meant. -/
def positional (r : Reading) (text : String) : Result Reading :=
  match r.positions with
  | [] => .error (if r.command.isNone then .unknownCommand text else .unknownArgument text)
  | a :: rest => do
    .ok { (← r.settle) with pending := some (a, some text), positions := rest }

def awaits? (r : Reading) : Option Argument :=
  match r.pending with
  | some (a, none) => some a
  | _ => none

def step (r : Reading) (text : String) : Result Reading :=
  if r.plainOnly then r.positional text
  else
    match text.toList with
    | ['-', '-'] => .ok { r with plainOnly := true }
    | '-' :: '-' :: rest => r.long rest
    | '-' :: c :: rest => r.letters (c :: rest)
    | _ =>
      match r.awaits? with
      | some a => .ok { r with pending := some (a, some text) }
      | none => r.positional text

def value? (r : Reading) (a : Argument) : Option String := r.taken.lookup a

def excludes (r : Reading) : Bool := r.has .quiet && r.has .verbose

def need (r : Reading) (a : Argument) : Result String :=
  match r.value? a with
  | some value => .ok value
  | none => .error (.missingArgument a)

end Reading

structure GenerateArguments where
  schemas : String
  template : String
  output : Option String
  extensions : Option String
  alphabetize : Bool
  fileExtension : Option String
  deriving DecidableEq, Repr, Inhabited

def GenerateArguments.config (a : GenerateArguments) : Config :=
  ⟨if a.alphabetize then some true else none, a.extensions, a.output, a.fileExtension⟩

structure ValidateArguments where
  schemas : String
  extensions : Option String
  deriving DecidableEq, Repr, Inhabited

def ValidateArguments.config (a : ValidateArguments) : Config :=
  { Config.empty with extensions := a.extensions }

inductive Command where
  | generate (arguments : GenerateArguments)
  | validate (arguments : ValidateArguments)
  | completions (shell : Shell)
  deriving DecidableEq, Repr, Inhabited

structure Invocation where
  quiet : Bool
  verbose : Bool
  command : Command
  deriving DecidableEq, Repr, Inhabited

def Invocation.logLevel (i : Invocation) : String :=
  if i.quiet then "error" else if i.verbose then "debug" else "warn"

def commandOf (name : CommandName) (r : Reading) : Reading.Result Command := do
  match name with
  | .generate =>
    .ok (.generate ⟨← r.need .schemas, ← r.need .template, r.value? .output,
      r.value? .extensions, r.has .alphabetize, r.value? .fileExtension⟩)
  | .validate => .ok (.validate ⟨← r.need .schemas, r.value? .extensions⟩)
  | .completions =>
    let text ← r.need .shell
    match Shell.parse? text with
    | some shell => .ok (.completions shell)
    | none => .error (.invalidValue .shell text)

/-- Read what stands behind a command's name. Quiet and verbose exclude each other on one side of
the name; on both sides, quiet is stronger. -/
def readCommand (front : Reading) (name : CommandName) (args : List String) :
    Reading.Result Invocation := do
  let r ← (← args.foldlM Reading.step (Reading.start (some name))).settle
  if r.excludes then .error (.conflict .quiet .verbose)
  else
    let command ← commandOf name r
    if front.excludes then .error (.conflict .quiet .verbose)
    else .ok ⟨front.has .quiet || r.has .quiet, front.has .verbose || r.has .verbose, command⟩

/-- The help that is asked for behind the word for it: on everything, or on one command. -/
def readHelp : List String → ArgumentError
  | [] => .help none
  | topic :: rest =>
    match CommandName.parse? topic, rest with
    | some name, [] => .help (some name)
    | some _, text :: _ => .unknownCommand text
    | none, [] => if topic == "help" then .help none else .unknownCommand topic
    | none, text :: _ => .unknownCommand (if topic == "help" then text else topic)

def readFrom (front : Reading) : List String → Reading.Result Invocation
  | [] => .error (if front.taken.isEmpty then .nothingGiven else .missingCommand)
  | text :: rest =>
    match CommandName.parse? text with
    | some name =>
      if front.plainOnly then .error (.unknownArgument text) else readCommand front name rest
    | none =>
      if text == "help" then
        .error (if front.plainOnly then .unknownArgument text else readHelp rest)
      else do readFrom (← front.step text) rest

def read (args : List String) : Reading.Result Invocation := readFrom (Reading.start none) args

end SchemaForge.CommandLine
