import SchemaForge.Text.Blank
import SchemaForge.Text.Case
import SchemaForge.Yaml.Reader

/-! Settings in layers: the user's file, the project's file, the environment, the command line. Each
setting is the one of the highest layer that has it. -/

namespace SchemaForge

open Json (Value)

structure Config where
  alphabetize : Option Bool
  extensions : Option String
  output : Option String
  fileExtension : Option String
  deriving DecidableEq, Repr, Inhabited

namespace Config

def empty : Config := ⟨none, none, none, none⟩

def onto (top below : Config) : Config :=
  ⟨top.alphabetize.or below.alphabetize, top.extensions.or below.extensions,
    top.output.or below.output, top.fileExtension.or below.fileExtension⟩

def alphabetizes (c : Config) : Bool := c.alphabetize.getD false

def flagOf? (word : String) : Option Bool :=
  let word := Text.asciiLower (Text.trim word)
  if word ∈ ["1", "true", "yes", "on"] then some true
  else if word ∈ ["0", "false", "no", "off"] then some false
  else none

/-- What the environment sets. A word that is none for a truth value sets nothing. -/
def ofEnvironment (environment : String → Option String) : Config :=
  ⟨(environment "DTGEN_ALPHABETIZE").bind flagOf?, environment "DTGEN_EXTENSIONS",
    environment "DTGEN_OUTPUT", environment "DTGEN_FILE_EXTENSION"⟩

def bool? : Value → Option (Option Bool)
  | .null => some none
  | .bool b => some (some b)
  | _ => none

/-- A bare scalar that reads as a number or a truth value is not taken as a text. -/
def text? : Value → Option (Option String)
  | .null => some none
  | .string s => some (some s)
  | _ => none

def single? (entries : List (String × Value)) (key : String) : Option Value :=
  match entries.filter (·.1 == key) with
  | [] => some .null
  | [e] => some e.2
  | _ => none

/-- Settings by the entries of a file. Other keys are ignored. -/
def ofEntries? (entries : List (String × Value)) : Option Config := do
  let alphabetize ← bool? (← single? entries "alphabetize")
  let extensions ← text? (← single? entries "extensions")
  let output ← text? (← single? entries "output")
  let fileExtension ← text? (← single? entries "file_extension")
  some ⟨alphabetize, extensions, output, fileExtension⟩

def ofText? (text : String) : Option Config :=
  match Yaml.readEntries text with
  | .ok entries => ofEntries? entries
  | .error _ => none

/-- What a file provides; one that is not there or cannot be read provides nothing. -/
def ofFile (text : Option String) : Config := (text.bind ofText?).getD empty

def load (user project : Option String) (environment : String → Option String) : Config :=
  (ofEnvironment environment).onto ((ofFile project).onto (ofFile user))

end Config

end SchemaForge
