import SchemaForge.FilePath
import SchemaForge.FileTree
import SchemaForge.Schema.Document
import SchemaForge.Text.Case

/-! Reading the inputs of a run from files: the schema documents and the extension scripts of a
directory, in the order of their names, and the template. -/

namespace SchemaForge

open Text.Utf8 (Bytes)

inductive InputError where
  | missing (path : String)
  | notADirectory (path : String)
  | empty (path : String)
  | notAFile (path : String)
  | inaccessible (path message : String)
  deriving DecidableEq, Repr, Inhabited

namespace InputError

def message : InputError → String
  | .missing path => s!"{path} does not exist"
  | .notADirectory path => s!"{path} is not a directory"
  | .empty path => s!"{path} contains no usable files"
  | .notAFile path => s!"{path} is not a file"
  | .inaccessible path message => s!"cannot access {path}: {message}"

def code : InputError → String
  | .missing _ => "dtgen::input::missing"
  | .notADirectory _ => "dtgen::input::not_a_directory"
  | .empty _ => "dtgen::input::empty"
  | .notAFile _ => "dtgen::input::not_a_file"
  | .inaccessible .. => "dtgen::input::io"

def help? : InputError → Option String
  | .empty _ =>
    some "schema documents end in .json, .yaml or .yml; extension scripts end in .lua"
  | _ => none

end InputError

namespace Input

def schemaExtensions : List String := ["json", "yaml", "yml"]

def scriptExtensions : List String := ["lua"]

def hasExtension (extensions : List String) (name : String) : Bool :=
  match FilePath.nameExtension? name with
  | some e => extensions.any fun x => Text.asciiLower x == Text.asciiLower e
  | none => false

def requireDirectory (t : FileTree) (path : String) : Except InputError Unit :=
  match t.entry? path with
  | none => .error (.missing path)
  | some (.file _) => .error (.notADirectory path)
  | some .directory => .ok ()

def source (path name : String) (contents : Bytes) : Except InputError Source :=
  match Text.Utf8.decode contents with
  | .ok text => .ok ⟨name, text⟩
  | .error _ => .error (.inaccessible path "stream did not contain valid UTF-8")

def chosen (extensions : List String) (listing : NameMap Entry) : List (String × Bytes) :=
  listing.entries.filterMap fun (name, entry) =>
    match entry with
    | .file contents => if hasExtension extensions name then some (name, contents) else none
    | .directory => none

/-- Read the files of a directory, by its path and what stands in it, that have one of some
extensions. There has to be one. -/
def readListing (path : String) (extensions : List String) (listing : NameMap Entry) :
    Except InputError (List Source) := do
  let sources ← (chosen extensions listing).mapM fun (name, contents) =>
    source (FilePath.join path name) name contents
  if sources.isEmpty then .error (.empty path) else .ok sources

/-- Read the files in a directory that have one of some extensions, in the order of their names. -/
def readSources (t : FileTree) (path : String) (extensions : List String) :
    Except InputError (List Source) := do
  requireDirectory t path
  readListing path extensions (t.listing path)

/-- Read the extension scripts of a directory, if one is given. There need not be any. -/
def readExtensions (t : FileTree) : Option String → Except InputError (List Source)
  | none => .ok []
  | some path =>
    match readSources t path scriptExtensions with
    | .error (.empty _) => .ok []
    | result => result

def readSource (t : FileTree) (path : String) : Except InputError Source :=
  match t.entry? path with
  | none => .error (.missing path)
  | some .directory => .error (.notAFile path)
  | some (.file contents) => source path ((FilePath.fileName? path).getD "") contents

def readText? (t : FileTree) (path : String) : Option String :=
  match t.entry? path with
  | some (.file contents) => (Text.Utf8.decode contents).toOption
  | _ => none

end Input

end SchemaForge
