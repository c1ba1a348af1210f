import SchemaForge.Text.Search

/-! Names of files in slash-separated paths. -/

namespace SchemaForge.FilePath

/-- The parts between the slashes, those that stand for the directory itself left out. A path that
starts with a single dot keeps it. -/
def components (path : String) : List String :=
  let parts := Text.piecesAt '/' path
  match parts with
  | "." :: rest => "." :: rest.filter fun part => part != "" && part != "."
  | parts => parts.filter fun part => part != "" && part != "."

def fileName? (path : String) : Option String :=
  match (components path).getLast? with
  | some "." => none
  | some ".." => none
  | last => last

def splitDot? (name : List Char) : Option (List Char × List Char) :=
  let behind := (name.reverse.takeWhile (· != '.')).reverse
  if behind.length < name.length then
    some (name.take (name.length - behind.length - 1), behind)
  else none

/-- What follows the last dot of a file name. A dot in front of the whole name does not count. -/
def nameExtension? (name : String) : Option String :=
  if name = ".." then none
  else
    match splitDot? name.toList with
    | some ([], _) => none
    | some (_, behind) => some (String.ofList behind)
    | none => none

def extension? (path : String) : Option String := (fileName? path).bind nameExtension?

def join (directory path : String) : String :=
  if path.startsWith "/" then path
  else if directory.isEmpty || directory.endsWith "/" then directory ++ path
  else directory ++ "/" ++ path

end SchemaForge.FilePath
