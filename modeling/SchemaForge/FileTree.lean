import SchemaForge.NameMap
import SchemaForge.Text.Search
import SchemaForge.Text.Utf8

/-! Files, directories and symbolic links below one root, and the paths that lead to them: names
between slashes, one dot for where one stands, two for the directory above. A path leads through
links; a directory lists only what stands in it itself. -/

namespace SchemaForge

open Text.Utf8 (Bytes)

abbrev Location := List String

inductive Entry where
  | file (contents : Bytes)
  | directory
  deriving DecidableEq, Repr, Inhabited

inductive Node where
  | entry (e : Entry)
  /-- A link to where a path leads, a relative one from the link's directory on. -/
  | link (path : String)
  deriving DecidableEq, Repr, Inhabited

def Node.directory : Node := .entry .directory

def Node.entry? : Node → Option Entry
  | .entry e => some e
  | .link _ => none

structure FileTree where
  /-- The latest first. -/
  nodes : List (Location × Node)
  workingDirectory : Location
  deriving Inhabited

namespace FileTree

def node? (t : FileTree) (l : Location) : Option Node :=
  if l.isEmpty then some .directory else t.nodes.lookup l

def entries (t : FileTree) : List (Location × Entry) :=
  t.nodes.filterMap fun (l, n) => n.entry?.map (l, ·)

def at? (t : FileTree) (l : Location) : Option Entry := (t.node? l).bind Node.entry?

def putNode (t : FileTree) (l : Location) (n : Node) : FileTree :=
  { t with nodes := (l, n) :: t.nodes.filter (·.1 != l) }

def put (t : FileTree) (l : Location) (e : Entry) : FileTree := t.putNode l (.entry e)

def nameIn? (directory : Location) (l : Location) : Option String :=
  match l.getLast? with
  | some name => if l.dropLast = directory then some name else none
  | none => none

def children (t : FileTree) (directory : Location) : NameMap Entry :=
  NameMap.ofList ((t.nodes.filterMap fun e => nameIn? directory e.1).filterMap fun name =>
    (t.at? (directory ++ [name])).map (name, ·))

inductive Fault where
  | missing
  | notADirectory
  | isADirectory
  | nameTooLong
  | tooManyLinks
  | zeroByte
  deriving DecidableEq, Repr, Inhabited

def Fault.message : Fault → String
  | .missing => "No such file or directory (os error 2)"
  | .notADirectory => "Not a directory (os error 20)"
  | .isADirectory => "Is a directory (os error 21)"
  | .nameTooLong => "File name too long (os error 36)"
  | .tooManyLinks => "Too many levels of symbolic links (os error 40)"
  | .zeroByte => "file name contained an unexpected NUL byte"

def nameLimit : Nat := 255

def isHereOrAbove (part : String) : Bool := part == "" || part == "." || part == ".."

def linkLimit : Nat := 40

/-- The parts of a path that is written at a location, and the location that they start from. -/
def pathFrom (l : Location) (path : String) : Location × List String :=
  (if path.startsWith "/" then [] else l, Text.piecesAt '/' path)

/-- Follow the parts of a path from a location on. Every part, an empty one too, asks for a
directory to start from. -/
def walk (t : FileTree) (onLink : Location × List String → Except Fault Location) (l : Location) :
    List String → Except Fault Location
  | [] => .ok l
  | part :: rest =>
    match t.at? l with
    | none => .error .missing
    | some (.file _) => .error .notADirectory
    | some .directory =>
      if part == "" || part == "." then walk t onLink l rest
      else if part == ".." then walk t onLink l.dropLast rest
      else if nameLimit < part.utf8ByteSize then .error .nameTooLong
      else
        match t.node? (l ++ [part]) with
        | none => .error .missing
        | some (.entry _) => walk t onLink (l ++ [part]) rest
        | some (.link path) =>
          let (start, parts) := pathFrom l path
          onLink (start, parts ++ rest)

def follow (t : FileTree) : Nat → Location × List String → Except Fault Location
  | 0, (l, parts) => t.walk (fun _ => .error .tooManyLinks) l parts
  | links + 1, (l, parts) => t.walk (follow t links) l parts

def parts (t : FileTree) (path : String) : Except Fault (Location × List String) :=
  if path.toList.contains '\x00' then .error .zeroByte
  else if path.isEmpty then .error .missing
  else .ok (pathFrom t.workingDirectory path)

def locate (t : FileTree) (path : String) : Except Fault Location := do
  t.follow linkLimit (← t.parts path)

def entry? (t : FileTree) (path : String) : Option Entry :=
  match t.locate path with
  | .ok l => t.at? l
  | .error _ => none

def listing (t : FileTree) (path : String) : NameMap Entry :=
  match t.locate path with
  | .ok l => t.children l
  | .error _ => .empty

def writeAlong (t : FileTree) (contents : Bytes) : Nat → Location × List String → Except Fault FileTree
  | 0, _ => .error .tooManyLinks
  | links + 1, (start, parts) => do
    let trailing := parts.getLast? == some ""
    match (parts.reverse.dropWhile (· == "")) with
    | [] => .error .isADirectory
    | name :: above =>
      let directory ← t.follow linkLimit (start, above.reverse)
      match t.at? directory with
      | some .directory =>
        if trailing || isHereOrAbove name then .error .isADirectory
        else if nameLimit < name.utf8ByteSize then .error .nameTooLong
        else
          let l := directory ++ [name]
          match t.node? l with
          | some (.entry .directory) => .error .isADirectory
          | some (.link path) => writeAlong t contents links (pathFrom directory path)
          | _ => .ok (t.put l (.file contents))
      | some (.file _) => .error .notADirectory
      | none => .error .missing

def write (t : FileTree) (path : String) (contents : Bytes) : Except Fault FileTree := do
  t.writeAlong contents (linkLimit + 1) (← t.parts path)

def makeAlong (t : FileTree) (l : Location) : List String → Except Fault FileTree
  | [] => .ok t
  | part :: rest =>
    if part == "" || part == "." then makeAlong t l rest
    else if part == ".." then makeAlong t l.dropLast rest
    else if nameLimit < part.utf8ByteSize then .error .nameTooLong
    else
      match t.node? (l ++ [part]) with
      | some (.entry .directory) => makeAlong t (l ++ [part]) rest
      | some (.entry (.file _)) => .error .notADirectory
      | some (.link _) =>
        match t.follow linkLimit (l, [part]) with
        | .error fault => .error fault
        | .ok l =>
          if t.at? l = some .directory then makeAlong t l rest else .error .notADirectory
      | none => makeAlong (t.put (l ++ [part]) .directory) (l ++ [part]) rest

/-- Make the directory at the end of a path and those on the way to it. The empty path asks for
nothing. -/
def makeDirectories (t : FileTree) (path : String) : Except Fault FileTree :=
  if path.isEmpty then .ok t
  else do
    let (l, parts) ← t.parts path
    t.makeAlong l parts

/-- What stands in a tree and stood otherwise, or not at all, in an earlier one; the oldest first. -/
def changes (before after : FileTree) : List (Location × Entry) :=
  (after.entries.filter fun e => before.at? e.1 != some e.2).reverse

end FileTree

end SchemaForge
