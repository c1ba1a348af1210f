/-! Finding one text in another, from the left. -/

namespace SchemaForge.Text

/-- The pieces of a text between the occurrences of another that has at least a character. -/
def piecesFrom (needle : List Char) : Nat → List Char → List Char → List (List Char)
  | 0, before, cs => [before.reverse ++ cs]
  | fuel + 1, before, cs =>
    match cs with
    | [] => [before.reverse]
    | c :: rest =>
      if needle.isPrefixOf (c :: rest) then
        before.reverse :: piecesFrom needle fuel [] ((c :: rest).drop needle.length)
      else piecesFrom needle fuel (c :: before) rest

/-- The pieces of a text between the occurrences of another; the empty text occurs at both ends and
between any two characters. -/
def pieces (s needle : String) : List String :=
  if needle.isEmpty then "" :: s.toList.map Char.toString ++ [""]
  else (piecesFrom needle.toList (s.length + 1) [] s.toList).map String.ofList

def piecesAt (mark : Char) (s : String) : List String :=
  (s.toList.splitOn mark).map String.ofList

def replace (s needle other : String) : String := String.intercalate other (pieces s needle)

def contains (s needle : String) : Bool := needle.isEmpty || 1 < (pieces s needle).length

def startsWith (s needle : String) : Bool := needle.toList.isPrefixOf s.toList

def endsWith (s needle : String) : Bool := needle.toList.isSuffixOf s.toList

def dropLeadingUpTo (needle : List Char) : Nat → List Char → List Char
  | 0, cs => cs
  | fuel + 1, cs =>
    if !needle.isEmpty && needle.isPrefixOf cs then
      dropLeadingUpTo needle fuel (cs.drop needle.length)
    else cs

def dropLeading (s needle : String) : String :=
  String.ofList (dropLeadingUpTo needle.toList s.length s.toList)

def dropTrailing (s needle : String) : String :=
  String.ofList (dropLeadingUpTo needle.toList.reverse s.length s.toList.reverse).reverse

def lines (s : String) : List String :=
  let all := (piecesFrom ['\n'] (s.length + 1) [] s.toList)
  let kept := if all.getLast? == some [] then all.dropLast else all
  let ended := all.length
  (kept.zipIdx).map fun (line, i) =>
    String.ofList (if i + 1 < ended && line.getLast? == some '\r' then line.dropLast else line)

end SchemaForge.Text
