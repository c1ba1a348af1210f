import SchemaForge.Json.Reader
import SchemaForge.Text.Case
import SchemaForge.Yaml.Token

/-! Errors in the text of a schema document: the place they point at, and advice drawn from the
reader's message. -/

namespace SchemaForge

namespace SourcePlace

/-- The byte offset of a column in the line that starts at byte `start`. The column counts
characters; behind the line's end it counts bytes. -/
def columnOffset (start column : Nat) (offset current : Nat) : List Char → Nat
  | [] => start + (column - 1)
  | c :: rest =>
    if current = column then offset
    else if c = '\n' then start + (column - 1)
    else columnOffset start column (offset + c.utf8Size) (current + 1) rest

/-- The byte offset of a line and column in the text that starts at byte `offset` with line
`current`. A line that does not exist stands for the last character. -/
def offsetFrom (line column : Nat) (offset current last : Nat) : List Char → Nat
  | [] => last
  | c :: rest =>
    if current = line then columnOffset offset column offset 1 (c :: rest)
    else
      offsetFrom line column (offset + c.utf8Size) (if c = '\n' then current + 1 else current)
        offset rest

def offset (source : String) (line column : Nat) : Nat :=
  offsetFrom line column 0 1 0 source.toList

end SourcePlace

def syntaxAdvice? (message : String) : Option String :=
  let has (words : String) : Bool := (Text.lower message).contains words
  if has "trailing comma" then
    some "JSON does not allow a comma after the last item of a list or object."
  else if has "expected `,` or `\x7d`" || has "expected `,` or `]`" then
    some "Add commas between items: [item1, item2, item3]"
  else if has "key must be a string" then
    some "Object keys must be double-quoted: \x7b\"name\": \"User\"\x7d"
  else if has "tab" then
    some "YAML requires spaces for indentation, not tabs. Replace tabs with spaces."
  else if has "duplicate key" then
    some "Each key can only appear once. Remove or rename the duplicate key."
  else if has "mapping values are not allowed" then
    some "You may be missing a space after ':' or have incorrect indentation."
  else if has "eof while parsing" then
    some "The document ends early - check for an unclosed bracket or brace."
  else none

structure SourceError where
  file : String
  detail : String
  offset : Nat
  advice : Option String
  deriving Inhabited, Repr

namespace SourceError

def locate (detail source file : String) (line column : Nat) : SourceError :=
  ⟨file, detail, SourcePlace.offset source (max line 1) (max column 1), syntaxAdvice? detail⟩

def ofJson (e : Json.SyntaxError) (source file : String) : SourceError :=
  locate e.message source file e.place.line e.place.column

def ofYaml (e : Yaml.SyntaxError) (source file : String) : SourceError :=
  let place := e.mark.getD ⟨1, 1⟩
  locate e.message source file place.line place.column

def message (e : SourceError) : String := s!"syntax error in {e.file}: {e.detail}"

def code : String := "dtgen::schema::syntax"

end SourceError

end SchemaForge
