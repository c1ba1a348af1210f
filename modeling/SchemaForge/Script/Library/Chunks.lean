import SchemaForge.Script.Library.Files
import SchemaForge.Script.Reader
import SchemaForge.Text.Search

/-! Library functions that run other scripts: as texts, from files, and as modules that are looked for
along a path. Modules in machine code are never loaded. -/

namespace SchemaForge.Script.Library

open Text (Utf8.ofString)
open Text.Utf8 (Bytes decodeLossy)

/-- The places of tables that library functions find whatever scripts do to their names. -/
def globals : Nat := 0

def loadedModules : Nat := 1

def preloadedModules : Nat := 2

def packages : Nat := 3

def longName (b : Bytes) : Bytes :=
  if b.length ≤ 59 then b else Utf8.ofString "..." ++ b.drop (b.length - 56)

/-- The name of a chunk as its errors show it: a text in place of a name by its first line. -/
def chunkName : Bytes → Bytes
  | 61 :: name => name.take 59
  | 64 :: name => longName name
  | text =>
    let line := text.takeWhile (· != 10)
    let shown := if text.length < 45 && line.length = text.length then text
      else line.take 45 ++ Utf8.ofString "..."
    Utf8.ofString "[string \"" ++ shown ++ Utf8.ofString "\"]"

def chunkOf (b name mode : Bytes) (environment : Value) : Native (Except Bytes Value) := do
  let isBinary := b.head? == some 27
  let kind := if isBinary then "binary" else "text"
  let chunk (body : FunctionBody) : Native (Except Bytes Value) := do
    let place ← Native.access (.newChunk (chunkName name) body environment) .pure
    return .ok (.closure place)
  if !mode.contains (if isBinary then 98 else 116) then
    return .error (Utf8.ofString
      s!"attempt to load a {kind} chunk (mode is '{decodeLossy mode}')")
  else if isBinary then
    match ← Native.access (.undump b) .pure with
    | some body => chunk body
    | none => return .error (Utf8.ofString "binary string: bad binary format (truncated chunk)")
  else
    match Program.read? (decodeLossy b) with
    | some program => chunk (.mk [] true program.body)
    | none => return .error (chunkName name ++ Utf8.ofString ": syntax error")

def loaded : Except Bytes Value → List Value
  | .ok f => [f]
  | .error message => [.nil, .string message]

/-- What a function gives piece by piece, up to nothing or an empty piece. -/
def readPieces (f : Value) (fuel : Nat) (before : Bytes) : Native (Except Value Bytes) := do
  match fuel with
  | 0 => return .ok before
  | fuel + 1 =>
    match ← Native.results (.builtin .pcall) [f] with
    | .bool true :: results =>
      match results.head?.getD .nil with
      | .nil => return .ok before
      | v =>
        match v.toBytes? with
        | some [] => return .ok before
        | some b => readPieces f fuel (before ++ b)
        | none => return .error (.text "reader function must return a string")
    | results => return .error (results[1]?.getD .nil)

/-- The table of global names that a chunk gets: an argument, or the one of all scripts. -/
def environmentAt (args : Args) (n : Nat) : Value :=
  if args.length < n then .table globals else args.get n

def bothModes : Bytes := [98, 116]

def onLoad (args : Args) : Native (List Value) := do
  let mode ← args.bytesOr 3 bothModes
  let environment := environmentAt args 4
  let cut (b : Bytes) : Bytes := b.takeWhile (· != 0)
  match (args.get 1).toBytes? with
  | some b =>
    let name ← args.bytesOr 2 b
    return loaded (← chunkOf b (cut name) mode environment)
  | none =>
    let name ← args.bytesOr 2 (Utf8.ofString "=(load)")
    match ← readPieces (← args.function 1) stepLimit [] with
    | .ok b => return loaded (← chunkOf b (cut name) mode environment)
    | .error e => return [.nil, e]

/-- The text of a file without a mark of its encoding and a first line that is a comment. -/
def withoutComment (b : Bytes) : Bytes :=
  let b := if [0xEF, 0xBB, 0xBF].isPrefixOf b then b.drop 3 else b
  match b with
  | 35 :: rest => 10 :: (rest.dropWhile (· != 10)).drop 1
  | b => b

def fileText (path : Option Bytes) : Native (Except Bytes Bytes) := do
  let name := path.getD (Utf8.ofString "stdin")
  let refused (what : String) (e : SystemFault) : Except Bytes Bytes :=
    .error (Utf8.ofString s!"cannot {what} {decodeLossy name}: {e.message}")
  let handle ← match path with
    | none => pure (.ok 0)
    | some path => Native.ask (.openFile path [114])
  match handle with
  | .error e => return refused "open" e
  | .ok handle =>
    let text ← (readAll ⟨handle, false, false, false⟩).run
    if path.isSome then
      let _ ← Native.ask (.close handle)
    match text with
    | .error e => return refused "read" e
    | .ok b => return .ok (withoutComment b)

def chunkOfFile (path : Option Bytes) (mode : Bytes) (environment : Value) :
    Native (Except Bytes Value) := do
  match ← fileText path with
  | .error message => return .error message
  | .ok b =>
    let name := match path with
      | some path => 64 :: path
      | none => Utf8.ofString "=stdin"
    chunkOf b name mode environment

def pathOr (args : Args) (n : Nat) : Args.Result (Option Bytes) :=
  if (args.get n).isNil then .ok none else some <$> pathArgument args n

def onLoadfile (args : Args) : Native (List Value) := do
  let path ← pathOr args 1
  let mode ← args.bytesOr 2 bothModes
  return loaded (← chunkOfFile path mode (environmentAt args 3))

def onDofile (args : Args) : Native (List Value) := do
  match ← chunkOfFile (← pathOr args 1) bothModes (.table globals) with
  | .ok f => Native.results f []
  | .error message => .fail (.raise (.string message))

def replaceBytes (needle other : Bytes) (fuel : Nat) (b : Bytes) : Bytes :=
  match fuel, b with
  | 0, b => b
  | _, [] => []
  | fuel + 1, c :: rest =>
    if needle.isPrefixOf (c :: rest) then
      other ++ replaceBytes needle other fuel ((c :: rest).drop needle.length)
    else c :: replaceBytes needle other fuel rest

def replaceAll (needle other b : Bytes) : Bytes := replaceBytes needle other b.length b

def pathParts (fuel : Nat) (path : Bytes) : List Bytes :=
  match fuel with
  | 0 => []
  | fuel + 1 =>
    path.takeWhile (· != 59) ::
      match path.dropWhile (· != 59) with
      | [] => []
      | _ :: rest => pathParts fuel rest

def firstReadable : List Bytes → Native (Option Bytes)
  | [] => return none
  | path :: rest => do
    match ← Native.ask (.openFile path [114]) with
    | .ok handle =>
      let _ ← Native.ask (.close handle)
      return some path
    | .error _ => firstReadable rest

/-- Look for a module along a path, whose question marks stand for the name of the module with its
separators replaced. -/
def searchPath (name path separator other : Bytes) : Native (Except Bytes Bytes) := do
  let name := match separator with
    | [] => name
    | c :: _ => if name.contains c then replaceAll separator other name else name
  let paths := replaceAll [63] name path
  match ← firstReadable (if paths.isEmpty then [] else pathParts (paths.length + 1) paths) with
  | some file => return .ok file
  | none =>
    let between := Utf8.ofString "'\n\tno file '"
    return .error (Utf8.ofString "no file '" ++ replaceAll [59] between paths ++ [39])

def onSearchpath (args : Args) : Native (List Value) := do
  let name ← pathArgument args 1
  let path ← pathArgument args 2
  let separator ← args.bytesOr 3 [46]
  match ← searchPath name path separator (← args.bytesOr 4 [47]) with
  | .ok file => return [.string file]
  | .error message => return [.nil, .string message]

def onLoadlib (_ : Args) : Native (List Value) :=
  .fail (.raise (.failure "safety error: package.loadlib is disabled in safe mode"))

def onSearchPreload (args : Args) : Native (List Value) := do
  let name ← pathArgument args 1
  match ← Native.get (.table preloadedModules) (.string name) with
  | .nil => return [.text s!"no field package.preload['{decodeLossy name}']"]
  | loader => return [loader, .text ":preload:"]

def onSearchScript (args : Args) : Native (List Value) := do
  let name ← pathArgument args 1
  let some path := (← Native.get (.table packages) (.text "path")).toBytes?
    | Native.message "'package.path' must be a string"
  match ← searchPath name path [46] [47] with
  | .error message => return [.string message]
  | .ok file =>
    match ← chunkOfFile (some file) bothModes (.table globals) with
    | .ok f => return [f, .string file]
    | .error message =>
      Native.message (s!"error loading module '{decodeLossy name}' from file " ++
        s!"'{decodeLossy file}':\n\t{decodeLossy message}")

def onSearchLibrary (_ : Args) : Native (List Value) :=
  return [.text "\n\tcan't load C modules in safe mode"]

/-- Ask the searchers from number `i` on for a loader of a module and what the loader is told. -/
def findLoader (name : Bytes) (searchers fuel i : Nat) (notes : Bytes) : Native (Value × Value) := do
  let unknown : Native (Value × Value) :=
    Native.message s!"module '{decodeLossy name}' not found:{decodeLossy notes}"
  match fuel with
  | 0 => unknown
  | fuel + 1 =>
    match (← Native.table searchers).getInt i with
    | .nil => unknown
    | searcher =>
      let results ← Native.results searcher [.string name]
      let first := results[0]?.getD .nil
      if first.typeName == "function" then return (first, results[1]?.getD .nil)
      match first.toBytes? with
      | some note => findLoader name searchers fuel (i + 1) (notes ++ [10, 9] ++ note)
      | none => findLoader name searchers fuel (i + 1) notes

def onRequire (args : Args) : Native (List Value) := do
  let name ← pathArgument args 1
  let known ← Native.get (.table loadedModules) (.string name)
  if known.truthy then return [known]
  let .table searchers ← Native.get (.table packages) (.text "searchers")
    | Native.message "'package.searchers' must be a table"
  let (loader, data) ← findLoader name searchers stepLimit 1 []
  let made ← Native.result loader [.string name, data]
  if !made.isNil then Native.set (.table loadedModules) (.string name) made
  match ← Native.get (.table loadedModules) (.string name) with
  | .nil =>
    Native.set (.table loadedModules) (.string name) (.bool true)
    return [.bool true, data]
  | v => return [v, data]

/-- A path that the environment sets, where two separators in a row stand for the usual path. -/
def searchPathOf (environment : String → Option String) (name usual : String) : String :=
  match (environment (name ++ "_5_4")).or (environment name) with
  | none => usual
  | some path =>
    match Text.pieces path ";;" with
    | front :: behind :: rest =>
      let behind := String.intercalate ";;" (behind :: rest)
      (if front.isEmpty then "" else front ++ ";") ++ usual ++
        (if behind.isEmpty then "" else ";" ++ behind)
    | _ => path

end SchemaForge.Script.Library
