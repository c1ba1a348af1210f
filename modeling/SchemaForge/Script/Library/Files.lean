import SchemaForge.Script.Library.Computer
import SchemaForge.Script.Library.Values
import SchemaForge.Script.Format

/-! Library functions on files: those that every script finds open, and those that scripts open. -/

namespace SchemaForge.Script

open Text (Utf8.ofString)
open Text.Utf8 (Bytes)

def Native.file (place : Nat) : Native OpenFile := .access (.file place) .pure

def Native.setFile (place : Nat) (f : OpenFile) : Native Unit := .access (.setFile place f) .pure

def Native.newFile (handle : Nat) (isPipe : Bool) : Native Value :=
  .access (.newFile ⟨handle, isPipe, false, false⟩) fun place => .pure (.file place)

namespace Library

def openFile (args : Args) (n : Nat) : Native (Nat × OpenFile) := do
  match args.get n with
  | .file place =>
    let f ← Native.file place
    if f.isClosed then Native.message "attempt to use a closed file"
    return (place, f)
  | _ => args.wrongType n "FILE*"

/-- The file that is read from, or written to, where no other one is named. -/
def standardFile (output : Bool) : Native (Nat × OpenFile) := do
  let place ← Native.access (.standard output) .pure
  let f ← Native.file place
  let name := if output then "output" else "input"
  if f.isClosed then Native.message s!"default {name} file is closed"
  return (place, f)

def closeFile (place : Nat) (f : OpenFile) : Native (List Value) := do
  if f.isStandard then return failText "cannot close standard file"
  Native.setFile place { f with isClosed := true }
  match ← Native.ask (.close f.handle) with
  | .ok (some ending) => return ended (.ok ending)
  | .ok none => return [.bool true]
  | .error e => return noted [] e

/-- Write to a file. The standard output is shared with what scripts print. -/
def writeBytes (f : OpenFile) (b : Bytes) : Native (Except SystemFault Unit) := do
  if f.isStandard && f.handle = 1 then
    Native.print b
    return .ok ()
  else Native.ask (.write f.handle b)

def writtenNumber : Numeric → Bytes
  | .int i => Utf8.ofString (toString i.toInt)
  | .float x => ((⟨[], 0, some 14, 'g'⟩ : Format.Spec).float x).map Format.charByte

/-- Write arguments from number `n` on; behind one that is not written, others are only looked at. -/
def writeArguments (f : OpenFile) (args : Args) (n : Nat) (result : Except SystemFault Unit) :
    Nat → Native (Except SystemFault Unit)
  | 0 => return result
  | left + 1 => do
    let b ← match args.get n with
      | .number x => pure (writtenNumber x)
      | _ => args.bytes n
    match result with
    | .ok _ => writeArguments f args (n + 1) (← writeBytes f b) left
    | .error e => writeArguments f args (n + 1) (.error e) left

def writeTo (file : Nat × OpenFile) (args : Args) (first : Nat) : Native (List Value) := do
  match ← writeArguments file.2 args first (.ok ()) (args.length + 1 - first) with
  | .ok _ => return [.file file.1]
  | .error e => return noted [] e

abbrev Reading := ExceptT SystemFault Native

section Reading

variable (f : OpenFile)

def peek : Reading (Option UInt8) := ExceptT.mk (Native.ask (.peek f.handle))

def skip : Reading Unit := ExceptT.lift (Native.ask (.skip f.handle))

def readWhile (wanted : Bytes → Char → Bool) (fuel : Nat) (before : Bytes) : Reading Bytes := do
  match fuel with
  | 0 => return before
  | fuel + 1 =>
    match ← peek f with
    | none => return before
    | some b =>
      if !wanted before (Char.ofNat b.toNat) then return before
      skip f
      readWhile wanted fuel (before ++ [b])

def readLine (chop : Bool) : Reading (Option Bytes) := do
  let line ← readWhile f (fun _ c => c != '\n') stepLimit []
  match ← peek f with
  | none => return if line.isEmpty then none else some line
  | some _ =>
    skip f
    return some (if chop then line else line ++ [10])

def readCount (n : Nat) : Reading (Option Bytes) := do
  if n = 0 then return (← peek f).map fun _ => []
  let b ← readWhile f (fun before _ => before.length < n) (n + 1) []
  return if b.isEmpty then none else some b

def readAll : Reading Bytes := readWhile f (fun _ _ => true) stepLimit []

def numeralLimit : Nat := 200

def takeOne (wanted : String) (text : Bytes) : Reading Bytes :=
  readWhile f (fun before c =>
    before.length = text.length && text.length < numeralLimit && wanted.toList.contains c) 2 text

def takeDigits (hexadecimal : Bool) (text : Bytes) : Reading Bytes :=
  readWhile f (fun before c => before.length < numeralLimit &&
    (if hexadecimal then (Numeric.hexValue? c).isSome else c.isDigit)) (numeralLimit + 1) text

def readNumber : Reading (Option Numeric) := do
  let _ ← readWhile f (fun _ c => Numeric.isSpace c) stepLimit []
  let sign ← takeOne f "-+" []
  let zero ← takeOne f "0" sign
  let mark ← if zero.length = sign.length then pure zero else takeOne f "xX" zero
  let hexadecimal := decide (mark.length ≠ zero.length)
  let whole ← takeDigits f hexadecimal mark
  let point ← takeOne f "." whole
  let text ← if point.length = whole.length then pure point else takeDigits f hexadecimal point
  let digits := (if hexadecimal then 0 else zero.length - sign.length) +
    (whole.length - mark.length) + (text.length - point.length)
  if digits = 0 then return none
  let exponent ← takeOne f (if hexadecimal then "pP" else "eE") text
  if exponent.length = text.length then return Numeric.ofBytes? text
  return Numeric.ofBytes? (← takeDigits f false (← takeOne f "-+" exponent))

def readFormat (args : Args) (n : Nat) : Reading (Option Value) := do
  match args.get n with
  | .number _ =>
    let count ← args.int n
    return (← readCount f (Int64.ofInt count).toUInt64.toNat).map .string
  | _ =>
    let format ← args.bytes n
    let format := if format.head? = some 42 then format.tail else format
    match format.head?.map fun b => Char.ofNat b.toNat with
    | some 'n' => return (← readNumber f).map .number
    | some 'l' => return (← readLine f true).map .string
    | some 'L' => return (← readLine f false).map .string
    | some 'a' => return some (.string (← readAll f))
    | _ => (Args.wrong n "invalid format" : Args.Result (Option Value))

/-- Read what arguments from number `n` on ask for, up to the first that is not there. -/
def readFormats (args : Args) (n : Nat) : Nat → Reading (List Value)
  | 0 => return []
  | left + 1 => do
    match ← readFormat f args n with
    | none => return [.nil]
    | some v => return v :: (← readFormats args (n + 1) left)

def readFrom (args : Args) (first : Nat) : Native (List Value) := do
  let reading : Reading (List Value) :=
    if args.length < first then do return [((← readLine f true).map Value.string).getD .nil]
    else readFormats f args first (args.length + 1 - first)
  match ← reading.run with
  | .ok values => return values
  | .error e => return noted [] e

end Reading

def isOpenMode (mode : Bytes) : Bool :=
  match mode with
  | c :: rest =>
    let rest := if rest.head? = some 43 then rest.tail else rest
    [114, 119, 97].contains c && rest.all (· == 98)
  | [] => false

def openCertain (path mode : Bytes) : Native Value := do
  match ← Native.ask (.openFile path mode) with
  | .ok handle => Native.newFile handle false
  | .error e =>
    Native.message s!"cannot open file '{Text.Utf8.decodeLossy path}' ({e.message})"

/-- A function whose every call reads on in a file; the file may be closed behind its end. -/
def linesOf (file : Value) (closes : Bool) (formats : List Value) : Native Value := do
  Args.check 252 "too many arguments" (formats.length ≤ 250)
  Native.newClosure
    (.bound .ioLinesStep ([file, .bool closes, .int formats.length] ++ formats))

def onLinesStep (args : Args) : Native (List Value) := do
  match args with
  | .file place :: .bool closes :: .number (.int count) :: rest =>
    let f ← Native.file place
    if f.isClosed then Native.message "file is already closed"
    let values ← readFrom f (.nil :: rest.take count.toInt.toNat) 2
    match values with
    | v :: more =>
      if v.truthy then return values
      if let e :: _ := more then Native.message (Text.Utf8.decodeLossy (e.toBytes?.getD []))
      if closes then closeFile place f else return []
    | [] => return []
  | _ => return []

def onIoClose (args : Args) : Native (List Value) := do
  if args.isEmpty then
    let place ← Native.access (.standard true) .pure
    let (place, f) ← openFile [.file place] 1
    closeFile place f
  else
    let (place, f) ← openFile args 1
    closeFile place f

def onFlush (file : Native (Nat × OpenFile)) : Native (List Value) := do
  return doneOf (← Native.ask (.flush (← file).2.handle))

/-- The file that stands for others, after it has been changed if there is an argument. -/
def onStandard (output : Bool) (args : Args) : Native (List Value) := do
  match args.get 1 with
  | .nil => pure ()
  | .file _ =>
    let (place, _) ← openFile args 1
    Native.access (.setStandard output place) .pure
  | v =>
    let some _ := v.toBytes? | args.wrongType 1 "FILE*"
    let path ← pathArgument args 1
    match ← openCertain path (if output then [119] else [114]) with
    | .file place => Native.access (.setStandard output place) .pure
    | _ => pure ()
  return [.file (← Native.access (.standard output) .pure)]

def onLines (args : Args) : Native (List Value) := do
  match args.get 1 with
  | .nil =>
    let place ← Native.access (.standard false) .pure
    let _ ← openFile [.file place] 1
    return [← linesOf (.file place) false args.tail]
  | _ =>
    let file ← openCertain (← pathArgument args 1) [114]
    return [← linesOf file true args.tail, .nil, .nil, file]

def onOpen (args : Args) : Native (List Value) := do
  let path ← pathArgument args 1
  let mode := (← args.bytesOr 2 [114]).takeWhile (· != 0)
  Args.check 2 "invalid mode" (isOpenMode mode)
  match ← Native.ask (.openFile path mode) with
  | .ok handle => return [← Native.newFile handle false]
  | .error e => return noted (path ++ Utf8.ofString ": ") e

def onPopen (args : Args) : Native (List Value) := do
  let command ← pathArgument args 1
  let mode := (← args.bytesOr 2 [114]).takeWhile (· != 0)
  Args.check 2 "invalid mode" (mode == [114] || mode == [119])
  match ← Native.ask (.openPipe command mode) with
  | .ok handle => return [← Native.newFile handle true]
  | .error e => return noted (command ++ Utf8.ofString ": ") e

def onTmpfile (_ : Args) : Native (List Value) := do
  match ← Native.ask .openTemporary with
  | .ok handle => return [← Native.newFile handle false]
  | .error e => return noted [] e

def onIoType (args : Args) : Native (List Value) := do
  match ← args.any 1 with
  | .file place => return [.text (if (← Native.file place).isClosed then "closed file" else "file")]
  | _ => return [.nil]

def onFileLines (args : Args) : Native (List Value) := do
  let (place, _) ← openFile args 1
  return [← linesOf (.file place) false args.tail]

def onRelease (args : Args) : Native (List Value) := do
  match args.get 1 with
  | .file place =>
    let f ← Native.file place
    if !f.isClosed then
      let _ ← closeFile place f
    return []
  | _ => args.wrongType 1 "FILE*"

def onSeek (args : Args) : Native (List Value) := do
  let (_, f) ← openFile args 1
  let whence ← args.option 2 (some "cur") ["set", "cur", "end"]
  let offset ← args.intOr 3 0
  let whence := if whence == "set" then Whence.start
    else if whence == "cur" then .current else .ending
  match ← Native.ask (.seek f.handle whence offset) with
  | .ok n => return [.int n]
  | .error e => return noted [] e

def onSetvbuf (args : Args) : Native (List Value) := do
  let (_, f) ← openFile args 1
  let mode ← args.option 2 none ["no", "full", "line"]
  let size ← args.intOr 3 1024
  return doneOf (← Native.ask (.buffer f.handle (Utf8.ofString mode) size))

def onFileText (args : Args) : Native (List Value) := do
  match args.get 1 with
  | .file place =>
    if (← Native.file place).isClosed then return [.text "file (closed)"]
    return [.string (Value.file place).plainText]
  | _ => args.wrongType 1 "FILE*"

end Library

end SchemaForge.Script
