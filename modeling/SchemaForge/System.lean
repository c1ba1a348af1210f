import SchemaForge.Calendar.Instant
import SchemaForge.Script.Program

/-! What a run is told by the computer that it runs on: the variables of its environment, and answers
to requests. An answer may depend on all requests in front of it, so that clocks run on, numbers drawn
by chance differ and files change. Which answers come is left open. -/

namespace SchemaForge

open Calendar (Instant)
open Text.Utf8 (Bytes)

structure BrokenTime where
  year : Int
  month : Int
  day : Int
  hour : Int
  minute : Int
  second : Int
  /-- Days since Sunday. -/
  weekday : Int
  yearDay : Int
  daylight : Option Bool
  deriving DecidableEq, Repr, Inhabited

structure SystemFault where
  message : String
  code : Int
  deriving DecidableEq, Repr, Inhabited

inductive Whence where
  | start
  | current
  | ending
  deriving DecidableEq, Repr, Inhabited

inductive Ending where
  | exit (code : Int)
  | signal (number : Int)
  deriving DecidableEq, Repr, Inhabited

inductive Request where
  | clock
  | processorTime
  /-- A number from `low` on and below `high`. -/
  | random (low high : Int)
  | seeds
  | memory
  /-- Look for unused values for a while; whether the search has come round. -/
  | collect (amount : Int)
  | breakTime (utc : Bool) (seconds : Int)
  | makeTime (t : BrokenTime)
  | formatTime (conversion : Bytes) (t : BrokenTime)
  | setLocale (category : Bytes) (name : Option Bytes)
  | hasShell
  | execute (command : Bytes)
  | remove (path : Bytes)
  | rename (path newPath : Bytes)
  | temporaryName
  | openFile (path mode : Bytes)
  | openPipe (command mode : Bytes)
  | openTemporary
  | close (handle : Nat)
  /-- The next byte, which a further request finds as well; nothing at the end. -/
  | peek (handle : Nat)
  | skip (handle : Nat)
  | write (handle : Nat) (bytes : Bytes)
  | seek (handle : Nat) (whence : Whence) (offset : Int)
  | flush (handle : Nat)
  | buffer (handle : Nat) (mode : Bytes) (size : Int)
  deriving DecidableEq, Repr, Inhabited

namespace Request

/-- The clock shows an instant, and by how many seconds local time is ahead of UTC; memory is counted
in thousands of bytes; closing a pipe tells how the process at its other end has ended. -/
@[reducible]
def Answer : Request → Type
  | .clock => Instant × Int
  | .processorTime => Float
  | .random .. => Int
  | .seeds => UInt64 × UInt64
  | .memory => Float
  | .collect _ => Bool
  | .breakTime .. => Option BrokenTime
  | .makeTime _ => Option (Int × BrokenTime)
  | .formatTime .. => Bytes
  | .setLocale .. => Option Bytes
  | .hasShell => Bool
  | .execute _ => Except SystemFault Ending
  | .remove _ => Except SystemFault Unit
  | .rename .. => Except SystemFault Unit
  | .temporaryName => Option Bytes
  | .openFile .. => Except SystemFault Nat
  | .openPipe .. => Except SystemFault Nat
  | .openTemporary => Except SystemFault Nat
  | .close _ => Except SystemFault (Option Ending)
  | .peek _ => Except SystemFault (Option UInt8)
  | .skip _ => Unit
  | .write .. => Except SystemFault Unit
  | .seek .. => Except SystemFault Int
  | .flush _ => Except SystemFault Unit
  | .buffer .. => Except SystemFault Unit

end Request

structure System where
  environment : String → Option String
  /-- The answer to a request behind others, the latest of which comes first. -/
  answer : List Request → (r : Request) → r.Answer
  dump : Script.FunctionBody → Bool → Bytes
  undump : Bytes → Option Script.FunctionBody

namespace System

def noFile : SystemFault := ⟨"No such file or directory", 2⟩

/-- A computer without an environment, files or processes, on which no time passes. -/
def bare : System where
  environment := fun _ => none
  answer := fun _ r =>
    match r with
    | .clock => (⟨0, 0⟩, 0)
    | .processorTime => (0 : Float)
    | .random low _ => low
    | .seeds => ((0 : UInt64), (0 : UInt64))
    | .memory => (0 : Float)
    | .collect _ => false
    | .breakTime .. => (none : Option BrokenTime)
    | .makeTime _ => (none : Option (Int × BrokenTime))
    | .formatTime .. => ([] : Bytes)
    | .setLocale .. => (none : Option Bytes)
    | .hasShell => false
    | .execute _ => .error noFile
    | .remove _ => .error noFile
    | .rename .. => .error noFile
    | .temporaryName => (none : Option Bytes)
    | .openFile .. => .error noFile
    | .openPipe .. => .error noFile
    | .openTemporary => .error noFile
    | .close _ => .error noFile
    | .peek _ => .error noFile
    | .skip _ => ()
    | .write .. => .error noFile
    | .seek .. => .error noFile
    | .flush _ => .error noFile
    | .buffer .. => .error noFile
  dump := fun _ _ => []
  undump := fun _ => none

instance : Inhabited System := ⟨bare⟩

end System

end SchemaForge
