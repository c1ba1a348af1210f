import SchemaForge.CommandLine.Program

/-! The program. It takes a picture of the files that a command line leads to and of the time, works out
what the command line comes to, then writes what has changed and prints. Scripts find no other files and
start no processes. -/

open SchemaForge CommandLine

namespace SchemaForge.Main

def variableNames : List String :=
  ["DTGEN_ALPHABETIZE", "DTGEN_EXTENSIONS", "DTGEN_OUTPUT", "DTGEN_FILE_EXTENSION",
    "XDG_CONFIG_HOME", "HOME", "TMPDIR", "RUST_LOG"]

def environment : IO (String → Option String) := do
  let named ← variableNames.mapM fun key => do pure (key, ← IO.getEnv key)
  let listed ← (IO.FS.readBinFile "/proc/self/environ").toBaseIO
  let lines := match listed with
    | .ok bytes => Text.piecesAt '\x00' (Text.Utf8.decodeLossy bytes.toList)
    | .error _ => []
  let others := lines.filterMap fun line =>
    match Text.piecesAt '=' line with
    | key :: value => some (key, some (String.intercalate "=" value))
    | [] => none
  pure fun key => ((named ++ others).lookup key).join

def system : IO System := do
  let now ← IO.FS.withTempFile fun _ path => do pure (← path.metadata).modified
  let seed ← IO.rand 0 (Word.unsignedEnd - 1)
  let instant : Calendar.Instant := ⟨now.sec, now.nsec.toNat⟩
  pure { System.bare with
    answer := fun asked r =>
      match r with
      | .clock => (instant, 0)
      | .random low high =>
        low + (randNat (mkStdGen (seed + asked.length)) 0 (high - low - 1).toNat).1
      | .seeds => (UInt64.ofNat seed, now.nsec.toUInt64)
      | r => System.bare.answer asked r }

def pathOf (l : Location) : String := "/" ++ String.intercalate "/" l

/-- What stands at a location of the disk. A link is recorded as one to the place where it ends. -/
def lookUp (l : Location) : IO (Option Node) := do
  let path := (← IO.currentDir) / pathOf l
  match ← path.symlinkMetadata.toBaseIO with
  | .error _ => pure none
  | .ok metadata =>
    match metadata.type with
    | .dir => pure (some .directory)
    | .file => pure (some (.entry (.file (← IO.FS.readBinFile path).toList)))
    | .symlink => pure (some (.link (← IO.FS.realPath path).toString))
    | .other => pure none

def record (t : FileTree) (l : Location) : IO FileTree := do
  match ← lookUp l with
  | some n => pure (t.putNode l n)
  | none => pure t

def recordWay (t : FileTree) (l : Location) : IO FileTree :=
  (List.range l.length).foldlM (fun t n => record t (l.take (n + 1))) t

def recordChildren (t : FileTree) (l : Location) : IO FileTree := do
  let entries ← ((← IO.currentDir) / pathOf l).readDir
  entries.toList.foldlM (fun t e => do
    let usable := Input.hasExtension (Input.schemaExtensions ++ Input.scriptExtensions) e.fileName
    if usable || (← e.path.isDir) then record t (l ++ [e.fileName]) else pure t) t

/-- Record what stands along a path from a location on, and in the directory at its end. -/
def recordAlong (t : FileTree) (l : Location) : List String → IO FileTree
  | [] => do
    match t.at? l with
    | some .directory => recordChildren t l
    | _ => pure t
  | part :: rest =>
    if part == "" || part == "." then recordAlong t l rest
    else if part == ".." then recordAlong t l.dropLast rest
    else do
      let next := l ++ [part]
      let t ← record t next
      match t.node? next with
      | some (.link path) =>
        let target := FilePath.components path
        recordAlong (← recordWay t target) target rest
      | _ => recordAlong t next rest

def recordPath (t : FileTree) (path : String) : IO FileTree :=
  recordAlong t (if path.startsWith "/" then [] else t.workingDirectory) (Text.piecesAt '/' path)

def carryOut (change : Location × Entry) : IO Unit := do
  let path := (← IO.currentDir) / pathOf change.1
  match change.2 with
  | .directory => IO.FS.createDirAll path
  | .file contents => IO.FS.writeBinFile path ⟨contents.toArray⟩

def chanceName (n : Nat) : IO String := do
  let letters := "abcdefghijklmnopqrstuvwxyzABCDEFGHIJKLMNOPQRSTUVWXYZ0123456789".toList
  let picked ← (List.range n).mapM fun _ => do
    pure (letters[← IO.rand 0 (letters.length - 1)]?.getD 'x')
  pure (String.ofList picked)

def surroundings (args : List String) : IO Surroundings := do
  let environment ← environment
  let current := FilePath.components (← IO.currentDir).toString
  let name := "dtgen-" ++ (← chanceName 6)
  let files ← recordAlong ⟨[], current⟩ [] current
  let start : Surroundings := ⟨files, environment, name⟩
  let files ← (Surroundings.projectConfigPath :: start.userConfigPath?.toList).foldlM recordPath files
  let s : Surroundings := ⟨files, environment, name⟩
  let files ← (paths s args).foldlM recordPath files
  pure ⟨files, environment, name⟩

end SchemaForge.Main

def main (args : List String) : IO UInt32 := do
  let s ← SchemaForge.Main.surroundings args
  let outcome := CommandLine.run s args (← SchemaForge.Main.system)
  (s.files.changes outcome.files).forM SchemaForge.Main.carryOut
  let out ← IO.getStdout
  out.write ⟨outcome.output.toArray⟩
  out.flush
  outcome.logged.forM fun e => IO.eprintln e.line
  match outcome.report with
  | some text => IO.eprintln text
  | none => pure ()
  pure (UInt32.ofNat outcome.exitCode)
