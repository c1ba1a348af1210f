import SchemaForge.Script.Heap
import SchemaForge.Script.Library.Chunks
import SchemaForge.Script.Library.Encoding
import SchemaForge.Script.Library.Maths
import SchemaForge.Script.Library.Packing
import SchemaForge.Script.Library.Tables

/-! The functions that every script finds, the names that they have, and the heap of a new script
state. Functions that debug scripts or load machine code are not among them. -/

namespace SchemaForge.Script.Library

open Text (Utf8.ofString)

def functions : List (String × String × Builtin) :=
  [("", "assert", .assert), ("", "collectgarbage", .collectgarbage), ("", "dofile", .dofile),
    ("", "error", .error), ("", "getmetatable", .getmetatable), ("", "ipairs", .ipairs),
    ("", "load", .load), ("", "loadfile", .loadfile), ("", "next", .next), ("", "pairs", .pairs),
    ("", "pcall", .pcall), ("", "print", .print), ("", "rawequal", .rawequal),
    ("", "rawget", .rawget), ("", "rawlen", .rawlen), ("", "rawset", .rawset),
    ("", "require", .require), ("", "select", .select), ("", "setmetatable", .setmetatable),
    ("", "tonumber", .tonumber), ("", "tostring", .tostring), ("", "type", .type),
    ("", "warn", .warn), ("", "xpcall", .xpcall),
    ("coroutine", "close", .coroutineClose), ("coroutine", "create", .coroutineCreate),
    ("coroutine", "isyieldable", .coroutineIsyieldable), ("coroutine", "resume", .coroutineResume),
    ("coroutine", "running", .coroutineRunning), ("coroutine", "status", .coroutineStatus),
    ("coroutine", "wrap", .coroutineWrap), ("coroutine", "yield", .coroutineYield),
    ("io", "close", .ioClose), ("io", "flush", .ioFlush), ("io", "input", .ioInput),
    ("io", "lines", .ioLines), ("io", "open", .ioOpen), ("io", "output", .ioOutput),
    ("io", "popen", .ioPopen), ("io", "read", .ioRead), ("io", "tmpfile", .ioTmpfile),
    ("io", "type", .ioType), ("io", "write", .ioWrite),
    ("math", "abs", .mathAbs), ("math", "acos", .mathAcos), ("math", "asin", .mathAsin),
    ("math", "atan", .mathAtan), ("math", "ceil", .mathCeil), ("math", "cos", .mathCos),
    ("math", "deg", .mathDeg), ("math", "exp", .mathExp), ("math", "floor", .mathFloor),
    ("math", "fmod", .mathFmod), ("math", "log", .mathLog), ("math", "max", .mathMax),
    ("math", "min", .mathMin), ("math", "modf", .mathModf), ("math", "rad", .mathRad),
    ("math", "random", .mathRandom), ("math", "randomseed", .mathRandomseed),
    ("math", "sin", .mathSin), ("math", "sqrt", .mathSqrt), ("math", "tan", .mathTan),
    ("math", "tointeger", .mathTointeger), ("math", "type", .mathType), ("math", "ult", .mathUlt),
    ("os", "clock", .osClock), ("os", "date", .osDate), ("os", "difftime", .osDifftime),
    ("os", "execute", .osExecute), ("os", "exit", .osExit), ("os", "getenv", .osGetenv),
    ("os", "remove", .osRemove), ("os", "rename", .osRename), ("os", "setlocale", .osSetlocale),
    ("os", "time", .osTime), ("os", "tmpname", .osTmpname),
    ("package", "loadlib", .packageLoadlib), ("package", "searchpath", .packageSearchpath),
    ("string", "byte", .stringByte), ("string", "char", .stringChar), ("string", "dump", .stringDump),
    ("string", "find", .stringFind), ("string", "format", .stringFormat),
    ("string", "gmatch", .stringGmatch), ("string", "gsub", .stringGsub),
    ("string", "len", .stringLen), ("string", "lower", .stringLower),
    ("string", "match", .stringMatch), ("string", "pack", .stringPack),
    ("string", "packsize", .stringPacksize), ("string", "rep", .stringRep),
    ("string", "reverse", .stringReverse), ("string", "sub", .stringSub),
    ("string", "unpack", .stringUnpack), ("string", "upper", .stringUpper),
    ("table", "concat", .tableConcat), ("table", "insert", .tableInsert),
    ("table", "move", .tableMove), ("table", "pack", .tablePack), ("table", "remove", .tableRemove),
    ("table", "sort", .tableSort), ("table", "unpack", .tableUnpack),
    ("utf8", "char", .utf8Char), ("utf8", "codepoint", .utf8Codepoint), ("utf8", "codes", .utf8Codes),
    ("utf8", "len", .utf8Len), ("utf8", "offset", .utf8Offset)]

def fileFunctions : List (String × Builtin) :=
  [("close", .fileClose), ("flush", .fileFlush), ("lines", .fileLines), ("read", .fileRead),
    ("seek", .fileSeek), ("setvbuf", .fileSetvbuf), ("write", .fileWrite)]

def fileEvents : List (String × Builtin) :=
  [("__close", .fileRelease), ("__gc", .fileRelease), ("__tostring", .fileText)]

def qualifiedName (b : Builtin) : Option String :=
  (functions.find? fun e => e.2.2 == b).map fun e =>
    if e.1.isEmpty then e.2.1 else e.1 ++ "." ++ e.2.1

/-- What a library function does. Those that look at the calls around them, or that have threads of
their own, are not here. -/
def run (b : Builtin) (args : Args) : Native (List Value) :=
  match b with
  | .assert | .error | .pcall | .xpcall => return []
  | .coroutineClose | .coroutineCreate | .coroutineIsyieldable | .coroutineResume => return []
  | .coroutineRunning | .coroutineStatus | .coroutineWrap | .coroutineWrapped => return []
  | .coroutineYield => return []
  | .collectgarbage => onCollectgarbage args
  | .dofile => onDofile args
  | .getmetatable => onGetmetatable args
  | .ipairs => do return [.builtin .ipairsStep, ← args.any 1, .int 0]
  | .ipairsStep => onIpairsStep args
  | .load => onLoad args
  | .loadfile => onLoadfile args
  | .next => onNext args
  | .pairs => onPairs args
  | .print => onPrint args
  | .rawequal => do return [.bool ((← args.any 1).rawEqual (← args.any 2))]
  | .rawget => do
    let t ← Native.table (← args.table 1)
    return [t.get (← args.any 2).normalKey]
  | .rawlen => onRawlen args
  | .rawset => onRawset args
  | .require => onRequire args
  | .select => onSelect args
  | .setmetatable => onSetmetatable args
  | .tonumber => onTonumber args
  | .tostring => do return [.string (← Native.textOf (← args.any 1))]
  | .type => do return [.text (← args.any 1).typeName]
  | .warn => onWarn args
  | .ioClose => onIoClose args
  | .ioFlush => onFlush (standardFile true)
  | .ioInput => onStandard false args
  | .ioLines => onLines args
  | .ioLinesStep => onLinesStep args
  | .ioOpen => onOpen args
  | .ioOutput => onStandard true args
  | .ioPopen => onPopen args
  | .ioRead => do readFrom (← standardFile false).2 args 1
  | .ioTmpfile => onTmpfile args
  | .ioType => onIoType args
  | .ioWrite => do writeTo (← standardFile true) args 1
  | .fileClose => do
    let (place, f) ← openFile args 1
    closeFile place f
  | .fileFlush => onFlush (openFile args 1)
  | .fileLines => onFileLines args
  | .fileRead => do readFrom (← openFile args 1).2 args 2
  | .fileRelease => onRelease args
  | .fileSeek => onSeek args
  | .fileSetvbuf => onSetvbuf args
  | .fileText => onFileText args
  | .fileWrite => do writeTo (← openFile args 1) args 2
  | .mathAbs => onAbs args
  | .mathAcos => onFloat Float.acos args
  | .mathAsin => onFloat Float.asin args
  | .mathAtan => onAtan args
  | .mathCeil => onRound Float.ceil args
  | .mathCos => onFloat Float.cos args
  | .mathDeg => onFloat (· * (180 / pi)) args
  | .mathExp => onFloat Float.exp args
  | .mathFloor => onRound Float.floor args
  | .mathFmod => onFmod args
  | .mathLog => onLog args
  | .mathMax => onPick (fun v best => Native.less best v) args
  | .mathMin => onPick Native.less args
  | .mathModf => onModf args
  | .mathRad => onFloat (· * (pi / 180)) args
  | .mathRandom => onRandom args
  | .mathRandomseed => onRandomseed args
  | .mathSin => onFloat Float.sin args
  | .mathSqrt => onFloat Float.sqrt args
  | .mathTan => onFloat Float.tan args
  | .mathTointeger => onTointeger args
  | .mathType => onMathType args
  | .mathUlt => onUlt args
  | .osClock => onClock args
  | .osDate => onDate args
  | .osDifftime => onDifftime args
  | .osExecute => onExecute args
  | .osExit => onExit args
  | .osGetenv => onGetenv args
  | .osRemove => onFileRemove args
  | .osRename => onFileRename args
  | .osSetlocale => onSetlocale args
  | .osTime => onTime args
  | .osTmpname => onTmpname args
  | .packageLoadlib => onLoadlib args
  | .packageSearchpath => onSearchpath args
  | .searchPreload => onSearchPreload args
  | .searchScript => onSearchScript args
  | .searchLibrary => onSearchLibrary args
  | .stringByte => onByte args
  | .stringChar => onChar args
  | .stringDump => onDump args
  | .stringFind => onFind true args
  | .stringFormat => onFormat args
  | .stringGmatch => onGmatch args
  | .stringGmatchStep => onGmatchStep args
  | .stringGsub => onGsub args
  | .stringLen => onBytes (fun b => .int b.length) args
  | .stringLower => onBytes (fun b => .string (b.map lowerByte)) args
  | .stringMatch => onFind false args
  | .stringPack => onPack args
  | .stringPacksize => onPacksize args
  | .stringRep => onRep args
  | .stringReverse => onBytes (fun b => .string b.reverse) args
  | .stringSub => onSub args
  | .stringUnpack => onUnpack args
  | .stringUpper => onBytes (fun b => .string (b.map upperByte)) args
  | .tableConcat => onConcat args
  | .tableInsert => onInsert args
  | .tableMove => onMove args
  | .tablePack => onTablePack args
  | .tableRemove => onRemove args
  | .tableSort => onSort args
  | .tableUnpack => onTableUnpack args
  | .utf8Char => onCharacters args
  | .utf8Codepoint => onCodepoint args
  | .utf8Codes => onCodes args
  | .utf8CodesStep lax => onCodesStep lax args
  | .utf8Len => onCodeCount args
  | .utf8Offset => onCharacterOffset args

def named (values : List (String × Value)) : Table :=
  values.foldl (fun t e => t.set (.text e.1) e.2) (Table.sized 0 0)

def members (library : String) : List (String × Value) :=
  (functions.filter fun e => e.1 == library).map fun e => (e.2.1, .builtin e.2.2)

def usualPath : String :=
  "/usr/local/share/lua/5.4/?.lua;/usr/local/share/lua/5.4/?/init.lua;" ++
    "/usr/local/lib/lua/5.4/?.lua;/usr/local/lib/lua/5.4/?/init.lua;./?.lua;./?/init.lua"

def usualLibraryPath : String :=
  "/usr/local/lib/lua/5.4/?.so;/usr/local/lib/lua/5.4/loadall.so;./?.so"

/-- The tables of a new script state in the order of their places: the global names, the modules that
are loaded and those that are to be, the libraries, the searchers for modules, and the metatables of
strings and files. -/
def tables (environment : String → Option String) : List Table :=
  let libraries := ["package", "string", "table", "math", "coroutine", "io", "os", "utf8"]
  let modules := ("_G", Value.table globals) ::
    (libraries.zipIdx packages).map fun e => (e.1, Value.table e.2)
  let packageMembers := [("path", .text (searchPathOf environment "LUA_PATH" usualPath)),
    ("cpath", .text (searchPathOf environment "LUA_CPATH" usualLibraryPath)),
    ("config", .text "/\n;\n?\n!\n-\n"), ("loaded", .table loadedModules),
    ("preload", .table preloadedModules), ("searchers", .table 11)]
  let maths := [("pi", Value.float pi), ("huge", .float (1 / 0)),
    ("maxinteger", .int (Word.signedEnd - 1)), ("mininteger", .int (-(Word.signedEnd : Int)))]
  let files := [("stdin", Value.file 0), ("stdout", .file 1), ("stderr", .file 2)]
  let builtins (entries : List (String × Builtin)) : List (String × Value) :=
    entries.map fun e => (e.1, .builtin e.2)
  [named (members "" ++ modules ++ [("_VERSION", .text "Lua 5.4")]), named modules, named [],
    named (members "package" ++ packageMembers), named (members "string"), named (members "table"),
    named (members "math" ++ maths), named (members "coroutine"), named (members "io" ++ files),
    named (members "os"), named (members "utf8" ++ [("charpattern", .string characterPattern)]),
    { Table.sized 3 0 with items :=
      #[.builtin .searchPreload, .builtin .searchScript, .builtin .searchLibrary] },
    named [("__index", .table 4)], named (builtins fileFunctions),
    named (builtins fileEvents ++ [("__name", .text "FILE*"), ("__index", .table 13)])]

def heap (system : System := .bare) : Heap :=
  let h := { Heap.empty with
    system
    tables := (tables system.environment).toArray
    stringMeta := 12
    fileMeta := 14
    files := #[⟨0, false, true, false⟩, ⟨1, false, true, false⟩, ⟨2, false, true, false⟩] }
  let (h, seeds) := h.ask .seeds
  { h with seed := Seed.ofNumbers seeds.1 seeds.2 }

end SchemaForge.Script.Library
