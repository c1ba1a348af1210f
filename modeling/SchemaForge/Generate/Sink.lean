import SchemaForge.FilePath
import SchemaForge.Input

/-! Where artifacts go: into memory, or into a directory. A write either lands or is refused with a
text; what has landed stays. -/

namespace SchemaForge

/-- A way to write a text by a name into a store, which comes back changed unless the write is
refused. -/
structure Sink (σ : Type) where
  write : σ → String → String → Except String σ

namespace Sink

def memory : Sink (NameMap String) := ⟨fun m name text => .ok (m.insert name text)⟩

def refusing {σ : Type} (s : Sink σ) (refusal : String → Option String) : Sink σ :=
  ⟨fun store name text =>
    match refusal name with
    | some reason => .error reason
    | none => s.write store name text⟩

def directory (path : String) : Sink FileTree :=
  ⟨fun t name text =>
    match t.write (FilePath.join path name) (Text.Utf8.ofString text) with
    | .ok t => .ok t
    | .error fault => .error fault.message⟩

def prepareDirectory (t : FileTree) (path : String) : Except InputError FileTree :=
  match t.entry? path with
  | some (.file _) => .error (.notADirectory path)
  | _ =>
    match t.makeDirectories path with
    | .ok t => .ok t
    | .error fault => .error (.inaccessible path fault.message)

end Sink

end SchemaForge
