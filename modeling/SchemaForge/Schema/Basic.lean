import SchemaForge.DataType.Basic

/-! Schemas: the data types of one run, and how those of several documents join. -/

namespace SchemaForge

structure Schema where
  version : String
  dataTypes : List DataType
  deriving Inhabited, Repr

namespace Schema

def empty : Schema := ⟨"", []⟩

/-- The data types of both in order; the first version that is not empty stands. -/
def append (a b : Schema) : Schema :=
  ⟨if a.version.isEmpty then b.version else a.version, a.dataTypes ++ b.dataTypes⟩

def merge (schemas : List Schema) : Schema := schemas.foldl append empty

end Schema

end SchemaForge
