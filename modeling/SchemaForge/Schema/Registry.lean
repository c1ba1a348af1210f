import SchemaForge.Schema.Basic
import SchemaForge.NameMap

/-! The names of a schema's data types, and whether every reference leads to one. -/

namespace SchemaForge

inductive ValidationError where
  | duplicateType (name : String)
  | undefinedType (name usedBy : String)
  deriving DecidableEq, Repr, Inhabited

namespace ValidationError

def typeName : ValidationError → String
  | .duplicateType name => name
  | .undefinedType name _ => name

def message : ValidationError → String
  | .duplicateType name => s!"data type '{name}' is defined more than once"
  | .undefinedType name usedBy => s!"undefined type '{name}' used by '{usedBy}'"

def code : ValidationError → String
  | .duplicateType _ => "dtgen::validation::duplicate_type"
  | .undefinedType .. => "dtgen::validation::undefined_type"

def help : ValidationError → String
  | .duplicateType _ => "data type names must be unique across all schema documents"
  | .undefinedType .. =>
    "define a data type with this name, or register it from an extension with " ++
      "registerPredefinedTypes"

end ValidationError

structure TypeRegistry where
  names : List String
  nodup : names.Nodup

namespace TypeRegistry

/-- The names of data types in their order; the first name that comes again is an error. -/
def build (seen : List String) : List DataType → Except ValidationError (List String)
  | [] => .ok seen.reverse
  | d :: rest =>
    if seen.contains d.name then .error (.duplicateType d.name)
    else build (d.name :: seen) rest

theorem nodup_of_build {seen : List String} {ds : List DataType} {names : List String}
    (hseen : seen.Nodup) (h : build seen ds = .ok names) : names.Nodup := by
  induction ds generalizing seen with
  | nil =>
    simp only [build, Except.ok.injEq] at h
    subst h
    exact (List.reverse_perm seen).nodup_iff.mpr hseen
  | cons d rest ih =>
    simp only [build] at h
    split at h
    · simp at h
    · rename_i hd
      exact ih (List.nodup_cons.mpr ⟨by simpa using hd, hseen⟩) h

def ofDataTypes (ds : List DataType) : Except ValidationError TypeRegistry :=
  match h : build [] ds with
  | .ok names => .ok ⟨names, nodup_of_build List.nodup_nil h⟩
  | .error e => .error e

def contains (r : TypeRegistry) (name : String) : Bool := r.names.contains name

def resolves (r : TypeRegistry) (predefined : NameSet) (name : String) : Bool :=
  r.contains name || predefined.contains name

def size (r : TypeRegistry) : Nat := r.names.length

end TypeRegistry

structure ValidatedSchema where
  schema : Schema
  deriving Inhabited, Repr

def unresolved? (r : TypeRegistry) (predefined : NameSet) (d : DataType) :
    Option ValidationError :=
  (d.referencedTypes.find? fun name => !r.resolves predefined name).map
    fun name => .undefinedType name d.name

/-- Names are checked before references, both in the order of the data types. -/
def Schema.validate (s : Schema) (predefined : NameSet) :
    Except ValidationError ValidatedSchema := do
  let r ← TypeRegistry.ofDataTypes s.dataTypes
  match s.dataTypes.findSome? (unresolved? r predefined) with
  | some e => .error e
  | none => .ok ⟨s⟩

end SchemaForge
