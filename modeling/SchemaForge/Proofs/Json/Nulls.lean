import SchemaForge.Proofs.Json.Keys
import SchemaForge.Word

/-! Values that another language has a form for in which null is nothing at all: what is left of them,
and which of them are left as they are. -/

namespace SchemaForge.Json.Value

/-- A value whose whole numbers fit in 64 bits with a sign, whose other numbers are finite, and in
which no key of an object stands twice. -/
inductive Portable : Value → Prop
  | null : Portable .null
  | bool (b : Bool) : Portable (.bool b)
  | int {i : Int} (signed : Word.isSigned i = true) : Portable (.number (.int i))
  | float {x : Float} (finite : x.isFinite = true) : Portable (.number (.float x))
  | string (s : String) : Portable (.string s)
  | array {items : List Value} (inner : ∀ v ∈ items, Portable v) : Portable (.array items)
  | object {o : Object} (distinct : Object.Distinct o) (inner : ∀ e ∈ o, Portable e.2) :
      Portable (.object o)

/-- No null stands in a value, at any depth. -/
inductive NullFree : Value → Prop
  | bool (b : Bool) : NullFree (.bool b)
  | number (n : Number) : NullFree (.number n)
  | string (s : String) : NullFree (.string s)
  | array {items : List Value} (inner : ∀ v ∈ items, NullFree v) : NullFree (.array items)
  | object {o : Object} (inner : ∀ e ∈ o, NullFree e.2) : NullFree (.object o)

mutual

/-- A value with, at every depth, arrays cut at their first null and fields that are null left out. -/
def withoutNulls : Value → Value
  | .array items => .array (cutAtNull items)
  | .object entries => .object (withoutNullFields entries)
  | v => v

def cutAtNull : List Value → List Value
  | [] => []
  | .null :: _ => []
  | v :: rest => v.withoutNulls :: cutAtNull rest

def withoutNullFields : List (String × Value) → List (String × Value)
  | [] => []
  | (_, .null) :: rest => withoutNullFields rest
  | (key, v) :: rest => (key, v.withoutNulls) :: withoutNullFields rest

end

section

variable {v : Value} {items : List Value} {key : String} {o : Object}

theorem cutAtNull_cons (present : v ≠ .null) (items : List Value) :
    cutAtNull (v :: items) = v.withoutNulls :: cutAtNull items := by
  cases v <;> simp [cutAtNull] at present ⊢

theorem withoutNullFields_cons (present : v ≠ .null) (key : String) (o : Object) :
    withoutNullFields ((key, v) :: o) = (key, v.withoutNulls) :: withoutNullFields o := by
  cases v <;> simp [withoutNullFields] at present ⊢

theorem NullFree.ne_null (h : NullFree v) : v ≠ .null := by
  rintro rfl
  cases h

theorem cutAtNull_of_nullFree (h : ∀ v ∈ items, NullFree v ∧ v.withoutNulls = v) :
    cutAtNull items = items := by
  induction items with
  | nil => rfl
  | cons v items ih =>
    simp only [List.forall_mem_cons] at h
    rw [cutAtNull_cons h.1.1.ne_null, h.1.2, ih h.2]

theorem withoutNullFields_of_nullFree (h : ∀ e ∈ o, NullFree e.2 ∧ e.2.withoutNulls = e.2) :
    withoutNullFields o = o := by
  induction o with
  | nil => rfl
  | cons e o ih =>
    simp only [List.forall_mem_cons] at h
    rw [withoutNullFields_cons h.1.1.ne_null, h.1.2, ih h.2]

theorem NullFree.withoutNulls_eq (h : NullFree v) : v.withoutNulls = v := by
  induction h with
  | bool | number | string => rfl
  | array inner ih =>
    rw [withoutNulls, cutAtNull_of_nullFree fun v hv => ⟨inner v hv, ih v hv⟩]
  | object inner ih =>
    rw [withoutNulls, withoutNullFields_of_nullFree fun e he => ⟨inner e he, ih e he⟩]

end

end SchemaForge.Json.Value
