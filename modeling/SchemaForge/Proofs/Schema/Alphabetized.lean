import SchemaForge.Proofs.Schema.MemberOrder
import SchemaForge.Proofs.Text.ByteOrder

/-! What sorting members comes to. No two members of a data type share a name, so that there is just one
arrangement of them in which the names ascend by their bytes; that is the one sorting gives, and nothing
else about the data types or about parsing changes. -/

namespace SchemaForge

open Text

def Ascending (names : List String) : Prop :=
  names.Pairwise fun a b => Utf8.ofString a < Utf8.ofString b

structure ArrangedBy {α : Type} (name : α → String) (members arranged : List α) : Prop where
  perm : arranged.Perm members
  ascending : Ascending (arranged.map name)
  unique : ∀ other : List α, other.Perm members → Ascending (other.map name) → other = arranged

section Members

variable {α : Type} {name : α → String} {members members' : List α}

theorem ascending_map : Ascending (members.map name) ↔
    members.Pairwise fun a b => Utf8.ofString (name a) < Utf8.ofString (name b) := List.pairwise_map

theorem ascending_mergeSort (nodup : (members.map name).Nodup) :
    Ascending ((members.mergeSort fun a b => name a ≤ name b).map name) := by
  have sorted : (members.mergeSort fun a b => name a ≤ name b).Pairwise
      fun a b => decide (name a ≤ name b) = true :=
    List.pairwise_mergeSort (fun a b c => by simpa using String.le_trans)
      (fun a b => by simpa using String.le_total (name a) (name b)) members
  have distinct : (members.mergeSort fun a b => name a ≤ name b).Pairwise fun a b => name a ≠ name b :=
    List.pairwise_map.mp (((List.mergeSort_perm members _).map name).nodup_iff.mpr nodup)
  refine ascending_map.mpr ((sorted.and distinct).imp fun {a b} h => ?_)
  have le : name a ≤ name b := of_decide_eq_true h.1
  exact Utf8.ofString_lt_iff.mpr (String.not_le.mp fun back => h.2 (String.le_antisymm le back))

theorem eq_of_ascending {arranged arranged' : List α} (perm : arranged.Perm arranged')
    (h : Ascending (arranged.map name)) (h' : Ascending (arranged'.map name)) :
    arranged = arranged' :=
  perm.eq_of_pairwise (fun _ _ _ _ hab hba => absurd hba (List.lt_asymm hab)) (ascending_map.mp h)
    (ascending_map.mp h')

theorem arrangedBy_mergeSort (nodup : (members.map name).Nodup) :
    ArrangedBy name members (members.mergeSort fun a b => name a ≤ name b) where
  perm := List.mergeSort_perm members _
  ascending := ascending_mergeSort nodup
  unique _ perm ascending :=
    eq_of_ascending (perm.trans (List.mergeSort_perm members _).symm) ascending (ascending_mergeSort nodup)

theorem mergeSort_eq_of_perm (nodup : (members.map name).Nodup) (perm : members'.Perm members) :
    members'.mergeSort (fun a b => name a ≤ name b) = members.mergeSort fun a b => name a ≤ name b :=
  (arrangedBy_mergeSort nodup).unique _ ((List.mergeSort_perm members' _).trans perm)
    (ascending_mergeSort ((perm.map name).nodup_iff.mpr nodup))

end Members

/-- A data type, and the same data type with its members arranged by name. -/
inductive DataType.Arranged : DataType → DataType → Prop
  | cls {c c' : ClassType} (name : c'.name = c.name) (extra : c'.extra = c.extra)
      (properties : ArrangedBy Property.name c.properties c'.properties) : Arranged (.cls c) (.cls c')
  | enum {e e' : EnumType} (name : e'.name = e.name) (dataType : e'.dataType = e.dataType)
      (extra : e'.extra = e.extra) (values : ArrangedBy EnumValue.name e.values e'.values) :
      Arranged (.enum e) (.enum e')

/-- A schema, and the same schema with the members of each data type arranged by name. -/
structure Schema.Arranged (s s' : Schema) : Prop where
  version : s'.version = s.version
  dataTypes : List.Forall₂ DataType.Arranged s.dataTypes s'.dataTypes

theorem DataType.arranged_alphabetize {d : DataType} (nodup : d.memberNames.Nodup) :
    d.Arranged d.alphabetize := by
  cases d with
  | cls c => exact .cls rfl rfl (arrangedBy_mergeSort nodup)
  | enum e => exact .enum rfl rfl rfl (arrangedBy_mergeSort nodup)

/-- Parsing with and without sorting ends in the same way: in the same error, or in schemas that differ
in the arrangement of the members only. -/
theorem Document.parseAll_arranges (sources : List Source) :
    Outcome.Matches (· = ·) Schema.Arranged (parseAll false sources) (parseAll true sources) := by
  rw [parseAll_ordered true]
  cases h : parseAll false sources with
  | error e => exact .error rfl
  | ok s =>
    refine .ok ⟨rfl, List.forall₂_map_right_iff.mpr (List.forall₂_same.mpr fun d hd => ?_)⟩
    exact DataType.arranged_alphabetize (parseAll_wellFormed h d hd).members

end SchemaForge
