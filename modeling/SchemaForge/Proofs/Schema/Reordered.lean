import SchemaForge.Proofs.Json.Alike
import SchemaForge.Proofs.Schema.Alphabetized
import SchemaForge.Proofs.Schema.Reading
import SchemaForge.Render.Context

/-! The same document with its members in another order. What is asked of a document does not depend on
that order, and sorting gives the members of both the same one: so both are refused, or both are read as
the same schema. -/

namespace SchemaForge.Document

open Json (Object Value)
open Decode (textAt textAt_eq_some)
open Structure (ObjectOf ListOf DocumentShape EntryShape SaysEnum)

inductive SameItems : Value → Value → Prop
  | same (v : Value) : SameItems v v
  | list {items items' : List Value} (perm : items.Perm items') :
      SameItems (.array items) (.array items')

def memberKey (entry : Value) : String := if IsEnum entry then "values" else "properties"

inductive SameEntry : Value → Value → Prop
  | same (v : Value) : SameEntry v v
  | object {o o' : Object} (alike : Object.AlikeBut (memberKey (.object o)) SameItems o o') :
      SameEntry (.object o) (.object o')

inductive SameEntries : Value → Value → Prop
  | same (v : Value) : SameEntries v v
  | list {items items' : List Value} (entries : List.Forall₂ SameEntry items items') :
      SameEntries (.array items) (.array items')

/-- The same document, but for the order of the members of each entry. -/
inductive SameDocument : Value → Value → Prop
  | same (v : Value) : SameDocument v v
  | object {o o' : Object} (alike : Object.AlikeBut "dataTypes" SameEntries o o') :
      SameDocument (.object o) (.object o')

theorem SameItems.symm {v w : Value} (h : SameItems v w) : SameItems w v := by
  cases h with
  | same v => exact .same v
  | list perm => exact .list perm.symm

section Entry

variable {o o' : Object} (alike : Object.AlikeBut (memberKey (.object o)) SameItems o o')

include alike

theorem get?_congr {k : String} (other : k ∉ ["values", "properties"]) :
    Object.get? o k = Object.get? o' k := by
  refine alike.get?_other ?_
  rintro rfl
  refine other ?_
  unfold memberKey
  split <;> simp

theorem isEnum_congr : IsEnum (.object o) ↔ IsEnum (.object o') := by
  rw [isEnum_iff, isEnum_iff, SaysEnum, SaysEnum, get?_congr alike (by decide)]

theorem memberKey_congr : memberKey (.object o) = memberKey (.object o') :=
  if_congr (isEnum_congr alike) rfl rfl

end Entry

theorem SameEntry.symm {v w : Value} (h : SameEntry v w) : SameEntry w v := by
  cases h with
  | same v => exact .same v
  | object alike => exact .object (memberKey_congr alike ▸ alike.symm SameItems.symm)

theorem SameEntries.symm {v w : Value} (h : SameEntries v w) : SameEntries w v := by
  cases h with
  | same v => exact .same v
  | list entries => exact .list (entries.imp fun _ _ => SameEntry.symm).flip

theorem SameDocument.symm {v w : Value} (h : SameDocument v w) : SameDocument w v := by
  cases h with
  | same v => exact .same v
  | object alike => exact .object (alike.symm SameEntries.symm)

theorem SameItems.listOf {Shape : Value → Prop} {v w : Value} (same : SameItems v w)
    (h : ListOf Shape v) : ListOf Shape w := by
  cases same with
  | same => exact h
  | list perm =>
    obtain ⟨_, ⟨⟩, shape⟩ := h
    exact ⟨_, rfl, fun x hx => shape x (perm.mem_iff.mpr hx)⟩

theorem items_perm {o o' : Object} {key : String}
    (same : Option.Rel SameItems (Object.get? o key) (Object.get? o' key)) :
    (Object.items o key).Perm (Object.items o' key) := by
  unfold Object.items
  generalize Object.get? o key = v, Object.get? o' key = w at same
  cases same with
  | none => exact .refl _
  | some same =>
    cases same with
    | same v => exact .refl _
    | list perm => exact perm

theorem SameEntry.shape {v w : Value} (same : SameEntry v w) (shape : ObjectOf EntryShape v) :
    ObjectOf EntryShape w := by
  cases same with
  | same => exact shape
  | @object o o' alike =>
    obtain ⟨_, ⟨⟩, shape⟩ := shape
    have name : Object.get? o "name" = Object.get? o' "name" := get?_congr alike (by decide)
    have type : Object.get? o "type" = Object.get? o' "type" := get?_congr alike (by decide)
    have dataType : Object.get? o "dataType" = Object.get? o' "dataType" :=
      get?_congr alike (by decide)
    refine ⟨o', rfl, ?_, fun v hv => shape.kind v (type.trans hv), fun ofEnum => ?_, fun ofClass => ?_⟩
    · obtain ⟨n, hn, hne⟩ := shape.name
      exact ⟨n, name ▸ hn, hne⟩
    · have isEnum := (isEnum_congr alike).mpr (isEnum_iff.mpr ofEnum)
      have enumShape := shape.ofEnum (isEnum_iff.mp isEnum)
      rw [memberKey, if_pos isEnum] at alike
      obtain ⟨v, hv, list⟩ := enumShape.values
      obtain ⟨w, hw, same⟩ := alike.exists_of_get? hv
      exact ⟨dataType ▸ enumShape.dataType, w, hw, same.listOf list⟩
    · have isClass := fun h => ofClass (isEnum_iff.mp ((isEnum_congr alike).mp h))
      have classShape := shape.ofClass fun h => isClass (isEnum_iff.mpr h)
      rw [memberKey, if_neg isClass] at alike
      refine ⟨fun w hw => ?_⟩
      obtain ⟨v, hv, same⟩ := alike.exists_of_get?_right hw
      exact same.listOf (classShape.properties v hv)

theorem SameEntries.listOf {v w : Value} (same : SameEntries v w)
    (h : ListOf (ObjectOf EntryShape) v) : ListOf (ObjectOf EntryShape) w := by
  cases same with
  | same => exact h
  | list entries =>
    obtain ⟨_, ⟨⟩, shape⟩ := h
    refine ⟨_, rfl, fun y hy => ?_⟩
    obtain ⟨x, hx, same⟩ := Outcome.exists_of_mem_right entries hy
    exact same.shape (shape x hx)

theorem SameDocument.violations {v w : Value} (same : SameDocument v w)
    (h : Structure.violations v = []) : Structure.violations w = [] := by
  cases same with
  | same => exact h
  | @object o o' alike =>
    obtain ⟨_, ⟨⟩, shape⟩ := Structure.violations_eq_nil.mp h
    have version : Object.get? o "version" = Object.get? o' "version" := alike.get?_other (by decide)
    obtain ⟨v, hv, list⟩ := shape.dataTypes
    obtain ⟨w, hw, same⟩ := alike.exists_of_get? hv
    exact Structure.violations_eq_nil.mpr
      ⟨o', rfl, fun v hv => shape.version v (version.trans hv), w, hw, same.listOf list⟩

theorem textAt_congr {o o' : Object} {k : String} (h : Object.get? o k = Object.get? o' k) :
    textAt k (.object o) = textAt k (.object o') :=
  congrArg (Option.bind · Value.asString?) h

theorem memberTexts_eq (o : Object) : memberTexts (.object o) =
    (Object.items o (memberKey (.object o))).filterMap (textAt "name") := rfl

theorem SameEntry.legal {v w : Value} (same : SameEntry v w) (legal : EntryLegal v) :
    EntryLegal w := by
  cases same with
  | same => exact legal
  | @object o o' alike =>
    have name : textAt "name" (.object o) = textAt "name" (.object o') :=
      textAt_congr (get?_congr alike (by decide))
    have dataType : textAt "dataType" (.object o) = textAt "dataType" (.object o') :=
      textAt_congr (get?_congr alike (by decide))
    have members : (memberTexts (.object o)).Perm (memberTexts (.object o')) := by
      rw [memberTexts_eq, memberTexts_eq, ← memberKey_congr alike]
      exact (items_perm alike.get?_key).filterMap _
    have types : (typeTexts (.object o)).Perm (typeTexts (.object o')) := by
      unfold typeTexts
      by_cases isEnum : IsEnum (.object o)
      · rw [if_pos isEnum, if_pos ((isEnum_congr alike).mp isEnum), dataType]
      · rw [if_neg isEnum, if_neg fun h => isEnum ((isEnum_congr alike).mpr h)]
        rw [memberKey, if_neg isEnum] at alike
        exact (items_perm alike.get?_key).filterMap _
    exact {
      name := fun n hn => legal.name n (name.trans hn)
      types := fun s hs => legal.types s (types.mem_iff.mpr hs)
      backing := fun isEnum s hs =>
        legal.backing ((isEnum_congr alike).mpr isEnum) s (types.mem_iff.mpr hs)
      members := members.nodup_iff.mp legal.members }

theorem members_perm {α : Type} {read : Value → Decode.Result α} {items items' : List Value}
    {members members' : List α} (perm : items.Perm items')
    (h : List.Forall₂ (fun v x => read v = .ok x) items members)
    (h' : List.Forall₂ (fun v x => read v = .ok x) items' members') : members'.Perm members := by
  obtain ⟨out, hout, hperm⟩ := Outcome.mapM_perm perm (Outcome.mapM_eq_ok.mpr h)
  cases hout.symm.trans (Outcome.mapM_eq_ok.mpr h')
  exact hperm.symm

theorem text_unique {o o' : Object} {key s s' : String} (h : Object.get? o key = some (.string s))
    (h' : Object.get? o' key = some (.string s')) (same : Object.get? o key = Object.get? o' key) :
    s = s' := by
  rw [h, h'] at same
  exact Value.string.inj (Option.some.inj same)

/-- Sorting takes away all that the order of the members has left in a data type. -/
theorem ReadFrom.alphabetize_eq {o o' : Object} {d d' : DataType}
    (alike : Object.AlikeBut (memberKey (.object o)) SameItems o o') (h : ReadFrom o d)
    (h' : ReadFrom o' d') (nodup : d.memberNames.Nodup) : d.alphabetize = d'.alphabetize := by
  -- The type of an entry stands outside its members, so both are of one kind.
  have kinds := isEnum_congr alike
  cases h with
  | @cls c isClass fields =>
    cases h' with
    | enum isEnum => exact absurd (kinds.mpr isEnum) isClass
    | @cls c' _ fields' =>
      rw [memberKey, if_neg isClass] at alike
      have rest := alike.eraseSwap "type"
      have name : c.name = c'.name :=
        text_unique fields.name fields'.name (rest.get?_other (by decide))
      have extra : c.extra = c'.extra := by
        rw [fields.extra, fields'.extra, rest.filter_eq (by decide)]
      have properties := mergeSort_eq_of_perm nodup
        (members_perm (items_perm rest.get?_key) fields.properties fields'.properties)
      simp only [DataType.alphabetize, name, extra, properties]
  | @enum e isEnum fields =>
    cases h' with
    | cls isClass => exact absurd (kinds.mp isEnum) isClass
    | @enum e' _ fields' =>
      rw [memberKey, if_pos isEnum] at alike
      have rest := alike.eraseSwap "type"
      have name : e.name = e'.name :=
        text_unique fields.name fields'.name (rest.get?_other (by decide))
      have dataType : e.dataType = e'.dataType := by
        obtain ⟨s, hs, hparse⟩ := fields.dataType
        obtain ⟨s', hs', hparse'⟩ := fields'.dataType
        cases text_unique hs hs' (rest.get?_other (by decide))
        exact Except.ok.inj (hparse.symm.trans hparse')
      have extra : e.extra = e'.extra := by
        rw [fields.extra, fields'.extra, rest.filter_eq (by decide)]
      have values := mergeSort_eq_of_perm nodup
        (members_perm (items_perm rest.get?_key) fields.values fields'.values)
      simp only [DataType.alphabetize, name, dataType, extra, values]

theorem SameEntry.alike {o o' : Object} (same : SameEntry (.object o) (.object o')) :
    Object.AlikeBut (memberKey (.object o)) SameItems o o' := by
  cases same with
  | same => exact .refl .same o
  | object alike => exact alike

theorem ReadsAs.eq_of_same {v w : Value} {d d' : DataType} (same : SameEntry v w)
    (h : ReadsAs true v d) (h' : ReadsAs true w d') : d = d' := by
  obtain ⟨o, d₀, rfl, -, read, nodup, rfl⟩ := h
  obtain ⟨o', d₀', rfl, -, read', -, rfl⟩ := h'
  exact read.alphabetize_eq same.alike read' nodup

theorem SameDocument.entries {v w : Value} (same : SameDocument v w) :
    List.Forall₂ SameEntry (itemsAt "dataTypes" v) (itemsAt "dataTypes" w) := by
  cases same with
  | same => exact List.forall₂_same.mpr fun x _ => SameEntry.same x
  | @object o o' alike =>
    have related := alike.get?_key
    change List.Forall₂ SameEntry (Object.items o "dataTypes") (Object.items o' "dataTypes")
    unfold Object.items
    generalize Object.get? o "dataTypes" = v, Object.get? o' "dataTypes" = w at related
    cases related with
    | none => exact .nil
    | some same =>
      cases same with
      | same v => exact List.forall₂_same.mpr fun x _ => SameEntry.same x
      | list entries => exact entries

theorem SameDocument.version {o o' : Object} (same : SameDocument (.object o) (.object o')) :
    versionOf o = versionOf o' := by
  cases same with
  | same => rfl
  | object alike =>
    unfold versionOf
    rw [alike.get?_other (show "version" ≠ "dataTypes" by decide)]

theorem eq_of_forall₂ {α β : Type} {R : α → β → Prop} {S : α → α → Prop} {items items' : List α}
    {out out' : List β} (one : ∀ x y a b, S x y → R x a → R y b → a = b)
    (same : List.Forall₂ S items items') (h : List.Forall₂ R items out)
    (h' : List.Forall₂ R items' out') : out = out' := by
  induction same generalizing out out' with
  | nil =>
    cases h
    cases h'
    rfl
  | cons hs _ ih =>
    cases h with
    | cons ha h =>
      cases h' with
      | cons hb h' => rw [one _ _ _ _ hs ha hb, ih h h']

theorem SameDocument.schema {v w : Value} {file : String} {s : Schema} (same : SameDocument v w)
    (hkeys : v.WellKeyed) (hkeys' : w.WellKeyed) (h : ofValue true file v = .ok s) (file' : String) :
    ofValue true file' w = .ok s := by
  obtain ⟨good, legal⟩ := (ofValue_accepts_iff true file hkeys).mp ⟨s, h⟩
  have legal' : ∀ y ∈ itemsAt "dataTypes" w, EntryLegal y := by
    intro y hy
    obtain ⟨x, hx, same⟩ := Outcome.exists_of_mem_right same.entries hy
    exact same.legal (legal x hx)
  obtain ⟨s', h'⟩ := (ofValue_accepts_iff true file' hkeys').mpr ⟨same.violations good, legal'⟩
  obtain ⟨o, rfl, version, entries⟩ := ofValue_readsAs hkeys h
  obtain ⟨o', rfl, version', entries'⟩ := ofValue_readsAs hkeys' h'
  have equal : s.dataTypes = s'.dataTypes :=
    eq_of_forall₂ (R := ReadsAs true) (fun _ _ _ _ => ReadsAs.eq_of_same) same.entries entries entries'
  rw [h']
  congr 1
  obtain ⟨_, _⟩ := s
  obtain ⟨_, _⟩ := s'
  simp only at version version' equal
  rw [version, version', same.version, equal]

/-- With sorting, the order of members plays no part: documents that differ in nothing else are both
refused, or are read as the same schema and show templates the same. -/
theorem parse_ignores_member_order {source source' : Source} {v w : Value}
    (hread : read source.name source.contents = .ok v)
    (hread' : read source'.name source'.contents = .ok w) (same : SameDocument v w) :
    Outcome.Matches (fun _ _ => True)
      (fun s s' => s = s' ∧ s.dataTypes.map DataType.context = s'.dataTypes.map DataType.context)
      (parse true source) (parse true source') := by
  have hkeys := wellKeyed_of_read hread
  have hkeys' := wellKeyed_of_read hread'
  rw [parse_eq_ofValue hread, parse_eq_ofValue hread']
  cases h : ofValue true source.name v with
  | ok s =>
    rw [same.schema hkeys hkeys' h source'.name]
    exact .ok ⟨rfl, rfl⟩
  | error e =>
    cases h' : ofValue true source'.name w with
    | error e' => exact .error trivial
    | ok s' =>
      have back := same.symm.schema hkeys' hkeys h' source.name
      cases h.symm.trans back

def pointEntry (coordinates : List String) : Object :=
  [("name", .string "Point"), ("properties", .array (coordinates.map fun c =>
    .object [("name", .string c), ("dataType", .string "f64")]))]

def pointDocument (coordinates : List String) : Value :=
  .object [("dataTypes", .array [.object (pointEntry coordinates)])]

def point : Source := ⟨"point.json",
  "\x7b\"dataTypes\": [\x7b\"name\": \"Point\", \"properties\": [" ++
    "\x7b\"name\": \"x\", \"dataType\": \"f64\"\x7d, " ++
    "\x7b\"name\": \"y\", \"dataType\": \"f64\"\x7d]\x7d]\x7d"⟩

def pointReordered : Source := ⟨"point.json",
  "\x7b\"dataTypes\": [\x7b\"name\": \"Point\", \"properties\": [" ++
    "\x7b\"name\": \"y\", \"dataType\": \"f64\"\x7d, " ++
    "\x7b\"name\": \"x\", \"dataType\": \"f64\"\x7d]\x7d]\x7d"⟩

theorem read_point : read point.name point.contents = .ok (pointDocument ["x", "y"]) := by
  cbv

theorem read_pointReordered :
    read pointReordered.name pointReordered.contents = .ok (pointDocument ["y", "x"]) := by
  cbv

theorem memberKey_pointEntry (coordinates : List String) :
    memberKey (.object (pointEntry coordinates)) = "properties" := by
  refine if_neg fun isEnum => ?_
  cases isEnum_iff.mp isEnum

theorem pointDocument_same {coordinates coordinates' : List String}
    (perm : coordinates.Perm coordinates') :
    SameDocument (pointDocument coordinates) (pointDocument coordinates') := by
  have entry : SameEntry (.object (pointEntry coordinates)) (.object (pointEntry coordinates')) := by
    refine .object ?_
    rw [memberKey_pointEntry]
    exact .cons ⟨rfl, (if_neg (by decide)).mpr rfl⟩
      (.cons ⟨rfl, (if_pos rfl).mpr (.list (perm.map _))⟩ .nil)
  exact .object (.cons ⟨rfl, (if_pos rfl).mpr (.list (.cons entry .nil))⟩ .nil)

theorem parse_ignores_member_order_of_point :
    read point.name point.contents = .ok (pointDocument ["x", "y"]) ∧
      read pointReordered.name pointReordered.contents = .ok (pointDocument ["y", "x"]) ∧
      Outcome.Matches (fun _ _ => True)
        (fun s s' => s = s' ∧ s.dataTypes.map DataType.context = s'.dataTypes.map DataType.context)
        (parse true point) (parse true pointReordered) :=
  ⟨read_point, read_pointReordered, parse_ignores_member_order read_point read_pointReordered
    (pointDocument_same (.swap _ _ _))⟩

end SchemaForge.Document
