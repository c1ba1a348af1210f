import SchemaForge.Proofs.DataType.Faults
import SchemaForge.Proofs.Schema.Names
import SchemaForge.Proofs.TypeExpr.Forms

/-! One entry of a schema document whose structure is good. It is legal, and then it decodes to a data
type that says what it says; or it has a fault, and then the first of its faults is reported. -/

namespace SchemaForge

/-- The types of the members: those of the properties of a class, the one behind an enum. -/
def DataType.types : DataType → List TypeExpr
  | .cls c => c.properties.map (·.dataType)
  | .enum e => [e.dataType]

namespace Document

open Json (Object Value)
open Decode (textAt textAt_eq_some)
open Outcome (At)
open Structure (ObjectOf ListOf PropertyShape EnumValueShape ClassShape EnumShape EntryShape Named
  SaysEnum)

/-- The items of the list under a key of a value; without such a list there are none. -/
def itemsAt (key : String) : Value → List Value
  | .object o => Object.items o key
  | _ => []

def IsEnum (entry : Value) : Prop := textAt "type" entry = some "enum"

instance (entry : Value) : Decidable (IsEnum entry) :=
  inferInstanceAs (Decidable (textAt "type" entry = some "enum"))

def memberTexts (entry : Value) : List String :=
  (itemsAt (if IsEnum entry then "values" else "properties") entry).filterMap (textAt "name")

/-- The texts that stand for types: one behind an enum, one at each property of a class. -/
def typeTexts (entry : Value) : List String :=
  if IsEnum entry then (textAt "dataType" entry).toList
  else (itemsAt "properties" entry).filterMap (textAt "dataType")

def Parses (s : String) : Prop := ∃ t, TypeExpr.parse s = .ok t

def FailsWith (c : TypeExpr.Error) (s : String) : Prop := TypeExpr.parse s = .error c

def Plain (s : String) : Prop := ∀ c ∈ s.toList, c ≠ '[' ∧ c ≠ ']' ∧ c ≠ '?'

/-- An entry with nothing wrong in it that its structure does not show. -/
structure EntryLegal (entry : Value) : Prop where
  name : ∀ n, textAt "name" entry = some n → SafeName n
  types : ∀ s ∈ typeTexts entry, Parses s
  backing : IsEnum entry → ∀ s ∈ typeTexts entry, Plain s
  members : (memberTexts entry).Nodup

/-- What is wrong with an entry. Each fault stands only where those above it do not. -/
inductive EntryFault (file : String) (entry : Value) : SchemaError → Prop
  | name {n : String} (named : textAt "name" entry = some n) (unsafeName : ¬ SafeName n) :
      EntryFault file entry (.invalidName file n)
  | type {n : String} {c : TypeExpr.Error} (named : textAt "name" entry = some n)
      (safe : SafeName n) (first : At Parses (FailsWith c) (typeTexts entry)) :
      EntryFault file entry (.decode file n c.message)
  | backing {n s : String} (named : textAt "name" entry = some n) (safe : SafeName n)
      (isEnum : IsEnum entry) (typed : typeTexts entry = [s]) (parses : Parses s)
      (marked : ¬ Plain s) : EntryFault file entry (.enumBacking file n s)
  | member {n m : String} (named : textAt "name" entry = some n) (safe : SafeName n)
      (types : ∀ s ∈ typeTexts entry, Parses s)
      (plain : IsEnum entry → ∀ s ∈ typeTexts entry, Plain s)
      (repeated : FirstRepeat (memberTexts entry) m) :
      EntryFault file entry (.duplicateMember file n m)

theorem at_failsWith {c : TypeExpr.Error} {texts : List String} :
    At Parses (FailsWith c) texts ↔ texts.mapM TypeExpr.parse = .error c :=
  Outcome.mapM_eq_error.symm

theorem not_at_of_parses {c : TypeExpr.Error} {texts : List String}
    (h : ∀ s ∈ texts, Parses s) : ¬ At Parses (FailsWith c) texts := by
  rw [at_failsWith]
  obtain ⟨out, hout⟩ := Outcome.exists_mapM_eq_ok.mpr h
  rw [hout]
  nofun

theorem not_firstRepeat_of_nodup {names : List String} {m : String} (h : names.Nodup) :
    ¬ FirstRepeat names m := by
  rw [← DataType.firstRepeat?_eq_some, DataType.firstRepeat?_eq_none.mpr h]
  nofun

namespace EntryFault

variable {file : String} {v : Value} {e e' : SchemaError}

theorem not_legal (fault : EntryFault file v e) : ¬ EntryLegal v := by
  intro legal
  cases fault with
  | name named unsafeName => exact unsafeName (legal.name _ named)
  | type named safe first => exact not_at_of_parses legal.types first
  | backing named safe isEnum typed parses marked =>
    exact marked (legal.backing isEnum _ (typed ▸ List.mem_singleton_self _))
  | member named safe types plain repeated => exact not_firstRepeat_of_nodup legal.members repeated

theorem unique (fault : EntryFault file v e) (fault' : EntryFault file v e') : e = e' := by
  cases fault with
  | name named unsafeName =>
    cases fault' with
    | name named' _ =>
      cases named.symm.trans named'
      rfl
    | type named' safe _ =>
      cases named.symm.trans named'
      exact absurd safe unsafeName
    | backing named' safe =>
      cases named.symm.trans named'
      exact absurd safe unsafeName
    | member named' safe =>
      cases named.symm.trans named'
      exact absurd safe unsafeName
  | type named safe first =>
    cases fault' with
    | name named' unsafeName =>
      cases named.symm.trans named'
      exact absurd safe unsafeName
    | type named' _ first' =>
      cases named.symm.trans named'
      cases (at_failsWith.mp first).symm.trans (at_failsWith.mp first')
      rfl
    | backing _ _ _ typed parses =>
      exact absurd first (not_at_of_parses (typed ▸ List.forall_mem_singleton.mpr parses))
    | member _ _ types => exact absurd first (not_at_of_parses types)
  | backing named safe isEnum typed parses marked =>
    cases fault' with
    | name named' unsafeName =>
      cases named.symm.trans named'
      exact absurd safe unsafeName
    | type _ _ first =>
      exact absurd first (not_at_of_parses (typed ▸ List.forall_mem_singleton.mpr parses))
    | backing named' _ _ typed' =>
      cases named.symm.trans named'
      cases typed.symm.trans typed'
      rfl
    | member _ _ _ plain => exact absurd (plain isEnum _ (typed ▸ List.mem_singleton_self _)) marked
  | member named safe types plain repeated =>
    cases fault' with
    | name named' unsafeName =>
      cases named.symm.trans named'
      exact absurd safe unsafeName
    | type _ _ first => exact absurd first (not_at_of_parses types)
    | backing _ _ isEnum typed _ marked =>
      exact absurd (plain isEnum _ (typed ▸ List.mem_singleton_self _)) marked
    | member named' _ _ _ repeated' =>
      cases named.symm.trans named'
      cases repeated.unique repeated'
      rfl

end EntryFault

structure Decoded (entry : Value) (d : DataType) : Prop where
  name : textAt "name" entry = some d.name
  safe : SafeName d.name
  kind : d.kind = .enum ↔ IsEnum entry
  types : List.Forall₂ (fun s t => TypeExpr.parse s = .ok t) (typeTexts entry) d.types
  backing : IsEnum entry → ∀ s ∈ typeTexts entry, Plain s
  members : d.memberNames = memberTexts entry

section Fields

variable {o : Object}

theorem isEnum_iff : IsEnum (.object o) ↔ SaysEnum o := textAt_eq_some

theorem textAt_eraseSwap (distinct : Object.Distinct o) {key : String} (h : key ≠ "type") :
    textAt key (.object (Object.eraseSwap o "type")) = textAt key (.object o) := by
  change (Object.get? _ key).bind Value.asString? = (Object.get? o key).bind Value.asString?
  rw [Object.get?_eraseSwap distinct h]

theorem items_eraseSwap (distinct : Object.Distinct o) {key : String} (h : key ≠ "type") :
    Object.items (Object.eraseSwap o "type") key = Object.items o key := by
  unfold Object.items
  rw [Object.get?_eraseSwap distinct h]

theorem named_eraseSwap (distinct : Object.Distinct o) (named : Named o) :
    Named (Object.eraseSwap o "type") := by
  obtain ⟨n, hn, hne⟩ := named
  exact ⟨n, by rw [Object.get?_eraseSwap distinct (by decide), hn], hne⟩

theorem classShape_eraseSwap (distinct : Object.Distinct o) (shape : ClassShape o) :
    ClassShape (Object.eraseSwap o "type") := by
  refine ⟨fun v hv => shape.properties v ?_⟩
  rwa [Object.get?_eraseSwap distinct (by decide)] at hv

theorem enumShape_eraseSwap (distinct : Object.Distinct o) (shape : EnumShape o) :
    EnumShape (Object.eraseSwap o "type") := by
  constructor
  · rw [Object.get?_eraseSwap distinct (by decide)]
    exact shape.dataType
  · rw [Object.get?_eraseSwap distinct (by decide)]
    exact shape.values

theorem property_of_mem (hkeys : (Value.object o).WellKeyed) (shape : ClassShape o) {v : Value}
    (hv : v ∈ Object.items o "properties") :
    ∃ p, v = .object p ∧ Object.Distinct p ∧ PropertyShape p := by
  have hlist := Object.get?_of_mem_items hv
  obtain ⟨items, hitems, hshape⟩ := shape.properties _ hlist
  obtain ⟨p, rfl, hp⟩ := hshape v (Value.array.inj hitems ▸ hv)
  exact ⟨p, rfl, (hkeys.of_mem_items hv).distinct, hp⟩

theorem property_parts {p : Object} {x : Property} (distinct : Object.Distinct p)
    (h : Decode.property (.object p) = .ok x) :
    textAt "name" (.object p) = some x.name ∧
      ∃ s, textAt "dataType" (.object p) = some s ∧ TypeExpr.parse s = .ok x.dataType := by
  obtain ⟨p', hp, hfrom⟩ := Decode.propertyFrom_of_ok h
  cases hp
  obtain ⟨s, hs, hparse⟩ := (hfrom distinct).dataType
  exact ⟨textAt_eq_some.mpr (hfrom distinct).name, s, textAt_eq_some.mpr hs, hparse⟩

/-- Of properties that do not all decode, the first has a type that is no type expression. -/
theorem properties_fault (hkeys : (Value.object o).WellKeyed) (shape : ClassShape o)
    {e : DecodeError} (h : (Object.items o "properties").mapM Decode.property = .error e) :
    ∃ c, e = .typeExpr c ∧
      At Parses (FailsWith c) ((Object.items o "properties").filterMap (textAt "dataType")) := by
  have hat := Outcome.mapM_eq_error.mp h
  have first := hat
  obtain ⟨before, v, after, hitems, -, hbad⟩ := first
  have hmem : v ∈ Object.items o "properties" := hitems ▸ List.mem_append_right _ List.mem_cons_self
  obtain ⟨p, rfl, distinct, hshape⟩ := property_of_mem hkeys shape hmem
  obtain ⟨s, c, -, -, rfl⟩ := Decode.property_fault distinct hshape hbad
  refine ⟨c, rfl, hat.filterMap fun v hv => ?_⟩
  obtain ⟨p, rfl, distinct, hshape⟩ := property_of_mem hkeys shape hv
  obtain ⟨s, hs⟩ := hshape.dataType
  refine ⟨s, textAt_eq_some.mpr hs, ?_, ?_⟩
  · rintro ⟨x, hx⟩
    obtain ⟨-, s', hs', hparse⟩ := property_parts distinct hx
    cases (textAt_eq_some.mpr hs).symm.trans hs'
    exact ⟨_, hparse⟩
  · intro hbad
    obtain ⟨s', c', hs', hparse, hc⟩ := Decode.property_fault distinct hshape hbad
    cases (textAt_eq_some.mpr hs).symm.trans hs'
    cases hc
    exact hparse

/-- A class decodes, or the first of its types that is no type expression is reported. -/
theorem classType_outcome (hkeys : (Value.object o).WellKeyed) (named : Named o)
    (shape : ClassShape o) :
    (∃ c, Decode.classType (.object o) = .ok c ∧ textAt "name" (.object o) = some c.name ∧
      List.Forall₂ (fun s t => TypeExpr.parse s = .ok t)
        ((Object.items o "properties").filterMap (textAt "dataType")) (DataType.cls c).types ∧
      c.properties.map (·.name) = (Object.items o "properties").filterMap (textAt "name")) ∨
    ∃ c, Decode.classType (.object o) = .error (.typeExpr c) ∧
      At Parses (FailsWith c) ((Object.items o "properties").filterMap (textAt "dataType")) := by
  cases h : Decode.classType (.object o) with
  | ok c =>
    obtain ⟨o', ho, hfrom⟩ := Decode.classFrom_of_ok h
    cases ho
    have hclass := hfrom hkeys.distinct
    have parts : ∀ v ∈ Object.items o "properties", ∀ x, Decode.property v = .ok x →
        textAt "name" v = some x.name ∧
          ∃ s, textAt "dataType" v = some s ∧ TypeExpr.parse s = .ok x.dataType := by
      intro v hv x hx
      obtain ⟨p, rfl, distinct, -⟩ := property_of_mem hkeys shape hv
      exact property_parts distinct hx
    refine .inl ⟨c, rfl, textAt_eq_some.mpr hclass.name, ?_, ?_⟩
    · exact Outcome.forall₂_filterMap hclass.properties fun v hv x hx => (parts v hv x hx).2
    · exact (Outcome.filterMap_eq_map hclass.properties fun v hv x hx => (parts v hv x hx).1).symm
  | error e =>
    obtain ⟨c, rfl, first⟩ :=
      properties_fault hkeys shape (Decode.class_fault hkeys.distinct named shape h)
    exact .inr ⟨c, rfl, first⟩

theorem enumType_outcome (hkeys : (Value.object o).WellKeyed) (named : Named o)
    (shape : EnumShape o) :
    (∃ x, Decode.enumType (.object o) = .ok x ∧ textAt "name" (.object o) = some x.name ∧
      (∃ s, textAt "dataType" (.object o) = some s ∧ TypeExpr.parse s = .ok x.dataType) ∧
      x.values.map (·.name) = (Object.items o "values").filterMap (textAt "name")) ∨
    ∃ s c, Decode.enumType (.object o) = .error (.typeExpr c) ∧
      textAt "dataType" (.object o) = some s ∧ FailsWith c s := by
  cases h : Decode.enumType (.object o) with
  | ok x =>
    obtain ⟨o', ho, hfrom⟩ := Decode.enumFrom_of_ok h
    cases ho
    have henum := hfrom hkeys.distinct
    obtain ⟨s, hs, hparse⟩ := henum.dataType
    refine .inl ⟨x, rfl, textAt_eq_some.mpr henum.name, ⟨s, textAt_eq_some.mpr hs, hparse⟩, ?_⟩
    refine (Outcome.filterMap_eq_map henum.values fun v hv y hy => ?_).symm
    obtain ⟨o', rfl, hvalue⟩ := Decode.enumValueFrom_of_ok hy
    exact textAt_eq_some.mpr (hvalue (hkeys.of_mem_items hv).distinct).name
  | error e =>
    obtain ⟨s, c, hs, hparse, rfl⟩ := Decode.enum_fault hkeys named shape h
    exact .inr ⟨s, c, rfl, hs, hparse⟩

theorem nameOf_eq {n : String} (h : textAt "name" (.object o) = some n) : nameOf o = n := by
  have hn := textAt_eq_some.mp h
  simp [nameOf, hn, Value.asString?]

theorem kindOf_eq {file n : String} (shape : EntryShape o) :
    kindOf file n o = .ok (if IsEnum (.object o) then .enum else .cls) := by
  have kinds := shape.kind
  unfold kindOf
  split
  · next h =>
    have : ¬ IsEnum (.object o) := by
      rw [isEnum_iff, SaysEnum, h]
      simp
    rw [if_neg this]
  · next s h =>
    rcases kinds _ h with hs | hs
    · cases hs
      have : ¬ IsEnum (.object o) := by
        rw [isEnum_iff, SaysEnum, h]
        simp
      rw [if_neg this]
      rfl
    · cases hs
      rw [if_pos (isEnum_iff.mpr h)]
      rfl
  · next v hv h =>
    rcases kinds _ h with rfl | rfl
    · exact absurd rfl (hv "class")
    · exact absurd rfl (hv "enum")

theorem decodeEntry_unsafe {file : String} (h : ¬ SafeName (nameOf o)) :
    decodeEntry file (.object o) = .error (.invalidName file (nameOf o)) := by
  have hunsafe : fileNameSafe (nameOf o) = false := by
    rw [← Bool.not_eq_true, fileNameSafe_iff]
    exact h
  simp only [decodeEntry, hunsafe, Bool.not_false, if_true]

theorem decodeEntry_class {file : String} (safe : SafeName (nameOf o))
    (hkind : kindOf file (nameOf o) o = .ok .cls) :
    decodeEntry file (.object o) =
      match Decode.classType (.object (Object.eraseSwap o "type")) with
      | .ok c => .ok (.cls c)
      | .error e => .error (.decode file (nameOf o) e.message) := by
  have hsafe := fileNameSafe_iff.mpr safe
  cases hfields : Decode.classType (.object (Object.eraseSwap o "type")) <;>
    simp only [decodeEntry, hsafe, Bool.not_true, Bool.false_eq_true, if_false, hkind, bind,
      Except.bind, hfields]

theorem decodeEntry_enum {file : String} (safe : SafeName (nameOf o))
    (hkind : kindOf file (nameOf o) o = .ok .enum) :
    decodeEntry file (.object o) =
      match Decode.enumType (.object (Object.eraseSwap o "type")) with
      | .ok x =>
        if x.dataType.plain then .ok (.enum x) else .error (.enumBacking file x.name x.dataType.text)
      | .error e => .error (.decode file (nameOf o) e.message) := by
  have hsafe := fileNameSafe_iff.mpr safe
  cases hfields : Decode.enumType (.object (Object.eraseSwap o "type")) <;>
    simp only [decodeEntry, hsafe, Bool.not_true, Bool.false_eq_true, if_false, hkind, bind,
      Except.bind, hfields]

end Fields

section Outcomes

variable {o : Object} {file n : String}

theorem decodeClass_outcome (hkeys : (Value.object o).WellKeyed) (shape : EntryShape o)
    (hn : textAt "name" (.object o) = some n) (safe : SafeName n) (isClass : ¬ IsEnum (.object o)) :
    (∃ d, decodeEntry file (.object o) = .ok d ∧ Decoded (.object o) d) ∨
      ∃ e, decodeEntry file (.object o) = .error e ∧ EntryFault file (.object o) e := by
  have distinct := hkeys.distinct
  have hname := nameOf_eq hn
  have hclass := shape.ofClass (fun h => isClass (isEnum_iff.mpr h))
  have htypes : typeTexts (.object o) =
      (Object.items o "properties").filterMap (textAt "dataType") := by
    rw [typeTexts, if_neg isClass]
    rfl
  have hmembers : memberTexts (.object o) =
      (Object.items o "properties").filterMap (textAt "name") := by
    rw [memberTexts, if_neg isClass]
    rfl
  have houtcome := classType_outcome (hkeys.eraseSwap "type") (named_eraseSwap distinct shape.name)
    (classShape_eraseSwap distinct hclass)
  rw [items_eraseSwap distinct (by decide), textAt_eraseSwap distinct (by decide), ← htypes,
    ← hmembers] at houtcome
  rw [decodeEntry_class (hname ▸ safe) (by rw [kindOf_eq shape, if_neg isClass]), hname]
  rcases houtcome with ⟨c, hc, hcname, htyped, hnames⟩ | ⟨c, hc, hat⟩
  · cases hn.symm.trans hcname
    rw [hc]
    exact .inl ⟨.cls c, rfl, hn, safe, ⟨nofun, fun h => absurd h isClass⟩, htyped,
      fun h => absurd h isClass, hnames⟩
  · rw [hc]
    exact .inr ⟨_, rfl, .type hn safe hat⟩

theorem decodeEnum_outcome (hkeys : (Value.object o).WellKeyed) (shape : EntryShape o)
    (hn : textAt "name" (.object o) = some n) (safe : SafeName n) (isEnum : IsEnum (.object o)) :
    (∃ d, decodeEntry file (.object o) = .ok d ∧ Decoded (.object o) d) ∨
      ∃ e, decodeEntry file (.object o) = .error e ∧ EntryFault file (.object o) e := by
  have distinct := hkeys.distinct
  have hname := nameOf_eq hn
  have henum := shape.ofEnum (isEnum_iff.mp isEnum)
  have htypes {s : String} (hs : textAt "dataType" (.object o) = some s) :
      typeTexts (.object o) = [s] := by
    rw [typeTexts, if_pos isEnum, hs]
    rfl
  have hmembers : memberTexts (.object o) =
      (Object.items o "values").filterMap (textAt "name") := by
    rw [memberTexts, if_pos isEnum]
    rfl
  have houtcome := enumType_outcome (hkeys.eraseSwap "type") (named_eraseSwap distinct shape.name)
    (enumShape_eraseSwap distinct henum)
  rw [items_eraseSwap distinct (by decide), textAt_eraseSwap distinct (by decide),
    textAt_eraseSwap distinct (by decide), ← hmembers] at houtcome
  rw [decodeEntry_enum (hname ▸ safe) (by rw [kindOf_eq shape, if_pos isEnum]), hname]
  rcases houtcome with ⟨x, hx, hxname, ⟨s, hs, hparse⟩, hnames⟩ | ⟨s, c, hc, hs, hfails⟩
  · cases hn.symm.trans hxname
    rw [hx]
    by_cases plain : x.dataType.plain = true
    · simp only [plain, if_true]
      refine .inl ⟨.enum x, rfl, hn, safe, ⟨fun _ => isEnum, fun _ => rfl⟩, ?_, fun _ => ?_, hnames⟩
      · rw [htypes hs]
        exact .cons hparse .nil
      · rw [htypes hs]
        exact List.forall_mem_singleton.mpr ((TypeExpr.plain_iff_of_parse hparse).mp plain)
    · simp only [plain, Bool.false_eq_true, if_false]
      refine .inr ⟨_, rfl, ?_⟩
      rw [← (TypeExpr.of_parse hparse).1]
      exact .backing hn safe isEnum (htypes hs) ⟨_, hparse⟩
        fun h => plain ((TypeExpr.plain_iff_of_parse hparse).mpr h)
  · rw [hc]
    refine .inr ⟨_, rfl, .type hn safe ?_⟩
    rw [htypes hs]
    exact Outcome.at_cons.mpr (.inl hfails)

theorem decodeEntry_outcome (file : String) (hkeys : (Value.object o).WellKeyed) (shape : EntryShape o) :
    (∃ d, decodeEntry file (.object o) = .ok d ∧ Decoded (.object o) d) ∨
      ∃ e, decodeEntry file (.object o) = .error e ∧ EntryFault file (.object o) e := by
  obtain ⟨n, hget, -⟩ := shape.name
  have hn := textAt_eq_some.mpr hget
  have hname := nameOf_eq hn
  by_cases safe : SafeName n
  · by_cases isEnum : IsEnum (.object o)
    · exact decodeEnum_outcome hkeys shape hn safe isEnum
    · exact decodeClass_outcome hkeys shape hn safe isEnum
  · refine .inr ⟨_, decodeEntry_unsafe (hname ▸ safe), ?_⟩
    rw [hname]
    exact .name hn safe

end Outcomes

end Document

end SchemaForge
