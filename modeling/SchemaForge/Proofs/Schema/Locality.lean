import Mathlib
import SchemaForge.Proofs.Schema.Language

/-! Where violations lie. What a rule finds wrong with a part of a document hangs on that part alone,
and on the place of the part only in that it is told from there. So every entry, and every member of
an entry, has the violations that it has where it stands alone. -/

namespace SchemaForge.Structure

open Json (Object Value)

def Violation.within (place : Path) (x : Violation) : Violation := ⟨place ++ x.path, x.cause⟩

def Violation.from? (place : Path) (x : Violation) : Option Violation :=
  (place.isPrefixOf? x.path).map fun rest => ⟨rest, x.cause⟩

def toldFrom (place : Path) (found : List Violation) : List Violation :=
  found.filterMap (·.from? place)

def foundUnder (place : Path) (found : List Violation) : List Violation :=
  found.filter fun x => place.isPrefixOf x.path

def Violation.moved (old new : Path) (x : Violation) : Violation :=
  ⟨new ++ x.path.drop old.length, x.cause⟩

theorem toldFrom_nil (found : List Violation) : toldFrom [] found = found := by
  have self (x : Violation) : x.from? [] = some x := by simp [Violation.from?, List.isPrefixOf?]
  simp [toldFrom, self]

theorem toldFrom_append (place : Path) (found more : List Violation) :
    toldFrom place (found ++ more) = toldFrom place found ++ toldFrom place more :=
  List.filterMap_append

theorem toldFrom_within (step : Step) (rest : Path) (found : List Violation) :
    toldFrom (step :: rest) (found.map (·.within [step])) = toldFrom rest found := by
  rw [toldFrom, List.filterMap_map]
  refine List.filterMap_congr fun x _ => ?_
  simp [Violation.from?, Violation.within, List.isPrefixOf?]

theorem toldFrom_within_ne {step other : Step} (h : step ≠ other) (rest : Path)
    (found : List Violation) : toldFrom (step :: rest) (found.map (·.within [other])) = [] := by
  rw [toldFrom, List.filterMap_map, List.filterMap_eq_nil_iff]
  intro x _
  simp [Violation.from?, Violation.within, List.isPrefixOf?, h]

theorem Violation.from?_eq (place : Path) (x : Violation) :
    x.from? place = if place.isPrefixOf x.path then some ⟨x.path.drop place.length, x.cause⟩ else none := by
  obtain ⟨path, cause⟩ := x
  unfold from?
  induction place generalizing path with
  | nil => simp [List.isPrefixOf?]
  | cons step place ih =>
    cases path with
    | nil => simp [List.isPrefixOf?]
    | cons s path =>
      by_cases h : step = s
      · simpa [List.isPrefixOf?, List.isPrefixOf, h] using ih path
      · simp [List.isPrefixOf?, List.isPrefixOf, h]

theorem foundUnder_eq (place : Path) (found : List Violation) :
    foundUnder place found = (toldFrom place found).map (·.within place) := by
  rw [foundUnder, toldFrom, List.map_filterMap, ← List.filterMap_eq_filter]
  refine List.filterMap_congr fun x _ => ?_
  rw [Violation.from?_eq, Option.guard]
  split
  · next h =>
    obtain ⟨rest, hrest⟩ := List.isPrefixOf_iff_prefix.mp h
    obtain ⟨path, cause⟩ := x
    subst hrest
    simp [Violation.within]
  · rfl

theorem Violation.moved_within (old new : Path) (x : Violation) :
    (x.within old).moved old new = x.within new := by
  simp [moved, within]

theorem map_mapIdx {α β γ : Type} (f : Nat → α → β) (g : β → γ) (items : List α) :
    (items.mapIdx f).map g = items.mapIdx fun i item => g (f i item) :=
  List.ext_getElem (by simp) (by simp)

def Placeless (rule : Rule) : Prop := ∀ path v, rule path v = (rule [] v).map (·.within path)

theorem placeless_ofType (allowed : List JsonType) : Placeless (ofType allowed) := by
  intro path v
  unfold ofType
  split <;> simp [Violation.within]

theorem placeless_requires (keys : List String) : Placeless (requires keys) := by
  intro path v
  cases v <;> simp [requires, Violation.within]

theorem placeless_nonEmptyText : Placeless nonEmptyText := by
  intro path v
  unfold nonEmptyText
  split <;> simp [Violation.within]

theorem placeless_oneOf (allowed : List String) : Placeless (oneOf allowed) := by
  intro path v
  unfold oneOf
  split
  · split <;> simp [Violation.within]
  · simp [Violation.within]

section

variable {rule : Rule} (placeless : Placeless rule)

include placeless

theorem map_within (path : Path) (step : Step) (v : Value) :
    rule (path ++ [step]) v = (rule [step] v).map (·.within path) := by
  rw [placeless, placeless [step], List.map_map]
  refine List.map_congr_left fun x _ => ?_
  simp [Violation.within]

theorem placeless_under (key : String) : Placeless (under key rule) := by
  intro path v
  unfold under
  split
  · exact map_within placeless path _ _
  · rfl

theorem placeless_each : Placeless (each rule) := by
  intro path v
  cases v with
  | array items =>
    simp only [each, List.map_flatten, map_mapIdx, List.nil_append, map_within placeless path]
  | _ => rfl

end

theorem placeless_all {rules : List Rule} (each : ∀ rule ∈ rules, Placeless rule) :
    Placeless (all rules) := by
  intro path v
  rw [all, all, List.map_flatMap]
  exact List.flatMap_congr fun rule hrule => each rule hrule path v

theorem placeless_nameRule : Placeless nameRule :=
  placeless_all (by simp [placeless_ofType, placeless_nonEmptyText])

theorem placeless_property : Placeless property :=
  placeless_all (by
    simp [placeless_ofType, placeless_requires, placeless_under, placeless_nameRule])

theorem placeless_enumValue : Placeless enumValue :=
  placeless_all (by
    simp [placeless_ofType, placeless_requires, placeless_under, placeless_nameRule])

theorem placeless_enumShape : Placeless enumShape :=
  placeless_all (by
    simp only [List.forall_mem_cons, List.not_mem_nil, false_implies, implies_true, and_true]
    refine ⟨placeless_requires _, placeless_under (placeless_ofType _) _, placeless_under ?_ _⟩
    exact placeless_all (by simp [placeless_ofType, placeless_each, placeless_enumValue]))

theorem placeless_classShape : Placeless classShape :=
  placeless_under
    (placeless_all (by simp [placeless_ofType, placeless_each, placeless_property])) _

theorem placeless_entry : Placeless entry :=
  placeless_all (by
    simp only [List.forall_mem_cons, List.not_mem_nil, false_implies, implies_true, and_true]
    refine ⟨placeless_ofType _, placeless_requires _, placeless_under placeless_nameRule _,
      placeless_under (placeless_oneOf _) _, fun path v => ?_⟩
    dsimp only
    split
    · exact placeless_enumShape path v
    · exact placeless_classShape path v)

def foundAt (rule : Rule) (place : Path) (v : Value) : List Violation := toldFrom place (rule [] v)

section

variable {rule : Rule} {rest : Path} {v : Value}

theorem foundAt_nil : foundAt rule [] v = rule [] v := toldFrom_nil _

theorem foundAt_all_nil {place : Path} : foundAt (all []) place v = [] := rfl

theorem foundAt_all_cons {rules : List Rule} {place : Path} :
    foundAt (all (rule :: rules)) place v = foundAt rule place v ++ foundAt (all rules) place v :=
  toldFrom_append place (rule [] v) (all rules [] v)

theorem foundAt_ofType {allowed : List JsonType} {step : Step} :
    foundAt (ofType allowed) (step :: rest) v = [] := by
  unfold foundAt ofType
  split <;> simp [toldFrom, Violation.from?, List.isPrefixOf?]

theorem foundAt_requires {keys : List String} {step : Step} :
    foundAt (requires keys) (step :: rest) v = [] := by
  cases v <;> simp [foundAt, requires, toldFrom, Violation.from?, List.isPrefixOf?]

theorem foundAt_under (placeless : Placeless rule) (key : String) :
    foundAt (under key rule) (.key key :: rest) v =
      (v.get? key).toList.flatMap fun part => foundAt rule rest part := by
  unfold foundAt under
  cases v.get? key with
  | none => rfl
  | some part => simp [placeless [Step.key key], toldFrom_within]

theorem foundAt_under_ne (placeless : Placeless rule) {key : String} {step : Step}
    (h : step ≠ .key key) : foundAt (under key rule) (step :: rest) v = [] := by
  unfold foundAt under
  cases v.get? key with
  | none => rfl
  | some part => simp [placeless [Step.key key], toldFrom_within_ne h]

theorem flatten_mapIdx_single {α β : Type} (f : α → List β) (items : List α) (i : Nat) :
    (items.mapIdx fun k item => if i = k then f item else []).flatten =
      items[i]?.toList.flatMap f := by
  induction items generalizing i with
  | nil => simp
  | cons item items ih =>
    rw [List.mapIdx_cons, List.flatten_cons]
    cases i with
    | zero => simp
    | succ i => simpa using ih i

theorem foundAt_each (placeless : Placeless rule) (items : List Value) (i : Nat) :
    foundAt (each rule) (.index i :: rest) (.array items) =
      items[i]?.toList.flatMap fun item => foundAt rule rest item := by
  rw [← flatten_mapIdx_single]
  unfold foundAt each toldFrom
  rw [List.filterMap_flatten, map_mapIdx]
  congr 2
  funext k item
  rw [List.nil_append, placeless [Step.index k]]
  split
  · next h =>
    rw [← h]
    exact toldFrom_within _ _ _
  · next h => exact toldFrom_within_ne (by simpa using h) _ _

theorem foundAt_listUnder (placeless : Placeless rule) (o : Object) (key : String) (i : Nat) :
    foundAt (under key (all [ofType [.array], each rule])) (.key key :: .index i :: rest) (.object o) =
      (Object.items o key)[i]?.toList.flatMap fun item => foundAt rule rest item := by
  have inner : Placeless (all [ofType [.array], each rule]) :=
    placeless_all (by simp [placeless_ofType, placeless_each placeless])
  rw [foundAt_under inner, get?_object, Object.items]
  cases Object.get? o key with
  | none => rfl
  | some part =>
    simp only [Option.toList_some, List.flatMap_singleton, foundAt_all_cons, foundAt_ofType,
      foundAt_all_nil, List.nil_append, List.append_nil]
    cases part with
    | array items => exact foundAt_each placeless items i
    | _ => rfl

end

def entryPlace (i : Nat) : Path := [.key "dataTypes", .index i]

def memberStep (key : String) (j : Nat) : Path := [.key key, .index j]

def memberPlace (i : Nat) (key : String) (j : Nat) : Path := entryPlace i ++ memberStep key j

def heldKeys (o : Object) : List String :=
  if saysEnum (.object o) then ["name", "type", "dataType", "values"]
  else ["name", "type", "properties"]

def heldMembers (key : String) : Value → List Value
  | .object o => if key ∈ heldKeys o then Object.items o key else []
  | _ => []

theorem foundAt_document (o : Object) (i : Nat) (rest : Path) :
    foundAt document (entryPlace i ++ rest) (.object o) =
      (Object.items o "dataTypes")[i]?.toList.flatMap fun e => foundAt entry rest e := by
  have version (rest : Path) (v : Value) :
      foundAt (under "version" (ofType [.number, .string])) (.key "dataTypes" :: rest) v = [] :=
    foundAt_under_ne (placeless_ofType _) (by decide)
  simp only [document, entryPlace, List.cons_append, List.nil_append, foundAt_all_cons, foundAt_all_nil,
    foundAt_ofType, foundAt_requires, foundAt_listUnder placeless_entry, version, List.append_nil]

theorem foundAt_kind (place : Path) (v : Value) :
    foundAt (fun path v => if saysEnum v then enumShape path v else classShape path v) place v =
      if saysEnum v then foundAt enumShape place v else foundAt classShape place v :=
  apply_ite (toldFrom place) _ _ _

/-- Under a key that is neither the name nor the type, only the rules of its kind look at an entry. -/
theorem foundAt_entry {key : String} (hname : key ≠ "name") (htype : key ≠ "type") (rest : Path)
    (v : Value) : foundAt entry (.key key :: rest) v =
      if saysEnum v then foundAt enumShape (.key key :: rest) v
      else foundAt classShape (.key key :: rest) v := by
  have name : Step.key key ≠ .key "name" := by simpa using hname
  have type : Step.key key ≠ .key "type" := by simpa using htype
  simp only [entry, foundAt_all_cons, foundAt_all_nil, foundAt_ofType, foundAt_requires,
    foundAt_under_ne placeless_nameRule name, foundAt_under_ne (placeless_oneOf _) type, foundAt_kind,
    List.nil_append, List.append_nil]

theorem foundAt_entry_properties (e : Value) (j : Nat) (rest : Path) :
    foundAt entry (memberStep "properties" j ++ rest) e =
      (heldMembers "properties" e)[j]?.toList.flatMap fun p => foundAt property rest p := by
  rw [memberStep, List.cons_append, foundAt_entry (by decide) (by decide)]
  cases e with
  | object o =>
    cases henum : saysEnum (.object o) with
    | true =>
      have list : Placeless (all [ofType [.array], each enumValue]) :=
        placeless_all (by simp [placeless_ofType, placeless_each placeless_enumValue])
      simp [heldMembers, heldKeys, henum, enumShape, foundAt_all_cons, foundAt_all_nil,
        foundAt_requires, foundAt_under_ne (placeless_ofType _), foundAt_under_ne list]
    | false =>
      simp [heldMembers, heldKeys, henum, classShape, foundAt_listUnder placeless_property]
  | _ => rfl

theorem foundAt_entry_values (e : Value) (j : Nat) (rest : Path) :
    foundAt entry (memberStep "values" j ++ rest) e =
      (heldMembers "values" e)[j]?.toList.flatMap fun x => foundAt enumValue rest x := by
  rw [memberStep, List.cons_append, foundAt_entry (by decide) (by decide)]
  cases e with
  | object o =>
    cases henum : saysEnum (.object o) with
    | true =>
      simp [heldMembers, heldKeys, henum, enumShape, foundAt_all_cons, foundAt_all_nil,
        foundAt_requires, foundAt_under_ne (placeless_ofType _), foundAt_listUnder placeless_enumValue]
    | false =>
      have list : Placeless (all [ofType [.array], each property]) :=
        placeless_all (by simp [placeless_ofType, placeless_each placeless_property])
      simp [heldMembers, heldKeys, henum, classShape, foundAt_under_ne list]
  | _ => rfl

def aloneEntry (e : Value) : Value := .object [("dataTypes", .array [e])]

def aloneProperty (p : Value) : Value :=
  aloneEntry (.object [("name", .string "A"), ("properties", .array [p])])

def aloneValue (x : Value) : Value :=
  aloneEntry (.object [("name", .string "A"), ("type", .string "enum"), ("dataType", .string "A"),
    ("values", .array [x])])

theorem violations_aloneEntry (e : Value) :
    violations (aloneEntry e) = (entry [] e).map (·.within (entryPlace 0)) := by
  rw [← placeless_entry]
  simp [violations, aloneEntry, document, all, ofType, JsonType.holds, requires, Object.contains, under,
    Value.get?, Object.get?, List.lookup, each, entryPlace]

theorem violations_aloneProperty (p : Value) :
    violations (aloneProperty p) =
      (property [] p).map (·.within (memberPlace 0 "properties" 0)) := by
  have class_ : entry [] (.object [("name", .string "A"), ("properties", .array [p])]) =
      property (memberStep "properties" 0) p := by
    simp [entry, all, ofType, JsonType.holds, requires, Object.contains, under, nameRule, nonEmptyText,
      Value.get?, Object.get?, List.lookup, each, saysEnum, classShape, memberStep]
  rw [aloneProperty, violations_aloneEntry, class_, placeless_property, List.map_map]
  refine List.map_congr_left fun x _ => ?_
  simp [Violation.within, memberPlace]

theorem violations_aloneValue (x : Value) :
    violations (aloneValue x) = (enumValue [] x).map (·.within (memberPlace 0 "values" 0)) := by
  have enum_ : entry [] (.object [("name", .string "A"), ("type", .string "enum"),
      ("dataType", .string "A"), ("values", .array [x])]) = enumValue (memberStep "values" 0) x := by
    simp [entry, all, ofType, JsonType.holds, requires, Object.contains, under, nameRule, nonEmptyText,
      Value.get?, Object.get?, List.lookup, each, saysEnum, enumShape, oneOf, memberStep]
  rw [aloneValue, violations_aloneEntry, enum_, placeless_enumValue, List.map_map]
  refine List.map_congr_left fun x _ => ?_
  simp [Violation.within, memberPlace]

section

variable {o o' : Object}

theorem requires_congr {keys : List String}
    (same : ∀ key ∈ keys, Object.get? o key = Object.get? o' key) (path : Path) :
    requires keys path (.object o) = requires keys path (.object o') := by
  have there : ∀ key ∈ keys, (!Object.contains o key) = !Object.contains o' key := by
    intro key hkey
    rw [Bool.eq_iff_iff, Bool.not_eq_true', Bool.not_eq_true', ← Bool.not_eq_true, ← Bool.not_eq_true,
      Object.contains_iff_get?, Object.contains_iff_get?, same key hkey]
  simp only [requires, List.filter_congr there]

theorem under_congr {key : String} (same : Object.get? o key = Object.get? o' key) (rule : Rule)
    (path : Path) : under key rule path (.object o) = under key rule path (.object o') := by
  simp only [under, get?_object, same]

theorem entry_congr (same : ∀ key ∈ heldKeys o, Object.get? o key = Object.get? o' key) (path : Path) :
    entry path (.object o) = entry path (.object o') := by
  have name : Object.get? o "name" = Object.get? o' "name" :=
    same _ (by unfold heldKeys; split <;> simp)
  have type : Object.get? o "type" = Object.get? o' "type" :=
    same _ (by unfold heldKeys; split <;> simp)
  have kind : saysEnum (.object o) = saysEnum (.object o') := by
    simp only [saysEnum, get?_object, type]
  have shape : (if saysEnum (.object o) then enumShape path (.object o)
      else classShape path (.object o)) =
      if saysEnum (.object o') then enumShape path (.object o') else classShape path (.object o') := by
    rw [← kind]
    cases henum : saysEnum (.object o) with
    | true =>
      have keys : ∀ key ∈ ["dataType", "values"], Object.get? o key = Object.get? o' key :=
        fun key hkey => same key (by simp [heldKeys, henum] at hkey ⊢; tauto)
      simp only [if_true, enumShape, all, List.flatMap_cons, List.flatMap_nil, requires_congr keys,
        under_congr (keys "dataType" (by simp)), under_congr (keys "values" (by simp))]
    | false =>
      have properties := same "properties" (by simp [heldKeys, henum])
      simp only [Bool.false_eq_true, if_false, classShape, under_congr properties]
  have required : ∀ key ∈ ["name"], Object.get? o key = Object.get? o' key := by simpa using name
  have object (x : Object) : ofType [.object] path (.object x) = [] := ofType_object.mpr ⟨x, rfl⟩
  simp only [entry, all, List.flatMap_cons, List.flatMap_nil, object, requires_congr required,
    under_congr name, under_congr type, shape]

theorem get?_filter_keys (p : String → Bool) (o : Object) {key : String} (kept : p key = true) :
    Object.get? (o.filter fun e => p e.1) key = Object.get? o key := by
  induction o with
  | nil => rfl
  | cons e o ih =>
    rw [Object.get?_cons, List.filter_cons]
    by_cases h : key = e.1
    · subst h
      simp [kept, Object.get?_cons]
    · rw [if_neg h, ← ih]
      split
      · rw [Object.get?_cons, if_neg h]
      · rfl

end

/-- The violations of a document, part by part: under the place of an entry, or of a member of one,
lie those that it has alone, in the same order, told from where it stands. -/
structure FoundByPart (o : Object) : Prop where
  entry : ∀ i, foundUnder (entryPlace i) (violations (.object o)) =
    (Object.items o "dataTypes")[i]?.toList.flatMap fun e =>
      (violations (aloneEntry e)).map (·.moved (entryPlace 0) (entryPlace i))
  property : ∀ i j, foundUnder (memberPlace i "properties" j) (violations (.object o)) =
    (Object.items o "dataTypes")[i]?.toList.flatMap fun e =>
      (heldMembers "properties" e)[j]?.toList.flatMap fun p =>
        (violations (aloneProperty p)).map
          (·.moved (memberPlace 0 "properties" 0) (memberPlace i "properties" j))
  value : ∀ i j, foundUnder (memberPlace i "values" j) (violations (.object o)) =
    (Object.items o "dataTypes")[i]?.toList.flatMap fun e =>
      (heldMembers "values" e)[j]?.toList.flatMap fun x =>
        (violations (aloneValue x)).map
          (·.moved (memberPlace 0 "values" 0) (memberPlace i "values" j))

theorem map_moved_within (old new : Path) (found : List Violation) :
    (found.map (·.within old)).map (·.moved old new) = found.map (·.within new) := by
  rw [List.map_map]
  exact List.map_congr_left fun x _ => Violation.moved_within old new x

theorem foundUnder_document (place : Path) (o : Object) :
    foundUnder place (violations (.object o)) =
      (foundAt document place (.object o)).map (·.within place) :=
  foundUnder_eq place _

theorem foundByPart (o : Object) : FoundByPart o where
  entry i := by
    have parts := foundAt_document o i []
    rw [List.append_nil] at parts
    simp only [foundUnder_document, parts, List.map_flatMap, foundAt_nil, violations_aloneEntry,
      map_moved_within]
  property i j := by
    have parts := foundAt_document o i (memberStep "properties" j)
    have members (e : Value) := foundAt_entry_properties e j []
    simp only [List.append_nil] at members
    simp only [foundUnder_document, memberPlace, parts, members, List.map_flatMap, foundAt_nil]
    simp only [violations_aloneProperty, memberPlace, map_moved_within]
  value i j := by
    have parts := foundAt_document o i (memberStep "values" j)
    have members (e : Value) := foundAt_entry_values e j []
    simp only [List.append_nil] at members
    simp only [foundUnder_document, memberPlace, parts, members, List.map_flatMap, foundAt_nil]
    simp only [violations_aloneValue, memberPlace, map_moved_within]

/-- A part that stands alone has no violation just when it has its shape, and an entry may hold
anything under keys that its kind has no rules for. -/
structure AloneByShape : Prop where
  entry : ∀ e, violations (aloneEntry e) = [] ↔ ObjectOf EntryShape e
  property : ∀ p, violations (aloneProperty p) = [] ↔ ObjectOf PropertyShape p
  value : ∀ x, violations (aloneValue x) = [] ↔ ObjectOf EnumValueShape x
  free : ∀ o : Object, violations (aloneEntry (.object o)) =
    violations (aloneEntry (.object (o.filter fun e => decide (e.1 ∈ heldKeys o))))

theorem aloneByShape : AloneByShape where
  entry e := by rw [violations_aloneEntry, List.map_eq_nil_iff, entry_eq_nil]
  property p := by rw [violations_aloneProperty, List.map_eq_nil_iff, property_eq_nil]
  value x := by rw [violations_aloneValue, List.map_eq_nil_iff, enumValue_eq_nil]
  free o := by
    rw [violations_aloneEntry, violations_aloneEntry]
    refine congrArg _ (entry_congr (fun key hkey => ?_) [])
    exact (get?_filter_keys (fun key => decide (key ∈ heldKeys o)) o (by simpa using hkey)).symm

/-- Every violation of every part of a document is found, whatever the other parts are: each part has
those that it has alone, and where there are any the document is refused with all of them. -/
theorem violations_part_by_part (o : Object) : FoundByPart o ∧ AloneByShape ∧
    (ObjectOf DocumentShape (.object o) ∨ ∀ alphabetize file,
      Document.ofValue alphabetize file (.object o) =
        .error (.structure file ((violations (.object o)).map (·.text)))) := by
  refine ⟨foundByPart o, aloneByShape, ?_⟩
  by_cases h : violations (.object o) = []
  · exact .inl (violations_eq_nil.mp h)
  · exact .inr fun alphabetize file => Document.ofValue_of_violations alphabetize file h

end SchemaForge.Structure
