import SchemaForge.Proofs.Schema.Reading

/-! The extras of what a document holds, and their order. The extras of a property or of an enum value
stand in the order of the document. Those of an entry do so unless the entry has a type: taking the type
out moves the last key of the entry into its place, and the extras follow. -/

namespace SchemaForge

open Json (Object Value)

namespace Json.Object

variable {before mid after o : Object} {key : String} {v : Value} {last : String × Value}

theorem eraseSwap_of_not_mem (absent : key ∉ keys o) : eraseSwap o key = o := by
  induction o with
  | nil => rfl
  | cons e o ih =>
    obtain ⟨other, absent⟩ := List.ne_and_not_mem_of_not_mem_cons absent
    have hb : (e.1 == key) = false := beq_eq_false_iff_ne.mpr other.symm
    rw [eraseSwap, hb, if_neg Bool.false_ne_true, ih absent]

theorem eraseSwap_behind (absent : key ∉ keys before) :
    eraseSwap (before ++ after) key = before ++ eraseSwap after key := by
  induction before with
  | nil => rfl
  | cons e before ih =>
    obtain ⟨other, absent⟩ := List.ne_and_not_mem_of_not_mem_cons absent
    have hb : (e.1 == key) = false := beq_eq_false_iff_ne.mpr other.symm
    rw [List.cons_append, eraseSwap, hb, if_neg Bool.false_ne_true, ih absent, List.cons_append]

theorem eraseSwap_at_end (absent : key ∉ keys before) :
    eraseSwap (before ++ [(key, v)]) key = before := by
  rw [eraseSwap_behind absent, eraseSwap, beq_self_eq_true, if_pos rfl]
  exact List.append_nil before

theorem eraseSwap_between (absent : key ∉ keys before) :
    eraseSwap (before ++ (key, v) :: (mid ++ [last])) key = before ++ last :: mid := by
  rw [eraseSwap_behind absent, eraseSwap, beq_self_eq_true, if_pos rfl, List.getLast?_concat]
  dsimp only
  rw [List.dropLast_concat]

/-- A key that is there stands somewhere for the first time: nowhere, at the end, or in front of a last
entry. -/
theorem place_cases (o : Object) (key : String) :
    key ∉ keys o ∨ (∃ before v, o = before ++ [(key, v)] ∧ key ∉ keys before) ∨
      ∃ before v mid last, o = before ++ (key, v) :: (mid ++ [last]) ∧ key ∉ keys before := by
  by_cases present : key ∈ keys o
  · right
    obtain ⟨first, rest, hkeys, absent⟩ := List.eq_append_cons_of_mem present
    obtain ⟨before, after, rfl, rfl, hafter⟩ := List.map_eq_append_iff.mp hkeys
    obtain ⟨⟨k, v⟩, after, rfl, rfl, rfl⟩ := List.map_eq_cons_iff.mp hafter
    rcases List.eq_nil_or_concat after with rfl | ⟨mid, last, rfl⟩
    · exact .inl ⟨before, v, rfl, absent⟩
    · exact .inr ⟨before, v, mid, last, by rw [List.concat_eq_append], absent⟩
  · exact .inl present

def Displaces (kind : String × Value → Bool) (key : String) (o : Object) : Prop :=
  ∃ before v mid last, o = before ++ (key, v) :: (mid ++ [last]) ∧ kind last = true ∧
    ∃ e ∈ mid, kind e = true

theorem Distinct.absent_before (distinct : Distinct (before ++ (key, v) :: after)) :
    key ∉ keys before := by
  intro hmem
  rw [Distinct, keys, List.map_append] at distinct
  exact (List.nodup_append.mp distinct).2.2 key hmem key List.mem_cons_self rfl

theorem filter_eraseSwap_iff {kind : String × Value → Bool} (distinct : Distinct o)
    (outside : ∀ v, kind (key, v) = false) :
    (eraseSwap o key).filter kind = o.filter kind ↔ ¬ Displaces kind key o := by
  constructor
  · rintro same ⟨before, v, mid, last, rfl, hlast, e, hmid, he⟩
    rw [eraseSwap_between distinct.absent_before] at same
    simp only [List.filter_append, List.filter_cons, outside, hlast, Bool.false_eq_true, if_false,
      if_true, List.filter_nil, List.append_cancel_left_eq] at same
    -- The entry that is moved would have to be the first of those that it is moved past.
    obtain ⟨first, rest, hfirst⟩ := List.exists_cons_of_ne_nil
      (List.ne_nil_of_mem (List.mem_filter.mpr ⟨hmid, he⟩))
    rw [hfirst, List.cons_append] at same
    have twice : last ∈ mid := by
      rw [(List.cons.inj same).1]
      exact (List.mem_filter.mp (hfirst ▸ List.mem_cons_self)).1
    have nodup : (mid ++ [last]).Nodup := by
      have all := List.Nodup.of_map _ distinct
      exact (List.nodup_cons.mp (List.nodup_append.mp all).2.1).2
    exact (List.nodup_append.mp nodup).2.2 last twice last List.mem_cons_self rfl
  · intro inPlace
    rcases place_cases o key with absent | ⟨before, v, rfl, absent⟩ | ⟨before, v, mid, last, rfl, absent⟩
    · rw [eraseSwap_of_not_mem absent]
    · rw [eraseSwap_at_end absent]
      simp [outside]
    · rw [eraseSwap_between absent]
      cases hlast : kind last with
      | false => simp [outside, hlast]
      | true =>
        have none : mid.filter kind = [] := List.filter_eq_nil_iff.mpr fun e hmid he =>
          inPlace ⟨before, v, mid, last, rfl, hlast, e, hmid, he⟩
        simp [outside, hlast, none]

end Json.Object

def Kind.takenKeys : Kind → List String
  | .cls => "type" :: Decode.classKeys
  | .enum => "type" :: Decode.enumKeys

def Kind.memberKey : Kind → String
  | .cls => "properties"
  | .enum => "values"

def Kind.memberKeys : Kind → List String
  | .cls => Decode.propertyKeys
  | .enum => Decode.enumValueKeys

theorem Kind.takenKeys_eq (kind : Kind) : ∃ modeled, kind.takenKeys = "type" :: modeled := by
  cases kind <;> exact ⟨_, rfl⟩

def isFree (taken : List String) (e : String × Value) : Bool := decide (e.1 ∉ taken)

def freeEntries (taken : List String) (o : Object) : Object := o.filter (isFree taken)

section Removal

variable {modeled : List String} {o : Object}

theorem isFree_type (v : Value) : isFree ("type" :: modeled) ("type", v) = false := by
  simp [isFree]

theorem filter_eraseSwap_type (distinct : Object.Distinct o) :
    (Object.eraseSwap o "type").filter (fun e => decide (e.1 ∉ modeled)) =
      freeEntries ("type" :: modeled) (Object.eraseSwap o "type") := by
  refine List.filter_congr fun e he => ?_
  have other : e.1 ≠ "type" := ((Object.mem_eraseSwap distinct).mp he).2
  simp [isFree, other]

theorem freeEntries_eraseSwap_perm (distinct : Object.Distinct o) :
    (freeEntries ("type" :: modeled) (Object.eraseSwap o "type")).Perm
      (freeEntries ("type" :: modeled) o) := by
  have left : freeEntries ("type" :: modeled) (Object.erase o "type") =
      freeEntries ("type" :: modeled) o := by
    rw [freeEntries, Object.erase, List.filter_filter]
    refine List.filter_congr fun e _ => ?_
    by_cases other : e.1 = "type" <;> simp [isFree, other]
  exact left ▸ (Object.eraseSwap_perm distinct "type").filter _

end Removal

def DataType.memberExtras : DataType → List Object
  | .cls c => c.properties.map (·.extra)
  | .enum e => e.values.map (·.extra)

namespace Document

/-- The extras that a data type and its members have of an entry. Where the type of the entry is not the
last of its keys, the last one stands in its place. -/
structure ExtrasRead (alphabetize : Bool) (o : Object) (d : DataType) : Prop where
  kind : d.kind = .enum ↔ IsEnum (.object o)
  kept : d.extra.Perm (freeEntries d.kind.takenKeys o)
  inOrder : d.extra = freeEntries d.kind.takenKeys o ↔
    ¬ Object.Displaces (isFree d.kind.takenKeys) "type" o
  moved : ∀ before t mid last, o = before ++ ("type", t) :: (mid ++ [last]) →
    d.extra = freeEntries d.kind.takenKeys (before ++ last :: mid)
  members : ∃ d₀ : DataType, d = d₀.ordered alphabetize ∧
    List.Forall₂ (fun v extra => ∃ p, v = .object p ∧ extra = freeEntries d.kind.memberKeys p)
      (Object.items o d.kind.memberKey) d₀.memberExtras

variable {o : Object} {d : DataType}

theorem ReadFrom.kind (h : ReadFrom o d) : d.kind = .enum ↔ IsEnum (.object o) := by
  cases h with
  | cls isClass => exact ⟨nofun, fun isEnum => absurd isEnum isClass⟩
  | enum isEnum => exact ⟨fun _ => isEnum, fun _ => rfl⟩

theorem ReadFrom.extra (distinct : Object.Distinct o) (h : ReadFrom o d) :
    d.extra = freeEntries d.kind.takenKeys (Object.eraseSwap o "type") := by
  cases h with
  | cls _ fields => exact fields.extra.trans (filter_eraseSwap_type distinct)
  | enum _ fields => exact fields.extra.trans (filter_eraseSwap_type distinct)

theorem ReadFrom.memberExtras (hkeys : (Value.object o).WellKeyed) (h : ReadFrom o d) :
    List.Forall₂ (fun v extra => ∃ p, v = .object p ∧ extra = freeEntries d.kind.memberKeys p)
      (Object.items o d.kind.memberKey) d.memberExtras := by
  have distinct := hkeys.distinct
  cases h with
  | cls _ fields =>
    have read := fields.properties
    rw [items_eraseSwap distinct (by decide)] at read
    refine List.forall₂_map_right_iff.mpr (Outcome.forall₂_of_mem read fun v hv p hp => ?_)
    obtain ⟨q, rfl, fields⟩ := Decode.propertyFrom_of_ok hp
    exact ⟨q, rfl, (fields (hkeys.of_mem_items hv).distinct).extra⟩
  | enum _ fields =>
    have read := fields.values
    rw [items_eraseSwap distinct (by decide)] at read
    refine List.forall₂_map_right_iff.mpr (Outcome.forall₂_of_mem read fun v hv x hx => ?_)
    obtain ⟨q, rfl, fields⟩ := Decode.enumValueFrom_of_ok hx
    exact ⟨q, rfl, (fields (hkeys.of_mem_items hv).distinct).extra⟩

theorem extra_ordered (alphabetize : Bool) (d : DataType) : (d.ordered alphabetize).extra = d.extra := by
  cases alphabetize with
  | false => rfl
  | true => cases d <;> rfl

theorem kind_ordered (alphabetize : Bool) (d : DataType) : (d.ordered alphabetize).kind = d.kind := by
  cases alphabetize with
  | false => rfl
  | true => cases d <;> rfl

theorem extrasRead_of_readFrom (alphabetize : Bool) (hkeys : (Value.object o).WellKeyed)
    (h : ReadFrom o d) : ExtrasRead alphabetize o (d.ordered alphabetize) := by
  have distinct := hkeys.distinct
  have extra := h.extra distinct
  have members := h.memberExtras hkeys
  have kind := h.kind
  obtain ⟨modeled, taken⟩ := d.kind.takenKeys_eq
  rw [← kind_ordered alphabetize] at extra members kind taken
  rw [← extra_ordered alphabetize] at extra
  refine ⟨kind, ?_, ?_, fun before t mid last ho => ?_, d, rfl, members⟩
  · rw [extra, taken]
    exact freeEntries_eraseSwap_perm distinct
  · rw [extra, taken]
    exact Object.filter_eraseSwap_iff distinct isFree_type
  · subst ho
    rw [extra, Object.eraseSwap_between distinct.absent_before]

/-- The extras that a document leaves: all keys without a meaning, and no others. Members have them in
the order of the document, entries unless their type is taken out from in front of them. -/
theorem parse_extras {alphabetize : Bool} {source : Source} {s : Schema}
    (h : parse alphabetize source = .ok s) :
    ∃ v, read source.name source.contents = .ok v ∧
      List.Forall₂ (fun entry d => ∃ o, entry = .object o ∧ ExtrasRead alphabetize o d)
        (itemsAt "dataTypes" v) s.dataTypes := by
  obtain ⟨v, hread, h⟩ := Outcome.bind_eq_ok.mp h
  obtain ⟨_, -, -, entries⟩ := ofValue_readsAs (wellKeyed_of_read hread) h
  refine ⟨v, hread, entries.imp ?_⟩
  rintro _ _ ⟨o, d, rfl, hkeys, readFrom, -, rfl⟩
  exact ⟨o, rfl, extrasRead_of_readFrom alphabetize hkeys readFrom⟩

def userEntry : Object :=
  [("type", .string "class"), ("name", .string "User"), ("table", .string "users"),
    ("key", .string "id")]

def user : Source := ⟨"user.json",
  "\x7b\"dataTypes\": [\x7b\"type\": \"class\", \"name\": \"User\", \"table\": \"users\", " ++
    "\"key\": \"id\"\x7d]\x7d"⟩

def userType : DataType := .cls ⟨"User", [], [("key", .string "id"), ("table", .string "users")]⟩

theorem read_user :
    read user.name user.contents = .ok (.object [("dataTypes", .array [.object userEntry])]) := by
  cbv

theorem parse_user : parse false user = .ok ⟨"", [userType]⟩ := by
  rw [parse_eq_ofValue read_user]
  rfl

theorem parse_extras_of_user : ∃ v, read user.name user.contents = .ok v ∧
    List.Forall₂ (fun entry d => ∃ o, entry = .object o ∧ ExtrasRead false o d)
      (itemsAt "dataTypes" v) [userType] :=
  parse_extras parse_user

theorem type_in_front_moves_extras :
    read user.name user.contents = .ok (.object [("dataTypes", .array [.object userEntry])]) ∧
      parse false user = .ok ⟨"", [userType]⟩ ∧
      userType.extra ≠ freeEntries userType.kind.takenKeys userEntry := by
  refine ⟨read_user, parse_user, fun same => ?_⟩
  have document : freeEntries userType.kind.takenKeys userEntry =
      [("table", .string "users"), ("key", .string "id")] := rfl
  have first := (Prod.mk.inj (List.cons.inj (same.trans document)).1).1
  exact absurd first (by decide)

end Document

end SchemaForge
