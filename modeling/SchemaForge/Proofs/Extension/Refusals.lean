import SchemaForge.Proofs.Extension.Entries
import SchemaForge.Proofs.Extension.RoundTrip

/-! Which results are accepted and how the others are refused. A result of a type that its kind does not
take is named in the error. A table is taken if all that is read of it has a JSON form, at whatever
depth: only then its shape counts. -/

namespace SchemaForge.Extension

open Json (Object)
open Script (Heap Table)
open Text (Utf8.decode Utf8.ofString_of_decode)

def Legible (v : Script.Value) : Prop := ∃ b s, v = .string b ∧ Utf8.decode b = .ok s

/-- The values that are read where a table is converted, each with the tables around it. A table that
stands in itself is not read again. -/
inductive Read (h : Heap) (top : Nat) : List Nat → Script.Value → Prop
  | top : Read h top [] (.table top)
  | item {around : List Nat} {place : Nat} {v : Script.Value}
      (outer : Read h top around (.table place)) (fresh : place ∉ around)
      (asList : isList (h.table place) = true) (inside : v ∈ (h.table place).sequence) :
      Read h top (place :: around) v
  | field {around : List Nat} {place : Nat} {key v : Script.Value}
      (outer : Read h top around (.table place)) (fresh : place ∉ around)
      (asRecord : isList (h.table place) = false) (inside : (key, v) ∈ (h.table place).pairs) :
      Read h top (place :: around) v

/-- What has no JSON form: a function, a coroutine, a file or an error, a table that stands in itself, a
text that is no UTF-8, and a record with a key that is no legible text. -/
inductive Unconvertible (h : Heap) (around : List Nat) : Script.Value → Prop
  | unsupported {v : Script.Value}
      (type : v.exactTypeName ∈ ["function", "thread", "userdata", "error"]) : Unconvertible h around v
  | recursive {place : Nat} (again : place ∈ around) : Unconvertible h around (.table place)
  | bytes {b : Text.Utf8.Bytes} (illegible : ¬ Legible (.string b)) : Unconvertible h around (.string b)
  | key {place : Nat} {key v : Script.Value} (asRecord : isList (h.table place) = false)
      (inside : (key, v) ∈ (h.table place).pairs) (illegible : ¬ Legible key) :
      Unconvertible h around (.table place)

def Spoilt (h : Heap) (top : Nat) : Prop := ∃ around v, Read h top around v ∧ Unconvertible h around v

section Steps

variable {h : Heap} {depth : Nat} {around : List Nat}

theorem legible_string {b : Text.Utf8.Bytes} : Legible (.string b) ↔ ∃ s, Utf8.decode b = .ok s := by
  constructor
  · rintro ⟨_, s, ⟨⟩, decodes⟩
    exact ⟨s, decodes⟩
  · rintro ⟨s, decodes⟩
    exact ⟨b, s, rfl, decodes⟩

theorem exists_entriesToJson {entries : List (Script.Value × Script.Value)} (first : Bool) :
    (∃ o, entriesToJson h around (valueToJson h depth around) first entries = .ok o) ↔
      ∀ e ∈ entries, Legible e.1 ∧ ∃ w, valueToJson h depth around e.2 = .ok w := by
  induction entries generalizing first with
  | nil => simp [entriesToJson]
  | cons e entries ih =>
    obtain ⟨key, v⟩ := e
    rw [List.forall_mem_cons, ← ih false]
    constructor
    · rintro ⟨o, reads⟩
      obtain ⟨b, name, w, others, rfl, decodes, hw, hothers, -⟩ := entriesToJson_cons_eq_ok reads
      exact ⟨⟨⟨b, name, rfl, decodes⟩, w, hw⟩, others, hothers⟩
    · rintro ⟨⟨⟨b, name, text, decodes⟩, w, hw⟩, others, hothers⟩
      dsimp only at text hw
      obtain rfl : key = .text name := by rw [text, ← Utf8.ofString_of_decode decodes, Script.Value.text]
      exact ⟨_, entriesToJson_text first hw hothers⟩

/-- A table inside of others is converted just when it is none of them and all that it holds is. -/
theorem exists_tableValue {place : Nat} :
    (∃ w, valueToJson h (depth + 1) around (.table place) = .ok w) ↔ place ∉ around ∧
      (isList (h.table place) = true → ∀ v ∈ (h.table place).sequence,
        ∃ w, valueToJson h depth (place :: around) v = .ok w) ∧
      (isList (h.table place) = false → ∀ e ∈ (h.table place).pairs, Legible e.1 ∧
        ∃ w, valueToJson h depth (place :: around) e.2 = .ok w) := by
  rw [← Outcome.exists_mapM_eq_ok, ← exists_entriesToJson true]
  unfold valueToJson
  simp only [Outcome.ite_error_eq_ok, List.contains_eq_mem, decide_eq_true_eq]
  cases isList (h.table place) <;> simp [Outcome.map_eq_ok]

theorem not_unconvertible {v : Script.Value}
    (type : v.exactTypeName ∉ ["function", "thread", "userdata", "error", "string", "table"]) :
    ¬ Unconvertible h around v := by
  intro bad
  cases bad with
  | unsupported bad => exact type (by simp_all only [List.mem_cons, List.not_mem_nil, or_false]; tauto)
  | recursive | bytes | key => simp [Script.Value.exactTypeName, Script.Value.typeName] at type

theorem exists_plainValue {v : Script.Value} (plain : ∀ place, v ≠ .table place) :
    (∃ w, valueToJson h depth around v = .ok w) ↔ ¬ Unconvertible h around v := by
  have simple {v : Script.Value} {w : Json.Value} (reads : valueToJson h depth around v = .ok w)
      (type : v.exactTypeName ∉ ["function", "thread", "userdata", "error", "string", "table"]) :
      (∃ w, valueToJson h depth around v = .ok w) ↔ ¬ Unconvertible h around v :=
    ⟨fun _ => not_unconvertible type, fun _ => ⟨w, reads⟩⟩
  have refused {v : Script.Value} (reads : ∀ w, valueToJson h depth around v ≠ .ok w)
      (type : v.exactTypeName ∈ ["function", "thread", "userdata", "error"]) :
      (∃ w, valueToJson h depth around v = .ok w) ↔ ¬ Unconvertible h around v :=
    ⟨fun ⟨w, hw⟩ => absurd hw (reads w), fun good => absurd (.unsupported type) good⟩
  cases v with
  | table place => exact absurd rfl (plain place)
  | nil => exact simple (by rw [valueToJson]) (by simp [Script.Value.exactTypeName, Script.Value.typeName])
  | bool b =>
    exact simple (by rw [valueToJson]) (by simp [Script.Value.exactTypeName, Script.Value.typeName])
  | number n =>
    cases n with
    | int i =>
      exact simple (by rw [valueToJson]) (by simp [Script.Value.exactTypeName])
    | float x =>
      exact simple (by rw [valueToJson]) (by simp [Script.Value.exactTypeName, Script.Value.typeName])
  | string b =>
    have legible : (∃ w, valueToJson h depth around (.string b) = .ok w) ↔ Legible (.string b) := by
      rw [legible_string, valueToJson]
      cases Utf8.decode b <;> simp
    rw [legible]
    refine ⟨fun good bad => ?_, fun good => not_not.mp fun bad => good (.bytes bad)⟩
    cases bad with
    | unsupported type => simp [Script.Value.exactTypeName, Script.Value.typeName] at type
    | bytes bad => exact bad good
  | closure | builtin | host | failure | thread | file =>
    exact refused (by simp [valueToJson]) (by simp [Script.Value.exactTypeName, Script.Value.typeName])

end Steps

section Reading

variable {h : Heap} {top : Nat} {around : List Nat} {v : Script.Value}

theorem Read.converted (reads : Read h top around v)
    (whole : ∃ w, valueToJson h (h.tables.size + 1) [] (.table top) = .ok w) :
    ∃ depth w, valueToJson h depth around v = .ok w := by
  induction reads with
  | top => exact ⟨_, whole⟩
  | item _ _ asList inside ih =>
    obtain ⟨depth, w, hw⟩ := ih
    cases depth with
    | zero => simp [valueToJson] at hw
    | succ depth => exact ⟨depth, (exists_tableValue.mp ⟨w, hw⟩).2.1 asList _ inside⟩
  | field _ _ asRecord inside ih =>
    obtain ⟨depth, w, hw⟩ := ih
    cases depth with
    | zero => simp [valueToJson] at hw
    | succ depth => exact ⟨depth, ((exists_tableValue.mp ⟨w, hw⟩).2.2 asRecord _ inside).2⟩

theorem not_unconvertible_of_converted {depth : Nat} {w : Json.Value}
    (reads : valueToJson h depth around v = .ok w) : ¬ Unconvertible h around v := by
  by_cases plain : ∀ place, v ≠ .table place
  · exact (exists_plainValue plain).mp ⟨w, reads⟩
  · simp only [not_forall, not_not] at plain
    obtain ⟨place, rfl⟩ := plain
    cases depth with
    | zero => simp [valueToJson] at reads
    | succ depth =>
      obtain ⟨fresh, -, fields⟩ := exists_tableValue.mp ⟨w, reads⟩
      rintro (type | again | - | ⟨asRecord, inside, illegible⟩)
      · simp [Script.Value.exactTypeName, Script.Value.typeName] at type
      · exact fresh again
      · exact illegible (fields asRecord _ inside).1

theorem place_lt {place : Nat}
    (holds : (h.table place).sequence ≠ [] ∨ (h.table place).pairs ≠ []) : place < h.tables.size := by
  by_contra outside
  have empty : h.table place = default := by simp [Heap.table, Nat.le_of_not_lt outside]
  rw [empty] at holds
  rcases holds with holds | holds <;> exact holds rfl

theorem Read.around_inside (reads : Read h top around v) :
    around.Nodup ∧ ∀ place ∈ around, place < h.tables.size := by
  induction reads with
  | top => exact ⟨List.nodup_nil, nofun⟩
  | item _ fresh _ inside ih =>
    have there := place_lt (.inl (List.ne_nil_of_mem inside))
    exact ⟨List.nodup_cons.mpr ⟨fresh, ih.1⟩, List.forall_mem_cons.mpr ⟨there, ih.2⟩⟩
  | field _ fresh _ inside ih =>
    have there := place_lt (.inr (List.ne_nil_of_mem inside))
    exact ⟨List.nodup_cons.mpr ⟨fresh, ih.1⟩, List.forall_mem_cons.mpr ⟨there, ih.2⟩⟩

theorem Read.length_around (reads : Read h top around v) : around.length ≤ h.tables.size := by
  obtain ⟨nodup, inside⟩ := reads.around_inside
  have sub : around ⊆ List.range h.tables.size := fun place hplace => List.mem_range.mpr (inside place hplace)
  simpa using (List.subperm_of_subset nodup sub).length_le

/-- A value is converted if nothing that is read of the whole table has no JSON form. The depth never
runs out, since it counts the tables that are not around the value. -/
theorem Read.converts (sound : ¬ Spoilt h top) {depth : Nat} (reads : Read h top around v)
    (deep : depth + around.length = h.tables.size + 1) :
    ∃ w, valueToJson h depth around v = .ok w := by
  have good {around : List Nat} {v : Script.Value} (reads : Read h top around v) :
      ¬ Unconvertible h around v := fun bad => sound ⟨around, v, reads, bad⟩
  induction depth generalizing around v with
  | zero =>
    have bound := reads.length_around
    omega
  | succ depth ih =>
    by_cases plain : ∀ place, v ≠ .table place
    · exact (exists_plainValue plain).mpr (good reads)
    · simp only [not_forall, not_not] at plain
      obtain ⟨place, rfl⟩ := plain
      have fresh : place ∉ around := fun again => good reads (.recursive again)
      have deeper : depth + (place :: around).length = h.tables.size + 1 := by
        rw [List.length_cons]
        omega
      refine exists_tableValue.mpr ⟨fresh, fun asList v inside => ?_, fun asRecord e inside => ⟨?_, ?_⟩⟩
      · exact ih (reads.item fresh asList inside) deeper
      · by_contra illegible
        exact good reads (.key asRecord inside illegible)
      · exact ih (reads.field fresh asRecord inside) deeper

theorem exists_tableToJson : (∃ w, tableToJson h top = .ok w) ↔ ¬ Spoilt h top := by
  have whole : (∃ w, tableToJson h top = .ok w) ↔
      ∃ w, valueToJson h (h.tables.size + 1) [] (.table top) = .ok w := by
    unfold tableToJson
    cases valueToJson h (h.tables.size + 1) [] (.table top) <;> simp
  rw [whole]
  constructor
  · rintro converted ⟨around, v, reads, bad⟩
    obtain ⟨depth, w, hw⟩ := reads.converted converted
    exact not_unconvertible_of_converted hw bad
  · intro sound
    exact Read.converts sound .top rfl

/-- A list becomes an array and a record becomes an object, with nothing in it just when nothing is
read. -/
theorem tableToJson_shape {w : Json.Value} (reads : tableToJson h top = .ok w) :
    (isList (h.table top) = true ∧
      ∃ items, w = .array items ∧ (items = [] ↔ (h.table top).sequence = [])) ∨
    (isList (h.table top) = false ∧ ∃ o, w = .object o ∧ (o = [] ↔ (h.table top).pairs = [])) := by
  unfold tableToJson at reads
  split at reads
  · next hw =>
    obtain rfl := Except.ok.inj reads
    unfold valueToJson at hw
    simp only [Outcome.ite_error_eq_ok] at hw
    cases hlist : isList (h.table top) with
    | true =>
      simp only [hlist, if_true, Outcome.map_eq_ok] at hw
      obtain ⟨-, items, hitems, rfl⟩ := hw
      have length := (Outcome.mapM_eq_ok.mp hitems).length_eq
      refine .inl ⟨rfl, items, rfl, ?_⟩
      rw [← List.length_eq_zero_iff, ← length, List.length_eq_zero_iff]
    | false =>
      simp only [hlist, Bool.false_eq_true, if_false, Outcome.map_eq_ok] at hw
      obtain ⟨-, o, ho, rfl⟩ := hw
      refine .inr ⟨rfl, o, rfl, ?_⟩
      cases hpairs : (h.table top).pairs with
      | nil =>
        rw [hpairs] at ho
        simpa using (Except.ok.inj ho).symm
      | cons e rest =>
        rw [hpairs] at ho
        obtain ⟨_, _, _, _, -, -, -, -, rfl⟩ := entriesToJson_cons_eq_ok ho
        simp
  · cases reads

theorem tableToJson_cases (h : Heap) (top : Nat) :
    (Spoilt h top ∧ ∃ cause, tableToJson h top = .error (.conversion cause)) ∨
      (¬ Spoilt h top ∧ ∃ w, tableToJson h top = .ok w) := by
  cases hresult : tableToJson h top with
  | ok w => exact .inr ⟨exists_tableToJson.mp ⟨w, hresult⟩, w, rfl⟩
  | error e =>
    refine .inl ⟨not_not.mp fun sound => ?_, ?_⟩
    · obtain ⟨w, hw⟩ := exists_tableToJson.mpr sound
      cases hresult.symm.trans hw
    · unfold tableToJson at hresult
      split at hresult
      · cases hresult
      · exact ⟨_, congrArg _ (Except.error.inj hresult).symm⟩

end Reading

inductive OfKind : ResultKind → Json.Value → Prop
  | array (items : List Json.Value) : OfKind .array (.array items)
  | boolean (b : Bool) : OfKind .boolean (.bool b)
  | date (s : String) : OfKind .date (.string s)
  | number (n : Json.Number) : OfKind .number (.number n)
  | object (o : Object) : OfKind .object (.object o)
  | string (s : String) : OfKind .string (.string s)

def ResultKind.takes : ResultKind → List String
  | .array => ["table"]
  | .boolean => ["boolean"]
  | .date => ["integer", "number", "string"]
  | .number => ["integer", "number"]
  | .object => ["table"]
  | .string => ["string", "integer", "number", "boolean"]

section Tables

variable (h : Heap) (place : Nat)

theorem array_convert_table :
    (Spoilt h place ∧ ∃ cause,
      ResultKind.array.convert h (.table place) = .error (.conversion cause)) ∨
    (¬ Spoilt h place ∧ (isList (h.table place) = true ∨ (h.table place).pairs = []) ∧ ∃ items,
      ResultKind.array.convert h (.table place) = .ok (.array items)) ∨
    (¬ Spoilt h place ∧ ¬ (isList (h.table place) = true ∨ (h.table place).pairs = []) ∧
      ResultKind.array.convert h (.table place) = .error (.mismatch .array "keyed table")) := by
  rcases tableToJson_cases h place with ⟨spoilt, cause, hcause⟩ | ⟨sound, w, hw⟩
  · exact .inl ⟨spoilt, cause, by simp [ResultKind.convert, hcause, bind, Except.bind]⟩
  · right
    rcases tableToJson_shape hw with ⟨hlist, items, rfl, -⟩ | ⟨hlist, o, rfl, empty⟩
    · exact .inl ⟨sound, .inl hlist, items, by simp [ResultKind.convert, hw, bind, Except.bind]⟩
    · cases o with
      | nil =>
        exact .inl ⟨sound, .inr (empty.mp rfl), [], by
          simp [ResultKind.convert, hw, bind, Except.bind]⟩
      | cons e o =>
        exact .inr ⟨sound, by simpa [hlist] using empty, by
          simp [ResultKind.convert, hw, bind, Except.bind]⟩

theorem object_convert_table :
    (Spoilt h place ∧ ∃ cause,
      ResultKind.object.convert h (.table place) = .error (.conversion cause)) ∨
    (¬ Spoilt h place ∧ (isList (h.table place) = false ∨ (h.table place).sequence = []) ∧ ∃ o,
      ResultKind.object.convert h (.table place) = .ok (.object o)) ∨
    (¬ Spoilt h place ∧ ¬ (isList (h.table place) = false ∨ (h.table place).sequence = []) ∧
      ResultKind.object.convert h (.table place) = .error (.mismatch .object "sequence table")) := by
  rcases tableToJson_cases h place with ⟨spoilt, cause, hcause⟩ | ⟨sound, w, hw⟩
  · exact .inl ⟨spoilt, cause, by simp [ResultKind.convert, hcause, bind, Except.bind]⟩
  · right
    rcases tableToJson_shape hw with ⟨hlist, items, rfl, empty⟩ | ⟨hlist, o, rfl, -⟩
    · cases items with
      | nil =>
        exact .inl ⟨sound, .inr (empty.mp rfl), [], by
          simp [ResultKind.convert, hw, bind, Except.bind]⟩
      | cons item items =>
        exact .inr ⟨sound, by simpa [hlist] using empty, by
          simp [ResultKind.convert, hw, bind, Except.bind]⟩
    · exact .inl ⟨sound, .inl hlist, o, by simp [ResultKind.convert, hw, bind, Except.bind]⟩

end Tables

theorem convert_of_type {h : Heap} {v : Script.Value} {kind : ResultKind}
    (type : v.exactTypeName ∉ kind.takes) :
    kind.convert h v = .error (.mismatch kind v.exactTypeName) := by
  cases kind <;> rcases v with _ | b | (i | x) | b | place | place | b | name | message <;>
    first
    | rfl
    | simp [ResultKind.takes, Script.Value.exactTypeName, Script.Value.typeName] at type

/-- A kind accepts the results with a property, and gives values of the kind for them. -/
def Accepts (kind : ResultKind) (h : Heap) (v : Script.Value) (P : Prop) : Prop :=
  Outcome.Gives (OfKind kind) (kind.convert h v) ∧ ((∃ r, kind.convert h v = .ok r) ↔ P)

section

variable {h : Heap} {v : Script.Value} {kind : ResultKind} {P : Prop}

theorem Accepts.of_ok {r : Json.Value} (converts : kind.convert h v = .ok r) (ofKind : OfKind kind r)
    (holds : P) : Accepts kind h v P := by
  rw [Accepts, converts]
  exact ⟨.ok ofKind, fun _ => holds, fun _ => ⟨r, rfl⟩⟩

theorem Accepts.of_error {e : MarshalError} (refused : kind.convert h v = .error e) (fails : ¬ P) :
    Accepts kind h v P := by
  rw [Accepts, refused]
  exact ⟨.error e, nofun, fun holds => absurd holds fails⟩

theorem accepts_string : Accepts .string h v
    (Legible v ∨ (∃ n, v = .number n) ∨ ∃ b, v = .bool b) := by
  cases v with
  | string b =>
    cases decodes : Utf8.decode b with
    | ok s =>
      exact .of_ok (by simp [ResultKind.convert, textOf, decodes, Except.map]) (.string s)
        (.inl ⟨b, s, rfl, decodes⟩)
    | error fault =>
      exact .of_error (by simp [ResultKind.convert, textOf, decodes, Except.map]; rfl)
        (by simp [legible_string, decodes])
  | number n =>
    cases n with
    | int i => exact .of_ok rfl (.string _) (.inr (.inl ⟨_, rfl⟩))
    | float x => exact .of_ok rfl (.string _) (.inr (.inl ⟨_, rfl⟩))
  | bool b => exact .of_ok rfl (.string _) (.inr (.inr ⟨b, rfl⟩))
  | _ =>
    exact .of_error (convert_of_type (by simp [ResultKind.takes, Script.Value.exactTypeName,
      Script.Value.typeName])) (by simp [Legible])

theorem accepts_boolean : Accepts .boolean h v (∃ b, v = .bool b) := by
  cases v with
  | bool b => exact .of_ok rfl (.boolean b) ⟨b, rfl⟩
  | number n => cases n <;> exact .of_error rfl nofun
  | _ => exact .of_error rfl nofun

theorem accepts_number : Accepts .number h v
    ((∃ i, v = .number (.int i)) ∨ ∃ x, v = .number (.float x) ∧ x.isFinite = true) := by
  cases v with
  | number n =>
    cases n with
    | int i => exact .of_ok rfl (.number _) (.inl ⟨i, rfl⟩)
    | float x =>
      by_cases finite : x.isFinite = true
      · exact .of_ok (by rw [ResultKind.convert, if_pos finite]) (.number _) (.inr ⟨x, rfl, finite⟩)
      · exact .of_error (by rw [ResultKind.convert, if_neg finite]) (by simpa using finite)
  | _ => exact .of_error rfl (by simp)

theorem dateOfSeconds_gives (x : Float) : Outcome.Gives (OfKind .date) (dateOfSeconds x) := by
  unfold dateOfSeconds
  refine Outcome.Gives.ite (fun _ => .error _) fun _ => ?_
  dsimp only
  split
  · exact .ok (.date _)
  · exact .error _

theorem accepts_date : Accepts .date h v
    ((∃ n r, v = .number n ∧ dateOfSeconds n.toFloat = .ok r) ∨
      ∃ b s i, v = .string b ∧ Utf8.decode b = .ok s ∧ Calendar.Instant.parse? s = some i) := by
  cases v with
  | number n =>
    have converts : ResultKind.date.convert h (.number n) = dateOfSeconds n.toFloat := by
      cases n <;> rfl
    rw [Accepts, converts]
    exact ⟨dateOfSeconds_gives _, by simp⟩
  | string b =>
    cases decodes : Utf8.decode b with
    | error fault =>
      exact .of_error (by simp [ResultKind.convert, textOf, decodes, bind, Except.bind]; rfl)
        (by simp [decodes])
    | ok s =>
      cases date : Calendar.Instant.parse? s with
      | some i =>
        exact .of_ok (by simp [ResultKind.convert, textOf, decodes, date, bind, Except.bind]; rfl)
          (.date _) (.inr ⟨b, s, i, rfl, decodes, date⟩)
      | none =>
        exact .of_error (by simp [ResultKind.convert, textOf, decodes, date, bind, Except.bind]; rfl)
          (by simp [decodes, date])
  | _ => exact .of_error rfl (by simp)

theorem accepts_array : Accepts .array h v (∃ place, v = .table place ∧
    ¬ Spoilt h place ∧ (isList (h.table place) = true ∨ (h.table place).pairs = [])) := by
  cases v with
  | table place =>
    rcases array_convert_table h place with ⟨spoilt, cause, refused⟩ | ⟨sound, shape, items, converts⟩ |
      ⟨-, shape, refused⟩
    · exact .of_error refused fun ⟨_, same, sound, _⟩ => by cases same; exact sound spoilt
    · exact .of_ok converts (.array items) ⟨place, rfl, sound, shape⟩
    · exact .of_error refused fun ⟨_, same, _, shape'⟩ => by cases same; exact shape shape'
  | number n => cases n <;> exact .of_error rfl nofun
  | _ => exact .of_error rfl nofun

theorem accepts_object : Accepts .object h v (∃ place, v = .table place ∧
    ¬ Spoilt h place ∧ (isList (h.table place) = false ∨ (h.table place).sequence = [])) := by
  cases v with
  | table place =>
    rcases object_convert_table h place with ⟨spoilt, cause, refused⟩ | ⟨sound, shape, o, converts⟩ |
      ⟨-, shape, refused⟩
    · exact .of_error refused fun ⟨_, same, sound, _⟩ => by cases same; exact sound spoilt
    · exact .of_ok converts (.object o) ⟨place, rfl, sound, shape⟩
    · exact .of_error refused fun ⟨_, same, _, shape'⟩ => by cases same; exact shape shape'
  | number n => cases n <;> exact .of_error rfl nofun
  | _ => exact .of_error rfl nofun

/-- A result of a type that its kind takes is not refused for its type: the shape of a table is none. -/
theorem not_mismatch_of_takes (type : v.exactTypeName ∈ kind.takes) :
    kind.convert h v ≠ .error (.mismatch kind v.exactTypeName) := by
  cases v with
  | table place =>
    cases kind with
    | array =>
      rcases array_convert_table h place with ⟨-, _, e⟩ | ⟨-, -, _, e⟩ | ⟨-, -, e⟩ <;>
        simp [e, Script.Value.exactTypeName, Script.Value.typeName]
    | object =>
      rcases object_convert_table h place with ⟨-, _, e⟩ | ⟨-, -, _, e⟩ | ⟨-, -, e⟩ <;>
        simp [e, Script.Value.exactTypeName, Script.Value.typeName]
    | _ => simp [ResultKind.takes, Script.Value.exactTypeName, Script.Value.typeName] at type
  | string b =>
    cases kind with
    | string =>
      cases decodes : Utf8.decode b <;> simp [ResultKind.convert, textOf, decodes, Except.map]
    | date =>
      cases decodes : Utf8.decode b with
      | error fault => simp [ResultKind.convert, textOf, decodes, bind, Except.bind]
      | ok s =>
        cases date : Calendar.Instant.parse? s <;>
          simp [ResultKind.convert, textOf, decodes, date, bind, Except.bind]
    | _ => simp [ResultKind.takes, Script.Value.exactTypeName, Script.Value.typeName] at type
  | number n =>
    cases kind with
    | string => cases n <;> simp [ResultKind.convert]
    | number =>
      cases n with
      | int i => simp [ResultKind.convert]
      | float x => cases finite : x.isFinite <;> simp [ResultKind.convert, finite]
    | date =>
      have converts : ResultKind.date.convert h (.number n) = dateOfSeconds n.toFloat := by
        cases n <;> rfl
      rw [converts]
      unfold dateOfSeconds
      split
      · simp
      · dsimp only
        split <;> simp
    | _ => cases n <;> simp [ResultKind.takes, Script.Value.exactTypeName, Script.Value.typeName] at type
  | bool b =>
    cases kind with
    | string | boolean => simp [ResultKind.convert]
    | _ => simp [ResultKind.takes, Script.Value.exactTypeName, Script.Value.typeName] at type
  | _ => cases kind <;>
      simp [ResultKind.takes, Script.Value.exactTypeName, Script.Value.typeName] at type

theorem conversion_iff (table : kind ∈ [ResultKind.array, ResultKind.object]) :
    (∃ cause, kind.convert h v = .error (.conversion cause)) ↔
      ∃ place, v = .table place ∧ Spoilt h place := by
  simp only [List.mem_cons, List.not_mem_nil, or_false] at table
  by_cases type : v.exactTypeName ∈ kind.takes
  · obtain ⟨place, rfl⟩ : ∃ place, v = .table place := by
      rcases table with rfl | rfl <;>
        rcases v with _ | b | (i | x) | b | place | place | b | name | message <;>
        simp [ResultKind.takes, Script.Value.exactTypeName, Script.Value.typeName] at type ⊢
    rcases table with rfl | rfl
    · rcases array_convert_table h place with ⟨spoilt, cause, e⟩ | ⟨sound, -, _, e⟩ | ⟨sound, -, e⟩ <;>
        simp [*]
    · rcases object_convert_table h place with ⟨spoilt, cause, e⟩ | ⟨sound, -, _, e⟩ | ⟨sound, -, e⟩ <;>
        simp [*]
  · rw [convert_of_type type]
    refine ⟨nofun, ?_⟩
    rintro ⟨place, rfl, -⟩
    rcases table with rfl | rfl <;>
      simp [ResultKind.takes, Script.Value.exactTypeName, Script.Value.typeName] at type

end

/-- What each kind makes of a result: which results it accepts, to which types it does not look at all,
and which tables it refuses since something in them has no JSON form. -/
structure SortedByKind (h : Heap) (v : Script.Value) : Prop where
  string : Accepts .string h v (Legible v ∨ (∃ n, v = .number n) ∨ ∃ b, v = .bool b)
  boolean : Accepts .boolean h v (∃ b, v = .bool b)
  number : Accepts .number h v
    ((∃ i, v = .number (.int i)) ∨ ∃ x, v = .number (.float x) ∧ x.isFinite = true)
  date : Accepts .date h v
    ((∃ n r, v = .number n ∧ dateOfSeconds n.toFloat = .ok r) ∨
      ∃ b s i, v = .string b ∧ Utf8.decode b = .ok s ∧ Calendar.Instant.parse? s = some i)
  array : Accepts .array h v (∃ place, v = .table place ∧
    ¬ Spoilt h place ∧ (isList (h.table place) = true ∨ (h.table place).pairs = []))
  object : Accepts .object h v (∃ place, v = .table place ∧
    ¬ Spoilt h place ∧ (isList (h.table place) = false ∨ (h.table place).sequence = []))
  mismatch : ∀ kind : ResultKind,
    kind.convert h v = .error (.mismatch kind v.exactTypeName) ↔ v.exactTypeName ∉ kind.takes
  conversion : ∀ kind ∈ [ResultKind.array, ResultKind.object],
    (∃ cause, kind.convert h v = .error (.conversion cause)) ↔ ∃ place, v = .table place ∧ Spoilt h place

/-- Every result is accepted by the kinds that it fits, as a value of the kind, and refused by the others:
for its type if the kind does not take it, and as unconvertible if something read of it is. -/
theorem convert_sorts_by_kind (h : Heap) (v : Script.Value) : SortedByKind h v where
  string := accepts_string
  boolean := accepts_boolean
  number := accepts_number
  date := accepts_date
  array := accepts_array
  object := accepts_object
  mismatch _ :=
    ⟨fun refused type => not_mismatch_of_takes type refused, convert_of_type⟩
  conversion _ table := conversion_iff table

end SchemaForge.Extension
