import SchemaForge.Proofs.Json.CompactSpelling
import SchemaForge.Proofs.Json.LiteralText
import SchemaForge.Proofs.Json.ReaderKeys
import SchemaForge.Proofs.Schema.Reading

/-! Numbers where a document has a text: the version and the values of enums. What is stored of such a
number is the text of the number that its literal stands for, which is not always the literal. Only
documents in JSON are spoken of. -/

namespace SchemaForge

open Json (Literal Number Object SpelledAs StoredAs Value Written storedAs_text)
open Decimal (Layout Magnitude floorScaled jsonText)
open Text.Utf8 (ofString)

namespace Document

theorem itemsAt_value (key : String) (w : Written) :
    itemsAt key w.value = (w.itemsAt key).map Written.value := by
  have get? := w.value_get? key
  cases w with
  | object entries =>
    have get? : Object.get? (Object.ofEntries (Written.entryValues entries)) key =
      ((Written.object entries).get? key).map Written.value := get?
    simp only [Written.value, itemsAt, Object.items, get?, Written.itemsAt]
    cases (Written.object entries).get? key with
    | none => rfl
    | some w => cases w <;> simp [Written.value, Written.values_eq_map]
  | _ => rfl

structure ValueStored (m : Written) (x : EnumValue) : Prop where
  name : m.get? "name" = some (.string x.name)
  value : ∀ l n stands, m.get? "value" = some (.number l n stands) → StoredAs l x.value

theorem written_string {w : Written} {key text : String}
    (get? : w.value.get? key = some (.string text)) : w.get? key = some (.string text) := by
  rw [w.value_get?] at get?
  obtain ⟨w', here, text⟩ := Option.map_eq_some_iff.mp get?
  cases w' with
  | string text' =>
    cases text
    exact here
  | _ => cases text

theorem value_number {w : Written} {key : String} {l : Literal} {n : Number} {stands}
    (get? : w.get? key = some (.number l n stands)) : w.value.get? key = some (.number n) := by
  rw [w.value_get?, get?]
  rfl

theorem valueStored_of_enumValue {m : Written} {x : EnumValue} (hkeys : m.value.WellKeyed)
    (h : Decode.enumValue m.value = .ok x) : ValueStored m x := by
  obtain ⟨o, ho, fields⟩ := Decode.enumValueFrom_of_ok h
  rw [ho] at hkeys
  obtain ⟨name, ⟨v, value, text⟩, -⟩ := fields hkeys.distinct
  have reads (key : String) : m.value.get? key = Object.get? o key := by rw [ho]; rfl
  refine ⟨written_string ((reads _).trans name), fun l n stands number => ?_⟩
  obtain rfl : v = .number n :=
    Option.some.inj ((value.symm.trans (reads _).symm).trans (value_number number))
  rw [← Except.ok.inj text]
  exact storedAs_text stands

/-- The values of an enum are stored as they are written for its entry, before they are sorted. -/
def ValuesStored (alphabetize : Bool) (entry : Written) (d : DataType) : Prop :=
  ∀ e, d = .enum e → ∃ e₀ : EnumType, d = (DataType.enum e₀).ordered alphabetize ∧
    List.Forall₂ ValueStored (entry.itemsAt "values") e₀.values

theorem ReadFrom.values {o : Object} {e : EnumType} (distinct : Object.Distinct o)
    (h : ReadFrom o (.enum e)) :
    List.Forall₂ (fun v x => Decode.enumValue v = .ok x) (Object.items o "values") e.values := by
  cases h with
  | enum _ fields =>
    have read := fields.values
    rwa [items_eraseSwap distinct (by decide)] at read

theorem valuesStored_of_readsAs {alphabetize : Bool} {entry : Written} {d : DataType}
    (h : ReadsAs alphabetize entry.value d) : ValuesStored alphabetize entry d := by
  obtain ⟨o, d₀, ho, hkeys, readFrom, -, rfl⟩ := h
  intro e he
  cases d₀ with
  | cls c => cases alphabetize <;> cases he
  | enum e₀ =>
    refine ⟨e₀, rfl, ?_⟩
    have read := readFrom.values hkeys.distinct
    rw [show Object.items o "values" = (entry.itemsAt "values").map Written.value by
      rw [← itemsAt_value, ho]; rfl, List.forall₂_map_left_iff] at read
    refine Outcome.forall₂_of_mem read fun m hm x hx => valueStored_of_enumValue ?_ hx
    have inside : m.value ∈ itemsAt "values" entry.value := by
      rw [itemsAt_value]
      exact List.mem_map_of_mem hm
    rw [← ho] at hkeys
    exact wellKeyed_of_mem hkeys inside

theorem versionOf_stored {w : Written} {o : Object} (h : w.value = .object o) :
    ∀ l n stands, w.get? "version" = some (.number l n stands) → StoredAs l (versionOf o) := by
  intro l n stands version
  have number : o.get? "version" = some (.number n) := by
    have := value_number version
    rwa [h] at this
  rw [versionOf, number]
  exact storedAs_text stands

/-- What is stored where an accepted document in JSON writes a number for its version or for the value of
an enum: the text of the number that the literal stands for, which is the literal itself just when the
literal is kept. The document spells one value only, so that each place has one literal. -/
theorem parse_stores_literals {alphabetize : Bool} {source : Source} {s : Schema}
    (format : DocumentFormat.ofFileName? source.name = some .json)
    (h : parse alphabetize source = .ok s) :
    ∃ w, SpelledAs source.contents w ∧ (∀ w', SpelledAs source.contents w' → w' = w) ∧
      (∀ l n stands, w.get? "version" = some (.number l n stands) → StoredAs l s.version) ∧
      List.Forall₂ (ValuesStored alphabetize) (w.itemsAt "dataTypes") s.dataTypes := by
  obtain ⟨v, hread, h⟩ := Outcome.bind_eq_ok.mp h
  have read : Json.read source.contents = .ok v := by
    rw [Document.read, format] at hread
    dsimp only at hread
    split at hread
    · next v' hv =>
      cases hread
      exact hv
    · cases hread
  obtain ⟨w, -, spelled, rfl⟩ := Json.read_eq_ok_iff.mp read
  obtain ⟨o, ho, version, entries⟩ := ofValue_readsAs (wellKeyed_of_read hread) h
  rw [itemsAt_value, List.forall₂_map_left_iff] at entries
  refine ⟨w, spelled, fun w' h => h.unique spelled, ?_, entries.imp fun _ _ => valuesStored_of_readsAs⟩
  rw [version]
  exact versionOf_stored ho

def oneTen : Literal where
  negative := false
  whole := [0x31]
  point := some [0x31, 0x30]
  exponent := none
  isWhole := by decide
  noNeedlessZero := by decide
  isPoint := by
    rintro _ ⟨⟩
    decide

def elevenTenths : Number := .float ((110 : Nat).toUInt64.toFloat / Float.ofScientific 1 false 2)

theorem oneTen_number : oneTen.number? = some elevenTenths := rfl

theorem point_eq_digits (x : Magnitude) : x.point =
    ((Nat.toDigits 10 (floorScaled x.mantissa x.exponent (-350))).length : Int) - 350 := by
  unfold Magnitude.point
  rw [← String.length_ofList]
  rfl

theorem elevenTenths_text : elevenTenths.text = "1.1" := by
  have bits : ((110 : Nat).toUInt64.toFloat / Float.ofScientific 1 false 2).toBits =
      0x3FF199999999999A := by decide +kernel
  have point : (Magnitude.ofBits 0x3FF199999999999A).point = 1 := by
    rw [point_eq_digits]
    decide +kernel
  have digits : (Magnitude.ofBits 0x3FF199999999999A).shortest = ⟨11, -1⟩ := by
    rw [Magnitude.shortest, point]
    decide +kernel
  simp only [elevenTenths, Number.text, jsonText, Layout.write, Layout.writeWith, bits, digits]
  decide +kernel

def rateWritten (l : Literal) (n : Number) (stands : l.number? = some n) : Written :=
  .object [("version", .number l n stands), ("dataTypes", .array [.object [("type", .string "enum"),
    ("name", .string "Rate"), ("dataType", .string "Double"), ("values", .array [.object [
      ("name", .string "low"), ("value", .number l n stands)]])]])]

def rate : Source := ⟨"rate.json", "\x7b\"version\":1.10,\"dataTypes\":[\x7b\"type\":\"enum\"," ++
  "\"name\":\"Rate\",\"dataType\":\"Double\",\"values\":[\x7b\"name\":\"low\"," ++
  "\"value\":1.10\x7d]\x7d]\x7d"⟩

def rateType (value : String) : DataType := .enum (.plain "Rate" "Double" [⟨"low", value, []⟩])

theorem oneTen_text : oneTen.text = ofString "1.10" := rfl

theorem rate_bytes {l : Literal} (n : Number) (stands : l.number? = some n)
    (text : l.text = ofString "1.10") : ofString rate.contents = (rateWritten l n stands).bytes := by
  simp only [rate, rateWritten, Written.bytes, Json.entryBytes, Written.moreEntries,
    Written.moreItems, text]
  cbv

theorem rate_spelled : SpelledAs rate.contents (rateWritten oneTen _ oneTen_number) :=
  Json.spelledAs_of_bytes (rate_bytes _ _ oneTen_text)

theorem rateWritten_fits (l : Literal) (n : Number) (stands : l.number? = some n) :
    (rateWritten l n stands).Fits Json.depthLimit := by
  have low : Written.Fits 123 (.object [("name", .string "low"), ("value", .number l n stands)]) :=
    .object (by simpa using ⟨.string _, .number _⟩)
  have values : Written.Fits 124 (.array [.object [("name", .string "low"),
    ("value", .number l n stands)]]) := .array (by simpa using low)
  exact .object (by simpa using ⟨.number _, .array (by simpa using .object (by
    simpa using ⟨.string _, .string _, .string _, values⟩))⟩)

theorem ofValue_rateWritten (l : Literal) (n : Number) (stands : l.number? = some n) :
    ofValue false rate.name (rateWritten l n stands).value = .ok ⟨n.text, [rateType n.text]⟩ := by
  cbv

theorem rate_format : DocumentFormat.ofFileName? rate.name = some .json := by cbv

theorem parse_rate : parse false rate = .ok ⟨"1.1", [rateType "1.1"]⟩ := by
  have hread : Json.read rate.contents = .ok (rateWritten oneTen _ oneTen_number).value :=
    Json.read_eq_ok_iff.mpr ⟨_, rateWritten_fits _ _ _, rate_spelled, rfl⟩
  have hread : read rate.name rate.contents = .ok (rateWritten oneTen _ oneTen_number).value := by
    rw [Document.read, rate_format]
    dsimp only
    rw [hread]
  rw [parse_eq_ofValue hread, ofValue_rateWritten, elevenTenths_text]

theorem parse_stores_literals_of_rate :
    ∃ w, SpelledAs rate.contents w ∧ (∀ w', SpelledAs rate.contents w' → w' = w) ∧
      (∀ l n stands, w.get? "version" = some (.number l n stands) → StoredAs l "1.1") ∧
      List.Forall₂ (ValuesStored false) (w.itemsAt "dataTypes") [rateType "1.1"] :=
  parse_stores_literals rate_format parse_rate

/-- A zero at the end of a literal is not stored, be it for a version or for the value of an enum. -/
theorem trailing_zero_is_lost :
    SpelledAs rate.contents (rateWritten oneTen _ oneTen_number) ∧ oneTen.text = ofString "1.10" ∧
      parse false rate = .ok ⟨"1.1", [rateType "1.1"]⟩ :=
  ⟨rate_spelled, oneTen_text, parse_rate⟩

end Document

end SchemaForge
