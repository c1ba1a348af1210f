import SchemaForge.Extension.Marshal
import SchemaForge.Proofs.Calendar.Stamps
import SchemaForge.Proofs.Decimal.Whole
import SchemaForge.Proofs.Text.Utf8

/-! Results of the date kind: which instant a result names, that both forms of one instant come out as
the same text and in the order of the instants, and when that text can be converted once more. -/

namespace SchemaForge.Extension

open Calendar (Date Instant IsDay Stamp)
open Decimal (ofWhole)
open Script (Heap)
open Text (Utf8.decode Utf8.decode_ofString Utf8.ofString_of_decode)

theorem ofSeconds?_eq (z : Int) (nanos : Nat) : Instant.ofSeconds? z nanos =
    if -96465292 ≤ z / 86400 ∧ z / 86400 ≤ 95026236 then some ⟨z, nanos⟩ else none := by
  have first : Calendar.firstDay = -96465292 := by decide
  have last : Calendar.lastDay = 95026236 := by decide
  simp only [Instant.ofSeconds?, first, last, Bool.and_eq_true, decide_eq_true_eq]

theorem dateOfSeconds_ofWhole {z : Int} (inside : z.natAbs < 2 ^ 64) :
    dateOfSeconds (ofWhole z) = (Instant.ofSeconds? z 0).elim
      (.error (.invalidDate (Decimal.plainText (ofWhole z)))) fun i => .ok (.string i.text) := by
  have finite := Decimal.isFinite_ofWhole inside
  rw [dateOfSeconds, finite]
  simp only [Bool.not_true, Bool.false_eq_true, if_false]
  by_cases short : z.natAbs < 2 ^ 53
  · have none : min (Decimal.nearest (ofWhole 0 * 1e9)) 999999999 = 0 := by decide +kernel
    simp only [Decimal.floor_ofWhole short, Decimal.sub_self_of_isFinite finite, none]
    cases Instant.ofSeconds? z 0 <;> rfl
  · have far := Decimal.le_floor_ofWhole (Nat.not_lt.mp short) inside
    have outside {w : Int} (n : Nat) (far : 2 ^ 53 ≤ w.natAbs) : Instant.ofSeconds? w n = none := by
      rw [ofSeconds?_eq, if_neg (by omega)]
    simp only [outside _ far, outside _ (Nat.not_lt.mp short), Option.elim_none]

section

variable (h : Heap)

theorem convert_date_int (n : Int64) : ResultKind.date.convert h (.number (.int n)) =
    (Instant.ofSeconds? n.toInt 0).elim
      (.error (.invalidDate (Decimal.plainText (ofWhole n.toInt)))) fun i => .ok (.string i.text) := by
  have low := n.le_toInt
  have high := n.toInt_lt
  exact dateOfSeconds_ofWhole (by omega)

theorem convert_date_text (t : String) : ResultKind.date.convert h (.text t) =
    (Instant.parse? t).elim (.error (.invalidDate t)) fun i => .ok (.string i.text) := by
  simp only [ResultKind.convert, Script.Value.text, textOf, Utf8.decode_ofString, bind, Except.bind]
  cases Instant.parse? t <;> rfl

end

/-- The instant that a result names: that of its whole seconds, one in the second that a number lies in,
or the one that a text denotes. -/
inductive Names : Script.Value → Instant → Prop where
  | seconds (n : Int64) : Names (.number (.int n)) ⟨n.toInt, 0⟩
  | fraction (x : Float) {nanos : Nat} : nanos ≤ 999999999 →
      Names (.number (.float x)) ⟨Decimal.floor x, nanos⟩
  | text {t : String} (s : Stamp) : t.toList = s.spelling → Names (.text t) s.instant

theorem Names.proper {v : Script.Value} {i : Instant} (names : Names v i) : i.Proper := by
  cases names with
  | seconds n => exact .of_lt (show 0 < Calendar.nanosPerSecond by decide)
  | fraction x few => exact .of_lt (Nat.lt_succ_of_le few)
  | text s => exact s.instant_proper

theorem ofSeconds?_eq_some {z : Int} {nanos : Nat} {i : Instant}
    (h : Instant.ofSeconds? z nanos = some i) : i = ⟨z, nanos⟩ := by
  rw [ofSeconds?_eq] at h
  split at h
  · exact (Option.some.inj h).symm
  · cases h

theorem names_of_convert {h : Heap} {v : Script.Value} {r : Json.Value}
    (converted : ResultKind.date.convert h v = .ok r) : ∃ i, Names v i ∧ r = .string i.text := by
  cases v with
  | number n =>
    cases n with
    | int n =>
      rw [convert_date_int] at converted
      cases found : Instant.ofSeconds? n.toInt 0 with
      | none =>
        rw [found] at converted
        cases converted
      | some i =>
        rw [found] at converted
        cases converted
        exact ⟨i, ofSeconds?_eq_some found ▸ .seconds n, rfl⟩
    | float x =>
      change dateOfSeconds x = .ok r at converted
      unfold dateOfSeconds at converted
      split at converted
      · cases converted
      · dsimp only at converted
        split at converted
        · next i found =>
          cases converted
          exact ⟨i, ofSeconds?_eq_some found ▸ .fraction x (Nat.min_le_right _ _), rfl⟩
        · cases converted
  | string b =>
    cases decodes : Utf8.decode b with
    | error fault => simp [ResultKind.convert, textOf, decodes, bind, Except.bind] at converted
    | ok t =>
      have same : Script.Value.string b = .text t :=
        congrArg Script.Value.string (Utf8.ofString_of_decode decodes).symm
      rw [same, convert_date_text] at converted
      rw [same]
      cases read : Instant.parse? t with
      | none =>
        rw [read] at converted
        cases converted
      | some i =>
        rw [read] at converted
        cases converted
        obtain ⟨s, spelled, rfl⟩ := Instant.parse?_iff.mp read
        exact ⟨s.instant, .text s spelled, rfl⟩
  | _ => cases converted

/-- Where an instant has a year of four digits in UTC, its text is converted to itself; elsewhere the text
is refused. -/
theorem date_reconverts_iff (h h' : Heap) {v : Script.Value} {r : Json.Value}
    (converted : ResultKind.date.convert h v = .ok r) :
    ∃ i d, Names v i ∧ IsDay d (i.seconds / 86400) ∧ r = .string i.text ∧
      ResultKind.date.convert h' (.text i.text) =
        if 0 ≤ d.year ∧ d.year ≤ 9999 then .ok r else .error (.invalidDate i.text) := by
  obtain ⟨i, names, rfl⟩ := names_of_convert converted
  refine ⟨i, i.date, names, Calendar.isDay_ofDay _, rfl, ?_⟩
  rw [convert_date_text, Instant.parse?_text names.proper]
  by_cases inside : 0 ≤ i.date.year ∧ i.date.year ≤ 9999
  · rw [if_pos inside, if_pos inside, Option.elim_some]
  · rw [if_neg inside, if_neg inside, Option.elim_none]

theorem date_reconverts_iff_of_epoch :
    ResultKind.date.convert default (.number (.int 0)) = .ok (.string "1970-01-01T00:00:00Z") ∧
      ∃ i d, Names (.number (.int 0)) i ∧ IsDay d (i.seconds / 86400) ∧
        .string "1970-01-01T00:00:00Z" = Json.Value.string i.text ∧
        ResultKind.date.convert default (.text i.text) =
          if 0 ≤ d.year ∧ d.year ≤ 9999 then .ok (.string "1970-01-01T00:00:00Z")
            else .error (.invalidDate i.text) := by
  have converted : ResultKind.date.convert default (.number (.int 0)) =
      .ok (.string "1970-01-01T00:00:00Z") := by
    have found : Instant.ofSeconds? (0 : Int64).toInt 0 = some ⟨0, 0⟩ := by decide
    have text : Instant.text ⟨0, 0⟩ = "1970-01-01T00:00:00Z" := by decide +kernel
    rw [convert_date_int, found, Option.elim_some, text]
  exact ⟨converted, date_reconverts_iff default default converted⟩

/-- The year 10000 has five digits: its first second has a text, which is no date. -/
theorem late_date_not_reconverted :
    ResultKind.date.convert default (.number (.int 253402300800)) =
        .ok (.string "+10000-01-01T00:00:00Z") ∧
      ResultKind.date.convert default (.text "+10000-01-01T00:00:00Z") =
        .error (.invalidDate "+10000-01-01T00:00:00Z") := by
  have found : Instant.ofSeconds? (253402300800 : Int64).toInt 0 = some ⟨253402300800, 0⟩ := by decide
  have text : Instant.text ⟨253402300800, 0⟩ = "+10000-01-01T00:00:00Z" := by decide +kernel
  have unread : Instant.parse? "+10000-01-01T00:00:00Z" = none := by decide +kernel
  rw [convert_date_int, convert_date_text, found, unread, Option.elim_some, Option.elim_none, text]
  exact ⟨rfl, rfl⟩

/-- A second of a year with four digits in UTC. -/
def InFourDigitYear (z : Int) : Prop := ∃ d, IsDay d (z / 86400) ∧ 0 ≤ d.year ∧ d.year ≤ 9999

/-- What a date and a time of day without a fraction denote, a leap second apart: the seconds up to the
day, those of the day so far, less what the clock is ahead of UTC. -/
def Denotes (s : Stamp) (z : Int) : Prop :=
  s.fraction = [] ∧ s.second ≤ 59 ∧ ∃ day, IsDay s.date day ∧
    z = day * 86400 + (s.hour * 3600 + s.minute * 60 + s.second) - s.zone.seconds

theorem InFourDigitYear.year {z : Int} (h : InFourDigitYear z) :
    0 ≤ (Instant.date ⟨z, 0⟩).year ∧ (Instant.date ⟨z, 0⟩).year ≤ 9999 := by
  obtain ⟨d, day, inside⟩ := h
  rwa [Calendar.isDay_iff.mp day] at inside

/-- The days of years with four digits are far from the first and the last day that there is. -/
theorem near_of_isDay {d : Date} {n : Int} (day : IsDay d n) (inside : 0 ≤ d.year ∧ d.year ≤ 9999) :
    -800000 ≤ n ∧ n ≤ 3000000 := by
  obtain rfl := Calendar.isDay_iff.mp day
  have bounds := Date.bounds_of_valid (Date.valid_ofDay n)
  have back := Date.toDay_ofDay n
  unfold Date.toDay Calendar.marchYearStart Calendar.marchMonthStart Calendar.epoch at back
  by_cases early : (Date.ofDay n).month ≤ 2
  · simp only [early, decide_true, if_true] at back
    omega
  · simp only [early, decide_false, Bool.false_eq_true, if_false] at back
    omega

/-- A second so close that neither an offset nor its own day leads out of what there is. -/
def Near (z : Int) : Prop := -900000 ≤ z / 86400 ∧ z / 86400 ≤ 4000000

theorem InFourDigitYear.near {z : Int} (h : InFourDigitYear z) : Near z := by
  obtain ⟨d, day, inside⟩ := h
  have close := near_of_isDay day inside
  exact ⟨by omega, by omega⟩

theorem Near.ofSeconds? {z : Int} (near : Near z) (nanos : Nat) :
    Instant.ofSeconds? z nanos = some ⟨z, nanos⟩ := by
  unfold Near at near
  rw [ofSeconds?_eq, if_pos (by omega)]

theorem convert_seconds (h : Heap) {n : Int64} (near : Near n.toInt) :
    ResultKind.date.convert h (.number (.int n)) = .ok (.string (Instant.text ⟨n.toInt, 0⟩)) := by
  rw [convert_date_int, near.ofSeconds?, Option.elim_some]

theorem Denotes.instant {s : Stamp} {z : Int} (h : Denotes s z) :
    s.instant = ⟨z, 0⟩ ∧ Near z := by
  obtain ⟨whole, unleaped, day, isDay, rfl⟩ := h
  have year_le := s.year_le
  have near := near_of_isDay isDay (by simp only [Stamp.date]; omega)
  have zone := s.zone.seconds_bounds
  have time_le := s.time_le
  have same : s.date.toDay = day := by
    rw [Calendar.isDay_iff.mp isDay, Date.toDay_ofDay]
  have noLeap : s.second ≠ 60 := by omega
  refine ⟨?_, ⟨by omega, by omega⟩⟩
  rw [Stamp.instant, same, whole]
  simp only [noLeap, if_false]
  rfl

/-- Dates of the years with four digits come out in the order of the seconds that they name, and a text
without a fraction comes out as the seconds that it denotes, whatever its offset is. -/
theorem dates_in_order (h h' : Heap) :
    (∀ m n : Int64, InFourDigitYear m.toInt → InFourDigitYear n.toInt → m.toInt < n.toInt →
      ∃ s t, ResultKind.date.convert h (.number (.int m)) = .ok (.string s) ∧
        ResultKind.date.convert h' (.number (.int n)) = .ok (.string t) ∧ s < t) ∧
    ∀ (s : Stamp) (n : Int64), Denotes s n.toInt →
      ∃ t, ResultKind.date.convert h (.text (String.ofList s.spelling)) = .ok (.string t) ∧
        ResultKind.date.convert h' (.number (.int n)) = .ok (.string t) := by
  refine ⟨fun m n low high earlier => ?_, fun s n denotes => ?_⟩
  · exact ⟨_, _, convert_seconds h low.near, convert_seconds h' high.near,
      Instant.text_lt earlier low.year high.year⟩
  · obtain ⟨instant, near⟩ := denotes.instant
    have read : Instant.parse? (String.ofList s.spelling) = some ⟨n.toInt, 0⟩ :=
      Instant.parse?_iff.mpr ⟨s, String.toList_ofList, instant⟩
    refine ⟨_, ?_, convert_seconds h' near⟩
    rw [convert_date_text, read, Option.elim_some]

def hourAhead : Stamp where
  year := 1970
  month := 1
  day := 1
  separator := 'T'
  hour := 1
  minute := 0
  second := 0
  fraction := []
  zone := .shifted '+' 1 0 (.inl rfl) ⟨by decide, by decide⟩
  year_le := by decide
  date_valid := by decide
  separates := by decide
  time_le := by decide
  fraction_digits := rfl

theorem dates_in_order_of_epoch :
    (∃ s t, ResultKind.date.convert default (.number (.int (-1))) = .ok (.string s) ∧
      ResultKind.date.convert default (.number (.int 0)) = .ok (.string t) ∧ s < t) ∧
    ∃ t, ResultKind.date.convert default (.text "1970-01-01T01:00:00+01:00") = .ok (.string t) ∧
      ResultKind.date.convert default (.number (.int 0)) = .ok (.string t) := by
  have before : InFourDigitYear (-1 : Int64).toInt :=
    ⟨⟨1969, 12, 31⟩, .previous (by decide) .epoch, by decide⟩
  have epoch : InFourDigitYear (0 : Int64).toInt := ⟨⟨1970, 1, 1⟩, .epoch, by decide⟩
  have denotes : Denotes hourAhead (0 : Int64).toInt := ⟨rfl, by decide, 0, .epoch, by decide⟩
  have spelled : String.ofList hourAhead.spelling = "1970-01-01T01:00:00+01:00" := by decide
  obtain ⟨ordered, same⟩ := dates_in_order default default
  exact ⟨ordered (-1) 0 before epoch (by decide), spelled ▸ same hourAhead 0 denotes⟩

end SchemaForge.Extension
