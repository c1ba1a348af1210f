import SchemaForge.Json.Printer
import SchemaForge.Proofs.Json.Literal
import SchemaForge.Proofs.Text.Utf8
import Mathlib.Data.List.Induction

/-! What becomes of a literal that is read and written back. A whole number of 64 bits stays as it is,
but for a negative zero. Every other literal stands for a binary64 number and comes back as the shortest
text of that number, so that few such literals stay: only tidy ones, without a needless zero behind the
point and with an exponent, where there is one, that is needed and fully written. -/

namespace SchemaForge.Json

open Text.Utf8 (Bytes encode encode_append encode_cons ofString)
open Decimal (Layout)

def decimal (n : Nat) : Bytes := encode (Nat.toDigits 10 n)

theorem ofString_toString (n : Nat) : ofString (toString n) = decimal n := by
  rw [Nat.toString_eq_ofList_toDigits, ofString, String.toList_ofList, decimal]

def digitOf (d : Nat) : UInt8 := UInt8.ofNat (48 + d)

theorem encode_digitChar : ∀ d < 10, encode [Nat.digitChar d] = [digitOf d] := by decide

theorem isDigitByte_digitOf : ∀ d < 10, isDigitByte (digitOf d) = true := by decide

theorem digitValue_digitOf : ∀ d < 10, digitValue (digitOf d) = d := by decide

theorem digitOf_ne_zero : ∀ d < 10, d ≠ 0 → digitOf d ≠ 0x30 := by decide

theorem decimal_of_lt {d : Nat} (h : d < 10) : decimal d = [digitOf d] := by
  rw [decimal, Nat.toDigits_of_lt_base h, encode_digitChar d h]

theorem decimal_append {n d : Nat} (pos : 0 < n) (h : d < 10) :
    decimal (10 * n + d) = decimal n ++ [digitOf d] := by
  rw [decimal, ← Nat.toDigits_append_toDigits (by omega) pos h, encode_append,
    Nat.toDigits_of_lt_base h, encode_digitChar d h, decimal]

theorem exists_digitOf {b : UInt8} (h : isDigitByte b = true) : ∃ d < 10, b = digitOf d := by
  have range : 0x30 ≤ b.toNat ∧ b.toNat ≤ 0x39 := by
    simpa [isDigitByte, UInt8.le_iff_toNat_le] using h
  refine ⟨b.toNat - 48, by omega, ?_⟩
  rw [digitOf, Nat.add_sub_cancel' range.1, UInt8.ofNat_toNat]

theorem digitsValue_append (ds : Bytes) (b : UInt8) :
    digitsValue (ds ++ [b]) = 10 * digitsValue ds + digitValue b := by
  simp only [digitsValue, List.foldl_append, List.foldl_cons, List.foldl_nil]
  omega

structure Shows (n : Nat) (ds : Bytes) : Prop where
  isDigits : IsDigits ds
  noNeedlessZero : n ≠ 0 → ds.head? ≠ some 0x30
  value : digitsValue ds = n
  last : ds.getLast? = some (digitOf (n % 10))

theorem decimal_shows (n : Nat) : Shows n (decimal n) := by
  induction n using Nat.strongRecOn with
  | _ n ih =>
    by_cases small : n < 10
    · rw [decimal_of_lt small]
      refine ⟨⟨List.cons_ne_nil _ _, by simpa using isDigitByte_digitOf n small⟩, fun ne => ?_, ?_, ?_⟩
      · simpa using digitOf_ne_zero n small ne
      · simpa [digitsValue] using digitValue_digitOf n small
      · simp [Nat.mod_eq_of_lt small]
    · have shows := ih (n / 10) (by omega)
      have digit : n % 10 < 10 := Nat.mod_lt _ (by omega)
      have parts : decimal n = decimal (n / 10) ++ [digitOf (n % 10)] := by
        rw [← decimal_append (by omega) digit, Nat.div_add_mod]
      rw [parts]
      obtain ⟨d, rest, eq, -⟩ := shows.isDigits.exists_cons
      refine ⟨⟨by simp, ?_⟩, fun _ => ?_, ?_, by simp⟩
      · intro b hb
        rcases List.mem_append.mp hb with hb | hb
        · exact shows.isDigits.digit b hb
        · rw [List.mem_singleton.mp hb]
          exact isDigitByte_digitOf _ digit
      · have := shows.noNeedlessZero (by omega)
        simpa [eq] using this
      · rw [digitsValue_append, shows.value, digitValue_digitOf _ digit, Nat.div_add_mod]

theorem decimal_digitsValue {ds : Bytes} (isDigits : IsDigits ds)
    (noNeedlessZero : ds.head? = some 0x30 → ds = [0x30]) : decimal (digitsValue ds) = ds := by
  induction ds using List.reverseRecOn with
  | nil => exact absurd rfl isDigits.nonempty
  | append_singleton ds b ih =>
    obtain ⟨d, digit, rfl⟩ := exists_digitOf (isDigits.digit b (by simp))
    rw [digitsValue_append, digitValue_digitOf d digit]
    cases ds with
    | nil => simpa [digitsValue] using decimal_of_lt digit
    | cons c cs =>
      have first : c ≠ 0x30 := by
        rintro rfl
        simpa using noNeedlessZero rfl
      have inner : IsDigits (c :: cs) :=
        ⟨List.cons_ne_nil _ _, fun b hb => isDigits.digit b (List.mem_append_left _ hb)⟩
      have eq := ih inner fun zero => absurd (Option.some.inj zero) first
      have pos : 0 < digitsValue (c :: cs) := by
        rcases Nat.eq_zero_or_pos (digitsValue (c :: cs)) with zero | pos
        · rw [zero, decimal_of_lt (by omega)] at eq
          exact absurd (List.cons.inj eq).1.symm first
        · exact pos
      rw [decimal_append pos digit, eq]

structure Literal.Plain (l : Literal) : Prop where
  point : l.point = none
  exponent : l.exponent = none

theorem le_foldl_digits (m : Nat) (ds : Bytes) :
    m ≤ ds.foldl (fun v b => v * 10 + digitValue b) m := by
  induction ds generalizing m with
  | nil => exact Nat.le_refl _
  | cons b ds ih => exact Nat.le_trans (by omega) (ih (m * 10 + digitValue b))

theorem le_dropped (m : Nat) (full : Bool) (dropped : Nat) (ds : Bytes) :
    dropped ≤ (wholeDigits m full dropped ds).2.1 := by
  induction ds generalizing m full dropped with
  | nil => exact Nat.le_refl _
  | cons b ds ih =>
    simp only [wholeDigits]
    split
    · split
      · exact Nat.le_of_succ_le (ih m true (dropped + 1))
      · exact ih _ false dropped
    · exact Nat.le_refl _

theorem wholeDigits_of_lt {ds : Bytes} (digits : ∀ b ∈ ds, isDigitByte b = true) (m dropped : Nat)
    (fits : ds.foldl (fun v b => v * 10 + digitValue b) m < Word.unsignedEnd) :
    (wholeDigits m false dropped ds).1 = ds.foldl (fun v b => v * 10 + digitValue b) m ∧
      (wholeDigits m false dropped ds).2.1 = dropped := by
  induction ds generalizing m with
  | nil => exact ⟨rfl, rfl⟩
  | cons b ds ih =>
    obtain ⟨here, digits⟩ := List.forall_mem_cons.mp digits
    have next : ¬ Word.unsignedEnd ≤ m * 10 + digitValue b :=
      Nat.not_le.mpr (Nat.lt_of_le_of_lt (le_foldl_digits _ ds) fits)
    simpa [wholeDigits, here, next] using ih digits (m * 10 + digitValue b) fits

theorem dropped_pos {ds : Bytes} (digits : ∀ b ∈ ds, isDigitByte b = true) {m : Nat}
    (before : m < Word.unsignedEnd)
    (large : Word.unsignedEnd ≤ ds.foldl (fun v b => v * 10 + digitValue b) m) :
    0 < (wholeDigits m false 0 ds).2.1 := by
  induction ds generalizing m with
  | nil => exact absurd before (Nat.not_lt.mpr large)
  | cons b ds ih =>
    obtain ⟨here, digits⟩ := List.forall_mem_cons.mp digits
    by_cases next : Word.unsignedEnd ≤ m * 10 + digitValue b
    · have taken : (wholeDigits m false 0 (b :: ds)).2.1 = (wholeDigits m true 1 ds).2.1 := by
        simp [wholeDigits, here, next]
      rw [taken]
      exact le_dropped m true 1 ds
    · simpa [wholeDigits, here, next] using ih digits (Nat.not_le.mp next) large

namespace Literal

variable {l : Literal} {n : Number} {i : Int}

theorem Plain.number? (plain : l.Plain) (fits : digitsValue l.whole < Word.unsignedEnd) :
    l.number? = some (wholeNumber l.negative (digitsValue l.whole)) := by
  obtain ⟨value, dropped⟩ := wholeDigits_of_lt l.isWhole.digit 0 0 fits
  simp only [Literal.number?, Tail.number?, plain.point, plain.exponent, value, dropped, if_true]
  rfl

theorem float?_ne_int {negative : Bool} {m : Nat} {exponent : Int} :
    float? negative m exponent ≠ some (.int i) := by
  simp [float?, signedFloat]

theorem exponent_ne_int {negative : Bool} {m : Nat} {scale : Int} {e : Exponent} :
    e.number? negative m scale ≠ some (.int i) := by
  unfold Exponent.number?
  dsimp only
  split
  · split <;> simp [signedFloat]
  · exact float?_ne_int

/-- What is read as a whole number has neither a point nor an exponent, and fits into 64 bits. -/
theorem plain_of_int (h : l.number? = some (.int i)) :
    l.Plain ∧ digitsValue l.whole < Word.unsignedEnd := by
  simp only [Literal.number?, Tail.number?] at h
  split at h
  · next point exponent =>
    split at h
    · next none_dropped =>
      refine ⟨⟨point, exponent⟩, Nat.not_le.mp fun large => ?_⟩
      have some_dropped := dropped_pos l.isWhole.digit (by decide : 0 < Word.unsignedEnd) large
      exact absurd none_dropped (Nat.ne_of_gt some_dropped)
    · exact absurd h float?_ne_int
  · exact absurd h exponent_ne_int
  · split at h
    · exact absurd h float?_ne_int
    · exact absurd h exponent_ne_int

end Literal

structure Exponent.Tidy (e : Exponent) : Prop where
  small : e.capital = false
  signed : e.sign ≠ .unsigned
  noNeedlessZero : e.digits.head? ≠ some 0x30
  needed : (if e.sign = .minus then 5 else 15) < digitsValue e.digits

/-- A literal as binary64 numbers are written: with a point or an exponent, no needless zero behind
the point, and one digit in front of an exponent. -/
structure Literal.Tidy (l : Literal) : Prop where
  notPlain : ¬ l.Plain
  point : ∀ ds ∈ l.point, ds.getLast? = some 0x30 → ds = [0x30] ∧ l.exponent = none
  exponent : ∀ e ∈ l.exponent, e.Tidy ∧ l.whole.length = 1 ∧ l.whole ≠ [0x30]

theorem encode_ne_nil {cs : List Char} (h : cs ≠ []) : encode cs ≠ [] := by
  obtain ⟨c, cs, rfl⟩ := List.exists_cons_of_ne_nil h
  intro none
  have length := congrArg List.length (List.append_eq_nil_iff.mp none).1
  have := c.utf8Size_pos
  simp at length
  omega

theorem encode_zeros (n : Nat) : encode (List.replicate n '0') = List.replicate n 0x30 := by
  induction n with
  | zero => rfl
  | succ n ih =>
    rw [List.replicate_succ, encode_cons, ih]
    rfl

/-- Digits as they come of the shortest form: none of them, or no zero at the end. -/
theorem trim_digits (d : Decimal.Digits) : d.trim.digits % 10 ≠ 0 ∨ d.trim.digits = 0 := by
  fun_induction Decimal.Digits.trim d with
  | case1 d h ih => exact ih
  | case2 d h => omega

variable {n : Nat}

theorem exists_cut {a b : List Char} (parts : Nat.toDigits 10 n = a ++ b) (ha : a ≠ []) (hb : b ≠ [])
    (nonzero : n ≠ 0) (last : n % 10 ≠ 0) :
    IsDigits (encode a) ∧ (encode a).head? ≠ some 0x30 ∧ IsDigits (encode b) ∧
      (encode b).getLast? ≠ some 0x30 := by
  have shows := decimal_shows n
  have eq : decimal n = encode a ++ encode b := by rw [decimal, parts, encode_append]
  rw [eq] at shows
  have ha := encode_ne_nil ha
  have hb := encode_ne_nil hb
  refine ⟨⟨ha, fun c hc => shows.isDigits.digit c (List.mem_append_left _ hc)⟩, ?_,
    ⟨hb, fun c hc => shows.isDigits.digit c (List.mem_append_right _ hc)⟩, ?_⟩
  · have := shows.noNeedlessZero nonzero
    rwa [List.head?_append_of_ne_nil _ ha] at this
  · have := shows.last
    rw [List.getLast?_append_of_ne_nil _ hb] at this
    rw [this]
    simpa using digitOf_ne_zero (n % 10) (Nat.mod_lt _ (by omega)) last

theorem exists_pointed {ds ps : Bytes} (whole : IsDigits ds)
    (head : ds.head? = some 0x30 → ds = [0x30]) (point : IsDigits ps)
    (last : ps.getLast? = some 0x30 → ps = [0x30]) :
    ∃ l : Literal, l.Tidy ∧ l.body = ds ++ 0x2E :: ps := by
  let l : Literal :=
    { point := some ps, exponent := none, negative := false, whole := ds, isWhole := whole
      noNeedlessZero := head
      isPoint := by rintro _ ⟨⟩; exact point }
  refine ⟨l, ⟨fun plain => (nomatch plain.point), ?_, nofun⟩, ?_⟩
  · rintro _ ⟨⟩ zero
    exact ⟨last zero, rfl⟩
  · simp [Literal.body, Tail.text, pointText, exponentText, l]

theorem digits_with_zeros {ds : Bytes} (digits : ∀ b ∈ ds, isDigitByte b = true) (k : Nat) :
    ∀ b ∈ ds ++ List.replicate k 0x30, isDigitByte b = true := by
  intro b hb
  rcases List.mem_append.mp hb with hb | hb
  · exact digits b hb
  · rw [List.eq_of_mem_replicate hb]
    rfl

theorem exists_place (nonzero : n ≠ 0) (last : n % 10 ≠ 0) (scale : Int) :
    ∃ l : Literal, l.Tidy ∧ l.body = encode (Layout.json.place (Nat.toDigits 10 n) scale) := by
  have shows := decimal_shows n
  unfold Layout.place
  split
  · have head : (decimal n ++ List.replicate scale.toNat 0x30).head? ≠ some 0x30 := by
      rw [List.head?_append_of_ne_nil _ shows.isDigits.nonempty]
      exact shows.noNeedlessZero nonzero
    have whole : IsDigits (decimal n ++ List.replicate scale.toNat 0x30) :=
      ⟨by simp [shows.isDigits.nonempty], digits_with_zeros shows.isDigits.digit _⟩
    have zero : IsDigits [0x30] := by decide
    obtain ⟨l, tidy, text⟩ := exists_pointed whole (fun h => absurd h head) zero fun _ => rfl
    refine ⟨l, tidy, ?_⟩
    rw [text, encode_append, encode_append, encode_zeros]
    rfl
  · dsimp only
    split
    · next cut inside =>
      generalize hi : (Nat.toDigits 10 n).length - (-scale).toNat = i
      have parts := (List.take_append_drop i (Nat.toDigits 10 n)).symm
      have ha : (Nat.toDigits 10 n).take i ≠ [] := by
        rw [← List.length_pos_iff, List.length_take]
        omega
      have hb : (Nat.toDigits 10 n).drop i ≠ [] := by
        rw [← List.length_pos_iff, List.length_drop]
        omega
      obtain ⟨whole, head, point, noZero⟩ := exists_cut parts ha hb nonzero last
      obtain ⟨l, tidy, text⟩ :=
        exists_pointed whole (fun h => absurd h head) point fun h => absurd h noZero
      refine ⟨l, tidy, ?_⟩
      rw [text, encode_append, encode_cons]
      rfl
    · have point : IsDigits (List.replicate ((-scale).toNat - (Nat.toDigits 10 n).length) 0x30 ++
          decimal n) := by
        refine ⟨by simp [shows.isDigits.nonempty], fun b hb => ?_⟩
        exact digits_with_zeros shows.isDigits.digit _ b
          (List.mem_append.mpr (List.mem_append.mp hb).symm)
      have noZero : (List.replicate ((-scale).toNat - (Nat.toDigits 10 n).length) 0x30 ++
          decimal n).getLast? ≠ some 0x30 := by
        rw [List.getLast?_append_of_ne_nil _ shows.isDigits.nonempty, shows.last]
        simpa using digitOf_ne_zero (n % 10) (Nat.mod_lt _ (by omega)) last
      have zero : IsDigits [0x30] := by decide
      obtain ⟨l, tidy, text⟩ :=
        exists_pointed zero (fun _ => rfl) point fun h => absurd h noZero
      refine ⟨l, tidy, ?_⟩
      rw [text, encode_cons, encode_cons, encode_append, encode_zeros]
      rfl

theorem padLeft_one (n : Nat) : (Decimal.padLeft 1 (toString n)).toList = Nat.toDigits 10 n := by
  have pos := Nat.length_toDigits_pos (b := 10) (n := n)
  simp only [Decimal.padLeft, Nat.toString_eq_ofList_toDigits, String.toList_append,
    String.toList_ofList, String.length_ofList]
  rw [show 1 - (Nat.toDigits 10 n).length = 0 by omega]
  rfl

theorem exists_exponent {exponent : Int} (outside : exponent < -5 ∨ 15 < exponent) :
    ∃ e : Exponent, e.Tidy ∧ e.text = encode ('e' :: ((if exponent < 0 then ['-'] else ['+']) ++
      Nat.toDigits 10 exponent.natAbs)) := by
  have shows := decimal_shows exponent.natAbs
  refine ⟨⟨false, if exponent < 0 then .minus else .plus, _, shows.isDigits⟩, ⟨rfl, ?_, ?_, ?_⟩, ?_⟩
  · split <;> nofun
  · exact shows.noNeedlessZero (by omega)
  · rw [shows.value]
    by_cases below : exponent < 0 <;> simp only [below, if_true, if_false, reduceCtorEq] <;> omega
  · rw [encode_cons, encode_append]
    by_cases below : exponent < 0 <;> simp only [below, if_true, if_false, Exponent.text] <;> rfl

theorem length_encode_digit {d : Char} (h : d ∈ Nat.toDigits 10 n) : (encode [d]).length = 1 := by
  have digit := Nat.isDigit_of_mem_toDigits (by omega) (Nat.le_refl 10) h
  simp only [Char.isDigit, Bool.and_eq_true, decide_eq_true_eq] at digit
  have small : d.val ≤ 127 := UInt32.le_trans digit.2 (by decide)
  simp [encode, Char.utf8Size_eq_one_iff.mpr small]

theorem exists_scientific (nonzero : n ≠ 0) (last : n % 10 ≠ 0) {exponent : Int}
    (outside : exponent < -5 ∨ 15 < exponent) : ∃ l : Literal, l.Tidy ∧
      l.body = encode (Layout.json.scientific (Nat.toDigits 10 n) exponent) := by
  obtain ⟨e, tidy, text⟩ := exists_exponent outside
  obtain ⟨d, rest, eq⟩ := List.exists_cons_of_ne_nil (Nat.toDigits_ne_nil (b := 10) (n := n))
  have one : (encode [d]).length = 1 := length_encode_digit (eq ▸ List.mem_cons_self)
  have written : encode (Layout.json.scientific (Nat.toDigits 10 n) exponent) =
      encode (if rest = [] then [d] else d :: '.' :: rest) ++ e.text := by
    have size : (Decimal.padLeft Layout.json.exponentWidth (toString exponent.natAbs)).toList =
        Nat.toDigits 10 exponent.natAbs := padLeft_one _
    rw [text, ← encode_append, eq]
    unfold Layout.scientific
    dsimp only
    rw [size]
    cases rest <;> rfl
  rw [written]
  cases rest with
  | nil =>
    have shows := decimal_shows n
    have whole : decimal n = encode [d] := by rw [decimal, eq]
    rw [whole] at shows
    let l : Literal :=
      { point := none, exponent := some e, negative := false, whole := encode [d]
        isWhole := shows.isDigits
        noNeedlessZero := fun zero => absurd zero (shows.noNeedlessZero nonzero)
        isPoint := nofun }
    refine ⟨l, ⟨fun plain => (nomatch plain.exponent), nofun, ?_⟩, rfl⟩
    rintro _ ⟨⟩
    refine ⟨tidy, one, fun zero => shows.noNeedlessZero nonzero ?_⟩
    rw [show encode [d] = _ from zero]
    rfl
  | cons c cs =>
    obtain ⟨whole, head, point, noZero⟩ := exists_cut (a := [d]) (b := c :: cs) eq
      (List.cons_ne_nil _ _) (List.cons_ne_nil _ _) nonzero last
    let l : Literal :=
      { point := some (encode (c :: cs)), exponent := some e, negative := false
        whole := encode [d], isWhole := whole
        noNeedlessZero := fun zero => absurd zero head
        isPoint := by rintro _ ⟨⟩; exact point }
    refine ⟨l, ⟨fun plain => (nomatch plain.exponent), ?_, ?_⟩, ?_⟩
    · rintro _ ⟨⟩ zero
      exact absurd zero noZero
    · rintro _ ⟨⟩
      refine ⟨tidy, one, fun zero => head ?_⟩
      rw [show encode [d] = _ from zero]
      rfl
    · have parts : encode (d :: '.' :: c :: cs) =
          encode [d] ++ 0x2E :: encode (c :: cs) := encode_append [d] ('.' :: c :: cs)
      rw [if_neg (List.cons_ne_nil _ _), parts]
      simp [l, Literal.body, Tail.text, pointText, exponentText]

theorem exists_tidy_digits {d : Decimal.Digits} (trimmed : d.digits % 10 ≠ 0 ∨ d.digits = 0) :
    ∃ l : Literal, l.Tidy ∧ l.body = ofString (Layout.json.writeDigits d) := by
  unfold Layout.writeDigits
  by_cases zero : d.digits = 0
  · have isZero : IsDigits [0x30] := by decide
    rw [if_pos zero]
    exact exists_pointed isZero (fun _ => rfl) isZero fun _ => rfl
  · have last : d.digits % 10 ≠ 0 := trimmed.resolve_right zero
    have text : (toString d.digits).toList = Nat.toDigits 10 d.digits := by
      rw [Nat.toString_eq_ofList_toDigits, String.toList_ofList]
    rw [if_neg zero, text, ofString, String.toList_ofList]
    have range : Layout.json.inPlace = some (-5, 15) := rfl
    simp only [range]
    split
    · exact exists_place zero last d.scale
    · next outside =>
      simp only [Bool.and_eq_true, decide_eq_true_eq] at outside
      exact exists_scientific zero last (by omega)

theorem not_isNaN_isInf {x : Float} (h : x.isFinite = true) : x.isNaN = false ∧ x.isInf = false := by
  unfold Float.isFinite Float.Model.isFinite at h
  unfold Float.isNaN Float.Model.isNaN Float.isInf Float.Model.isInf
  generalize x.toModel.unpack = u at h
  cases u with
  | notANumber => cases h
  | infinity s => cases h
  | zero s => exact ⟨rfl, rfl⟩
  | finite s m e pos => exact ⟨rfl, rfl⟩

theorem shortest_trimmed (m : Decimal.Magnitude) :
    m.shortest.digits % 10 ≠ 0 ∨ m.shortest.digits = 0 := by
  by_cases zero : m.mantissa = 0
  · have none : m.shortest = ⟨0, 0⟩ := by rw [Decimal.Magnitude.shortest, if_pos zero]
    exact .inr (by rw [none])
  · have some : ∃ d : Decimal.Digits, m.shortest = d.trim := by
      rw [Decimal.Magnitude.shortest, if_neg zero]
      exact ⟨_, rfl⟩
    obtain ⟨d, eq⟩ := some
    rw [eq]
    exact trim_digits d

theorem exists_tidy {x : Float} (finite : x.isFinite = true) :
    ∃ l : Literal, l.Tidy ∧ l.text = ofString (Layout.json.write x) := by
  obtain ⟨notNaN, notInf⟩ := not_isNaN_isInf finite
  obtain ⟨l, tidy, text⟩ := exists_tidy_digits (shortest_trimmed (.ofBits x.toBits))
  have written : Layout.json.write x = if x.toBits >>> 63 == 1 then
      "-" ++ Layout.json.writeDigits (Decimal.Magnitude.ofBits x.toBits).shortest
      else Layout.json.writeDigits (Decimal.Magnitude.ofBits x.toBits).shortest := by
    simp only [Layout.write, Layout.writeWith, notNaN, notInf, Bool.false_eq_true, if_false]
  generalize (x.toBits >>> 63 == 1) = negative at written
  rw [written]
  refine ⟨{ l with negative := negative }, ⟨?_, tidy.point, tidy.exponent⟩, ?_⟩
  · exact fun plain => tidy.notPlain ⟨plain.point, plain.exponent⟩
  · have body : ({ l with negative := negative } : Literal).body = l.body := rfl
    cases negative with
    | false => exact body.trans text
    | true =>
      rw [if_pos rfl, ofString, String.toList_append, encode_append]
      exact congrArg (List.cons 0x2D) text

/-- Literals that are stored as they are written: whole numbers of 64 bits, a negative zero apart,
and the shortest text of a binary64 number. -/
inductive Literal.Kept (l : Literal) : Prop
  | nonnegative (plain : l.Plain) (sign : l.negative = false)
      (fits : digitsValue l.whole < Word.unsignedEnd) : Kept l
  | negative (plain : l.Plain) (sign : l.negative = true) (nonzero : digitsValue l.whole ≠ 0)
      (fits : digitsValue l.whole ≤ Word.signedEnd) : Kept l
  | shortest {x : Float} (number : l.number? = some (.float x)) (finite : x.isFinite = true)
      (text : l.text = ofString (Layout.json.write x)) : Kept l

namespace Literal

variable {l : Literal} {number : Number}

theorem Plain.text (plain : l.Plain) :
    l.text = (if l.negative then [0x2D] else []) ++ decimal (digitsValue l.whole) := by
  rw [decimal_digitsValue l.isWhole l.noNeedlessZero, Literal.text, Literal.body, Tail.text,
    plain.point, plain.exponent]
  simp [pointText, exponentText]

theorem Kept.tidy (kept : l.Kept) : l.Plain ∨ l.Tidy := by
  cases kept with
  | nonnegative plain => exact .inl plain
  | negative plain => exact .inl plain
  | shortest _ finite text =>
    obtain ⟨l', tidy, text'⟩ := exists_tidy finite
    have same : l.text ++ [] = l'.text ++ [] := by rw [text, text']
    obtain ⟨rfl, -⟩ := Literal.eq_of_append l.endsBefore_nil l'.endsBefore_nil same
    exact .inr tidy

theorem ofString_text_of_negative {v : Nat} (nonzero : v ≠ 0) :
    ofString (Number.int (-(v : Int))).text = 0x2D :: decimal v := by
  obtain ⟨k, rfl⟩ := Nat.exists_eq_succ_of_ne_zero nonzero
  have text : (Number.int (-((k + 1 : Nat) : Int))).text = "-" ++ toString (k + 1) := rfl
  rw [text, ofString, String.toList_append, encode_append]
  exact congrArg (List.cons 0x2D) (ofString_toString (k + 1))

theorem ofString_text_iff (h : l.number? = some number) :
    ofString number.text = l.text ↔ l.Kept := by
  constructor
  · intro same
    cases number with
    | int i =>
      obtain ⟨plain, fits⟩ := plain_of_int h
      rw [plain.number? fits] at h
      cases sign : l.negative with
      | false => exact .nonnegative plain sign fits
      | true =>
        simp only [sign, wholeNumber, if_true, Option.some.injEq] at h
        split at h
        · cases h
        · next inside => exact .negative plain sign (fun zero => inside (.inl zero)) (by omega)
    | float x =>
      simp only [Number.text, Decimal.jsonText] at same
      split at same
      · next finite => exact .shortest h finite same.symm
      · obtain ⟨b, rest, text, first⟩ := l.exists_cons
        rw [text] at same
        obtain rfl : 0x6E = b := (List.cons.inj same).1
        exact absurd first (by decide)
  · intro kept
    cases kept with
    | nonnegative plain sign fits =>
      rw [plain.number? fits, sign] at h
      obtain rfl : Number.int (digitsValue l.whole) = number := Option.some.inj h
      rw [plain.text, sign]
      exact ofString_toString _
    | negative plain sign nonzero fits =>
      have small : digitsValue l.whole < Word.unsignedEnd := Nat.lt_of_le_of_lt fits (by decide)
      rw [plain.number? small, sign, wholeNumber, if_pos rfl, if_neg (by omega)] at h
      obtain rfl : Number.int (-(digitsValue l.whole : Int)) = number := Option.some.inj h
      rw [plain.text, sign, ofString_text_of_negative nonzero]
      rfl
    | shortest float finite text =>
      obtain rfl : _ = number := Option.some.inj (float.symm.trans h)
      rw [text, Number.text, Decimal.jsonText, if_pos finite]

end Literal

/-- What is stored for a number that is written as a literal: the text of the number that the literal
stands for. It is the literal itself just when the literal is kept. -/
structure StoredAs (l : Literal) (stored : String) : Prop where
  number : ∃ n, l.number? = some n ∧ stored = n.text
  kept : ofString stored = l.text ↔ l.Kept
  tidy : l.Kept → l.Plain ∨ l.Tidy

theorem storedAs_text {l : Literal} {n : Number} (h : l.number? = some n) : StoredAs l n.text :=
  ⟨⟨n, h, rfl⟩, Literal.ofString_text_iff h, Literal.Kept.tidy⟩

end SchemaForge.Json
