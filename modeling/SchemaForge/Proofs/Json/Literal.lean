import SchemaForge.Json.Reader
import SchemaForge.Proofs.Outcome
import Mathlib.Data.List.TakeWhile

/-! Number literals: what they look like, and which number each of them is read as. Reading a number
takes the longest literal that the text begins with, and what follows the literal plays no part in the
number. A text begins with at most one literal that ends there. -/

namespace SchemaForge.Json

open Outcome (Gives)
open Text.Utf8 (Bytes)

structure IsDigits (ds : Bytes) : Prop where
  nonempty : ds ≠ []
  digit : ∀ b ∈ ds, isDigitByte b = true

instance (ds : Bytes) : Decidable (IsDigits ds) :=
  decidable_of_iff (ds ≠ [] ∧ ds.all isDigitByte = true)
    ⟨fun h => ⟨h.1, List.all_eq_true.mp h.2⟩, fun h => ⟨h.nonempty, List.all_eq_true.mpr h.digit⟩⟩

def NoDigit (r : Bytes) : Prop := ∀ b ∈ r.head?, isDigitByte b = false

theorem NoDigit.cons {b : UInt8} (h : isDigitByte b = false) (r : Bytes) : NoDigit (b :: r) := by
  rintro _ ⟨⟩
  exact h

theorem exists_digits (s : Bytes) :
    ∃ ds r, s = ds ++ r ∧ (∀ b ∈ ds, isDigitByte b = true) ∧ NoDigit r := by
  refine ⟨s.takeWhile isDigitByte, s.dropWhile isDigitByte, List.takeWhile_append_dropWhile.symm,
    fun b hb => List.mem_takeWhile_imp hb, fun b hb => ?_⟩
  have stops := List.head?_dropWhile_not isDigitByte s
  rw [hb] at stops
  simpa using stops

theorem takeWhile_digits {ds r : Bytes} (digits : ∀ b ∈ ds, isDigitByte b = true) (stop : NoDigit r) :
    (ds ++ r).takeWhile isDigitByte = ds := by
  rw [List.takeWhile_append_of_pos digits]
  cases r with
  | nil => simp
  | cons b r => simp [stop b rfl]

theorem digits_inj {ds ds' r r' : Bytes} (digits : ∀ b ∈ ds, isDigitByte b = true)
    (digits' : ∀ b ∈ ds', isDigitByte b = true) (stop : NoDigit r) (stop' : NoDigit r')
    (h : ds ++ r = ds' ++ r') : ds = ds' ∧ r = r' := by
  have same : ds = ds' := by rw [← takeWhile_digits digits stop, h, takeWhile_digits digits' stop']
  exact ⟨same, List.append_cancel_left (same ▸ h)⟩

theorem digitValue_lt (b : UInt8) : digitValue b < 256 := by
  have : b.toNat < 256 := b.toNat_lt
  unfold digitValue
  omega

def digitsValue (ds : Bytes) : Nat := ds.foldl (fun v b => v * 10 + digitValue b) 0

theorem wholeDigits_append {ds r : Bytes} (digits : ∀ b ∈ ds, isDigitByte b = true) (stop : NoDigit r)
    (m : Nat) (full : Bool) (dropped : Nat) :
    ∃ h, wholeDigits m full dropped (ds ++ r) =
      ((wholeDigits m full dropped ds).1, (wholeDigits m full dropped ds).2.1, ⟨r, h⟩) := by
  induction ds generalizing m full dropped with
  | nil =>
    refine ⟨Nat.le_refl _, ?_⟩
    cases r with
    | nil => rfl
    | cons b r => simp [wholeDigits, stop b rfl]
  | cons b ds ih =>
    obtain ⟨here, digits⟩ := List.forall_mem_cons.mp digits
    simp only [List.cons_append, wholeDigits, here, if_true]
    split
    · obtain ⟨h, eq⟩ := ih digits m true (dropped + 1)
      exact ⟨Nat.le_succ_of_le h, by rw [eq]⟩
    · obtain ⟨h, eq⟩ := ih digits (m * 10 + digitValue b) false dropped
      exact ⟨Nat.le_succ_of_le h, by rw [eq]⟩

theorem pointDigits_append {ds r : Bytes} (digits : ∀ b ∈ ds, isDigitByte b = true) (stop : NoDigit r)
    (m : Nat) (full : Bool) (taken : Nat) :
    ∃ h, pointDigits m full taken (ds ++ r) =
      ((pointDigits m full taken ds).1, (pointDigits m full taken ds).2.1, ⟨r, h⟩) := by
  induction ds generalizing m full taken with
  | nil =>
    refine ⟨Nat.le_refl _, ?_⟩
    cases r with
    | nil => rfl
    | cons b r => simp [pointDigits, stop b rfl]
  | cons b ds ih =>
    obtain ⟨here, digits⟩ := List.forall_mem_cons.mp digits
    simp only [List.cons_append, pointDigits, here, if_true]
    split
    · obtain ⟨h, eq⟩ := ih digits m true taken
      exact ⟨Nat.le_succ_of_le h, by rw [eq]⟩
    · obtain ⟨h, eq⟩ := ih digits (m * 10 + digitValue b) false (taken + 1)
      exact ⟨Nat.le_succ_of_le h, by rw [eq]⟩

theorem exponentDigits_append {ds r : Bytes} (digits : ∀ b ∈ ds, isDigitByte b = true)
    (stop : NoDigit r) (v : Nat) (outgrown : Option Bytes)
    (before : outgrown.isSome = true ↔ Word.signedEnd32 ≤ v) :
    ∃ o h, exponentDigits v outgrown (ds ++ r) =
        (ds.foldl (fun v b => v * 10 + digitValue b) v, o, ⟨r, h⟩) ∧
      (o.isSome = true ↔ Word.signedEnd32 ≤ ds.foldl (fun v b => v * 10 + digitValue b) v) := by
  induction ds generalizing v outgrown with
  | nil =>
    refine ⟨outgrown, Nat.le_refl _, ?_, before⟩
    cases r with
    | nil => rfl
    | cons b r => simp [exponentDigits, stop b rfl]
  | cons b ds ih =>
    obtain ⟨here, digits⟩ := List.forall_mem_cons.mp digits
    have now : (outgrown.or (if Word.signedEnd32 ≤ v * 10 + digitValue b then some (ds ++ r)
        else none)).isSome = true ↔ Word.signedEnd32 ≤ v * 10 + digitValue b := by
      by_cases grown : Word.signedEnd32 ≤ v
      · have : Word.signedEnd32 ≤ v * 10 + digitValue b := by omega
        simp [this]
      · have : outgrown = none := by
          rw [← Option.not_isSome_iff_eq_none, before]
          exact grown
        subst this
        by_cases next : Word.signedEnd32 ≤ v * 10 + digitValue b <;> simp [next]
    obtain ⟨o, h, eq, ho⟩ := ih digits _ _ now
    simp only [List.cons_append, exponentDigits, here, if_true, List.foldl_cons]
    exact ⟨o, Nat.le_succ_of_le h, by rw [eq], ho⟩

inductive Sign where
  | unsigned
  | plus
  | minus
  deriving DecidableEq, Repr

def Sign.text : Sign → Bytes
  | .unsigned => []
  | .plus => [0x2B]
  | .minus => [0x2D]

structure Exponent where
  capital : Bool
  sign : Sign
  digits : Bytes
  isDigits : IsDigits digits

def Exponent.text (e : Exponent) : Bytes :=
  (if e.capital then 0x45 else 0x65) :: (e.sign.text ++ e.digits)

structure Tail where
  point : Option Bytes
  exponent : Option Exponent
  isPoint : ∀ ds ∈ point, IsDigits ds

def pointText : Option Bytes → Bytes
  | none => []
  | some ds => 0x2E :: ds

def exponentText : Option Exponent → Bytes
  | none => []
  | some e => e.text

def Tail.text (t : Tail) : Bytes := pointText t.point ++ exponentText t.exponent

structure Tail.EndsBefore (t : Tail) (r : Bytes) : Prop where
  noDigit : NoDigit r
  noExponent : t.exponent = none → r.head? ≠ some 0x65 ∧ r.head? ≠ some 0x45
  noPoint : t.point = none → t.exponent = none → r.head? ≠ some 0x2E

/-- A number literal: a sign, digits without a needless zero in front, and what follows them. -/
structure Literal extends Tail where
  negative : Bool
  whole : Bytes
  isWhole : IsDigits whole
  noNeedlessZero : whole.head? = some 0x30 → whole = [0x30]

def Literal.body (l : Literal) : Bytes := l.whole ++ l.toTail.text

def Literal.text (l : Literal) : Bytes := (if l.negative then [0x2D] else []) ++ l.body

/-- A number `significand * 10 ^ exponent` as it is computed, unless it is too large. -/
def float? (negative : Bool) (significand : Nat) (exponent : Int) : Option Number :=
  (scaleFloat significand.toUInt64.toFloat exponent).map (signedFloat negative)

/-- A number with an exponent. One of more than 31 bits leaves nothing of the number, or is too
large. -/
def Exponent.number? (negative : Bool) (significand : Nat) (scale : Int) (e : Exponent) :
    Option Number :=
  let size := digitsValue e.digits
  if Word.signedEnd32 ≤ size then
    if significand ≠ 0 ∧ e.sign ≠ .minus then none else some (signedFloat negative 0.0)
  else float? negative significand (scale + if e.sign = .minus then -(size : Int) else size)

def wholeNumber (negative : Bool) (significand : Nat) : Number :=
  if negative then
    if significand = 0 ∨ Word.signedEnd < significand then
      signedFloat true significand.toUInt64.toFloat
    else .int (-(significand : Int))
  else .int significand

/-- The number that comes of a whole part, given by its significand and the count of digits that did
not fit, and of what follows it. -/
def Tail.number? (negative : Bool) (significand dropped : Nat) (t : Tail) : Option Number :=
  match t.point, t.exponent with
  | none, none =>
    if dropped = 0 then some (wholeNumber negative significand)
    else float? negative significand dropped
  | none, some e => e.number? negative significand dropped
  | some ds, exponent =>
    let read := pointDigits significand false 0 ds
    let scale : Int := (dropped : Int) - read.2.1
    match exponent with
    | none => float? negative read.1 scale
    | some e => e.number? negative read.1 scale

/-- The number that a literal stands for, unless it is too large for one. -/
def Literal.number? (l : Literal) : Option Number :=
  let read := wholeDigits 0 false 0 l.whole
  l.toTail.number? l.negative read.1 read.2.1

theorem floatNumber_gives (negative : Bool) (m : Nat) (exponent : Int) (rest : Bytes) :
    Gives (fun n => float? negative m exponent = some n) (floatNumber negative m exponent rest) := by
  unfold floatNumber float?
  split
  · next x hx => exact .ok (by rw [hx]; rfl)
  · exact .error _

theorem exponentPart_gives (negative : Bool) (m : Nat) (scale : Int) (capital : Bool) (s : Bytes) :
    Gives (fun p => ∃ e : Exponent, e.capital = capital ∧ s = e.sign.text ++ e.digits ++ p.2.1 ∧
        NoDigit p.2.1 ∧ e.number? negative m scale = some p.1)
      (exponentPart negative m scale s) := by
  unfold exponentPart
  split
  next down s₁ h₁ read =>
  have written : ∃ sign : Sign, s = sign.text ++ s₁ ∧ down = decide (sign = .minus) := by
    split at read <;> cases read
    · exact ⟨.plus, rfl, rfl⟩
    · exact ⟨.minus, rfl, rfl⟩
    · exact ⟨.unsigned, rfl, rfl⟩
  obtain ⟨sign, rfl, rfl⟩ := written
  split
  · exact .error _
  · next b s₂ h₁ _ =>
    refine .ite (fun first => ?_) fun _ => .error _
    obtain ⟨ds, r, rfl, digits, stop⟩ := exists_digits s₂
    have small : ¬ Word.signedEnd32 ≤ digitValue b := by
      have := digitValue_lt b
      unfold Word.signedEnd32
      omega
    obtain ⟨o, h, eq, outgrown⟩ :=
      exponentDigits_append digits stop (digitValue b) none (by simp [small])
    rw [eq]
    have digits : ∀ d ∈ b :: ds, isDigitByte d = true := List.forall_mem_cons.mpr ⟨first, digits⟩
    let e : Exponent := ⟨capital, sign, b :: ds, ⟨List.cons_ne_nil _ _, digits⟩⟩
    have size : digitsValue e.digits = ds.foldl (fun v b => v * 10 + digitValue b) (digitValue b) := by
      simp [digitsValue, e]
    rw [← size] at outgrown ⊢
    dsimp only
    split
    · refine .ite (fun _ => .error _) fun fits => .ok ⟨e, rfl, by simp [e], stop, ?_⟩
      have fits : ¬ (m ≠ 0 ∧ e.sign ≠ .minus) := by simpa [e] using fits
      simp only [Exponent.number?, if_pos (outgrown.mp rfl), if_neg fits]
    · have inside : ¬ Word.signedEnd32 ≤ digitsValue e.digits := fun grown =>
        nomatch outgrown.mpr grown
      refine Gives.bind (floatNumber_gives _ _ _ _) fun n hn => .pure ⟨e, rfl, by simp [e], stop, ?_⟩
      simpa only [Exponent.number?, if_neg inside, decide_eq_true_eq] using hn

/-- An exponent that is read ends the literal, be there digits behind a point or not. -/
theorem exponentPart_tail (point : Option Bytes) (isPoint : ∀ ds ∈ point, IsDigits ds)
    (negative : Bool) (m : Nat) (scale : Int) (capital : Bool) (s : Bytes) :
    Gives (fun p => ∃ e : Exponent, pointText point ++ (if capital then 0x45 else 0x65) :: s =
        Tail.text ⟨point, some e, isPoint⟩ ++ p.2.1 ∧
        Tail.EndsBefore ⟨point, some e, isPoint⟩ p.2.1 ∧ e.number? negative m scale = some p.1)
      (exponentPart negative m scale s) := by
  intro p hp
  obtain ⟨e, rfl, written, stop, number⟩ := exponentPart_gives negative m scale capital s p hp
  refine ⟨e, ?_, ⟨stop, nofun, nofun⟩, number⟩
  simp [Tail.text, exponentText, Exponent.text, written]

theorem head?_ne {s : Bytes} {b : UInt8} (h : ∀ r, s = b :: r → False) : s.head? ≠ some b := by
  intro hb
  obtain ⟨r, hr⟩ := List.head?_eq_some_iff.mp hb
  exact h r hr

theorem numberTail_gives (negative : Bool) (m dropped : Nat) {s : Bytes} (stop : NoDigit s) :
    Gives (fun p => ∃ t : Tail, s = t.text ++ p.2.1 ∧ t.EndsBefore p.2.1 ∧
        t.number? negative m dropped = some p.1)
      (numberTail negative m dropped s) := by
  unfold numberTail
  split
  · next r =>
    obtain ⟨ds, r, rfl, digits, stop⟩ := exists_digits r
    obtain ⟨h, eq⟩ := pointDigits_append digits stop m false 0
    rw [eq]
    dsimp only
    refine .ite (fun _ => .error _) fun taken => ?_
    have isPoint : IsDigits ds := ⟨by rintro rfl; exact taken rfl, digits⟩
    have isPoint : ∀ ds' ∈ some ds, IsDigits ds' := by
      rintro _ ⟨⟩
      exact isPoint
    split
    · refine (exponentPart_tail _ isPoint _ _ _ false _).bind fun p found => .pure ?_
      obtain ⟨e, written, ends, number⟩ := found
      exact ⟨_, by simp [← written, pointText], ends, number⟩
    · refine (exponentPart_tail _ isPoint _ _ _ true _).bind fun p found => .pure ?_
      obtain ⟨e, written, ends, number⟩ := found
      exact ⟨_, by simp [← written, pointText], ends, number⟩
    · next low capital =>
      refine Gives.bind (floatNumber_gives _ _ _ _) fun n number => ?_
      refine .pure ⟨⟨some ds, none, isPoint⟩, ?_, ⟨stop, fun _ => ?_, nofun⟩, number⟩
      · simp [Tail.text, pointText, exponentText]
      · constructor
        · exact head?_ne fun r₂ (hr : r = _) => by subst hr; exact low r₂ h rfl HEq.rfl
        · exact head?_ne fun r₂ (hr : r = _) => by subst hr; exact capital r₂ h rfl HEq.rfl
  · refine (exponentPart_tail none nofun _ _ _ false _).bind fun p found => .pure ?_
    obtain ⟨e, written, ends, number⟩ := found
    exact ⟨_, written, ends, number⟩
  · refine (exponentPart_tail none nofun _ _ _ true _).bind fun p found => .pure ?_
    obtain ⟨e, written, ends, number⟩ := found
    exact ⟨_, written, ends, number⟩
  · next point low capital =>
    have ends : Tail.EndsBefore ⟨none, none, nofun⟩ s :=
      ⟨stop, fun _ => ⟨head?_ne low, head?_ne capital⟩, fun _ _ => head?_ne point⟩
    refine .ite (fun fits => ?_) fun tooLong => ?_
    · have number : Tail.number? negative m dropped ⟨none, none, nofun⟩ =
          some (wholeNumber negative m) := if_pos fits
      refine .ite (fun below => .ite (fun outside => ?_) fun inside => ?_) fun above => ?_
      · have outside : m = 0 ∨ Word.signedEnd < m := by simpa using outside
        refine .ok ⟨⟨none, none, nofun⟩, rfl, ends, number.trans ?_⟩
        simp [wholeNumber, below, outside]
      · have inside : ¬ (m = 0 ∨ Word.signedEnd < m) := by simpa using inside
        refine .ok ⟨⟨none, none, nofun⟩, rfl, ends, number.trans ?_⟩
        simp only [wholeNumber, below, if_true, if_neg inside]
      · refine .ok ⟨⟨none, none, nofun⟩, rfl, ends, number.trans ?_⟩
        simp [wholeNumber, above]
    · refine Gives.bind (floatNumber_gives _ _ _ _) fun n number => ?_
      exact .pure ⟨⟨none, none, nofun⟩, rfl, ends, (if_neg tooLong).trans number⟩

theorem wholeDigits_first {b : UInt8} (first : isDigitByte b = true) (ds : Bytes) :
    (wholeDigits 0 false 0 (b :: ds)).1 = (wholeDigits (digitValue b) false 0 ds).1 ∧
      (wholeDigits 0 false 0 (b :: ds)).2.1 = (wholeDigits (digitValue b) false 0 ds).2.1 := by
  have fits : ¬ Word.unsignedEnd ≤ digitValue b := by
    have := digitValue_lt b
    unfold Word.unsignedEnd
    omega
  simp [wholeDigits, first, fits]

/-- A number that is read is a literal that the text begins with, and the number of that literal. -/
theorem number_gives (negative : Bool) (s : Bytes) :
    Gives (fun p => ∃ l : Literal, l.negative = negative ∧ s = l.body ++ p.2.1 ∧
        l.EndsBefore p.2.1 ∧ l.number? = some p.1)
      (number negative s) := by
  unfold number
  split
  · exact .error _
  · next b r =>
    refine .ite (fun zero => ?_) fun notZero => .ite (fun first => ?_) fun _ => .error _
    · obtain rfl : b = 0x30 := by simpa using zero
      have isWhole : IsDigits [0x30] := by decide
      split
      · refine (numberTail_gives negative 0 0 (by simp [NoDigit])).bind fun p found => ?_
        obtain ⟨t, written, ends, number⟩ := found
        exact .pure ⟨⟨t, negative, [0x30], isWhole, fun _ => rfl⟩, rfl,
          congrArg (List.cons 0x30) written, ends, number⟩
      · next d r' =>
        refine .ite (fun _ => .error _) fun stop => ?_
        have stop : NoDigit (d :: r') := .cons (by simpa using stop) r'
        refine (numberTail_gives negative 0 0 stop).bind fun p found => ?_
        obtain ⟨t, written, ends, number⟩ := found
        exact .pure ⟨⟨t, negative, [0x30], isWhole, fun _ => rfl⟩, rfl,
          congrArg (List.cons 0x30) written, ends, number⟩
    · obtain ⟨ds, r, rfl, digits, stop⟩ := exists_digits r
      obtain ⟨h, eq⟩ := wholeDigits_append digits stop (digitValue b) false 0
      obtain ⟨same, same'⟩ := wholeDigits_first first ds
      rw [eq]
      refine (numberTail_gives negative _ _ stop).bind fun p found => ?_
      obtain ⟨t, written, ends, number⟩ := found
      have isWhole : IsDigits (b :: ds) :=
        ⟨List.cons_ne_nil _ _, List.forall_mem_cons.mpr ⟨first, digits⟩⟩
      refine .pure ⟨⟨t, negative, b :: ds, isWhole, ?_⟩, rfl, ?_, ends, ?_⟩
      · intro zero
        simp_all
      · simp [Literal.body, written]
      · rw [← same, ← same'] at number
        exact number

theorem IsDigits.exists_cons {ds : Bytes} (h : IsDigits ds) :
    ∃ d rest, ds = d :: rest ∧ isDigitByte d = true := by
  obtain ⟨d, rest, rfl⟩ := List.exists_cons_of_ne_nil h.nonempty
  exact ⟨d, rest, rfl, h.digit d List.mem_cons_self⟩

theorem Literal.exists_cons (l : Literal) :
    ∃ b rest, l.text = b :: rest ∧ (b = 0x2D ∨ isDigitByte b = true) := by
  obtain ⟨d, rest, whole, first⟩ := l.isWhole.exists_cons
  cases sign : l.negative with
  | false => exact ⟨d, rest ++ l.toTail.text, by simp [Literal.text, Literal.body, sign, whole], .inr first⟩
  | true => exact ⟨0x2D, l.body, by simp [Literal.text, sign], .inl rfl⟩

theorem Tail.endsBefore_nil (t : Tail) : t.EndsBefore [] :=
  ⟨nofun, fun _ => ⟨nofun, nofun⟩, fun _ _ => nofun⟩

theorem Sign.eq_of_append {sign sign' : Sign} {ds ds' r r' : Bytes} (digits : IsDigits ds)
    (digits' : IsDigits ds') (h : sign.text ++ (ds ++ r) = sign'.text ++ (ds' ++ r')) :
    sign = sign' := by
  obtain ⟨d, rest, rfl, first⟩ := digits.exists_cons
  obtain ⟨d', rest', rfl, first'⟩ := digits'.exists_cons
  have plus : isDigitByte 0x2B = false := rfl
  have minus : isDigitByte 0x2D = false := rfl
  cases sign <;> cases sign' <;> simp_all [Sign.text]

theorem Exponent.eq_of_append {e e' : Exponent} {r r' : Bytes} (stop : NoDigit r) (stop' : NoDigit r')
    (h : e.text ++ r = e'.text ++ r') : e = e' ∧ r = r' := by
  obtain ⟨capital, sign, ds, digits⟩ := e
  obtain ⟨capital', sign', ds', digits'⟩ := e'
  simp only [Exponent.text, List.cons_append, List.append_assoc, List.cons.injEq] at h
  obtain ⟨mark, rest⟩ := h
  obtain rfl : capital = capital' := by
    cases capital <;> cases capital' <;> simp_all
  obtain rfl := Sign.eq_of_append digits digits' rest
  obtain ⟨rfl, rfl⟩ :=
    digits_inj digits.digit digits'.digit stop stop' (List.append_cancel_left rest)
  exact ⟨rfl, rfl⟩

theorem Exponent.head?_text (e : Exponent) (r : Bytes) :
    (e.text ++ r).head? = some 0x65 ∨ (e.text ++ r).head? = some 0x45 := by
  cases hc : e.capital <;> simp [Exponent.text, hc]

theorem exponentText_inj {e e' : Option Exponent} {r r' : Bytes} (stop : NoDigit r)
    (stop' : NoDigit r') (ends : e = none → r.head? ≠ some 0x65 ∧ r.head? ≠ some 0x45)
    (ends' : e' = none → r'.head? ≠ some 0x65 ∧ r'.head? ≠ some 0x45)
    (h : exponentText e ++ r = exponentText e' ++ r') : e = e' ∧ r = r' := by
  cases e with
  | none =>
    cases e' with
    | none => exact ⟨rfl, h⟩
    | some e' =>
      obtain rfl : r = e'.text ++ r' := h
      rcases e'.head?_text r' with mark | mark
      · exact absurd mark (ends rfl).1
      · exact absurd mark (ends rfl).2
  | some e =>
    cases e' with
    | none =>
      obtain rfl : e.text ++ r = r' := h
      rcases e.head?_text r with mark | mark
      · exact absurd mark (ends' rfl).1
      · exact absurd mark (ends' rfl).2
    | some e' =>
      obtain ⟨rfl, rfl⟩ := Exponent.eq_of_append stop stop' h
      exact ⟨rfl, rfl⟩

theorem noDigit_exponentText (e : Option Exponent) {r : Bytes} (stop : NoDigit r) :
    NoDigit (exponentText e ++ r) := by
  cases e with
  | none => exact stop
  | some e => cases hc : e.capital <;> simp [NoDigit, exponentText, Exponent.text, hc] <;> rfl

theorem Tail.EndsBefore.noPoint_text {t : Tail} {r : Bytes} (ends : t.EndsBefore r)
    (absent : t.point = none) : (exponentText t.exponent ++ r).head? ≠ some 0x2E := by
  cases he : t.exponent with
  | none => exact ends.noPoint absent he
  | some e =>
    intro point
    rcases e.head?_text r with mark | mark <;>
      · rw [show (exponentText (some e) ++ r).head? = _ from mark] at point
        cases point

theorem Tail.EndsBefore.noDigit_text {t : Tail} {r : Bytes} (ends : t.EndsBefore r) :
    NoDigit (t.text ++ r) := by
  unfold Tail.text
  rw [List.append_assoc]
  cases t.point with
  | none => exact noDigit_exponentText _ ends.noDigit
  | some ds => exact .cons rfl _

theorem Tail.eq_of_append {t t' : Tail} {r r' : Bytes} (ends : t.EndsBefore r)
    (ends' : t'.EndsBefore r') (h : t.text ++ r = t'.text ++ r') : t = t' ∧ r = r' := by
  have exponents := exponentText_inj ends.noDigit ends'.noDigit ends.noExponent ends'.noExponent
  have noPoint := ends.noPoint_text
  have noPoint' := ends'.noPoint_text
  have stop := noDigit_exponentText t.exponent ends.noDigit
  have stop' := noDigit_exponentText t'.exponent ends'.noDigit
  obtain ⟨point, e, isPoint⟩ := t
  obtain ⟨point', e', isPoint'⟩ := t'
  simp only [Tail.text, List.append_assoc] at h
  cases point with
  | none =>
    cases point' with
    | none =>
      obtain ⟨rfl, rfl⟩ := exponents h
      exact ⟨rfl, rfl⟩
    | some ds' => exact absurd (congrArg List.head? h) (noPoint rfl)
  | some ds =>
    cases point' with
    | none => exact absurd (congrArg List.head? h.symm) (noPoint' rfl)
    | some ds' =>
      obtain ⟨rfl, rest⟩ := digits_inj (isPoint ds rfl).digit (isPoint' ds' rfl).digit stop stop'
        (List.cons.inj h).2
      obtain ⟨rfl, rfl⟩ := exponents rest
      exact ⟨rfl, rfl⟩

theorem Literal.eq_of_append {l l' : Literal} {r r' : Bytes} (ends : l.EndsBefore r)
    (ends' : l'.EndsBefore r') (h : l.text ++ r = l'.text ++ r') : l = l' ∧ r = r' := by
  obtain ⟨t, negative, ds, digits, zero⟩ := l
  obtain ⟨t', negative', ds', digits', zero'⟩ := l'
  simp only [Literal.text, Literal.body, List.append_assoc] at h
  have minus : isDigitByte 0x2D = false := rfl
  obtain rfl : negative = negative' := by
    obtain ⟨d, rest, rfl, first⟩ := digits.exists_cons
    obtain ⟨d', rest', rfl, first'⟩ := digits'.exists_cons
    cases negative <;> cases negative' <;> simp_all
  obtain ⟨rfl, h⟩ := digits_inj digits.digit digits'.digit (Tail.EndsBefore.noDigit_text ends)
    (Tail.EndsBefore.noDigit_text ends') (List.append_cancel_left h)
  obtain ⟨rfl, rfl⟩ := Tail.eq_of_append ends ends' h
  exact ⟨rfl, rfl⟩

variable {negative : Bool} {m : Nat} {n : Number} {s r : Bytes}

theorem floatNumber_of_float? {exponent : Int} (h : float? negative m exponent = some n)
    (rest : Bytes) : floatNumber negative m exponent rest = .ok n := by
  obtain ⟨x, hx, rfl⟩ := Option.map_eq_some_iff.mp h
  simp only [floatNumber, hx]

theorem exponentPart_of_number? {scale : Int} {e : Exponent} (stop : NoDigit r)
    (text : s = e.sign.text ++ (e.digits ++ r)) (h : e.number? negative m scale = some n) :
    ∃ h, exponentPart negative m scale s = .ok (n, ⟨r, h⟩) := by
  obtain ⟨b, ds, cons, first⟩ := e.isDigits.exists_cons
  have digits := (List.forall_mem_cons.mp (cons ▸ e.isDigits.digit)).2
  have plus : b ≠ 0x2B := by rintro rfl; cases first
  have minus : b ≠ 0x2D := by rintro rfl; cases first
  have bound : r.length ≤ s.length := by
    rw [text, List.length_append, List.length_append]
    omega
  refine ⟨bound, ?_⟩
  unfold exponentPart
  split
  next down s₁ h₁ read =>
  have written : s₁ = b :: (ds ++ r) ∧ down = decide (e.sign = .minus) := by
    rw [cons] at text
    cases sign : e.sign <;> split at read <;> simp_all [Sign.text]
  obtain ⟨rfl, rfl⟩ := written
  obtain ⟨o, _, eq, outgrown⟩ := exponentDigits_append digits stop (digitValue b) none (by
    have := digitValue_lt b
    simp [Word.signedEnd32]
    omega)
  have size : digitsValue e.digits = ds.foldl (fun v b => v * 10 + digitValue b) (digitValue b) := by
    simp [digitsValue, cons]
  simp only [if_pos first, eq, ← size]
  rw [← size] at outgrown
  unfold Exponent.number? at h
  cases o with
  | some here =>
    rw [if_pos (outgrown.mp rfl)] at h
    split at h
    · cases h
    · next fits =>
      have fits : ¬ (m != 0 && !decide (e.sign = .minus)) = true := by simpa using fits
      simp only [if_neg fits, Option.some.inj h]
  | none =>
    rw [if_neg fun grown => nomatch outgrown.mpr grown] at h
    simp only [decide_eq_true_eq, floatNumber_of_float? h]
    rfl

theorem exponentText_cons (e : Exponent) (r : Bytes) :
    exponentText (some e) ++ r = 0x65 :: (e.sign.text ++ (e.digits ++ r)) ∨
      exponentText (some e) ++ r = 0x45 :: (e.sign.text ++ (e.digits ++ r)) := by
  cases mark : e.capital <;> simp [exponentText, Exponent.text, mark]

theorem numberTail_of_number? {dropped : Nat} {t : Tail} (ends : t.EndsBefore r)
    (text : s = t.text ++ r) (h : t.number? negative m dropped = some n) :
    ∃ h, numberTail negative m dropped s = .ok (n, ⟨r, h⟩) := by
  have bound : r.length ≤ s.length := by
    rw [text, List.length_append]
    omega
  refine ⟨bound, ?_⟩
  obtain ⟨point, exponent, isPoint⟩ := t
  rw [Tail.text, List.append_assoc] at text
  cases point with
  | some ds =>
    -- The branch is chosen by what follows the digits, which is given a name before they are read.
    obtain ⟨r₁, behind⟩ : ∃ r₁, r₁ = exponentText exponent ++ r := ⟨_, rfl⟩
    have stop : NoDigit r₁ := behind ▸ noDigit_exponentText exponent ends.noDigit
    obtain rfl : s = 0x2E :: (ds ++ r₁) := behind ▸ text
    obtain ⟨_, eq⟩ := pointDigits_append (isPoint ds rfl).digit stop m false 0
    have taken : ¬ r₁.length = (ds ++ r₁).length := by
      have := List.length_pos_iff.mpr (isPoint ds rfl).nonempty
      rw [List.length_append]
      omega
    rw [numberTail.eq_1, eq]
    dsimp only
    rw [if_neg taken]
    cases exponent with
    | some e =>
      have number : e.number? negative (pointDigits m false 0 ds).1
          ((dropped : Int) - (pointDigits m false 0 ds).2.1) = some n := h
      obtain ⟨_, reads⟩ := exponentPart_of_number? ends.noDigit rfl number
      rcases exponentText_cons e r with cons | cons
      · obtain rfl := behind.trans cons
        split
        · next same _ =>
          cases same
          rw [reads]
          rfl
        · next same _ => cases same
        · next low _ => exact (low _ _ rfl HEq.rfl).elim
      · obtain rfl := behind.trans cons
        split
        · next same _ => cases same
        · next same _ =>
          cases same
          rw [reads]
          rfl
        · next capital => exact (capital _ _ rfl HEq.rfl).elim
    | none =>
      obtain rfl : r₁ = r := behind
      have ends := ends.noExponent rfl
      split
      · exact absurd rfl ends.1
      · exact absurd rfl ends.2
      · rw [floatNumber_of_float? h]
        rfl
  | none =>
    cases exponent with
    | some e =>
      rcases exponentText_cons e r with cons | cons <;>
      · obtain rfl := text.trans cons
        obtain ⟨_, eq⟩ := exponentPart_of_number? ends.noDigit rfl h
        simp only [numberTail.eq_2, numberTail.eq_3, eq]
        rfl
    | none =>
      obtain rfl : s = r := text
      have exponent := ends.noExponent rfl
      rw [numberTail.eq_4]
      · simp only [Tail.number?] at h
        split at h
        · next fits =>
          rw [if_pos fits]
          obtain rfl := Option.some.inj h
          cases negative with
          | false => simp [wholeNumber]
          | true =>
            by_cases outside : m = 0 ∨ Word.signedEnd < m <;> simp [wholeNumber, outside]
        · next long =>
          rw [if_neg long, floatNumber_of_float? h]
          rfl
      · rintro r rfl
        exact ends.noPoint rfl rfl rfl
      · rintro r rfl
        exact exponent.1 rfl
      · rintro r rfl
        exact exponent.2 rfl

theorem number_of_number? {l : Literal} (ends : l.EndsBefore r) (text : s = l.body ++ r)
    (h : l.number? = some n) : ∃ h, number l.negative s = .ok (n, ⟨r, h⟩) := by
  have bound : r.length < s.length := by
    have := List.length_pos_iff.mpr l.isWhole.nonempty
    rw [text, Literal.body, List.length_append, List.length_append]
    omega
  refine ⟨bound, ?_⟩
  obtain ⟨t, negative, ds, isWhole, noZero⟩ := l
  obtain ⟨b, ds, rfl, first⟩ := isWhole.exists_cons
  have digits := (List.forall_mem_cons.mp isWhole.digit).2
  obtain ⟨rest, behind⟩ : ∃ rest, rest = t.text ++ r := ⟨_, rfl⟩
  have stop : NoDigit rest := behind ▸ Tail.EndsBefore.noDigit_text ends
  obtain rfl : s = b :: (ds ++ rest) := by
    rw [text, behind]
    simp [Literal.body]
  have number : t.number? negative (wholeDigits 0 false 0 (b :: ds)).1
    (wholeDigits 0 false 0 (b :: ds)).2.1 = some n := h
  obtain ⟨_, reads⟩ := numberTail_of_number? ends behind number
  unfold Json.number
  dsimp only
  by_cases zero : b = 0x30
  · subst zero
    obtain rfl : ds = [] := (List.cons.inj (noZero rfl)).2
    have reads : numberTail negative 0 0 rest = _ := reads
    rw [if_pos (by rfl)]
    cases rest with
    | nil =>
      rw [reads]
      rfl
    | cons d rest =>
      have notDigit : ¬ isDigitByte d = true := by simp [stop d rfl]
      dsimp only [List.nil_append]
      rw [if_neg notDigit, reads]
      rfl
  · have notZero : ¬ (b == 0x30) = true := by simpa using zero
    obtain ⟨_, eq⟩ := wholeDigits_append digits stop (digitValue b) false 0
    obtain ⟨same, same'⟩ := wholeDigits_first first ds
    rw [if_neg notZero, if_pos first, eq]
    dsimp only
    rw [← same, ← same', reads]
    rfl

end SchemaForge.Json
