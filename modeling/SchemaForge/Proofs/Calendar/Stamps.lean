import Mathlib.Algebra.Group.Nat.Defs
import Mathlib.Data.List.Induction
import SchemaForge.Calendar.Instant
import SchemaForge.Proofs.Calendar.Days

/-! Dates with a time of day and an offset, as they are written by RFC 3339: which texts are read, what
each of them denotes, and which instants are written so that they are read again. -/

namespace SchemaForge.Calendar

def digitGroup : Nat → Nat → List Char
  | 0, _ => []
  | width + 1, n => digitGroup width (n / 10) ++ [Nat.digitChar (n % 10)]

def digitsNumber (ds : List Char) : Nat := ds.foldl (fun v c => v * 10 + (c.toNat - 48)) 0

theorem digitsNumber_concat (ds : List Char) (c : Char) :
    digitsNumber (ds ++ [c]) = digitsNumber ds * 10 + (c.toNat - 48) := by
  simp [digitsNumber]

theorem digitChar_spec : ∀ d < 10,
    (Nat.digitChar d).isDigit = true ∧ (Nat.digitChar d).toNat = d + 48 := by decide

theorem digitChar_toNat {c : Char} (h : c.isDigit = true) :
    c.toNat - 48 < 10 ∧ Nat.digitChar (c.toNat - 48) = c := by
  simp only [Char.isDigit, Bool.and_eq_true, decide_eq_true_eq] at h
  have low : 48 ≤ c.toNat := h.1
  have high : c.toNat ≤ 57 := h.2
  have small : c.toNat - 48 < 10 := by omega
  refine ⟨small, Char.toNat_inj.mp ?_⟩
  rw [(digitChar_spec _ small).2]
  omega

variable {width n : Nat} {cs ds rest : List Char}

@[simp] theorem length_digitGroup : (digitGroup width n).length = width := by
  induction width generalizing n with
  | zero => rfl
  | succ width ih => simp [digitGroup, ih]

theorem all_digitGroup : (digitGroup width n).all Char.isDigit = true := by
  induction width generalizing n with
  | zero => rfl
  | succ width ih =>
    simp [digitGroup, ih, (digitChar_spec (n % 10) (Nat.mod_lt _ (by decide))).1]

theorem digitsNumber_digitGroup (h : n < 10 ^ width) : digitsNumber (digitGroup width n) = n := by
  induction width generalizing n with
  | zero =>
    rw [Nat.pow_zero, Nat.lt_one_iff] at h
    rw [h]
    rfl
  | succ width ih =>
    rw [Nat.pow_succ] at h
    rw [digitGroup, digitsNumber_concat, ih (by omega),
      (digitChar_spec (n % 10) (Nat.mod_lt _ (by decide))).2]
    omega

theorem digitGroup_digitsNumber (h : ds.all Char.isDigit = true) :
    digitsNumber ds < 10 ^ ds.length ∧ digitGroup ds.length (digitsNumber ds) = ds := by
  induction ds using List.reverseRecOn with
  | nil => exact ⟨by decide, rfl⟩
  | append_singleton ds c ih =>
    simp only [List.all_append, List.all_cons, List.all_nil, Bool.and_true, Bool.and_eq_true] at h
    obtain ⟨small, back⟩ := ih h.1
    obtain ⟨digit, char⟩ := digitChar_toNat h.2
    rw [digitsNumber_concat, List.length_append, List.length_singleton, Nat.pow_succ, digitGroup]
    have quotient : (digitsNumber ds * 10 + (c.toNat - 48)) / 10 = digitsNumber ds := by omega
    have remainder : (digitsNumber ds * 10 + (c.toNat - 48)) % 10 = c.toNat - 48 := by omega
    rw [quotient, remainder, back, char]
    exact ⟨by omega, rfl⟩

namespace Instant

theorem digits?_iff :
    digits? width cs = some (n, rest) ↔ n < 10 ^ width ∧ cs = digitGroup width n ++ rest := by
  unfold digits?
  dsimp only
  split
  · next h =>
    simp only [Bool.and_eq_true, decide_eq_true_eq] at h
    obtain ⟨small, back⟩ := digitGroup_digitsNumber h.2
    rw [h.1] at small back
    constructor
    · intro eq
      simp only [Option.some.injEq, Prod.mk.injEq] at eq
      rw [← eq.1, ← eq.2, ← digitsNumber]
      exact ⟨small, by rw [back, List.take_append_drop]⟩
    · rintro ⟨bound, rfl⟩
      rw [List.take_left' length_digitGroup, List.drop_left' length_digitGroup, ← digitsNumber,
        digitsNumber_digitGroup bound]
  · next h =>
    constructor
    · intro eq
      cases eq
    · rintro ⟨-, rfl⟩
      rw [List.take_left' length_digitGroup] at h
      simp [all_digitGroup] at h

theorem char?_iff {c : Char} : char? c cs = some rest ↔ cs = c :: rest := by
  cases cs with
  | nil => simp [char?]
  | cons d cs => simp [char?]

theorem digits?_bind {α : Type} {f : Nat × List Char → Option α} {x : α} :
    (digits? width cs >>= f) = some x ↔
      ∃ n rest, n < 10 ^ width ∧ cs = digitGroup width n ++ rest ∧ f (n, rest) = some x := by
  constructor
  · intro h
    obtain ⟨⟨n, rest⟩, read, h⟩ := Option.bind_eq_some_iff.mp h
    obtain ⟨small, text⟩ := digits?_iff.mp read
    exact ⟨n, rest, small, text, h⟩
  · rintro ⟨n, rest, small, text, h⟩
    exact Option.bind_eq_some_iff.mpr ⟨(n, rest), digits?_iff.mpr ⟨small, text⟩, h⟩

theorem char?_bind {α : Type} {c : Char} {f : List Char → Option α} {x : α} :
    (char? c cs >>= f) = some x ↔ ∃ rest, cs = c :: rest ∧ f rest = some x := by
  constructor
  · intro h
    obtain ⟨rest, read, h⟩ := Option.bind_eq_some_iff.mp h
    exact ⟨rest, char?_iff.mp read, h⟩
  · rintro ⟨rest, text, h⟩
    exact Option.bind_eq_some_iff.mpr ⟨rest, char?_iff.mpr text, h⟩

end Instant

theorem digitGroup_zero : digitGroup width 0 = List.replicate width '0' := by
  induction width with
  | zero => rfl
  | succ width ih =>
    rw [digitGroup, Nat.zero_div, ih, List.replicate_succ']
    rfl

theorem padded_toList (pos : 0 < width) (small : n < 10 ^ width) :
    (Instant.padded width n).toList = digitGroup width n := by
  have pad (n : Nat) : (Instant.padded width n).toList =
      List.replicate (width - (Nat.toDigits 10 n).length) '0' ++ Nat.toDigits 10 n := by
    rw [Instant.padded, Nat.toString_eq_ofList_toDigits]
    simp [Decimal.padLeft]
  rw [pad]
  clear pad
  induction width generalizing n with
  | zero => omega
  | succ width ih =>
    rw [Nat.pow_succ] at small
    rw [digitGroup]
    by_cases single : n < 10
    · have quotient : n / 10 = 0 := by omega
      rw [quotient, digitGroup_zero, Nat.toDigits_of_lt_base single, Nat.mod_eq_of_lt single]
      rfl
    · have more : 0 < width := by
        by_contra none
        obtain rfl : width = 0 := by omega
        omega
      have last : Nat.toDigits 10 n = Nat.toDigits 10 (n / 10) ++ [Nat.digitChar (n % 10)] := by
        have digit : n % 10 < 10 := Nat.mod_lt _ (by decide)
        rw [← Nat.toDigits_of_lt_base digit,
          Nat.toDigits_append_toDigits (by decide) (by omega) digit, Nat.div_add_mod]
      rw [last, ← ih more (by omega), List.length_append, List.length_singleton,
        Nat.add_sub_add_right, List.append_assoc]

inductive Zone where
  | utc (mark : Char) (known : mark = 'Z' ∨ mark = 'z')
  | shifted (sign : Char) (hours minutes : Nat) (known : sign = '+' ∨ sign = '-' ∨ sign = '\u2212')
      (inside : minutes ≤ 59 ∧ hours ≤ 23)

namespace Zone

def spelling : Zone → List Char
  | utc mark _ => [mark]
  | shifted sign hours minutes _ _ => sign :: (digitGroup 2 hours ++ ':' :: digitGroup 2 minutes)

/-- How many seconds a clock in the zone is ahead of UTC. -/
def seconds : Zone → Int
  | utc _ _ => 0
  | shifted sign hours minutes _ _ =>
    if sign = '+' then hours * 3600 + minutes * 60 else -(hours * 3600 + minutes * 60)

theorem seconds_bounds (z : Zone) : -86400 < z.seconds ∧ z.seconds < 86400 ∧ z.seconds % 60 = 0 := by
  cases z with
  | utc mark known => simp [seconds]
  | shifted sign hours minutes known inside =>
    simp only [seconds]
    split <;> omega

theorem spelling_head (z : Zone) : ∃ c tail, z.spelling = c :: tail ∧ c.isDigit = false ∧ c ≠ '.' := by
  cases z with
  | utc mark known =>
    refine ⟨mark, [], rfl, ?_⟩
    rcases known with rfl | rfl <;> decide
  | shifted sign hours minutes known inside =>
    refine ⟨sign, _, rfl, ?_⟩
    rcases known with rfl | rfl | rfl <;> decide

end Zone

namespace Instant

theorem offset?_iff {offset : Int} : offset? cs = some (offset, rest) ↔
    ∃ z : Zone, cs = z.spelling ++ rest ∧ z.seconds = offset := by
  constructor
  · intro h
    cases cs with
    | nil => cases h
    | cons c cs =>
      simp only [offset?, Bool.or_eq_true, decide_eq_true_eq] at h
      by_cases mark : c = 'Z' ∨ c = 'z'
      · rw [if_pos mark] at h
        cases h
        exact ⟨.utc c mark, rfl, rfl⟩
      rw [if_neg mark] at h
      by_cases sign : (c = '+' ∨ c = '-') ∨ c = '\u2212'
      · rw [if_pos sign] at h
        simp only [Option.bind_eq_bind, Option.bind_eq_some_iff, Prod.exists, digits?_iff, char?_iff,
          Option.ite_none_right_eq_some, Bool.and_eq_true, decide_eq_true_eq, Option.some.injEq,
          Prod.mk.injEq] at h
        obtain ⟨hours, _, ⟨-, rfl⟩, _, rfl, minutes, _, ⟨-, rfl⟩, inside, rfl, rfl⟩ := h
        exact ⟨.shifted c hours minutes (or_assoc.mp sign) inside, by simp [Zone.spelling], rfl⟩
      · rw [if_neg sign] at h
        cases h
  · rintro ⟨z, rfl, rfl⟩
    cases z with
    | utc mark known =>
      simp only [Zone.spelling, Zone.seconds, List.cons_append, List.nil_append, offset?]
      rcases known with rfl | rfl <;> rfl
    | shifted sign hours minutes known inside =>
      have hours' : digits? 2 (digitGroup 2 hours ++ ':' :: (digitGroup 2 minutes ++ rest)) =
          some (hours, ':' :: (digitGroup 2 minutes ++ rest)) := digits?_iff.mpr ⟨by omega, rfl⟩
      have minutes' : digits? 2 (digitGroup 2 minutes ++ rest) = some (minutes, rest) :=
        digits?_iff.mpr ⟨by omega, rfl⟩
      have unmarked : ¬ (sign = 'Z' ∨ sign = 'z') := by rcases known with rfl | rfl | rfl <;> decide
      simp [Zone.spelling, Zone.seconds, offset?, unmarked, or_assoc, known, hours', minutes', inside,
        char?]

/-- A fraction of a second as it is written; one without digits is left out. -/
def fractionSpelling (ds : List Char) : List Char := if ds = [] then [] else '.' :: ds

def fractionNanos (ds : List Char) : Nat :=
  digitsNumber (ds.take 9) * tenTo (9 - (ds.take 9).length)

theorem fractionNanos_lt (digits : ds.all Char.isDigit = true) : fractionNanos ds < nanosPerSecond := by
  have kept : (ds.take 9).all Char.isDigit = true :=
    List.all_eq_true.mpr fun c h => List.all_eq_true.mp digits c (List.mem_of_mem_take h)
  have short : (ds.take 9).length ≤ 9 := List.length_take_le _ _
  have small := (digitGroup_digitsNumber kept).1
  unfold fractionNanos tenTo
  generalize (ds.take 9).length = k at short small
  calc digitsNumber (ds.take 9) * 10 ^ (9 - k)
      < 10 ^ k * 10 ^ (9 - k) := Nat.mul_lt_mul_of_pos_right small (Nat.pow_pos (by decide))
    _ = nanosPerSecond := by
      rw [← Nat.pow_add, Nat.add_sub_cancel' short]
      rfl

theorem spelled_of_fraction? (h : fraction? cs = some (n, rest)) :
    ∃ ds, ds.all Char.isDigit = true ∧ cs = fractionSpelling ds ++ rest ∧ fractionNanos ds = n := by
  unfold fraction? at h
  split at h
  · next cs =>
    dsimp only at h
    split at h
    · cases h
    · next digits =>
      simp only [Option.some.injEq, Prod.mk.injEq] at h
      obtain ⟨rfl, rfl⟩ := h
      refine ⟨cs.takeWhile Char.isDigit, List.all_takeWhile, ?_, rfl⟩
      rw [fractionSpelling, if_neg (by simpa using digits), List.cons_append,
        List.takeWhile_append_dropWhile]
  · cases h
    exact ⟨[], rfl, rfl, rfl⟩

theorem fraction?_spelling (digits : ds.all Char.isDigit = true) {c : Char} (ends : c.isDigit = false)
    (point : c ≠ '.') :
    fraction? (fractionSpelling ds ++ c :: cs) = some (fractionNanos ds, c :: cs) := by
  unfold fractionSpelling
  split
  · next none =>
    subst none
    simp [fraction?, point, fractionNanos, digitsNumber]
  · next some =>
    have all := List.all_eq_true.mp digits
    simp [fraction?, List.takeWhile_append_of_pos all, List.dropWhile_append_of_pos all, ends, some,
      fractionNanos, digitsNumber]

end Instant

/-- A date and a time of day with an offset, as they are written: the year in four digits, the day one
that the calendar has. -/
structure Stamp where
  year : Nat
  month : Nat
  day : Nat
  separator : Char
  hour : Nat
  minute : Nat
  second : Nat
  fraction : List Char
  zone : Zone
  year_le : year ≤ 9999
  date_valid : (Date.mk year month day).valid = true
  separates : Instant.isSeparator separator = true
  time_le : hour ≤ 23 ∧ minute ≤ 59 ∧ second ≤ 60
  fraction_digits : fraction.all Char.isDigit = true

namespace Stamp

def date (s : Stamp) : Date := ⟨s.year, s.month, s.day⟩

def spelling (s : Stamp) : List Char :=
  digitGroup 4 s.year ++ '-' :: (digitGroup 2 s.month ++ '-' :: (digitGroup 2 s.day ++ s.separator ::
    (digitGroup 2 s.hour ++ ':' :: (digitGroup 2 s.minute ++ ':' :: (digitGroup 2 s.second ++
      (Instant.fractionSpelling s.fraction ++ s.zone.spelling))))))

def instant (s : Stamp) : Instant :=
  ⟨s.date.toDay * 86400 + (s.hour * 3600 + s.minute * 60 + (if s.second = 60 then 59 else s.second)) -
      s.zone.seconds,
    if s.second = 60 then Instant.fractionNanos s.fraction + nanosPerSecond
      else Instant.fractionNanos s.fraction⟩

end Stamp

namespace Instant

variable {t : String} {i : Instant}

theorem stamp_of_parse? (h : parse? t = some i) : ∃ s : Stamp, t.toList = s.spelling ∧ s.instant = i := by
  rw [parse?] at h
  obtain ⟨year, _, hy, ofYear, h⟩ := digits?_bind.mp h
  obtain ⟨_, dash, h⟩ := char?_bind.mp h
  obtain ⟨month, _, -, ofMonth, h⟩ := digits?_bind.mp h
  obtain ⟨_, dash', h⟩ := char?_bind.mp h
  obtain ⟨day, _, -, ofDay, h⟩ := digits?_bind.mp h
  dsimp only at dash dash' h
  split at h
  · next c cs =>
    split at h
    · next separates =>
      obtain ⟨hour, _, -, ofHour, h⟩ := digits?_bind.mp h
      obtain ⟨_, colon, h⟩ := char?_bind.mp h
      obtain ⟨minute, _, -, ofMinute, h⟩ := digits?_bind.mp h
      obtain ⟨_, colon', h⟩ := char?_bind.mp h
      obtain ⟨second, _, -, ofSecond, h⟩ := digits?_bind.mp h
      obtain ⟨⟨nanos, _⟩, fraction, h⟩ := Option.bind_eq_some_iff.mp h
      obtain ⟨⟨_, _⟩, offset, h⟩ := Option.bind_eq_some_iff.mp h
      obtain ⟨zone, rfl, rfl⟩ := offset?_iff.mp offset
      obtain ⟨ds, digits, text, rfl⟩ := spelled_of_fraction? fraction
      simp only [Bool.and_eq_true, decide_eq_true_eq, List.isEmpty_iff, beq_iff_eq,
        Option.ite_none_right_eq_some, Option.some.injEq] at h
      obtain ⟨⟨⟨⟨⟨rfl, valid⟩, hh⟩, hm⟩, hs⟩, rfl⟩ := h
      refine ⟨⟨year, month, day, c, hour, minute, second, ds, zone, by omega, valid, separates,
        ⟨hh, hm, hs⟩, digits⟩, ?_, rfl⟩
      dsimp only at colon colon' text
      rw [ofYear, dash, ofMonth, dash', ofDay, ofHour, colon, ofMinute, colon', ofSecond, text,
        List.append_nil]
      rfl
    · cases h
  · cases h

theorem parse?_stamp (s : Stamp) (spelled : t.toList = s.spelling) : parse? t = some s.instant := by
  obtain ⟨c, tail, mark, ends, point⟩ := s.zone.spelling_head
  have date_le : s.month ≤ 12 ∧ s.day ≤ 31 := Date.bounds_of_valid s.date_valid
  have time_le := s.time_le
  have year_le := s.year_le
  have fraction : fraction? (fractionSpelling s.fraction ++ s.zone.spelling) =
      some (fractionNanos s.fraction, s.zone.spelling) := by
    rw [mark]
    exact fraction?_spelling s.fraction_digits ends point
  have zone : offset? s.zone.spelling = some (s.zone.seconds, []) :=
    offset?_iff.mpr ⟨s.zone, (List.append_nil _).symm, rfl⟩
  rw [parse?]
  refine digits?_bind.mpr ⟨s.year, _, by omega, spelled, ?_⟩
  refine char?_bind.mpr ⟨_, rfl, digits?_bind.mpr ⟨s.month, _, by omega, rfl, ?_⟩⟩
  refine char?_bind.mpr ⟨_, rfl, digits?_bind.mpr ⟨s.day, _, by omega, rfl, ?_⟩⟩
  dsimp only
  rw [if_pos s.separates]
  refine digits?_bind.mpr ⟨s.hour, _, by omega, rfl, ?_⟩
  refine char?_bind.mpr ⟨_, rfl, digits?_bind.mpr ⟨s.minute, _, by omega, rfl, ?_⟩⟩
  refine char?_bind.mpr ⟨_, rfl, digits?_bind.mpr ⟨s.second, _, by omega, rfl, ?_⟩⟩
  refine Option.bind_eq_some_iff.mpr ⟨_, fraction, Option.bind_eq_some_iff.mpr ⟨_, zone, ?_⟩⟩
  simp [s.date_valid, s.time_le, Stamp.instant, Stamp.date]

theorem parse?_iff : parse? t = some i ↔ ∃ s : Stamp, t.toList = s.spelling ∧ s.instant = i := by
  constructor
  · exact stamp_of_parse?
  · rintro ⟨s, spelled, rfl⟩
    exact parse?_stamp s spelled

end Instant

namespace Instant

def date (i : Instant) : Date := Date.ofDay (i.seconds / 86400)

/-- A leap second stands at the end of a minute, and no second has more nanoseconds than there are. -/
def Proper (i : Instant) : Prop :=
  i.nanos < 2 * nanosPerSecond ∧ (nanosPerSecond ≤ i.nanos → i.seconds % 60 = 59)

theorem Proper.of_lt {i : Instant} (h : i.nanos < nanosPerSecond) : i.Proper :=
  ⟨by omega, fun leap => absurd h (Nat.not_lt.mpr leap)⟩

def fractionDigits (nanos : Nat) : List Char :=
  if nanos = 0 then []
  else if nanos % 1000000 = 0 then digitGroup 3 (nanos / 1000000)
  else if nanos % 1000 = 0 then digitGroup 6 (nanos / 1000)
  else digitGroup 9 nanos

theorem all_fractionDigits : (fractionDigits n).all Char.isDigit = true := by
  unfold fractionDigits
  split
  · rfl
  split
  · exact all_digitGroup
  split <;> exact all_digitGroup

theorem digitGroup_ne_nil (pos : 0 < width) : digitGroup width n ≠ [] :=
  List.ne_nil_of_length_pos (by rwa [length_digitGroup])

theorem fractionText_toList (small : n < nanosPerSecond) :
    (fractionText n).toList = fractionSpelling (fractionDigits n) := by
  have small' : n < 1000000000 := small
  have point (w m : Nat) (pos : 0 < w) (h : m < 10 ^ w) :
      ("." ++ padded w m).toList = fractionSpelling (digitGroup w m) := by
    rw [String.toList_append, padded_toList pos h, fractionSpelling, if_neg (digitGroup_ne_nil pos)]
    rfl
  unfold fractionText fractionDigits
  split
  · rfl
  split
  · exact point 3 _ (by decide) (by omega)
  split
  · exact point 6 _ (by decide) (by omega)
  · exact point 9 _ (by decide) (by omega)

theorem fractionNanos_digitGroup (h : n < 10 ^ width) (short : width ≤ 9) :
    fractionNanos (digitGroup width n) = n * 10 ^ (9 - width) := by
  have whole : (digitGroup width n).take 9 = digitGroup width n :=
    List.take_of_length_le (by rwa [length_digitGroup])
  rw [fractionNanos, whole, length_digitGroup, digitsNumber_digitGroup h]
  rfl

theorem fractionNanos_fractionDigits (small : n < nanosPerSecond) :
    fractionNanos (fractionDigits n) = n := by
  have small' : n < 1000000000 := small
  unfold fractionDigits
  split
  · next none => rw [none]; rfl
  split
  · rw [fractionNanos_digitGroup (by omega) (by decide)]
    omega
  split
  · rw [fractionNanos_digitGroup (by omega) (by decide)]
    omega
  · rw [fractionNanos_digitGroup (by omega) (by decide)]
    omega

def stamp (i : Instant) (inside : 0 ≤ i.date.year ∧ i.date.year ≤ 9999) : Stamp where
  year := i.date.year.toNat
  month := i.date.month
  day := i.date.day
  separator := 'T'
  hour := (i.seconds % 86400).toNat / 3600
  minute := (i.seconds % 86400).toNat / 60 % 60
  second := (i.seconds % 86400).toNat % 60 + if nanosPerSecond ≤ i.nanos then 1 else 0
  fraction := fractionDigits (if nanosPerSecond ≤ i.nanos then i.nanos - nanosPerSecond else i.nanos)
  zone := .utc 'Z' (.inl rfl)
  year_le := by omega
  date_valid := by
    rw [Int.toNat_of_nonneg inside.1]
    exact Date.valid_ofDay _
  separates := rfl
  time_le := by split <;> omega
  fraction_digits := all_fractionDigits

variable {i : Instant} (inside : 0 ≤ i.date.year ∧ i.date.year ≤ 9999)

include inside in
theorem yearText_toList : (yearText i.date.year).toList = digitGroup 4 i.date.year.toNat := by
  rw [yearText, if_pos (by simpa using inside), padded_toList (by decide) (by omega)]

theorem text_toList (small : i.nanos < 2 * nanosPerSecond) :
    i.text.toList = (i.stamp inside).spelling := by
  have date_le : i.date.month ≤ 12 ∧ i.date.day ≤ 31 := Date.bounds_of_valid (Date.valid_ofDay _)
  have time_le := (i.stamp inside).time_le
  have fraction : (if nanosPerSecond ≤ i.nanos then i.nanos - nanosPerSecond else i.nanos) <
      nanosPerSecond := by split <;> omega
  have two {n : Nat} (h : n < 10 ^ 2) : (padded 2 n).toList = digitGroup 2 n :=
    padded_toList (by decide) h
  have utc : Date.ofDay (i.seconds / 86400) = i.date := rfl
  simp only [stamp] at time_le
  simp only [text, Stamp.spelling, stamp, Zone.spelling, String.toList_append, decide_eq_true_eq, utc,
    yearText_toList inside, fractionText_toList fraction, two (show i.date.month < 10 ^ 2 by omega),
    two (show i.date.day < 10 ^ 2 by omega), two (Nat.lt_of_le_of_lt time_le.1 (by decide)),
    two (Nat.lt_of_le_of_lt time_le.2.1 (by decide)), two (Nat.lt_of_le_of_lt time_le.2.2 (by decide))]
  simp

theorem stamp_instant (proper : i.Proper) : (i.stamp inside).instant = i := by
  obtain ⟨seconds, nanos⟩ := i
  obtain ⟨small, minuteEnd⟩ := proper
  simp only at small minuteEnd
  have day : (stamp ⟨seconds, nanos⟩ inside).date.toDay = seconds / 86400 := by
    rw [Stamp.date, stamp]
    simp only
    rw [Int.toNat_of_nonneg inside.1]
    exact Date.toDay_ofDay _
  rw [Stamp.instant, day]
  simp only [stamp, Zone.seconds]
  by_cases leap : nanosPerSecond ≤ nanos
  · have last : (seconds % 86400).toNat % 60 = 59 := by
      have := minuteEnd leap
      omega
    have rest : nanos - nanosPerSecond < nanosPerSecond := by omega
    simp only [leap, if_true, last, fractionNanos_fractionDigits rest]
    congr 1
    · omega
    · omega
  · have inMinute : (seconds % 86400).toNat % 60 ≠ 60 := by omega
    simp only [leap, if_false, Nat.add_zero, inMinute, fractionNanos_fractionDigits (Nat.not_le.mp leap)]
    congr 1
    omega

/-- A year that has not four digits is written with a sign, with which no text of these starts. -/
theorem parse?_text_of_outside (outside : ¬ (0 ≤ i.date.year ∧ i.date.year ≤ 9999)) :
    parse? i.text = none := by
  have signed : ∃ c rest, i.text.toList = c :: rest ∧ c.isDigit = false := by
    have unpadded : ¬ (0 ≤ i.date.year && i.date.year ≤ 9999) = true := by simpa using outside
    have utc : Date.ofDay (i.seconds / 86400) = i.date := rfl
    simp only [text, yearText, utc, if_neg unpadded, String.toList_append]
    split
    · exact ⟨'-', _, rfl, by decide⟩
    · exact ⟨'+', _, rfl, by decide⟩
  obtain ⟨c, rest, text, noDigit⟩ := signed
  have unread : digits? 4 (c :: rest) = none := by simp [digits?, noDigit]
  rw [parse?, text, unread]
  rfl

/-- Texts of instants are read as what they were, where the year has four digits, and nowhere else. -/
theorem parse?_text (proper : i.Proper) :
    parse? i.text = if 0 ≤ i.date.year ∧ i.date.year ≤ 9999 then some i else none := by
  split
  · next inside =>
    exact parse?_iff.mpr ⟨i.stamp inside, text_toList inside proper.1, stamp_instant inside proper⟩
  · next outside => exact parse?_text_of_outside outside

end Instant

theorem Stamp.instant_proper (s : Stamp) : s.instant.Proper := by
  have small := Instant.fractionNanos_lt s.fraction_digits
  have zone := s.zone.seconds_bounds
  unfold Stamp.instant Instant.Proper
  by_cases leap : s.second = 60
  · simp only [leap, if_true]
    omega
  · simp only [leap, if_false]
    omega

theorem digitChar_lt : ∀ d < 10, ∀ e < 10, d < e → Nat.digitChar d < Nat.digitChar e := by decide

theorem digitGroup_lt {m n : Nat} (small : n < 10 ^ width) (h : m < n) (cs ds : List Char) :
    digitGroup width m ++ cs < digitGroup width n ++ ds := by
  induction width generalizing m n cs ds with
  | zero => omega
  | succ width ih =>
    rw [Nat.pow_succ] at small
    simp only [digitGroup, List.append_assoc, List.singleton_append]
    rcases (by omega : m / 10 < n / 10 ∨ m / 10 = n / 10 ∧ m % 10 < n % 10) with earlier | ⟨same, last⟩
    · exact ih (by omega) earlier _ _
    · rw [same]
      exact List.append_left_lt (List.cons_lt_cons_iff.mpr (.inl
        (digitChar_lt _ (Nat.mod_lt _ (by decide)) _ (Nat.mod_lt _ (by decide)) last)))

theorem field_lt {m n : Nat} {c : Char} (small : n < 10 ^ width)
    (h : m < n ∨ m = n ∧ cs < ds) :
    digitGroup width m ++ c :: cs < digitGroup width n ++ c :: ds := by
  rcases h with earlier | ⟨rfl, later⟩
  · exact digitGroup_lt small earlier _ _
  · exact List.append_left_lt (List.cons_lt_cons_iff.mpr (.inr ⟨rfl, later⟩))

/-- Texts that separate dates and times alike are in the order of dates, and on one day of times. -/
theorem Stamp.spelling_lt {s t : Stamp} (separator : s.separator = t.separator)
    (h : s.date.Precedes t.date ∨ s.date = t.date ∧ (s.hour < t.hour ∨ s.hour = t.hour ∧
      (s.minute < t.minute ∨ s.minute = t.minute ∧ s.second < t.second))) :
    s.spelling < t.spelling := by
  have year_le := t.year_le
  have date_le : t.month ≤ 12 ∧ t.day ≤ 31 := Date.bounds_of_valid t.date_valid
  have time_le := t.time_le
  have fields : s.year < t.year ∨ s.year = t.year ∧ (s.month < t.month ∨ s.month = t.month ∧
      (s.day < t.day ∨ s.day = t.day ∧ (s.hour < t.hour ∨ s.hour = t.hour ∧
        (s.minute < t.minute ∨ s.minute = t.minute ∧ s.second < t.second)))) := by
    simp only [Date.Precedes, Stamp.date, Date.mk.injEq] at h
    omega
  unfold Stamp.spelling
  rw [separator]
  refine field_lt (by omega) (fields.imp_right (And.imp_right fun fields => ?_))
  refine field_lt (by omega) (fields.imp_right (And.imp_right fun fields => ?_))
  refine field_lt (by omega) (fields.imp_right (And.imp_right fun fields => ?_))
  refine field_lt (by omega) (fields.imp_right (And.imp_right fun fields => ?_))
  refine field_lt (by omega) (fields.imp_right (And.imp_right fun last => ?_))
  exact digitGroup_lt (by omega) last _ _

/-- The texts of whole seconds in years with four digits are in the order of the seconds. -/
theorem Instant.text_lt {m n : Int} (h : m < n)
    (low : 0 ≤ (Instant.date ⟨m, 0⟩).year ∧ (Instant.date ⟨m, 0⟩).year ≤ 9999)
    (high : 0 ≤ (Instant.date ⟨n, 0⟩).year ∧ (Instant.date ⟨n, 0⟩).year ≤ 9999) :
    Instant.text ⟨m, 0⟩ < Instant.text ⟨n, 0⟩ := by
  have date_stamp {n : Int} (inside) : (stamp ⟨n, 0⟩ inside).date = Date.ofDay (n / 86400) := by
    rw [Stamp.date, stamp, Int.toNat_of_nonneg inside.1]
    rfl
  have whole : 0 < 2 * nanosPerSecond := by decide
  rw [String.lt_iff, text_toList low whole, text_toList high whole]
  refine Stamp.spelling_lt rfl ?_
  rw [date_stamp, date_stamp]
  rcases (by omega : m / 86400 < n / 86400 ∨ m / 86400 = n / 86400) with earlier | same
  · exact .inl (Date.ofDay_precedes earlier)
  · have unleaped : ¬ nanosPerSecond ≤ 0 := by decide
    refine .inr ⟨by rw [same], ?_⟩
    simp only [stamp, unleaped, if_false, Nat.add_zero]
    omega

end SchemaForge.Calendar
