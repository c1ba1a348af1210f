import Mathlib.Data.Int.Init
import SchemaForge.Calendar.Date

/-! The calendar, day by day: each day has just one date, the day behind it has the next date, and an
earlier day has an earlier one. -/

namespace SchemaForge.Calendar

/-- Four centuries in three whole ones and a rest, a century in four-year terms, a term in years. -/
theorem yearOfEra_eq {b q r : Int} (hb : 0 ≤ b ∧ b ≤ 3) (hq : 0 ≤ q ∧ q ≤ 24) (hr : 0 ≤ r ∧ r ≤ 1460)
    (inside : 1461 * q + r < 36524 ∨ b = 3) (whole : 36524 * b + 1461 * q + r < 146097) :
    yearOfEra (36524 * b + 1461 * q + r) = 100 * b + 4 * q + min (r / 365) 3 := by
  unfold yearOfEra
  generalize hn : 36524 * b + 1461 * q + r = n
  have term : n / 1460 = 25 * b + q + (24 * b + q + r) / 1460 := by omega
  have late : n / 146096 = 0 ∨ n = 146096 := by omega
  have century : n / 36524 = b + n / 146096 := by omega
  rw [term, century]
  omega

theorem yearOfEra_spec {n : Int} (low : 0 ≤ n) (high : n < 146097) :
    0 ≤ yearOfEra n ∧ yearOfEra n ≤ 399 ∧
      marchYearStart (yearOfEra n) ≤ n ∧ n < marchYearStart (yearOfEra n + 1) := by
  obtain ⟨b, hb, m, hm, inside, rfl⟩ : ∃ b, (0 ≤ b ∧ b ≤ 3) ∧ ∃ m, 0 ≤ m ∧
      (m < 36524 ∨ b = 3) ∧ 36524 * b + m = n :=
    ⟨min (n / 36524) 3, by omega, n - 36524 * min (n / 36524) 3, by omega, by omega, by omega⟩
  obtain ⟨q, hq, r, hr, rfl⟩ : ∃ q, (0 ≤ q ∧ q ≤ 24) ∧ ∃ r, (0 ≤ r ∧ r ≤ 1460) ∧
      1461 * q + r = m :=
    ⟨m / 1461, by omega, m % 1461, by omega, by omega⟩
  rw [← Int.add_assoc] at high ⊢
  rw [yearOfEra_eq hb hq hr inside high]
  unfold marchYearStart
  have quarter : (100 * b + 4 * q + min (r / 365) 3) / 4 = 25 * b + q := by omega
  have century : (100 * b + 4 * q + min (r / 365) 3) / 100 = b := by omega
  have whole : (100 * b + 4 * q + min (r / 365) 3) / 400 = 0 := by omega
  rw [quarter, century, whole]
  refine ⟨by omega, by omega, by omega, ?_⟩
  generalize hk : min (r / 365) 3 = k
  rcases (by omega : k < 3 ∨ k = 3) with early | rfl
  · have quarter' : (100 * b + 4 * q + k + 1) / 4 = 25 * b + q := by omega
    have century' : (100 * b + 4 * q + k + 1) / 100 = b := by omega
    have whole' : (100 * b + 4 * q + k + 1) / 400 = 0 := by omega
    omega
  · have quarter' : (100 * b + 4 * q + 3 + 1) / 4 = 25 * b + q + 1 := by omega
    rcases (by omega : q < 24 ∨ q = 24) with early | rfl
    · have century' : (100 * b + 4 * q + 3 + 1) / 100 = b := by omega
      have whole' : (100 * b + 4 * q + 3 + 1) / 400 = 0 := by omega
      omega
    · have century' : (100 * b + 4 * 24 + 3 + 1) / 100 = b + 1 := by omega
      omega

theorem marchYearStart_succ (y : Int) :
    marchYearStart (y + 1) = marchYearStart y + 365 + (if isLeap (y + 1) then 1 else 0) := by
  simp only [marchYearStart, isLeap, Bool.and_eq_true, Bool.or_eq_true, beq_iff_eq, bne_iff_ne]
  split <;> omega

theorem marchYearStart_eras (y era : Int) :
    marchYearStart (y + era * 400) = marchYearStart y + 146097 * era := by
  unfold marchYearStart
  omega

theorem marchYearStart_mono {y y' : Int} (h : y ≤ y') : marchYearStart y ≤ marchYearStart y' := by
  unfold marchYearStart
  omega

namespace Date

def ofMarch (year : Int) (month day : Nat) : Date :=
  if 10 ≤ month then ⟨year + 1, month - 9, day⟩ else ⟨year, month + 3, day⟩

def marchMonthLength (year : Int) (month : Nat) : Nat :=
  monthLength (ofMarch year month 1).year (ofMarch year month 1).month

variable {year : Int} {month day : Nat} {d : Date}

theorem bounds_of_valid (valid : d.valid = true) : d.month ≤ 12 ∧ d.day ≤ 31 := by
  have length_le : monthLength d.year d.month ≤ 31 := by
    unfold monthLength
    split
    · split <;> decide
    · split <;> decide
  simp only [Date.valid, Bool.and_eq_true, decide_eq_true_eq] at valid
  omega

theorem eq_ofMarch (valid : d.valid = true) :
    ∃ year, ∃ month ≤ 11, d = ofMarch year month d.day := by
  obtain ⟨year, month, day⟩ := d
  simp only [Date.valid, Bool.and_eq_true, decide_eq_true_eq] at valid
  by_cases early : month ≤ 2
  · have inside : 10 ≤ month + 9 := by omega
    exact ⟨year - 1, month + 9, by omega, by simp [ofMarch, inside]⟩
  · have inside : ¬ 10 ≤ month - 3 := by omega
    have back : month = month - 3 + 3 := by omega
    exact ⟨year, month - 3, by omega, by simp [ofMarch, inside, ← back]⟩

theorem toDay_ofMarch (h : month ≤ 11) : (ofMarch year month day).toDay =
    marchYearStart year + marchMonthStart month + ((day : Int) - 1) - epoch := by
  unfold ofMarch toDay
  by_cases early : 10 ≤ month
  · have inside : month - 9 ≤ 2 := by omega
    have back : ((month - 9 : Nat) : Int) + 9 = month := by omega
    simp [early, inside, back]
  · have inside : ¬ month + 3 ≤ 2 := by omega
    simp [early, inside]

theorem valid_ofMarch (h : month ≤ 11) :
    (ofMarch year month day).valid = true ↔ 1 ≤ day ∧ day ≤ marchMonthLength year month := by
  unfold Date.valid marchMonthLength ofMarch
  split <;> simp <;> omega

/-- The months of a March year follow each other, and the last one ends with the year. -/
theorem marchMonthStart_succ (year : Int) (h : month ≤ 11) :
    marchMonthStart month + marchMonthLength year month =
      if month = 11 then marchYearStart (year + 1) - marchYearStart year
      else marchMonthStart (month + 1) := by
  rcases Nat.lt_or_eq_of_le h with early | rfl
  · rw [if_neg (by omega)]
    have cases : month = 0 ∨ month = 1 ∨ month = 2 ∨ month = 3 ∨ month = 4 ∨ month = 5 ∨ month = 6 ∨
        month = 7 ∨ month = 8 ∨ month = 9 ∨ month = 10 := by omega
    rcases cases with rfl | rfl | rfl | rfl | rfl | rfl | rfl | rfl | rfl | rfl | rfl <;> rfl
  · have february : marchMonthLength year 11 = if isLeap (year + 1) then 29 else 28 := rfl
    rw [if_pos rfl, february, marchYearStart_succ]
    unfold marchMonthStart
    split <;> omega

theorem ofDay_eq (n : Int) : ∃ year, ∃ month ≤ 11, ∃ day, 1 ≤ day ∧ day ≤ marchMonthLength year month ∧
    ofDay n = ofMarch year month day ∧
    n = marchYearStart year + marchMonthStart month + ((day : Int) - 1) - epoch := by
  generalize hera : (n + epoch) / 146097 = era
  generalize hdoe : (n + epoch) % 146097 = dayOfEra
  obtain ⟨first, last, start, stop⟩ := yearOfEra_spec (n := dayOfEra) (by omega) (by omega)
  generalize hy : yearOfEra dayOfEra = y at first last start stop
  have inEra : marchYearStart y = 365 * y + y / 4 - y / 100 := by unfold marchYearStart; omega
  have eras := marchYearStart_eras y era
  have eras' := marchYearStart_eras (y + 1) era
  rw [Int.add_right_comm] at eras'
  have long := marchYearStart_succ y
  generalize hdoy : dayOfEra - marchYearStart y = dayOfYear
  obtain ⟨month, hmonth⟩ : ∃ month : Nat, (5 * dayOfYear + 2) / 153 = month :=
    ⟨((5 * dayOfYear + 2) / 153).toNat, by omega⟩
  have short : month ≤ 11 := by split at long <;> omega
  have begun : marchMonthStart month ≤ dayOfYear := by unfold marchMonthStart; omega
  obtain ⟨day, hday⟩ : ∃ day : Nat, dayOfYear - marchMonthStart month + 1 = day :=
    ⟨(dayOfYear - marchMonthStart month + 1).toNat, by omega⟩
  refine ⟨y + era * 400, month, short, day, by omega, ?_, ?_, by omega⟩
  · have length := marchMonthStart_succ (y + era * 400) short
    have ended : dayOfYear < marchMonthStart (month + 1) := by unfold marchMonthStart; omega
    split at length <;> omega
  · simp only [ofDay, hera, hdoe, hy, ← inEra, hdoy, hmonth, hday, ofMarch, decide_eq_true_eq]
    by_cases early : 10 ≤ month
    · have early' : (10 : Int) ≤ month := by omega
      simp [early, early']
      omega
    · have early' : ¬ (10 : Int) ≤ month := by omega
      simp [early, early']
      omega

theorem valid_ofDay (n : Int) : (ofDay n).valid = true := by
  obtain ⟨year, month, short, day, first, last, parts, -⟩ := ofDay_eq n
  rw [parts, valid_ofMarch short]
  exact ⟨first, last⟩

theorem toDay_ofDay (n : Int) : (ofDay n).toDay = n := by
  obtain ⟨year, month, short, day, first, last, parts, whole⟩ := ofDay_eq n
  rw [parts, toDay_ofMarch short, whole]

theorem dayOfYear_spec (h : month ≤ 11) (first : 1 ≤ day) (last : day ≤ marchMonthLength year month) :
    let dayOfYear := marchMonthStart month + ((day : Int) - 1)
    0 ≤ dayOfYear ∧ dayOfYear < marchYearStart (year + 1) - marchYearStart year ∧
      (5 * dayOfYear + 2) / 153 = month := by
  have length := marchMonthStart_succ year h
  have long := marchYearStart_succ year
  unfold marchMonthStart at length ⊢
  split at length <;> split at long <;> omega

theorem toDay_injective {e : Date} (hd : d.valid = true) (he : e.valid = true)
    (same : d.toDay = e.toDay) : d = e := by
  obtain ⟨year, month, short, hd'⟩ := eq_ofMarch hd
  obtain ⟨year', month', short', he'⟩ := eq_ofMarch he
  generalize d.day = day at hd'
  generalize e.day = day' at he'
  subst hd' he'
  rw [valid_ofMarch short] at hd
  rw [valid_ofMarch short'] at he
  rw [toDay_ofMarch short, toDay_ofMarch short'] at same
  obtain ⟨low, high, tells⟩ := dayOfYear_spec short hd.1 hd.2
  obtain ⟨low', high', tells'⟩ := dayOfYear_spec short' he.1 he.2
  obtain rfl : year = year' := by
    rcases Int.lt_trichotomy year year' with earlier | equal | later
    · have := marchYearStart_mono (show year + 1 ≤ year' by omega)
      omega
    · exact equal
    · have := marchYearStart_mono (show year' + 1 ≤ year by omega)
      omega
  have sameDay : marchMonthStart month + ((day : Int) - 1) =
      marchMonthStart month' + ((day' : Int) - 1) := by omega
  obtain rfl : month = month' := by
    rw [sameDay, tells'] at tells
    omega
  obtain rfl : day = day' := by omega
  rfl

theorem ofDay_toDay (valid : d.valid = true) : ofDay d.toDay = d :=
  toDay_injective (valid_ofDay _) valid (toDay_ofDay _)

def next (d : Date) : Date :=
  if d.day < monthLength d.year d.month then ⟨d.year, d.month, d.day + 1⟩
  else if d.month < 12 then ⟨d.year, d.month + 1, 1⟩
  else ⟨d.year + 1, 1, 1⟩

theorem next_ofMarch (h : month ≤ 11) : (ofMarch year month day).next =
    if day < marchMonthLength year month then ofMarch year month (day + 1)
    else if month < 11 then ofMarch year (month + 1) 1
    else ofMarch (year + 1) 0 1 := by
  rcases (by omega : month ≤ 8 ∨ month = 9 ∨ month = 10 ∨ month = 11) with early | rfl | rfl | rfl
  · have inside : ¬ 10 ≤ month := by omega
    have inside' : ¬ 10 ≤ month + 1 := by omega
    have short : month + 3 < 12 := by omega
    have short' : month < 11 := by omega
    simp [next, ofMarch, marchMonthLength, inside, inside', short, short']
  all_goals rfl

theorem marchMonthLength_pos (year : Int) (month : Nat) : 1 ≤ marchMonthLength year month := by
  unfold marchMonthLength monthLength
  split
  · split <;> decide
  · split <;> decide

theorem next_spec (valid : d.valid = true) : d.next.valid = true ∧ d.next.toDay = d.toDay + 1 := by
  obtain ⟨year, month, short, hd⟩ := eq_ofMarch valid
  generalize d.day = day at hd
  subst hd
  rw [valid_ofMarch short] at valid
  have length := marchMonthStart_succ year short
  rw [next_ofMarch short, toDay_ofMarch short]
  split
  · rw [valid_ofMarch short, toDay_ofMarch short]
    omega
  split
  · have nonempty := marchMonthLength_pos year (month + 1)
    have short' : month + 1 ≤ 11 := by omega
    rw [valid_ofMarch short', toDay_ofMarch short']
    rw [if_neg (by omega)] at length
    rw [Int.natCast_add, Int.natCast_one]
    omega
  · have nonempty := marchMonthLength_pos (year + 1) 0
    have first : marchMonthStart (0 : Nat) = 0 := rfl
    rw [valid_ofMarch (Nat.zero_le _), toDay_ofMarch (Nat.zero_le _), first]
    rw [if_pos (by omega)] at length
    omega

theorem ofDay_succ (n : Int) : ofDay (n + 1) = (ofDay n).next := by
  obtain ⟨valid, day⟩ := next_spec (valid_ofDay n)
  rw [← ofDay_toDay valid, day, toDay_ofDay]

end Date

/-- What date a day has: the first of January 1970 is day 0, and from a day of the calendar to the next
one the count grows by one. -/
inductive IsDay : Date → Int → Prop where
  | epoch : IsDay ⟨1970, 1, 1⟩ 0
  | next {d n} : IsDay d n → IsDay d.next (n + 1)
  | previous {d n} : d.valid = true → IsDay d.next (n + 1) → IsDay d n

theorem isDay_ofDay (n : Int) : IsDay (Date.ofDay n) n := by
  induction n using Int.induction_on with
  | zero => exact .epoch
  | succ n ih =>
    rw [Date.ofDay_succ]
    exact .next ih
  | pred n ih =>
    refine .previous (Date.valid_ofDay _) ?_
    rwa [← Date.ofDay_succ, Int.sub_add_cancel]

theorem isDay_iff {d : Date} {n : Int} : IsDay d n ↔ d = Date.ofDay n := by
  refine ⟨fun h => ?_, fun h => h ▸ isDay_ofDay n⟩
  have counted : d.valid = true ∧ d.toDay = n := by
    induction h with
    | epoch => decide
    | next _ ih =>
      obtain ⟨valid, day⟩ := Date.next_spec ih.1
      exact ⟨valid, by omega⟩
    | previous valid _ ih =>
      obtain ⟨-, day⟩ := Date.next_spec valid
      exact ⟨valid, by omega⟩
  rw [← counted.2, Date.ofDay_toDay counted.1]

namespace Date

def Precedes (d e : Date) : Prop :=
  d.year < e.year ∨ d.year = e.year ∧ (d.month < e.month ∨ d.month = e.month ∧ d.day < e.day)

theorem Precedes.trans {d e f : Date} (h : d.Precedes e) (h' : e.Precedes f) : d.Precedes f := by
  unfold Precedes at *
  omega

theorem precedes_next (d : Date) : d.Precedes d.next := by
  unfold Precedes next
  split
  · simp
  split
  · simp
  · exact .inl (Int.lt_succ _)

theorem ofDay_precedes {m n : Int} (h : m < n) : (ofDay m).Precedes (ofDay n) := by
  obtain ⟨k, rfl⟩ : ∃ k : Nat, n = m + k + 1 := ⟨(n - m - 1).toNat, by omega⟩
  clear h
  induction k with
  | zero =>
    rw [Int.natCast_zero, Int.add_zero, ofDay_succ]
    exact precedes_next _
  | succ k ih =>
    rw [Int.natCast_succ, ofDay_succ, ← Int.add_assoc]
    exact ih.trans (precedes_next _)

end Date

end SchemaForge.Calendar
