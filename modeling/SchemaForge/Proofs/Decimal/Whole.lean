import Mathlib
import SchemaForge.Decimal.Exact

/-! Whole numbers as binary64 numbers: those that need no more bits than a mantissa has stay as they are. -/

namespace SchemaForge.Decimal

open Float.Model
open Float.Model.UnpackedFloat

variable {s : Sign} {m : Nat} {e : Int} {pos : 0 < m}

def full (s : Sign) (m : Nat) (e : Int) (pos : 0 < m) : Float := .ofModel (.pack (.finite s m e pos))

theorem log2_full (low : 2 ^ 52 ≤ m) (high : m < 2 ^ 53) : m.log2 = 52 :=
  (Nat.log2_eq_iff (by omega)).mpr ⟨low, high⟩

theorem append_toNat {w v : Nat} (x : BitVec w) (y : BitVec v) :
    (x ++ y).toNat = x.toNat * 2 ^ v + y.toNat := by
  rw [BitVec.toNat_append, ← Nat.shiftLeft_add_eq_or_of_lt y.isLt, Nat.shiftLeft_eq]

theorem pack_full (low : 2 ^ 52 ≤ m) (high : m < 2 ^ 53) (least : -1074 ≤ e) (greatest : e ≤ 971) :
    UnpackedFloat.pack Format.binary64 (.finite s m e pos) =
      packComponents Format.binary64 s (BitVec.ofNat 11 (e + 1075).toNat) (BitVec.ofNat 52 m) := by
  have biased : (e + (Format.binary64.exponentBias : Int) +
      (Format.binary64.mantissaBitsWithoutImplicit : Int)).toNat = (e + 1075).toNat := by
    have bias : (Format.binary64.exponentBias : Int) + (Format.binary64.mantissaBitsWithoutImplicit : Int) = 1075 := by
      decide
    omega
  have inside : ¬ 2 ^ Format.binary64.exponentBits ≤ (e + 1075).toNat + 1 := by
    have : 2 ^ Format.binary64.exponentBits = 2048 := rfl
    omega
  have normal : m.log2 + 1 = Format.binary64.mantissaBits := by
    rw [log2_full low high]
    rfl
  unfold UnpackedFloat.pack
  simp only [biased, if_neg inside, if_pos normal]

theorem toBits_full (low : 2 ^ 52 ≤ m) (high : m < 2 ^ 53) (least : -1074 ≤ e) (greatest : e ≤ 971) :
    (full s m e pos).toBits.toNat =
      s.toBitVec.toNat * 2 ^ 63 + (e + 1075).toNat * 2 ^ 52 + (m - 2 ^ 52) := by
  have bits : (full s m e pos).toBits.toNat =
      (UnpackedFloat.pack Format.binary64 (.finite s m e pos)).toNat := rfl
  have components (a : BitVec 11) (b : BitVec 52) :
      (packComponents Format.binary64 s a b).toNat = (s.toBitVec ++ a ++ b).toNat := rfl
  rw [bits, pack_full low high least greatest, components, append_toNat, append_toNat,
    BitVec.toNat_ofNat, BitVec.toNat_ofNat]
  have : (e + 1075).toNat % 2 ^ 11 = (e + 1075).toNat := Nat.mod_eq_of_lt (by omega)
  omega

theorem exact_full (low : 2 ^ 52 ≤ m) (high : m < 2 ^ 53) (least : -1074 ≤ e) (greatest : e ≤ 971) :
    exact (full s m e pos) = (s.apply m, e) := by
  have bits : (full s m e pos).toBits.toNat = _ := toBits_full low high least greatest
  generalize hb : (full s m e pos).toBits = b at bits
  have sign_le : s.toBitVec.toNat ≤ 1 := by cases s <;> decide
  have fraction : (b &&& 0xFFFFFFFFFFFFF).toNat = m - 2 ^ 52 := by
    have mask : (0xFFFFFFFFFFFFF : UInt64).toNat = 2 ^ 52 - 1 := rfl
    rw [UInt64.toNat_and, mask, Nat.and_two_pow_sub_one_eq_mod]
    omega
  have biased : ((b >>> 52) &&& 0x7FF).toNat = (e + 1075).toNat := by
    have mask : (0x7FF : UInt64).toNat = 2 ^ 11 - 1 := rfl
    have shift : (52 : UInt64).toNat % 64 = 52 := rfl
    rw [UInt64.toNat_and, UInt64.toNat_shiftRight, mask, shift, Nat.and_two_pow_sub_one_eq_mod,
      Nat.shiftRight_eq_div_pow]
    omega
  have negative : isNegative (full s m e pos) = decide (s.toBitVec.toNat = 1) := by
    have shift : (63 : UInt64).toNat % 64 = 63 := rfl
    have top : (b >>> 63).toNat = s.toBitVec.toNat := by
      rw [UInt64.toNat_shiftRight, shift, Nat.shiftRight_eq_div_pow]
      omega
    rw [isNegative, hb, Bool.eq_iff_iff, beq_iff_eq, decide_eq_true_eq, ← top]
    exact UInt64.toNat_inj.symm
  have normal : (e + 1075).toNat ≠ 0 := by omega
  have whole : m - 2 ^ 52 + twoTo 52 = m := by
    rw [show twoTo 52 = 2 ^ 52 from rfl]
    omega
  have exponent : ((e + 1075).toNat : Int) - 1075 = e := by omega
  simp only [exact, Magnitude.ofBits, hb, fraction, biased, if_neg normal, whole, exponent, negative]
  cases s <;> rfl

theorem isFinite_full (low : 2 ^ 52 ≤ m) (high : m < 2 ^ 53) (least : -1074 ≤ e) (greatest : e ≤ 971) :
    (full s m e pos).isFinite = true := by
  have exponent : unpackExponent (packComponents Format.binary64 s (BitVec.ofNat 11 (e + 1075).toNat)
      (BitVec.ofNat 52 m)) ≠ -1#11 := by
    rw [unpackExponent_packComponents]
    intro ones
    have same := congrArg BitVec.toNat ones
    rw [BitVec.toNat_ofNat, show (-1#11).toNat = 2047 from rfl] at same
    omega
  change (UnpackedFloat.unpack Format.binary64
    (UnpackedFloat.pack Format.binary64 (.finite s m e pos))).isFinite = true
  rw [pack_full low high least greatest, UnpackedFloat.unpack]
  dsimp only
  rw [if_neg exponent]
  split
  · split <;> rfl
  · rfl

theorem targetExponent_eq (m : Nat) (e : Int) :
    Format.binary64.targetExponent (totalExponent m e) = max (m.log2 + e - 52) (-1074) := by
  have bits : (Format.binary64.mantissaBits : Int) = 53 := rfl
  have floor : Format.binary64.minExponent = -1074 := by decide
  rw [Format.targetExponent, totalExponent, bits, floor]
  omega

theorem targetExponent_full (low : 2 ^ 52 ≤ m) (high : m < 2 ^ 53) (least : -1074 ≤ e) :
    Format.binary64.targetExponent (totalExponent m e) = e := by
  rw [targetExponent_eq, log2_full low high]
  omega

theorem shiftToTargetExponent_full (low : 2 ^ 52 ≤ m) (high : m < 2 ^ 53) (least : -1074 ≤ e) :
    shiftToTargetExponent Format.binary64 m e .exact = (⟨m, false, false⟩, e) := by
  simp only [shiftToTargetExponent, shiftToExponent, targetExponent_full low high least, Int.sub_self]
  rw [Int.toNat_zero, Int.natCast_zero, Int.add_zero]
  rfl

theorem round_full (low : 2 ^ 52 ≤ m) (high : m < 2 ^ 53) (least : -1074 ≤ e) :
    roundWithAccuracy Format.binary64 s m e .exact = .finite s m e pos := by
  have rounded : (ExtendedMantissa.mk m false false).roundedMantissa = m := rfl
  have some : m ≠ 0 := by omega
  simp only [roundWithAccuracy, shiftToTargetExponent_full low high least, rounded, dif_neg some]

variable {n : Nat}

theorem round_short (some : 0 < n) (short : n < 2 ^ 53) :
    ∃ k : Nat, k ≤ 52 ∧ 2 ^ 52 ≤ n * 2 ^ k ∧ n * 2 ^ k < 2 ^ 53 ∧
      ∃ pos, UnpackedFloat.round Format.binary64 s n 0 = .finite s (n * 2 ^ k) (-k) pos := by
  have size : n.log2 ≤ 52 := Nat.le_of_lt_succ ((Nat.log2_lt (by omega)).mpr short)
  have target : Format.binary64.targetExponent (totalExponent n 0) = -((52 - n.log2 : Nat) : Int) := by
    rw [targetExponent_eq]
    omega
  have low : 2 ^ 52 ≤ n * 2 ^ (52 - n.log2) := by
    calc 2 ^ 52 = 2 ^ n.log2 * 2 ^ (52 - n.log2) := by rw [← Nat.pow_add, Nat.add_sub_cancel' size]
      _ ≤ n * 2 ^ (52 - n.log2) := Nat.mul_le_mul_right _ (Nat.log2_self_le (by omega))
  have high : n * 2 ^ (52 - n.log2) < 2 ^ 53 := by
    calc n * 2 ^ (52 - n.log2) < 2 ^ (n.log2 + 1) * 2 ^ (52 - n.log2) :=
          Nat.mul_lt_mul_of_pos_right Nat.lt_log2_self (Nat.two_pow_pos _)
      _ = 2 ^ 53 := by
        rw [← Nat.pow_add]
        congr 1
        omega
  refine ⟨52 - n.log2, by omega, low, high, by omega, ?_⟩
  rw [UnpackedFloat.round, target, decreaseExponent]
  simp only [Int.sub_neg, Int.zero_add, Int.toNat_natCast, Int.zero_sub, Nat.shiftLeft_eq]
  exact round_full low high (by omega)

theorem shiftRight_mantissa (k : Nat) (em : ExtendedMantissa) :
    (em >>> k).mantissa = em.mantissa / 2 ^ k := by
  induction k with
  | zero => exact (Nat.div_one _).symm
  | succ k ih =>
    have step : em >>> (k + 1) = (em >>> k).shiftRightOne := rfl
    rw [step, ExtendedMantissa.shiftRightOne, ih, Nat.div_div_eq_div_mul, Nat.pow_succ]

theorem roundedMantissa_near (em : ExtendedMantissa) :
    em.roundedMantissa = em.mantissa ∨ em.roundedMantissa = em.mantissa + 1 := by
  unfold ExtendedMantissa.roundedMantissa
  generalize em.accuracy = a
  cases a with
  | exact => exact .inl rfl
  | inexact o =>
    cases o with
    | lt => exact .inl rfl
    | eq =>
      have := Nat.mod_two_eq_zero_or_one em.mantissa
      simp only [Accuracy.roundToNearestEven]
      omega
    | gt => exact .inr rfl

theorem shiftToTargetExponent_carry (least : -1074 ≤ e) :
    shiftToTargetExponent Format.binary64 (2 ^ 53) e .exact = (⟨2 ^ 52, false, false⟩, e + 1) := by
  have target : Format.binary64.targetExponent (totalExponent (2 ^ 53) e) = e + 1 := by
    rw [targetExponent_eq, Nat.log2_two_pow]
    omega
  have one : (e + 1 - e).toNat = 1 := by omega
  simp only [shiftToTargetExponent, shiftToExponent, target, one]
  rfl

theorem round_long (long : 2 ^ 53 ≤ n) (inside : n < 2 ^ 64) :
    ∃ m e pos, 2 ^ 52 ≤ m ∧ m < 2 ^ 53 ∧ 1 ≤ e ∧ e ≤ 12 ∧
      UnpackedFloat.round Format.binary64 s n 0 = .finite s m e pos := by
  have size : 53 ≤ n.log2 := (Nat.le_log2 (by omega)).mpr long
  have size' : n.log2 < 64 := (Nat.log2_lt (by omega)).mpr inside
  obtain ⟨k, hk⟩ : ∃ k, n.log2 = 52 + k := ⟨n.log2 - 52, by omega⟩
  have target : Format.binary64.targetExponent (totalExponent n 0) = k := by
    rw [targetExponent_eq]
    omega
  have low : 2 ^ 52 ≤ n / 2 ^ k := by
    rw [Nat.le_div_iff_mul_le (Nat.two_pow_pos k), ← Nat.pow_add, ← hk]
    exact Nat.log2_self_le (by omega)
  have high : n / 2 ^ k < 2 ^ 53 := by
    rw [Nat.div_lt_iff_lt_mul (Nat.two_pow_pos k), ← Nat.pow_add, show 53 + k = n.log2 + 1 by omega]
    exact Nat.lt_log2_self
  obtain ⟨em, cut, hem⟩ : ∃ em, shiftToTargetExponent Format.binary64 n 0 .exact = (em, (k : Int)) ∧
      em.mantissa = n / 2 ^ k := by
    refine ⟨(⟨n, false, false⟩ : ExtendedMantissa) >>> k, ?_, shiftRight_mantissa _ _⟩
    simp only [shiftToTargetExponent, shiftToExponent, target, Int.sub_zero, Int.toNat_natCast,
      Int.zero_add]
    rfl
  have begun : UnpackedFloat.round Format.binary64 s n 0 =
      roundWithAccuracy Format.binary64 s n 0 .exact := by
    have none : ((0 : Int) - k).toNat = 0 := by omega
    rw [UnpackedFloat.round, target, decreaseExponent]
    simp only [none]
    rfl
  rw [begun, roundWithAccuracy, cut]
  dsimp only
  have near := roundedMantissa_near em
  generalize em.roundedMantissa = r at near ⊢
  -- the mantissa is cut once, and once more where rounding up has made it a bit longer
  rcases (by omega : r < 2 ^ 53 ∨ r = 2 ^ 53) with fits | rfl
  · have some : r ≠ 0 := by omega
    refine ⟨r, k, by omega, by omega, fits, by omega, by omega, ?_⟩
    simp only [shiftToTargetExponent_full (by omega) fits (by omega : (-1074 : Int) ≤ k), dif_neg some]
  · refine ⟨2 ^ 52, k + 1, by decide, by decide, by decide, by omega, by omega, ?_⟩
    simp only [shiftToTargetExponent_carry (by omega : (-1074 : Int) ≤ k)]
    rfl

def signOf (z : Int) : Sign := if z < 0 then .negative else .positive

theorem ofWhole_eq {z : Int} (some : z ≠ 0) :
    ofWhole z = .ofModel (.pack (UnpackedFloat.round Format.binary64 (signOf z) z.natAbs 0)) := by
  unfold ofWhole Float.Model.ofInt UnpackedFloat.ofInt UnpackedFloat.normalize signOf
  rcases Int.lt_or_gt_of_ne some with below | above
  · have order : compare z 0 = .lt := Int.compare_eq_lt.mpr below
    have size : (-z).toNat = z.natAbs := by omega
    simp only [order, if_pos below, size]
  · have order : compare z 0 = .gt := Int.compare_eq_gt.mpr above
    have size : z.toNat = z.natAbs := by omega
    simp only [order, if_neg (Int.not_lt.mpr (Int.le_of_lt above)), size]

theorem signOf_apply (z : Int) (n : Nat) : (signOf z).apply ((z.natAbs * n : Nat) : Int) = z * n := by
  rw [Int.natCast_mul]
  unfold signOf
  split
  · rw [Sign.apply, ← Int.neg_mul, Int.ofNat_natAbs_of_nonpos (by omega), Int.neg_neg]
  · rw [Sign.apply, Int.natAbs_of_nonneg (by omega)]

theorem natAbs_apply (s : Sign) (m : Nat) : (s.apply (m : Int)).natAbs = m := by
  cases s <;> simp [Sign.apply]

/-- A whole number with its bits in the mantissa: all of them, or the first 53 where it has more. -/
theorem exists_full {z : Int} (some : z ≠ 0) (inside : z.natAbs < 2 ^ 64) :
    ∃ m e pos, ofWhole z = full (signOf z) m e pos ∧ 2 ^ 52 ≤ m ∧ m < 2 ^ 53 ∧ -52 ≤ e ∧ e ≤ 12 ∧
      ((z.natAbs < 2 ^ 53 ∧ ∃ k : Nat, e = -k ∧ m = z.natAbs * 2 ^ k) ∨ 2 ^ 53 ≤ z.natAbs ∧ 1 ≤ e) := by
  rw [ofWhole_eq some]
  by_cases short : z.natAbs < 2 ^ 53
  · obtain ⟨k, hk, low, high, pos, rounded⟩ := round_short (s := signOf z) (by omega) short
    rw [rounded]
    exact ⟨_, _, pos, rfl, low, high, by omega, by omega, .inl ⟨short, k, rfl, rfl⟩⟩
  · have long : 2 ^ 53 ≤ z.natAbs := Nat.not_lt.mp short
    obtain ⟨m, e, pos, low, high, up, least, rounded⟩ := round_long (s := signOf z) long inside
    rw [rounded]
    exact ⟨m, e, pos, rfl, low, high, by omega, by omega, .inr ⟨long, up⟩⟩

theorem isFinite_ofWhole {z : Int} (inside : z.natAbs < 2 ^ 64) : (ofWhole z).isFinite = true := by
  by_cases some : z = 0
  · rw [some]
    decide +kernel
  obtain ⟨m, e, pos, eq, low, high, least, greatest, -⟩ := exists_full some inside
  rw [eq]
  exact isFinite_full low high (by omega) (by omega)

theorem floor_ofWhole {z : Int} (short : z.natAbs < 2 ^ 53) : floor (ofWhole z) = z := by
  by_cases some : z = 0
  · rw [some]
    decide +kernel
  obtain ⟨m, e, pos, eq, low, high, least, greatest, ⟨-, k, rfl, rfl⟩ | ⟨long, -⟩⟩ :=
    exists_full some (by omega)
  · rw [eq, floor, exact_full low high (by omega) (by omega)]
    have value : (signOf z).apply ((z.natAbs * 2 ^ k : Nat) : Int) = z * twoTo k := signOf_apply z _
    have positive : (twoTo k : Int) ≠ 0 := Int.natCast_ne_zero.mpr (Nat.ne_of_gt (Nat.two_pow_pos k))
    dsimp only
    rw [value, Int.neg_neg, Int.toNat_natCast]
    split
    · obtain rfl : k = 0 := by omega
      simp [twoTo]
    · exact Int.mul_ediv_cancel _ positive
  · omega

theorem le_floor_ofWhole {z : Int} (long : 2 ^ 53 ≤ z.natAbs) (inside : z.natAbs < 2 ^ 64) :
    2 ^ 53 ≤ (floor (ofWhole z)).natAbs := by
  obtain ⟨m, e, pos, eq, low, high, least, greatest, ⟨short, -⟩ | ⟨-, up⟩⟩ :=
    exists_full (by omega) inside
  · omega
  · have doubled : 2 ≤ twoTo e.toNat := by
      calc 2 = 2 ^ 1 := rfl
        _ ≤ 2 ^ e.toNat := Nat.pow_le_pow_right (by decide) (by omega)
    rw [eq, floor, exact_full low high (by omega) (by omega)]
    dsimp only
    rw [if_pos (by omega), Int.natAbs_mul, natAbs_apply, Int.natAbs_natCast]
    calc 2 ^ 53 = 2 ^ 52 * 2 := rfl
      _ ≤ m * twoTo e.toNat := Nat.mul_le_mul low doubled

theorem sub_self_of_isFinite {x : Float} (finite : x.isFinite = true) : x - x = ofWhole 0 := by
  change Float.ofModel (.pack (UnpackedFloat.sub Format.binary64 x.toModel.unpack x.toModel.unpack)) =
    Float.ofModel (.pack (.zero .positive))
  change x.toModel.unpack.isFinite = true at finite
  congr 2
  generalize x.toModel.unpack = u at finite
  cases u with
  | infinity => cases finite
  | notANumber => cases finite
  | zero s => cases s <;> rfl
  | finite s m e pos => simp [UnpackedFloat.sub, UnpackedFloat.normalize]

end SchemaForge.Decimal
