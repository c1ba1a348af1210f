import SchemaForge.Text.Utf8

/-! Text as bytes and back. What a text is written as reads as that text, and bytes that read as a
text are what it is written as. So no two texts have the same bytes, and no two rows of bytes are the
same text. -/

namespace SchemaForge.Text.Utf8

open String (utf8EncodeChar)

theorem toNat_ofNat {n : Nat} (h : n < 256) : (UInt8.ofNat n).toNat = n :=
  UInt8.toNat_ofNat_of_lt' h

theorem isContinuation_iff {b : UInt8} :
    isContinuation b = true ↔ 0x80 ≤ b.toNat ∧ b.toNat ≤ 0xBF := by
  simp [isContinuation, UInt8.le_iff_toNat_le]

theorem secondOfThree_iff {b b₁ : UInt8} : secondOfThree b b₁ = true ↔
    (0x80 ≤ b₁.toNat ∧ b₁.toNat ≤ 0xBF) ∧ (b.toNat = 0xE0 → 0xA0 ≤ b₁.toNat) ∧
      (b.toNat = 0xED → b₁.toNat ≤ 0x9F) := by
  simp only [secondOfThree, beq_iff_eq, ← UInt8.toNat_inj, UInt8.le_iff_toNat_le,
    UInt8.reduceToNat]
  by_cases h₀ : b.toNat = 0xE0
  · simp [h₀]; omega
  by_cases h₁ : b.toNat = 0xED
  · simp [h₁]; omega
  simp [h₀, h₁, isContinuation_iff]

theorem secondOfFour_iff {b b₁ : UInt8} : secondOfFour b b₁ = true ↔
    (0x80 ≤ b₁.toNat ∧ b₁.toNat ≤ 0xBF) ∧ (b.toNat = 0xF0 → 0x90 ≤ b₁.toNat) ∧
      (b.toNat = 0xF4 → b₁.toNat ≤ 0x8F) := by
  simp only [secondOfFour, beq_iff_eq, ← UInt8.toNat_inj, UInt8.le_iff_toNat_le,
    UInt8.reduceToNat]
  by_cases h₀ : b.toNat = 0xF0
  · simp [h₀]; omega
  by_cases h₄ : b.toNat = 0xF4
  · simp [h₄]; omega
  simp [h₀, h₄, isContinuation_iff]

/-- The number of the character that a first byte and those behind it are. -/
inductive Spells : Nat → UInt8 → Bytes → Prop
  | one {b : UInt8} (first : b.toNat < 0x80) : Spells b.toNat b []
  | two {b b₁ : UInt8} (first : 0xC2 ≤ b.toNat ∧ b.toNat ≤ 0xDF)
      (second : isContinuation b₁ = true) : Spells (b.toNat % 32 * 64 + low6 b₁) b [b₁]
  | three {b b₁ b₂ : UInt8} (first : 0xE0 ≤ b.toNat ∧ b.toNat ≤ 0xEF)
      (second : secondOfThree b b₁ = true) (third : isContinuation b₂ = true) :
      Spells ((b.toNat % 16 * 64 + low6 b₁) * 64 + low6 b₂) b [b₁, b₂]
  | four {b b₁ b₂ b₃ : UInt8} (first : 0xF0 ≤ b.toNat ∧ b.toNat ≤ 0xF4)
      (second : secondOfFour b b₁ = true) (third : isContinuation b₂ = true)
      (fourth : isContinuation b₃ = true) :
      Spells (((b.toNat % 8 * 64 + low6 b₁) * 64 + low6 b₂) * 64 + low6 b₃) b [b₁, b₂, b₃]

section

variable {b : UInt8} {rest tail : Bytes} {c : Char} {n length : Nat}

theorem step_of_spells (h : Spells n b tail) (rest : Bytes) :
    step b (tail ++ rest) = .char (Char.ofNat n) (tail.length + 1) := by
  cases h with
  | one first =>
    have hb : b < 0x80 := by simpa [UInt8.lt_iff_toNat_lt] using first
    simp [step, hb]
  | two first second =>
    have small : ¬ b < 0x80 := by simp [UInt8.lt_iff_toNat_lt]; omega
    simp [step, small, UInt8.le_iff_toNat_le, first, second]
  | three first second third =>
    have small : ¬ b < 0x80 := by simp [UInt8.lt_iff_toNat_lt]; omega
    have two : ¬ (0xC2 ≤ b.toNat ∧ b.toNat ≤ 0xDF) := by omega
    simp [step, small, two, UInt8.le_iff_toNat_le, first, second, third]
  | four first second third fourth =>
    have small : ¬ b < 0x80 := by simp [UInt8.lt_iff_toNat_lt]; omega
    have two : ¬ (0xC2 ≤ b.toNat ∧ b.toNat ≤ 0xDF) := by omega
    have three : ¬ (0xE0 ≤ b.toNat ∧ b.toNat ≤ 0xEF) := by omega
    simp [step, small, two, three, UInt8.le_iff_toNat_le, first, second, third, fourth]

theorem spells_of_step (h : step b rest = .char c length) :
    ∃ n tail, Spells n b tail ∧ c = Char.ofNat n ∧ length = tail.length + 1 ∧
      rest = tail ++ rest.drop (length - 1) := by
  unfold step at h
  split at h
  · next first =>
    cases h
    exact ⟨_, _, .one (by simpa [UInt8.lt_iff_toNat_lt] using first), rfl, rfl, rfl⟩
  split at h
  · next first =>
    split at h
    · cases h
    split at h
    · next second =>
      cases h
      have first := by simpa [UInt8.le_iff_toNat_le] using first
      exact ⟨_, _, .two first second, rfl, rfl, rfl⟩
    · cases h
  split at h
  · next first =>
    split at h
    · cases h
    split at h
    · next second =>
      split at h
      · cases h
      split at h
      · next third =>
        cases h
        have first := by simpa [UInt8.le_iff_toNat_le] using first
        exact ⟨_, _, .three first second third, rfl, rfl, rfl⟩
      · cases h
    · cases h
  split at h
  · next first =>
    split at h
    · cases h
    split at h
    · next second =>
      split at h
      · cases h
      split at h
      · next third =>
        split at h
        · cases h
        split at h
        · next fourth =>
          cases h
          have first := by simpa [UInt8.le_iff_toNat_le] using first
          exact ⟨_, _, .four first second third fourth, rfl, rfl, rfl⟩
        · cases h
      · cases h
    · cases h
  · cases h

theorem Spells.valid (h : Spells n b tail) : n.isValidChar := by
  unfold Nat.isValidChar
  cases h with
  | one first => omega
  | two first second =>
    simp only [low6]
    omega
  | three first second third =>
    have hsecond := secondOfThree_iff.mp second
    simp only [low6]
    omega
  | four first second third fourth =>
    have hsecond := secondOfFour_iff.mp second
    simp only [low6]
    omega

theorem Spells.alone_or_high (h : Spells n b tail) :
    tail = [] ∧ b.toNat = n ∨ ∀ b' ∈ b :: tail, 0x80 ≤ b'.toNat := by
  cases h with
  | one first => exact .inl ⟨rfl, rfl⟩
  | two first second =>
    have hsecond := isContinuation_iff.mp second
    right
    simp
    omega
  | three first second third =>
    have hsecond := secondOfThree_iff.mp second
    have hthird := isContinuation_iff.mp third
    right
    simp
    omega
  | four first second third fourth =>
    have hsecond := secondOfFour_iff.mp second
    have hthird := isContinuation_iff.mp third
    have hfourth := isContinuation_iff.mp fourth
    right
    simp
    omega

theorem encode_of_spells (h : Spells n b tail) : utf8EncodeChar (Char.ofNat n) = b :: tail := by
  have hn : (Char.ofNat n).val.toNat = n := by
    rw [Char.ofNat, dif_pos h.valid]
    rfl
  unfold utf8EncodeChar
  rw [hn]
  cases h with
  | one first =>
    have hb : b.toNat ≤ 127 := by omega
    simp [hb]
  | @two b b₁ first second =>
    have hsecond := isContinuation_iff.mp second
    generalize hm : b.toNat % 32 * 64 + low6 b₁ = m
    simp only [low6] at hm
    have h₁ : ¬ m ≤ 127 := by omega
    have h₂ : m ≤ 2047 := by omega
    have hb : m / 64 % 32 + 192 = b.toNat := by omega
    have hb₁ : m % 64 + 128 = b₁.toNat := by omega
    simp [h₁, h₂, hb, hb₁]
  | @three b b₁ b₂ first second third =>
    have hsecond := secondOfThree_iff.mp second
    have hthird := isContinuation_iff.mp third
    generalize hm : (b.toNat % 16 * 64 + low6 b₁) * 64 + low6 b₂ = m
    simp only [low6] at hm
    have h₁ : ¬ m ≤ 127 := by omega
    have h₂ : ¬ m ≤ 2047 := by omega
    have h₃ : m ≤ 65535 := by omega
    have hb : m / 4096 % 16 + 224 = b.toNat := by omega
    have hb₁ : m / 64 % 64 + 128 = b₁.toNat := by omega
    have hb₂ : m % 64 + 128 = b₂.toNat := by omega
    simp [h₁, h₂, h₃, hb, hb₁, hb₂]
  | @four b b₁ b₂ b₃ first second third fourth =>
    have hsecond := secondOfFour_iff.mp second
    have hthird := isContinuation_iff.mp third
    have hfourth := isContinuation_iff.mp fourth
    generalize hm : ((b.toNat % 8 * 64 + low6 b₁) * 64 + low6 b₂) * 64 + low6 b₃ = m
    simp only [low6] at hm
    have h₁ : ¬ m ≤ 127 := by omega
    have h₂ : ¬ m ≤ 2047 := by omega
    have h₃ : ¬ m ≤ 65535 := by omega
    have hb : m / 262144 % 8 + 240 = b.toNat := by omega
    have hb₁ : m / 4096 % 64 + 128 = b₁.toNat := by omega
    have hb₂ : m / 64 % 64 + 128 = b₂.toNat := by omega
    have hb₃ : m % 64 + 128 = b₃.toNat := by omega
    simp [h₁, h₂, h₃, hb, hb₁, hb₂, hb₃]

theorem spells_encode (c : Char) :
    ∃ b tail, utf8EncodeChar c = b :: tail ∧ Spells c.toNat b tail := by
  have valid : c.toNat < 0xD800 ∨ 0xDFFF < c.toNat ∧ c.toNat < 0x110000 := c.valid
  unfold utf8EncodeChar
  rw [show c.val.toNat = c.toNat from rfl]
  generalize c.toNat = n at valid
  have last := toNat_ofNat (show n % 64 + 128 < 256 by omega)
  have third := toNat_ofNat (show n / 64 % 64 + 128 < 256 by omega)
  have second := toNat_ofNat (show n / 4096 % 64 + 128 < 256 by omega)
  by_cases h₁ : n ≤ 127
  · have first := toNat_ofNat (show n < 256 by omega)
    simp only [h₁, if_true]
    generalize UInt8.ofNat n = b at first ⊢
    have spells : Spells b.toNat b [] := .one (by omega)
    rw [first] at spells
    exact ⟨b, [], rfl, spells⟩
  by_cases h₂ : n ≤ 2047
  · have first := toNat_ofNat (show n / 64 % 32 + 192 < 256 by omega)
    simp only [h₁, h₂, if_true, if_false]
    generalize UInt8.ofNat (n / 64 % 32 + 192) = b at first ⊢
    generalize UInt8.ofNat (n % 64 + 128) = b₁ at last ⊢
    have spells : Spells (b.toNat % 32 * 64 + low6 b₁) b [b₁] :=
      .two (by omega) (isContinuation_iff.mpr (by omega))
    have number : b.toNat % 32 * 64 + low6 b₁ = n := by
      simp only [low6]
      omega
    exact ⟨b, [b₁], rfl, number ▸ spells⟩
  by_cases h₃ : n ≤ 65535
  · have first := toNat_ofNat (show n / 4096 % 16 + 224 < 256 by omega)
    simp only [h₁, h₂, h₃, if_true, if_false]
    generalize UInt8.ofNat (n / 4096 % 16 + 224) = b at first ⊢
    generalize UInt8.ofNat (n / 64 % 64 + 128) = b₁ at third ⊢
    generalize UInt8.ofNat (n % 64 + 128) = b₂ at last ⊢
    have spells : Spells ((b.toNat % 16 * 64 + low6 b₁) * 64 + low6 b₂) b [b₁, b₂] :=
      .three (by omega) (secondOfThree_iff.mpr (by omega)) (isContinuation_iff.mpr (by omega))
    have number : (b.toNat % 16 * 64 + low6 b₁) * 64 + low6 b₂ = n := by
      simp only [low6]
      omega
    exact ⟨b, [b₁, b₂], rfl, number ▸ spells⟩
  · have first := toNat_ofNat (show n / 262144 % 8 + 240 < 256 by omega)
    simp only [h₁, h₂, h₃, if_false]
    generalize UInt8.ofNat (n / 262144 % 8 + 240) = b at first ⊢
    generalize UInt8.ofNat (n / 4096 % 64 + 128) = b₁ at second ⊢
    generalize UInt8.ofNat (n / 64 % 64 + 128) = b₂ at third ⊢
    generalize UInt8.ofNat (n % 64 + 128) = b₃ at last ⊢
    have spells : Spells (((b.toNat % 8 * 64 + low6 b₁) * 64 + low6 b₂) * 64 + low6 b₃) b
        [b₁, b₂, b₃] :=
      .four (by omega) (secondOfFour_iff.mpr (by omega)) (isContinuation_iff.mpr (by omega))
        (isContinuation_iff.mpr (by omega))
    have number : ((b.toNat % 8 * 64 + low6 b₁) * 64 + low6 b₂) * 64 + low6 b₃ = n := by
      simp only [low6]
      omega
    exact ⟨b, [b₁, b₂, b₃], rfl, number ▸ spells⟩

end

theorem encode_cons (c : Char) (cs : List Char) :
    encode (c :: cs) = utf8EncodeChar c ++ encode cs := rfl

theorem encode_append (cs ds : List Char) : encode (cs ++ ds) = encode cs ++ encode ds :=
  List.flatMap_append

theorem decodeFrom_encode (index : Nat) (before cs : List Char) :
    decodeFrom index before (encode cs) = .ok (before.reverse ++ cs) := by
  induction cs generalizing index before with
  | nil => simp [encode, decodeFrom]
  | cons c cs ih =>
    obtain ⟨b, tail, bytes, spells⟩ := spells_encode c
    have hstep := step_of_spells spells (encode cs)
    rw [Char.ofNat_toNat] at hstep
    rw [encode_cons, bytes, List.cons_append, decodeFrom, hstep]
    simp [ih]

theorem encode_of_decodeFrom {index : Nat} {before cs : List Char} {bytes : Bytes}
    (h : decodeFrom index before bytes = .ok cs) :
    ∃ more, cs = before.reverse ++ more ∧ encode more = bytes := by
  fun_induction decodeFrom index before bytes with
  | case1 index before =>
    cases h
    exact ⟨[], by simp, rfl⟩
  | case2 index before b rest c length hstep ih =>
    obtain ⟨more, hcs, hmore⟩ := ih h
    obtain ⟨n, tail, spells, rfl, -, hrest⟩ := spells_of_step hstep
    refine ⟨Char.ofNat n :: more, by simp [hcs], ?_⟩
    rw [encode_cons, encode_of_spells spells, hmore, List.cons_append, ← hrest]
  | case3 => cases h
  | case4 => cases h

theorem decode_ofString (s : String) : decode (ofString s) = .ok s := by
  simp [decode, ofString, decodeFrom_encode, Except.map]

theorem ofString_of_decode {bytes : Bytes} {s : String} (h : decode bytes = .ok s) :
    ofString s = bytes := by
  unfold decode at h
  cases hcs : decodeFrom 0 [] bytes with
  | error fault => simp [hcs, Except.map] at h
  | ok cs =>
    obtain ⟨_, rfl, hbytes⟩ := encode_of_decodeFrom hcs
    have hs : String.ofList cs = s := by simpa [hcs, Except.map] using h
    simp [ofString, ← hs, hbytes]

theorem ofString_injective {s s' : String} (h : ofString s = ofString s') : s = s' := by
  have hs := decode_ofString s
  rw [h, decode_ofString s'] at hs
  exact (Except.ok.inj hs).symm

end SchemaForge.Text.Utf8
