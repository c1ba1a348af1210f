import SchemaForge.Proofs.Text.Utf8

/-! The order of texts by their bytes. UTF-8 keeps the order of the characters: a greater character has
a greater byte at the first place where the bytes differ, and none starts with the bytes of another. So
texts are in the same order by their bytes as by their characters. -/

namespace SchemaForge.Text.Utf8

variable {b b' : UInt8} {tail tail' xs ys : Bytes} {n n' : Nat}

theorem cons_lt_cons_iff : b :: xs < b' :: ys ↔
    b.toNat < b'.toNat ∨ b.toNat = b'.toNat ∧ xs < ys := by
  rw [List.cons_lt_cons_iff, UInt8.lt_iff_toNat_lt, UInt8.toNat_inj]

/-- The first bytes of longer sequences are greater; among sequences of one length, the bytes are the
digits of the number. -/
theorem Spells.lt (h : Spells n b tail) (h' : Spells n' b' tail') (hn : n < n') (xs ys : Bytes) :
    b :: tail ++ xs < b' :: tail' ++ ys := by
  cases h with
  | one first =>
    cases h' <;> simp only [low6, List.cons_append, cons_lt_cons_iff] at hn ⊢ <;> omega
  | two first second =>
    rw [isContinuation_iff] at second
    cases h' with
    | one first' => simp only [low6] at hn; omega
    | two first' second' =>
      rw [isContinuation_iff] at second'
      simp only [low6, List.cons_append, cons_lt_cons_iff] at hn ⊢
      omega
    | three first' | four first' =>
      simp only [List.cons_append, cons_lt_cons_iff]
      omega
  | three first second third =>
    rw [secondOfThree_iff] at second
    rw [isContinuation_iff] at third
    cases h' with
    | one first' | two first' => simp only [low6] at hn; omega
    | three first' second' third' =>
      rw [secondOfThree_iff] at second'
      rw [isContinuation_iff] at third'
      simp only [low6, List.cons_append, cons_lt_cons_iff] at hn ⊢
      omega
    | four first' =>
      simp only [List.cons_append, cons_lt_cons_iff]
      omega
  | four first second third fourth =>
    rw [secondOfFour_iff] at second
    rw [isContinuation_iff] at third fourth
    cases h' with
    | one first' | two first' | three first' => simp only [low6] at hn; omega
    | four first' second' third' fourth' =>
      rw [secondOfFour_iff] at second'
      rw [isContinuation_iff] at third' fourth'
      simp only [low6, List.cons_append, cons_lt_cons_iff] at hn ⊢
      omega

theorem encode_lt {cs ds : List Char} (h : cs < ds) : encode cs < encode ds := by
  induction h with
  | nil =>
    obtain ⟨b, tail, bytes, -⟩ := spells_encode _
    rw [encode_cons, bytes]
    exact .nil
  | cons _ ih =>
    rw [encode_cons, encode_cons]
    exact List.append_left_lt ih
  | rel hc =>
    obtain ⟨b, tail, bytes, spells⟩ := spells_encode _
    obtain ⟨b', tail', bytes', spells'⟩ := spells_encode _
    rw [encode_cons, encode_cons, bytes, bytes']
    exact spells.lt spells' hc _ _

/-- Texts are in the order of their bytes just when they are in the order of their characters. -/
theorem ofString_lt_iff {s t : String} : ofString s < ofString t ↔ s < t := by
  constructor
  · intro h
    rw [← String.not_le]
    intro back
    by_cases same : s = t
    · exact List.lt_irrefl _ (same ▸ h)
    · have less : t < s := String.not_le.mp fun forth => same (String.le_antisymm forth back)
      exact List.lt_asymm h (encode_lt less)
  · exact fun h => encode_lt h

end SchemaForge.Text.Utf8
