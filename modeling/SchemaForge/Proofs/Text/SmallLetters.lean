import Mathlib
import SchemaForge.Text.Case

/-! Small letters against ASCII small letters. Of the letters outside of ASCII only the Kelvin sign has a
small form inside; the capital I with a dot leaves its dot behind. So a text without the letter k is the
small form of another just when it is its ASCII small form. -/

namespace SchemaForge.Text

structure OwnLetter (c : Char) : Prop where
  letter : 97 ≤ c.toNat ∧ c.toNat ≤ 122
  notKelvin : c.toNat ≠ 107

instance (c : Char) : Decidable (OwnLetter c) :=
  decidable_of_iff ((97 ≤ c.toNat ∧ c.toNat ≤ 122) ∧ c.toNat ≠ 107)
    ⟨fun h => ⟨h.1, h.2⟩, fun h => ⟨h.letter, h.notKelvin⟩⟩

theorem lowerRuns_outside : ∀ r ∈ lowerRuns,
    r.last < 128 ∨ 123 ≤ r.first + r.shift ∨ r.first = r.last ∧ r.first + r.shift = 107 := by
  decide +kernel

theorem not_ownLetter_ofNat {n : Nat} (h : 123 ≤ n ∨ n = 107) : ¬ OwnLetter (Char.ofNat n) := by
  rintro ⟨hletter, hkelvin⟩
  rw [Char.toNat_ofNat] at hletter hkelvin
  split at hletter
  · next hvalid =>
    rw [if_pos hvalid] at hkelvin
    omega
  · omega

theorem not_ownLetter_of_ge {c : Char} (h : 128 ≤ c.toNat) : ¬ OwnLetter c := by
  rintro ⟨hletter, -⟩
  omega

theorem not_ownLetter_shiftBy {c : Char} (h : 128 ≤ c.toNat) : ¬ OwnLetter (shiftBy lowerRuns c) := by
  unfold shiftBy
  split
  · next run hrun =>
    have outside := lowerRuns_outside run (List.mem_of_find?_eq_some hrun)
    have holds := List.find?_some hrun
    simp only [CaseRun.holds, Bool.and_eq_true, decide_eq_true_eq] at holds
    exact not_ownLetter_ofNat (by omega)
  · exact not_ownLetter_of_ge h

theorem toLower_of_ge {c : Char} (h : 128 ≤ c.toNat) : c.toLower = c := by
  apply Char.toLower_eq_of_not_isUpper
  simp [Char.isUpper, UInt32.le_iff_toNat_le]
  intro _
  change 90 < c.toNat
  omega

theorem lowerFrom_ascii {c : Char} (h : c.toNat < 128) (before rest : List Char) :
    lowerFrom before (c :: rest) = c.toLower :: lowerFrom (c :: before) rest := by
  have hsigma : c.toNat ≠ 0x3A3 := by omega
  simp only [lowerFrom, lowerChar, if_neg hsigma, if_pos h, List.singleton_append]

/-- The small form of a character outside of ASCII is not made of such letters alone. -/
theorem exists_not_ownLetter {c : Char} (h : 128 ≤ c.toNat) (before rest : List Char) :
    ∃ x ∈ lowerFrom before (c :: rest), ¬ OwnLetter x := by
  by_cases hsigma : c.toNat = 0x3A3
  · rw [lowerFrom, if_pos hsigma]
    dsimp only
    split
    · exact ⟨'\u03C2', List.mem_append_left _ List.mem_cons_self, not_ownLetter_of_ge (by decide)⟩
    · exact ⟨'\u03C3', List.mem_append_left _ List.mem_cons_self, not_ownLetter_of_ge (by decide)⟩
  · have hascii : ¬ c.toNat < 128 := by omega
    by_cases hdotted : c.toNat = 0x130
    · refine ⟨'\u0307', ?_, not_ownLetter_of_ge (by decide)⟩
      simp [lowerFrom, lowerChar, hdotted]
    · refine ⟨shiftBy lowerRuns c, ?_, not_ownLetter_shiftBy h⟩
      simp [lowerFrom, lowerChar, hsigma, hascii, hdotted]

theorem lowerFrom_eq_iff {before cs name : List Char} (hname : ∀ c ∈ name, OwnLetter c) :
    lowerFrom before cs = name ↔ cs.map Char.toLower = name := by
  induction cs generalizing before name with
  | nil => rfl
  | cons c rest ih =>
    rw [List.map_cons]
    by_cases h : c.toNat < 128
    · rw [lowerFrom_ascii h]
      cases name with
      | nil => simp
      | cons d name =>
        rw [List.cons.injEq, List.cons.injEq, ih (List.forall_mem_cons.mp hname).2]
    · have hge : 128 ≤ c.toNat := by omega
      constructor
      · intro heq
        obtain ⟨x, hx, hother⟩ := exists_not_ownLetter hge before rest
        exact absurd (hname x (heq ▸ hx)) hother
      · rintro rfl
        rw [toLower_of_ge hge] at hname
        exact absurd (hname c List.mem_cons_self) (not_ownLetter_of_ge hge)

theorem lower_eq_iff {s name : String} (hname : ∀ c ∈ name.toList, OwnLetter c) :
    lower s = name ↔ asciiLower s = name := by
  rw [← String.toList_inj, ← String.toList_inj, lower, asciiLower, String.toList_ofList,
    String.toList_map, lowerFrom_eq_iff hname]

end SchemaForge.Text
