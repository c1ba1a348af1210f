import SchemaForge.Json.Reader
import SchemaForge.Proofs.Json.Keys
import SchemaForge.Proofs.Outcome

/-! What is read from JSON text is well keyed: a key that comes again takes its old place. The proof
goes by the depth that is left, and within a list or an object by the length of the rest. -/

namespace SchemaForge.Json

open Outcome (Gives)
open Text.Utf8 (Bytes)

def KeyedValues (depth : Nat) : Prop :=
  ∀ s, Gives (fun p => p.1.WellKeyed) (value depth s)

theorem elements_wellKeyed {depth : Nat} (hvalue : KeyedValues depth) (n : Nat) (s : Bytes)
    (before : List Value) (hn : s.length < n) (hbefore : ∀ v ∈ before, v.WellKeyed) :
    Gives (fun p => ∀ v ∈ p.1, v.WellKeyed) (elements depth before s) := by
  induction n generalizing s before with
  | zero => exact absurd hn (Nat.not_lt_zero _)
  | succ n ih =>
    unfold elements
    refine (hvalue s).bind fun p hv => ?_
    obtain ⟨v, r, hr⟩ := p
    have hitems : ∀ w ∈ v :: before, w.WellKeyed := List.forall_mem_cons.mpr ⟨hv, hbefore⟩
    dsimp only
    split
    · exact .error _
    · next b r₁ h₁ _ =>
      refine .ite (fun _ => .pure fun w hw => hitems w (List.mem_reverse.mp hw)) fun _ => ?_
      refine .ite (fun _ => ?_) fun _ => .error _
      split
      · exact .error _
      · next b₁ r₂ h₂ _ =>
        refine .ite (fun _ => .error _) fun _ => ?_
        have shorter : (b₁ :: r₂).length < n := by
          have step₁ := h₁
          have step₂ := h₂
          simp only [List.length_cons] at step₁ step₂ ⊢
          omega
        exact (ih _ _ shorter hitems).bind fun _ hrest => .pure hrest

theorem members_wellKeyed {depth : Nat} (hvalue : KeyedValues depth) (n : Nat) (s : Bytes)
    (before : Object) (hn : s.length < n) (hbefore : (Value.object before).WellKeyed) :
    Gives (fun p => (Value.object p.1).WellKeyed) (members depth before s) := by
  induction n generalizing s before with
  | zero => exact absurd hn (Nat.not_lt_zero _)
  | succ n ih =>
    unfold members
    refine (Gives.any (string s)).bind fun p _ => ?_
    obtain ⟨key, r, hr⟩ := p
    dsimp only
    split
    · exact .error _
    · next b r₁ h₁ _ =>
      refine .ite (fun _ => .error _) fun _ => ?_
      refine (hvalue r₁).bind fun p hv => ?_
      obtain ⟨v, r₂, hr₂⟩ := p
      have hentries : (Value.object (before.insert key v)).WellKeyed := hbefore.insert hv
      dsimp only
      split
      · exact .error _
      · next b₂ r₃ h₃ _ =>
        refine .ite (fun _ => .pure hentries) fun _ => .ite (fun _ => ?_) fun _ => .error _
        split
        · exact .error _
        · next b₃ r₄ h₄ _ =>
          refine .ite (fun _ => ?_) fun _ => .ite (fun _ => .error _) fun _ => .error _
          have shorter : r₄.length < n := by
            have step₁ := h₁
            have step₃ := h₃
            have step₄ := h₄
            simp only [List.length_cons] at step₁ step₃ step₄
            omega
          exact (ih _ _ shorter hentries).bind fun _ hrest => .pure hrest

theorem keyedValues_of_parts {depth : Nat}
    (hparts : ∀ n, depth = n + 1 → KeyedValues n) : KeyedValues depth := by
  intro s
  unfold value
  split
  · exact .error _
  · next b r h _ =>
    dsimp only
    refine .ite (fun _ => (Gives.any _).bind fun _ _ => .pure .null) fun _ => ?_
    refine .ite (fun _ => (Gives.any _).bind fun _ _ => .pure (.bool true)) fun _ => ?_
    refine .ite (fun _ => (Gives.any _).bind fun _ _ => .pure (.bool false)) fun _ => ?_
    refine .ite (fun _ => (Gives.any _).bind fun p _ => .pure (.number p.1)) fun _ => ?_
    refine .ite (fun _ => (Gives.any _).bind fun p _ => .pure (.number p.1)) fun _ => ?_
    refine .ite (fun _ => (Gives.any _).bind fun p _ => .pure (.string p.1)) fun _ => ?_
    refine .ite (fun _ => ?_) fun _ => .ite (fun _ => ?_) fun _ => .error _
    · split
      · exact .error _
      · next n =>
        split
        · exact .error _
        · next b₁ r₁ h₁ _ =>
          have none : ∀ v ∈ ([] : List Value), v.WellKeyed := List.forall_mem_nil _
          refine .ite (fun _ => .pure (.array none)) fun _ => ?_
          exact (elements_wellKeyed (hparts n rfl) _ _ [] (Nat.lt_succ_self _) none).bind
            fun _ hitems => .pure (.array hitems)
    · split
      · exact .error _
      · next n =>
        split
        · exact .error _
        · next b₁ r₁ h₁ _ =>
          refine .ite (fun _ => .pure .empty) fun _ => .ite (fun _ => ?_) fun _ => .error _
          exact (members_wellKeyed (hparts n rfl) _ _ [] (Nat.lt_succ_self _) .empty).bind
            fun _ hentries => .pure hentries

theorem keyedValues (depth : Nat) : KeyedValues depth := by
  induction depth with
  | zero => exact keyedValues_of_parts nofun
  | succ depth ih =>
    refine keyedValues_of_parts fun n hn => ?_
    rw [← Nat.succ.inj hn]
    exact ih

theorem wellKeyed_of_read {text : String} {v : Value} (h : read text = .ok v) : v.WellKeyed := by
  have hbytes : Gives Value.WellKeyed (readBytes (Text.Utf8.ofString text)) := by
    refine (keyedValues depthLimit _).bind fun p hw => ?_
    obtain ⟨w, r, hr⟩ := p
    dsimp only
    split
    · exact .pure hw
    · exact .error _
  unfold read at h
  dsimp only at h
  split at h
  · next w hread =>
    obtain rfl := Except.ok.inj h
    exact hbytes _ hread
  · cases h

end SchemaForge.Json
