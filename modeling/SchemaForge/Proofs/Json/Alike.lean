import Mathlib.Data.List.Forall2
import SchemaForge.Proofs.Json.Keys

/-! Objects that differ under one key. They have the same keys in the same order; under that key their
values are related in some way, and everywhere else they are equal. Whatever does not look under the key
cannot tell such objects apart. -/

namespace SchemaForge.Json.Object

variable {key k : String} {R : Value → Value → Prop} {o o' : Object}

def AlikeBut (key : String) (R : Value → Value → Prop) (o o' : Object) : Prop :=
  List.Forall₂ (fun e e' => e.1 = e'.1 ∧ if e.1 = key then R e.2 e'.2 else e.2 = e'.2) o o'

namespace AlikeBut

theorem refl (hR : ∀ v, R v v) (o : Object) : AlikeBut key R o o := by
  refine List.forall₂_same.mpr fun e _ => ⟨rfl, ?_⟩
  split
  · exact hR e.2
  · rfl

theorem symm (hR : ∀ {v w}, R v w → R w v) (h : AlikeBut key R o o') : AlikeBut key R o' o := by
  refine List.Forall₂.flip (h.imp fun e e' ⟨hkey, hvalue⟩ => ⟨hkey.symm, ?_⟩)
  rw [← hkey]
  split at hvalue
  · next here => exact (if_pos here).mpr (hR hvalue)
  · next other => exact (if_neg other).mpr hvalue.symm

theorem get?_other (h : AlikeBut key R o o') (other : k ≠ key) : get? o k = get? o' k := by
  induction h with
  | nil => rfl
  | @cons e e' _ _ he _ ih =>
    rw [get?_cons, get?_cons, ← he.1, ih]
    split
    · next here =>
      have hvalue := he.2
      rw [if_neg (here ▸ other)] at hvalue
      rw [hvalue]
    · rfl

/-- What stands under the key is related, or nothing stands there in either object. -/
theorem get?_key (h : AlikeBut key R o o') : Option.Rel R (get? o key) (get? o' key) := by
  induction h with
  | nil => exact .none
  | @cons e e' _ _ he _ ih =>
    rw [get?_cons, get?_cons, ← he.1]
    split
    · next here =>
      have hvalue := he.2
      rw [if_pos here.symm] at hvalue
      exact .some hvalue
    · exact ih

theorem exists_of_get? (h : AlikeBut key R o o') {v : Value} (hv : get? o key = some v) :
    ∃ w, get? o' key = some w ∧ R v w := by
  have related := h.get?_key
  rw [hv] at related
  generalize get? o' key = found at related
  cases related with
  | some related => exact ⟨_, rfl, related⟩

theorem exists_of_get?_right (h : AlikeBut key R o o') {w : Value} (hw : get? o' key = some w) :
    ∃ v, get? o key = some v ∧ R v w := by
  have related := h.get?_key
  rw [hw] at related
  generalize get? o key = found at related
  cases related with
  | some related => exact ⟨_, rfl, related⟩

theorem filter_eq {modeled : List String} (h : AlikeBut key R o o') (hkey : key ∈ modeled) :
    o.filter (fun e => decide (e.1 ∉ modeled)) = o'.filter fun e => decide (e.1 ∉ modeled) := by
  induction h with
  | nil => rfl
  | @cons e e' _ _ he _ ih =>
    rw [List.filter_cons, List.filter_cons, ← he.1, ih]
    split
    · next free =>
      have other : e.1 ≠ key := fun here => of_decide_eq_true free (here ▸ hkey)
      have hvalue := he.2
      rw [if_neg other] at hvalue
      rw [Prod.ext he.1 hvalue]
    · rfl

end AlikeBut

theorem forall₂_last {α β : Type} {R : α → β → Prop} {items : List α} {items' : List β}
    (h : List.Forall₂ R items items') : items = [] ∧ items' = [] ∨
      ∃ front last front' last', items = front ++ [last] ∧ items' = front' ++ [last'] ∧
        List.Forall₂ R front front' ∧ R last last' := by
  induction h with
  | nil => exact .inl ⟨rfl, rfl⟩
  | @cons a b _ _ hab _ ih =>
    right
    rcases ih with ⟨rfl, rfl⟩ | ⟨front, last, front', last', rfl, rfl, hfront, hlast⟩
    · exact ⟨[], a, [], b, rfl, rfl, .nil, hab⟩
    · exact ⟨a :: front, last, b :: front', last', rfl, rfl, .cons hab hfront, hlast⟩

theorem AlikeBut.eraseSwap (h : AlikeBut key R o o') (k : String) :
    AlikeBut key R (Object.eraseSwap o k) (Object.eraseSwap o' k) := by
  induction h with
  | nil => exact .nil
  | @cons e e' rest rest' he hrest ih =>
    rw [Object.eraseSwap, Object.eraseSwap, ← he.1]
    split
    · rcases forall₂_last hrest with ⟨rfl, rfl⟩ | ⟨front, last, front', last', rfl, rfl, hfront, hlast⟩
      · exact .nil
      · rw [List.getLast?_concat, List.getLast?_concat, List.dropLast_concat, List.dropLast_concat]
        exact .cons hlast hfront
    · exact .cons ⟨rfl, he.2⟩ ih

end SchemaForge.Json.Object
