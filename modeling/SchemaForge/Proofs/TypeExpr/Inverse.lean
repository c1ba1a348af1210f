import Mathlib.Data.String.Basic
import SchemaForge.Proofs.TypeExpr.Forms

/-! Reading a type expression and writing it undo each other. The texts that are read are the four forms
of a name; a text that is none is reported whole. Taking the brackets off by byte offsets, as one does
in a text of bytes, comes to the same: no offset leaves the text or cuts a character. -/

namespace SchemaForge.TypeExpr

/-- A name that a type expression can be made of. -/
def IsName (name : String) : Prop :=
  name ≠ "" ∧ ∀ c ∈ name.toList, c ≠ '[' ∧ c ≠ ']' ∧ c ≠ '?' ∧ Text.isBlank c = false

/-- The forms that a name takes. -/
inductive Form (name : String) : String → Prop
  | plain : Form name name
  | collection : Form name ("[" ++ name ++ "]")
  | optional : Form name (name ++ "?")
  | optionalCollection : Form name ("[" ++ name ++ "]" ++ "?")

/-- What a reported error quotes. -/
def Error.quoted? : Error → Option String
  | .empty => none
  | .unbalanced text | .nested text | .invalidName text => some text

theorem nameLegal_iff_isName {name : String} : nameLegal name.toList = true ↔ IsName name := by
  simp only [nameLegal_iff, isMark_eq_false, isBracket_eq_false, IsName, ne_eq,
    String.toList_eq_nil_iff, and_assoc]

theorem text_eq (t : TypeExpr) :
    t.text = (if t.collection then "[" ++ t.raw ++ "]" else t.raw) ++
      (if t.optional then "?" else "") := by
  apply String.toList_injective
  rw [text_toList, chars, String.toList_append]
  congr 1
  · split <;> simp
  · split <;> simp

theorem form_text (t : TypeExpr) : Form t.raw t.text := by
  rw [text_eq]
  cases t.collection with
  | false =>
    cases t.optional with
    | false => simpa using Form.plain
    | true => exact .optional
  | true =>
    cases t.optional with
    | false => simpa using Form.collection
    | true => exact .optionalCollection

theorem exists_text_of_form {name s : String} (h : Form name s) :
    ∃ t : TypeExpr, t.raw = name ∧ t.text = s := by
  cases h with
  | plain => exact ⟨⟨name, false, false⟩, rfl, by simp [text_eq]⟩
  | collection => exact ⟨⟨name, true, false⟩, rfl, by simp [text_eq]⟩
  | optional => exact ⟨⟨name, false, true⟩, rfl, by simp [text_eq]⟩
  | optionalCollection => exact ⟨⟨name, true, true⟩, rfl, by simp [text_eq]⟩

theorem parses_iff_form {s : String} :
    (∃ t, parse s = .ok t) ↔ ∃ name, IsName name ∧ Form name s := by
  constructor
  · rintro ⟨t, h⟩
    obtain ⟨rfl, hlegal⟩ := parse_eq_ok.mp h
    exact ⟨t.raw, nameLegal_iff_isName.mp hlegal, form_text t⟩
  · rintro ⟨name, hname, hform⟩
    obtain ⟨t, rfl, rfl⟩ := exists_text_of_form hform
    exact ⟨t, parse_text (nameLegal_iff_isName.mpr hname)⟩

theorem quoted_of_parse {s : String} {e : Error} (h : parse s = .error e) :
    e.quoted? = if s = "" then none else some s := by
  unfold parse at h
  split at h
  · next hnil =>
    cases h
    rw [if_pos (String.toList_eq_nil_iff.mp hnil)]
    rfl
  · next hne =>
    rw [if_neg fun hs => hne (String.toList_eq_nil_iff.mpr hs)]
    generalize splitOptional s.toList = split at h
    obtain ⟨body, optional⟩ := split
    have named (name : List Char) (collection : Bool) {onBracket : Error}
        (quotes : onBracket.quoted? = some s)
        (h : (if name.any isBracket then .error onBracket
          else if name.isEmpty || name.any Text.isBlank then .error (.invalidName s)
          else .ok ⟨String.ofList name, collection, optional⟩ : Except Error TypeExpr) = .error e) :
        e.quoted? = some s := by
      split at h
      · cases h
        exact quotes
      · split at h
        · cases h
          rfl
        · cases h
    dsimp only at h
    split at h
    · cases h
      rfl
    · split at h
      · next inner _ => exact named inner true rfl h
      · exact named body false rfl h
      · cases h
        rfl

/-- The bytes of a text between two offsets. A range that is turned around, that leaves the text or that
cuts a character has no text. -/
def slice? (s : String) (first last : Nat) : Option String :=
  if first ≤ last ∧ (⟨first⟩ : String.Pos.Raw).IsValid s ∧ (⟨last⟩ : String.Pos.Raw).IsValid s then
    some (String.Pos.Raw.extract s ⟨first⟩ ⟨last⟩)
  else none

/-- What `brackets` tells, with the length counted in bytes and the brackets taken off by offsets. -/
def bracketsByOffset (s : String) : Option Brackets :=
  let opens := s.toList.head? == some '['
  let closes := s.toList.getLast? == some ']'
  if opens && closes && 2 ≤ s.utf8ByteSize then
    (slice? s 1 (s.utf8ByteSize - 1)).map fun inner => .both inner.toList
  else if !opens && !closes then some .neither
  else some .oneSided

theorem slice?_middle (a b c : String) :
    slice? (a ++ b ++ c) a.utf8ByteSize (a.utf8ByteSize + b.utf8ByteSize) = some b := by
  have starts : (⟨a.utf8ByteSize⟩ : String.Pos.Raw).IsValid (a ++ b ++ c) :=
    String.Pos.Raw.isValid_iff_exists_append.mpr ⟨a, b ++ c, by rw [String.append_assoc], rfl⟩
  have ends : (⟨a.utf8ByteSize + b.utf8ByteSize⟩ : String.Pos.Raw).IsValid (a ++ b ++ c) :=
    String.Pos.Raw.isValid_iff_exists_append.mpr
      ⟨a ++ b, c, rfl, by rw [← String.utf8ByteSize_append]; rfl⟩
  rw [slice?, if_pos ⟨Nat.le_add_right _ _, starts, ends⟩]
  have hextract := String.extract_of_valid a.toList b.toList c.toList
  simpa [String.append_assoc] using hextract

/-- No character is both brackets, so that the one at the front and the one at the end are two. -/
theorem exists_inner {s : String} (opens : s.toList.head? = some '[')
    (closes : s.toList.getLast? = some ']') : ∃ inner, s = "[" ++ inner ++ "]" := by
  obtain ⟨front, hs⟩ := List.getLast?_eq_some_iff.mp closes
  rw [hs] at opens
  cases front with
  | nil => cases opens
  | cons c inner =>
    cases opens
    exact ⟨String.ofList inner, String.toList_injective (by simp [hs])⟩

theorem bracketsByOffset_eq (s : String) : bracketsByOffset s = some (brackets s.toList) := by
  by_cases both : s.toList.head? = some '[' ∧ s.toList.getLast? = some ']'
  · obtain ⟨inner, rfl⟩ := exists_inner both.1 both.2
    have hsize : ("[" ++ inner ++ "]").utf8ByteSize = 1 + inner.utf8ByteSize + 1 := by
      rw [String.utf8ByteSize_append, String.utf8ByteSize_append]
      rfl
    have hslice : slice? ("[" ++ inner ++ "]") 1 (1 + inner.utf8ByteSize) = some inner :=
      slice?_middle "[" inner "]"
    have hlist : ("[" ++ inner ++ "]").toList = '[' :: inner.toList ++ [']'] := by simp
    have hbytes : 2 ≤ 1 + inner.utf8ByteSize + 1 := by omega
    rw [hlist, brackets_both, bracketsByOffset, both.1, both.2, hsize, Nat.add_sub_cancel, hslice,
      decide_eq_true hbytes]
    rfl
  · unfold bracketsByOffset brackets
    cases hopens : s.toList.head? == some '[' with
    | false => cases s.toList.getLast? == some ']' <;> rfl
    | true =>
      cases hcloses : s.toList.getLast? == some ']' with
      | false => rfl
      | true => exact absurd ⟨beq_iff_eq.mp hopens, beq_iff_eq.mp hcloses⟩ both

/-- A text is read just when it is a form of a name, and then it is what is written of the expression;
what is written of an expression is read as that expression just when its raw type is a name. Only the
empty text fails as empty, every other failure quotes its text, and the brackets always come off. -/
theorem parse_inverts_text :
    (∀ s, (∃ t, parse s = .ok t) ↔ ∃ name, IsName name ∧ Form name s) ∧
    (∀ s t, parse s = .ok t → t.text = s) ∧
    (∀ t : TypeExpr, parse t.text = .ok t ↔ IsName t.raw) ∧
    (∀ s e, parse s = .error e →
      (e = .empty ↔ s = "") ∧ e.quoted? = if s = "" then none else some s) ∧
    ∀ s, bracketsByOffset s = some (brackets s.toList) := by
  refine ⟨fun s => parses_iff_form, fun s t h => (of_parse h).1.symm, fun t => ?_, fun s e h => ?_,
    bracketsByOffset_eq⟩
  · rw [← nameLegal_iff_isName, parse_eq_ok]
    exact and_iff_right rfl
  · have hquoted := quoted_of_parse h
    refine ⟨?_, hquoted⟩
    constructor
    · rintro rfl
      by_contra hs
      rw [if_neg hs] at hquoted
      cases hquoted
    · rintro rfl
      cases h
      rfl

end SchemaForge.TypeExpr
