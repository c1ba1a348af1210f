import SchemaForge.Proofs.Json.Keys
import SchemaForge.Proofs.Json.Literal
import Mathlib.Data.List.DropRight
import Mathlib.Data.List.Induction

/-! Values as they stand in a JSON text: numbers with their literals, and the entries of objects in the
order of the text, those of a repeated key included. A text spells one value at most. Strings are
spelled by what reading a string takes. -/

namespace SchemaForge.Json

open Outcome (Gives)
open Text.Utf8 (Bytes)

inductive Written where
  | null
  | bool (value : Bool)
  | number (literal : Literal) (value : Number) (stands : literal.number? = some value)
  | string (text : String)
  | array (items : List Written)
  | object (entries : List (String × Written))

namespace Written

mutual

def value : Written → Value
  | null => .null
  | bool b => .bool b
  | number _ n _ => .number n
  | string text => .string text
  | array items => .array (values items)
  | object entries => .object (Object.ofEntries (entryValues entries))

def values : List Written → List Value
  | [] => []
  | w :: rest => w.value :: values rest

def entryValues : List (String × Written) → List (String × Value)
  | [] => []
  | (k, w) :: rest => (k, w.value) :: entryValues rest

end

theorem values_eq_map (items : List Written) : values items = items.map value := by
  induction items with
  | nil => simp [values]
  | cons w rest ih => simp [values, ih]

theorem entryValues_eq_map (entries : List (String × Written)) :
    entryValues entries = entries.map fun e => (e.1, e.2.value) := by
  induction entries with
  | nil => simp [entryValues]
  | cons e rest ih => simp [entryValues, ih]

/-- What stands under a key: the last entry of the key counts. -/
def get? : Written → String → Option Written
  | object entries, key => entries.reverse.lookup key
  | _, _ => none

/-- The items of the list under a key; without such a list there are none. -/
def itemsAt (key : String) (w : Written) : List Written :=
  match w.get? key with
  | some (array items) => items
  | _ => []

theorem get?_insertAll (entries : List (String × Written)) (o : Object) (key : String) :
    Object.get? ((entryValues entries).foldl (fun o e => Object.insert o e.1 e.2) o) key =
      ((entries.reverse.lookup key).map value).or (o.get? key) := by
  rw [entryValues_eq_map]
  induction entries using List.reverseRecOn with
  | nil => rfl
  | append_singleton entries e ih =>
    obtain ⟨k, w⟩ := e
    simp only [List.map_append, List.map_cons, List.map_nil, List.foldl_append, List.foldl_cons,
      List.foldl_nil, Object.get?_insert, ih, List.reverse_append, List.reverse_cons,
      List.reverse_nil, List.nil_append, List.cons_append, List.lookup_cons]
    by_cases h : key = k
    · simp [h]
    · have hb : (key == k) = false := beq_eq_false_iff_ne.mpr h
      simp [h, hb]

theorem value_get? (w : Written) (key : String) : w.value.get? key = (w.get? key).map value := by
  cases w with
  | object entries =>
    have h := get?_insertAll entries [] key
    rw [show Object.get? [] key = none from rfl, Option.or_none] at h
    simpa only [value, get?, Value.get?, Object.ofEntries] using h
  | _ => simp [value, get?, Value.get?]

end Written

/-- What stretches of a text spell: a value, or what stands in a list or in an object up to its end. -/
inductive Stretch where
  | value (w : Written)
  | items (ws : List Written)
  | fields (es : List (String × Written))

def Starts (s : Bytes) (b : UInt8) (t : Bytes) : Prop := s.dropWhile isBlankByte = b :: t

def Quoted (s : Bytes) (text : String) (r : Bytes) : Prop := ∃ h, string s = .ok (text, ⟨r, h⟩)

def letters (cs : List Char) : Bytes := cs.map byte

inductive Spells : Bytes → Stretch → Bytes → Prop
  | null {s r} (start : Starts s (byte 'n') (letters ['u', 'l', 'l'] ++ r)) :
      Spells s (.value .null) r
  | isTrue {s r} (start : Starts s (byte 't') (letters ['r', 'u', 'e'] ++ r)) :
      Spells s (.value (.bool true)) r
  | isFalse {s r} (start : Starts s (byte 'f') (letters ['a', 'l', 's', 'e'] ++ r)) :
      Spells s (.value (.bool false)) r
  | number {s r} {l : Literal} {n stands} (start : s.dropWhile isBlankByte = l.text ++ r)
      (ends : l.EndsBefore r) : Spells s (.value (.number l n stands)) r
  | string {s t text r} (start : Starts s (byte '"') t) (quoted : Quoted t text r) :
      Spells s (.value (.string text)) r
  | emptyArray {s t r} (start : Starts s (byte '[') t) (close : Starts t (byte ']') r) :
      Spells s (.value (.array [])) r
  | array {s t ws r} (start : Starts s (byte '[') t) (inner : Spells t (.items ws) r) :
      Spells s (.value (.array ws)) r
  | emptyObject {s t r} (start : Starts s (byte '\x7b') t) (close : Starts t (byte '\x7d') r) :
      Spells s (.value (.object [])) r
  | object {s t u es r} (start : Starts s (byte '\x7b') t) (quote : Starts t (byte '"') u)
      (inner : Spells u (.fields es) r) : Spells s (.value (.object es)) r
  | lastItem {s w t r} (item : Spells s (.value w) t) (close : Starts t (byte ']') r) :
      Spells s (.items [w]) r
  | item {s w t u ws r} (item : Spells s (.value w) t) (comma : Starts t (byte ',') u)
      (rest : Spells u (.items ws) r) : Spells s (.items (w :: ws)) r
  | lastField {s key t u w v r} (quoted : Quoted s key t) (colon : Starts t (byte ':') u)
      (field : Spells u (.value w) v) (close : Starts v (byte '\x7d') r) :
      Spells s (.fields [(key, w)]) r
  | field {s key t u w v x y es r} (quoted : Quoted s key t) (colon : Starts t (byte ':') u)
      (field : Spells u (.value w) v) (comma : Starts v (byte ',') x)
      (quote : Starts x (byte '"') y) (rest : Spells y (.fields es) r) :
      Spells s (.fields ((key, w) :: es)) r

/-- A text spells a value, with nothing but blanks behind it. -/
def SpelledAs (text : String) (w : Written) : Prop :=
  ∃ r, Spells (Text.Utf8.ofString text) (.value w) r ∧ r.dropWhile isBlankByte = []

theorem Starts.inj {s t t' : Bytes} {b b' : UInt8} (h : Starts s b t) (h' : Starts s b' t') :
    b = b' ∧ t = t' := List.cons.inj (h.symm.trans h')

theorem Quoted.inj {s r r' : Bytes} {text text' : String} (h : Quoted s text r)
    (h' : Quoted s text' r') : text = text' ∧ r = r' := by
  obtain ⟨_, h⟩ := h
  obtain ⟨_, h'⟩ := h'
  cases h.symm.trans h'
  exact ⟨rfl, rfl⟩

def Written.opens : Written → UInt8 → Bool
  | .null, b => b == byte 'n'
  | .bool value, b => b == byte (if value then 't' else 'f')
  | .number .., b => b == byte '-' || isDigitByte b
  | .string _, b => b == byte '"'
  | .array _, b => b == byte '['
  | .object _, b => b == byte '\x7b'

theorem Spells.opens {s r : Bytes} {w : Written} (h : Spells s (.value w) r) :
    ∃ b t, Starts s b t ∧ w.opens b = true := by
  cases h with
  | null start => exact ⟨_, _, start, rfl⟩
  | isTrue start => exact ⟨_, _, start, rfl⟩
  | isFalse start => exact ⟨_, _, start, rfl⟩
  | string start => exact ⟨_, _, start, rfl⟩
  | emptyArray start => exact ⟨_, _, start, rfl⟩
  | array start => exact ⟨_, _, start, rfl⟩
  | emptyObject start => exact ⟨_, _, start, rfl⟩
  | object start => exact ⟨_, _, start, rfl⟩
  | @number _ _ l _ _ start =>
    obtain ⟨b, rest, text, first⟩ := l.exists_cons
    refine ⟨b, rest ++ r, by rw [Starts, start, text]; rfl, ?_⟩
    rcases first with rfl | digit
    · rfl
    · simp [Written.opens, digit]

theorem Spells.opens_of_starts {s t r : Bytes} {b : UInt8} {w : Written}
    (h : Spells s (.value w) r) (start : Starts s b t) : w.opens b = true := by
  obtain ⟨b', t', start', opens⟩ := h.opens
  rw [(start.inj start').1]
  exact opens

theorem exists_number_of_opens {b : UInt8} {w : Written} (first : b = 0x2D ∨ isDigitByte b = true)
    (h : w.opens b = true) : ∃ l n stands, w = .number l n stands := by
  have not (c : UInt8) (other : c ≠ 0x2D ∧ isDigitByte c = false) (hb : (b == c) = true) : False := by
    obtain rfl := beq_iff_eq.mp hb
    simp_all
  cases w with
  | number l n stands => exact ⟨l, n, stands, rfl⟩
  | bool v => cases v <;> exact (not _ (by decide) h).elim
  | _ => exact (not _ (by decide) h).elim

theorem Spells.opens_items {s r : Bytes} {ws : List Written} (h : Spells s (.items ws) r) :
    ∃ (w : Written) (b : UInt8) (t : Bytes), Starts s b t ∧ w.opens b = true := by
  cases h with
  | lastItem item => exact ⟨_, item.opens⟩
  | item item => exact ⟨_, item.opens⟩

theorem not_opens_listEnd (w : Written) : w.opens (byte ']') = false := by
  cases w with
  | bool b => cases b <;> rfl
  | _ => rfl

def OnlySpells (s : Bytes) : Stretch → Bytes → Prop
  | .value w, r => ∀ w' r', Spells s (.value w') r' → w = w' ∧ r = r'
  | .items ws, r => ∀ ws' r', Spells s (.items ws') r' → ws = ws' ∧ r = r'
  | .fields es, r => ∀ es' r', Spells s (.fields es') r' → es = es' ∧ r = r'

theorem Spells.unique {s r : Bytes} {p : Stretch} (h : Spells s p r) : OnlySpells s p r := by
  induction h with
  | null start =>
    intro w' r' h'
    have opens := h'.opens_of_starts start
    cases w' with
    | null =>
      cases h' with
      | null start' => exact ⟨rfl, List.append_cancel_left (start.inj start').2⟩
    | bool b => cases b <;> cases opens
    | _ => cases opens
  | isTrue start =>
    intro w' r' h'
    have opens := h'.opens_of_starts start
    cases w' with
    | bool b =>
      cases h' with
      | isTrue start' => exact ⟨rfl, List.append_cancel_left (start.inj start').2⟩
      | isFalse => cases opens
    | _ => cases opens
  | isFalse start =>
    intro w' r' h'
    have opens := h'.opens_of_starts start
    cases w' with
    | bool b =>
      cases h' with
      | isTrue => cases opens
      | isFalse start' => exact ⟨rfl, List.append_cancel_left (start.inj start').2⟩
    | _ => cases opens
  | @number s r l n stands start ends =>
    intro w' r' h'
    obtain ⟨b, rest, text, first⟩ := l.exists_cons
    have starts : Starts s b (rest ++ r) := by
      rw [Starts, start, text]
      rfl
    obtain ⟨l', n', stands', rfl⟩ := exists_number_of_opens first (h'.opens_of_starts starts)
    cases h' with
    | number start' ends' =>
    obtain ⟨rfl, rfl⟩ := Literal.eq_of_append ends ends' (start.symm.trans start')
    obtain rfl := Option.some.inj (stands.symm.trans stands')
    exact ⟨rfl, rfl⟩
  | string start quoted =>
    intro w' r' h'
    have opens := h'.opens_of_starts start
    cases w' with
    | string text =>
      cases h' with
      | string start' quoted' =>
      obtain ⟨-, rfl⟩ := start.inj start'
      obtain ⟨rfl, rfl⟩ := quoted.inj quoted'
      exact ⟨rfl, rfl⟩
    | bool b => cases b <;> cases opens
    | _ => cases opens
  | emptyArray start close =>
    intro w' r' h'
    have opens := h'.opens_of_starts start
    cases w' with
    | array items =>
      cases h' with
      | emptyArray start' close' =>
        obtain ⟨-, rfl⟩ := start.inj start'
        exact ⟨rfl, (close.inj close').2⟩
      | array start' inner' =>
        obtain ⟨-, rfl⟩ := start.inj start'
        obtain ⟨w, b, t, first, opens⟩ := inner'.opens_items
        obtain ⟨rfl, -⟩ := close.inj first
        cases (not_opens_listEnd w).symm.trans opens
    | bool b => cases b <;> cases opens
    | _ => cases opens
  | array start inner ih =>
    intro w' r' h'
    have opens := h'.opens_of_starts start
    cases w' with
    | array items =>
      cases h' with
      | emptyArray start' close' =>
        obtain ⟨-, rfl⟩ := start.inj start'
        obtain ⟨w, b, t, first, opens⟩ := inner.opens_items
        obtain ⟨rfl, -⟩ := close'.inj first
        cases (not_opens_listEnd w).symm.trans opens
      | array start' inner' =>
        obtain ⟨-, rfl⟩ := start.inj start'
        obtain ⟨rfl, rfl⟩ := ih _ _ inner'
        exact ⟨rfl, rfl⟩
    | bool b => cases b <;> cases opens
    | _ => cases opens
  | emptyObject start close =>
    intro w' r' h'
    have opens := h'.opens_of_starts start
    cases w' with
    | object entries =>
      cases h' with
      | emptyObject start' close' =>
        obtain ⟨-, rfl⟩ := start.inj start'
        exact ⟨rfl, (close.inj close').2⟩
      | object start' quote' =>
        obtain ⟨-, rfl⟩ := start.inj start'
        exact absurd (close.inj quote').1 (by decide)
    | bool b => cases b <;> cases opens
    | _ => cases opens
  | object start quote inner ih =>
    intro w' r' h'
    have opens := h'.opens_of_starts start
    cases w' with
    | object entries =>
      cases h' with
      | emptyObject start' close' =>
        obtain ⟨-, rfl⟩ := start.inj start'
        exact absurd (close'.inj quote).1 (by decide)
      | object start' quote' inner' =>
        obtain ⟨-, rfl⟩ := start.inj start'
        obtain ⟨-, rfl⟩ := quote.inj quote'
        obtain ⟨rfl, rfl⟩ := ih _ _ inner'
        exact ⟨rfl, rfl⟩
    | bool b => cases b <;> cases opens
    | _ => cases opens
  | lastItem item close ih =>
    intro ws' r' h'
    cases h' with
    | lastItem item' close' =>
      obtain ⟨rfl, rfl⟩ := ih _ _ item'
      exact ⟨rfl, (close.inj close').2⟩
    | item item' comma' =>
      obtain ⟨rfl, rfl⟩ := ih _ _ item'
      exact absurd (close.inj comma').1 (by decide)
  | item item comma rest ih ihrest =>
    intro ws' r' h'
    cases h' with
    | lastItem item' close' =>
      obtain ⟨rfl, rfl⟩ := ih _ _ item'
      exact absurd (close'.inj comma).1 (by decide)
    | item item' comma' rest' =>
      obtain ⟨rfl, rfl⟩ := ih _ _ item'
      obtain ⟨-, rfl⟩ := comma.inj comma'
      obtain ⟨rfl, rfl⟩ := ihrest _ _ rest'
      exact ⟨rfl, rfl⟩
  | lastField quoted colon field close ih =>
    intro es' r' h'
    cases h' with
    | lastField quoted' colon' field' close' =>
      obtain ⟨rfl, rfl⟩ := quoted.inj quoted'
      obtain ⟨-, rfl⟩ := colon.inj colon'
      obtain ⟨rfl, rfl⟩ := ih _ _ field'
      exact ⟨rfl, (close.inj close').2⟩
    | field quoted' colon' field' comma' =>
      obtain ⟨rfl, rfl⟩ := quoted.inj quoted'
      obtain ⟨-, rfl⟩ := colon.inj colon'
      obtain ⟨rfl, rfl⟩ := ih _ _ field'
      exact absurd (close.inj comma').1 (by decide)
  | field quoted colon field comma quote rest ih ihrest =>
    intro es' r' h'
    cases h' with
    | lastField quoted' colon' field' close' =>
      obtain ⟨rfl, rfl⟩ := quoted.inj quoted'
      obtain ⟨-, rfl⟩ := colon.inj colon'
      obtain ⟨rfl, rfl⟩ := ih _ _ field'
      exact absurd (close'.inj comma).1 (by decide)
    | field quoted' colon' field' comma' quote' rest' =>
      obtain ⟨rfl, rfl⟩ := quoted.inj quoted'
      obtain ⟨-, rfl⟩ := colon.inj colon'
      obtain ⟨rfl, rfl⟩ := ih _ _ field'
      obtain ⟨-, rfl⟩ := comma.inj comma'
      obtain ⟨-, rfl⟩ := quote.inj quote'
      obtain ⟨rfl, rfl⟩ := ihrest _ _ rest'
      exact ⟨rfl, rfl⟩

theorem SpelledAs.unique {text : String} {w w' : Written} (h : SpelledAs text w)
    (h' : SpelledAs text w') : w = w' := by
  obtain ⟨_, spells, -⟩ := h
  obtain ⟨_, spells', -⟩ := h'
  exact (spells.unique _ _ spells').1

end SchemaForge.Json
