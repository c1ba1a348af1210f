import SchemaForge.Json.Printer
import SchemaForge.Proofs.Json.SpelledReading
import SchemaForge.Proofs.Text.Utf8
import Mathlib.Tactic.IntervalCases

/-! Every written value is spelled by some text: the compact one, without blanks, with its strings quoted
as they are printed. -/

namespace SchemaForge.Json

open Text.Utf8 (Bytes encode encode_append encode_cons ofString)

section

variable {before r r₁ r₂ bytes whole : Bytes}

theorem stringBytes_escaped (escaped : ∃ h, escape r = .ok (bytes, ⟨r₁, h⟩))
    (rest : ∃ h, stringBytes (bytes.reverse ++ before) r₁ = .ok (whole, ⟨r₂, h⟩)) :
    ∃ h, stringBytes before (byte '\\' :: r) = .ok (whole, ⟨r₂, h⟩) := by
  obtain ⟨_, escaped⟩ := escaped
  obtain ⟨_, rest⟩ := rest
  refine exists_rest ?_
  rw [stringBytes, if_neg (by decide), if_pos (beq_self_eq_true _), escaped]
  simp only [bind, Except.bind]
  rw [rest]
  rfl

theorem stringBytes_unescaped
    (plain : ∀ b ∈ bytes, b ≠ byte '"' ∧ b ≠ byte '\\' ∧ ¬ b < 0x20)
    (rest : ∃ h, stringBytes (bytes.reverse ++ before) r = .ok (whole, ⟨r₁, h⟩)) :
    ∃ h, stringBytes before (bytes ++ r) = .ok (whole, ⟨r₁, h⟩) := by
  induction bytes generalizing before with
  | nil => exact rest
  | cons b bytes ih =>
    obtain ⟨⟨quote, backslash, control⟩, plain⟩ := List.forall_mem_cons.mp plain
    rw [List.reverse_cons, List.append_assoc] at rest
    obtain ⟨_, reads⟩ := ih plain rest
    refine exists_rest ?_
    rw [List.singleton_append] at reads
    rw [List.cons_append, stringBytes, if_neg (by simpa using quote),
      if_neg (by simpa using backslash), if_neg control, reads]
    rfl

theorem escape_control {n : Nat} (h : n < 32) :
    ∃ h, escape (encode ['u', '0', '0', hexDigit (n / 16), hexDigit (n % 16)] ++ r) =
      .ok (encode [Char.ofNat n], ⟨r, h⟩) := by
  interval_cases n <;> exact ⟨_, rfl⟩

def StandsFor (text : List Char) (c : Char) : Prop :=
  ∀ before r whole r₁, (∃ h, stringBytes ((encode [c]).reverse ++ before) r = .ok (whole, ⟨r₁, h⟩)) →
    ∃ h, stringBytes before (encode text ++ r) = .ok (whole, ⟨r₁, h⟩)

theorem standsFor_escape {c d : Char} (known : encode [d] = [byte d])
    (escapes : ∀ r, ∃ h, escape (byte d :: r) = .ok (encode [c], ⟨r, h⟩)) :
    StandsFor ['\\', d] c := by
  intro before r whole r₁ rest
  have text : encode ['\\', d] = [byte '\\', byte d] := congrArg (List.cons _) known
  rw [text]
  exact stringBytes_escaped (escapes r) rest

theorem standsFor_self {c : Char} (quote : c ≠ '"') (backslash : c ≠ '\\')
    (control : ¬ c.toNat < 32) : StandsFor [c] c := by
  intro before r whole r₁ rest
  refine stringBytes_unescaped ?_ rest
  obtain ⟨b, tail, text, spells⟩ := Text.Utf8.spells_encode c
  rw [show encode [c] = b :: tail by simp [encode, text]]
  rcases spells.alone_or_high with ⟨rfl, alone⟩ | high
  · have other (d : Char) (hd : (byte d).toNat = d.toNat) (h : c ≠ d) : b ≠ byte d := by
      rintro rfl
      exact h (Char.toNat_inj.mp (alone.symm.trans hd))
    refine List.forall_mem_singleton.mpr ⟨other '"' rfl quote, other '\\' rfl backslash, ?_⟩
    rw [UInt8.lt_iff_toNat_lt, alone]
    exact control
  · intro b' hb'
    have high := high b' hb'
    refine ⟨?_, ?_, ?_⟩
    · rintro rfl
      exact absurd high (by decide)
    · rintro rfl
      exact absurd high (by decide)
    · rw [UInt8.lt_iff_toNat_lt]
      have : (0x20 : UInt8).toNat = 32 := rfl
      omega

theorem standsFor_escapeChar (c : Char) : StandsFor (escapeChar c) c := by
  have eq_of_toNat {n : Nat} (h : c.toNat = n) : c = Char.ofNat n := by
    rw [← h, Char.ofNat_toNat]
  unfold escapeChar
  split
  · subst c
    exact standsFor_escape rfl fun _ => ⟨_, rfl⟩
  split
  · subst c
    exact standsFor_escape rfl fun _ => ⟨_, rfl⟩
  split
  · subst c
    exact standsFor_escape rfl fun _ => ⟨_, rfl⟩
  split
  · subst c
    exact standsFor_escape rfl fun _ => ⟨_, rfl⟩
  split
  · subst c
    exact standsFor_escape rfl fun _ => ⟨_, rfl⟩
  split
  · next h =>
    rw [eq_of_toNat h]
    exact standsFor_escape rfl fun _ => ⟨_, rfl⟩
  split
  · next h =>
    rw [eq_of_toNat h]
    exact standsFor_escape rfl fun _ => ⟨_, rfl⟩
  split
  · next h =>
    intro before r whole r₁ rest
    have escaped := escape_control (r := r) h
    rw [Char.ofNat_toNat] at escaped
    exact stringBytes_escaped escaped rest
  · next quote backslash _ _ _ _ _ control => exact standsFor_self quote backslash control

def stringRest (text : String) : Bytes := encode (text.toList.flatMap escapeChar ++ ['"'])

theorem stringBytes_flatMap (cs : List Char) (before r : Bytes) :
    ∃ h, stringBytes before (encode (cs.flatMap escapeChar ++ ['"']) ++ r) =
      .ok (before.reverse ++ encode cs, ⟨r, h⟩) := by
  induction cs generalizing before with
  | nil =>
    refine exists_rest ?_
    rw [show encode (List.flatMap escapeChar [] ++ ['"']) ++ r = byte '"' :: r from rfl, stringBytes,
      if_pos (beq_self_eq_true _)]
    simp [Except.map, encode]
  | cons c cs ih =>
    have rest := ih ((encode [c]).reverse ++ before)
    rw [List.reverse_append, List.reverse_reverse, List.append_assoc, ← encode_append] at rest
    rw [List.flatMap_cons, List.append_assoc, encode_append, List.append_assoc]
    exact standsFor_escapeChar c _ _ _ _ rest

theorem quoted_stringRest (text : String) (r : Bytes) : Quoted (stringRest text ++ r) text r := by
  obtain ⟨_, reads⟩ := stringBytes_flatMap text.toList [] r
  refine exists_rest ?_
  rw [string, stringRest, reads]
  simp only [bind, Except.bind, List.reverse_nil, List.nil_append]
  rw [← ofString, Text.Utf8.decode_ofString]
  rfl

end

def entryBytes (key : String) (value rest : Bytes) : Bytes :=
  byte '"' :: (stringRest key ++ byte ':' :: (value ++ rest))

namespace Written

mutual

def bytes : Written → Bytes
  | null => letters ['n', 'u', 'l', 'l']
  | bool true => letters ['t', 'r', 'u', 'e']
  | bool false => letters ['f', 'a', 'l', 's', 'e']
  | number l _ _ => l.text
  | string text => byte '"' :: stringRest text
  | array [] => [byte '[', byte ']']
  | array (w :: rest) => byte '[' :: (w.bytes ++ moreItems rest)
  | object [] => [byte '\x7b', byte '\x7d']
  | object ((key, w) :: rest) => byte '\x7b' :: entryBytes key w.bytes (moreEntries rest)

def moreItems : List Written → Bytes
  | [] => [byte ']']
  | w :: rest => byte ',' :: (w.bytes ++ moreItems rest)

def moreEntries : List (String × Written) → Bytes
  | [] => [byte '\x7d']
  | (key, w) :: rest => byte ',' :: entryBytes key w.bytes (moreEntries rest)

end

end Written

def Closed (r : Bytes) : Prop := ∀ b ∈ r.head?, b = byte ',' ∨ b = byte ']' ∨ b = byte '\x7d'

theorem Closed.cons {b : UInt8} (h : b = byte ',' ∨ b = byte ']' ∨ b = byte '\x7d') (r : Bytes) :
    Closed (b :: r) := by
  rintro _ ⟨⟩
  exact h

theorem closed_moreItems (ws : List Written) (r : Bytes) : Closed (Written.moreItems ws ++ r) := by
  cases ws with
  | nil => exact .cons (.inr (.inl rfl)) _
  | cons => exact .cons (.inl rfl) _

theorem closed_moreEntries (es : List (String × Written)) (r : Bytes) :
    Closed (Written.moreEntries es ++ r) := by
  cases es with
  | nil => exact .cons (.inr (.inr rfl)) _
  | cons => exact .cons (.inl rfl) _

theorem Closed.endsBefore {r : Bytes} (closed : Closed r) (l : Literal) : l.EndsBefore r where
  noDigit := by
    intro b hb
    rcases closed b hb with rfl | rfl | rfl <;> rfl
  noExponent _ := by
    constructor <;> intro h <;> exact absurd (closed _ h) (by decide)
  noPoint _ _ := by
    intro h
    exact absurd (closed _ h) (by decide)

theorem Literal.dropWhile_text (l : Literal) (r : Bytes) :
    (l.text ++ r).dropWhile isBlankByte = l.text ++ r := by
  obtain ⟨b, rest, text, first⟩ := l.exists_cons
  rw [text, List.cons_append, List.dropWhile_cons_of_neg]
  rcases first with rfl | digit
  · decide
  · intro blank
    simp only [isBlankByte, Bool.or_eq_true, beq_iff_eq] at blank
    rcases blank with ((rfl | rfl) | rfl) | rfl <;> exact absurd digit (by decide)

theorem entryBytes_append (key : String) (value rest r : Bytes) :
    entryBytes key value rest ++ r =
      byte '"' :: (stringRest key ++ byte ':' :: (value ++ (rest ++ r))) := by
  simp [entryBytes]

def Written.SpelledByBytes (w : Written) : Prop := ∀ r, Closed r → Spells (w.bytes ++ r) (.value w) r

theorem spells_moreItems {w : Written} {ws : List Written} (first : w.SpelledByBytes)
    (others : ∀ w ∈ ws, w.SpelledByBytes) (r : Bytes) :
    Spells (w.bytes ++ (Written.moreItems ws ++ r)) (.items (w :: ws)) r := by
  have item := first _ (closed_moreItems ws r)
  induction ws generalizing w with
  | nil => exact .lastItem item rfl
  | cons w' ws ih =>
    obtain ⟨second, others⟩ := List.forall_mem_cons.mp others
    have rest := ih second others (second _ (closed_moreItems ws r))
    rw [← List.append_assoc] at rest
    exact .item item rfl rest

theorem spells_moreEntries {key : String} {w : Written} {es : List (String × Written)}
    (first : w.SpelledByBytes) (others : ∀ e ∈ es, e.2.SpelledByBytes) (r : Bytes) :
    Spells (stringRest key ++ byte ':' :: (w.bytes ++ (Written.moreEntries es ++ r)))
      (.fields ((key, w) :: es)) r := by
  have field := first _ (closed_moreEntries es r)
  induction es generalizing key w with
  | nil => exact .lastField (quoted_stringRest key _) rfl field rfl
  | cons e es ih =>
    obtain ⟨second, others⟩ := List.forall_mem_cons.mp others
    exact .field (quoted_stringRest key _) rfl field rfl (entryBytes_append _ _ _ _)
      (ih second others (second _ (closed_moreEntries es r)))

mutual

theorem Written.spelledByBytes : (w : Written) → w.SpelledByBytes
  | .null, _, _ => .null rfl
  | .bool true, _, _ => .isTrue rfl
  | .bool false, _, _ => .isFalse rfl
  | .number l _ _, r, closed => .number (l.dropWhile_text r) (closed.endsBefore l)
  | .string text, r, _ => .string rfl (quoted_stringRest text r)
  | .array [], _, _ => .emptyArray rfl rfl
  | .array (w :: ws), r, _ => by
    have inner := spells_moreItems w.spelledByBytes (Written.items_spelledByBytes ws) r
    rw [← List.append_assoc] at inner
    exact .array rfl inner
  | .object [], _, _ => .emptyObject rfl rfl
  | .object ((_, w) :: es), r, _ =>
    .object rfl (entryBytes_append _ _ _ _)
      (spells_moreEntries w.spelledByBytes (Written.entries_spelledByBytes es) r)

theorem Written.items_spelledByBytes : (ws : List Written) → ∀ w ∈ ws, w.SpelledByBytes
  | [] => List.forall_mem_nil _
  | w :: ws => List.forall_mem_cons.mpr ⟨w.spelledByBytes, Written.items_spelledByBytes ws⟩

theorem Written.entries_spelledByBytes : (es : List (String × Written)) →
    ∀ e ∈ es, e.2.SpelledByBytes
  | [] => List.forall_mem_nil _
  | (_, w) :: es => List.forall_mem_cons.mpr ⟨w.spelledByBytes, Written.entries_spelledByBytes es⟩

end

theorem spelledAs_of_bytes {text : String} {w : Written} (h : ofString text = w.bytes) :
    SpelledAs text w := by
  have spells := w.spelledByBytes [] nofun
  rw [List.append_nil, ← h] at spells
  exact ⟨[], spells, rfl⟩

end SchemaForge.Json
