import SchemaForge.Proofs.Json.Spelling

/-! Reading JSON text is finding what it spells: what is read is the value that the text spells, and a
text that spells a value whose lists and objects do not nest too deep is read as that value. -/

namespace SchemaForge.Json

open Outcome (Gives)
open Text.Utf8 (Bytes)

inductive Written.Fits : Nat → Written → Prop
  | null {depth} : Fits depth .null
  | bool {depth} (value : Bool) : Fits depth (.bool value)
  | number {depth l n} (stands) : Fits depth (.number l n stands)
  | string {depth} (text : String) : Fits depth (.string text)
  | array {depth items} (inner : ∀ w ∈ items, Fits depth w) : Fits (depth + 1) (.array items)
  | object {depth entries} (inner : ∀ e ∈ entries, Fits depth e.2) : Fits (depth + 1) (.object entries)

theorem skipBlanks_eq (s : Bytes) : (skipBlanks s).1 = s.dropWhile isBlankByte := by
  induction s with
  | nil => rfl
  | cons b s ih =>
    by_cases blank : isBlankByte b = true
    · simpa [skipBlanks, blank] using ih
    · simp [skipBlanks, blank]

theorem Starts.of_skipBlanks {s t : Bytes} {b : UInt8} {h} (skipped : skipBlanks s = ⟨b :: t, h⟩) :
    Starts s b t := by
  rw [Starts, ← skipBlanks_eq, skipped]

theorem Spells.of_blanks {s s' r : Bytes} {w : Written}
    (same : s.dropWhile isBlankByte = s'.dropWhile isBlankByte) (h : Spells s (.value w) r) :
    Spells s' (.value w) r := by
  cases h with
  | null start => exact .null (same.symm.trans start)
  | isTrue start => exact .isTrue (same.symm.trans start)
  | isFalse start => exact .isFalse (same.symm.trans start)
  | number start ends => exact .number (same.symm.trans start) ends
  | string start quoted => exact .string (same.symm.trans start) quoted
  | emptyArray start close => exact .emptyArray (same.symm.trans start) close
  | array start inner => exact .array (same.symm.trans start) inner
  | emptyObject start close => exact .emptyObject (same.symm.trans start) close
  | object start quote inner => exact .object (same.symm.trans start) quote inner

theorem Starts.stripped {s t : Bytes} {b : UInt8} (start : Starts s b t) :
    (b :: t).dropWhile isBlankByte = s.dropWhile isBlankByte := by
  rw [← show s.dropWhile isBlankByte = b :: t from start, List.dropWhile_idempotent]

theorem Spells.items_of_start {s t r : Bytes} {b : UInt8} {ws : List Written} (start : Starts s b t)
    (h : Spells (b :: t) (.items ws) r) : Spells s (.items ws) r := by
  cases h with
  | lastItem item close => exact .lastItem (item.of_blanks start.stripped) close
  | item item comma rest => exact .item (item.of_blanks start.stripped) comma rest

theorem word_gives (cs : List Char) (s : Bytes) :
    Gives (fun r => s = letters cs ++ r.1) (word cs s) := by
  induction cs generalizing s with
  | nil => exact .ok rfl
  | cons c cs ih =>
    unfold word
    split
    · exact .error _
    · next b r =>
      refine .ite (fun same => ?_) fun _ => .error _
      refine (ih r).bind fun r₁ hr₁ => .pure ?_
      rw [beq_iff_eq.mp same]
      exact congrArg (List.cons (byte c)) hr₁

theorem string_gives (s : Bytes) : Gives (fun p => Quoted s p.1 p.2.1) (string s) :=
  fun p hp => ⟨p.2.2, hp⟩

def SpelledValues (depth : Nat) : Prop :=
  ∀ s, Gives (fun p => ∃ w : Written, w.Fits depth ∧ p.1 = w.value ∧ Spells s (.value w) p.2.1)
    (value depth s)

theorem elements_spelled {depth : Nat} (hvalue : SpelledValues depth) (n : Nat) (s : Bytes)
    (before : List Value) (hn : s.length < n) :
    Gives (fun p => ∃ ws : List Written, (∀ w ∈ ws, w.Fits depth) ∧
      p.1 = before.reverse ++ ws.map Written.value ∧ Spells s (.items ws) p.2.1)
      (elements depth before s) := by
  induction n generalizing s before with
  | zero => exact absurd hn (Nat.not_lt_zero _)
  | succ n ih =>
    unfold elements
    refine (hvalue s).bind fun p hv => ?_
    obtain ⟨v, r, hr⟩ := p
    obtain ⟨w, fits, rfl, item⟩ := hv
    dsimp only
    split
    · exact .error _
    · next b r₁ h₁ skipped =>
      have start := Starts.of_skipBlanks skipped
      refine .ite (fun close => .pure ⟨[w], by simpa using fits, by simp, ?_⟩) fun _ => ?_
      · rw [beq_iff_eq.mp close] at start
        exact .lastItem item start
      refine .ite (fun comma => ?_) fun _ => .error _
      rw [beq_iff_eq.mp comma] at start
      split
      · exact .error _
      · next b₁ r₂ h₂ skipped' =>
        refine .ite (fun _ => .error _) fun _ => ?_
        have shorter : (b₁ :: r₂).length < n := by
          have step₁ := h₁
          have step₂ := h₂
          simp only [List.length_cons] at step₁ step₂ ⊢
          omega
        refine (ih _ _ shorter).bind fun q hq => .pure ?_
        obtain ⟨ws, others, hws, rest⟩ := hq
        refine ⟨w :: ws, List.forall_mem_cons.mpr ⟨fits, others⟩, by simp [hws], ?_⟩
        exact .item item start (rest.items_of_start (.of_skipBlanks skipped'))

theorem members_spelled {depth : Nat} (hvalue : SpelledValues depth) (n : Nat) (s : Bytes)
    (before : Object) (hn : s.length < n) :
    Gives (fun p => ∃ es : List (String × Written), (∀ e ∈ es, e.2.Fits depth) ∧
      p.1 = (Written.entryValues es).foldl (fun o e => o.insert e.1 e.2) before ∧
      Spells s (.fields es) p.2.1) (members depth before s) := by
  induction n generalizing s before with
  | zero => exact absurd hn (Nat.not_lt_zero _)
  | succ n ih =>
    unfold members
    refine (string_gives s).bind fun p quoted => ?_
    obtain ⟨key, r, hr⟩ := p
    dsimp only
    split
    · exact .error _
    · next b r₁ h₁ skipped =>
      have colon := Starts.of_skipBlanks skipped
      refine .ite (fun _ => .error _) fun isColon => ?_
      rw [show b = byte ':' by simpa using isColon] at colon
      refine (hvalue r₁).bind fun p hv => ?_
      obtain ⟨v, r₂, hr₂⟩ := p
      obtain ⟨w, fits, rfl, field⟩ := hv
      dsimp only
      split
      · exact .error _
      · next b₂ r₃ h₃ skipped₂ =>
        have start := Starts.of_skipBlanks skipped₂
        refine .ite (fun close => .pure
          ⟨[(key, w)], by simpa using fits, by simp [Written.entryValues], ?_⟩) fun _ => ?_
        · rw [beq_iff_eq.mp close] at start
          exact .lastField quoted colon field start
        refine .ite (fun comma => ?_) fun _ => .error _
        rw [beq_iff_eq.mp comma] at start
        split
        · exact .error _
        · next b₃ r₄ h₄ skipped₃ =>
          refine .ite (fun quote => ?_) fun _ => .ite (fun _ => .error _) fun _ => .error _
          have next := Starts.of_skipBlanks skipped₃
          rw [beq_iff_eq.mp quote] at next
          have shorter : r₄.length < n := by
            have step₁ := h₁
            have step₃ := h₃
            have step₄ := h₄
            simp only [List.length_cons] at step₁ step₃ step₄
            omega
          refine (ih _ _ shorter).bind fun q hq => .pure ?_
          obtain ⟨es, others, hes, rest⟩ := hq
          refine ⟨(key, w) :: es, List.forall_mem_cons.mpr ⟨fits, others⟩,
            by simp [Written.entryValues, hes], ?_⟩
          exact .field quoted colon field start next rest

theorem spelledValues_of_parts {depth : Nat}
    (hparts : ∀ n, depth = n + 1 → SpelledValues n) : SpelledValues depth := by
  intro s
  unfold value
  split
  · exact .error _
  · next b r h skipped =>
    have start := Starts.of_skipBlanks skipped
    dsimp only
    refine .ite (fun first => ?_) fun _ => ?_
    · rw [beq_iff_eq.mp first] at start
      refine (word_gives _ r).bind fun q hq => .pure ⟨.null, .null, rfl, ?_⟩
      exact .null (hq ▸ start)
    refine .ite (fun first => ?_) fun _ => ?_
    · rw [beq_iff_eq.mp first] at start
      refine (word_gives _ r).bind fun q hq => .pure ⟨.bool true, .bool _, rfl, ?_⟩
      exact .isTrue (hq ▸ start)
    refine .ite (fun first => ?_) fun _ => ?_
    · rw [beq_iff_eq.mp first] at start
      refine (word_gives _ r).bind fun q hq => .pure ⟨.bool false, .bool _, rfl, ?_⟩
      exact .isFalse (hq ▸ start)
    refine .ite (fun first => ?_) fun _ => ?_
    · refine (number_gives true r).bind fun q found => ?_
      obtain ⟨l, sign, text, ends, stands⟩ := found
      refine .pure ⟨.number l q.1 stands, .number _, rfl, .number ?_ ends⟩
      rw [start, beq_iff_eq.mp first, Literal.text, sign]
      exact congrArg (List.cons 0x2D) text
    refine .ite (fun _ => ?_) fun _ => ?_
    · refine (number_gives false (b :: r)).bind fun q found => ?_
      obtain ⟨l, sign, text, ends, stands⟩ := found
      refine .pure ⟨.number l q.1 stands, .number _, rfl, .number ?_ ends⟩
      rw [start, Literal.text, sign]
      exact text
    refine .ite (fun first => ?_) fun _ => ?_
    · rw [beq_iff_eq.mp first] at start
      refine (string_gives r).bind fun q quoted => .pure ⟨.string q.1, .string _, rfl, ?_⟩
      exact .string start quoted
    refine .ite (fun first => ?_) fun _ => .ite (fun first => ?_) fun _ => .error _
    · rw [beq_iff_eq.mp first] at start
      split
      · exact .error _
      · next n =>
        split
        · exact .error _
        · next b₁ r₁ h₁ skipped =>
          have inside := Starts.of_skipBlanks skipped
          refine .ite (fun close => ?_) fun _ => ?_
          · rw [beq_iff_eq.mp close] at inside
            exact .pure ⟨.array [], .array (List.forall_mem_nil _), rfl, .emptyArray start inside⟩
          refine (elements_spelled (hparts n rfl) _ _ [] (Nat.lt_succ_self _)).bind fun q hq => ?_
          obtain ⟨ws, fits, items, inner⟩ := hq
          refine .pure ⟨.array ws, .array fits, ?_, .array start (inner.items_of_start inside)⟩
          rw [items, Written.value, Written.values_eq_map]
          rfl
    · rw [beq_iff_eq.mp first] at start
      split
      · exact .error _
      · next n =>
        split
        · exact .error _
        · next b₁ r₁ h₁ skipped =>
          have inside := Starts.of_skipBlanks skipped
          refine .ite (fun close => ?_) fun _ => .ite (fun quote => ?_) fun _ => .error _
          · rw [beq_iff_eq.mp close] at inside
            exact .pure ⟨.object [], .object (List.forall_mem_nil _), rfl, .emptyObject start inside⟩
          rw [beq_iff_eq.mp quote] at inside
          refine (members_spelled (hparts n rfl) _ _ [] (Nat.lt_succ_self _)).bind fun q hq => ?_
          obtain ⟨es, fits, entries, inner⟩ := hq
          refine .pure ⟨.object es, .object fits, ?_, .object start inside inner⟩
          rw [entries, Written.value]
          rfl

theorem spelledValues (depth : Nat) : SpelledValues depth := by
  induction depth with
  | zero => exact spelledValues_of_parts nofun
  | succ depth ih =>
    refine spelledValues_of_parts fun n hn => ?_
    rw [← Nat.succ.inj hn]
    exact ih

/-- What a stretch spells is read from it, and from what differs from it in the blanks in front. -/
def ReadThrough (s : Bytes) : Stretch → Bytes → Prop
  | .value w, r => ∀ s', s'.dropWhile isBlankByte = s.dropWhile isBlankByte → ∀ depth, w.Fits depth →
      ∃ h, value depth s' = .ok (w.value, ⟨r, h⟩)
  | .items ws, r => ∀ s', s'.dropWhile isBlankByte = s.dropWhile isBlankByte → ∀ depth before,
      (∀ w ∈ ws, w.Fits depth) →
      ∃ h, elements depth before s' = .ok (before.reverse ++ ws.map Written.value, ⟨r, h⟩)
  | .fields es, r => ∀ depth (before : Object), (∀ e ∈ es, e.2.Fits depth) →
      ∃ h, members depth before s =
        .ok ((Written.entryValues es).foldl (fun o e => o.insert e.1 e.2) before, ⟨r, h⟩)

theorem Starts.skipBlanks_eq {s t : Bytes} {b : UInt8} (start : Starts s b t) :
    ∃ h, skipBlanks s = ⟨b :: t, h⟩ := by
  have same := (Json.skipBlanks_eq s).trans start
  exact ⟨same ▸ (skipBlanks s).2, Subtype.ext same⟩

theorem word_letters (cs : List Char) (r : Bytes) : ∃ h, word cs (letters cs ++ r) = .ok ⟨r, h⟩ := by
  induction cs with
  | nil => exact ⟨Nat.le_refl _, rfl⟩
  | cons c cs ih =>
    obtain ⟨h, reads⟩ := ih
    refine ⟨Nat.le_succ_of_le h, ?_⟩
    show word (c :: cs) (byte c :: (letters cs ++ r)) = _
    unfold word
    dsimp only
    rw [if_pos (beq_self_eq_true _), reads]
    rfl

theorem exists_rest {α : Type} {s r : Bytes} {a : α} {x : Except Fault (α × Shorter s)}
    (h : x.map (fun p => (p.1, p.2.1)) = .ok (a, r)) : ∃ h, x = .ok (a, ⟨r, h⟩) := by
  cases x with
  | error e => cases h
  | ok p =>
    cases h
    exact ⟨p.2.2, rfl⟩

theorem Spells.readThrough {s r : Bytes} {p : Stretch} (h : Spells s p r) : ReadThrough s p r := by
  -- A step that has looked at the next byte hands on the text behind the blanks, so that the parts are
  -- read from texts that differ from the spelled ones in their blanks.
  induction h with
  | @null s r start =>
    intro s' same depth _
    obtain ⟨_, skipped⟩ := Starts.skipBlanks_eq (same.trans start)
    obtain ⟨_, reads⟩ := word_letters ['u', 'l', 'l'] r
    refine exists_rest ?_
    rw [value, skipped]
    simp +decide only [if_true, if_false]
    rw [reads]
    rfl
  | @isTrue s r start =>
    intro s' same depth _
    obtain ⟨_, skipped⟩ := Starts.skipBlanks_eq (same.trans start)
    obtain ⟨_, reads⟩ := word_letters ['r', 'u', 'e'] r
    refine exists_rest ?_
    rw [value, skipped]
    simp +decide only [if_true, if_false]
    rw [reads]
    rfl
  | @isFalse s r start =>
    intro s' same depth _
    obtain ⟨_, skipped⟩ := Starts.skipBlanks_eq (same.trans start)
    obtain ⟨_, reads⟩ := word_letters ['a', 'l', 's', 'e'] r
    refine exists_rest ?_
    rw [value, skipped]
    simp +decide only [if_true, if_false]
    rw [reads]
    rfl
  | @number s r l n stands start ends =>
    intro s' same depth _
    have start := same.trans start
    refine exists_rest ?_
    cases sign : l.negative with
    | true =>
      obtain ⟨_, reads⟩ := number_of_number? ends rfl stands
      rw [Literal.text, sign] at start
      obtain ⟨_, skipped⟩ := Starts.skipBlanks_eq (b := byte '-') (t := l.body ++ r) start
      rw [sign] at reads
      rw [value, skipped]
      simp +decide only [if_true, if_false]
      rw [reads]
      rfl
    | false =>
      obtain ⟨b, rest, whole, first⟩ := l.isWhole.exists_cons
      have body : b :: (rest ++ l.toTail.text ++ r) = l.body ++ r := by simp [Literal.body, whole]
      rw [Literal.text, sign] at start
      obtain ⟨_, reads⟩ := number_of_number? ends body stands
      obtain ⟨_, skipped⟩ := Starts.skipBlanks_eq (start.trans body.symm)
      have other (c : UInt8) (hc : isDigitByte c = false) : ¬ (b == c) = true := by
        intro same
        rw [beq_iff_eq.mp same, hc] at first
        cases first
      rw [sign] at reads
      rw [value, skipped]
      dsimp only
      rw [if_neg (other _ rfl), if_neg (other _ rfl), if_neg (other _ rfl), if_neg (other _ rfl),
        if_pos first, reads]
      rfl
  | string start quoted =>
    intro s' same depth _
    obtain ⟨_, skipped⟩ := Starts.skipBlanks_eq (same.trans start)
    obtain ⟨_, reads⟩ := quoted
    refine exists_rest ?_
    rw [value, skipped]
    simp +decide only [if_true, if_false]
    rw [reads]
    rfl
  | emptyArray start close =>
    rintro s' same _ ⟨⟩
    obtain ⟨_, skipped⟩ := Starts.skipBlanks_eq (same.trans start)
    obtain ⟨_, closed⟩ := close.skipBlanks_eq
    refine exists_rest ?_
    rw [value, skipped]
    simp +decide only [if_true, if_false]
    rw [closed]
    rfl
  | array start inner ih =>
    rintro s' same _ (_ | _ | _ | _ | @⟨depth, _, fits⟩)
    obtain ⟨_, skipped⟩ := Starts.skipBlanks_eq (same.trans start)
    obtain ⟨w, b, u, first, opens⟩ := inner.opens_items
    obtain ⟨_, inside⟩ := first.skipBlanks_eq
    obtain ⟨_, reads⟩ := ih _ first.stripped depth [] fits
    have notEnd : ¬ (b == byte ']') = true := by
      intro close
      rw [beq_iff_eq.mp close, not_opens_listEnd] at opens
      cases opens
    refine exists_rest ?_
    rw [value, skipped]
    simp +decide only [if_true, if_false]
    rw [inside]
    dsimp only
    rw [if_neg notEnd, reads]
    rw [Written.value, Written.values_eq_map]
    rfl
  | emptyObject start close =>
    rintro s' same _ ⟨⟩
    obtain ⟨_, skipped⟩ := Starts.skipBlanks_eq (same.trans start)
    obtain ⟨_, closed⟩ := close.skipBlanks_eq
    refine exists_rest ?_
    rw [value, skipped]
    simp +decide only [if_true, if_false]
    rw [closed]
    rfl
  | object start quote inner ih =>
    rintro s' same _ (_ | _ | _ | _ | _ | @⟨depth, _, fits⟩)
    obtain ⟨_, skipped⟩ := Starts.skipBlanks_eq (same.trans start)
    obtain ⟨_, inside⟩ := quote.skipBlanks_eq
    obtain ⟨_, reads⟩ := ih depth [] fits
    refine exists_rest ?_
    rw [value, skipped]
    simp +decide only [if_true, if_false]
    rw [inside]
    simp +decide only [if_true, if_false]
    rw [reads]
    rfl
  | lastItem item close ih =>
    intro s' same depth before fits
    obtain ⟨_, reads⟩ := ih s' same depth (fits _ List.mem_cons_self)
    obtain ⟨_, closed⟩ := close.skipBlanks_eq
    refine exists_rest ?_
    rw [elements, reads]
    simp only [bind, Except.bind]
    rw [closed]
    simp +decide only [if_true]
    simp [Except.map, pure, Except.pure]
  | item item comma rest ih ihrest =>
    intro s' same depth before fits
    obtain ⟨fits, others⟩ := List.forall_mem_cons.mp fits
    obtain ⟨_, reads⟩ := ih s' same depth fits
    obtain ⟨_, goesOn⟩ := comma.skipBlanks_eq
    obtain ⟨w, b, u, first, opens⟩ := rest.opens_items
    obtain ⟨_, next⟩ := first.skipBlanks_eq
    obtain ⟨_, readsRest⟩ := ihrest _ first.stripped depth (_ :: before) others
    have notEnd : ¬ (b == byte ']') = true := by
      intro close
      rw [beq_iff_eq.mp close, not_opens_listEnd] at opens
      cases opens
    refine exists_rest ?_
    rw [elements, reads]
    simp only [bind, Except.bind]
    rw [goesOn]
    simp +decide only [if_true, if_false]
    rw [next]
    dsimp only
    rw [if_neg notEnd, readsRest]
    simp [Except.map, pure, Except.pure]
  | lastField quoted colon field close ih =>
    intro depth before fits
    obtain ⟨_, named⟩ := quoted
    obtain ⟨_, parted⟩ := colon.skipBlanks_eq
    obtain ⟨_, reads⟩ := ih _ rfl depth (fits _ List.mem_cons_self)
    obtain ⟨_, closed⟩ := close.skipBlanks_eq
    refine exists_rest ?_
    rw [members, named]
    simp only [bind, Except.bind]
    rw [parted]
    simp +decide only [if_false]
    rw [reads]
    dsimp only
    rw [closed]
    simp +decide only [if_true]
    rfl
  | field quoted colon field comma quote rest ih ihrest =>
    intro depth before fits
    obtain ⟨fits, others⟩ := List.forall_mem_cons.mp fits
    obtain ⟨_, named⟩ := quoted
    obtain ⟨_, parted⟩ := colon.skipBlanks_eq
    obtain ⟨_, reads⟩ := ih _ rfl depth fits
    obtain ⟨_, goesOn⟩ := comma.skipBlanks_eq
    obtain ⟨_, next⟩ := quote.skipBlanks_eq
    obtain ⟨_, readsRest⟩ := ihrest depth (before.insert _ _) others
    refine exists_rest ?_
    rw [members, named]
    simp only [bind, Except.bind]
    rw [parted]
    simp +decide only [if_false]
    rw [reads]
    dsimp only
    rw [goesOn]
    simp +decide only [if_true, if_false]
    rw [next]
    simp +decide only [if_true]
    rw [readsRest]
    rfl

/-- A text is read as a value just when it spells that value and nests as deep as is allowed at most. -/
theorem read_eq_ok_iff {text : String} {v : Value} : read text = .ok v ↔
    ∃ w : Written, w.Fits depthLimit ∧ SpelledAs text w ∧ v = w.value := by
  have of_bytes : read text = .ok v ↔ readBytes (Text.Utf8.ofString text) = .ok v := by
    unfold read
    dsimp only
    cases readBytes (Text.Utf8.ofString text) <;> simp
  rw [of_bytes]
  constructor
  · intro h
    obtain ⟨⟨_, r, _⟩, hvalue, h⟩ := Outcome.bind_eq_ok.mp h
    obtain ⟨w, fits, rfl, spells⟩ := spelledValues depthLimit _ _ hvalue
    dsimp only at h
    split at h
    · next skipped =>
      cases h
      refine ⟨w, fits, ⟨r, spells, ?_⟩, rfl⟩
      rw [← skipBlanks_eq, skipped]
    · cases h
  · rintro ⟨w, fits, ⟨r, spells, blank⟩, rfl⟩
    obtain ⟨_, reads⟩ := spells.readThrough _ rfl depthLimit fits
    have skipped : skipBlanks r = ⟨[], Nat.zero_le _⟩ := Subtype.ext ((skipBlanks_eq r).trans blank)
    unfold readBytes
    rw [reads]
    simp only [bind, Except.bind]
    rw [skipped]
    rfl

end SchemaForge.Json
