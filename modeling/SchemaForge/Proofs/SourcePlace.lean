import Mathlib
import SchemaForge.Proofs.Text.Utf8
import SchemaForge.Schema.Document

/-! Which byte of a source a line and a column lead to. A character is found at its own line and column,
and no column that its line has bytes for leads out of the source. Columns are looked up as counts of
characters, while the JSON reader reports counts of bytes: its errors are found at their places if all in
front of them in the line is ASCII, or if the line ends before its characters are counted through. -/

namespace SchemaForge

open Text (Utf8.encode Utf8.encode_cons Utf8.encode_append Utf8.spells_encode)

namespace SourcePlace

/-- How many bytes characters take. -/
def size (cs : List Char) : Nat := (Utf8.encode cs).length

@[simp] theorem size_nil : size [] = 0 := rfl

@[simp] theorem size_cons (c : Char) (cs : List Char) : size (c :: cs) = c.utf8Size + size cs := by
  simp [size, Utf8.encode_cons]

@[simp] theorem size_append (cs ds : List Char) : size (cs ++ ds) = size cs + size ds := by
  simp [size, Utf8.encode_append]

theorem size_toList (s : String) : size s.toList = s.utf8ByteSize := by
  rw [← String.size_toByteArray, ← String.utf8Encode_toList]
  simp [size, Utf8.encode, List.utf8Encode]

theorem length_le_size (cs : List Char) : cs.length ≤ size cs := by
  induction cs with
  | nil => exact Nat.le_refl _
  | cons c cs ih =>
    have := c.utf8Size_pos
    simp only [List.length_cons, size_cons]
    omega

/-- Characters take no more bytes than they are many just when each takes one. -/
theorem size_eq_length_iff {cs : List Char} :
    size cs = cs.length ↔ ∀ c ∈ cs, c.utf8Size = 1 := by
  induction cs with
  | nil => simp
  | cons c cs ih =>
    have first := c.utf8Size_pos
    have rest := length_le_size cs
    rw [List.forall_mem_cons, ← ih, size_cons, List.length_cons]
    omega

def earlierLines (cs : List Char) : List Char := (cs.reverse.dropWhile (· != '\n')).reverse

/-- What stands behind the last line end. -/
def lastLine (cs : List Char) : List Char := (cs.reverse.takeWhile (· != '\n')).reverse

def firstLine : List Char → List Char
  | [] => []
  | c :: rest => if c = '\n' then [c] else c :: firstLine rest

theorem earlierLines_append_lastLine (cs : List Char) : earlierLines cs ++ lastLine cs = cs := by
  rw [earlierLines, lastLine, ← List.reverse_append, List.takeWhile_append_dropWhile,
    List.reverse_reverse]

theorem newline_not_mem_lastLine (cs : List Char) : '\n' ∉ lastLine cs := by
  intro h
  have all := List.all_eq_true.mp List.all_takeWhile '\n' (List.mem_reverse.mp h)
  simp at all

theorem count_earlierLines (cs : List Char) : (earlierLines cs).count '\n' = cs.count '\n' := by
  have none := List.count_eq_zero.mpr (newline_not_mem_lastLine cs)
  have whole := congrArg (List.count '\n') (earlierLines_append_lastLine cs)
  rwa [List.count_append, none] at whole

theorem earlierLines_ended (cs : List Char) :
    earlierLines cs = [] ∨ (earlierLines cs).getLast? = some '\n' := by
  unfold earlierLines
  rw [List.getLast?_reverse, List.reverse_eq_nil_iff]
  cases h : cs.reverse.dropWhile (· != '\n') with
  | nil => exact .inl rfl
  | cons c rest =>
    have stops := List.head?_dropWhile_not (· != '\n') cs.reverse
    rw [h] at stops
    exact .inr (by simpa using stops)

theorem firstLine_pos (c : Char) (rest : List Char) : 0 < (firstLine (c :: rest)).length := by
  unfold firstLine
  split <;> simp

theorem firstLine_append {front : List Char} (unended : '\n' ∉ front) (cs : List Char) :
    firstLine (front ++ cs) = front ++ firstLine cs := by
  induction front with
  | nil => rfl
  | cons c front ih =>
    simp only [List.mem_cons, not_or] at unended
    rw [List.cons_append, firstLine, if_neg (Ne.symm unended.1), ih unended.2, List.cons_append]

theorem columnOffset_eq (start k offset current : Nat) (cs : List Char) :
    columnOffset start (current + k) offset current cs =
      if k < (firstLine cs).length then offset + size ((firstLine cs).take k)
      else start + (current + k - 1) := by
  induction cs generalizing k offset current with
  | nil => rfl
  | cons c rest ih =>
    cases k with
    | zero =>
      rw [if_pos (firstLine_pos c rest), columnOffset]
      simp
    | succ k =>
      rw [columnOffset, if_neg (by omega), firstLine]
      by_cases ends : c = '\n'
      · simp [ends]
      · have next : current + (k + 1) = current + 1 + k := by omega
        rw [if_neg ends, if_neg ends, next, ih, List.length_cons, List.take_succ_cons, size_cons]
        simp only [Nat.add_lt_add_iff_right, Nat.add_assoc]

theorem offsetFrom_eq (column offset current last : Nat) {front cs : List Char}
    (ended : front = [] ∨ front.getLast? = some '\n') (there : cs ≠ []) :
    offsetFrom (current + front.count '\n') column offset current last (front ++ cs) =
      columnOffset (offset + size front) column (offset + size front) 1 cs := by
  induction front generalizing offset current last with
  | nil =>
    obtain ⟨c, rest, rfl⟩ := List.exists_cons_of_ne_nil there
    simp [offsetFrom]
  | cons c front ih =>
    have hit : 0 < (c :: front).count '\n' := by
      refine List.count_pos_iff.mpr (List.mem_of_getLast? (ended.resolve_left (by simp)))
    have ended' : front = [] ∨ front.getLast? = some '\n' := by
      cases front with
      | nil => exact .inl rfl
      | cons d front => simpa using ended
    have line : current + (c :: front).count '\n' =
        (if c = '\n' then current + 1 else current) + front.count '\n' := by
      rw [List.count_cons]
      by_cases newline : c = '\n'
      · rw [if_pos newline, newline, if_pos (by decide)]
        omega
      · rw [if_neg newline, if_neg (by simpa using newline)]
        omega
    rw [List.cons_append, offsetFrom, if_neg (by omega), line, ih _ _ _ ended', size_cons,
      Nat.add_assoc]

variable (before after : List Char) (c : Char)

def lineAround : List Char := lastLine before ++ firstLine (c :: after)

theorem offset_line (k : Nat) :
    offset (String.ofList (before ++ c :: after)) (1 + before.count '\n') (k + 1) =
      size (earlierLines before) +
        if k < (lineAround before after c).length then size ((lineAround before after c).take k) else k := by
  have split : before ++ c :: after = earlierLines before ++ (lastLine before ++ c :: after) := by
    rw [← List.append_assoc, earlierLines_append_lastLine]
  rw [offset, String.toList_ofList, split, ← count_earlierLines,
    offsetFrom_eq _ _ _ _ (earlierLines_ended before) (by simp), Nat.add_comm k 1, columnOffset_eq,
    firstLine_append (newline_not_mem_lastLine before), ← lineAround]
  split <;> simp

/-- The place of a character, its line and its column counted from 1, leads back to the character. -/
theorem offset_at :
    offset (String.ofList (before ++ c :: after)) (1 + before.count '\n')
      (1 + (lastLine before).length) = size before := by
  have inside : (lastLine before).length < (lineAround before after c).length := by
    have own := firstLine_pos c after
    rw [lineAround, List.length_append]
    omega
  rw [Nat.add_comm 1 (lastLine before).length, offset_line, if_pos inside, lineAround, List.take_left,
    ← size_append, earlierLines_append_lastLine]

/-- The lines of a text, each with its end. -/
def lines : List Char → List (List Char)
  | [] => []
  | c :: rest =>
    if c = '\n' ∨ rest = [] then [c] :: lines rest else (lines rest).modifyHead (c :: ·)

theorem lines_newline (rest : List Char) : lines ('\n' :: rest) = ['\n'] :: lines rest := by
  simp [lines]

/-- Lines but the first one are those of the text behind a character that ends none. -/
theorem lines_getElem?_succ {c : Char} (inner : c ≠ '\n') (rest : List Char) (n : Nat) :
    (lines (c :: rest))[n + 1]? = (lines rest)[n + 1]? := by
  by_cases none : rest = []
  · simp [none, lines]
  · rw [lines, if_neg (by simp [inner, none]), List.getElem?_modifyHead, if_neg (by omega)]

theorem exists_lines_cons (c : Char) (rest : List Char) :
    ∃ l later, lines (c :: rest) = (c :: l) :: later ∧ l ++ later.flatten = rest := by
  induction rest generalizing c with
  | nil => exact ⟨[], [], by simp [lines], rfl⟩
  | cons d rest ih =>
    obtain ⟨l, later, whole, flat⟩ := ih d
    by_cases ends : c = '\n'
    · refine ⟨[], (d :: l) :: later, ?_, ?_⟩
      · rw [ends, lines_newline, whole]
      · rw [List.nil_append, List.flatten_cons, List.cons_append, flat]
    · refine ⟨d :: l, later, ?_, ?_⟩
      · rw [lines, if_neg (by simp [ends]), whole, List.modifyHead_cons]
      · rw [List.cons_append, flat]

/-- A column leads no further than the characters reach, or the bytes behind the start of its line that it
counts. -/
theorem columnOffset_le {start column offset current bound : Nat} {cs : List Char}
    (behind : start + (column - 1) ≤ bound) (inside : offset + size cs ≤ bound) :
    columnOffset start column offset current cs ≤ bound := by
  induction cs generalizing offset current with
  | nil => exact behind
  | cons c rest ih =>
    rw [size_cons] at inside
    unfold columnOffset
    split
    · omega
    · split
      · exact behind
      · exact ih (by omega)

/-- A column that its line has bytes for leads into the text, and so does any column of a line that is
not there. -/
theorem offsetFrom_le {line column offset current last : Nat} {cs : List Char}
    (fits : ∀ n l, line = current + n → (lines cs)[n]? = some l → column ≤ size l + 1)
    (reached : last ≤ offset) :
    offsetFrom line column offset current last cs ≤ offset + size cs := by
  induction cs generalizing offset current last with
  | nil => exact reached
  | cons c rest ih =>
    rw [offsetFrom]
    by_cases here : current = line
    · obtain ⟨l, later, whole, flat⟩ := exists_lines_cons c rest
      have short : column ≤ size (c :: l) + 1 := fits 0 (c :: l) here.symm (by simp [whole])
      have within : size (c :: l) ≤ size (c :: rest) := by simp [← flat]
      rw [if_pos here]
      exact columnOffset_le (by omega) (Nat.le_refl _)
    · rw [if_neg here, size_cons, ← Nat.add_assoc]
      refine ih (fun n l at_n found => ?_) (Nat.le_add_right _ _)
      -- Behind a line end all lines are one number lower; else only the first one has changed, and the
      -- line looked for is not that one.
      by_cases ends : c = '\n'
      · rw [if_pos ends] at at_n
        refine fits (n + 1) l (by omega) ?_
        rwa [ends, lines_newline, List.getElem?_cons_succ]
      · rw [if_neg ends] at at_n
        obtain ⟨n, rfl⟩ : ∃ m, n = m + 1 := Nat.exists_eq_succ_of_ne_zero (by omega)
        exact fits (n + 1) l at_n (by rwa [lines_getElem?_succ ends])

/-- Characters are found by their lines and columns; and a line and a column never lead behind the end of
the source, if the column is at most one more than the bytes of the line, its end among them, or the line
is not there. -/
theorem offset_inverts_places :
    (∀ (before after : List Char) (c : Char),
      offset (String.ofList (before ++ c :: after)) (1 + before.count '\n')
        (1 + (lastLine before).length) = size before) ∧
      ∀ (source : String) (line column : Nat),
        (∀ n l, line = 1 + n → (lines source.toList)[n]? = some l → column ≤ size l + 1) →
          offset source line column ≤ source.utf8ByteSize := by
  refine ⟨offset_at, fun source line column fits => ?_⟩
  have bound := offsetFrom_le fits (Nat.le_refl 0)
  rwa [Nat.zero_add, size_toList] at bound

theorem offset_inverts_places_at_end :
    (∀ n l, 2 = 1 + n → (lines "a\né".toList)[n]? = some l → 3 ≤ size l + 1) ∧
      offset "a\né" 2 3 ≤ "a\né".utf8ByteSize := by
  have fits : ∀ n l, 2 = 1 + n → (lines "a\né".toList)[n]? = some l → 3 ≤ size l + 1 := by
    intro n l second found
    obtain rfl : n = 1 := by omega
    obtain rfl : ['é'] = l := Option.some.inj (.trans (by decide) found)
    decide
  exact ⟨fits, offset_inverts_places.2 _ _ _ fits⟩

/-- The place of a character behind others, its line and its column counted from 1 and the column in
bytes. -/
def bytePlace (before : List Char) : Json.Place :=
  ⟨1 + before.count '\n', size (lastLine before) + 1⟩

theorem newline_not_mem_encodeChar {d : Char} (other : d ≠ '\n') :
    0x0A ∉ String.utf8EncodeChar d := by
  obtain ⟨b, tail, bytes, spells⟩ := Utf8.spells_encode d
  rw [bytes]
  intro h
  rcases spells.alone_or_high with ⟨rfl, same⟩ | high
  · obtain rfl : 0x0A = b := by simpa using h
    exact other (Char.toNat_inj.mp same.symm)
  · exact absurd (high _ h) (by decide)

theorem newline_mem_encode {cs : List Char} : 0x0A ∈ Utf8.encode cs ↔ '\n' ∈ cs := by
  induction cs with
  | nil => simp [Utf8.encode]
  | cons d cs ih =>
    rw [Utf8.encode_cons, List.mem_append, ih, List.mem_cons]
    by_cases same : d = '\n'
    · subst same
      exact iff_of_true (.inl (by decide)) (.inl rfl)
    · simp [newline_not_mem_encodeChar same, Ne.symm same]

theorem count_encode (cs : List Char) : (Utf8.encode cs).count 0x0A = cs.count '\n' := by
  induction cs with
  | nil => rfl
  | cons d cs ih =>
    rw [Utf8.encode_cons, List.count_append, ih, List.count_cons, Nat.add_comm]
    by_cases same : d = '\n'
    · subst same
      rfl
    · rw [List.count_eq_zero.mpr (newline_not_mem_encodeChar same)]
      simp [same]

theorem takeWhile_encode (cs : List Char) :
    (Utf8.encode cs).reverse.takeWhile (· != 0x0A) = (Utf8.encode (lastLine cs)).reverse := by
  have split : Utf8.encode cs = Utf8.encode (earlierLines cs) ++ Utf8.encode (lastLine cs) := by
    rw [← Utf8.encode_append, earlierLines_append_lastLine]
  have inside : ∀ b ∈ (Utf8.encode (lastLine cs)).reverse, (b != 0x0A) = true := by
    intro b hb
    rw [bne_iff_ne]
    rintro rfl
    exact newline_not_mem_lastLine cs (newline_mem_encode.mp (List.mem_reverse.mp hb))
  have stops : (Utf8.encode (earlierLines cs)).reverse.takeWhile (· != 0x0A) = [] := by
    rcases earlierLines_ended cs with none | ended
    · rw [none]
      rfl
    · obtain ⟨front, whole⟩ := List.getLast?_eq_some_iff.mp ended
      rw [whole, Utf8.encode_append, List.reverse_append]
      rfl
  rw [split, List.reverse_append, List.takeWhile_append_of_pos inside, stops, List.append_nil]

theorem behind_byte {b : UInt8} (other : b ≠ 0x0A) :
    Json.Place.behind (Utf8.encode before ++ [b]) = bytePlace before := by
  simp [Json.Place.behind, bytePlace, size, count_encode, takeWhile_encode, other]

end SourcePlace

namespace SourceError

open SourcePlace

/-- An error that the JSON reader reports at a character, at its line and its column in bytes, never
points in front of it. It points at the character just when all in front of it in its line is ASCII, or
its line has no more characters than there are bytes in front of it. -/
theorem ofJson_offset_iff (cause : Json.Cause) (file : String) (before after : List Char) (c : Char) :
    let e := ofJson ⟨cause, bytePlace before⟩ (String.ofList (before ++ c :: after)) file
    (∀ b, b ≠ 0x0A → Json.Place.behind (Utf8.encode before ++ [b]) = bytePlace before) ∧
      size before ≤ e.offset ∧
      (e.offset = size before ↔ (∀ d ∈ lastLine before, d.utf8Size = 1) ∨
        (lineAround before after c).length ≤ size (lastLine before)) := by
  intro e
  have whole : size before = size (earlierLines before) + size (lastLine before) := by
    rw [← size_append, earlierLines_append_lastLine]
  have found : e.offset = size (earlierLines before) +
      if size (lastLine before) < (lineAround before after c).length
      then size ((lineAround before after c).take (size (lastLine before)))
      else size (lastLine before) := by
    rw [← offset_line]
    simp [e, ofJson, locate, bytePlace]
  refine ⟨fun b other => behind_byte before other, ?_⟩
  rw [found, whole]
  by_cases inside : size (lastLine before) < (lineAround before after c).length
  · have wide := length_le_size (lastLine before)
    -- As many characters as there are bytes: the whole front of the line, and some more if it is wide.
    have taken : (lineAround before after c).take (size (lastLine before)) = lastLine before ++
        (firstLine (c :: after)).take (size (lastLine before) - (lastLine before).length) := by
      rw [lineAround, List.take_append, List.take_of_length_le wide]
    have rest := length_le_size
      ((firstLine (c :: after)).take (size (lastLine before) - (lastLine before).length))
    rw [lineAround, List.length_append] at inside
    rw [if_pos (by rwa [lineAround, List.length_append]), taken, size_append, ← size_eq_length_iff]
    rw [List.length_take] at rest
    constructor
    · omega
    · rw [lineAround, List.length_append]
      constructor
      · omega
      · rintro (narrow | short)
        · rw [narrow, Nat.sub_self, List.take_zero, size_nil]
          rfl
        · omega
  · rw [if_neg inside]
    exact ⟨Nat.le_refl _, iff_of_true rfl (.inr (Nat.not_lt.mp inside))⟩

def widened : Source := ⟨"e.json", "\x7b\"é\": x\x7d"⟩

theorem wide_letter_moves_offset :
    let before := "\x7b\"é\": ".toList
    widened.contents = String.ofList (before ++ 'x' :: ['\x7d']) ∧
      Document.parse false widened =
        .error (.syntaxError (ofJson ⟨.expectedValue, bytePlace before⟩ widened.contents "e.json")) ∧
      size before = 7 ∧
      (ofJson ⟨.expectedValue, bytePlace before⟩ widened.contents "e.json").offset = 8 := by
  refine ⟨by decide, by cbv, by decide, by decide⟩

end SourceError

end SchemaForge
