import SchemaForge.TypeExpr

/-! Type expressions and their texts. The texts that `parse` takes are those that `text` writes for a
legal name, and each comes back as the expression that it was written for. -/

namespace SchemaForge.TypeExpr

theorem text_toList (t : TypeExpr) : t.text.toList = t.chars := String.toList_ofList

theorem nameLegal_iff {name : List Char} :
    nameLegal name = true ↔ name ≠ [] ∧ ∀ c ∈ name, isMark c = false := by
  simp [nameLegal]

theorem isMark_eq_false {c : Char} :
    isMark c = false ↔ isBracket c = false ∧ c ≠ '?' ∧ Text.isBlank c = false := by
  simp [isMark, and_assoc]

theorem isBracket_eq_false {c : Char} : isBracket c = false ↔ c ≠ '[' ∧ c ≠ ']' := by
  simp [isBracket]

theorem splitOptional_mark (cs : List Char) : splitOptional (cs ++ ['?']) = (cs, true) := by
  simp [splitOptional]

theorem splitOptional_plain {cs : List Char} (h : '?' ∉ cs) : splitOptional cs = (cs, false) := by
  have hlast : cs.getLast? ≠ some '?' := fun hl => h (List.mem_of_getLast? hl)
  simp [splitOptional, hlast]

theorem append_splitOptional (cs : List Char) :
    (splitOptional cs).1 ++ (if (splitOptional cs).2 then ['?'] else []) = cs := by
  unfold splitOptional
  split
  · next h =>
    obtain ⟨front, rfl⟩ := List.getLast?_eq_some_iff.mp h
    simp
  · simp

theorem brackets_both (inner : List Char) : brackets ('[' :: inner ++ [']']) = .both inner := by
  have closes : ('[' :: (inner ++ [']'])).getLast? = some ']' := by
    rw [← List.cons_append, List.getLast?_concat]
  simp [brackets, closes]

theorem brackets_neither {cs : List Char} (h : ∀ c ∈ cs, isBracket c = false) :
    brackets cs = .neither := by
  have opens : cs.head? ≠ some '[' := fun he =>
    (isBracket_eq_false.mp (h _ (List.mem_of_mem_head? he))).1 rfl
  have closes : cs.getLast? ≠ some ']' := fun he =>
    (isBracket_eq_false.mp (h _ (List.mem_of_getLast? he))).2 rfl
  simp [brackets, opens, closes]

theorem eq_of_brackets_both {cs inner : List Char} (h : brackets cs = .both inner) :
    cs = '[' :: inner ++ [']'] := by
  unfold brackets at h
  simp only at h
  split at h
  · next hc =>
    simp only [Bool.and_eq_true, beq_iff_eq, decide_eq_true_eq] at hc
    obtain ⟨⟨opens, closes⟩, hlen⟩ := hc
    obtain ⟨front, rfl⟩ := List.getLast?_eq_some_iff.mp closes
    cases front with
    | nil => simp at hlen
    | cons c front =>
      simp only [List.cons_append, List.head?_cons, Option.some.injEq] at opens
      simp only [List.cons_append, List.drop_succ_cons, List.drop_zero,
        List.dropLast_concat, Brackets.both.injEq] at h
      rw [opens, h, List.cons_append]
  · split at h <;> cases h

def body (t : TypeExpr) : List Char :=
  if t.collection then '[' :: t.raw.toList ++ [']'] else t.raw.toList

theorem chars_eq (t : TypeExpr) :
    t.chars = t.body ++ (if t.optional then ['?'] else []) := rfl

theorem not_mem_body {t : TypeExpr} (h : nameLegal t.raw.toList = true) : '?' ∉ t.body := by
  have hraw : '?' ∉ t.raw.toList := fun hm =>
    (isMark_eq_false.mp ((nameLegal_iff.mp h).2 _ hm)).2.1 rfl
  unfold body
  split <;> simp [hraw]

theorem splitOptional_chars {t : TypeExpr} (h : nameLegal t.raw.toList = true) :
    splitOptional t.chars = (t.body, t.optional) := by
  rw [chars_eq]
  cases ho : t.optional with
  | true => simpa using splitOptional_mark t.body
  | false => simpa using splitOptional_plain (not_mem_body h)

theorem parse_text {t : TypeExpr} (h : nameLegal t.raw.toList = true) : parse t.text = .ok t := by
  obtain ⟨hne, hmarks⟩ := nameLegal_iff.mp h
  have hbrackets : ∀ c ∈ t.raw.toList, isBracket c = false := fun c hc =>
    (isMark_eq_false.mp (hmarks c hc)).1
  have hblanks : ∀ c ∈ t.raw.toList, Text.isBlank c = false := fun c hc =>
    (isMark_eq_false.mp (hmarks c hc)).2.2
  have hbody : t.body.contains '?' = false := by simpa using not_mem_body h
  have hchars : t.chars ≠ [] := by
    unfold chars
    split <;> simp [hne]
  have named : t.raw.toList.any isBracket = false ∧
      (t.raw.toList.isEmpty || t.raw.toList.any Text.isBlank) = false := by
    simp only [List.any_eq_false, Bool.or_eq_false_iff, List.isEmpty_eq_false_iff]
    exact ⟨fun c hc => by simp [hbrackets c hc], hne, fun c hc => by simp [hblanks c hc]⟩
  simp only [parse, text_toList, hchars, splitOptional_chars h, hbody, if_false]
  obtain ⟨raw, collection, optional⟩ := t
  cases collection with
  | true =>
    have hb : brackets (body ⟨raw, true, optional⟩) = .both raw.toList := brackets_both raw.toList
    simp [hb, named, String.ofList_toList]
  | false =>
    have hb : brackets raw.toList = .neither := brackets_neither hbrackets
    have hraw : body ⟨raw, false, optional⟩ = raw.toList := rfl
    simp [hb, hraw, named, String.ofList_toList]

theorem of_parse {s : String} {t : TypeExpr} (h : parse s = .ok t) :
    s = t.text ∧ nameLegal t.raw.toList = true := by
  unfold parse at h
  split at h
  · cases h
  · have whole := append_splitOptional s.toList
    generalize splitOptional s.toList = split at h whole
    obtain ⟨front, optional⟩ := split
    simp only at h whole
    split at h
    · cases h
    · next hmark =>
      have hmark : '?' ∉ front := by simpa using hmark
      have close (collection : Bool) {name : List Char}
          (hfront : front = if collection then '[' :: name ++ [']'] else name)
          (hbracket : name.any isBracket = false)
          (hname : (name.isEmpty || name.any Text.isBlank) = false)
          (ht : (⟨String.ofList name, collection, optional⟩ : TypeExpr) = t) :
          s = t.text ∧ nameLegal t.raw.toList = true := by
        subst ht
        constructor
        · apply String.toList_injective
          rw [text_toList, ← whole, hfront]
          simp [chars, String.toList_ofList]
        · simp only [Bool.or_eq_false_iff, List.isEmpty_eq_false_iff, List.any_eq_false] at hname
          simp only [List.any_eq_false] at hbracket
          rw [String.toList_ofList, nameLegal_iff]
          refine ⟨hname.1, fun c hc => isMark_eq_false.mpr ⟨by simpa using hbracket c hc, ?_,
            by simpa using hname.2 c hc⟩⟩
          rintro rfl
          apply hmark
          rw [hfront]
          split <;> simp [hc]
      split at h
      · next inner hb =>
        split at h
        · cases h
        · next hbracket =>
          split at h
          · cases h
          · next hname =>
            exact close true (by simpa using eq_of_brackets_both hb)
              (by simpa using hbracket) (by simpa using hname) (Except.ok.inj h)
      · split at h
        · cases h
        · next hbracket =>
          split at h
          · cases h
          · next hname =>
            exact close false (by simp)
              (by simpa using hbracket) (by simpa using hname) (Except.ok.inj h)
      · cases h

theorem parse_eq_ok {s : String} {t : TypeExpr} :
    parse s = .ok t ↔ s = t.text ∧ nameLegal t.raw.toList = true :=
  ⟨of_parse, fun ⟨hs, hlegal⟩ => hs ▸ parse_text hlegal⟩

example : parse "[Mood]?" = .ok ⟨"Mood", true, true⟩ := rfl

theorem reparse {s : String} {t : TypeExpr} (h : parse s = .ok t) : parse t.text = .ok t :=
  parse_text (of_parse h).2

theorem plain_iff_of_parse {s : String} {t : TypeExpr} (h : parse s = .ok t) :
    t.plain = true ↔ ∀ c ∈ s.toList, c ≠ '[' ∧ c ≠ ']' ∧ c ≠ '?' := by
  obtain ⟨rfl, hlegal⟩ := of_parse h
  rw [text_toList]
  constructor
  · intro hplain c hc
    simp only [plain, Bool.and_eq_true, Bool.not_eq_true'] at hplain
    simp only [chars, hplain.1, hplain.2] at hc
    have hm := isMark_eq_false.mp ((nameLegal_iff.mp hlegal).2 c (by simpa using hc))
    exact ⟨(isBracket_eq_false.mp hm.1).1, (isBracket_eq_false.mp hm.1).2, hm.2.1⟩
  · intro hnone
    have hcollection : t.collection = false := Bool.eq_false_iff.mpr fun hc =>
      (hnone '[' (by simp [chars, hc])).1 rfl
    have hoptional : t.optional = false := Bool.eq_false_iff.mpr fun ho =>
      (hnone '?' (by simp [chars, ho])).2.2 rfl
    simp [plain, hcollection, hoptional]

end SchemaForge.TypeExpr
