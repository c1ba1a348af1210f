import Mathlib.Data.List.TakeWhile
import SchemaForge.FilePath

/-! What the extension of a path is: what stands behind the last dot of its last component, if something
stands in front of that dot. So it is made of characters of the path, and holds neither a dot nor the slash
that parts the components. -/

namespace SchemaForge

def DrawnFrom (cs : List Char) (mark : Char) (piece : List Char) : Prop :=
  ∀ c ∈ piece, c ∈ cs ∧ c ≠ mark

theorem drawn_of_mem_splitOn {mark : Char} {cs piece : List Char} (h : piece ∈ cs.splitOn mark) :
    DrawnFrom cs mark piece := by
  induction cs generalizing piece with
  | nil =>
    rw [List.splitOn_nil, List.mem_singleton] at h
    subst h
    exact nofun
  | cons c rest ih =>
    have later {piece : List Char} (h : piece ∈ rest.splitOn mark) : DrawnFrom (c :: rest) mark piece :=
      fun d hd => ⟨List.mem_cons_of_mem c (ih h d hd).1, (ih h d hd).2⟩
    rw [List.splitOn_cons_eq_if_modifyHead] at h
    split at h
    · rcases List.mem_cons.mp h with rfl | h
      · exact nofun
      · exact later h
    · next other =>
      obtain ⟨first, pieces, hpieces⟩ := List.exists_cons_of_ne_nil (List.splitOn_ne_nil mark rest)
      rw [hpieces, List.modifyHead_cons] at h
      rcases List.mem_cons.mp h with rfl | h
      · intro d hd
        rcases List.mem_cons.mp hd with rfl | hd
        · exact ⟨List.mem_cons_self, fun same => other (beq_iff_eq.mpr same)⟩
        · exact later (hpieces ▸ List.mem_cons_self) d hd
      · exact later (hpieces ▸ List.mem_cons_of_mem first h)

namespace FilePath

variable {path name extension : String}

theorem drawn_of_mem_components (h : name ∈ components path) :
    DrawnFrom path.toList '/' name.toList := by
  have piece : name ∈ Text.piecesAt '/' path := by
    unfold components at h
    dsimp only at h
    split at h
    · next rest hrest =>
      rw [hrest]
      rcases List.mem_cons.mp h with rfl | h
      · exact List.mem_cons_self
      · exact List.mem_cons_of_mem _ (List.mem_filter.mp h).1
    · exact (List.mem_filter.mp h).1
  obtain ⟨cs, hcs, rfl⟩ := List.mem_map.mp piece
  rw [String.toList_ofList]
  exact drawn_of_mem_splitOn hcs

theorem fileName?_mem (h : fileName? path = some name) : name ∈ components path := by
  unfold fileName? at h
  split at h
  · cases h
  · cases h
  · exact List.mem_of_getLast? h

theorem nameExtension?_subset (h : nameExtension? name = some extension) :
    ∀ c ∈ extension.toList, c ∈ name.toList := by
  unfold nameExtension? at h
  split at h
  · cases h
  · split at h
    · cases h
    · next before behind hsplit =>
      cases h
      unfold splitDot? at hsplit
      dsimp only at hsplit
      split at hsplit
      · cases hsplit
        intro c hc
        rw [String.toList_ofList, List.mem_reverse] at hc
        exact List.mem_reverse.mp ((List.takeWhile_subset _) hc)
      · cases hsplit
    · cases h

theorem drawn_extension? (h : extension? path = some extension) :
    DrawnFrom path.toList '/' extension.toList := by
  obtain ⟨name, hname, hextension⟩ := Option.bind_eq_some_iff.mp h
  exact fun c hc => drawn_of_mem_components (fileName?_mem hname) c (nameExtension?_subset hextension c hc)

theorem components_of_flat (flat : '/' ∉ name.toList) (named : name ≠ "") (notHere : name ≠ ".") :
    components name = [name] := by
  have one : Text.piecesAt '/' name = [name] := by
    rw [Text.piecesAt, List.splitOn_eq_singleton flat]
    simp
  unfold components
  dsimp only
  rw [one]
  split
  · next rest whole => exact absurd (List.cons.inj whole).1 notHere
  · simp [named, notHere]

theorem fileName?_of_flat (flat : '/' ∉ name.toList) (named : name ≠ "") (notHere : name ≠ ".")
    (notAbove : name ≠ "..") : fileName? name = some name := by
  rw [fileName?, components_of_flat flat named notHere, List.getLast?_singleton]
  split
  · next here => exact absurd (Option.some.inj here) notHere
  · next above => exact absurd (Option.some.inj above) notAbove
  · rfl

theorem fileName?_ne_here : fileName? path ≠ some "." := by
  unfold fileName?
  split <;> simp_all

theorem fileName?_ne_above : fileName? path ≠ some ".." := by
  unfold fileName?
  split <;> simp_all

theorem ne_of_mem_reverse {cs : List Char} (undotted : '.' ∉ cs) :
    ∀ c ∈ cs.reverse, (c != '.') = true := by
  intro c hc
  rw [bne_iff_ne]
  rintro rfl
  exact undotted (List.mem_reverse.mp hc)

theorem splitDot?_append {before behind : List Char} (undotted : '.' ∉ behind) :
    splitDot? (before ++ '.' :: behind) = some (before, behind) := by
  have stops : (before ++ '.' :: behind).reverse.takeWhile (· != '.') = behind.reverse := by
    rw [List.reverse_append, List.reverse_cons, List.append_assoc,
      List.takeWhile_append_of_pos (ne_of_mem_reverse undotted)]
    simp
  rw [splitDot?, stops]
  have shorter : behind.length < before.length + (behind.length + 1) := by omega
  have front : before.length + (behind.length + 1) - behind.length - 1 = before.length := by omega
  simp [shorter, front]

theorem splitDot?_eq_none {cs : List Char} (undotted : '.' ∉ cs) : splitDot? cs = none := by
  have whole : cs.reverse.takeWhile (· != '.') = cs.reverse :=
    List.takeWhile_eq_self_iff.mpr (ne_of_mem_reverse undotted)
  simp [splitDot?, whole]

theorem splitDot?_eq_some {cs before behind : List Char} :
    splitDot? cs = some (before, behind) ↔ cs = before ++ '.' :: behind ∧ '.' ∉ behind := by
  constructor
  · intro h
    by_cases dotted : '.' ∈ cs
    · obtain ⟨back, front, split, last⟩ := List.eq_append_cons_of_mem (List.mem_reverse.mpr dotted)
      have undotted : '.' ∉ back.reverse := fun hc => last (List.mem_reverse.mp hc)
      obtain rfl : cs = front.reverse ++ '.' :: back.reverse := by
        rw [← cs.reverse_reverse, split]
        simp
      cases (splitDot?_append undotted).symm.trans h
      exact ⟨rfl, undotted⟩
    · rw [splitDot?_eq_none dotted] at h
      cases h
  · rintro ⟨rfl, undotted⟩
    exact splitDot?_append undotted

/-- The extension of a name is what stands behind its last dot, if something stands in front of that. -/
theorem nameExtension?_eq_some : nameExtension? name = some extension ↔
    name ≠ ".." ∧ ∃ stem, stem ≠ "" ∧ name = stem ++ "." ++ extension ∧ '.' ∉ extension.toList := by
  have spelled {stem : String} : name = stem ++ "." ++ extension ↔
      name.toList = stem.toList ++ '.' :: extension.toList := by
    simp [← String.toList_inj]
  unfold nameExtension?
  split
  · next above => simp [above]
  · next other =>
    simp only [ne_eq, other, not_false_eq_true, true_and]
    constructor
    · intro h
      split at h
      · cases h
      · next before behind named split =>
        cases h
        obtain ⟨parts, undotted⟩ := splitDot?_eq_some.mp split
        refine ⟨String.ofList before, ?_, spelled.mpr (by simpa using parts), by simpa using undotted⟩
        rintro empty
        exact named (by simpa [String.ofList_eq_empty_iff] using empty)
      · cases h
    · rintro ⟨stem, named, parts, undotted⟩
      rw [splitDot?_eq_some.mpr ⟨spelled.mp parts, undotted⟩]
      cases hstem : stem.toList with
      | nil => exact absurd (String.toList_eq_nil_iff.mp hstem) named
      | cons c cs => simp

end FilePath

end SchemaForge
