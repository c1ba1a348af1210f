import SchemaForge.Yaml.Reader
import SchemaForge.Proofs.Json.Keys
import SchemaForge.Proofs.Outcome

/-! What is read from YAML text is well keyed. Merge keys only add what is not written out, and an
alias stands for a value that has been read before; so the anchored values are carried along. -/

namespace SchemaForge.Yaml

open Json (Value Object)
open Outcome (Gives)

def KeyedAnchors (anchors : Anchors) : Prop := ∀ a ∈ anchors, a.2.WellKeyed

theorem KeyedAnchors.cons {anchors : Anchors} {name : String} {v : Value} (hv : v.WellKeyed)
    (h : KeyedAnchors anchors) : KeyedAnchors ((name, v) :: anchors) :=
  List.forall_mem_cons.mpr ⟨hv, h⟩

theorem ofFloat_wellKeyed (x : Float) : (Value.ofFloat x).WellKeyed := by
  unfold Value.ofFloat
  split
  · exact .number _
  · exact .null

theorem plain?_wellKeyed {s : String} {v : Value} (h : plain? s = some v) : v.WellKeyed := by
  unfold plain? at h
  split at h
  · obtain rfl := Option.some.inj h
    exact .null
  · split at h
    · obtain rfl := Option.some.inj h
      exact .bool _
    · split at h
      · split at h
        · obtain rfl := Option.some.inj h
          exact .number _
        · split at h
          · cases h
          · split at h
            · obtain rfl := Option.some.inj h
              exact ofFloat_wellKeyed _
            · obtain rfl := Option.some.inj h
              exact .string _
      · split at h
        · obtain rfl := Option.some.inj h
          exact ofFloat_wellKeyed _
        · obtain rfl := Option.some.inj h
          exact .string _

theorem scalarValue_wellKeyed (text : String) (plain : Bool) (tag : Option String) :
    Gives Value.WellKeyed (scalarValue text plain tag) := by
  unfold scalarValue
  dsimp only
  split
  · split
    · split
      · next w hw =>
        obtain ⟨b, -, rfl⟩ := Option.map_eq_some_iff.mp hw
        exact .ok (.bool b)
      · exact .error _
    · split
      · split
        · next w hw =>
          obtain ⟨i, -, hi⟩ := Option.bind_eq_some_iff.mp hw
          split at hi
          · obtain rfl := Option.some.inj hi
            exact .ok (.number _)
          · cases hi
        · exact .error _
      · split
        · split
          · next w hw =>
            obtain ⟨x, -, rfl⟩ := Option.map_eq_some_iff.mp hw
            exact .ok (ofFloat_wellKeyed x)
          · exact .error _
        · split
          · split
            · next w hw =>
              rw [Option.ite_none_right_eq_some] at hw
              exact .ok (Option.some.inj hw.2 ▸ .null)
            · exact .error _
          · split
            · exact .error _
            · exact .ok (.string text)
  · split
    · split
      · next w hw => exact .ok (plain?_wellKeyed hw)
      · exact .error _
    · exact .ok (.string text)

theorem addMissing_wellKeyed {o source : Object} (ho : (Value.object o).WellKeyed)
    (hsource : ∀ e ∈ source, e.2.WellKeyed) : (Value.object (addMissing o source)).WellKeyed := by
  unfold addMissing
  induction source generalizing o with
  | nil => exact ho
  | cons e source ih =>
    obtain ⟨he, hrest⟩ := List.forall_mem_cons.mp hsource
    rw [List.foldl_cons]
    refine ih ?_ hrest
    split
    · exact ho
    · next fresh =>
      exact ho.concat (fun hmem => fresh (Json.Object.contains_iff.mpr hmem)) he

theorem foldl_addMissing_wellKeyed {o : Object} {merged : List Object}
    (ho : (Value.object o).WellKeyed) (hmerged : ∀ m ∈ merged, (Value.object m).WellKeyed) :
    (Value.object (merged.foldl addMissing o)).WellKeyed := by
  induction merged generalizing o with
  | nil => exact ho
  | cons m merged ih =>
    obtain ⟨hm, hrest⟩ := List.forall_mem_cons.mp hmerged
    exact ih (addMissing_wellKeyed ho hm.entries) hrest

theorem mergeSources_wellKeyed {v : Value} (h : v.WellKeyed) :
    Gives (fun sources => ∀ m ∈ sources, (Value.object m).WellKeyed) (mergeSources v) := by
  unfold mergeSources
  split
  · next o => exact .ok (List.forall_mem_singleton.mpr h)
  · next items =>
    intro sources hsources m hm
    have hall := Outcome.mapM_eq_ok.mp hsources
    obtain ⟨item, hitem, hread⟩ := Outcome.exists_of_mem_right hall hm
    split at hread
    · obtain rfl := Except.ok.inj hread
      exact h.of_mem hitem
    · cases hread
  · exact .error _

mutual

theorem toValue_wellKeyed {anchors : Anchors} (ha : KeyedAnchors anchors) (n : Node) :
    Gives (fun p => p.1.WellKeyed ∧ KeyedAnchors p.2) (toValue anchors n) := by
  cases n with
  | scalar text plain tag =>
    unfold toValue
    exact (scalarValue_wellKeyed text plain tag).bind fun v hv => .ok ⟨hv, ha⟩
  | «alias» name =>
    unfold toValue
    split
    · next v hv => exact .ok ⟨ha (name, v) (Json.Object.mem_of_get? hv), ha⟩
    · exact .error _
  | anchored name node =>
    unfold toValue
    exact (toValue_wellKeyed ha node).bind fun p hp => .ok ⟨hp.1, hp.2.cons hp.1⟩
  | sequence items tag =>
    unfold toValue
    split
    · exact .error _
    · exact (toValues_wellKeyed ha items).bind fun p hp => .ok ⟨.array hp.1, hp.2⟩
  | mapping entries tag =>
    unfold toValue
    split
    · exact .error _
    · exact (toEntries_wellKeyed ha .empty (List.forall_mem_nil _) entries).bind fun p hp =>
        .ok ⟨foldl_addMissing_wellKeyed hp.1 hp.2.1, hp.2.2⟩

theorem toValues_wellKeyed {anchors : Anchors} (ha : KeyedAnchors anchors) (items : List Node) :
    Gives (fun p => (∀ v ∈ p.1, v.WellKeyed) ∧ KeyedAnchors p.2) (toValues anchors items) := by
  cases items with
  | nil =>
    unfold toValues
    exact .ok ⟨nofun, ha⟩
  | cons n rest =>
    unfold toValues
    refine (toValue_wellKeyed ha n).bind fun p hp => ?_
    refine (toValues_wellKeyed hp.2 rest).bind fun q hq => ?_
    exact .ok ⟨List.forall_mem_cons.mpr ⟨hp.1, hq.1⟩, hq.2⟩

theorem toEntries_wellKeyed {anchors : Anchors} (ha : KeyedAnchors anchors) {o : Object}
    (ho : (Value.object o).WellKeyed) {merged : List Object}
    (hmerged : ∀ m ∈ merged, (Value.object m).WellKeyed) (entries : List (Node × Node)) :
    Gives (fun p => (Value.object p.1).WellKeyed ∧ (∀ m ∈ p.2.1, (Value.object m).WellKeyed) ∧
      KeyedAnchors p.2.2) (toEntries anchors o merged entries) := by
  cases entries with
  | nil =>
    unfold toEntries
    exact .ok ⟨ho, hmerged, ha⟩
  | cons e rest =>
    obtain ⟨k, n⟩ := e
    unfold toEntries
    refine (toValue_wellKeyed ha n).bind fun p hp => ?_
    dsimp only
    split
    · refine (mergeSources_wellKeyed hp.1).bind fun sources hsources => ?_
      refine toEntries_wellKeyed hp.2 ho (fun m hm => ?_) rest
      rcases List.mem_append.mp hm with hm | hm
      · exact hmerged m hm
      · exact hsources m hm
    · refine (Gives.any _).bind fun key _ => ?_
      refine toEntries_wellKeyed ?_ (ho.insert hp.1) hmerged rest
      split
      · exact hp.2.cons (.string key)
      · exact hp.2

end

theorem wellKeyed_of_read {text : String} {v : Value} (h : read text = .ok v) : v.WellKeyed := by
  have hread : Gives Value.WellKeyed (read text) := by
    unfold read
    refine (Gives.any _).bind fun tokens _ => ?_
    refine (Gives.any _).bind fun node _ => ?_
    have start : KeyedAnchors [] := List.forall_mem_nil _
    exact (toValue_wellKeyed start node).bind fun p hp => .ok hp.1
  exact hread v h

end SchemaForge.Yaml
