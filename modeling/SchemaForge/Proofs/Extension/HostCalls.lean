import SchemaForge.Extension.Registrations
import SchemaForge.Proofs.NameMap
import SchemaForge.Proofs.Outcome
import SchemaForge.Proofs.Script.Trace
import SchemaForge.Proofs.Text.SmallLetters

/-! What host calls mean and what they register. A call whose arguments convert is carried out as a
whole, any other call is refused and changes nothing; what is registered in the end is what the last
calls carried out have registered. -/

namespace SchemaForge.Extension

open Script (Ask Host)
open Outcome (bind_eq_ok)
open Text (Utf8.decode)

theorem ResultKind.text_ownLetter (kind : ResultKind) : ∀ c ∈ kind.text.toList, Text.OwnLetter c := by
  cases kind <;> simp [ResultKind.text] <;> decide

theorem ResultKind.parse?_eq_some {s : String} {kind : ResultKind} :
    parse? s = some kind ↔ Text.asciiLower s = kind.text := by
  rw [← Text.lower_eq_iff kind.text_ownLetter]
  constructor
  · intro h
    have found := List.find?_some h
    exact (beq_iff_eq.mp found).symm
  · intro h
    rw [parse?, h]
    cases kind <;> rfl

inductive Reads : Script.Value → String → Prop
  | string {b : Text.Utf8.Bytes} {s : String} (decodes : Utf8.decode b = .ok s) : Reads (.string b) s
  | number (n : Script.Numeric) : Reads (.number n) n.text

variable {σ : Type} {a : Ask σ}

def argumentAt (a : Ask σ) (i : Nat) : Script.Value := a.args[i]?.getD .nil

/-- The call that a script asks for. A function of no other name is the one that registers tags. -/
inductive Means (a : Ask σ) : HostCall → Prop
  | log {message : String} (named : a.function = "log") (reads : Reads (argumentAt a 0) message) :
      Means a (.log message)
  | predefine {place : Nat} {names : List String} (named : a.function = "registerPredefinedTypes")
      (table : argumentAt a 0 = .table place)
      (texts : List.Forall₂ Reads (a.heap.table place).sequence names) : Means a (.predefine names)
  | filter {name function kindName : String} {kind : ResultKind}
      (named : a.function = "registerFilter") (readsName : Reads (argumentAt a 0) name)
      (readsFunction : Reads (argumentAt a 1) function) (readsKind : Reads (argumentAt a 2) kindName)
      (isKind : Text.asciiLower kindName = kind.text) : Means a (.filter name ⟨function, kind⟩)
  | tag {name function : String}
      (named : a.function ∉ ["log", "registerPredefinedTypes", "registerFilter"])
      (readsName : Reads (argumentAt a 0) name) (readsFunction : Reads (argumentAt a 1) function) :
      Means a (.tag name function)

theorem text_eq_ok {v : Script.Value} {s : String} : HostCall.text v = .ok s ↔ Reads v s := by
  constructor
  · intro h
    unfold HostCall.text at h
    split at h
    · split at h
      · next hb =>
        cases h
        exact .string hb
      · cases h
    · cases h
      exact .number _
    · cases h
  · rintro (⟨decodes⟩ | ⟨n⟩)
    · simp only [HostCall.text, decodes]
    · rfl

theorem texts_eq_ok {h : Script.Heap} {v : Script.Value} {names : List String} :
    HostCall.texts h v = .ok names ↔
      ∃ place, v = .table place ∧ List.Forall₂ Reads (h.table place).sequence names := by
  cases v with
  | table place => simp [HostCall.texts, Outcome.mapM_eq_ok, text_eq_ok]
  | _ => simp [HostCall.texts]

theorem argument_eq_ok {α : Type} {n : Nat} {convert : Script.Value → HostCall.Failing α}
    {args : List Script.Value} {x : α} :
    HostCall.argument n convert args = .ok x ↔ convert (args[n - 1]?.getD .nil) = .ok x := by
  unfold HostCall.argument
  split
  · next h => rw [h]
  · next h => simp [h]

theorem read_eq_ok {call : HostCall} :
    HostCall.read a.heap a.function a.args = .ok call ↔ Means a call := by
  unfold HostCall.read
  split
  · next hf =>
    simp only [bind_eq_ok, argument_eq_ok, text_eq_ok, Except.ok.injEq]
    constructor
    · rintro ⟨message, reads, rfl⟩
      exact .log hf reads
    · intro h
      cases h with
      | log _ reads => exact ⟨_, reads, rfl⟩
      | predefine named | filter named | tag named => simp [hf] at named
  · next hf =>
    simp only [bind_eq_ok, argument_eq_ok, texts_eq_ok, Except.ok.injEq]
    constructor
    · rintro ⟨names, ⟨place, table, texts⟩, rfl⟩
      exact .predefine hf table texts
    · intro h
      cases h with
      | predefine _ table texts => exact ⟨_, ⟨_, table, texts⟩, rfl⟩
      | log named | filter named | tag named => simp [hf] at named
  · next hf =>
    simp only [bind_eq_ok, argument_eq_ok, text_eq_ok]
    constructor
    · rintro ⟨name, readsName, function, readsFunction, kindName, readsKind, h⟩
      split at h
      · next kind hkind =>
        cases h
        exact .filter hf readsName readsFunction readsKind (ResultKind.parse?_eq_some.mp hkind)
      · cases h
    · intro h
      cases h with
      | filter _ readsName readsFunction readsKind isKind =>
        refine ⟨_, readsName, _, readsFunction, _, readsKind, ?_⟩
        rw [ResultKind.parse?_eq_some.mpr isKind]
      | log named | predefine named | tag named => simp [hf] at named
  · next hlog hpredefine hfilter =>
    simp only [bind_eq_ok, argument_eq_ok, text_eq_ok, Except.ok.injEq]
    constructor
    · rintro ⟨name, readsName, function, readsFunction, rfl⟩
      refine .tag ?_ readsName readsFunction
      simp only [List.mem_cons, List.not_mem_nil, or_false, not_or]
      exact ⟨hlog, hpredefine, hfilter⟩
    · intro h
      cases h with
      | tag _ readsName readsFunction => exact ⟨_, readsName, _, readsFunction, rfl⟩
      | log named => exact absurd named hlog
      | predefine named => exact absurd named hpredefine
      | filter named => exact absurd named hfilter

def carriedOut (a : Ask σ) : Option HostCall := (HostCall.read a.heap a.function a.args).toOption

theorem carriedOut_eq_some {call : HostCall} : carriedOut a = some call ↔ Means a call := by
  rw [← read_eq_ok, carriedOut]
  cases HostCall.read a.heap a.function a.args <;> simp [Except.toOption]

theorem carriedOut_eq_none : carriedOut a = none ↔ ∀ call, ¬ Means a call := by
  simp only [← carriedOut_eq_some, Option.eq_none_iff_forall_ne_some, ne_eq]

def carryOut (r : Registrations) (a : Ask σ) : Registrations :=
  (carriedOut a).elim r (HostCall.apply r)

def registeredBy (asks : List (Ask σ)) : Registrations := asks.foldl carryOut Registrations.none

theorem registeredBy_concat (before : List (Ask σ)) (a : Ask σ) :
    registeredBy (before ++ [a]) = carryOut (registeredBy before) a := by
  rw [registeredBy, List.foldl_append]
  rfl

theorem registeredBy_eq (asks : List (Ask σ)) :
    registeredBy asks = (asks.filterMap carriedOut).foldl HostCall.apply Registrations.none := by
  rw [List.foldl_filterMap, registeredBy]
  congr
  funext r a
  rw [carryOut]
  cases carriedOut a <;> rfl

/-- What a call makes of open registrations: if its arguments convert it is carried out as a whole, and
if not it raises an error and leaves them as they are. -/
inductive Served (a : Ask Registry) (r : Registrations) : Registrations → Prop
  | carriedOut {call : HostCall} (means : Means a call)
      (granted : host.call a.found a.heap a.function a.args = .ok (some (call.apply r))) :
      Served a r (call.apply r)
  | refused {v : Script.Value} (nothing : ∀ call, ¬ Means a call)
      (raised : host.call a.found a.heap a.function a.args = .error v) : Served a r r

section Serving

variable {a : Ask Registry} {r : Registrations} {asks before after : List (Ask Registry)}
  {last : Registry}

/-- While registrations are open, a call is refused just when it means nothing. -/
theorem served (h : a.found = some r) :
    host.serve a = some (carryOut r a) ∧ Served a r (carryOut r a) := by
  cases hread : HostCall.read a.heap a.function a.args with
  | ok call =>
    have hcall : carriedOut a = some call := carriedOut_eq_some.mpr (read_eq_ok.mp hread)
    have granted : host.call a.found a.heap a.function a.args = .ok (some (call.apply r)) := by
      simp only [host, h, hread, Registry.accept]
    rw [Host.serve, granted, carryOut, hcall]
    exact ⟨rfl, .carriedOut (read_eq_ok.mp hread) granted⟩
  | error e =>
    have hnone : carriedOut a = none := by
      rw [carriedOut, hread]
      rfl
    have raised : host.call a.found a.heap a.function a.args = .error (.failure e) := by
      simp only [host, hread]
    rw [Host.serve, raised, carryOut, hnone]
    exact ⟨h, .refused (carriedOut_eq_none.mp hnone) raised⟩

theorem foldl_of_serves (h : host.Serves (some r) asks last) : last = some (asks.foldl carryOut r) := by
  generalize hstate : (some r : Registry) = state at h
  induction h generalizing r with
  | nil => exact hstate.symm
  | cons _ ih => exact ih (served hstate.symm).1.symm

theorem served_of_serves (h : host.Serves (some Registrations.none) (before ++ a :: after) last) :
    a.found = some (registeredBy before) ∧
      Served a (registeredBy before) (registeredBy (before ++ [a])) := by
  have hfound : a.found = some (registeredBy before) := foldl_of_serves h.front
  rw [registeredBy_concat]
  exact ⟨hfound, (served hfound).2⟩

end Serving

namespace HostCall

def predefined? : HostCall → Option (List String)
  | .predefine names => some names
  | _ => none

def filter? (name : String) : HostCall → Option FilterBinding
  | .filter n binding => if name = n then some binding else none
  | _ => none

def tag? (name : String) : HostCall → Option String
  | .tag n function => if name = n then some function else none
  | _ => none

theorem apply_predefined (r : Registrations) (call : HostCall) :
    some (call.apply r).predefined =
      (call.predefined?.map NameSet.ofNames).or (some r.predefined) := by
  cases call <;> rfl

theorem apply_filters (name : String) (r : Registrations) (call : HostCall) :
    (call.apply r).filters.get? name = (call.filter? name).or (r.filters.get? name) := by
  cases call with
  | filter n binding =>
    simp only [apply, filter?, NameMap.get?_insert]
    split <;> rfl
  | log | predefine | tag => rfl

theorem apply_tags (name : String) (r : Registrations) (call : HostCall) :
    (call.apply r).tags.get? name = (call.tag? name).or (r.tags.get? name) := by
  cases call with
  | tag n function =>
    simp only [apply, tag?, NameMap.get?_insert]
    split <;> rfl
  | log | predefine | filter => rfl

end HostCall

/-- Registrations in which the last call for each thing has the word: for the predefined types as a
whole, for filters and tags name by name. -/
structure LastWritten (calls : List HostCall) (r : Registrations) : Prop where
  predefined : ∀ name, name ∈ r.predefined.names ↔
    ∃ names, (calls.filterMap HostCall.predefined?).getLast? = some names ∧ name ∈ names
  filters : ∀ name, r.filters.get? name = (calls.filterMap (HostCall.filter? name)).getLast?
  tags : ∀ name, r.tags.get? name = (calls.filterMap (HostCall.tag? name)).getLast?

/-- Where each call writes something or leaves it as it is, the last write shows in the end; without
one, what was there in the beginning does. -/
theorem foldl_apply_view {α : Type} (view : Registrations → Option α) {write : HostCall → Option α}
    (h : ∀ r call, view (HostCall.apply r call) = (write call).or (view r)) (r : Registrations)
    (calls : List HostCall) :
    view (calls.foldl HostCall.apply r) = (calls.filterMap write).getLast?.or (view r) := by
  induction calls generalizing r with
  | nil => rfl
  | cons call calls ih =>
    rw [List.foldl_cons, ih, h]
    cases hwrite : write call with
    | none => rw [List.filterMap_cons_none hwrite, Option.none_or]
    | some a =>
      rw [List.filterMap_cons_some hwrite, List.getLast?_cons]
      cases (calls.filterMap write).getLast? <;> rfl

theorem lastWritten (asks : List (Ask σ)) :
    LastWritten (asks.filterMap carriedOut) (registeredBy asks) := by
  rw [registeredBy_eq]
  generalize asks.filterMap carriedOut = calls
  refine ⟨fun name => ?_, fun name => ?_, fun name => ?_⟩
  · have hlast := foldl_apply_view (fun r => some r.predefined) HostCall.apply_predefined
      Registrations.none calls
    rw [← List.map_filterMap, List.getLast?_map] at hlast
    cases hnames : (calls.filterMap HostCall.predefined?).getLast? with
    | none =>
      rw [hnames] at hlast
      rw [Option.some.inj hlast]
      simp [Registrations.none, NameMap.empty, NameMap.names]
    | some names =>
      rw [hnames] at hlast
      rw [Option.some.inj hlast, NameSet.mem_ofNames]
      simp
  · rw [foldl_apply_view (fun r => r.filters.get? name) (HostCall.apply_filters name)]
    exact Option.or_none
  · rw [foldl_apply_view (fun r => r.tags.get? name) (HostCall.apply_tags name)]
    exact Option.or_none

end SchemaForge.Extension
