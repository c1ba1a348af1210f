import SchemaForge.Proofs.Template.Alike
import SchemaForge.Proofs.Template.Sites

/-! One template with two sets of callbacks. Where each call goes alike in both, so does rendering as a
whole: by induction on the depth that is left, one lemma for each of the functions that render. The only
place where rendering goes on behind a failed call is a condition that is a variable; if such conditions
call nothing, they go alike under any link. -/

namespace SchemaForge.Template

open Render (Link Alike value)

variable {σ τ : Type}

def Setting.withCallbacks (st : Setting σ) (c : Callbacks τ) : Setting τ :=
  ⟨st.template, st.context, c, st.system⟩

def Callbacks.FilterAlike (L : Link σ τ) (c : Callbacks σ) (c' : Callbacks τ) (name : String) : Prop :=
  Option.Rel (fun f g => ∀ v args s t, L.going s t →
    (f s v args).2 = (g t v args).2 ∧ L.behind (f s v args).2 (f s v args).1 (g t v args).1)
    (c.filter? name) (c'.filter? name)

def Callbacks.FunctionAlike (L : Link σ τ) (c : Callbacks σ) (c' : Callbacks τ) (name : String) :
    Prop :=
  Option.Rel (fun f g => ∀ args s t, L.going s t →
    (f s args).2 = (g t args).2 ∧ L.behind (f s args).2 (f s args).1 (g t args).1)
    (c.function? name) (c'.function? name)

structure Callbacks.Alike (L : Link σ τ) (c : Callbacks σ) (c' : Callbacks τ) : Prop where
  filters : ∀ name, c.FilterAlike L c' name
  functions : ∀ name, c.FunctionAlike L c' name

namespace Render

structure Admits (L : Link σ τ) (st : Setting σ) (c' : Callbacks τ) (P : Site → Prop) : Prop where
  condition : ∀ e, P (.condition e) → e.isVariable = true →
    L.Tight ∨ ∀ n, Alike L.tight (value st n e) (value (st.withCallbacks c') n e)
  filter : ∀ name, P (.filter name) → st.callbacks.FilterAlike L c' name
  function : ∀ name, P (.function name) → st.callbacks.FunctionAlike L c' name
  elsewhere : P .elsewhere → ∀ s ∈ st.template.sites, P s

structure Lockstep (L : Link σ τ) (P : Site → Prop) (st : Setting σ) (st' : Setting τ) (n : Nat) :
    Prop where
  value : ∀ e, (∀ s ∈ e.sites, P s) → Alike L (value st n e) (value st' n e)
  operandValue : ∀ e, (∀ s ∈ e.sites, P s) → Alike L (operandValue st n e) (operandValue st' n e)
  defaultValue : ∀ e, (∀ s ∈ e.sites, P s) → Alike L (defaultValue st n e) (defaultValue st' n e)
  partValue : ∀ o, (∀ s ∈ o.sites, P s) → Alike L (partValue st n o) (partValue st' n o)
  argumentValues : ∀ args, (∀ s ∈ argsSites args, P s) →
    Alike L (argumentValues st n args) (argumentValues st' n args)
  applyFilters : ∀ v cs, (∀ s ∈ filtersSites cs, P s) →
    Alike L (applyFilters st n v cs) (applyFilters st' n v cs)
  applyFilter : ∀ v c, P (.filter c.name) → (∀ s ∈ c.sites, P s) →
    Alike L (applyFilter st n v c) (applyFilter st' n v c)
  callFunction : ∀ c, P (.function c.name) → (∀ s ∈ c.sites, P s) →
    Alike L (callFunction st n c) (callFunction st' n c)
  testResult : ∀ negated path name args, (∀ s ∈ exprsSites args, P s) →
    Alike L (testResult st n negated path name args) (testResult st' n negated path name args)
  membership : ∀ negated l r, (∀ s ∈ l.sites, P s) → (∀ s ∈ r.sites, P s) →
    Alike L (membership st n negated l r) (membership st' n negated l r)
  truth : ∀ e, P (.condition e) → (∀ s ∈ e.sites, P s) →
    Alike L (truth st n e) (truth st' n e)
  operandTruth : ∀ o negated, (∀ s ∈ o.sites, P s) →
    Alike L (operandTruth st n o negated) (operandTruth st' n o negated)
  numberOf : ∀ e, (∀ s ∈ e.sites, P s) → Alike L (numberOf st n e) (numberOf st' n e)
  operandNumber : ∀ o, (∀ s ∈ o.sites, P s) →
    Alike L (operandNumber st n o) (operandNumber st' n o)
  expand : ∀ space name args, P .elsewhere → (∀ s ∈ argsSites args, P s) →
    Alike L (expand st n space name args) (expand st' n space name args)
  nodes : ∀ done ns, (∀ s ∈ nodesSites ns, P s) →
    Alike L (nodes st n done ns) (nodes st' n done ns)
  node : ∀ x, (∀ s ∈ x.sites, P s) → Alike L (node st n x) (node st' n x)
  tag : ∀ t, (∀ s ∈ t.sites, P s) → Alike L (tag st n t) (tag st' n t)
  branch : ∀ arms otherwise, (∀ s ∈ armsSites arms, P s) →
    (∀ s ∈ elseSites otherwise, P s) →
    Alike L (branch st n arms otherwise) (branch st' n arms otherwise)

section Step

variable {L : Link σ τ} {P : Site → Prop} {st : Setting σ} {c' : Callbacks τ}

theorem find_alike (path : String) : Alike L (find st path) (find (st.withCallbacks c') path) := by
  intro p q standing linked
  rw [after_find, after_find, ← standing]
  refine ⟨rfl, rfl, ?_⟩
  show L.behind (findVariable st.template.name st.context p.scopes path) _ _
  cases findVariable st.template.name st.context p.scopes path with
  | ok v => exact linked
  | error e => exact L.loosens _ _ linked

/-- Looking a variable up touches nothing outside, so that a failure of it can be caught anywhere. -/
theorem outcome_find_alike (path : String) :
    Alike L (outcome (find st path)) (outcome (find (st.withCallbacks c') path)) :=
  ((find_alike path).outcome L.tight_tight).loosen

/-- Going on with a filter that is found goes alike if it does with any filters that go alike. -/
theorem filterOf_alike {α : Type} {name : String} (known : st.callbacks.FilterAlike L c' name)
    {k : (Json.Value → Args → Eval σ Json.Value) → Eval σ α}
    {k' : (Json.Value → Args → Eval τ Json.Value) → Eval τ α}
    (h : ∀ f f', (∀ v args, Alike L (f v args) (f' v args)) → Alike L (k f) (k' f')) :
    Alike L (filterOf st name >>= k) (filterOf (st.withCallbacks c') name >>= k') := by
  unfold Callbacks.FilterAlike at known
  unfold filterOf
  dsimp only [Setting.withCallbacks]
  generalize st.callbacks.filter? name = f at known
  generalize c'.filter? name = g at known
  cases known with
  | some step => exact h _ _ fun v args => .callOut fun s t linked => step v args s t linked
  | none =>
    cases builtinFilters.lookup name with
    | some f => exact h _ _ fun v args => .ofUse (f v args)
    | none => exact .throw (.noFilter name)

theorem told_alike (t : Told) : Alike L (told st t) (told (st.withCallbacks c') t) := by
  cases t with
  | value v => exact .ofUse v
  | environment name next => exact .ofUse _
  | answer r next =>
    intro p q standing linked
    have asked : (after (told (st.withCallbacks c') (.answer r next)) q) =
        after (ofUse (next (st.system.answer p.asked r)))
          { q with asked := r :: q.asked } := by
      rw [standing]
      rfl
    rw [asked]
    exact Alike.ofUse (next (st.system.answer p.asked r)) { p with asked := r :: p.asked }
      { q with asked := r :: q.asked } (congrArg (fun s : Standing => { s with asked := r :: s.asked })
      standing) linked

theorem functionOf_alike {α : Type} {name : String} (known : st.callbacks.FunctionAlike L c' name)
    {k : (Args → Eval σ Json.Value) → Eval σ α} {k' : (Args → Eval τ Json.Value) → Eval τ α}
    (h : ∀ f f', (∀ args, Alike L (f args) (f' args)) → Alike L (k f) (k' f')) :
    Alike L (functionOf st name >>= k) (functionOf (st.withCallbacks c') name >>= k') := by
  unfold Callbacks.FunctionAlike at known
  unfold functionOf
  dsimp only [Setting.withCallbacks]
  generalize st.callbacks.function? name = f at known
  generalize c'.function? name = g at known
  cases known with
  | some step => exact h _ _ fun args => .callOut fun s t linked => step args s t linked
  | none =>
    cases builtinFunctions.lookup name with
    | some f => exact h _ _ fun args => told_alike (f args)
    | none => exact .throw (.noFunction name)

theorem testOf_alike {α : Type} (name : String)
    {k : (Option Json.Value → List Json.Value → Eval σ Bool) → Eval σ α}
    {k' : (Option Json.Value → List Json.Value → Eval τ Bool) → Eval τ α}
    (h : ∀ f f', (∀ v args, Alike L (f v args) (f' v args)) → Alike L (k f) (k' f')) :
    Alike L (testOf name >>= k) (testOf name >>= k') := by
  unfold testOf
  cases builtinTests.lookup name with
  | some t => exact h _ _ fun v args => .ofUse (t v args)
  | none => exact .throw (.noTest name)

theorem admitted_exprs {es : List Expr} (h : ∀ s ∈ exprsSites es, P s) :
    ∀ e ∈ es, ∀ s ∈ e.sites, P s := by
  induction es with
  | nil => simp
  | cons e es ih =>
    simp only [exprsSites, List.forall_mem_append] at h
    simpa only [List.forall_mem_cons] using ⟨h.1, ih h.2⟩

theorem admitted_operands {os : List Operand} (h : ∀ s ∈ operandsSites os, P s) :
    ∀ o ∈ os, ∀ s ∈ o.sites, P s := by
  induction os with
  | nil => simp
  | cons o os ih =>
    simp only [operandsSites, List.forall_mem_append] at h
    simpa only [List.forall_mem_cons] using ⟨h.1, ih h.2⟩

theorem admitted_args {args : List (String × Expr)} (h : ∀ s ∈ argsSites args, P s) :
    ∀ a ∈ args, ∀ s ∈ a.2.sites, P s := by
  induction args with
  | nil => simp
  | cons a args ih =>
    simp only [argsSites, List.forall_mem_append] at h
    simpa only [List.forall_mem_cons] using ⟨h.1, ih h.2⟩

theorem admitted_of_mem {γ : Type} {f : γ → List Site} {items : List γ}
    (h : ∀ s ∈ items.flatMap f, P s) {a : γ} (ha : a ∈ items) : ∀ s ∈ f a, P s :=
  fun c hc => h c (List.mem_flatMap.mpr ⟨a, ha, hc⟩)

theorem mem_of_lookup {γ : Type} {items : List (String × γ)} {name : String} {a : γ}
    (h : items.lookup name = some a) : (name, a) ∈ items := by
  obtain ⟨before, after, rfl, -⟩ := List.lookup_eq_some_iff.mp h
  simp

end Step

section Functions

variable {L : Link σ τ} {P : Site → Prop} {st : Setting σ} {c' : Callbacks τ} {n : Nat}
  (ih : Lockstep L P st (st.withCallbacks c') n)
include ih

theorem value_alike (e : Expr) (h : ∀ s ∈ e.sites, P s) :
    Alike L (value st (n + 1) e) (value (st.withCallbacks c') (n + 1) e) := by
  have hfilters : ∀ s ∈ filtersSites e.filters, P s := by
    obtain ⟨operand, negated, filters⟩ := e
    exact (List.forall_mem_append.mp h).2
  simp only [value]
  refine (ih.operandValue e h).bind fun found => ?_
  cases found with
  | none => exact .pure _
  | some v => exact (ih.applyFilters v e.filters hfilters).bind fun v => .pure _

theorem operandValue_alike (e : Expr) (h : ∀ s ∈ e.sites, P s) :
    Alike L (operandValue st (n + 1) e) (operandValue (st.withCallbacks c') (n + 1) e) := by
  obtain ⟨operand, negated, filters⟩ := e
  have inner : ∀ s ∈ operand.sites, P s := (List.forall_mem_append.mp h).1
  simp only [operandValue, Expr.operand, Expr.negated]
  cases operand with
  | path p =>
    refine (outcome_find_alike p).bind fun found => ?_
    split
    · split
      · exact (ih.defaultValue _ h).map
      · exact .pure _
    · exact .pure _
    · split
      · exact (ih.defaultValue _ h).map
      · cases negated with
        | true => exact .pure none
        | false => exact .throw _
  | string s => exact .pure _
  | int i => exact .pure _
  | float x => exact .pure _
  | bool b => exact .pure _
  | array items =>
    refine (Alike.mapM fun e he => ih.value e (admitted_exprs inner e he)).bind fun vs => ?_
    exact .pure _
  | concat parts =>
    have part (o) (ho : o ∈ parts) := ih.partValue o (admitted_operands inner o ho)
    exact (Alike.mapM part).bind fun texts => .pure _
  | member negated l r =>
    have both := List.forall_mem_append.mp inner
    exact (ih.membership negated l r both.1 both.2).bind fun b => .pure _
  | call c =>
    have both := List.forall_mem_cons.mp inner
    exact (ih.callFunction c both.1 both.2).bind fun v => .pure _
  | expand space name args =>
    have both := List.forall_mem_cons.mp inner
    exact (ih.expand space name args both.1 both.2).bind fun s => .pure _
  | test negated path name args =>
    exact (ih.testResult negated path name args inner).bind fun b => .pure _
  | math op l r =>
    refine (ih.operandNumber (.math op l r) inner).rethrow (fun found => ?_) fun e =>
      ⟨_, rfl, rfl⟩
    cases found <;> exact .pure _
  | order op l r =>
    exact (ih.operandTruth (.order op l r) negated inner).bind fun b => .pure _
  | equal wanted l r =>
    exact (ih.operandTruth (.equal wanted l r) negated inner).bind fun b => .pure _
  | logic op l r =>
    exact (ih.operandTruth (.logic op l r) negated inner).bind fun b => .pure _

theorem defaultValue_alike (e : Expr) (h : ∀ s ∈ e.sites, P s) :
    Alike L (defaultValue st (n + 1) e) (defaultValue (st.withCallbacks c') (n + 1) e) := by
  obtain ⟨operand, negated, filters⟩ := e
  simp only [defaultValue, Expr.filters]
  cases filters with
  | nil => exact .throw .noDefault
  | cons c rest =>
    obtain ⟨name, args⟩ := c
    have hcalls := (List.forall_mem_cons.mp (List.forall_mem_append.mp h).2).2
    have hargs : ∀ s ∈ argsSites args, P s := (List.forall_mem_append.mp hcalls).1
    simp only [List.head?_cons, Option.map_some, Option.bind_some, Call.args]
    cases hd : args.lookup "value" with
    | none => exact .throw .noDefault
    | some d => exact ih.value d (admitted_args hargs ("value", d) (mem_of_lookup hd))

theorem partValue_alike (o : Operand) (h : ∀ s ∈ o.sites, P s) :
    Alike L (partValue st (n + 1) o) (partValue (st.withCallbacks c') (n + 1) o) := by
  simp only [partValue]
  cases o with
  | string s => exact .pure s
  | int i => exact .pure _
  | float x => exact .pure _
  | path p =>
    refine (find_alike p).bind fun v => ?_
    cases concatText? v with
    | some s => exact .pure s
    | none => exact .throw (.concatPath p)
  | call c =>
    have both := List.forall_mem_cons.mp h
    refine (ih.callFunction c both.1 both.2).bind fun v => ?_
    cases concatText? v with
    | some s => exact .pure s
    | none => exact .throw (.concatCall c.name)
  | _ => exact .throw .mathOnOther

theorem argumentValues_alike (args : List (String × Expr)) (h : ∀ s ∈ argsSites args, P s) :
    Alike L (argumentValues st (n + 1) args)
      (argumentValues (st.withCallbacks c') (n + 1) args) := by
  simp only [argumentValues]
  exact .mapM fun a ha => (ih.value a.2 (admitted_args h a ha)).bind fun v => .pure (a.1, v)

theorem applyFilters_alike (v : Json.Value) (cs : List Call) (h : ∀ s ∈ filtersSites cs, P s) :
    Alike L (applyFilters st (n + 1) v cs) (applyFilters (st.withCallbacks c') (n + 1) v cs) := by
  cases cs with
  | nil =>
    simp only [applyFilters]
    exact .pure v
  | cons c rest =>
    obtain ⟨hname, h⟩ := List.forall_mem_cons.mp h
    obtain ⟨hcall, hrest⟩ := List.forall_mem_append.mp h
    simp only [applyFilters]
    split
    · exact (Alike.pure v).bind fun v => ih.applyFilters v rest hrest
    · exact (ih.applyFilter v c hname hcall).bind fun v => ih.applyFilters v rest hrest

theorem applyFilter_alike (admits : Admits L st c' P) (v : Json.Value) (c : Call)
    (hname : P (.filter c.name)) (h : ∀ s ∈ c.sites, P s) :
    Alike L (applyFilter st (n + 1) v c) (applyFilter (st.withCallbacks c') (n + 1) v c) := by
  obtain ⟨name, args⟩ := c
  simp only [applyFilter, Call.name, Call.args]
  refine filterOf_alike (admits.filter name hname) fun f f' hf => ?_
  refine ((ih.argumentValues args h).inside _).bind fun args => ?_
  exact (hf v args).inside _

theorem callFunction_alike (admits : Admits L st c' P) (c : Call) (hname : P (.function c.name))
    (h : ∀ s ∈ c.sites, P s) :
    Alike L (callFunction st (n + 1) c) (callFunction (st.withCallbacks c') (n + 1) c) := by
  obtain ⟨name, args⟩ := c
  simp only [callFunction, Call.name, Call.args]
  refine functionOf_alike (admits.function name hname) fun f f' hf => ?_
  refine ((ih.argumentValues args h).inside _).bind fun args => ?_
  exact (hf args).inside _

theorem testResult_alike (negated : Bool) (path name : String) (args : List Expr)
    (h : ∀ s ∈ exprsSites args, P s) :
    Alike L (testResult st (n + 1) negated path name args)
      (testResult (st.withCallbacks c') (n + 1) negated path name args) := by
  simp only [testResult]
  refine testOf_alike name fun test test' htest => ?_
  refine ((Alike.mapM fun e he => ih.value e (admitted_exprs h e he)).inside _).bind fun vs => ?_
  refine (outcome_find_alike path).bind fun v => ?_
  exact ((htest v.toOption vs).inside _).bind fun b => .pure _

theorem membership_alike (negated : Bool) (l r : Expr) (hl : ∀ s ∈ l.sites, P s)
    (hr : ∀ s ∈ r.sites, P s) :
    Alike L (membership st (n + 1) negated l r)
      (membership (st.withCallbacks c') (n + 1) negated l r) := by
  simp only [membership]
  refine (ih.value l hl).bind fun v => (ih.value r hr).bind fun container => ?_
  exact (Alike.ofExcept _).bind fun b => .pure _

theorem truth_alike (admits : Admits L st c' P) (e : Expr) (hself : P (.condition e))
    (h : ∀ s ∈ e.sites, P s) :
    Alike L (truth st (n + 1) e) (truth (st.withCallbacks c') (n + 1) e) := by
  have inner : ∀ s ∈ e.operand.sites, P s := by
    obtain ⟨operand, negated, filters⟩ := e
    exact (List.forall_mem_append.mp h).1
  have plain (o : Operand) (ho : e.operand = o) :
      Alike L (operandTruth st n o e.negated) (operandTruth (st.withCallbacks c') n o e.negated) :=
    ih.operandTruth o e.negated (ho ▸ inner)
  simp only [truth]
  cases hoperand : e.operand with
  | path p =>
    -- What the condition comes to is looked at also where it fails.
    have caught : Alike L (outcome (value st n e)) (outcome (value (st.withCallbacks c') n e)) := by
      have hvar : e.isVariable = true := by simp only [Expr.isVariable, hoperand]
      rcases admits.condition e hself hvar with tight | silent
      · exact (ih.value e h).outcome tight
      · exact ((silent n).outcome L.tight_tight).loosen
    refine caught.bind fun found => ?_
    cases found with
    | ok v => exact .pure _
    | error failure =>
      dsimp only
      cases failure.ended with
      | true => exact .throw failure
      | false => exact .pure _
  | concat parts =>
    refine (ih.value e h).bind fun v => ?_
    cases v <;> exact .pure _
  | _ => exact plain _ hoperand

theorem operandTruth_alike (o : Operand) (negated : Bool) (h : ∀ s ∈ o.sites, P s) :
    Alike L (operandTruth st (n + 1) o negated)
      (operandTruth (st.withCallbacks c') (n + 1) o negated) := by
  simp only [operandTruth]
  cases o with
  | logic op l r =>
    obtain ⟨hl, hr⟩ := List.forall_mem_cons.mp h
    obtain ⟨hr, hrest⟩ := List.forall_mem_cons.mp hr
    obtain ⟨hls, hrs⟩ := List.forall_mem_append.mp hrest
    refine (ih.truth l hl hls).bind fun b => ?_
    have second := ih.truth r hr hrs
    cases op <;> cases b <;> first
      | exact second.bind fun b => .pure _
      | exact (Alike.pure _).bind fun b => .pure _
  | order op l r =>
    have both := List.forall_mem_append.mp h
    refine (ih.numberOf l both.1).bind fun x => (ih.numberOf r both.2).bind fun y => ?_
    cases x <;> cases y <;> first
      | exact .pure _
      | exact .throw .orderOfNothing
  | equal wanted l r =>
    have both := List.forall_mem_append.mp h
    refine (ih.value l both.1).bind fun v => (ih.value r both.2).bind fun w => ?_
    cases equalAs wanted v w <;> exact .pure _
  | member inverse l r =>
    have both := List.forall_mem_append.mp h
    exact (ih.membership inverse l r both.1 both.2).bind fun b => .pure _
  | test inverse path name args =>
    exact (ih.testResult inverse path name args h).bind fun b => .pure _
  | bool b => exact .pure _
  | string s => exact .pure _
  | call c =>
    have both := List.forall_mem_cons.mp h
    refine (ih.callFunction c both.1 both.2).bind fun v => ?_
    cases v with
    | bool b => exact .pure _
    | _ => exact .throw (.conditionCall c.name)
  | expand space name args =>
    have both := List.forall_mem_cons.mp h
    exact (ih.expand space name args both.1 both.2).bind fun s => .pure _
  | math | int | float =>
    refine (ih.operandNumber _ h).bind fun found => ?_
    cases found <;> exact .pure _
  | _ => exact .throw .mathOnOther

theorem numberOf_alike (e : Expr) (h : ∀ s ∈ e.sites, P s) :
    Alike L (numberOf st (n + 1) e) (numberOf (st.withCallbacks c') (n + 1) e) := by
  have inner : ∀ s ∈ e.operand.sites, P s := by
    obtain ⟨operand, negated, filters⟩ := e
    exact (List.forall_mem_append.mp h).1
  simp only [numberOf]
  split
  · exact ih.operandNumber e.operand inner
  · refine (ih.value e h).bind fun v => ?_
    cases numberOf? v with
    | some x => exact .pure _
    | none => exact .throw .mathOnResult

theorem operandNumber_alike (o : Operand) (h : ∀ s ∈ o.sites, P s) :
    Alike L (operandNumber st (n + 1) o) (operandNumber (st.withCallbacks c') (n + 1) o) := by
  simp only [operandNumber]
  cases o with
  | int i => exact .pure _
  | float x => exact .pure _
  | path p =>
    refine (find_alike p).bind fun v => ?_
    cases numberOf? v with
    | some x => exact .pure _
    | none => exact .throw (.mathOnPath p)
  | math op l r =>
    have both := List.forall_mem_append.mp h
    refine (ih.numberOf l both.1).bind fun x => (ih.numberOf r both.2).bind fun y => ?_
    cases x <;> cases y <;> first
      | exact .ofExcept _
      | exact .pure _
  | call c =>
    have both := List.forall_mem_cons.mp h
    refine (ih.callFunction c both.1 both.2).bind fun v => ?_
    cases numberOf? v with
    | some x => exact .pure _
    | none => exact .throw (.mathOnCall c.name)
  | string s => exact .throw (.mathOnText s)
  | bool b => exact .throw (.mathOnBool b)
  | concat parts => exact .throw (.mathOnConcat parts)
  | test negated path name args => exact .throw (.mathOnTest name)
  | _ => exact .throw .mathOnOther

theorem expand_alike (admits : Admits L st c' P) (space name : String)
    (args : List (String × Expr)) (hself : P .elsewhere) (h : ∀ s ∈ argsSites args, P s) :
    Alike L (expand st (n + 1) space name args)
      (expand (st.withCallbacks c') (n + 1) space name args) := by
  have whole := (List.forall_mem_append.mp (admits.elsewhere hself)).1
  have definitions := (List.forall_mem_append.mp whole).2
  simp only [expand, Setting.withCallbacks]
  refine .ite (fun _ => .throw_bind _ _ _) fun _ => ?_
  cases hd : st.template.definitions.lookup name with
  | none => exact .throw _
  | some d =>
    have known := admitted_of_mem definitions (mem_of_lookup hd)
    obtain ⟨hparameters, hbody⟩ := List.forall_mem_append.mp known
    refine (Alike.mapM fun p hp => ?_).bind fun names => ?_
    · have hdefault := admitted_of_mem hparameters hp
      unfold Parameter.sites at hdefault
      cases hgiven : args.lookup p.name with
      | some e =>
        exact (ih.value e (admitted_args h _ (mem_of_lookup hgiven))).bind fun v => .pure _
      | none =>
        cases hp : p.default? with
        | some o =>
          rw [hp] at hdefault
          have hplain : ∀ s ∈ (Expr.plain o).sites, P s :=
            List.forall_mem_append.mpr ⟨hdefault, nofun⟩
          exact (ih.value (.plain o) hplain).bind fun v => .pure _
        | none => exact .throw_bind _ _ _
    · exact (Alike.push _).bind fun _ => (ih.nodes "" d.body hbody).bind fun result =>
        Alike.pop.bind fun _ => .pure _

theorem nodes_alike (done : String) (ns : List Node) (h : ∀ s ∈ nodesSites ns, P s) :
    Alike L (nodes st (n + 1) done ns) (nodes (st.withCallbacks c') (n + 1) done ns) := by
  cases ns with
  | nil =>
    simp only [nodes]
    exact .pure _
  | cons x rest =>
    have both := List.forall_mem_append.mp h
    simp only [nodes]
    refine (ih.node x both.1).bind fun result => ?_
    obtain ⟨s, flow⟩ := result
    cases flow with
    | on => exact ih.nodes (done ++ s) rest both.2
    | nextItem => exact .pure _
    | leaveLoop => exact .pure _

theorem node_alike (admits : Admits L st c' P) (x : Node) (h : ∀ s ∈ x.sites, P s) :
    Alike L (node st (n + 1) x) (node (st.withCallbacks c') (n + 1) x) := by
  simp only [node, Setting.withCallbacks]
  cases x with
  | text s => exact .pure _
  | verbatim first s last => exact .pure _
  | replaced => exact .throw .nothingReplaced
  | tag m t => exact ih.tag t h
  | branch arms otherwise last =>
    have both := List.forall_mem_append.mp h
    exact ih.branch arms otherwise both.1 both.2
  | region first r body last =>
    obtain ⟨hregion, hbody⟩ := List.forall_mem_append.mp h
    cases r with
    | definition name parameters => exact .pure _
    | block name =>
      have elsewhere := admits.elsewhere (List.forall_mem_singleton.mp hregion)
      have blocks := (List.forall_mem_append.mp elsewhere).2
      refine ih.nodes "" _ ?_
      cases hb : st.template.blocks.lookup name with
      | none => exact hbody
      | some own => exact admitted_of_mem blocks (mem_of_lookup hb)
    | filtered f =>
      have both := List.forall_mem_cons.mp hregion
      refine (ih.nodes "" body hbody).bind fun result => ?_
      refine .ite (fun _ => .pure _) fun _ => ?_
      exact (ih.applyFilter _ f both.1 both.2).bind fun v => .pure _
    | loop key name source empty =>
      obtain ⟨hsource, hempty⟩ := List.forall_mem_append.mp hregion
      refine (Alike.ofExcept _).bind fun sourceText => (ih.value source hsource).bind fun v => ?_
      refine (Alike.ofExcept _).bind fun items => ?_
      split
      · exact ih.nodes "" _ hempty
      · exact ((ih.nodes "" body hbody).rounds 0 "" items).bind fun s => .pure _

theorem tag_alike (admits : Admits L st c' P) (t : Tag) (h : ∀ s ∈ t.sites, P s) :
    Alike L (tag st (n + 1) t) (tag (st.withCallbacks c') (n + 1) t) := by
  simp only [tag, Setting.withCallbacks]
  cases t with
  | comment => exact .pure _
  | borrow template space => exact .pure _
  | leaveLoop => exact .pure _
  | nextItem => exact .pure _
  | output e => exact (ih.value e h).bind fun v => .pure _
  | assign name e outside =>
    exact (ih.value e h).bind fun v => (Alike.withScopes _).bind fun _ => .pure _
  | insert names optional =>
    have elsewhere := admits.elsewhere (List.forall_mem_singleton.mp h)
    have whole := (List.forall_mem_append.mp (List.forall_mem_append.mp elsewhere).1).1
    refine .ite (fun _ => ?_) fun _ => .ite (fun _ => .pure _) fun _ => .throw _
    exact (Alike.push _).bind fun _ => (ih.nodes "" _ whole).bind fun result =>
      Alike.pop.bind fun _ => .pure _

theorem branch_alike (arms : List Arm) (otherwise : Option (Margins × List Node))
    (harms : ∀ s ∈ armsSites arms, P s)
    (hotherwise : ∀ s ∈ elseSites otherwise, P s) :
    Alike L (branch st (n + 1) arms otherwise)
      (branch (st.withCallbacks c') (n + 1) arms otherwise) := by
  cases arms with
  | nil =>
    simp only [branch]
    cases otherwise with
    | none => exact .pure _
    | some last => exact ih.nodes "" last.2 hotherwise
  | cons arm rest =>
    obtain ⟨m, condition, body⟩ := arm
    obtain ⟨hself, hinner⟩ := List.forall_mem_cons.mp harms
    obtain ⟨hinner, hrest⟩ := List.forall_mem_append.mp hinner
    obtain ⟨hcondition, hbody⟩ := List.forall_mem_append.mp hinner
    simp only [branch, Arm.condition, Arm.body]
    refine (ih.truth condition hself hcondition).bind fun b => ?_
    exact .ite (fun _ => ih.nodes "" body hbody) fun _ => ih.branch rest otherwise hrest hotherwise

end Functions

theorem lockstep {L : Link σ τ} {P : Site → Prop} {st : Setting σ} {c' : Callbacks τ}
    (admits : Admits L st c' P) (n : Nat) : Lockstep L P st (st.withCallbacks c') n := by
  induction n with
  | zero => constructor <;> intros <;> exact .throw .tooDeep
  | succ n ih =>
    exact {
      value := value_alike ih
      operandValue := operandValue_alike ih
      defaultValue := defaultValue_alike ih
      partValue := partValue_alike ih
      argumentValues := argumentValues_alike ih
      applyFilters := applyFilters_alike ih
      applyFilter := applyFilter_alike ih admits
      callFunction := callFunction_alike ih admits
      testResult := testResult_alike ih
      membership := membership_alike ih
      truth := truth_alike ih admits
      operandTruth := operandTruth_alike ih
      numberOf := numberOf_alike ih
      operandNumber := operandNumber_alike ih
      expand := expand_alike ih admits
      nodes := nodes_alike ih
      node := node_alike ih admits
      tag := tag_alike ih admits
      branch := branch_alike ih }

section Silence

variable {L : Link σ τ} {st : Setting σ} {c' : Callbacks τ} (calls : st.callbacks.Alike L c')
include calls

theorem admits_silent : Admits L.tight st c' st.callbacks.Silent where
  condition _ _ _ := .inl L.tight_tight
  filter name silent := by
    have known := calls.filters name
    unfold Callbacks.FilterAlike at known ⊢
    rw [show st.callbacks.filter? name = none from silent] at known ⊢
    generalize c'.filter? name = g at known ⊢
    cases known
    exact .none
  function name silent := by
    have known := calls.functions name
    unfold Callbacks.FunctionAlike at known ⊢
    rw [show st.callbacks.function? name = none from silent] at known ⊢
    generalize c'.function? name = g at known ⊢
    cases known
    exact .none
  elsewhere := False.elim

/-- A template is admitted if the link is tight or what it catches calls nothing. -/
theorem admits_template (safe : L.Tight ∨ st.template.SilentConditions st.callbacks) :
    Admits L st c' (· ∈ st.template.sites) where
  condition e he hvar := safe.imp_right fun silent n =>
    (lockstep (admits_silent calls) n).value e (silent e he hvar)
  filter name _ := calls.filters name
  function name _ := calls.functions name
  elsewhere _ _ hs := hs

end Silence

end Render

/-- Rendering a whole template goes alike: it comes to the same, and leaves linked states behind. -/
theorem render_alike {L : Link σ τ} {st : Setting σ} {c' : Callbacks τ}
    (calls : st.callbacks.Alike L c')
    (safe : L.Tight ∨ st.template.SilentConditions st.callbacks) {s : σ} {t : τ}
    (linked : L.going s t) :
    (render st s).2 = (render (st.withCallbacks c') t).2 ∧
      L.behind (render st s).2 (render st s).1 (render (st.withCallbacks c') t).1 := by
  have whole : ∀ s ∈ nodesSites st.template.nodes, s ∈ st.template.sites := fun s hs =>
    List.mem_append_left _ (List.mem_append_left _ hs)
  have ends := (Render.lockstep (Render.admits_template calls safe) depthLimit).nodes ""
    st.template.nodes whole ⟨⟨[⟨.template, []⟩], []⟩, s⟩ ⟨⟨[⟨.template, []⟩], []⟩, t⟩ rfl linked
  have template : (st.withCallbacks c').template = st.template := rfl
  unfold render
  rw [template]
  dsimp only
  generalize hu : (Render.nodes st depthLimit "" st.template.nodes).run.run _ = u
  generalize hv : (Render.nodes (st.withCallbacks c') depthLimit "" st.template.nodes).run.run _ = v
  rw [Render.after, Render.after, hu, hv] at ends
  obtain ⟨r, p⟩ := u
  obtain ⟨r', q⟩ := v
  obtain ⟨rfl, standing, behind⟩ := ends
  cases r with
  | ok result => exact ⟨rfl, behind⟩
  | error e =>
    dsimp only
    rw [standing]
    exact ⟨rfl, behind⟩

end SchemaForge.Template
