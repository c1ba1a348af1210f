import SchemaForge.Template.Render

/-! The sites of a template: where rendering can call out, where it goes on with another part of the
template, and its conditions. A condition is what stands behind `if` and `elif`, and what `and` and `or`
join; one that is a variable is told from all others, since it counts as false where it fails. -/

namespace SchemaForge.Template

inductive Site where
  | condition (e : Expr)
  | filter (name : String)
  | function (name : String)
  | elsewhere

def Expr.isVariable (e : Expr) : Bool :=
  match e.operand with
  | .path _ => true
  | _ => false

mutual

def Expr.sites : Expr → List Site
  | .mk operand _ filters => operand.sites ++ filtersSites filters

def Operand.sites : Operand → List Site
  | .string _ | .int _ | .float _ | .bool _ | .path _ => []
  | .math _ l r => l.sites ++ r.sites
  | .order _ l r => l.sites ++ r.sites
  | .equal _ l r => l.sites ++ r.sites
  | .logic _ l r => .condition l :: .condition r :: (l.sites ++ r.sites)
  | .member _ l r => l.sites ++ r.sites
  | .test _ _ _ args => exprsSites args
  | .call c => .function c.name :: c.sites
  | .expand _ _ args => .elsewhere :: argsSites args
  | .concat parts => operandsSites parts
  | .array items => exprsSites items

def Call.sites : Call → List Site
  | .mk _ args => argsSites args

def filtersSites : List Call → List Site
  | [] => []
  | c :: rest => .filter c.name :: (c.sites ++ filtersSites rest)

def exprsSites : List Expr → List Site
  | [] => []
  | e :: rest => e.sites ++ exprsSites rest

def operandsSites : List Operand → List Site
  | [] => []
  | o :: rest => o.sites ++ operandsSites rest

def argsSites : List (String × Expr) → List Site
  | [] => []
  | (_, e) :: rest => e.sites ++ argsSites rest

end

def Tag.sites : Tag → List Site
  | .output e => e.sites
  | .assign _ e _ => e.sites
  | .insert .. => [.elsewhere]
  | _ => []

def Parameter.sites (p : Parameter) : List Site :=
  match p.default? with
  | some o => o.sites
  | none => []

mutual

def nodesSites : List Node → List Site
  | [] => []
  | n :: rest => n.sites ++ nodesSites rest

def Node.sites : Node → List Site
  | .text _ | .verbatim .. | .replaced => []
  | .tag _ t => t.sites
  | .region _ r body _ => r.sites ++ nodesSites body
  | .branch arms otherwise _ => armsSites arms ++ elseSites otherwise

def Region.sites : Region → List Site
  | .loop _ _ source empty => source.sites ++ emptySites empty
  | .definition .. => []
  | .filtered f => .filter f.name :: f.sites
  | .block _ => [.elsewhere]

def armsSites : List Arm → List Site
  | [] => []
  | .mk _ condition body :: rest =>
    .condition condition :: (condition.sites ++ nodesSites body ++ armsSites rest)

def elseSites : Option (Margins × List Node) → List Site
  | none => []
  | some (_, body) => nodesSites body

def emptySites : Option (List Node) → List Site
  | none => []
  | some body => nodesSites body

end

def Definition.sites (d : Definition) : List Site :=
  d.parameters.flatMap Parameter.sites ++ nodesSites d.body

def Template.sites (t : Template) : List Site :=
  nodesSites t.nodes ++ t.definitions.flatMap (·.2.sites) ++
    t.blocks.flatMap fun b => nodesSites b.2

def Callbacks.Silent {σ : Type} (c : Callbacks σ) : Site → Prop
  | .condition _ => True
  | .filter name => c.filter? name = none
  | .function name => c.function? name = none
  | .elsewhere => False

/-- No condition that is a variable calls out. -/
def Template.SilentConditions {σ : Type} (t : Template) (c : Callbacks σ) : Prop :=
  ∀ e, .condition e ∈ t.sites → e.isVariable = true → ∀ s ∈ e.sites, c.Silent s

end SchemaForge.Template
