import SchemaForge.Template.Margins
import SchemaForge.Template.Reader

/-! Templates that are ready to render: their nodes, with the definitions and blocks found in them. -/

namespace SchemaForge.Template

structure Definition where
  parameters : List Parameter
  body : List Node
  deriving Inhabited

/-- A template by its name. There is no other template beside it. -/
structure Template where
  name : String
  nodes : List Node
  definitions : List (String × Definition)
  blocks : List (String × List Node)
  spaces : List String
  deriving Inhabited

inductive CompileError where
  | malformed
  | definedTwice (name : String)
  | blockTwice (name : String)
  | borrowsFrom (template missing : String)
  deriving DecidableEq, Repr, Inhabited

def CompileError.message : CompileError → String
  | .malformed => "Failed to parse the template"
  | .definedTwice name => s!"Macro `{name}` is duplicated"
  | .blockTwice name => s!"Block `{name}` is duplicated"
  | .borrowsFrom template missing =>
    s!"Template `{template}` loads macros from `{missing}` which isn't present in Tera"

mutual

def blocksOf : List Node → List (String × List Node)
  | [] => []
  | n :: rest => blocksOfNode n ++ blocksOf rest

def blocksOfNode : Node → List (String × List Node)
  | .region _ (.block name) body _ => (name, body) :: blocksOf body
  | _ => []

end

def definitionsOf (nodes : List Node) : List (String × Definition) :=
  nodes.filterMap fun n =>
    match n with
    | .region _ (.definition name parameters) body _ => some (name, ⟨parameters, body⟩)
    | _ => none

def borrowedOf (nodes : List Node) : List (String × String) :=
  nodes.filterMap fun n =>
    match n with
    | .tag _ (.borrow template space) => some (template, space)
    | _ => none

def repeated? : List String → Option String
  | [] => none
  | n :: rest => if rest.contains n then some n else repeated? rest

namespace Template

def compile (name source : String) : Except CompileError Template :=
  match Reader.read? source with
  | none => .error .malformed
  | some nodes =>
    let nodes := trimNodes false false nodes
    let definitions := definitionsOf nodes
    let blocks := blocksOf nodes
    match repeated? (blocks.map (·.1)), repeated? (definitions.map (·.1)) with
    | some block, _ => .error (.blockTwice block)
    | none, some definition => .error (.definedTwice definition)
    | none, none =>
      match (borrowedOf nodes).find? (·.1 != name) with
      | some (missing, _) => .error (.borrowsFrom name missing)
      | none =>
        let own := if definitions.isEmpty then [] else ["self"]
        .ok ⟨name, nodes, definitions, blocks, own ++ (borrowedOf nodes).map (·.2)⟩

end Template

end SchemaForge.Template
