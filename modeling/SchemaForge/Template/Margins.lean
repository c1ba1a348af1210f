import SchemaForge.Template.Basic
import SchemaForge.Text.Blank

/-! Taking away the blanks around tags that ask for it. A text loses the blanks at an end where the
tag next to it asks; what stands for an empty loop is left as it is. -/

namespace SchemaForge.Template

open Text (trimLeft trimRight)

def Node.trimsBefore : Node → Bool
  | .text _ => false
  | .tag m _ => m.left
  | .verbatim first _ _ => first.left
  | .region first _ _ _ => first.left
  | .branch arms _ _ => (arms.head?.map fun a => a.margins.left).getD false
  | .replaced => false

def Node.trimsBehind : Node → Bool
  | .text _ => false
  | .tag m _ => m.right
  | .verbatim _ _ last => last.right
  | .region _ _ _ last => last.right
  | .branch _ _ last => last.right
  | .replaced => false

def trimEnds (left right : Bool) (s : String) : String :=
  let cs := if left then trimLeft s.toList else s.toList
  String.ofList (if right then trimRight cs else cs)

mutual

/-- Trim the texts of some nodes; `left` and `right` say what the tags around them ask for. -/
def trimNodes (left right : Bool) : List Node → List Node
  | [] => []
  | n :: rest =>
    let asked := match rest with
      | [] => right
      | next :: _ => next.trimsBefore
    trimNode left asked n :: trimNodes n.trimsBehind right rest

def trimNode (left right : Bool) : Node → Node
  | .text s => .text (trimEnds left right s)
  | .tag m t => .tag m t
  | .verbatim first s last => .verbatim first (trimEnds first.right last.left s) last
  | .region first r body last => .region first r (trimNodes first.right last.left body) last
  | .branch arms otherwise last =>
    match otherwise with
    | none => .branch (trimArms last.left arms) none last
    | some (m, body) =>
      .branch (trimArms m.left arms) (some (m, trimNodes m.right last.left body)) last
  | .replaced => .replaced

/-- Trim the bodies of the arms; `right` says what the tag behind the last one asks for. -/
def trimArms (right : Bool) : List Arm → List Arm
  | [] => []
  | .mk m condition body :: rest =>
    let asked := match rest with
      | [] => right
      | next :: _ => next.margins.left
    .mk m condition (trimNodes m.right asked body) :: trimArms right rest

end

end SchemaForge.Template
