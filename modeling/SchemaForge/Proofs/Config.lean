import SchemaForge.CommandLine.Arguments
import SchemaForge.Proofs.Text.Blank

/-! Settings in layers. Each setting is that of the highest layer which provides one, whatever the layers
provide for the other settings: the flags first, then the environment, the project's file and the user's
file. A file that cannot be read as settings provides none at all; a text of the environment that says
neither truth value leaves the files in force. -/

namespace SchemaForge.Config

open Json (Value)

attribute [ext] Config

/-- A setting that a layer decides on if it provides one, and that it leaves to the layers below otherwise. -/
structure Layered {α : Type} (setting : Config → Option α) : Prop where
  empty : setting Config.empty = none
  onto : ∀ top below, setting (top.onto below) = (setting top).or (setting below)

def stack (layers : List Config) : Config := layers.foldr onto empty

theorem Layered.stack {α : Type} {setting : Config → Option α} (h : Layered setting)
    (layers : List Config) : setting (stack layers) = (layers.map setting).findSome? id := by
  induction layers with
  | nil => exact h.empty
  | cons top layers ih =>
    have step : Config.stack (top :: layers) = top.onto (Config.stack layers) := rfl
    rw [step, h.onto, ih, List.map_cons, List.findSome?_cons]
    cases setting top <;> rfl

def words : Bool → List String
  | true => ["1", "true", "yes", "on"]
  | false => ["0", "false", "no", "off"]

/-- What is read from a text that may not be there. An unreadable text gives nothing. -/
inductive Gives {α : Type} (reads : String → α → Prop) : Option String → Option α → Prop
  | absent : Gives reads none none
  | read {text : String} {a : α} (h : reads text a) : Gives reads (some text) (some a)
  | unreadable {text : String} (h : ∀ a, ¬reads text a) : Gives reads (some text) none

theorem Layered.ofFile {α : Type} {setting : Config → Option α} (h : Layered setting)
    (text : Option String) : setting (Config.ofFile text) = (text.bind ofText?).bind setting := by
  rw [Config.ofFile]
  cases text.bind ofText? with
  | none => exact h.empty
  | some c => rfl

end SchemaForge.Config
