import SchemaForge.Template.Listing

/-! Why rendering fails, and what the failure is told as: one text for each thing that failed,
from the outermost to the innermost. -/

namespace SchemaForge.Template

inductive Failure where
  | unknown (path template : String)
  | unknownPlace (path template settled : String)
  | unsettled (path cause : String)
  | badIndex (inner path : String)
  | noFilter (name : String)
  | noFunction (name : String)
  | noTest (name : String)
  | noTemplate (names : List String)
  | noSpace (space template : String)
  | noDefinition (space name template : String)
  | noArgument (definition parameter : String)
  | noDefault
  | concatPath (path : String)
  | concatCall (function : String)
  | mathOnPath (path : String)
  | mathOnCall (function : String)
  | mathOnText (s : String)
  | mathOnBool (b : Bool)
  | mathOnConcat (parts : List Operand)
  | mathOnTest (name : String)
  | mathOnResult
  | mathOnOther
  | outOfBounds (lhs : Int) (op : String) (rhs : Int) (signed : Bool)
  | moduloByZero (lhs rhs : Expr)
  | orderOfNothing
  | conditionCall (function : String)
  | memberOfText (v : Json.Value)
  | memberOfObject (v : Json.Value)
  | memberOfOther
  | loopOver (source : Operand)
  | keysOfList (source : String)
  | keyMissing (source : String)
  | loopOverOther (source : String)
  | nothingReplaced
  | tooDeep
  /-- A failure that is told only by its outermost text. -/
  | shortened (text : String)
  | builtin (text : String)
  | callback (texts : List String)
  | inFilter (name : String) (cause : Failure)
  | inFunction (name : String) (cause : Failure)
  | inTest (name : String) (cause : Failure)
  | inTemplate (name : String) (definition : Option (String × String)) (cause : Failure)
  deriving Inhabited

namespace Failure

def placeText : Option (String × String) → String
  | some (space, name) => s!": error while rendering macro `{space}::{name}`"
  | none => ""

def texts : Failure → List String
  | .unknown path template =>
    [s!"Variable `{path}` not found in context while rendering '{template}'"]
  | .unknownPlace path template settled =>
    [s!"Variable `{path}` not found in context while rendering '{template}': the evaluated version was `{settled}`. Maybe the index is out of bounds?"]
  | .unsettled path cause => [s!"Variable {path} can not be evaluated because: {cause}"]
  | .badIndex inner path =>
    [s!"Only variables evaluating to String or Number can be used as index (`{inner}` of `{path}`)"]
  | .noFilter name => [s!"Filter '{name}' not found"]
  | .noFunction name => [s!"Function '{name}' not found"]
  | .noTest name => [s!"Test '{name}' not found"]
  | .noTemplate names => ["Template '[" ++ String.intercalate ", " names ++ "]' not found"]
  | .noSpace space template =>
    [s!"Macro namespace `{space}` was not found in template `{template}`. Have you maybe forgotten to import it, or misspelled it?"]
  | .noDefinition space name template =>
    [s!"Macro `{space}::{name}` not found in template `{template}`"]
  | .noArgument definition parameter =>
    [s!"Macro `{definition}` is missing the argument `{parameter}`"]
  | .noDefault => ["The `default` filter requires a `value` argument."]
  | .concatPath path =>
    [s!"Tried to concat a value that is not a string or a number from ident {path}"]
  | .concatCall function =>
    [s!"Tried to concat a value that is not a string or a number from function call {function}"]
  | .mathOnPath path =>
    [s!"Variable `{path}` was used in a math operation but is not a number"]
  | .mathOnCall function =>
    [s!"Function `{function}` was used in a math operation but is not returning a number"]
  | .mathOnText s => [s!"Tried to do math with a string: `{s}`"]
  | .mathOnBool b => ["Tried to do math with a boolean: `" ++ flagText b ++ "`"]
  | .mathOnConcat parts => ["Tried to do math with a string concatenation: " ++
      String.intercalate " ~ " (parts.map partText)]
  | .mathOnTest name => [s!"Tried to do math with a test: {name}"]
  | .mathOnResult => ["Tried to do math with an expression not resulting in a number"]
  | .mathOnOther => ["Tried to do math with an expression that has no number"]
  | .outOfBounds lhs op rhs signed =>
    let kind := if signed then "i64" else "u64"
    [s!"{lhs} {op} {rhs} results in an out of bounds {kind}"]
  | .moduloByZero lhs rhs =>
    ["Tried to do a modulo by zero: " ++ lhs.listed ++ "/" ++ rhs.listed]
  | .orderOfNothing => ["Comparison to NaN"]
  | .conditionCall function =>
    [s!"Function `{function}` was used in a logic operation but is not returning a bool"]
  | .memberOfText v =>
    ["Tried to check if " ++ listed v ++ " is in a string, but it isn't a string"]
  | .memberOfObject v =>
    ["Tried to check if " ++ listed v ++ " is in a object, but it isn't a string"]
  | .memberOfOther => ["The `in` operator only supports strings, arrays and objects."]
  | .loopOver source =>
    ["Forloop containers have to be an ident or a function call (tried to iterate on '" ++
      source.listed ++ "')"]
  | .keysOfList source =>
    [s!"Tried to iterate using key value on variable `{source}`, but it isn't an object/map"]
  | .keyMissing source =>
    [s!"Tried to iterate using key value on variable `{source}`, but it is missing a key"]
  | .loopOverOther source =>
    [s!"Tried to iterate on a container (`{source}`) that has a unsupported type"]
  | .nothingReplaced => ["Tried to use super() in the top level block"]
  | .tooDeep => ["The template is nested too deeply"]
  | .shortened text => [text]
  | .builtin text => [text]
  | .callback texts => texts
  | .inFilter name cause => s!"Filter call '{name}' failed" :: cause.texts
  | .inFunction name cause => s!"Function call '{name}' failed" :: cause.texts
  | .inTest name cause => s!"Test call '{name}' failed" :: cause.texts
  | .inTemplate name definition cause =>
    (s!"Failed to render '{name}'" ++ placeText definition) :: cause.texts

def message (f : Failure) : String := String.intercalate ": " f.texts

def headline (f : Failure) : String := f.texts.head?.getD ""

/-- Whether the call that failed has ended the program, and so has nothing to tell. -/
def ended : Failure → Bool
  | .callback texts => texts.isEmpty
  | .inFilter _ cause | .inFunction _ cause | .inTest _ cause | .inTemplate _ _ cause => cause.ended
  | _ => false

def shorten (f : Failure) : Failure := if f.ended then f else .shortened f.headline

end Failure

end SchemaForge.Template
