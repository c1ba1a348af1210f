import SchemaForge.FilePath

/-! Names of artifacts: the data type's name, and behind a dot the extension that was configured or
that the template's name implies. -/

namespace SchemaForge.Artifact

/-- What a template's name ends in without saying anything about its artifacts. -/
def templateSuffix : List Char := ".tera".toList

def dropTemplateSuffix (name : String) : String :=
  let cs := name.toList
  if templateSuffix.isSuffixOf cs then
    String.ofList (cs.take (cs.length - templateSuffix.length))
  else name

def impliedExtension? (template : String) : Option String :=
  FilePath.extension? (dropTemplateSuffix template)

/-- A configured extension without its leading dots; nothing if nothing is left. -/
def configuredExtension? (configured : String) : Option String :=
  match configured.toList.dropWhile (· == '.') with
  | [] => none
  | cs => some (String.ofList cs)

def extension? (configured : Option String) (template : String) : Option String :=
  match configured with
  | some text => configuredExtension? text
  | none => impliedExtension? template

def name (dataType : String) : Option String → String
  | some ext => dataType ++ "." ++ ext
  | none => dataType

end SchemaForge.Artifact
