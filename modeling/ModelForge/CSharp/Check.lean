import ModelForge.Identifier
import ModelForge.Model.Check
import ModelForge.Settings.Basic

/-! Warnings about names that C# does not take as they are. -/

namespace ModelForge.CSharp

def checkField (escape : Bool) (model : String) (f : Field) : List String :=
  let subject := "Field " ++ model ++ "." ++ f.name
  if !Identifier.isValid f.name then [subject ++ " is not a valid C# identifier"]
  else if Identifier.isReserved f.name then
    if escape then [subject ++ " is a C# keyword - emitted as @" ++ f.name] else [subject ++ " is a C# keyword"]
  else []

def check (settings : Settings) (s : Schema) : Except Mismatch (List String) := do
  let warnings ← s.check
  let entity := if Identifier.isValid s.name then [] else ["Entity name '" ++ s.name ++ "' is not a valid C# identifier"]
  return warnings ++ entity ++ s.fields.flatMap (checkField (settings.get .escapeKeywords).isSet s.name)

end ModelForge.CSharp
