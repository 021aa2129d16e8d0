import ModelForge.Identifier
import ModelForge.Settings.Basic

/-! Warnings about settings. -/

namespace ModelForge.Settings

def checkSegments (s : Settings) (n : Setting) : Except Mismatch (List String) :=
  match s.get n with
  | .text t =>
    .ok (((Text.cutAt '.' t.toList).filter (!Identifier.isSegment ·)).map fun segment =>
      "Invalid " ++ n.key ++ " segment: '" ++ String.ofList segment ++ "'")
  | v => .error (.noOperation v.kind "split")

def checkExtension (s : Settings) : Except Mismatch (List String) :=
  match s.get .fileExtension with
  | .text t => .ok (if ['.'].isPrefixOf t.toList then [] else ["file_extension should start with '.': " ++ t])
  | v => .error (.noOperation v.kind "startswith")

def isNumber : Value → Bool
  | .bool _ => true
  | .int _ => true
  | .decimal _ _ => true
  | _ => false

def isBelowOne (v : Value) : Except Mismatch Bool :=
  if isNumber v then .ok (v.quantity?.any fun q => q.order (.scaled 1 0) == .lt) else .error (.notOrdered v.kind)

def check (s : Settings) : Except Mismatch (List String) := do
  let root ← s.checkSegments .rootNamespace
  let entity ← s.checkSegments .entityNamespace
  let dto ← s.checkSegments .dtoNamespace
  let suffix := if (s.get .dtoSuffix).isSet then [] else ["dto_suffix is empty - DTO and entity class names collide"]
  let methods :=
    if (s.get .toDtoMethod).same (s.get .toEntityMethod) then ["to_dto_method and to_entity_method must differ"] else []
  let extension ← s.checkExtension
  let indent := if ← isBelowOne (s.get .indentSize) then ["Invalid indent_size: " ++ s.shown .indentSize] else []
  return root ++ entity ++ dto ++ suffix ++ methods ++ extension ++ indent

theorem check_default : default.check.toOption = some [] := by decide +kernel

end ModelForge.Settings
