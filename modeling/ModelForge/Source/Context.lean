import ModelForge.Source.Page
import ModelForge.Value.Display
import ModelForge.Value.Mismatch

/-! Pages from named values. The values are looked up in the order in which the page shows them, so the first one that is
missing is the one reported. -/

namespace ModelForge.Source

inductive ContextError where
  | undefined (name : String)
  | noPart (owner part : String)
  | mismatch (m : Mismatch)

def ownerName : Value → String
  | .null => "None"
  | v => v.kind ++ " object"

def ContextError.message : ContextError → String
  | .undefined name => "'" ++ name ++ "' is undefined"
  | .noPart owner part => "'" ++ owner ++ "' has no attribute '" ++ part ++ "'"
  | .mismatch m => m.message

def lookup (context : List (String × Value)) (name : String) : Except ContextError Value :=
  match Entries.find? name context with
  | some v => .ok v
  | none => .error (.undefined name)

def part (owner : Value) (name : String) : Except ContextError Value :=
  match owner with
  | .object entries =>
    match Entries.find? name entries with
    | some v => .ok v
    | none => .error (.noPart (ownerName owner) name)
  | _ => .error (.noPart (ownerName owner) name)

def shownPart (owner : Value) (name : String) : Except ContextError String := (part owner name).map (·.display)

def elements (v : Value) : Except ContextError (List Value) :=
  match v.elements with
  | .ok items => .ok items
  | .error m => .error (.mismatch m)

def headerOf (context : List (String × Value)) : Except ContextError (Option String) := do
  let header ← lookup context "header"
  return if header.isSet then some header.display else none

def indentOf (context : List (String × Value)) : Except ContextError String :=
  (lookup context "indent").map (·.display)

def MemberLine.ofValue (context : List (String × Value)) (v : Value) : Except ContextError MemberLine := do
  let _ ← indentOf context
  let type ← shownPart v "type"
  let name ← shownPart v "name"
  return ⟨type, name⟩

def ClassBlock.ofValue (context : List (String × Value)) (v : Value) : Except ContextError ClassBlock := do
  let name ← shownPart v "class_name"
  let members ← elements (← part v "members")
  return ⟨name, ← members.mapM (MemberLine.ofValue context)⟩

def AssignmentLine.ofValue (v : Value) : Except ContextError AssignmentLine := do
  let name ← shownPart v "name"
  let nested ← part v "nested_method"
  return ⟨name, if nested.isSet then some nested.display else none⟩

def MapperBlock.ofValue (context : List (String × Value)) (v : Value) : Except ContextError MapperBlock := do
  let _ ← indentOf context
  let target ← shownPart v "target_type"
  let method ← shownPart v "method_name"
  let source ← shownPart v "source_type"
  let parameter ← shownPart v "parameter"
  let assignments ← elements (← part v "assignments")
  return ⟨target, method, source, parameter, ← assignments.mapM AssignmentLine.ofValue⟩

/-- Where no line is indented the indent is not looked up. -/
def anyIndent (context : List (String × Value)) : String := ((Entries.find? "indent" context).map (·.display)).getD ""

def EntityPage.ofContext (context : List (String × Value)) : Except ContextError EntityPage := do
  let header ← headerOf context
  let entity ← lookup context "entity"
  let space ← shownPart entity "namespace"
  let block ← ClassBlock.ofValue context entity
  return ⟨header, space, block, anyIndent context⟩

def DtoPage.ofContext (context : List (String × Value)) : Except ContextError DtoPage := do
  let header ← headerOf context
  let used ← shownPart (← lookup context "entity") "namespace"
  let dto ← lookup context "dto"
  let space ← shownPart dto "namespace"
  let block ← ClassBlock.ofValue context dto
  let mapperClass ← (lookup context "mapper_class").map (·.display)
  let mappers ← elements (← lookup context "mappers")
  return ⟨header, used, space, block, mapperClass, ← mappers.mapM (MapperBlock.ofValue context), anyIndent context⟩

end ModelForge.Source
