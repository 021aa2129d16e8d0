import ModelForge.Markup.Document
import ModelForge.Model.Declaration
import ModelForge.Text.Blank

/-! Model documents: the root element names the model, and each of its `Property` children declares a field. -/

namespace ModelForge

/-- The properties that declare nothing are numbered among all properties, from one. -/
structure ModelDocument where
  name : String
  declarations : List Declaration
  skipped : List Nat
  deriving DecidableEq, Repr

inductive SkipReason where
  | noContent
  | malformed (message : String)
  | noName
  deriving DecidableEq, Repr

def SkipReason.message : SkipReason → String
  | noContent => "no content"
  | malformed m => "malformed XML: " ++ m
  | noName => "root element has no name"

namespace ModelDocument

def warnings (d : ModelDocument) : List String :=
  d.skipped.map fun n => d.name ++ ": property #" ++ toString n ++ " skipped (missing or blank name/type)"

open Markup (Element)

def properties (root : Element) : List Element := root.children.filter (·.name == .plain "Property")

def filled? (e : Element) (base : String) : Option String :=
  (e.attribute? base).filter fun v => !Text.blank v

/-- The short attribute counts wherever it is present, the long one only elsewhere. -/
def flagOf (e : Element) (short long : String) : Bool := flag (e.attribute? short <|> e.attribute? long)

def declaration? (e : Element) : Option Declaration := do
  let name ← filled? e "name"
  let type ← filled? e "type"
  return ⟨name, type, flagOf e "inEntity" "inEntityTarget", flagOf e "inDTO" "inDtoTarget"⟩

def ofRoot (root : Element) : Except SkipReason ModelDocument :=
  match filled? root "name" with
  | none => .error .noName
  | some name =>
    let declared := (properties root).map declaration?
    .ok ⟨name, declared.filterMap id, (declared.zipIdx 1).filterMap fun (d, n) => if d.isNone then some n else none⟩

def read (text : Option String) : Except SkipReason ModelDocument :=
  match text with
  | none => .error .noContent
  | some text =>
    match Markup.read text with
    | .error message => .error (.malformed message)
    | .ok root => ofRoot root

end ModelDocument

end ModelForge
