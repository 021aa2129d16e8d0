import ModelForge.Source.Context
import ModelForge.Text.Quoted

/-! The layouts by the names under which they are stored. -/

namespace ModelForge.Source

inductive Layout where
  | entity
  | dto
  deriving DecidableEq, Repr

def Layout.fileName : Layout → String
  | entity => "entity.cs.j2"
  | dto => "dto.cs.j2"

/-- A generator finds the layouts in its directory, or has no layout at all because the directory given for it is missing. -/
inductive LayoutStore where
  | shipped
  | missing (directory : String)
  deriving DecidableEq, Repr

inductive LayoutError where
  | notFound (name : String)
  | notInDirectory (name directory : String)
  | context (name : String) (e : ContextError)

def LayoutError.message : LayoutError → String
  | notFound name => "Failed to render template " ++ name ++ ": " ++ name
  | notInDirectory name directory =>
    "Failed to render template " ++ name ++ ": " ++ Text.quoted name ++ " not found in search path: " ++
      Text.quoted directory
  | context _ (.mismatch m) => m.message
  | context name e => "Failed to render template " ++ name ++ ": " ++ e.message

def layoutDirectory : String := "<templates>"

namespace LayoutStore

def steps (name : String) : List (List Char) :=
  (Text.cutAt '/' name.toList).filter fun s => !s.isEmpty && s != ['.']

def find (store : LayoutStore) (name : String) : Except LayoutError Layout :=
  match store with
  | missing _ => .error (.notFound name)
  | shipped =>
    if (steps name).contains ['.', '.'] then .error (.notFound name)
    else if steps name = [Layout.entity.fileName.toList] then .ok .entity
    else if steps name = [Layout.dto.fileName.toList] then .ok .dto
    else .error (.notInDirectory name layoutDirectory)

def has (store : LayoutStore) (name : String) : Bool :=
  match store.find name with
  | .ok _ => true
  | .error _ => false

def render (store : LayoutStore) (name : String) (context : List (String × Value)) : Except LayoutError String := do
  let inContext {α : Type} (r : Except ContextError α) : Except LayoutError α := r.mapError (.context name)
  match ← store.find name with
  | .entity => (·.render) <$> inContext (EntityPage.ofContext context)
  | .dto => (·.render) <$> inContext (DtoPage.ofContext context)

end LayoutStore

end ModelForge.Source
