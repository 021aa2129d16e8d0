import ModelForge.Markup.Entity
import ModelForge.Markup.Namespace
import ModelForge.Markup.Tag

/-! Elements with their attributes, and the step from a tag as written to an element. -/

namespace ModelForge.Markup

inductive Element where
  | node (name : Name) (attributes : List (Name × String)) (children : List Element)

namespace Element

def name : Element → Name
  | node n _ _ => n

def attributes : Element → List (Name × String)
  | node _ as _ => as

def children : Element → List Element
  | node _ _ cs => cs

/-- The value of an attribute outside every namespace. -/
def attribute? (e : Element) (base : String) : Option String := e.attributes.lookup (.plain base)

end Element

/-- An element whose end tag has not been read; the last child comes first. -/
structure OpenElement where
  written : List Char
  name : Name
  attributes : List (Name × String)
  children : List Element
  bindings : Bindings

def OpenElement.close (o : OpenElement) : Element := .node o.name o.attributes o.children.reverse

structure Gathered where
  seen : List (List Char)
  values : List (List Char × List Char)
  bindings : Bindings

def Gathered.add (g : Gathered) (name value : List Char) : Except Flaw Gathered :=
  match boundPrefix? name with
  | some pre => (g.bindings.bind pre value).map fun b => { g with seen := name :: g.seen, bindings := b }
  | none => .ok { g with seen := name :: g.seen, values := g.values ++ [(name, value)] }

/-- The attributes of a tag, each with its place. A flaw without a place of its own stands at the tag. -/
def gather (d : Declarations) (rules : List AttributeRule) (tag : List Char) :
    Gathered → List WrittenAttribute → Except Fault Gathered
  | g, [] => .ok g
  | g, a :: rest =>
    if g.seen.contains a.name then .error ⟨.duplicateAttribute, a.place⟩
    else
      let isPlain := ((rules.find? (·.name == a.name)).map (·.isPlain)).getD true
      match attributeValue d isPlain a.value with
      | .error (flaw, none) => .error ⟨flaw, tag⟩
      | .error (flaw, some inner) => .error ⟨flaw, inner ++ a.after⟩
      | .ok value =>
        match g.add a.name value with
        | .error flaw => .error ⟨flaw, tag⟩
        | .ok g => gather d rules tag g rest

/-- Declared defaults stand in for attributes that the tag does not have. -/
def addDefaults : Gathered → List AttributeRule → Except Flaw Gathered
  | g, [] => .ok g
  | g, r :: rest =>
    match r.default? with
    | none => addDefaults g rest
    | some value => if g.seen.contains r.name then addDefaults g rest else (g.add r.name value).bind (addDefaults · rest)

/-- Names with their namespaces; two prefixes of one namespace can make two names equal. -/
def resolve (b : Bindings) : List (List Char × List Char) → Except Flaw (List (Name × String))
  | [] => .ok []
  | values => values.foldlM (fun done (written, value) => do
      let name ← b.attributeName written
      if done.any (·.1 == name) then throw .duplicateAttribute
      return done ++ [(name, String.ofList value)]) []

def openElement (d : Declarations) (outer : Bindings) (tag : StartTag) (place : List Char) :
    Except Fault OpenElement := do
  let atTag {α : Type} (r : Except Flaw α) : Except Fault α := r.mapError (⟨·, place⟩)
  let rules := d.rulesFor tag.name
  let g ← gather d rules place ⟨[], [], outer⟩ tag.attributes
  let g ← atTag (addDefaults g rules)
  let attributes ← atTag (resolve g.bindings g.values)
  let name ← atTag (g.bindings.elementName tag.name)
  return ⟨tag.name, name, attributes, [], g.bindings⟩

end ModelForge.Markup
