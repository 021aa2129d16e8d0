import ModelForge.Markup.Name

/-! Entities and default attributes as declared, and the values of attributes in which they are used. -/

namespace ModelForge.Markup

inductive Entity where
  | internal (text : List Char)
  | external
  | unparsed

/-- A declared attribute; values of a type other than plain character data are squeezed. -/
structure AttributeRule where
  name : List Char
  isPlain : Bool
  default? : Option (List Char)

/-- Whether some declarations stand where they are not read, whether the document is declared to stand alone, and whether
declarations still count. -/
structure Declarations where
  entities : List (List Char × Entity)
  rules : List (List Char × AttributeRule)
  unread : Bool
  standalone : Bool
  counting : Bool

namespace Declarations

def none : Declarations := ⟨[], [], false, false, true⟩

def entity? (d : Declarations) (name : List Char) : Option Entity := d.entities.lookup name

def rulesFor (d : Declarations) (element : List Char) : List AttributeRule :=
  (d.rules.filter (·.1 == element)).map Prod.snd

/-- The first declaration of an entity counts. -/
def addEntity (d : Declarations) (name : List Char) (e : Entity) : Declarations :=
  if !d.counting || (predefined? name).isSome || (d.entity? name).isSome then d
  else { d with entities := d.entities ++ [(name, e)] }

/-- A default, or the type of an identifier, counts only where the attribute has not been declared before. -/
def addRule (d : Declarations) (element : List Char) (rule : AttributeRule) (isIdentifier : Bool) : Declarations :=
  if !d.counting then d
  else if (rule.default?.isSome || isIdentifier) && (d.rulesFor element).any (·.name == rule.name) then d
  else { d with rules := d.rules ++ [(element, rule)] }

def isStrict (d : Declarations) : Bool := !d.unread || d.standalone

end Declarations

abbrev ValueFault := Flaw × Option (List Char)

/-- The characters of a value: references replaced, every line end and tab a space. In the text of an entity a carriage
return and the line feed after it are two spaces. `replace` gives the characters of an entity. -/
def expandValue (replace : List Char → Except ValueFault (List Char)) (inEntity : Bool) :
    Nat → List Char → Except ValueFault (List Char)
  | 0, _ => .ok []
  | _, [] => .ok []
  | fuel + 1, s@(c :: rest) =>
    if c = '<' then .error (.notWellFormed, some s)
    else if c = '&' then
      match readReference rest with
      | .error .cutOff => .error (.notWellFormed, some s)
      | .error (.fault f) => .error (f.flaw, some f.place)
      | .ok (.character none, _) => .error (.characterNumber, some s)
      | .ok (.character (some x), after) => (expandValue replace inEntity fuel after).map (x :: ·)
      | .ok (.entity name, after) =>
        match predefined? name with
        | some x => (expandValue replace inEntity fuel after).map (x :: ·)
        | none =>
          match replace name with
          | .error (flaw, none) => .error (flaw, none)
          | .error (flaw, some _) => .error (flaw, some s)
          | .ok text => (expandValue replace inEntity fuel after).map (text ++ ·)
    else if c = '\r' && !inEntity && rest.head? == some '\n' then
      (expandValue replace inEntity fuel (rest.drop 1)).map (' ' :: ·)
    else (expandValue replace inEntity fuel rest).map ((if isSpace c then ' ' else c) :: ·)

/-- The characters of an entity used in a value. `isOpen` holds the entities within whose text the reference stands, and `depth`
bounds how many there can be. -/
def replacement (d : Declarations) : Nat → List (List Char) → List Char → Except ValueFault (List Char)
  | 0, _, _ => .error (.recursiveEntity, none)
  | depth + 1, isOpen, name =>
    match d.entity? name with
    | none => if d.isStrict then .error (.undefinedEntity, none) else .ok []
    | some e =>
      if isOpen.contains name then .error (.recursiveEntity, none)
      else
        match e with
        | .unparsed => .error (.binaryEntity, some [])
        | .external => .error (.externalInAttribute, some [])
        | .internal text =>
          match expandValue (replacement d depth (name :: isOpen)) true (text.length + 1) text with
          | .error (flaw, _) => .error (flaw, none)
          | .ok cs => .ok cs

/-- One space for each run of spaces, none at the ends. -/
def squeeze (s : List Char) : List Char :=
  let rec go : Bool → List Char → List Char
    | _, [] => []
    | pending, c :: rest =>
      if c = ' ' then go true rest
      else if pending then ' ' :: c :: go false rest
      else c :: go false rest
  go false (s.dropWhile (· = ' '))

def attributeValue (d : Declarations) (isPlain : Bool) (value : List Char) : Except ValueFault (List Char) :=
  (expandValue (replacement d (d.entities.length + 1) []) false (value.length + 1) value).map
    (if isPlain then id else squeeze)

end ModelForge.Markup
