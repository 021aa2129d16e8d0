import ModelForge.Markup.Element
import ModelForge.Markup.Inert

/-! The content of the root element. The text of an entity has to nest like an element's content: it opens and closes its
own elements only. -/

namespace ModelForge.Markup

inductive Piece where
  | data
  | start (tag : StartTag)
  | finish (name : List Char)
  | reference (r : Reference)

def readPiece (s : List Char) : Except Halt (Read Piece) :=
  let skipped (r : Except Halt (List Char)) : Except Halt (Read Piece) := r.map fun rest => (.data, rest)
  match s with
  | [] => cutOff
  | ['<'] => cutOff
  | ['<', '!'] => cutOff
  | '<' :: '!' :: '-' :: rest => skipped (readComment rest)
  | '<' :: '!' :: '[' :: rest => skipped ((readCdataOpening rest).bind skipCdata)
  | '<' :: '!' :: rest => invalid rest
  | '<' :: '?' :: rest =>
    match readInstruction rest with
    | .error h => .error h
    | .ok (.declaration _, _) => stop .misplacedDeclaration s
    | .ok (.other, rest) => .ok (.data, rest)
  | '<' :: '/' :: rest => (readEndTag rest).map fun r => (.finish r.1, r.2)
  | '<' :: rest => (readStartTag rest).map fun r => (.start r.1, r.2)
  | '&' :: rest => (readReference rest).map fun r => (.reference r.1, r.2)
  | ']' :: ']' :: '>' :: rest => invalid ('>' :: rest)
  | c :: rest => if isAllowed c then .ok (.data, rest) else invalid s

inductive Progress where
  | inside (stack : List OpenElement)
  | finished (root : Element)

def closeInnermost : List OpenElement → Progress
  | [] => .inside []
  | [o] => .finished o.close
  | o :: outer :: rest => .inside ({ outer with children := o.close :: outer.children } :: rest)

def bindingsOf (stack : List OpenElement) : Bindings := ((stack.head?).map (·.bindings)).getD .initial

/-- What an unread reference is reported as, cut after a hundred bytes. -/
def referenceText (name : List Char) : String :=
  let rec cut : Nat → List Char → List Char
    | _, [] => []
    | room, c :: rest =>
      if c.utf8Size ≤ room then c :: cut (room - c.utf8Size) rest else if room = 0 then [] else ['\ufffd']
  String.ofList (cut 100 ('&' :: name ++ [';']))

/-- Reads pieces until the root is closed, or until the text of an entity ends at the level at which it started. The level of
the document is zero. `expand` reads the text of an entity. -/
def readContent (d : Declarations) (expand : List Char → List OpenElement → Except Flaw (List OpenElement))
    (level : Nat) : Nat → List OpenElement → List Char → Except Fault (Read Progress)
  | 0, _, s => .error ⟨.noElement, s⟩
  | fuel + 1, stack, s =>
    if s.isEmpty then
      if level = 0 then .error ⟨.noElement, s⟩
      else if stack.length = level then .ok (.inside stack, s)
      else .error ⟨.asynchronousEntity, s⟩
    else if level = 0 && s = ['\r'] then .error ⟨.noElement, s⟩
    else
      match readPiece s with
      | .error h => .error (h.toFault s)
      | .ok (.data, rest) => readContent d expand level fuel stack rest
      | .ok (.start tag, rest) =>
        match openElement d (bindingsOf stack) tag s with
        | .error f => .error f
        | .ok o =>
          if tag.isEmpty then
            match closeInnermost (o :: stack) with
            | .finished root => .ok (.finished root, rest)
            | .inside stack => readContent d expand level fuel stack rest
          else readContent d expand level fuel (o :: stack) rest
      | .ok (.finish name, rest) =>
        if stack.length = level then .error ⟨.asynchronousEntity, s⟩
        else if ((stack.head?).map (·.written)) != some name then .error ⟨.mismatchedTag, s.drop 2⟩
        else
          match closeInnermost stack with
          | .finished root => .ok (.finished root, rest)
          | .inside stack => readContent d expand level fuel stack rest
      | .ok (.reference (.character none), _) => .error ⟨.characterNumber, s⟩
      | .ok (.reference (.character (some _)), rest) => readContent d expand level fuel stack rest
      | .ok (.reference (.entity name), rest) =>
        if (predefined? name).isSome then readContent d expand level fuel stack rest
        else
          match expand name stack with
          | .error flaw => .error ⟨flaw, s⟩
          | .ok stack => readContent d expand level fuel stack rest

/-- Reads the text of an entity within the open elements. `isOpen` holds the entities whose text is being read, and `depth`
bounds how many there can be. -/
def expandEntity (d : Declarations) :
    Nat → List (List Char) → List Char → List OpenElement → Except Flaw (List OpenElement)
  | 0, _, _, _ => .error .recursiveEntity
  | depth + 1, isOpen, name, stack =>
    match d.entity? name with
    | none => .error (if d.isStrict then .undefinedEntity else .unreadEntity (referenceText name))
    | some e =>
      if isOpen.contains name then .error .recursiveEntity
      else
        match e with
        | .unparsed => .error .binaryEntity
        | .external => .error (.unreadEntity (referenceText name))
        | .internal text =>
          match readContent d (expandEntity d depth (name :: isOpen)) stack.length (text.length + 1) stack text with
          | .error f => .error f.flaw
          | .ok (.inside stack, _) => .ok stack
          | .ok (.finished _, _) => .error .asynchronousEntity

end ModelForge.Markup
