import ModelForge.Markup.Doctype.Token
import ModelForge.Markup.Entity

/-! What the literals of a document type declaration may hold. -/

namespace ModelForge.Markup

structure Lexeme where
  token : Token
  place : List Char
  rest : List Char

def nextLexeme (s : List Char) : Except Fault Lexeme :=
  let start := s.dropWhile isSpace
  if start.isEmpty then .error ⟨.noElement, []⟩
  else
    match readToken start with
    | .error h => .error (h.toFault start)
    | .ok (token, rest) => .ok ⟨token, start, rest⟩

def Lexeme.unexpected {α : Type} (l : Lexeme) : Except Fault α :=
  match l.token with
  | .parameter => .error ⟨.parameterReference, l.place⟩
  | .xmlDeclaration _ => .error ⟨.misplacedDeclaration, l.place⟩
  | _ => .error ⟨.unexpected, l.place⟩

/-- The place in the document at which `inner` is left of the literal's `value`. -/
def Lexeme.within (l : Lexeme) (value inner : List Char) : List Char := l.place.drop (1 + (value.length - inner.length))

def isPublicIdChar (c : Char) : Bool := isLatinLetter c || isDecimal c || "-'()+,/=?;!*%#:. $@\n\r".toList.contains c

def Lexeme.checkPublicId (l : Lexeme) (value : List Char) : Except Fault Unit :=
  let bad := value.dropWhile isPublicIdChar
  if bad.isEmpty then .ok () else .error ⟨.publicId, l.within value bad⟩

/-- The text of an entity: character references are replaced, references to entities kept, line ends made line feeds. A
parameter entity may not be used in it. An error comes with what is left of the value. -/
def entityText : Nat → List Char → Except (Flaw × List Char) (List Char)
  | 0, _ => .ok []
  | _, [] => .ok []
  | fuel + 1, s@(c :: rest) =>
    let halted {α : Type} : Halt → Except (Flaw × List Char) α
      | .cutOff => .error (.notWellFormed, s)
      | .fault f => .error (f.flaw, f.place)
    if c = '%' then
      match readPercent rest with
      | .error h => halted h
      | .ok (.percent, after) => .error (.notWellFormed, after)
      | .ok _ => .error (.parameterReference, s)
    else if c = '&' then
      match readReference rest with
      | .error h => halted h
      | .ok (.character none, _) => .error (.characterNumber, s)
      | .ok (.character (some x), after) => (entityText fuel after).map (x :: ·)
      | .ok (.entity name, after) => (entityText fuel after).map (('&' :: name ++ [';']) ++ ·)
    else if c = '\r' then (entityText fuel (if rest.head? = some '\n' then rest.drop 1 else rest)).map ('\n' :: ·)
    else (entityText fuel rest).map (c :: ·)

def Lexeme.entityText (l : Lexeme) (value : List Char) : Except Fault (List Char) :=
  (Markup.entityText (value.length + 1) value).mapError fun (flaw, inner) => ⟨flaw, l.within value inner⟩

def Lexeme.defaultValue (l : Lexeme) (d : Declarations) (isPlain : Bool) (value : List Char) :
    Except Fault (List Char) :=
  (attributeValue d isPlain value).mapError fun
    | (flaw, none) => ⟨flaw, l.place⟩
    | (flaw, some inner) => ⟨flaw, l.within value inner⟩

end ModelForge.Markup
