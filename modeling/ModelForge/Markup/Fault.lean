/-! Why a text is no well-formed document, and where. -/

namespace ModelForge.Markup

inductive Flaw where
  | noElement
  | unclosedToken
  | unclosedCdata
  | notWellFormed
  | unexpected
  | junk
  | mismatchedTag
  | duplicateAttribute
  | undefinedEntity
  | unreadEntity (reference : String)
  | characterNumber
  | recursiveEntity
  | binaryEntity
  | externalInAttribute
  | asynchronousEntity
  | misplacedDeclaration
  | malformedDeclaration
  | unboundPrefix
  | undeclaredPrefix
  | reservedXml
  | reservedXmlns
  | reservedName
  | parameterReference
  | publicId
  deriving DecidableEq, Repr

def Flaw.message : Flaw → String
  | noElement => "no element found"
  | unclosedToken => "unclosed token"
  | unclosedCdata => "unclosed CDATA section"
  | notWellFormed => "not well-formed (invalid token)"
  | unexpected => "syntax error"
  | junk => "junk after document element"
  | mismatchedTag => "mismatched tag"
  | duplicateAttribute => "duplicate attribute"
  | undefinedEntity => "undefined entity"
  | unreadEntity reference => "undefined entity " ++ reference
  | characterNumber => "reference to invalid character number"
  | recursiveEntity => "recursive entity reference"
  | binaryEntity => "reference to binary entity"
  | externalInAttribute => "reference to external entity in attribute"
  | asynchronousEntity => "asynchronous entity"
  | misplacedDeclaration => "XML or text declaration not at start of entity"
  | malformedDeclaration => "XML declaration not well-formed"
  | unboundPrefix => "unbound prefix"
  | undeclaredPrefix => "must not undeclare prefix"
  | reservedXml => "reserved prefix (xml) must not be undeclared or bound to another namespace name"
  | reservedXmlns => "reserved prefix (xmlns) must not be declared or undeclared"
  | reservedName => "prefix must not be bound to one of the reserved namespace names"
  | parameterReference => "illegal parameter entity reference"
  | publicId => "illegal character(s) in public id"

structure Fault where
  flaw : Flaw
  place : List Char

/-- Line and column after the given text: a line ends with a line feed, a carriage return, or both. -/
def advance (line column : Nat) : List Char → Nat × Nat
  | [] => (line, column)
  | '\r' :: '\n' :: rest => advance (line + 1) 0 rest
  | c :: rest => if c = '\n' || c = '\r' then advance (line + 1) 0 rest else advance line (column + 1) rest

/-- Lines count from one, columns from zero. -/
def Fault.message (document : List Char) (f : Fault) : String :=
  let (line, column) := advance 1 0 (document.take (document.length - f.place.length))
  f.flaw.message ++ ": line " ++ toString line ++ ", column " ++ toString column

/-- A scanner gives up because the text ends within its token, or because of a flaw. -/
inductive Halt where
  | cutOff
  | fault (f : Fault)

abbrev Read (α : Type) := α × List Char

def cutOff {α : Type} : Except Halt α := .error .cutOff

def stop {α : Type} (flaw : Flaw) (place : List Char) : Except Halt α := .error (.fault ⟨flaw, place⟩)

def invalid {α : Type} (place : List Char) : Except Halt α := stop .notWellFormed place

def Halt.toFault (start : List Char) : Halt → Fault
  | cutOff => ⟨.unclosedToken, start⟩
  | fault f => f

end ModelForge.Markup
