import ModelForge.Text.Blank
import ModelForge.Value.Mismatch

/-! Declared types, told apart by their text alone: a simple one is copied between entity and DTO, a composite one is
converted by the mapper of the model that it names. -/

namespace ModelForge.DeclaredType

inductive Kind where
  | simple
  | composite
  deriving DecidableEq, Repr

def builtins : List String :=
  ["int", "string", "bool", "decimal", "double", "float", "long", "short", "byte", "char", "uint", "ulong", "ushort",
    "sbyte", "DateTime", "Guid"]

def sequencePrefixes : List String := ["List<", "IEnumerable<"]

def arraySuffix : String := "[]"

def dropNullable (s : List Char) : List Char :=
  if s.getLast? = some '?' then Text.trimEnd s.dropLast else s

/-- The bare name: without outer blanks, nullability and generic arguments. -/
def normalizeChars (s : List Char) : List Char := (dropNullable (Text.trim s)).takeWhile (· ≠ '<')

def normalize (t : String) : String := String.ofList (normalizeChars t.toList)

/-- `broken` is what happens when a type gets past the usable sequence beginnings to one that is no text. -/
structure Classifier where
  simpleTypes : List String
  sequenceBeginnings : List String
  arrayEnding : String
  broken : Option Mismatch

def Classifier.default : Classifier := ⟨builtins, sequencePrefixes, arraySuffix, none⟩

def Classifier.isDecided (c : Classifier) (t : String) : Bool :=
  Text.blank t || c.simpleTypes.contains (normalize t) ||
    c.sequenceBeginnings.any fun b => b.toList.isPrefixOf t.toList

def Classifier.classify (c : Classifier) (t : String) : Kind :=
  if c.isDecided t || c.arrayEnding.toList.isSuffixOf t.toList then .simple else .composite

/-- A type that is missing is copied. -/
def Classifier.classifyOptional (c : Classifier) (t : Option String) : Kind := (t.map c.classify).getD .simple

def Classifier.refusal (c : Classifier) (t : Option String) : Option Mismatch :=
  if (t.map c.isDecided).getD true then none else c.broken

def members : List Value → Except Mismatch (List String)
  | [] => .ok []
  | .text s :: rest => (members rest).map (s :: ·)
  | .list _ :: _ => .error (.unhashable "list")
  | .object _ :: _ => .error (.unhashable "dict")
  | _ :: rest => members rest

def beginnings : List Value → List String × Option Mismatch
  | [] => ([], none)
  | .text s :: rest => (s :: (beginnings rest).1, (beginnings rest).2)
  | v :: _ => ([], some (.notText v.kind))

def Classifier.ofValues (types starts : Value) : Except Mismatch Classifier := do
  if !types.isSet && !starts.isSet then
    return .default
  let names ← members (← types.elements)
  let (texts, broken) := beginnings (← starts.elements)
  return ⟨builtins ++ names, sequencePrefixes ++ texts, arraySuffix, broken⟩

end ModelForge.DeclaredType
