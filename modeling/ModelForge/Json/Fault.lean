import ModelForge.Text.Lines

/-! Why a text is no JSON document, and where. -/

namespace ModelForge.Json

inductive Flaw where
  | value
  | propertyName
  | colon
  | comma
  | extraData
  | unterminated
  | control
  | escape
  | unicodeEscape
  | byteOrderMark
  deriving DecidableEq

def Flaw.message : Flaw → String
  | .value => "Expecting value"
  | .propertyName => "Expecting property name enclosed in double quotes"
  | .colon => "Expecting ':' delimiter"
  | .comma => "Expecting ',' delimiter"
  | .extraData => "Extra data"
  | .unterminated => "Unterminated string starting at"
  | .control => "Invalid control character at"
  | .escape => "Invalid \\escape"
  | .unicodeEscape => "Invalid \\uXXXX escape"
  | .byteOrderMark => "Unexpected UTF-8 BOM (decode using utf-8-sig)"

/-- A flaw stands where `rest` is what is left of the document. The list or object that is one level too deep is told by its
bracket. -/
inductive Fault where
  | at (flaw : Flaw) (rest : List Char)
  | longNumber (digits : Nat)
  | tooDeep (bracket : Char)

def maxDigits : Nat := 4300

/-- How many lists and objects may be open at once where nothing else takes of the stack. -/
def maxLevels : Nat := 990

/-- Lines and columns count from one, characters from zero. -/
def place (before : List Char) : String :=
  let line := before.count '\n' + 1
  let column := (before.reverse.takeWhile (· != '\n')).length + 1
  "line " ++ toString line ++ " column " ++ toString column ++ " (char " ++ toString before.length ++ ")"

def Fault.message (document : List Char) : Fault → String
  | .at flaw rest => flaw.message ++ ": " ++ place (document.take (document.length - rest.length))
  | .longNumber digits =>
    "Exceeds the limit (" ++ toString maxDigits ++ " digits) for integer string conversion: value has " ++
      toString digits ++ " digits; use sys.set_int_max_str_digits() to increase the limit"
  | .tooDeep bracket =>
    "maximum recursion depth exceeded while decoding a JSON " ++ (if bracket = '[' then "array" else "object") ++
      " from a unicode string"

end ModelForge.Json
