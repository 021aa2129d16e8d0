/-! C# names: the plain form of an identifier, and the keywords, which a leading `@` turns into identifiers. -/

namespace ModelForge.Identifier

def reservedWords : List String :=
  ["abstract", "as", "base", "bool", "break", "byte", "case", "catch", "char", "checked", "class", "const", "continue",
    "decimal", "default", "delegate", "do", "double", "else", "enum", "event", "explicit", "extern", "false", "finally",
    "fixed", "float", "for", "foreach", "goto", "if", "implicit", "in", "int", "interface", "internal", "is", "lock",
    "long", "namespace", "new", "null", "object", "operator", "out", "override", "params", "private", "protected",
    "public", "readonly", "ref", "return", "sbyte", "sealed", "short", "sizeof", "stackalloc", "static", "string",
    "struct", "switch", "this", "throw", "true", "try", "typeof", "uint", "ulong", "unchecked", "unsafe", "ushort",
    "using", "virtual", "void", "volatile", "while"]

def isReserved (name : String) : Bool := reservedWords.contains name

def verbatim (name : String) : String := if isReserved name then "@" ++ name else name

def isLetter (c : Char) : Bool := ('A' ≤ c && c ≤ 'Z') || ('a' ≤ c && c ≤ 'z') || c = '_'

def isLetterOrDigit (c : Char) : Bool := isLetter c || ('0' ≤ c && c ≤ '9')

def isWord : List Char → Bool
  | [] => false
  | c :: rest => isLetter c && rest.all isLetterOrDigit

def isFull : List Char → Bool
  | '@' :: rest => isWord rest
  | s => isWord s

def dropFinalLineFeed (s : List Char) : List Char := if s.getLast? = some '\n' then s.dropLast else s

/-- A line feed at the very end does not count. -/
def isValid (name : String) : Bool := isFull (dropFinalLineFeed name.toList)

/-- Like `isValid`, for a name between the dots of a namespace. -/
def isSegment (s : List Char) : Bool := isWord (dropFinalLineFeed s)

end ModelForge.Identifier
