import ModelForge.Markup.Inert

/-! The tokens outside the root element: before it, in the document type declaration, and after it. -/

namespace ModelForge.Markup

inductive Token where
  | xmlDeclaration (body : List Char)
  | instruction
  | comment
  | rootStart
  /-- `<!` and a keyword. -/
  | opening (keyword : List Char)
  | sectionOpening
  | sectionClosing
  | closing
  | literal (value : List Char)
  | percent
  | parameter
  | comma
  | bar
  | openBracket
  | closeBracket
  | openParen
  | closeParen (marked : Option Char)
  | hashName (name : List Char)
  | plainName (name : List Char)
  | prefixedName (name : List Char)
  /-- A name with a mark of repetition after it. -/
  | markedName (name : List Char)
  /-- Name characters that do not make up a name. -/
  | nameToken
  deriving DecidableEq, Repr

def isLatinLetter (c : Char) : Bool := c = '_' || ('a' ≤ c && c ≤ 'z') || ('A' ≤ c && c ≤ 'Z')

def readOpening (s : List Char) : Except Halt (Read Token) :=
  match s with
  | [] => cutOff
  | '-' :: rest => (readComment rest).map fun r => (.comment, r)
  | '[' :: rest => .ok (.sectionOpening, rest)
  | c :: _ =>
    if !isLatinLetter c then invalid s
    else
      match s.dropWhile isLatinLetter with
      | [] => cutOff
      | ['%'] => cutOff
      | rest@('%' :: d :: _) =>
        if isSpace d || d = '%' then invalid rest else .ok (.opening (s.takeWhile isLatinLetter), rest)
      | rest@(d :: _) => if isSpace d then .ok (.opening (s.takeWhile isLatinLetter), rest) else invalid rest

def readLiteral (quote : Char) : List Char → Except Halt (Read (List Char))
  | [] => cutOff
  | c :: rest =>
    if c = quote then
      match rest with
      | [] => .ok ([], rest)
      | d :: _ => if isSpace d || d = '>' || d = '%' || d = '[' then .ok ([], rest) else invalid rest
    else if !isAllowed c then invalid (c :: rest)
    else (readLiteral quote rest).map fun r => (c :: r.1, r.2)

def readPercent (s : List Char) : Except Halt (Read Token) :=
  match s with
  | [] => cutOff
  | c :: _ =>
    if isSpace c || c = '%' then .ok (.percent, s)
    else do
      let (_, rest) ← readName s
      match rest with
      | [] => cutOff
      | ';' :: after => return (.parameter, after)
      | _ => invalid rest

def readHashName (s : List Char) : Except Halt (Read Token) := do
  let (name, rest) ← readName s
  match rest with
  | [] => return (.hashName name, rest)
  | c :: _ => if isSpace c || [')', '>', '%', '|'].contains c then return (.hashName name, rest) else invalid rest

inductive NameShape where
  | plain
  | prefixed
  | token
  deriving DecidableEq

def shapeOf (start : Bool) (run : List Char) : NameShape :=
  if !start then .token
  else
    match run.dropWhile (· ≠ ':') with
    | [] => .plain
    | _ :: after => if after.isEmpty || after.head? == some ':' || after.contains ':' then .token else .prefixed

def endsNameToken (c : Char) : Bool := isSpace c || ['>', ')', ',', '|', '[', '%'].contains c

def isNamePart (c : Char) : Bool := isNameChar c || c = ':'

/-- A run of name characters and colons. A name that the text ends right after its only colon is cut off. -/
def readNameToken (s : List Char) : Except Halt (Read Token) :=
  let run := s.takeWhile isNamePart
  let rest := s.dropWhile isNamePart
  let shape := shapeOf ((s.head?.map isNameStart).getD false) run
  let token : Token := match shape with
    | .plain => .plainName run
    | .prefixed => .prefixedName run
    | .token => .nameToken
  match rest with
  | [] =>
    if shape = .token && run.getLast? = some ':' && shapeOf true run.dropLast = .plain && (run.head?.map isNameStart).getD false
    then cutOff else .ok (token, rest)
  | c :: after =>
    if endsNameToken c then .ok (token, rest)
    else if ['+', '*', '?'].contains c && shape != .token then .ok (.markedName run, after)
    else invalid rest

def readToken (s : List Char) : Except Halt (Read Token) :=
  match s with
  | [] => cutOff
  | '"' :: rest => (readLiteral '"' rest).map fun r => (.literal r.1, r.2)
  | '\'' :: rest => (readLiteral '\'' rest).map fun r => (.literal r.1, r.2)
  | ['<'] => cutOff
  | '<' :: '!' :: rest => readOpening rest
  | '<' :: '?' :: rest => (readInstruction rest).map fun r =>
    (match r.1 with
      | .declaration body => .xmlDeclaration body
      | .other => .instruction, r.2)
  | '<' :: c :: rest => if isNameStart c || 0x80 ≤ c.toNat then .ok (.rootStart, s) else invalid (c :: rest)
  | '%' :: rest => readPercent rest
  | ',' :: rest => .ok (.comma, rest)
  | '[' :: rest => .ok (.openBracket, rest)
  | ']' :: ']' :: '>' :: rest => .ok (.sectionClosing, rest)
  | [']', ']'] => cutOff
  | ']' :: rest => .ok (.closeBracket, rest)
  | '(' :: rest => .ok (.openParen, rest)
  | [')'] => .ok (.closeParen none, [])
  | ')' :: c :: rest =>
    if ['*', '?', '+'].contains c then .ok (.closeParen (some c), rest)
    else if isSpace c || ['>', ',', '|', ')'].contains c then .ok (.closeParen none, c :: rest)
    else invalid (c :: rest)
  | '|' :: rest => .ok (.bar, rest)
  | '>' :: rest => .ok (.closing, rest)
  | '#' :: rest => readHashName rest
  | c :: _ => if isNamePart c then readNameToken s else invalid s

end ModelForge.Markup
