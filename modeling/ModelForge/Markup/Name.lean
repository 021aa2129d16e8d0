import ModelForge.Markup.Character
import ModelForge.Markup.Fault

/-! Names and references. -/

namespace ModelForge.Markup

def readName (s : List Char) : Except Halt (Read (List Char)) :=
  match s with
  | [] => cutOff
  | c :: rest => if isNameStart c then .ok (c :: rest.takeWhile isNameChar, rest.dropWhile isNameChar) else invalid s

def readQualified (s : List Char) : Except Halt (Read (List Char)) := do
  let (first, rest) ← readName s
  match rest with
  | ':' :: rest =>
    let (second, rest) ← readName rest
    if rest.head? = some ':' then invalid rest else return (first ++ ':' :: second, rest)
  | _ => return (first, rest)

/-- A character number that stands for none is kept as such. -/
inductive Reference where
  | entity (name : List Char)
  | character (c : Option Char)

def characterOf (n : Nat) : Option Char :=
  if n.isValidChar && isAllowed (Char.ofNat n) then some (Char.ofNat n) else none

def isDecimal (c : Char) : Bool := '0' ≤ c && c ≤ '9'

def isHexadecimal (c : Char) : Bool := isDecimal c || ('a' ≤ c && c ≤ 'f') || ('A' ≤ c && c ≤ 'F')

def digitValue (c : Char) : Nat :=
  if isDecimal c then c.toNat - 48 else if 'a' ≤ c then c.toNat - 87 else c.toNat - 55

def readNumber (base : Nat) (isDigit : Char → Bool) (s : List Char) : Except Halt (Read Reference) :=
  let digits := s.takeWhile isDigit
  match s.dropWhile isDigit with
  | [] => cutOff
  | rest@(c :: after) =>
    if c = ';' && !digits.isEmpty then
      .ok (.character (characterOf (digits.foldl (fun n d => base * n + digitValue d) 0)), after)
    else invalid rest

def readReference (s : List Char) : Except Halt (Read Reference) :=
  match s with
  | '#' :: 'x' :: rest => readNumber 16 isHexadecimal rest
  | '#' :: rest => readNumber 10 isDecimal rest
  | _ => do
    let (name, rest) ← readName s
    match rest with
    | [] => cutOff
    | ';' :: after => return (.entity name, after)
    | _ => invalid rest

def predefined? (name : List Char) : Option Char :=
  [("lt".toList, '<'), ("gt".toList, '>'), ("amp".toList, '&'), ("quot".toList, '"'), ("apos".toList, '\'')].lookup name

end ModelForge.Markup
