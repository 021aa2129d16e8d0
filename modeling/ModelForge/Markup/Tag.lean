import ModelForge.Markup.Name

/-! Tags as written: names with their prefixes, attribute values between their quotes. -/

namespace ModelForge.Markup

/-- An attribute starts where `place` is left of the text; its value is followed by `after`, from the closing quote on. -/
structure WrittenAttribute where
  name : List Char
  value : List Char
  place : List Char
  after : List Char

structure StartTag where
  name : List Char
  attributes : List WrittenAttribute
  isEmpty : Bool

def readValue (quote : Char) : List Char → Except Halt (Read (List Char))
  | [] => cutOff
  | c :: rest =>
    if c = quote then .ok ([], c :: rest)
    else if c = '<' || !isAllowed c then invalid (c :: rest)
    else
      match if c = '&' then (readReference rest).map fun _ => () else .ok () with
      | .error h => .error h
      | .ok () => (readValue quote rest).map fun r => (c :: r.1, r.2)

def readAttribute (s : List Char) : Except Halt (Read WrittenAttribute) := do
  let (name, rest) ← readQualified s
  match rest.dropWhile isSpace with
  | [] => cutOff
  | '=' :: rest =>
    match rest.dropWhile isSpace with
    | [] => cutOff
    | opening@(q :: rest) =>
      if q = '"' || q = '\'' then do
        let (value, after) ← readValue q rest
        return (⟨name, value, s, after⟩, after.drop 1)
      else invalid opening
  | other => invalid other

def readTagEnd? (s : List Char) : Option (Except Halt (Read Bool)) :=
  match s with
  | [] => some cutOff
  | '>' :: rest => some (.ok (false, rest))
  | ['/'] => some cutOff
  | '/' :: '>' :: rest => some (.ok (true, rest))
  | '/' :: rest => some (invalid rest)
  | _ => none

def readAttributes : Nat → List Char → Except Halt (Read (List WrittenAttribute × Bool))
  | 0, s => invalid s
  | fuel + 1, s =>
    match readTagEnd? s with
    | some r => r.map fun r => (([], r.1), r.2)
    | none =>
      if (s.head?.map isSpace).getD false then
        let next := s.dropWhile isSpace
        match readTagEnd? next with
        | some r => r.map fun r => (([], r.1), r.2)
        | none => do
          let (first, rest) ← readAttribute next
          let ((attributes, isEmpty), rest) ← readAttributes fuel rest
          return ((first :: attributes, isEmpty), rest)
      else invalid s

def readStartTag (s : List Char) : Except Halt (Read StartTag) := do
  let (name, rest) ← readQualified s
  let ((attributes, isEmpty), rest) ← readAttributes (rest.length + 1) rest
  return (⟨name, attributes, isEmpty⟩, rest)

/-- What follows `</`. Colons may stand anywhere after the first character; they are compared with the start tag. -/
def readEndTag (s : List Char) : Except Halt (Read (List Char)) :=
  match s with
  | [] => cutOff
  | c :: rest =>
    if isNameStart c then
      let isPart (c : Char) : Bool := isNameChar c || c = ':'
      match (rest.dropWhile isPart).dropWhile isSpace with
      | [] => cutOff
      | '>' :: after => .ok (c :: rest.takeWhile isPart, after)
      | other => invalid other
    else invalid s

end ModelForge.Markup
