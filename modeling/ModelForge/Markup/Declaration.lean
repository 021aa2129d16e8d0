import ModelForge.Markup.Character

/-! The declaration `<?xml … ?>` at the start of a document: a version, then maybe an encoding, then maybe whether the
document stands alone. -/

namespace ModelForge.Markup.Declaration

structure PseudoAttribute where
  name : List Char
  value : List Char
  /-- The text from the name on. -/
  place : List Char
  /-- The text from the value on. -/
  valuePlace : List Char

def isValueChar (c : Char) : Bool :=
  ('a' ≤ c && c ≤ 'z') || ('A' ≤ c && c ≤ 'Z') || ('0' ≤ c && c ≤ '9') || c = '.' || c = '-' || c = '_'

def isAscii (c : Char) : Bool := c.toNat < 0x80

def endsName (c : Char) : Bool := isSpace c || c = '=' || !isAscii c

/-- One part after a space, none at the end. An error is the place of the part that is wrong. -/
def part (s : List Char) : Except (List Char) (Option PseudoAttribute × List Char) :=
  match s with
  | [] => .ok (none, s)
  | c :: _ =>
    if !isSpace c then .error s
    else
      let start := s.dropWhile isSpace
      if start.isEmpty then .ok (none, s)
      else
        let name := start.takeWhile (!endsName ·)
        let afterName := (start.dropWhile (!endsName ·)).dropWhile isSpace
        match afterName with
        | '=' :: rest =>
          if name.isEmpty then .error afterName
          else
            match rest.dropWhile isSpace with
            | [] => .error []
            | opening@(q :: value) =>
              if q = '"' || q = '\'' then
                match value.dropWhile isValueChar with
                | [] => .error []
                | after@(c :: next) =>
                  if c = q then .ok (some ⟨name, value.takeWhile isValueChar, start, value⟩, next) else .error after
              else .error opening
        | _ => .error afterName

def ending (s : List Char) : Except (List Char) Unit :=
  let rest := s.dropWhile isSpace
  if rest.isEmpty then .ok () else .error rest

def standalone (a : PseudoAttribute) (rest : List Char) : Except (List Char) Bool :=
  if a.name != "standalone".toList then .error a.place
  else if a.value = "yes".toList then (ending rest).map fun _ => true
  else if a.value = "no".toList then (ending rest).map fun _ => false
  else .error a.valuePlace

def read (s : List Char) : Except (List Char) Bool := do
  let (version, rest) ← part s
  let some version := version | throw s
  if version.name != "version".toList then throw version.place
  let (second, rest) ← part rest
  let some second := second | return false
  if second.name != "encoding".toList then standalone second rest
  else
    if !((second.value.head?.map Char.isAlpha).getD false) then throw second.valuePlace
    let (third, rest) ← part rest
    let some third := third | return false
    standalone third rest

end ModelForge.Markup.Declaration
