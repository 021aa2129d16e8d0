import ModelForge.Markup.Name

/-! The parts of a document that say nothing about its elements: comments, processing instructions and CDATA sections. -/

namespace ModelForge.Markup

def skipComment : List Char → Except Halt (List Char)
  | [] => cutOff
  | ['-'] => cutOff
  | ['-', '-'] => cutOff
  | '-' :: '-' :: c :: rest => if c = '>' then .ok rest else invalid (c :: rest)
  | c :: rest => if isAllowed c then skipComment rest else invalid (c :: rest)

def readComment (s : List Char) : Except Halt (List Char) :=
  match s with
  | [] => cutOff
  | c :: rest => if c = '-' then skipComment rest else invalid s

def readInstructionBody : List Char → Except Halt (Read (List Char))
  | [] => cutOff
  | ['?'] => cutOff
  | '?' :: '>' :: rest => .ok ([], rest)
  | c :: rest => if isAllowed c then (readInstructionBody rest).map fun r => (c :: r.1, r.2) else invalid (c :: rest)

/-- An instruction with the target `xml` is a declaration; `body` is what stands between target and end. -/
inductive Instruction where
  | declaration (body : List Char)
  | other

def isXmlTarget (target : List Char) : Bool := target.map Char.toLower == ['x', 'm', 'l']

/-- What follows `<?`. The target `xml` may not be written in other case. -/
def readInstruction (s : List Char) : Except Halt (Read Instruction) := do
  let (target, rest) ← readName s
  match rest with
  | [] => cutOff
  | c :: _ =>
    if isXmlTarget target && target != ['x', 'm', 'l'] then invalid rest
    else
      let instruction (body : List Char) : Instruction := if isXmlTarget target then .declaration body else .other
      if isSpace c then do
        let (body, after) ← readInstructionBody rest
        return (instruction body, after)
      else
        match rest with
        | ['?'] => cutOff
        | '?' :: '>' :: after => return (instruction [], after)
        | '?' :: more => invalid more
        | _ => invalid rest

def cdataOpening : List Char := "CDATA[".toList

def readCdataOpening (s : List Char) : Except Halt (List Char) :=
  let rec go : List Char → List Char → Except Halt (List Char)
    | [], rest => .ok rest
    | _ :: _, [] => cutOff
    | o :: os, c :: rest => if c = o then go os rest else invalid (c :: rest)
  if (String.ofList (s.take 6)).utf8ByteSize < 6 then cutOff else go cdataOpening s

/-- Up to the end of a section. Brackets or a carriage return at the very end of the text are cut off with it. -/
def skipCdata : List Char → Except Halt (List Char)
  | [] => stop .unclosedCdata []
  | [']'] => stop .unclosedCdata [']']
  | [']', ']'] => stop .unclosedCdata [']', ']']
  | ['\r'] => stop .unclosedCdata ['\r']
  | ']' :: ']' :: '>' :: rest => .ok rest
  | c :: rest => if isAllowed c then skipCdata rest else invalid (c :: rest)

end ModelForge.Markup
