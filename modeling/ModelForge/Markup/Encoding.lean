import ModelForge.Markup.Fault

/-! The characters of a document. They are those of its text, unless a null among the first two bytes shows that the bytes
are halves of units of sixteen bits. -/

namespace ModelForge.Markup

/-- `isCut` says that half a unit is left over at the end. -/
structure Characters where
  list : List Char
  isCut : Bool
  deriving DecidableEq, Repr

def isHighSurrogate (unit : Nat) : Bool := 0xD800 ≤ unit && unit < 0xDC00

def isLowSurrogate (unit : Nat) : Bool := 0xDC00 ≤ unit && unit < 0xE000

/-- Two surrogates are one character. One alone is read as null, which no document may hold. -/
def ofUnits : List Nat → List Char
  | [] => []
  | [u] => [Char.ofNat u]
  | u :: v :: rest =>
    if isHighSurrogate u && isLowSurrogate v then
      Char.ofNat (0x10000 + (u - 0xD800) * 0x400 + (v - 0xDC00)) :: ofUnits rest
    else Char.ofNat u :: ofUnits (v :: rest)

def unitsOf (unit : Nat → Nat → Nat) : List UInt8 → List Nat
  | a :: b :: rest => unit a.toNat b.toNat :: unitsOf unit rest
  | _ => []

def Characters.ofBytes (unit : Nat → Nat → Nat) (bytes : List UInt8) : Characters :=
  ⟨ofUnits (unitsOf unit bytes), bytes.length % 2 = 1⟩

def highFirst (a b : Nat) : Nat := a * 0x100 + b

def lowFirst (a b : Nat) : Nat := b * 0x100 + a

def Characters.ofText (text : String) : Characters :=
  match text.toList with
  | '\x00' :: _ => ofBytes highFirst text.toUTF8.toList
  | c :: '\x00' :: rest => if c.toNat < 0x80 then ofBytes lowFirst text.toUTF8.toList else ⟨c :: '\x00' :: rest, false⟩
  | s => ⟨s, false⟩

/-- What is left over is a token that is cut off, unless another flaw comes first. -/
def Characters.endOf {α : Type} (c : Characters) (r : Except Fault α) : Except Fault α :=
  match r with
  | .ok a => if c.isCut then .error ⟨.unclosedToken, []⟩ else .ok a
  | .error f => .error (if c.isCut && f.flaw = .noElement && f.place.isEmpty then ⟨.unclosedToken, []⟩ else f)

end ModelForge.Markup
