import ModelForge.Json.Fault
import ModelForge.Text.Hex

/-! Reading a quoted text with its escapes. -/

namespace ModelForge.Json

def plainEscape? : Char → Option Char
  | '"' => some '"'
  | '\\' => some '\\'
  | '/' => some '/'
  | 'b' => some '\x08'
  | 'f' => some '\x0c'
  | 'n' => some '\n'
  | 'r' => some '\r'
  | 't' => some '\t'
  | _ => none

/-- The number written by the first four characters, if more than four are left. -/
def fourDigits? (s : List Char) : Option Nat :=
  if 4 < s.length then Text.hexNumber? (s.take 4) else none

/-- Half of a pair alone stands for no character. -/
def scalar (n : Nat) : Char := if n.isValidChar then Char.ofNat n else '\ufffd'

def escape (s : List Char) : Except Fault (Char × Nat) :=
  match s with
  | [] => .error (.at .escape s)
  | 'u' :: digits =>
    match fourDigits? digits with
    | none => .error (.at .unicodeEscape s)
    | some high =>
      let after := digits.drop 4
      if 0xD800 ≤ high && high < 0xDC00 && 6 < after.length && after.take 2 == ['\\', 'u'] then
        match fourDigits? (after.drop 2) with
        | none => .error (.at .unicodeEscape (after.drop 1))
        | some low =>
          if 0xDC00 ≤ low && low < 0xE000 then
            .ok (Char.ofNat (0x10000 + (high - 0xD800) * 0x400 + (low - 0xDC00)), 11)
          else .ok (scalar high, 5)
      else .ok (scalar high, 5)
  | c :: _ =>
    match plainEscape? c with
    | some x => .ok (x, 1)
    | none => .error (.at .escape ('\\' :: s))

/-- Reads up to the closing quote; `opening` is the text from the opening quote on, and `done` what was read, the last
character first. -/
def readText (opening done s : List Char) : Except Fault (String × List Char) :=
  match s with
  | [] => .error (.at .unterminated opening)
  | '"' :: rest => .ok (String.ofList done.reverse, rest)
  | '\\' :: rest =>
    if rest.isEmpty then .error (.at .unterminated opening)
    else
      match escape rest with
      | .error f => .error f
      | .ok (c, used) => readText opening (c :: done) (rest.drop used)
  | c :: rest => if c.toNat < 0x20 then .error (.at .control s) else readText opening (c :: done) rest
termination_by s.length
decreasing_by all_goals simp only [List.length_cons, List.length_drop]; omega

theorem readText_quote (opening done rest : List Char) :
    readText opening done ('"' :: rest) = .ok (String.ofList done.reverse, rest) := by
  simp [readText]

end ModelForge.Json
