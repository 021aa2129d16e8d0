import ModelForge.Json.Fault
import ModelForge.Value.Basic

/-! Reading a number: digits, and as much of a fraction and an exponent as is complete. -/

namespace ModelForge.Json

def isDigit (c : Char) : Bool := '0' ≤ c && c ≤ '9'

def digitsValue (s : List Char) : Nat := s.foldl (fun n c => 10 * n + (c.toNat - 48)) 0

def wholeDigits (s : List Char) : List Char :=
  match s with
  | '0' :: _ => ['0']
  | _ => s.takeWhile isDigit

def fractionDigits (s : List Char) : List Char :=
  match s with
  | '.' :: rest => rest.takeWhile isDigit
  | _ => []

def exponentPart (s : List Char) : Int × Nat :=
  match s with
  | c :: rest =>
    if c = 'e' || c = 'E' then
      let sign := (rest.take 1).filter fun c => c = '-' || c = '+'
      let digits := (rest.drop sign.length).takeWhile isDigit
      if digits.isEmpty then (0, 0)
      else
        let n : Int := digitsValue digits
        (if sign = ['-'] then -n else n, 1 + sign.length + digits.length)
    else (0, 0)
  | [] => (0, 0)

def readNumber (s : List Char) : Except Fault (Value × List Char) :=
  let negative := s.head? == some '-'
  let unsigned := if negative then s.drop 1 else s
  let whole := wholeDigits unsigned
  if whole.isEmpty then .error (.at .value s)
  else
    let afterWhole := unsigned.drop whole.length
    let fraction := fractionDigits afterWhole
    let afterFraction := if fraction.isEmpty then afterWhole else afterWhole.drop (fraction.length + 1)
    let (exponent, used) := exponentPart afterFraction
    if fraction.isEmpty && used = 0 then
      if maxDigits < whole.length then .error (.longNumber whole.length)
      else .ok (.int (if negative then -digitsValue whole else digitsValue whole), afterWhole)
    else
      let (digits, e) := Magnitude.normalized (whole.length + fraction.length) (digitsValue (whole ++ fraction))
        (exponent - fraction.length)
      .ok (.decimal negative (.rounded digits e), afterFraction.drop used)

end ModelForge.Json
