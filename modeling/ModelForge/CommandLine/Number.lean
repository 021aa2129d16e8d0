import ModelForge.Text.Blank
import ModelForge.Text.Digit

/-! Whole numbers as they are typed: blanks around them, a sign, and single underscores between digits are allowed. -/

namespace ModelForge.CommandLine

/-- The information separators are blanks elsewhere, but not around a number. -/
def isMargin (c : Char) : Bool := Text.isBlank c && !(28 ≤ c.toNat && c.toNat ≤ 31)

def maxDigits : Nat := 4300

/-- The values of digits with at most one underscore between any two of them; `after` tells whether a digit went before. -/
def digitValues (after : Bool) : List Char → Option (List Nat)
  | [] => if after then some [] else none
  | '_' :: rest => if after && (rest.head?.bind Text.digitValue?).isSome then digitValues false rest else none
  | c :: rest => do
    let d ← Text.digitValue? c
    let ds ← digitValues true rest
    return d :: ds

def natural? (s : List Char) : Option Nat := do
  let ds ← digitValues false s
  if maxDigits < ds.length then none else some (ds.foldl (fun n d => 10 * n + d) 0)

def integer? (s : List Char) : Option Int :=
  match Text.stripBy isMargin s with
  | '-' :: rest => (natural? rest).map fun n => -(n : Int)
  | '+' :: rest => (natural? rest).map fun n => (n : Int)
  | rest => (natural? rest).map fun n => (n : Int)

def isNegativeNumber : List Char → Bool
  | '-' :: rest =>
    let isDigit (c : Char) : Bool := (Text.digitValue? c).isSome
    let body := if rest.getLast? = some '\n' then rest.dropLast else rest
    match body.dropWhile isDigit with
    | [] => !body.isEmpty
    | '.' :: places => !places.isEmpty && places.all isDigit
    | _ => false
  | _ => false

end ModelForge.CommandLine
