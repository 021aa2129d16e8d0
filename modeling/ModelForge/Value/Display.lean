import ModelForge.Text.Quoted
import ModelForge.Value.Basic

/-! The text of a value where it is inserted into generated code or a message. -/

namespace ModelForge.Value

/-- Decimals keep one digit after the point; from sixteen places before it, or more than four zeros after it, they are
written with an exponent. -/
def finiteText (digits : Nat) (exponent : Int) : List Char :=
  let ds := (toString digits).toList
  let n : Int := ds.length
  let point := n + exponent
  let zeros (k : Int) : List Char := List.replicate k.toNat '0'
  if digits = 0 then "0.0".toList
  else if -4 < point && point ≤ 16 then
    if point ≤ 0 then "0.".toList ++ zeros (-point) ++ ds
    else if n ≤ point then ds ++ zeros (point - n) ++ ".0".toList
    else ds.take point.toNat ++ '.' :: ds.drop point.toNat
  else
    let e := point - 1
    let es := (toString e.natAbs).toList
    ds.take 1 ++ (if ds.length = 1 then [] else '.' :: ds.drop 1) ++ ['e', if e < 0 then '-' else '+'] ++
      (if es.length < 2 then '0' :: es else es)

/-- The sign stands before the size, but not before what is no number. -/
def signedText (infinite undefined : List Char) (negative : Bool) (size : Magnitude) : List Char :=
  match size with
  | .finite digits exponent => (if negative then ['-'] else []) ++ finiteText digits exponent
  | .infinite => (if negative then ['-'] else []) ++ infinite
  | .undefined => undefined

def decimalText (negative : Bool) (size : Magnitude) : String :=
  String.ofList (signedText "inf".toList "nan".toList negative size)

mutual

def inner : Value → String
  | null => "None"
  | bool b => if b then "True" else "False"
  | int n => toString n
  | decimal negative size => decimalText negative size
  | text s => Text.quoted s
  | list items => "[" ++ innerItems items ++ "]"
  | object entries => "\x7b" ++ innerEntries entries ++ "\x7d"

def innerItems : List Value → String
  | [] => ""
  | [v] => inner v
  | v :: rest => inner v ++ ", " ++ innerItems rest

def innerEntries : List (String × Value) → String
  | [] => ""
  | [(k, v)] => Text.quoted k ++ ": " ++ inner v
  | (k, v) :: rest => Text.quoted k ++ ": " ++ inner v ++ ", " ++ innerEntries rest

end

def display : Value → String
  | text s => s
  | v => inner v

theorem display_text (s : String) : display (text s) = s := rfl

end ModelForge.Value
