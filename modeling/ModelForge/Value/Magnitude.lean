/-! How large a decimal is. Of a number no more than 53 binary digits are kept: a decimal stands for the nearest number that
has so many, and of all decimals that stand for one number the shortest is its representative. -/

namespace ModelForge

inductive Magnitude where
  | finite (digits : Nat) (exponent : Int)
  | infinite
  | undefined
  deriving DecidableEq, Repr

namespace Magnitude

def normalized : Nat → Nat → Int → Nat × Int
  | 0, digits, exponent => (digits, exponent)
  | fuel + 1, digits, exponent =>
    if digits = 0 then (0, 0)
    else if digits % 10 = 0 then normalized fuel (digits / 10) (exponent + 1)
    else (digits, exponent)

def digitCount (n : Nat) : Nat := (Nat.toDigits 10 n).length

/-- The whole number nearest to a ratio, and of two the even one. -/
def roundDiv (num den : Nat) : Nat :=
  let twice := 2 * (num % den)
  if twice < den || (twice = den && num / den % 2 = 0) then num / den else num / den + 1

def leading (num den : Nat) : Int :=
  let e : Int := num.log2 - den.log2
  if den * Nat.pow 2 e.toNat ≤ num * Nat.pow 2 (-e).toNat then e else e - 1

def leastPlace : Int := -1074

def greatestPlace : Int := 971

/-- The number `m · 2 ^ q` that a decimal stands for, `m` having at most 53 binary digits; none if it is too large for
them. Exponents that are far off are told by the place of the first digit. -/
def nearest (digits : Nat) (exponent : Int) : Option (Nat × Int) :=
  let first : Int := digitCount digits + exponent
  if digits = 0 || first < -330 then some (0, leastPlace)
  else if 310 < first then none
  else
    let num := digits * Nat.pow 10 exponent.toNat
    let den := Nat.pow 10 (-exponent).toNat
    let q := max (leading num den - 52) leastPlace
    let m := roundDiv (num * Nat.pow 2 (-q).toNat) (den * Nat.pow 2 q.toNat)
    let (m, q) := if m = Nat.pow 2 53 then (Nat.pow 2 52, q + 1) else (m, q)
    if greatestPlace < q then none else some (m, q)

/-- The decimals next to `m · 2 ^ q`, those of fewer digits first, and of two the nearer one. -/
def neighbours (m : Nat) (q : Int) : List (Nat × Int) :=
  let num := m * Nat.pow 2 q.toNat
  let den := Nat.pow 2 (-q).toNat
  let top : Int := digitCount num - digitCount den + 1
  (List.range 20).flatMap fun (i : Nat) =>
    let place := top - i
    let a := num * Nat.pow 10 (-place).toNat
    let b := den * Nat.pow 10 place.toNat
    let near := roundDiv a b
    [near, 2 * (a / b) + 1 - near].map fun d => normalized (digitCount d) d place

/-- The shortest decimal that stands for the same number. -/
def rounded (digits : Nat) (exponent : Int) : Magnitude :=
  match nearest digits exponent with
  | none => infinite
  | some number =>
    let shortest := (neighbours number.1 number.2).find? fun d => nearest d.1 d.2 = some number
    finite (shortest.getD (digits, exponent)).1 (shortest.getD (digits, exponent)).2

end Magnitude

end ModelForge
