import ModelForge.Entries
import ModelForge.Value.Magnitude

/-! Values of settings, as a JSON document can hold them, with the order of an object's entries kept. -/

namespace ModelForge

inductive Value where
  | null
  | bool (b : Bool)
  | int (n : Int)
  | decimal (negative : Bool) (size : Magnitude)
  | text (s : String)
  | list (items : List Value)
  | object (entries : List (String × Value))

namespace Value

instance : Inhabited Value := ⟨null⟩

def kind : Value → String
  | null => "NoneType"
  | bool _ => "bool"
  | int _ => "int"
  | decimal _ _ => "float"
  | text _ => "str"
  | list _ => "list"
  | object _ => "dict"

/-- Null, false, zero and everything empty count as unset. -/
def isSet : Value → Bool
  | null => false
  | bool b => b
  | int n => n != 0
  | decimal _ size => size != .finite 0 0
  | text s => s != ""
  | list items => !items.isEmpty
  | object entries => !entries.isEmpty

/-- The size of a number: `n · 2 ^ place`, or beyond all of these. -/
inductive Quantity where
  | below
  | scaled (n place : Int)
  | above

def quantity? : Value → Option Quantity
  | bool b => some (.scaled (if b then 1 else 0) 0)
  | int n => some (.scaled n 0)
  | decimal negative (.finite digits exponent) =>
    (Magnitude.nearest digits exponent).map fun (m, place) => .scaled (if negative then -m else m) place
  | decimal negative .infinite => some (if negative then .below else .above)
  | _ => none

def Quantity.order : Quantity → Quantity → Ordering
  | scaled m p, scaled n q =>
    let low := min p q
    compare (m * Int.pow 2 (p - low).toNat) (n * Int.pow 2 (q - low).toNat)
  | below, below => .eq
  | above, above => .eq
  | below, _ => .lt
  | _, below => .gt
  | above, _ => .gt
  | _, above => .lt

def isUndefined : Value → Bool
  | decimal _ .undefined => true
  | _ => false

mutual

/-- Equality of values: numbers by their size whatever their kind, objects whatever the order of their entries. What is no
number differs from itself. -/
def same : Value → Value → Bool
  | null, null => true
  | text a, text b => a == b
  | list a, list b => sameItems a b
  | object a, object b => a.length == b.length && sameEntries a b
  | a, b =>
    match a.quantity?, b.quantity? with
    | some m, some n => m.order n == .eq
    | _, _ => false

/-- There is one value that is no number, which parts of values share. -/
def sameItems : List Value → List Value → Bool
  | [], [] => true
  | a :: as, b :: bs => (same a b || a.isUndefined && b.isUndefined) && sameItems as bs
  | _, _ => false

def sameEntries : List (String × Value) → List (String × Value) → Bool
  | [], _ => true
  | (k, v) :: rest, other =>
    (match Entries.find? k other with
      | some w => same v w || v.isUndefined && w.isUndefined
      | none => false) && sameEntries rest other

end

end ModelForge.Value
