import ModelForge.Value.Mismatch
import ModelForge.Value.Display

/-! Values as tables: an object is one, and so is a list of pairs. -/

namespace ModelForge.Value

def key : Value → Except Mismatch String
  | text s => .ok s
  | null => .ok "null"
  | bool b => .ok (if b then "true" else "false")
  | int n => .ok (toString n)
  | decimal negative size => .ok (decimalText negative size)
  | v => .error (.unhashable v.kind)

def pair (index : Nat) (v : Value) : Except Mismatch (String × Value) :=
  match v.elements with
  | .error _ => .error (.notPair index)
  | .ok [k, w] => k.key.map fun k => (k, w)
  | .ok others => .error (.pairLength index others.length)

def pairs (index : Nat) (table : List (String × Value)) : List Value → Except Mismatch (List (String × Value))
  | [] => .ok table
  | v :: rest =>
    match pair index v with
    | .error m => .error m
    | .ok (k, w) => pairs (index + 1) (Entries.put k w table) rest

def table : Value → Except Mismatch (List (String × Value))
  | object entries => .ok entries
  | v =>
    match v.elements with
    | .error m => .error m
    | .ok vs => pairs 0 [] vs

theorem table_object (entries : List (String × Value)) : table (object entries) = .ok entries := rfl

end ModelForge.Value
