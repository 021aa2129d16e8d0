import ModelForge.Value.Basic

/-! What goes wrong when a value is used as something that it is not. -/

namespace ModelForge

inductive Mismatch where
  | notIterable (kind : String)
  | unhashable (kind : String)
  | notPair (index : Nat)
  | pairLength (index length : Nat)
  | notCount (kind : String)
  | notOrdered (kind : String)
  | notText (kind : String)
  | notSuffix (kind : String)
  | noOperation (kind operation : String)
  | notIndexSized
  | tooDeep

inductive Mismatch.Cause where
  | kind
  | operation
  | content
  deriving DecidableEq

namespace Mismatch

def cause : Mismatch → Cause
  | noOperation _ _ => .operation
  | pairLength _ _ => .content
  | notIndexSized => .content
  | tooDeep => .content
  | _ => .kind

def message : Mismatch → String
  | notIterable k => "'" ++ k ++ "' object is not iterable"
  | unhashable k => "unhashable type: '" ++ k ++ "'"
  | notPair i => "cannot convert dictionary update sequence element #" ++ toString i ++ " to a sequence"
  | pairLength i n =>
    "dictionary update sequence element #" ++ toString i ++ " has length " ++ toString n ++ "; 2 is required"
  | notCount k => "can't multiply sequence by non-int of type '" ++ k ++ "'"
  | notOrdered k => "'<' not supported between instances of '" ++ k ++ "' and 'int'"
  | notText k => "tuple for startswith must only contain str, not " ++ k
  | notSuffix k => "endswith first arg must be str or a tuple of str, not " ++ k
  | noOperation k op => "'" ++ k ++ "' object has no attribute '" ++ op ++ "'"
  | notIndexSized => "cannot fit 'int' into an index-sized integer"
  | tooDeep => "maximum recursion depth exceeded"

end Mismatch

namespace Value

def elements : Value → Except Mismatch (List Value)
  | text s => .ok (s.toList.map fun c => text c.toString)
  | list items => .ok items
  | object entries => .ok (entries.map fun e => text e.1)
  | v => .error (.notIterable v.kind)

end Value

end ModelForge
