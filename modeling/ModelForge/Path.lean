import ModelForge.Text.Lines

/-! Paths: the slashes that they start with, and their parts. Empty parts and single dots say nothing and are left out; a
double dot stays, because it is a step up only where the path is followed. -/

namespace ModelForge

structure Path where
  slashes : Nat
  parts : List String
  deriving DecidableEq, Repr

namespace Path

/-- Exactly two slashes at the start stay two, any other number of them counts as one. -/
def leadingSlashes (s : List Char) : Nat :=
  match (s.takeWhile (· = '/')).length with
  | 0 => 0
  | 2 => 2
  | _ => 1

def isPart (part : List Char) : Bool := part != [] && part != ['.']

def partsOf (s : List Char) : List String := ((Text.cutAt '/' s).filter isPart).map String.ofList

def ofText (s : String) : Path := ⟨leadingSlashes s.toList, partsOf s.toList⟩

def display (p : Path) : String :=
  if p.slashes = 0 && p.parts.isEmpty then "."
  else String.ofList (List.replicate p.slashes '/' ++ Text.joinWith ['/'] (p.parts.map String.toList))

/-- A second path that starts with a slash stands alone. -/
def join (p q : Path) : Path := if q.slashes = 0 then ⟨p.slashes, p.parts ++ q.parts⟩ else q

def child (p : Path) (name : String) : Path := ⟨p.slashes, p.parts ++ [name]⟩

def parent (p : Path) : Path := ⟨p.slashes, p.parts.dropLast⟩

def name (p : Path) : String := p.parts.getLast?.getD ""

/-- The end of a name from its last dot on, if that dot is neither its first nor its last character. -/
def suffixOf (name : List Char) : List Char :=
  let ending := (name.reverse.takeWhile (· ≠ '.')).reverse
  if ending.isEmpty || name.length ≤ ending.length + 1 then [] else '.' :: ending

def suffix (p : Path) : String := String.ofList (suffixOf p.name.toList)

/-- The order of paths goes by their parts, with the slashes as one more part in front. -/
def sortKey (p : Path) : List String :=
  if p.slashes = 0 then p.parts else String.ofList (List.replicate p.slashes '/') :: p.parts

def before (p q : Path) : Bool := !decide (q.sortKey < p.sortKey)

theorem parts_parent_length {p : Path} (h : p.parts ≠ []) : p.parent.parts.length < p.parts.length := by
  have := List.length_pos_iff.2 h
  simp only [parent, List.length_dropLast]
  omega

end Path

end ModelForge
