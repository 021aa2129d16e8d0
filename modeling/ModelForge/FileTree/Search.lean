import ModelForge.FileTree.Basic
import ModelForge.Glob

/-! Searching a folder for the paths that a pattern with several segments stands for. -/

namespace ModelForge

/-- `here` is what a slash at the end of a pattern leaves: it asks for folders. -/
inductive Segment where
  | anyDepth
  | up
  | here
  | wild (pattern : String)
  | exact (name : String)
  deriving DecidableEq, Repr

namespace Segment

def hasStarPair : List Char → Bool
  | '*' :: '*' :: _ => true
  | _ :: rest => hasStarPair rest
  | [] => false

/-- None if the segment holds two stars in a row beside something else. -/
def ofText? (s : List Char) : Option Segment :=
  if s = ['*', '*'] then some .anyDepth
  else if s = ['.', '.'] then some .up
  else if hasStarPair s then none
  else if Glob.isWild s then some (.wild (String.ofList s))
  else some (.exact (String.ofList s))

def ofPattern? (pattern : List Char) : Option (List Segment) := do
  let segments ← (Path.partsOf pattern).mapM fun part => ofText? part.toList
  return segments ++ if pattern.getLast? = some '/' then [.here] else []

end Segment

namespace FileTree

def foldersBelow (t : FileTree) (a : Address) (p : Path) : List Path :=
  t.entries.filterMap fun (b, n) =>
    if n = .folder && a.isPrefixOf b && a.length < b.length then some ⟨p.slashes, p.parts ++ b.drop a.length⟩ else none

def isFolder (t : FileTree) (a : Address) : Bool := t.node? a = some .folder

def located (t : FileTree) (p : Path) : Except FileFault Address := (t.locate p).mapError fun trouble => ⟨trouble, p⟩

/-- What the segments stand for from `p` on. A segment that another one follows stands for folders only. -/
def select (t : FileTree) : List Segment → Path → Except FileFault (List Path)
  | [], p => .ok [p]
  | .here :: rest, p => select t rest p
  | .up :: rest, p => select t rest (p.child "..")
  | .anyDepth :: rest, p => do
    let a ← t.located p
    let found ← (p :: t.foldersBelow a p).mapM (select t rest)
    return found.flatten
  | .wild pattern :: rest, p => do
    let a ← t.located p
    let fitting := (t.names a).filter fun name =>
      Glob.isMatch pattern.toList name.toList && (rest.isEmpty || t.isFolder (a ++ [name]))
    let found ← fitting.mapM fun name => select t rest (p.child name)
    return found.flatten
  | .exact name :: rest, p => do
    match ← t.look (p.child name) with
    | none => return []
    | some n => if rest.isEmpty || n = .folder then select t rest (p.child name) else return []

def search (t : FileTree) (segments : List Segment) (p : Path) : Except FileFault (List Path) := do
  let found ← t.select (.anyDepth :: segments) p
  found.filterM fun q => do
    match ← t.look q with
    | some (.file _) => return true
    | _ => return false

end FileTree

end ModelForge
