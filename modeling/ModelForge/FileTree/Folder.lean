import ModelForge.FileTree.Basic

/-! Making a folder together with the folders above it. -/

namespace ModelForge.FileTree

def addFolder (t : FileTree) (p : Path) : Except Trouble FileTree := do
  let a ← t.locate p
  if p.parts = [] || p.name = ".." || (t.node? a).isSome then throw .present
  return t.set a .folder

/-- A trouble with making a folder does not matter if the folder is there. -/
def forgive (t : FileTree) (p : Path) (trouble : Trouble) : Option FileFault :=
  if trouble = .nullByte then some ⟨trouble, p⟩
  else
    match t.look p with
    | .error f => some f
    | .ok (some .folder) => none
    | .ok _ => some ⟨trouble, p⟩

/-- What was made stays, also when the folder itself cannot be made. -/
def makeFolder (t : FileTree) (p : Path) : FileTree × Option FileFault :=
  match t.addFolder p with
  | .ok made => (made, none)
  | .error .missing =>
    if h : p.parts = [] then (t, some ⟨.missing, p⟩)
    else
      have := Path.parts_parent_length h
      match makeFolder t p.parent with
      | (above, some f) => (above, some f)
      | (above, none) =>
        match above.addFolder p with
        | .ok made => (made, none)
        | .error .missing => (above, some ⟨.missing, p⟩)
        | .error trouble => (above, above.forgive p trouble)
  | .error trouble => (t, t.forgive p trouble)
termination_by p.parts.length

end ModelForge.FileTree
