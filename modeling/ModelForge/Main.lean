import ModelForge.CommandLine.Invocation

/-! The program: reads from disk what its arguments name, performs the invocation, and writes what that changed. -/

namespace ModelForge.Program

def absolute (a : Address) : String := "/" ++ "/".intercalate a

def readNode : Nat → FileTree → Address → IO FileTree
  | depth, t, a => do
    try
      let content ← IO.FS.readBinFile (absolute a)
      return t.set a (.file content)
    catch _ =>
      try
        let below ← (← IO.FS.realPath (absolute a)).readDir
        match depth with
        | 0 => return t.set a .folder
        | depth + 1 => below.foldlM (fun t e => readNode depth t (a ++ [e.fileName])) (t.set a .folder)
      catch _ => return t

def readPath (depth : Nat) (t : FileTree) (p : Path) : IO FileTree := do
  let places := (List.range (p.parts.length + 1)).map fun n => t.resolve ⟨p.slashes, p.parts.take n⟩
  let above := places.flatMap fun a => (List.range (a.length + 1)).map a.take
  let t ← above.foldlM (readNode 0) t
  readNode depth t (t.resolve p)

def readTree (home : Address) (arguments : List String) : IO FileTree := do
  match CommandLine.Options.read arguments with
  | .error _ => return ⟨home, []⟩
  | .ok o =>
    let t ← o.inputs.foldlM (fun t s => readPath FileTree.pathLimit t (.ofText s)) ⟨home, []⟩
    let t ← o.config.toList.foldlM (fun t s => readPath 0 t (.ofText s)) t
    o.outputDir.toList.foldlM (fun t s => readPath 1 t (.ofText s)) t

def writeNode (a : Address) : Node → IO Unit
  | .folder => IO.FS.createDirAll (absolute a)
  | .file content => IO.FS.writeBinFile (absolute a) content

def writeChanges (old new : FileTree) : IO Unit :=
  new.entries.forM fun (a, n) => if old.node? a = some n then pure () else writeNode a n

end ModelForge.Program

open ModelForge in
def main (arguments : List String) : IO UInt32 := do
  let home := (Path.ofText (← IO.currentDir).toString).parts
  let t ← Program.readTree home arguments
  let i := CommandLine.Invocation.perform Registry.builtin t arguments
  Program.writeChanges t i.session.tree
  IO.print i.output
  IO.eprint i.errorOutput
  i.session.printed.forM fun p => IO.println p.text
  match i.exit with
  | .ok code => return code.toUInt32
  | .error c =>
    IO.eprintln c.message
    return 1
