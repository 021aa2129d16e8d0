import ModelForge.FileTree.Folder
import ModelForge.Generator

/-! Writing artifacts: each has to end up directly in the output folder, and one that does not, or cannot be written, is
reported without keeping the others from being written. -/

namespace ModelForge

inductive Refusal where
  | outside (name : String)
  | notWritten (f : FileFault)
  deriving DecidableEq, Repr

def Refusal.message : Refusal → String
  | outside name => "file name " ++ Text.quoted name ++ " is not inside the output directory"
  | notWritten f => "could not write file: " ++ f.message

inductive DeliveryError where
  | noFolder (directory : Path) (f : FileFault)
  | fault (f : FileFault)
  deriving DecidableEq, Repr

def DeliveryError.message : DeliveryError → String
  | noFolder directory f => "Error creating " ++ directory.display ++ ": " ++ f.message
  | fault f => f.message

structure Delivery where
  written : List Path
  refusals : List (String × Refusal)

namespace Delivery

def empty : Delivery := ⟨[], []⟩

def addWritten (d : Delivery) (p : Path) : Delivery := { d with written := d.written ++ [p] }

def refuse (d : Delivery) (name : String) (r : Refusal) : Delivery := { d with refusals := Entries.put name r d.refusals }

end Delivery

namespace FileTree

def isDirectlyIn (t : FileTree) (directory target : Path) : Bool := (t.resolve target).dropLast = t.resolve directory

/-- What was written before a fault stays. -/
def deliverAll (t : FileTree) (directory : Path) (d : Delivery) : List Artifact → FileTree × Except DeliveryError Delivery
  | [] => (t, .ok d)
  | a :: rest =>
    let target := directory.join (.ofText a.name)
    if a.name.toList.contains '\x00' then (t, .error (.fault ⟨.nullByte, target⟩))
    else if a.name = "" || !t.isDirectlyIn directory target then
      t.deliverAll directory (d.refuse a.name (.outside a.name)) rest
    else
      match t.write target a.source.toUTF8 with
      | .error f => t.deliverAll directory (d.refuse a.name (.notWritten f)) rest
      | .ok after => after.deliverAll directory (d.addWritten target) rest

def deliver (t : FileTree) (directory : Path) (artifacts : List Artifact) : FileTree × Except DeliveryError Delivery :=
  match t.makeFolder directory with
  | (after, none) => after.deliverAll directory .empty artifacts
  | (after, some f) => (after, .error (if f.isReported then .noFolder directory f else .fault f))

end FileTree

end ModelForge
