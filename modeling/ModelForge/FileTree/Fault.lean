import ModelForge.Path
import ModelForge.Text.Quoted

/-! What can be wrong with following a path. -/

namespace ModelForge

inductive Trouble where
  | missing
  | present
  | notFolder
  | isFolder
  | nameTooLong
  | nullByte
  deriving DecidableEq, Repr

/-- Number and text of a trouble that the system reports; a null byte is found before the system is asked. -/
def Trouble.report? : Trouble → Option (Nat × String)
  | missing => some (2, "No such file or directory")
  | present => some (17, "File exists")
  | notFolder => some (20, "Not a directory")
  | isFolder => some (21, "Is a directory")
  | nameTooLong => some (36, "File name too long")
  | nullByte => none

structure FileFault where
  trouble : Trouble
  path : Path
  deriving DecidableEq, Repr

def FileFault.message (f : FileFault) : String :=
  match f.trouble.report? with
  | some (number, text) => "[Errno " ++ toString number ++ "] " ++ text ++ ": " ++ Text.quoted f.path.display
  | none => "embedded null byte"

def FileFault.isReported (f : FileFault) : Bool := f.trouble.report?.isSome

end ModelForge
