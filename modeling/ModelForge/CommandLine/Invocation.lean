import ModelForge.CommandLine.Run

/-! One invocation of the program, from its arguments to its exit. -/

namespace ModelForge.CommandLine

/-- A failure that nobody foresaw leaves the program without an exit code. -/
structure Invocation where
  exit : Except Failure Nat
  session : Session
  output : String
  errorOutput : String

namespace Invocation

def errorLine (message : String) : Printed := .line [.styled .red "✗ Error:", .plain (" " ++ message)]

def ofRun (o : Options) (r : Registry) (t : FileTree) : Invocation :=
  match (CommandLine.run r o).run ⟨t, []⟩ with
  | (.ok _, s) => ⟨.ok 0, s, "", ""⟩
  | (.error (.refused message), s) => ⟨.ok 1, { s with printed := s.printed ++ [errorLine message] }, "", ""⟩
  | (.error f, s) => ⟨.error f, s, "", ""⟩

def perform (r : Registry) (t : FileTree) (arguments : List String) : Invocation :=
  match Options.read arguments with
  | .ok o => ofRun o r t
  | .error .help => ⟨.ok 0, ⟨t, []⟩, help, ""⟩
  | .error .version => ⟨.ok 0, ⟨t, []⟩, versionText, ""⟩
  | .error (.refused e) => ⟨.ok 2, ⟨t, []⟩, "", e.report⟩

end Invocation

end ModelForge.CommandLine
