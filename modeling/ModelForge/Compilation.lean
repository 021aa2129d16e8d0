import ModelForge.Discovery
import ModelForge.Generator
import ModelForge.Model.Document

/-! Compiling model documents: reading, reconciling and generating. Whatever is wrong with a document becomes part of its
result, so that every document of a batch has one. -/

namespace ModelForge

inductive CompilationError where
  | check (m : Mismatch)
  | generation (e : GenerationError)

def CompilationError.message : CompilationError → String
  | check m => "Unexpected failure: " ++ m.message
  | generation e => (if e.isForeseen then "Code generation failed: " else "Unexpected failure: ") ++ e.message

structure Summary where
  entity : String
  language : String
  fields : Nat
  entityMembers : Nat
  dtoMembers : Nat
  mapped : Nat
  deriving DecidableEq, Repr

def Schema.summary (s : Schema) (language : String) : Summary :=
  ⟨s.name, language, s.fields.length, s.entityFields.length, s.dtoFields.length, s.sharedFields.length⟩

inductive Outcome where
  | compiled (artifacts : List Artifact) (warnings : List String) (summary : Summary)
  | skipped (reason : SkipReason)
  | failed (e : CompilationError)

namespace Outcome

def artifacts : Outcome → List Artifact
  | compiled as _ _ => as
  | _ => []

def warnings : Outcome → List String
  | compiled _ ws _ => ws
  | _ => []

def state : Outcome → String
  | compiled _ _ _ => "ok"
  | skipped _ => "skipped"
  | failed _ => "error"

end Outcome

structure Compilation where
  identifier : String
  outcome : Outcome

namespace Compilation

def artifacts (c : Compilation) : List Artifact := c.outcome.artifacts

def display (c : Compilation) : String :=
  "GenerationResult(" ++ Text.quoted c.identifier ++ ", " ++ c.outcome.state ++ ", artifacts=" ++
    (Value.list (c.artifacts.map fun a => .text a.name)).inner ++ ")"

end Compilation

namespace ModelDocument

def schema (d : ModelDocument) : Schema := .ofDeclarations d.name d.declarations

end ModelDocument

namespace Generator

def compileDocument (g : Generator) (d : ModelDocument) : Outcome :=
  match g.warnings d.schema with
  | .error m => .failed (.check m)
  | .ok warnings =>
    match g.generate d.schema with
    | .error e => .failed (.generation e)
    | .ok artifacts => .compiled artifacts (d.warnings ++ warnings) (d.schema.summary g.language)

def compileText (g : Generator) (text : Option String) : Outcome :=
  match ModelDocument.read text with
  | .error reason => .skipped reason
  | .ok d => g.compileDocument d

def compile (g : Generator) (u : SourceUnit) : Compilation := ⟨u.identifier, g.compileText u.text⟩

def compileAll (g : Generator) (us : List SourceUnit) : List Compilation := us.map g.compile

theorem length_compileAll (g : Generator) (us : List SourceUnit) : (g.compileAll us).length = us.length := by
  simp [compileAll]

end Generator

def artifactsOf (cs : List Compilation) : List Artifact := cs.flatMap (·.artifacts)

end ModelForge
