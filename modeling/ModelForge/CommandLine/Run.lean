import ModelForge.CommandLine.Options
import ModelForge.CommandLine.Printed
import ModelForge.Compilation
import ModelForge.Creation
import ModelForge.Delivery
import ModelForge.Duplicates
import ModelForge.Settings.Check

/-! A run of the program: settings, generator, documents, artifacts, and a summary of what became of each document. -/

namespace ModelForge.CommandLine

/-- A refusal ends the run with a message; the other failures are foreseen by nobody. -/
inductive Failure where
  | refused (message : String)
  | load (e : LoadError)
  | mismatch (m : Mismatch)
  | creation (e : CreationError)
  | discovery (e : DiscoveryError)
  | delivery (e : DeliveryError)

def Failure.message : Failure → String
  | refused message => message
  | load e => e.message
  | mismatch m => m.message
  | creation e => e.message
  | discovery e => e.message
  | delivery e => e.message

structure Session where
  tree : FileTree
  printed : List Printed

abbrev Run := ExceptT Failure (StateM Session)

def print (p : Printed) : Run Unit := modify fun s => { s with printed := s.printed ++ [p] }

def printLine (t : StyledText) : Run Unit := print (.line t)

def refuse {α : Type} (message : String) : Run α := throw (.refused message)

def tree : Run FileTree := return (← get).tree

def overrides (o : Options) : List (String × Value) :=
  (match o.rootNamespace with
    | some name => if name = "" then [] else [(Setting.rootNamespace.key, Value.text name)]
    | none => []) ++
  if o.noComments then [(Setting.addComments.key, .bool false)] else []

def loadSettings (o : Options) : Run Settings := do
  match Settings.load (← tree) (Text.lower o.language) (overrides o) o.config with
  | .error (.config e) => refuse ("Configuration error: " ++ e.message)
  | .error e => throw (.load e)
  | .ok s => return s

def warning (s : String) : Printed := .line [.styled .yellow "⚠️  Config:", .plain (" " ++ s)]

def checkSettings (s : Settings) : Run Unit := do
  match s.check with
  | .error m => throw (.mismatch m)
  | .ok warnings => for w in warnings do print (warning w)

def makeGenerator (r : Registry) (o : Options) (s : Settings) : Run Generator := do
  match r.createWith o.language s with
  | .error (.registry e) => refuse e.message
  | .error e => throw (.creation e)
  | .ok (_, g) => return g

def findUnits (o : Options) (s : Settings) : Run (List SourceUnit) := do
  match (← tree).units (s.get .schemaSuffix) o.inputs with
  | .error (.notFound p) => refuse (DiscoveryError.notFound p).message
  | .error e => throw (.discovery e)
  | .ok us => return us

structure Report where
  compilation : Compilation
  unwritten : List String

namespace Report

def ofCompilation (c : Compilation) : Report := ⟨c, []⟩

def ofDelivery (d : Delivery) (c : Compilation) : Report :=
  ⟨c, c.artifacts.filterMap fun a => (Entries.find? a.name d.refusals).map fun r => a.name ++ ": " ++ r.message⟩

def failure? (r : Report) : Option String :=
  if r.unwritten.isEmpty then
    match r.compilation.outcome with
    | .failed e => some e.message
    | _ => none
  else some ("; ".intercalate r.unwritten)

def skipReason? (r : Report) : Option String :=
  match r.compilation.outcome with
  | .skipped reason => some reason.message
  | _ => none

def isCompiled (r : Report) : Bool := r.failure?.isNone && r.skipReason?.isNone

def row? (verbose : Bool) (r : Report) : Option (List StyledText) :=
  let row (status : Span) (details : String) : List StyledText :=
    [[.plain r.compilation.identifier], [status], [.plain details]]
  match r.failure?, r.skipReason? with
  | some message, _ => some (row (.styled .red "✗ failed") message)
  | none, some reason => some (row (.styled .yellow "skipped") reason)
  | none, none =>
    if verbose then
      some (row (.styled .green "✓") (", ".intercalate (r.compilation.artifacts.map (·.name))))
    else none

end Report

def writtenLine (count : Nat) (directory : String) : Printed :=
  .line [.styled .green "✓", .plain (" Wrote " ++ toString count ++ " files to "), .styled .cyan directory]

def duplicateLine (name : String) : Printed :=
  .line [.styled .yellow ("⚠️  " ++ name ++ " is generated by more than one model; last one wins")]

def countLine (reports : List Report) : Printed :=
  .line [.styled .green "✓",
    .plain (" " ++ toString (reports.countP (·.isCompiled)) ++ " of " ++ toString reports.length ++
      " model documents compiled (" ++ toString (reports.countP (·.skipReason?.isSome)) ++ " skipped)")]

def deliver (cs : List Compilation) (directory : String) : Run (List Report) := do
  let artifacts := artifactsOf cs
  for name in duplicates (artifacts.map (·.name)) do print (duplicateLine name)
  let (after, r) := (← tree).deliver (.ofText directory) artifacts
  modify fun s => { s with tree := after }
  match r with
  | .error (.noFolder p f) => refuse (DeliveryError.noFolder p f).message
  | .error e => throw (.delivery e)
  | .ok d => do
    print (writtenLine d.written.length directory)
    return cs.map (Report.ofDelivery d)

def showSources (cs : List Compilation) : Run (List Report) := do
  for a in artifactsOf cs do print (.source a.name a.source)
  return cs.map Report.ofCompilation

def printSummary (reports : List Report) (verbose : Bool) : Run Unit := do
  let rows := reports.filterMap (Report.row? verbose)
  if !rows.isEmpty then print (.table "📊 Generation Summary" ["Model", "Status", "Details"] rows)
  if verbose then
    for r in reports do
      for w in r.compilation.outcome.warnings do printLine [.plain "  ", .styled .yellow "•", .plain (" " ++ w)]
  print (countLine reports)

def languageRow (i : Registry.Info) (language : String) : List StyledText :=
  [[.plain ("🔧 " ++ language)], [.plain i.extension.display], [.plain i.className],
    [if i.aliases.isEmpty then .styled .dim "none" else .plain (", ".intercalate i.aliases)]]

def listLanguages (r : Registry) : Run Unit := do
  let t ← tree
  let rows ← r.languages.mapM fun language =>
    match r.info t language with
    | .error e => throw (.creation e)
    | .ok i => return languageRow i language
  print (.table "📋 Supported Languages" ["Language", "Extension", "Generator Class", "Aliases"] rows)

def generateAll (r : Registry) (o : Options) : Run Unit := do
  if o.inputs.isEmpty then refuse "At least one model document or directory is required"
  let s ← loadSettings o
  checkSettings s
  let g ← makeGenerator r o s
  let us ← findUnits o s
  if us.isEmpty then
    printLine [.styled .yellow ("No " ++ s.shown .schemaSuffix ++ " files found")]
  else
    let cs := g.compileAll us
    let reports ← match o.outputDir.filter (· ≠ "") with
      | some directory => deliver cs directory
      | none => showSources cs
    printSummary reports o.verbose

def run (r : Registry) (o : Options) : Run Unit := if o.listLanguages then listLanguages r else generateAll r o

end ModelForge.CommandLine
