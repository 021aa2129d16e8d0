import ModelForge.CommandLine.Word

/-! Reading a command line into options. -/

namespace ModelForge.CommandLine

structure Options where
  inputs : List String
  outputDir : Option String
  language : String
  config : Option String
  rootNamespace : Option String
  noComments : Bool
  workers : Option Int
  verbose : Bool
  logLevel : String
  listLanguages : Bool
  deriving DecidableEq, Repr

def Options.default : Options := ⟨[], none, "csharp", none, none, false, none, false, "WARNING", false⟩

inductive Halt where
  | help
  | version
  | refused (e : UsageError)
  deriving DecidableEq, Repr

namespace Options

def setValue (o : Options) (f : Flag) (value : String) : Except UsageError Options :=
  match f with
  | .outputDir => .ok { o with outputDir := some value }
  | .language => .ok { o with language := value }
  | .config => .ok { o with config := some value }
  | .rootNamespace => .ok { o with rootNamespace := some value }
  | .workers =>
    match integer? value.toList with
    | some n => .ok { o with workers := some n }
    | none => .error (.notInteger f value)
  | .logLevel =>
    if logLevels.contains value then .ok { o with logLevel := value } else .error (.notChoice f value logLevels)
  | _ => .ok o

def switch (o : Options) : Flag → Except Halt Options
  | .help => .error .help
  | .version => .error .version
  | .noComments => .ok { o with noComments := true }
  | .verbose => .ok { o with verbose := true }
  | .listLanguages => .ok { o with listLanguages := true }
  | _ => .ok o

end Options

inductive Ending where
  | flag (f : Flag) (value : Option String)
  | stray (text : String)

structure Cluster where
  switches : List Flag
  ending : Ending

namespace Cluster

def ofFlag (f : Flag) (value : Option String) : Cluster := ⟨[], .flag f value⟩

def ofValue (f : Flag) (value : String) : Except UsageError Cluster :=
  if f.takesValue then .ok (ofFlag f (some value)) else .error (.ignoredValue f value)

def ofLetters (f : Flag) : List Char → Except UsageError Cluster
  | [] => .ok (ofFlag f none)
  | c :: rest =>
    if f.takesValue then .ok (ofFlag f (some (String.ofList (c :: rest))))
    else if c = '-' then .error (.ignoredValue f (String.ofList (c :: rest)))
    else
      match Flag.ofLetter? c, rest with
      | none, _ => .ok ⟨[f], .stray (String.ofList ('-' :: c :: rest))⟩
      | some next, '=' :: value => (ofValue next (String.ofList value)).map fun k => { k with switches := f :: k.switches }
      | some next, _ => (ofLetters next rest).map fun k => { k with switches := f :: k.switches }

def ofGiven (g : Given) : Except UsageError Cluster :=
  match g.attached with
  | .nothing => .ok (ofFlag g.flag none)
  | .value text => ofValue g.flag text
  | .letters text => ofLetters g.flag text

end Cluster

/-- What has been read so far. The inputs are one run of plain words, and later runs are left over. -/
structure Progress where
  options : Options
  inputsRead : Bool
  leftOver : List String

namespace Progress

def start : Progress := ⟨.default, false, []⟩

/-- A run of plain words; the mark that ends the flags is no input. -/
def takeRun (p : Progress) (run : List String) : Progress :=
  if p.inputsRead then { p with leftOver := p.leftOver ++ run }
  else { p with inputsRead := true, options := { p.options with inputs := run.erase Word.endMark } }

def takeStranger (p : Progress) (text : String) : Progress := { p with leftOver := p.leftOver ++ [text] }

def takeSwitches (p : Progress) (fs : List Flag) : Except Halt Progress :=
  (fs.foldlM Options.switch p.options).map fun o => { p with options := o }

def takeValue (p : Progress) (f : Flag) (value : String) : Except Halt Progress :=
  match p.options.setValue f value with
  | .ok o => .ok { p with options := o }
  | .error e => .error (.refused e)

/-- Takes the flags of a word in turn. The value of the last one is in the word or is the next one, and is looked for
before any of the flags counts. -/
def takeFlags (p : Progress) (g : Given) (rest : List Word) : Except Halt (Progress × List Word) := do
  let k ← (Cluster.ofGiven g).mapError .refused
  match k.ending, rest with
  | .stray text, rest => return (← (p.takeStranger text).takeSwitches k.switches, rest)
  | .flag f (some value), rest => return (← (← p.takeSwitches k.switches).takeValue f value, rest)
  | .flag f none, .plain value :: after =>
    if f.takesValue then return (← (← p.takeSwitches k.switches).takeValue f value, after)
    else return (← p.takeSwitches (k.switches ++ [f]), rest)
  | .flag f none, rest =>
    if f.takesValue then throw (.refused (.noValue f)) else return (← p.takeSwitches (k.switches ++ [f]), rest)

/-- Reads all words; each round takes at least one, so their number bounds the rounds. -/
def readAll : Nat → Progress → List Word → Except Halt Progress
  | 0, p, _ => .ok p
  | _ + 1, p, [] => .ok p
  | rounds + 1, p, .stranger text :: rest => readAll rounds (p.takeStranger text) rest
  | rounds + 1, p, .given g :: rest => do
    let (p, rest) ← p.takeFlags g rest
    readAll rounds p rest
  | rounds + 1, p, w :: rest =>
    let run := (w :: rest.takeWhile Word.isOperand).filterMap Word.operand?
    readAll rounds (p.takeRun run) (rest.dropWhile Word.isOperand)

end Progress

def Options.read (arguments : List String) : Except Halt Options := do
  let words ← (Word.classifyAll arguments).mapError .refused
  let p ← Progress.readAll words.length .start words
  if p.leftOver.isEmpty then return p.options
  throw (.refused (.unrecognized p.leftOver))

end ModelForge.CommandLine
