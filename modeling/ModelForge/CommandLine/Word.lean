import ModelForge.CommandLine.Number
import ModelForge.CommandLine.Usage

/-! What a single argument is by its own text: a flag, the mark that ends the flags, or plain. -/

namespace ModelForge.CommandLine

/-- What a word holds after the spelling of a flag: a value after an equals sign, or letters right after a short flag. -/
inductive Attached where
  | nothing
  | value (text : String)
  | letters (text : List Char)
  deriving DecidableEq, Repr

structure Given where
  flag : Flag
  attached : Attached
  deriving DecidableEq, Repr

/-- A stranger looks like a flag but is none. -/
inductive Word where
  | plain (text : String)
  | mark
  | given (g : Given)
  | stranger (text : String)
  deriving DecidableEq, Repr

namespace Word

def endMark : String := "--"

def operand? : Word → Option String
  | plain text => some text
  | mark => some endMark
  | given _ => none
  | stranger _ => none

def isOperand (w : Word) : Bool := w.operand?.isSome

def splitAtEquals (s : List Char) : Option (String × String) :=
  match s.dropWhile (· ≠ '=') with
  | _ :: value => some (String.ofList (s.takeWhile (· ≠ '=')), String.ofList value)
  | [] => none

def candidates (s : List Char) : List (String × Given) :=
  if ['-', '-'].isPrefixOf s then
    let (start, attached) := match splitAtEquals s with
      | some (start, value) => (start.toList, Attached.value value)
      | none => (s, .nothing)
    (Flag.spellings.filter fun e => start.isPrefixOf e.1.toList).map fun (name, flag) => (name, ⟨flag, attached⟩)
  else
    (Flag.spellings.filter fun e => e.1.toList = s.take 2).map fun (name, flag) => (name, ⟨flag, .letters (s.drop 2)⟩)

def spelledOut? (s : String) : Option Given :=
  match Flag.ofSpelling? s with
  | some flag => some ⟨flag, .nothing⟩
  | none => do
    let (name, value) ← splitAtEquals s.toList
    let flag ← Flag.ofSpelling? name
    return ⟨flag, .value value⟩

/-- Negative numbers and words with a space are plain unless they are short for a flag. -/
def classify (s : String) : Except UsageError Word :=
  if s.toList.head? ≠ some '-' || s = "-" then .ok (.plain s)
  else
    match spelledOut? s with
    | some g => .ok (.given g)
    | none =>
      match candidates s.toList with
      | [(_, g)] => .ok (.given g)
      | _ :: _ :: _ => .error (.ambiguous s ((candidates s.toList).map (·.1)))
      | [] => .ok (if isNegativeNumber s.toList || s.toList.contains ' ' then .plain s else .stranger s)

/-- After the mark everything is plain. -/
def classifyAll : List String → Except UsageError (List Word)
  | [] => .ok []
  | s :: rest =>
    if s = endMark then .ok (.mark :: rest.map .plain)
    else do
      let w ← classify s
      let ws ← classifyAll rest
      return w :: ws

end Word

end ModelForge.CommandLine
