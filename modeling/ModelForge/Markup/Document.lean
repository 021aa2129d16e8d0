import ModelForge.Markup.Content
import ModelForge.Markup.Declaration
import ModelForge.Markup.Doctype.Reader
import ModelForge.Markup.Encoding

/-! Reading a document into the element at its root. -/

namespace ModelForge.Markup

def readDeclaration (s : List Char) : Except Fault (Read Bool) :=
  match s with
  | '<' :: '?' :: rest =>
    match readInstruction rest with
    | .ok (.declaration body, after) =>
      match Declaration.read body with
      | .ok standalone => .ok (standalone, after)
      | .error bad => .error ⟨.malformedDeclaration, bad ++ '?' :: '>' :: after⟩
    | _ => .ok (false, s)
  | _ => .ok (false, s)

def dropByteOrderMark (s : List Char) : List Char := if s.head? = some '\ufeff' then s.drop 1 else s

def readDocument (document : List Char) : Except Fault Element := do
  let (standalone, rest) ← readDeclaration (dropByteOrderMark document)
  let (d, rest) ← prolog (rest.length + 1) false { Declarations.none with standalone } rest
  let (progress, rest) ← readContent d (expandEntity d (d.entities.length + 1) []) 0 (rest.length + 1) [] rest
  match progress with
  | .finished root =>
    epilog (rest.length + 1) rest
    return root
  | .inside _ => throw ⟨.noElement, rest⟩

def read (text : String) : Except String Element :=
  let document := Characters.ofText text
  (document.endOf (readDocument document.list)).mapError (Fault.message document.list)

end ModelForge.Markup
