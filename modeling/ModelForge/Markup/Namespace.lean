import ModelForge.Markup.Fault

/-! Prefixes and the namespaces to which they are bound. -/

namespace ModelForge.Markup

structure Name where
  space : Option (List Char)
  base : List Char
  deriving DecidableEq, Repr

def Name.plain (base : String) : Name := ⟨none, base.toList⟩

def xmlNamespace : List Char := "http://www.w3.org/XML/1998/namespace".toList

def xmlnsNamespace : List Char := "http://www.w3.org/2000/xmlns/".toList

/-- The empty prefix stands for names without one. The latest binding of a prefix is the first in the list. -/
abbrev Bindings := List (List Char × Option (List Char))

def Bindings.initial : Bindings := [("xml".toList, some xmlNamespace)]

/-- Namespace names that hold the mark by which names are put together are refused. -/
def nameMark : Char := '\x7d'

def Bindings.bind (b : Bindings) (pre uri : List Char) : Except Flaw Bindings :=
  let isXml := pre = "xml".toList
  if uri.isEmpty && !pre.isEmpty then .error .undeclaredPrefix
  else if pre = "xmlns".toList then .error .reservedXmlns
  else if uri.contains nameMark then .error .unexpected
  else if isXml && uri != xmlNamespace then .error .reservedXml
  else if !isXml && (uri = xmlNamespace || uri = xmlnsNamespace) then .error .reservedName
  else .ok ((pre, if uri.isEmpty then none else some uri) :: b)

def Bindings.space? (b : Bindings) (pre : List Char) : Option (List Char) := (b.lookup pre).join

def splitName (written : List Char) : List Char × List Char :=
  if written.contains ':' then (written.takeWhile (· ≠ ':'), (written.dropWhile (· ≠ ':')).drop 1) else ([], written)

def boundPrefix? (written : List Char) : Option (List Char) :=
  if written = "xmlns".toList then some []
  else if "xmlns:".toList.isPrefixOf written then some (written.drop 6)
  else none

/-- The name of an element: without a prefix it is in the default namespace. -/
def Bindings.elementName (b : Bindings) (written : List Char) : Except Flaw Name :=
  let (pre, base) := splitName written
  match b.space? pre with
  | some uri => .ok ⟨some uri, base⟩
  | none => if pre.isEmpty then .ok ⟨none, base⟩ else .error .unboundPrefix

/-- The name of an attribute: without a prefix it is in no namespace. -/
def Bindings.attributeName (b : Bindings) (written : List Char) : Except Flaw Name :=
  let (pre, base) := splitName written
  if pre.isEmpty then .ok ⟨none, base⟩
  else
    match b.space? pre with
    | some uri => .ok ⟨some uri, base⟩
    | none => .error .unboundPrefix

end ModelForge.Markup
