import ModelForge.Source.Comment

/-! The two files of a model, as laid out before they are tidied. -/

namespace ModelForge.Source

structure MemberLine where
  type : String
  name : String
  deriving DecidableEq, Repr

structure ClassBlock where
  name : String
  members : List MemberLine
  deriving DecidableEq, Repr

structure AssignmentLine where
  name : String
  nested : Option String
  deriving DecidableEq, Repr

structure MapperBlock where
  target : String
  method : String
  source : String
  parameter : String
  assignments : List AssignmentLine
  deriving DecidableEq, Repr

structure EntityPage where
  header : Option String
  space : String
  block : ClassBlock
  indent : String
  deriving DecidableEq, Repr

structure DtoPage where
  header : Option String
  used : String
  space : String
  block : ClassBlock
  mapperClass : String
  mappers : List MapperBlock
  indent : String
  deriving DecidableEq, Repr

def headerText : Option String → String
  | none => ""
  | some h => String.ofList (comment ['/', '/'] h.toList) ++ "\n\n"

def MemberLine.render (indent : String) (m : MemberLine) : String :=
  indent ++ "public " ++ m.type ++ " " ++ m.name ++ " \x7b get; set; \x7d\n"

def ClassBlock.render (indent : String) (b : ClassBlock) : String :=
  "public class " ++ b.name ++ "\n\x7b\n" ++ String.join (b.members.map (·.render indent)) ++ "\x7d\n"

def AssignmentLine.render (indent parameter : String) (a : AssignmentLine) : String :=
  indent ++ indent ++ a.name ++ " = " ++ parameter ++ "." ++ a.name ++
    (match a.nested with
      | none => ""
      | some method => "?." ++ method ++ "()") ++ ",\n"

def MapperBlock.render (indent : String) (m : MapperBlock) : String :=
  indent ++ "public static " ++ m.target ++ " " ++ m.method ++ "(this " ++ m.source ++ " " ++ m.parameter ++
    ") => new " ++ m.target ++ "\n" ++ indent ++ "\x7b\n" ++
    String.join (m.assignments.map (·.render indent m.parameter)) ++ indent ++ "\x7d;\n"

def EntityPage.render (p : EntityPage) : String :=
  headerText p.header ++ "namespace " ++ p.space ++ ";\n\n" ++ p.block.render p.indent

def DtoPage.render (p : DtoPage) : String :=
  headerText p.header ++ "using " ++ p.used ++ ";\n\nnamespace " ++ p.space ++ ";\n\n" ++ p.block.render p.indent ++
    "\npublic static class " ++ p.mapperClass ++ "\n\x7b\n" ++
    String.intercalate "\n" (p.mappers.map (·.render p.indent)) ++ "\x7d\n"

end ModelForge.Source
