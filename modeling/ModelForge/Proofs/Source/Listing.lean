import ModelForge.Model.Check
import ModelForge.Proofs.Source.Lines
import ModelForge.Shape
import ModelForge.Source.Page

/-! What the two files of a model say, line by line, and a reader that takes such lines apart again. The reader accepts
nothing but these lines in their order. -/

namespace ModelForge.Source

/-! Cutting a line into parts. -/

def between? (front back line : List Char) : Option (List Char) :=
  let rest := line.drop front.length
  if front.isPrefixOf line && back.isSuffixOf rest then some (rest.take (rest.length - back.length)) else none

def cutFirst? (sep : Char) (s : List Char) : Option (List Char × List Char) :=
  match s.dropWhile (· ≠ sep) with
  | [] => none
  | _ :: after => some (s.takeWhile (· ≠ sep), after)

def cutLast? (sep : Char) (s : List Char) : Option (List Char × List Char) :=
  (cutFirst? sep s.reverse).map fun parts => (parts.2.reverse, parts.1.reverse)

theorem between?_append (front x back : List Char) : between? front back (front ++ (x ++ back)) = some x := by
  have hl : (front ++ (x ++ back)).drop front.length = x ++ back := List.drop_left
  have hp : front.isPrefixOf (front ++ (x ++ back)) = true := List.isPrefixOf_iff_prefix.2 (List.prefix_append _ _)
  have hs : back.isSuffixOf (x ++ back) = true := List.isSuffixOf_iff_suffix.2 (List.suffix_append _ _)
  simp [between?, hl, hp, hs]

theorem cutFirst?_append {sep : Char} {a : List Char} (h : sep ∉ a) (b : List Char) :
    cutFirst? sep (a ++ sep :: b) = some (a, b) := by
  have ha : ∀ c ∈ a, decide (c ≠ sep) = true := fun c hc => decide_eq_true fun e => h (e ▸ hc)
  rw [cutFirst?, List.dropWhile_append_of_pos ha, List.takeWhile_append_of_pos ha]
  simp

theorem cutLast?_append {sep : Char} {b : List Char} (h : sep ∉ b) (a : List Char) :
    cutLast? sep (a ++ sep :: b) = some (a, b) := by
  have hr : (a ++ sep :: b).reverse = b.reverse ++ sep :: a.reverse := by simp
  rw [cutLast?, hr, cutFirst?_append (by simpa using h)]
  simp

theorem toList_blank : " ".toList = [' '] := rfl

def readUntil {α : Type} (close : List Char) (read : List Char → Option α) :
    List (List Char) → Option (List α × List (List Char))
  | [] => none
  | line :: rest =>
    if line = close then some ([], rest)
    else do
      let a ← read line
      let (as, rest) ← readUntil close read rest
      return (a :: as, rest)

def readBlock {α : Type} (close : String) (read : List Char → Option α) :
    List (List Char) → Option (List α × List (List Char))
  | [] => none
  | line :: rest => if line = "\x7b".toList then readUntil close.toList read rest else none

def blockLines {α : Type} (close : String) (line : α → String) (as : List α) : List String :=
  "\x7b" :: (as.map line ++ [close])

section Block

variable {α : Type} {close : String} {read : List Char → Option α} {line : α → String} {as : List α}

theorem readUntil_map (hc : ∀ a ∈ as, line a ≠ close) (hr : ∀ a ∈ as, read (line a).toList = some a)
    (rest : List (List Char)) :
    readUntil close.toList read ((as.map line ++ [close]).map String.toList ++ rest) = some (as, rest) := by
  induction as with
  | nil => simp [readUntil]
  | cons a as ih =>
    have ih := ih (fun x hx => hc x (List.mem_cons_of_mem _ hx)) fun x hx => hr x (List.mem_cons_of_mem _ hx)
    have ha : (line a).toList ≠ close.toList := fun h => hc a (List.mem_cons_self ..) (String.toList_injective h)
    rw [List.map_cons, List.cons_append, List.map_cons, List.cons_append, readUntil, if_neg ha,
      hr a (List.mem_cons_self ..), ih]
    rfl

theorem readBlock_blockLines (hc : ∀ a ∈ as, line a ≠ close) (hr : ∀ a ∈ as, read (line a).toList = some a)
    (rest : List (List Char)) :
    readBlock close read ((blockLines close line as).map String.toList ++ rest) = some (as, rest) := by
  rw [blockLines, List.map_cons, List.cons_append, readBlock, if_pos rfl, readUntil_map hc hr]

end Block

/-! Classes. -/

def memberLine (m : Member) : String :=
  "public " ++ (Field.typeText m.type ++ (" " ++ m.name) ++ " \x7b get; set; \x7d")

def readMember? (line : List Char) : Option Member := do
  let inner ← between? "public ".toList " \x7b get; set; \x7d".toList line
  let (type, name) ← cutLast? ' ' inner
  return ⟨String.ofList name, some (String.ofList type)⟩

def shapeLines (s : Shape) : List String := ("public class " ++ s.className) :: blockLines "\x7d" memberLine s.members

/-- A class, whose namespace has been read before it. -/
def readShape (space : String) : List (List Char) → Option (Shape × List (List Char))
  | [] => none
  | line :: rest => do
    let name ← between? "public class ".toList [] line
    let (members, rest) ← readBlock "\x7d" readMember? rest
    return (⟨String.ofList name, space, members⟩, rest)

/-- A member that can be told from its line. -/
def IsShown (m : Member) : Prop := (∃ t, m.type = some t) ∧ ' ' ∉ m.name.toList

theorem toList_memberLine (m : Member) :
    (memberLine m).toList =
      "public ".toList ++ ((Field.typeText m.type).toList ++ ' ' :: m.name.toList ++ " \x7b get; set; \x7d".toList) := by
  simp only [memberLine, String.toList_append, toList_blank, List.singleton_append]

theorem readMember?_memberLine {m : Member} (h : IsShown m) : readMember? (memberLine m).toList = some m := by
  -- The type may hold blanks, the name does not: the last blank is the one between them.
  obtain ⟨⟨t, ht⟩, hn⟩ := h
  obtain ⟨name, type⟩ := m
  simp only at ht hn
  subst ht
  rw [readMember?, toList_memberLine, between?_append]
  simp only [Field.typeText, Option.getD_some, Option.bind_eq_bind, Option.bind_some, cutLast?_append hn,
    String.ofList_toList]
  rfl

theorem memberLine_ne_close (m : Member) : memberLine m ≠ "\x7d" := by
  intro h
  have hl : (memberLine m).toList.head? = some 'p' := by rw [toList_memberLine, List.head?_append]; rfl
  rw [h] at hl
  exact absurd hl (by decide)

theorem readShape_shapeLines {s : Shape} (h : ∀ m ∈ s.members, IsShown m) (rest : List (List Char)) :
    readShape s.space ((shapeLines s).map String.toList ++ rest) = some (s, rest) := by
  have hb := between?_append "public class ".toList s.className.toList []
  have hm := readBlock_blockLines (fun m _ => memberLine_ne_close m) (fun m hm => readMember?_memberLine (h m hm)) rest
  rw [List.append_nil, ← String.toList_append] at hb
  rw [shapeLines, List.map_cons, List.cons_append, readShape, hb]
  simp only [Option.bind_eq_bind, Option.bind_some, hm, String.ofList_toList]
  rfl

theorem MemberLine.render_eq (m : MemberLine) (indent : String) :
    m.render indent = indent ++ ("public " ++ (m.type ++ (" " ++ m.name) ++ " \x7b get; set; \x7d") ++ "\n") := by
  rw [MemberLine.render, show " \x7b get; set; \x7d\n" = " \x7b get; set; \x7d" ++ "\n" from rfl]
  simp only [String.append_assoc]

theorem ClassBlock.render_eq (b : ClassBlock) (indent : String) :
    b.render indent = ("public class " ++ b.name ++ "\n") ++ (("\x7b" ++ "\n") ++
      (String.join (b.members.map fun m => m.render indent) ++ ("\x7d" ++ "\n"))) := by
  rw [ClassBlock.render, show "\n\x7b\n" = "\n" ++ ("\x7b" ++ "\n") from rfl, show "\x7d\n" = "\x7d" ++ "\n" from rfl]
  simp only [String.append_assoc]

/-! Mappers. -/

def callText : Option String → String
  | none => ""
  | some method => "?." ++ method ++ "()"

def assignmentLine (parameter : String) (a : AssignmentLine) : String :=
  a.name ++ (" " ++ ("= " ++ parameter ++ "." ++ a.name ++ (callText a.nested ++ ",")))

def readCall? (call : List Char) : Option (Option String) :=
  if call.isEmpty then some none
  else (between? "?.".toList "()".toList call).map fun method => some (String.ofList method)

def readAssignment? (parameter : String) (line : List Char) : Option AssignmentLine := do
  let (name, rest) ← cutFirst? ' ' line
  let call ← between? ("= " ++ parameter ++ "." ++ String.ofList name).toList ",".toList rest
  return ⟨String.ofList name, ← readCall? call⟩

def signatureLine (m : MapperBlock) : String :=
  "public static " ++ (m.target ++ (" " ++ m.method) ++ "(this" ++ (" " ++ m.source) ++ (" " ++ m.parameter) ++
    ") => new") ++ (" " ++ m.target)

def readSignature? (line : List Char) : Option MapperBlock := do
  let (head, target) ← cutLast? ' ' line
  let inner ← between? "public static ".toList ") => new".toList head
  let (inner, parameter) ← cutLast? ' ' inner
  let (inner, source) ← cutLast? ' ' inner
  let inner ← between? [] "(this".toList inner
  let (first, method) ← cutFirst? ' ' inner
  if first = target then
    return ⟨String.ofList target, String.ofList method, String.ofList source, String.ofList parameter, []⟩
  else none

def mapperLines (m : MapperBlock) : List String :=
  signatureLine m :: blockLines "\x7d;" (assignmentLine m.parameter) m.assignments

def readMapper : List (List Char) → Option (MapperBlock × List (List Char))
  | [] => none
  | line :: rest => do
    let signature ← readSignature? line
    let (assignments, rest) ← readBlock "\x7d;" (readAssignment? signature.parameter) rest
    return ({ signature with assignments }, rest)

theorem AssignmentLine.render_eq (a : AssignmentLine) (indent parameter : String) :
    a.render indent parameter = indent ++ (indent ++ (assignmentLine parameter a ++ "\n")) := by
  unfold AssignmentLine.render
  rw [assignmentLine, show " = " = " " ++ "= " from rfl, show ",\n" = "," ++ "\n" from rfl]
  cases a.nested <;> simp only [callText, String.append_assoc]

theorem MapperBlock.render_eq (m : MapperBlock) (indent : String) :
    m.render indent = (indent ++ (signatureLine m ++ "\n")) ++ ((indent ++ ("\x7b" ++ "\n")) ++
      (String.join (m.assignments.map fun a => a.render indent m.parameter) ++ (indent ++ ("\x7d;" ++ "\n")))) := by
  unfold MapperBlock.render
  rw [signatureLine, show "(this " = "(this" ++ " " from rfl, show ") => new " = ") => new" ++ " " from rfl,
    show "\x7b\n" = "\x7b" ++ "\n" from rfl, show "\x7d;\n" = "\x7d;" ++ "\n" from rfl]
  simp only [String.append_assoc]

structure MapperBlock.IsShown (m : MapperBlock) : Prop where
  target : ' ' ∉ m.target.toList
  source : ' ' ∉ m.source.toList
  parameter : ' ' ∉ m.parameter.toList
  assignments : ∀ a ∈ m.assignments, ' ' ∉ a.name.toList

theorem readCall?_callText (nested : Option String) : readCall? (callText nested).toList = some nested := by
  cases nested with
  | none => rfl
  | some method =>
    have hb := between?_append "?.".toList method.toList "()".toList
    rw [readCall?, callText, String.toList_append, String.toList_append, List.append_assoc, hb]
    simp

theorem readAssignment?_assignmentLine {a : AssignmentLine} (h : ' ' ∉ a.name.toList) (parameter : String) :
    readAssignment? parameter (assignmentLine parameter a).toList = some a := by
  have hl : (assignmentLine parameter a).toList = a.name.toList ++ ' ' ::
      (("= " ++ parameter ++ "." ++ a.name).toList ++ ((callText a.nested).toList ++ ",".toList)) := by
    simp only [assignmentLine, String.toList_append, toList_blank, List.singleton_append]
  rw [readAssignment?, hl, cutFirst?_append h]
  simp only [Option.bind_eq_bind, Option.bind_some, String.ofList_toList, between?_append, readCall?_callText]
  rfl

theorem assignmentLine_ne_close (parameter : String) (a : AssignmentLine) : assignmentLine parameter a ≠ "\x7d;" := by
  intro h
  have hl : (assignmentLine parameter a).toList.getLast? = some ',' := by
    simp only [assignmentLine, String.toList_append, List.getLast?_append]
    rfl
  rw [h] at hl
  exact absurd hl (by decide)

theorem readSignature?_signatureLine {m : MapperBlock} (h : m.IsShown) :
    readSignature? (signatureLine m).toList = some { m with assignments := [] } := by
  have hl : (signatureLine m).toList = "public static ".toList ++ (m.target.toList ++ ' ' :: m.method.toList ++
      "(this".toList ++ ' ' :: m.source.toList ++ ' ' :: m.parameter.toList ++ ") => new".toList) ++
      ' ' :: m.target.toList := by
    unfold signatureLine
    simp only [String.toList_append, toList_blank, List.singleton_append]
  -- From the right, since only the method may hold blanks.
  have hn := between?_append [] (m.target.toList ++ ' ' :: m.method.toList) "(this".toList
  rw [List.nil_append] at hn
  rw [readSignature?, hl, cutLast?_append h.target]
  simp only [Option.bind_eq_bind, Option.bind_some, between?_append, cutLast?_append h.parameter, cutLast?_append h.source,
    hn, cutFirst?_append h.target, if_true, String.ofList_toList]
  rfl

theorem readMapper_mapperLines {m : MapperBlock} (h : m.IsShown) (rest : List (List Char)) :
    readMapper ((mapperLines m).map String.toList ++ rest) = some (m, rest) := by
  have ha := readBlock_blockLines (fun a _ => assignmentLine_ne_close m.parameter a)
    (fun a ha => readAssignment?_assignmentLine (h.assignments a ha) m.parameter) rest
  rw [mapperLines, List.map_cons, List.cons_append, readMapper, readSignature?_signatureLine h]
  simp only [Option.bind_eq_bind, Option.bind_some, ha]
  rfl

/-! Files. -/

def spaceLine (word space : String) : String := word ++ (space ++ ";")

def readSpace (word : String) (line : List Char) : Option String :=
  (between? word.toList ";".toList line).map String.ofList

theorem readSpace_spaceLine (word space : String) : readSpace word (spaceLine word space).toList = some space := by
  rw [readSpace, spaceLine, String.toList_append, String.toList_append, between?_append, Option.map_some,
    String.ofList_toList]

def isComment (line : List Char) : Bool := "//".toList.isPrefixOf line

section Comments

variable {comments : List String} {line : List Char} (hc : ∀ c ∈ comments, isComment c.toList = true)
  (hl : isComment line = false)

include hc hl

theorem dropWhile_isComment (rest : List (List Char)) :
    (comments.map String.toList ++ line :: rest).dropWhile isComment = line :: rest := by
  rw [List.dropWhile_append_of_pos (by simpa using hc), List.dropWhile_cons_of_neg (by simp [hl])]

theorem takeWhile_isComment (rest : List (List Char)) :
    (comments.map String.toList ++ line :: rest).takeWhile isComment = comments.map String.toList := by
  rw [List.takeWhile_append_of_pos (by simpa using hc), List.takeWhile_cons_of_neg (by simp [hl]), List.append_nil]

end Comments

theorem map_ofList_map_toList (ls : List String) : (ls.map String.toList).map String.ofList = ls := by
  rw [List.map_map]
  exact (List.map_congr_left fun _ _ => String.ofList_toList).trans (List.map_id ls)

/-- What an entity file says. -/
structure EntityText where
  comments : List String
  shape : Shape
  deriving DecidableEq, Repr

namespace EntityText

def lines (e : EntityText) : List String := e.comments ++ spaceLine "namespace " e.shape.space :: shapeLines e.shape

def ofLines? (ls : List (List Char)) : Option EntityText :=
  match ls.dropWhile isComment with
  | [] => none
  | line :: rest => do
    let space ← readSpace "namespace " line
    let (shape, rest) ← readShape space rest
    if rest.isEmpty then return ⟨(ls.takeWhile isComment).map String.ofList, shape⟩ else none

def read (source : String) : Option EntityText := ofLines? (contentLines source.toList)

theorem ofLines?_lines {e : EntityText} (hc : ∀ c ∈ e.comments, isComment c.toList = true)
    (hm : ∀ m ∈ e.shape.members, IsShown m) : ofLines? (e.lines.map String.toList) = some e := by
  have hl : isComment (spaceLine "namespace " e.shape.space).toList = false := by
    rw [spaceLine, String.toList_append]
    rfl
  have hs := readShape_shapeLines hm []
  rw [List.append_nil] at hs
  rw [ofLines?, lines, List.map_append, List.map_cons, dropWhile_isComment hc hl, takeWhile_isComment hc hl,
    map_ofList_map_toList]
  simp only [readSpace_spaceLine, Option.bind_eq_bind, Option.bind_some, hs]
  rfl

end EntityText

/-- What a data transfer file says. -/
structure DtoText where
  comments : List String
  used : String
  shape : Shape
  mapperClass : String
  toDto : MapperBlock
  toEntity : MapperBlock
  deriving DecidableEq, Repr

namespace DtoText

def mapperClassLines (e : DtoText) : List String :=
  ("public static class " ++ e.mapperClass) :: "\x7b" :: (mapperLines e.toDto ++ (mapperLines e.toEntity ++ ["\x7d"]))

def lines (e : DtoText) : List String :=
  e.comments ++ spaceLine "using " e.used :: spaceLine "namespace " e.shape.space ::
    (shapeLines e.shape ++ e.mapperClassLines)

/-- The class of the mappers, up to the end of the file. -/
def readMapperClass : List (List Char) → Option (String × MapperBlock × MapperBlock)
  | line :: opening :: rest => do
    let name ← between? "public static class ".toList [] line
    let (toDto, rest) ← readMapper rest
    let (toEntity, rest) ← readMapper rest
    if opening = "\x7b".toList ∧ rest = ["\x7d".toList] then return (String.ofList name, toDto, toEntity) else none
  | _ => none

def ofLines? (ls : List (List Char)) : Option DtoText :=
  match ls.dropWhile isComment with
  | usedLine :: ownLine :: rest => do
    let used ← readSpace "using " usedLine
    let space ← readSpace "namespace " ownLine
    let (shape, rest) ← readShape space rest
    let (mapperClass, toDto, toEntity) ← readMapperClass rest
    return ⟨(ls.takeWhile isComment).map String.ofList, used, shape, mapperClass, toDto, toEntity⟩
  | _ => none

def read (source : String) : Option DtoText := ofLines? (contentLines source.toList)

theorem readMapperClass_mapperClassLines {e : DtoText} (hd : e.toDto.IsShown) (he : e.toEntity.IsShown) :
    readMapperClass (e.mapperClassLines.map String.toList) = some (e.mapperClass, e.toDto, e.toEntity) := by
  have hb := between?_append "public static class ".toList e.mapperClass.toList []
  rw [List.append_nil, ← String.toList_append] at hb
  rw [mapperClassLines, List.map_cons, List.map_cons, List.map_append, List.map_append, readMapperClass, hb]
  simp only [Option.bind_eq_bind, Option.bind_some, readMapper_mapperLines hd, readMapper_mapperLines he,
    String.ofList_toList]
  rfl

theorem ofLines?_lines {e : DtoText} (hc : ∀ c ∈ e.comments, isComment c.toList = true)
    (hm : ∀ m ∈ e.shape.members, IsShown m) (hd : e.toDto.IsShown) (he : e.toEntity.IsShown) :
    ofLines? (e.lines.map String.toList) = some e := by
  have hl : isComment (spaceLine "using " e.used).toList = false := by
    rw [spaceLine, String.toList_append]
    rfl
  rw [ofLines?, lines, List.map_append, List.map_cons, dropWhile_isComment hc hl, takeWhile_isComment hc hl,
    map_ofList_map_toList]
  simp only [List.map_cons, List.map_append, readSpace_spaceLine, readShape_shapeLines hm,
    readMapperClass_mapperClassLines hd he, Option.bind_eq_bind, Option.bind_some]
  rfl

end DtoText

end ModelForge.Source
