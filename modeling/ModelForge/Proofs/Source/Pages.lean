import ModelForge.Proofs.Names
import ModelForge.Proofs.Source.Listing

/-! The rendered pages line by line. Each part of a page is shown as its lines, whatever the indent and wherever it stands,
and tidying a page leaves its lines as they are. -/

namespace ModelForge

open Identifier (IsName)

/-! Single lines. -/

namespace Source

variable {indent : String} {k : Nat}

theorem isLine_memberLine {m : Member} (ht : '\n' ∉ (Field.typeText m.type).toList) (hn : '\n' ∉ m.name.toList) :
    IsLine (memberLine m).toList := by
  rw [toList_memberLine]
  refine ⟨?_, ⟨'p', rfl, by decide⟩, ⟨'\x7d', ?_, by decide⟩⟩
  · simp only [List.mem_append, List.mem_cons, not_or]
    exact ⟨by decide, ⟨ht, by decide, hn⟩, by decide⟩
  · rw [List.getLast?_append, List.getLast?_append]
    rfl

theorem isLine_append {front : String} {name : String} (hf : '\n' ∉ front.toList)
    (hb : ∃ c, front.toList.head? = some c ∧ Text.isBlank c = false) (hn : IsName name) :
    IsLine (front ++ name).toList := by
  obtain ⟨c, hc, hcb⟩ := hb
  obtain ⟨d, hd, hdb⟩ := hn.last_not_blank
  rw [String.toList_append]
  refine ⟨?_, ⟨c, ?_, hcb⟩, ⟨d, ?_, hdb⟩⟩
  · rw [List.mem_append, not_or]
    exact ⟨hf, hn.lineFeed_not_mem⟩
  · rw [List.head?_append, hc]
    rfl
  · rw [List.getLast?_append, hd]
    rfl

theorem isLine_spaceLine {word space : String} (hw : '\n' ∉ word.toList)
    (hb : ∃ c, word.toList.head? = some c ∧ Text.isBlank c = false) (hs : '\n' ∉ space.toList) :
    IsLine (spaceLine word space).toList := by
  obtain ⟨c, hc, hcb⟩ := hb
  rw [spaceLine, String.toList_append, String.toList_append]
  refine ⟨?_, ⟨c, ?_, hcb⟩, ⟨';', ?_, by decide⟩⟩
  · simp only [List.mem_append, not_or]
    exact ⟨hw, hs, by decide⟩
  · rw [List.head?_append, hc]
    rfl
  · rw [List.getLast?_append, List.getLast?_append]
    rfl

theorem lineFeed_not_mem_callText {nested : Option String} (h : ∀ method, nested = some method → '\n' ∉ method.toList) :
    '\n' ∉ (callText nested).toList := by
  cases nested with
  | none => decide
  | some method =>
    simp only [callText, String.toList_append, List.mem_append, not_or]
    exact ⟨⟨by decide, h method rfl⟩, by decide⟩

theorem isLine_assignmentLine {parameter : String} {a : AssignmentLine} (hn : IsName a.name)
    (hp : '\n' ∉ parameter.toList) (hm : ∀ method, a.nested = some method → '\n' ∉ method.toList) :
    IsLine (assignmentLine parameter a).toList := by
  -- Assignments start with a name and end with a comma.
  obtain ⟨c, hc, hcb⟩ := hn.head_not_blank
  simp only [assignmentLine, String.toList_append]
  refine ⟨?_, ⟨c, ?_, hcb⟩, ⟨',', ?_, by decide⟩⟩
  · simp only [List.mem_append, not_or]
    exact ⟨hn.lineFeed_not_mem, by decide, ⟨⟨⟨by decide, hp⟩, by decide⟩, hn.lineFeed_not_mem⟩,
      lineFeed_not_mem_callText hm, by decide⟩
  · rw [List.head?_append, hc]
    rfl
  · simp only [List.getLast?_append]
    rfl

/-! Parts of pages. -/

/-- A mapper whose parts are names, except that methods only have to be in one line. -/
structure MapperBlock.IsPlain (m : MapperBlock) : Prop where
  target : IsName m.target
  source : IsName m.source
  method : '\n' ∉ m.method.toList
  parameter : IsName m.parameter
  names : ∀ a ∈ m.assignments, IsName a.name
  nested : ∀ a ∈ m.assignments, ∀ method, a.nested = some method → '\n' ∉ method.toList

theorem MapperBlock.IsPlain.isShown {m : MapperBlock} (h : m.IsPlain) : m.IsShown :=
  ⟨h.target.blank_not_mem, h.source.blank_not_mem, h.parameter.blank_not_mem, fun a ha => (h.names a ha).blank_not_mem⟩

theorem isLine_signatureLine {m : MapperBlock} (h : m.IsPlain) : IsLine (signatureLine m).toList := by
  rw [signatureLine, ← String.append_assoc]
  refine isLine_append ?_ ⟨'p', ?_, by decide⟩ h.target
  · simp only [String.toList_append, List.mem_append, not_or]
    exact ⟨⟨by decide, ⟨⟨⟨⟨h.target.lineFeed_not_mem, by decide, h.method⟩, by decide⟩, by decide,
      h.source.lineFeed_not_mem⟩, by decide, h.parameter.lineFeed_not_mem⟩, by decide⟩, by decide⟩
  · simp only [String.toList_append, List.head?_append]
    rfl

theorem shows_unindented {line : String} (h : IsLine line.toList) : Shows (line ++ "\n") [line] := by
  have hs := shows_line h 0
  rwa [show String.ofList (List.replicate 0 ' ') = "" from rfl, String.empty_append] at hs

theorem isLine_brace : IsLine "\x7b".toList := ⟨by decide, ⟨'\x7b', rfl, by decide⟩, ⟨'\x7b', rfl, by decide⟩⟩

theorem isLine_closing : IsLine "\x7d".toList := ⟨by decide, ⟨'\x7d', rfl, by decide⟩, ⟨'\x7d', rfl, by decide⟩⟩

theorem isLine_closing_semicolon : IsLine "\x7d;".toList := ⟨by decide, ⟨'\x7d', rfl, by decide⟩, ⟨';', rfl, by decide⟩⟩

theorem shows_member {m : Member} (ht : '\n' ∉ (Field.typeText m.type).toList) (hn : '\n' ∉ m.name.toList) (k : Nat) :
    Shows (MemberLine.render (String.ofList (List.replicate k ' ')) ⟨Field.typeText m.type, m.name⟩) [memberLine m] := by
  rw [MemberLine.render_eq]
  exact shows_line (isLine_memberLine ht hn) k

def classOf (s : Shape) : ClassBlock := ⟨s.className, s.members.map fun m => ⟨Field.typeText m.type, m.name⟩⟩

theorem shows_class {s : Shape} (hc : IsName s.className)
    (hm : ∀ m ∈ s.members, '\n' ∉ (Field.typeText m.type).toList ∧ '\n' ∉ m.name.toList) (k : Nat) :
    Shows ((classOf s).render (String.ofList (List.replicate k ' '))) (shapeLines s) := by
  have he : (classOf s).render (String.ofList (List.replicate k ' ')) = ("public class " ++ s.className ++ "\n") ++
      (("\x7b" ++ "\n") ++ (String.join (s.members.map fun m =>
        MemberLine.render (String.ofList (List.replicate k ' ')) ⟨Field.typeText m.type, m.name⟩) ++
          ("\x7d" ++ "\n"))) := by
    rw [ClassBlock.render_eq, classOf, List.map_map]
    rfl
  rw [he]
  refine (shows_unindented ?_).append ((shows_unindented isLine_brace).append
    ((Shows.join fun m hmem => shows_member (hm m hmem).1 (hm m hmem).2 k).append (shows_unindented isLine_closing)))
  exact isLine_append (by decide) ⟨'p', rfl, by decide⟩ hc

theorem shows_assignment {parameter : String} {a : AssignmentLine} (hn : IsName a.name) (hp : '\n' ∉ parameter.toList)
    (hm : ∀ method, a.nested = some method → '\n' ∉ method.toList) (k : Nat) :
    Shows (a.render (String.ofList (List.replicate k ' ')) parameter) [assignmentLine parameter a] := by
  have hi : String.ofList (List.replicate k ' ') ++ String.ofList (List.replicate k ' ') =
      String.ofList (List.replicate (k + k) ' ') := by
    rw [← String.ofList_append, List.replicate_append_replicate]
  rw [AssignmentLine.render_eq, ← String.append_assoc, hi]
  exact shows_line (isLine_assignmentLine hn hp hm) (k + k)

theorem shows_mapper {m : MapperBlock} (h : m.IsPlain) (k : Nat) :
    Shows (m.render (String.ofList (List.replicate k ' '))) (mapperLines m) := by
  rw [MapperBlock.render_eq]
  exact (shows_line (isLine_signatureLine h) k).append ((shows_line isLine_brace k).append
    ((Shows.join fun a ha => shows_assignment (h.names a ha) h.parameter.lineFeed_not_mem (h.nested a ha) k).append
      (shows_line isLine_closing_semicolon k)))

theorem shows_entityPage {header : Option String} {e : EntityText} (hh : Shows (headerText header) e.comments)
    (hs : '\n' ∉ e.shape.space.toList) (hc : IsName e.shape.className)
    (hm : ∀ m ∈ e.shape.members, '\n' ∉ (Field.typeText m.type).toList ∧ '\n' ∉ m.name.toList) (k : Nat) :
    Shows (EntityPage.render ⟨header, e.shape.space, classOf e.shape, String.ofList (List.replicate k ' ')⟩) e.lines := by
  have he : EntityPage.render ⟨header, e.shape.space, classOf e.shape, String.ofList (List.replicate k ' ')⟩ =
      headerText header ++ ((spaceLine "namespace " e.shape.space ++ "\n") ++ ("\n" ++
        (classOf e.shape).render (String.ofList (List.replicate k ' ')))) := by
    unfold EntityPage.render
    rw [spaceLine, show ";\n\n" = ";" ++ ("\n" ++ "\n") from rfl]
    simp only [String.append_assoc]
  rw [he]
  refine hh.append ((shows_unindented ?_).append (shows_lineFeed.append (shows_class hc hm k)))
  exact isLine_spaceLine (by decide) ⟨'n', rfl, by decide⟩ hs

theorem shows_dtoPage {header : Option String} {e : DtoText} (hh : Shows (headerText header) e.comments)
    (hu : '\n' ∉ e.used.toList) (hs : '\n' ∉ e.shape.space.toList) (hc : IsName e.shape.className)
    (hm : ∀ m ∈ e.shape.members, '\n' ∉ (Field.typeText m.type).toList ∧ '\n' ∉ m.name.toList)
    (hmc : IsName e.mapperClass) (hd : e.toDto.IsPlain) (he : e.toEntity.IsPlain) (k : Nat) :
    Shows (DtoPage.render ⟨header, e.used, e.shape.space, classOf e.shape, e.mapperClass, [e.toDto, e.toEntity],
      String.ofList (List.replicate k ' ')⟩) e.lines := by
  have hr : DtoPage.render ⟨header, e.used, e.shape.space, classOf e.shape, e.mapperClass, [e.toDto, e.toEntity],
      String.ofList (List.replicate k ' ')⟩ =
      headerText header ++ ((spaceLine "using " e.used ++ "\n") ++ ("\n" ++
        ((spaceLine "namespace " e.shape.space ++ "\n") ++ ("\n" ++ ((classOf e.shape).render (String.ofList (List.replicate k ' ')) ++ ("\n" ++
        (("public static class " ++ e.mapperClass ++ "\n") ++ (("\x7b" ++ "\n") ++
        (e.toDto.render (String.ofList (List.replicate k ' ')) ++ ("\n" ++
        (e.toEntity.render (String.ofList (List.replicate k ' ')) ++ ("\x7d" ++ "\n")))))))))))) := by
    unfold DtoPage.render
    rw [spaceLine, spaceLine, show ";\n\nnamespace " = ";" ++ ("\n" ++ ("\n" ++ "namespace ")) from rfl,
      show ";\n\n" = ";" ++ ("\n" ++ "\n") from rfl,
      show "\npublic static class " = "\n" ++ "public static class " from rfl,
      show "\n\x7b\n" = "\n" ++ ("\x7b" ++ "\n") from rfl, show "\x7d\n" = "\x7d" ++ "\n" from rfl]
    simp only [List.map_cons, List.map_nil, String.intercalate_cons_cons, String.intercalate_singleton, String.append_assoc]
  -- Part by part, in the order of the page.
  rw [hr]
  refine hh.append ((shows_unindented ?_).append (shows_lineFeed.append ((shows_unindented ?_).append
    (shows_lineFeed.append ((shows_class hc hm k).append (shows_lineFeed.append ((shows_unindented ?_).append
    ((shows_unindented isLine_brace).append ((shows_mapper hd k).append (shows_lineFeed.append
    ((shows_mapper he k).append (shows_unindented isLine_closing))))))))))))
  · exact isLine_spaceLine (by decide) ⟨'u', rfl, by decide⟩ hu
  · exact isLine_spaceLine (by decide) ⟨'n', rfl, by decide⟩ hs
  · exact isLine_append (by decide) ⟨'p', rfl, by decide⟩ hmc

theorem Shows.contentLines_sourceText {page : String} {ls : List String} (h : Shows page ls) :
    contentLines (CSharp.sourceText "\n" page).toList = ls.map String.toList := by
  rw [CSharp.sourceText, String.toList_ofList, show "\n".toList = ['\n'] from rfl, contentLines_tidy, h.contentLines_eq]

end Source

end ModelForge
