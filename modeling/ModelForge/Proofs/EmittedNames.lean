import ModelForge.Proofs.Generation
import ModelForge.Proofs.Reconciliation

/-! Fields have distinct names, and so have the members and the assignments they become, unless a keyword and its own
verbatim form are both declared: these two are emitted as one name. -/

namespace ModelForge

open DeclaredType (Classifier)

namespace Identifier

variable {a b word : String} {names : List String}

theorem isReserved_iff : isReserved a = true ↔ a ∈ reservedWords := by simp [isReserved]

theorem verbatim_of_isReserved (h : isReserved a = true) : verbatim a = "@" ++ a := if_pos h

theorem verbatim_of_not_isReserved (h : ¬ isReserved a = true) : verbatim a = a := if_neg h

theorem head?_of_mem_reservedWords : ∀ word ∈ reservedWords, word.toList.head? ≠ some '@' := by decide +kernel

theorem not_isReserved_at (word : String) : ¬ isReserved ("@" ++ word) = true := by
  intro h
  refine head?_of_mem_reservedWords _ (isReserved_iff.1 h) ?_
  rw [String.toList_append]
  rfl

theorem verbatim_at (word : String) : verbatim ("@" ++ word) = "@" ++ word :=
  verbatim_of_not_isReserved (not_isReserved_at word)

theorem ne_at (word : String) : word ≠ "@" ++ word := by
  intro h
  have hl := congrArg (fun s : String => s.toList.length) h
  simp at hl

/-- Some keyword has the property together with its verbatim form. -/
def Clashes (p : String → Bool) : Prop := ∃ word ∈ reservedWords, p word = true ∧ p ("@" ++ word) = true

theorem verbatim_injOn {p : String → Bool} (h : ¬ Clashes p) (ha : p a = true) (hb : p b = true)
    (he : verbatim a = verbatim b) : a = b := by
  by_cases hra : isReserved a = true
  · by_cases hrb : isReserved b = true
    · rw [verbatim_of_isReserved hra, verbatim_of_isReserved hrb] at he
      exact (String.append_right_inj "@").1 he
    · rw [verbatim_of_isReserved hra, verbatim_of_not_isReserved hrb] at he
      exact absurd ⟨a, isReserved_iff.1 hra, ha, he ▸ hb⟩ h
  · by_cases hrb : isReserved b = true
    · rw [verbatim_of_not_isReserved hra, verbatim_of_isReserved hrb] at he
      exact absurd ⟨b, isReserved_iff.1 hrb, hb, he ▸ ha⟩ h
    · rwa [verbatim_of_not_isReserved hra, verbatim_of_not_isReserved hrb] at he

theorem nodup_map_verbatim_iff (hn : names.Nodup) : (names.map verbatim).Nodup ↔ ¬ Clashes (decide <| · ∈ names) := by
  constructor
  · rintro hv ⟨word, hw, ha, hb⟩
    have he : verbatim word = verbatim ("@" ++ word) := by
      rw [verbatim_at, verbatim_of_isReserved (isReserved_iff.2 hw)]
    exact ne_at word (List.inj_on_of_nodup_map hv (of_decide_eq_true ha) (of_decide_eq_true hb) he)
  · intro h
    refine hn.map_on fun a ha b hb he => ?_
    exact verbatim_injOn h (decide_eq_true ha) (decide_eq_true hb) he

end Identifier

open Identifier (Clashes)

def isSharedName (ds : List Declaration) (n : String) : Bool := isFlagged (·.inEntity) n ds && isFlagged (·.inDto) n ds

theorem map_name_filter_reconcile (p : Field → Bool) (ds : List Declaration) :
    ((reconcile ds).filter p).map (·.name) = (declaredNames ds).filter fun n => p (.ofName ds n) := by
  rw [reconcile_eq_map, List.filter_map, List.map_map]
  exact List.map_id _

theorem mem_declaredNames_of_isFlagged {flagged : Declaration → Bool} {n : String} {ds : List Declaration}
    (h : isFlagged flagged n ds = true) : n ∈ declaredNames ds := by
  obtain ⟨d, hd, hn, -⟩ := isFlagged_eq_true_iff.1 h
  exact mem_declaredNames.2 ⟨d, hd, hn⟩

namespace CSharp

variable {settings : Settings} {c : Classifier} {ds : List Declaration} {name : String} {s : Schema}
  {entity : Source.EntityPage} {dto : Source.DtoPage}

theorem exists_of_pages (h : pages settings c s = .ok (entity, dto)) :
    ∃ entitySpace dtoSpace indent, entity = entityPage settings s entitySpace indent ∧
      dto = dtoPage settings c s entitySpace dtoSpace indent := by
  obtain ⟨entitySpace, dtoSpace, indent, -, -, he, hd⟩ := eq_of_pages h
  exact ⟨entitySpace, dtoSpace, indent, he, hd⟩

theorem map_name_entityPage (s : Schema) (space indent : String) :
    (entityPage settings s space indent).block.members.map (·.name) =
      (s.entityFields.map (·.name)).map (identifier settings) := by
  simp [entityPage, block, Schema.entityMembers]

theorem map_name_dtoPage (s : Schema) (used space indent : String) :
    (dtoPage settings c s used space indent).block.members.map (·.name) =
      (s.dtoFields.map (·.name)).map (identifier settings) := by
  simp [dtoPage, block, Schema.dtoMembers]

theorem map_name_assignments {used space indent : String} {m : Source.MapperBlock}
    (h : m ∈ (dtoPage settings c s used space indent).mappers) :
    m.assignments.map (·.name) = (s.sharedFields.map (·.name)).map (identifier settings) := by
  simp only [dtoPage, List.mem_cons, List.not_mem_nil, or_false] at h
  rcases h with rfl | rfl <;> simp [mapperBlock, assignmentLine, Schema.mappers, Schema.assignments]

/-- Names of fields are emitted without repetition unless there is a clash among the fields that are emitted. -/
theorem nodup_emitted_iff (h : (settings.get .escapeKeywords).isSet = true) (p : Field → Bool) (q : String → Bool)
    (hq : ∀ n, p (.ofName ds n) = q n) (hd : ∀ n, q n = true → n ∈ declaredNames ds) :
    ((((reconcile ds).filter p).map (·.name)).map (identifier settings)).Nodup ↔ ¬ Clashes q := by
  have hi : identifier settings = Identifier.verbatim := funext fun n => if_pos h
  have hm : (fun n => decide (n ∈ (declaredNames ds).filter q)) = q := by
    funext n
    rw [Bool.eq_iff_iff, decide_eq_true_iff, List.mem_filter]
    exact and_iff_right_of_imp (hd n)
  simp only [map_name_filter_reconcile, hq, hi]
  rw [Identifier.nodup_map_verbatim_iff ((nodup_declaredNames ds).filter q), hm]

/-- No name comes twice in a class or a mapper, unless a keyword and its verbatim form are both fields there. -/
theorem nodup_emitted (he : (settings.get .escapeKeywords).isSet = true)
    (h : pages settings c (.ofDeclarations name ds) = .ok (entity, dto)) :
    ((entity.block.members.map (·.name)).Nodup ↔ ¬ Clashes (isFlagged (·.inEntity) · ds)) ∧
      ((dto.block.members.map (·.name)).Nodup ↔ ¬ Clashes (isFlagged (·.inDto) · ds)) ∧
      ∀ m ∈ dto.mappers, (m.assignments.map (·.name)).Nodup ↔ ¬ Clashes (isSharedName ds) := by
  obtain ⟨entitySpace, dtoSpace, indent, rfl, rfl⟩ := exists_of_pages h
  refine ⟨?_, ?_, fun m hm => ?_⟩
  · rw [map_name_entityPage]
    exact nodup_emitted_iff he (·.inEntity) _ (fun _ => rfl) fun _ => mem_declaredNames_of_isFlagged
  · rw [map_name_dtoPage]
    exact nodup_emitted_iff he (·.inDto) _ (fun _ => rfl) fun _ => mem_declaredNames_of_isFlagged
  · rw [map_name_assignments hm]
    refine nodup_emitted_iff he (·.isShared) _ (fun _ => rfl) fun n hn => ?_
    exact mem_declaredNames_of_isFlagged (Bool.and_eq_true_iff.1 hn).1

/-- A keyword on both sides, with its verbatim form on one side only. -/
theorem nodup_emitted_oneSided :
    let ds : List Declaration := [⟨"class", "int", true, true⟩, ⟨"@class", "string", false, true⟩]
    ∃ entity dto, (Settings.default.get .escapeKeywords).isSet = true ∧
      pages .default .default (.ofDeclarations "Lesson" ds) = .ok (entity, dto) ∧
      (entity.block.members.map (·.name)).Nodup ∧ ¬ (dto.block.members.map (·.name)).Nodup := by
  intro ds
  have hs : (Settings.default.get .escapeKeywords).isSet = true := rfl
  obtain ⟨entity, dto, hp⟩ : ∃ entity dto, pages .default .default (.ofDeclarations "Lesson" ds) = .ok (entity, dto) :=
    ⟨_, _, rfl⟩
  obtain ⟨hn, hd, -⟩ := nodup_emitted hs hp
  refine ⟨_, _, hs, hp, hn.2 ?_, fun h => hd.1 h ?_⟩
  · rintro ⟨word, hw, hc⟩
    revert word
    decide +kernel
  · exact ⟨"class", by decide, by decide +kernel, by decide +kernel⟩

/-- Both names are valid, but their members have one name. -/
theorem emitted_twice :
    let ds : List Declaration := [⟨"class", "int", true, true⟩, ⟨"@class", "string", true, true⟩]
    (Settings.default.get .escapeKeywords).isSet = true ∧ (∀ d ∈ ds, Identifier.isValid d.name = true) ∧ ∃ entity dto,
      pages .default .default (.ofDeclarations "Lesson" ds) = .ok (entity, dto) ∧
      entity.block.members.map (·.name) = ["@class", "@class"] ∧ dto.block.members.map (·.name) = ["@class", "@class"] ∧
      ∀ m ∈ dto.mappers, m.assignments.map (·.name) = ["@class", "@class"] := by
  intro ds
  obtain ⟨entity, dto, hp⟩ : ∃ entity dto, pages .default .default (.ofDeclarations "Lesson" ds) = .ok (entity, dto) :=
    ⟨_, _, rfl⟩
  have hi : [identifier .default "class", identifier .default "@class"] = ["@class", "@class"] := by decide +kernel
  obtain ⟨entitySpace, dtoSpace, indent, rfl, rfl⟩ := exists_of_pages hp
  refine ⟨rfl, by decide +kernel, _, _, hp, ?_, ?_, fun m hm => ?_⟩
  · rw [map_name_entityPage]
    exact hi
  · rw [map_name_dtoPage]
    exact hi
  · rw [map_name_assignments hm]
    exact hi

end CSharp

end ModelForge
