import ModelForge.Model.Document
import ModelForge.Proofs.Markup.Escaping

/-! A model written as a document is read back, whatever stands between its properties and however its names and types are
spelled. -/

namespace ModelForge

open Markup

namespace Declaration

/-- A flag is written only where it is set. -/
def attributes (d : Declaration) : List (String × String) :=
  ("name", d.name) :: ("type", d.type) ::
    ((if d.inEntity then [("inEntity", "true")] else []) ++ if d.inDto then [("inDTO", "true")] else [])

def property (byNumber : Char → Bool) (d : Declaration) (ending : Ending) : ElementText where
  name := "Property".toList
  attributes := d.attributes.map fun p => attributeText byNumber p.1 p.2
  gap := []
  ending := ending

structure IsWritable (d : Declaration) : Prop where
  name_filled : Text.blank d.name = false
  type_filled : Text.blank d.type = false
  name_allowed : ∀ c ∈ d.name.toList, isAllowed c = true
  type_allowed : ∀ c ∈ d.type.toList, isAllowed c = true

end Declaration

inductive Entry where
  | declaration (d : Declaration) (ending : Ending)
  | other (i : Item)

namespace Entry

def declaration? : Entry → Option Declaration
  | declaration d _ => some d
  | other _ => none

def item (byNumber : Char → Bool) : Entry → Item
  | declaration d ending => .element (d.property byNumber ending)
  | other i => i

/-- Only declarations are properties. -/
def IsWellFormed : Entry → Prop
  | declaration d ending => d.IsWritable ∧ ∀ gap, ending = .tag gap → ∀ c ∈ gap, isSpace c = true
  | other i => i.IsWellFormed ∧ ∀ e, i = .element e → e.name ≠ "Property".toList

end Entry

/-- The document of a model: a root element of the given tag with the model's name, and the entries in it. -/
def ModelDocument.written (byNumber : Char → Bool) (tag name : String) (entries : List Entry) : String :=
  String.ofList (documentText tag.toList (attributeText byNumber "name" name) (entries.map (Entry.item byNumber)))

/-! Properties. -/

namespace Declaration

variable {byNumber : Char → Bool} {d : Declaration} {ending : Ending}

theorem names_attributes (d : Declaration) :
    (d.attributes.map Prod.fst).Sublist ["name", "type", "inEntity", "inDTO"] := by
  unfold attributes
  cases d.inEntity <;> cases d.inDto <;> simp

theorem of_mem_attributes (h : d.IsWritable) {p : String × String} (hp : p ∈ d.attributes) :
    isUnprefixed p.1.toList = true ∧ p.1.toList ≠ "xmlns".toList ∧ ∀ c ∈ p.2.toList, isAllowed c = true := by
  have hflag {name : String} {isSet : Bool} (hm : p ∈ if isSet then [(name, "true")] else []) : p = (name, "true") := by
    cases isSet with
    | false => cases hm
    | true => exact List.mem_singleton.1 hm
  have htrue : ∀ c ∈ "true".toList, isAllowed c = true := List.all_eq_true.1 (by decide)
  rcases List.mem_cons.1 hp with rfl | hp
  · exact ⟨(by decide : isUnprefixed "name".toList = true), (by decide : "name".toList ≠ "xmlns".toList), h.name_allowed⟩
  rcases List.mem_cons.1 hp with rfl | hp
  · exact ⟨(by decide : isUnprefixed "type".toList = true), (by decide : "type".toList ≠ "xmlns".toList), h.type_allowed⟩
  rcases List.mem_append.1 hp with hp | hp
  · rw [hflag hp]
    exact ⟨by decide, by decide, htrue⟩
  · rw [hflag hp]
    exact ⟨by decide, by decide, htrue⟩

theorem property_attributes (d : Declaration) :
    (d.property byNumber ending).attributes = d.attributes.map fun p => attributeText byNumber p.1 p.2 := rfl

theorem isWellFormed_property (h : d.IsWritable) (he : ∀ gap, ending = .tag gap → ∀ c ∈ gap, isSpace c = true) :
    (d.property byNumber ending).IsWellFormed := by
  have hn : (d.property byNumber ending).attributes.map (·.name) = (d.attributes.map Prod.fst).map String.toList := by
    rw [property_attributes, List.map_map, List.map_map]
    rfl
  refine ⟨(by decide : isUnprefixed "Property".toList = true), fun a ha => ?_, ?_, fun a ha => ?_,
    fun c hc => absurd hc List.not_mem_nil, he⟩
  · obtain ⟨p, hp, rfl⟩ := List.mem_map.1 ha
    obtain ⟨hu, -, ha⟩ := of_mem_attributes h hp
    exact isWellFormed_attributeText hu ha
  · rw [hn]
    exact List.Nodup.sublist ((names_attributes d).map _) (by decide)
  · obtain ⟨p, hp, rfl⟩ := List.mem_map.1 ha
    exact (of_mem_attributes h hp).2.1

theorem attributes_property (h : d.IsWritable) :
    (d.property byNumber ending).element.attributes = d.attributes.map fun p => (.plain p.1, p.2) := by
  change (d.property byNumber ending).attributes.map AttributeText.pair = _
  rw [property_attributes, List.map_map]
  refine List.map_congr_left fun p hp => ?_
  obtain ⟨hu, -, ha⟩ := of_mem_attributes h hp
  exact pair_attributeText hu ha

end Declaration

theorem Markup.Name.plain_injective : Function.Injective Markup.Name.plain := fun _ _ h =>
  String.toList_injective (Markup.Name.mk.inj h).2

theorem lookup_plain (l : List (String × String)) (k : String) :
    (l.map fun p => (Markup.Name.plain p.1, p.2)).lookup (.plain k) = l.lookup k := by
  induction l with
  | nil => rfl
  | cons p l ih =>
    have hk : (Markup.Name.plain k == Markup.Name.plain p.1) = (k == p.1) := by
      rw [Bool.eq_iff_iff, beq_iff_eq, beq_iff_eq]
      exact Markup.Name.plain_injective.eq_iff
    rw [List.map_cons, List.lookup_cons, List.lookup_cons, hk, ih]

namespace Declaration

variable {byNumber : Char → Bool} {d : Declaration} {ending : Ending}

theorem attribute?_property (h : d.IsWritable) (base : String) :
    (d.property byNumber ending).element.attribute? base = d.attributes.lookup base := by
  rw [Element.attribute?, attributes_property h, lookup_plain]

theorem flag_lookup (d : Declaration) :
    flag (d.attributes.lookup "inEntity" <|> d.attributes.lookup "inEntityTarget") = d.inEntity ∧
      flag (d.attributes.lookup "inDTO" <|> d.attributes.lookup "inDtoTarget") = d.inDto := by
  unfold attributes
  cases d.inEntity <;> cases d.inDto <;> exact ⟨rfl, rfl⟩

theorem declaration?_property (h : d.IsWritable) :
    ModelDocument.declaration? (d.property byNumber ending).element = some d := by
  have hn : ModelDocument.filled? (d.property byNumber ending).element "name" = some d.name := by
    rw [ModelDocument.filled?, attribute?_property h]
    simp [attributes, h.name_filled]
  have ht : ModelDocument.filled? (d.property byNumber ending).element "type" = some d.type := by
    rw [ModelDocument.filled?, attribute?_property h]
    simp [attributes, List.lookup_cons, h.type_filled]
  obtain ⟨he, hd⟩ := flag_lookup d
  simp only [ModelDocument.declaration?, hn, ht, ModelDocument.flagOf, attribute?_property h, he, hd]
  rfl

end Declaration

/-! Documents. -/

namespace Entry

variable {byNumber : Char → Bool} {entries : List Entry}

theorem isWellFormed_item {e : Entry} (h : e.IsWellFormed) : (e.item byNumber).IsWellFormed := by
  cases e with
  | declaration d ending => exact Declaration.isWellFormed_property h.1 h.2
  | other i => exact h.1

theorem declarations_item (byNumber : Char → Bool) {e : Entry} (h : e.IsWellFormed) :
    ((e.item byNumber).elements.filter (·.name == .plain "Property")).map ModelDocument.declaration? =
      e.declaration?.toList.map some := by
  cases e with
  | declaration d ending =>
    change [ModelDocument.declaration? (d.property byNumber ending).element] = [some d]
    rw [Declaration.declaration?_property h.1]
  | other i =>
    cases i with
    | spaces s => rfl
    | comment s => rfl
    | element t =>
      have hp : (t.element.name == Markup.Name.plain "Property") = false := by
        refine beq_eq_false_iff_ne.2 fun hn => h.2 t rfl ?_
        exact (Markup.Name.mk.inj hn).2
      change ([t.element].filter _).map _ = []
      rw [List.filter_cons_of_neg (by rw [hp]; exact Bool.false_ne_true), List.filter_nil, List.map_nil]

theorem declarations_items (h : ∀ e ∈ entries, e.IsWellFormed) :
    (((entries.map (item byNumber)).flatMap Item.elements).filter (·.name == .plain "Property")).map
      ModelDocument.declaration? = (entries.filterMap declaration?).map some := by
  induction entries with
  | nil => rfl
  | cons e entries ih =>
    have he := declarations_item byNumber (h e (List.mem_cons_self ..))
    rw [List.map_cons, List.flatMap_cons, List.filter_append, List.map_append, he,
      ih fun x hx => h x (List.mem_cons_of_mem _ hx), ← List.map_append]
    cases hd : e.declaration? <;> simp [hd]

end Entry

namespace ModelDocument

theorem ofRoot_eq {root : Element} {name : String} {ds : List Declaration} (hn : filled? root "name" = some name)
    (hd : (properties root).map declaration? = ds.map some) : ofRoot root = .ok ⟨name, ds, []⟩ := by
  have hs (f : Option Declaration × Nat → Option Nat) (hf : ∀ d n, f (some d, n) = none) :
      ((ds.map some).zipIdx 1).filterMap f = [] := by
    refine List.filterMap_eq_nil_iff.2 fun p hp => ?_
    obtain ⟨d, -, hd⟩ := List.mem_map.1 (List.fst_mem_of_mem_zipIdx hp)
    have he := hf d p.2
    rwa [hd] at he
  simp only [ofRoot, hn, hd, List.filterMap_map]
  rw [hs _ fun _ _ => rfl]
  simp

/-- A document that was written for a model is read as this model, without a warning. -/
theorem read_written {tag name : String} {entries : List Entry} (ht : isUnprefixed tag.toList = true)
    (hn : Text.blank name = false) (ha : ∀ c ∈ name.toList, isAllowed c = true) (he : ∀ e ∈ entries, e.IsWellFormed)
    (byNumber : Char → Bool) :
    ∃ d, read (some (written byNumber tag name entries)) = .ok d ∧ d.name = name ∧
      d.declarations = entries.filterMap Entry.declaration? ∧ d.warnings = [] := by
  have hu : isUnprefixed "name".toList = true := by decide
  have hw : (attributeText byNumber "name" name).IsWellFormed := isWellFormed_attributeText hu ha
  have hi : ∀ i ∈ entries.map (Entry.item byNumber), i.IsWellFormed := by
    intro i hi
    obtain ⟨e, hm, rfl⟩ := List.mem_map.1 hi
    exact Entry.isWellFormed_item (he e hm)
  have hr := read_documentText ht hw (by decide : "name".toList ≠ "xmlns".toList) hi
  have hf : filled? (rootElement tag.toList (attributeText byNumber "name" name) (entries.map (Entry.item byNumber)))
      "name" = some name := by
    rw [filled?, Element.attribute?, rootElement, Element.attributes, pair_attributeText hu ha]
    simp [hn]
  refine ⟨⟨name, entries.filterMap Entry.declaration?, []⟩, ?_, rfl, rfl, rfl⟩
  simp only [read, written, hr]
  exact ofRoot_eq hf (Entry.declarations_items he)

/-- Two properties, with a comment and another element between them. -/
theorem read_written_scattered :
    let note : ElementText := ⟨"Note".toList,
      [⟨['\n'], "id".toList, [' '], [], '\'', [.plain '\r', .decimal "065".toList, .named "lt".toList]⟩], [], .tag [' ']⟩
    let entries : List Entry := [.other (.spaces "\r\n".toList), .declaration ⟨"a<b\t", "List<x>", true, false⟩ .slash,
      .other (.comment " a - b".toList), .other (.element note), .declaration ⟨"\"", "int", true, true⟩ (.tag [])]
    isUnprefixed "Modèle".toList = true ∧ Text.blank "P'\n" = false ∧ (∀ c ∈ "P'\n".toList, isAllowed c = true) ∧
    (∀ e ∈ entries, e.IsWellFormed) ∧
    ∃ d, read (some (written (· = 'P') "Modèle" "P'\n" entries)) = .ok d ∧ d.name = "P'\n" ∧
      d.declarations = entries.filterMap Entry.declaration? ∧ d.warnings = [] := by
  intro note entries
  have ht : isUnprefixed "Modèle".toList = true := by decide
  have hn : Text.blank "P'\n" = false := by decide
  have ha : ∀ c ∈ "P'\n".toList, isAllowed c = true := List.all_eq_true.1 (by decide)
  have hid : ∀ a ∈ note.attributes, a.IsWellFormed := by
    intro a hm
    rw [List.mem_singleton.1 hm]
    refine ⟨by decide, List.all_eq_true.1 (by decide), by decide, List.all_eq_true.1 (by decide),
      List.all_eq_true.1 (by decide), .inr rfl, fun p hp => ?_⟩
    simp only [List.mem_cons, List.not_mem_nil, or_false] at hp
    rcases hp with rfl | rfl | rfl
    · exact ⟨by decide, by decide, by decide, by decide⟩
    · exact ⟨by decide, List.all_eq_true.1 (by decide), by decide⟩
    · exact (by decide : predefined? "lt".toList ≠ none)
  have hnote : note.IsWellFormed := by
    refine ⟨by decide, hid, by decide, by decide, List.all_eq_true.1 (by decide), fun gap hg => ?_⟩
    cases hg
    exact List.all_eq_true.1 (by decide)
  have he : ∀ e ∈ entries, e.IsWellFormed := by
    intro e hm
    simp only [entries, List.mem_cons, List.not_mem_nil, or_false] at hm
    rcases hm with rfl | rfl | rfl | rfl | rfl
    · exact ⟨List.all_eq_true.1 (by decide : "\r\n".toList.all isSpace = true), nofun⟩
    · exact ⟨⟨by decide, by decide, List.all_eq_true.1 (by decide), List.all_eq_true.1 (by decide)⟩, nofun⟩
    · exact ⟨(by decide : isCommentText " a - b".toList = true), nofun⟩
    · refine ⟨hnote, fun t hte => ?_⟩
      cases hte
      decide
    · refine ⟨⟨by decide, by decide, List.all_eq_true.1 (by decide), List.all_eq_true.1 (by decide)⟩, fun gap hg => ?_⟩
      cases hg
      exact List.all_eq_true.1 (by decide)
  exact ⟨ht, hn, ha, he, read_written ht hn ha he _⟩

end ModelDocument

end ModelForge
