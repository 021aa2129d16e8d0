import ModelForge.Proofs.Compilation
import ModelForge.Proofs.Markup.Attributes

/-! What becomes of each property of a document: it declares a field or is warned of by its number, never both. Nothing but
the name of the root and its properties counts. -/

namespace ModelForge.ModelDocument

open Markup (Element)

def IsFilled (e : Element) (base : String) : Prop := ∃ v, e.attribute? base = some v ∧ Text.blank v = false

/-- The short attribute says true, or it is not there and the long one does. -/
def IsFlagSet (e : Element) (short long : String) : Prop :=
  ∃ v, (v = "true" ∨ v = "True") ∧
    (e.attribute? short = some v ∨ e.attribute? short = none ∧ e.attribute? long = some v)

/-- The declaration of a property, with its name and its type as they are written. -/
structure Declares (e : Element) (d : Declaration) : Prop where
  name : e.attribute? "name" = some d.name ∧ Text.blank d.name = false
  type : e.attribute? "type" = some d.type ∧ Text.blank d.type = false
  inEntity : d.inEntity = true ↔ IsFlagSet e "inEntity" "inEntityTarget"
  inDto : d.inDto = true ↔ IsFlagSet e "inDTO" "inDtoTarget"

/-- The properties in their order, with what they declare and the numbers of those that declare nothing; the first of them
has the number `n`. -/
inductive Accounts : Nat → List Element → List Declaration → List Nat → Prop where
  | nil (n : Nat) : Accounts n [] [] []
  | declared {n : Nat} {e : Element} {es : List Element} {d : Declaration} {ds : List Declaration} {ns : List Nat}
      (h : Declares e d) (rest : Accounts (n + 1) es ds ns) : Accounts n (e :: es) (d :: ds) ns
  | skipped {n : Nat} {e : Element} {es : List Element} {ds : List Declaration} {ns : List Nat}
      (h : ¬ (IsFilled e "name" ∧ IsFilled e "type")) (rest : Accounts (n + 1) es ds ns) : Accounts n (e :: es) ds (n :: ns)

section Accounts

variable {e e' root root' : Element} {es : List Element} {d : Declaration} {ds : List Declaration} {n : Nat} {ns : List Nat}

theorem Accounts.length_eq (h : Accounts n es ds ns) : ds.length + ns.length = es.length := by
  induction h with
  | nil => rfl
  | declared _ _ ih =>
    rw [List.length_cons, List.length_cons, ← ih]
    omega
  | skipped _ _ ih =>
    rw [List.length_cons, List.length_cons, ← ih]
    omega

theorem not_isFilled_of_filled?_eq_none {base : String} (h : filled? e base = none) : ¬ IsFilled e base := by
  rintro ⟨v, hv, hb⟩
  rw [filled?_eq_none_iff.1 h v hv] at hb
  cases hb

theorem flagOf_eq_true_iff {short long : String} : flagOf e short long = true ↔ IsFlagSet e short long := by
  rw [flagOf, flag_eq_true_iff, IsFlagSet]
  cases e.attribute? short with
  | none =>
    have hn : (none <|> e.attribute? long) = e.attribute? long := rfl
    rw [hn]
    constructor
    · rintro (h | h)
      · exact ⟨"true", .inl rfl, .inr ⟨rfl, h⟩⟩
      · exact ⟨"True", .inr rfl, .inr ⟨rfl, h⟩⟩
    · rintro ⟨v, hv, h | ⟨-, h⟩⟩
      · cases h
      · rw [h]
        exact hv.imp (congrArg some) (congrArg some)
  | some value =>
    have hs : (some value <|> e.attribute? long) = some value := rfl
    rw [hs]
    constructor
    · rintro (h | h)
      · exact ⟨"true", .inl rfl, .inl h⟩
      · exact ⟨"True", .inr rfl, .inl h⟩
    · rintro ⟨v, hv, h | ⟨h, -⟩⟩
      · rw [h]
        exact hv.imp (congrArg some) (congrArg some)
      · cases h

theorem declares_of_declaration? (h : declaration? e = some d) : Declares e d := by
  obtain ⟨name, hn, h⟩ := Option.bind_eq_some_iff.1 h
  obtain ⟨type, ht, h⟩ := Option.bind_eq_some_iff.1 h
  cases h
  exact ⟨filled?_eq_some_iff.1 hn, filled?_eq_some_iff.1 ht, flagOf_eq_true_iff, flagOf_eq_true_iff⟩

theorem not_isFilled_of_declaration? (h : declaration? e = none) : ¬ (IsFilled e "name" ∧ IsFilled e "type") := by
  rintro ⟨hname, htype⟩
  cases hn : filled? e "name" with
  | none => exact not_isFilled_of_filled?_eq_none hn hname
  | some name =>
    cases ht : filled? e "type" with
    | none => exact not_isFilled_of_filled?_eq_none ht htype
    | some type =>
      rw [declaration?, hn, ht] at h
      cases h

theorem accounts_properties (n : Nat) (es : List Element) :
    Accounts n es ((es.map declaration?).filterMap id)
      (((es.map declaration?).zipIdx n).filterMap fun (d, m) => if d.isNone then some m else none) := by
  induction es generalizing n with
  | nil => exact .nil n
  | cons e es ih =>
    cases h : declaration? e with
    | none =>
      have hrest := ih (n + 1)
      simp only [List.map_cons, h, List.zipIdx_cons, List.filterMap_cons, id_eq, Option.isNone_none, if_true]
      exact .skipped (not_isFilled_of_declaration? h) hrest
    | some d =>
      have hrest := ih (n + 1)
      simp only [List.map_cons, h, List.zipIdx_cons, List.filterMap_cons, id_eq, Option.isNone_some, Bool.false_eq_true,
        if_false]
      exact .declared (declares_of_declaration? h) hrest

end Accounts

section Dependence

variable {e e' root root' : Element}

theorem declaration?_congr (h : ∀ base, e'.attribute? base = e.attribute? base) : declaration? e' = declaration? e := by
  simp only [declaration?, filled?, flagOf, h]

theorem map_declaration?_congr {es es' : List Element}
    (h : List.Forall₂ (fun e e' => ∀ base, e'.attribute? base = e.attribute? base) es es') :
    es'.map declaration? = es.map declaration? := by
  induction h with
  | nil => rfl
  | cons he _ ih => rw [List.map_cons, List.map_cons, declaration?_congr he, ih]

/-- Only the name of the root and the attributes of its properties matter. -/
theorem ofRoot_congr (hn : root'.attribute? "name" = root.attribute? "name")
    (hp : List.Forall₂ (fun e e' => ∀ base, e'.attribute? base = e.attribute? base) (properties root) (properties root')) :
    ofRoot root' = ofRoot root := by
  have hname : filled? root' "name" = filled? root "name" := by rw [filled?, filled?, hn]
  rw [ofRoot, ofRoot, hname, map_declaration?_congr hp]

theorem read_of_read {text : String} (h : Markup.read text = .ok root) : read (some text) = ofRoot root := by
  rw [read, h]

theorem attribute?_of_forall₂_perm (hd : root.IsDistinct)
    (h : List.Forall₂ (fun e e' => e.attributes.Perm e'.attributes) (properties root) (properties root')) :
    List.Forall₂ (fun e e' => ∀ base, e'.attribute? base = e.attribute? base) (properties root) (properties root') := by
  have hall : ∀ e ∈ properties root, e.IsDistinct := fun e he => hd.of_mem_children (List.mem_filter.1 he).1
  have hboth := (List.forall₂_and_left (properties root) (properties root')).2 ⟨hall, h⟩
  exact hboth.imp fun e e' he base => Markup.attribute?_of_perm he.1 he.2 base

end Dependence

/-- A well-formed document whose root has a name that is not blank is a model, and each of its properties is accounted for.
Other elements, the order of attributes, and whatever stands between the tags make no difference. -/
theorem read_accounted {text name : String} {root : Element} (hr : Markup.read text = .ok root)
    (hn : root.attribute? "name" = some name) (hb : Text.blank name = false) :
    ∃ d, read (some text) = .ok d ∧ d.name = name ∧ Accounts 1 (properties root) d.declarations d.skipped ∧
      d.warnings = d.skipped.map (fun n =>
        name ++ ": property #" ++ toString n ++ " skipped (missing or blank name/type)") ∧
      d.declarations.length + d.warnings.length = (properties root).length ∧
      (∀ other root', Markup.read other = .ok root' → root'.attribute? "name" = some name →
        List.Forall₂ (fun e e' => e.attributes.Perm e'.attributes) (properties root) (properties root') →
        read (some other) = .ok d) ∧
      ∀ other root', Markup.read other = .ok root' → Markup.outline other = Markup.outline text →
        read (some other) = .ok d := by
  have hname : filled? root "name" = some name := filled?_eq_some_iff.2 ⟨hn, hb⟩
  obtain ⟨d, hd, rfl, haccounts⟩ : ∃ d, ofRoot root = .ok d ∧ d.name = name ∧
      Accounts 1 (properties root) d.declarations d.skipped := by
    rw [ofRoot, hname]
    exact ⟨_, rfl, rfl, accounts_properties 1 (properties root)⟩
  refine ⟨d, (read_of_read hr).trans hd, rfl, haccounts, rfl, ?_, fun other root' hr' hn' hp => ?_,
    fun other root' hr' ho => ?_⟩
  · rw [warnings, List.length_map]
    exact haccounts.length_eq
  · have hsame := attribute?_of_forall₂_perm (Markup.isDistinct_of_read hr) hp
    rw [read_of_read hr', ofRoot_congr (hn'.trans hn.symm) hsame, hd]
  · rw [read_of_read hr', Markup.read_congr hr hr' ho, hd]

/-- An empty short attribute beside a long one, a property within another element, and one whose type is blank. -/
theorem read_accounted_mixed :
    let text := "<M name='O'><Property name='A' type='T' inEntity='' inEntityTarget='true'/><!-- -->" ++
      "<G><Property name='N' type='T'/></G><Property type=' ' name='B'/></M>"
    ∃ root, Markup.read text = .ok root ∧ root.attribute? "name" = some "O" ∧ Text.blank "O" = false ∧
      Accounts 1 (properties root) [⟨"A", "T", false, false⟩] [2] ∧ (properties root).length = 2 := by
  intro text
  have hd : read (some text) = .ok ⟨"O", [⟨"A", "T", false, false⟩], [2]⟩ := by decide +kernel
  have hb : Text.blank "O" = false := by decide
  obtain ⟨_, root, ⟨⟩, hr, hn⟩ := name_of_read hd
  obtain ⟨d, hread, -, haccounts, -, hlength, -⟩ := read_accounted hr hn hb
  cases hd.symm.trans hread
  exact ⟨root, hr, hn, hb, haccounts, hlength.symm⟩

end ModelForge.ModelDocument
