import ModelForge.Creation
import ModelForge.Proofs.Generation
import ModelForge.Proofs.Merging
import ModelForge.Proofs.Registration
import ModelForge.Proofs.Tables

/-! What a registry answers to a request for a generator, for whatever values the settings have. Values of a wrong kind are
refused by the registry where they are merged; where the generator uses them first, nobody foresees them. -/

namespace ModelForge

namespace DeclaredType

variable {types starts : Value}

theorem exists_members_iff {vs : List Value} : (∃ names, members vs = .ok names) ↔ ∀ v ∈ vs, v.IsHashable := by
  induction vs with
  | nil => exact ⟨fun _ => List.forall_mem_nil _, fun _ => ⟨[], rfl⟩⟩
  | cons v rest ih =>
    rw [List.forall_mem_cons, ← ih]
    cases v with
    | text s =>
      rw [members]
      cases members rest with
      | error m => simp [Except.map]
      | ok names => exact ⟨fun _ => ⟨trivial, names, rfl⟩, fun _ => ⟨s :: names, rfl⟩⟩
    | list => exact ⟨by rintro ⟨_, ⟨⟩⟩, fun h => h.1.elim⟩
    | object => exact ⟨by rintro ⟨_, ⟨⟩⟩, fun h => h.1.elim⟩
    | _ => exact ⟨fun h => ⟨trivial, h⟩, fun h => h.2⟩

/-- Both are unset, or both have elements, and the types are such as a set can hold. -/
def CanExtend (types starts : Value) : Prop :=
  types.isSet = false ∧ starts.isSet = false ∨
    (∃ vs, types.elements = .ok vs ∧ ∀ v ∈ vs, v.IsHashable) ∧ ∃ vs, starts.elements = .ok vs

theorem Classifier.exists_ofValues_iff : (∃ c, ofValues types starts = .ok c) ↔ CanExtend types starts := by
  unfold ofValues CanExtend
  by_cases hset : types.isSet = false ∧ starts.isSet = false
  · simp [hset, pure, Except.pure]
  · have hguard : ¬(!types.isSet && !starts.isSet) = true := by simpa using hset
    rw [if_neg hguard, or_iff_right hset]
    cases types.elements with
    | error m => simp [bind, Except.bind]
    | ok vs =>
      simp only [Except.ok.injEq, exists_eq_left', ← exists_members_iff]
      cases hm : members vs with
      | error m => simp [bind, Except.bind, hm]
      | ok names => cases starts.elements <;> simp [bind, Except.bind, pure, Except.pure, hm]

end DeclaredType

namespace Registry

open DeclaredType (Classifier CanExtend)
open Settings (IsBuiltFrom givenCustom strangers)

variable {r : Registry} {name : String} {d : List (String × Value)}

/-- The answer to a request. The two before the last are errors that nobody foresees. -/
inductive Answer (r : Registry) (name : String) (d : List (String × Value)) :
    Except CreationError (GeneratorClass × Generator) → Prop where
  | unknown (h : r.isSupported name = false) : Answer r name d (.error (.registry (.unknown name r.languages)))
  | notCreated {m : Mismatch} (h : r.isSupported name = true) (hs : strangers d ≠ [])
      (ht : (givenCustom d).table = .error m) (hl : ¬(givenCustom d).FailsByLength) :
      Answer r name d (.error (.registry (.notCreated name m.message)))
  | badTable {m : Mismatch} (h : r.isSupported name = true) (hs : strangers d ≠ []) (ht : (givenCustom d).table = .error m)
      (hl : (givenCustom d).FailsByLength) : Answer r name d (.error (.load (.mismatch m)))
  | badExtras {s : Settings} {m : Mismatch} (h : r.isSupported name = true) (hb : IsBuiltFrom d s)
      (hc : Classifier.ofValues (s.get .extraSimpleTypes) (s.get .extraCollectionPrefixes) = .error m) :
      Answer r name d (.error (.mismatch m))
  | made {key : String} {s : Settings} {c : Classifier} (h : r.lookup name = .ok (key, CSharp.generatorClass))
      (hb : IsBuiltFrom d s)
      (hc : Classifier.ofValues (s.get .extraSimpleTypes) (s.get .extraCollectionPrefixes) = .ok c) :
      Answer r name d (.ok (CSharp.generatorClass, CSharp.generator s c))

def IsShipped (r : Registry) : Prop := ∀ e ∈ r.generators, e.2 = CSharp.generatorClass

theorem IsShipped.attempt (h : r.IsShipped) {call : Registration}
    (hc : ∀ c, call.generatorClass = some c → c = CSharp.generatorClass) : (r.attempt call).IsShipped := by
  rcases attempt_cases r call with ha | ⟨key, c, names, hclass, -, ha⟩
  · rwa [ha]
  · rw [ha]
    intro e he
    rcases Entries.mem_of_mem_put he with he | rfl
    · exact h e he
    · exact hc c hclass

theorem IsShipped.attemptAll (h : r.IsShipped) {calls : List Registration}
    (hc : ∀ call ∈ calls, ∀ c, call.generatorClass = some c → c = CSharp.generatorClass) :
    (r.attemptAll calls).IsShipped := by
  induction calls generalizing r with
  | nil => exact h
  | cons call calls ih =>
    obtain ⟨hcall, hrest⟩ := List.forall_mem_cons.1 hc
    exact ih (h.attempt hcall) hrest

theorem isShipped_empty : empty.IsShipped := nofun

theorem isShipped_builtin : builtin.IsShipped := by
  intro e he
  rw [List.mem_singleton.1 he]

theorem IsShipped.eq_of_lookup (h : r.IsShipped) {key : String} {c : GeneratorClass} (hl : r.lookup name = .ok (key, c)) :
    c = CSharp.generatorClass := h _ (Entries.mem_of_find?_eq_some (lookup_eq_ok_iff.1 hl).2)

/-! The answer. -/

def Gives (config : Value) (d : List (String × Value)) : Prop := config = .null ∧ d = [] ∨ config = .object d

theorem settingsOf_of_gives {config : Value} (hc : Gives config d) (hd : (Entries.keys d).Nodup) (t : FileTree)
    (key : String) : settingsOf t key config = ((Settings.ofMerged d).mapError .mismatch).mapError .load := by
  rcases hc with ⟨rfl, rfl⟩ | rfl
  · rw [settingsOf, Settings.load_overrides hd]
  · rw [settingsOf, Settings.load_overrides hd]

theorem create_of_lookup {config : Value} {key : String} {t : FileTree} (hc : Gives config d)
    (hd : (Entries.keys d).Nodup) (hl : r.lookup name = .ok (key, CSharp.generatorClass)) :
    r.create t name config =
      match Settings.ofMerged d with
      | .error m => .error (if m.cause = .kind then .registry (.notCreated name m.message) else .load (.mismatch m))
      | .ok s => ((CSharp.create .shipped s).mapError .mismatch).map fun g => (CSharp.generatorClass, g) := by
  simp only [create, hl, settingsOf_of_gives hc hd]
  cases Settings.ofMerged d with
  | error m =>
    show Except.error (foresee name (.load (.mismatch m))) = _
    by_cases hm : m.cause = .kind <;> simp [foresee, LoadError.isForeseen, LoadError.message, hm]
  | ok s =>
    show ((CSharp.create .shipped s).mapError CreationError.mismatch).bind (fun g => .ok (CSharp.generatorClass, g)) =
      ((CSharp.create .shipped s).mapError CreationError.mismatch).map fun g => (CSharp.generatorClass, g)
    cases CSharp.create .shipped s <;> rfl

theorem answer_create {config : Value} (hr : r.IsShipped) (hs : r.IsSound) (hc : Gives config d)
    (hd : (Entries.keys d).Nodup) (t : FileTree) (name : String) : Answer r name d (r.create t name config) := by
  cases hres : r.resolve name with
  | none =>
    have hl := lookup_of_resolve_eq_none hres
    have hcreate : r.create t name config = .error (.registry (r.unknown name)) := by
      rw [create, hl]
      rfl
    rw [hcreate]
    exact .unknown (by rw [isSupported, hres]; rfl)
  | some key =>
    obtain ⟨c, -, hl⟩ := hs.lookup_of_resolve hres
    obtain rfl := hr.eq_of_lookup hl
    have hsupported : r.isSupported name = true := by rw [isSupported, hres]; rfl
    rw [create_of_lookup hc hd hl]
    -- What goes wrong in merging is foreseen by its kind; what goes wrong later is not.
    cases hm : Settings.ofMerged d with
    | error m =>
      obtain ⟨hstrangers, ht⟩ := Settings.ofMerged_eq_error_iff.1 hm
      rcases (givenCustom d).table_cases with ⟨-, entries, hok⟩ | ⟨-, m', herror, hcause⟩
      · rw [ht] at hok
        cases hok
      · rw [ht] at herror
        cases herror
        rcases hcause with ⟨hcontent, hlength⟩ | ⟨hkind, hlength⟩
        · simp only [hcontent, reduceCtorEq, if_false]
          exact .badTable hsupported hstrangers ht hlength
        · simp only [hkind, if_true]
          exact .notCreated hsupported hstrangers ht hlength
    | ok s =>
      have hb := Settings.ofMerged_eq_ok_iff.1 hm
      cases hv : Classifier.ofValues (s.get .extraSimpleTypes) (s.get .extraCollectionPrefixes) with
      | error m =>
        have hcreate : CSharp.create .shipped s = .error m := by
          rw [CSharp.create, hv]
          rfl
        simp only [hcreate]
        exact .badExtras hsupported hb hv
      | ok c =>
        simp only [CSharp.create_of_ofValues hv]
        exact .made hl hb hv

theorem Answer.escapes_iff {result : Except CreationError (GeneratorClass × Generator)} (h : Answer r name d result) :
    (∃ e, result = .error e ∧ ∀ f, e ≠ .registry f) ↔ r.isSupported name = true ∧
      (strangers d ≠ [] ∧ (givenCustom d).FailsByLength ∨
        ∃ s, IsBuiltFrom d s ∧ ¬CanExtend (s.get .extraSimpleTypes) (s.get .extraCollectionPrefixes)) := by
  have hmerged {s : Settings} {m : Mismatch} (hb : IsBuiltFrom d s) (hs : strangers d ≠ []) :
      (givenCustom d).table ≠ .error m := by
    intro ht
    have herror := Settings.ofMerged_eq_error_iff.2 ⟨hs, ht⟩
    rw [Settings.ofMerged_eq_ok_iff.2 hb] at herror
    cases herror
  cases h with
  | unknown hn =>
    refine ⟨fun ⟨e, he, hne⟩ => ?_, fun ⟨hy, _⟩ => ?_⟩
    · cases he
      exact absurd rfl (hne _)
    · rw [hn] at hy
      cases hy
  | notCreated _ hs ht hl =>
    refine ⟨fun ⟨e, he, hne⟩ => ?_, fun ⟨_, hbad⟩ => ?_⟩
    · cases he
      exact absurd rfl (hne _)
    · rcases hbad with ⟨-, hl'⟩ | ⟨s, hb, -⟩
      · exact absurd hl' hl
      · exact absurd ht (hmerged hb hs)
  | badTable hy hs _ hl => exact ⟨fun _ => ⟨hy, .inl ⟨hs, hl⟩⟩, fun _ => ⟨_, rfl, nofun⟩⟩
  | badExtras hy hb hc =>
    refine ⟨fun _ => ⟨hy, .inr ⟨_, hb, fun he => ?_⟩⟩, fun _ => ⟨_, rfl, nofun⟩⟩
    obtain ⟨c, hok⟩ := Classifier.exists_ofValues_iff.2 he
    rw [hc] at hok
    cases hok
  | made _ hb hc =>
    refine ⟨nofun, fun ⟨_, hbad⟩ => ?_⟩
    rcases hbad with ⟨hs, hl⟩ | ⟨s', hb', hne⟩
    · obtain ⟨m, ht⟩ := hl.exists_error
      exact absurd ht (hmerged hb hs)
    · rw [hb'.eq hb] at hne
      exact absurd (Classifier.exists_ofValues_iff.1 ⟨_, hc⟩) hne

/-- What a request comes to: one of the answers, and an error that is none of the registry's own in just two cases. -/
structure IsAnswered (r : Registry) (name : String) (d : List (String × Value))
    (result : Except CreationError (GeneratorClass × Generator)) : Prop where
  answer : Answer r name d result
  escapes_iff : (∃ e, result = .error e ∧ ∀ f, e ≠ .registry f) ↔ r.isSupported name = true ∧
    (strangers d ≠ [] ∧ (givenCustom d).FailsByLength ∨
      ∃ s, IsBuiltFrom d s ∧ ¬CanExtend (s.get .extraSimpleTypes) (s.get .extraCollectionPrefixes))

theorem isAnswered_create {start : Registry} (hs : start = empty ∨ start = builtin) {calls : List Registration}
    (hcalls : ∀ call ∈ calls, ∀ c, call.generatorClass = some c → c = CSharp.generatorClass) {config : Value}
    (hc : Gives config d) (hd : (Entries.keys d).Nodup) (t : FileTree) (name : String) :
    IsAnswered (start.attemptAll calls) name d ((start.attemptAll calls).create t name config) := by
  have hstart : start.IsSound ∧ start.IsShipped := by
    rcases hs with rfl | rfl
    · exact ⟨isSound_empty, isShipped_empty⟩
    · exact ⟨isSound_builtin, isShipped_builtin⟩
  have ha := answer_create (hstart.2.attemptAll hcalls) (hstart.1.attemptAll calls) hc hd t name
  exact ⟨ha, ha.escapes_iff⟩

/-- A text as the custom table beside an entry that names no setting, and no overrides at all. -/
theorem isAnswered_create_alias :
    let calls : List Registration := [⟨"Java", some CSharp.generatorClass, ["J"], false⟩]
    let d : List (String × Value) := [("custom", .text "abc"), ("theme", .text "dark")]
    let t : FileTree := ⟨[], []⟩
    (builtin = empty ∨ builtin = builtin) ∧
      (∀ call ∈ calls, ∀ c, call.generatorClass = some c → c = CSharp.generatorClass) ∧
      (Gives (.object d) d ∧ (Entries.keys d).Nodup ∧
        ∃ e, (builtin.attemptAll calls).create t "j" (.object d) = .error e ∧ ∀ f, e ≠ .registry f) ∧
      Gives .null [] ∧ (Entries.keys ([] : List (String × Value))).Nodup ∧
        ∃ g, (builtin.attemptAll calls).create t "j" .null = .ok (CSharp.generatorClass, g) ∧
          g.settings.get .indentSize = .int 4 := by
  intro calls d t
  have hcalls : ∀ call ∈ calls, ∀ c, call.generatorClass = some c → c = CSharp.generatorClass := by
    intro call hcall c hc
    rw [List.mem_singleton.1 hcall] at hc
    exact (Option.some.inj hc).symm
  have hd : (Entries.keys d).Nodup := by decide
  have hsupported : (builtin.attemptAll calls).isSupported "j" = true := by decide +kernel
  have hlength : (givenCustom d).FailsByLength := ⟨nofun, _, rfl, .here ⟨_, rfl, by decide⟩⟩
  have htext := isAnswered_create (.inr rfl) hcalls (.inr rfl) hd t "j"
  refine ⟨.inr rfl, hcalls, ⟨.inr rfl, hd, htext.escapes_iff.2 ⟨hsupported, .inl ⟨by decide +kernel, hlength⟩⟩⟩,
    .inl ⟨rfl, rfl⟩, List.nodup_nil, ?_⟩
  have hnull := (isAnswered_create (.inr rfl) hcalls (.inl ⟨rfl, rfl⟩) List.nodup_nil t "j").answer
  generalize (builtin.attemptAll calls).create t "j" .null = result at hnull
  cases hnull with
  | unknown h => exact absurd h (by rw [hsupported]; nofun)
  | notCreated _ hs => exact absurd rfl hs
  | badTable _ hs => exact absurd rfl hs
  | badExtras _ hb hc =>
    rw [hb.setting .extraSimpleTypes nofun, hb.setting .extraCollectionPrefixes nofun] at hc
    cases hc
  | made _ hb => exact ⟨_, rfl, hb.setting .indentSize nofun⟩

/-- A number in place of the extra simple types, which is found out by the generator only. -/
theorem create_extraTypes_number :
    let d : List (String × Value) := [("extra_simple_types", .int 5)]
    let t : FileTree := ⟨[], []⟩
    builtin.create t "csharp" (.object d) = .error (.mismatch (.notIterable "int")) ∧
      ¬((∃ p, builtin.create t "csharp" (.object d) = .ok p) ∨
        ∃ f, builtin.create t "csharp" (.object d) = .error (.registry f)) := by
  intro d t
  have hcreate : builtin.create t "csharp" (.object d) = .error (.mismatch (.notIterable "int")) := rfl
  rw [hcreate]
  exact ⟨rfl, by simp⟩

end Registry

end ModelForge
