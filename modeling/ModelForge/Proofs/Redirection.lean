import ModelForge.Proofs.Registration

/-! What a call that replaces nothing does to the names that are known before it. Aliases and languages keep their classes;
only a name that has been no more than an alias can change hands, when the call makes a language of it. -/

namespace ModelForge.Registry

open Text (lower)

variable {r : Registry} {key name : String} {c new : GeneratorClass} {call : Registration}

/-- The class that a call gives to a name by making a language of it. -/
def promoted? (r : Registry) (call : Registration) (name : String) : Option GeneratorClass :=
  if lower name = lower call.language ∧ (r.class? (lower name)).isNone then call.generatorClass else none

/-! Aliases that are set only where nothing is in conflict with them. -/

theorem generators_addAliases (r : Registry) (key : String) (replace : Bool) (names : List String) :
    (r.addAliases key replace names).1.generators = r.generators := by
  rcases addAliases_cases r key replace names with h | ⟨-, _, _, _, _, -, -, -, h⟩
  all_goals
    rw [h]
    rfl

theorem target_of_conflict?_eq_none {target : String} (h : r.conflict? key name = none)
    (hf : Entries.find? (lower name) r.aliases = some target) : target = key := by
  unfold conflict? at h
  split at h
  · cases h
  · rw [hf] at h
    simp only at h
    split at h
    · assumption
    · cases h

theorem find?_addAliases {n target : String} (h : Entries.find? n r.aliases = some target) (key : String)
    (names : List String) : Entries.find? n (r.addAliases key false names).1.aliases = some target := by
  induction names generalizing r with
  | nil => exact h
  | cons name names ih =>
    rw [addAliases]
    split
    · exact ih h
    · simp only [Bool.false_eq_true, if_false]
      cases hc : r.conflict? key name with
      | some e => exact h
      | none =>
        refine ih ?_
        rw [Entries.find?_put]
        split
        · next hn =>
          rw [← hn] at h
          rw [target_of_conflict?_eq_none hc h]
        · exact h

/-! Look-ups. -/

theorem class?_withClass (r : Registry) (k : String) (new : GeneratorClass) (key : String) :
    (r.withClass k new).class? key = if k = key then some new else r.class? key :=
  Entries.find?_put ..

theorem lookup_addAliases {k : String} (hk : r.class? k = none) (h : r.lookup name = .ok (key, c)) (new : GeneratorClass)
    (names : List String) :
    ((r.withClass k new).addAliases k false names).1.lookup name =
      .ok (if lower name = k then (k, new) else (key, c)) := by
  obtain ⟨hr, hc⟩ := lookup_eq_ok_iff.1 h
  have hclass (n : String) : ((r.withClass k new).addAliases k false names).1.class? n =
      if k = n then some new else r.class? n := by
    rw [class?, generators_addAliases]
    exact class?_withClass r k new n
  by_cases hn : lower name = k
  · rw [if_pos hn, lookup_eq_ok_iff, hclass, if_pos rfl]
    refine ⟨?_, rfl⟩
    rw [resolve_eq_lower (by rw [hclass, if_pos hn.symm]; rfl), hn]
  · have hkey : k ≠ key := by
      rintro rfl
      rw [hk] at hc
      cases hc
    rw [if_neg hn, lookup_eq_ok_iff, hclass, if_neg hkey]
    refine ⟨?_, hc⟩
    unfold resolve at hr ⊢
    rw [hclass, if_neg (Ne.symm hn)]
    split
    · next hs => rwa [if_pos hs] at hr
    · next hs =>
      rw [if_neg hs] at hr
      exact find?_addAliases (r := r.withClass k new) hr k names

/-- A call that replaces nothing, whether it is refused or not, leaves every name with the class that it stood for, except a
name that the call itself turns from an alias into a language. -/
theorem lookup_attempt (hr : call.replace = false) (h : r.lookup name = .ok (key, c)) :
    (r.attempt call).lookup name =
      .ok (match r.promoted? call name with
        | some new => (lower name, new)
        | none => (key, c)) := by
  obtain ⟨language, generatorClass, aliases, replace⟩ := call
  obtain rfl : replace = false := hr
  cases generatorClass with
  | none =>
    have hp : r.promoted? ⟨language, none, aliases, false⟩ name = none := ite_self _
    rw [hp]
    exact h
  | some new =>
    cases hk : r.class? (lower language) with
    | some old =>
      have ha : r.attempt ⟨language, some new, aliases, false⟩ = r := by simp [attempt, register, hk]
      have hp : r.promoted? ⟨language, some new, aliases, false⟩ name = none := by
        refine if_neg fun hn => ?_
        rw [hn.1, hk] at hn
        cases hn.2
      rw [ha, hp]
      exact h
    | none =>
      have ha : r.attempt ⟨language, some new, aliases, false⟩ =
          ((r.withClass (lower language) new).addAliases (lower language) false aliases).1 := by
        simp [attempt, register, hk, withClass]
      have hp : r.promoted? ⟨language, some new, aliases, false⟩ name =
          if lower name = lower language then some new else none := by
        by_cases hn : lower name = lower language <;> simp [promoted?, hn, hk]
      rw [ha, hp, lookup_addAliases hk h]
      by_cases hn : lower name = lower language <;> simp [hn]

/-- A call that is refused at its second alias, and a name that it would have redirected there. -/
theorem lookup_attempt_refused :
    let call : Registration := ⟨"Java", some ⟨"OtherGenerator", CSharp.create .shipped⟩, ["jvm", "CS", "c#"], false⟩
    call.replace = false ∧ builtin.lookup "cS" = .ok ("csharp", CSharp.generatorClass) ∧
      (builtin.register call.language call.generatorClass call.aliases call.replace).2 =
        some (.aliasTaken "CS" "csharp") ∧
      (builtin.attempt call).lookup "cS" = .ok ("csharp", CSharp.generatorClass) := by
  intro call
  have hl : builtin.lookup "cS" = .ok ("csharp", CSharp.generatorClass) := rfl
  have hp : builtin.promoted? call "cS" = none := if_neg (by decide +kernel)
  have hr : call.replace = false := rfl
  have h := lookup_attempt hr hl
  rw [hp] at h
  exact ⟨rfl, hl, by decide +kernel, h⟩

/-- An alias of the registry as it is at first, redirected by a call that replaces nothing and is not refused. -/
theorem alias_redirected :
    let other : GeneratorClass := ⟨"OtherGenerator", CSharp.create .shipped⟩
    let call : Registration := ⟨"CS", some other, [], false⟩
    other ≠ CSharp.generatorClass ∧ builtin.lookup "cs" = .ok ("csharp", CSharp.generatorClass) ∧
      (builtin.register call.language call.generatorClass call.aliases call.replace).2 = none ∧
      (builtin.attempt call).lookup "cs" = .ok ("cs", other) := by
  intro other call
  have hname : other.name ≠ CSharp.generatorClass.name := by decide
  have hlanguage : lower "CS" = "cs" := by decide +kernel
  have hregister : builtin.register "CS" (some other) [] false = (builtin.withClass "cs" other, none) := by
    rw [register, hlanguage]
    rfl
  have hresolve : (builtin.withClass "cs" other).resolve "cs" = some "cs" := by decide +kernel
  refine ⟨fun h => hname (congrArg GeneratorClass.name h), rfl, congrArg Prod.snd hregister, ?_⟩
  rw [attempt, hregister]
  exact lookup_eq_ok_iff.2 ⟨hresolve, rfl⟩

end ModelForge.Registry
