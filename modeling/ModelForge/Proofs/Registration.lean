import ModelForge.Proofs.Text.Lowercase
import ModelForge.Registry

/-! Whatever is registered, in whatever order, every alias leads to a language that has a class. A call that is refused halfway
has registered its class and the aliases before the one that was refused. -/

namespace ModelForge

/-- One call to register a class under a language, of something that may be no class at all. -/
structure Registration where
  language : String
  generatorClass : Option GeneratorClass
  aliases : List String
  replace : Bool

namespace Registry

open Text (lower lower_lower)

variable {r after : Registry} {key name : String} {c : GeneratorClass} {replace : Bool} {names : List String}

/-- A call that is refused counts with what it did before. -/
def attempt (r : Registry) (call : Registration) : Registry :=
  (r.register call.language call.generatorClass call.aliases call.replace).1

def attemptAll (r : Registry) (calls : List Registration) : Registry := calls.foldl attempt r

def withClass (r : Registry) (key : String) (c : GeneratorClass) : Registry :=
  { r with generators := Entries.put key c r.generators }

/-- Each name as an alias, whatever it stood for. The language itself is none. -/
def withAliases (r : Registry) (key : String) (names : List String) : Registry :=
  { r with aliases := Entries.putAll r.aliases ((names.filter (lower · ≠ key)).map fun name => (lower name, key)) }

/-- The promises that a registry keeps, in its present state and under every further call. -/
structure IsCoherent (r : Registry) : Prop where
  alias_registered : ∀ name target, (name, target) ∈ r.aliases → ∃ c, r.class? target = some c
  class_of_resolve : ∀ name key, r.resolve name = some key → ∃ c, r.class? key = some c ∧ r.lookup name = .ok (key, c)
  isSupported_iff : ∀ name, r.isSupported name = true ↔ ∃ key c, r.lookup name = .ok (key, c)
  lookup_unsupported : ∀ name, r.isSupported name = false → r.lookup name = .error (.unknown name r.languages)
  resolve_language : ∀ key ∈ Entries.keys r.generators, r.resolve key = some key
  persists : ∀ key ∈ Entries.keys r.generators, ∀ calls, key ∈ Entries.keys (r.attemptAll calls).generators ∧
    (r.attemptAll calls).resolve key = some key
  unchanged : ∀ language aliases replace, r.register language none aliases replace = (r, some .notGenerator)
  /-- Only an alias is refused, and only where nothing is to be replaced. The class and all aliases before it are set, and
  it is in conflict with what is there then. -/
  refused : ∀ language c aliases replace after e, r.register language (some c) aliases replace = (after, some e) →
    replace = false ∧ ∃ before name rest, aliases = before ++ name :: rest ∧
      after = (r.withClass (lower language) c).withAliases (lower language) before ∧
      r.register language (some c) before replace = (after, none) ∧ after.conflict? (lower language) name = some e

/-! What one call does. -/

theorem withAliases_cons_self (h : lower name = key) : r.withAliases key (name :: names) = r.withAliases key names := by
  simp [withAliases, h]

theorem withAliases_cons_of_ne (h : lower name ≠ key) :
    r.withAliases key (name :: names) =
      withAliases { r with aliases := Entries.put (lower name) key r.aliases } key names := by
  simp [withAliases, h, Entries.putAll]

theorem addAliases_cases (r : Registry) (key : String) (replace : Bool) (names : List String) :
    r.addAliases key replace names = (r.withAliases key names, none) ∨
      replace = false ∧ ∃ before name rest e, names = before ++ name :: rest ∧
        r.addAliases key replace before = (r.withAliases key before, none) ∧
        (r.withAliases key before).conflict? key name = some e ∧
        r.addAliases key replace names = (r.withAliases key before, some e) := by
  induction names generalizing r with
  | nil => exact .inl rfl
  | cons name names ih =>
    by_cases hn : lower name = key
    · have hc (l : List String) : r.addAliases key replace (name :: l) = r.addAliases key replace l := by
        rw [addAliases, if_pos hn]
      rw [hc, withAliases_cons_self hn]
      refine (ih r).imp_right ?_
      rintro ⟨hf, before, a, rest, e, rfl, hb, he, hr⟩
      rw [← withAliases_cons_self hn] at hb he hr
      exact ⟨hf, name :: before, a, rest, e, rfl, (hc before).trans hb, he, hr⟩
    · cases hd : if replace then none else r.conflict? key name with
      | some e =>
        obtain ⟨rfl, he⟩ : replace = false ∧ r.conflict? key name = some e := by
          cases replace with
          | false => exact ⟨rfl, hd⟩
          | true => cases hd
        refine .inr ⟨rfl, [], name, names, e, rfl, rfl, he, ?_⟩
        rw [addAliases, if_neg hn, hd]
        rfl
      | none =>
        have hc (l : List String) : r.addAliases key replace (name :: l) =
            addAliases { r with aliases := Entries.put (lower name) key r.aliases } key replace l := by
          rw [addAliases, if_neg hn, hd]
        rw [hc, withAliases_cons_of_ne hn]
        refine (ih _).imp_right ?_
        rintro ⟨hf, before, a, rest, e, rfl, hb, he, hr⟩
        rw [← withAliases_cons_of_ne hn] at hb he hr
        exact ⟨hf, name :: before, a, rest, e, rfl, (hc before).trans hb, he, hr⟩

/-- A call with a class does nothing, whatever the aliases, or it registers the class and goes on to the aliases. -/
theorem register_some_cases (r : Registry) (language : String) (c : GeneratorClass) (replace : Bool) :
    (∀ aliases, r.register language (some c) aliases replace = (r, none)) ∨
      ∀ aliases, r.register language (some c) aliases replace =
        (r.withClass (lower language) c).addAliases (lower language) replace aliases := by
  cases h : (r.class? (lower language)).isSome && !replace with
  | true => exact .inl fun aliases => by simp only [register, h, if_true]
  | false => exact .inr fun aliases => by simp only [register, h, Bool.false_eq_true, if_false, withClass]

theorem attempt_cases (r : Registry) (call : Registration) :
    r.attempt call = r ∨ ∃ key c names, call.generatorClass = some c ∧ lower key = key ∧
      r.attempt call = (r.withClass key c).withAliases key names := by
  obtain ⟨language, c, aliases, replace⟩ := call
  cases c with
  | none => exact .inl rfl
  | some c =>
    rcases register_some_cases r language c replace with h | h
    · exact .inl (congrArg Prod.fst (h aliases))
    · right
      rcases addAliases_cases (r.withClass (lower language) c) (lower language) replace aliases with
        ha | ⟨-, before, _, _, _, -, -, -, ha⟩
      · exact ⟨lower language, c, aliases, rfl, lower_lower language, congrArg Prod.fst ((h aliases).trans ha)⟩
      · exact ⟨lower language, c, before, rfl, lower_lower language, congrArg Prod.fst ((h aliases).trans ha)⟩

/-! What every call keeps. -/

/-- Languages are in lower case, and every alias leads to one of them. -/
structure IsSound (r : Registry) : Prop where
  lower_language : ∀ key ∈ Entries.keys r.generators, lower key = key
  target_mem : ∀ e ∈ r.aliases, e.2 ∈ Entries.keys r.generators

theorem isSome_class? : (r.class? key).isSome = true ↔ key ∈ Entries.keys r.generators := by
  rw [class?, Option.isSome_iff_ne_none, Ne, Entries.find?_eq_none_iff, Decidable.not_not]

theorem isSound_empty : empty.IsSound := ⟨nofun, nofun⟩

theorem IsSound.attempt (h : r.IsSound) (call : Registration) : (r.attempt call).IsSound := by
  rcases attempt_cases r call with ha | ⟨key, c, names, -, hl, ha⟩
  · rwa [ha]
  · rw [ha]
    refine ⟨fun k hk => ?_, fun e he => Entries.mem_keys_put.2 ?_⟩
    · rcases Entries.mem_keys_put.1 hk with hr | rfl
      · exact h.lower_language k hr
      · exact hl
    · rcases Entries.mem_of_mem_putAll he with hr | hn
      · exact .inl (h.target_mem e hr)
      · obtain ⟨name, -, rfl⟩ := List.mem_map.1 hn
        exact .inr rfl

theorem IsSound.attemptAll (h : r.IsSound) (calls : List Registration) : (r.attemptAll calls).IsSound := by
  induction calls generalizing r with
  | nil => exact h
  | cons call calls ih => exact ih (h.attempt call)

theorem isSound_builtin : builtin.IsSound :=
  isSound_empty.attempt ⟨"csharp", some CSharp.generatorClass, ["cs", "c#"], false⟩

theorem mem_keys_attempt (h : key ∈ Entries.keys r.generators) (call : Registration) :
    key ∈ Entries.keys (r.attempt call).generators := by
  rcases attempt_cases r call with ha | ⟨k, c, names, -, -, ha⟩
  · rwa [ha]
  · rw [ha]
    exact Entries.mem_keys_put.2 (.inl h)

theorem mem_keys_attemptAll (h : key ∈ Entries.keys r.generators) (calls : List Registration) :
    key ∈ Entries.keys (r.attemptAll calls).generators := by
  induction calls generalizing r with
  | nil => exact h
  | cons call calls ih => exact ih (mem_keys_attempt h call)

/-! What look-ups answer. -/

theorem lookup_eq_ok_iff : r.lookup name = .ok (key, c) ↔ r.resolve name = some key ∧ r.class? key = some c := by
  constructor
  · intro h
    unfold lookup at h
    split at h
    · cases h
    · next k hr =>
      split at h
      · next d hk =>
        cases h
        exact ⟨hr, hk⟩
      · cases h
  · rintro ⟨hr, hc⟩
    simp only [lookup, hr, hc]

namespace IsSound

theorem exists_class (h : r.IsSound) (hr : r.resolve name = some key) : ∃ c, r.class? key = some c := by
  rw [← Option.isSome_iff_exists]
  unfold resolve at hr
  split at hr
  · next hs =>
    obtain rfl := Option.some.inj hr
    exact hs
  · exact isSome_class?.2 (h.target_mem _ (Entries.mem_of_find?_eq_some hr))

theorem lookup_of_resolve (h : r.IsSound) (hr : r.resolve name = some key) :
    ∃ c, r.class? key = some c ∧ r.lookup name = .ok (key, c) := by
  obtain ⟨c, hc⟩ := h.exists_class hr
  exact ⟨c, hc, by simp only [lookup, hr, hc]⟩

theorem resolve_language (h : r.IsSound) (hk : key ∈ Entries.keys r.generators) : r.resolve key = some key := by
  have hl := h.lower_language key hk
  rw [resolve_eq_lower (by rw [hl, isSome_class?]; exact hk), hl]

end IsSound

theorem lookup_of_resolve_eq_none (h : r.resolve name = none) : r.lookup name = .error (r.unknown name) := by
  simp only [lookup, h]

theorem register_refused {language : String} {aliases : List String} {e : RegistryError}
    (h : r.register language (some c) aliases replace = (after, some e)) :
    replace = false ∧ ∃ before name rest, aliases = before ++ name :: rest ∧
      after = (r.withClass (lower language) c).withAliases (lower language) before ∧
      r.register language (some c) before replace = (after, none) ∧ after.conflict? (lower language) name = some e := by
  rcases register_some_cases r language c replace with hk | hk
  · rw [hk] at h
    cases h
  · rw [hk] at h
    rcases addAliases_cases (r.withClass (lower language) c) (lower language) replace aliases with
      ha | ⟨hf, before, name, rest, e', hs, hb, he, ha⟩
    · rw [ha] at h
      cases h
    · rw [ha] at h
      cases h
      exact ⟨hf, before, name, rest, hs, rfl, (hk before).trans hb, he⟩

theorem IsSound.isCoherent (h : r.IsSound) : r.IsCoherent where
  alias_registered _ _ hm := Option.isSome_iff_exists.1 (isSome_class?.2 (h.target_mem _ hm))
  class_of_resolve _ _ := h.lookup_of_resolve
  isSupported_iff name := by
    rw [isSupported, Option.isSome_iff_exists]
    constructor
    · rintro ⟨key, hr⟩
      obtain ⟨c, -, hl⟩ := h.lookup_of_resolve hr
      exact ⟨key, c, hl⟩
    · rintro ⟨key, c, hl⟩
      cases hr : r.resolve name with
      | some key => exact ⟨key, rfl⟩
      | none =>
        rw [lookup_of_resolve_eq_none hr] at hl
        cases hl
  lookup_unsupported name hs := lookup_of_resolve_eq_none (Option.isNone_iff_eq_none.1 (by simpa [isSupported] using hs))
  resolve_language _ := h.resolve_language
  persists _ hk calls := ⟨mem_keys_attemptAll hk calls, (h.attemptAll calls).resolve_language (mem_keys_attemptAll hk calls)⟩
  unchanged := register_none r
  refused _ _ _ _ _ _ := register_refused

theorem isCoherent_attemptAll {start : Registry} (hs : start = empty ∨ start = builtin) (calls : List Registration) :
    (start.attemptAll calls).IsCoherent := by
  rcases hs with rfl | rfl
  · exact (isSound_empty.attemptAll calls).isCoherent
  · exact (isSound_builtin.attemptAll calls).isCoherent

/-- A call that is refused at its third alias, one without a class, and one that makes an alias of a language's name and a
language of an alias. -/
theorem isCoherent_attemptAll_clashes :
    let calls : List Registration := [⟨"Java", some CSharp.generatorClass, ["J", "JAVA", "Cs", "jvm"], false⟩,
      ⟨"text", none, ["t"], true⟩, ⟨"J", some CSharp.generatorClass, ["csharp"], true⟩]
    (builtin = empty ∨ builtin = builtin) ∧ (builtin.attemptAll calls).IsCoherent ∧
      (builtin.attemptAll calls).aliases = [("cs", "csharp"), ("c#", "csharp"), ("j", "java"), ("csharp", "j")] ∧
      Entries.keys (builtin.attemptAll calls).generators = ["csharp", "java", "j"] := by
  intro calls
  exact ⟨.inr rfl, isCoherent_attemptAll (.inr rfl) calls, by decide +kernel, by decide +kernel⟩

end Registry

end ModelForge
