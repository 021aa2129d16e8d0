import ModelForge.Value.Table

/-! Which values can be used as tables, and which of the others fail by the length of a pair. -/

namespace ModelForge.Value

variable {v u : Value} {vs : List Value} {m : Mismatch}

def IsHashable : Value → Prop
  | list _ => False
  | object _ => False
  | _ => True

/-- Something with two elements, of which the first can be a key. -/
def IsPair (v : Value) : Prop := ∃ k w, v.elements = .ok [k, w] ∧ k.IsHashable

def HasWrongLength (v : Value) : Prop := ∃ us, v.elements = .ok us ∧ us.length ≠ 2

/-- After some pairs there is something that has elements, but not two. -/
inductive MeetWrongLength : List Value → Prop where
  | here {u : Value} {rest : List Value} (h : u.HasWrongLength) : MeetWrongLength (u :: rest)
  | later {u : Value} {rest : List Value} (h : u.IsPair) (hr : MeetWrongLength rest) : MeetWrongLength (u :: rest)

def IsTable (v : Value) : Prop := (∃ entries, v = object entries) ∨ ∃ vs, v.elements = .ok vs ∧ ∀ u ∈ vs, u.IsPair

def FailsByLength (v : Value) : Prop := (∀ entries, v ≠ object entries) ∧ ∃ vs, v.elements = .ok vs ∧ MeetWrongLength vs

theorem IsPair.not_hasWrongLength (h : u.IsPair) : ¬u.HasWrongLength := by
  obtain ⟨k, w, he, -⟩ := h
  rintro ⟨us, hu, hl⟩
  rw [he] at hu
  cases hu
  exact hl rfl

theorem MeetWrongLength.not_forall_isPair (h : MeetWrongLength vs) : ¬∀ u ∈ vs, u.IsPair := by
  induction h with
  | here h => exact fun hp => (hp _ List.mem_cons_self).not_hasWrongLength h
  | later _ _ ih => exact fun hp => ih fun u hu => hp u (List.mem_cons_of_mem _ hu)

/-! How making a table fails. -/

theorem key_cases (v : Value) :
    v.IsHashable ∧ (∃ k, v.key = .ok k) ∨ ¬v.IsHashable ∧ v.key = .error (.unhashable v.kind) := by
  cases v with
  | list => exact .inr ⟨id, rfl⟩
  | object => exact .inr ⟨id, rfl⟩
  | _ => exact .inl ⟨trivial, _, rfl⟩

theorem pair_cases (index : Nat) (v : Value) :
    v.IsPair ∧ (∃ e, pair index v = .ok e) ∨
      ¬v.IsPair ∧ ∃ m, pair index v = .error m ∧
        (m.cause = .content ∧ v.HasWrongLength ∨ m.cause = .kind ∧ ¬v.HasWrongLength) := by
  unfold pair
  split
  · next m he =>
    refine .inr ⟨?_, _, rfl, .inr ⟨rfl, ?_⟩⟩
    · rintro ⟨k, w, hp, -⟩
      rw [he] at hp
      cases hp
    · rintro ⟨us, hu, -⟩
      rw [he] at hu
      cases hu
  · next k w he =>
    rcases key_cases k with ⟨hk, key, hkey⟩ | ⟨hk, hkey⟩
    · exact .inl ⟨⟨k, w, he, hk⟩, (key, w), by rw [hkey]; rfl⟩
    · refine .inr ⟨?_, _, by rw [hkey]; rfl, .inr ⟨rfl, ?_⟩⟩
      · rintro ⟨k', w', hp, hk'⟩
        rw [he] at hp
        cases hp
        exact hk hk'
      · rintro ⟨us, hu, hl⟩
        rw [he] at hu
        cases hu
        exact hl rfl
  · next others hne he =>
    have hwrong : v.HasWrongLength := by
      refine ⟨others, he, fun hl => ?_⟩
      match others with
      | [a, b] => exact hne a b rfl
    exact .inr ⟨fun hp => hp.not_hasWrongLength hwrong, _, rfl, .inl ⟨rfl, hwrong⟩⟩

theorem pairs_cases (index : Nat) (table : List (String × Value)) (vs : List Value) :
    (∀ u ∈ vs, u.IsPair) ∧ (∃ entries, pairs index table vs = .ok entries) ∨
      (¬∀ u ∈ vs, u.IsPair) ∧ ∃ m, pairs index table vs = .error m ∧
        (m.cause = .content ∧ MeetWrongLength vs ∨ m.cause = .kind ∧ ¬MeetWrongLength vs) := by
  -- The first element that is no pair decides; up to there the table grows.
  induction vs generalizing index table with
  | nil => exact .inl ⟨nofun, table, rfl⟩
  | cons v rest ih =>
    rw [pairs]
    rcases pair_cases index v with ⟨hv, ⟨k, w⟩, he⟩ | ⟨hv, m, he, hm⟩
    · rw [he]
      rcases ih (index + 1) (Entries.put k w table) with ⟨hr, hok⟩ | ⟨hr, m, herror, hm⟩
      · exact .inl ⟨List.forall_mem_cons.2 ⟨hv, hr⟩, hok⟩
      · refine .inr ⟨fun h => hr (List.forall_mem_cons.1 h).2, m, herror, hm.imp (.imp_right (.later hv)) ?_⟩
        refine .imp_right fun hr' h => ?_
        cases h with
        | here h => exact hv.not_hasWrongLength h
        | later _ h => exact hr' h
    · rw [he]
      refine .inr ⟨fun h => hv (List.forall_mem_cons.1 h).1, m, rfl, hm.imp (.imp_right .here) (.imp_right fun hw h => ?_)⟩
      cases h with
      | here h => exact hw h
      | later h => exact hv h

theorem elements_cases (v : Value) :
    (∃ vs, v.elements = .ok vs) ∨ v.elements = .error (.notIterable v.kind) := by
  cases v with
  | text => exact .inl ⟨_, rfl⟩
  | list => exact .inl ⟨_, rfl⟩
  | object => exact .inl ⟨_, rfl⟩
  | _ => exact .inr rfl

theorem table_of_ne_object (h : ∀ entries, v ≠ object entries) :
    v.table = match v.elements with
      | .error m => .error m
      | .ok vs => pairs 0 [] vs := by
  cases v with
  | object entries => exact absurd rfl (h entries)
  | _ => rfl

theorem table_cases (v : Value) :
    v.IsTable ∧ (∃ entries, v.table = .ok entries) ∨
      ¬v.IsTable ∧ ∃ m, v.table = .error m ∧
        (m.cause = .content ∧ v.FailsByLength ∨ m.cause = .kind ∧ ¬v.FailsByLength) := by
  by_cases ho : ∃ entries, v = object entries
  · obtain ⟨entries, rfl⟩ := ho
    exact .inl ⟨.inl ⟨entries, rfl⟩, entries, rfl⟩
  · have hne : ∀ entries, v ≠ object entries := fun entries e => ho ⟨entries, e⟩
    rw [table_of_ne_object hne]
    rcases elements_cases v with ⟨vs, he⟩ | he
    · have hunique {us : List Value} (hu : v.elements = .ok us) : us = vs := Except.ok.inj (hu.symm.trans he)
      rw [he]
      rcases pairs_cases 0 [] vs with ⟨hp, hok⟩ | ⟨hp, m, herror, hm⟩
      · exact .inl ⟨.inr ⟨vs, he, hp⟩, hok⟩
      · refine .inr ⟨?_, m, herror, hm.imp (.imp_right fun hw => ⟨hne, vs, he, hw⟩) (.imp_right fun hw h => ?_)⟩
        · rintro (h | ⟨us, hu, h⟩)
          · exact ho h
          · exact hp (hunique hu ▸ h)
        · obtain ⟨-, us, hu, h⟩ := h
          exact hw (hunique hu ▸ h)
    · rw [he]
      refine .inr ⟨?_, _, rfl, .inr ⟨rfl, ?_⟩⟩
      · rintro (h | ⟨us, hu, -⟩)
        · exact ho h
        · rw [he] at hu
          cases hu
      · rintro ⟨-, us, hu, -⟩
        rw [he] at hu
        cases hu

theorem FailsByLength.exists_error (h : v.FailsByLength) : ∃ m, v.table = .error m := by
  rcases v.table_cases with ⟨ht, -⟩ | ⟨-, m, he, -⟩
  · obtain ⟨hne, vs, he, hw⟩ := h
    rcases ht with ⟨entries, rfl⟩ | ⟨us, hu, hp⟩
    · exact absurd rfl (hne entries)
    · obtain rfl := Except.ok.inj (hu.symm.trans he)
      exact absurd hp hw.not_forall_isPair
  · exact ⟨m, he⟩

end ModelForge.Value
