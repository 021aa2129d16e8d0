import Mathlib.Data.List.Induction
import Mathlib.Data.List.Nodup
import ModelForge.Model.Schema

/-! Reconciliation in closed form: one field for each declared name, read off the declarations of that name. The invariant
of the fold is that the fields so far are those of the declarations so far. -/

namespace ModelForge

variable {flagged : Declaration → Bool} {n : String} {ds : List Declaration} {d : Declaration}

/-- The declared names, each at the place of its first declaration. -/
def declaredNames (ds : List Declaration) : List String := (ds.map (·.name)).eraseDups

def isFlagged (flagged : Declaration → Bool) (n : String) (ds : List Declaration) : Bool :=
  ds.any fun d => d.name = n && flagged d

/-- The type of the last declaration of the name that has the flag. -/
def lastType (flagged : Declaration → Bool) (n : String) (ds : List Declaration) : Option String :=
  ((ds.filter fun d => d.name = n && flagged d).getLast?).map (·.type)

def Field.ofName (ds : List Declaration) (n : String) : Field where
  name := n
  entityType := lastType (·.inEntity) n ds
  dtoType := lastType (·.inDto) n ds
  inEntity := isFlagged (·.inEntity) n ds
  inDto := isFlagged (·.inDto) n ds

theorem eraseDups_concat {α : Type} [DecidableEq α] (l : List α) (a : α) :
    (l ++ [a]).eraseDups = l.eraseDups ++ if a ∈ l then [] else [a] := by
  rw [List.eraseDups_append]
  by_cases h : a ∈ l <;> simp [List.removeAll, h, List.eraseDups_cons]

theorem nodup_eraseDups {α : Type} [DecidableEq α] (l : List α) : l.eraseDups.Nodup := by
  induction l using List.reverseRecOn with
  | nil => exact List.nodup_nil
  | append_singleton l a ih =>
    rw [eraseDups_concat]
    by_cases h : a ∈ l
    · rwa [if_pos h, List.append_nil]
    · rw [if_neg h]
      exact ih.append (List.nodup_singleton a) (by simpa using h)

theorem nodup_declaredNames (ds : List Declaration) : (declaredNames ds).Nodup := nodup_eraseDups _

theorem mem_declaredNames : n ∈ declaredNames ds ↔ ∃ d ∈ ds, d.name = n := by
  simp [declaredNames]

theorem declaredNames_concat (ds : List Declaration) (d : Declaration) :
    declaredNames (ds ++ [d]) = declaredNames ds ++ if d.name ∈ declaredNames ds then [] else [d.name] := by
  rw [declaredNames, List.map_append, List.map_singleton, eraseDups_concat]
  simp only [declaredNames, List.mem_eraseDups]

theorem isFlagged_concat (ds : List Declaration) (d : Declaration) :
    isFlagged flagged n (ds ++ [d]) = (isFlagged flagged n ds || (d.name = n && flagged d)) := by
  simp [isFlagged]

theorem lastType_concat (ds : List Declaration) (d : Declaration) :
    lastType flagged n (ds ++ [d]) = if d.name = n && flagged d then some d.type else lastType flagged n ds := by
  by_cases h : (d.name = n && flagged d) = true <;> simp [lastType, h]

theorem isFlagged_eq_true_iff : isFlagged flagged n ds = true ↔ ∃ d ∈ ds, d.name = n ∧ flagged d = true := by
  simp [isFlagged]

theorem isFlagged_of_not_mem (h : n ∉ declaredNames ds) : isFlagged flagged n ds = false := by
  rw [← Bool.not_eq_true, isFlagged_eq_true_iff]
  rintro ⟨d, hd, hn, -⟩
  exact h (mem_declaredNames.2 ⟨d, hd, hn⟩)

theorem isSome_lastType (flagged : Declaration → Bool) (n : String) (ds : List Declaration) :
    (lastType flagged n ds).isSome = isFlagged flagged n ds := by
  induction ds using List.reverseRecOn with
  | nil => rfl
  | append_singleton ds d ih =>
    rw [lastType_concat, isFlagged_concat, ← ih]
    split <;> simp_all

theorem exists_of_lastType_eq_some {t : String} (h : lastType flagged n ds = some t) :
    ∃ d ∈ ds, d.name = n ∧ flagged d = true ∧ d.type = t := by
  obtain ⟨d, hd, rfl⟩ := Option.map_eq_some_iff.1 h
  have hm := List.mem_filter.1 (List.mem_of_getLast? hd)
  have hp : d.name = n ∧ flagged d = true := by simpa using hm.2
  exact ⟨d, hm.1, hp.1, hp.2, rfl⟩

theorem lastType_of_not_mem (h : n ∉ declaredNames ds) : lastType flagged n ds = none := by
  have hs := isSome_lastType flagged n ds
  rw [isFlagged_of_not_mem h] at hs
  simpa using hs

namespace Field

theorem complete_ofName (ds : List Declaration) (n : String) : (ofName ds n).Complete :=
  ⟨isSome_lastType _ _ _, isSome_lastType _ _ _⟩

theorem ofName_concat_of_ne (h : d.name ≠ n) : ofName (ds ++ [d]) n = ofName ds n := by
  simp [ofName, lastType_concat, isFlagged_concat, h]

theorem ofName_concat_self (ds : List Declaration) (d : Declaration) :
    ofName (ds ++ [d]) d.name = (ofName ds d.name).merge d := by
  simp [ofName, merge, lastType_concat, isFlagged_concat]

theorem ofName_concat_of_not_mem (h : d.name ∉ declaredNames ds) : ofName (ds ++ [d]) d.name = ofDeclaration d := by
  rw [ofName_concat_self]
  simp [ofName, merge, ofDeclaration, lastType_of_not_mem h, isFlagged_of_not_mem h]

end Field

theorem addDeclaration_map {names : List String} (hn : names.Nodup) (g : String → Field) (hg : ∀ m, (g m).name = m)
    (d : Declaration) :
    addDeclaration (names.map g) d = names.map (fun m => if m = d.name then (g m).merge d else g m) ++
      if d.name ∈ names then [] else [.ofDeclaration d] := by
  induction names with
  | nil => simp [addDeclaration]
  | cons m rest ih =>
    obtain ⟨hm, hr⟩ := List.nodup_cons.1 hn
    simp only [List.map_cons, addDeclaration, hg]
    by_cases h : m = d.name
    · -- The name does not come again, so the other fields stay.
      have hrest : ∀ x ∈ rest, g x = if x = d.name then (g x).merge d else g x := by
        intro x hx
        have : x ≠ d.name := fun e => hm (by rwa [h, ← e])
        rw [if_neg this]
      rw [if_pos h, if_pos h, List.map_congr_left hrest]
      simp [h]
    · rw [if_neg h, if_neg h, ih hr]
      simp [Ne.symm h]

theorem reconcile_eq_map (ds : List Declaration) : reconcile ds = (declaredNames ds).map (Field.ofName ds) := by
  induction ds using List.reverseRecOn with
  | nil => rfl
  | append_singleton ds d ih =>
    rw [reconcile_concat, ih, addDeclaration_map (nodup_declaredNames ds) _ (fun _ => rfl), declaredNames_concat,
      List.map_append]
    -- The fields so far change only for the declared name, which comes last if it is new.
    congr 1
    · refine List.map_congr_left fun m _ => ?_
      by_cases h : m = d.name
      · rw [if_pos h, h, Field.ofName_concat_self]
      · rw [if_neg h, Field.ofName_concat_of_ne (Ne.symm h)]
    · split
      · rfl
      · next h => rw [List.map_singleton, Field.ofName_concat_of_not_mem h]

theorem map_name_reconcile (ds : List Declaration) : (reconcile ds).map (·.name) = declaredNames ds := by
  rw [reconcile_eq_map, List.map_map]
  exact List.map_id _

theorem length_reconcile (ds : List Declaration) : (reconcile ds).length = (declaredNames ds).length := by
  rw [reconcile_eq_map, List.length_map]

theorem complete_of_mem_reconcile {f : Field} (h : f ∈ reconcile ds) : f.Complete := by
  rw [reconcile_eq_map] at h
  obtain ⟨n, -, rfl⟩ := List.mem_map.1 h
  exact Field.complete_ofName ds n

/-- The reconciled fields are exactly those of the declared names, in the order of their first declarations; a field is
flagged for a side iff it has a type there. -/
theorem reconcile_exact (ds : List Declaration) :
    reconcile ds = (declaredNames ds).map (Field.ofName ds) ∧ ((reconcile ds).map (·.name)).Nodup ∧
      ∀ f ∈ reconcile ds, (f.inEntity = true ↔ ∃ t, f.entityType = some t) ∧
        (f.inDto = true ↔ ∃ t, f.dtoType = some t) := by
  refine ⟨reconcile_eq_map ds, ?_, ?_⟩
  · rw [map_name_reconcile]
    exact nodup_declaredNames ds
  · intro f hf
    obtain ⟨he, hd⟩ := complete_of_mem_reconcile hf
    rw [← he, ← hd, Option.isSome_iff_exists, Option.isSome_iff_exists]
    exact ⟨Iff.rfl, Iff.rfl⟩

end ModelForge
