import ModelForge.FileTree.Folder
import ModelForge.Proofs.FileTree.Following
import ModelForge.Proofs.Succeeding

/-! Making a folder adds the folders on the way to it that are missing, and changes nothing else. -/

namespace ModelForge

/-- The path itself, or one that stands above it by its parts. -/
def Path.Begins (q p : Path) : Prop := q.slashes = p.slashes ∧ q.parts <+: p.parts

namespace Path

variable {p q : Path}

theorem begins_refl (p : Path) : p.Begins p := ⟨rfl, List.prefix_refl _⟩

theorem Begins.of_parent (h : q.Begins p.parent) : q.Begins p :=
  ⟨h.1, h.2.trans (List.dropLast_prefix _)⟩

theorem Begins.exists_parts (h : q.Begins p) (hne : q ≠ p) : ∃ part rest, p.parts = q.parts ++ part :: rest := by
  obtain ⟨hs, tail, ht⟩ := h
  cases tail with
  | nil =>
    refine absurd ?_ hne
    rw [List.append_nil] at ht
    cases p; cases q
    exact Path.mk.injEq .. ▸ ⟨hs, ht⟩
  | cons part rest => exact ⟨part, rest, ht.symm⟩

end Path

namespace FileTree

variable {t u v : FileTree} {p q : Path} {a b : Address}

theorem folder_of_locate (h : t.locate p = .ok a) (hq : q.Begins p) (hne : q ≠ p) : t.node? (t.resolve q) = some .folder := by
  obtain ⟨part, rest, hp⟩ := hq.exists_parts hne
  unfold locate at h
  split at h
  · cases h
  · split at h
    · cases h
    · rw [hp, List.foldlM_append] at h
      have hs : t.start p = t.start q := by rw [start, start, hq.1]
      rw [hs] at h
      obtain ⟨c, hc, h⟩ := exists_of_bind_eq_ok h
      rw [List.foldlM_cons] at h
      obtain ⟨d, hd, -⟩ := exists_of_bind_eq_ok h
      have hr : t.resolve q = c := (foldlM_step_eq_ok hc).symm
      rw [hr]
      exact (step_eq_ok_iff.1 hd).1

/-- The second tree has more folders at most, each of them at a place above the path or at the path. -/
structure AddsFolders (p : Path) (t u : FileTree) : Prop where
  home_eq : u.home = t.home
  node_cases : ∀ b, u.node? b = t.node? b ∨
    t.node? b = none ∧ u.node? b = some .folder ∧ ∃ q : Path, q.Begins p ∧ t.resolve q = b

namespace AddsFolders

theorem refl (p : Path) (t : FileTree) : AddsFolders p t t := ⟨rfl, fun _ => .inl rfl⟩

theorem trans (h : AddsFolders p t u) (h' : AddsFolders p u v) : AddsFolders p t v := by
  refine ⟨h'.home_eq.trans h.home_eq, fun b => ?_⟩
  rcases h'.node_cases b with hv | ⟨hu, hv, q, hq, hb⟩
  · rw [hv]
    exact h.node_cases b
  · rw [resolve_congr h.home_eq] at hb
    rcases h.node_cases b with ht | ⟨ht, -, -⟩
    · exact .inr ⟨ht.symm.trans hu, hv, q, hq, hb⟩
    · exact .inr ⟨ht, hv, q, hq, hb⟩

theorem of_parent (h : AddsFolders p.parent t u) : AddsFolders p t u := by
  refine ⟨h.home_eq, fun b => ?_⟩
  rcases h.node_cases b with ht | ⟨ht, hu, q, hq, hb⟩
  · exact .inl ht
  · exact .inr ⟨ht, hu, q, hq.of_parent, hb⟩

theorem folder (h : AddsFolders p t u) (hb : t.node? b = some .folder) : u.node? b = some .folder := by
  rcases h.node_cases b with hu | ⟨-, hu, -⟩
  · rw [hu, hb]
  · exact hu

end AddsFolders

/-- The folder and all that are above it are there. -/
def HasFolders (t : FileTree) (p : Path) : Prop := ∀ q : Path, q.Begins p → t.node? (t.resolve q) = some .folder

theorem hasFolders_of_find (h : t.find p = .ok .folder) : t.HasFolders p := by
  obtain ⟨hl, hn⟩ := find_eq_ok_iff.1 h
  intro q hq
  by_cases hne : q = p
  · rw [hne, hn]
  · exact folder_of_locate hl hq hne

theorem addFolder_eq_ok (h : t.addFolder p = .ok u) :
    t.locate p = .ok (t.resolve p) ∧ t.node? (t.resolve p) = none ∧ u = t.set (t.resolve p) .folder := by
  obtain ⟨a, hl, h⟩ := exists_of_bind_eq_ok h
  rw [← locate_eq_resolve hl]
  split at h
  · cases h
  · next hc =>
    simp only [Bool.or_eq_true, decide_eq_true_eq, not_or, Option.not_isSome_iff_eq_none] at hc
    exact ⟨hl, hc.2, (Except.ok.inj h).symm⟩

theorem addsFolders_of_addFolder (h : t.addFolder p = .ok u) : AddsFolders p t u ∧ u.HasFolders p := by
  obtain ⟨hl, hn, rfl⟩ := addFolder_eq_ok h
  have ha : t.resolve p ≠ [] := by
    intro hr
    rw [hr] at hn
    cases hn
  have hadd : AddsFolders p t (t.set (t.resolve p) .folder) := by
    refine ⟨rfl, fun b => ?_⟩
    rw [node?_set ha]
    split
    · next hb => exact .inr ⟨hb ▸ hn, rfl, p, p.begins_refl, hb⟩
    · exact .inl rfl
  refine ⟨hadd, fun q hq => ?_⟩
  rw [resolve_congr hadd.home_eq]
  by_cases hne : q = p
  · rw [hne, node?_set ha, if_pos rfl]
  · exact hadd.folder (folder_of_locate hl hq hne)

theorem find_of_forgive {trouble : Trouble} (h : t.forgive p trouble = none) : t.find p = .ok .folder := by
  unfold forgive look at h
  split at h
  · cases h
  · split at h
    · cases h
    · next hf =>
      split at hf
      · next n hn =>
        cases hf
        exact hn
      · cases hf
      · cases hf
    · cases h

theorem hasFolders_of_forgive {trouble : Trouble} (h : t.forgive p trouble = none) : t.HasFolders p :=
  hasFolders_of_find (find_of_forgive h)

theorem makeFolder_spec (t : FileTree) (p : Path) :
    AddsFolders p t (t.makeFolder p).1 ∧ ((t.makeFolder p).2 = none → (t.makeFolder p).1.HasFolders p) := by
  fun_induction makeFolder t p with
  | case1 p made h => exact ⟨(addsFolders_of_addFolder h).1, fun _ => (addsFolders_of_addFolder h).2⟩
  | case2 p _ _ => exact ⟨.refl p t, nofun⟩
  | case3 p _ _ _ above f h ih =>
    rw [h] at ih
    exact ⟨ih.1.of_parent, nofun⟩
  | case4 p _ _ _ above h made ha ih =>
    rw [h] at ih
    obtain ⟨hadd, hall⟩ := addsFolders_of_addFolder ha
    exact ⟨ih.1.of_parent.trans hadd, fun _ => hall⟩
  | case5 p _ _ _ above h _ ih =>
    rw [h] at ih
    exact ⟨ih.1.of_parent, nofun⟩
  | case6 p _ _ _ above h trouble _ _ ih =>
    rw [h] at ih
    exact ⟨ih.1.of_parent, hasFolders_of_forgive⟩
  | case7 p trouble _ _ => exact ⟨.refl p t, hasFolders_of_forgive⟩

end FileTree

end ModelForge
