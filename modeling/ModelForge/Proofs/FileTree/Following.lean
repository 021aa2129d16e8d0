import ModelForge.FileTree.Basic

/-! Where a path leads depends on the folders of a tree only, so that writing files does not change it. -/

namespace ModelForge.FileTree

variable {t u : FileTree} {p : Path} {a b : Address}

theorem resolve_congr (h : t.home = u.home) (p : Path) : t.resolve p = u.resolve p := by
  simp only [resolve, start, h]

theorem step_eq_ok_iff {part : String} :
    t.step a part = .ok b ↔ t.node? a = some .folder ∧
      (part = ".." ∧ b = a.dropLast ∨ part ≠ ".." ∧ part.utf8ByteSize ≤ longestName ∧ b = a ++ [part]) := by
  unfold step
  split
  · next h => simp [h]
  · next h => simp [h]
  · next h =>
    by_cases hp : part = ".."
    · simp [h, hp, eq_comm]
    · by_cases hl : longestName < part.utf8ByteSize
      · simp [h, hp, hl, Nat.not_le.2 hl]
      · simp [h, hp, hl, Nat.le_of_not_lt hl, eq_comm]

theorem locate_eq_ok_iff : t.locate p = .ok a ↔
    (∀ part ∈ p.parts, '\x00' ∉ part.toList) ∧ p.display.utf8ByteSize < pathLimit ∧
      p.parts.foldlM t.step (t.start p) = .ok a := by
  unfold locate
  split
  · next hz =>
    obtain ⟨part, hm, hc⟩ := List.any_eq_true.1 hz
    exact ⟨nofun, fun h => absurd (List.contains_iff_mem.1 hc) (h.1 part hm)⟩
  · next hz =>
    have hz : ∀ part ∈ p.parts, '\x00' ∉ part.toList := fun part hm hc =>
      hz (List.any_eq_true.2 ⟨part, hm, List.contains_iff_mem.2 hc⟩)
    split
    · next hl => exact ⟨nofun, fun h => absurd hl (Nat.not_le.2 h.2.1)⟩
    · next hl => exact ⟨fun h => ⟨hz, Nat.not_le.1 hl, h⟩, fun h => h.2.2⟩

theorem find_eq_ok_iff {n : Node} : t.find p = .ok n ↔ t.locate p = .ok (t.resolve p) ∧ t.node? (t.resolve p) = some n := by
  unfold find
  cases hl : t.locate p with
  | error e => exact ⟨nofun, nofun⟩
  | ok a =>
    rw [← locate_eq_resolve hl]
    cases hn : t.node? a <;> simp [bind, Except.bind, pure, Except.pure, throw, throwThe, MonadExceptOf.throw, hn]

structure SameFolders (t u : FileTree) : Prop where
  home_eq : t.home = u.home
  folder_iff : ∀ a, t.node? a = some .folder ↔ u.node? a = some .folder

namespace SameFolders

theorem refl (t : FileTree) : SameFolders t t := ⟨rfl, fun _ => Iff.rfl⟩

theorem trans {v : FileTree} (h : SameFolders t u) (h' : SameFolders u v) : SameFolders t v :=
  ⟨h.home_eq.trans h'.home_eq, fun a => (h.folder_iff a).trans (h'.folder_iff a)⟩

theorem foldlM_step_iff (h : SameFolders t u) (parts : List String) (a b : Address) :
    parts.foldlM t.step a = .ok b ↔ parts.foldlM u.step a = .ok b := by
  induction parts generalizing a with
  | nil => rfl
  | cons part rest ih =>
    have hs (c : Address) : t.step a part = .ok c ↔ u.step a part = .ok c := by
      rw [step_eq_ok_iff, step_eq_ok_iff, h.folder_iff]
    rw [List.foldlM_cons, List.foldlM_cons]
    cases ht : t.step a part with
    | ok c =>
      rw [(hs c).1 ht]
      exact ih c
    | error e =>
      cases hu : u.step a part with
      | ok c => rw [(hs c).2 hu] at ht; cases ht
      | error f => exact ⟨nofun, nofun⟩

theorem locate_iff (h : SameFolders t u) (p : Path) (a : Address) : t.locate p = .ok a ↔ u.locate p = .ok a := by
  unfold locate
  split
  · exact ⟨nofun, nofun⟩
  · split
    · exact ⟨nofun, nofun⟩
    · rw [foldlM_step_iff h, start, start, h.home_eq]

end SameFolders

/-- The place that a path leads to is there or can be made, and is no folder. -/
def isOpenable (t : FileTree) (p : Path) : Bool :=
  match t.locate p with
  | .ok a => decide (t.node? a ≠ some .folder)
  | .error _ => false

theorem isOpenable_iff :
    t.isOpenable p = true ↔ t.locate p = .ok (t.resolve p) ∧ t.node? (t.resolve p) ≠ some .folder := by
  unfold isOpenable
  split
  · next a h =>
    rw [← locate_eq_resolve h, h, decide_eq_true_iff]
    simp
  · next h => simp [h]

theorem SameFolders.isOpenable_eq (h : SameFolders t u) (p : Path) : t.isOpenable p = u.isOpenable p := by
  rw [Bool.eq_iff_iff, isOpenable_iff, isOpenable_iff, h.locate_iff, resolve_congr h.home_eq]
  simp only [Ne, h.folder_iff]

theorem resolve_ne_nil (h : t.isOpenable p = true) : t.resolve p ≠ [] := by
  intro hr
  refine (isOpenable_iff.1 h).2 ?_
  rw [hr]
  rfl

def withFile (t : FileTree) (p : Path) (content : ByteArray) : FileTree := t.set (t.resolve p) (.file content)

theorem write_of_isOpenable (h : t.isOpenable p = true) (content : ByteArray) : t.write p content = .ok (t.withFile p content) := by
  obtain ⟨hl, hn⟩ := isOpenable_iff.1 h
  simp only [write, hl, if_neg hn, withFile]

theorem exists_write_error (h : t.isOpenable p = false) (content : ByteArray) : ∃ f, t.write p content = .error f := by
  unfold isOpenable at h
  unfold write
  split at h
  · next a ha =>
    rw [ha]
    exact ⟨_, if_pos (Decidable.not_not.1 (decide_eq_false_iff_not.1 h))⟩
  · next ha =>
    rw [ha]
    exact ⟨_, rfl⟩

theorem node?_withFile (h : t.isOpenable p = true) (content : ByteArray) (b : Address) :
    (t.withFile p content).node? b = if t.resolve p = b then some (.file content) else t.node? b :=
  node?_set (resolve_ne_nil h) t _ b

theorem sameFolders_withFile (h : t.isOpenable p = true) (content : ByteArray) : SameFolders t (t.withFile p content) := by
  refine ⟨rfl, fun b => ?_⟩
  rw [node?_withFile h]
  split
  · next hb =>
    rw [← hb]
    exact ⟨fun hf => absurd hf (isOpenable_iff.1 h).2, nofun⟩
  · rfl

theorem find_withFile (h : t.isOpenable p = true) (content : ByteArray) :
    (t.withFile p content).find p = .ok (.file content) := by
  have hs := sameFolders_withFile h content
  have hr : (t.withFile p content).resolve p = t.resolve p := (resolve_congr hs.home_eq p).symm
  rw [find_eq_ok_iff, hr, node?_withFile h, if_pos rfl]
  exact ⟨(hs.locate_iff p _).1 (isOpenable_iff.1 h).1, rfl⟩

end ModelForge.FileTree
