import ModelForge.FileTree.Search
import ModelForge.Proofs.FileTree.Folders

/-! Trees that grow: new nodes come after the old ones, a folder stays a folder and a file stays a file. Making folders and
writing files both let a tree grow, and what is listed in a grown tree starts with what was listed before. -/

namespace ModelForge

namespace Path

def below (p : Path) (names : List String) : Path := ⟨p.slashes, p.parts ++ names⟩

theorem below_below (p : Path) (names rest : List String) : (p.below names).below rest = p.below (names ++ rest) := by
  simp [below]

theorem below_nil (p : Path) : p.below [] = p := by simp [below]

end Path

def Node.isFolder (n : Node) : Bool := decide (n = .folder)

namespace FileTree

variable {t u v : FileTree} {p : Path} {a : Address} {n : Node}

/-- Every node has one address and stands in a folder, and no name is that of a step up. -/
structure IsTree (t : FileTree) : Prop where
  nodup : (Entries.keys t.entries).Nodup
  parent : ∀ a ∈ Entries.keys t.entries, t.node? a.dropLast = some .folder
  up_not_mem : ∀ a ∈ Entries.keys t.entries, ".." ∉ a
  up_not_mem_home : ".." ∉ t.home

/-- The addresses of a tree in their order, each with whether it is a folder. -/
def outline (t : FileTree) : List (Address × Bool) := t.entries.map fun e => (e.1, e.2.isFolder)

theorem keys_outline (t : FileTree) : Entries.keys t.outline = Entries.keys t.entries := by
  rw [outline, Entries.keys, List.map_map]
  rfl

theorem node?_eq_none_iff : t.node? a = none ↔ a ≠ [] ∧ a ∉ Entries.keys t.entries := by
  unfold node?
  split
  · next h => simp [h]
  · next h => rw [Entries.find?_eq_none_iff, and_iff_right h]

theorem map_node? (t : FileTree) (a : Address) :
    (t.node? a).map (·.isFolder) = if a = [] then some true else Entries.find? a t.outline := by
  unfold node? outline
  split
  · rfl
  · rw [Entries.find?_map]

structure Grows (t u : FileTree) : Prop where
  home_eq : u.home = t.home
  outline_eq : ∃ news, u.outline = t.outline ++ news ∧ (Entries.keys news).Nodup ∧
    ∀ e ∈ news, t.node? e.1 = none ∧ ".." ∉ e.1

namespace Grows

theorem refl (t : FileTree) : Grows t t := ⟨rfl, [], (List.append_nil _).symm, .nil, nofun⟩

theorem map_node?_eq (h : Grows t u) (ha : t.node? a ≠ none) :
    (u.node? a).map (·.isFolder) = (t.node? a).map (·.isFolder) := by
  obtain ⟨news, hu, -, -⟩ := h.outline_eq
  rw [map_node?, map_node?]
  split
  · rfl
  · next hne =>
    have hk : a ∈ Entries.keys t.outline := by
      rw [keys_outline]
      exact Classical.not_not.1 fun hk => ha (node?_eq_none_iff.2 ⟨hne, hk⟩)
    rw [hu, Entries.find?_append]
    cases hf : Entries.find? a t.outline with
    | none => exact absurd hk (Entries.find?_eq_none_iff.1 hf)
    | some b => rfl

theorem folder_iff (h : Grows t u) (ha : t.node? a ≠ none) : u.node? a = some .folder ↔ t.node? a = some .folder := by
  have hm := h.map_node?_eq ha
  cases ht : t.node? a with
  | none => exact absurd ht ha
  | some n =>
    rw [ht] at hm
    obtain ⟨m, hu, hk⟩ := Option.map_eq_some_iff.1 hm
    rw [hu, Option.some_inj, Option.some_inj]
    exact decide_eq_decide.1 hk

theorem node?_ne_none (h : Grows t u) (ha : t.node? a ≠ none) : u.node? a ≠ none := by
  intro hu
  have hm := h.map_node?_eq ha
  rw [hu] at hm
  exact ha (Option.map_eq_none_iff.1 hm.symm)

theorem not_mem_keys_of_news {news : List (Address × Bool)} (hn : ∀ e ∈ news, t.node? e.1 = none ∧ ".." ∉ e.1) {a : Address}
    (ha : a ∈ Entries.keys news) : a ∉ Entries.keys t.entries := by
  obtain ⟨e, he, rfl⟩ := List.mem_map.1 ha
  exact (node?_eq_none_iff.1 (hn e he).1).2

theorem trans (h : Grows t u) (h' : Grows u v) : Grows t v := by
  obtain ⟨news, hu, hd, hn⟩ := h.outline_eq
  obtain ⟨more, hv, hd', hm⟩ := h'.outline_eq
  refine ⟨h'.home_eq.trans h.home_eq, news ++ more, by rw [hv, hu, List.append_assoc], ?_, fun e he => ?_⟩
  · rw [Entries.keys, List.map_append, List.nodup_append]
    refine ⟨hd, hd', fun a ha b hb hab => not_mem_keys_of_news hm (hab ▸ hb) ?_⟩
    rw [← keys_outline, hu, Entries.keys, List.map_append]
    exact List.mem_append_right _ ha
  · rcases List.mem_append.1 he with he | he
    · exact hn e he
    · exact ⟨Classical.not_not.1 fun ht => h.node?_ne_none ht (hm e he).1, (hm e he).2⟩

theorem nodup (h : Grows t u) (hn : (Entries.keys t.entries).Nodup) : (Entries.keys u.entries).Nodup := by
  obtain ⟨news, hu, hd, hnews⟩ := h.outline_eq
  rw [← keys_outline, hu, Entries.keys, List.map_append, List.nodup_append, ← Entries.keys, keys_outline]
  exact ⟨hn, hd, fun a ha b hb hab => not_mem_keys_of_news hnews (hab ▸ hb) ha⟩

theorem up_not_mem (h : Grows t u) (ht : ∀ a ∈ Entries.keys t.entries, ".." ∉ a) :
    ∀ a ∈ Entries.keys u.entries, ".." ∉ a := by
  obtain ⟨news, hu, -, hnews⟩ := h.outline_eq
  intro a ha
  rw [← keys_outline, hu, Entries.keys, List.map_append, List.mem_append, ← Entries.keys, keys_outline] at ha
  rcases ha with ha | ha
  · exact ht a ha
  · obtain ⟨e, he, rfl⟩ := List.mem_map.1 ha
    exact (hnews e he).2

theorem of_set (h : t.node? a = none ∨ n ≠ .folder ∧ ∃ content, t.node? a = some (.file content)) (ha : ".." ∉ a) :
    Grows t (t.set a n) := by
  have ho : (t.set a n).outline = Entries.put a n.isFolder t.outline := Entries.map_put Node.isFolder a n t.entries
  rcases h with hnone | ⟨hn, content, hfile⟩
  · have hk : a ∉ Entries.keys t.outline := by
      rw [keys_outline]
      exact (node?_eq_none_iff.1 hnone).2
    refine ⟨rfl, [(a, n.isFolder)], by rw [ho, Entries.put_of_not_mem _ hk], List.pairwise_singleton .., fun e he => ?_⟩
    rw [List.mem_singleton.1 he]
    exact ⟨hnone, ha⟩
  · have hf : Entries.find? a t.outline = some n.isFolder := by
      have hm := map_node? t a
      have hne : a ≠ [] := by
        rintro rfl
        cases hfile
      rw [if_neg hne, hfile] at hm
      rw [← hm, Node.isFolder, decide_eq_false hn]
      rfl
    refine ⟨rfl, [], by rw [ho, Entries.put_of_find?_eq_some hf, List.append_nil], .nil, nofun⟩

end Grows

/-! What is listed in a folder. -/

theorem names_eq (t : FileTree) (a : Address) :
    t.names a = t.outline.filterMap fun e => if e.1.dropLast = a then e.1.getLast? else none := by
  rw [outline, List.filterMap_map]
  rfl

theorem foldersBelow_eq (t : FileTree) (a : Address) (p : Path) :
    t.foldersBelow a p = t.outline.filterMap fun e =>
      if e.2 && a.isPrefixOf e.1 && a.length < e.1.length then some ⟨p.slashes, p.parts ++ e.1.drop a.length⟩ else none := by
  rw [outline, List.filterMap_map]
  rfl

theorem dropLast_concat_of_getLast? {b : Address} {name : String} (h : b.getLast? = some name) :
    b = b.dropLast ++ [name] := by
  obtain ⟨r, rfl⟩ := List.getLast?_eq_some_iff.1 h
  rw [List.dropLast_concat]

theorem mem_names {name : String} (h : name ∈ t.names a) : a ++ [name] ∈ Entries.keys t.entries := by
  rw [names_eq] at h
  obtain ⟨e, he, hn⟩ := List.mem_filterMap.1 h
  split at hn
  · next hd =>
    rw [← hd, ← dropLast_concat_of_getLast? hn, ← keys_outline]
    exact List.mem_map_of_mem he
  · cases hn

theorem Grows.names_eq (h : Grows t u) (a : Address) :
    ∃ news, u.names a = t.names a ++ news ∧ ∀ name ∈ news, t.node? (a ++ [name]) = none ∧ name ≠ ".." := by
  obtain ⟨news, hu, -, hn⟩ := h.outline_eq
  refine ⟨_, by rw [FileTree.names_eq, FileTree.names_eq, hu, List.filterMap_append], fun name hm => ?_⟩
  obtain ⟨e, he, hf⟩ := List.mem_filterMap.1 hm
  split at hf
  · next hd =>
    have hb := dropLast_concat_of_getLast? hf
    rw [hd] at hb
    obtain ⟨hnone, hup⟩ := hn e he
    rw [hb] at hnone hup
    exact ⟨hnone, fun hname => hup (by simp [hname])⟩
  · cases hf

theorem eq_append_drop_of_isPrefixOf {b : Address} (h : a.isPrefixOf b = true) : b = a ++ b.drop a.length := by
  obtain ⟨rest, rfl⟩ := List.isPrefixOf_iff_prefix.1 h
  rw [List.drop_left]

theorem mem_foldersBelow {q : Path} (h : q ∈ t.foldersBelow a p) :
    ∃ rest, q = p.below rest ∧ a ++ rest ∈ Entries.keys t.entries := by
  rw [foldersBelow_eq] at h
  obtain ⟨e, he, hq⟩ := List.mem_filterMap.1 h
  split at hq
  · next hc =>
    simp only [Bool.and_eq_true] at hc
    refine ⟨e.1.drop a.length, (Option.some.inj hq).symm, ?_⟩
    rw [← eq_append_drop_of_isPrefixOf hc.1.2, ← keys_outline]
    exact List.mem_map_of_mem he
  · cases hq

theorem Grows.foldersBelow_eq (h : Grows t u) (a : Address) (p : Path) :
    ∃ news, u.foldersBelow a p = t.foldersBelow a p ++ news ∧
      ∀ q ∈ news, ∃ rest, q = p.below rest ∧ t.node? (a ++ rest) = none ∧ ".." ∉ rest := by
  obtain ⟨news, hu, -, hn⟩ := h.outline_eq
  refine ⟨_, by rw [FileTree.foldersBelow_eq, FileTree.foldersBelow_eq, hu, List.filterMap_append], fun q hm => ?_⟩
  obtain ⟨e, he, hf⟩ := List.mem_filterMap.1 hm
  split at hf
  · next hc =>
    simp only [Bool.and_eq_true] at hc
    obtain ⟨hnone, hup⟩ := hn e he
    rw [eq_append_drop_of_isPrefixOf hc.1.2] at hnone hup
    exact ⟨_, (Option.some.inj hf).symm, hnone, fun hr => hup (List.mem_append_right _ hr)⟩
  · cases hf

/-! Where paths lead in a grown tree. -/

theorem up_not_mem_resolve (h : ".." ∉ t.home) (p : Path) : ".." ∉ t.resolve p := by
  have key (parts : List String) (a : Address) (ha : ".." ∉ a) :
      ".." ∉ parts.foldl (fun a part => if part = ".." then a.dropLast else a ++ [part]) a := by
    induction parts generalizing a with
    | nil => exact ha
    | cons part rest ih =>
      rw [List.foldl_cons]
      refine ih _ ?_
      split
      · exact fun hm => ha ((List.dropLast_sublist a).mem hm)
      · next hp => simp [ha, Ne.symm hp]
  refine key _ _ ?_
  unfold start
  split
  · exact h
  · exact List.not_mem_nil

theorem resolve_below {names : List String} (h : ".." ∉ names) (t : FileTree) (p : Path) :
    t.resolve (p.below names) = t.resolve p ++ names := by
  have key (a : Address) :
      names.foldl (fun a part => if part = ".." then a.dropLast else a ++ [part]) a = a ++ names := by
    induction names generalizing a with
    | nil => exact (List.append_nil a).symm
    | cons name rest ih =>
      rw [List.mem_cons, not_or] at h
      rw [List.foldl_cons, if_neg (Ne.symm h.1), ih h.2, List.append_assoc, List.singleton_append]
  exact (List.foldl_append ..).trans (key _)

namespace Grows

variable (h : Grows t u)

include h

theorem step_eq_ok {part : String} {b : Address} (hs : t.step a part = .ok b) : u.step a part = .ok b := by
  obtain ⟨hf, hp⟩ := step_eq_ok_iff.1 hs
  exact step_eq_ok_iff.2 ⟨(h.folder_iff (by simp [hf])).2 hf, hp⟩

theorem foldlM_step_eq_ok {parts : List String} {b : Address} (hs : parts.foldlM t.step a = .ok b) :
    parts.foldlM u.step a = .ok b := by
  induction parts generalizing a with
  | nil => exact hs
  | cons part rest ih =>
    rw [List.foldlM_cons] at hs ⊢
    obtain ⟨c, hc, hs⟩ := exists_of_bind_eq_ok hs
    rw [h.step_eq_ok hc]
    exact ih hs

theorem locate_eq_ok (hl : t.locate p = .ok a) : u.locate p = .ok a := by
  unfold locate at hl ⊢
  split at hl
  · cases hl
  · next hz =>
    rw [if_neg hz]
    split at hl
    · cases hl
    · next hlong =>
      rw [if_neg hlong, start, h.home_eq]
      exact h.foldlM_step_eq_ok hl

theorem exists_find {n : Node} (hf : t.find p = .ok n) : ∃ m, u.find p = .ok m ∧ (m = .folder ↔ n = .folder) := by
  obtain ⟨hl, hn⟩ := find_eq_ok_iff.1 hf
  have hs : t.node? (t.resolve p) ≠ none := by simp [hn]
  obtain ⟨m, hm⟩ := Option.ne_none_iff_exists'.1 (h.node?_ne_none hs)
  have hi := h.folder_iff hs
  rw [hm, hn, Option.some_inj, Option.some_inj] at hi
  refine ⟨m, find_eq_ok_iff.2 ?_, hi⟩
  rw [resolve_congr h.home_eq]
  exact ⟨h.locate_eq_ok hl, hm⟩

end Grows

namespace IsTree

variable (h : t.IsTree)

include h

theorem folder_of_concat {name : String} (hn : t.node? (a ++ [name]) ≠ none) : t.node? a = some .folder := by
  have hk : a ++ [name] ∈ Entries.keys t.entries :=
    Classical.not_not.1 fun hk => hn (node?_eq_none_iff.2 ⟨by simp, hk⟩)
  have hp := h.parent _ hk
  rwa [List.dropLast_concat] at hp

theorem folder_of_append {name : String} {rest : List String} (hn : t.node? (a ++ name :: rest) ≠ none) :
    t.node? a = some .folder := by
  induction rest generalizing a name with
  | nil => exact h.folder_of_concat hn
  | cons next rest ih =>
    have ha : t.node? (a ++ [name]) = some .folder := by
      rw [← List.singleton_append, ← List.append_assoc] at hn
      exact ih hn
    have hc : t.node? (a ++ [name]) ≠ none := by simp [ha]
    exact h.folder_of_concat hc

theorem stands_of_append {rest : List String} (hn : t.node? (a ++ rest) ≠ none) : t.node? a ≠ none := by
  cases rest with
  | nil => rwa [List.append_nil] at hn
  | cons name rest => simp [h.folder_of_append hn]

theorem foldlM_step_eq (hg : Grows t u) {names : List String} (hup : ".." ∉ names) (hn : t.node? (a ++ names) ≠ none) :
    names.foldlM u.step a = names.foldlM t.step a := by
  induction names generalizing a with
  | nil => rfl
  | cons name rest ih =>
    rw [List.mem_cons, not_or] at hup
    have hf := h.folder_of_append hn
    have hs : u.step a name = t.step a name := by
      rw [step, step, hf, (hg.folder_iff (by simp [hf])).2 hf]
    rw [List.foldlM_cons, List.foldlM_cons, hs]
    cases ht : t.step a name with
    | error e => rfl
    | ok b =>
      have hb := step_eq_ok ht
      rw [if_neg (Ne.symm hup.1)] at hb
      exact ih hup.2 (by rwa [hb, List.append_assoc, List.singleton_append])

theorem locate_below_eq (hg : Grows t u) (hl : t.locate p = .ok a) {names : List String} (hup : ".." ∉ names)
    (hn : t.node? (a ++ names) ≠ none) : u.locate (p.below names) = t.locate (p.below names) := by
  have hfold : p.parts.foldlM t.step (t.start p) = .ok a := by
    unfold locate at hl
    split at hl
    · cases hl
    · split at hl
      · cases hl
      · exact hl
  have hstart : u.start (p.below names) = t.start p := by rw [start, start, hg.home_eq]; rfl
  have hlong : (p.parts ++ names).foldlM u.step (t.start p) = (p.parts ++ names).foldlM t.step (t.start p) := by
    rw [List.foldlM_append, List.foldlM_append, hfold, hg.foldlM_step_eq_ok hfold]
    exact h.foldlM_step_eq hg hup hn
  unfold locate
  rw [hstart]
  exact congrArg _ (congrArg _ hlong)

end IsTree

end FileTree

end ModelForge
