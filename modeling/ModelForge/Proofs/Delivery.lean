import ModelForge.Delivery
import ModelForge.Proofs.FileTree.Folders

/-! A delivery changes files directly in its folder only, and the last artifact that was written decides what a file holds.
Since writing files makes no folder, which artifacts can be written does not change during a delivery. -/

namespace ModelForge.FileTree

variable {t u after : FileTree} {directory : Path} {d e : Delivery} {a : Artifact} {as : List Artifact} {b : Address}

def target (directory : Path) (a : Artifact) : Path := directory.join (.ofText a.name)

/-- The artifact has a name, and the name means something directly in the folder. -/
def LandsIn (t : FileTree) (directory : Path) (a : Artifact) : Prop :=
  a.name ≠ "" ∧ ∃ name, t.resolve (target directory a) = t.resolve directory ++ [name]

/-- The last of the artifacts that names the file at an address and was written. -/
def IsLastAt (t : FileTree) (directory : Path) (isWritten : Artifact → Prop) (as : List Artifact) (b : Address)
    (a : Artifact) : Prop :=
  ∃ before rest, as = before ++ a :: rest ∧ t.resolve (target directory a) = b ∧ isWritten a ∧
    ∀ x ∈ rest, t.resolve (target directory x) = b → ¬ isWritten x

structure IsDelivery (t : FileTree) (directory : Path) (as : List Artifact) (after : FileTree) (d : Delivery) : Prop where
  home_eq : after.home = t.home
  folders : after.HasFolders directory
  /-- Only a folder on the way to the output folder is new, and otherwise a file directly in it is different. -/
  changed : ∀ b, after.node? b ≠ t.node? b →
    t.node? b = none ∧ after.node? b = some .folder ∧ (∃ q : Path, q.Begins directory ∧ t.resolve q = b) ∨
    t.node? b ≠ some .folder ∧ (∃ name, b = t.resolve directory ++ [name]) ∧
      ∃ a, t.IsLastAt directory (target directory · ∈ d.written) as b a ∧ after.node? b = some (.file a.source.toUTF8)
  last_written : ∀ b a, t.IsLastAt directory (target directory · ∈ d.written) as b a →
    after.node? b = some (.file a.source.toUTF8)
  /-- An artifact that means nothing in the folder, or cannot be opened when its turn comes, leaves no trace. -/
  refused : ∀ before a rest, as = before ++ a :: rest →
    (¬ t.LandsIn directory a ∨
      ∃ f, (t.deliver directory before).1.write (target directory a) a.source.toUTF8 = .error f) →
    a.name ∈ Entries.keys d.refusals ∧ target directory a ∉ d.written ∧
      (t.deliver directory (before ++ [a])).1 = (t.deliver directory before).1 ∧
      (t.deliver directory (before ++ rest)).1 = after

/-! Which artifacts are written. -/

def accepts (t : FileTree) (directory : Path) (a : Artifact) : Bool :=
  a.name ≠ "" && t.isDirectlyIn directory (target directory a) && t.isOpenable (target directory a)

/-- What can be said against an artifact in the tree that its turn finds. -/
inductive IsReason (t : FileTree) (directory : Path) (a : Artifact) : Refusal → Prop
  | unnamed (h : a.name = "") : IsReason t directory a (.outside a.name)
  | outside (h : (t.resolve (target directory a)).dropLast ≠ t.resolve directory) : IsReason t directory a (.outside a.name)
  | notWritten {f : FileFault} (h : t.write (target directory a) a.source.toUTF8 = .error f) :
    IsReason t directory a (.notWritten f)

theorem accepts_iff : t.accepts directory a = true ↔
    a.name ≠ "" ∧ t.isDirectlyIn directory (target directory a) = true ∧ t.isOpenable (target directory a) = true := by
  simp [accepts, and_assoc]

theorem accepts_congr {b : Artifact} (h : a.name = b.name) : t.accepts directory a = t.accepts directory b := by
  unfold accepts target
  rw [h]

theorem SameFolders.accepts_eq (h : SameFolders t u) (directory : Path) (a : Artifact) :
    t.accepts directory a = u.accepts directory a := by
  simp only [accepts, isDirectlyIn, h.isOpenable_eq, resolve_congr h.home_eq]

theorem landsIn_of_accepts (h : t.accepts directory a = true) : t.LandsIn directory a := by
  obtain ⟨hn, hd, ho⟩ := accepts_iff.1 h
  refine ⟨hn, (t.resolve (target directory a)).getLast (resolve_ne_nil ho), ?_⟩
  have hp : (t.resolve (target directory a)).dropLast = t.resolve directory := of_decide_eq_true hd
  rw [← hp]
  exact (List.dropLast_concat_getLast _).symm

theorem target_of_name_empty (h : a.name = "") (directory : Path) : target directory a = directory := by
  have he : Path.ofText "" = ⟨0, []⟩ := rfl
  simp [target, h, he, Path.join]

theorem accepts_of_target_eq {x : Artifact} (h : t.accepts directory a = true) (hx : target directory x = target directory a) :
    t.accepts directory x = true := by
  obtain ⟨-, hd, ho⟩ := accepts_iff.1 h
  refine accepts_iff.2 ⟨fun hn => ?_, by rwa [hx], by rwa [hx]⟩
  -- An empty name would mean the folder itself, which lies in no other folder unless it is the root.
  obtain ⟨-, name, hr⟩ := landsIn_of_accepts h
  rw [← hx, target_of_name_empty hn] at hr
  have := congrArg List.length hr
  simp at this

/-! What a delivery makes of a tree. -/

def writeAll (t : FileTree) (directory : Path) (as : List Artifact) : FileTree :=
  as.foldl (fun u a => u.withFile (target directory a) a.source.toUTF8) t

theorem deliverAll_cons (hz : a.name.toList.contains '\x00' = false) (t : FileTree) (directory : Path) (d : Delivery)
    (rest : List Artifact) :
    t.accepts directory a = true ∧ t.deliverAll directory d (a :: rest) =
        (t.withFile (target directory a) a.source.toUTF8).deliverAll directory (d.addWritten (target directory a)) rest ∨
      t.accepts directory a = false ∧ ∃ r, t.IsReason directory a r ∧
        t.deliverAll directory d (a :: rest) = t.deliverAll directory (d.refuse a.name r) rest := by
  by_cases hd : a.name ≠ "" ∧ t.isDirectlyIn directory (target directory a) = true
  · have hc : (decide (a.name = "") || !t.isDirectlyIn directory (target directory a)) = false := by simp [hd]
    rw [target] at hc
    cases ho : t.isOpenable (target directory a) with
    | true =>
      refine .inl ⟨accepts_iff.2 ⟨hd.1, hd.2, ho⟩, ?_⟩
      have hw := write_of_isOpenable ho a.source.toUTF8
      rw [target] at hw
      simp only [deliverAll, hz, hc, hw, Bool.false_eq_true, if_false, target]
    | false =>
      obtain ⟨f, hw⟩ := exists_write_error ho a.source.toUTF8
      have hr : t.IsReason directory a (.notWritten f) := .notWritten hw
      rw [target] at hw
      refine .inr ⟨by simp [accepts, ho], .notWritten f, hr, ?_⟩
      simp only [deliverAll, hz, hc, hw, Bool.false_eq_true, if_false]
  · have hc : (decide (a.name = "") || !t.isDirectlyIn directory (target directory a)) = true := by
      by_cases hn : a.name = ""
      · simp [hn]
      · have hi : ¬ t.isDirectlyIn directory (target directory a) = true := fun h => hd ⟨hn, h⟩
        simp [hi]
    have hr : t.IsReason directory a (.outside a.name) := by
      by_cases hn : a.name = ""
      · exact .unnamed hn
      · exact .outside fun hp => hd ⟨hn, decide_eq_true hp⟩
    rw [target] at hc
    refine .inr ⟨?_, .outside a.name, hr, ?_⟩
    · rw [← Bool.not_eq_true, accepts_iff]
      exact fun h => hd ⟨h.1, h.2.1⟩
    · simp only [deliverAll, hz, hc, Bool.false_eq_true, if_false, if_true]

theorem contains_null_eq_false (h : t.deliverAll directory d as = (after, .ok e)) :
    ∀ a ∈ as, a.name.toList.contains '\x00' = false := by
  induction as generalizing t d with
  | nil => nofun
  | cons a as ih =>
    have hz : a.name.toList.contains '\x00' = false := by
      cases hz : a.name.toList.contains '\x00' with
      | false => rfl
      | true =>
        simp only [deliverAll, hz, if_true] at h
        cases h
    rw [List.forall_mem_cons]
    refine ⟨hz, ?_⟩
    rcases deliverAll_cons hz t directory d as with ⟨-, hc⟩ | ⟨-, r, -, hc⟩
    · exact ih (hc.symm.trans h)
    · exact ih (hc.symm.trans h)

theorem deliverAll_eq (hz : ∀ a ∈ as, a.name.toList.contains '\x00' = false) (t : FileTree) (directory : Path)
    (d : Delivery) :
    ∃ e, t.deliverAll directory d as = (t.writeAll directory (as.filter (t.accepts directory)), .ok e) ∧
      e.written = d.written ++ (as.filter (t.accepts directory)).map (target directory) ∧
      ∀ n, n ∈ Entries.keys e.refusals ↔
        n ∈ Entries.keys d.refusals ∨ ∃ a ∈ as, a.name = n ∧ t.accepts directory a = false := by
  induction as generalizing t d with
  | nil => exact ⟨d, rfl, by simp, by simp⟩
  | cons a as ih =>
    have ih := ih fun x hx => hz x (List.mem_cons_of_mem _ hx)
    rcases deliverAll_cons (hz a (List.mem_cons_self ..)) t directory d as with ⟨ha, hc⟩ | ⟨ha, r, -, hc⟩
    · have hs := sameFolders_withFile (accepts_iff.1 ha).2.2 a.source.toUTF8
      obtain ⟨e, he, hw, hr⟩ := ih (t.withFile (target directory a) a.source.toUTF8) (d.addWritten (target directory a))
      have hf : (t.withFile (target directory a) a.source.toUTF8).accepts directory = t.accepts directory :=
        funext fun x => (hs.accepts_eq directory x).symm
      rw [hf] at he hw hr
      refine ⟨e, ?_, ?_, fun n => ?_⟩
      · rw [hc, he, List.filter_cons_of_pos ha]
        rfl
      · rw [hw, List.filter_cons_of_pos ha]
        simp [Delivery.addWritten]
      · rw [hr, Delivery.addWritten]
        simp [ha]
    · obtain ⟨e, he, hw, hr⟩ := ih t (d.refuse a.name r)
      have hn : ¬ t.accepts directory a = true := by simp [ha]
      refine ⟨e, ?_, ?_, fun n => ?_⟩
      · rw [hc, he, List.filter_cons_of_neg hn]
      · rw [hw, List.filter_cons_of_neg hn]
        rfl
      · rw [hr, Delivery.refuse, Entries.mem_keys_put]
        simp only [List.mem_cons, exists_eq_or_imp, ha, and_true, or_assoc, eq_comm (a := n) (b := a.name)]

/-! What the files hold afterwards. -/

theorem sameFolders_writeAll (h : ∀ a ∈ as, t.isOpenable (target directory a) = true) :
    SameFolders t (t.writeAll directory as) := by
  induction as generalizing t with
  | nil => exact .refl t
  | cons a as ih =>
    have hs := sameFolders_withFile (h a (List.mem_cons_self ..)) a.source.toUTF8
    refine hs.trans (ih fun x hx => ?_)
    rw [← hs.isOpenable_eq]
    exact h x (List.mem_cons_of_mem _ hx)

theorem node?_writeAll_of_ne (h : ∀ a ∈ as, t.isOpenable (target directory a) = true ∧ t.resolve (target directory a) ≠ b) :
    (t.writeAll directory as).node? b = t.node? b := by
  induction as generalizing t with
  | nil => rfl
  | cons a as ih =>
    obtain ⟨ho, hb⟩ := h a (List.mem_cons_self ..)
    have hs := sameFolders_withFile ho a.source.toUTF8
    change ((t.withFile _ _).writeAll directory as).node? b = _
    rw [ih fun x hx => ?_, node?_withFile ho, if_neg hb]
    rw [← hs.isOpenable_eq, ← resolve_congr hs.home_eq]
    exact h x (List.mem_cons_of_mem _ hx)

theorem node?_writeAll_append {before rest : List Artifact}
    (h : ∀ x ∈ before ++ a :: rest, t.isOpenable (target directory x) = true)
    (hr : ∀ x ∈ rest, t.resolve (target directory x) ≠ t.resolve (target directory a)) :
    (t.writeAll directory (before ++ a :: rest)).node? (t.resolve (target directory a)) = some (.file a.source.toUTF8) := by
  have hb : SameFolders t (t.writeAll directory before) :=
    sameFolders_writeAll fun x hx => h x (List.mem_append_left _ hx)
  have ho : (t.writeAll directory before).isOpenable (target directory a) = true := by
    rw [← hb.isOpenable_eq]
    exact h a (List.mem_append_right _ (List.mem_cons_self ..))
  have hs := hb.trans (sameFolders_withFile ho a.source.toUTF8)
  rw [writeAll, List.foldl_append, List.foldl_cons]
  change (((t.writeAll directory before).withFile _ _).writeAll directory rest).node? _ = _
  rw [node?_writeAll_of_ne fun x hx => ?_, node?_withFile ho, if_pos (resolve_congr hb.home_eq _).symm]
  rw [← hs.isOpenable_eq, ← resolve_congr hs.home_eq]
  exact ⟨h x (List.mem_append_right _ (List.mem_cons_of_mem _ hx)), hr x hx⟩

theorem deliver_eq (hz : ∀ a ∈ as, a.name.toList.contains '\x00' = false) {made : FileTree}
    (hm : t.makeFolder directory = (made, none)) :
    ∃ e, t.deliver directory as = (made.writeAll directory (as.filter (made.accepts directory)), .ok e) ∧
      e.written = (as.filter (made.accepts directory)).map (target directory) ∧
      ∀ n, n ∈ Entries.keys e.refusals ↔ ∃ a ∈ as, a.name = n ∧ made.accepts directory a = false := by
  obtain ⟨e, he, hw, hr⟩ := deliverAll_eq hz made directory .empty
  refine ⟨e, ?_, ?_, fun n => ?_⟩
  · rw [deliver, hm]
    exact he
  · rw [hw]
    rfl
  · rw [hr]
    exact or_iff_right List.not_mem_nil

theorem exists_of_deliver (h : t.deliver directory as = (after, .ok d)) :
    ∃ made, t.makeFolder directory = (made, none) ∧ ∀ a ∈ as, a.name.toList.contains '\x00' = false := by
  cases hm : t.makeFolder directory with
  | mk made f =>
    rw [deliver, hm] at h
    cases f with
    | some f => cases h
    | none => exact ⟨made, rfl, contains_null_eq_false h⟩

theorem target_mem_iff (ha : a ∈ as) :
    target directory a ∈ (as.filter (t.accepts directory)).map (target directory) ↔ t.accepts directory a = true := by
  constructor
  · intro h
    obtain ⟨x, hx, he⟩ := List.mem_map.1 h
    exact accepts_of_target_eq (List.mem_filter.1 hx).2 he.symm
  · intro h
    exact List.mem_map.2 ⟨a, List.mem_filter.2 ⟨ha, h⟩, rfl⟩

theorem exists_last {α : Type} {p : α → Prop} [DecidablePred p] {l : List α} (h : ∃ x ∈ l, p x) :
    ∃ before a rest, l = before ++ a :: rest ∧ p a ∧ ∀ x ∈ rest, ¬ p x := by
  have hs : (l.reverse.find? (p ·)).isSome = true := by simpa [List.find?_isSome] using h
  obtain ⟨a, ha⟩ := Option.isSome_iff_exists.1 hs
  obtain ⟨hp, rest, before, hl, hr⟩ := List.find?_eq_some_iff_append.1 ha
  refine ⟨before.reverse, a, rest.reverse, ?_, of_decide_eq_true hp, fun x hx => ?_⟩
  · rw [← List.reverse_reverse l, hl]
    simp
  · simpa using hr x (List.mem_reverse.1 hx)

theorem isLastAt_congr {p q : Artifact → Prop} (h : ∀ x ∈ as, p x ↔ q x) :
    t.IsLastAt directory p as b a ↔ t.IsLastAt directory q as b a := by
  refine exists_congr fun before => exists_congr fun rest => and_congr_right fun hs => and_congr_right fun _ => ?_
  refine and_congr (h a (by simp [hs])) (forall_congr' fun x => forall_congr' fun hx => ?_)
  rw [h x (by simp [hs, hx])]

section Delivered

variable {made : FileTree} (hz : ∀ a ∈ as, a.name.toList.contains '\x00' = false)
  (hm : t.makeFolder directory = (made, none))

include hm

theorem addsFolders_made : AddsFolders directory t made ∧ made.HasFolders directory := by
  have h := makeFolder_spec t directory
  rw [hm] at h
  exact ⟨h.1, h.2 rfl⟩

theorem landsIn_of_accepts_made (ha : made.accepts directory a = true) : t.LandsIn directory a := by
  obtain ⟨hn, name, hr⟩ := landsIn_of_accepts ha
  have hh := (addsFolders_made hm).1.home_eq
  exact ⟨hn, name, by rwa [resolve_congr hh, resolve_congr hh] at hr⟩

include hz

theorem deliver_fst : (t.deliver directory as).1 = made.writeAll directory (as.filter (made.accepts directory)) := by
  obtain ⟨e, he, -, -⟩ := deliver_eq hz hm
  rw [he]

theorem sameFolders_deliver : SameFolders made (t.deliver directory as).1 := by
  rw [deliver_fst hz hm]
  exact sameFolders_writeAll fun x hx => (accepts_iff.1 (List.mem_filter.1 hx).2).2.2

theorem hasFolders_deliver : (t.deliver directory as).1.HasFolders directory := by
  intro q hq
  have hs := sameFolders_deliver hz hm
  rw [← resolve_congr hs.home_eq, ← hs.folder_iff]
  exact (addsFolders_made hm).2 q hq

theorem node?_deliver_of_last (hl : t.IsLastAt directory (made.accepts directory · = true) as b a) :
    (t.deliver directory as).1.node? b = some (.file a.source.toUTF8) := by
  obtain ⟨before, rest, hs, rfl, ha, hr⟩ := hl
  rw [← resolve_congr (addsFolders_made hm).1.home_eq, deliver_fst hz hm, hs, List.filter_append,
    List.filter_cons_of_pos ha]
  refine node?_writeAll_append (fun x hx => ?_) fun x hx hb => ?_
  · rw [← List.filter_cons_of_pos ha, ← List.filter_append] at hx
    exact (accepts_iff.1 (List.mem_filter.1 hx).2).2.2
  · obtain ⟨hx, hp⟩ := List.mem_filter.1 hx
    rw [resolve_congr (addsFolders_made hm).1.home_eq, resolve_congr (addsFolders_made hm).1.home_eq] at hb
    exact hr x hx hb hp

theorem node?_deliver_of_ne (hb : ∀ x ∈ as, made.accepts directory x = true → t.resolve (target directory x) ≠ b) :
    (t.deliver directory as).1.node? b = made.node? b := by
  rw [deliver_fst hz hm]
  refine node?_writeAll_of_ne fun x hx => ?_
  obtain ⟨hx, hp⟩ := List.mem_filter.1 hx
  rw [resolve_congr (addsFolders_made hm).1.home_eq]
  exact ⟨(accepts_iff.1 hp).2.2, hb x hx hp⟩

/-- What is different after a delivery is a folder on the way to its own, or a file in it. -/
theorem node?_deliver_cases (hb : (t.deliver directory as).1.node? b ≠ t.node? b) :
    t.node? b = none ∧ (t.deliver directory as).1.node? b = some .folder ∧
        (∃ q : Path, q.Begins directory ∧ t.resolve q = b) ∨
      t.node? b ≠ some .folder ∧ (∃ name, b = t.resolve directory ++ [name]) ∧
        ∃ a, t.IsLastAt directory (made.accepts directory · = true) as b a := by
  by_cases hx : ∃ x ∈ as, made.accepts directory x = true ∧ t.resolve (target directory x) = b
  · obtain ⟨before, a, rest, hs, ⟨ha, rfl⟩, hr⟩ := exists_last hx
    obtain ⟨-, name, hn⟩ := landsIn_of_accepts_made hm ha
    have hadd := (addsFolders_made hm).1
    refine .inr ⟨fun ht => ?_, ⟨name, hn⟩, a, before, rest, hs, rfl, ha, fun x hx hb => ?_⟩
    · refine (isOpenable_iff.1 (accepts_iff.1 ha).2.2).2 (hadd.folder ?_)
      rwa [resolve_congr hadd.home_eq]
    · exact fun hp => hr x hx ⟨hp, hb⟩
  · have hn := node?_deliver_of_ne hz hm fun x hm hp hb => hx ⟨x, hm, hp, hb⟩
    rw [hn] at hb ⊢
    exact .inl (((addsFolders_made hm).1.node_cases b).resolve_left hb)

theorem accepts_eq_false_of_write_error {f : FileFault} {content : ByteArray}
    (hf : (t.deliver directory as).1.write (target directory a) content = .error f) :
    made.accepts directory a = false := by
  rw [← Bool.not_eq_true]
  intro ha
  have ho := (accepts_iff.1 ha).2.2
  rw [(sameFolders_deliver hz hm).isOpenable_eq] at ho
  rw [write_of_isOpenable ho] at hf
  cases hf

end Delivered

theorem isDelivery_of_deliver (h : t.deliver directory as = (after, .ok d)) : t.IsDelivery directory as after d := by
  obtain ⟨made, hm, hz⟩ := exists_of_deliver h
  obtain ⟨e, he, hw, hr⟩ := deliver_eq hz hm
  obtain rfl := Except.ok.inj (Prod.mk.inj (h.symm.trans he)).2
  obtain rfl : (t.deliver directory as).1 = after := by rw [h]
  have hlast (b : Address) (a : Artifact) :
      t.IsLastAt directory (target directory · ∈ d.written) as b a ↔
        t.IsLastAt directory (made.accepts directory · = true) as b a :=
    isLastAt_congr fun x hx => by rw [hw, target_mem_iff hx]
  have hh := (sameFolders_deliver hz hm).home_eq.symm.trans (addsFolders_made hm).1.home_eq
  refine ⟨hh, hasFolders_deliver hz hm, fun b hb => ?_, fun b a hl => node?_deliver_of_last hz hm ((hlast b a).1 hl), ?_⟩
  · rcases node?_deliver_cases hz hm hb with hf | ⟨hn, hi, a, hl⟩
    · exact .inl hf
    · exact .inr ⟨hn, hi, a, (hlast b a).2 hl, node?_deliver_of_last hz hm hl⟩
  · intro before a rest hs hf
    have hclean {l : List Artifact} (hl : l ⊆ before ++ a :: rest) : ∀ x ∈ l, x.name.toList.contains '\x00' = false :=
      fun x hx => hz x (hs ▸ hl hx)
    have hb := hclean (List.subset_append_left before _)
    have ha : made.accepts directory a = false := by
      rcases hf with hl | ⟨f, hf⟩
      · exact Bool.eq_false_iff.2 fun hp => hl (landsIn_of_accepts_made hm hp)
      · exact accepts_eq_false_of_write_error hb hm hf
    have hmem : a ∈ as := by simp [hs]
    have hn : ¬ made.accepts directory a = true := by simp [ha]
    refine ⟨(hr _).2 ⟨a, hmem, rfl, ha⟩, ?_, ?_, ?_⟩
    · rw [hw, target_mem_iff hmem]
      exact hn
    · rw [deliver_fst (hclean (by simp)) hm, deliver_fst hb hm, List.filter_append, List.filter_cons_of_neg hn,
        List.filter_nil, List.append_nil]
    · rw [deliver_fst (hclean (by simp)) hm, deliver_fst hz hm, hs, List.filter_append, List.filter_append,
        List.filter_cons_of_neg hn]

/-- A folder that is missing, a file that two artifacts name, and three artifacts that name nothing in the folder. -/
theorem isDelivery_of_deliver_spellings :
    let t : FileTree := ⟨["w"], [(["w"], .folder), (["w", "keep"], .file "old".toUTF8)]⟩
    let directory : Path := .ofText "new/../out"
    let as : List Artifact := [⟨"A.cs", "one"⟩, ⟨"x/../A.cs", "two"⟩, ⟨"./A.cs", "three"⟩, ⟨"../keep", "four"⟩, ⟨"", "five"⟩]
    ∃ after d, t.deliver directory as = (after, .ok d) ∧ t.IsDelivery directory as after d ∧
      after.node? ["w", "out", "A.cs"] = some (.file "three".toUTF8) := by
  intro t directory as
  have hd : ((t.deliver directory as).2.toOption.map (·.written)) =
      some [target directory ⟨"A.cs", "one"⟩, target directory ⟨"./A.cs", "three"⟩] := by decide +kernel
  obtain ⟨d, hr, hw⟩ := Option.map_eq_some_iff.1 hd
  have h : t.deliver directory as = ((t.deliver directory as).1, .ok d) := by
    cases hs : (t.deliver directory as).2 with
    | error e =>
      rw [hs] at hr
      cases hr
    | ok e =>
      rw [hs] at hr
      rw [← Option.some.inj hr, ← hs]
  have hi := isDelivery_of_deliver h
  refine ⟨_, d, h, hi, hi.last_written _ ⟨"./A.cs", "three"⟩ ?_⟩
  refine ⟨[⟨"A.cs", "one"⟩, ⟨"x/../A.cs", "two"⟩], [⟨"../keep", "four"⟩, ⟨"", "five"⟩], rfl, by decide +kernel, ?_, ?_⟩
  · rw [hw]
    exact List.mem_cons_of_mem _ (List.mem_cons_self ..)
  · rw [hw]
    decide +kernel

end ModelForge.FileTree
