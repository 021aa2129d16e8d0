import ModelForge.Proofs.Delivery
import ModelForge.Proofs.FileTree.Growing

/-! A delivery that is made once more changes nothing, whether it succeeded or not: a folder that could not be made cannot
be made then either, and each file gets the content that it has. -/

namespace ModelForge

namespace Path

variable {p : Path}

theorem exists_joinWith_concat (parts : List (List Char)) (part : List Char) :
    ∃ rest, Text.joinWith ['/'] (parts ++ [part]) = Text.joinWith ['/'] parts ++ rest := by
  induction parts with
  | nil => exact ⟨part, rfl⟩
  | cons q parts ih =>
    obtain ⟨rest, hr⟩ := ih
    rw [List.cons_append, Text.joinWith_cons _ _ (by simp), hr]
    by_cases hp : parts = []
    · subst hp
      exact ⟨'/' :: rest, by simp [Text.joinWith]⟩
    · exact ⟨rest, by rw [Text.joinWith_cons _ _ hp]; simp only [List.append_assoc]⟩

theorem display_parent_lt (h : p.display.utf8ByteSize < FileTree.pathLimit) :
    p.parent.display.utf8ByteSize < FileTree.pathLimit := by
  have hdot : ".".utf8ByteSize < FileTree.pathLimit := by decide
  by_cases hp : p.parts = []
  · have he : p.parent = p := by
      obtain ⟨slashes, parts⟩ := p
      simp only at hp
      subst hp
      rfl
    rwa [he]
  · obtain ⟨rest, hr⟩ := exists_joinWith_concat (p.parent.parts.map String.toList) (p.parts.getLast hp).toList
    have hparts : p.parts.map String.toList = p.parent.parts.map String.toList ++ [(p.parts.getLast hp).toList] := by
      rw [← List.map_singleton, ← List.map_append]
      exact congrArg _ (List.dropLast_concat_getLast hp).symm
    have hn : ¬ (decide (p.slashes = 0) && p.parts.isEmpty) = true := by simp [hp]
    rw [display, if_neg hn, hparts, hr, ← List.append_assoc, String.ofList_append, String.utf8ByteSize_append] at h
    rw [display]
    split
    · exact hdot
    · exact Nat.lt_of_le_of_lt (Nat.le_add_right _ _) h

end Path

namespace FileTree

variable {t u : FileTree} {p directory : Path} {as : List Artifact}

/-! Making a folder again. -/

theorem find_parent_of_locate {a : Address} (hp : p.parts ≠ []) (h : t.locate p = .ok a) :
    t.find p.parent = .ok .folder := by
  have hne : p.parent ≠ p := fun he => by
    have := Path.parts_parent_length hp
    rw [he] at this
    exact Nat.lt_irrefl _ this
  have hn : t.node? (t.resolve p.parent) = some .folder := folder_of_locate h (Path.begins_refl _).of_parent hne
  refine find_eq_ok_iff.2 ⟨?_, hn⟩
  have hparts : p.parts = p.parent.parts ++ [p.parts.getLast hp] := (List.dropLast_concat_getLast hp).symm
  unfold locate at h ⊢
  split at h
  · cases h
  · next hz =>
    have hz' : ¬ (p.parent.parts.any (·.toList.contains '\x00')) = true := by
      rw [hparts, List.any_append] at hz
      exact fun hc => hz (by rw [hc]; rfl)
    rw [if_neg hz']
    split at h
    · cases h
    · next hl =>
      rw [if_neg (Nat.not_le.2 (Path.display_parent_lt (Nat.not_le.1 hl)))]
      rw [hparts, List.foldlM_append] at h
      have hs : t.start p = t.start p.parent := rfl
      rw [hs] at h
      obtain ⟨c, hc, -⟩ := exists_of_bind_eq_ok h
      have hr : t.resolve p.parent = c := (foldlM_step_eq_ok hc).symm
      rw [hr]
      exact hc

theorem makeFolder_of_find (h : t.find p = .ok .folder) : t.makeFolder p = (t, none) := by
  obtain ⟨hl, hn⟩ := find_eq_ok_iff.1 h
  have ha : t.addFolder p = .error .present := by
    simp [addFolder, hl, hn, bind, Except.bind, throw, throwThe, MonadExceptOf.throw]
  have hf : t.forgive p .present = none := by simp [forgive, look, h]
  rw [makeFolder, ha]
  simp only [hf]

theorem grows_of_addFolder (ht : ".." ∉ t.home) (h : t.addFolder p = .ok u) : Grows t u ∧ u.find p = .ok .folder := by
  obtain ⟨hl, hn, rfl⟩ := addFolder_eq_ok h
  have hg : Grows t (t.set (t.resolve p) .folder) := .of_set (.inl hn) (up_not_mem_resolve ht p)
  have ha : t.resolve p ≠ [] := (node?_eq_none_iff.1 hn).1
  refine ⟨hg, find_eq_ok_iff.2 ?_⟩
  rw [resolve_congr hg.home_eq, node?_set ha, if_pos rfl]
  exact ⟨hg.locate_eq_ok hl, rfl⟩

theorem grows_makeFolder (ht : ".." ∉ t.home) (p : Path) :
    Grows t (t.makeFolder p).1 ∧ ((t.makeFolder p).2 = none → (t.makeFolder p).1.find p = .ok .folder) := by
  fun_induction makeFolder t p with
  | case1 p made h => exact ⟨(grows_of_addFolder ht h).1, fun _ => (grows_of_addFolder ht h).2⟩
  | case2 p _ _ => exact ⟨.refl t, fun h => absurd h (Option.some_ne_none _)⟩
  | case3 p _ _ _ above f h ih =>
    rw [h] at ih
    exact ⟨ih.1, fun h => absurd h (Option.some_ne_none _)⟩
  | case4 p _ _ _ above h made ha ih =>
    rw [h] at ih
    obtain ⟨hadd, hfind⟩ := grows_of_addFolder (ih.1.home_eq ▸ ht) ha
    exact ⟨ih.1.trans hadd, fun _ => hfind⟩
  | case5 p _ _ _ above h _ ih =>
    rw [h] at ih
    exact ⟨ih.1, fun h => absurd h (Option.some_ne_none _)⟩
  | case6 p _ _ _ above h trouble _ _ ih =>
    rw [h] at ih
    exact ⟨ih.1, find_of_forgive⟩
  | case7 p trouble _ _ => exact ⟨.refl t, find_of_forgive⟩

theorem makeFolder_of_addFolder_error {trouble : Trouble} (h : t.addFolder p = .error trouble) (hn : trouble ≠ .missing) :
    t.makeFolder p = (t, t.forgive p trouble) := by
  rw [makeFolder, h]
  cases trouble <;> first | rfl | exact absurd rfl hn

theorem makeFolder_of_parent_error {f : FileFault} (hp : p.parts ≠ []) (h : t.makeFolder p.parent = (t, some f)) :
    ∃ f', t.makeFolder p = (t, some f') := by
  have hlost : ∀ a, t.locate p ≠ .ok a := fun a hl => by
    rw [makeFolder_of_find (find_parent_of_locate hp hl)] at h
    cases h
  cases ha : t.addFolder p with
  | ok made => exact absurd (addFolder_eq_ok ha).1 (hlost _)
  | error trouble =>
    by_cases hm : trouble = .missing
    · subst hm
      refine ⟨f, ?_⟩
      rw [makeFolder, ha]
      simp only [dif_neg hp, h]
    · rw [makeFolder_of_addFolder_error ha hm]
      cases hf : t.forgive p trouble with
      | none => exact absurd (find_eq_ok_iff.1 (find_of_forgive hf)).1 (hlost _)
      | some f' => exact ⟨f', rfl⟩

theorem makeFolder_again {f : FileFault} (ht : ".." ∉ t.home) (h : t.makeFolder p = (u, some f)) :
    ∃ f', u.makeFolder p = (u, some f') := by
  have key : (t.makeFolder p).2 ≠ none → ∃ f', (t.makeFolder p).1.makeFolder p = ((t.makeFolder p).1, some f') := by
    clear h
    fun_induction makeFolder t p with
    | case1 p made h => exact fun hn => absurd rfl hn
    | case2 p ha hp =>
      refine fun _ => ⟨⟨.missing, p⟩, ?_⟩
      rw [makeFolder, ha]
      simp [hp]
    | case3 p ha hp _ above f hm ih =>
      rw [hm] at ih
      obtain ⟨f', hf⟩ := ih (Option.some_ne_none _)
      exact fun _ => makeFolder_of_parent_error hp hf
    | case4 p _ _ _ above h made ha ih => exact fun hn => absurd rfl hn
    | case5 p _ hp _ above hm ha ih =>
      have hfind := (grows_makeFolder ht p.parent).2
      rw [hm] at hfind
      refine fun _ => ⟨⟨.missing, p⟩, ?_⟩
      rw [makeFolder, ha]
      simp only [dif_neg hp, makeFolder_of_find (hfind rfl), ha]
    | case6 p _ hp _ above hm trouble hne ha ih =>
      rw [makeFolder_of_addFolder_error ha hne]
      exact fun hn => (Option.ne_none_iff_exists'.1 hn).imp fun f' hf => Prod.ext rfl hf
    | case7 p trouble hne ha =>
      rw [makeFolder_of_addFolder_error ha hne]
      exact fun hn => (Option.ne_none_iff_exists'.1 hn).imp fun f' hf => Prod.ext rfl hf
  rw [h] at key
  exact key (Option.some_ne_none _)

/-! Delivering again. -/

theorem writeAll_eq (t : FileTree) (directory : Path) (as : List Artifact) :
    t.writeAll directory as =
      ⟨t.home, Entries.putAll t.entries (as.map fun a => (t.resolve (target directory a), .file a.source.toUTF8))⟩ := by
  induction as generalizing t with
  | nil => rfl
  | cons a as ih =>
    have hs : t.writeAll directory (a :: as) = (t.withFile (target directory a) a.source.toUTF8).writeAll directory as := rfl
    have hh : (t.withFile (target directory a) a.source.toUTF8).home = t.home := rfl
    rw [hs, ih]
    simp only [resolve_congr hh]
    rfl

theorem writeAll_writeAll (ht : (Entries.keys t.entries).Nodup) (directory : Path) (as : List Artifact) :
    (t.writeAll directory as).writeAll directory as = t.writeAll directory as := by
  have hh : (t.writeAll directory as).home = t.home := by rw [writeAll_eq]
  rw [writeAll_eq (t.writeAll directory as), hh]
  simp only [resolve_congr hh]
  rw [writeAll_eq, Entries.putAll_putAll ht]

/-- What is written: the artifacts before the first one whose name holds a null byte, without those that are refused. -/
def accepted (t : FileTree) (directory : Path) (as : List Artifact) : List Artifact :=
  (as.takeWhile fun a => !a.name.toList.contains '\x00').filter (t.accepts directory)

theorem deliverAll_fst (t : FileTree) (directory : Path) (d : Delivery) (as : List Artifact) :
    (t.deliverAll directory d as).1 = t.writeAll directory (t.accepted directory as) := by
  induction as generalizing t d with
  | nil => rfl
  | cons a as ih =>
    cases hz : a.name.toList.contains '\x00' with
    | true =>
      simp only [deliverAll, hz, if_true, accepted, List.takeWhile_cons, Bool.not_true, Bool.false_eq_true, if_false,
        List.filter_nil]
      rfl
    | false =>
      have htake : (a :: as).takeWhile (fun a => !a.name.toList.contains '\x00') =
          a :: as.takeWhile fun a => !a.name.toList.contains '\x00' := List.takeWhile_cons_of_pos (by rw [hz]; rfl)
      rcases deliverAll_cons hz t directory d as with ⟨ha, hc⟩ | ⟨ha, r, -, hc⟩
      · have hs := sameFolders_withFile (accepts_iff.1 ha).2.2 a.source.toUTF8
        rw [hc, ih, accepted, accepted, htake, List.filter_cons_of_pos ha, ← funext (hs.accepts_eq directory)]
        rfl
      · rw [hc, ih, accepted, accepted, htake, List.filter_cons_of_neg (by simp [ha])]

theorem SameFolders.accepted_eq (h : SameFolders t u) (directory : Path) (as : List Artifact) :
    t.accepted directory as = u.accepted directory as := by
  rw [accepted, accepted, funext (h.accepts_eq directory)]

theorem isOpenable_of_mem_accepted {a : Artifact} (h : a ∈ t.accepted directory as) :
    t.isOpenable (target directory a) = true := (accepts_iff.1 (List.mem_filter.1 h).2).2.2

theorem grows_writeAll (ht : ".." ∉ t.home) (h : ∀ a ∈ as, t.isOpenable (target directory a) = true) :
    Grows t (t.writeAll directory as) := by
  induction as generalizing t with
  | nil => exact .refl t
  | cons a as ih =>
    have ho := h a (List.mem_cons_self ..)
    have hs := sameFolders_withFile ho a.source.toUTF8
    have hg : Grows t (t.withFile (target directory a) a.source.toUTF8) := by
      refine .of_set ?_ (up_not_mem_resolve ht _)
      cases hn : t.node? (t.resolve (target directory a)) with
      | none => exact .inl rfl
      | some n =>
        cases n with
        | folder => exact absurd hn (isOpenable_iff.1 ho).2
        | file content => exact .inr ⟨nofun, content, rfl⟩
    refine hg.trans (ih ht fun x hx => ?_)
    rw [← hs.isOpenable_eq]
    exact h x (List.mem_cons_of_mem _ hx)

theorem deliver_cases (t : FileTree) (directory : Path) (as : List Artifact) :
    (∃ u f, t.makeFolder directory = (u, some f) ∧ (t.deliver directory as).1 = u) ∨
      ∃ made, t.makeFolder directory = (made, none) ∧
        (t.deliver directory as).1 = made.writeAll directory (made.accepted directory as) := by
  rcases hm : t.makeFolder directory with ⟨made, f | f⟩
  · exact .inr ⟨made, rfl, by rw [deliver, hm]; exact deliverAll_fst ..⟩
  · exact .inl ⟨made, f, rfl, by rw [deliver, hm]⟩

theorem grows_deliver (ht : ".." ∉ t.home) (directory : Path) (as : List Artifact) :
    Grows t (t.deliver directory as).1 := by
  have hg := (grows_makeFolder ht directory).1
  rcases deliver_cases t directory as with ⟨u, f, hm, hd⟩ | ⟨made, hm, hd⟩
  · rw [hm] at hg
    rwa [hd]
  · rw [hm] at hg
    rw [hd]
    exact hg.trans (grows_writeAll (hg.home_eq ▸ ht) fun a => isOpenable_of_mem_accepted)

theorem deliver_deliver (ht : t.IsTree) (directory : Path) (as : List Artifact) :
    ((t.deliver directory as).1.deliver directory as).1 = (t.deliver directory as).1 := by
  rcases deliver_cases t directory as with ⟨u, f, hm, hd⟩ | ⟨made, hm, hd⟩
  · obtain ⟨f', hf⟩ := makeFolder_again ht.up_not_mem_home hm
    rw [hd, deliver, hf]
  · obtain ⟨hg, hfind⟩ := grows_makeFolder ht.up_not_mem_home directory
    rw [hm] at hg hfind
    have hs : SameFolders made (made.writeAll directory (made.accepted directory as)) :=
      sameFolders_writeAll fun a => isOpenable_of_mem_accepted
    obtain ⟨hl, hn⟩ := find_eq_ok_iff.1 (hfind rfl)
    have hagain : (t.deliver directory as).1.makeFolder directory = ((t.deliver directory as).1, none) := by
      refine makeFolder_of_find (find_eq_ok_iff.2 ?_)
      rw [hd, ← resolve_congr hs.home_eq, ← hs.locate_iff, ← hs.folder_iff]
      exact ⟨hl, hn⟩
    rw [deliver, hagain]
    change ((t.deliver directory as).1.deliverAll directory .empty as).1 = _
    rw [deliverAll_fst, hd, ← hs.accepted_eq, writeAll_writeAll (hg.nodup ht.nodup)]

end FileTree

end ModelForge
