import ModelForge.Proofs.FileTree.Searching

/-! What can be reached in a tree whose names are names that a file system takes. From a folder that a path leads to, every
node below it is found by its names, unless the path gets too long on the way. -/

namespace ModelForge

def IsNodeName (name : String) : Prop :=
  name ∉ ["", ".", ".."] ∧ '/' ∉ name.toList ∧ '\x00' ∉ name.toList ∧ name.utf8ByteSize ≤ FileTree.longestName

instance : DecidablePred IsNodeName := fun _ => inferInstanceAs (Decidable (_ ∧ _))

def Path.IsShort (p : Path) : Prop := p.display.utf8ByteSize < FileTree.pathLimit

instance : DecidablePred Path.IsShort := fun _ => inferInstanceAs (Decidable (_ < _))

namespace FileTree

variable {t : FileTree} {p q : Path} {a : Address} {names : List String} {n : Node} {fits : String → Prop}

structure IsWellFormed (t : FileTree) : Prop extends t.IsTree where
  isNodeName : ∀ a ∈ Entries.keys t.entries, ∀ name ∈ a, IsNodeName name

instance (t : FileTree) : Decidable t.IsWellFormed :=
  decidable_of_iff
    ((Entries.keys t.entries).Nodup ∧ ".." ∉ t.home ∧
      ∀ a ∈ Entries.keys t.entries, t.node? a.dropLast = some .folder ∧ ".." ∉ a ∧ ∀ name ∈ a, IsNodeName name)
    ⟨fun h =>
      { nodup := h.1
        up_not_mem_home := h.2.1
        parent := fun a ha => (h.2.2 a ha).1
        up_not_mem := fun a ha => (h.2.2 a ha).2.1
        isNodeName := fun a ha => (h.2.2 a ha).2.2 },
    fun h => ⟨h.nodup, h.up_not_mem_home, fun a ha => ⟨h.parent a ha, h.up_not_mem a ha, h.isNodeName a ha⟩⟩⟩

/-- A file at any depth below the path, with a name that fits. -/
def IsFileBelow (t : FileTree) (fits : String → Prop) (p q : Path) : Prop :=
  ∃ names content, q = p.below names ∧ t.node? (t.resolve p ++ names) = some (.file content) ∧ fits q.name

/-- Every folder below the path, and everything with a name that fits, has a path that is not too long. -/
def InReach (t : FileTree) (fits : String → Prop) (p : Path) : Prop :=
  ∀ names n, t.node? (t.resolve p ++ names) = some n → n = .folder ∨ fits (p.below names).name → (p.below names).IsShort

theorem mem_keys_of_node? (ha : a ≠ []) : t.node? a ≠ none ↔ a ∈ Entries.keys t.entries := by
  rw [Ne, node?_eq_none_iff, not_and]
  exact ⟨fun h => Classical.not_not.1 (h ha), fun h _ hk => hk h⟩

namespace IsWellFormed

variable (ht : t.IsWellFormed)

include ht

theorem isNodeName_below (hn : t.node? (a ++ names) ≠ none) : ∀ name ∈ names, IsNodeName name := by
  intro name hm
  have hne : a ++ names ≠ [] := fun he => by simp_all
  exact ht.isNodeName _ ((mem_keys_of_node? hne).1 hn) name (List.mem_append_right a hm)

theorem up_not_mem_below (hn : t.node? (a ++ names) ≠ none) : ".." ∉ names :=
  fun hm => (ht.isNodeName_below hn _ hm).1 (by simp)

theorem foldlM_step_below (hn : t.node? (a ++ names) ≠ none) : names.foldlM t.step a = .ok (a ++ names) := by
  induction names generalizing a with
  | nil => rw [List.append_nil]; rfl
  | cons name rest ih =>
    obtain ⟨hname, -, -, hl⟩ := ht.isNodeName_below hn name List.mem_cons_self
    have hs : t.step a name = .ok (a ++ [name]) :=
      step_eq_ok_iff.2 ⟨ht.folder_of_append hn, .inr ⟨fun he => hname (by simp [he]), hl, rfl⟩⟩
    rw [List.append_cons] at hn ⊢
    rw [List.foldlM_cons, hs]
    exact ih hn

theorem locate_below (hp : t.find p = .ok .folder) (hn : t.node? (t.resolve p ++ names) ≠ none) :
    ((p.below names).IsShort → t.locate (p.below names) = .ok (t.resolve p ++ names)) ∧
      (¬ (p.below names).IsShort → t.locate (p.below names) = .error .nameTooLong) := by
  obtain ⟨hz, -, hfold⟩ := locate_eq_ok_iff.1 (find_eq_ok_iff.1 hp).1
  have hzero : ∀ part ∈ (p.below names).parts, '\x00' ∉ part.toList := fun part hm =>
    (List.mem_append.1 hm).elim (hz part) fun hm => (ht.isNodeName_below hn part hm).2.2.1
  constructor
  · intro hs
    refine locate_eq_ok_iff.2 ⟨hzero, hs, ?_⟩
    change (p.parts ++ names).foldlM t.step (t.start p) = .ok (t.resolve p ++ names)
    rw [List.foldlM_append, hfold]
    exact ht.foldlM_step_below hn
  · intro hs
    have hnull : ¬ ((p.below names).parts.any (·.toList.contains '\x00')) = true := fun hc => by
      obtain ⟨part, hm, hc⟩ := List.any_eq_true.1 hc
      exact hzero part hm (List.contains_iff_mem.1 hc)
    rw [locate, if_neg hnull, if_pos (Nat.not_lt.1 hs)]

theorem find_below (hp : t.find p = .ok .folder) (hn : t.node? (t.resolve p ++ names) = some n)
    (hs : (p.below names).IsShort) : t.find (p.below names) = .ok n := by
  have hne : t.node? (t.resolve p ++ names) ≠ none := by simp [hn]
  rw [find_eq_ok_iff, resolve_below (ht.up_not_mem_below hne)]
  exact ⟨(ht.locate_below hp hne).1 hs, hn⟩

theorem look_below_of_long (hp : t.find p = .ok .folder) (hn : t.node? (t.resolve p ++ names) ≠ none)
    (hs : ¬ (p.below names).IsShort) : t.look (p.below names) = .error ⟨.nameTooLong, p.below names⟩ := by
  simp only [look, find, (ht.locate_below hp hn).2 hs, bind, Except.bind]

end IsWellFormed

/-! What is listed. -/

theorem mem_names_iff {name : String} : name ∈ t.names a ↔ t.node? (a ++ [name]) ≠ none := by
  rw [mem_keys_of_node? (by simp)]
  refine ⟨mem_names, fun h => ?_⟩
  obtain ⟨⟨b, n⟩, he, rfl⟩ := List.mem_map.1 h
  refine List.mem_filterMap.2 ⟨_, he, ?_⟩
  simp

theorem IsTree.node?_eq_some_iff (ht : t.IsTree) (ha : a ≠ []) : t.node? a = some n ↔ (a, n) ∈ t.entries := by
  rw [node?, if_neg ha]
  exact ⟨Entries.mem_of_find?_eq_some, Entries.find?_eq_some_of_mem ht.nodup⟩

theorem IsTree.mem_foldersBelow_iff (ht : t.IsTree) :
    q ∈ t.foldersBelow a p ↔ ∃ names, names ≠ [] ∧ q = p.below names ∧ t.node? (a ++ names) = some .folder := by
  have hne {names : List String} (h : names ≠ []) : a ++ names ≠ [] := fun he => h (List.append_eq_nil_iff.1 he).2
  constructor
  · intro h
    obtain ⟨⟨b, n⟩, he, hq⟩ := List.mem_filterMap.1 h
    dsimp only at hq
    split at hq
    · next hc =>
      simp only [Bool.and_eq_true, decide_eq_true_eq] at hc
      obtain ⟨⟨rfl, hpre⟩, hl⟩ := hc
      obtain ⟨names, rfl⟩ := List.isPrefixOf_iff_prefix.1 hpre
      have hnames : names ≠ [] := fun hn => by simp [hn] at hl
      rw [List.drop_left] at hq
      exact ⟨names, hnames, (Option.some.inj hq).symm, (ht.node?_eq_some_iff (hne hnames)).2 he⟩
    · cases hq
  · rintro ⟨names, hnames, rfl, hn⟩
    refine List.mem_filterMap.2 ⟨_, (ht.node?_eq_some_iff (hne hnames)).1 hn, ?_⟩
    have hl : 0 < names.length := List.length_pos_iff.2 hnames
    simp [Path.below, hl]

theorem IsTree.mem_folders_iff (ht : t.IsTree) (hn : t.node? a = some .folder) :
    q ∈ p :: t.foldersBelow a p ↔ ∃ names, q = p.below names ∧ t.node? (a ++ names) = some .folder := by
  rw [List.mem_cons, ht.mem_foldersBelow_iff]
  constructor
  · rintro (rfl | ⟨names, -, rfl, hf⟩)
    · exact ⟨[], (q.below_nil).symm, by rwa [List.append_nil]⟩
    · exact ⟨names, rfl, hf⟩
  · rintro ⟨names, rfl, hf⟩
    by_cases hnames : names = []
    · subst hnames
      exact .inl p.below_nil
    · exact .inr ⟨names, hnames, rfl, hf⟩

/-! What a search from a folder comes to. -/

section Search

variable (ht : t.IsWellFormed) (hp : t.find p = .ok .folder)

include ht hp

theorem located_below (hn : t.node? (t.resolve p ++ names) ≠ none) :
    ((p.below names).IsShort → t.located (p.below names) = .ok (t.resolve p ++ names)) ∧
      (¬ (p.below names).IsShort → t.located (p.below names) = .error ⟨.nameTooLong, p.below names⟩) := by
  obtain ⟨hshort, hlong⟩ := ht.locate_below hp hn
  exact ⟨fun hs => by rw [located, hshort hs]; rfl, fun hs => by rw [located, hlong hs]; rfl⟩

theorem select_wild_below {pattern : String} (hn : t.node? (t.resolve p ++ names) ≠ none) (hs : (p.below names).IsShort) :
    ∃ found, t.select [.wild pattern] (p.below names) = .ok found ∧ ∀ q, q ∈ found ↔ ∃ name,
      q = p.below (names ++ [name]) ∧ t.node? (t.resolve p ++ (names ++ [name])) ≠ none ∧
        Glob.isMatch pattern.toList name.toList = true := by
  let fitting := (t.names (t.resolve p ++ names)).filter fun name => Glob.isMatch pattern.toList name.toList
  have hfilter : (t.names (t.resolve p ++ names)).filter (fun name =>
      Glob.isMatch pattern.toList name.toList && (([] : List Segment).isEmpty ||
        t.isFolder (t.resolve p ++ names ++ [name]))) = fitting := List.filter_congr fun name _ => by simp
  have hmap : (fitting.mapM fun name => (.ok [(p.below names).child name] : Except FileFault (List Path))) =
      .ok (fitting.map fun name => [(p.below names).child name]) := List.mapM_pure
  refine ⟨fitting.map fun name => (p.below names).child name, ?_, fun q => ?_⟩
  · simp only [select, (located_below ht hp hn).1 hs, bind, Except.bind]
    rw [hfilter, hmap]
    refine congrArg Except.ok ?_
    rw [← List.flatMap_def]
    exact List.map_eq_flatMap.symm
  · have hchild (name : String) : (p.below names).child name = p.below (names ++ [name]) := p.below_below names [name]
    simp only [List.mem_map, fitting, List.mem_filter, mem_names_iff, hchild, List.append_assoc]
    exact exists_congr fun name => ⟨fun h => ⟨h.2.symm, h.1⟩, fun h => ⟨h.2, h.1.symm⟩⟩

theorem select_anyDepth_below (hn : t.node? (t.resolve p ++ names) = some .folder) (hs : (p.below names).IsShort) :
    ∃ found, t.select [.anyDepth] (p.below names) = .ok found ∧ ∀ q, q ∈ found ↔ ∃ more,
      q = p.below (names ++ more) ∧ t.node? (t.resolve p ++ (names ++ more)) = some .folder := by
  let folders := p.below names :: t.foldersBelow (t.resolve p ++ names) (p.below names)
  have hne : t.node? (t.resolve p ++ names) ≠ none := by simp [hn]
  have hmap : (folders.mapM fun q => (.ok [q] : Except FileFault (List Path))) = .ok (folders.map fun q => [q]) :=
    List.mapM_pure
  refine ⟨folders, ?_, fun q => ?_⟩
  · simp only [select, (located_below ht hp hne).1 hs, bind, Except.bind]
    rw [hmap]
    refine congrArg Except.ok ?_
    rw [← List.flatMap_def, List.flatMap_singleton']
  · simp only [folders, ht.mem_folders_iff hn, Path.below_below, List.append_assoc]

theorem select_anyDepth_cases {segments : List Segment} {out : List String → Path → Prop}
    (hshort : ∀ names, t.node? (t.resolve p ++ names) = some .folder → (p.below names).IsShort →
      ∃ found, t.select segments (p.below names) = .ok found ∧ ∀ q, q ∈ found ↔ out names q)
    (hlong : ∀ names, t.node? (t.resolve p ++ names) = some .folder → ¬ (p.below names).IsShort →
      t.select segments (p.below names) = .error ⟨.nameTooLong, p.below names⟩) :
    (∃ all, t.select (.anyDepth :: segments) p = .ok all ∧
      (∀ names, t.node? (t.resolve p ++ names) = some .folder → (p.below names).IsShort) ∧
      ∀ q, q ∈ all ↔ ∃ names, t.node? (t.resolve p ++ names) = some .folder ∧ out names q) ∨
    ∃ names, t.node? (t.resolve p ++ names) = some .folder ∧ ¬ (p.below names).IsShort ∧
      t.select (.anyDepth :: segments) p = .error ⟨.nameTooLong, p.below names⟩ := by
  obtain ⟨hl, hn⟩ := find_eq_ok_iff.1 hp
  have hloc : t.located p = .ok (t.resolve p) := by rw [located, hl]; rfl
  rcases mapM_cases (t.select segments) (p :: t.foldersBelow (t.resolve p) p) with
    ⟨lists, hlists, hall⟩ | ⟨before, q, rest, f, hsplit, -, hq, hf⟩
  · have hfolders (names : List String) (hf : t.node? (t.resolve p ++ names) = some .folder) : (p.below names).IsShort := by
      refine Classical.byContradiction fun hs => ?_
      obtain ⟨list, -, hok⟩ := hall _ ((ht.mem_folders_iff hn).2 ⟨names, rfl, hf⟩)
      cases (hlong names hf hs).symm.trans hok
    refine .inl ⟨lists.flatten, ?_, hfolders, fun q => ?_⟩
    · simp only [select, hloc, hlists, bind, Except.bind]
      rfl
    · rw [List.mem_flatten]
      constructor
      · rintro ⟨list, hlist, hq⟩
        obtain ⟨x, hx, hok⟩ := exists_of_mem_mapM hlists hlist
        obtain ⟨names, rfl, hf⟩ := (ht.mem_folders_iff hn).1 hx
        obtain ⟨found, hfound, hout⟩ := hshort names hf (hfolders names hf)
        cases hok.symm.trans hfound
        exact ⟨names, hf, (hout q).1 hq⟩
      · rintro ⟨names, hf, hq⟩
        obtain ⟨found, hfound, hout⟩ := hshort names hf (hfolders names hf)
        obtain ⟨list, hlist, hok⟩ := hall _ ((ht.mem_folders_iff hn).2 ⟨names, rfl, hf⟩)
        cases hok.symm.trans hfound
        exact ⟨_, hlist, (hout q).2 hq⟩
  · have hmem : q ∈ p :: t.foldersBelow (t.resolve p) p := hsplit ▸ List.mem_append_right before List.mem_cons_self
    obtain ⟨names, rfl, hfolder⟩ := (ht.mem_folders_iff hn).1 hmem
    have hs : ¬ (p.below names).IsShort := fun hs => by
      obtain ⟨found, hfound, -⟩ := hshort names hfolder hs
      cases hq.symm.trans hfound
    cases hq.symm.trans (hlong names hfolder hs)
    refine .inr ⟨names, hfolder, hs, ?_⟩
    simp only [select, hloc, hf, bind, Except.bind]

end Search

theorem look_eq_error {f : FileFault} (h : t.look q = .error f) : f = ⟨.nameTooLong, q⟩ := by
  unfold look at h
  split at h
  · cases h
  · exact (Except.error.inj h).symm
  · cases h

def checkFile (t : FileTree) (q : Path) : Except FileFault Bool := do
  match ← t.look q with
  | some (.file _) => return true
  | _ => return false

theorem checkFile_eq (t : FileTree) (q : Path) : t.checkFile q = (t.look q).map fun _ => t.hasFile q := by
  unfold checkFile look hasFile
  cases t.find q with
  | ok n => cases n <;> rfl
  | error e => cases e <;> rfl

theorem search_of_select {segments : List Segment} {all : List Path} (h : t.select (.anyDepth :: segments) p = .ok all) :
    (∀ q ∈ all, ∃ n, t.look q = .ok n) ∧ t.search segments p = .ok (all.filter t.hasFile) ∨
      ∃ q ∈ all, t.look q = .error ⟨.nameTooLong, q⟩ ∧ t.search segments p = .error ⟨.nameTooLong, q⟩ := by
  have hsearch : t.search segments p = all.filterM t.checkFile := by
    rw [search, h]
    rfl
  rcases filterM_cases t.checkFile all with ⟨hf, hall⟩ | ⟨q, hq, f, hcheck, hf⟩
  · refine .inl ⟨fun q hq => ?_, ?_⟩
    · obtain ⟨b, hb⟩ := hall q hq
      obtain ⟨n, hn, -⟩ := exists_of_bind_eq_ok hb
      exact ⟨n, hn⟩
    · obtain ⟨more, hm, hfound⟩ := exists_select_of_search (hsearch.trans hf)
      cases h.symm.trans hm
      rw [hsearch, hf, hfound]
  · rw [checkFile_eq] at hcheck
    cases hl : t.look q with
    | ok n =>
      rw [hl] at hcheck
      cases hcheck
    | error e =>
      obtain rfl := look_eq_error hl
      rw [hl] at hcheck
      cases hcheck
      exact .inr ⟨q, hq, hl, hsearch.trans hf⟩

section Search

variable (ht : t.IsWellFormed) (hp : t.find p = .ok .folder)

include ht hp

/-- A search that comes to folders and fitting nodes only, and to all fitting files, finds the fitting files, unless one of
the nodes is out of reach. -/
theorem search_exact {segments : List Segment} {all : List Path} (h : t.select (.anyDepth :: segments) p = .ok all)
    (hfolders : ∀ names, t.node? (t.resolve p ++ names) = some .folder → (p.below names).IsShort)
    (hfits : ∀ q ∈ all, ∃ names n, q = p.below names ∧ t.node? (t.resolve p ++ names) = some n ∧ (n = .folder ∨ fits q.name))
    (hall : ∀ names n, t.node? (t.resolve p ++ names) = some n → n ≠ .folder → fits (p.below names).name →
      p.below names ∈ all) :
    t.InReach fits p ∧ (∃ found, t.search segments p = .ok found ∧ ∀ q, q ∈ found ↔ t.IsFileBelow fits p q) ∨
      ¬ t.InReach fits p ∧ ∃ q, t.search segments p = .error ⟨.nameTooLong, q⟩ := by
  have hlong {names : List String} {n : Node} (hn : t.node? (t.resolve p ++ names) = some n)
      (hs : ¬ (p.below names).IsShort) := ht.look_below_of_long hp (Option.ne_none_iff_exists'.2 ⟨n, hn⟩) hs
  rcases search_of_select h with ⟨hlook, hs⟩ | ⟨q, hq, hlook, hs⟩
  · have hreach : t.InReach fits p := by
      intro names n hn hf
      by_cases hfolder : n = .folder
      · exact hfolders names (hfolder ▸ hn)
      · refine Classical.byContradiction fun hshort => ?_
        obtain ⟨m, hm⟩ := hlook _ (hall names n hn hfolder (hf.resolve_left hfolder))
        cases (hlong hn hshort).symm.trans hm
    refine .inl ⟨hreach, _, hs, fun q => ?_⟩
    rw [List.mem_filter, hasFile_iff]
    constructor
    · rintro ⟨hq, content, hc⟩
      obtain ⟨names, n, rfl, hn, hf⟩ := hfits q hq
      cases hc.symm.trans (ht.find_below hp hn (hreach names n hn hf))
      exact ⟨names, content, rfl, hn, hf.resolve_left (by simp)⟩
    · rintro ⟨names, content, rfl, hn, hf⟩
      exact ⟨hall names _ hn (by simp) hf, content, ht.find_below hp hn (hreach names _ hn (.inr hf))⟩
  · obtain ⟨names, n, rfl, hn, hf⟩ := hfits q hq
    refine .inr ⟨fun hreach => ?_, _, hs⟩
    cases (look_eq_some_iff.2 (ht.find_below hp hn (hreach names n hn hf))).symm.trans hlook

end Search

theorem inReach_of_forall (hp : t.find p = .ok .folder)
    (h : ∀ a ∈ Entries.keys t.entries, (p.below (a.drop (t.resolve p).length)).IsShort) (fits : String → Prop) :
    t.InReach fits p := by
  intro names n hn _
  by_cases hnames : names = []
  · subst hnames
    rw [p.below_nil]
    exact (locate_eq_ok_iff.1 (find_eq_ok_iff.1 hp).1).2.1
  · have hne : t.resolve p ++ names ≠ [] := fun he => hnames (List.append_eq_nil_iff.1 he).2
    have hsome : t.node? (t.resolve p ++ names) ≠ none := by simp [hn]
    simpa using h _ ((mem_keys_of_node? hne).1 hsome)

end FileTree

end ModelForge
