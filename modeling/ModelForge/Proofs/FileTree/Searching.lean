import ModelForge.Discovery
import ModelForge.Proofs.FileTree.Growing
import ModelForge.Proofs.Succeeding

/-! Searching a grown tree. A pattern without a step up finds what it found before and new nodes besides, and the old ones
in the same order. A step up breaks this, because it leads from a new folder to an old file. -/

namespace ModelForge

/-- A segment that leads to a path itself or below it. -/
def Segment.IsDown : Segment → Prop
  | .up => False
  | .exact name => name ≠ ".."
  | _ => True

namespace Segment

theorem isDown_of_ofText? {s : List Char} {segment : Segment} (h : ofText? s = some segment) (hn : segment ≠ .up) :
    segment.IsDown := by
  unfold ofText? at h
  split at h
  · cases h
    trivial
  · split at h
    · cases h
      exact absurd rfl hn
    · next hup =>
      split at h
      · cases h
      · split at h
        · cases h
          trivial
        · cases h
          intro he
          exact hup (by rw [← String.toList_ofList (l := s), he]; rfl)

theorem isDown_of_ofPattern? {pattern : List Char} {segments : List Segment} (h : ofPattern? pattern = some segments)
    (hn : .up ∉ segments) : ∀ s ∈ segments, s.IsDown := by
  obtain ⟨found, hf, h⟩ := Option.bind_eq_some_iff.1 h
  cases h
  intro s hs
  rcases List.mem_append.1 hs with hm | hm
  · obtain ⟨part, -, hp⟩ := exists_of_mem_mapM_some hf hm
    exact isDown_of_ofText? hp fun he => hn (he ▸ hs)
  · split at hm
    · rw [List.mem_singleton.1 hm]
      trivial
    · cases hm

end Segment

namespace FileTree

variable {t u : FileTree} {p base : Path} {a : Address} {segments : List Segment} {found : List Path}

theorem eq_resolve_of_located (h : t.located p = .ok a) : a = t.resolve p :=
  locate_eq_resolve (eq_ok_of_mapError_eq_ok h)

def stands (t : FileTree) (p : Path) : Bool := (t.node? (t.resolve p)).isSome

theorem stands_iff : t.stands p = true ↔ t.node? (t.resolve p) ≠ none := Option.isSome_iff_ne_none

/-- The path goes on by names only from a path that can be followed. -/
def IsReached (t : FileTree) (p : Path) : Prop :=
  ∃ base names, t.locate base = .ok (t.resolve base) ∧ ".." ∉ names ∧ p = base.below names

theorem IsReached.below (h : t.IsReached p) {names : List String} (hup : ".." ∉ names) : t.IsReached (p.below names) := by
  obtain ⟨base, front, hb, hf, rfl⟩ := h
  exact ⟨base, front ++ names, hb, by simp [hf, hup], base.below_below front names⟩

theorem IsReached.locate_eq (h : t.IsReached p) (ht : t.IsTree) (hg : Grows t u) (hp : t.stands p = true) :
    u.locate p = t.locate p := by
  obtain ⟨base, names, hb, hup, rfl⟩ := h
  rw [stands_iff, resolve_below hup] at hp
  exact ht.locate_below_eq hg hb hup hp

theorem isReached_of_locate (h : t.locate p = .ok a) : t.IsReached p :=
  ⟨p, [], locate_eq_resolve h ▸ h, List.not_mem_nil, (p.below_nil).symm⟩

theorem look_eq_some_iff {n : Node} : t.look p = .ok (some n) ↔ t.find p = .ok n := by
  constructor
  · intro h
    unfold look at h
    split at h
    · next m hm =>
      cases h
      exact hm
    · cases h
    · cases h
  · intro h
    rw [look, h]

theorem exists_of_select_anyDepth (h : t.select (.anyDepth :: segments) p = .ok found) :
    ∃ lists, (p :: t.foldersBelow (t.resolve p) p).mapM (t.select segments) = .ok lists ∧ found = lists.flatten := by
  obtain ⟨a, ha, h⟩ := exists_of_bind_eq_ok h
  obtain ⟨lists, hl, h⟩ := exists_of_bind_eq_ok h
  cases h
  obtain rfl := eq_resolve_of_located ha
  exact ⟨lists, hl, rfl⟩

theorem exists_of_select_wild {pattern : String} (h : t.select (.wild pattern :: segments) p = .ok found) :
    ∃ lists, ((t.names (t.resolve p)).filter fun name =>
          Glob.isMatch pattern.toList name.toList && (segments.isEmpty || t.isFolder (t.resolve p ++ [name]))).mapM
        (fun name => t.select segments (p.below [name])) = .ok lists ∧ found = lists.flatten := by
  obtain ⟨a, ha, h⟩ := exists_of_bind_eq_ok h
  obtain ⟨lists, hl, h⟩ := exists_of_bind_eq_ok h
  cases h
  obtain rfl := eq_resolve_of_located ha
  exact ⟨lists, hl, rfl⟩

theorem select_exact_cases {name : String} (h : t.select (.exact name :: segments) p = .ok found) :
    t.look (p.below [name]) = .ok none ∧ found = [] ∨
      ∃ n, t.find (p.below [name]) = .ok n ∧
        (if segments.isEmpty || n = .folder then t.select segments (p.below [name]) else .ok []) = .ok found := by
  obtain ⟨n, hn, h⟩ := exists_of_bind_eq_ok h
  cases n with
  | none =>
    cases h
    exact .inl ⟨hn, rfl⟩
  | some n => exact .inr ⟨n, look_eq_some_iff.1 hn, h⟩

theorem select_below (ht : ∀ a ∈ Entries.keys t.entries, ".." ∉ a) (hs : ∀ s ∈ segments, s.IsDown)
    (h : t.select segments p = .ok found) : ∀ q ∈ found, ∃ names, ".." ∉ names ∧ q = p.below names := by
  induction segments generalizing p found with
  | nil =>
    cases h
    intro q hq
    exact ⟨[], List.not_mem_nil, by rw [List.mem_singleton.1 hq, Path.below_nil]⟩
  | cons s segments ih =>
    obtain ⟨hdown, hrest⟩ := List.forall_mem_cons.1 hs
    -- Whatever the segment leads to, the rest goes on from there by names.
    have on {names : List String} (hup : ".." ∉ names) {more : List Path}
        (hm : t.select segments (p.below names) = .ok more) : ∀ q ∈ more, ∃ names, ".." ∉ names ∧ q = p.below names := by
      intro q hq
      obtain ⟨rest, hr, rfl⟩ := ih hrest hm q hq
      exact ⟨names ++ rest, by simp [hup, hr], p.below_below names rest⟩
    cases s with
    | up => exact hdown.elim
    | here => exact ih hrest h
    | anyDepth =>
      obtain ⟨lists, hl, rfl⟩ := exists_of_select_anyDepth h
      intro q hq
      obtain ⟨list, hm, hq⟩ := List.mem_flatten.1 hq
      obtain ⟨p', hp', hsel⟩ := exists_of_mem_mapM hl hm
      rcases List.mem_cons.1 hp' with rfl | hp'
      · rw [← p'.below_nil] at hsel
        exact on List.not_mem_nil hsel q hq
      · obtain ⟨rest, rfl, hk⟩ := mem_foldersBelow hp'
        exact on (fun hr => ht _ hk (List.mem_append_right _ hr)) hsel q hq
    | wild pattern =>
      obtain ⟨lists, hl, rfl⟩ := exists_of_select_wild h
      intro q hq
      obtain ⟨list, hm, hq⟩ := List.mem_flatten.1 hq
      obtain ⟨name, hn, hsel⟩ := exists_of_mem_mapM hl hm
      have hk := ht _ (mem_names (List.mem_filter.1 hn).1)
      exact on (fun hr => hk (List.mem_append_right _ hr)) hsel q hq
    | exact name =>
      rcases select_exact_cases h with ⟨-, rfl⟩ | ⟨n, -, h⟩
      · nofun
      · split at h
        · exact on (fun hm => hdown (List.mem_singleton.1 hm).symm) h
        · cases h
          nofun

theorem select_filter_eq_nil (ht : t.IsTree) (hg : Grows t u) (hs : ∀ s ∈ segments, s.IsDown) (hp : ¬ t.stands p = true)
    (h : u.select segments p = .ok found) : found.filter t.stands = [] := by
  refine List.filter_eq_nil_iff.2 fun q hq hst => hp ?_
  obtain ⟨names, hup, rfl⟩ := select_below (hg.up_not_mem ht.up_not_mem) hs h q hq
  rw [stands_iff, resolve_below hup] at hst
  exact stands_iff.2 (ht.stands_of_append hst)

/-- What is found in the grown tree and stood before is just what was found before. -/
def Keeps (t u : FileTree) (segments : List Segment) (p : Path) : Prop :=
  ∀ found more, t.select segments p = .ok found → u.select segments p = .ok more → found = more.filter t.stands

section Step

variable (ht : t.IsTree) (hg : Grows t u) (hs : ∀ s ∈ segments, s.IsDown)
  (keeps : ∀ names, ".." ∉ names → t.node? (t.resolve p ++ names) ≠ none → Keeps t u segments (p.below names))

include ht hg hs

theorem select_below_filter_eq_nil {names : List String} (hup : ".." ∉ names)
    (hn : t.node? (t.resolve p ++ names) = none) (h : u.select segments (p.below names) = .ok found) :
    found.filter t.stands = [] := by
  refine select_filter_eq_nil ht hg hs (fun hst => ?_) h
  rw [stands_iff, resolve_below hup] at hst
  exact hst hn

include keeps

theorem keeps_anyDepth (hp : t.stands p = true) : Keeps t u (.anyDepth :: segments) p := by
  intro found more h h'
  obtain ⟨lists, hl, rfl⟩ := exists_of_select_anyDepth h
  obtain ⟨lists', hl', rfl⟩ := exists_of_select_anyDepth h'
  rw [resolve_congr hg.home_eq] at hl'
  obtain ⟨news, hf, hnews⟩ := hg.foldersBelow_eq (t.resolve p) p
  rw [hf, ← List.cons_append] at hl'
  refine flatten_eq_filter_flatten hl hl' (fun q hq => ?_) fun q hq c hc => ?_
  · rcases List.mem_cons.1 hq with rfl | hq
    · have hk := keeps [] List.not_mem_nil (by rwa [List.append_nil, ← stands_iff])
      rwa [q.below_nil] at hk
    · obtain ⟨rest, rfl, hk⟩ := mem_foldersBelow hq
      refine keeps rest (fun hm => ht.up_not_mem _ hk (List.mem_append_right _ hm)) fun hn => ?_
      exact (node?_eq_none_iff.1 hn).2 hk
  · obtain ⟨rest, rfl, hn, hup⟩ := hnews q hq
    exact select_below_filter_eq_nil ht hg hs hup hn hc

theorem keeps_wild (pattern : String) : Keeps t u (.wild pattern :: segments) p := by
  intro found more h h'
  obtain ⟨lists, hl, rfl⟩ := exists_of_select_wild h
  obtain ⟨lists', hl', rfl⟩ := exists_of_select_wild h'
  rw [resolve_congr hg.home_eq] at hl'
  obtain ⟨news, hf, hnews⟩ := hg.names_eq (t.resolve p)
  have hstood {name : String} (hm : name ∈ t.names (t.resolve p)) : t.node? (t.resolve p ++ [name]) ≠ none :=
    fun hn => (node?_eq_none_iff.1 hn).2 (mem_names hm)
  have hsame : (t.names (t.resolve p)).filter (fun name =>
        Glob.isMatch pattern.toList name.toList && (segments.isEmpty || u.isFolder (t.resolve p ++ [name]))) =
      (t.names (t.resolve p)).filter fun name =>
        Glob.isMatch pattern.toList name.toList && (segments.isEmpty || t.isFolder (t.resolve p ++ [name])) := by
    refine List.filter_congr fun name hm => ?_
    rw [isFolder, isFolder, decide_eq_decide.2 (hg.folder_iff (hstood hm))]
  rw [hf, List.filter_append, hsame] at hl'
  refine flatten_eq_filter_flatten hl hl' (fun name hm => ?_) fun name hm c hc => ?_
  · have hm := (List.mem_filter.1 hm).1
    exact keeps [name] (fun hup => ht.up_not_mem _ (mem_names hm) (List.mem_append_right _ hup)) (hstood hm)
  · obtain ⟨hn, hup⟩ := hnews name (List.mem_filter.1 hm).1
    exact select_below_filter_eq_nil ht hg hs (fun hm => hup (List.mem_singleton.1 hm).symm) hn hc

theorem keeps_exact (hr : t.IsReached p) {name : String} (hname : name ≠ "..") :
    Keeps t u (.exact name :: segments) p := by
  intro found more h h'
  have hup : ".." ∉ [name] := fun hm => hname (List.mem_singleton.1 hm).symm
  rcases select_exact_cases h with ⟨hnone, rfl⟩ | ⟨n, hn, h⟩
  · rcases select_exact_cases h' with ⟨-, rfl⟩ | ⟨m, hm, h'⟩
    · rfl
    · -- What is found now cannot have stood before, or it would have been found before in the same way.
      have hstands : t.node? (t.resolve p ++ [name]) = none := by
        refine Classical.not_not.1 fun hs => ?_
        rw [← resolve_below hup] at hs
        obtain ⟨n, hn⟩ := Option.ne_none_iff_exists'.1 hs
        have hl := (find_eq_ok_iff.1 hm).1
        rw [(hr.below hup).locate_eq ht hg (stands_iff.2 hs), resolve_congr hg.home_eq] at hl
        cases hnone.symm.trans (look_eq_some_iff.2 (find_eq_ok_iff.2 ⟨hl, hn⟩))
      split at h'
      · exact (select_below_filter_eq_nil ht hg hs hup hstands h').symm
      · cases h'
        rfl
  · obtain ⟨m, hm, hfolder⟩ := hg.exists_find hn
    have hstands : t.node? (t.resolve p ++ [name]) ≠ none := by
      rw [← resolve_below hup, (find_eq_ok_iff.1 hn).2]
      nofun
    rcases select_exact_cases h' with ⟨hnone, -⟩ | ⟨m', hm', h'⟩
    · cases hnone.symm.trans (look_eq_some_iff.2 hm)
    · cases hm.symm.trans hm'
      rw [decide_eq_decide.2 hfolder] at h'
      split at h
      · next hc =>
        rw [if_pos hc] at h'
        exact keeps [name] hup hstands _ _ h h'
      · next hc =>
        rw [if_neg hc] at h'
        cases h
        cases h'
        rfl

end Step

theorem keeps_of_isDown (ht : t.IsTree) (hg : Grows t u) (hs : ∀ s ∈ segments, s.IsDown) (hr : t.IsReached p)
    (hp : t.stands p = true) : Keeps t u segments p := by
  induction segments generalizing p with
  | nil =>
    intro found more h h'
    cases h
    cases h'
    rw [List.filter_cons_of_pos hp, List.filter_nil]
  | cons s segments ih =>
    obtain ⟨hdown, hrest⟩ := List.forall_mem_cons.1 hs
    have keeps (names : List String) (hup : ".." ∉ names) (hn : t.node? (t.resolve p ++ names) ≠ none) :
        Keeps t u segments (p.below names) :=
      ih hrest (hr.below hup) (stands_iff.2 (by rwa [resolve_below hup]))
    cases s with
    | up => exact hdown.elim
    | here => exact ih hrest hr hp
    | anyDepth => exact keeps_anyDepth ht hg hrest keeps hp
    | wild pattern => exact keeps_wild ht hg hrest keeps pattern
    | exact name => exact keeps_exact ht hg hrest keeps hr hdown

/-! Documents. -/

def hasFile (t : FileTree) (p : Path) : Bool :=
  match t.find p with
  | .ok (.file _) => true
  | _ => false

theorem hasFile_iff : t.hasFile p = true ↔ ∃ content, t.find p = .ok (.file content) := by
  unfold hasFile
  split
  · next content h => exact iff_of_true rfl ⟨content, h⟩
  · next h => exact iff_of_false Bool.false_ne_true fun ⟨content, hc⟩ => h content hc

theorem Grows.hasFile_eq (h : Grows t u) (hl : u.locate p = t.locate p) (hp : t.stands p = true) :
    u.hasFile p = t.hasFile p := by
  obtain ⟨n, hn⟩ := Option.ne_none_iff_exists'.1 (stands_iff.1 hp)
  have hf := h.folder_iff (stands_iff.1 hp)
  rw [Bool.eq_iff_iff, hasFile_iff, hasFile_iff]
  constructor
  · rintro ⟨content, hu⟩
    obtain ⟨hlu, hnu⟩ := find_eq_ok_iff.1 hu
    rw [resolve_congr h.home_eq] at hlu hnu
    cases n with
    | folder => cases (hf.2 hn).symm.trans hnu
    | file content => exact ⟨content, find_eq_ok_iff.2 ⟨hl ▸ hlu, hn⟩⟩
  · rintro ⟨content, ht⟩
    obtain ⟨m, hm, hi⟩ := h.exists_find ht
    cases m with
    | folder => cases hi.1 rfl
    | file content => exact ⟨content, hm⟩

theorem exists_select_of_search (h : t.search segments p = .ok found) :
    ∃ more, t.select (.anyDepth :: segments) p = .ok more ∧ found = more.filter t.hasFile := by
  obtain ⟨more, hm, h⟩ := exists_of_bind_eq_ok h
  refine ⟨more, hm, (eq_filter_of_filterM h).trans (List.filter_congr fun q _ => ?_)⟩
  rw [passes, look, hasFile]
  cases hf : t.find q with
  | ok n => cases n <;> rfl
  | error e => cases e <;> rfl

theorem search_eq (ht : t.IsTree) (hg : Grows t u) (hs : ∀ s ∈ segments, s.IsDown) (hp : t.find p = .ok .folder)
    {more : List Path} (h : t.search segments p = .ok found) (h' : u.search segments p = .ok more)
    (hold : ∀ q ∈ more, t.stands q = true) : found = more := by
  obtain ⟨hl, hn⟩ := find_eq_ok_iff.1 hp
  have hr : t.IsReached p := isReached_of_locate hl
  have hs : ∀ s ∈ .anyDepth :: segments, s.IsDown := List.forall_mem_cons.2 ⟨trivial, hs⟩
  obtain ⟨old, ho, rfl⟩ := exists_select_of_search h
  obtain ⟨all, ha, rfl⟩ := exists_select_of_search h'
  rw [keeps_of_isDown ht hg hs hr (stands_iff.2 (by simp [hn])) old all ho ha, List.filter_filter]
  refine List.filter_congr fun q hq => ?_
  cases hst : t.stands q with
  | true =>
    obtain ⟨names, hup, rfl⟩ := select_below (hg.up_not_mem ht.up_not_mem) hs ha q hq
    rw [Bool.and_true]
    exact (hg.hasFile_eq ((hr.below hup).locate_eq ht hg hst) hst).symm
  | false =>
    have hnone : ¬ u.hasFile q = true := fun hf =>
      Bool.false_ne_true (hst.symm.trans (hold q (List.mem_filter.2 ⟨hq, hf⟩)))
    rw [Bool.and_false, Bool.eq_false_iff.2 hnone]

theorem documentsAt_cases {suffix : Value} (h : t.documentsAt suffix p = .ok found) :
    (t.find p = .ok .folder ∧ ∃ segments, Segment.ofPattern? ('*' :: suffix.display.toList) = some segments ∧
        t.search segments p = .ok found) ∨
      (∃ content, t.find p = .ok (.file content)) ∧ found = [p] := by
  obtain ⟨n, hn, h⟩ := exists_of_bind_eq_ok h
  have hl := eq_ok_of_mapError_eq_ok hn
  cases n with
  | none => cases h
  | some n =>
    have hf := look_eq_some_iff.1 hl
    cases n with
    | folder =>
      change t.documentsBelow suffix p = .ok found at h
      unfold documentsBelow at h
      split at h
      · cases h
      · next segments hs => exact .inl ⟨hf, segments, hs, eq_ok_of_mapError_eq_ok h⟩
    | file content =>
      obtain ⟨-, -, h⟩ := exists_of_bind_eq_ok h
      cases h
      exact .inr ⟨⟨content, hf⟩, rfl⟩

section Discover

variable {suffix : Value} {inputs : List String} {paths more : List Path}

theorem exists_of_discover (h : t.discover suffix inputs = .ok paths) :
    ∃ lists, inputs.mapM (fun input => t.documentsAt suffix (.ofText input)) = .ok lists ∧
      paths = lists.flatten.eraseDups.mergeSort Path.before := by
  obtain ⟨lists, hl, h⟩ := exists_of_bind_eq_ok h
  cases h
  exact ⟨lists, hl, rfl⟩

theorem discover_of_mapM {lists : List (List Path)}
    (h : inputs.mapM (fun input => t.documentsAt suffix (.ofText input)) = .ok lists)
    (he : lists.flatten.eraseDups = paths) (hs : paths.Pairwise (Path.before · ·)) :
    t.discover suffix inputs = .ok paths := by
  rw [discover, h]
  change Except.ok (lists.flatten.eraseDups.mergeSort Path.before) = .ok paths
  rw [he, List.mergeSort_of_pairwise hs]

theorem hasFile_of_mem_discover (h : t.discover suffix inputs = .ok paths) (hp : p ∈ paths) : t.hasFile p = true := by
  obtain ⟨lists, hl, rfl⟩ := exists_of_discover h
  rw [List.mem_mergeSort, List.mem_eraseDups] at hp
  obtain ⟨list, hm, hp⟩ := List.mem_flatten.1 hp
  obtain ⟨input, -, hd⟩ := exists_of_mem_mapM hl hm
  rcases documentsAt_cases hd with ⟨-, segments, -, hs⟩ | ⟨hf, rfl⟩
  · obtain ⟨all, -, rfl⟩ := exists_select_of_search hs
    exact (List.mem_filter.1 hp).2
  · rw [List.mem_singleton.1 hp]
    exact hasFile_iff.2 hf

/-- In a grown tree the same documents are found, unless a new one is among them. -/
theorem discover_eq (ht : t.IsTree) (hg : Grows t u)
    (hs : ∀ segments, Segment.ofPattern? ('*' :: suffix.display.toList) = some segments → .up ∉ segments)
    (h : t.discover suffix inputs = .ok paths) (h' : u.discover suffix inputs = .ok more)
    (hold : ∀ p ∈ more, t.stands p = true) : paths = more := by
  obtain ⟨lists, hl, rfl⟩ := exists_of_discover h
  obtain ⟨lists', hl', rfl⟩ := exists_of_discover h'
  have hflat (list : List Path) (hm : list ∈ lists') : ∀ p ∈ list, t.stands p = true := fun p hp => by
    refine hold p ?_
    rw [List.mem_mergeSort, List.mem_eraseDups]
    exact List.mem_flatten.2 ⟨list, hm, hp⟩
  refine congrArg (fun ls : List (List Path) => ls.flatten.eraseDups.mergeSort Path.before) ?_
  refine eq_of_mapM_eq_ok hl hl' fun input found found' hf hf' hm => ?_
  rcases documentsAt_cases hf with ⟨hp, segments, hseg, hsearch⟩ | ⟨⟨content, hp⟩, rfl⟩
  · rcases documentsAt_cases hf' with ⟨-, segments', hseg', hsearch'⟩ | ⟨⟨content, hp'⟩, -⟩
    · cases hseg.symm.trans hseg'
      exact search_eq ht hg (Segment.isDown_of_ofPattern? hseg (hs _ hseg)) hp hsearch hsearch' (hflat found' hm)
    · obtain ⟨m, hm, hi⟩ := hg.exists_find hp
      cases hp'.symm.trans hm
      cases hi.2 rfl
  · rcases documentsAt_cases hf' with ⟨hp', -⟩ | ⟨-, rfl⟩
    · obtain ⟨m, hm, hi⟩ := hg.exists_find hp
      cases hp'.symm.trans hm
      cases hi.1 rfl
    · rfl

end Discover

end FileTree

end ModelForge
