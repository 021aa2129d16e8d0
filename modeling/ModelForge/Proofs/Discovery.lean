import Mathlib.Data.List.Lex
import Mathlib.Data.List.Sort
import Mathlib.Data.String.Basic
import ModelForge.Proofs.Endings
import ModelForge.Proofs.Reconciliation

/-! What is discovered: the files that are named, and the model documents at any depth below the folders that are named,
each once and in the order of paths. It depends on the set of what is named only, and not even on all of it: a folder or a
document below another named folder adds nothing. -/

namespace ModelForge

namespace Path

variable {p q : Path} {l m : List Path}

/-- No part holds a slash, as no part of a text and no name of a node does. -/
def IsProper (p : Path) : Prop := ∀ part ∈ p.parts, '/' ∉ part.toList

theorem isProper_ofText (s : String) : (ofText s).IsProper := by
  intro part hm
  obtain ⟨piece, hp, rfl⟩ := List.mem_map.1 hm
  rw [String.toList_ofList]
  exact Text.not_mem_of_mem_cutAt (List.mem_filter.1 hp).1

theorem IsProper.below (hp : p.IsProper) {names : List String} (h : ∀ name ∈ names, '/' ∉ name.toList) :
    (p.below names).IsProper := fun part hm => (List.mem_append.1 hm).elim (hp part) (h part)

theorem sortKey_ne (hp : p.IsProper) (h0 : p.slashes = 0) (hq : q.slashes ≠ 0) : p.sortKey ≠ q.sortKey := by
  intro h
  rw [sortKey, sortKey, if_pos h0, if_neg hq] at h
  refine hp (String.ofList (List.replicate q.slashes '/')) (h ▸ List.mem_cons_self) ?_
  rw [String.toList_ofList]
  exact List.mem_replicate.2 ⟨hq, rfl⟩

theorem IsProper.eq_of_sortKey (hp : p.IsProper) (hq : q.IsProper) (h : p.sortKey = q.sortKey) : p = q := by
  obtain ⟨i, ps⟩ := p
  obtain ⟨j, qs⟩ := q
  by_cases hi : i = 0
  · by_cases hj : j = 0
    · subst hi hj
      exact congrArg (Path.mk 0) h
    · exact absurd h (sortKey_ne hp hi hj)
  · by_cases hj : j = 0
    · exact absurd h.symm (sortKey_ne hq hj hi)
    · rw [sortKey, sortKey, if_neg hi, if_neg hj] at h
      obtain ⟨hs, rfl⟩ := List.cons.inj h
      have hl := congrArg (fun s : String => s.toList.length) hs
      simp only [String.toList_ofList, List.length_replicate] at hl
      rw [hl]

theorem before_iff : p.before q = true ↔ p.sortKey ≤ q.sortKey := by
  rw [before, Bool.not_eq_true', decide_eq_false_iff_not, not_lt]

theorem pairwise_lt_mergeSort (hl : ∀ p ∈ l, p.IsProper) :
    (l.eraseDups.mergeSort before).Pairwise (·.sortKey < ·.sortKey) := by
  have hbefore : (l.eraseDups.mergeSort before).Pairwise fun p q => p.before q = true := by
    refine List.pairwise_mergeSort (fun p q r hpq hqr => ?_) (fun p q => ?_) _
    · exact before_iff.2 ((before_iff.1 hpq).trans (before_iff.1 hqr))
    · rw [Bool.or_eq_true, before_iff, before_iff]
      exact le_total _ _
  have hnodup : (l.eraseDups.mergeSort before).Nodup := (List.mergeSort_perm ..).nodup_iff.2 (nodup_eraseDups _)
  have hproper (p : Path) (hm : p ∈ l.eraseDups.mergeSort before) : p.IsProper := by
    rw [List.mem_mergeSort, List.mem_eraseDups] at hm
    exact hl p hm
  refine (hbefore.and hnodup).imp_of_mem fun hp hq h => ?_
  exact lt_of_le_of_ne (before_iff.1 h.1) fun he => h.2 ((hproper _ hp).eq_of_sortKey (hproper _ hq) he)

theorem eq_of_pairwise_lt (hl : l.Pairwise (·.sortKey < ·.sortKey)) (hm : m.Pairwise (·.sortKey < ·.sortKey))
    (h : ∀ q, q ∈ l ↔ q ∈ m) : l = m := by
  have hnodup {k : List Path} (hk : k.Pairwise (·.sortKey < ·.sortKey)) : k.Nodup := by
    refine hk.imp ?_
    rintro p q hlt rfl
    exact lt_irrefl _ hlt
  refine List.Perm.eq_of_pairwise (fun p q _ _ hpq hqp => absurd hqp (lt_asymm hpq)) hl hm ?_
  exact (List.perm_ext_iff_of_nodup (hnodup hl) (hnodup hm)).2 h

end Path

namespace FileTree

variable {t : FileTree} {p q r : Path} {inputs more : List String} {found files : List Path}

def IsModel (name : String) : Prop := documentSuffix.toList <:+ name.toList

instance : DecidablePred IsModel := fun _ => inferInstanceAs (Decidable (_ <:+ _))

theorem isModel_eq_takes : IsModel = fun name => takes documentSuffix name = true := by
  have hplain : Glob.IsPlain documentSuffix.toList := Glob.isPlain_of_forall (by simp [documentSuffix])
  funext name
  exact propext ((isPlain_iff_takes.1 hplain).2 name).symm

/-- What is found at a path: the file that it leads to, or the model documents below the folder that it leads to. -/
def IsDocument (t : FileTree) (p q : Path) : Prop :=
  (∃ content, t.find p = .ok (.file content)) ∧ q = p ∨ t.find p = .ok .folder ∧ t.IsFileBelow IsModel p q

/-- Something stands at the path, and if it is a folder, then all of it that is looked at can be reached. -/
def IsReadable (t : FileTree) (p : Path) : Prop := ∃ n, t.find p = .ok n ∧ (n = .folder → t.InReach IsModel p)

theorem isReadable_of_file {content : ByteArray} (h : t.find p = .ok (.file content)) : t.IsReadable p := ⟨_, h, by simp⟩

theorem IsDocument.isProper (ht : t.IsWellFormed) (hp : p.IsProper) (h : t.IsDocument p q) : q.IsProper := by
  rcases h with ⟨-, rfl⟩ | ⟨-, names, content, rfl, hn, -⟩
  · exact hp
  · have hne : t.node? (t.resolve p ++ names) ≠ none := by simp [hn]
    exact hp.below fun name hm => (ht.isNodeName_below hne name hm).2.1

inductive Reads (t : FileTree) (p : Path) : Except DiscoveryError (List Path) → Prop
  | documents {found : List Path} (h : t.IsReadable p) (hm : ∀ q, q ∈ found ↔ t.IsDocument p q) : Reads t p (.ok found)
  | missing (h : t.look p = .ok none) : Reads t p (.error (.notFound p))
  | outOfReach (q : Path) (h : t.look p ≠ .ok none) (hr : ¬ t.IsReadable p) :
    Reads t p (.error (.fault ⟨.nameTooLong, q⟩))

theorem reads_documentsAt (ht : t.IsWellFormed) (p : Path) : t.Reads p (t.documentsAt (.text documentSuffix) p) := by
  cases hl : t.look p with
  | error f =>
    obtain rfl := look_eq_error hl
    rw [documentsAt, hl]
    refine .outOfReach p (by simp [hl]) ?_
    rintro ⟨n, hn, -⟩
    cases hl.symm.trans (look_eq_some_iff.2 hn)
  | ok n =>
    cases n with
    | none =>
      rw [documentsAt, hl]
      exact .missing hl
    | some n =>
      have hf := look_eq_some_iff.1 hl
      cases n with
      | file content =>
        rw [documentsAt, hl]
        refine .documents (isReadable_of_file hf) fun q => ?_
        rw [List.mem_singleton, IsDocument, hf]
        simp
      | folder =>
        have hfinds : t.Finds p documentSuffix (t.documentsBelow (.text documentSuffix) p) :=
          finds_documentsBelow ht hf (by decide)
        have hreadable : t.IsReadable p ↔ t.InReach IsModel p := by
          rw [IsReadable, hf]
          simp
        rw [documentsAt_of_folder hf]
        generalize t.documentsBelow (.text documentSuffix) p = found at hfinds
        cases hfinds with
        | refused h => cases h
        | found _ hr hm =>
          rw [← isModel_eq_takes] at hr hm
          refine .documents (hreadable.2 hr) fun q => (hm q).trans ?_
          rw [IsDocument, hf]
          simp
        | outOfReach q _ hr =>
          rw [← isModel_eq_takes] at hr
          exact .outOfReach q (by simp [hl]) (mt hreadable.1 hr)

theorem reads_of_documentsAt_eq (ht : t.IsWellFormed) {e : Except DiscoveryError (List Path)}
    (h : t.documentsAt (.text documentSuffix) p = e) : t.Reads p e := h ▸ reads_documentsAt ht p

inductive Discovers (t : FileTree) (inputs : List String) : Except DiscoveryError (List Path) → Prop
  | documents {files : List Path} (h : ∀ input ∈ inputs, t.IsReadable (.ofText input))
    (hs : files.Pairwise (·.sortKey < ·.sortKey)) (hm : ∀ q, q ∈ files ↔ ∃ input ∈ inputs, t.IsDocument (.ofText input) q) :
    Discovers t inputs (.ok files)
  | missing (before : List String) (input : String) (rest : List String) (h : inputs = before ++ input :: rest)
    (hbefore : ∀ input ∈ before, t.IsReadable (.ofText input)) (hl : t.look (.ofText input) = .ok none) :
    Discovers t inputs (.error (.notFound (.ofText input)))
  | outOfReach (before : List String) (input : String) (rest : List String) (q : Path) (h : inputs = before ++ input :: rest)
    (hbefore : ∀ input ∈ before, t.IsReadable (.ofText input)) (hl : t.look (.ofText input) ≠ .ok none)
    (hr : ¬ t.IsReadable (.ofText input)) : Discovers t inputs (.error (.fault ⟨.nameTooLong, q⟩))

theorem discovers_default (ht : t.IsWellFormed) (inputs : List String) :
    t.Discovers inputs (t.discover (.text documentSuffix) inputs) := by
  let documents (input : String) := t.documentsAt (.text documentSuffix) (.ofText input)
  have hreadable {input : String} {found : List Path} (h : documents input = .ok found) :
      t.IsReadable (.ofText input) ∧ ∀ q, q ∈ found ↔ t.IsDocument (.ofText input) q := by
    cases reads_of_documentsAt_eq ht h with
    | documents h hm => exact ⟨h, hm⟩
  rcases mapM_cases documents inputs with ⟨lists, hlists, hall⟩ | ⟨before, input, rest, e, hsplit, hbefore, he, hfails⟩
  · have hfiles : t.discover (.text documentSuffix) inputs = .ok (lists.flatten.eraseDups.mergeSort Path.before) := by
      rw [discover, hlists]
      rfl
    have hm (q : Path) : q ∈ lists.flatten ↔ ∃ input ∈ inputs, t.IsDocument (.ofText input) q := by
      rw [List.mem_flatten]
      constructor
      · rintro ⟨list, hlist, hq⟩
        obtain ⟨input, hi, hd⟩ := exists_of_mem_mapM hlists hlist
        exact ⟨input, hi, ((hreadable hd).2 q).1 hq⟩
      · rintro ⟨input, hi, hq⟩
        obtain ⟨list, hlist, hd⟩ := hall input hi
        exact ⟨list, hlist, ((hreadable hd).2 q).2 hq⟩
    rw [hfiles]
    refine .documents (fun input hi => ?_) (Path.pairwise_lt_mergeSort fun q hq => ?_) fun q => ?_
    · obtain ⟨list, -, hd⟩ := hall input hi
      exact (hreadable hd).1
    · obtain ⟨input, -, hd⟩ := (hm q).1 hq
      exact hd.isProper ht (Path.isProper_ofText input)
    · rw [List.mem_mergeSort, List.mem_eraseDups, hm]
  · have hbefore (x : String) (hx : x ∈ before) : t.IsReadable (.ofText x) := by
      obtain ⟨list, hd⟩ := hbefore x hx
      exact (hreadable hd).1
    have hdiscover : t.discover (.text documentSuffix) inputs = .error e := by
      rw [discover, hfails]
      rfl
    rw [hdiscover]
    cases reads_of_documentsAt_eq ht he with
    | missing h => exact .missing before input rest hsplit hbefore h
    | outOfReach q h hr => exact .outOfReach before input rest q hsplit hbefore h hr

theorem Discovers.exists_eq_ok {e : Except DiscoveryError (List Path)} (hd : t.Discovers inputs e)
    (hall : ∀ input ∈ inputs, t.IsReadable (.ofText input)) :
    ∃ files, e = .ok files ∧ files.Pairwise (·.sortKey < ·.sortKey) ∧
      ∀ q, q ∈ files ↔ ∃ input ∈ inputs, t.IsDocument (.ofText input) q := by
  cases hd with
  | documents _ hs hm => exact ⟨_, rfl, hs, hm⟩
  | missing before input rest h _ hl =>
    obtain ⟨n, hn, -⟩ := hall input (h ▸ List.mem_append_right before List.mem_cons_self)
    cases hl.symm.trans (look_eq_some_iff.2 hn)
  | outOfReach before input rest q h _ _ hr =>
    exact absurd (hall input (h ▸ List.mem_append_right before List.mem_cons_self)) hr

/-- What is found depends on nothing but that all paths are readable and which documents there are. -/
theorem discover_eq_ok_iff (ht : t.IsWellFormed) : t.discover (.text documentSuffix) inputs = .ok files ↔
    (∀ input ∈ inputs, t.IsReadable (.ofText input)) ∧ files.Pairwise (·.sortKey < ·.sortKey) ∧
      ∀ q, q ∈ files ↔ ∃ input ∈ inputs, t.IsDocument (.ofText input) q := by
  have hd := discovers_default ht inputs
  constructor
  · intro h
    rw [h] at hd
    cases hd with
    | documents h hs hm => exact ⟨h, hs, hm⟩
  · rintro ⟨hall, hs, hm⟩
    obtain ⟨files', he, hs', hm'⟩ := hd.exists_eq_ok hall
    rw [he, Path.eq_of_pairwise_lt hs hs' fun q => (hm q).trans (hm' q).symm]

/-- The second path goes on by names below the folder of the first one, to a folder or to a model document. -/
def IsInside (t : FileTree) (p q : Path) : Prop :=
  t.find p = .ok .folder ∧ ∃ names, ".." ∉ names ∧ q = p.below names ∧
    (t.find q = .ok .folder ∨ (∃ content, t.find q = .ok (.file content)) ∧ IsModel q.name)

theorem IsInside.isReadable (h : t.IsInside p q) (hp : t.IsReadable p) : t.IsReadable q := by
  obtain ⟨hfolder, names, hup, rfl, hq⟩ := h
  obtain ⟨n, hn, hreach⟩ := hp
  cases hfolder.symm.trans hn
  rcases hq with hq | ⟨⟨content, hq⟩, -⟩
  · refine ⟨_, hq, fun _ rest n hn => ?_⟩
    rw [resolve_below hup, List.append_assoc] at hn
    rw [Path.below_below]
    exact hreach rfl _ n hn
  · exact isReadable_of_file hq

theorem IsInside.isDocument (h : t.IsInside p q) (hr : t.IsDocument q r) : t.IsDocument p r := by
  obtain ⟨hfolder, names, hup, rfl, hq⟩ := h
  refine .inr ⟨hfolder, ?_⟩
  rcases hr with ⟨⟨content, hc⟩, rfl⟩ | ⟨-, rest, content, rfl, hn, hname⟩
  · obtain ⟨-, hmodel⟩ := hq.resolve_left (by simp [hc])
    have hn := (find_eq_ok_iff.1 hc).2
    rw [resolve_below hup] at hn
    exact ⟨names, content, rfl, hn, hmodel⟩
  · rw [resolve_below hup, List.append_assoc] at hn
    exact ⟨names ++ rest, content, Path.below_below p names rest, hn, hname⟩

/-- The same paths, in any order and any number of times, and besides only what is inside a folder among them. -/
structure Covers (t : FileTree) (inputs more : List String) : Prop where
  subset : inputs ⊆ more
  inside : ∀ x ∈ more, x ∈ inputs ∨ ∃ y ∈ inputs, t.IsInside (.ofText y) (.ofText x)

namespace Covers

variable (h : t.Covers inputs more)

include h

theorem forall_isReadable_iff :
    (∀ input ∈ more, t.IsReadable (.ofText input)) ↔ ∀ input ∈ inputs, t.IsReadable (.ofText input) := by
  refine ⟨fun hall input hi => hall input (h.subset hi), fun hall x hx => ?_⟩
  rcases h.inside x hx with hi | ⟨y, hy, hinside⟩
  · exact hall x hi
  · exact hinside.isReadable (hall y hy)

theorem exists_isDocument_iff (q : Path) :
    (∃ input ∈ more, t.IsDocument (.ofText input) q) ↔ ∃ input ∈ inputs, t.IsDocument (.ofText input) q := by
  constructor
  · rintro ⟨x, hx, hd⟩
    rcases h.inside x hx with hi | ⟨y, hy, hinside⟩
    · exact ⟨x, hi, hd⟩
    · exact ⟨y, hy, hinside.isDocument hd⟩
  · rintro ⟨x, hx, hd⟩
    exact ⟨x, h.subset hx, hd⟩

end Covers

/-- Documents are found where all paths are readable, and then exactly, whatever else inside the folders is named as well.
The first path that is not readable decides how it fails otherwise. -/
theorem discovers_discover (ht : t.IsWellFormed) (inputs : List String) :
    t.Discovers inputs (t.discover (.text documentSuffix) inputs) ∧
      ∀ more, t.Covers inputs more → ∀ files, t.discover (.text documentSuffix) more = .ok files ↔
        t.discover (.text documentSuffix) inputs = .ok files := by
  refine ⟨discovers_default ht inputs, fun more h files => ?_⟩
  rw [discover_eq_ok_iff ht, discover_eq_ok_iff ht, h.forall_isReadable_iff]
  simp only [h.exists_isDocument_iff]

/-- A folder, and with it a folder and a document inside it. -/
theorem discovers_discover_inside :
    let t : FileTree := ⟨["w"], [(["w"], .folder), (["w", "c.txt"], .file .empty), (["w", "a"], .folder),
      (["w", "a", "b"], .folder), (["w", "a", "b", "n.txt"], .file .empty), (["w", "a", "b", "y.model.xml"], .file .empty)]⟩
    t.IsWellFormed ∧ t.Covers ["c.txt", "a"] ["a", "a/b", "c.txt", "a/b/y.model.xml", "a"] ∧
      ∃ files, t.discover (.text documentSuffix) ["a", "a/b", "c.txt", "a/b/y.model.xml", "a"] = .ok files ∧
        .ofText "c.txt" ∈ files ∧ .ofText "a/b/y.model.xml" ∈ files ∧ .ofText "a/b/n.txt" ∉ files := by
  intro t
  have ht : t.IsWellFormed := by decide +kernel
  have hfolder : t.find (.ofText "a") = .ok .folder := rfl
  have hall : ∀ input ∈ ["c.txt", "a"], t.IsReadable (.ofText input) :=
    List.forall_mem_cons.2 ⟨isReadable_of_file rfl, List.forall_mem_singleton.2
      ⟨_, hfolder, fun _ => inReach_of_forall hfolder (by decide +kernel) _⟩⟩
  have hcovers : t.Covers ["c.txt", "a"] ["a", "a/b", "c.txt", "a/b/y.model.xml", "a"] := by
    refine ⟨by decide, ?_⟩
    simp only [List.forall_mem_cons, List.not_mem_nil, false_implies, implies_true, and_true]
    refine ⟨.inl (by decide), .inr ⟨"a", by decide, hfolder, ["b"], by decide, rfl, .inl rfl⟩, .inl (by decide),
      .inr ⟨"a", by decide, hfolder, ["b", "y.model.xml"], by decide, rfl, .inr ⟨⟨_, rfl⟩, by decide⟩⟩, .inl (by decide)⟩
  obtain ⟨hdiscovers, hsame⟩ := discovers_discover ht ["c.txt", "a"]
  obtain ⟨files, he, -, hm⟩ := hdiscovers.exists_eq_ok hall
  refine ⟨ht, hcovers, files, (hsame _ hcovers files).2 he, (hm _).2 ⟨"c.txt", by decide, .inl ⟨⟨_, rfl⟩, rfl⟩⟩,
    (hm _).2 ⟨"a", by decide, .inr ⟨hfolder, ["b", "y.model.xml"], .empty, rfl, rfl, by decide⟩⟩, fun h => ?_⟩
  obtain ⟨input, hi, ⟨-, he⟩ | ⟨-, names, content, -, -, hmodel⟩⟩ := (hm _).1 h
  · revert hi he
    simp only [List.mem_cons, List.not_mem_nil, or_false]
    rintro (rfl | rfl) <;> decide
  · revert hmodel
    decide

theorem discover_of_long_name {name : String} (hn : t.node? t.home = some .folder) (hpath : .ofText name = Path.mk 0 [name])
    (hz : '\x00' ∉ name.toList) (hl : longestName < name.utf8ByteSize) (suffix : Value) :
    (∀ n, t.find (.ofText name) ≠ .ok n) ∧ t.discover suffix [name] = .error (.fault ⟨.nameTooLong, .ofText name⟩) := by
  have hnull : ¬ ([name].any (·.toList.contains '\x00')) = true := by simpa using hz
  have hup : name ≠ ".." := fun he => absurd (he ▸ hl) (by decide)
  have hs : t.step t.home name = .error .nameTooLong := by simp only [step, hn, if_neg hup, if_pos hl]
  have hfind : t.find (.ofText name) = .error .nameTooLong := by
    rw [hpath, find, locate, if_neg hnull]
    split
    · rfl
    · rw [List.foldlM_cons, start, if_pos rfl, hs]
      rfl
  refine ⟨by simp [hfind], ?_⟩
  rw [discover_singleton, documentsAt, look, hfind]
  rfl

theorem discover_name_too_long :
    let t : FileTree := ⟨["w"], [(["w"], .folder)]⟩
    let input := String.ofList (List.replicate 256 'n')
    t.IsWellFormed ∧ (∀ n, t.find (.ofText input) ≠ .ok n) ∧
      t.discover (.text documentSuffix) [input] = .error (.fault ⟨.nameTooLong, .ofText input⟩) := by
  intro t input
  have ht : t.IsWellFormed := by decide +kernel
  have hpath : Path.ofText input = ⟨0, [input]⟩ := by
    rw [Path.ofText, Path.partsOf, String.toList_ofList]
    decide +kernel
  have hz : '\x00' ∉ input.toList := by
    rw [String.toList_ofList]
    decide
  have hl : longestName < input.utf8ByteSize := by
    rw [String.utf8ByteSize_ofList]
    decide +kernel
  exact ⟨ht, discover_of_long_name rfl hpath hz hl _⟩

end FileTree

end ModelForge
