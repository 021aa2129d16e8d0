import Mathlib.Data.List.Sort
import ModelForge.Proofs.FileTree.Reaching
import ModelForge.Proofs.Patterns

/-! The ending of documents in a search. It is read as the end of a pattern, so that it is taken literally just if each of
its characters stands for itself. -/

namespace ModelForge

namespace Segment

variable {s : List Char}

theorem hasStarPair_of_not_mem (h : '*' ∉ s) : hasStarPair s = false := by
  induction s with
  | nil => rfl
  | cons c s ih =>
    obtain ⟨hc, hs⟩ := not_or.1 (mt List.mem_cons.2 h)
    rw [hasStarPair]
    · exact ih hs
    · rintro rest he -
      exact hc he.symm

theorem hasStarPair_star (h : '*' ∉ s) : hasStarPair ('*' :: s) = false := by
  cases s with
  | nil => rfl
  | cons c s =>
    rw [hasStarPair]
    · exact hasStarPair_of_not_mem h
    · rintro rest - he
      exact h ((List.cons.inj he).1 ▸ List.mem_cons_self)

theorem ofPattern?_star (h : '/' ∉ s) : ofPattern? ('*' :: s) = (ofText? ('*' :: s)).map fun segment => [segment] := by
  have hs : '/' ∉ '*' :: s := by simpa using h
  have hparts : Path.partsOf ('*' :: s) = [String.ofList ('*' :: s)] := by
    rw [Path.partsOf, Text.cutAt_of_not_mem hs]
    rfl
  have hlast : ('*' :: s).getLast? ≠ some '/' := fun hl => hs (List.mem_of_getLast? hl)
  rw [ofPattern?, hparts, if_neg hlast]
  cases ht : ofText? ('*' :: s) with
  | none => simp [ht]
  | some segment => simp [ht]

end Segment

/-- The ending cannot be made into a pattern, because two stars come together beside something else. -/
def isRefused (suffix : String) : Bool := suffix ≠ "*" && Segment.hasStarPair ('*' :: suffix.toList)

/-- The name is one that the ending stands for at the end of a pattern; two stars alone stand for folders. -/
def takes (suffix name : String) : Bool := suffix ≠ "*" && Glob.isMatch ('*' :: suffix.toList) name.toList

theorem isPlain_iff_takes {suffix : String} : Glob.IsPlain suffix.toList ↔
    isRefused suffix = false ∧ ∀ name, takes suffix name = true ↔ suffix.toList <:+ name.toList := by
  by_cases hs : suffix = "*"
  · subst hs
    refine iff_of_false (fun h => h.star_not_mem (by decide)) fun h => ?_
    cases (h.2 "*").2 (List.suffix_refl _)
  · have htakes (name : String) : takes suffix name = Glob.isMatch ('*' :: suffix.toList) name.toList := by simp [takes, hs]
    have hrefused : isRefused suffix = Segment.hasStarPair ('*' :: suffix.toList) := by simp [isRefused, hs]
    simp only [htakes, hrefused]
    constructor
    · intro h
      exact ⟨Segment.hasStarPair_star h.star_not_mem, fun name => h.isMatch_iff⟩
    · rintro ⟨-, h⟩
      refine Glob.isPlain_iff.2 fun name => ?_
      simpa using h (String.ofList name)

namespace Path

theorem name_below_concat (p : Path) (names : List String) (name : String) : (p.below (names ++ [name])).name = name := by
  simp [below, Path.name, ← List.append_assoc]

end Path

namespace FileTree

variable {t : FileTree} {p : Path} {segments : List Segment} {suffix : String}

/-- What can come of looking below a folder for files with an ending. -/
inductive Finds (t : FileTree) (p : Path) (suffix : String) : Except DiscoveryError (List Path) → Prop
  | refused (h : isRefused suffix = true) : Finds t p suffix (.error .badPattern)
  | found {files : List Path} (h : isRefused suffix = false) (hr : t.InReach (takes suffix · = true) p)
    (hm : ∀ q, q ∈ files ↔ t.IsFileBelow (takes suffix · = true) p q) : Finds t p suffix (.ok files)
  | outOfReach (q : Path) (h : isRefused suffix = false) (hr : ¬ t.InReach (takes suffix · = true) p) :
    Finds t p suffix (.error (.fault ⟨.nameTooLong, q⟩))

theorem Finds.map {r : Except DiscoveryError (List Path)} (h : t.Finds p suffix r) {f : List Path → List Path}
    (hf : ∀ l q, q ∈ f l ↔ q ∈ l) : t.Finds p suffix (r.map f) := by
  cases h with
  | refused h => exact .refused h
  | found h hr hm => exact .found h hr fun q => (hf _ q).trans (hm q)
  | outOfReach q h hr => exact .outOfReach q h hr

theorem search_of_select_error {f : FileFault} (h : t.select (.anyDepth :: segments) p = .error f) :
    t.search segments p = .error f := by
  rw [search, h]
  rfl

section Search

variable (ht : t.IsWellFormed) (hp : t.find p = .ok .folder)

include ht hp

theorem search_wild (pattern : String) :
    let fits : String → Prop := fun name => Glob.isMatch pattern.toList name.toList = true
    t.InReach fits p ∧ (∃ found, t.search [.wild pattern] p = .ok found ∧ ∀ q, q ∈ found ↔ t.IsFileBelow fits p q) ∨
      ¬ t.InReach fits p ∧ ∃ q, t.search [.wild pattern] p = .error ⟨.nameTooLong, q⟩ := by
  intro fits
  have hne {names : List String} (hf : t.node? (t.resolve p ++ names) = some .folder) :
      t.node? (t.resolve p ++ names) ≠ none := by simp [hf]
  have hlong (names : List String) (hf : t.node? (t.resolve p ++ names) = some .folder) (hs : ¬ (p.below names).IsShort) :
      t.select [.wild pattern] (p.below names) = .error ⟨.nameTooLong, p.below names⟩ := by
    simp only [select, (located_below ht hp (hne hf)).2 hs, bind, Except.bind]
  rcases select_anyDepth_cases ht hp (fun names hf => select_wild_below ht hp (hne hf)) hlong with
    ⟨all, hall, hfolders, hmem⟩ | ⟨names, hf, hs, he⟩
  · refine search_exact ht hp hall hfolders (fun q hq => ?_) fun names n hn hnf hfit => ?_
    · obtain ⟨names, -, name, rfl, hn, hm⟩ := (hmem q).1 hq
      obtain ⟨n, hn⟩ := Option.ne_none_iff_exists'.1 hn
      refine ⟨_, n, rfl, hn, .inr ?_⟩
      rwa [Path.name_below_concat]
    · rcases List.eq_nil_or_concat' names with rfl | ⟨front, name, rfl⟩
      · rw [List.append_nil, (find_eq_ok_iff.1 hp).2] at hn
        exact absurd (Option.some.inj hn).symm hnf
      · have hsome : t.node? (t.resolve p ++ (front ++ [name])) ≠ none := by simp [hn]
        have hfront : t.node? (t.resolve p ++ front) = some .folder := by
          rw [← List.append_assoc] at hsome
          exact ht.folder_of_concat hsome
        rw [Path.name_below_concat] at hfit
        exact (hmem _).2 ⟨front, hfront, name, rfl, hsome, hfit⟩
  · exact .inr ⟨fun hreach => hs (hreach names _ hf (.inl rfl)), _, search_of_select_error he⟩

theorem search_anyDepth :
    t.InReach (fun _ => False) p ∧ (∃ found, t.search [.anyDepth] p = .ok found ∧
        ∀ q, q ∈ found ↔ t.IsFileBelow (fun _ => False) p q) ∨
      ¬ t.InReach (fun _ => False) p ∧ ∃ q, t.search [.anyDepth] p = .error ⟨.nameTooLong, q⟩ := by
  have hlong (names : List String) (hf : t.node? (t.resolve p ++ names) = some .folder) (hs : ¬ (p.below names).IsShort) :
      t.select [.anyDepth] (p.below names) = .error ⟨.nameTooLong, p.below names⟩ := by
    have hne : t.node? (t.resolve p ++ names) ≠ none := by simp [hf]
    simp only [select, (located_below ht hp hne).2 hs, bind, Except.bind]
  rcases select_anyDepth_cases ht hp (fun names hf => select_anyDepth_below ht hp hf) hlong with
    ⟨all, hall, hfolders, hmem⟩ | ⟨names, hf, hs, he⟩
  · refine search_exact ht hp hall hfolders (fun q hq => ?_) fun _ _ _ _ hfit => hfit.elim
    obtain ⟨names, -, more, rfl, hn⟩ := (hmem q).1 hq
    exact ⟨_, _, rfl, hn, .inl rfl⟩
  · exact .inr ⟨fun hreach => hs (hreach names _ hf (.inl rfl)), _, search_of_select_error he⟩

theorem finds_documentsBelow (hs : '/' ∉ suffix.toList) : t.Finds p suffix (t.documentsBelow (.text suffix) p) := by
  have hbelow (segments : List Segment) (h : Segment.ofPattern? ('*' :: suffix.toList) = some segments) :
      t.documentsBelow (.text suffix) p = (t.search segments p).mapError .fault := by
    rw [documentsBelow, Value.display_text, h]
  by_cases hstar : suffix = "*"
  · subst hstar
    have htakes : (fun _ => False) = fun name => takes "*" name = true := by
      funext name
      simp [takes]
    have hsearch := search_anyDepth ht hp
    rw [htakes] at hsearch
    rw [hbelow [.anyDepth] (by decide +kernel)]
    rcases hsearch with ⟨hr, found, hf, hmem⟩ | ⟨hr, q, hf⟩
    · rw [hf]
      exact .found rfl hr hmem
    · rw [hf]
      exact .outOfReach q rfl hr
  · have hne : '*' :: suffix.toList ≠ ['*', '*'] := fun he => hstar (by
      rw [← String.toList_inj, (List.cons.inj he).2]
      rfl)
    cases hpair : Segment.hasStarPair ('*' :: suffix.toList) with
    | true =>
      have htext : Segment.ofText? ('*' :: suffix.toList) = none := by simp [Segment.ofText?, hne, hpair]
      rw [documentsBelow, Value.display_text, Segment.ofPattern?_star hs, htext]
      exact .refused (by simp [isRefused, hstar, hpair])
    | false =>
      let pattern := String.ofList ('*' :: suffix.toList)
      have htext : Segment.ofText? ('*' :: suffix.toList) = some (.wild pattern) := by
        simp [Segment.ofText?, hne, hpair, Glob.isWild, pattern]
      have htakes : (fun name : String => Glob.isMatch pattern.toList name.toList = true) =
          fun name => takes suffix name = true := by
        funext name
        simp [takes, hstar, pattern]
      have hsearch := search_wild ht hp pattern
      dsimp only at hsearch
      rw [htakes] at hsearch
      rw [hbelow [.wild pattern] (by rw [Segment.ofPattern?_star hs, htext]; rfl)]
      have hrefused : isRefused suffix = false := by simp [isRefused, hpair]
      rcases hsearch with ⟨hr, found, hf, hmem⟩ | ⟨hr, q, hf⟩
      · rw [hf]
        exact .found hrefused hr hmem
      · rw [hf]
        exact .outOfReach q hrefused hr

end Search

/-! What a folder gives. -/

theorem documentsAt_of_folder (h : t.find p = .ok .folder) (suffix : Value) :
    t.documentsAt suffix p = t.documentsBelow suffix p := by
  rw [documentsAt, look_eq_some_iff.2 h]
  rfl

theorem discover_singleton (suffix : Value) (input : String) : t.discover suffix [input] =
    (t.documentsAt suffix (.ofText input)).map fun found => found.eraseDups.mergeSort Path.before := by
  rw [discover, List.mapM_cons, List.mapM_nil]
  cases t.documentsAt suffix (.ofText input) with
  | ok found => simp [bind, Except.bind, pure, Except.pure, Except.map]
  | error e => rfl

/-- Below a folder the files are found whose name the ending takes as the end of a pattern. These are the files with that
ending just if the ending is plain. -/
theorem finds_discover (ht : t.IsWellFormed) {input : String} (hp : t.find (.ofText input) = .ok .folder)
    (hs : '/' ∉ suffix.toList) :
    t.Finds (.ofText input) suffix (t.discover (.text suffix) [input]) ∧
      (Glob.IsPlain suffix.toList ↔
        isRefused suffix = false ∧ ∀ name, takes suffix name = true ↔ suffix.toList <:+ name.toList) ∧
      (Glob.IsPlain suffix.toList → t.InReach (fun name => suffix.toList <:+ name.toList) (.ofText input) →
        ∃ files, t.discover (.text suffix) [input] = .ok files ∧
          ∀ q, q ∈ files ↔ t.IsFileBelow (fun name => suffix.toList <:+ name.toList) (.ofText input) q) := by
  have hfinds : t.Finds (.ofText input) suffix (t.discover (.text suffix) [input]) := by
    rw [discover_singleton, documentsAt_of_folder hp]
    exact (finds_documentsBelow ht hp hs).map fun l q => by rw [List.mem_mergeSort, List.mem_eraseDups]
  refine ⟨hfinds, isPlain_iff_takes, fun hplain hreach => ?_⟩
  obtain ⟨hrefused, htakes⟩ := isPlain_iff_takes.1 hplain
  have he : (fun name : String => suffix.toList <:+ name.toList) = fun name => takes suffix name = true :=
    funext fun name => propext (htakes name).symm
  rw [he] at hreach ⊢
  generalize t.discover (.text suffix) [input] = r at hfinds
  cases hfinds with
  | refused h => cases hrefused.symm.trans h
  | found _ _ hm => exact ⟨_, rfl, hm⟩
  | outOfReach q _ hr => exact absurd hreach hr

/-- The bracket is not closed, so that it stands for itself; a folder with the ending is not found. -/
theorem finds_discover_bracket :
    let t : FileTree := ⟨["w"], [(["w"], .folder), (["w", "a"], .folder), (["w", "a", "b.[x"], .file .empty),
      (["w", "a", "bx"], .file .empty), (["w", "a", "c.[x"], .folder), (["w", "a", "c.[x", "d[x"], .file .empty)]⟩
    t.IsWellFormed ∧ t.find (.ofText "a") = .ok .folder ∧ '/' ∉ "[x".toList ∧ Glob.IsPlain "[x".toList ∧
      ∃ files, t.discover (.text "[x") ["a"] = .ok files ∧ (.ofText "a/c.[x/d[x") ∈ files ∧ .ofText "a/bx" ∉ files ∧
        .ofText "a/c.[x" ∉ files := by
  intro t
  have ht : t.IsWellFormed := by decide +kernel
  have hp : t.find (.ofText "a") = .ok .folder := rfl
  have hs : '/' ∉ "[x".toList := by decide
  have hplain : Glob.IsPlain "[x".toList := by decide +kernel
  obtain ⟨files, hd, hm⟩ := (finds_discover ht hp hs).2.2 hplain (inReach_of_forall hp (by decide +kernel) _)
  refine ⟨ht, hp, hs, hplain, files, hd, (hm _).2 ⟨["c.[x", "d[x"], .empty, rfl, rfl, by decide⟩, fun h => ?_, fun h => ?_⟩
  · obtain ⟨names, content, -, -, hfit⟩ := (hm _).1 h
    revert hfit
    decide
  · obtain ⟨names, content, he, hn, -⟩ := (hm _).1 h
    have hparts : ["a"] ++ ["c.[x"] = ["a"] ++ names := congrArg Path.parts he
    obtain rfl := List.append_cancel_left hparts
    cases hn

/-- A question mark stands for any character: a file is found that does not have the ending. -/
theorem ending_not_literal :
    let t : FileTree := ⟨["w"], [(["w"], .folder), (["w", "a"], .folder), (["w", "a", "bx"], .file .empty)]⟩
    t.IsWellFormed ∧ t.find (.ofText "a") = .ok .folder ∧
      t.discover (.text "?x") ["a"] = .ok [.ofText "a/bx"] ∧ ¬ "?x".toList <:+ "bx".toList := by
  intro t
  have ht : t.IsWellFormed := by decide +kernel
  have hd : (t.discover (.text "?x") ["a"]).toOption = some [.ofText "a/bx"] := by decide +kernel
  exact ⟨ht, rfl, eq_ok_of_toOption hd, by decide⟩

end FileTree

end ModelForge
