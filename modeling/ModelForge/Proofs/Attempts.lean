import ModelForge.Proofs.Reconciliation
import ModelForge.Proofs.Redelivery

/-! Every artifact of a delivery gets its turn, and fares as it would alone: one that is refused keeps no other from being
written. Only a null byte in a name ends a delivery before its time, because it is found where nobody looks for it. -/

namespace ModelForge.FileTree

variable {t u : FileTree} {directory : Path} {d : Delivery} {a b : Artifact} {as before rest : List Artifact}

def isWrittenAlone (t : FileTree) (directory : Path) (a : Artifact) : Bool :=
  decide ((t.deliver directory [a]).2.toOption.map (·.written) = some [target directory a])

/-- An artifact is written into the tree that its turn finds, or something is said against it there and the tree stays. -/
def HasTurn (t : FileTree) (directory : Path) (before : List Artifact) (a : Artifact) : Prop :=
  let u := (t.deliver directory before).1
  let next := (t.deliver directory (before ++ [a])).1
  if t.isWrittenAlone directory a then u.write (target directory a) a.source.toUTF8 = .ok next
  else next = u ∧ ∃ r, u.IsReason directory a r

/-- What a delivery reports on its artifacts: each of them is written or refused, and never both. -/
structure IsAccount (t : FileTree) (directory : Path) (as : List Artifact) (d : Delivery) : Prop where
  written_eq : d.written = (as.filter (t.isWrittenAlone directory)).map (target directory)
  keys_eq : Entries.keys d.refusals = ((as.filter fun a => !t.isWrittenAlone directory a).map (·.name)).eraseDups
  not_mem : ∀ a ∈ as, t.isWrittenAlone directory a = true → a.name ∉ Entries.keys d.refusals
  turn : ∀ before a rest, as = before ++ a :: rest → t.HasTurn directory before a
  /-- The reason that is given was met by an artifact of that name when its turn came. -/
  reason : ∀ e ∈ d.refusals, ∃ before a rest, as = before ++ a :: rest ∧ a.name = e.1 ∧
    (t.deliver directory before).1.IsReason directory a e.2

/-! One artifact after the others. -/

theorem deliverAll_append (t : FileTree) (directory : Path) (d : Delivery) (as bs : List Artifact) :
    t.deliverAll directory d (as ++ bs) =
      match t.deliverAll directory d as with
      | (u, .ok e) => u.deliverAll directory e bs
      | (u, .error f) => (u, .error f) := by
  induction as generalizing t d with
  | nil => rfl
  | cons a as ih =>
    simp only [List.cons_append, deliverAll]
    split
    · rfl
    · split
      · exact ih ..
      · split
        · exact ih ..
        · exact ih ..

theorem not_contains_null (h : '\x00' ∉ a.name.toList) : a.name.toList.contains '\x00' = false := by simpa using h

section Present

variable (h : t.find directory = .ok .folder)

include h

theorem deliver_of_find (as : List Artifact) : t.deliver directory as = t.deliverAll directory .empty as := by
  rw [deliver, makeFolder_of_find h]

theorem deliver_append (hb : t.deliver directory before = (u, .ok d)) (as : List Artifact) :
    t.deliver directory (before ++ as) = u.deliverAll directory d as := by
  rw [deliver_of_find h] at hb ⊢
  rw [deliverAll_append, hb]

theorem deliver_null (hb : t.deliver directory before = (u, .ok d)) (ha : '\x00' ∈ a.name.toList) (rest : List Artifact) :
    t.deliver directory (before ++ a :: rest) = (u, .error (.fault ⟨.nullByte, target directory a⟩)) := by
  have hz : a.name.toList.contains '\x00' = true := by simpa using ha
  rw [deliver_append h hb]
  simp only [deliverAll, hz, if_true, target]

theorem deliver_clean (hz : ∀ a ∈ as, '\x00' ∉ a.name.toList) :
    ∃ d, t.deliver directory as = (t.writeAll directory (as.filter (t.accepts directory)), .ok d) ∧
      d.written = (as.filter (t.accepts directory)).map (target directory) := by
  obtain ⟨d, hd, hw, -⟩ := deliver_eq (fun a ha => not_contains_null (hz a ha)) (makeFolder_of_find h)
  exact ⟨d, hd, hw⟩

theorem clean_of_deliver (hb : t.deliver directory as = (u, .ok d)) : ∀ a ∈ as, '\x00' ∉ a.name.toList := by
  rw [deliver_of_find h] at hb
  intro a ha
  simpa using contains_null_eq_false hb a ha

theorem isWrittenAlone_eq (ha : '\x00' ∉ a.name.toList) : t.isWrittenAlone directory a = t.accepts directory a := by
  have hz : ∀ x ∈ [a], '\x00' ∉ x.name.toList := by simpa using ha
  obtain ⟨d, hd, hw⟩ := deliver_clean h hz
  rw [isWrittenAlone, hd]
  cases hp : t.accepts directory a with
  | true =>
    rw [List.filter_cons_of_pos hp] at hw
    exact decide_eq_true (congrArg some hw)
  | false =>
    rw [List.filter_cons_of_neg (by simp [hp])] at hw
    refine decide_eq_false fun he => ?_
    cases hw.symm.trans (Option.some.inj he)

theorem sameFolders_of_deliver (hb : t.deliver directory before = (u, .ok d)) : SameFolders t u := by
  have hs := sameFolders_deliver (fun a ha => not_contains_null (clean_of_deliver h hb a ha)) (makeFolder_of_find h)
  rwa [hb] at hs

theorem deliver_concat (hb : t.deliver directory before = (u, .ok d)) (ha : '\x00' ∉ a.name.toList) :
    t.accepts directory a = true ∧ u.write (target directory a) a.source.toUTF8 = .ok (u.withFile (target directory a) a.source.toUTF8) ∧
        t.deliver directory (before ++ [a]) =
          (u.withFile (target directory a) a.source.toUTF8, .ok (d.addWritten (target directory a))) ∨
      t.accepts directory a = false ∧ ∃ r, u.IsReason directory a r ∧
        t.deliver directory (before ++ [a]) = (u, .ok (d.refuse a.name r)) := by
  have hs := sameFolders_of_deliver h hb
  rw [deliver_append h hb, hs.accepts_eq]
  rcases deliverAll_cons (not_contains_null ha) u directory d [] with ⟨hp, hc⟩ | ⟨hp, r, hr, hc⟩
  · exact .inl ⟨hp, write_of_isOpenable (accepts_iff.1 hp).2.2 _, hc⟩
  · exact .inr ⟨hp, r, hr, hc⟩

theorem refusals_of_deliver (hd : t.deliver directory as = (u, .ok d)) :
    Entries.keys d.refusals = ((as.filter fun a => !t.accepts directory a).map (·.name)).eraseDups ∧
      ∀ e ∈ d.refusals, ∃ before a rest, as = before ++ a :: rest ∧ a.name = e.1 ∧
        (t.deliver directory before).1.IsReason directory a e.2 := by
  induction as using List.reverseRecOn generalizing u d with
  | nil =>
    rw [deliver_of_find h] at hd
    cases hd
    exact ⟨rfl, nofun⟩
  | append_singleton as a ih =>
    have hz := clean_of_deliver h hd
    obtain ⟨e, he, -⟩ := deliver_clean h fun x hx => hz x (List.mem_append_left _ hx)
    obtain ⟨hkeys, hreason⟩ := ih he
    -- An entry that was there before keeps its place in the longer list.
    have hold (x : String × Refusal) (hx : x ∈ e.refusals) : ∃ before b rest, as ++ [a] = before ++ b :: rest ∧
        b.name = x.1 ∧ (t.deliver directory before).1.IsReason directory b x.2 := by
      obtain ⟨before, b, rest, rfl, hn, hr⟩ := hreason x hx
      exact ⟨before, b, rest ++ [a], by simp, hn, hr⟩
    rcases deliver_concat h he (hz a (by simp)) with ⟨ha, -, hc⟩ | ⟨ha, r, hr, hc⟩
    · cases hd.symm.trans hc
      refine ⟨?_, hold⟩
      rw [List.filter_append, List.filter_cons_of_neg (by simp [ha]), List.filter_nil, List.append_nil]
      exact hkeys
    · cases hd.symm.trans hc
      refine ⟨?_, fun x hx => ?_⟩
      · rw [List.filter_append, List.filter_cons_of_pos (by simp [ha]), List.filter_nil, List.map_append, List.map_singleton,
          eraseDups_concat, ← hkeys, Delivery.refuse]
        have hmem : a.name ∈ (as.filter fun a => !t.accepts directory a).map (·.name) ↔ a.name ∈ Entries.keys e.refusals := by
          rw [hkeys, List.mem_eraseDups]
        split
        · next hm => rw [Entries.keys_put_of_mem _ (hmem.1 hm), List.append_nil]
        · next hm => rw [Entries.keys_put_of_not_mem _ (mt hmem.2 hm)]
      · rcases Entries.mem_of_mem_put hx with hx | rfl
        · exact hold x hx
        · exact ⟨as, a, [], rfl, rfl, by rwa [he]⟩

theorem hasTurn_of_clean (hz : ∀ x ∈ before ++ [a], '\x00' ∉ x.name.toList) : t.HasTurn directory before a := by
  obtain ⟨e, he, -⟩ := deliver_clean h fun x hx => hz x (List.mem_append_left _ hx)
  have ha := hz a (by simp)
  unfold HasTurn
  rw [isWrittenAlone_eq h ha]
  rcases deliver_concat h he ha with ⟨hp, hw, hc⟩ | ⟨hp, r, hr, hc⟩
  · rw [he, hc, hp]
    exact hw
  · rw [he, hc, hp]
    exact ⟨rfl, r, hr⟩

theorem isAccount_of_deliver (hd : t.deliver directory as = (u, .ok d)) : t.IsAccount directory as d := by
  have hz := clean_of_deliver h hd
  obtain ⟨hkeys, hreason⟩ := refusals_of_deliver h hd
  obtain ⟨e, he, hw⟩ := deliver_clean h hz
  cases hd.symm.trans he
  have halone (a : Artifact) (ha : a ∈ as) : t.isWrittenAlone directory a = t.accepts directory a :=
    isWrittenAlone_eq h (hz a ha)
  have hrefused : (as.filter fun a => !t.isWrittenAlone directory a) = as.filter fun a => !t.accepts directory a :=
    List.filter_congr fun a ha => by rw [halone a ha]
  refine ⟨?_, ?_, fun a ha hp hk => ?_, ?_, hreason⟩
  · rw [hw, List.filter_congr halone]
  · rw [hkeys, hrefused]
  · -- Artifacts of one name have one target, so that all of them are written or none is.
    rw [hkeys, List.mem_eraseDups] at hk
    obtain ⟨b, hb, hn⟩ := List.mem_map.1 hk
    have hc : t.accepts directory b = false := by simpa using (List.mem_filter.1 hb).2
    rw [halone a ha, accepts_congr hn.symm, hc] at hp
    cases hp
  · intro before a rest hs
    rw [List.append_cons] at hs
    exact hasTurn_of_clean h fun x hx => hz x (hs ▸ List.mem_append_left rest hx)

end Present

/-- In a folder that is there a delivery goes through all its artifacts and accounts for each, unless a name holds a null
byte; then it ends at the first such name, with all done that stands before it. -/
theorem deliver_accounts_unless_null (h : t.find directory = .ok .folder) (as : List Artifact) :
    ((∃ u d, t.deliver directory as = (u, .ok d)) ↔ ∀ a ∈ as, '\x00' ∉ a.name.toList) ∧
      (∀ u d, t.deliver directory as = (u, .ok d) → t.IsAccount directory as d) ∧
      ∀ before a rest, as = before ++ a :: rest → (∀ x ∈ before, '\x00' ∉ x.name.toList) → '\x00' ∈ a.name.toList →
        ∃ d, t.deliver directory before = ((t.deliver directory as).1, .ok d) ∧ t.IsAccount directory before d ∧
          (t.deliver directory as).2 = .error (.fault ⟨.nullByte, target directory a⟩) := by
  refine ⟨⟨fun ⟨u, d, hd⟩ => clean_of_deliver h hd, fun hz => ?_⟩, fun u d => isAccount_of_deliver h, ?_⟩
  · obtain ⟨d, hd, -⟩ := deliver_clean h hz
    exact ⟨_, d, hd⟩
  · rintro before a rest rfl hz ha
    obtain ⟨d, hd, -⟩ := deliver_clean h hz
    have hn := deliver_null h hd ha rest
    exact ⟨d, by rw [hn, hd], isAccount_of_deliver h hd, by rw [hn]⟩

/-- No name, a step up, a folder, a way through a file that is new, and two artifacts that can be written. -/
theorem deliver_accounts_unless_null_mixed :
    let t : FileTree := ⟨["w"], [(["w"], .folder), (["w", "out"], .folder), (["w", "out", "sub"], .folder)]⟩
    let directory : Path := .ofText "out"
    let as : List Artifact :=
      [⟨"", "0"⟩, ⟨"A.cs", "1"⟩, ⟨"../x", "2"⟩, ⟨"sub", "3"⟩, ⟨"A.cs/../B.cs", "4"⟩, ⟨"sub/../B.cs", "5"⟩]
    t.find directory = .ok .folder ∧ ∃ u d, t.deliver directory as = (u, .ok d) ∧ t.IsAccount directory as d ∧
      d.written = [directory.join (.ofText "A.cs"), directory.join (.ofText "sub/../B.cs")] ∧
      Entries.keys d.refusals = ["", "../x", "sub", "A.cs/../B.cs"] := by
  intro t directory as
  have h : t.find directory = .ok .folder := rfl
  obtain ⟨hok, hall, -⟩ := deliver_accounts_unless_null h as
  obtain ⟨u, d, hd⟩ := hok.2 (by decide +kernel)
  have hi := hall u d hd
  refine ⟨h, u, d, hd, hi, ?_, ?_⟩
  · rw [hi.written_eq]
    decide +kernel
  · rw [hi.keys_eq]
    decide +kernel

/-- A name with a null byte keeps the artifact after it from being written. -/
theorem deliver_null_byte :
    let t : FileTree := ⟨["w"], [(["w"], .folder), (["w", "out"], .folder)]⟩
    let as : List Artifact := [⟨"a\x00b", "x"⟩, ⟨"ok", "y"⟩]
    t.find (.ofText "out") = .ok .folder ∧ (∀ u d, t.deliver (.ofText "out") as ≠ (u, .ok d)) ∧
      (t.deliver (.ofText "out") as).1.node? ["w", "out", "ok"] = none ∧
      t.isWrittenAlone (.ofText "out") ⟨"ok", "y"⟩ = true := by
  intro t as
  refine ⟨rfl, ?_, by decide +kernel, by decide +kernel⟩
  intro u d hd
  have hr : (t.deliver (.ofText "out") as).2.toOption.isSome = false := by decide +kernel
  rw [hd] at hr
  cases hr

end ModelForge.FileTree
