/-! What follows from the success of a computation that may fail. -/

namespace ModelForge

variable {ε ε' α β : Type} {x : Except ε α} {a : α}

theorem exists_of_bind_eq_ok {f : α → Except ε β} {b : β} (h : x >>= f = .ok b) : ∃ a, x = .ok a ∧ f a = .ok b := by
  cases x with
  | error e => cases h
  | ok a => exact ⟨a, rfl, h⟩

theorem eq_ok_of_mapError_eq_ok {f : ε → ε'} (h : x.mapError f = .ok a) : x = .ok a := by
  cases x with
  | error e => cases h
  | ok b =>
    cases h
    rfl

theorem exists_of_mem_mapM_some {f : α → Option β} {l : List α} {bs : List β} (h : l.mapM f = some bs) {b : β}
    (hb : b ∈ bs) : ∃ a ∈ l, f a = some b := by
  induction l generalizing bs with
  | nil =>
    cases h
    cases hb
  | cons a l ih =>
    rw [List.mapM_cons] at h
    obtain ⟨c, hc, h⟩ := Option.bind_eq_some_iff.1 h
    obtain ⟨rest, hr, h⟩ := Option.bind_eq_some_iff.1 h
    cases h
    rcases List.mem_cons.1 hb with rfl | hb
    · exact ⟨a, List.mem_cons_self, hc⟩
    · obtain ⟨x, hx, hf⟩ := ih hr hb
      exact ⟨x, List.mem_cons_of_mem a hx, hf⟩

theorem eq_ok_of_toOption (h : x.toOption = some a) : x = .ok a := by
  cases x with
  | error e => cases h
  | ok b => rw [Option.some.inj h]

section Lists

variable {f g : α → Except ε β} {l m : List α} {bs : List β}

theorem exists_of_mapM_cons (h : (a :: l).mapM f = .ok bs) :
    ∃ b rest, f a = .ok b ∧ l.mapM f = .ok rest ∧ bs = b :: rest := by
  rw [List.mapM_cons] at h
  obtain ⟨b, hb, h⟩ := exists_of_bind_eq_ok h
  obtain ⟨rest, hr, h⟩ := exists_of_bind_eq_ok h
  cases h
  exact ⟨b, rest, hb, hr, rfl⟩

theorem mapM_map_eq_ok {γ : Type} {f : β → Except ε γ} {g : α → β} {h : α → γ} (hf : ∀ a, f (g a) = .ok (h a))
    (l : List α) : (l.map g).mapM f = .ok (l.map h) := by
  induction l with
  | nil => rfl
  | cons a l ih =>
    rw [List.map_cons, List.mapM_cons, hf, ih]
    rfl

theorem of_foldlM_eq_ok {P : β → Prop} {step : β → α → Except ε β}
    (hs : ∀ b a c, P b → step b a = .ok c → P c) {b c : β} (h : l.foldlM step b = .ok c) (hb : P b) : P c := by
  induction l generalizing b with
  | nil =>
    cases h
    exact hb
  | cons a l ih =>
    rw [List.foldlM_cons] at h
    obtain ⟨next, hn, h⟩ := exists_of_bind_eq_ok h
    exact ih h (hs b a next hb hn)

theorem exists_of_mem_mapM (h : l.mapM f = .ok bs) {b : β} (hb : b ∈ bs) : ∃ a ∈ l, f a = .ok b := by
  induction l generalizing bs with
  | nil =>
    cases h
    cases hb
  | cons a l ih =>
    obtain ⟨c, rest, hc, hr, rfl⟩ := exists_of_mapM_cons h
    rcases List.mem_cons.1 hb with rfl | hb
    · exact ⟨a, List.mem_cons_self, hc⟩
    · obtain ⟨x, hx, hf⟩ := ih hr hb
      exact ⟨x, List.mem_cons_of_mem a hx, hf⟩

theorem mapM_cases (f : α → Except ε β) (l : List α) :
    (∃ bs, l.mapM f = .ok bs ∧ ∀ a ∈ l, ∃ b ∈ bs, f a = .ok b) ∨
      ∃ before a rest e, l = before ++ a :: rest ∧ (∀ x ∈ before, ∃ b, f x = .ok b) ∧ f a = .error e ∧
        l.mapM f = .error e := by
  induction l with
  | nil => exact .inl ⟨[], rfl, nofun⟩
  | cons a l ih =>
    rw [List.mapM_cons]
    cases ha : f a with
    | error e => exact .inr ⟨[], a, l, e, rfl, nofun, ha, rfl⟩
    | ok b =>
      rcases ih with ⟨bs, hbs, hall⟩ | ⟨before, x, rest, e, rfl, hbefore, hx, he⟩
      · rw [hbs]
        refine .inl ⟨b :: bs, rfl, List.forall_mem_cons.2 ⟨⟨b, List.mem_cons_self, ha⟩, fun x hx => ?_⟩⟩
        obtain ⟨c, hc, hf⟩ := hall x hx
        exact ⟨c, List.mem_cons_of_mem b hc, hf⟩
      · rw [he]
        exact .inr ⟨a :: before, x, rest, e, rfl, List.forall_mem_cons.2 ⟨⟨b, ha⟩, hbefore⟩, hx, rfl⟩

theorem eq_of_mapM_eq_ok {cs : List β} (hf : l.mapM f = .ok bs) (hg : l.mapM g = .ok cs)
    (h : ∀ a b c, f a = .ok b → g a = .ok c → c ∈ cs → b = c) : bs = cs := by
  induction l generalizing bs cs with
  | nil =>
    cases hf
    cases hg
    rfl
  | cons a l ih =>
    obtain ⟨b, bs, hb, hbs, rfl⟩ := exists_of_mapM_cons hf
    obtain ⟨c, cs, hc, hcs, rfl⟩ := exists_of_mapM_cons hg
    rw [h a b c hb hc List.mem_cons_self, ih hbs hcs fun x b d hx hy hd => h x b d hx hy (List.mem_cons_of_mem c hd)]

end Lists

section Found

variable {f g : α → Except ε (List β)} {q : β → Bool} {l news : List α} {bs cs : List (List β)}

theorem flatten_filter_eq_nil (h : news.mapM g = .ok cs) (hn : ∀ a ∈ news, ∀ c, g a = .ok c → c.filter q = []) :
    cs.flatten.filter q = [] := by
  rw [List.filter_flatten, List.flatten_eq_nil_iff]
  intro c hc
  obtain ⟨d, hd, rfl⟩ := List.mem_map.1 hc
  obtain ⟨a, ha, hg⟩ := exists_of_mem_mapM h hd
  exact hn a ha d hg

theorem flatten_eq_filter_flatten (hf : l.mapM f = .ok bs) (hg : (l ++ news).mapM g = .ok cs)
    (hold : ∀ a ∈ l, ∀ b c, f a = .ok b → g a = .ok c → b = c.filter q)
    (hnew : ∀ a ∈ news, ∀ c, g a = .ok c → c.filter q = []) : bs.flatten = cs.flatten.filter q := by
  induction l generalizing bs cs with
  | nil =>
    cases hf
    exact (flatten_filter_eq_nil hg hnew).symm
  | cons a l ih =>
    obtain ⟨b, bs, hb, hbs, rfl⟩ := exists_of_mapM_cons hf
    obtain ⟨c, cs, hc, hcs, rfl⟩ := exists_of_mapM_cons hg
    rw [List.flatten_cons, List.flatten_cons, List.filter_append, hold a List.mem_cons_self b c hb hc,
      ih hbs hcs fun x hx => hold x (List.mem_cons_of_mem a hx)]

end Found

def passes (p : α → Except ε Bool) (a : α) : Bool :=
  match p a with
  | .ok b => b
  | .error _ => false

theorem eq_filter_of_filterAuxM {p : α → Except ε Bool} {l acc found : List α} (h : l.filterAuxM p acc = .ok found) :
    found = (l.filter (passes p)).reverse ++ acc := by
  induction l generalizing acc with
  | nil =>
    cases h
    rfl
  | cons a l ih =>
    rw [List.filterAuxM] at h
    obtain ⟨b, hb, h⟩ := exists_of_bind_eq_ok h
    have hp : passes p a = b := by rw [passes, hb]
    cases b with
    | true => simpa [hp] using ih h
    | false => simpa [hp] using ih h

theorem eq_filter_of_filterM {p : α → Except ε Bool} {l found : List α} (h : l.filterM p = .ok found) :
    found = l.filter (passes p) := by
  obtain ⟨rev, hr, h⟩ := exists_of_bind_eq_ok h
  cases h
  rw [eq_filter_of_filterAuxM hr, List.append_nil, List.reverse_reverse]

theorem filterAuxM_cases (p : α → Except ε Bool) (l acc : List α) :
    (∃ found, l.filterAuxM p acc = .ok found ∧ ∀ a ∈ l, ∃ b, p a = .ok b) ∨
      ∃ a ∈ l, ∃ e, p a = .error e ∧ l.filterAuxM p acc = .error e := by
  induction l generalizing acc with
  | nil => exact .inl ⟨acc, rfl, nofun⟩
  | cons a l ih =>
    rw [List.filterAuxM]
    cases ha : p a with
    | error e => exact .inr ⟨a, List.mem_cons_self, e, ha, rfl⟩
    | ok b =>
      rcases ih (cond b (a :: acc) acc) with ⟨found, hf, hall⟩ | ⟨x, hx, e, hp, he⟩
      · exact .inl ⟨found, hf, List.forall_mem_cons.2 ⟨⟨b, ha⟩, hall⟩⟩
      · exact .inr ⟨x, List.mem_cons_of_mem a hx, e, hp, he⟩

theorem filterM_cases (p : α → Except ε Bool) (l : List α) :
    (l.filterM p = .ok (l.filter (passes p)) ∧ ∀ a ∈ l, ∃ b, p a = .ok b) ∨
      ∃ a ∈ l, ∃ e, p a = .error e ∧ l.filterM p = .error e := by
  rcases filterAuxM_cases p l [] with ⟨rev, hr, hall⟩ | ⟨a, ha, e, hp, he⟩
  · have hf : l.filterM p = .ok rev.reverse := by
      rw [List.filterM, hr]
      rfl
    exact .inl ⟨hf.trans (congrArg _ (eq_filter_of_filterM hf)), hall⟩
  · refine .inr ⟨a, ha, e, hp, ?_⟩
    rw [List.filterM, he]
    rfl

end ModelForge
