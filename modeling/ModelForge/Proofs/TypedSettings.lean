import ModelForge.Settings.Basic

/-! What well-typed settings hold, and which of their uses therefore cannot go wrong: all of them, but for an indent size
that is no count. -/

namespace ModelForge.Settings

variable {s : Settings} {n : Setting}

theorem Fits.eq_text {v : Value} (h : Fits n v) (hn : ∃ t, n.default = .text t) : ∃ t, v = .text t := by
  obtain ⟨t, ht⟩ := hn
  cases n <;> cases v <;> simp_all [Fits, Setting.default]

theorem Fits.eq_int {v : Value} (h : Fits .indentSize v) : ∃ k, v = .int k := by
  cases v <;> simp_all [Fits]

theorem exists_texts {items : List Value} (h : ∀ v ∈ items, ∃ t, v = .text t) :
    ∃ ts : List String, items = ts.map .text := by
  induction items with
  | nil => exact ⟨[], rfl⟩
  | cons v rest ih =>
    obtain ⟨t, rfl⟩ := h v (List.mem_cons_self ..)
    obtain ⟨ts, rfl⟩ := ih fun w hw => h w (List.mem_cons_of_mem _ hw)
    exact ⟨t :: ts, rfl⟩

theorem Fits.eq_texts {v : Value} (h : Fits n v) (hn : n.default = .list []) :
    ∃ ts : List String, v = .list (ts.map .text) := by
  have hl : ∃ items, v = .list items ∧ ∀ w ∈ items, ∃ t, w = .text t := by
    cases n <;> cases v <;> simp_all [Fits, Setting.default]
  obtain ⟨items, rfl, hi⟩ := hl
  obtain ⟨ts, rfl⟩ := exists_texts hi
  exact ⟨ts, rfl⟩

theorem WellTyped.set (h : s.WellTyped) {n : Setting} {v : Value} (hv : Fits n v) : (s.set n v).WellTyped := by
  intro m
  have hg : (s.set n v).get m = if m = n then v else s.get m := rfl
  rw [hg]
  split
  · next hm => exact hm ▸ hv
  · exact h m

theorem WellTyped.text (h : s.WellTyped) (n : Setting) (hn : ∃ t, n.default = .text t) : ∃ t, s.get n = .text t :=
  (h n).eq_text hn

theorem WellTyped.get_eq_shown (h : s.WellTyped) (n : Setting) (hn : ∃ t, n.default = .text t) :
    s.get n = .text (s.shown n) := by
  obtain ⟨t, ht⟩ := h.text n hn
  rw [shown, ht, Value.display_text]

theorem WellTyped.texts (h : s.WellTyped) (n : Setting) (hn : n.default = .list []) :
    ∃ ts : List String, s.get n = .list (ts.map .text) := (h n).eq_texts hn

/-- An indent size that can count blanks, if it is a number at all. -/
def IsIndexSized (s : Settings) : Prop := ∀ n, s.get .indentSize = .int n → IsIndex n

theorem isIndexSized_default : default.IsIndexSized := by
  rintro n ⟨⟩
  decide

theorem IsIndexSized.set {v : Value} (h : s.IsIndexSized) (hn : n ≠ .indentSize) : (s.set n v).IsIndexSized := by
  intro k hk
  have hg : (s.set n v).get .indentSize = s.get .indentSize := if_neg hn.symm
  exact h k (hg ▸ hk)

theorem WellTyped.indent_eq (h : s.WellTyped) (hi : s.IsIndexSized) :
    ∃ k : Nat, s.indent = .ok (String.ofList (List.replicate k ' ')) := by
  obtain ⟨k, hk⟩ := (h .indentSize).eq_int
  refine ⟨k.toNat, ?_⟩
  simp only [indent, hk, if_pos (hi k hk)]

theorem WellTyped.indent_error (h : s.WellTyped) (hi : ¬ s.IsIndexSized) : s.indent = .error .notIndexSized := by
  obtain ⟨k, hk⟩ := (h .indentSize).eq_int
  have hk' : ¬ IsIndex k := fun hindex => hi fun n hn => Value.int.inj (hk.symm.trans hn) ▸ hindex
  simp only [indent, hk, if_neg hk']

theorem WellTyped.lineEnding_eq (h : s.WellTyped) : ∃ e, s.lineEnding = .ok e := by
  obtain ⟨e, he⟩ := h.text .lineEnding ⟨_, rfl⟩
  exact ⟨e, by rw [lineEnding, he]⟩

theorem WellTyped.entityPath_eq (h : s.WellTyped) : ∃ p, s.entityPath = .ok p := by
  obtain ⟨root, hr⟩ := h.text .rootNamespace ⟨_, rfl⟩
  obtain ⟨sub, hs⟩ := h.text .entityNamespace ⟨_, rfl⟩
  rw [entityPath, hr, hs]
  exact ⟨_, rfl⟩

theorem WellTyped.dtoPath_eq (h : s.WellTyped) : ∃ p, s.dtoPath = .ok p := by
  obtain ⟨root, hr⟩ := h.text .rootNamespace ⟨_, rfl⟩
  obtain ⟨sub, hs⟩ := h.text .dtoNamespace ⟨_, rfl⟩
  rw [dtoPath, hr, hs]
  exact ⟨_, rfl⟩

end ModelForge.Settings
