import ModelForge.CSharp.Generator
import ModelForge.Proofs.Source.Lines

/-! The final form of a source text, told by what its lines are and not by how they are reached. No text has two final
forms, and so tidying what is tidied changes nothing. -/

namespace ModelForge.Source

open Text (isBlank trimEnd)

section Gaps

variable {α : Type} {counts : α → Bool} {l : List α} {a : α}

/-- For each item that counts, how many that do not stand between it and the last one that does. -/
def runsBefore (counts : α → Bool) : List α → List Nat
  | [] => []
  | a :: rest => if counts a then 0 :: runsBefore counts rest else (runsBefore counts rest).modifyHead (· + 1)

/-- How many items stand between one that counts and the next one. -/
def gaps (counts : α → Bool) (l : List α) : List Nat := (runsBefore counts l).tail

theorem runsBefore_cons_of_pos (h : counts a = true) (l : List α) :
    runsBefore counts (a :: l) = 0 :: runsBefore counts l := by
  rw [runsBefore, if_pos h]

theorem runsBefore_cons_of_neg (h : counts a = false) (l : List α) :
    runsBefore counts (a :: l) = (runsBefore counts l).modifyHead (· + 1) := by
  rw [runsBefore, if_neg (by simp [h])]

theorem runsBefore_eq_nil (h : ∀ x ∈ l, counts x = false) : runsBefore counts l = [] := by
  induction l with
  | nil => rfl
  | cons x l ih =>
    rw [runsBefore_cons_of_neg (h x (List.mem_cons_self ..)), ih fun y hy => h y (List.mem_cons_of_mem _ hy)]
    rfl

theorem runsBefore_append (l : List α) {b : List α} (h : ∀ x ∈ b, counts x = false) :
    runsBefore counts (l ++ b) = runsBefore counts l := by
  induction l with
  | nil => exact runsBefore_eq_nil h
  | cons a l ih => rw [List.cons_append, runsBefore, runsBefore, ih]

theorem runsBefore_map {β : Type} (f : β → α) (l : List β) :
    runsBefore counts (l.map f) = runsBefore (fun b => counts (f b)) l := by
  induction l with
  | nil => rfl
  | cons b l ih => rw [List.map_cons, runsBefore, runsBefore, ih]

theorem gaps_dropWhile {p : α → Bool} (h : ∀ x, p x = true → counts x = false) (l : List α) :
    gaps counts (l.dropWhile p) = gaps counts l := by
  induction l with
  | nil => rfl
  | cons a l ih =>
    by_cases ha : p a = true
    · have hg : gaps counts (a :: l) = gaps counts l := by
        rw [gaps, gaps, runsBefore_cons_of_neg (h a ha), List.tail_modifyHead]
      rw [List.dropWhile_cons_of_pos ha, ih, hg]
    · rw [List.dropWhile_cons_of_neg ha]

theorem gaps_stripBy {p : α → Bool} (h : ∀ x, p x = true → counts x = false) (l : List α) :
    gaps counts (Text.stripBy p l) = gaps counts l := by
  have hs : Text.stripBy p l = (l.dropWhile p).rdropWhile p := rfl
  have hr : runsBefore counts (Text.stripBy p l ++ (l.dropWhile p).rtakeWhile p) = runsBefore counts (Text.stripBy p l) :=
    runsBefore_append _ fun x hx => h x (List.mem_rtakeWhile_imp hx)
  rw [hs, List.rdropWhile_append_rtakeWhile] at hr
  rw [hs, ← gaps_dropWhile h l, gaps, gaps, hr]

end Gaps

def isFilled (line : List Char) : Bool := !line.isEmpty

/-- Just the lines that are not blank, without the blanks behind them, and one empty line wherever blank lines stood between
two of them. -/
structure IsTidied (ls tidied : List (List Char)) : Prop where
  content : tidied.filter isFilled = (ls.filter isContent).map trimEnd
  solid : ∀ line ∈ tidied, ∀ c ∈ line.getLast?, isBlank c = false
  gaps : gaps isFilled tidied = (gaps isContent ls).map (min 1)
  first : tidied.head? ≠ some []
  last : tidied.getLast? ≠ some []

section Uniqueness

variable {a b ls : List (List Char)}

theorem eq_nil_of_not_isFilled {line : List Char} (h : ¬ isFilled line = true) : line = [] := by
  simpa [isFilled] using h

theorem modifyHead_succ_injective {m n : List Nat} (h : m.modifyHead (· + 1) = n.modifyHead (· + 1)) : m = n := by
  cases m <;> cases n <;> simp_all

theorem eq_nil_of_filter (hf : a.filter isFilled = []) (hl : a.getLast? ≠ some []) : a = [] := by
  rw [← List.getLast?_eq_none_iff, Option.eq_none_iff_forall_ne_some]
  intro line hline
  have hm := List.filter_eq_nil_iff.1 hf line (List.mem_of_getLast? hline)
  apply hl
  rw [hline, eq_nil_of_not_isFilled hm]

theorem getLast?_of_cons {line : List Char} (h : (line :: a).getLast? ≠ some []) : a.getLast? ≠ some [] := by
  intro ha
  apply h
  rw [List.getLast?_cons, ha]
  rfl

theorem eq_of_runsBefore (hr : runsBefore isFilled a = runsBefore isFilled b) (hf : a.filter isFilled = b.filter isFilled)
    (ha : a.getLast? ≠ some []) (hb : b.getLast? ≠ some []) : a = b := by
  induction a generalizing b with
  | nil => exact (eq_nil_of_filter hf.symm hb).symm
  | cons x a ih =>
    cases b with
    | nil => exact eq_nil_of_filter hf ha
    | cons y b =>
      have key : runsBefore isFilled a = runsBefore isFilled b → a.filter isFilled = b.filter isFilled → a = b :=
        fun hr hf => ih hr hf (getLast?_of_cons ha) (getLast?_of_cons hb)
      by_cases hx : isFilled x = true <;> by_cases hy : isFilled y = true
      · rw [runsBefore_cons_of_pos hx, runsBefore_cons_of_pos hy] at hr
        rw [List.filter_cons_of_pos hx, List.filter_cons_of_pos hy] at hf
        rw [(List.cons.inj hf).1, key (List.cons.inj hr).2 (List.cons.inj hf).2]
      · rw [runsBefore_cons_of_pos hx, runsBefore_cons_of_neg (by simpa using hy)] at hr
        cases hb : runsBefore isFilled b <;> simp [hb] at hr
      · rw [runsBefore_cons_of_neg (by simpa using hx), runsBefore_cons_of_pos hy] at hr
        cases ha : runsBefore isFilled a <;> simp [ha] at hr
      · rw [runsBefore_cons_of_neg (by simpa using hx), runsBefore_cons_of_neg (by simpa using hy)] at hr
        rw [List.filter_cons_of_neg hx, List.filter_cons_of_neg hy] at hf
        have hxy : x = y := (eq_nil_of_not_isFilled hx).trans (eq_nil_of_not_isFilled hy).symm
        rw [hxy, key (modifyHead_succ_injective hr) hf]

theorem runsBefore_of_head (h : a.head? ≠ some []) :
    a = [] ∨ runsBefore isFilled a = 0 :: gaps isFilled a := by
  cases a with
  | nil => exact .inl rfl
  | cons line a =>
    have hf : isFilled line = true := by
      cases line with
      | nil => exact absurd rfl h
      | cons => rfl
    right
    rw [gaps, runsBefore_cons_of_pos hf]
    rfl

theorem IsTidied.unique (ha : IsTidied ls a) (hb : IsTidied ls b) : a = b := by
  have hf : a.filter isFilled = b.filter isFilled := ha.content.trans hb.content.symm
  have hg : Source.gaps isFilled a = Source.gaps isFilled b := ha.gaps.trans hb.gaps.symm
  obtain rfl | hra := runsBefore_of_head ha.first
  · exact (eq_nil_of_filter hf.symm hb.last).symm
  · obtain rfl | hrb := runsBefore_of_head hb.first
    · exact eq_nil_of_filter hf ha.last
    · apply eq_of_runsBefore _ hf ha.last hb.last
      rw [hra, hrb, hg]

end Uniqueness

section Existence

variable {ls : List (List Char)}

theorem isFilled_trimEnd (line : List Char) : isFilled (trimEnd line) = isContent line := by
  have ht : (trimEnd line).isEmpty = line.all isBlank := by
    rw [Bool.eq_iff_iff, List.isEmpty_iff, List.all_eq_true]
    exact List.rdropWhile_eq_nil_iff
  rw [isFilled, isContent, ht]

theorem isBlank_getLast?_trimEnd {line : List Char} {c : Char} (h : (trimEnd line).getLast? = some c) :
    isBlank c = false := by
  have hne : trimEnd line ≠ [] := by
    intro hn
    rw [hn] at h
    cases h
  have hl : ¬ isBlank ((trimEnd line).getLast hne) = true := List.rdropWhile_last_not isBlank line hne
  have hc : (trimEnd line).getLast hne = c := by
    rw [List.getLast?_eq_some_getLast hne] at h
    exact Option.some.inj h
  rw [hc] at hl
  simpa using hl

theorem runsBefore_collapse (ls : List (List Char)) :
    runsBefore isFilled (collapse ls) = (runsBefore isFilled ls).map (min 1) := by
  fun_induction collapse ls with
  | case1 => rfl
  | case2 line => by_cases h : isFilled line = true <;> simp [runsBefore, h]
  | case3 a b rest h ih =>
    rw [Bool.and_eq_true] at h
    have ha : isFilled a = false := by simp [isFilled, h.1]
    have hb : isFilled b = false := by simp [isFilled, h.2]
    rw [ih, runsBefore_cons_of_neg ha, runsBefore_cons_of_neg hb]
    cases runsBefore isFilled rest <;> simp
  | case4 a b rest h ih =>
    by_cases ha : isFilled a = true
    · rw [runsBefore_cons_of_pos ha, runsBefore_cons_of_pos ha, ih]
      rfl
    · -- The line after an empty one that is kept is not empty itself.
      have hb : isFilled b = true := by
        cases a with
        | nil => simpa [isFilled] using h
        | cons => exact absurd rfl ha
      rw [runsBefore_cons_of_neg (by simpa using ha), runsBefore_cons_of_neg (by simpa using ha), ih,
        runsBefore_cons_of_pos hb]
      rfl

theorem trimEnd_of_mem_tidyLines {s line : List Char} (h : line ∈ tidyLines s) : trimEnd line = line := by
  obtain ⟨l, -, rfl⟩ := List.mem_map.1 (mem_collapse (Text.mem_of_mem_stripBy h))
  exact List.rdropWhile_idempotent isBlank l

theorem isTidied_tidyLines (s : List Char) : IsTidied (Text.lines s) (tidyLines s) := by
  refine ⟨?_, ?_, ?_, ?_, ?_⟩
  · rw [← filter_tidyLines]
    apply List.filter_congr
    intro line hline
    rw [← isFilled_trimEnd, trimEnd_of_mem_tidyLines hline]
  · intro line hline c hc
    rw [← trimEnd_of_mem_tidyLines hline] at hc
    exact isBlank_getLast?_trimEnd hc
  · have he : ∀ line : List Char, line.isEmpty = true → isFilled line = false := by
      intro line hline
      rw [isFilled, hline]
      rfl
    rw [tidyLines, gaps_stripBy he, gaps, runsBefore_collapse, runsBefore_map, gaps, List.map_tail]
    simp only [isFilled_trimEnd]
  · intro h
    exact absurd (Text.head?_stripBy h) (by decide)
  · intro h
    exact absurd (Text.getLast?_stripBy h) (by decide)

theorem IsTidied.of_map_trimEnd {ls other tidied b : List (List Char)} (h : IsTidied ls tidied)
    (ho : other.map trimEnd = tidied ++ b) (hb : ∀ line ∈ b, isFilled line = false) : IsTidied other tidied := by
  have hc : (other.filter isContent).map trimEnd = (other.map trimEnd).filter isFilled := by
    rw [List.filter_map]
    congr 1
    exact List.filter_congr fun line _ => (isFilled_trimEnd line).symm
  have hg : Source.gaps isContent other = Source.gaps isFilled (other.map trimEnd) := by
    rw [Source.gaps, Source.gaps, runsBefore_map]
    simp only [isFilled_trimEnd]
  refine ⟨?_, h.solid, ?_, h.first, h.last⟩
  · have hn : b.filter isFilled = [] := List.filter_eq_nil_iff.2 fun line hl => by simp [hb line hl]
    rw [hc, ho, List.filter_append, hn, List.append_nil]
  · rw [hg, ho, Source.gaps, Source.gaps, runsBefore_append _ hb, ← Source.gaps, h.gaps, List.map_map]
    apply List.map_congr_left
    intro n _
    simp

end Existence

section Again

variable {lineEnd f : List Char} {pieces : List (List Char)}

theorem lines_joinWith_append (hf : '\n' ∉ f) (hne : pieces ≠ []) (hp : ∀ p ∈ pieces, '\n' ∉ p) :
    Text.lines (Text.joinWith (f ++ ['\n']) pieces ++ (f ++ ['\n'])) = pieces.map (· ++ f) ++ [[]] := by
  induction pieces with
  | nil => exact absurd rfl hne
  | cons p ps ih =>
    have hpf : '\n' ∉ p ++ f := by simp [hf, hp p (List.mem_cons_self ..)]
    have key : ∀ s, Text.lines (p ++ (f ++ ['\n']) ++ s) = (p ++ f) :: Text.lines s := by
      intro s
      rw [← List.append_assoc, List.append_assoc, List.singleton_append, Text.lines, Text.cutAt_append,
        Text.cutAt_of_not_mem hpf]
      rfl
    by_cases hps : ps = []
    · subst hps
      have hs := key []
      rw [List.append_nil] at hs
      exact hs
    · rw [Text.joinWith_cons _ _ hps, List.append_assoc, key, ih hps fun q hq => hp q (List.mem_cons_of_mem _ hq)]
      rfl

theorem tidyLines_tidy (hf : ∀ c ∈ f, c ≠ '\n' ∧ isBlank c = true) (s : List Char) :
    tidyLines (tidy (f ++ ['\n']) s) = tidyLines s := by
  have hn : '\n' ∉ f := fun h => (hf _ h).1 rfl
  have ht : ∀ line, trimEnd (line ++ f) = trimEnd line := Text.trimEnd_append_blank fun c hc => (hf c hc).2
  obtain ⟨b, hb, hlines⟩ : ∃ b, (∀ line ∈ b, isFilled line = false) ∧
      (Text.lines (tidy (f ++ ['\n']) s)).map trimEnd = tidyLines s ++ b := by
    by_cases hs : tidyLines s = []
    · refine ⟨[[], []], by simp [isFilled], ?_⟩
      rw [tidy, hs, Text.lines, Text.joinWith, List.nil_append, Text.cutAt_append, Text.cutAt_of_not_mem hn]
      show [trimEnd ([] ++ f), trimEnd []] = [[], []]
      rw [ht]
      rfl
    · refine ⟨[[]], by simp [isFilled], ?_⟩
      have hm : ((tidyLines s).map (· ++ f)).map trimEnd = tidyLines s := by
        rw [List.map_map]
        refine (List.map_congr_left fun line hline => ?_).trans (List.map_id _)
        show trimEnd (line ++ f) = line
        rw [ht, trimEnd_of_mem_tidyLines hline]
      rw [tidy, lines_joinWith_append hn hs fun _ => lineFeed_not_mem_tidyLines, List.map_append, hm]
      rfl
  exact (isTidied_tidyLines _).unique ((isTidied_tidyLines s).of_map_trimEnd hlines hb)

end Again

/-- A source text is the only tidied form of its lines, joined and closed by the line end that is asked for. With the usual
line ends it does not change when it is tidied again. -/
theorem existsUnique_tidied (lineEnd code : String) :
    ∃ tidied, CSharp.sourceText lineEnd code =
        String.ofList (Text.joinWith lineEnd.toList tidied ++ lineEnd.toList) ∧
      IsTidied (Text.lines code.toList) tidied ∧
      (∀ other, IsTidied (Text.lines code.toList) other → other = tidied) ∧
      (lineEnd = "\n" ∨ lineEnd = "\r\n" →
        CSharp.sourceText lineEnd (CSharp.sourceText lineEnd code) = CSharp.sourceText lineEnd code) := by
  have ht := isTidied_tidyLines code.toList
  refine ⟨tidyLines code.toList, rfl, ht, fun other ho => ho.unique ht, fun hl => ?_⟩
  -- Both line ends are a line feed with nothing but blanks before it.
  obtain ⟨f, hf, he⟩ : ∃ f : List Char, (∀ c ∈ f, c ≠ '\n' ∧ isBlank c = true) ∧ lineEnd.toList = f ++ ['\n'] := by
    rcases hl with rfl | rfl
    · exact ⟨[], nofun, rfl⟩
    · refine ⟨['\r'], fun c hc => ?_, rfl⟩
      rw [List.mem_singleton.1 hc]
      exact ⟨by decide, by decide⟩
  have hs := tidyLines_tidy hf code.toList
  rw [← he] at hs
  rw [CSharp.sourceText, CSharp.sourceText, String.toList_ofList, tidy, hs]
  rfl

/-- A blank line of other blanks than spaces, blanks of all kinds behind the lines, and empty lines at both ends. -/
theorem existsUnique_tidied_blanks :
    let code := "\n  a \t\r\n\u2003\n\n b\u2028\n\x0c\n\n"
    (("\r\n" : String) = "\n" ∨ ("\r\n" : String) = "\r\n") ∧
      IsTidied (Text.lines code.toList) ["  a".toList, [], " b".toList] ∧
      CSharp.sourceText "\r\n" code = "  a\r\n\r\n b\r\n" ∧
      CSharp.sourceText "\r\n" "  a\r\n\r\n b\r\n" = "  a\r\n\r\n b\r\n" := by
  intro code
  have hl : ("\r\n" : String) = "\n" ∨ ("\r\n" : String) = "\r\n" := .inr rfl
  have ht : IsTidied (Text.lines code.toList) ["  a".toList, [], " b".toList] :=
    ⟨by decide +kernel, by simp [isBlank], by decide +kernel, by decide, by decide⟩
  obtain ⟨tidied, hs, -, hu, ha⟩ := existsUnique_tidied "\r\n" code
  have he : CSharp.sourceText "\r\n" code = "  a\r\n\r\n b\r\n" := by
    rw [hs, ← hu _ ht]
    decide +kernel
  have hagain := ha hl
  rw [he] at hagain
  exact ⟨hl, ht, he, hagain⟩

end ModelForge.Source
