import ModelForge.Proofs.Json.Parsing

/-! Reading gives up, other than at a flaw, only at more digits in a row than a number may have, or at more brackets than
there are levels. -/

namespace ModelForge.Json

variable {f : Fault} {P : Nat → List Char → Prop} {s rest : List Char} {fuel room levels n : Nat} {bracket : Char}

def Fault.IsLimit : Fault → Prop
  | .at _ _ => False
  | .longNumber _ => True
  | .tooDeep _ => True

def IsBracket (c : Char) : Prop := c = '[' ∨ c = '\x7b'

/-- A property of a text and the levels that are left which holds where reading gives up, and which comes down from there
to the start. -/
structure LeadsTo (f : Fault) (P : Nat → List Char → Prop) : Prop where
  limit : f.IsLimit
  number : ∀ {room s}, readNumber s = .error f → P room s
  bracket : ∀ {c s}, IsBracket c → f = .tooDeep c → P 0 (c :: s)
  level : ∀ {room c s}, IsBracket c → P room s → P (room + 1) (c :: s)
  suffix : ∀ {room rest s}, rest <:+ s → P room rest → P room s

theorem skip_suffix (s : List Char) : skip s <:+ s := List.dropWhile_suffix isSpace

theorem skip_suffix_of_skip_eq {c : Char} (h : skip s = c :: rest) : skip rest <:+ s :=
  (skip_suffix rest).trans ((List.suffix_cons c rest).trans (h ▸ skip_suffix s))

/-! Texts have no limits. -/

theorem not_isLimit_of_escape (h : escape s = .error f) : ¬f.IsLimit := by
  unfold escape at h
  split at h
  · cases h
    exact id
  · split at h
    · cases h
      exact id
    · dsimp only at h
      split at h
      · split at h
        · cases h
          exact id
        · split at h <;> cases h
      · cases h
  · split at h
    · cases h
    · cases h
      exact id

theorem not_isLimit_of_readText {opening done : List Char} (h : readText opening done s = .error f) : ¬f.IsLimit := by
  fun_induction readText opening done s with
  | case1 => cases h; exact id
  | case2 => cases h
  | case3 => cases h; exact id
  | case4 _ _ _ _ hescape =>
    cases h
    exact not_isLimit_of_escape hescape
  | case5 _ _ _ _ _ _ ih => exact ih h
  | case6 => cases h; exact id
  | case7 _ _ _ _ _ _ ih => exact ih h

/-! Where a reader with some fuel gives up. -/

structure LeadsAt (f : Fault) (P : Nat → List Char → Prop) (fuel : Nat) : Prop where
  value : ∀ {room s}, readValue fuel room s = .error f → P room s
  items : ∀ {room done s}, readItems fuel room done s = .error f → P room s
  entries : ∀ {room done s}, readEntries fuel room done s = .error f → P room s

namespace LeadsAt

theorem zero (hf : f.IsLimit) : LeadsAt f P 0 := by
  refine ⟨fun h => ?_, fun h => ?_, fun h => ?_⟩ <;> cases h <;> exact hf.elim

variable (hP : LeadsTo f P) (h : LeadsAt f P fuel)
include hP h

theorem value_succ (hv : readValue (fuel + 1) room s = .error f) : P room s := by
  rw [readValue.eq_def] at hv
  split at hv
  · next heq => cases heq
  · next heq =>
    cases heq
    split at hv
    · next inner =>
      cases ht : readText ('"' :: inner) [] inner with
      | error g =>
        rw [ht] at hv
        cases hv
        exact absurd hP.limit (not_isLimit_of_readText ht)
      | ok r =>
        rw [ht] at hv
        cases hv
    · next inner =>
      split at hv
      · cases hv
        exact hP.bracket (.inl rfl) rfl
      · split at hv
        · cases hv
        · exact hP.level (.inl rfl) (hP.suffix (skip_suffix inner) (h.items hv))
    · next inner =>
      split at hv
      · cases hv
        exact hP.bracket (.inr rfl) rfl
      · split at hv
        · cases hv
        · exact hP.level (.inr rfl) (hP.suffix (skip_suffix inner) (h.entries hv))
    · split at hv
      · cases hv
      · exact hP.number hv

theorem items_succ {done : List Value} (hv : readItems (fuel + 1) room done s = .error f) : P room s := by
  rw [readItems] at hv
  split at hv
  · next hw =>
    cases hv
    exact h.value hw
  · next w next hw =>
    obtain ⟨t, rfl, -⟩ := (isSoundAt fuel).value hw
    split at hv
    · cases hv
    · next more hmore =>
      exact hP.suffix ((skip_suffix_of_skip_eq hmore).trans (List.suffix_append t next)) (h.items hv)
    · cases hv
      exact hP.limit.elim

theorem entries_succ {done : List (String × Value)} (hv : readEntries (fuel + 1) room done s = .error f) : P room s := by
  rw [readEntries.eq_def] at hv
  split at hv
  · next heq => cases heq
  · next heq =>
    cases heq
    split at hv
    · next inner =>
      split at hv
      · next hkey =>
        cases hv
        exact absurd hP.limit (not_isLimit_of_readText hkey)
      · next key afterKey hkey =>
        obtain ⟨cs, k, rfl, rfl, -⟩ := isInner_of_readText hkey
        split at hv
        · next more hmore =>
          have hkeyed : afterKey <:+ '"' :: (k ++ '"' :: afterKey) := ⟨'"' :: (k ++ ['"']), by simp⟩
          have hvalue := (skip_suffix_of_skip_eq hmore).trans hkeyed
          -- It is in the value of this entry, or in an entry after it.
          split at hv
          · next hw =>
            cases hv
            exact hP.suffix hvalue (h.value hw)
          · next w afterValue hw =>
            obtain ⟨t, ht, -⟩ := (isSoundAt fuel).value hw
            split at hv
            · cases hv
            · next more' hmore' =>
              have hrest : afterValue <:+ skip more := ⟨t, ht.symm⟩
              exact hP.suffix ((skip_suffix_of_skip_eq hmore').trans (hrest.trans hvalue)) (h.entries hv)
            · cases hv
              exact hP.limit.elim
        · cases hv
          exact hP.limit.elim
    · cases hv
      exact hP.limit.elim

end LeadsAt

theorem LeadsTo.leadsAt (hP : LeadsTo f P) (fuel : Nat) : LeadsAt f P fuel := by
  induction fuel with
  | zero => exact .zero hP.limit
  | succ fuel ih => exact ⟨ih.value_succ hP, ih.items_succ hP, ih.entries_succ hP⟩

theorem LeadsTo.of_read (hP : LeadsTo f P) (h : read s levels = .error f) : P levels s := by
  unfold read at h
  split at h
  · cases h
    exact hP.limit.elim
  · split at h
    · next hv =>
      cases h
      exact hP.suffix (skip_suffix s) ((hP.leadsAt _).value hv)
    · split at h
      · cases h
      · cases h
        exact hP.limit.elim

/-! Digits. -/

def HasLongNumber (s : List Char) : Prop := ∃ digits, digits <:+: s ∧ AllDigits digits ∧ maxDigits < digits.length

theorem HasLongNumber.of_suffix (h : HasLongNumber rest) (hs : rest <:+ s) : HasLongNumber s := by
  obtain ⟨digits, hi, hd, hl⟩ := h
  exact ⟨digits, hi.trans hs.isInfix, hd, hl⟩

theorem readNumber_eq_error (h : readNumber s = .error f) : (∃ flaw rest, f = .at flaw rest) ∨
    ∃ n, f = .longNumber n ∧ HasLongNumber s := by
  unfold readNumber at h
  extract_lets negative unsigned whole afterWhole fraction afterFraction at h
  have hs : unsigned <:+ s := by
    show (if negative then s.drop 1 else s) <:+ s
    split
    · exact List.drop_suffix 1 s
    · exact List.suffix_refl s
  split at h
  · cases h
    exact .inl ⟨_, _, rfl⟩
  · split at h
    split at h
    · split at h
      · -- Only a whole number, without fraction and exponent, can have too many digits.
        next hl =>
        cases h
        obtain hw | ⟨hw, hwhole⟩ := wholeDigits_cases unsigned
        · rw [show whole = [] from hw] at hl
          cases hl
        · exact .inr ⟨_, rfl, .of_suffix ⟨whole, ⟨[], _, hwhole⟩, hw.allDigits, hl⟩ hs⟩
      · cases h
    · cases h

theorem leadsTo_longNumber (n : Nat) : LeadsTo (.longNumber n) fun _ => HasLongNumber where
  limit := trivial
  number h := by
    obtain ⟨_, _, ⟨⟩⟩ | ⟨_, -, hl⟩ := readNumber_eq_error h
    exact hl
  bracket _ hf := by cases hf
  level _ h := h.of_suffix (List.suffix_cons _ _)
  suffix hs h := h.of_suffix hs

theorem hasLongNumber_of_read (h : read s levels = .error (.longNumber n)) : HasLongNumber s :=
  (leadsTo_longNumber n).of_read h

/-! Levels. -/

def bracketCount (s : List Char) : Nat := s.countP fun c => c = '[' || c = '\x7b'

theorem bracketCount_cons {c : Char} (h : IsBracket c) (s : List Char) : bracketCount (c :: s) = bracketCount s + 1 :=
  List.countP_cons_of_pos (by rcases h with rfl | rfl <;> rfl)

theorem leadsTo_tooDeep (bracket : Char) : LeadsTo (.tooDeep bracket) fun room s => room < bracketCount s where
  limit := trivial
  number h := by
    obtain ⟨_, _, ⟨⟩⟩ | ⟨_, ⟨⟩, -⟩ := readNumber_eq_error h
  bracket hc _ := by
    rw [bracketCount_cons hc]
    exact Nat.succ_pos _
  level hc h := by
    rw [bracketCount_cons hc]
    exact Nat.succ_lt_succ h
  suffix hs h := Nat.lt_of_lt_of_le h hs.sublist.countP_le

theorem lt_bracketCount_of_read (h : read s levels = .error (.tooDeep bracket)) : levels < bracketCount s :=
  (leadsTo_tooDeep bracket).of_read h

end ModelForge.Json
