import ModelForge.Proofs.Json.Numbers

/-! The representative of a decimal stands for the same number as the decimal does, and is its own representative. -/

namespace ModelForge.Magnitude

variable {d n : Nat} {e b : Int}

/-- No zero at the end of the digits, unless the whole is zero. -/
def IsNormal (d : Nat) (e : Int) : Prop := d = 0 ∧ e = 0 ∨ d % 10 ≠ 0

theorem isNormal_of_isReduced {m : Nat} {a : Int} (h : Json.IsReduced m a d e) : IsNormal d e := by
  cases h with
  | zero => exact .inl ⟨rfl, rfl⟩
  | shift hn => exact .inr hn

theorem isNormal_normalized (m : Nat) (a : Int) :
    IsNormal (normalized (digitCount m) m a).1 (normalized (digitCount m) m a).2 := by
  have hpos : 0 < digitCount m := List.length_pos_iff.2 Nat.toDigits_ne_nil
  have hlt : m < Nat.pow 10 (digitCount m) := by
    have h := Json.digitsValue_lt fun _ => Json.isDigit_of_mem_toDigits (n := m)
    rwa [Json.digitsValue_toDigits] at h
  exact isNormal_of_isReduced (Json.isReduced_normalized hlt hpos a)

theorem isNormal_of_mem_neighbours {m : Nat} {q : Int} {c : Nat × Int} (h : c ∈ neighbours m q) : IsNormal c.1 c.2 := by
  obtain ⟨i, -, hc⟩ := List.mem_flatMap.1 h
  obtain ⟨d, -, rfl⟩ := List.mem_map.1 hc
  exact isNormal_normalized d _

theorem rounded_cases (h : rounded d e = .finite n b) : ∃ number, nearest d e = some number ∧
    (((neighbours number.1 number.2).find? fun c => nearest c.1 c.2 = some number) = some (n, b) ∨
      ((neighbours number.1 number.2).find? fun c => nearest c.1 c.2 = some number) = none ∧ n = d ∧ b = e) := by
  unfold rounded at h
  split at h
  · cases h
  · next number hn =>
    refine ⟨number, hn, ?_⟩
    cases hf : (neighbours number.1 number.2).find? fun c => nearest c.1 c.2 = some number with
    | none =>
      rw [hf] at h
      cases h
      exact .inr ⟨rfl, rfl, rfl⟩
    | some c =>
      rw [hf] at h
      cases h
      exact .inl rfl

theorem nearest_of_rounded (h : rounded d e = .finite n b) : nearest n b = nearest d e := by
  obtain ⟨number, hn, hf | ⟨-, rfl, rfl⟩⟩ := rounded_cases h
  · rw [hn]
    exact of_decide_eq_true (List.find?_some hf :)
  · rfl

theorem rounded_of_rounded (h : rounded d e = .finite n b) : rounded n b = .finite n b := by
  have hsame := nearest_of_rounded h
  obtain ⟨number, hn, hf⟩ := rounded_cases h
  rw [hn] at hsame
  rw [rounded, hsame]
  -- The neighbours are those of the number, whatever decimal it came from.
  rcases hf with hf | ⟨hf, -, -⟩
  · simp only [hf, Option.getD_some]
  · simp only [hf, Option.getD_none]

theorem IsNormal.of_rounded (hd : IsNormal d e) (h : rounded d e = .finite n b) : IsNormal n b := by
  obtain ⟨number, -, hf | ⟨-, rfl, rfl⟩⟩ := rounded_cases h
  · exact isNormal_of_mem_neighbours (List.mem_of_find?_eq_some hf)
  · exact hd

theorem rounded_ne_undefined : rounded d e ≠ .undefined := by
  unfold rounded
  split <;> exact nofun

/-- What is read again as it was written. -/
inductive IsKept : Magnitude → Bool → Prop where
  | finite {digits : Nat} {exponent : Int} (negative : Bool) (hn : IsNormal digits exponent)
      (hr : rounded digits exponent = .finite digits exponent) : IsKept (.finite digits exponent) negative
  | infinite (negative : Bool) : IsKept .infinite negative
  | undefined : IsKept .undefined false

theorem IsNormal.isKept_rounded (h : IsNormal d e) (negative : Bool) : (rounded d e).IsKept negative := by
  cases hr : rounded d e with
  | finite n b => exact .finite negative (h.of_rounded hr) (rounded_of_rounded hr)
  | infinite => exact .infinite negative
  | undefined => exact absurd hr rounded_ne_undefined

end ModelForge.Magnitude
