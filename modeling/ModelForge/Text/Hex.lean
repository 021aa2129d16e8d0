/-! Numbers in base sixteen. -/

namespace ModelForge.Text

def hexDigit (d : Nat) : Char := if d < 10 then Char.ofNat (48 + d) else Char.ofNat (87 + d)

def hexDigits : Nat → Nat → List Char
  | 0, _ => []
  | width + 1, n => hexDigits width (n / 16) ++ [hexDigit (n % 16)]

def hexValue? (c : Char) : Option Nat :=
  if '0' ≤ c && c ≤ '9' then some (c.toNat - 48)
  else if 'a' ≤ c && c ≤ 'f' then some (c.toNat - 87)
  else if 'A' ≤ c && c ≤ 'F' then some (c.toNat - 55)
  else none

def hexNumber? (s : List Char) : Option Nat :=
  s.foldl (fun n c => n.bind fun n => (hexValue? c).map (16 * n + ·)) (some 0)

theorem length_hexDigits (width n : Nat) : (hexDigits width n).length = width := by
  induction width generalizing n with
  | zero => rfl
  | succ k ih => simp [hexDigits, ih]

theorem hexValue?_hexDigit {d : Nat} (h : d < 16) : hexValue? (hexDigit d) = some d :=
  (by decide +kernel : ∀ d < 16, hexValue? (hexDigit d) = some d) d h

theorem exists_of_mem_hexDigits {c : Char} {width n : Nat} (h : c ∈ hexDigits width n) : ∃ d < 16, c = hexDigit d := by
  induction width generalizing n with
  | zero => cases h
  | succ k ih =>
    rcases List.mem_append.1 h with hm | hm
    · exact ih hm
    · exact ⟨n % 16, Nat.mod_lt n (by decide), List.mem_singleton.1 hm⟩

theorem hexNumber?_concat (s : List Char) (c : Char) :
    hexNumber? (s ++ [c]) = (hexNumber? s).bind fun n => (hexValue? c).map (16 * n + ·) := by
  simp [hexNumber?, List.foldl_append]

theorem hexNumber?_hexDigits (width n : Nat) : hexNumber? (hexDigits width n) = some (n % Nat.pow 16 width) := by
  induction width generalizing n with
  | zero => exact congrArg some (Nat.mod_one n).symm
  | succ k ih =>
    have hd : hexValue? (hexDigit (n % 16)) = some (n % 16) := hexValue?_hexDigit (Nat.mod_lt n (by decide))
    have hn : 16 * (n / 16 % Nat.pow 16 k) + n % 16 = n % Nat.pow 16 (k + 1) := by
      have hpow : Nat.pow 16 (k + 1) = 16 * Nat.pow 16 k := Nat.pow_succ'
      rw [hpow, Nat.mod_mul, Nat.add_comm]
    rw [hexDigits, hexNumber?_concat, ih, hd]
    exact congrArg some hn

end ModelForge.Text
