import ModelForge.Settings.Save

/-! How deep lists and objects stand in one another, which is what both copying and reading a value take of the stack. -/

namespace ModelForge.Value

mutual

def depth : Value → Nat
  | list items => depthOfItems items + 1
  | object entries => depthOfEntries entries + 1
  | _ => 0

def depthOfItems : List Value → Nat
  | [] => 0
  | v :: rest => max v.depth (depthOfItems rest)

def depthOfEntries : List (String × Value) → Nat
  | [] => 0
  | (_, v) :: rest => max v.depth (depthOfEntries rest)

end

theorem depthOfItems_le_iff {items : List Value} {n : Nat} : depthOfItems items ≤ n ↔ ∀ v ∈ items, v.depth ≤ n := by
  induction items with
  | nil => simp [depthOfItems]
  | cons v rest ih => rw [depthOfItems, Nat.max_le, ih, List.forall_mem_cons]

theorem depthOfEntries_le_iff {entries : List (String × Value)} {n : Nat} :
    depthOfEntries entries ≤ n ↔ ∀ e ∈ entries, e.2.depth ≤ n := by
  induction entries with
  | nil => simp [depthOfEntries]
  | cons e rest ih => rw [depthOfEntries, Nat.max_le, ih, List.forall_mem_cons]

/-! Each level takes two calls when it is copied. -/

mutual

theorem two_mul_depth_le_calls : (v : Value) → 2 * v.depth ≤ v.calls
  | list items => by
    have hi := two_mul_depthOfItems_le items
    rw [depth, calls]
    omega
  | object entries => by
    have he := two_mul_depthOfEntries_le entries
    rw [depth, calls]
    omega
  | null => Nat.zero_le _
  | bool _ => Nat.zero_le _
  | int _ => Nat.zero_le _
  | decimal _ _ => Nat.zero_le _
  | text _ => Nat.zero_le _

theorem two_mul_depthOfItems_le : (items : List Value) → 2 * depthOfItems items ≤ callsOfItems items
  | [] => Nat.zero_le _
  | v :: rest => by
    have hv := two_mul_depth_le_calls v
    have hr := two_mul_depthOfItems_le rest
    rw [depthOfItems, callsOfItems]
    omega

theorem two_mul_depthOfEntries_le : (entries : List (String × Value)) →
    2 * depthOfEntries entries ≤ callsOfEntries entries
  | [] => Nat.zero_le _
  | (_, v) :: rest => by
    have hv := two_mul_depth_le_calls v
    have hr := two_mul_depthOfEntries_le rest
    rw [depthOfEntries, callsOfEntries]
    omega

end

end ModelForge.Value
