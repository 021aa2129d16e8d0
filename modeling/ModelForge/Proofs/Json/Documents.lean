import Mathlib.Data.Nat.Digits.Defs
import ModelForge.Proofs.Json.Decimals

/-! The values that documents have are just those that are read again as they were written. -/

namespace ModelForge

/-- Integers are not too long, decimals are kept, and objects have each key once. -/
inductive Value.IsJson : Value → Prop where
  | null : IsJson .null
  | bool (b : Bool) : IsJson (.bool b)
  | int {n : Int} (h : (Nat.toDigits 10 n.natAbs).length ≤ Json.maxDigits) : IsJson (.int n)
  | decimal {negative : Bool} {size : Magnitude} (h : size.IsKept negative) : IsJson (.decimal negative size)
  | text (s : String) : IsJson (.text s)
  | list {items : List Value} (h : ∀ v ∈ items, IsJson v) : IsJson (.list items)
  | object {entries : List (String × Value)} (hn : (Entries.keys entries).Nodup) (h : ∀ e ∈ entries, IsJson e.2) :
      IsJson (.object entries)

namespace Value.IsJson

variable {entries table news : List (String × Value)}

theorem nodup_keys (h : (Value.object entries).IsJson) : (Entries.keys entries).Nodup := by
  cases h with
  | object hn => exact hn

theorem entry (h : (Value.object entries).IsJson) {e : String × Value} (he : e ∈ entries) : e.2.IsJson := by
  cases h with
  | object _ hv => exact hv e he

theorem putAll (ht : (Value.object table).IsJson) (hn : (Value.object news).IsJson) :
    (Value.object (Entries.putAll table news)).IsJson := by
  refine .object (Entries.nodup_keys_putAll ht.nodup_keys news) fun e he => ?_
  rcases Entries.mem_of_mem_putAll he with he | he
  · exact ht.entry he
  · exact hn.entry he

end Value.IsJson

namespace Json

variable {halves : Bool} {levels : Nat} {s : List Char} {v : Value}

theorem AllDigits.not_mem (h : AllDigits s) {c : Char} (hc : isDigit c = false) : c ∉ s :=
  fun hm => Bool.false_ne_true (hc.symm.trans (h c hm))

theorem IsNumber.return_not_mem (h : IsNumber v s) : '\r' ∉ s := by
  have hsign (negative : Bool) : '\r' ∉ signText negative := by cases negative <;> decide
  have hdigits {t : List Char} (ht : AllDigits t) : '\r' ∉ t := ht.not_mem (by decide)
  have hexponent {a : Int} {t : List Char} (ht : IsExponent a t) : '\r' ∉ t := by
    cases ht with
    | none => exact List.not_mem_nil
    | some hm hs _ hd => rcases hm with rfl | rfl <;> rcases hs with rfl | rfl | rfl <;> simp [hdigits hd]
  have hfraction {t : List Char} (ht : AllDigits t) : '\r' ∉ fractionText t := by
    unfold fractionText
    split
    · exact List.not_mem_nil
    · simp [hdigits ht]
  cases h with
  | int negative hw => simp [hsign, hdigits hw.allDigits]
  | decimal negative hw hf he => simp [hsign, hdigits hw.allDigits, hfraction hf, hexponent he]

theorem RoundTrips.decimal {negative : Bool} {size : Magnitude} (h : size.IsKept negative) :
    RoundTrips (.decimal negative size) := by
  cases h with
  | finite _ hn hr =>
    next d e =>
    have hnumber := hr ▸ isNumber_finiteText negative hn
    have hw (level : Nat) : write level (.decimal negative (.finite d e)) =
        signText negative ++ Value.finiteText d e := by rw [write, Value.signedText, signText]
    have hread (room : Nat) : (Part.value _).IsRead room _ := isRead_number hnumber
    exact ⟨fun level => hw level ▸ (hread 0).1, fun level => hw level ▸ hnumber.return_not_mem,
      fun level fuel room rest hf _ hs => by
        rw [hw] at hf ⊢
        exact (hread room).2 fuel rest hf hs⟩
  | infinite =>
    cases negative with
    | false => exact .of_word (w := ("Infinity".toList, _)) (by simp [words]) fun _ => by rw [write]; rfl
    | true => exact .of_word (w := ("-Infinity".toList, _)) (by simp [words]) fun _ => by rw [write]; rfl
  | undefined => exact .of_word (w := ("NaN".toList, _)) (by simp [words]) fun _ => by rw [write]; rfl

theorem roundTrips_of_isJson (h : v.IsJson) : RoundTrips v := by
  induction h with
  | null => exact .null
  | bool b => exact .bool b
  | int hn => exact .int hn
  | decimal hd => exact .decimal hd
  | text t => exact .text t
  | list _ ih => exact .list ih
  | object hn _ ih => exact .object hn ih

/-! What a document has for its value. -/

def Part.IsJson : Part → Prop
  | .value v => v.IsJson
  | .items vs => ∀ v ∈ vs, v.IsJson
  | .entry _ v => v.IsJson
  | .entries es => ∀ e ∈ es, e.2.IsJson

theorem IsNumber.isJson (h : IsNumber v s) : v.IsJson := by
  cases h with
  | @int negative whole hw hl =>
    have habs : (signed negative (digitsValue whole)).natAbs = digitsValue whole := by cases negative <;> simp [signed]
    refine .int (Nat.le_trans ?_ hl)
    rw [habs]
    exact Nat.toDigits_length 10 _ _ (List.length_pos_iff.2 hw.ne_nil) (digitsValue_lt hw.allDigits)
  | decimal negative _ _ _ _ hn => exact .decimal ((Magnitude.isNormal_of_isReduced hn).isKept_rounded negative)

theorem isJson_of_denotes {p : Part} (h : Denotes halves levels p s) : p.IsJson := by
  induction h with
  | @word _ w h =>
    simp only [words, List.mem_cons, List.not_mem_nil, or_false] at h
    rcases h with rfl | rfl | rfl | rfl | rfl | rfl
    · exact .null
    · exact .bool true
    · exact .bool false
    · exact .decimal .undefined
    · exact .decimal (.infinite false)
    · exact .decimal (.infinite true)
  | number h => exact h.isJson
  | text => exact .text _
  | emptyList => exact .list (List.forall_mem_nil _)
  | list _ _ ih => exact .list ih
  | emptyObject => exact .object List.nodup_nil (List.forall_mem_nil _)
  | object _ _ ih =>
    have hnil : (Entries.keys ([] : List (String × Value))).Nodup := List.nodup_nil
    exact .object (Entries.nodup_keys_putAll hnil _) fun e he =>
      ih e ((Entries.mem_of_mem_putAll he).resolve_left List.not_mem_nil)
  | lastItem _ _ ih => exact List.forall_mem_singleton.2 ih
  | moreItems _ _ _ _ ih ihr => exact List.forall_mem_cons.2 ⟨ih, ihr⟩
  | entry _ _ _ _ _ ih => exact ih
  | lastEntry _ ih => exact List.forall_mem_singleton.2 ih
  | moreEntries _ _ _ ih ihr => exact List.forall_mem_cons.2 ⟨ih, ihr⟩

theorem IsDocument.isJson {document : List Char} (h : IsDocument halves levels document v) : v.IsJson := by
  obtain ⟨_, _, _, _, _, _, h⟩ := h
  exact isJson_of_denotes h

end Json

end ModelForge
