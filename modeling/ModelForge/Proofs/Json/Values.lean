import ModelForge.Proofs.Json.Scalars
import ModelForge.Proofs.Nesting

/-! A document is read as the value that was written. The fuel of the reader may be any number that is not below the length
of what it reads, so that the lengths of the parts of a value add up. -/

namespace ModelForge

/-- Integers are not too long, objects have each key once, and there are no decimals. -/
inductive Value.IsStorable : Value → Prop where
  | null : IsStorable .null
  | bool (b : Bool) : IsStorable (.bool b)
  | int {n : Int} (h : (Nat.toDigits 10 n.natAbs).length ≤ Json.maxDigits) : IsStorable (.int n)
  | text (s : String) : IsStorable (.text s)
  | list {items : List Value} (h : ∀ v ∈ items, IsStorable v) : IsStorable (.list items)
  | object {entries : List (String × Value)} (hn : (Entries.keys entries).Nodup)
      (h : ∀ e ∈ entries, IsStorable e.2) : IsStorable (.object entries)

namespace Json

def StartsValue (c : Char) : Prop := isSpace c = false ∧ c ≠ ']' ∧ c ≠ '\ufeff'

structure RoundTrips (v : Value) : Prop where
  start : ∀ level, ∃ c s, write level v = c :: s ∧ StartsValue c
  noReturn : ∀ level, '\r' ∉ write level v
  read : ∀ level fuel room rest, (write level v).length ≤ fuel → v.depth ≤ room → StopsNumber rest →
    readValue fuel room (write level v ++ rest) = .ok (v, rest)

theorem RoundTrips.of_succ {v : Value} (start : ∀ level, ∃ c s, write level v = c :: s ∧ StartsValue c)
    (noReturn : ∀ level, '\r' ∉ write level v)
    (read : ∀ level fuel room rest, (write level v).length ≤ fuel + 1 → v.depth ≤ room → StopsNumber rest →
      readValue (fuel + 1) room (write level v ++ rest) = .ok (v, rest)) : RoundTrips v := by
  refine ⟨start, noReturn, fun level fuel room rest hf hd hr => ?_⟩
  cases fuel with
  | zero =>
    obtain ⟨c, s, hs, -⟩ := start level
    rw [hs] at hf
    cases hf
  | succ fuel => exact read level fuel room rest hf hd hr

theorem skip_cons {c : Char} (h : isSpace c = false) (s : List Char) : skip (c :: s) = c :: s :=
  List.dropWhile_cons_of_neg (by simp [h])

theorem skip_newLine (level : Nat) (s : List Char) : skip (newLine level ++ s) = skip s := by
  have hs : ∀ c ∈ newLine level, isSpace c = true := by
    intro c hc
    rcases List.mem_cons.1 hc with rfl | hc
    · rfl
    · rw [List.eq_of_mem_replicate hc]
      rfl
  exact List.dropWhile_append_of_pos hs

theorem return_not_mem_newLine (level : Nat) : '\r' ∉ newLine level := by
  simp [newLine, List.mem_replicate]

theorem skip_newLine_close {close : Char} (h : isSpace close = false) (level : Nat) (rest : List Char) :
    skip (newLine level ++ close :: rest) = close :: rest := by
  rw [skip_newLine, skip_cons h]

theorem RoundTrips.skip_write {v : Value} (h : RoundTrips v) (level : Nat) (s : List Char) :
    skip (write level v ++ s) = write level v ++ s := by
  obtain ⟨c, w, hw, hc, -⟩ := h.start level
  rw [hw]
  exact skip_cons hc _

theorem stopsNumber_newLine (level : Nat) (s : List Char) : StopsNumber (newLine level ++ s) :=
  .cons (by decide) _

/-! Values without parts. -/

theorem startsValue_of_mem_words {w : List Char × Value} (h : w ∈ words) : ∃ c s, w.1 = c :: s ∧ StartsValue c := by
  simp only [words, List.mem_cons, List.not_mem_nil, or_false] at h
  rcases h with rfl | rfl | rfl | rfl | rfl | rfl <;> exact ⟨_, _, rfl, by decide, by decide, by decide⟩

theorem readValue_word {w : List Char × Value} (h : w ∈ words) (fuel room : Nat) (rest : List Char) :
    readValue (fuel + 1) room (w.1 ++ rest) = .ok (w.2, rest) := by
  simp only [words, List.mem_cons, List.not_mem_nil, or_false] at h
  rcases h with rfl | rfl | rfl | rfl | rfl | rfl <;> rfl

theorem RoundTrips.of_word {w : List Char × Value} (h : w ∈ words) (hv : ∀ level, write level w.2 = w.1) :
    RoundTrips w.2 := by
  refine .of_succ (fun level => hv level ▸ startsValue_of_mem_words h) (fun level => ?_) fun level fuel room rest _ _ _ =>
    hv level ▸ readValue_word h fuel room rest
  rw [hv]
  simp only [words, List.mem_cons, List.not_mem_nil, or_false] at h
  rcases h with rfl | rfl | rfl | rfl | rfl | rfl <;> decide

theorem RoundTrips.null : RoundTrips .null := .of_word (.head _) fun _ => by rw [write]

theorem RoundTrips.bool (b : Bool) : RoundTrips (.bool b) := by
  cases b with
  | true => exact .of_word (.tail _ (.head _)) fun _ => by rw [write, if_pos rfl]
  | false => exact .of_word (.tail _ (.tail _ (.head _))) fun _ => by rw [write, if_neg Bool.false_ne_true]

theorem RoundTrips.text (t : String) : RoundTrips (.text t) := by
  have hw (level : Nat) : write level (.text t) = '"' :: (t.toList.flatMap escapedChar ++ ['"']) := by
    rw [write]
    rfl
  refine .of_succ (fun level => ⟨'"', _, hw level, by decide, by decide, by decide⟩) (fun level => ?_)
    fun level fuel room rest _ _ _ => ?_
  · rw [write]
    exact return_not_mem_writeText t
  · rw [hw, List.cons_append, readValue, readText_writeText]
    rfl

theorem startsValue_of_isDigit {c : Char} (h : isDigit c = true) : StartsValue c := by
  refine ⟨?_, ?_, ?_⟩
  · simp only [isSpace, Bool.or_eq_false_iff, decide_eq_false_iff_not]
    refine ⟨⟨⟨?_, ?_⟩, ?_⟩, ?_⟩ <;> exact fun e => absurd (e ▸ h) (by decide)
  · exact fun e => absurd (e ▸ h) (by decide)
  · exact fun e => absurd (e ▸ h) (by decide)

/-- A digit stands at the start, perhaps after a sign. -/
def StartsNumber (s : List Char) : Prop := ∃ c t, isDigit c = true ∧ (s = c :: t ∨ s = '-' :: c :: t)

theorem StartsNumber.startsValue {s : List Char} (h : StartsNumber s) : ∃ c t, s = c :: t ∧ StartsValue c := by
  obtain ⟨c, t, hc, rfl | rfl⟩ := h
  · exact ⟨c, t, rfl, startsValue_of_isDigit hc⟩
  · exact ⟨'-', c :: t, rfl, by decide, by decide, by decide⟩

theorem StartsNumber.readWord?_eq_none {s : List Char} (h : StartsNumber s) : readWord? s = none := by
  have hw : ∀ w ∈ words, w.1.isPrefixOf s = false := by
    intro w hw
    obtain ⟨c, t, hc, hs⟩ := h
    simp only [words, List.mem_cons, List.not_mem_nil, or_false] at hw
    -- No word starts with a digit, and the one with a sign has none after it.
    rcases hs with rfl | rfl
    · rcases hw with rfl | rfl | rfl | rfl | rfl | rfl <;>
        exact Bool.and_eq_false_imp.2 fun e => absurd hc (by rw [← beq_iff_eq.1 e]; decide)
    · rcases hw with rfl | rfl | rfl | rfl | rfl | rfl <;>
        first
          | rfl
          | exact Bool.and_eq_false_imp.2 fun _ => Bool.and_eq_false_imp.2 fun e =>
              absurd hc (by rw [← beq_iff_eq.1 e]; decide)
  rw [readWord?, List.find?_eq_none.2 fun w hm => Bool.eq_false_iff.1 (hw w hm)]
  rfl

theorem StartsNumber.append {s : List Char} (h : StartsNumber s) (rest : List Char) : StartsNumber (s ++ rest) := by
  obtain ⟨c, t, hc, hs⟩ := h
  refine ⟨c, t ++ rest, hc, hs.imp ?_ ?_⟩ <;> exact fun e => by rw [e]; rfl

theorem readValue_number {s : List Char} (h : StartsNumber s) (fuel room : Nat) :
    readValue (fuel + 1) room s = readNumber s := by
  have hword := h.readWord?_eq_none
  obtain ⟨c, t, hs, hc⟩ : ∃ c t, s = c :: t ∧ c ∉ ['"', '[', '\x7b'] := by
    obtain ⟨c, t, hc, rfl | rfl⟩ := h
    · exact ⟨c, t, rfl, fun hm => absurd hc (by
        simp only [List.mem_cons, List.not_mem_nil, or_false] at hm
        rcases hm with rfl | rfl | rfl <;> decide)⟩
    · exact ⟨'-', c :: t, rfl, by decide⟩
  simp only [List.mem_cons, List.not_mem_nil, or_false, not_or] at hc
  obtain ⟨hq, hb, ho⟩ := hc
  rw [readValue.eq_def]
  split
  · next heq => cases heq
  · next heq =>
    cases heq
    split
    · exact absurd (List.cons.inj hs).1.symm hq
    · exact absurd (List.cons.inj hs).1.symm hb
    · exact absurd (List.cons.inj hs).1.symm ho
    · rw [hword]

theorem startsNumber_int (n : Int) : StartsNumber (toString n).toList := by
  obtain ⟨c, s, hs⟩ := List.exists_cons_of_ne_nil (Nat.toDigits_ne_nil (b := 10) (n := n.natAbs))
  have hc : isDigit c = true := isDigit_of_mem_toDigits (n := n.natAbs) (hs ▸ List.mem_cons_self)
  refine ⟨c, s, hc, ?_⟩
  rw [toList_toString_int, hs]
  split
  · exact .inr rfl
  · exact .inl rfl

theorem RoundTrips.int {n : Int} (hn : (Nat.toDigits 10 n.natAbs).length ≤ maxDigits) : RoundTrips (.int n) := by
  have hw (level : Nat) : write level (.int n) = (toString n).toList := by rw [write]
  refine .of_succ (fun level => ?_) (fun level hm => ?_) fun level fuel room rest _ _ hr => ?_
  · rw [hw]
    exact (startsNumber_int n).startsValue
  · rw [hw, toList_toString_int] at hm
    rcases List.mem_append.1 hm with hm | hm
    · split at hm <;> simp at hm
    · exact absurd (isDigit_of_mem_toDigits hm) (by decide)
  · rw [hw, readValue_number ((startsNumber_int n).append rest), readNumber_int hn hr]

/-! Lists. -/

def partsEnd (more : Bool) (others : List Char) (level : Nat) (close : Char) (rest : List Char) : List Char :=
  comma more ++ (others ++ (newLine level ++ close :: rest))

theorem stopsNumber_partsEnd {α : Type} {parts : List α} {others : List Char} (h : parts = [] → others = []) (level : Nat)
    (close : Char) (rest : List Char) : StopsNumber (partsEnd (!parts.isEmpty) others level close rest) := by
  cases parts with
  | nil =>
    rw [partsEnd, h rfl]
    exact stopsNumber_newLine level _
  | cons a parts => exact .cons (by decide) _

theorem skip_partsEnd_false {close : Char} (h : isSpace close = false) (level : Nat) (rest : List Char) :
    skip (partsEnd false [] level close rest) = close :: rest := skip_newLine_close h level rest

theorem skip_partsEnd_true (others : List Char) (level : Nat) (close : Char) (rest : List Char) :
    skip (partsEnd true others level close rest) = ',' :: (others ++ (newLine level ++ close :: rest)) := skip_cons rfl _

section

variable {level outer : Nat}

theorem writeItems_cons (v : Value) (items : List Value) (rest : List Char) :
    writeItems level (v :: items) ++ (newLine outer ++ ']' :: rest) = newLine level ++ (write level v ++
      partsEnd (!items.isEmpty) (writeItems level items) outer ']' rest) := by
  simp [writeItems, partsEnd]

theorem readItems_writeItems {items : List Value} (hi : ∀ v ∈ items, RoundTrips v) (hne : items ≠ []) {fuel room : Nat}
    (hf : (writeItems level items).length ≤ fuel) (hd : ∀ v ∈ items, v.depth ≤ room) (done : List Value)
    (rest : List Char) :
    readItems fuel room done (skip (writeItems level items ++ (newLine outer ++ ']' :: rest))) =
      .ok (.list (done.reverse ++ items), rest) := by
  -- The induction is on the items; what was read before, and the fuel, are whatever the item before left.
  induction items generalizing fuel done with
  | nil => exact absurd rfl hne
  | cons v items ih =>
    have hv := hi v List.mem_cons_self
    rw [writeItems_cons, skip_newLine, hv.skip_write]
    simp only [writeItems, newLine, List.length_append, List.length_cons] at hf
    cases fuel with
    | zero => omega
    | succ fuel =>
      have hstop : StopsNumber (partsEnd (!items.isEmpty) (writeItems level items) outer ']' rest) :=
        stopsNumber_partsEnd (fun hnil => by rw [hnil, writeItems]) outer ']' rest
      rw [readItems, hv.read level fuel room _ (by omega) (hd v List.mem_cons_self) hstop]
      cases items with
      | nil =>
        have hend : skip (partsEnd false (writeItems level []) outer ']' rest) = ']' :: rest :=
          skip_partsEnd_false rfl outer rest
        simp [hend]
      | cons w items =>
        have hlength : (writeItems level (w :: items)).length ≤ fuel := by omega
        have hrest := ih (fun x hx => hi x (List.mem_cons_of_mem v hx)) (List.cons_ne_nil w items) hlength
          (fun x hx => hd x (List.mem_cons_of_mem v hx)) (v :: done)
        simp [skip_partsEnd_true, hrest]

theorem return_not_mem_writeItems {items : List Value} (hi : ∀ v ∈ items, RoundTrips v) :
    '\r' ∉ writeItems level items := by
  induction items with
  | nil => simp [writeItems]
  | cons v items ih =>
    have hv := (hi v List.mem_cons_self).noReturn level
    have hrest := ih fun w hw => hi w (List.mem_cons_of_mem v hw)
    cases hm : !items.isEmpty <;> simp [writeItems, comma, return_not_mem_newLine, hv, hrest, hm]

end

theorem readValue_list {s after : List Char} {c : Char} (h : skip s = c :: after) (hc : c ≠ ']')
    (fuel room : Nat) : readValue (fuel + 1) (room + 1) ('[' :: s) = readItems fuel room [] (skip s) := by
  simp only [readValue, h]
  split
  · next heq => exact absurd (List.cons.inj heq).1 hc
  · rfl

theorem exists_room {n room : Nat} (h : n + 1 ≤ room) : ∃ r, room = r + 1 ∧ n ≤ r := by
  obtain ⟨r, rfl⟩ := Nat.exists_eq_add_one.2 (Nat.zero_lt_of_lt h)
  exact ⟨r, rfl, Nat.le_of_succ_le_succ h⟩

theorem RoundTrips.list {items : List Value} (hi : ∀ v ∈ items, RoundTrips v) : RoundTrips (.list items) := by
  cases items with
  | nil =>
    have hw (level : Nat) : write level (.list []) = ['[', ']'] := by
      rw [write]
      rfl
    refine .of_succ (fun level => ⟨'[', [']'], hw level, by decide, by decide, by decide⟩) (fun level => ?_)
      fun level fuel room rest _ hd _ => ?_
    · rw [hw]
      decide
    · obtain ⟨room, rfl, -⟩ := exists_room hd
      have hend : skip (']' :: rest) = ']' :: rest := skip_cons rfl rest
      simp only [hw, List.cons_append, List.nil_append, readValue, hend]
  | cons v items =>
    have hw (level : Nat) : write level (.list (v :: items)) =
        '[' :: (writeItems (level + 1) (v :: items) ++ (newLine level ++ [']'])) := by
      simp [write]
    refine .of_succ (fun level => ⟨'[', _, hw level, by decide, by decide, by decide⟩) (fun level => ?_)
      fun level fuel room rest hf hd _ => ?_
    · rw [hw]
      simp [return_not_mem_writeItems hi, return_not_mem_newLine]
    · obtain ⟨room, rfl, hroom⟩ := exists_room hd
      rw [hw] at hf ⊢
      obtain ⟨c, s, hs, -, hc, -⟩ := (hi v List.mem_cons_self).start (level + 1)
      have happ : '[' :: (writeItems (level + 1) (v :: items) ++ (newLine level ++ [']'])) ++ rest =
          '[' :: (writeItems (level + 1) (v :: items) ++ (newLine level ++ ']' :: rest)) := by simp
      have hfirst : skip (writeItems (level + 1) (v :: items) ++ (newLine level ++ ']' :: rest)) =
          c :: (s ++ partsEnd (!items.isEmpty) (writeItems (level + 1) items) level ']' rest) := by
        rw [writeItems_cons, skip_newLine, (hi v List.mem_cons_self).skip_write, hs]
        rfl
      rw [List.length_cons, List.length_append] at hf
      rw [happ, readValue_list hfirst hc, readItems_writeItems hi (List.cons_ne_nil v items) (by omega)
        (Value.depthOfItems_le_iff.1 hroom)]
      rfl

/-! Objects. -/

section

variable {level outer : Nat}

theorem writeEntries_cons (k : String) (v : Value) (entries : List (String × Value)) (rest : List Char) :
    writeEntries level ((k, v) :: entries) ++ (newLine outer ++ '\x7d' :: rest) =
      newLine level ++ (writeText k ++ ':' :: ' ' :: (write level v ++
        partsEnd (!entries.isEmpty) (writeEntries level entries) outer '\x7d' rest)) := by
  simp [writeEntries, partsEnd]

theorem skip_writeText (k : String) (s : List Char) : skip (writeText k ++ s) = writeText k ++ s := skip_cons rfl _

theorem readEntries_entry {fuel room : Nat} {s after : List Char} {v : Value} (hs : skip s = s)
    (hv : readValue fuel room s = .ok (v, after)) (done : List (String × Value)) (k : String) :
    (∀ rest, skip after = '\x7d' :: rest → readEntries (fuel + 1) room done (writeText k ++ ':' :: ' ' :: s) =
      .ok (.object (Entries.put k v done), rest)) ∧
    (∀ more, skip after = ',' :: more → readEntries (fuel + 1) room done (writeText k ++ ':' :: ' ' :: s) =
      readEntries fuel room (Entries.put k v done) (skip more)) := by
  have hw : writeText k ++ ':' :: ' ' :: s = '"' :: (k.toList.flatMap escapedChar ++ ['"'] ++ ':' :: ' ' :: s) := rfl
  have hkey := readText_writeText (writeText k ++ ':' :: ' ' :: s) k (':' :: ' ' :: s)
  have hcolon : skip (':' :: ' ' :: s) = ':' :: ' ' :: s := skip_cons rfl _
  have hblank : skip (' ' :: s) = s := hs
  rw [hw] at hkey ⊢
  rw [readEntries]
  -- After an entry the object ends or goes on.
  constructor
  · intro rest hend
    simp only [hkey, hcolon, hblank, hv, hend]
  · intro more hend
    simp only [hkey, hcolon, hblank, hv, hend]

theorem readEntries_writeEntries {entries : List (String × Value)} (he : ∀ e ∈ entries, RoundTrips e.2)
    (hne : entries ≠ []) {fuel room : Nat} (hf : (writeEntries level entries).length ≤ fuel)
    (hd : ∀ e ∈ entries, e.2.depth ≤ room) (done : List (String × Value)) (rest : List Char) :
    readEntries fuel room done (skip (writeEntries level entries ++ (newLine outer ++ '\x7d' :: rest))) =
      .ok (.object (Entries.putAll done entries), rest) := by
  induction entries generalizing fuel done with
  | nil => exact absurd rfl hne
  | cons e entries ih =>
    obtain ⟨k, v⟩ := e
    have hv : RoundTrips v := he _ List.mem_cons_self
    rw [writeEntries_cons, skip_newLine, skip_writeText]
    simp only [writeEntries, newLine, List.length_append, List.length_cons] at hf
    cases fuel with
    | zero => omega
    | succ fuel =>
      have hstop : StopsNumber (partsEnd (!entries.isEmpty) (writeEntries level entries) outer '\x7d' rest) :=
        stopsNumber_partsEnd (fun hnil => by rw [hnil, writeEntries]) outer '\x7d' rest
      obtain ⟨hlast, hmore⟩ := readEntries_entry (hv.skip_write level _)
        (hv.read level fuel room _ (by omega) (hd _ List.mem_cons_self) hstop) done k
      cases entries with
      | nil => exact hlast rest (skip_partsEnd_false rfl outer rest)
      | cons f entries =>
        have hlength : (writeEntries level (f :: entries)).length ≤ fuel := by omega
        have hrest := ih (fun x hx => he x (List.mem_cons_of_mem _ hx)) (List.cons_ne_nil f entries) hlength
          (fun x hx => hd x (List.mem_cons_of_mem _ hx)) (Entries.put k v done)
        exact (hmore _ (skip_partsEnd_true _ outer '\x7d' rest)).trans hrest

theorem return_not_mem_writeEntries {entries : List (String × Value)} (he : ∀ e ∈ entries, RoundTrips e.2) :
    '\r' ∉ writeEntries level entries := by
  induction entries with
  | nil => simp [writeEntries]
  | cons e entries ih =>
    have hv := (he e List.mem_cons_self).noReturn level
    have hrest := ih fun x hx => he x (List.mem_cons_of_mem e hx)
    cases hm : !entries.isEmpty <;>
      simp [writeEntries, comma, return_not_mem_newLine, return_not_mem_writeText, hv, hrest, hm]

end

theorem readValue_object {s after : List Char} {c : Char} (h : skip s = c :: after) (hc : c ≠ '\x7d')
    (fuel room : Nat) : readValue (fuel + 1) (room + 1) ('\x7b' :: s) = readEntries fuel room [] (skip s) := by
  simp only [readValue, h]
  split
  · next heq => exact absurd (List.cons.inj heq).1 hc
  · rfl

theorem RoundTrips.object {entries : List (String × Value)} (hn : (Entries.keys entries).Nodup)
    (he : ∀ e ∈ entries, RoundTrips e.2) : RoundTrips (.object entries) := by
  cases entries with
  | nil =>
    have hw (level : Nat) : write level (.object []) = ['\x7b', '\x7d'] := by
      rw [write]
      rfl
    refine .of_succ (fun level => ⟨'\x7b', ['\x7d'], hw level, by decide, by decide, by decide⟩) (fun level => ?_)
      fun level fuel room rest _ hd _ => ?_
    · rw [hw]
      decide
    · obtain ⟨room, rfl, -⟩ := exists_room hd
      have hend : skip ('\x7d' :: rest) = '\x7d' :: rest := skip_cons rfl rest
      simp only [hw, List.cons_append, List.nil_append, readValue, hend]
  | cons e entries =>
    obtain ⟨k, v⟩ := e
    have hw (level : Nat) : write level (.object ((k, v) :: entries)) =
        '\x7b' :: (writeEntries (level + 1) ((k, v) :: entries) ++ (newLine level ++ ['\x7d'])) := by
      simp [write]
    refine .of_succ (fun level => ⟨'\x7b', _, hw level, by decide, by decide, by decide⟩) (fun level => ?_)
      fun level fuel room rest hf hd _ => ?_
    · rw [hw]
      simp [return_not_mem_writeEntries he, return_not_mem_newLine]
    · obtain ⟨room, rfl, hroom⟩ := exists_room hd
      rw [hw] at hf ⊢
      have happ : '\x7b' :: (writeEntries (level + 1) ((k, v) :: entries) ++ (newLine level ++ ['\x7d'])) ++ rest =
          '\x7b' :: (writeEntries (level + 1) ((k, v) :: entries) ++ (newLine level ++ '\x7d' :: rest)) := by simp
      have hfirst : ∃ s, skip (writeEntries (level + 1) ((k, v) :: entries) ++ (newLine level ++ '\x7d' :: rest)) =
          '"' :: s := by
        rw [writeEntries_cons, skip_newLine, skip_writeText]
        exact ⟨_, rfl⟩
      obtain ⟨s, hs⟩ := hfirst
      rw [List.length_cons, List.length_append] at hf
      rw [happ, readValue_object hs (by decide), readEntries_writeEntries he (List.cons_ne_nil _ entries) (by omega)
        (Value.depthOfEntries_le_iff.1 hroom), Entries.putAll_of_nodup hn]
      rfl

theorem roundTrips_of_isStorable {v : Value} (h : v.IsStorable) : RoundTrips v := by
  induction h with
  | null => exact .null
  | bool b => exact .bool b
  | int hn => exact .int hn
  | text t => exact .text t
  | list _ ih => exact .list ih
  | object hn _ ih => exact .object hn ih

theorem RoundTrips.read_write {v : Value} (hv : RoundTrips v) {levels : Nat} (hd : v.depth ≤ levels) :
    Json.read (write 0 v) levels = .ok v := by
  obtain ⟨c, s, hs, hc, -, hmark⟩ := hv.start 0
  have hskip : skip (write 0 v) = write 0 v := by
    rw [hs]
    exact skip_cons hc s
  have hread := hv.read 0 ((write 0 v).length + 1) levels [] (Nat.le_succ _) hd .nil
  rw [List.append_nil] at hread
  unfold Json.read
  split
  · next heq => exact absurd (List.cons.inj (hs.symm.trans heq)).1 hmark
  · rw [hskip, hread]
    rfl

end Json

end ModelForge
