import ModelForge.Proofs.Json.Numbers
import ModelForge.Proofs.Json.Quoting
import ModelForge.Proofs.Json.Values

/-! Reading gives a value just for the documents of that value. So what is read does not depend on the fuel, and an error
means that the text is no document. -/

namespace ModelForge.Json

variable {halves : Bool} {s t rest : List Char} {v : Value} {fuel room : Nat}

/-! Blanks. -/

theorem exists_spaces (s : List Char) : ∃ b, Spaces b ∧ s = b ++ skip s :=
  ⟨s.takeWhile isSpace, fun _ => List.mem_takeWhile_imp, List.takeWhile_append_dropWhile.symm⟩

theorem Spaces.skip_append {b : List Char} (h : Spaces b) (s : List Char) : skip (b ++ s) = skip s :=
  List.dropWhile_append_of_pos h

theorem Spaces.skip_append_cons {b : List Char} (h : Spaces b) {c : Char} (hc : isSpace c = false) (s : List Char) :
    skip (b ++ c :: s) = c :: s := by
  rw [h.skip_append, skip_cons hc]

theorem Spaces.stopsNumber_append {b : List Char} (h : Spaces b) (hr : StopsNumber rest) : StopsNumber (b ++ rest) := by
  cases b with
  | nil => exact hr
  | cons c b =>
    have hc := h c List.mem_cons_self
    simp only [isSpace, Bool.or_eq_true, decide_eq_true_eq] at hc
    refine .cons ?_ _
    rcases hc with ((rfl | rfl) | rfl) | rfl <;> decide

/-! What is read is the value of a document. -/

/-- What comes of a reader that has some fuel, if anything does. -/
structure IsSoundAt (fuel : Nat) : Prop where
  value : ∀ {room s v rest}, readValue fuel room s = .ok (v, rest) → ∃ t, s = t ++ rest ∧ Denotes true room (.value v) t
  items : ∀ {room done s v rest}, readItems fuel room done s = .ok (v, rest) →
    ∃ vs t, v = .list (done.reverse ++ vs) ∧ s = t ++ ']' :: rest ∧ Denotes true room (.items vs) t
  entries : ∀ {room done s v rest}, readEntries fuel room done s = .ok (v, rest) →
    ∃ es t, v = .object (Entries.putAll done es) ∧ s = t ++ '\x7d' :: rest ∧ Denotes true room (.entries es) t

theorem denotes_of_readWord? (h : readWord? s = some (v, rest)) :
    ∃ t, s = t ++ rest ∧ Denotes halves room (.value v) t := by
  obtain ⟨w, hw, he⟩ := Option.map_eq_some_iff.1 h
  cases he
  have hp : w.1 <+: s := List.isPrefixOf_iff_prefix.1 (List.find?_some hw :)
  exact ⟨w.1, (List.prefix_iff_eq_append.1 hp).symm, .word (List.mem_of_find?_eq_some hw)⟩

namespace IsSoundAt

theorem value_succ (h : IsSoundAt fuel) (hv : readValue (fuel + 1) room s = .ok (v, rest)) :
    ∃ t, s = t ++ rest ∧ Denotes true room (.value v) t := by
  rw [readValue.eq_def] at hv
  split at hv
  · cases hv
  · next heq =>
    cases heq
    split at hv
    · next inner =>
      cases ht : readText ('"' :: inner) [] inner with
      | error f =>
        rw [ht] at hv
        cases hv
      | ok r =>
        rw [ht] at hv
        cases hv
        obtain ⟨cs, k, rfl, ht, hi⟩ := isInner_of_readText ht
        refine ⟨'"' :: (k ++ ['"']), by simp, ?_⟩
        rw [ht]
        exact .text hi
    · next inner =>
      obtain ⟨b, hb, hs⟩ := exists_spaces inner
      split at hv
      · cases hv
      · split at hv
        · next after hafter =>
          cases hv
          exact ⟨'[' :: (b ++ [']']), by rw [hs, hafter]; simp, .emptyList hb⟩
        · obtain ⟨vs, t, rfl, ht, hd⟩ := h.items hv
          exact ⟨'[' :: (b ++ (t ++ [']'])), by rw [hs, ht]; simp, .list hb hd⟩
    · next inner =>
      obtain ⟨b, hb, hs⟩ := exists_spaces inner
      split at hv
      · cases hv
      · split at hv
        · next after hafter =>
          cases hv
          exact ⟨'\x7b' :: (b ++ ['\x7d']), by rw [hs, hafter]; simp, .emptyObject hb⟩
        · obtain ⟨es, t, rfl, ht, hd⟩ := h.entries hv
          exact ⟨'\x7b' :: (b ++ (t ++ ['\x7d'])), by rw [hs, ht]; simp, .object hb hd⟩
    · split at hv
      · next hw =>
        cases hv
        exact denotes_of_readWord? hw
      · obtain ⟨t, ht, hn⟩ := isNumber_of_readNumber hv
        exact ⟨t, ht, .number hn⟩

theorem items_succ (h : IsSoundAt fuel) {done : List Value} (hv : readItems (fuel + 1) room done s = .ok (v, rest)) :
    ∃ vs t, v = .list (done.reverse ++ vs) ∧ s = t ++ ']' :: rest ∧ Denotes true room (.items vs) t := by
  rw [readItems] at hv
  split at hv
  · cases hv
  · next w next hw =>
    obtain ⟨t, rfl, hd⟩ := h.value hw
    obtain ⟨a, ha, hnext⟩ := exists_spaces next
    split at hv
    · next after hafter =>
      cases hv
      exact ⟨[w], t ++ a, by simp, by rw [hnext, hafter]; simp, .lastItem hd ha⟩
    · next more hmore =>
      obtain ⟨b, hb, hb'⟩ := exists_spaces more
      obtain ⟨vs, r, rfl, hr, hds⟩ := h.items hv
      exact ⟨w :: vs, t ++ (a ++ ',' :: (b ++ r)), by simp, by rw [hnext, hmore, hb', hr]; simp, .moreItems hd ha hb hds⟩
    · cases hv

theorem entries_succ (h : IsSoundAt fuel) {done : List (String × Value)}
    (hv : readEntries (fuel + 1) room done s = .ok (v, rest)) :
    ∃ es t, v = .object (Entries.putAll done es) ∧ s = t ++ '\x7d' :: rest ∧ Denotes true room (.entries es) t := by
  rw [readEntries.eq_def] at hv
  split at hv
  · cases hv
  · next heq =>
    cases heq
    split at hv
    · next inner =>
      split at hv
      · cases hv
      · next key afterKey hkey =>
        obtain ⟨cs, k, rfl, rfl, hi⟩ := isInner_of_readText hkey
        obtain ⟨a, ha, hafterKey⟩ := exists_spaces afterKey
        split at hv
        · next more hmore =>
          obtain ⟨b, hb, hb'⟩ := exists_spaces more
          split at hv
          · cases hv
          · next w afterValue hw =>
            obtain ⟨t, ht, hd⟩ := h.value hw
            obtain ⟨c, hc, hafterValue⟩ := exists_spaces afterValue
            have he := Denotes.entry hi ha hb hd hc
            -- The entry is the last one, or a comma and others follow it.
            split at hv
            · next after hafter =>
              cases hv
              refine ⟨[(String.ofList cs, w)], _, rfl, ?_, .lastEntry he⟩
              rw [hafterKey, hmore, hb', ht, hafterValue, hafter]
              simp
            · next rest' hrest =>
              obtain ⟨d, hd', hd''⟩ := exists_spaces rest'
              obtain ⟨es, r, rfl, hr, hds⟩ := h.entries hv
              refine ⟨(String.ofList cs, w) :: es, _, rfl, ?_, .moreEntries he hd' hds⟩
              rw [hafterKey, hmore, hb', ht, hafterValue, hrest, hd'', hr]
              simp
            · cases hv
        · cases hv
    · cases hv

end IsSoundAt

theorem isSoundAt (fuel : Nat) : IsSoundAt fuel := by
  induction fuel with
  | zero => exact ⟨nofun, nofun, nofun⟩
  | succ fuel ih => exact ⟨ih.value_succ, ih.items_succ, ih.entries_succ⟩

/-! The value of a document is what is read. -/

/-- How the text of a part is read within a number of levels, with what follows it. -/
def Part.IsRead (room : Nat) : Part → List Char → Prop
  | .value v, s => (∃ c t, s = c :: t ∧ StartsValue c) ∧
      ∀ fuel rest, s.length ≤ fuel → StopsNumber rest → readValue fuel room (s ++ rest) = .ok (v, rest)
  | .items vs, s => (∃ c t, s = c :: t ∧ StartsValue c) ∧ ∀ fuel done rest, s.length < fuel →
      readItems fuel room done (s ++ ']' :: rest) = .ok (.list (done.reverse ++ vs), rest)
  | .entry k v, s => (∃ t, s = '"' :: t) ∧ ∀ fuel done, s.length ≤ fuel →
      (∀ rest, readEntries (fuel + 1) room done (s ++ '\x7d' :: rest) = .ok (.object (Entries.put k v done), rest)) ∧
      ∀ rest, readEntries (fuel + 1) room done (s ++ ',' :: rest) = readEntries fuel room (Entries.put k v done) (skip rest)
  | .entries es, s => (∃ t, s = '"' :: t) ∧ ∀ fuel done rest, s.length < fuel →
      readEntries fuel room done (s ++ '\x7d' :: rest) = .ok (.object (Entries.putAll done es), rest)

theorem stopsNumber_of_mem {c : Char} (h : c ∈ [']', '\x7d', ',']) (s : List Char) : StopsNumber (c :: s) := by
  refine .cons ?_ s
  simp only [List.mem_cons, List.not_mem_nil, or_false] at h
  rcases h with rfl | rfl | rfl <;> decide

theorem Part.isRead_value_of_succ {c : Char} (hc : StartsValue c)
    (h : ∀ fuel rest, t.length ≤ fuel → StopsNumber rest → readValue (fuel + 1) room (c :: t ++ rest) = .ok (v, rest)) :
    (Part.value v).IsRead room (c :: t) := by
  refine ⟨⟨c, t, rfl, hc⟩, fun fuel rest hf hr => ?_⟩
  obtain ⟨fuel, rfl⟩ := Nat.exists_eq_add_one.2 (Nat.zero_lt_of_lt hf)
  exact h fuel rest (Nat.le_of_succ_le_succ hf) hr

theorem isRead_word {w : List Char × Value} (h : w ∈ words) : (Part.value w.2).IsRead room w.1 := by
  obtain ⟨c, t, hw, hc⟩ := startsValue_of_mem_words h
  rw [hw]
  refine Part.isRead_value_of_succ hc fun fuel rest _ _ => ?_
  rw [← hw, readValue_word h]

theorem IsNumber.startsNumber (h : IsNumber v s) : StartsNumber s := by
  have hw (negative : Bool) {whole : List Char} (hw : IsWhole whole) (r : List Char) :
      StartsNumber (signText negative ++ whole ++ r) := by
    obtain ⟨c, t, rfl⟩ := List.exists_cons_of_ne_nil hw.ne_nil
    refine ⟨c, t ++ r, hw.allDigits c List.mem_cons_self, ?_⟩
    cases negative with
    | true => exact .inr rfl
    | false => exact .inl rfl
  cases h with
  | int negative h => simpa using hw negative h []
  | decimal negative h => simpa using hw negative h _

theorem isRead_number (h : IsNumber v s) : (Part.value v).IsRead room s := by
  have hstart := h.startsNumber
  obtain ⟨c, t, rfl, hc⟩ := hstart.startsValue
  refine Part.isRead_value_of_succ hc fun fuel rest _ hr => ?_
  rw [readValue_number (hstart.append rest), readNumber_of_isNumber h hr]

theorem isRead_text {cs : List Char} (h : IsInner halves cs s) :
    (Part.value (.text (String.ofList cs))).IsRead room ('"' :: (s ++ ['"'])) := by
  refine Part.isRead_value_of_succ ⟨by decide, by decide, by decide⟩ fun fuel rest _ _ => ?_
  have hread := readText_of_isInner h ('"' :: (s ++ '"' :: rest)) [] rest
  have happ : '"' :: (s ++ ['"']) ++ rest = '"' :: (s ++ '"' :: rest) := by simp
  rw [happ, readValue, hread]
  rfl

theorem isRead_emptyList {b : List Char} (hb : Spaces b) :
    (Part.value (.list [])).IsRead (room + 1) ('[' :: (b ++ [']'])) := by
  refine Part.isRead_value_of_succ ⟨by decide, by decide, by decide⟩ fun fuel rest _ _ => ?_
  have hskip := hb.skip_append_cons (c := ']') (by decide) rest
  simp [readValue, hskip]

theorem isRead_list {vs : List Value} {b : List Char} (hb : Spaces b) (h : (Part.items vs).IsRead room s) :
    (Part.value (.list vs)).IsRead (room + 1) ('[' :: (b ++ (s ++ [']']))) := by
  obtain ⟨⟨c, t, rfl, hc⟩, hread⟩ := h
  refine Part.isRead_value_of_succ ⟨by decide, by decide, by decide⟩ fun fuel rest hf _ => ?_
  have happ : '[' :: (b ++ (c :: t ++ [']'])) ++ rest = '[' :: (b ++ c :: (t ++ ']' :: rest)) := by simp
  have hskip := hb.skip_append_cons hc.1 (t ++ ']' :: rest)
  have hlength : (c :: t).length < fuel := by
    simp only [List.length_append, List.length_cons, List.length_nil] at hf ⊢
    omega
  rw [happ, readValue_list hskip hc.2.1, hskip]
  exact hread fuel [] rest hlength

theorem isRead_emptyObject {b : List Char} (hb : Spaces b) :
    (Part.value (.object [])).IsRead (room + 1) ('\x7b' :: (b ++ ['\x7d'])) := by
  refine Part.isRead_value_of_succ ⟨by decide, by decide, by decide⟩ fun fuel rest _ _ => ?_
  have hskip := hb.skip_append_cons (c := '\x7d') (by decide) rest
  simp [readValue, hskip]

theorem isRead_object {es : List (String × Value)} {b : List Char} (hb : Spaces b)
    (h : (Part.entries es).IsRead room s) :
    (Part.value (.object (Entries.putAll [] es))).IsRead (room + 1) ('\x7b' :: (b ++ (s ++ ['\x7d']))) := by
  obtain ⟨⟨t, rfl⟩, hread⟩ := h
  refine Part.isRead_value_of_succ ⟨by decide, by decide, by decide⟩ fun fuel rest hf _ => ?_
  have happ : '\x7b' :: (b ++ ('"' :: t ++ ['\x7d'])) ++ rest = '\x7b' :: (b ++ '"' :: (t ++ '\x7d' :: rest)) := by simp
  have hskip := hb.skip_append_cons (c := '"') (by decide) (t ++ '\x7d' :: rest)
  have hlength : ('"' :: t).length < fuel := by
    simp only [List.length_append, List.length_cons, List.length_nil] at hf ⊢
    omega
  rw [happ, readValue_object hskip (by decide), hskip]
  exact hread fuel [] rest hlength

theorem isRead_lastItem {a : List Char} (h : (Part.value v).IsRead room s) (ha : Spaces a) :
    (Part.items [v]).IsRead room (s ++ a) := by
  obtain ⟨⟨c, t, rfl, hc⟩, hread⟩ := h
  refine ⟨⟨c, t ++ a, rfl, hc⟩, fun fuel done rest hf => ?_⟩
  obtain ⟨fuel, rfl⟩ := Nat.exists_eq_add_one.2 (Nat.zero_lt_of_lt hf)
  rw [List.length_append] at hf
  rw [List.append_assoc, readItems,
    hread fuel _ (by omega) (ha.stopsNumber_append (stopsNumber_of_mem (by decide) rest))]
  simp [ha.skip_append_cons (c := ']') (by decide) rest]

theorem isRead_moreItems {vs : List Value} {a b r : List Char} (h : (Part.value v).IsRead room s) (ha : Spaces a)
    (hb : Spaces b) (hr : (Part.items vs).IsRead room r) : (Part.items (v :: vs)).IsRead room (s ++ (a ++ ',' :: (b ++ r))) := by
  obtain ⟨⟨c, t, rfl, hc⟩, hread⟩ := h
  obtain ⟨⟨d, u, rfl, hd⟩, hrest⟩ := hr
  refine ⟨⟨c, _, rfl, hc⟩, fun fuel done rest hf => ?_⟩
  obtain ⟨fuel, rfl⟩ := Nat.exists_eq_add_one.2 (Nat.zero_lt_of_lt hf)
  have happ : c :: t ++ (a ++ ',' :: (b ++ d :: u)) ++ ']' :: rest =
      c :: t ++ (a ++ ',' :: (b ++ d :: (u ++ ']' :: rest))) := by simp
  simp only [List.length_append, List.length_cons] at hf hread hrest
  rw [happ, readItems, hread fuel _ (by omega) (ha.stopsNumber_append (stopsNumber_of_mem (by decide) _))]
  have hskip := hb.skip_append_cons hd.1 (u ++ ']' :: rest)
  have hnext := hrest fuel (v :: done) rest (by omega)
  rw [List.cons_append] at hnext
  simp [ha.skip_append_cons (c := ',') (by decide), hskip, hnext]

theorem isRead_entry {cs k a b c : List Char} (hk : IsInner halves cs k) (ha : Spaces a) (hb : Spaces b)
    (h : (Part.value v).IsRead room s) (hc : Spaces c) :
    (Part.entry (String.ofList cs) v).IsRead room ('"' :: (k ++ '"' :: (a ++ ':' :: (b ++ (s ++ c))))) := by
  obtain ⟨⟨d, t, rfl, hd⟩, hread⟩ := h
  refine ⟨⟨_, rfl⟩, fun fuel done hf => ?_⟩
  have hvalue (x : Char) (hx : x ∈ [']', '\x7d', ',']) (rest : List Char) :
      readValue fuel room (d :: t ++ (c ++ x :: rest)) = .ok (v, c ++ x :: rest) := by
    refine hread fuel _ ?_ (hc.stopsNumber_append (stopsNumber_of_mem hx rest))
    simp only [List.length_append, List.length_cons] at hf ⊢
    omega
  have happ (x : Char) (rest : List Char) :
      '"' :: (k ++ '"' :: (a ++ ':' :: (b ++ (d :: t ++ c)))) ++ x :: rest =
        '"' :: (k ++ '"' :: (a ++ ':' :: (b ++ d :: (t ++ (c ++ x :: rest))))) := by simp
  have hkey (opening after : List Char) : readText opening [] (k ++ '"' :: after) = .ok (String.ofList cs, after) :=
    readText_of_isInner hk opening [] after
  have hcolon (after : List Char) := ha.skip_append_cons (c := ':') (by decide) after
  have hblank (after : List Char) := hb.skip_append_cons hd.1 after
  constructor
  · intro rest
    have hv := hvalue '\x7d' (by decide) rest
    have hend := hc.skip_append_cons (c := '\x7d') (by decide) rest
    rw [List.cons_append] at hv
    rw [happ, readEntries]
    simp only [hkey, hcolon, hblank, hv, hend]
  · intro rest
    have hv := hvalue ',' (by decide) rest
    have hend := hc.skip_append_cons (c := ',') (by decide) rest
    rw [List.cons_append] at hv
    rw [happ, readEntries]
    simp only [hkey, hcolon, hblank, hv, hend]

theorem isRead_lastEntry {k : String} (h : (Part.entry k v).IsRead room s) : (Part.entries [(k, v)]).IsRead room s := by
  refine ⟨h.1, fun fuel done rest hf => ?_⟩
  obtain ⟨fuel, rfl⟩ := Nat.exists_eq_add_one.2 (Nat.zero_lt_of_lt hf)
  exact (h.2 fuel done (Nat.le_of_lt_succ hf)).1 rest

theorem isRead_moreEntries {k : String} {es : List (String × Value)} {b r : List Char}
    (h : (Part.entry k v).IsRead room s) (hb : Spaces b) (hr : (Part.entries es).IsRead room r) :
    (Part.entries ((k, v) :: es)).IsRead room (s ++ ',' :: (b ++ r)) := by
  obtain ⟨⟨t, rfl⟩, hread⟩ := h
  obtain ⟨⟨u, rfl⟩, hrest⟩ := hr
  refine ⟨⟨_, rfl⟩, fun fuel done rest hf => ?_⟩
  obtain ⟨fuel, rfl⟩ := Nat.exists_eq_add_one.2 (Nat.zero_lt_of_lt hf)
  have happ : '"' :: t ++ ',' :: (b ++ '"' :: u) ++ '\x7d' :: rest =
      '"' :: t ++ ',' :: (b ++ '"' :: (u ++ '\x7d' :: rest)) := by simp
  simp only [List.length_append, List.length_cons] at hf hread hrest
  rw [happ, (hread fuel done (by omega)).2, hb.skip_append_cons (by decide)]
  exact hrest fuel (Entries.put k v done) rest (by omega)

theorem isRead_of_denotes {p : Part} (h : Denotes halves room p s) : p.IsRead room s := by
  induction h with
  | word h => exact isRead_word h
  | number h => exact isRead_number h
  | text h => exact isRead_text h
  | emptyList hb => exact isRead_emptyList hb
  | list hb _ ih => exact isRead_list hb ih
  | emptyObject hb => exact isRead_emptyObject hb
  | object hb _ ih => exact isRead_object hb ih
  | lastItem _ ha ih => exact isRead_lastItem ih ha
  | moreItems _ ha hb _ ih ihr => exact isRead_moreItems ih ha hb ihr
  | entry hk ha hb _ hc ih => exact isRead_entry hk ha hb ih hc
  | lastEntry _ ih => exact isRead_lastEntry ih
  | moreEntries _ hb _ ih ihr => exact isRead_moreEntries ih hb ihr

theorem isDocument_of_read {document : List Char} {levels : Nat} (h : read document levels = .ok v) :
    IsDocument true levels document v := by
  unfold read at h
  split at h
  · cases h
  · split at h
    · cases h
    · next w after hread =>
      obtain ⟨before, hb, hdocument⟩ := exists_spaces document
      obtain ⟨a, ha, hafter⟩ := exists_spaces after
      obtain ⟨s, hs, hd⟩ := (isSoundAt _).value hread
      split at h
      · next he =>
        cases h
        rw [List.isEmpty_iff.1 he, List.append_nil] at hafter
        exact ⟨before, s, after, by rw [← hs, ← hdocument], hb, hafter ▸ ha, hd⟩
      · cases h

theorem IsDocument.read_eq {document : List Char} {levels : Nat} (h : IsDocument halves levels document v) :
    read document levels = .ok v := by
  obtain ⟨before, s, after, rfl, hb, ha, hd⟩ := h
  obtain ⟨⟨c, t, rfl, hc⟩, hread⟩ := isRead_of_denotes hd
  have hskip := hb.skip_append_cons hc.1 (t ++ after)
  have hstop : StopsNumber (after ++ []) := ha.stopsNumber_append .nil
  have hend : skip (after ++ []) = [] := ha.skip_append []
  rw [List.append_nil] at hstop hend
  -- A byte order mark is no blank and starts no value.
  have hmark : ∀ r, before ++ (c :: t ++ after) ≠ '\ufeff' :: r := by
    intro r hr
    cases before with
    | nil => exact hc.2.2 (List.cons.inj hr).1
    | cons b before =>
      have hspace := hb b List.mem_cons_self
      rw [(List.cons.inj hr).1] at hspace
      exact absurd hspace (by decide)
  unfold read
  split
  · next heq => exact absurd heq (hmark _)
  · rw [List.cons_append, hskip, ← List.cons_append, hread _ after (by simp; omega) hstop]
    simp [hend]

/-- Reading accepts just the documents. -/
theorem read_eq_ok_iff {document : List Char} {levels : Nat} :
    read document levels = .ok v ↔ IsDocument true levels document v :=
  ⟨isDocument_of_read, IsDocument.read_eq⟩

end ModelForge.Json
