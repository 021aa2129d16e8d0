/-! Tables as lists of key and value, with the keys in the order of their first entry. -/

namespace ModelForge.Entries

variable {α β : Type} [DecidableEq α]

def find? (key : α) : List (α × β) → Option β
  | [] => none
  | (k, v) :: rest => if k = key then some v else find? key rest

/-- Sets the value of a key: in its place if the key is present, else in a new entry at the end. -/
def put (key : α) (value : β) : List (α × β) → List (α × β)
  | [] => [(key, value)]
  | (k, v) :: rest => if k = key then (k, value) :: rest else (k, v) :: put key value rest

def putAll (table news : List (α × β)) : List (α × β) :=
  news.foldl (fun t e => put e.1 e.2 t) table

def keys (table : List (α × β)) : List α := table.map Prod.fst

theorem find?_put (key k : α) (value : β) (table : List (α × β)) :
    find? k (put key value table) = if key = k then some value else find? k table := by
  induction table with
  | nil => rfl
  | cons e rest ih =>
    obtain ⟨a, b⟩ := e
    by_cases ha : a = key
    · subst ha
      by_cases h : a = k <;> simp [put, find?, h]
    · by_cases h : a = k
      · subst h
        simp [put, find?, ha, Ne.symm ha]
      · simp [put, find?, ha, h, ih]

theorem keys_put_of_mem {key : α} {table : List (α × β)} (value : β) (h : key ∈ keys table) :
    keys (put key value table) = keys table := by
  induction table with
  | nil => simp [keys] at h
  | cons e rest ih =>
    obtain ⟨a, b⟩ := e
    by_cases ha : a = key
    · simp [put, ha, keys]
    · have hr : key ∈ keys rest := by
        exact (List.mem_cons.1 h).resolve_left (Ne.symm ha)
      simpa [put, ha, keys] using ih hr

theorem keys_put_of_not_mem {key : α} {table : List (α × β)} (value : β) (h : key ∉ keys table) :
    keys (put key value table) = keys table ++ [key] := by
  induction table with
  | nil => rfl
  | cons e rest ih =>
    obtain ⟨a, b⟩ := e
    have ha : a ≠ key := fun e => h (by simp [keys, e])
    have hr : key ∉ keys rest := fun hm => h (List.mem_cons_of_mem a hm)
    simpa [put, ha, keys] using ih hr

theorem mem_keys_put {key k : α} {value : β} {table : List (α × β)} :
    k ∈ keys (put key value table) ↔ k ∈ keys table ∨ k = key := by
  by_cases h : key ∈ keys table
  · rw [keys_put_of_mem value h]
    refine ⟨.inl, ?_⟩
    rintro (hk | rfl)
    · exact hk
    · exact h
  · rw [keys_put_of_not_mem value h, List.mem_append, List.mem_singleton]

theorem nodup_keys_put {table : List (α × β)} (h : (keys table).Nodup) (key : α) (value : β) :
    (keys (put key value table)).Nodup := by
  by_cases hk : key ∈ keys table
  · rwa [keys_put_of_mem value hk]
  · rw [keys_put_of_not_mem value hk, List.nodup_append]
    refine ⟨h, List.pairwise_singleton .., fun a ha b hb e => hk ?_⟩
    rwa [← List.mem_singleton.1 hb, ← e]

theorem nodup_keys_putAll {table : List (α × β)} (h : (keys table).Nodup) (news : List (α × β)) :
    (keys (putAll table news)).Nodup := by
  induction news generalizing table with
  | nil => exact h
  | cons e rest ih => exact ih (nodup_keys_put h e.1 e.2)

theorem mem_of_mem_put {key : α} {value : β} {table : List (α × β)} {e : α × β} (h : e ∈ put key value table) :
    e ∈ table ∨ e = (key, value) := by
  induction table with
  | nil => exact .inr (List.mem_singleton.1 h)
  | cons a rest ih =>
    obtain ⟨k, v⟩ := a
    by_cases hk : k = key
    · rw [put, if_pos hk, hk] at h
      rcases List.mem_cons.1 h with he | hr
      · exact .inr he
      · exact .inl (List.mem_cons_of_mem _ hr)
    · rw [put, if_neg hk] at h
      rcases List.mem_cons.1 h with he | hr
      · exact .inl (he ▸ List.mem_cons_self)
      · exact (ih hr).imp_left (List.mem_cons_of_mem _)

theorem mem_of_mem_putAll {table news : List (α × β)} {e : α × β} (h : e ∈ putAll table news) : e ∈ table ∨ e ∈ news := by
  induction news generalizing table with
  | nil => exact .inl h
  | cons a rest ih =>
    rcases ih h with hp | hr
    · refine (mem_of_mem_put hp).imp_right fun he => ?_
      exact he ▸ List.mem_cons_self
    · exact .inr (List.mem_cons_of_mem a hr)

theorem find?_eq_none_iff {key : α} {table : List (α × β)} : find? key table = none ↔ key ∉ keys table := by
  induction table with
  | nil => simp [find?, keys]
  | cons e rest ih =>
    obtain ⟨a, b⟩ := e
    by_cases h : a = key
    · simp [find?, keys, h]
    · simpa [find?, keys, h, Ne.symm h] using ih

theorem mem_of_find?_eq_some {key : α} {value : β} {table : List (α × β)} (h : find? key table = some value) :
    (key, value) ∈ table := by
  induction table with
  | nil => cases h
  | cons e rest ih =>
    obtain ⟨k, v⟩ := e
    by_cases hk : k = key
    · rw [find?, if_pos hk] at h
      rw [hk, Option.some.inj h]
      exact List.mem_cons_self
    · rw [find?, if_neg hk] at h
      exact List.mem_cons_of_mem _ (ih h)

theorem find?_eq_some_of_mem {key : α} {value : β} {table : List (α × β)} (hn : (keys table).Nodup)
    (h : (key, value) ∈ table) : find? key table = some value := by
  induction table with
  | nil => cases h
  | cons e rest ih =>
    obtain ⟨k, v⟩ := e
    obtain ⟨hk, hr⟩ := List.nodup_cons.1 hn
    rcases List.mem_cons.1 h with he | hm
    · cases he
      simp [find?]
    · have hkey : key ∈ keys rest := List.mem_map_of_mem (f := Prod.fst) hm
      have hne : k ≠ key := fun e => hk (e.symm ▸ hkey)
      rw [find?, if_neg hne]
      exact ih hr hm

theorem put_of_not_mem {key : α} {table : List (α × β)} (value : β) (h : key ∉ keys table) :
    put key value table = table ++ [(key, value)] := by
  induction table with
  | nil => rfl
  | cons e rest ih =>
    obtain ⟨a, b⟩ := e
    obtain ⟨ha, hr⟩ := not_or.1 (mt List.mem_cons.2 h)
    rw [put, if_neg (Ne.symm ha), ih hr]
    rfl

theorem putAll_of_nodup {table news : List (α × β)} (h : (keys (table ++ news)).Nodup) :
    putAll table news = table ++ news := by
  induction news generalizing table with
  | nil => exact (List.append_nil table).symm
  | cons e rest ih =>
    have hk : e.1 ∉ keys table := by
      rw [keys, List.map_append] at h
      exact fun hm => List.nodup_append.1 h |>.2.2 _ hm _ List.mem_cons_self rfl
    have hcons : table ++ [e] ++ rest = table ++ e :: rest := by simp
    calc putAll table (e :: rest)
      _ = putAll (table ++ [e]) rest := by rw [← put_of_not_mem e.2 hk]; rfl
      _ = table ++ [e] ++ rest := ih (by rwa [hcons])
      _ = table ++ e :: rest := hcons

theorem find?_append (k : α) (a b : List (α × β)) : find? k (a ++ b) = (find? k a).or (find? k b) := by
  induction a with
  | nil => rfl
  | cons e rest ih =>
    rw [List.cons_append, find?, find?]
    split
    · rfl
    · exact ih

theorem find?_putAll_reverse (k : α) (table news : List (α × β)) :
    find? k (putAll table news) = (find? k news.reverse).or (find? k table) := by
  induction news generalizing table with
  | nil => rfl
  | cons e rest ih =>
    have hp : putAll table (e :: rest) = putAll (put e.1 e.2 table) rest := rfl
    rw [hp, ih, find?_put, List.reverse_cons, find?_append, Option.or_assoc]
    congr 1
    rw [find?]
    split <;> rfl

theorem put_of_find?_eq_some {key : α} {value : β} {table : List (α × β)} (h : find? key table = some value) :
    put key value table = table := by
  induction table with
  | nil => cases h
  | cons e rest ih =>
    obtain ⟨k, v⟩ := e
    by_cases hk : k = key
    · rw [find?, if_pos hk] at h
      rw [put, if_pos hk, Option.some.inj h]
    · rw [find?, if_neg hk] at h
      rw [put, if_neg hk, ih h]

theorem ext_of_nodup {a b : List (α × β)} (hn : (keys a).Nodup) (hk : keys b = keys a)
    (h : ∀ k, find? k b = find? k a) : b = a := by
  induction a generalizing b with
  | nil => exact List.map_eq_nil_iff.1 hk
  | cons e rest ih =>
    obtain ⟨k, v⟩ := e
    obtain ⟨e', rest', rfl, rfl, hr⟩ := List.map_eq_cons_iff.1 hk
    obtain ⟨hnk, hnr⟩ := List.nodup_cons.1 hn
    have hv := h e'.1
    rw [find?, if_pos rfl, find?, if_pos rfl] at hv
    rw [ih hnr hr fun j => ?_, ← Option.some.inj hv]
    by_cases hj : e'.1 = j
    · subst hj
      have hnb : e'.1 ∉ keys rest' := fun hm => hnk (hr ▸ hm)
      rw [find?_eq_none_iff.2 hnk, find?_eq_none_iff.2 hnb]
    · have hf := h j
      rwa [find?, if_neg hj, find?, if_neg hj] at hf

theorem keys_putAll_of_subset {table news : List (α × β)} (h : ∀ k ∈ keys news, k ∈ keys table) :
    keys (putAll table news) = keys table := by
  induction news generalizing table with
  | nil => rfl
  | cons e rest ih =>
    obtain ⟨he, hr⟩ := List.forall_mem_cons.1 h
    have hp := keys_put_of_mem e.2 he
    exact (ih fun k hk => hp ▸ hr k hk).trans hp

theorem mem_keys_putAll {k : α} {table news : List (α × β)} :
    k ∈ keys (putAll table news) ↔ k ∈ keys table ∨ k ∈ keys news := by
  induction news generalizing table with
  | nil => exact (or_iff_left List.not_mem_nil).symm
  | cons e rest ih =>
    have hp : putAll table (e :: rest) = putAll (put e.1 e.2 table) rest := rfl
    rw [hp, ih, mem_keys_put, or_assoc]
    exact or_congr_right List.mem_cons.symm

theorem putAll_putAll {table : List (α × β)} (h : (keys table).Nodup) (news : List (α × β)) :
    putAll (putAll table news) news = putAll table news := by
  refine ext_of_nodup (nodup_keys_putAll h news) (keys_putAll_of_subset fun k hk => mem_keys_putAll.2 (.inr hk)) fun k => ?_
  rw [find?_putAll_reverse, find?_putAll_reverse, ← Option.or_assoc, Option.or_self]

section

variable {γ : Type} (f : β → γ)

theorem find?_map (k : α) (table : List (α × β)) :
    find? k (table.map fun e => (e.1, f e.2)) = (find? k table).map f := by
  induction table with
  | nil => rfl
  | cons e rest ih =>
    rw [List.map_cons, find?, find?]
    split
    · rfl
    · exact ih

theorem map_put (key : α) (value : β) (table : List (α × β)) :
    (put key value table).map (fun e => (e.1, f e.2)) = put key (f value) (table.map fun e => (e.1, f e.2)) := by
  induction table with
  | nil => rfl
  | cons e rest ih =>
    rw [put, List.map_cons, put]
    split
    · rfl
    · rw [List.map_cons, ih]

end

theorem find?_putAll {news : List (α × β)} (h : (keys news).Nodup) (k : α) (table : List (α × β)) :
    find? k (putAll table news) = (find? k news).or (find? k table) := by
  induction news generalizing table with
  | nil => rfl
  | cons e rest ih =>
    obtain ⟨a, b⟩ := e
    obtain ⟨ha, hr⟩ := List.nodup_cons.1 h
    have hp : putAll table ((a, b) :: rest) = putAll (put a b table) rest := rfl
    rw [hp, ih hr, find?_put, find?]
    by_cases hk : a = k
    · rw [if_pos hk, if_pos hk, find?_eq_none_iff.2 (hk ▸ ha)]
      rfl
    · rw [if_neg hk, if_neg hk]

section

variable (q : α → Bool)

theorem filter_put (key : α) (value : β) (table : List (α × β)) :
    (put key value table).filter (q ·.1) =
      if q key then put key value (table.filter (q ·.1)) else table.filter (q ·.1) := by
  induction table with
  | nil => cases hq : q key <;> simp [put, hq]
  | cons e rest ih =>
    obtain ⟨a, b⟩ := e
    by_cases ha : a = key
    · subst ha
      cases hq : q a <;> simp [put, hq]
    · cases hq : q a <;> cases hk : q key <;> simp [put, ha, hq, hk, ih]

theorem filter_putAll (table news : List (α × β)) :
    (putAll table news).filter (q ·.1) = putAll (table.filter (q ·.1)) (news.filter (q ·.1)) := by
  induction news generalizing table with
  | nil => rfl
  | cons e rest ih =>
    have hp : putAll table (e :: rest) = putAll (put e.1 e.2 table) rest := rfl
    rw [hp, ih, filter_put]
    cases hq : q e.1 <;> simp [hq, putAll]

end

end ModelForge.Entries
