/-
# Reading a map after a change

What is found under a key after another key was set does not depend on the order that the entries
are kept in, so these laws hold of every list of entries.
-/

import DynamicContent.Data.SortedMap

namespace DynamicContent.SortedMap

variable {α : Type}

@[simp]
theorem find?_nil (key : String) : find? key ([] : SortedMap α) = none := rfl

/-- A key that was set has the value that it was set to. -/
@[simp]
theorem find?_insert_self (key : String) (value : α) (entries : SortedMap α) :
    (insert key value entries).find? key = some value := by
  induction entries with
  | nil => simp [insert, find?]
  | cons entry rest ih =>
      rw [insert]
      split
      · simp [find?]
      · split
        · simp [find?]
        · next hkey => simp [find?, Ne.symm hkey, ih]

/-- Setting a key does not touch the others. -/
theorem find?_insert_of_ne {key other : String} (hne : other ≠ key) (value : α)
    (entries : SortedMap α) : (insert key value entries).find? other = entries.find? other := by
  induction entries with
  | nil => simp [insert, find?, hne.symm]
  | cons entry rest ih =>
      rw [insert]
      split
      · simp [find?, hne.symm]
      · split
        · next hkey =>
            subst hkey
            simp [find?, hne.symm]
        · simp [find?, ih]

theorem find?_insert (key other : String) (value : α) (entries : SortedMap α) :
    (insert key value entries).find? other =
      if other = key then some value else entries.find? other := by
  split
  · next h => rw [h, find?_insert_self]
  · next h => exact find?_insert_of_ne h value entries

/-- Of entries that are chosen by their keys, those with a chosen key are found. -/
theorem find?_filter (chosen : String → Bool) (key : String) (entries : SortedMap α) :
    find? key (entries.filter fun entry => chosen entry.1) =
      if chosen key then entries.find? key else none := by
  induction entries with
  | nil => simp
  | cons entry rest ih =>
      rw [find?, List.filter_cons]
      by_cases hkey : entry.1 = key
      · subst hkey
        by_cases hchosen : chosen entry.1 = true
        · rw [if_pos hchosen, find?, if_pos rfl, if_pos hchosen, if_pos rfl]
        · rw [if_neg hchosen, ih, if_neg hchosen, if_neg hchosen]
      · rw [if_neg hkey, ← ih]
        split
        · rw [find?, if_neg hkey]
        · rfl

theorem find?_erase (key other : String) (entries : SortedMap α) :
    (erase key entries).find? other = if other = key then none else entries.find? other := by
  rw [erase, find?_filter fun k => k != key]
  by_cases hkey : other = key <;> simp [hkey]

/-- A key that was removed has no value. -/
@[simp]
theorem find?_erase_self (key : String) (entries : SortedMap α) :
    (erase key entries).find? key = none := by
  rw [find?_erase, if_pos rfl]

/-- To remove a key that has no value changes nothing. -/
theorem erase_of_find?_eq_none {key : String} {entries : SortedMap α}
    (h : entries.find? key = none) : erase key entries = entries := by
  induction entries with
  | nil => rfl
  | cons entry rest ih =>
      rw [find?] at h
      by_cases hkey : entry.1 = key
      · rw [if_pos hkey] at h
        contradiction
      · rw [if_neg hkey] at h
        rw [erase, List.filter_cons_of_pos (by simp [hkey]), ← erase, ih h]

/-- To remove a key changes what is found only if the key has a value. -/
theorem find?_erase_of_contains (key other : String) (entries : SortedMap α) :
    find? other (erase key entries) =
      if contains key entries = true ∧ other = key then none else find? other entries := by
  rw [find?_erase]
  by_cases hkey : other = key
  · subst hkey
    rw [if_pos rfl]
    by_cases hcontains : contains other entries = true
    · rw [if_pos ⟨hcontains, rfl⟩]
    · rw [if_neg fun h => hcontains h.1]
      exact (Option.not_isSome_iff_eq_none.mp hcontains).symm
  · rw [if_neg hkey, if_neg fun h => hkey h.2]

theorem filter_cons_of_chosen {chosen : String → Bool} {entry : String × α}
    (h : chosen entry.1 = true) (entries : SortedMap α) :
    (entry :: entries).filter (fun entry => chosen entry.1) =
      entry :: entries.filter fun entry => chosen entry.1 := List.filter_cons_of_pos h

theorem filter_cons_of_not_chosen {chosen : String → Bool} {entry : String × α}
    (h : chosen entry.1 = false) (entries : SortedMap α) :
    (entry :: entries).filter (fun entry => chosen entry.1) =
      entries.filter fun entry => chosen entry.1 := by
  rw [List.filter_cons, if_neg (by simp [h])]

/-- To remove a key and to choose entries by their keys may be done in either order. -/
theorem erase_filter (chosen : String → Bool) (key : String) (entries : SortedMap α) :
    erase key (entries.filter fun entry => chosen entry.1) =
      (erase key entries).filter fun entry => chosen entry.1 := by
  rw [erase, erase, List.filter_filter, List.filter_filter]
  exact List.filter_congr fun entry _ => Bool.and_comm _ _

/-- To remove a key that is not chosen leaves the chosen entries. -/
theorem filter_erase_of_not {chosen : String → Bool} {key : String} (h : chosen key = false)
    (entries : SortedMap α) :
    (erase key entries).filter (fun entry => chosen entry.1) =
      entries.filter fun entry => chosen entry.1 := by
  rw [erase, List.filter_filter]
  refine List.filter_congr fun entry _ => ?_
  by_cases hkey : entry.1 = key
  · rw [hkey, h, Bool.false_and]
  · rw [bne_iff_ne.mpr hkey, Bool.and_true]

/-- Values that are replaced keep their keys. -/
theorem find?_map_value {β : Type} (f : α → β) (key : String) (entries : SortedMap α) :
    find? key (entries.map fun entry => (entry.1, f entry.2)) = (find? key entries).map f := by
  induction entries with
  | nil => rfl
  | cons entry rest ih =>
      rw [List.map_cons, find?, find?]
      split
      · rfl
      · exact ih

/-- What holds of all values of a map and of another value holds of all values once that one is set.
-/
theorem forall_find?_insert {P : α → Prop} {entries : SortedMap α} {key : String} {value : α}
    (h : ∀ k v, entries.find? k = some v → P v) (hvalue : P value) :
    ∀ k v, (insert key value entries).find? k = some v → P v := by
  intro k v hv
  rw [find?_insert] at hv
  split at hv
  · exact Option.some.inj hv ▸ hvalue
  · exact h k v hv

theorem mem_keys_insert {k key : String} {value : α} {entries : SortedMap α} :
    k ∈ (insert key value entries).keys ↔ k = key ∨ k ∈ entries.keys := by
  induction entries with
  | nil => simp [insert, keys]
  | cons entry rest ih =>
      rw [insert]
      split
      · simp [keys]
      · split
        · next heq => simp [keys, heq]
        · simp only [keys, List.map_cons, List.mem_cons] at ih ⊢
          rw [ih]
          exact or_left_comm

/-- The keys of the map that holds some entries are the keys of the entries. -/
theorem mem_keys_ofList {k : String} {entries : List (String × α)} :
    k ∈ (ofList entries).keys ↔ k ∈ entries.map (·.1) := by
  have hfold (entries : List (String × α)) (start : SortedMap α) :
      k ∈ (entries.foldl (fun map entry => insert entry.1 entry.2 map) start).keys ↔
        k ∈ entries.map (·.1) ∨ k ∈ start.keys := by
    induction entries generalizing start with
    | nil => simp
    | cons entry rest ih =>
        rw [List.foldl_cons, ih, mem_keys_insert, List.map_cons, List.mem_cons]
        rw [or_left_comm, or_assoc]
  rw [ofList, hfold]
  simp [keys]

/-- Of several entries with one key in a list the last one is in the map that holds them. -/
theorem find?_ofList (key : String) (entries : List (String × α)) :
    find? key (ofList entries) = find? key entries.reverse := by
  have happend (front back : List (String × α)) :
      find? key (front ++ back) = (find? key front).or (find? key back) := by
    induction front with
    | nil => rfl
    | cons entry front ih =>
        rw [List.cons_append, find?, find?]
        by_cases hkey : entry.1 = key
        · rw [if_pos hkey, if_pos hkey]
          rfl
        · rw [if_neg hkey, if_neg hkey]
          exact ih
  have hfold (entries : List (String × α)) (start : SortedMap α) :
      find? key (entries.foldl (fun map entry => insert entry.1 entry.2 map) start) =
        (find? key entries.reverse).or (find? key start) := by
    induction entries generalizing start with
    | nil => rfl
    | cons entry entries ih =>
        rw [List.foldl_cons, ih, List.reverse_cons, happend, find?_insert, Option.or_assoc]
        congr 1
        rw [find?]
        by_cases hkey : key = entry.1
        · rw [if_pos hkey, if_pos hkey.symm]
          rfl
        · rw [if_neg hkey, if_neg (Ne.symm hkey)]
          rfl
  rw [ofList, hfold, find?_nil, Option.or_none]

/-! ## Keys -/

theorem mem_keys_iff {key : String} {entries : SortedMap α} :
    key ∈ entries.keys ↔ (entries.find? key).isSome = true := by
  induction entries with
  | nil => simp [keys]
  | cons entry rest ih =>
      rw [keys, List.map_cons, List.mem_cons, ← keys, ih, find?]
      by_cases hkey : entry.1 = key
      · simp [hkey]
      · simp [hkey, Ne.symm hkey]

/-- Two lists of entries with the same keys, none of them twice, are equally long. -/
theorem length_eq_of_isSome_eq {β : Type} {entries : SortedMap α} {others : SortedMap β}
    (hentries : entries.keys.Nodup) (hothers : others.keys.Nodup)
    (h : ∀ key, (entries.find? key).isSome = (others.find? key).isSome) :
    entries.length = others.length := by
  have hmem (key : String) : key ∈ entries.keys ↔ key ∈ others.keys := by
    rw [mem_keys_iff, mem_keys_iff, h]
  have hperm : entries.keys.Perm others.keys :=
    (List.perm_ext_iff_of_nodup hentries hothers).mpr hmem
  simpa [keys] using hperm.length_eq

theorem length_le_length_insert (key : String) (value : α) (entries : SortedMap α) :
    entries.length ≤ (insert key value entries).length := by
  induction entries with
  | nil => exact Nat.zero_le _
  | cons entry rest ih =>
      rw [insert]
      split
      · exact Nat.le_succ _
      · split
        · exact Nat.le_refl _
        · exact Nat.succ_le_succ ih

/-! ## Order -/

instance (entries : SortedMap α) : Decidable (Sorted entries) :=
  inferInstanceAs (Decidable (entries.Pairwise fun a b => a.1 < b.1))

theorem Sorted.nodup_keys {entries : SortedMap α} (h : Sorted entries) : entries.keys.Nodup := by
  have hkeys : entries.keys.Pairwise (· < ·) := List.pairwise_map.mpr h
  exact hkeys.imp String.ne_of_lt

theorem Sorted.filter {entries : SortedMap α} (h : Sorted entries) (chosen : String × α → Bool) :
    Sorted (entries.filter chosen) :=
  List.Pairwise.filter chosen h

theorem eq_or_mem_of_mem_insert {key : String} {value : α} {entries : SortedMap α}
    {other : String × α} (h : other ∈ insert key value entries) :
    other = (key, value) ∨ other ∈ entries := by
  induction entries with
  | nil => exact .inl (List.mem_singleton.mp h)
  | cons entry rest ih =>
      rw [insert] at h
      split at h
      · exact List.mem_cons.mp h
      · split at h
        · rcases List.mem_cons.mp h with heq | hrest
          · exact .inl heq
          · exact .inr (List.mem_cons_of_mem _ hrest)
        · rcases List.mem_cons.mp h with heq | hrest
          · exact .inr (heq ▸ List.mem_cons_self)
          · exact (ih hrest).imp_right (List.mem_cons_of_mem _)

theorem Sorted.insert {entries : SortedMap α} (h : Sorted entries) (key : String) (value : α) :
    Sorted (insert key value entries) := by
  induction entries with
  | nil => exact List.pairwise_singleton _ _
  | cons entry rest ih =>
      obtain ⟨hfirst, hrest⟩ := List.pairwise_cons.mp h
      rw [SortedMap.insert]
      by_cases hbefore : key < entry.1
      · rw [if_pos hbefore]
        refine List.pairwise_cons.mpr ⟨List.forall_mem_cons.mpr ⟨hbefore, ?_⟩, h⟩
        intro other hother
        exact String.lt_trans hbefore (hfirst other hother)
      · rw [if_neg hbefore]
        by_cases hkey : key = entry.1
        · rw [if_pos hkey]
          refine List.pairwise_cons.mpr ⟨?_, hrest⟩
          intro other hother
          exact hkey ▸ hfirst other hother
        · rw [if_neg hkey]
          have hbehind : entry.1 < key := Decidable.byContradiction fun hnot =>
            hkey (String.le_antisymm (String.not_lt.mp hnot) (String.not_lt.mp hbefore))
          refine List.pairwise_cons.mpr ⟨?_, ih hrest⟩
          intro other hother
          rcases eq_or_mem_of_mem_insert hother with rfl | hold
          · exact hbehind
          · exact hfirst other hold

theorem insert_of_forall_lt {key : String} {value : α} {entries : SortedMap α}
    (h : ∀ entry ∈ entries, entry.1 < key) :
    insert key value entries = entries ++ [(key, value)] := by
  induction entries with
  | nil => rfl
  | cons entry rest ih =>
      rw [List.forall_mem_cons] at h
      rw [insert, if_neg (String.lt_asymm h.1), if_neg (Ne.symm (String.ne_of_lt h.1)), ih h.2]
      rfl

theorem insert_of_forall_gt {key : String} {value : α} {entries : SortedMap α}
    (h : ∀ entry ∈ entries, key < entry.1) : insert key value entries = (key, value) :: entries := by
  cases entries with
  | nil => rfl
  | cons entry rest => rw [insert, if_pos (h entry List.mem_cons_self)]

/-- A key that is chosen may be set before or after the choice. -/
theorem filter_insert {chosen : String → Bool} {key : String} (h : chosen key = true) (value : α)
    {entries : SortedMap α} (hsorted : Sorted entries) :
    (insert key value entries).filter (fun entry => chosen entry.1) =
      insert key value (entries.filter fun entry => chosen entry.1) := by
  induction entries with
  | nil => exact filter_cons_of_chosen h []
  | cons entry rest ih =>
      obtain ⟨hfirst, hrest⟩ := List.pairwise_cons.mp hsorted
      rw [insert]
      by_cases hbefore : key < entry.1
      · rw [if_pos hbefore, filter_cons_of_chosen h, insert_of_forall_gt]
        intro other hother
        rcases List.mem_cons.mp (List.mem_filter.mp hother).1 with rfl | hmem
        · exact hbefore
        · exact String.lt_trans hbefore (hfirst other hmem)
      · rw [if_neg hbefore]
        by_cases hkey : key = entry.1
        · rw [if_pos hkey, filter_cons_of_chosen h, filter_cons_of_chosen (hkey ▸ h), insert,
            if_neg hbefore, if_pos hkey]
        · rw [if_neg hkey]
          cases hchosen : chosen entry.1 with
          | true =>
              rw [filter_cons_of_chosen hchosen, filter_cons_of_chosen hchosen, insert,
                if_neg hbefore, if_neg hkey, ih hrest]
          | false =>
              rw [filter_cons_of_not_chosen hchosen, filter_cons_of_not_chosen hchosen, ih hrest]

/-- To set a key that is not chosen leaves the chosen entries. -/
theorem filter_insert_of_not {chosen : String → Bool} {key : String} (h : chosen key = false)
    (value : α) (entries : SortedMap α) :
    (insert key value entries).filter (fun entry => chosen entry.1) =
      entries.filter fun entry => chosen entry.1 := by
  induction entries with
  | nil => exact filter_cons_of_not_chosen h []
  | cons entry rest ih =>
      rw [insert]
      split
      · exact filter_cons_of_not_chosen h _
      · split
        · next hkey =>
            rw [filter_cons_of_not_chosen h, filter_cons_of_not_chosen (hkey ▸ h)]
        · rw [List.filter_cons, List.filter_cons, ih]

/-- A key that was set and removed leaves what there was without it. -/
theorem erase_insert_self (key : String) (value : α) (entries : SortedMap α) :
    erase key (insert key value entries) = erase key entries :=
  @filter_insert_of_not α (· != key) key (bne_self_eq_false key) value entries

/-- Entries that are in their order are the map that holds them. -/
theorem ofList_of_sorted {entries : List (String × α)} (h : Sorted entries) :
    ofList entries = entries := by
  have hfold (rest start : List (String × α)) (h : Sorted (start ++ rest)) :
      rest.foldl (fun map entry => insert entry.1 entry.2 map) start = start ++ rest := by
    induction rest generalizing start with
    | nil => exact (List.append_nil start).symm
    | cons entry rest ih =>
        have hbehind : ∀ other ∈ start, other.1 < entry.1 := fun other hother =>
          (List.pairwise_append.mp h).2.2 other hother entry List.mem_cons_self
        rw [List.foldl_cons, insert_of_forall_lt hbehind, ih, List.append_assoc,
          List.singleton_append]
        rwa [List.append_assoc, List.singleton_append]
  exact hfold entries [] h

/-- The map that holds the entries of a list is in its order. -/
theorem sorted_ofList (entries : List (String × α)) : Sorted (ofList entries) := by
  have hfold (start : SortedMap α) (hstart : Sorted start) :
      Sorted (entries.foldl (fun map entry => insert entry.1 entry.2 map) start) := by
    induction entries generalizing start with
    | nil => exact hstart
    | cons entry entries ih => exact ih _ (hstart.insert entry.1 entry.2)
  exact hfold [] List.Pairwise.nil

theorem find?_of_forall_gt {key : String} {entries : SortedMap α}
    (h : ∀ entry ∈ entries, key < entry.1) : find? key entries = none := by
  induction entries with
  | nil => rfl
  | cons entry rest ih =>
      rw [List.forall_mem_cons] at h
      rw [find?, if_neg (Ne.symm (String.ne_of_lt h.1)), ih h.2]

/-- Behind its first entry a map has no value of the first key, and none of a smaller one. -/
theorem Sorted.find?_of_le {key : String} {entry : String × α} {rest : SortedMap α}
    (h : Sorted (entry :: rest)) (hle : key ≤ entry.1) : find? key rest = none :=
  find?_of_forall_gt fun other hother =>
    Std.lt_of_le_of_lt hle ((List.pairwise_cons.mp h).1 other hother)

/-- A map is determined by the values of the keys. -/
theorem Sorted.ext {entries others : SortedMap α} (hentries : Sorted entries)
    (hothers : Sorted others) (h : ∀ key, find? key entries = find? key others) :
    entries = others := by
  induction entries generalizing others with
  | nil =>
      cases others with
      | nil => rfl
      | cons other others => simpa [find?] using h other.1
  | cons entry rest ih =>
      cases others with
      | nil => simpa [find?] using h entry.1
      | cons other others =>
          obtain ⟨key, value⟩ := entry
          obtain ⟨key', value'⟩ := other
          have hkey : key = key' := by
            refine Decidable.byContradiction fun hne => ?_
            rcases Std.le_total (a := key) (b := key') with hle | hle
            · have hnone := h key
              simp [find?, Ne.symm hne, hothers.find?_of_le hle] at hnone
            · have hnone := h key'
              simp [find?, hne, hentries.find?_of_le hle] at hnone
          subst hkey
          have hvalue : value = value' := by simpa [find?] using h key
          subst hvalue
          have hrest : rest = others := by
            refine ih (List.pairwise_cons.mp hentries).2 (List.pairwise_cons.mp hothers).2 fun k => ?_
            by_cases hk : key = k
            · subst hk
              rw [hentries.find?_of_le (Std.le_refl key), hothers.find?_of_le (Std.le_refl key)]
            · simpa [find?, hk] using h k
          rw [hrest]

end DynamicContent.SortedMap
