import TwinRender.OrderedMap
import TwinRender.Proofs.Names

/-!
# Laws of maps in order of insertion

A map is determined by its entries, and a list of entries with distinct keys is the map that it
is written into. Erasing a key takes away its value and nothing else.

## Main results

* `OrderedMap.toList_ofList`, `OrderedMap.ofList_toList`: a list with distinct keys is its map.
* `OrderedMap.get?_erase`: the values after a key is erased.
* `OrderedMap.lowerKeys_eq_self`: a map whose keys are in lower case.
* `OrderedMap.mem_keys_ofList`: the keys of a map that is made of entries.
-/

namespace TwinRender.OrderedMap

universe u

variable {β : Type u}

/-- Maps with the same entries are the same. -/
theorem ext_toList {m n : OrderedMap β} (h : m.toList = n.toList) : m = n := by
  obtain ⟨entries, hm⟩ := m
  obtain ⟨entries', hn⟩ := n
  obtain rfl : entries = entries' := h
  rfl

/-- A new key goes last. -/
theorem write_of_not_mem {key : String} {value : β} {entries : List (String × β)}
    (h : key ∉ entries.map Prod.fst) : write key value entries = entries ++ [(key, value)] := by
  induction entries with
  | nil => rfl
  | cons e rest ih =>
      obtain ⟨k, v⟩ := e
      simp only [List.map_cons, List.mem_cons, not_or] at h
      rw [write, if_neg (fun heq => h.1 heq.symm), ih h.2, List.cons_append]

/-- Entries with new and distinct keys are put behind the entries of a map. -/
theorem toList_foldl_insert (entries : List (String × β)) (m : OrderedMap β)
    (h : ((m.toList ++ entries).map Prod.fst).Nodup) :
    (entries.foldl (fun m e => m.insert e.1 e.2) m).toList = m.toList ++ entries := by
  induction entries generalizing m with
  | nil => rw [List.foldl_nil, List.append_nil]
  | cons e rest ih =>
      have hnew : e.1 ∉ m.toList.map Prod.fst := by
        rw [List.map_append, List.nodup_append] at h
        intro hmem
        exact h.2.2 _ hmem _ (List.mem_cons_self ..) rfl
      have hinsert : (m.insert e.1 e.2).toList = m.toList ++ [e] := write_of_not_mem hnew
      have hrest : (((m.insert e.1 e.2).toList ++ rest).map Prod.fst).Nodup := by
        rwa [hinsert, List.append_assoc, List.singleton_append]
      rw [List.foldl_cons, ih _ hrest, hinsert, List.append_assoc, List.singleton_append]

/-- A list of entries with distinct keys is read back from its map. -/
theorem toList_ofList {entries : List (String × β)} (h : (entries.map Prod.fst).Nodup) :
    (ofList entries).toList = entries := by
  have hempty : (empty : OrderedMap β).toList = [] := rfl
  rw [ofList, toList_foldl_insert entries empty (by rwa [hempty, List.nil_append]), hempty,
    List.nil_append]

/-- A map is the map of its entries. -/
theorem ofList_toList (m : OrderedMap β) : ofList m.toList = m :=
  ext_toList (toList_ofList m.nodup)

/-- A map whose keys are in lower case is not changed by lowering them. -/
theorem lowerKeys_eq_self {m : OrderedMap β} (h : ∀ key ∈ m.keys, key.toLower = key) :
    m.lowerKeys = m := by
  have hmap : (m.entries.map fun e => (e.1.toLower, e.2)) = m.entries := by
    conv_rhs => rw [← List.map_id m.entries]
    refine List.map_congr_left fun e he => ?_
    rw [h e.1 (List.mem_map.mpr ⟨e, he, rfl⟩), id_eq]
  rw [lowerKeys, hmap]
  exact ofList_toList m

/-- The keys after a write are the written one and the others. -/
theorem mem_keys_insert {m : OrderedMap β} {key other : String} {value : β} :
    other ∈ (m.insert key value).keys ↔ other = key ∨ other ∈ m.keys := by
  rw [keys_insert]
  split
  · next h =>
    constructor
    · exact Or.inr
    · rintro (rfl | hother)
      · exact h
      · exact hother
  · rw [List.mem_append, List.mem_singleton, or_comm]

/-- The keys of a map that is written into are the ones before and the written ones. -/
theorem mem_keys_foldl_insert {entries : List (String × β)} {m : OrderedMap β} {key : String} :
    key ∈ (entries.foldl (fun m e => m.insert e.1 e.2) m).keys ↔
      key ∈ m.keys ∨ key ∈ entries.map Prod.fst := by
  induction entries generalizing m with
  | nil => simp
  | cons e rest ih =>
      rw [List.foldl_cons, ih, mem_keys_insert, List.map_cons, List.mem_cons]
      tauto

/-- The keys of a map that is made of entries. -/
theorem mem_keys_ofList {entries : List (String × β)} {key : String} :
    key ∈ (ofList entries).keys ↔ key ∈ entries.map Prod.fst := by
  have hempty : key ∉ (empty : OrderedMap β).keys := List.not_mem_nil
  rw [ofList, mem_keys_foldl_insert]
  simp [hempty]

/-- Keys in lower case are in lower case. -/
theorem toLower_of_mem_lowerKeys {m : OrderedMap β} {key : String} (h : key ∈ m.lowerKeys.keys) :
    key.toLower = key := by
  rw [lowerKeys, mem_keys_ofList, List.map_map, List.mem_map] at h
  obtain ⟨e, -, rfl⟩ := h
  exact toLower_toLower e.1

/-- A key is present exactly when it has a value. -/
theorem mem_keys_iff {m : OrderedMap β} {key : String} : key ∈ m.keys ↔ m.contains key = true := by
  obtain ⟨entries, hnodup⟩ := m
  simp only [keys, contains, get?, List.mem_map]
  clear hnodup
  induction entries with
  | nil => simp
  | cons e rest ih =>
      obtain ⟨k, v⟩ := e
      by_cases hk : key = k
      · subst hk
        simp
      · have hbeq : (key == k) = false := by simpa using hk
        rw [List.lookup_cons, hbeq, ← ih]
        simp [Ne.symm hk]

/-- The keys after one is erased. -/
theorem keys_erase (m : OrderedMap β) (key : String) :
    (m.erase key).keys = m.keys.filter fun other => other ≠ key := by
  simp only [keys, erase, List.filter_map]
  rfl

/-- Erasing a key that has no value changes nothing. -/
theorem erase_eq_self {m : OrderedMap β} {key : String} (h : m.get? key = none) :
    m.erase key = m := by
  refine ext_toList (List.filter_eq_self.mpr fun e he => ?_)
  have hnot : key ∉ m.keys := by
    rw [mem_keys_iff, contains, h]
    exact Bool.false_ne_true
  rw [decide_eq_true_iff]
  rintro rfl
  exact hnot (List.mem_map_of_mem he)

/-- A key that is inserted leaves the others where they are. -/
theorem sublist_keys_insert (m : OrderedMap β) (key : String) (value : β) :
    m.keys.Sublist (m.insert key value).keys := by
  rw [keys_insert]
  split
  · exact List.Sublist.refl _
  · exact List.sublist_append_left _ _

/-- A key that is erased leaves the keys behind it. -/
theorem sublist_keys_erase {m : OrderedMap β} {key : String} {others : List String}
    (h : (key :: others).Sublist m.keys) : others.Sublist (m.erase key).keys := by
  have hnot : key ∉ others := (List.nodup_cons.mp (h.nodup m.nodup)).1
  have hself : others.filter (fun other => other ≠ key) = others := by
    refine List.filter_eq_self.mpr fun other hother => ?_
    rw [decide_eq_true_iff]
    rintro rfl
    exact hnot hother
  rw [keys_erase, ← hself]
  exact ((List.sublist_cons_self key others).trans h).filter _

/-- The values after a key is erased. -/
theorem get?_erase (m : OrderedMap β) (key other : String) :
    (m.erase key).get? other = if other = key then none else m.get? other := by
  obtain ⟨entries, hnodup⟩ := m
  simp only [erase, get?]
  clear hnodup
  induction entries with
  | nil => simp
  | cons e rest ih =>
      obtain ⟨k, v⟩ := e
      by_cases hk : k = key
      · rw [List.filter_cons_of_neg (by simp [hk]), ih]
        by_cases ho : other = key
        · rw [if_pos ho, if_pos ho]
        · have hbeq : (other == k) = false := by simpa [hk] using ho
          rw [if_neg ho, if_neg ho, List.lookup_cons, hbeq]
      · rw [List.filter_cons_of_pos (by simp [hk]), List.lookup_cons, List.lookup_cons, ih]
        by_cases ho : other = key
        · have hbeq : (other == k) = false := by simpa [ho] using Ne.symm hk
          rw [hbeq, if_pos ho]
        · rw [if_neg ho, if_neg ho]

end TwinRender.OrderedMap
