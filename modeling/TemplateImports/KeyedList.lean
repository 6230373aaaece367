/-!
# Keyed lists

Lists of keys with values, in the order in which the keys were first written.  Writing a key again
replaces its value in place.

Main results:

- Definition `put` writes a key; theorem `lookup_put` says what a key holds after a write.
- Theorem `keys_put` says that a write adds its key at the end if it was missing.
- Theorems `put_put` and `put_of_lookup` say that of two writes the last one counts, and that writing
  what is there changes nothing.
-/

namespace TemplateImports.KeyedList

/-- Writes a key into a list: in its place, or at the end. -/
def put {β : Type} (key : String) (value : β) : List (String × β) → List (String × β)
  | [] => [(key, value)]
  | (k, v) :: entries =>
    if key == k then (k, value) :: entries else (k, v) :: put key value entries

/-- A key that was written holds its new value, and every other key its old one. -/
theorem lookup_put {β : Type} (key other : String) (value : β) (entries : List (String × β)) :
    (put key value entries).lookup other =
      if other == key then some value else entries.lookup other := by
  induction entries with
  | nil => by_cases h : other == key <;> simp [put, h, List.lookup_cons]
  | cons entry entries ih =>
    obtain ⟨k, v⟩ := entry
    unfold put
    by_cases hk : key == k
    · have hk' : key = k := by simpa using hk
      subst hk'
      by_cases h : other == key <;> simp [h, List.lookup_cons]
    · by_cases ho : other == k
      · have ho' : other = k := by simpa using ho
        subst ho'
        have hne : (other == key) = false := by
          simp only [beq_eq_false_iff_ne, ne_eq]
          rintro rfl
          simp at hk
        simp [hk, hne]
      · simp [hk, ho, List.lookup_cons, ih]

/-- A write adds its key at the end if it was missing, and changes no key otherwise. -/
theorem keys_put {β : Type} (key : String) (value : β) (entries : List (String × β)) :
    (put key value entries).map (·.1) =
      if key ∈ entries.map (·.1) then entries.map (·.1) else entries.map (·.1) ++ [key] := by
  induction entries with
  | nil => rfl
  | cons entry entries ih =>
    obtain ⟨k, v⟩ := entry
    unfold put
    by_cases hk : key = k
    · subst hk
      simp
    · have hk' : (key == k) = false := by simpa using hk
      simp only [hk', Bool.false_eq_true, ↓reduceIte, List.map_cons, ih, List.mem_cons, hk,
        false_or]
      split <;> simp

/-- A write keeps the keys distinct. -/
theorem nodup_keys_put {β : Type} {entries : List (String × β)} (h : (entries.map (·.1)).Nodup)
    (key : String) (value : β) : ((put key value entries).map (·.1)).Nodup := by
  rw [keys_put]
  split
  · exact h
  · rename_i hkey
    exact List.nodup_append.2 ⟨h, by simp, by grind⟩

/-- An entry after a write is the written one or was there before. -/
theorem mem_of_mem_put {β : Type} {key : String} {value : β} {entries : List (String × β)}
    {entry : String × β} (h : entry ∈ put key value entries) :
    entry = (key, value) ∨ entry ∈ entries := by
  induction entries with
  | nil => exact Or.inl (List.mem_singleton.1 h)
  | cons first entries ih =>
    obtain ⟨k, v⟩ := first
    unfold put at h
    split at h
    · rename_i hk
      rw [← eq_of_beq hk] at h
      rcases List.mem_cons.1 h with rfl | h
      · exact Or.inl rfl
      · exact Or.inr (List.mem_cons_of_mem _ h)
    · rcases List.mem_cons.1 h with rfl | h
      · exact Or.inr (List.mem_cons_self ..)
      · exact (ih h).imp_right (List.mem_cons_of_mem _)

/-- Of two writes to a key, the last one counts. -/
theorem put_put {β : Type} (key : String) (old new : β) (entries : List (String × β)) :
    put key new (put key old entries) = put key new entries := by
  induction entries with
  | nil => simp [put]
  | cons entry entries ih =>
    by_cases h : key = entry.1 <;> simp [put, h, ih]

/-- Writing what a key holds changes nothing. -/
theorem put_of_lookup {β : Type} {key : String} {value : β} {entries : List (String × β)}
    (h : entries.lookup key = some value) : put key value entries = entries := by
  induction entries with
  | nil => simp at h
  | cons entry entries ih =>
    obtain ⟨k, v⟩ := entry
    by_cases hk : key = k
    · simp_all [put]
    · have hk' : (key == k) = false := by simpa using hk
      rw [List.lookup_cons, hk'] at h
      simp [put, hk, ih h]

/-- Among distinct keys, the key of an entry holds the value of the entry. -/
theorem lookup_of_mem {β : Type} {key : String} {value : β} {entries : List (String × β)}
    (h : (entries.map (·.1)).Nodup) (hmem : (key, value) ∈ entries) :
    entries.lookup key = some value := by
  induction entries with
  | nil => simp at hmem
  | cons entry entries ih =>
    obtain ⟨hnew, hrest⟩ := List.nodup_cons.1 h
    rcases List.mem_cons.1 hmem with rfl | hmem
    · exact List.lookup_cons_self
    · have hne : (key == entry.1) = false := by
        rw [beq_eq_false_iff_ne]
        rintro rfl
        exact hnew (List.mem_map.2 ⟨_, hmem, rfl⟩)
      rw [List.lookup_cons, hne]
      exact ih hrest hmem

end TemplateImports.KeyedList
