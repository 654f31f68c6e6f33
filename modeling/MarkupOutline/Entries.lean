/-!
# Keyed entries

Association lists that keep the order in which keys came first. Putting a key that is there already
replaces its value and leaves its place, so the keys stay distinct.
-/

namespace MarkupOutline.Entries

variable {α : Type}

/-- The value stored under a key. -/
def get? (key : String) : List (String × α) → Option α
  | [] => none
  | (k, v) :: rest => if k = key then some v else get? key rest

/-- The entries with a value stored under a key: in the place of an older value, else at the
end. -/
def put (key : String) (value : α) : List (String × α) → List (String × α)
  | [] => [(key, value)]
  | (k, v) :: rest => if k = key then (key, value) :: rest else (k, v) :: put key value rest

/-- The entries written one after the other. -/
def ofList (entries : List (String × α)) : List (String × α) :=
  entries.foldl (fun kept (key, value) => put key value kept) []

/-- Putting a key changes the keys only by adding it. -/
theorem mem_keys_put (key other : String) (value : α) (entries : List (String × α)) :
    other ∈ (put key value entries).map Prod.fst ↔ other = key ∨ other ∈ entries.map Prod.fst := by
  induction entries with
  | nil => simp [put]
  | cons entry rest ih =>
    obtain ⟨k, v⟩ := entry
    by_cases hk : k = key
    · subst hk
      simp [put]
    · simp only [put, hk, if_false, List.map_cons, List.mem_cons, ih]
      constructor <;> rintro (h | h | h) <;> simp [h]

/-- Putting a key keeps the keys distinct. -/
theorem nodup_put (key : String) (value : α) (entries : List (String × α))
    (h : (entries.map Prod.fst).Nodup) : ((put key value entries).map Prod.fst).Nodup := by
  induction entries with
  | nil => simp [put]
  | cons entry rest ih =>
    obtain ⟨k, v⟩ := entry
    simp only [List.map_cons, List.nodup_cons] at h
    by_cases hk : k = key
    · subst hk
      simpa [put] using h
    · have hput : put key value ((k, v) :: rest) = (k, v) :: put key value rest := by
        simp [put, hk]
      rw [hput, List.map_cons, List.nodup_cons, mem_keys_put]
      exact ⟨fun hmem => hmem.elim hk h.1, ih h.2⟩

/-- Entries written behind others with distinct keys keep the keys distinct. -/
theorem nodup_foldl_put (kept entries : List (String × α)) (h : (kept.map Prod.fst).Nodup) :
    ((entries.foldl (fun kept (key, value) => put key value kept) kept).map Prod.fst).Nodup := by
  induction entries generalizing kept with
  | nil => exact h
  | cons entry rest ih => exact ih _ (nodup_put entry.1 entry.2 kept h)

/-- The keys of written entries are distinct. -/
theorem nodup_ofList (entries : List (String × α)) : ((ofList entries).map Prod.fst).Nodup :=
  nodup_foldl_put [] entries List.nodup_nil

/-- A new key is put at the end. -/
theorem put_of_not_mem {key : String} {entries : List (String × α)}
    (h : key ∉ entries.map Prod.fst) (value : α) :
    put key value entries = entries ++ [(key, value)] := by
  induction entries with
  | nil => rfl
  | cons entry rest ih =>
    obtain ⟨k, v⟩ := entry
    rw [List.map_cons, List.mem_cons, not_or] at h
    rw [put, if_neg (Ne.symm h.1), ih h.2, List.cons_append]

/-- Entries with distinct keys written behind others are put there as they are. -/
theorem foldl_put_of_nodup (kept : List (String × α)) {entries : List (String × α)}
    (h : ((kept ++ entries).map Prod.fst).Nodup) :
    entries.foldl (fun kept (key, value) => put key value kept) kept = kept ++ entries := by
  induction entries generalizing kept with
  | nil => rw [List.foldl_nil, List.append_nil]
  | cons entry rest ih =>
    obtain ⟨key, value⟩ := entry
    have hnew : key ∉ kept.map Prod.fst := by
      rw [List.map_append, List.nodup_append] at h
      exact fun hmem => h.2.2 key hmem key (by simp) rfl
    rw [List.foldl_cons]
    dsimp only
    rw [put_of_not_mem hnew, ih (kept ++ [(key, value)]), List.append_assoc, List.singleton_append]
    rwa [List.append_assoc, List.singleton_append]

/-- Entries with distinct keys are kept as they are. -/
theorem ofList_of_nodup {entries : List (String × α)} (h : (entries.map Prod.fst).Nodup) :
    ofList entries = entries :=
  foldl_put_of_nodup [] h

/-- Entries written behind others bring in no keys but their own. -/
theorem mem_keys_of_mem_foldl_put {key : String} (kept : List (String × α))
    {entries : List (String × α)}
    (h : key ∈ (entries.foldl (fun kept (key, value) => put key value kept) kept).map Prod.fst) :
    key ∈ kept.map Prod.fst ∨ key ∈ entries.map Prod.fst := by
  induction entries generalizing kept with
  | nil => exact .inl h
  | cons entry rest ih =>
    rw [List.foldl_cons] at h
    rcases ih _ h with hmem | hmem
    · rcases (mem_keys_put _ _ _ _).1 hmem with rfl | hmem
      · exact .inr (List.mem_cons_self ..)
      · exact .inl hmem
    · exact .inr (List.mem_cons_of_mem _ hmem)

/-- Written entries have no keys but those that were given. -/
theorem mem_keys_of_mem_ofList {key : String} {entries : List (String × α)}
    (h : key ∈ (ofList entries).map Prod.fst) : key ∈ entries.map Prod.fst :=
  (mem_keys_of_mem_foldl_put [] h).resolve_left List.not_mem_nil

end MarkupOutline.Entries
