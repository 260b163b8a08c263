/-!
# Look-ups in lists of pairs

## Main results

* `lookup_filter` — a look-up among the pairs whose keys pass a test
* `lookup_map_key` — a look-up under keys that were changed
* `lookup_eq_some_iff_mem` — a look-up among different keys gives what stands there
-/

namespace MediaShelf

variable {κ α : Type} [BEq κ] [LawfulBEq κ]

/-- A look-up among the pairs whose keys pass a test. -/
theorem lookup_filter (pairs : List (κ × α)) (test : κ → Bool) (k : κ) :
    (pairs.filter (test ·.1)).lookup k = if test k then pairs.lookup k else none := by
  induction pairs with
  | nil => simp
  | cons pair pairs ih =>
    obtain ⟨a, v⟩ := pair
    by_cases hk : k = a
    · subst hk
      by_cases ht : test k <;> simp [ht, ih]
    · have hne : (k == a) = false := by simpa using hk
      by_cases ht : test a <;> simp [List.lookup_cons, ht, hne, ih]

/-- If the changed keys are `new` where the old ones are `old`, `new` leads to what `old` led to. -/
theorem lookup_map_key {pairs : List (κ × α)} {change : κ → κ} {new : κ} (old : κ)
    (h : ∀ pair ∈ pairs, change pair.1 = new ↔ pair.1 = old) :
    (pairs.map fun pair => (change pair.1, pair.2)).lookup new = pairs.lookup old := by
  induction pairs with
  | nil => rfl
  | cons pair pairs ih =>
    obtain ⟨a, v⟩ := pair
    have hrest := ih fun other hother => h other (List.mem_cons_of_mem _ hother)
    have hhead : (new == change a) = (old == a) := by
      have hiff := h (a, v) List.mem_cons_self
      rw [Bool.eq_iff_iff, beq_iff_eq, beq_iff_eq, eq_comm, hiff, eq_comm]
    simp only [List.map_cons, List.lookup_cons, hhead, hrest]

/-- A pair whose key is looked up leads to a value. -/
theorem isSome_lookup {pairs : List (κ × α)} {pair : κ × α} (h : pair ∈ pairs) :
    (pairs.lookup pair.1).isSome :=
  List.lookup_isSome_iff.mpr ⟨pair, h, by simp⟩

/-- Where no key stands twice, a look-up gives what stands there. -/
theorem lookup_eq_some_iff_mem {pairs : List (κ × α)} (h : (pairs.map (·.1)).Nodup)
    {k : κ} {v : α} :
    pairs.lookup k = some v ↔ (k, v) ∈ pairs := by
  induction pairs with
  | nil => simp
  | cons pair pairs ih =>
    obtain ⟨a, w⟩ := pair
    obtain ⟨hnew, hrest⟩ := List.nodup_cons.mp h
    by_cases hk : k = a
    · subst hk
      have hlater : (k, v) ∉ pairs := by
        intro hmem
        exact hnew (List.mem_map.mpr ⟨(k, v), hmem, rfl⟩)
      simp [hlater, eq_comm]
    · have hne : (k == a) = false := by simpa using hk
      simp [List.lookup_cons, hne, hk, ih hrest]

end MediaShelf
