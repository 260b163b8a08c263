/-!
# Sorted lists

Sorting keeps the order of what compares as equal, so members of a list that are in order already
are found unchanged in the sorted list.

## Main results

* `filter_mergeSort` — members that are in order already stay as they are
* `find?_mergeSort` — what a search of the sorted list finds is the first of the least
* `find?_eq_some_iff_of_ascending` — what a search of an ascending list finds is the least
-/

namespace MediaShelf

variable {α : Type} {le : α → α → Bool} {p : α → Bool} {l : List α} {a : α}

/-- Members that are in order already stay as they are when the list is sorted. -/
theorem filter_mergeSort (trans : ∀ a b c, le a b → le b c → le a c)
    (total : ∀ a b, le a b || le b a) (h : (l.filter p).Pairwise fun a b => le a b) :
    (l.mergeSort le).filter p = l.filter p := by
  have hsublist := (List.sublist_mergeSort trans total h List.filter_sublist).filter p
  rw [List.filter_filter, funext fun a => Bool.and_self (p a)] at hsublist
  have hlength := ((List.mergeSort_perm l le).filter p).length_eq
  exact (hsublist.eq_of_length hlength.symm).symm

/-- What a search of the sorted list finds comes before all else that is looked for. -/
theorem le_of_find?_mergeSort (trans : ∀ a b c, le a b → le b c → le a c)
    (total : ∀ a b, le a b || le b a) (h : (l.mergeSort le).find? p = some a) :
    ∀ b ∈ l, p b → le a b := by
  obtain ⟨-, before, after, hsorted, hbefore⟩ := List.find?_eq_some_iff_append.mp h
  have hpairwise := List.pairwise_mergeSort trans total l
  rw [hsorted, List.pairwise_append] at hpairwise
  intro b hb hpb
  have hmem : b ∈ l.mergeSort le := List.mem_mergeSort.mpr hb
  rw [hsorted, List.mem_append, List.mem_cons] at hmem
  rcases hmem with hb | rfl | hb
  · exact absurd hpb (by simpa using hbefore b hb)
  · simpa using total b b
  · exact List.rel_of_pairwise_cons hpairwise.2.1 hb

/-- What a search of the sorted list finds is the first of the least among what is looked for: in
the list as it was, all that stand before it are greater. -/
theorem find?_mergeSort (trans : ∀ a b c, le a b → le b c → le a c)
    (total : ∀ a b, le a b || le b a) (h : (l.mergeSort le).find? p = some a) :
    ∃ before after, l = before ++ a :: after ∧ p a ∧ (∀ b ∈ before, p b → le b a = false) ∧
      ∀ b ∈ after, p b → le a b := by
  have hle := le_of_find?_mergeSort trans total h
  obtain ⟨ha, sortedBefore, sortedAfter, hsorted, hskipped⟩ := List.find?_eq_some_iff_append.mp h
  have hequal : (l.filter fun b => p b && le b a).Pairwise fun b c => le b c := by
    refine List.pairwise_of_forall_mem_list ?_
    intro b hb c hc
    obtain ⟨-, hb⟩ := List.mem_filter.mp hb
    obtain ⟨hc, hpc⟩ := List.mem_filter.mp hc
    rw [Bool.and_eq_true] at hb hpc
    exact trans b a c hb.2 (hle c hc hpc.1)
  -- those that compare as equal to it are in the same order in both lists
  have hfind : (l.mergeSort le).find? (fun b => p b && le b a) = some a := by
    refine List.find?_eq_some_iff_append.mpr ⟨?_, sortedBefore, sortedAfter, hsorted, ?_⟩
    · rw [ha]
      simpa using total a a
    · intro b hb
      have hpb : p b = false := by simpa using hskipped b hb
      simp [hpb]
  rw [← List.head?_filter, filter_mergeSort trans total hequal, List.head?_filter] at hfind
  obtain ⟨-, before, after, hl, hbefore⟩ := List.find?_eq_some_iff_append.mp hfind
  refine ⟨before, after, hl, ha, ?_, ?_⟩
  · intro b hb hpb
    simpa [hpb] using hbefore b hb
  · intro b hb
    exact hle b (by simp [hl, hb])

/-- What a search of a list in ascending order finds is the least of what it looks for. -/
theorem find?_eq_some_iff_of_ascending {rank : α → Nat}
    (h : l.Pairwise fun a b => rank a < rank b) :
    l.find? p = some a ↔ (a ∈ l ∧ p a) ∧ ∀ b ∈ l, p b → rank a ≤ rank b := by
  have hleast : ∀ {b}, l.find? p = some b → ∀ c ∈ l, p c → c = b ∨ rank b < rank c := by
    intro b hfind c hc hpc
    obtain ⟨-, before, after, rfl, hbefore⟩ := List.find?_eq_some_iff_append.mp hfind
    rcases List.mem_append.mp hc with hc | hc
    · exact absurd hpc (by simpa using hbefore c hc)
    · exact (List.mem_cons.mp hc).imp_right
        (List.rel_of_pairwise_cons (List.pairwise_append.mp h).2.1)
  constructor
  · intro hfind
    refine ⟨⟨List.mem_of_find?_eq_some hfind, List.find?_some hfind⟩, fun b hb hpb => ?_⟩
    rcases hleast hfind b hb hpb with rfl | hlt
    · exact Nat.le_refl _
    · exact Nat.le_of_lt hlt
  · rintro ⟨⟨ha, hpa⟩, hall⟩
    obtain ⟨b, hfind⟩ := Option.isSome_iff_exists.mp (List.find?_isSome.mpr ⟨a, ha, hpa⟩)
    have hle := hall b (List.mem_of_find?_eq_some hfind) (List.find?_some hfind)
    rcases hleast hfind a ha hpa with rfl | hlt
    · exact hfind
    · omega

end MediaShelf
