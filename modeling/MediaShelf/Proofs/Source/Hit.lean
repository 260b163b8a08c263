import MediaShelf.Proofs.Sorting
import MediaShelf.Source.TvMaze

/-!
# The best hit of a search

A search gives hits with scores. The best hit of the year that is asked for wins, and without such a
hit the best of all; among equal scores the hit that came first.

## Main definitions

* `scoreBelow` — the order of scores, told by their signs and bits
* `Hit.IsFrom` — a hit whose show was first broadcast in a year
* `Hit.IsBest` — the first of the hits with the greatest score among those that count

## Main results

* `scoreRank_lt_iff` — scores are ranked in this order
* `pickHit?_best` — the hit that is picked
-/

namespace MediaShelf.TvMaze

variable {hits : List Hit} {hit : Hit} {counts : Hit → Bool} {year : Option String}

/-! ### The order of scores -/

/-- Whether the sign of a number, its first bit, is a minus. -/
def hasMinus (score : Float) : Prop := 0x8000000000000000 ≤ score.toBits.toNat

/-- The total order of numbers in double precision: all that have a minus come first, the greatest
bits before the least, and behind them those without, by rising bits. -/
def scoreBelow (a b : Float) : Prop :=
  hasMinus a ∧ ¬hasMinus b ∨ hasMinus a ∧ hasMinus b ∧ b.toBits.toNat < a.toBits.toNat ∨
    ¬hasMinus a ∧ ¬hasMinus b ∧ a.toBits.toNat < b.toBits.toNat

/-- Scores are ranked in their order. -/
theorem scoreRank_lt_iff {a b : Float} : scoreRank a < scoreRank b ↔ scoreBelow a b := by
  have ha := a.toBits.toNat_lt
  have hb := b.toBits.toNat_lt
  simp only [scoreRank, scoreBelow, hasMinus]
  split <;> split <;> omega

theorem not_scoreBelow_self (score : Float) : ¬scoreBelow score score := by
  rw [← scoreRank_lt_iff]
  exact Int.lt_irrefl _

/-! ### The best of some hits -/

/-- A hit whose show was first broadcast in the year: the date starts with it. -/
def Hit.IsFrom (hit : Hit) (year : String) : Prop :=
  ∃ date, hit.found.premiered = some date ∧ year.toList <+: date.toList

theorem Hit.isFrom_iff {year : String} : hit.isFrom year ↔ hit.IsFrom year := by
  simp [Hit.isFrom, Hit.IsFrom, Option.any_eq_true]

/-- The first of the hits with the greatest score among those that count. -/
def Hit.IsBest (counts : Hit → Prop) (hits : List Hit) (hit : Hit) : Prop :=
  ∃ before after, hits = before ++ hit :: after ∧ counts hit ∧
    (∀ other ∈ before, counts other → scoreBelow other.score hit.score) ∧
    ∀ other ∈ after, counts other → ¬scoreBelow hit.score other.score

/-- What a search of the hits by falling score finds is the best of those that it looks for. -/
theorem isBest_of_find?_byScore (h : (byScore hits).find? counts = some hit) :
    hit.IsBest (counts ·) hits := by
  obtain ⟨before, after, hhits, hcounts, hbefore, hafter⟩ :=
    find?_mergeSort (by intro a b c; simp only [decide_eq_true_eq]; omega)
      (by intro a b; simp only [Bool.or_eq_true, decide_eq_true_eq]; omega) h
  refine ⟨before, after, hhits, hcounts, ?_, ?_⟩
  · intro other hother hcounts
    rw [← scoreRank_lt_iff]
    simpa using hbefore other hother hcounts
  · intro other hother hcounts
    rw [← scoreRank_lt_iff]
    simpa using hafter other hother hcounts

theorem mem_byScore : hit ∈ byScore hits ↔ hit ∈ hits := List.mem_mergeSort

/-- Where a hit counts, the search of the hits by falling score finds the best of those that do. -/
theorem exists_find?_byScore (counts : Hit → Bool) (h : ∃ hit ∈ hits, counts hit) :
    ∃ hit, (byScore hits).find? counts = some hit ∧ hit.IsBest (counts ·) hits := by
  obtain ⟨hit, hmem, hcounts⟩ := h
  have hsome : ((byScore hits).find? counts).isSome :=
    List.find?_isSome.mpr ⟨hit, mem_byScore.mpr hmem, hcounts⟩
  obtain ⟨best, hbest⟩ := Option.isSome_iff_exists.mp hsome
  exact ⟨best, hbest, isBest_of_find?_byScore hbest⟩

/-- Where there are hits, the first of them by falling score is the best of all. -/
theorem exists_head?_byScore (h : hits ≠ []) :
    ∃ hit, (byScore hits).head? = some hit ∧ hit.IsBest (fun _ => True) hits := by
  obtain ⟨first, hfirst⟩ := List.exists_mem_of_ne_nil hits h
  obtain ⟨hit, hfind, hbest⟩ := exists_find?_byScore (fun _ => true) ⟨first, hfirst, rfl⟩
  rw [← List.head?_filter, List.filter_eq_self.mpr fun _ _ => rfl] at hfind
  exact ⟨hit, hfind, by simpa using hbest⟩

/-- Without a hit of the year that is asked for, the first by falling score is picked. -/
theorem pickHit?_eq_head? (h : ∀ y, year = some y → ∀ hit ∈ hits, ¬hit.IsFrom y) :
    pickHit? hits year = (byScore hits).head?.map (·.found) := by
  cases year with
  | none => rfl
  | some y =>
    have hnone : (byScore hits).find? (·.isFrom y) = none := by
      refine List.find?_eq_none.mpr fun hit hhit => ?_
      rw [Hit.isFrom_iff]
      exact h y rfl hit (mem_byScore.mp hhit)
    simp [pickHit?, hnone]

theorem pickHit?_eq_none_iff : pickHit? hits year = none ↔ hits = [] := by
  have hsorted : byScore hits = [] ↔ hits = [] := by
    rw [← List.length_eq_zero_iff, byScore, List.length_mergeSort, List.length_eq_zero_iff]
  rw [pickHit?, Option.map_eq_none_iff, Option.or_eq_none_iff, List.head?_eq_none_iff, hsorted,
    and_iff_right_iff_imp]
  intro hnil
  rw [hsorted.mpr hnil]
  cases year <;> rfl

/-- The hit that is picked: nothing is picked only of no hits. If there are hits of the year that is
asked for, it is the best of these, and otherwise the best of all. -/
theorem pickHit?_best (hits : List Hit) (year : Option String) :
    (pickHit? hits year = none ↔ hits = []) ∧
    (∀ y, year = some y → (∃ hit ∈ hits, hit.IsFrom y) →
      ∃ hit : Hit, pickHit? hits year = some hit.found ∧ hit.IsBest (·.IsFrom y) hits) ∧
    ((∀ y, year = some y → ∀ hit ∈ hits, ¬hit.IsFrom y) → hits ≠ [] →
      ∃ hit : Hit, pickHit? hits year = some hit.found ∧ hit.IsBest (fun _ => True) hits) := by
  refine ⟨pickHit?_eq_none_iff, ?_, ?_⟩
  · rintro y rfl hfrom
    simp only [← Hit.isFrom_iff] at hfrom ⊢
    obtain ⟨hit, hfind, hbest⟩ := exists_find?_byScore _ hfrom
    exact ⟨hit, by simp [pickHit?, hfind], hbest⟩
  · intro hother hne
    obtain ⟨hit, hhead, hbest⟩ := exists_head?_byScore hne
    exact ⟨hit, by rw [pickHit?_eq_head? hother, hhead]; rfl, hbest⟩

/-- Of two hits of the year with the same score the first is picked, and not the one of another year
that has a greater score. -/
theorem pickHit?_best_tie :
    let shown (id : Nat) (date : String) : ShowEntry := ⟨id, "Heroes", none, some date, none, []⟩
    let hits : List Hit := [⟨0.9, shown 1 "2006-09-25"⟩, ⟨0.7, shown 2 "2021-01-01"⟩,
      ⟨0.7, shown 3 "2021-05-01"⟩]
    (∃ hit ∈ hits, hit.IsFrom "2021") ∧
      pickHit? hits (some "2021") = some (shown 2 "2021-01-01") := by
  intro shown hits
  have hsecond : Hit.IsFrom ⟨0.7, shown 2 "2021-01-01"⟩ "2021" := ⟨_, rfl, by decide⟩
  have hfrom : ∃ hit ∈ hits, hit.IsFrom "2021" := ⟨_, by simp [hits], hsecond⟩
  obtain ⟨hit, hpick, before, after, hsplit, ⟨date, hdate, hyear⟩, hbefore, -⟩ :=
    (pickHit?_best hits (some "2021")).2.1 "2021" rfl hfrom
  refine ⟨hfrom, hpick.trans ?_⟩
  rcases before with _ | ⟨first, _ | ⟨second, before⟩⟩
  · obtain ⟨rfl, -⟩ := List.cons.inj hsplit
    obtain rfl := Option.some.inj hdate
    exact absurd hyear (by decide)
  · obtain ⟨-, hsplit⟩ := List.cons.inj hsplit
    obtain ⟨rfl, -⟩ := List.cons.inj hsplit
    rfl
  · -- the third hit is not better than the second
    obtain ⟨-, hsplit⟩ := List.cons.inj hsplit
    obtain ⟨rfl, hlast⟩ := List.cons.inj hsplit
    have hthird : hit ∈ [(⟨0.7, shown 3 "2021-05-01"⟩ : Hit)] :=
      hlast ▸ List.mem_append_right before List.mem_cons_self
    obtain rfl := List.mem_singleton.mp hthird
    exact absurd (hbefore _ (by simp) hsecond) (not_scoreBelow_self _)

end MediaShelf.TvMaze
