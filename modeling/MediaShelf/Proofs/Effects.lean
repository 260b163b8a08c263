/-!
# Effects that may fail

Effects in a row are run up to the first that fails. What each of them changed stays changed, also
when a later one fails.

## Main results

* `run_bind` — two effects in a row
* `run_bind_ok` — effects that end well
* `run_bind_keeps` — what every effect keeps is kept
-/

namespace MediaShelf

variable {ε σ α β : Type} {first : ExceptT ε (StateM σ) α} {next : α → ExceptT ε (StateM σ) β}
  {s : σ}

/-- Effects in a row: the next goes on where the first ended, unless that failed. -/
theorem run_bind :
    (first >>= next).run s =
      match first.run s with
      | (.ok a, mid) => (next a).run mid
      | (.error e, mid) => (.error e, mid) := by
  simp only [Bind.bind, ExceptT.bind, ExceptT.mk, ExceptT.run, StateT.bind]
  rcases first s with ⟨_ | _, _⟩ <;> rfl

/-- Effects in a row end well only if the first does, and the others go on from there. -/
theorem run_bind_ok {b : β}
    (h : ((first >>= next).run s).1 = .ok b) :
    ∃ a mid, first.run s = (.ok a, mid) ∧ (first >>= next).run s = (next a).run mid := by
  rw [run_bind] at h ⊢
  rcases hfirst : first.run s with ⟨_ | a, mid⟩
  · rw [hfirst] at h
    cases h
  · exact ⟨a, mid, rfl, rfl⟩

/-- Effects in a row keep what each of them keeps, whether or not they fail. -/
theorem run_bind_keeps (keeps : σ → Prop)
    (hfirst : keeps (first.run s).2) (hnext : ∀ a mid, keeps mid → keeps ((next a).run mid).2) :
    keeps ((first >>= next).run s).2 := by
  rw [run_bind]
  rcases hmid : first.run s with ⟨_ | a, mid⟩
  · rw [hmid] at hfirst
    exact hfirst
  · rw [hmid] at hfirst
    exact hnext a mid hfirst

end MediaShelf
