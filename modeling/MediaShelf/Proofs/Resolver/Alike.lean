import MediaShelf.Proofs.Resolver.Keeps

/-!
# Effects with one result

Two programs over different worlds, or with different flags, that cannot be told apart by what they
give: whatever the states of their worlds, as long as these satisfy the invariants, both give one
and the same result.

## Main definitions

* `Alike` — two effects that always give the same

## Main results

* `Alike.bind`, `Alike.run_bind` — effects in a row, and effects in a row up to the first failure
-/

namespace MediaShelf

variable {σ τ α β ε : Type}

/-- From all states with the invariants, the two effects give one and the same result and keep the
invariants. -/
def Alike (inv : σ → Prop) (inv' : τ → Prop) (effect : StateM σ α) (effect' : StateM τ α) : Prop :=
  ∃ value, Keeps inv effect (· = value) ∧ Keeps inv' effect' (· = value)

namespace Alike

variable {inv : σ → Prop} {inv' : τ → Prop}

theorem pure (a : α) : Alike inv inv' (Pure.pure a) (Pure.pure a) :=
  ⟨a, .pure rfl, .pure rfl⟩

/-- Effects that depend on the result of earlier ones are alike if they are for each result. -/
theorem bind {first : StateM σ β} {first' : StateM τ β} {next : β → StateM σ α}
    {next' : β → StateM τ α} (hfirst : Alike inv inv' first first')
    (hnext : ∀ b, Alike inv inv' (next b) (next' b)) :
    Alike inv inv' (first >>= next) (first' >>= next') := by
  obtain ⟨b, hb, hb'⟩ := hfirst
  obtain ⟨a, ha, ha'⟩ := hnext b
  refine ⟨a, hb.bind ?_, hb'.bind ?_⟩
  · rintro _ rfl
    exact ha
  · rintro _ rfl
    exact ha'

/-- The same of effects that a failure cuts short. -/
theorem run_bind {first : ExceptT ε (StateM σ) β} {first' : ExceptT ε (StateM τ) β}
    {next : β → ExceptT ε (StateM σ) α} {next' : β → ExceptT ε (StateM τ) α}
    (hfirst : Alike inv inv' first.run first'.run)
    (hnext : ∀ b, Alike inv inv' (next b).run (next' b).run) :
    Alike inv inv' (first >>= next).run (first' >>= next').run := by
  rw [ExceptT.run_bind, ExceptT.run_bind]
  refine hfirst.bind fun result => ?_
  cases result with
  | ok b => exact hnext b
  | error e => exact pure (Except.error e)

/-- What the first effect gives is what the second gives in any state with its invariant. -/
theorem keeps {effect : StateM σ α} {effect' : StateM τ α} (h : Alike inv inv' effect effect')
    {t : τ} (ht : inv' t) : Keeps inv effect (· = (effect' t).1) := by
  obtain ⟨value, hvalue, hvalue'⟩ := h
  rw [(hvalue' t ht).1]
  exact hvalue

end Alike

end MediaShelf
