import MediaShelf.Store.Call
import MediaShelf.Store.Memory

/-!
# Memory stores in a row

A world of several memory stores, each of whose calls may be refused without effect. Calls are
counted over all stores, and whether a call is refused depends on its number, so that every pattern
of refusals occurs.

## Main definitions

* `Shelf` — the stores with the number of calls made so far
* `Shelf.onStore` — an effect on one of the stores
* `Shelf.refusing` — a call that may be refused
* `Shelf.tier` — one of the stores as a tier
-/

namespace MediaShelf

/-- Memory stores and how many calls were made to them. -/
structure Shelf where
  stores : List MemoryStore
  calls : Nat := 0

namespace Shelf

variable {α : Type}

/-- Stores that hold nothing. -/
def empty (size : Nat) : Shelf := ⟨List.replicate size {}, 0⟩

/-- An effect on the store at a place; where there is none, it has an empty store to itself. -/
def onStore (i : Nat) (effect : StateM MemoryStore α) : StateM Shelf α := fun shelf =>
  let (value, store) := effect (shelf.stores[i]?.getD {})
  (value, { shelf with stores := shelf.stores.set i store })

/-- A call that is refused if `refusals` says so of its number. -/
def refusing (refusals : Nat → Option StoreError) (call : StateM Shelf (Except StoreError α)) :
    StateM Shelf (Except StoreError α) := fun shelf =>
  let counted := { shelf with calls := shelf.calls + 1 }
  match refusals shelf.calls with
  | some e => (.error e, counted)
  | none => call counted

/-- The store at a place, any of whose calls may be refused. -/
def tier (refusals : Nat → Option StoreError) (i : Nat) : Tier (StateM Shelf) :=
  (MemoryStore.tier.lift (onStore i)).around fun _ call => refusing refusals call

/-- All stores of a shelf in order. -/
def tiers (refusals : Nat → Option StoreError) (size : Nat) : List (Tier (StateM Shelf)) :=
  (List.range size).map (tier refusals)

end Shelf

end MediaShelf
