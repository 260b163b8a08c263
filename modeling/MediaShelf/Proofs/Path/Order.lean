import Mathlib.Data.List.Nodup
import Mathlib.Data.List.Perm.Basic
import Mathlib.Order.Compare
import MediaShelf.Path.Basic

/-!
# The order of paths

Texts, components and paths are compared like lists, the first difference deciding. Two paths that
compare as equal have the same components, and of two paths with different components one comes
first. Hence there is only one way to put such paths in order.

## Main results

* `Path.compare_eq_iff` — what compares as equal has the same components
* `Path.pairwise_sort` — sorted paths with different components are in strictly ascending order
* `Path.eq_of_ascending` — strictly ascending lists with the same members are the same
-/

namespace MediaShelf.Path

open Std

/-- Things that are compared by a property of theirs inherit the order of that property. -/
theorem transCmp_on {α β : Type} (cmp : β → β → Ordering) [TransCmp cmp] (f : α → β) :
    TransCmp fun a b => cmp (f a) (f b) where
  eq_swap {a b} := @OrientedCmp.eq_swap _ cmp _ (f a) (f b)
  isLE_trans {a b c} := @TransCmp.isLE_trans _ cmp _ (f a) (f b) (f c)

/-! ### Texts -/

theorem compareText_eq :
    compareText = List.compareLex fun a b : Char => Ord.compare a.toNat b.toNat := by
  -- both texts get shorter together, so the other one varies
  funext as bs
  induction as generalizing bs with
  | nil => cases bs <;> rfl
  | cons a as ih =>
    cases bs with
    | nil => rfl
    | cons b bs => rw [compareText, ih, List.compareLex_cons_cons]

instance : TransCmp compareText := by
  have hchar : TransCmp fun a b : Char => Ord.compare a.toNat b.toNat := transCmp_on _ Char.toNat
  rw [compareText_eq]
  infer_instance

instance : LawfulEqCmp compareText := by
  have hchar : LawfulEqCmp fun a b : Char => Ord.compare a.toNat b.toNat :=
    { compare_self := Nat.compare_eq_eq.mpr rfl
      eq_of_compare := fun h => Char.toNat_inj.mp (Nat.compare_eq_eq.mp h) }
  rw [compareText_eq]
  infer_instance

/-! ### Components -/

/-- The text of a name; other components have none. -/
def Component.text : Component → List Char
  | name text => text
  | _ => []

/-- Components are compared by kind first, then by text. -/
theorem Component.compare_eq (a b : Component) :
    a.compare b = (Ord.compare a.rank b.rank).then (compareText a.text b.text) := by
  cases a <;> cases b <;> rfl

instance : TransCmp Component.compare := by
  have hrank : TransCmp fun a b : Component => Ord.compare a.rank b.rank :=
    transCmp_on _ Component.rank
  have htext : TransCmp fun a b : Component => compareText a.text b.text :=
    transCmp_on _ Component.text
  have hlex : Component.compare = compareLex (fun a b => Ord.compare a.rank b.rank)
      fun a b => compareText a.text b.text :=
    funext fun a => funext a.compare_eq
  rw [hlex]
  infer_instance

instance : LawfulEqCmp Component.compare where
  compare_self {a} := by
    rw [Component.compare_eq, Ordering.then_eq_eq]
    exact ⟨Nat.compare_eq_eq.mpr rfl, ReflCmp.compare_self⟩
  eq_of_compare {a b} h := by
    rw [Component.compare_eq, Ordering.then_eq_eq] at h
    -- the rank tells the kind, and only names have a text
    have htext : a.text = b.text := LawfulEqCmp.eq_of_compare h.2
    have hrank : a.rank = b.rank := Nat.compare_eq_eq.mp h.1
    cases a <;> cases b <;> simp_all [Component.rank, Component.text]

theorem compareComponents_eq : compareComponents = List.compareLex Component.compare := by
  funext as bs
  induction as generalizing bs with
  | nil => cases bs <;> rfl
  | cons a as ih =>
    cases bs with
    | nil => rfl
    | cons b bs => rw [compareComponents, ih, List.compareLex_cons_cons]

instance : TransCmp compareComponents := by
  rw [compareComponents_eq]
  infer_instance

instance : LawfulEqCmp compareComponents := by
  rw [compareComponents_eq]
  infer_instance

/-! ### Paths -/

variable {a b : Path} {files others : List Path}

instance : TransCmp compare := transCmp_on compareComponents components

/-- What compares as equal has the same components. -/
theorem compare_eq_iff : a.compare b = .eq ↔ a.components = b.components :=
  @LawfulEqCmp.compare_eq_iff_eq _ compareComponents _ _ _

theorem compare_swap (a b : Path) : a.compare b = (b.compare a).swap :=
  @OrientedCmp.eq_swap _ compare _ a b

/-- Of two paths with different components the one that does not come later comes first. -/
theorem compare_eq_lt (h : a.compare b ≠ .gt) (hne : a.components ≠ b.components) :
    a.compare b = .lt := by
  cases hcompare : a.compare b with
  | lt => rfl
  | eq => exact absurd (compare_eq_iff.mp hcompare) hne
  | gt => exact absurd hcompare h

/-- Sorted paths with different components are in strictly ascending order. -/
theorem pairwise_sort (h : (files.map components).Nodup) :
    (files.mergeSort fun a b => a.compare b != .gt).Pairwise fun a b => a.compare b = .lt := by
  have htrans (a b c : Path) (hab : a.compare b != .gt) (hbc : b.compare c != .gt) :
      a.compare c != .gt := by
    simp only [bne_iff_ne, ← Ordering.isLE_iff_ne_gt] at hab hbc ⊢
    exact TransCmp.isLE_trans hab hbc
  have htotal (a b : Path) : (a.compare b != .gt || b.compare a != .gt) = true := by
    rw [compare_swap b]
    cases a.compare b <;> rfl
  -- sorting gives an order that is not strict, and strict it is because no two paths are equal
  have hsorted := List.pairwise_mergeSort htrans htotal files
  have hdistinct := (((List.mergeSort_perm files
    fun a b => a.compare b != .gt).map components).nodup_iff).mpr h
  refine (hsorted.and (List.pairwise_map.mp hdistinct)).imp ?_
  intro a b hab
  exact compare_eq_lt (by simpa using hab.1) hab.2

theorem nodup_of_ascending (h : files.Pairwise fun a b => a.compare b = .lt) : files.Nodup := by
  refine h.imp ?_
  rintro a _ hlt rfl
  rw [compare_eq_iff.mpr rfl] at hlt
  cases hlt

/-- Strictly ascending lists with the same members are the same. -/
theorem eq_of_ascending (h : files.Pairwise fun a b => a.compare b = .lt)
    (hother : others.Pairwise fun a b => a.compare b = .lt)
    (hmem : ∀ path, path ∈ files ↔ path ∈ others) : files = others := by
  have hperm : files.Perm others :=
    (List.perm_ext_iff_of_nodup (nodup_of_ascending h) (nodup_of_ascending hother)).mpr hmem
  refine hperm.eq_of_pairwise ?_ h hother
  -- no two paths come before each other
  intro a b _ _ hab hba
  rw [compare_swap, hba] at hab
  cases hab

end MediaShelf.Path
