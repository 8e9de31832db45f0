import Mathlib.Data.DFinsupp.BigOperators
import Mathlib.Algebra.BigOperators.Finprod
import Mathlib.Algebra.Order.BigOperators.Group.Finset
import Mathlib.Tactic

/- Finite-support amount tables: absent keys read zero, so a table is a store
whose zero entries are deleted, and its total is a finite sum over all keys. -/
namespace Totals

variable {α : Type} [DecidableEq α]

/-- An amount table over arbitrary keys. -/
abbrev Table (α : Type) [DecidableEq α] : Type := Π₀ (_ : α), ℤ

/-- The sum of a table over every key. -/
def total (table : Table α) : ℤ := table.sum fun _ amount => amount

theorem total_add (first second : Table α) : total (first + second) = total first + total second :=
  DFinsupp.sum_add_index (fun _ => rfl) (fun _ _ _ => rfl)

theorem total_single (key : α) (amount : ℤ) : total (DFinsupp.single key amount) = amount :=
  DFinsupp.sum_single_index rfl

variable (table : Table α)

theorem total_erase (key : α) : total (table.erase key) = total table - table key := by
  have split := congrArg total (DFinsupp.erase_add_single key table)
  rw [total_add, total_single] at split
  omega

/-- Overwriting one entry moves the total by exactly the change of that entry. -/
theorem total_update (key : α) (amount : ℤ) : total (table.update key amount) = total table - table key + amount := by
  rw [DFinsupp.update_eq_erase_add_single, total_add, total_single, total_erase]

theorem update_self (key : α) (amount : ℤ) : (table.update key amount) key = amount := by
  rw [DFinsupp.coe_update, Function.update_self]

theorem update_ne {key other : α} (amount : ℤ) (apart : other ≠ key) :
    (table.update key amount) other = table other := by
  rw [DFinsupp.coe_update, Function.update_of_ne apart]

theorem update_apply (key other : α) (amount : ℤ) :
    (table.update key amount) other = if other = key then amount else table other := by
  rw [DFinsupp.coe_update, Function.update_apply]

theorem total_nonneg (nonneg : ∀ key, 0 ≤ table key) : 0 ≤ total table :=
  Finset.sum_nonneg fun key _ => nonneg key

theorem apply_le_total (nonneg : ∀ key, 0 ≤ table key) (key : α) : table key ≤ total table := by
  have rest : 0 ≤ total (table.erase key) := by
    apply total_nonneg
    intro other
    rw [DFinsupp.erase_apply]
    split
    · exact le_refl 0
    · exact nonneg other
  rw [total_erase] at rest
  omega

/-- Two different entries together are covered by the total. -/
theorem add_le_total (nonneg : ∀ key, 0 ≤ table key) {first second : α} (apart : first ≠ second) :
    table first + table second ≤ total table := by
  have rest : ∀ key, 0 ≤ table.erase first key := by
    intro key
    rw [DFinsupp.erase_apply]
    split
    · exact le_refl 0
    · exact nonneg key
  have bound := apply_le_total (table.erase first) rest second
  rw [total_erase, DFinsupp.erase_apply, if_neg apart.symm] at bound
  omega

theorem finite_support : (Function.support table).Finite :=
  table.finite_support

/-- The computed total is the sum over the whole key type. -/
theorem total_eq_finsum : total table = ∑ᶠ key, table key := by
  refine (finsum_eq_sum_of_support_subset _ ?_).symm
  intro key nonzero
  exact DFinsupp.mem_support_iff.mpr nonzero

end Totals
