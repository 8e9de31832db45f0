import Mathlib.Order.Basic
import Mathlib.Data.String.Basic
import Mathlib.Tactic

/- The sdk.Coins values the bank keepers exchange. Amounts are sdkmath.Int: the
keepers below never leave the 256-bit range on the values they compute, so the
overflow panic of that type is not represented. -/
namespace OgEvm

abbrev Denom : Type := String
abbrev ModuleName : Type := String

/-- sdk.AccAddress: a byte string of any length the SDK accepts. -/
abbrev AccAddress : Type := List UInt8

structure Coin where
  denom : Denom
  amount : ℤ
  deriving DecidableEq, Repr

abbrev Coins : Type := List Coin

namespace Coins

/-- Denominations strictly ascending, every amount positive. The empty set is valid. -/
def IsValid (coins : Coins) : Prop :=
  (coins.map Coin.denom).Pairwise (· < ·) ∧ ∀ coin ∈ coins, 0 < coin.amount

instance (coins : Coins) : Decidable (IsValid coins) :=
  inferInstanceAs (Decidable (_ ∧ _))

def amountOf (coins : Coins) (denom : Denom) : ℤ :=
  ((coins.find? fun coin => coin.denom = denom).map Coin.amount).getD 0

/-- `Coins.Sub` of one coin: zero results are dropped. -/
def sub (coins : Coins) (coin : Coin) : Coins :=
  (coins.map fun held =>
    if held.denom = coin.denom then { held with amount := held.amount - coin.amount } else held).filter
    fun held => held.amount ≠ 0

def IsAllPositive (coins : Coins) : Prop :=
  coins ≠ [] ∧ ∀ coin ∈ coins, 0 < coin.amount

instance (coins : Coins) : Decidable (IsAllPositive coins) :=
  inferInstanceAs (Decidable (_ ∧ _))

def toText (coins : Coins) : String :=
  ",".intercalate (coins.map fun coin => toString coin.amount ++ coin.denom)

section

variable {coin : Coin} {rest : Coins} {coins : Coins}

@[simp] theorem amountOf_nil (denom : Denom) : amountOf [] denom = 0 := rfl

theorem amountOf_cons (coin : Coin) (rest : Coins) (denom : Denom) : amountOf (coin :: rest) denom =
      if coin.denom = denom then coin.amount else amountOf rest denom := by
  by_cases same : coin.denom = denom <;> simp [amountOf, same]

theorem amountOf_singleton (denom other : Denom) (amount : ℤ) :
    amountOf [⟨denom, amount⟩] other = if denom = other then amount else 0 := by
  rw [amountOf_cons, amountOf_nil]

theorem isValid_singleton (denom : Denom) (amount : ℤ) (positive : 0 < amount) : IsValid [⟨denom, amount⟩] := by
  simp [IsValid, positive]

theorem IsValid.tail (valid : IsValid (coin :: rest)) : IsValid rest :=
  ⟨(List.pairwise_cons.mp valid.1).2, fun held member => valid.2 held (List.mem_cons_of_mem _ member)⟩

theorem IsValid.head_pos (valid : IsValid (coin :: rest)) : 0 < coin.amount := valid.2 coin List.mem_cons_self

/-- A valid set names each denomination once. -/
theorem IsValid.head_fresh (valid : IsValid (coin :: rest)) : ∀ held ∈ rest, held.denom ≠ coin.denom := by
  intro held member same
  have ascending := (List.pairwise_cons.mp valid.1).1 held.denom (List.mem_map_of_mem member)
  rw [same] at ascending
  exact lt_irrefl _ ascending

theorem amountOf_of_fresh (coins : Coins) (denom : Denom) (fresh : ∀ held ∈ coins, held.denom ≠ denom) :
    amountOf coins denom = 0 := by
  induction coins with
  | nil => rfl
  | cons coin rest ih =>
    rw [amountOf_cons, if_neg (fresh coin List.mem_cons_self)]
    exact ih fun held member => fresh held (List.mem_cons_of_mem _ member)

theorem IsValid.amountOf_tail (valid : IsValid (coin :: rest)) : amountOf rest coin.denom = 0 :=
  amountOf_of_fresh rest coin.denom valid.head_fresh

theorem IsValid.amountOf_mem (valid : IsValid coins) (member : coin ∈ coins) :
    amountOf coins coin.denom = coin.amount := by
  induction coins with
  | nil => cases member
  | cons first rest ih =>
    rw [amountOf_cons]
    rcases List.mem_cons.mp member with rfl | later
    · exact if_pos rfl
    · rw [if_neg (valid.head_fresh coin later).symm]
      exact ih valid.tail later

theorem amountOf_nonneg (valid : IsValid coins) (denom : Denom) : 0 ≤ amountOf coins denom := by
  induction coins with
  | nil => exact le_refl 0
  | cons coin rest ih =>
    rw [amountOf_cons]
    split
    · exact valid.head_pos.le
    · exact ih valid.tail

theorem sub_cons (held : Coin) (rest : Coins) (coin : Coin) : sub (held :: rest) coin =
      if held.denom = coin.denom then if held.amount = coin.amount then sub rest coin
        else { held with amount := held.amount - coin.amount } :: sub rest coin
      else if held.amount = 0 then sub rest coin else held :: sub rest coin := by
  by_cases same : held.denom = coin.denom
  · by_cases whole : held.amount = coin.amount
    · simp [sub, same, whole]
    · simp [sub, same, whole, sub_eq_zero]
  · by_cases zero : held.amount = 0 <;> simp [sub, same, zero]

theorem sub_of_fresh (valid : IsValid coins) (coin : Coin) (fresh : ∀ held ∈ coins, held.denom ≠ coin.denom) :
    sub coins coin = coins := by
  induction coins with
  | nil => rfl
  | cons held rest ih =>
    rw [sub_cons, if_neg (fresh held List.mem_cons_self), if_neg valid.head_pos.ne',
      ih valid.tail fun other member => fresh other (List.mem_cons_of_mem _ member)]

/-- Removing the whole amount of one denomination leaves the other coins as they are. -/
theorem sub_amountOf (valid : IsValid coins) (denom : Denom) :
    sub coins ⟨denom, amountOf coins denom⟩ = coins.filter fun coin => coin.denom ≠ denom := by
  induction coins with
  | nil => rfl
  | cons coin rest ih =>
    rw [sub_cons]
    by_cases same : coin.denom = denom
    · have fresh : ∀ held ∈ rest, held.denom ≠ denom := same ▸ valid.head_fresh
      have filtered : rest.filter (fun held => held.denom ≠ denom) = rest :=
        List.filter_eq_self.mpr fun held member => by simpa using fresh held member
      rw [amountOf_cons, if_pos same, if_pos same, if_pos rfl, sub_of_fresh valid.tail _ fresh,
        List.filter_cons_of_neg (by simpa using same), filtered]
    · rw [amountOf_cons, if_neg same, if_neg same, if_neg valid.head_pos.ne', ih valid.tail,
        List.filter_cons_of_pos (by simpa using same)]

end

theorem amountOf_filter_self (coins : Coins) (denom : Denom) :
    amountOf (coins.filter fun coin => coin.denom ≠ denom) denom = 0 := by
  apply amountOf_of_fresh
  intro coin member
  simpa using List.of_mem_filter member

theorem amountOf_filter_ne (coins : Coins) {denom other : Denom} (apart : other ≠ denom) :
    amountOf (coins.filter fun coin => coin.denom ≠ denom) other = amountOf coins other := by
  induction coins with
  | nil => rfl
  | cons coin rest ih =>
    by_cases same : coin.denom = denom
    · have skip : coin.denom ≠ other := by rw [same]; exact apart.symm
      rw [List.filter_cons_of_neg (by simpa using same), amountOf_cons, if_neg skip, ih]
    · rw [List.filter_cons_of_pos (by simpa using same), amountOf_cons, amountOf_cons, ih]

end Coins

end OgEvm
