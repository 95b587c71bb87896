/-
Escrow accounts: an amount already spent, an amount held for payments
under way, and a capacity the two must not exceed together.

A payment is first held, when there is room for all of it, and later
settled for at most what was held. The bound survives every sequence of
such moves, whatever the order in which payments are held and settled,
because a settlement never gives up less than it spends.

A limit of zero is no limit. A system whose steps are moves of an account
its states show keeps that account bounded (`Move.bounded`).
-/
import Mathlib.Logic.Basic

namespace Escrow

/-- What has been spent, and what is held for payments under way. -/
structure Account where
  spent : Nat
  held : Nat
  deriving DecidableEq, Repr

/-- Spent and held together fit the capacity. -/
def Account.Within (a : Account) (capacity : Nat) : Prop :=
  a.spent + a.held ≤ capacity

/-- The same under a limit, of which zero bounds nothing. -/
def Account.Bounded (a : Account) (limit : Nat) : Prop :=
  0 < limit → a.Within limit

/-- What a payment can still be held from. -/
def Account.available (a : Account) (capacity : Nat) : Nat :=
  capacity - a.spent - a.held

instance (a : Account) (capacity : Nat) : Decidable (a.Within capacity) :=
  inferInstanceAs (Decidable (_ ≤ _))

/-- The moves of an account: holding an amount there is room for, and
settling a held amount for at most as much. Giving a hold back is
settling it for nothing. -/
inductive Move (capacity : Nat) (a b : Account) : Prop
  | hold (n : Nat) (hroom : a.spent + a.held + n ≤ capacity)
      (hspent : b.spent = a.spent) (hheld : b.held = a.held + n)
  | settle (n c : Nat) (hc : c ≤ n) (hspent : b.spent ≤ a.spent + c)
      (hheld : b.held + n = a.held)

section

variable {capacity : Nat} {a b : Account}

/-- Nothing moves. -/
theorem Move.stay (hspent : b.spent ≤ a.spent) (hheld : b.held = a.held) :
    Move capacity a b :=
  .settle 0 0 (Nat.le_refl 0) hspent hheld

/-- A move keeps the bound. -/
theorem Move.within (hmove : Move capacity a b) (h : a.Within capacity) :
    b.Within capacity := by
  unfold Account.Within at h ⊢
  cases hmove with
  | hold n hroom hspent hheld => omega
  | settle n c hc hspent hheld => omega

/-- A move under a limit keeps the account bounded by it. -/
theorem Move.bounded {limit : Nat} (hmove : 0 < limit → Move limit a b)
    (h : a.Bounded limit) : b.Bounded limit :=
  fun hlimit => (hmove hlimit).within (h hlimit)

/-- Within a capacity that keeps a reserve back, the reserve stays
available under the whole capacity. -/
theorem Account.Within.available {reserve : Nat}
    (h : a.Within (capacity - reserve)) (hreserve : reserve ≤ capacity) :
    reserve ≤ a.available capacity := by
  unfold Account.Within at h
  unfold Account.available
  omega

end

end Escrow
