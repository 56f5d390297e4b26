import Mathlib.Algebra.Group.Nat.Defs
import Mathlib.Data.Nat.Basic

set_option autoImplicit false

namespace Ticker

def turn (period count : Nat) : Nat × Bool := if count + 1 ≥ period then (0, true) else (count + 1, false)

theorem turn_mod {period : Nat} (positive : 0 < period) (turns : Nat) :
    turn period (turns % period) = ((turns + 1) % period, decide (period ∣ turns + 1)) := by
  have below := Nat.mod_lt turns positive
  have next : (turns + 1) % period = (turns % period + 1) % period := by rw [Nat.mod_add_mod]
  unfold turn
  by_cases last : turns % period + 1 ≥ period
  next =>
    have full : turns % period + 1 = period := by omega
    have whole : (turns + 1) % period = 0 := by rw [next, full, Nat.mod_self]
    rw [if_pos last, whole, decide_eq_true (Nat.dvd_of_mod_eq_zero whole)]
  next =>
    have same : (turns + 1) % period = turns % period + 1 := by rw [next, Nat.mod_eq_of_lt (by omega)]
    rw [if_neg last, same, decide_eq_false]
    intro divides
    have none := Nat.mod_eq_zero_of_dvd divides
    omega

end Ticker
