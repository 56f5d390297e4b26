import Mathlib.Algebra.Group.Nat.Defs
import Mathlib.Tactic.SplitIfs

set_option autoImplicit false

-- Days are counted from the first of January 1970. A year starts in March, so that the leap day comes last.

namespace Calendar

variable (days : Nat)

def era : Nat := (days + 719468) / 146097

def dayOfEra : Nat := days + 719468 - era days * 146097

def yearOfEra : Nat := (dayOfEra days - dayOfEra days / 1460 + dayOfEra days / 36524 - dayOfEra days / 146096) / 365

def dayOfYear : Nat := dayOfEra days - (365 * yearOfEra days + yearOfEra days / 4 - yearOfEra days / 100)

def marchMonth : Nat := (5 * dayOfYear days + 2) / 153

def day : Nat := dayOfYear days - (153 * marchMonth days + 2) / 5 + 1

def month : Nat := if marchMonth days < 10 then marchMonth days + 3 else marchMonth days - 9

def year : Nat := if month days ≤ 2 then yearOfEra days + era days * 400 + 1 else yearOfEra days + era days * 400

theorem dayOfEra_lt : dayOfEra days < 146097 := by
  unfold dayOfEra era
  omega

def yearStart (y : Nat) : Nat := 365 * y + y / 4 - y / 100 + y / 400

-- a year is counted by centuries and by leap cycles of four years
theorem yearStart_split {century cycle year : Nat} (few : century ≤ 3) (short : cycle ≤ 24) (inCycle : year ≤ 3) :
    yearStart (100 * century + 4 * cycle + year) = 36524 * century + 1461 * cycle + 365 * year ∧
      36524 * century + 1461 * cycle + 365 * year + 365 ≤ yearStart (100 * century + 4 * cycle + year + 1) ∧
      (year = 3 → cycle < 24 →
        yearStart (100 * century + 4 * cycle + year + 1) = 36524 * century + 1461 * cycle + 365 * year + 366) := by
  have leap : (100 * century + 4 * cycle + year) / 4 = 25 * century + cycle := by omega
  have skipped : (100 * century + 4 * cycle + year) / 100 = century := by omega
  unfold yearStart
  rw [leap, skipped]
  refine ⟨by omega, by omega, fun last inside => ?_⟩
  subst last
  omega

theorem yearStart_yearOfEra :
    yearStart (yearOfEra days) ≤ dayOfEra days ∧ dayOfEra days < yearStart (yearOfEra days + 1) ∧ yearOfEra days < 400 := by
  have inEra := dayOfEra_lt days
  unfold yearOfEra
  generalize dayOfEra days = d at *
  by_cases last : d = 146096
  · subst last
    decide
  -- and so is a day, up to what is left
  · obtain ⟨century, cycle, rest, split, few, whole, within⟩ : ∃ century cycle rest,
        d = 36524 * century + 1461 * cycle + rest ∧ century ≤ 3 ∧ 1461 * cycle + rest < 36524 ∧ rest ≤ 1460 :=
      ⟨d / 36524, d % 36524 / 1461, d % 36524 % 1461, by omega, by omega, by omega, by omega⟩
    have centuries : d / 36524 = century := by omega
    have inside : d / 146096 = 0 := by omega
    obtain ⟨extra, cycles, carried⟩ : ∃ extra, d / 1460 = 25 * century + cycle + extra ∧
        (extra = 0 ∧ rest ≤ 1459 ∨ extra = 1 ∧ 1364 ≤ rest) :=
      ⟨d / 1460 - (25 * century + cycle), by omega, by omega⟩
    obtain ⟨year, years, inCycle, starts, ends⟩ : ∃ year,
        (d - d / 1460 + d / 36524 - d / 146096) / 365 = 100 * century + 4 * cycle + year ∧
          year ≤ 3 ∧ 365 * year ≤ rest ∧ (rest < 365 * year + 365 ∨ year = 3 ∧ rest = 1460) :=
      ⟨(rest - extra) / 365, by omega, by omega⟩
    obtain ⟨start, next, leap⟩ := yearStart_split few (by omega : cycle ≤ 24) inCycle
    rw [years, start, split]
    refine ⟨by omega, ?_, by omega⟩
    rcases ends with early | ⟨three, leapDay⟩
    · omega
    · rw [leap three (by omega)]
      omega

theorem dayOfYear_le : dayOfYear days ≤ 365 := by
  have bracket := yearStart_yearOfEra days
  unfold dayOfYear
  simp only [yearStart] at bracket
  omega

theorem month_range : 1 ≤ month days ∧ month days ≤ 12 := by
  have inYear := dayOfYear_le days
  unfold month marchMonth
  split_ifs <;> omega

theorem day_range : 1 ≤ day days ∧ day days ≤ 31 := by
  have inYear := dayOfYear_le days
  unfold day marchMonth
  omega

theorem days_lt (fourDigits : year days < 10000) : days < 2932957 := by
  have eras : era days * 400 < 10000 := by
    unfold year at fourDigits
    split_ifs at fourDigits <;> omega
  unfold era at eras
  omega

end Calendar
