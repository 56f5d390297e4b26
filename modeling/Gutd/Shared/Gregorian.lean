import Gutd.Shared.Calendar
import Mathlib.Logic.Function.Iterate

set_option autoImplicit false

namespace Gregorian

structure Date where
  year : Nat
  month : Nat
  day : Nat
  deriving DecidableEq

def isLeap (year : Nat) : Bool := (year % 4 = 0 && year % 100 ≠ 0) || year % 400 = 0

def monthLength (leap : Bool) (month : Nat) : Nat :=
  if month = 2 then if leap then 29 else 28
  else if month = 4 ∨ month = 6 ∨ month = 9 ∨ month = 11 then 30
  else 31

def Date.next (d : Date) : Date :=
  if d.day < monthLength (isLeap d.year) d.month then ⟨d.year, d.month, d.day + 1⟩
  else if d.month < 12 then ⟨d.year, d.month + 1, 1⟩
  else ⟨d.year + 1, 1, 1⟩

def dateOf (days : Nat) : Date := Date.next^[days] ⟨1970, 1, 1⟩

inductive Weekday where
  | monday
  | tuesday
  | wednesday
  | thursday
  | friday
  | saturday
  | sunday
  deriving DecidableEq

def Weekday.next : Weekday → Weekday
  | monday => tuesday
  | tuesday => wednesday
  | wednesday => thursday
  | thursday => friday
  | friday => saturday
  | saturday => sunday
  | sunday => monday

def weekdayOf (days : Nat) : Weekday := Weekday.next^[days] .thursday

def marchDate (year dayOfYear : Nat) : Date :=
  let mp := (5 * dayOfYear + 2) / 153
  let month := if mp < 10 then mp + 3 else mp - 9
  ⟨if month ≤ 2 then year + 1 else year, month, dayOfYear - (153 * mp + 2) / 5 + 1⟩

def marchYearLength (year : Nat) : Nat := if isLeap (year + 1) then 366 else 365

theorem yearStart_succ (year : Nat) : Calendar.yearStart (year + 1) = Calendar.yearStart year + marchYearLength year := by
  have fourth : (year + 1) / 4 = year / 4 + if (year + 1) % 4 = 0 then 1 else 0 := by split_ifs <;> omega
  have century : (year + 1) / 100 = year / 100 + if (year + 1) % 100 = 0 then 1 else 0 := by split_ifs <;> omega
  have era : (year + 1) / 400 = year / 400 + if (year + 1) % 400 = 0 then 1 else 0 := by split_ifs <;> omega
  have order : year / 100 ≤ year / 4 := by omega
  have finer : ((year + 1) % 400 = 0 → (year + 1) % 100 = 0) ∧ ((year + 1) % 100 = 0 → (year + 1) % 4 = 0) := by omega
  rw [Calendar.yearStart, Calendar.yearStart, fourth, century, era, marchYearLength, isLeap]
  generalize (year + 1) % 4 = r4 at *
  generalize (year + 1) % 100 = r100 at *
  generalize (year + 1) % 400 = r400 at *
  simp only [Bool.or_eq_true, Bool.and_eq_true, decide_eq_true_eq]
  split_ifs <;> omega

theorem marchDate_add (year doy : Nat) :
    marchDate year doy = ⟨year + (marchDate 0 doy).year, (marchDate 0 doy).month, (marchDate 0 doy).day⟩ := by
  simp only [marchDate, Date.mk.injEq, and_true]
  split_ifs <;> rfl

-- only the length of February depends on the year, and that is the year after
theorem next_marchDate_table : ∀ leap other : Bool, ∀ doy < 365, doy + 1 < (if leap then 366 else 365) →
    (if (marchDate 0 doy).day < monthLength (if (marchDate 0 doy).year = 1 then leap else other) (marchDate 0 doy).month then
      marchDate 0 (doy + 1) = ⟨(marchDate 0 doy).year, (marchDate 0 doy).month, (marchDate 0 doy).day + 1⟩
    else if (marchDate 0 doy).month < 12 then
      marchDate 0 (doy + 1) = ⟨(marchDate 0 doy).year, (marchDate 0 doy).month + 1, 1⟩
    else marchDate 0 (doy + 1) = ⟨(marchDate 0 doy).year + 1, 1, 1⟩) := by
  decide +kernel

theorem last_marchDate_table (leap : Bool) :
    marchDate 0 ((if leap then 366 else 365) - 1) = ⟨1, 2, monthLength leap 2⟩ := by
  cases leap <;> decide

theorem year_marchDate (doy : Nat) : (marchDate 0 doy).year = 0 ∨ (marchDate 0 doy).year = 1 := by
  simp only [marchDate]
  split_ifs <;> simp

theorem next_marchDate {year doy : Nat} (inside : doy + 1 < marchYearLength year) :
    (marchDate year doy).next = marchDate year (doy + 1) := by
  have bound : marchYearLength year ≤ 366 := by
    unfold marchYearLength
    split_ifs <;> omega
  have step := next_marchDate_table (isLeap (year + 1)) (isLeap year) doy (by omega) inside
  have leap : isLeap (year + (marchDate 0 doy).year) =
      if (marchDate 0 doy).year = 1 then isLeap (year + 1) else isLeap year := by
    rcases year_marchDate doy with same | later
    · simp [same]
    · simp [later]
  rw [marchDate_add year doy, marchDate_add year (doy + 1), Date.next]
  dsimp only
  rw [leap]
  split_ifs at step ⊢ <;> rw [step] <;> rfl

theorem next_marchDate_last {year doy : Nat} (last : doy + 1 = marchYearLength year) :
    (marchDate year doy).next = marchDate (year + 1) 0 := by
  have table := last_marchDate_table (isLeap (year + 1))
  have whole : doy = marchYearLength year - 1 := by omega
  rw [marchYearLength] at whole
  rw [marchDate_add, whole, table, Date.next, marchDate_add]
  simp
  decide

theorem yearStart_mono {a b : Nat} (le : a ≤ b) : Calendar.yearStart a ≤ Calendar.yearStart b := by
  induction le with
  | refl => exact Nat.le_refl _
  | step _ ih =>
      rw [yearStart_succ]
      exact Nat.le_trans ih (Nat.le_add_right _ _)

theorem yearStart_unique {a b z : Nat} (inside : Calendar.yearStart a ≤ z ∧ z < Calendar.yearStart (a + 1))
    (inside' : Calendar.yearStart b ≤ z ∧ z < Calendar.yearStart (b + 1)) : a = b := by
  rcases Nat.lt_trichotomy a b with less | same | more
  · have order := yearStart_mono (show a + 1 ≤ b from less)
    omega
  · exact same
  · have order := yearStart_mono (show b + 1 ≤ a from more)
    omega

def marchYear (days : Nat) : Nat := Calendar.yearOfEra days + Calendar.era days * 400

theorem yearStart_marchYear (days : Nat) :
    Calendar.yearStart (marchYear days) ≤ days + 719468 ∧ days + 719468 < Calendar.yearStart (marchYear days + 1) ∧
      Calendar.dayOfYear days = days + 719468 - Calendar.yearStart (marchYear days) := by
  have bracket := Calendar.yearStart_yearOfEra days
  have eras : days + 719468 = Calendar.era days * 146097 + Calendar.dayOfEra days := by
    unfold Calendar.dayOfEra Calendar.era
    omega
  rw [Calendar.dayOfYear, eras]
  unfold marchYear Calendar.yearStart at *
  generalize Calendar.yearOfEra days = y at *
  generalize Calendar.era days = e at *
  omega

theorem date_eq_marchDate (days : Nat) :
    (⟨Calendar.year days, Calendar.month days, Calendar.day days⟩ : Date) = marchDate (marchYear days) (Calendar.dayOfYear days) :=
  rfl

theorem calendar_date (days : Nat) : (⟨Calendar.year days, Calendar.month days, Calendar.day days⟩ : Date) = dateOf days := by
  induction days with
  | zero => decide
  | succ days ih =>
      obtain ⟨starts, ends, doy⟩ := yearStart_marchYear days
      obtain ⟨starts', ends', doy'⟩ := yearStart_marchYear (days + 1)
      rw [dateOf, Function.iterate_succ_apply', ← dateOf, ← ih, date_eq_marchDate, date_eq_marchDate]
      rw [yearStart_succ] at ends
      by_cases last : Calendar.dayOfYear days + 1 = marchYearLength (marchYear days)
      · have positive : 365 ≤ marchYearLength (marchYear days + 1) := by
          unfold marchYearLength
          split_ifs <;> omega
        have next : marchYear (days + 1) = marchYear days + 1 := by
          have this := yearStart_succ (marchYear days)
          have following := yearStart_succ (marchYear days + 1)
          exact yearStart_unique ⟨starts', ends'⟩ ⟨by omega, by omega⟩
        have first : Calendar.dayOfYear (days + 1) = 0 := by
          rw [doy', next, yearStart_succ]
          omega
        rw [next_marchDate_last last, next, first]
      · have same : marchYear (days + 1) = marchYear days := by
          refine yearStart_unique ⟨starts', ends'⟩ ?_
          rw [yearStart_succ]
          omega
        have following : Calendar.dayOfYear (days + 1) = Calendar.dayOfYear days + 1 := by
          rw [doy', doy, same]
          omega
        rw [next_marchDate (by omega), same, following]

theorem weekdayOf_eq (days : Nat) :
    weekdayOf days =
      [.monday, .tuesday, .wednesday, .thursday, .friday, .saturday, .sunday].getD ((days + 3) % 7) .sunday := by
  induction days with
  | zero => rfl
  | succ days ih =>
      have step : ∀ r < 7, Weekday.next ([.monday, .tuesday, .wednesday, .thursday, .friday, .saturday, .sunday].getD r .sunday) =
          [.monday, .tuesday, .wednesday, .thursday, .friday, .saturday, .sunday].getD ((r + 1) % 7) .sunday := by decide
      rw [weekdayOf, Function.iterate_succ_apply', ← weekdayOf, ih, step _ (Nat.mod_lt _ (by decide))]
      congr 1
      omega

end Gregorian
