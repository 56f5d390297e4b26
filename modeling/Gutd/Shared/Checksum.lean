import Gutd.Shared.Bytes

set_option autoImplicit false

-- The sums of RFC 1071. Zero is only the sum of nothing but zeros.

namespace Checksum

open Bytes

def ones16 (n : Nat) : Nat := if n = 0 then 0 else (n - 1) % 0xFFFF + 1

def ones32 (n : Nat) : Nat := if n = 0 then 0 else (n - 1) % 0xFFFFFFFF + 1

theorem ones16_le (n : Nat) : ones16 n ≤ 0xFFFF := by
  unfold ones16
  split_ifs <;> omega

theorem ones32_lt (n : Nat) : ones32 n < 2 ^ 32 := by
  unfold ones32
  split_ifs <;> omega

theorem ones16_eq {n v : Nat} (small : v ≤ 0xFFFF) (same : v % 0xFFFF = n % 0xFFFF) (zero : v = 0 ↔ n = 0) :
    ones16 n = v := by
  unfold ones16
  split_ifs <;> omega

theorem ones16_eq_full {n : Nat} : ones16 n = 0xFFFF ↔ n % 0xFFFF = 0 ∧ n ≠ 0 := by
  unfold ones16
  by_cases zero : n = 0
  · simp [zero]
  · rw [if_neg zero]
    omega

theorem ones32_eq_zero {n : Nat} : ones32 n = 0 ↔ n = 0 := by
  unfold ones32
  by_cases zero : n = 0
  · simp [zero]
  · rw [if_neg zero]
    omega

theorem ones32_mod (n : Nat) : ones32 n % 0xFFFF = n % 0xFFFF := by
  unfold ones32
  split_ifs <;> omega

theorem ones32_add (m n : Nat) : ones32 (ones32 m + n) = ones32 (m + n) := by
  unfold ones32
  split_ifs <;> omega

def sumBe : Buf → Nat
  | [] => 0
  | [high] => 2 ^ 8 * high.toNat
  | high :: low :: rest => 2 ^ 8 * high.toNat + low.toNat + sumBe rest

def leNat : Buf → Nat
  | [] => 0
  | low :: rest => low.toNat + 2 ^ 8 * leNat rest

def sumLe32 : Buf → Nat
  | b0 :: b1 :: b2 :: b3 :: rest => leNat [b0, b1, b2, b3] + sumLe32 rest
  | _ => 0

theorem leNat_lt {buf : Buf} (short : buf.length ≤ 3) : leNat buf < 2 ^ 24 := by
  match buf, short with
  | [], _ => decide
  | [a], _ =>
      have bound := a.toNat_lt
      simp only [leNat]
      omega
  | [a, b], _ =>
      have bounds := And.intro a.toNat_lt b.toNat_lt
      simp only [leNat]
      omega
  | [a, b, c], _ =>
      have bounds := And.intro a.toNat_lt (And.intro b.toNat_lt c.toNat_lt)
      simp only [leNat]
      omega

theorem sumBe_leNat (buf : Buf) : 2 ^ 8 * leNat buf % 0xFFFF = sumBe buf % 0xFFFF ∧ (leNat buf = 0 ↔ sumBe buf = 0) := by
  induction buf using sumBe.induct with
  | case1 => simp [sumBe, leNat]
  | case2 high =>
      simp only [sumBe, leNat]
      omega
  | case3 high low rest ih =>
      simp only [sumBe, leNat]
      omega

theorem sumBe_append {front : Buf} (even : front.length % 2 = 0) (rest : Buf) :
    sumBe (front ++ rest) = sumBe front + sumBe rest := by
  induction front using sumBe.induct with
  | case1 => simp [sumBe]
  | case2 high => simp at even
  | case3 high low front ih =>
      have shorter : front.length % 2 = 0 := by
        simp only [List.length_cons] at even
        omega
      simp only [List.cons_append, sumBe, ih shorter]
      omega

theorem sumLe32_append {front : Buf} (whole : front.length % 4 = 0) (rest : Buf) :
    sumLe32 (front ++ rest) = sumLe32 front + sumLe32 rest := by
  induction front using sumLe32.induct with
  | case1 b0 b1 b2 b3 front ih =>
      have shorter : front.length % 4 = 0 := by
        simp only [List.length_cons] at whole
        omega
      simp only [List.cons_append, sumLe32, ih shorter]
      omega
  | case2 front short =>
      match front, short with
      | [], _ => simp [sumLe32]
      | [_], _ => simp at whole
      | [_, _], _ => simp at whole
      | [_, _, _], _ => simp at whole
      | b0 :: b1 :: b2 :: b3 :: rest, short => exact absurd rfl (short b0 b1 b2 b3 rest)

theorem sumBe_sumLe32 {buf : Buf} (whole : buf.length % 4 = 0) :
    2 ^ 8 * sumLe32 buf % 0xFFFF = sumBe buf % 0xFFFF ∧ (sumLe32 buf = 0 ↔ sumBe buf = 0) := by
  induction buf using sumLe32.induct with
  | case1 b0 b1 b2 b3 rest ih =>
      have shorter : rest.length % 4 = 0 := by
        simp only [List.length_cons] at whole
        omega
      obtain ⟨same, zero⟩ := ih shorter
      simp only [sumLe32, leNat, sumBe]
      omega
  | case2 buf short =>
      match buf, short with
      | [], _ => simp [sumLe32, sumBe]
      | [_], _ => simp at whole
      | [_, _], _ => simp at whole
      | [_, _, _], _ => simp at whole
      | b0 :: b1 :: b2 :: b3 :: rest, short => exact absurd rfl (short b0 b1 b2 b3 rest)

end Checksum
