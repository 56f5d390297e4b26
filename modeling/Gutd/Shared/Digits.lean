import Gutd.Shared.Text

set_option autoImplicit false

namespace Bytes

def IsDigit (b : UInt8) : Prop := 0x30 ≤ b ∧ b ≤ 0x39

instance (b : UInt8) : Decidable (IsDigit b) := inferInstanceAs (Decidable (_ ∧ _))

def digitStep (n : Nat) (b : UInt8) : Nat := if IsDigit b then n * 10 + (b.toNat - 0x30) else n

def digitsValue (text : Buf) : Nat := text.foldl digitStep 0

def saturatingStep (cap n : Nat) (b : UInt8) : Nat :=
  if IsDigit b then min (min (n * 10) cap + (b.toNat - 0x30)) cap else n

variable {text : Buf}

theorem saturatingStep_min (cap n : Nat) (b : UInt8) : saturatingStep cap (min n cap) b = min (digitStep n b) cap := by
  unfold saturatingStep digitStep
  split_ifs <;> omega

theorem foldl_saturatingStep (cap n : Nat) (text : Buf) :
    text.foldl (saturatingStep cap) (min n cap) = min (text.foldl digitStep n) cap := by
  induction text generalizing n with
  | nil => rfl
  | cons b text ih => rw [List.foldl_cons, List.foldl_cons, saturatingStep_min, ih]

theorem foldl_digitStep_plain (n : Nat) (plain : ∀ b ∈ text, ¬IsDigit b) : text.foldl digitStep n = n := by
  induction text with
  | nil => rfl
  | cons b text ih =>
      rw [List.foldl_cons, digitStep, if_neg (plain b List.mem_cons_self)]
      exact ih fun b member => plain b (List.mem_cons_of_mem _ member)

theorem digitStep_digitChar (n d : Nat) (digit : d < 10) :
    digitStep n (UInt8.ofNat (Nat.digitChar d).toNat) = n * 10 + d := by
  have digits : ∀ d : Fin 10, IsDigit (UInt8.ofNat (Nat.digitChar d.val).toNat) ∧
      (UInt8.ofNat (Nat.digitChar d.val).toNat).toNat - 0x30 = d.val := by decide
  obtain ⟨isDigit, value⟩ := digits ⟨d, digit⟩
  rw [digitStep, if_pos isDigit, value]

theorem foldl_digitStep_decimal (m n : Nat) : (decimal n).foldl digitStep m = m * 10 ^ (decimal n).length + n := by
  induction n using Nat.strongRecOn generalizing m with
  | ind n ih =>
      rw [decimal_eq, Nat.toDigits_eq_if (by decide)]
      split_ifs with last
      · rw [List.map_singleton, List.foldl_cons, List.foldl_nil, digitStep_digitChar m n last, List.length_singleton, Nat.pow_one]
      · rw [List.map_append, ← decimal_eq, List.foldl_append, ih (n / 10) (by omega), List.map_singleton, List.foldl_cons,
          List.foldl_nil, digitStep_digitChar _ _ (Nat.mod_lt _ (by decide)), List.length_append, List.length_singleton, Nat.pow_succ,
          Nat.add_mul, Nat.mul_assoc]
        omega

theorem foldl_digitStep_decimalPadded (m : Nat) {width n : Nat} (wide : 0 < width) (bounded : n < 10 ^ width) :
    (decimalPadded width n).foldl digitStep m = m * 10 ^ width + n := by
  have zeros (k m : Nat) : (List.replicate k (0x30 : UInt8)).foldl digitStep m = m * 10 ^ k := by
    induction k generalizing m with
    | zero => simp
    | succ k ih =>
        rw [List.replicate_succ, List.foldl_cons, ih, Nat.pow_succ, Nat.mul_comm (10 ^ k), ← Nat.mul_assoc]
        rfl
  have fits := length_decimal_le wide bounded
  have split : width = width - (decimal n).length + (decimal n).length := by omega
  rw [decimalPadded, List.foldl_append, zeros, foldl_digitStep_decimal, Nat.mul_assoc, ← Nat.pow_add, ← split]

theorem decimal_digit {n : Nat} (small : n < 10) : decimal n = [UInt8.ofNat (0x30 + n)] := by
  have digits : ∀ n < 10, decimal n = [UInt8.ofNat (0x30 + n)] := by decide
  exact digits n small

theorem decimal_last {n : Nat} (large : 10 ≤ n) : decimal n = decimal (n / 10) ++ [UInt8.ofNat (0x30 + n % 10)] := by
  have last := decimal_digit (Nat.mod_lt n (by decide : 10 > 0))
  rw [decimal_eq, Nat.toDigits_of_lt_base (Nat.mod_lt n (by decide)), List.map_singleton] at last
  rw [decimal_eq, Nat.toDigits_eq_if (by decide), if_neg (by omega), List.map_append, List.map_singleton, ← decimal_eq, last]

theorem decimalPadded_succ {width : Nat} (some : 0 < width) (n : Nat) :
    decimalPadded (width + 1) n = decimalPadded width (n / 10) ++ [UInt8.ofNat (0x30 + n % 10)] := by
  rw [decimalPadded, decimalPadded]
  by_cases large : 10 ≤ n
  · rw [decimal_last large, List.length_append, List.length_singleton, Nat.add_sub_add_right, List.append_assoc]
  · have zero : n / 10 = 0 := by omega
    have same : n % 10 = n := by omega
    obtain ⟨k, rfl⟩ := Nat.exists_eq_add_one.mpr some
    rw [zero, same, decimal_digit (by omega : n < 10), decimal_digit (by decide : 0 < 10)]
    change List.replicate (k + 1) 0x30 ++ _ = List.replicate k 0x30 ++ [0x30] ++ _
    rw [List.replicate_succ']

theorem decimalPadded_one {n : Nat} (small : n < 10) : decimalPadded 1 n = [UInt8.ofNat (0x30 + n)] := by
  rw [decimalPadded, decimal_digit small]
  rfl

theorem decimalPadded_of_large {width n : Nat} (some : 0 < width) (large : 10 ^ width ≤ n) :
    decimalPadded (width + 1) n = decimal n := by
  have long : width < (decimal n).length := by
    rw [decimal_eq, List.length_map]
    by_contra short
    have bounded := (Nat.length_toDigits_le_iff (by decide) some).mp (Nat.not_lt.mp short)
    omega
  rw [decimalPadded, Nat.sub_eq_zero_of_le long]
  rfl

end Bytes
