import Gutd.Shared.BlockWords

set_option autoImplicit false

namespace Bytes

def bitAt (bytes : Buf) (i : Nat) : Bool := (byteAt bytes (i / 8)).toNat.testBit (7 - i % 8)

def SameBits (n : Nat) (a b : Buf) : Prop := ∀ i < n, bitAt a i = bitAt b i

instance (n : Nat) (a b : Buf) : Decidable (SameBits n a b) := inferInstanceAs (Decidable (∀ i < n, _))

def highBits (r : UInt8) : UInt8 := 0xFF <<< (8 - r)

theorem testBit_highBits {r : UInt8} (some : 0 < r) (inside : r ≤ 8) {k : Nat} (low : k < 8) :
    (highBits r).toNat.testBit k = decide (8 - r.toNat ≤ k) := by
  have all : ∀ r : UInt8, 0 < r → r ≤ 8 → ∀ k < 8, (highBits r).toNat.testBit k = decide (8 - r.toNat ≤ k) :=
    forall_byte (by decide)
  exact all r some inside k low

theorem and_highBits_eq {r : UInt8} (some : 0 < r) (inside : r ≤ 8) {x y : UInt8} :
    x &&& highBits r = y &&& highBits r ↔ ∀ j < r.toNat, x.toNat.testBit (7 - j) = y.toNat.testBit (7 - j) := by
  have width : r.toNat ≤ 8 := UInt8.le_iff_toNat_le.mp inside
  have masked (z : UInt8) {k : Nat} (low : k < 8) :
      (z &&& highBits r).toNat.testBit k = (z.toNat.testBit k && decide (8 - r.toNat ≤ k)) := by
    rw [UInt8.toNat_and, Nat.testBit_and, testBit_highBits some inside low]
  constructor
  · intro same j below
    have bit := congrArg (fun z : UInt8 => z.toNat.testBit (7 - j)) same
    simp only [masked _ (show 7 - j < 8 by omega)] at bit
    simpa [show 8 - r.toNat ≤ 7 - j by omega] using bit
  · intro bits
    refine byte_ext fun k low => ?_
    rw [masked x low, masked y low]
    by_cases high : 8 - r.toNat ≤ k
    · rw [show k = 7 - (7 - k) by omega, bits (7 - k) (by omega)]
    · simp [high]

theorem byte_eq_iff_bits {x y : UInt8} : x = y ↔ ∀ j < 8, x.toNat.testBit (7 - j) = y.toNat.testBit (7 - j) := by
  refine ⟨fun same j _ => by rw [same], fun bits => byte_ext fun k low => ?_⟩
  rw [show k = 7 - (7 - k) by omega]
  exact bits (7 - k) (by omega)

theorem take_eq_take_iff {a b : Buf} {n : Nat} (longA : n ≤ a.length) (longB : n ≤ b.length) :
    a.take n = b.take n ↔ ∀ i < n, byteAt a i = byteAt b i := by
  constructor
  · intro same i inside
    have entry := congrArg (byteAt · i) same
    simpa [byteAt, List.getD_eq_getElem?_getD, List.getElem?_take, inside] using entry
  · intro bytes
    refine ext_byteAt (by simp [longA, longB]) fun i inside => ?_
    have inside : i < n := by
      rw [List.length_take] at inside
      omega
    simpa [byteAt, List.getD_eq_getElem?_getD, List.getElem?_take, inside] using bytes i inside

theorem sameBits_iff {a b : Buf} {n : Nat} (longA : n ≤ 8 * a.length) (longB : n ≤ 8 * b.length) :
    SameBits n a b ↔ a.take (n / 8) = b.take (n / 8) ∧
      ∀ j < n % 8, (byteAt a (n / 8)).toNat.testBit (7 - j) = (byteAt b (n / 8)).toNat.testBit (7 - j) := by
  rw [take_eq_take_iff (by omega) (by omega)]
  simp only [byte_eq_iff_bits]
  constructor
  · intro same
    refine ⟨fun i inside j low => ?_, fun j low => ?_⟩
    · have bit := same (8 * i + j) (by omega)
      rwa [bitAt, bitAt, show (8 * i + j) / 8 = i by omega, show (8 * i + j) % 8 = j by omega] at bit
    · have bit := same (8 * (n / 8) + j) (by omega)
      rwa [bitAt, bitAt, show (8 * (n / 8) + j) / 8 = n / 8 by omega, show (8 * (n / 8) + j) % 8 = j by omega] at bit
  · rintro ⟨whole, part⟩ i inside
    rw [bitAt, bitAt]
    by_cases before : i / 8 < n / 8
    · exact whole (i / 8) before (i % 8) (Nat.mod_lt i (by decide))
    · rw [show i / 8 = n / 8 by omega]
      exact part (i % 8) (by omega)

end Bytes
