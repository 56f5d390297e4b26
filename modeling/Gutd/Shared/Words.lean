import Gutd.Shared.Bytes

set_option autoImplicit false

namespace Bytes

inductive ByteOrder where
  | little
  | big
  deriving DecidableEq, Repr

def le32 (b0 b1 b2 b3 : UInt8) : UInt32 :=
  UInt32.ofNat (b0.toNat + 2 ^ 8 * b1.toNat + 2 ^ 16 * b2.toNat + 2 ^ 24 * b3.toNat)

def toLeBytes (x : UInt32) : Buf :=
  [UInt8.ofNat x.toNat, UInt8.ofNat (x.toNat / 2 ^ 8), UInt8.ofNat (x.toNat / 2 ^ 16),
    UInt8.ofNat (x.toNat / 2 ^ 24)]

def toBeBytes (x : UInt32) : Buf := (toLeBytes x).reverse

def toNeBytes : ByteOrder → UInt32 → Buf
  | .little => toLeBytes
  | .big => toBeBytes

def be16 (b0 b1 : UInt8) : UInt16 := UInt16.ofNat (2 ^ 8 * b0.toNat + b1.toNat)

def toBeBytes16 (x : UInt16) : Buf := [UInt8.ofNat (x.toNat / 2 ^ 8), UInt8.ofNat x.toNat]

def toBeBytes64 (x : UInt64) : Buf :=
  toBeBytes (UInt32.ofNat (x.toNat / 2 ^ 32)) ++ toBeBytes (UInt32.ofNat x.toNat)

def le32At (buf : Buf) (off : Nat) : UInt32 :=
  le32 (byteAt buf off) (byteAt buf (off + 1)) (byteAt buf (off + 2)) (byteAt buf (off + 3))

def be32At (buf : Buf) (off : Nat) : UInt32 :=
  le32 (byteAt buf (off + 3)) (byteAt buf (off + 2)) (byteAt buf (off + 1)) (byteAt buf off)

def be16At (buf : Buf) (off : Nat) : UInt16 := be16 (byteAt buf off) (byteAt buf (off + 1))

@[simp] theorem length_toLeBytes (x : UInt32) : (toLeBytes x).length = 4 := by
  simp [toLeBytes]

@[simp] theorem length_toBeBytes (x : UInt32) : (toBeBytes x).length = 4 := by
  simp [toBeBytes]

@[simp] theorem length_toNeBytes (order : ByteOrder) (x : UInt32) : (toNeBytes order x).length = 4 := by
  cases order <;> simp [toNeBytes]

@[simp] theorem length_toBeBytes16 (x : UInt16) : (toBeBytes16 x).length = 2 := by
  simp [toBeBytes16]

theorem le32_toLeBytes (x : UInt32) :
    le32 (UInt8.ofNat x.toNat) (UInt8.ofNat (x.toNat / 2 ^ 8)) (UInt8.ofNat (x.toNat / 2 ^ 16))
      (UInt8.ofNat (x.toNat / 2 ^ 24)) = x := by
  have bound := x.toNat_lt
  apply UInt32.toNat_inj.mp
  simp only [le32, UInt8.toNat_ofNat', UInt32.toNat_ofNat']
  omega

theorem be16_toBeBytes16 (x : UInt16) :
    be16 (UInt8.ofNat (x.toNat / 2 ^ 8)) (UInt8.ofNat x.toNat) = x := by
  have bound := x.toNat_lt
  apply UInt16.toNat_inj.mp
  simp only [be16, UInt8.toNat_ofNat', UInt16.toNat_ofNat']
  omega

theorem xor_and_distrib (a b c : UInt8) : (a ^^^ b) &&& c = (a &&& c) ^^^ (b &&& c) := by
  apply UInt8.toBitVec_inj.mp
  ext i
  simp only [UInt8.toBitVec_and, UInt8.toBitVec_xor, BitVec.getElem_and, BitVec.getElem_xor]
  exact Bool.and_xor_distrib_right _ _ _

theorem le32At_congr {a b : Buf} {i j : Nat}
    (bytes : ∀ k, k < 4 → byteAt a (i + k) = byteAt b (j + k)) : le32At a i = le32At b j := by
  have h0 := bytes 0 (by omega)
  have h1 := bytes 1 (by omega)
  have h2 := bytes 2 (by omega)
  have h3 := bytes 3 (by omega)
  simp only [Nat.add_zero] at h0
  simp only [le32At, h0, h1, h2, h3]

theorem toNat_be16At (buf : Buf) (off : Nat) :
    (be16At buf off).toNat = 2 ^ 8 * (byteAt buf off).toNat + (byteAt buf (off + 1)).toNat := by
  have high := (byteAt buf off).toNat_lt
  have low := (byteAt buf (off + 1)).toNat_lt
  rw [be16At, be16, UInt16.toNat_ofNat']
  omega

theorem be16At_congr {a b : Buf} {i j : Nat}
    (bytes : ∀ k, k < 2 → byteAt a (i + k) = byteAt b (j + k)) : be16At a i = be16At b j := by
  have h0 := bytes 0 (by omega)
  have h1 := bytes 1 (by omega)
  simp only [Nat.add_zero] at h0
  simp only [be16At, h0, h1]

theorem le32At_append_left (a b : Buf) (off : Nat) (inside : off + 4 ≤ a.length) :
    le32At (a ++ b) off = le32At a off := by
  apply le32At_congr
  intro k bounded
  exact byteAt_append_left a b (off + k) (by omega)

theorem be16At_append_left (a b : Buf) (i : Nat) (inside : i + 2 ≤ a.length) : be16At (a ++ b) i = be16At a i := by
  apply be16At_congr
  intro k bounded
  exact byteAt_append_left a b (i + k) (by omega)

theorem byteAt_overwrite_other (buf : Buf) (off : Nat) (new : Buf) (i : Nat)
    (disjoint : i < off ∨ off + new.length ≤ i) : byteAt (overwrite buf off new) i = byteAt buf i := by
  rw [byteAt_overwrite, if_neg (by omega)]

theorem be16At_overwrite_other (buf : Buf) (off : Nat) (new : Buf) (i : Nat)
    (disjoint : i + 2 ≤ off ∨ off + new.length ≤ i) : be16At (overwrite buf off new) i = be16At buf i := by
  apply be16At_congr
  intro k bounded
  exact byteAt_overwrite_other buf off new (i + k) (by omega)

theorem be16At_overwrite_same (buf : Buf) (off : Nat) (x : UInt16) (fits : off + 2 ≤ buf.length) :
    be16At (overwrite buf off (toBeBytes16 x)) off = x := by
  have h0 : off < buf.length := by omega
  have h1 : off + 1 < buf.length := by omega
  simp only [be16At, byteAt_overwrite, length_toBeBytes16, h0, h1]
  simpa [toBeBytes16, byteAt] using be16_toBeBytes16 x

theorem le32At_drop (buf : Buf) (n off : Nat) : le32At (buf.drop n) off = le32At buf (n + off) := by
  apply le32At_congr
  intro k bounded
  rw [byteAt_drop, Nat.add_assoc]

-- the two halves of a byte, so that no recursion over them goes deep
theorem forall_byte {P : UInt8 → Prop} (all : ∀ high low : Fin 16, P (UInt8.ofNat (16 * high.val + low.val))) (b : UInt8) :
    P b := by
  have small := b.toNat_lt
  have here := all ⟨b.toNat / 16, by omega⟩ ⟨b.toNat % 16, by omega⟩
  rwa [show 16 * (b.toNat / 16) + b.toNat % 16 = b.toNat by omega, UInt8.ofNat_toNat] at here

end Bytes
