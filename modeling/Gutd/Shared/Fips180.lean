import Gutd.Shared.Words
import Mathlib.Data.Nat.NthRoot.Defs

set_option autoImplicit false

-- SHA-256 as FIPS 180-4 defines it. The constants are the leading bits of the fractional parts of roots of primes.

namespace Fips180

open Bytes

def rotr (n : UInt32) (x : UInt32) : UInt32 := (x >>> n) ||| (x <<< (32 - n))

def ch (x y z : UInt32) : UInt32 := (x &&& y) ^^^ (~~~x &&& z)

def maj (x y z : UInt32) : UInt32 := (x &&& y) ^^^ (x &&& z) ^^^ (y &&& z)

def bigSigma0 (x : UInt32) : UInt32 := rotr 2 x ^^^ rotr 13 x ^^^ rotr 22 x

def bigSigma1 (x : UInt32) : UInt32 := rotr 6 x ^^^ rotr 11 x ^^^ rotr 25 x

def smallSigma0 (x : UInt32) : UInt32 := rotr 7 x ^^^ rotr 18 x ^^^ (x >>> 3)

def smallSigma1 (x : UInt32) : UInt32 := rotr 17 x ^^^ rotr 19 x ^^^ (x >>> 10)

def primes : List Nat :=
  [2, 3, 5, 7, 11, 13, 17, 19, 23, 29, 31, 37, 41, 43, 47, 53, 59, 61, 67, 71, 73, 79, 83, 89, 97, 101, 103, 107, 109, 113,
   127, 131, 137, 139, 149, 151, 157, 163, 167, 173, 179, 181, 191, 193, 197, 199, 211, 223, 227, 229, 233, 239, 241, 251,
   257, 263, 269, 271, 277, 281, 283, 293, 307, 311]

def rootBits (n p : Nat) : UInt32 := UInt32.ofNat (Nat.nthRoot n (p * 2 ^ (32 * n)))

def roundConstant (t : Nat) : UInt32 := (primes.map (rootBits 3)).getD t 0

def initialHash : Vector UInt32 8 := Vector.ofFn fun i => (primes.map (rootBits 2)).getD i.val 0

def schedule (block : Nat → UInt32) (t : Nat) : UInt32 :=
  if t < 16 then block t
  else smallSigma1 (schedule block (t - 2)) + schedule block (t - 7) + smallSigma0 (schedule block (t - 15)) +
    schedule block (t - 16)

def roundWith (k w : UInt32) (v : Vector UInt32 8) : Vector UInt32 8 :=
  let t1 := v.get 7 + bigSigma1 (v.get 4) + ch (v.get 4) (v.get 5) (v.get 6) + k + w
  let t2 := bigSigma0 (v.get 0) + maj (v.get 0) (v.get 1) (v.get 2)
  #v[t1 + t2, v.get 0, v.get 1, v.get 2, v.get 3 + t1, v.get 4, v.get 5, v.get 6]

def round (w : Nat → UInt32) (v : Vector UInt32 8) (t : Nat) : Vector UInt32 8 := roundWith (roundConstant t) (w t) v

def compression (hash : Vector UInt32 8) (block : Nat → UInt32) : Vector UInt32 8 :=
  Vector.zipWith (· + ·) hash ((List.range 64).foldl (round (schedule block)) hash)

def wordsAt (data : Buf) (off : Nat) (t : Nat) : UInt32 := be32At data (off + 4 * t)

def absorb (hash : Vector UInt32 8) (data : Buf) : Nat → Vector UInt32 8
  | 0 => hash
  | n + 1 => compression (absorb hash data n) (wordsAt data (64 * n))

def padding (length : Nat) : Buf := [0x80] ++ List.replicate ((119 - length % 64) % 64) 0 ++ toBeBytes64 (UInt64.ofNat (8 * length))

def padded (message : Buf) : Buf := message ++ padding message.length

def digest (message : Buf) : Buf :=
  (absorb initialHash (padded message) ((padded message).length / 64)).toList.flatMap toBeBytes

@[simp] theorem length_padding (n : Nat) : (padding n).length = (119 - n % 64) % 64 + 9 := by
  simp [padding, toBeBytes64]

theorem blocks_padded (message : Buf) :
    (padded message).length = 64 * (message.length / 64 + if message.length % 64 < 56 then 1 else 2) := by
  rw [padded, List.length_append, length_padding]
  split_ifs <;> omega

theorem padding_open {n : Nat} (room : n % 64 < 56) :
    padding n = [0x80] ++ List.replicate (55 - n % 64) 0 ++ toBeBytes64 (UInt64.ofNat (8 * n)) := by
  rw [padding, show (119 - n % 64) % 64 = 55 - n % 64 by omega]

theorem padding_full {n : Nat} (full : 56 ≤ n % 64) :
    padding n = [0x80] ++ List.replicate (63 - n % 64) 0 ++ (List.replicate 56 0 ++ toBeBytes64 (UInt64.ofNat (8 * n))) := by
  rw [padding, show (119 - n % 64) % 64 = 63 - n % 64 + 56 by omega, ← List.replicate_append_replicate]
  simp only [List.append_assoc]

theorem schedule_early {block : Nat → UInt32} {t : Nat} (early : t < 16) : schedule block t = block t := by
  rw [schedule, if_pos early]

theorem schedule_late {block : Nat → UInt32} {t : Nat} (late : 16 ≤ t) :
    schedule block t = smallSigma1 (schedule block (t - 2)) + schedule block (t - 7) + smallSigma0 (schedule block (t - 15)) +
      schedule block (t - 16) := by
  rw [schedule, if_neg (Nat.not_lt.mpr late)]

theorem compression_congr {hash : Vector UInt32 8} {b c : Nat → UInt32} (same : ∀ t, t < 16 → b t = c t) :
    compression hash b = compression hash c := by
  have schedules (t : Nat) : schedule b t = schedule c t := by
    induction t using Nat.strongRecOn with
    | ind t ih =>
        by_cases early : t < 16
        · rw [schedule_early early, schedule_early early, same t early]
        · rw [schedule_late (Nat.not_lt.mp early), schedule_late (Nat.not_lt.mp early), ih (t - 2) (by omega),
            ih (t - 7) (by omega), ih (t - 15) (by omega), ih (t - 16) (by omega)]
  rw [compression, compression, funext schedules]

theorem wordsAt_congr {a b : Buf} {i j : Nat} (bytes : ∀ k, k < 64 → byteAt a (i + k) = byteAt b (j + k)) (t : Nat)
    (inside : t < 16) : wordsAt a i t = wordsAt b j t := by
  have h0 := bytes (4 * t) (by omega)
  have h1 := bytes (4 * t + 1) (by omega)
  have h2 := bytes (4 * t + 2) (by omega)
  have h3 := bytes (4 * t + 3) (by omega)
  simp only [wordsAt, be32At, Nat.add_assoc, h0, h1, h2, h3]

theorem absorb_congr {hash : Vector UInt32 8} {a b : Buf} (n : Nat) (same : ∀ k, k < 64 * n → byteAt a k = byteAt b k) :
    absorb hash a n = absorb hash b n := by
  induction n with
  | zero => rfl
  | succ n ih =>
      rw [absorb, absorb, ih fun k bounded => same k (by omega)]
      apply compression_congr
      apply wordsAt_congr
      intro k bounded
      exact same _ (by omega)

theorem absorb_add (hash : Vector UInt32 8) (data : Buf) (m n : Nat) :
    absorb hash data (m + n) = absorb (absorb hash data m) (data.drop (64 * m)) n := by
  induction n with
  | zero => rfl
  | succ n ih =>
      rw [← Nat.add_assoc, absorb, ih, absorb]
      apply compression_congr
      apply wordsAt_congr
      intro k bounded
      rw [byteAt_drop]
      congr 1
      omega

end Fips180
