import Gutd.Proto.MaskBalanced
import Gutd.Shared.Checked

set_option autoImplicit false

-- `crypto.rs`. Byte arrays of a fixed size are buffers with a length lemma.

namespace Gutd

open Bytes Checked

def rotateRight (x : UInt32) (n : UInt32) : UInt32 := (x >>> n) ||| (x <<< (32 - n))

def sha256K : List UInt32 :=
  [0x428a2f98, 0x71374491, 0xb5c0fbcf, 0xe9b5dba5, 0x3956c25b, 0x59f111f1, 0x923f82a4, 0xab1c5ed5,
   0xd807aa98, 0x12835b01, 0x243185be, 0x550c7dc3, 0x72be5d74, 0x80deb1fe, 0x9bdc06a7, 0xc19bf174,
   0xe49b69c1, 0xefbe4786, 0x0fc19dc6, 0x240ca1cc, 0x2de92c6f, 0x4a7484aa, 0x5cb0a9dc, 0x76f988da,
   0x983e5152, 0xa831c66d, 0xb00327c8, 0xbf597fc7, 0xc6e00bf3, 0xd5a79147, 0x06ca6351, 0x14292967,
   0x27b70a85, 0x2e1b2138, 0x4d2c6dfc, 0x53380d13, 0x650a7354, 0x766a0abb, 0x81c2c92e, 0x92722c85,
   0xa2bfe8a1, 0xa81a664b, 0xc24b8b70, 0xc76c51a3, 0xd192e819, 0xd6990624, 0xf40e3585, 0x106aa070,
   0x19a4c116, 0x1e376c08, 0x2748774c, 0x34b0bcb5, 0x391c0cb3, 0x4ed8aa4a, 0x5b9cca4f, 0x682e6ff3,
   0x748f82ee, 0x78a5636f, 0x84c87814, 0x8cc70208, 0x90befffa, 0xa4506ceb, 0xbef9a3f7, 0xc67178f2]

def sha256H0 : Vector UInt32 8 :=
  #v[0x6a09e667, 0xbb67ae85, 0x3c6ef372, 0xa54ff53a, 0x510e527f, 0x9b05688c, 0x1f83d9ab, 0x5be0cd19]

def messageSchedule (block : Buf) : List UInt32 :=
  let words := (List.range 16).map fun i => be32At block (i * 4)
  (List.range' 16 48).foldl (fun w i =>
    let w15 := w.getD (i - 15) 0
    let w2 := w.getD (i - 2) 0
    let s0 := rotateRight w15 7 ^^^ rotateRight w15 18 ^^^ (w15 >>> 3)
    let s1 := rotateRight w2 17 ^^^ rotateRight w2 19 ^^^ (w2 >>> 10)
    w ++ [w.getD (i - 16) 0 + s0 + w.getD (i - 7) 0 + s1]) words

def compressRound (w : List UInt32) (r : Vector UInt32 8) (i : Nat) : Vector UInt32 8 :=
  let (a, b, c, d) := (r.get 0, r.get 1, r.get 2, r.get 3)
  let (e, f, g, hh) := (r.get 4, r.get 5, r.get 6, r.get 7)
  let s1 := rotateRight e 6 ^^^ rotateRight e 11 ^^^ rotateRight e 25
  let ch := (e &&& f) ^^^ (~~~e &&& g)
  let temp1 := hh + s1 + ch + sha256K.getD i 0 + w.getD i 0
  let s0 := rotateRight a 2 ^^^ rotateRight a 13 ^^^ rotateRight a 22
  let maj := (a &&& b) ^^^ (a &&& c) ^^^ (b &&& c)
  let temp2 := s0 + maj
  #v[temp1 + temp2, a, b, c, d + temp1, e, f, g]

def compress (h : Vector UInt32 8) (block : Buf) : Vector UInt32 8 :=
  Vector.zipWith (· + ·) h ((List.range 64).foldl (compressRound (messageSchedule block)) h)

structure Sha256 where
  h : Vector UInt32 8
  buf : Buf
  bufLen : Nat
  totalLen : UInt64
  buf_length : buf.length = 64
  bufLen_lt : bufLen < 64

namespace Sha256

def new : Sha256 where
  h := sha256H0
  buf := List.replicate 64 0
  bufLen := 0
  totalLen := 0
  buf_length := by simp
  bufLen_lt := by omega

def compressBlocks (h : Vector UInt32 8) (data : Buf) : Nat → Vector UInt32 8
  | 0 => h
  | n + 1 => compressBlocks (compress h (data.take 64)) (data.drop 64) n

def update (s : Sha256) (data : Buf) : Sha256 :=
  let take := if s.bufLen > 0 then min data.length (64 - s.bufLen) else 0
  let buf := overwrite s.buf s.bufLen (data.take take)
  let filled := s.bufLen + take
  let h := if filled = 64 then compress s.h buf else s.h
  let rest := data.drop take
  let tail := rest.drop (64 * (rest.length / 64))
  { h := compressBlocks h rest (rest.length / 64)
    buf := overwrite buf 0 tail
    -- a partial block that is still open has used up the data
    bufLen := if 0 < tail.length then tail.length else if filled = 64 then 0 else filled
    totalLen := s.totalLen + UInt64.ofNat data.length
    buf_length := by simp [buf, s.buf_length]
    bufLen_lt := by
      have := s.bufLen_lt
      have : filled ≤ 64 := by simp only [filled, take]; split <;> omega
      have : tail.length < 64 := by simp only [tail, List.length_drop]; omega
      split_ifs <;> omega }

def finalize (s : Sha256) : Buf :=
  let bitLen := toBeBytes64 (s.totalLen * 8)
  let buf := overwrite s.buf s.bufLen [0x80]
  let bufLen := s.bufLen + 1
  let (h, bufLen) :=
    if bufLen > 56 then (compress s.h (overwrite buf bufLen (List.replicate (64 - bufLen) 0)), 0)
    else (s.h, bufLen)
  let buf := overwrite buf bufLen (List.replicate (56 - bufLen) 0)
  let h := compress h (overwrite buf 56 bitLen)
  h.toList.flatMap toBeBytes

@[simp] theorem length_finalize (s : Sha256) : (finalize s).length = 32 := by
  simp [finalize, List.length_flatMap, List.map_const']

end Sha256

def sha256 (data : Buf) : Buf := (Sha256.new.update data).finalize

def hmacSha256 (key message : Buf) : Buf :=
  let zero := List.replicate 64 (0 : UInt8)
  let k := if key.length > 64 then overwrite zero 0 (sha256 key) else overwrite zero 0 key
  let ipad := xorAt (List.replicate 64 0x36) 0 k
  let opad := xorAt (List.replicate 64 0x5c) 0 k
  let innerHash := ((Sha256.new.update ipad).update message).finalize
  ((Sha256.new.update opad).update innerHash).finalize

@[simp] theorem length_hmacSha256 (key message : Buf) : (hmacSha256 key message).length = 32 := by
  simp [hmacSha256]

def hkdfExtract (salt ikm : Buf) : Buf := hmacSha256 salt ikm

def hkdfExpandRound (prk info : Buf) (okmLen : Nat) (state : Buf × Buf) (i : Nat) : Result (Buf × Buf) :=
  let (t, okm) := state
  if 256 < t.length + info.length + 1 then throw .assertFailed
  else
    let t := hmacSha256 prk (t ++ info ++ [UInt8.ofNat i])
    pure (t, okm ++ t.take (min (okmLen - okm.length) 32))

def hkdfExpand (prk info : Buf) (okmLen : Nat) : Result Buf := do
  let (_, okm) ← (List.range' 1 ((okmLen + 31) / 32)).foldlM (hkdfExpandRound prk info okmLen) ([], [])
  pure okm

def hkdfExpandLabel (secret label context : Buf) (okmLen : Nat) : Result Buf :=
  let tls13 : Buf := [0x74, 0x6c, 0x73, 0x31, 0x33, 0x20]
  let info := toBeBytes16 (UInt16.ofNat okmLen) ++ [UInt8.ofNat (6 + label.length)] ++ tls13 ++ label ++
    [UInt8.ofNat context.length] ++ context
  -- the label is assembled in an array of 256 bytes
  if 256 < info.length then throw .outOfBounds else hkdfExpand secret info okmLen

theorem hkdfExpandRound_ok (prk info : Buf) (okmLen : Nat) (t okm : Buf) (i : Nat)
    (short : t.length ≤ 32) (fits : info.length ≤ 223) :
    hkdfExpandRound prk info okmLen (t, okm) i =
      .ok (hmacSha256 prk (t ++ info ++ [UInt8.ofNat i]),
        okm ++ (hmacSha256 prk (t ++ info ++ [UInt8.ofNat i])).take (min (okmLen - okm.length) 32)) := by
  have small : ¬ 256 < t.length + info.length + 1 := by omega
  simp only [hkdfExpandRound, if_neg small, pure_eq_ok]

theorem hkdfExpandRounds_length (prk info : Buf) (okmLen : Nat) (fits : info.length ≤ 223)
    (rounds : List Nat) (t okm : Buf) (short : t.length ≤ 32) :
    ∃ t' okm', rounds.foldlM (hkdfExpandRound prk info okmLen) (t, okm) = .ok (t', okm') ∧
      okm'.length = okm.length + min (okmLen - okm.length) (32 * rounds.length) := by
  induction rounds generalizing t okm with
  | nil => exact ⟨t, okm, rfl, by simp⟩
  | cons i rounds ih =>
      simp only [List.foldlM_cons, hkdfExpandRound_ok prk info okmLen t okm i short fits, bind_ok]
      obtain ⟨t', okm', done, length⟩ :=
        ih (hmacSha256 prk (t ++ info ++ [UInt8.ofNat i])) _ (by simp)
      refine ⟨t', okm', done, ?_⟩
      rw [length]
      simp only [List.length_append, List.length_take, length_hmacSha256, List.length_cons]
      omega

theorem hkdfExpand_length (prk info : Buf) (okmLen : Nat) (fits : info.length ≤ 223) :
    ∃ okm, hkdfExpand prk info okmLen = .ok okm ∧ okm.length = okmLen := by
  obtain ⟨t, okm, done, length⟩ :=
    hkdfExpandRounds_length prk info okmLen fits (List.range' 1 ((okmLen + 31) / 32)) [] [] (by simp)
  refine ⟨okm, by simp only [hkdfExpand, done, bind_ok, pure_eq_ok], ?_⟩
  simp only [List.length_nil, List.length_range'] at length
  omega

theorem hkdfExpandLabel_length (secret label context : Buf) (okmLen : Nat)
    (fits : label.length + context.length ≤ 213) :
    ∃ okm, hkdfExpandLabel secret label context okmLen = .ok okm ∧ okm.length = okmLen := by
  simp only [hkdfExpandLabel, List.length_append, length_toBeBytes16, List.length_cons, List.length_nil]
  rw [if_neg (by omega)]
  apply hkdfExpand_length
  simp only [List.length_append, length_toBeBytes16, List.length_cons, List.length_nil]
  omega

def aesSbox : List UInt8 :=
  [0x63, 0x7c, 0x77, 0x7b, 0xf2, 0x6b, 0x6f, 0xc5, 0x30, 0x01, 0x67, 0x2b, 0xfe, 0xd7, 0xab, 0x76,
   0xca, 0x82, 0xc9, 0x7d, 0xfa, 0x59, 0x47, 0xf0, 0xad, 0xd4, 0xa2, 0xaf, 0x9c, 0xa4, 0x72, 0xc0,
   0xb7, 0xfd, 0x93, 0x26, 0x36, 0x3f, 0xf7, 0xcc, 0x34, 0xa5, 0xe5, 0xf1, 0x71, 0xd8, 0x31, 0x15,
   0x04, 0xc7, 0x23, 0xc3, 0x18, 0x96, 0x05, 0x9a, 0x07, 0x12, 0x80, 0xe2, 0xeb, 0x27, 0xb2, 0x75,
   0x09, 0x83, 0x2c, 0x1a, 0x1b, 0x6e, 0x5a, 0xa0, 0x52, 0x3b, 0xd6, 0xb3, 0x29, 0xe3, 0x2f, 0x84,
   0x53, 0xd1, 0x00, 0xed, 0x20, 0xfc, 0xb1, 0x5b, 0x6a, 0xcb, 0xbe, 0x39, 0x4a, 0x4c, 0x58, 0xcf,
   0xd0, 0xef, 0xaa, 0xfb, 0x43, 0x4d, 0x33, 0x85, 0x45, 0xf9, 0x02, 0x7f, 0x50, 0x3c, 0x9f, 0xa8,
   0x51, 0xa3, 0x40, 0x8f, 0x92, 0x9d, 0x38, 0xf5, 0xbc, 0xb6, 0xda, 0x21, 0x10, 0xff, 0xf3, 0xd2,
   0xcd, 0x0c, 0x13, 0xec, 0x5f, 0x97, 0x44, 0x17, 0xc4, 0xa7, 0x7e, 0x3d, 0x64, 0x5d, 0x19, 0x73,
   0x60, 0x81, 0x4f, 0xdc, 0x22, 0x2a, 0x90, 0x88, 0x46, 0xee, 0xb8, 0x14, 0xde, 0x5e, 0x0b, 0xdb,
   0xe0, 0x32, 0x3a, 0x0a, 0x49, 0x06, 0x24, 0x5c, 0xc2, 0xd3, 0xac, 0x62, 0x91, 0x95, 0xe4, 0x79,
   0xe7, 0xc8, 0x37, 0x6d, 0x8d, 0xd5, 0x4e, 0xa9, 0x6c, 0x56, 0xf4, 0xea, 0x65, 0x7a, 0xae, 0x08,
   0xba, 0x78, 0x25, 0x2e, 0x1c, 0xa6, 0xb4, 0xc6, 0xe8, 0xdd, 0x74, 0x1f, 0x4b, 0xbd, 0x8b, 0x8a,
   0x70, 0x3e, 0xb5, 0x66, 0x48, 0x03, 0xf6, 0x0e, 0x61, 0x35, 0x57, 0xb9, 0x86, 0xc1, 0x1d, 0x9e,
   0xe1, 0xf8, 0x98, 0x11, 0x69, 0xd9, 0x8e, 0x94, 0x9b, 0x1e, 0x87, 0xe9, 0xce, 0x55, 0x28, 0xdf,
   0x8c, 0xa1, 0x89, 0x0d, 0xbf, 0xe6, 0x42, 0x68, 0x41, 0x99, 0x2d, 0x0f, 0xb0, 0x54, 0xbb, 0x16]

def subByte (b : UInt8) : UInt8 := aesSbox.getD b.toNat 0

def be32 (b0 b1 b2 b3 : UInt8) : UInt32 := le32 b3 b2 b1 b0

def subWord (w : UInt32) : UInt32 :=
  let b := toBeBytes w
  be32 (subByte (byteAt b 0)) (subByte (byteAt b 1)) (subByte (byteAt b 2)) (subByte (byteAt b 3))

def rotWord (w : UInt32) : UInt32 := rotateLeft w 8

def aesRcon : List UInt32 :=
  [0x01000000, 0x02000000, 0x04000000, 0x08000000, 0x10000000, 0x20000000, 0x40000000, 0x80000000,
   0x1b000000, 0x36000000]

def aes128ExpandKey (key : Buf) : List UInt32 :=
  let words := (List.range 4).map fun i => be32At key (4 * i)
  (List.range' 4 40).foldl (fun w i =>
    let temp := w.getD (i - 1) 0
    let temp := if i % 4 = 0 then subWord (rotWord temp) ^^^ aesRcon.getD (i / 4 - 1) 0 else temp
    w ++ [w.getD (i - 4) 0 ^^^ temp]) words

def xtime (x : UInt8) : UInt8 := if x &&& 0x80 ≠ 0 then (x <<< 1) ^^^ 0x1b else x <<< 1

def mixColumn (col : UInt32) : UInt32 :=
  let bytes := toBeBytes col
  let (a, b, c, d) := (byteAt bytes 0, byteAt bytes 1, byteAt bytes 2, byteAt bytes 3)
  be32 (xtime a ^^^ (xtime b ^^^ b) ^^^ c ^^^ d) (a ^^^ xtime b ^^^ (xtime c ^^^ c) ^^^ d)
    (a ^^^ b ^^^ xtime c ^^^ (xtime d ^^^ d)) ((xtime a ^^^ a) ^^^ b ^^^ c ^^^ xtime d)

def subShift (s : Vector UInt32 4) : Vector UInt32 4 :=
  let bytes := s.toList.flatMap toBeBytes
  let sb := fun i => subByte (byteAt bytes i)
  #v[be32 (sb 0) (sb 5) (sb 10) (sb 15), be32 (sb 4) (sb 9) (sb 14) (sb 3),
    be32 (sb 8) (sb 13) (sb 2) (sb 7), be32 (sb 12) (sb 1) (sb 6) (sb 11)]

def addRoundKey (roundKeys : List UInt32) (r : Nat) (s : Vector UInt32 4) : Vector UInt32 4 :=
  Vector.ofFn fun i => s[i] ^^^ roundKeys.getD (r * 4 + i.val) 0

def aes128EncryptBlock (roundKeys : List UInt32) (block : Buf) : Buf :=
  let s := addRoundKey roundKeys 0 (Vector.ofFn fun i : Fin 4 => be32At block (4 * i.val))
  let s := (List.range' 1 9).foldl (fun s r => addRoundKey roundKeys r ((subShift s).map mixColumn)) s
  (addRoundKey roundKeys 10 (subShift s)).toList.flatMap toBeBytes

@[simp] theorem length_aes128EncryptBlock (roundKeys : List UInt32) (block : Buf) :
    (aes128EncryptBlock roundKeys block).length = 16 := by
  simp [aes128EncryptBlock, List.length_flatMap, List.map_const']

def shiftRightBlock (v : Buf) : Buf :=
  v.mapIdx fun j (b : UInt8) => if j = 0 then b >>> 1 else (b >>> 1) ||| (byteAt v (j - 1) <<< 7)

def gf128MulStep (x : Buf) (zv : Buf × Buf) (i : Nat) : Buf × Buf :=
  let (z, v) := zv
  let z := if (byteAt x (i / 8) >>> (UInt8.ofNat (7 - i % 8))) &&& 1 = 1 then xorAt z 0 v else z
  let carry := byteAt v 15 &&& 1
  let v := shiftRightBlock v
  (z, if carry = 1 then xorAt v 0 [0xE1] else v)

def gf128Mul (x y : Buf) : Buf :=
  ((List.range 128).foldl (gf128MulStep x) (List.replicate 16 0, y)).1

def ghashBlocks (h data x : Buf) : Buf :=
  (List.range ((data.length + 15) / 16)).foldl
    (fun x i => gf128Mul (xorAt x 0 (slice data (i * 16) (i * 16 + 16))) h) x

def ghash (h aad ct : Buf) : Buf :=
  let x := ghashBlocks h aad (List.replicate 16 0)
  let x := ghashBlocks h ct x
  let lenBlock := toBeBytes64 (UInt64.ofNat aad.length * 8) ++ toBeBytes64 (UInt64.ofNat ct.length * 8)
  gf128Mul (xorAt x 0 lenBlock) h

def aes128GcmEncrypt (rk : List UInt32) (nonce aad plaintext : Buf) : Buf × Buf :=
  let h := aes128EncryptBlock rk (List.replicate 16 0)
  let j0 := nonce ++ [0, 0, 0, 1]
  let keystream := (List.range ((plaintext.length + 15) / 16)).flatMap fun i =>
    aes128EncryptBlock rk (nonce ++ toBeBytes (UInt32.ofNat i + 2))
  let ciphertext := xorAt plaintext 0 keystream
  (ciphertext, xorAt (aes128EncryptBlock rk j0) 0 (ghash h aad ciphertext))

@[simp] theorem length_ciphertext (rk : List UInt32) (nonce aad plaintext : Buf) :
    (aes128GcmEncrypt rk nonce aad plaintext).1.length = plaintext.length := by
  simp [aes128GcmEncrypt]

@[simp] theorem length_tag (rk : List UInt32) (nonce aad plaintext : Buf) :
    (aes128GcmEncrypt rk nonce aad plaintext).2.length = 16 := by
  simp [aes128GcmEncrypt]

end Gutd
