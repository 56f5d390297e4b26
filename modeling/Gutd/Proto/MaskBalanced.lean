import Gutd.Shared.Words

set_option autoImplicit false

-- The block function of `proto/mask_balanced.rs` and the token hash of `proto/feistel.rs`.

namespace Gutd

open Bytes

abbrev ChachaInit := Vector UInt32 12

abbrev Block := Vector UInt32 16

def rotateLeft (x : UInt32) (n : UInt32) : UInt32 := (x <<< n) ||| (x >>> (32 - n))

def qr (s : Block) (a b c d : Fin 16) : Block :=
  let s := s.set a (s[a] + s[b])
  let s := s.set d (rotateLeft (s[d] ^^^ s[a]) 16)
  let s := s.set c (s[c] + s[d])
  let s := s.set b (rotateLeft (s[b] ^^^ s[c]) 12)
  let s := s.set a (s[a] + s[b])
  let s := s.set d (rotateLeft (s[d] ^^^ s[a]) 8)
  let s := s.set c (s[c] + s[d])
  s.set b (rotateLeft (s[b] ^^^ s[c]) 7)

def doubleRound (s : Block) : Block :=
  let s := qr s 0 4 8 12
  let s := qr s 1 5 9 13
  let s := qr s 2 6 10 14
  let s := qr s 3 7 11 15
  let s := qr s 0 5 10 15
  let s := qr s 1 6 11 12
  let s := qr s 2 7 8 13
  qr s 3 4 9 14

def chachaBlockFast (init : ChachaInit) (counter nonce : UInt32) (rounds : UInt8) : Block :=
  let initial : Block := init ++ #v[counter, nonce, 0, 0]
  -- an odd or zero round count still runs one double round
  let dr := max (rounds.toNat / 2) 1
  Vector.zipWith (· + ·) (Nat.repeat doubleRound dr initial) initial

def chachaInit (key : Vector UInt8 32) : ChachaInit :=
  let sigma : Vector UInt32 4 := #v[0x61707865, 0x3320646e, 0x79622d32, 0x6b206574]
  sigma ++ Vector.ofFn fun i : Fin 8 => le32At key.toList (i.val * 4)

def blockBytes (order : ByteOrder) (block : Block) : Buf :=
  block.toList.flatMap (toNeBytes order)

@[simp] theorem length_blockBytes (order : ByteOrder) (block : Block) :
    (blockBytes order block).length = 64 := by
  simp [blockBytes, List.length_flatMap, List.map_const']

def sipHash32 (x : UInt32) (rk : Vector UInt32 4) : UInt32 :=
  let (k0, k1, k2, k3) := (rk.get 0, rk.get 1, rk.get 2, rk.get 3)
  let h := rotateLeft (x * 0xcc9e2d51 + k0) 15
  let h := rotateLeft (h * 0x1b873593 + k1) 13
  let h := rotateLeft (h * 0xe6546b64 + k2) 10
  let h := h * 0x85ebca6b + k3
  let h := (h ^^^ (h >>> 16)) * 0x85ebca6b
  let h := (h ^^^ (h >>> 13)) * 0xc2b2ae35
  h ^^^ (h >>> 16)

end Gutd
