import Gutd.Shared.Words

set_option autoImplicit false

-- HMAC (RFC 2104), HKDF-Expand (RFC 5869) and HKDF-Expand-Label (RFC 8446) over an arbitrary hash.

namespace KeyedHash

open Bytes

section Hmac

variable (hash : Buf → Buf) (blockLen : Nat)

def blockKey (key : Buf) : Buf :=
  let short := if blockLen < key.length then hash key else key
  short ++ List.replicate (blockLen - short.length) 0

def hmac (key message : Buf) : Buf :=
  let k := blockKey hash blockLen key
  hash (k.map (· ^^^ 0x5c) ++ hash (k.map (· ^^^ 0x36) ++ message))

end Hmac

section Expand

variable (mac : Buf → Buf → Buf) (macLen : Nat)

def expandBlock (prk info : Buf) : Nat → Buf
  | 0 => []
  | i + 1 => mac prk (expandBlock prk info i ++ info ++ [UInt8.ofNat (i + 1)])

def expandBlocks (prk info : Buf) (n : Nat) : Buf := (List.range n).flatMap fun i => expandBlock mac prk info (i + 1)

def expand (prk info : Buf) (length : Nat) : Buf :=
  (expandBlocks mac prk info ((length + macLen - 1) / macLen)).take length

def hkdfLabel (label context : Buf) (length : Nat) : Buf :=
  let label := [0x74, 0x6c, 0x73, 0x31, 0x33, 0x20] ++ label
  toBeBytes16 (UInt16.ofNat length) ++ ([UInt8.ofNat label.length] ++ label) ++ ([UInt8.ofNat context.length] ++ context)

def expandLabel (secret label context : Buf) (length : Nat) : Buf :=
  expand mac macLen secret (hkdfLabel label context length) length

theorem expandBlocks_succ (prk info : Buf) (n : Nat) :
    expandBlocks mac prk info (n + 1) = expandBlocks mac prk info n ++ expandBlock mac prk info (n + 1) := by
  simp [expandBlocks, List.range_succ, List.flatMap_append]

end Expand

end KeyedHash
