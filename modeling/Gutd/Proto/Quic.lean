import Gutd.Crypto

set_option autoImplicit false

-- Key derivation of `proto/quic.rs`.

namespace Gutd

open Bytes Checked

def quicV1Salt : Buf :=
  [0x38, 0x76, 0x2c, 0xf7, 0xf5, 0x59, 0x34, 0xb3, 0x4d, 0x17, 0x9a, 0xe6, 0xa4, 0xc8, 0x0c, 0xad,
   0xcc, 0xbb, 0x7f, 0x0a]

def deriveQuicInitialSecret (dcid : Buf) : Buf := hkdfExtract quicV1Salt dcid

def labelClientIn : Buf := [0x63, 0x6c, 0x69, 0x65, 0x6e, 0x74, 0x20, 0x69, 0x6e]

def labelQuicKey : Buf := [0x71, 0x75, 0x69, 0x63, 0x20, 0x6b, 0x65, 0x79]

def labelQuicIv : Buf := [0x71, 0x75, 0x69, 0x63, 0x20, 0x69, 0x76]

def labelQuicHp : Buf := [0x71, 0x75, 0x69, 0x63, 0x20, 0x68, 0x70]

def deriveClientInitialSecret (initialSecret : Buf) : Result Buf :=
  hkdfExpandLabel initialSecret labelClientIn [] 32

structure QuicKeys where
  key : Buf
  iv : Buf
  hp : Buf

def deriveQuicKeys (secret : Buf) : Result QuicKeys := do
  let key ← hkdfExpandLabel secret labelQuicKey [] 16
  let iv ← hkdfExpandLabel secret labelQuicIv [] 12
  let hp ← hkdfExpandLabel secret labelQuicHp [] 16
  pure { key, iv, hp }

def deriveQuicClientKeys (dcid : Buf) : Result QuicKeys := do
  let clientSecret ← deriveClientInitialSecret (deriveQuicInitialSecret dcid)
  deriveQuicKeys clientSecret

theorem deriveQuicKeys_ok (secret : Buf) :
    ∃ keys, deriveQuicKeys secret = .ok keys ∧ keys.key.length = 16 ∧ keys.iv.length = 12 ∧ keys.hp.length = 16 := by
  obtain ⟨key, keyDone, keyLength⟩ := hkdfExpandLabel_length secret labelQuicKey [] 16 (by decide)
  obtain ⟨iv, ivDone, ivLength⟩ := hkdfExpandLabel_length secret labelQuicIv [] 12 (by decide)
  obtain ⟨hp, hpDone, hpLength⟩ := hkdfExpandLabel_length secret labelQuicHp [] 16 (by decide)
  exact ⟨{ key, iv, hp }, by simp [deriveQuicKeys, keyDone, ivDone, hpDone], keyLength, ivLength, hpLength⟩

theorem deriveQuicClientKeys_ok (dcid : Buf) :
    ∃ keys, deriveQuicClientKeys dcid = .ok keys ∧ keys.iv.length = 12 := by
  obtain ⟨secret, secretDone, -⟩ :=
    hkdfExpandLabel_length (deriveQuicInitialSecret dcid) labelClientIn [] 32 (by decide)
  obtain ⟨keys, keysDone, -, ivLength, -⟩ := deriveQuicKeys_ok secret
  exact ⟨keys, by simp [deriveQuicClientKeys, deriveClientInitialSecret, secretDone, keysDone], ivLength⟩

end Gutd
