import Gutd.Crypto.Digest

set_option autoImplicit false

namespace Gutd

open Bytes Checked

def hmacStandard : Buf → Buf → Buf := KeyedHash.hmac Fips180.digest 64

theorem hmacSha256_standard : hmacSha256 = hmacStandard := by
  funext key message
  exact hmacSha256_eq key message

theorem hkdfExpandRounds_eq (prk info : Buf) (okmLen : Nat) (fits : info.length ≤ 223) (rounds : Nat) :
    (List.range' 1 rounds).foldlM (hkdfExpandRound prk info okmLen) ([], []) =
      .ok (KeyedHash.expandBlock hmacStandard prk info rounds,
        (KeyedHash.expandBlocks hmacStandard prk info rounds).take okmLen) := by
  induction rounds with
  | zero => simp [KeyedHash.expandBlock, KeyedHash.expandBlocks]
  | succ n ih =>
      have width (key message : Buf) : (hmacStandard key message).length = 32 := by
        rw [← hmacSha256_standard, length_hmacSha256]
      have short : (KeyedHash.expandBlock hmacStandard prk info n).length ≤ 32 := by
        cases n with
        | zero => exact Nat.zero_le _
        | succ n => exact Nat.le_of_eq (width _ _)
      have next : hmacSha256 prk (KeyedHash.expandBlock hmacStandard prk info n ++ info ++ [UInt8.ofNat (1 + n)]) =
          KeyedHash.expandBlock hmacStandard prk info (n + 1) := by
        rw [KeyedHash.expandBlock, hmacSha256_standard, Nat.add_comm 1 n]
      have size : (KeyedHash.expandBlock hmacStandard prk info (n + 1)).length = 32 := width _ _
      rw [List.range'_1_concat, List.foldlM_append, ih, bind_ok, List.foldlM_cons, hkdfExpandRound_ok _ _ _ _ _ _ short fits,
        bind_ok, List.foldlM_nil, pure_eq_ok, next, KeyedHash.expandBlocks_succ, List.take_append]
      -- a whole block is copied, or what is left of the output
      congr 3
      rw [List.length_take]
      by_cases last : okmLen ≤ (KeyedHash.expandBlocks hmacStandard prk info n).length + 32
      · congr 1
        omega
      · rw [List.take_of_length_le (by omega), List.take_of_length_le (by omega)]

theorem hkdfExpand_eq (prk info : Buf) (okmLen : Nat) (fits : info.length ≤ 223) :
    hkdfExpand prk info okmLen = .ok (KeyedHash.expand hmacStandard 32 prk info okmLen) := by
  rw [hkdfExpand, hkdfExpandRounds_eq prk info okmLen fits, bind_ok]
  rfl

theorem hkdfExpandLabel_eq (secret label context : Buf) (okmLen : Nat) (fits : label.length + context.length ≤ 213) :
    hkdfExpandLabel secret label context okmLen =
      .ok (KeyedHash.expandLabel hmacStandard 32 secret label context okmLen) := by
  have info : toBeBytes16 (UInt16.ofNat okmLen) ++ [UInt8.ofNat (6 + label.length)] ++ [0x74, 0x6c, 0x73, 0x31, 0x33, 0x20] ++
      label ++ [UInt8.ofNat context.length] ++ context = KeyedHash.hkdfLabel label context okmLen := by
    have front : ([0x74, 0x6c, 0x73, 0x31, 0x33, 0x20] ++ label).length = 6 + label.length := by
      rw [List.length_append]
      rfl
    rw [KeyedHash.hkdfLabel, front]
    simp only [List.append_assoc]
  have length : (KeyedHash.hkdfLabel label context okmLen).length = label.length + context.length + 10 := by
    rw [← info]
    simp only [List.length_append, length_toBeBytes16, List.length_cons, List.length_nil]
    omega
  unfold hkdfExpandLabel
  dsimp only
  rw [info, if_neg (by omega), hkdfExpand_eq _ _ _ (by omega), KeyedHash.expandLabel]

theorem hkdf_standard :
    (∀ prk info : Buf, ∀ okmLen : Nat, prk.length = 32 → info.length ≤ 223 → 1 ≤ okmLen → okmLen ≤ 8160 →
      hkdfExpand prk info okmLen = .ok (KeyedHash.expand (KeyedHash.hmac Fips180.digest 64) 32 prk info okmLen)) ∧
    (∀ secret label context : Buf, ∀ okmLen : Nat, secret.length = 32 → label.length + context.length ≤ 213 → okmLen ≤ 8160 →
      hkdfExpandLabel secret label context okmLen =
        .ok (KeyedHash.expandLabel (KeyedHash.hmac Fips180.digest 64) 32 secret label context okmLen)) :=
  ⟨fun prk info okmLen _ fits _ _ => hkdfExpand_eq prk info okmLen fits,
    fun secret label context okmLen _ fits _ => hkdfExpandLabel_eq secret label context okmLen fits⟩

theorem hkdf_standard_sample :
    hkdfExpand (List.replicate 32 7) (List.replicate 223 1) 8160 =
      .ok (KeyedHash.expand (KeyedHash.hmac Fips180.digest 64) 32 (List.replicate 32 7) (List.replicate 223 1) 8160) ∧
    hkdfExpandLabel (List.replicate 32 7) [0x71, 0x75, 0x69, 0x63, 0x20, 0x6b, 0x65, 0x79] [] 16 =
      .ok (KeyedHash.expandLabel (KeyedHash.hmac Fips180.digest 64) 32 (List.replicate 32 7)
        [0x71, 0x75, 0x69, 0x63, 0x20, 0x6b, 0x65, 0x79] [] 16) :=
  ⟨hkdf_standard.1 _ _ _ (List.length_replicate ..) (Nat.le_of_eq (List.length_replicate ..)) (by decide) (by decide),
    hkdf_standard.2 _ _ _ _ (List.length_replicate ..) (by decide) (by decide)⟩

end Gutd
