import Gutd.Bpf.Maps
import Gutd.Crypto

set_option autoImplicit false

-- AES-128, GHASH and `write_quic_long_header` of `gut_common.h`.

namespace Gutd.Bpf

open Bytes Wire

def aesSbox : List UInt8 :=
  [0x63, 0x7c, 0x77, 0x7b, 0xf2, 0x6b, 0x6f, 0xc5, 0x30, 0x01, 0x67, 0x2b, 0xfe, 0xd7, 0xab, 0x76,
   0xca, 0x82, 0xc9, 0x7d, 0xfa, 0x59, 0x47, 0xf0, 0xad, 0xd4, 0xa2, 0xaf, 0x9c, 0xa4, 0x72, 0xc0,
   0xb7, 0xfd, 0x93, 0x26, 0x36, 0x3f, 0xf7, 0xcc, 0x34, 0xa5, 0xe5, 0xf1, 0x71, 0xd8, 0x31, 0x15,
   0x04, 0xc7, 0x23, 0xc3, 0x18, 0x96, 0x05, 0x9a, 0x07, 0x12, 0x80, 0xe2, 0xeb, 0x27, 0xb2, 0x75,
   0x09, 0x83, 0x2c, 0x1a, 0x1b, 0x6e, 0x5a, 0xa0, 0x52, 0x3b, 0xd6, 0xb3, 0x29, 0xe3, 0x2f, 0x84,
   0x53, 0xd1, 0x00, 0xed, 0x20, 0xfc, 0xb1, 0x5b, 0x6a, 0xcb, 0xbe, 0x39, 0x4a, 0x4c, 0x58, 0xcf,
   0xd0, 0xef, 0xaa, 0xfb, 0x43, 0x4d, 0x33, 0x85, 0x45, 0xf9, 0x02, 0x7f, 0x50, 0x3c, 0x9f, 0xa8,
   0x51, 0xa3, 0x40, 0x8f, 0x92, 0x9d, 0x38, 0xf5, 0xbc, 0xb6, 0xda, 0x21, 0x10, 0xff, 0xf3, 0xd2,
   0xcd, 0x0c, 0x13, 0xec, 0x5f, 0x97, 0x44, 0x17, 0xc4, 0xa7, 0x7e, 0x3d, 0x64, 0x5d, 0x19, 0x73,
   0x60, 0x81, 0x4f, 0xdc, 0x22, 0x2a, 0x90, 0x88, 0x46, 0xee, 0xb8, 0x14, 0xde, 0x5e, 0x0b, 0xdb,
   0xe0, 0x32, 0x3a, 0x0a, 0x49, 0x06, 0x24, 0x5c, 0xc2, 0xd3, 0xac, 0x62, 0x91, 0x95, 0xe4, 0x79,
   0xe7, 0xc8, 0x37, 0x6d, 0x8d, 0xd5, 0x4e, 0xa9, 0x6c, 0x56, 0xf4, 0xea, 0x65, 0x7a, 0xae, 0x08,
   0xba, 0x78, 0x25, 0x2e, 0x1c, 0xa6, 0xb4, 0xc6, 0xe8, 0xdd, 0x74, 0x1f, 0x4b, 0xbd, 0x8b, 0x8a,
   0x70, 0x3e, 0xb5, 0x66, 0x48, 0x03, 0xf6, 0x0e, 0x61, 0x35, 0x57, 0xb9, 0x86, 0xc1, 0x1d, 0x9e,
   0xe1, 0xf8, 0x98, 0x11, 0x69, 0xd9, 0x8e, 0x94, 0x9b, 0x1e, 0x87, 0xe9, 0xce, 0x55, 0x28, 0xdf,
   0x8c, 0xa1, 0x89, 0x0d, 0xbf, 0xe6, 0x42, 0x68, 0x41, 0x99, 0x2d, 0x0f, 0xb0, 0x54, 0xbb, 0x16]

def sb (word : UInt32) : UInt8 := aesSbox.getD (word &&& 0xFF).toNat 0

theorem aesSbox_eq : aesSbox = Gutd.aesSbox := rfl

theorem sb_toUInt8 (word : UInt32) : sb word = subByte word.toUInt8 := by
  have low : (0xFF : UInt32).toNat = 2 ^ 8 - 1 := rfl
  have index : (word &&& 0xFF).toNat = word.toUInt8.toNat := by
    rw [UInt32.toNat_and, low, Nat.and_two_pow_sub_one_eq_mod, UInt32.toNat_toUInt8]
  rw [sb, subByte, index, aesSbox_eq]

def xtime (x : UInt8) : UInt8 := (x <<< 1) ^^^ ((x >>> 7) * 0x1b)

def aesColumn (b0 b1 b2 b3 : UInt8) : UInt32 :=
  let h0 := xtime b0
  let h1 := xtime b1
  let h2 := xtime b2
  let h3 := xtime b3
  be32 (h0 ^^^ (h1 ^^^ b1) ^^^ b2 ^^^ b3) (b0 ^^^ h1 ^^^ (h2 ^^^ b2) ^^^ b3) (b0 ^^^ b1 ^^^ h2 ^^^ (h3 ^^^ b3))
    ((h0 ^^^ b0) ^^^ b1 ^^^ b2 ^^^ h3)

def aesRound (rk : Vector UInt32 44) (s : Vector UInt32 4) (r : Nat) : Vector UInt32 4 :=
  let roundKey (i : Nat) : UInt32 := rk.toList.getD (r * 4 + i) 0
  #v[aesColumn (sb (s.get 0 >>> 24)) (sb (s.get 1 >>> 16)) (sb (s.get 2 >>> 8)) (sb (s.get 3)) ^^^ roundKey 0,
    aesColumn (sb (s.get 1 >>> 24)) (sb (s.get 2 >>> 16)) (sb (s.get 3 >>> 8)) (sb (s.get 0)) ^^^ roundKey 1,
    aesColumn (sb (s.get 2 >>> 24)) (sb (s.get 3 >>> 16)) (sb (s.get 0 >>> 8)) (sb (s.get 1)) ^^^ roundKey 2,
    aesColumn (sb (s.get 3 >>> 24)) (sb (s.get 0 >>> 16)) (sb (s.get 1 >>> 8)) (sb (s.get 2)) ^^^ roundKey 3]

def aesLastColumn (roundKey w0 w1 w2 w3 : UInt32) : Buf :=
  [sb (w0 >>> 24) ^^^ (roundKey >>> 24).toUInt8, sb (w1 >>> 16) ^^^ (roundKey >>> 16).toUInt8,
    sb (w2 >>> 8) ^^^ (roundKey >>> 8).toUInt8, sb w3 ^^^ roundKey.toUInt8]

def aes128EncryptBlock (rk : Vector UInt32 44) (block : Buf) : Buf :=
  let start := #v[be32At block 0 ^^^ rk.get 0, be32At block 4 ^^^ rk.get 1, be32At block 8 ^^^ rk.get 2, be32At block 12 ^^^ rk.get 3]
  let s := (List.range' 1 9).foldl (aesRound rk) start
  aesLastColumn (rk.get 40) (s.get 0) (s.get 1) (s.get 2) (s.get 3) ++ aesLastColumn (rk.get 41) (s.get 1) (s.get 2) (s.get 3) (s.get 0) ++
    aesLastColumn (rk.get 42) (s.get 2) (s.get 3) (s.get 0) (s.get 1) ++ aesLastColumn (rk.get 43) (s.get 3) (s.get 0) (s.get 1) (s.get 2)

@[simp] theorem length_aes128EncryptBlock (rk : Vector UInt32 44) (block : Buf) :
    (aes128EncryptBlock rk block).length = 16 := by
  simp [aes128EncryptBlock, aesLastColumn]

structure GfCtx where
  z : Vector UInt32 4
  v : Vector UInt32 4

def gfStepCb (xw : UInt32) (ctx : GfCtx) (bit : Nat) : GfCtx :=
  let mask := (0 : UInt32) - ((xw >>> UInt32.ofNat (31 - bit)) &&& 1)
  let v := ctx.v
  let carry := (0 : UInt32) - (v.get 3 &&& 1)
  { z := Vector.zipWith (fun z v => z ^^^ (v &&& mask)) ctx.z v
    v := #v[(v.get 0 >>> 1) ^^^ (0xE1000000 &&& carry), (v.get 1 >>> 1) ||| (v.get 0 <<< 31), (v.get 2 >>> 1) ||| (v.get 1 <<< 31),
      (v.get 3 >>> 1) ||| (v.get 2 <<< 31)] }

theorem size_block (h : Buf) : #[be32At h 0, be32At h 4, be32At h 8, be32At h 12].size = 4 := rfl

def gf128Mul (x h : Buf) : Buf :=
  let start : GfCtx := { z := #v[0, 0, 0, 0], v := ⟨#[be32At h 0, be32At h 4, be32At h 8, be32At h 12], size_block h⟩ }
  let word (ctx : GfCtx) (i : Nat) : GfCtx := (List.range 32).foldl (gfStepCb (be32At x (4 * i))) ctx
  ((List.range 4).foldl word start).z.toList.flatMap toBeBytes

def ghashUpdate (h x block : Buf) : Buf := gf128Mul (xorAt x 0 block) h

def gcmGhashTag128 (h aad ct j0Ks : Buf) : Buf :=
  let x := List.replicate 16 0
  let x := ghashUpdate h x (slice aad 0 16)
  let x := ghashUpdate h x (slice aad 16 32)
  let x := ghashUpdate h x (slice aad 32 34 ++ List.replicate 14 0)
  let x := (List.range 8).foldl (fun x i => ghashUpdate h x (slice ct (i * 16) (i * 16 + 16))) x
  let x := ghashUpdate h x [0, 0, 0, 0, 0, 0, 0x01, 0x10, 0, 0, 0, 0, 0, 0, 0x04, 0x00]
  xorAt j0Ks 0 x

def aesCtr (rk : Vector UInt32 44) (nonce : Buf) (counter : Nat) : Buf :=
  aes128EncryptBlock rk (nonce ++ [0, 0, 0, UInt8.ofNat counter])

@[simp] theorem length_aesCtr (rk : Vector UInt32 44) (nonce : Buf) (counter : Nat) :
    (aesCtr rk nonce counter).length = 16 := by
  simp [aesCtr]

def sealFrame (cfg : GutConfig) (nonce aad frame : Buf) : Buf × Buf :=
  let h := aes128EncryptBlock cfg.quicKeyRk (List.replicate 16 0)
  let ct := xorAt frame 0 ((List.range 8).flatMap fun i => aesCtr cfg.quicKeyRk nonce (i + 2))
  (ct, gcmGhashTag128 h aad ct (aesCtr cfg.quicKeyRk nonce 1))

@[simp] theorem length_sealFrame_fst (cfg : GutConfig) (nonce aad frame : Buf) :
    (sealFrame cfg nonce aad frame).1.length = frame.length := by
  simp [sealFrame]

@[simp] theorem length_sealFrame_snd (cfg : GutConfig) (nonce aad frame : Buf) :
    (sealFrame cfg nonce aad frame).2.length = 16 := by
  simp [sealFrame, gcmGhashTag128]

def sniExtension (cfg : GutConfig) (dlen : Nat) : Buf :=
  if dlen > 0 then
    [0x00, 0x00] ++ toBeBytes16 (UInt16.ofNat (dlen + 5)) ++ toBeBytes16 (UInt16.ofNat (dlen + 3)) ++ [0x00] ++
      toBeBytes16 (UInt16.ofNat dlen) ++ cfg.sniDomain.toList.take dlen
  else []

def cryptoFrame (cfg : GutConfig) (random : Buf) : Buf :=
  let dlen := min cfg.sniDomainLen.toNat 32
  let extensions := sniExtension cfg dlen ++ [0x00, 0x10, 0x00, 0x05, 0x00, 0x03, 0x02, 0x68, 0x33] ++
    [0x00, 0x2b, 0x00, 0x03, 0x02, 0x03, 0x04]
  let extLen := (if dlen > 0 then dlen + 9 else 0) + 16
  let chBody := 43 + extLen
  let cfData := chBody + 4
  let frameHeader : Buf :=
    [0x06, 0x00, (0x40 : UInt8) ||| UInt8.ofNat ((cfData >>> 8) &&& 0x3F), UInt8.ofNat (cfData &&& 0xFF)]
  let helloHeader : Buf :=
    [0x01, 0x00, UInt8.ofNat ((chBody >>> 8) &&& 0xFF), UInt8.ofNat (chBody &&& 0xFF), 0x03, 0x03]
  let suites : Buf := [0x00, 0x00, 0x02, 0x13, 0x01, 0x01, 0x00]
  let extensionsLen : Buf := [UInt8.ofNat ((extLen >>> 8) &&& 0xFF), UInt8.ofNat (extLen &&& 0xFF)]
  overwrite (List.replicate 128 0) 0 (frameHeader ++ helloHeader ++ random ++ suites ++ extensionsLen ++ extensions)

@[simp] theorem length_cryptoFrame (cfg : GutConfig) (random : Buf) : (cryptoFrame cfg random).length = 128 := by
  simp [cryptoFrame]

def gutBytes (cfg : GutConfig) (ktimeNs : Nat) : Buf := toLeBytes (sipHash32 (UInt32.ofNat ktimeNs) cfg.tokenKey)

def writeLongFields (quic : Buf) (wgType : UInt8) (wgIdx ppn encPorts : UInt32) (cfg : GutConfig)
    (filler : Nat → UInt8) : Buf :=
  let quic := overwrite quic 0 ((List.range 64).map filler)
  let quic := overwrite quic 0 [if wgType = 3 then 0xF3 else 0xC3, 0x00, 0x00, 0x00, 0x01]
  let quic := overwrite quic 5 [0x08]
  let quic := overwrite quic 6 cfg.quicDcid.toList
  let quic := overwrite quic 14 [0x08]
  let quic := overwrite quic 15 (toLeBytes ppn)
  let quic := overwrite quic 19 (toLeBytes (sipHash32 (wgIdx ^^^ 0x12345678) cfg.tokenKey))
  let quic := overwrite quic 23 [0x04]
  overwrite quic 24 (toLeBytes encPorts)

def sealLongHeader (quic : Buf) (ppn : UInt32) (cfg : GutConfig) (random : Buf) : Buf :=
  -- the length field announces packet number, ciphertext and tag: 4 + 128 + 16
  let quic := overwrite quic 28 [0x40, 148]
  let quic := overwrite quic 30 (toBeBytes ppn)
  let nonce := xorAt cfg.quicIv.toList 8 (toBeBytes ppn)
  let sealed := sealFrame cfg nonce (slice quic 0 34) (cryptoFrame cfg random)
  let quic := overwrite quic 34 sealed.1
  let quic := overwrite quic 162 sealed.2
  let hpMask := aes128EncryptBlock cfg.quicHpRk (slice quic 34 50)
  let quic := xorAt quic 0 [byteAt hpMask 0 &&& 0x0F]
  xorAt quic 30 (slice hpMask 1 5)

-- the header is built in the scratch buffer, of which every byte is written
def writeQuicLongHeader (quic : Buf) (wgType : UInt8) (wgIdx ppn encPorts : UInt32) (padLen : Nat) (cfg : GutConfig)
    (padBlock : Buf) (ktimeNs : Nat) : Buf :=
  let gut := gutBytes cfg ktimeNs
  let filler (step i : Nat) : UInt8 := byteAt padBlock ((i * step) &&& 0x3F) ^^^ byteAt gut (i &&& 3)
  let random := (List.range 32).map fun i => byteAt padBlock i ^^^ byteAt gut ((i + 1) &&& 3)
  let quic := writeLongFields quic wgType wgIdx ppn encPorts cfg (filler 13)
  let quic := sealLongHeader quic ppn cfg random
  let quic := overwrite quic 178 ((List.range' 178 1021).map (filler 7))
  overwrite quic 1199 [padByte padLen]

@[simp] theorem length_writeQuicLongHeader (quic : Buf) (wgType : UInt8) (wgIdx ppn encPorts : UInt32) (padLen : Nat)
    (cfg : GutConfig) (padBlock : Buf) (ktimeNs : Nat) :
    (writeQuicLongHeader quic wgType wgIdx ppn encPorts padLen cfg padBlock ktimeNs).length = quic.length := by
  simp [writeQuicLongHeader, sealLongHeader, writeLongFields]

def longFields (wgType : UInt8) (wgIdx ppn encPorts : UInt32) (cfg : GutConfig) : Buf :=
  [if wgType = 3 then 0xF3 else 0xC3, 0x00, 0x00, 0x00, 0x01] ++ [0x08] ++ cfg.quicDcid.toList ++ [0x08] ++
    toLeBytes ppn ++ toLeBytes (sipHash32 (wgIdx ^^^ 0x12345678) cfg.tokenKey) ++ [0x04] ++ toLeBytes encPorts

@[simp] theorem length_longFields (wgType : UInt8) (wgIdx ppn encPorts : UInt32) (cfg : GutConfig) :
    (longFields wgType wgIdx ppn encPorts cfg).length = 28 := by
  simp [longFields]

theorem writeLongFields_eq (quic : Buf) (wgType : UInt8) (wgIdx ppn encPorts : UInt32) (cfg : GutConfig)
    (filler : Nat → UInt8) :
    writeLongFields quic wgType wgIdx ppn encPorts cfg filler =
      overwrite (overwrite quic 0 ((List.range 64).map filler)) 0 (longFields wgType wgIdx ppn encPorts cfg) := by
  unfold writeLongFields
  simp (disch := simp) only [overwrite_next]
  rfl

section Reads

variable {quic : Buf} (wgType : UInt8) (wgIdx ppn encPorts : UInt32) (padLen : Nat) (cfg : GutConfig) (padBlock : Buf)
  (ktimeNs : Nat)

-- sealing and filling leave the fields alone, header protection all but the low bits of the first byte
theorem byteAt_writeQuicLongHeader (whole : quic.length = 1200) :
    ∃ m : UInt8, m &&& 0xC0 = 0 ∧ ∀ i, i < 28 →
      byteAt (writeQuicLongHeader quic wgType wgIdx ppn encPorts padLen cfg padBlock ktimeNs) i =
        byteAt (xorAt (longFields wgType wgIdx ppn encPorts cfg) 0 [m]) i := by
  unfold writeQuicLongHeader sealLongHeader
  dsimp only
  generalize aes128EncryptBlock cfg.quicHpRk _ = hpMask
  have low : ∀ h : UInt8, (h &&& 0x0F) &&& 0xC0 = 0 := by
    intro h
    rw [UInt8.and_assoc]
    exact UInt8.and_zero
  refine ⟨byteAt hpMask 0 &&& 0x0F, low _, ?_⟩
  intro i before
  rw [byteAt_overwrite_other _ _ _ _ (by omega), byteAt_overwrite_other _ _ _ _ (by omega), byteAt_xorAt,
    if_neg (by omega), byteAt_xorAt, byteAt_overwrite_other _ _ _ _ (by omega),
    byteAt_overwrite_other _ _ _ _ (by omega), byteAt_overwrite_other _ _ _ _ (by omega),
    byteAt_overwrite_other _ _ _ _ (by omega), writeLongFields_eq, byteAt_overwrite, byteAt_xorAt]
  have inside : i < 1200 := by omega
  simp [whole, before, inside]

theorem writeQuicLongHeader_header {key : Vector UInt8 32} {w : Buf} {sport dport : UInt16} (keyed : cfg.Keyed key)
    (whole : quic.length = 1200) (padding : padLen ≤ 64) (ppnEq : ppn = ((channel key).ks47 w).get 10)
    (portsEq : encPorts = packPorts sport dport ^^^ ((channel key).ks47 w).get 11) :
    HeaderFor (channel key) .quicLong w sport dport padLen
      (writeQuicLongHeader quic wgType wgIdx ppn encPorts padLen cfg padBlock ktimeNs) := by
  obtain ⟨m, high, reads⟩ := byteAt_writeQuicLongHeader wgType wgIdx ppn encPorts padLen cfg padBlock ktimeNs whole
  have field (i : Nat) (after : 0 < i) (before : i < 28) :
      byteAt (writeQuicLongHeader quic wgType wgIdx ppn encPorts padLen cfg padBlock ktimeNs) i =
        byteAt (longFields wgType wgIdx ppn encPorts cfg) i := by
    rw [reads i before, byteAt_xorAt, if_neg (by simp; omega)]
  have word (off : Nat) (after : 0 < off) (before : off + 4 ≤ 28) :
      le32At (writeQuicLongHeader quic wgType wgIdx ppn encPorts padLen cfg padBlock ktimeNs) off =
        le32At (longFields wgType wgIdx ppn encPorts cfg) off :=
    le32At_congr fun k bounded => field (off + k) (by omega) (by omega)
  have fields : longFields wgType wgIdx ppn encPorts cfg =
      [if wgType = 3 then (0xF3 : UInt8) else 0xC3, 0x00, 0x00, 0x00, 0x01, 0x08] ++ toLeBytes ((channel key).ks99.get 0) ++
        toLeBytes ((channel key).ks99.get 1) ++ [0x08] ++ toLeBytes ppn ++
        toLeBytes (sipHash32 (wgIdx ^^^ 0x12345678) cfg.tokenKey) ++ [0x04] ++ toLeBytes encPorts := by
    simp [longFields, keyed.dcid]
  have last : byteAt (writeQuicLongHeader quic wgType wgIdx ppn encPorts padLen cfg padBlock ktimeNs) 1199 =
      padByte padLen := by
    unfold writeQuicLongHeader
    dsimp only
    rw [byteAt_overwrite, if_pos (by simp [sealLongHeader, writeLongFields, whole])]
    rfl
  refine ⟨?_, ?_, ?_, ?_, ?_, ?_, ?_, ?_⟩
  · simp [whole, Form.headerLen]
  · rw [← ppnEq, Form.ppnOff, word 15 (by omega) (by omega), fields]
    exact le32_toLeBytes _
  · rw [← portsEq, Form.portsOff, word 24 (by omega) (by omega), fields]
    exact le32_toLeBytes _
  · rw [Form.headerLen, last, ballastLen_padByte _ padding]
  · rw [reads 0 (by omega), byteAt_xorAt, if_pos (by simp), xor_and_distrib]
    change (_ &&& 0xC0) ^^^ (m &&& 0xC0) = _
    rw [high, fields, UInt8.xor_zero]
    change (if wgType = 3 then (0xF3 : UInt8) else 0xC3) &&& 0xC0 = 0xC0
    split_ifs <;> decide
  · rw [field 5 (by omega) (by omega), fields]
    rfl
  · rw [word 6 (by omega) (by omega), fields]
    exact le32_toLeBytes _
  · rw [word 10 (by omega) (by omega), fields]
    exact le32_toLeBytes _

end Reads

end Gutd.Bpf
