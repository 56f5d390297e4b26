import Gutd.Proto.MaskBalanced

set_option autoImplicit false

namespace Gutd.Wire

open Bytes

inductive Form where
  | gut
  | quicShort
  | quicLong
  deriving DecidableEq, Repr

namespace Form

def headerLen : Form → Nat
  | gut => 10
  | quicShort => 16
  | quicLong => 1200

theorem headerLen_le (form : Form) : form.headerLen ≤ 1200 := by
  cases form <;> decide

def ppnOff : Form → Nat
  | gut => 0
  | quicShort => 6
  | quicLong => 15

def portsOff : Form → Nat
  | gut => 4
  | quicShort => 10
  | quicLong => 24

end Form

def nonceOf (w : Buf) : UInt32 :=
  if w.length < 32 then 0
  else le32At w 16 ^^^ le32At w 20 ^^^ le32At w 24 ^^^ le32At w 28

def typeOf (w : Buf) : UInt8 := byteAt w 0 &&& 0x1F

def mac2Off (type : UInt8) (len : Nat) : Option Nat :=
  if type = 1 ∧ 148 ≤ len then some 132
  else if type = 2 ∧ 92 ≤ len then some 76
  else none

def maskMac2 (ks : Buf) (type : UInt8) (w : Buf) : Buf :=
  match mac2Off type w.length with
  | some off => xorAt w off (slice ks 16 32)
  | none => w

def mask (ks w : Buf) : Buf := maskMac2 ks (typeOf w) (xorAt w 0 (slice ks 0 16))

def unmask (ks m : Buf) : Buf :=
  let w := xorAt m 0 (slice ks 0 16)
  maskMac2 ks (typeOf w) w

@[simp] theorem length_maskMac2 (ks : Buf) (type : UInt8) (w : Buf) :
    (maskMac2 ks type w).length = w.length := by
  cases found : mac2Off type w.length <;> simp [maskMac2, found]

@[simp] theorem length_mask (ks w : Buf) : (mask ks w).length = w.length := by
  simp [mask]

@[simp] theorem length_unmask (ks m : Buf) : (unmask ks m).length = m.length := by
  simp [unmask]

theorem mac2Off_bounds {type : UInt8} {len off : Nat} (found : mac2Off type len = some off) :
    32 ≤ off ∧ off + 16 ≤ len := by
  simp only [mac2Off] at found
  split_ifs at found with init response
  · cases found
    omega
  · cases found
    omega

-- the second MAC lies behind the nonce words, so masking it leaves the front alone
theorem byteAt_maskMac2_front (ks : Buf) (type : UInt8) (w : Buf) (i : Nat) (front : i < 32) :
    byteAt (maskMac2 ks type w) i = byteAt w i := by
  cases found : mac2Off type w.length with
  | none => simp [maskMac2, found]
  | some off =>
      have bounds := mac2Off_bounds found
      simp only [maskMac2, found, byteAt_xorAt]
      rw [if_neg (by omega)]

theorem maskMac2_maskMac2 (ks : Buf) (type : UInt8) (w : Buf) :
    maskMac2 ks type (maskMac2 ks type w) = w := by
  cases found : mac2Off type w.length <;> simp [maskMac2, found, xorAt_xorAt]

theorem xorAt_maskMac2 (ks mask : Buf) (type : UInt8) (w : Buf) (off : Nat) :
    xorAt (maskMac2 ks type w) off mask = maskMac2 ks type (xorAt w off mask) := by
  cases found : mac2Off type w.length <;> simp [maskMac2, found, xorAt_comm]

theorem unmask_mask (ks w : Buf) : unmask ks (mask ks w) = w := by
  have plain : xorAt (mask ks w) 0 (slice ks 0 16) = maskMac2 ks (typeOf w) w := by
    rw [mask, xorAt_maskMac2, xorAt_xorAt]
  have type : typeOf (maskMac2 ks (typeOf w) w) = typeOf w := by
    rw [typeOf, byteAt_maskMac2_front _ _ _ _ (by omega), typeOf]
  simp only [unmask, plain, type, maskMac2_maskMac2]

theorem mask_unmask (ks m : Buf) : mask ks (unmask ks m) = m := by
  have type : typeOf (unmask ks m) = typeOf (xorAt m 0 (slice ks 0 16)) := by
    rw [typeOf, unmask, byteAt_maskMac2_front _ _ _ _ (by omega), typeOf]
  rw [mask, type, unmask, xorAt_maskMac2, maskMac2_maskMac2, xorAt_xorAt]

theorem byteAt_mask_nonce (ks w : Buf) (i : Nat) (above : 16 ≤ i) (below : i < 32) :
    byteAt (mask ks w) i = byteAt w i := by
  rw [mask, byteAt_maskMac2_front _ _ _ _ below, byteAt_xorAt, if_neg]
  simp only [length_slice]
  omega

theorem nonceOf_mask (ks w : Buf) : nonceOf (mask ks w) = nonceOf w := by
  have word : ∀ off, 16 ≤ off → off ≤ 28 → le32At (mask ks w) off = le32At w off := by
    intro off above below
    apply le32At_congr
    intro k bounded
    exact byteAt_mask_nonce ks w (off + k) (by omega) (by omega)
  simp only [nonceOf, length_mask, word 16 (by omega) (by omega), word 20 (by omega) (by omega),
    word 24 (by omega) (by omega), word 28 (by omega) (by omega)]

structure WgMessage (w : Buf) : Prop where
  reserved : byteAt w 1 = 0 ∧ byteAt w 2 = 0 ∧ byteAt w 3 = 0
  sized : byteAt w 0 = 1 ∧ w.length = 148 ∨ byteAt w 0 = 2 ∧ w.length = 92 ∨ byteAt w 0 = 3 ∧ w.length = 64 ∨
    byteAt w 0 = 4 ∧ 32 ≤ w.length ∧ w.length ≤ 1400

namespace WgMessage

variable {w : Buf}

theorem length (message : WgMessage w) : 32 ≤ w.length ∧ w.length ≤ 1400 := by
  rcases message.sized with ⟨-, len⟩ | ⟨-, len⟩ | ⟨-, len⟩ | ⟨-, len⟩ <;> omega

theorem typeOf_eq (message : WgMessage w) : typeOf w = byteAt w 0 := by
  rcases message.sized with ⟨type, -⟩ | ⟨type, -⟩ | ⟨type, -⟩ | ⟨type, -⟩ <;> rw [typeOf, type] <;> rfl

-- a receiver that counts the padding as part of the message still finds the second MAC
theorem window (message : WgMessage w) (n : Nat) : mac2Off (typeOf w) (w.length + n) = mac2Off (typeOf w) w.length := by
  rcases message.sized with ⟨type, len⟩ | ⟨type, len⟩ | ⟨type, -⟩ | ⟨type, -⟩ <;>
    simp [mac2Off, message.typeOf_eq, *]

end WgMessage

def packPorts (sport dport : UInt16) : UInt32 := (sport.toUInt32 <<< 16) ||| dport.toUInt32

theorem toNat_packPorts (sport dport : UInt16) :
    (packPorts sport dport).toNat = sport.toNat * 2 ^ 16 + dport.toNat := by
  have sportBound := sport.toNat_lt
  have dportBound := dport.toNat_lt
  have small : sport.toNat <<< 16 < 2 ^ 32 := by
    rw [Nat.shiftLeft_eq]
    omega
  simp only [packPorts, UInt32.toNat_or, UInt32.toNat_shiftLeft, UInt16.toNat_toUInt32]
  rw [show (16 : UInt32).toNat % 32 = 16 from rfl, Nat.mod_eq_of_lt small,
    ← Nat.shiftLeft_add_eq_or_of_lt dportBound, Nat.shiftLeft_eq]

theorem sport_packPorts (sport dport : UInt16) : (packPorts sport dport >>> 16).toUInt16 = sport := by
  have sportBound := sport.toNat_lt
  have dportBound := dport.toNat_lt
  apply UInt16.toNat_inj.mp
  simp only [UInt32.toNat_toUInt16, UInt32.toNat_shiftRight, toNat_packPorts, Nat.shiftRight_eq_div_pow]
  rw [show (16 : UInt32).toNat % 32 = 16 from rfl]
  omega

theorem dport_packPorts (sport dport : UInt16) : (packPorts sport dport &&& 0xFFFF).toUInt16 = dport := by
  have sportBound := sport.toNat_lt
  have dportBound := dport.toNat_lt
  apply UInt16.toNat_inj.mp
  simp only [UInt32.toNat_toUInt16, UInt32.toNat_and, toNat_packPorts]
  rw [show (0xFFFF : UInt32).toNat = 2 ^ 16 - 1 from rfl, Nat.and_two_pow_sub_one_eq_mod]
  omega

theorem packPorts_unpack (word : UInt32) : packPorts (word >>> 16).toUInt16 (word &&& 0xFFFF).toUInt16 = word := by
  have bound := word.toNat_lt
  apply UInt32.toNat_inj.mp
  simp only [toNat_packPorts, UInt32.toNat_toUInt16, UInt32.toNat_shiftRight, UInt32.toNat_and,
    Nat.shiftRight_eq_div_pow]
  rw [show (16 : UInt32).toNat % 32 = 16 from rfl, show (0xFFFF : UInt32).toNat = 2 ^ 16 - 1 from rfl,
    Nat.and_two_pow_sub_one_eq_mod]
  omega

def padByte (padLen : Nat) : UInt8 :=
  if padLen > 0 then 0x40 ||| ((UInt8.ofNat padLen - 1) &&& 0x3F) else 0

def ballastLen (padByte : UInt8) : Nat :=
  if padByte &&& 0x40 ≠ 0 then (padByte &&& 0x3F).toNat + 1 else 0

theorem ballastLen_padByte (padLen : Nat) (bounded : padLen ≤ 64) : ballastLen (padByte padLen) = padLen := by
  have all : ∀ n : Fin 65, ballastLen (padByte n.val) = n.val := by decide
  exact all ⟨padLen, by omega⟩

theorem ballastLen_le (padByte : UInt8) : ballastLen padByte ≤ 64 := by
  have all : ∀ b : UInt8, ballastLen b ≤ 64 := forall_byte (by decide)
  exact all padByte

-- what the two ends share, and the byte order of the host that masks
structure Channel where
  order : ByteOrder
  key : ChachaInit
  rounds : UInt8

namespace Channel

def block (ch : Channel) (counter nonce : UInt32) : Block := chachaBlockFast ch.key counter nonce ch.rounds

def ks47 (ch : Channel) (w : Buf) : Block := ch.block 47 (nonceOf w)

def keystream (ch : Channel) (w : Buf) : Buf := blockBytes ch.order (ch.ks47 w)

def padBlock (ch : Channel) (w : Buf) : Buf := blockBytes ch.order (ch.block 69 (nonceOf w))

def ks99 (ch : Channel) : Block := ch.block 99 0

end Channel

def FormFields (ch : Channel) (w p : Buf) : Form → Prop
  | .gut => True
  | .quicShort => byteAt p 0 = 0x40 ∧ byteAt p 5 = 0x01 ∧ le32At p 1 = (ch.ks47 w).get 9
  | .quicLong => byteAt p 0 &&& 0xC0 = 0xC0 ∧ byteAt p 5 = 0x08 ∧
      le32At p 6 = ch.ks99.get 0 ∧ le32At p 10 = ch.ks99.get 1

structure HeaderFor (ch : Channel) (form : Form) (w : Buf) (sport dport : UInt16) (padLen : Nat) (p : Buf) : Prop where
  whole : form.headerLen ≤ p.length
  ppn : le32At p form.ppnOff = (ch.ks47 w).get 10
  ports : le32At p form.portsOff = packPorts sport dport ^^^ (ch.ks47 w).get 11
  pad : ballastLen (byteAt p (form.headerLen - 1)) = padLen
  fields : FormFields ch w p form

structure Carries (ch : Channel) (form : Form) (w pad : Buf) (sport dport : UInt16) (p : Buf) : Prop where
  header : HeaderFor ch form w sport dport pad.length p
  message : 32 ≤ w.length
  padding : pad.length ≤ 64
  body : p.drop form.headerLen = mask (ch.keystream w) w ++ pad

variable {ch : Channel} {form : Form} {w pad p : Buf} {sport dport : UInt16}

theorem HeaderFor.congr {padLen : Nat} {q : Buf} (header : HeaderFor ch form w sport dport padLen p)
    (whole : form.headerLen ≤ q.length) (same : ∀ i, i < form.headerLen → byteAt q i = byteAt p i) :
    HeaderFor ch form w sport dport padLen q := by
  obtain ⟨-, ppn, ports, pad, fields⟩ := header
  have word (off : Nat) (inside : off + 4 ≤ form.headerLen) : le32At q off = le32At p off :=
    le32At_congr fun k bounded => same (off + k) (by omega)
  have inside : form.ppnOff + 4 ≤ form.headerLen ∧ form.portsOff + 4 ≤ form.headerLen ∧ 0 < form.headerLen := by
    cases form <;> decide
  refine ⟨whole, by rw [word _ inside.1, ppn], by rw [word _ inside.2.1, ports], by rw [same _ (by omega), pad], ?_⟩
  cases form with
  | gut => trivial
  | quicShort =>
      obtain ⟨first, marker, dcid⟩ := fields
      exact ⟨by rw [same 0 (by decide), first], by rw [same 5 (by decide), marker], by rw [word 1 (by decide), dcid]⟩
  | quicLong =>
      obtain ⟨first, marker, dcid, dcid'⟩ := fields
      exact ⟨by rw [same 0 (by decide), first], by rw [same 5 (by decide), marker], by rw [word 6 (by decide), dcid],
        by rw [word 10 (by decide), dcid']⟩

theorem HeaderFor.append {padLen : Nat} (header : HeaderFor ch form w sport dport padLen p) (rest : Buf) :
    HeaderFor ch form w sport dport padLen (p ++ rest) := by
  have whole := header.whole
  apply header.congr (by simp; omega)
  intro i inside
  exact byteAt_append_left p rest i (by omega)

def gutHeader (ppn encPorts : UInt32) (padLen : Nat) : Buf :=
  toLeBytes ppn ++ toLeBytes encPorts ++ [0x00] ++ [padByte padLen]

def quicShortHeader (dcid ppn encPorts : UInt32) (padLen : Nat) : Buf :=
  [0x40] ++ toLeBytes dcid ++ [0x01] ++ toLeBytes ppn ++ toLeBytes encPorts ++ [0x00] ++ [padByte padLen]

theorem gutHeader_header (ch : Channel) (w : Buf) (sport dport : UInt16) {padLen : Nat} (padding : padLen ≤ 64) :
    HeaderFor ch .gut w sport dport padLen
      (gutHeader ((ch.ks47 w).get 10) (packPorts sport dport ^^^ (ch.ks47 w).get 11) padLen) :=
  ⟨Nat.le_refl _, le32_toLeBytes _, le32_toLeBytes _, ballastLen_padByte padLen padding, trivial⟩

theorem quicShortHeader_header (ch : Channel) (w : Buf) (sport dport : UInt16) {padLen : Nat} (padding : padLen ≤ 64) :
    HeaderFor ch .quicShort w sport dport padLen
      (quicShortHeader ((ch.ks47 w).get 9) ((ch.ks47 w).get 10) (packPorts sport dport ^^^ (ch.ks47 w).get 11) padLen) :=
  ⟨Nat.le_refl _, le32_toLeBytes _, le32_toLeBytes _, ballastLen_padByte padLen padding, rfl, rfl, le32_toLeBytes _⟩

theorem Channel.ks47_mask (ch : Channel) (ks w : Buf) : ch.ks47 (mask ks w) = ch.ks47 w := by
  rw [Channel.ks47, nonceOf_mask, Channel.ks47]

theorem Channel.keystream_mask (ch : Channel) (ks w : Buf) : ch.keystream (mask ks w) = ch.keystream w := by
  rw [Channel.keystream, ks47_mask, Channel.keystream]

theorem Carries.of_masked {m : Buf} (whole : 10 ≤ p.length) (message : 32 ≤ m.length) (body : p.drop 10 = m ++ pad)
    (padding : ballastLen (byteAt p 9) = pad.length) (ppn : le32At p 0 = (ch.ks47 m).get 10) :
    ∃ sport dport, Carries ch .gut (unmask (ch.keystream m) m) pad sport dport p := by
  let word := le32At p 4 ^^^ (ch.ks47 m).get 11
  have masked : mask (ch.keystream m) (unmask (ch.keystream m) m) = m := mask_unmask _ _
  have ks47 : ch.ks47 (unmask (ch.keystream m) m) = ch.ks47 m := by
    rw [← ch.ks47_mask (ch.keystream m) (unmask (ch.keystream m) m), masked]
  have keystream : ch.keystream (unmask (ch.keystream m) m) = ch.keystream m := by
    rw [Channel.keystream, ks47, Channel.keystream]
  refine ⟨(word >>> 16).toUInt16, (word &&& 0xFFFF).toUInt16,
    ⟨whole, by rw [ks47]; exact ppn, ?_, padding, trivial⟩, by simpa using message, ?_, ?_⟩
  · rw [packPorts_unpack, ks47, UInt32.xor_assoc, UInt32.xor_self, UInt32.xor_zero]
    rfl
  · rw [← padding]
    exact ballastLen_le _
  · rw [keystream, masked]
    exact body

theorem Carries.of_header (header : HeaderFor ch form w sport dport pad.length p) (exact : p.length = form.headerLen)
    (message : 32 ≤ w.length) (padding : pad.length ≤ 64) :
    Carries ch form w pad sport dport (p ++ (mask (ch.keystream w) w ++ pad)) := by
  refine ⟨header.append _, message, padding, ?_⟩
  rw [← exact, List.drop_left]

theorem Carries.length (carries : Carries ch form w pad sport dport p) :
    p.length = form.headerLen + w.length + pad.length := by
  have body := congrArg List.length carries.body
  have header := carries.header.whole
  simp only [List.length_drop, List.length_append, length_mask] at body
  omega

end Gutd.Wire
