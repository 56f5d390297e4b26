import Gutd.Proto.Quic
import Gutd.Wire.Format

set_option autoImplicit false

-- `write_quic_long_header` of `userspace.rs`.

namespace Gutd.Userspace

open Bytes Checked Wire

def gutQuicShortHeaderSize : Nat := 16
def gutHeaderSize : Nat := 10
def gutQuicLongHeaderSize : Nat := 1200

def sniExtension (domain : Buf) : Buf :=
  if 0 < domain.length then
    [0x00, 0x00] ++ toBeBytes16 (UInt16.ofNat (domain.length + 5)) ++
      toBeBytes16 (UInt16.ofNat (domain.length + 3)) ++ [0x00] ++
      toBeBytes16 (UInt16.ofNat domain.length) ++ domain
  else []

def alpnExtension : Buf := [0x00, 0x10, 0x00, 0x05, 0x00, 0x03, 0x02, 0x68, 0x33]

def supportedVersionsExtension : Buf := [0x00, 0x2b, 0x00, 0x03, 0x02, 0x03, 0x04]

def cryptoFrame (entropySource sipDomain : Buf) : Buf :=
  let extensions := sniExtension (sipDomain.take 32) ++ alpnExtension ++ supportedVersionsExtension
  let chBodyLen := 43 + extensions.length
  let cryptoDataLen := chBodyLen + 4
  let frameHeader : Buf :=
    [0x06, 0x00, (0x40 : UInt8) ||| UInt8.ofNat ((cryptoDataLen >>> 8) &&& 0x3F), UInt8.ofNat (cryptoDataLen &&& 0xFF)]
  let helloHeader : Buf :=
    [0x01, 0x00, UInt8.ofNat ((chBodyLen >>> 8) &&& 0xFF), UInt8.ofNat (chBodyLen &&& 0xFF), 0x03, 0x03]
  let suites : Buf := [0x00, 0x00, 0x02, 0x13, 0x01, 0x01, 0x00]
  let extensionsLen : Buf :=
    [UInt8.ofNat ((extensions.length >>> 8) &&& 0xFF), UInt8.ofNat (extensions.length &&& 0xFF)]
  frameHeader ++ helloHeader ++ entropySource ++ suites ++ extensionsLen ++ extensions

theorem length_sniExtension (domain : Buf) : (sniExtension domain).length ≤ domain.length + 9 := by
  simp only [sniExtension]
  split_ifs <;> simp
  omega

theorem length_cryptoFrame (entropySource sipDomain : Buf) (whole : entropySource.length = 32) :
    67 ≤ (cryptoFrame entropySource sipDomain).length ∧ (cryptoFrame entropySource sipDomain).length ≤ 108 := by
  have sni := length_sniExtension (sipDomain.take 32)
  have domain : (sipDomain.take 32).length ≤ 32 := List.length_take_le 32 sipDomain
  simp only [cryptoFrame, alpnExtension, supportedVersionsExtension, List.length_append, List.length_cons,
    List.length_nil]
  omega

def longFirstByte (wgType : UInt8) : UInt8 := if wgType = 3 then 0xF3 else 0xC3

def scidSalt : Vector UInt32 4 := #v[0x428A2F98, 0x71374491, 0xB5C0FBCF, 0xE9B5DBA5]

def fillerByte (padBlock : Buf) (nowNs : Nat) (i : Nat) : UInt8 :=
  let timeGut := rotateLeft (UInt32.ofNat nowNs * 0x9E3779B9) 13
  byteAt padBlock ((i * 13) &&& 0x3F) ^^^ byteAt (toLeBytes timeGut) (i &&& 3)

def fixedDcid (keyInit : ChachaInit) (rounds : UInt8) : Buf :=
  let ks99 := chachaBlockFast keyInit 99 0 rounds
  toLeBytes (ks99.get 0) ++ toLeBytes (ks99.get 1)

def longEntropy (buf padBlock : Buf) (origLen wgOff : Nat) : Result Buf :=
  if origLen ≥ 64 then subslice buf (wgOff + 32) (wgOff + 64) else pure (slice padBlock 0 32)

def writeLongFields (buf : Buf) (wgType : UInt8) (wgIdx ppn encPorts : UInt32) (dcid padBlock : Buf)
    (nowNs : Nat) : Result Buf := do
  let buf ← fillBytes buf 1 (fun i => fillerByte padBlock nowNs (i + 1)) 1198
  let buf ← copyFromSlice buf 0 5 [longFirstByte wgType, 0x00, 0x00, 0x00, 0x01]
  let buf ← setByte buf 5 0x08
  let buf ← copyFromSlice buf 6 14 dcid
  let buf ← setByte buf 14 0x08
  let buf ← copyFromSlice buf 15 19 (toLeBytes ppn)
  let buf ← copyFromSlice buf 19 23 (toLeBytes (sipHash32 (wgIdx ^^^ 0x12345678) scidSalt))
  let buf ← setByte buf 23 0x04
  copyFromSlice buf 24 28 (toLeBytes encPorts)

def sealLongHeader (buf : Buf) (keys : QuicKeys) (ppn : UInt32) (frame : Buf) : Result Buf := do
  let quicPayloadLen := UInt16.ofNat (4 + frame.length + 16)
  let buf ← setByte buf 28 ((0x40 : UInt8) ||| (quicPayloadLen >>> 8).toUInt8)
  let buf ← setByte buf 29 (quicPayloadLen &&& 0xFF).toUInt8
  let nonce := xorAt keys.iv 8 (toBeBytes ppn)
  let header ← subslice buf 0 30
  let sealed := aes128GcmEncrypt (aes128ExpandKey keys.key) nonce (header ++ toBeBytes ppn) frame
  let buf ← copyFromSlice buf 34 (34 + frame.length) sealed.1
  copyFromSlice buf (34 + frame.length) (34 + frame.length + 16) sealed.2

def protectLongHeader (buf : Buf) (keys : QuicKeys) (ppn : UInt32) : Result Buf := do
  let sample ← subslice buf 34 50
  let hpMask := aes128EncryptBlock (aes128ExpandKey keys.hp) sample
  let buf ← copyFromSlice buf 30 34 (toBeBytes ppn)
  let first ← getByte buf 0
  let buf ← setByte buf 0 (first ^^^ (byteAt hpMask 0 &&& 0x0F))
  let pn ← subslice buf 30 34
  copyFromSlice buf 30 34 (xorAt pn 0 (slice hpMask 1 5))

def writeQuicLongHeader (buf : Buf) (wgType : UInt8) (wgIdx ppn encPorts : UInt32) (padLen origLen wgOff : Nat)
    (padBlock sipDomain : Buf) (keyInit : ChachaInit) (rounds : UInt8) (nowNs : Nat) : Result Buf := do
  let buf ← copyFromSlice buf 0 5 [longFirstByte wgType, 0x00, 0x00, 0x00, 0x01]
  let entropySource ← longEntropy buf padBlock origLen wgOff
  let dcid := fixedDcid keyInit rounds
  let buf ← writeLongFields buf wgType wgIdx ppn encPorts dcid padBlock nowNs
  let keys ← deriveQuicClientKeys dcid
  -- the frame is assembled in an array of 128 bytes
  let frame := cryptoFrame entropySource sipDomain
  let frame ← subslice (overwrite (List.replicate 128 0) 0 frame) 0 frame.length
  let buf ← sealLongHeader buf keys ppn frame
  let buf ← protectLongHeader buf keys ppn
  setByte buf 1199 (padByte padLen)

def payloadLenBytes (frame : Buf) : Buf :=
  let quicPayloadLen := UInt16.ofNat (4 + frame.length + 16)
  [(0x40 : UInt8) ||| (quicPayloadLen >>> 8).toUInt8] ++ [(quicPayloadLen &&& 0xFF).toUInt8]

def longFields (wgType : UInt8) (wgIdx ppn encPorts : UInt32) (dcid : Buf) : Buf :=
  [longFirstByte wgType, 0x00, 0x00, 0x00, 0x01] ++ [0x08] ++ dcid ++ [0x08] ++ toLeBytes ppn ++
    toLeBytes (sipHash32 (wgIdx ^^^ 0x12345678) scidSalt) ++ [0x04] ++ toLeBytes encPorts

def filler (padBlock : Buf) (nowNs : Nat) : Buf :=
  (List.range 1198).map fun i => fillerByte padBlock nowNs (i + 1)

def sealedFrame (keys : QuicKeys) (front : Buf) (ppn : UInt32) (frame : Buf) : Buf :=
  let sealed := aes128GcmEncrypt (aes128ExpandKey keys.key) (xorAt keys.iv 8 (toBeBytes ppn)) (front ++ toBeBytes ppn) frame
  sealed.1 ++ sealed.2

def hpMaskOf (keys : QuicKeys) (sealed : Buf) : Buf :=
  aes128EncryptBlock (aes128ExpandKey keys.hp) (sealed.take 16)

def protectedPn (ppn : UInt32) (hpMask : Buf) : Buf := xorAt (toBeBytes ppn) 0 (slice hpMask 1 5)

def protectedFirst (front hpMask : Buf) : UInt8 := byteAt front 0 ^^^ (byteAt hpMask 0 &&& 0x0F)

def quicLongHeader (keys : QuicKeys) (fields : Buf) (ppn : UInt32) (frame padBlock : Buf) (nowNs padLen : Nat) : Buf :=
  let front := fields ++ payloadLenBytes frame
  let sealed := sealedFrame keys front ppn frame
  let hpMask := hpMaskOf keys sealed
  overwrite front 0 [protectedFirst front hpMask] ++ protectedPn ppn hpMask ++ sealed ++
    (filler padBlock nowNs).drop (33 + sealed.length) ++ [padByte padLen]

theorem length_fixedDcid (keyInit : ChachaInit) (rounds : UInt8) : (fixedDcid keyInit rounds).length = 8 := by
  simp [fixedDcid]

@[simp] theorem length_filler (padBlock : Buf) (nowNs : Nat) : (filler padBlock nowNs).length = 1198 := by
  simp [filler]

@[simp] theorem length_payloadLenBytes (frame : Buf) : (payloadLenBytes frame).length = 2 := by
  simp [payloadLenBytes]

@[simp] theorem length_sealedFrame (keys : QuicKeys) (front : Buf) (ppn : UInt32) (frame : Buf) :
    (sealedFrame keys front ppn frame).length = frame.length + 16 := by
  simp [sealedFrame]

@[simp] theorem length_protectedPn (ppn : UInt32) (hpMask : Buf) : (protectedPn ppn hpMask).length = 4 := by
  simp [protectedPn]

theorem length_longFields (wgType : UInt8) (wgIdx ppn encPorts : UInt32) (dcid : Buf) (whole : dcid.length = 8) :
    (longFields wgType wgIdx ppn encPorts dcid).length = 28 := by
  simp [longFields, whole]

theorem length_quicLongHeader (keys : QuicKeys) (fields : Buf) (ppn : UInt32) (frame padBlock : Buf)
    (nowNs padLen : Nat) (fieldsLength : fields.length = 28) (short : frame.length ≤ 108) :
    (quicLongHeader keys fields ppn frame padBlock nowNs padLen).length = 1200 := by
  simp [quicLongHeader, fieldsLength]
  omega

theorem writeLongFields_ok (buf : Buf) (wgType : UInt8) (wgIdx ppn encPorts : UInt32) (dcid padBlock : Buf)
    (nowNs : Nat) (room : 1200 ≤ buf.length) (dcidLength : dcid.length = 8) :
    writeLongFields buf wgType wgIdx ppn encPorts dcid padBlock nowNs =
      .ok (overwrite (overwrite buf 1 (filler padBlock nowNs)) 0 (longFields wgType wgIdx ppn encPorts dcid)) := by
  unfold writeLongFields
  rw [fillBytes_ok _ _ _ _ (by omega), bind_ok]
  simp (disch := first | omega | (simp [dcidLength]; done) | (simp; omega)) only [copyFromSlice_ok, setByte_ok, bind_ok]
  simp (disch := simp [dcidLength]) only [overwrite_next]
  rfl

theorem sealLongHeader_ok (buf : Buf) (keys : QuicKeys) (ppn : UInt32) (frame : Buf) (room : 1200 ≤ buf.length)
    (short : frame.length ≤ 108) :
    sealLongHeader buf keys ppn frame =
      .ok (overwrite (overwrite buf 28 (payloadLenBytes frame)) 34
        (sealedFrame keys (slice (overwrite buf 28 (payloadLenBytes frame)) 0 30) ppn frame)) := by
  unfold sealLongHeader
  simp (disch := first | omega | (simp; done) | (simp; omega)) only [copyFromSlice_ok, setByte_ok, subslice_ok, bind_ok]
  simp (disch := simp) only [overwrite_next]
  rfl

theorem protectLongHeader_ok (buf : Buf) (keys : QuicKeys) (ppn : UInt32) (room : 1200 ≤ buf.length) :
    protectLongHeader buf keys ppn =
      .ok (overwrite (overwrite buf 0 [protectedFirst buf (hpMaskOf keys (buf.drop 34))]) 30
        (protectedPn ppn (hpMaskOf keys (buf.drop 34)))) := by
  have sample : slice buf 34 50 = (buf.drop 34).take 16 := rfl
  have first : byteAt (overwrite buf 30 (toBeBytes ppn)) 0 = byteAt buf 0 := by
    rw [byteAt_overwrite, if_neg (by omega)]
  have pn : ∀ x : UInt8, slice (overwrite (overwrite buf 30 (toBeBytes ppn)) 0 [x]) 30 34 = toBeBytes ppn := by
    intro x
    rw [overwrite_comm _ _ _ _ _ (by simp)]
    simpa using slice_overwrite_same (overwrite buf 0 [x]) 30 (toBeBytes ppn) (by simp; omega)
  unfold protectLongHeader
  simp (disch := first | omega | (simp; done) | (simp; omega)) only [copyFromSlice_ok, setByte_ok, subslice_ok, getByte_ok, bind_ok, first, pn]
  rw [overwrite_comm buf 0 30 _ _ (by simp), overwrite_cover _ 30 30 _ _ (by omega) (by simp)]
  rfl

theorem longEntropy_ok (buf padBlock : Buf) (origLen wgOff : Nat) (block : padBlock.length = 64)
    (inside : origLen ≥ 64 → wgOff + 64 ≤ buf.length) :
    ∃ entropy, longEntropy buf padBlock origLen wgOff = .ok entropy ∧ entropy.length = 32 := by
  unfold longEntropy
  split_ifs with enough
  · have bound := inside enough
    exact ⟨_, subslice_ok (by omega) bound, by simp; omega⟩
  · exact ⟨_, rfl, by simp [block]⟩

theorem frameArray_ok (frame : Buf) (short : frame.length ≤ 108) :
    subslice (overwrite (List.replicate 128 0) 0 frame) 0 frame.length = .ok frame := by
  have same := slice_overwrite_same (List.replicate 128 0) 0 frame (by simp; omega)
  rw [Nat.zero_add] at same
  rw [subslice_ok (by omega) (by simp; omega), same]

theorem longFields_writes (buf fields new padding : Buf) (fieldsLength : fields.length = 28)
    (newLength : new.length = 2) (whole : padding.length = 1198) :
    overwrite (overwrite (overwrite buf 1 padding) 0 fields) 28 new =
      overwrite buf 0 (fields ++ new ++ padding.drop 29) := by
  have next := overwrite_append_next fields (padding.drop 27) new (by simp; omega)
  rw [fieldsLength] at next
  rw [overwrite_front _ _ _ _ (by omega), overwrite_within _ _ _ _ (by simp; omega), fieldsLength, next,
    List.drop_drop, newLength]

-- the sealed frame goes behind the packet number, which is written last
theorem longHeader_writes (front sealed pn padding : Buf) (first : UInt8) (frontLength : front.length = 30)
    (pnLength : pn.length = 4) (short : sealed.length ≤ 124) (whole : padding.length = 1198) :
    overwrite (overwrite (overwrite (front ++ padding.drop 29) 34 sealed) 0 [first]) 30 pn =
      overwrite front 0 [first] ++ pn ++ sealed ++ padding.drop (33 + sealed.length) := by
  have at30 := overwrite_append_next (overwrite front 0 [first]) (padding.drop 29) pn (by simp; omega)
  rw [length_overwrite, frontLength] at at30
  have at34 := overwrite_append_next (overwrite front 0 [first] ++ pn) ((padding.drop 29).drop pn.length) sealed
    (by simp; omega)
  rw [List.length_append, length_overwrite, frontLength, pnLength] at at34
  rw [overwrite_comm _ 0 34 _ _ (by simp), overwrite_comm _ 30 34 _ _ (by omega),
    overwrite_append_left _ _ _ _ (by simp; omega), at30, pnLength, at34, List.drop_drop, List.drop_drop,
    show 29 + (4 + sealed.length) = 33 + sealed.length by omega]

theorem hpMaskOf_sealed (keys : QuicKeys) (buf sealed : Buf) (sample : 16 ≤ sealed.length)
    (room : 34 + sealed.length ≤ buf.length) :
    hpMaskOf keys ((overwrite buf 34 sealed).drop 34) = hpMaskOf keys sealed := by
  have before : (buf.take 34).length = 34 := by simp; omega
  rw [overwrite_eq_append _ _ _ room, List.append_assoc, List.drop_append_of_le_length (by omega),
    List.drop_eq_nil_of_le (by omega), List.nil_append, hpMaskOf, List.take_append_of_le_length sample, hpMaskOf]

theorem writeQuicLongHeader_ok (buf : Buf) (wgType : UInt8) (wgIdx ppn encPorts : UInt32)
    (padLen origLen wgOff : Nat) (padBlock sipDomain : Buf) (keyInit : ChachaInit) (rounds : UInt8) (nowNs : Nat)
    (room : 1200 ≤ buf.length) (block : padBlock.length = 64) (inside : origLen ≥ 64 → wgOff + 64 ≤ buf.length) :
    ∃ keys entropy, entropy.length = 32 ∧
      writeQuicLongHeader buf wgType wgIdx ppn encPorts padLen origLen wgOff padBlock sipDomain keyInit rounds nowNs =
        .ok (quicLongHeader keys (longFields wgType wgIdx ppn encPorts (fixedDcid keyInit rounds)) ppn
          (cryptoFrame entropy sipDomain) padBlock nowNs padLen ++ buf.drop 1200) := by
  obtain ⟨keys, derived, -⟩ := deriveQuicClientKeys_ok (fixedDcid keyInit rounds)
  obtain ⟨entropy, source, whole⟩ := longEntropy_ok
    (overwrite buf 0 [longFirstByte wgType, 0x00, 0x00, 0x00, 0x01]) padBlock origLen wgOff block (by simpa using inside)
  have frameLength := length_cryptoFrame entropy sipDomain whole
  have dcidLength := length_fixedDcid keyInit rounds
  have fieldsLength := length_longFields wgType wgIdx ppn encPorts _ dcidLength
  refine ⟨keys, entropy, whole, ?_⟩
  unfold writeQuicLongHeader
  dsimp only
  rw [copyFromSlice_ok (by simp) (by omega), bind_ok, source, bind_ok,
    writeLongFields_ok _ _ _ _ _ _ _ _ (by simpa using room) dcidLength, bind_ok, derived, bind_ok,
    frameArray_ok _ frameLength.2, bind_ok, sealLongHeader_ok _ _ _ _ (by simpa using room) frameLength.2, bind_ok,
    protectLongHeader_ok _ _ _ (by simpa using room), bind_ok, setByte_ok _ (by simp; omega)]
  generalize cryptoFrame entropy sipDomain = frame at *
  generalize longFields wgType wgIdx ppn encPorts (fixedDcid keyInit rounds) = fields at *
  rw [longFields_writes _ _ _ _ fieldsLength (by simp) (by simp)]
  have covered : overwrite (overwrite buf 0 [longFirstByte wgType, 0x00, 0x00, 0x00, 0x01]) 0
      (fields ++ payloadLenBytes frame ++ (filler padBlock nowNs).drop 29) =
      overwrite buf 0 (fields ++ payloadLenBytes frame ++ (filler padBlock nowNs).drop 29) :=
    overwrite_cover _ _ _ _ _ (by omega) (by simp)
  have frontLength : (fields ++ payloadLenBytes frame).length = 30 := by simp [fieldsLength]
  rw [covered]
  generalize frontEq : fields ++ payloadLenBytes frame = front at *
  have header : slice (overwrite buf 0 (front ++ (filler padBlock nowNs).drop 29)) 0 30 = front := by
    rw [overwrite_zero _ _ (by simp; omega), slice_zero, List.append_assoc, ← frontLength, List.take_left']
    rfl
  have first : ∀ mask, protectedFirst (overwrite (overwrite buf 0 (front ++ (filler padBlock nowNs).drop 29)) 34
      (sealedFrame keys front ppn frame)) mask = protectedFirst front mask := by
    intro mask
    rw [protectedFirst, byteAt_overwrite, if_neg (by omega), byteAt_overwrite, if_pos (by simp; omega), byteAt_append,
      if_pos (by omega), Nat.sub_zero, protectedFirst]
  rw [header, hpMaskOf_sealed _ _ _ (by simp) (by simp; omega), first, overwrite_within _ 34 _ _ (by simp; omega),
    overwrite_within _ 0 _ _ (by simp), overwrite_within _ 30 _ _ (by simp),
    longHeader_writes _ _ _ _ _ frontLength (by simp) (by simp; omega) (by simp),
    overwrite_next _ _ _ _ _ (by simp; omega), overwrite_zero _ _ (by simp; omega)]
  have total := length_quicLongHeader keys fields ppn frame padBlock nowNs padLen fieldsLength frameLength.2
  simp only [quicLongHeader, frontEq] at total ⊢
  rw [total]

theorem byteAt_quicLongHeader_fields (keys : QuicKeys) (fields : Buf) (ppn : UInt32) (frame padBlock : Buf)
    (nowNs padLen : Nat) (i : Nat) (notFirst : 0 < i) (inside : i < fields.length) :
    byteAt (quicLongHeader keys fields ppn frame padBlock nowNs padLen) i = byteAt fields i := by
  simp only [quicLongHeader, List.append_assoc]
  rw [byteAt_append, if_pos (by simp; omega), byteAt_overwrite, if_neg (by simp; omega), byteAt_append, if_pos inside]

theorem le32At_quicLongHeader_fields (keys : QuicKeys) (fields : Buf) (ppn : UInt32) (frame padBlock : Buf)
    (nowNs padLen : Nat) (off : Nat) (notFirst : 0 < off) (inside : off + 4 ≤ fields.length) :
    le32At (quicLongHeader keys fields ppn frame padBlock nowNs padLen) off = le32At fields off := by
  apply le32At_congr
  intro k bounded
  exact byteAt_quicLongHeader_fields keys fields ppn frame padBlock nowNs padLen (off + k) (by omega) (by omega)

theorem quicLongHeader_padByte (keys : QuicKeys) (fields : Buf) (ppn : UInt32) (frame padBlock : Buf)
    (nowNs padLen : Nat) (fieldsLength : fields.length = 28) (short : frame.length ≤ 108) :
    byteAt (quicLongHeader keys fields ppn frame padBlock nowNs padLen) 1199 = padByte padLen := by
  have total := length_quicLongHeader keys fields ppn frame padBlock nowNs padLen fieldsLength short
  simp only [quicLongHeader] at total ⊢
  generalize overwrite _ 0 _ ++ _ ++ _ ++ _ = front at *
  have last : 1199 - front.length = 0 := by simp at total; omega
  rw [byteAt_append, if_neg (by simp at total; omega), last]
  rfl

-- header protection touches only the low four bits of the first byte
theorem quicLongHeader_first (keys : QuicKeys) (wgType : UInt8) (wgIdx ppn encPorts : UInt32) (dcid : Buf)
    (frame padBlock : Buf) (nowNs padLen : Nat) :
    byteAt (quicLongHeader keys (longFields wgType wgIdx ppn encPorts dcid) ppn frame padBlock nowNs padLen) 0 &&& 0xC0 =
      0xC0 := by
  have low : ∀ h : UInt8, (h &&& 0x0F) &&& 0xC0 = 0 := by
    intro h
    rw [UInt8.and_assoc]
    exact UInt8.and_zero
  have high : longFirstByte wgType &&& 0xC0 = 0xC0 := by
    simp only [longFirstByte]
    split_ifs <;> decide
  simp only [quicLongHeader, List.append_assoc]
  rw [byteAt_append, if_pos (by simp [longFields]), byteAt_overwrite, if_pos (by simp [longFields])]
  change (longFirstByte wgType ^^^ _) &&& 0xC0 = 0xC0
  rw [xor_and_distrib, low, high, UInt8.xor_zero]

theorem longFields_reads (wgType : UInt8) (wgIdx ppn encPorts : UInt32) (keyInit : ChachaInit) (rounds : UInt8) :
    let fields := longFields wgType wgIdx ppn encPorts (fixedDcid keyInit rounds)
    let ks99 := chachaBlockFast keyInit 99 0 rounds
    byteAt fields 5 = 0x08 ∧ le32At fields 6 = ks99.get 0 ∧ le32At fields 10 = ks99.get 1 ∧
      le32At fields 15 = ppn ∧ le32At fields 24 = encPorts := by
  refine ⟨rfl, ?_, ?_, ?_, ?_⟩
  · exact le32_toLeBytes _
  · exact le32_toLeBytes _
  · exact le32_toLeBytes _
  · exact le32_toLeBytes _

end Gutd.Userspace
