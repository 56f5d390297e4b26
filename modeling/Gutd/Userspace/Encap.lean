import Gutd.Config
import Gutd.Userspace.LongHeader

set_option autoImplicit false

-- `obfs_encap` of `userspace.rs`.

namespace Gutd.Userspace

open Bytes Checked Wire

def wgNonce32 (wg : Buf) : Result UInt32 :=
  if wg.length < 32 then pure 0
  else do
    let n0 ← readLe32 wg 16
    let n1 ← readLe32 wg 20
    let n2 ← readLe32 wg 24
    let n3 ← readLe32 wg 28
    pure (n0 ^^^ n1 ^^^ n2 ^^^ n3)

def xor16 (buf : Buf) (off : Nat) (k : Buf) : Result Buf := do
  let _ ← subslice buf off (off + 16)
  let mask ← subslice k 0 16
  pure (xorAt buf off mask)

def quicHdrLen (obfs : ObfsMode) (wgType : UInt8) (isServer : Bool) : Nat :=
  if obfs ≠ .quic then gutHeaderSize
  else if wgType = 3 then gutQuicLongHeaderSize
  else if isServer then gutQuicShortHeaderSize
  else if wgType = 1 then gutQuicLongHeaderSize
  else gutQuicShortHeaderSize

def readWgIdx (buf : Buf) (wgType : UInt8) (origLen : Nat) : Result UInt32 :=
  if wgType = 2 ∧ origLen ≥ 12 then readLe32 buf 8
  else if origLen ≥ 8 then readLe32 buf 4
  else pure 0

def xorMac2 (buf : Buf) (wgOff : Nat) (wgType : UInt8) (len : Nat) (ks47B : Buf) : Result Buf :=
  if wgType = 1 ∧ len ≥ 148 then xor16 buf (wgOff + 132) (slice ks47B 16 32)
  else if wgType = 2 ∧ len ≥ 92 then xor16 buf (wgOff + 76) (slice ks47B 16 32)
  else pure buf

def encapPadLen (obfs : ObfsMode) (hdrLen origLen : Nat) (padBlock : Buf) : Nat :=
  if obfs = .gut then
    if origLen < 256 then
      let remainder := (8 + hdrLen + origLen) % 16
      if remainder ≠ 0 then 16 - remainder else 0
    else 0
  else if obfs = .quic ∧ origLen ≥ 220 then 0
  else if (obfs = .syslog ∨ obfs = .sip) ∧ origLen ≥ 220 then min (byteAt padBlock 63 &&& 0x0F).toNat 14 + 1
  else if obfs = .quic then (byteAt padBlock 63 &&& 0x3F).toNat + 1
  else (byteAt padBlock 63 &&& 0x1F).toNat + 1

def writePadding (buf : Buf) (hdrLen origLen padLen : Nat) (padBlock : Buf) : Result Buf :=
  if padLen > 0 then do
    let buf ← fillBytes buf (hdrLen + origLen) (fun i => byteAt padBlock (i &&& 0x3F)) padLen
    setByte buf (hdrLen - 1) ((0x40 : UInt8) ||| UInt8.ofNat (padLen - 1))
  else setByte buf (hdrLen - 1) 0x00

def writeGutHeader (buf : Buf) (ppn encPorts : UInt32) (padLen : Nat) : Result Buf := do
  let buf ← copyFromSlice buf 0 4 (toLeBytes ppn)
  let buf ← copyFromSlice buf 4 8 (toLeBytes encPorts)
  let buf ← setByte buf 8 0x00
  setByte buf 9 (padByte padLen)

def writeQuicShortHeader (buf : Buf) (dcid ppn encPorts : UInt32) (padLen : Nat) : Result Buf := do
  let buf ← setByte buf 0 0x40
  let buf ← copyFromSlice buf 1 5 (toLeBytes dcid)
  let buf ← setByte buf 5 0x01
  let buf ← copyFromSlice buf 6 10 (toLeBytes ppn)
  let buf ← copyFromSlice buf 10 14 (toLeBytes encPorts)
  let buf ← setByte buf 14 0x00
  setByte buf 15 (padByte padLen)

def writeHeader (buf : Buf) (hdrLen : Nat) (wgType : UInt8) (wgIdx dcid ppn encPorts : UInt32) (padLen origLen : Nat)
    (padBlock sipDomain : Buf) (key : ChachaInit) (rounds : UInt8) (nowNs : Nat) : Result Buf :=
  if hdrLen = gutHeaderSize then writeGutHeader buf ppn encPorts padLen
  else if hdrLen = gutQuicShortHeaderSize then writeQuicShortHeader buf dcid ppn encPorts padLen
  else writeQuicLongHeader buf wgType wgIdx ppn encPorts padLen origLen hdrLen padBlock sipDomain key rounds nowNs

def obfsEncap (order : ByteOrder) (buf : Buf) (origLen : Nat) (key : ChachaInit) (rounds : UInt8) (isServer : Bool)
    (wgSport wgDport : UInt16) (obfs : ObfsMode) (sipDomain : Buf) (nowNs : Nat) :
    Result (Buf × Option (Nat × UInt32)) :=
  if origLen < 16 then pure (buf, none)
  else do
    let first ← getByte buf 0
    let wgType := first &&& 0x1F
    let hdrLen := quicHdrLen obfs wgType isServer
    let wgIdx ← readWgIdx buf wgType origLen
    -- the nonce is taken from the plain payload, which the masking leaves in place
    let plain ← subslice buf 0 origLen
    let nonce ← wgNonce32 plain
    let buf ← copyWithin buf 0 origLen hdrLen
    let ks47 := chachaBlockFast key 47 nonce rounds
    let ks47B := blockBytes order ks47
    let buf ← xor16 buf hdrLen (slice ks47B 0 16)
    let buf ← xorMac2 buf hdrLen wgType origLen ks47B
    let encPorts := packPorts wgSport wgDport ^^^ ks47.get 11
    let ppn := ks47.get 10
    let padBlock := blockBytes order (chachaBlockFast key 69 nonce rounds)
    let padLen := encapPadLen obfs hdrLen origLen padBlock
    let buf ← writePadding buf hdrLen origLen padLen padBlock
    let dcid := ks47.get 9
    let buf ← writeHeader buf hdrLen wgType wgIdx dcid ppn encPorts padLen origLen padBlock sipDomain key rounds nowNs
    pure (buf, some (hdrLen + origLen + padLen, dcid))

theorem wgNonce32_ok (wg : Buf) : wgNonce32 wg = .ok (nonceOf wg) := by
  unfold wgNonce32 nonceOf
  split_ifs with short
  · rfl
  · simp (disch := omega) only [readLe32_ok, bind_ok, pure_eq_ok]

theorem readWgIdx_ok (buf : Buf) (wgType : UInt8) (origLen : Nat) (inside : origLen ≤ buf.length) :
    ∃ idx, readWgIdx buf wgType origLen = .ok idx := by
  unfold readWgIdx
  split_ifs with response plain
  · exact ⟨_, readLe32_ok (by omega)⟩
  · exact ⟨_, readLe32_ok (by omega)⟩
  · exact ⟨0, rfl⟩

theorem xor16_ok (buf : Buf) (off : Nat) (k : Buf) (inside : off + 16 ≤ buf.length) (whole : k.length = 16) :
    xor16 buf off k = .ok (xorAt buf off k) := by
  unfold xor16
  rw [subslice_ok (by omega) inside, bind_ok, subslice_ok (by omega) (by omega), bind_ok, ← whole, slice_zero_length]
  rfl

theorem xorMac2_ok (front w rest ks : Buf) (wgType : UInt8) (block : ks.length = 64) :
    xorMac2 (front ++ (w ++ rest)) front.length wgType w.length ks =
      .ok (front ++ (maskMac2 ks wgType w ++ rest)) := by
  have whole : (slice ks 16 32).length = 16 := by simp [block]
  unfold xorMac2 maskMac2 mac2Off
  split_ifs with init response
  · rw [xor16_ok _ _ _ (by simp; omega) whole, xorAt_middle _ _ _ _ _ (by omega)]
  · rw [xor16_ok _ _ _ (by simp; omega) whole, xorAt_middle _ _ _ _ _ (by omega)]
  · rfl

def padBytes (padBlock : Buf) (padLen : Nat) : Buf :=
  (List.range padLen).map fun i => byteAt padBlock (i &&& 0x3F)

@[simp] theorem length_padBytes (padBlock : Buf) (padLen : Nat) : (padBytes padBlock padLen).length = padLen := by
  simp [padBytes]

theorem writePadding_ok (front m rest : Buf) (padLen : Nat) (padBlock : Buf) (header : 0 < front.length)
    (room : padLen ≤ rest.length) :
    ∃ front', front'.length = front.length ∧
      writePadding (front ++ (m ++ rest)) front.length m.length padLen padBlock =
        .ok (front' ++ (m ++ (padBytes padBlock padLen ++ rest.drop padLen))) := by
  unfold writePadding
  split_ifs with some
  · have written : overwrite (front ++ (m ++ rest)) (front.length + m.length) (padBytes padBlock padLen) =
        front ++ (m ++ (padBytes padBlock padLen ++ rest.drop padLen)) := by
      have next := overwrite_append_next (front ++ m) rest (padBytes padBlock padLen) (by simpa using room)
      simpa [List.append_assoc] using next
    refine ⟨overwrite front (front.length - 1) [(0x40 : UInt8) ||| UInt8.ofNat (padLen - 1)], by simp, ?_⟩
    rw [fillBytes_ok _ _ _ _ (by simp; omega), bind_ok]
    change setByte (overwrite _ _ (padBytes padBlock padLen)) _ _ = _
    rw [written, setByte_ok _ (by simp; omega), overwrite_append_left _ _ _ _ (by simp; omega)]
  · have none : padLen = 0 := by omega
    refine ⟨overwrite front (front.length - 1) [0x00], by simp, ?_⟩
    rw [setByte_ok _ (by simp; omega), overwrite_append_left _ _ _ _ (by simp; omega), none]
    simp [padBytes]

theorem writeGutHeader_ok (front rest : Buf) (ppn encPorts : UInt32) (padLen : Nat) (whole : front.length = 10) :
    writeGutHeader (front ++ rest) ppn encPorts padLen = .ok (gutHeader ppn encPorts padLen ++ rest) := by
  unfold writeGutHeader
  simp (disch := first | (simp; done) | (simp; omega)) only [copyFromSlice_ok, setByte_ok, bind_ok]
  simp (disch := simp) only [overwrite_next]
  change Except.ok (overwrite (front ++ rest) 0 (gutHeader ppn encPorts padLen)) = _
  rw [overwrite_whole _ _ _ (by simp [gutHeader, whole])]

theorem writeQuicShortHeader_ok (front rest : Buf) (dcid ppn encPorts : UInt32) (padLen : Nat)
    (whole : front.length = 16) :
    writeQuicShortHeader (front ++ rest) dcid ppn encPorts padLen =
      .ok (quicShortHeader dcid ppn encPorts padLen ++ rest) := by
  unfold writeQuicShortHeader
  simp (disch := first | (simp; done) | (simp; omega)) only [copyFromSlice_ok, setByte_ok, bind_ok]
  simp (disch := simp) only [overwrite_next]
  change Except.ok (overwrite (front ++ rest) 0 (quicShortHeader dcid ppn encPorts padLen)) = _
  rw [overwrite_whole _ _ _ (by simp [quicShortHeader, whole])]

def encapForm (obfs : ObfsMode) (wgType : UInt8) (isServer : Bool) : Form :=
  if obfs ≠ .quic then .gut
  else if wgType = 3 then .quicLong
  else if isServer then .quicShort
  else if wgType = 1 then .quicLong
  else .quicShort

theorem headerLen_encapForm (obfs : ObfsMode) (wgType : UInt8) (isServer : Bool) :
    quicHdrLen obfs wgType isServer = (encapForm obfs wgType isServer).headerLen := by
  unfold quicHdrLen encapForm
  split_ifs <;> rfl

def encapPad (ch : Channel) (obfs : ObfsMode) (form : Form) (w : Buf) : Buf :=
  padBytes (ch.padBlock w) (encapPadLen obfs form.headerLen w.length (ch.padBlock w))

theorem toNat_and_le (b m : UInt8) : (b &&& m).toNat ≤ m.toNat := by
  rw [UInt8.toNat_and]
  exact Nat.and_le_right

theorem encapPadLen_le (obfs : ObfsMode) (hdrLen origLen : Nat) (padBlock : Buf) :
    encapPadLen obfs hdrLen origLen padBlock ≤ 64 := by
  have quic : (byteAt padBlock 63 &&& 0x3F).toNat ≤ 63 := toNat_and_le _ _
  have text : (byteAt padBlock 63 &&& 0x1F).toNat ≤ 31 := toNat_and_le _ _
  unfold encapPadLen
  dsimp only
  split_ifs <;> omega

theorem length_encapPad (ch : Channel) (obfs : ObfsMode) (form : Form) (w : Buf) :
    (encapPad ch obfs form w).length ≤ 64 := by
  simpa [encapPad] using encapPadLen_le obfs form.headerLen w.length (ch.padBlock w)

theorem length_encapPad_text (ch : Channel) {obfs : ObfsMode} (text : obfs = .syslog ∨ obfs = .sip) (form : Form) (w : Buf) :
    1 ≤ (encapPad ch obfs form w).length ∧ (encapPad ch obfs form w).length ≤ 32 ∧
      (220 ≤ w.length → (encapPad ch obfs form w).length ≤ 15) := by
  have low : ∀ b : UInt8, (b &&& 0x1F).toNat ≤ 31 := forall_byte (by decide)
  have bounded := low (byteAt (ch.padBlock w) 63)
  have length : (encapPad ch obfs form w).length = encapPadLen obfs form.headerLen w.length (ch.padBlock w) := by
    rw [encapPad, length_padBytes]
  unfold encapPadLen at length
  rcases text with rfl | rfl <;> simp only [reduceCtorEq, true_or, or_true, true_and, false_and, if_false] at length <;>
    split_ifs at length <;> omega

theorem writeHeader_ok (ch : Channel) (form : Form) (w front rest : Buf) (sport dport : UInt16) (padLen origLen : Nat)
    (wgType : UInt8) (wgIdx : UInt32) (padBlock sipDomain : Buf) (nowNs : Nat) (exact : front.length = form.headerLen)
    (block : padBlock.length = 64) (inside : origLen ≤ rest.length) (padding : padLen ≤ 64) :
    ∃ header, header.length = form.headerLen ∧ HeaderFor ch form w sport dport padLen header ∧
      (form = .gut → header = gutHeader ((ch.ks47 w).get 10) (packPorts sport dport ^^^ (ch.ks47 w).get 11) padLen) ∧
      writeHeader (front ++ rest) form.headerLen wgType wgIdx ((ch.ks47 w).get 9) ((ch.ks47 w).get 10)
        (packPorts sport dport ^^^ (ch.ks47 w).get 11) padLen origLen padBlock sipDomain ch.key ch.rounds nowNs =
        .ok (header ++ rest) := by
  cases form with
  | gut =>
      refine ⟨_, rfl, gutHeader_header ch w sport dport padding, fun _ => rfl, ?_⟩
      exact writeGutHeader_ok front rest _ _ _ exact
  | quicShort =>
      refine ⟨_, rfl, quicShortHeader_header ch w sport dport padding, nofun, ?_⟩
      exact writeQuicShortHeader_ok front rest _ _ _ _ exact
  | quicLong =>
      have length : front.length = 1200 := exact
      obtain ⟨keys, entropy, whole, done⟩ := writeQuicLongHeader_ok (front ++ rest) wgType wgIdx ((ch.ks47 w).get 10)
        (packPorts sport dport ^^^ (ch.ks47 w).get 11) padLen origLen 1200 padBlock sipDomain ch.key ch.rounds nowNs
        (by simp; omega) block (by simp; omega)
      have frame := length_cryptoFrame entropy sipDomain whole
      have dcid := length_fixedDcid ch.key ch.rounds
      have fields := length_longFields wgType wgIdx ((ch.ks47 w).get 10) (packPorts sport dport ^^^ (ch.ks47 w).get 11) _ dcid
      have total := length_quicLongHeader keys _ ((ch.ks47 w).get 10) _ padBlock nowNs padLen fields frame.2
      obtain ⟨marker, first, second, ppn, ports⟩ := longFields_reads wgType wgIdx ((ch.ks47 w).get 10)
        (packPorts sport dport ^^^ (ch.ks47 w).get 11) ch.key ch.rounds
      refine ⟨_, total, ⟨Nat.le_of_eq total.symm, ?_, ?_, ?_, ?_, ?_, ?_, ?_⟩, nofun, ?_⟩
      · exact (le32At_quicLongHeader_fields _ _ _ _ _ _ _ 15 (by omega) (by omega)).trans ppn
      · exact (le32At_quicLongHeader_fields _ _ _ _ _ _ _ 24 (by omega) (by omega)).trans ports
      · rw [Form.headerLen, quicLongHeader_padByte _ _ _ _ _ _ _ fields frame.2, ballastLen_padByte _ padding]
      · exact quicLongHeader_first _ _ _ _ _ _ _ _ _ _
      · exact (byteAt_quicLongHeader_fields _ _ _ _ _ _ _ 5 (by omega) (by omega)).trans marker
      · exact (le32At_quicLongHeader_fields _ _ _ _ _ _ _ 6 (by omega) (by omega)).trans first
      · exact (le32At_quicLongHeader_fields _ _ _ _ _ _ _ 10 (by omega) (by omega)).trans second
      · have rest' : (front ++ rest).drop 1200 = rest := by rw [← length, List.drop_left]
        rw [rest'] at done
        exact done

theorem typeOf_take (buf : Buf) (n : Nat) (some : 0 < n) : typeOf (buf.take n) = byteAt buf 0 &&& 0x1F := by
  rw [typeOf, byteAt_take, if_pos some]

theorem obfsEncap_ok (ch : Channel) (buf : Buf) (n : Nat) (isServer : Bool) (sport dport : UInt16) (obfs : ObfsMode)
    (sipDomain : Buf) (nowNs : Nat) (w pad : Buf) (form : Form) (enough : 16 ≤ n) (payload : w = buf.take n)
    (chosen : form = encapForm obfs (typeOf w) isServer) (padded : pad = encapPad ch obfs form w)
    (room : form.headerLen + n + pad.length ≤ buf.length) :
    ∃ header, header.length = form.headerLen ∧ HeaderFor ch form w sport dport pad.length header ∧
      (form = .gut → header = gutHeader ((ch.ks47 w).get 10) (packPorts sport dport ^^^ (ch.ks47 w).get 11) pad.length) ∧
      obfsEncap ch.order buf n ch.key ch.rounds isServer sport dport obfs sipDomain nowNs =
        .ok (header ++ (mask (ch.keystream w) w ++ (pad ++ buf.drop (form.headerLen + n + pad.length))),
          some (form.headerLen + n + pad.length, (ch.ks47 w).get 9)) := by
  have wLength : w.length = n := by simp [payload]; omega
  have type : byteAt buf 0 &&& 0x1F = typeOf w := by rw [payload, typeOf_take _ _ (by omega)]
  have plain : slice buf 0 n = w := by rw [slice_zero, payload]
  have hdr : quicHdrLen obfs (typeOf w) isServer = form.headerLen := by rw [chosen, headerLen_encapForm]
  have positive : 0 < form.headerLen := by cases form <;> decide
  have keystream : blockBytes ch.order (ch.ks47 w) = ch.keystream w := rfl
  have ks47 : chachaBlockFast ch.key 47 (nonceOf w) ch.rounds = ch.ks47 w := rfl
  have padBlock : blockBytes ch.order (chachaBlockFast ch.key 69 (nonceOf w) ch.rounds) = ch.padBlock w := rfl
  have padLength : encapPadLen obfs form.headerLen n (ch.padBlock w) = pad.length := by
    simp [padded, encapPad, wLength]
  have padBytes : padBytes (ch.padBlock w) pad.length = pad := by rw [← padLength, ← wLength, padded, encapPad]
  obtain ⟨idx, index⟩ := readWgIdx_ok buf (typeOf w) n (by omega)
  have moved : copyWithin buf 0 n form.headerLen =
      .ok (buf.take form.headerLen ++ (w ++ buf.drop (form.headerLen + n))) := by
    rw [copyWithin_ok (by omega) (by omega) (by omega), plain, overwrite_eq_append _ _ _ (by omega), wLength,
      List.append_assoc]
  have front : (buf.take form.headerLen).length = form.headerLen := by simp; omega
  have mask16 : xor16 (buf.take form.headerLen ++ (w ++ buf.drop (form.headerLen + n))) form.headerLen
      (slice (ch.keystream w) 0 16) =
      .ok (buf.take form.headerLen ++ (xorAt w 0 (slice (ch.keystream w) 0 16) ++ buf.drop (form.headerLen + n))) := by
    have middle := xorAt_middle (buf.take form.headerLen) w (buf.drop (form.headerLen + n))
      (slice (ch.keystream w) 0 16) 0 (by simp [Channel.keystream]; omega)
    rw [front, Nat.add_zero] at middle
    rw [xor16_ok _ _ _ (by simp; omega) (by simp [Channel.keystream]), middle]
  have mac2 := xorMac2_ok (buf.take form.headerLen) (xorAt w 0 (slice (ch.keystream w) 0 16))
    (buf.drop (form.headerLen + n)) (ch.keystream w) (typeOf w) (by simp [Channel.keystream])
  rw [front, length_xorAt, wLength, ← mask] at mac2
  obtain ⟨front', frontLength, written⟩ := writePadding_ok (buf.take form.headerLen) (mask (ch.keystream w) w)
    (buf.drop (form.headerLen + n)) pad.length (ch.padBlock w) (by omega) (by simp; omega)
  rw [front, length_mask, wLength, List.drop_drop, padBytes] at written
  rw [front] at frontLength
  obtain ⟨header, exact, reads, gut, headed⟩ := writeHeader_ok ch form w front'
    (mask (ch.keystream w) w ++ (pad ++ buf.drop (form.headerLen + n + pad.length))) sport dport pad.length n (typeOf w)
    idx (ch.padBlock w) sipDomain nowNs frontLength (by simp [Channel.padBlock]) (by simp; omega)
    (padded ▸ length_encapPad ch obfs form w)
  refine ⟨header, exact, reads, gut, ?_⟩
  unfold obfsEncap
  rw [if_neg (by omega), getByte_ok (by omega), bind_ok]
  simp only [type, hdr]
  rw [index, bind_ok, subslice_ok (by omega) (by omega), bind_ok, plain, wgNonce32_ok, bind_ok, moved, bind_ok]
  simp only [ks47, keystream, padBlock, padLength]
  rw [mask16, bind_ok, mac2, bind_ok, written, bind_ok, headed, bind_ok, pure_eq_ok]

theorem length_xor16 {buf out : Buf} {off : Nat} {k : Buf} (done : xor16 buf off k = .ok out) :
    out.length = buf.length := by
  obtain ⟨_, -, later⟩ := bind_eq_ok.mp done
  obtain ⟨mask, -, result⟩ := bind_eq_ok.mp later
  cases result
  simp

theorem length_xorMac2 {buf out : Buf} {wgOff : Nat} {wgType : UInt8} {len : Nat} {ks47B : Buf}
    (done : xorMac2 buf wgOff wgType len ks47B = .ok out) : out.length = buf.length := by
  unfold xorMac2 at done
  split_ifs at done
  · exact length_xor16 done
  · exact length_xor16 done
  · cases done
    rfl

theorem writePadding_room {buf out : Buf} {hdrLen origLen padLen : Nat} {padBlock : Buf}
    (inside : hdrLen + origLen ≤ buf.length) (done : writePadding buf hdrLen origLen padLen padBlock = .ok out) :
    hdrLen + origLen + padLen ≤ buf.length := by
  unfold writePadding at done
  split_ifs at done with some
  · obtain ⟨_, filled, -⟩ := bind_eq_ok.mp done
    have room := (fillBytes_inside filled).1
    omega
  · omega

theorem obfsEncap_room (ch : Channel) {buf out : Buf} {n : Nat} {isServer : Bool} {sport dport : UInt16}
    {obfs : ObfsMode} {sipDomain : Buf} {nowNs : Nat} {result : Nat × UInt32} {w : Buf} {form : Form}
    (payload : w = buf.take n) (chosen : form = encapForm obfs (typeOf w) isServer)
    (done : obfsEncap ch.order buf n ch.key ch.rounds isServer sport dport obfs sipDomain nowNs =
      .ok (out, some result)) :
    16 ≤ n ∧ form.headerLen + n + (encapPad ch obfs form w).length ≤ buf.length := by
  unfold obfsEncap at done
  split_ifs at done with short
  · cases done
  · obtain ⟨first, gotFirst, done⟩ := bind_eq_ok.mp done
    obtain ⟨idx, -, done⟩ := bind_eq_ok.mp done
    obtain ⟨plain, gotPlain, done⟩ := bind_eq_ok.mp done
    obtain ⟨nonce, gotNonce, done⟩ := bind_eq_ok.mp done
    obtain ⟨moved, gotMoved, done⟩ := bind_eq_ok.mp done
    obtain ⟨masked, gotMasked, done⟩ := bind_eq_ok.mp done
    obtain ⟨mac2, gotMac2, done⟩ := bind_eq_ok.mp done
    obtain ⟨padded, gotPadded, -⟩ := bind_eq_ok.mp done
    obtain ⟨inside, room, lengthMoved⟩ := copyWithin_inside gotMoved
    have lengthMac2 : mac2.length = buf.length := by
      rw [length_xorMac2 gotMac2, length_xor16 gotMasked, lengthMoved]
    have firstByte : first &&& 0x1F = typeOf w := by
      rw [getByte_ok (by omega)] at gotFirst
      cases gotFirst
      rw [payload, typeOf_take _ _ (by omega)]
    have message : nonce = nonceOf w := by
      rw [subslice_ok (by omega) inside] at gotPlain
      cases gotPlain
      rw [wgNonce32_ok, slice_zero, ← payload] at gotNonce
      cases gotNonce
      rfl
    have wLength : w.length = n := by simp [payload]; omega
    have header : quicHdrLen obfs (first &&& 0x1F) isServer = form.headerLen := by
      rw [firstByte, chosen, headerLen_encapForm]
    rw [header, message] at gotPadded
    rw [header] at room
    have total := writePadding_room (by omega) gotPadded
    refine ⟨by omega, ?_⟩
    rw [encapPad, length_padBytes, wLength]
    rw [lengthMac2] at total
    exact total

end Gutd.Userspace
