import Gutd.Userspace.Encap

set_option autoImplicit false

-- `obfs_verify` and `obfs_decap` of `userspace.rs`. Both find the header form from the first bytes, but not by the
-- same test.

namespace Gutd.Userspace

open Bytes Checked Wire

def verifyHdrLen (buf : Buf) (obfs : ObfsMode) : Result (Option Nat) := do
  let firstByte ← getByte buf 0
  if obfs ≠ .quic then pure (some gutHeaderSize)
  else if firstByte &&& 0xC0 = 0xC0 then
    pure (if buf.length ≤ 5 ∨ byteAt buf 5 ≠ 0x08 then none else some gutQuicLongHeaderSize)
  else if firstByte &&& 0x40 = 0x40 then
    pure (if buf.length ≤ 5 ∨ byteAt buf 5 ≠ 0x01 then none else some gutQuicShortHeaderSize)
  else pure none

def verifyHeader (buf : Buf) (hdrLen : Nat) (key : ChachaInit) (rounds : UInt8) (obfs : ObfsMode) (ks47 : Block) :
    Result Bool :=
  if obfs ≠ .quic then do
    let pktPpn ← readLe32 buf 0
    pure (pktPpn == ks47.get 10)
  else if hdrLen = gutQuicShortHeaderSize then do
    let pktDcid ← readLe32 buf 1
    let pktPpn ← readLe32 buf 6
    pure (pktDcid == ks47.get 9 && pktPpn == ks47.get 10)
  else if buf.length < 20 then pure false
  else do
    let ks99 := chachaBlockFast key 99 0 rounds
    let pktDcid ← readLe32 buf 6
    let pktPpn ← readLe32 buf 15
    pure (pktDcid == ks99.get 0 && pktPpn == ks47.get 10)

def obfsVerify (buf : Buf) (origLen : Nat) (key : ChachaInit) (rounds : UInt8) (obfs : ObfsMode) : Result Bool :=
  if origLen = 0 then pure false
  else do
    match ← verifyHdrLen buf obfs with
    | none => pure false
    | some hdrLen =>
        if origLen < hdrLen + 32 then pure false
        else
          let ballast := ballastLen (← getByte buf (hdrLen - 1))
          let wgLen := origLen - hdrLen
          if ballast > wgLen then pure false
          else if wgLen - ballast < 32 then pure false
          else
            let wg ← subslice buf hdrLen (hdrLen + (wgLen - ballast))
            let nonce ← wgNonce32 wg
            -- the source unmasks the message type here as well and does not use it
            verifyHeader buf hdrLen key rounds obfs (chachaBlockFast key 47 nonce rounds)

def decapHdrLen (buf : Buf) (obfs : ObfsMode) : Result (Option Nat) :=
  if obfs ≠ .quic then pure (some gutHeaderSize)
  else do
    let firstByte ← getByte buf 0
    if firstByte &&& 0x80 = 0x80 then pure (some gutQuicLongHeaderSize)
    else if firstByte &&& 0x40 = 0x40 then pure (some gutQuicShortHeaderSize)
    else pure none

def readEncPorts (buf : Buf) (hdrLen : Nat) : Result UInt32 :=
  if hdrLen = gutHeaderSize then readLe32 buf 4
  else if hdrLen = gutQuicShortHeaderSize then readLe32 buf 10
  else readLe32 buf 24

def decapPayload (order : ByteOrder) (buf : Buf) (hdrLen wgLen : Nat) (key : ChachaInit) (rounds : UInt8) :
    Result (Buf × Option (Nat × UInt16 × UInt16)) := do
  let encPorts ← readEncPorts buf hdrLen
  let wg ← subslice buf hdrLen (hdrLen + wgLen)
  let nonce ← wgNonce32 wg
  let ks47 := chachaBlockFast key 47 nonce rounds
  let ks47B := blockBytes order ks47
  let plainPorts := encPorts ^^^ ks47.get 11
  let buf ← xor16 buf hdrLen (slice ks47B 0 16)
  let first ← getByte buf hdrLen
  let buf ← xorMac2 buf hdrLen (first &&& 0x1F) wgLen ks47B
  let buf ← copyWithin buf hdrLen (hdrLen + wgLen) 0
  pure (buf, some (wgLen, (plainPorts >>> 16).toUInt16, (plainPorts &&& 0xFFFF).toUInt16))

def obfsDecap (order : ByteOrder) (buf : Buf) (origLen : Nat) (key : ChachaInit) (rounds : UInt8) (obfs : ObfsMode) :
    Result (Buf × Option (Nat × UInt16 × UInt16)) :=
  if origLen = 0 then pure (buf, none)
  else do
    match ← decapHdrLen buf obfs with
    | none => pure (buf, none)
    | some hdrLen =>
        if origLen < hdrLen + 16 then pure (buf, none)
        else
          let ballast := ballastLen (← getByte buf (hdrLen - 1))
          let wgLen := origLen - hdrLen
          if ballast > wgLen then pure (buf, none)
          else decapPayload order buf hdrLen (wgLen - ballast) key rounds

theorem decapPayload_ok (ch : Channel) (front m rest : Buf) (encPorts : UInt32)
    (ports : readEncPorts (front ++ (m ++ rest)) front.length = .ok encPorts) (long : 16 ≤ m.length) :
    decapPayload ch.order (front ++ (m ++ rest)) front.length m.length ch.key ch.rounds =
      .ok (overwrite (front ++ (unmask (ch.keystream m) m ++ rest)) 0 (unmask (ch.keystream m) m),
        some (m.length, ((encPorts ^^^ (ch.ks47 m).get 11) >>> 16).toUInt16,
          ((encPorts ^^^ (ch.ks47 m).get 11) &&& 0xFFFF).toUInt16)) := by
  have masked : slice (front ++ (m ++ rest)) front.length (front.length + m.length) = m :=
    slice_middle front m rest _ rfl
  have mask16 : xor16 (front ++ (m ++ rest)) front.length (slice (ch.keystream m) 0 16) =
      .ok (front ++ (xorAt m 0 (slice (ch.keystream m) 0 16) ++ rest)) := by
    have middle := xorAt_middle front m rest (slice (ch.keystream m) 0 16) 0 (by simp [Channel.keystream]; omega)
    rw [Nat.add_zero] at middle
    rw [xor16_ok _ _ _ (by simp; omega) (by simp [Channel.keystream]), middle]
  have type : byteAt (front ++ (xorAt m 0 (slice (ch.keystream m) 0 16) ++ rest)) front.length &&& 0x1F =
      typeOf (xorAt m 0 (slice (ch.keystream m) 0 16)) := by
    rw [byteAt_append, if_neg (by omega), Nat.sub_self, byteAt_append_left _ _ _ (by simp; omega), typeOf]
  have mac2 := xorMac2_ok front (xorAt m 0 (slice (ch.keystream m) 0 16)) rest (ch.keystream m)
    (typeOf (xorAt m 0 (slice (ch.keystream m) 0 16))) (by simp [Channel.keystream])
  rw [length_xorAt, ← unmask] at mac2
  have moved : slice (front ++ (unmask (ch.keystream m) m ++ rest)) front.length (front.length + m.length) =
      unmask (ch.keystream m) m :=
    slice_middle front _ rest _ (length_unmask _ _)
  have keystream : blockBytes ch.order (ch.ks47 m) = ch.keystream m := rfl
  have ks47 : chachaBlockFast ch.key 47 (nonceOf m) ch.rounds = ch.ks47 m := rfl
  unfold decapPayload
  rw [ports, bind_ok, subslice_ok (by omega) (by simp), bind_ok, masked, wgNonce32_ok, bind_ok]
  simp only [ks47, keystream]
  rw [mask16, bind_ok, getByte_ok (by simp; omega), bind_ok, type, mac2, bind_ok,
    copyWithin_ok (by omega) (by simp) (by simp; omega), moved, bind_ok, pure_eq_ok]

section Carried

variable {ch : Channel} {form : Form} {w pad p : Buf} {sport dport : UInt16} {obfs : ObfsMode}

theorem slice_carried (carries : Carries ch form w pad sport dport p) (rest : Buf) :
    slice (p ++ rest) form.headerLen (form.headerLen + w.length) = mask (ch.keystream w) w := by
  have length := carries.length
  rw [slice, List.drop_append_of_le_length (by omega), carries.body, List.append_assoc]
  simp

theorem slice_body (carries : Carries ch form w pad sport dport p) :
    slice p form.headerLen (form.headerLen + w.length) = mask (ch.keystream w) w := by
  simpa using slice_carried carries []

theorem ballastLen_carried (carries : Carries ch form w pad sport dport p) (rest : Buf) :
    ballastLen (byteAt (p ++ rest) (form.headerLen - 1)) = pad.length := by
  exact (carries.header.append rest).pad

theorem headerLen_pos (form : Form) : 0 < form.headerLen := by
  cases form <;> decide

theorem verifyHdrLen_carried (carries : Carries ch form w pad sport dport p) (rest : Buf)
    (mode : form = .gut ↔ obfs ≠ .quic) : verifyHdrLen (p ++ rest) obfs = .ok (some form.headerLen) := by
  have length := carries.length
  have positive := headerLen_pos form
  have fields := (carries.header.append rest).fields
  have six : 6 ≤ form.headerLen := by cases form <;> decide
  unfold verifyHdrLen
  rw [getByte_ok (by simp; omega), bind_ok]
  have inside : 5 < p.length + rest.length := by omega
  cases form with
  | gut => rw [if_pos (mode.mp rfl), pure_eq_ok, gutHeaderSize, Form.headerLen]
  | quicShort =>
      obtain ⟨first, marker, -⟩ := fields
      have quic : obfs = .quic := by simpa using mode
      rw [if_neg (by simp [quic]), first, if_neg (by decide), if_pos (by decide), marker, if_neg (by simp [inside])]
      rfl
  | quicLong =>
      obtain ⟨first, marker, -⟩ := fields
      have quic : obfs = .quic := by simpa using mode
      rw [if_neg (by simp [quic]), if_pos first, marker, if_neg (by simp [inside])]
      rfl

theorem verifyHeader_carried (carries : Carries ch form w pad sport dport p) (rest : Buf)
    (mode : form = .gut ↔ obfs ≠ .quic) :
    verifyHeader (p ++ rest) form.headerLen ch.key ch.rounds obfs (ch.ks47 w) = .ok true := by
  have length := carries.length
  obtain ⟨-, ppn, -, -, fields⟩ := carries.header.append rest
  unfold verifyHeader
  cases form with
  | gut =>
      simp only [Form.ppnOff, Form.headerLen] at ppn length
      rw [if_pos (mode.mp rfl), readLe32_ok (by simp; omega), bind_ok, ppn]
      simp
  | quicShort =>
      have quic : obfs = .quic := by simpa using mode
      obtain ⟨-, -, dcid⟩ := fields
      simp only [Form.ppnOff, Form.headerLen] at ppn length
      rw [if_neg (by simp [quic]), if_pos (by rfl), readLe32_ok (by simp; omega), bind_ok, readLe32_ok (by simp; omega),
        bind_ok, ppn, dcid]
      simp
  | quicLong =>
      have quic : obfs = .quic := by simpa using mode
      obtain ⟨-, -, dcid, -⟩ := fields
      simp only [Form.ppnOff, Form.headerLen] at ppn length
      rw [if_neg (by simp [quic]), if_neg (by decide), if_neg (by simp; omega), readLe32_ok (by simp; omega), bind_ok,
        readLe32_ok (by simp; omega), bind_ok, ppn, dcid]
      simp [Channel.ks99, Channel.block]

theorem obfsVerify_carried (carries : Carries ch form w pad sport dport p) (rest : Buf)
    (mode : form = .gut ↔ obfs ≠ .quic) : obfsVerify (p ++ rest) p.length ch.key ch.rounds obfs = .ok true := by
  have length := carries.length
  have message := carries.message
  have positive := headerLen_pos form
  have wgLen : p.length - form.headerLen - pad.length = w.length := by omega
  unfold obfsVerify
  rw [if_neg (by omega), verifyHdrLen_carried carries rest mode, bind_ok]
  simp only
  rw [if_neg (by omega), getByte_ok (by simp; omega), bind_ok, ballastLen_carried carries rest, if_neg (by omega),
    if_neg (by omega), wgLen, subslice_ok (by omega) (by simp; omega), bind_ok, slice_carried carries rest, wgNonce32_ok,
    bind_ok, nonceOf_mask]
  exact verifyHeader_carried carries rest mode

theorem decapHdrLen_carried (carries : Carries ch form w pad sport dport p) (rest : Buf)
    (mode : form = .gut ↔ obfs ≠ .quic) : decapHdrLen (p ++ rest) obfs = .ok (some form.headerLen) := by
  have length := carries.length
  have positive := headerLen_pos form
  have fields := (carries.header.append rest).fields
  unfold decapHdrLen
  cases form with
  | gut => rw [if_pos (mode.mp rfl), pure_eq_ok, gutHeaderSize, Form.headerLen]
  | quicShort =>
      have quic : obfs = .quic := by simpa using mode
      rw [if_neg (by simp [quic]), getByte_ok (by simp; omega), bind_ok, fields.1, if_neg (by decide), if_pos (by decide)]
      rfl
  | quicLong =>
      have quic : obfs = .quic := by simpa using mode
      have long : byteAt (p ++ rest) 0 &&& 0x80 = 0x80 := by
        have high : (byteAt (p ++ rest) 0 &&& 0xC0) &&& 0x80 = 0xC0 &&& 0x80 := by rw [fields.1]
        rwa [UInt8.and_assoc] at high
      rw [if_neg (by simp [quic]), getByte_ok (by simp; omega), bind_ok, if_pos long]
      rfl

theorem readEncPorts_carried (carries : Carries ch form w pad sport dport p) (rest : Buf) :
    readEncPorts (p ++ rest) form.headerLen = .ok (packPorts sport dport ^^^ (ch.ks47 w).get 11) := by
  have length := carries.length
  have ports := (carries.header.append rest).ports
  unfold readEncPorts
  cases form with
  | gut =>
      simp only [Form.portsOff, Form.headerLen] at ports length
      rw [if_pos (by rfl), readLe32_ok (by simp; omega), ports]
  | quicShort =>
      simp only [Form.portsOff, Form.headerLen] at ports length
      rw [if_neg (by decide), if_pos (by rfl), readLe32_ok (by simp; omega), ports]
  | quicLong =>
      simp only [Form.portsOff, Form.headerLen] at ports length
      rw [if_neg (by decide), if_neg (by decide), readLe32_ok (by simp; omega), ports]

def unmaskedBy (receiver : ByteOrder) (ch : Channel) (w : Buf) : Buf :=
  unmask (blockBytes receiver (ch.ks47 w)) (mask (ch.keystream w) w)

theorem unmaskedBy_same (ch : Channel) (w : Buf) : unmaskedBy ch.order ch w = w := unmask_mask _ _

theorem decapPayload_carried (receiver : ByteOrder) (carries : Carries ch form w pad sport dport p) (rest : Buf) :
    decapPayload receiver (p ++ rest) form.headerLen w.length ch.key ch.rounds =
      .ok (overwrite (p.take form.headerLen ++ (unmaskedBy receiver ch w ++ (pad ++ rest))) 0 (unmaskedBy receiver ch w),
        some (w.length, sport, dport)) := by
  have length := carries.length
  have message := carries.message
  obtain ⟨front, taken⟩ : ∃ front, p.take form.headerLen = front := ⟨_, rfl⟩
  have header : front.length = form.headerLen := by
    rw [← taken]
    simp
    omega
  -- the datagram as header, masked message and what follows it
  have split : p ++ rest = front ++ (mask (ch.keystream w) w ++ (pad ++ rest)) := by
    rw [← taken, ← List.append_assoc (mask _ _), ← carries.body, ← List.append_assoc, List.take_append_drop]
  have ports := readEncPorts_carried carries rest
  rw [split, ← header] at ports
  let ch' : Channel := { ch with order := receiver }
  have ks47 : ch'.ks47 (mask (ch.keystream w) w) = ch.ks47 w := ch.ks47_mask _ _
  have plain : unmask (ch'.keystream (mask (ch.keystream w) w)) (mask (ch.keystream w) w) = unmaskedBy receiver ch w := by
    rw [Channel.keystream, ks47, unmaskedBy]
  have decapped := decapPayload_ok ch' _ _ _ _ ports (by simp; omega)
  rw [header, length_mask, plain, ks47, UInt32.xor_assoc, UInt32.xor_self, UInt32.xor_zero, sport_packPorts,
    dport_packPorts, ← split] at decapped
  rw [taken]
  exact decapped

theorem obfsDecap_carriedBy (receiver : ByteOrder) (carries : Carries ch form w pad sport dport p) (rest : Buf)
    (mode : form = .gut ↔ obfs ≠ .quic) :
    obfsDecap receiver (p ++ rest) p.length ch.key ch.rounds obfs =
      .ok (overwrite (p.take form.headerLen ++ (unmaskedBy receiver ch w ++ (pad ++ rest))) 0 (unmaskedBy receiver ch w),
        some (w.length, sport, dport)) := by
  have length := carries.length
  have message := carries.message
  have positive := headerLen_pos form
  have wgLen : p.length - form.headerLen - pad.length = w.length := by omega
  unfold obfsDecap
  rw [if_neg (by omega), decapHdrLen_carried carries rest mode, bind_ok]
  simp only
  rw [if_neg (by omega), getByte_ok (by simp; omega), bind_ok, ballastLen_carried carries rest, if_neg (by omega), wgLen]
  exact decapPayload_carried receiver carries rest

theorem obfsDecap_carried (carries : Carries ch form w pad sport dport p) (rest : Buf)
    (mode : form = .gut ↔ obfs ≠ .quic) :
    obfsDecap ch.order (p ++ rest) p.length ch.key ch.rounds obfs =
      .ok (overwrite (p.take form.headerLen ++ (w ++ (pad ++ rest))) 0 w, some (w.length, sport, dport)) := by
  rw [obfsDecap_carriedBy ch.order carries rest mode, unmaskedBy_same]

theorem carries_of_obfsVerify (mode : obfs ≠ .quic) (rest : Buf)
    (verified : obfsVerify (p ++ rest) p.length ch.key ch.rounds obfs = .ok true) :
    ∃ w pad sport dport, Carries ch .gut w pad sport dport p := by
  unfold obfsVerify at verified
  split_ifs at verified with empty
  · cases verified
  have header : verifyHdrLen (p ++ rest) obfs = .ok (some 10) := by
    unfold verifyHdrLen
    rw [getByte_ok (by simp; omega), bind_ok, if_pos mode]
    rfl
  rw [header, bind_ok] at verified
  simp only [Nat.reduceSub] at verified
  split_ifs at verified with short
  · cases verified
  rw [getByte_ok (by simp; omega), bind_ok, byteAt_append_left _ _ _ (by omega)] at verified
  split_ifs at verified with exceeds small
  · cases verified
  · cases verified
  obtain ⟨n, count⟩ : ∃ n, p.length - 10 - ballastLen (byteAt p 9) = n := ⟨_, rfl⟩
  rw [count] at verified small
  have width : (slice p 10 (10 + n)).length = n := by
    rw [length_slice]
    omega
  have inside : slice (p ++ rest) 10 (10 + n) = slice p 10 (10 + n) := by
    rw [slice, slice, List.drop_append_of_le_length (by omega), List.take_append_of_le_length (by simp; omega)]
  rw [subslice_ok (by omega) (by simp; omega), bind_ok, inside, wgNonce32_ok, bind_ok] at verified
  unfold verifyHeader at verified
  rw [if_pos mode, readLe32_ok (by simp; omega), bind_ok, le32At_append_left _ _ _ (by omega)] at verified
  have ppn : le32At p 0 = (chachaBlockFast ch.key 47 (nonceOf (slice p 10 (10 + n))) ch.rounds).get 10 := by
    simpa using verified
  have body := (slice_append_drop p 10 n).symm
  obtain ⟨sport, dport, carries⟩ := Carries.of_masked (by omega) (by omega) body (by simp; omega) ppn
  exact ⟨_, _, sport, dport, carries⟩

end Carried

end Gutd.Userspace
