import Gutd.Bpf.XdpProbe
import Gutd.Bpf.XdpRejection

set_option autoImplicit false

namespace Gutd.Bpf

open Bytes Checked Wire

structure Turned (pos : UdpPos) (frame frame' : Buf) : Prop extends KeepsLink pos frame frame' where
  length : frame'.length = frame.length
  payload : ∀ i, pos.payloadOff ≤ i → byteAt frame' i = byteAt frame i

theorem Turned.refl (pos : UdpPos) (frame : Buf) : Turned pos frame frame :=
  ⟨⟨fun _ _ _ => rfl, rfl⟩, rfl, fun _ _ => rfl⟩

theorem Turned.overwrite {pos : UdpPos} {frame mid : Buf} (turned : Turned pos frame mid) (off width : Nat) (new : Buf)
    (fits : new.length ≤ width) (ethernet : 14 ≤ pos.ipOff) (inside : off + width ≤ pos.payloadOff)
    (apart : off + width ≤ 12 ∨ pos.ipOff < off ∧
      (off + width ≤ pos.ipOff + pos.ver.protocolOff ∨ pos.ipOff + pos.ver.protocolOff < off)) :
    Turned pos frame (overwrite mid off new) := by
  refine ⟨⟨?_, ?_⟩, by simp [turned.length], ?_⟩
  · intro i above below
    rw [byteAt_overwrite_other _ _ _ _ (by omega), turned.link i above below]
  · rw [byteAt_overwrite_other _ _ _ _ (by omega), turned.protocol]
  · intro i behind
    rw [byteAt_overwrite_other _ _ _ _ (by omega), turned.payload i behind]

theorem Turned.swapFields {pos : UdpPos} {frame mid : Buf} (turned : Turned pos frame mid) (off width : Nat)
    (ethernet : 14 ≤ pos.ipOff) (inside : off + 2 * width ≤ pos.payloadOff)
    (apart : off + 2 * width ≤ 12 ∨ pos.ipOff < off ∧
      (off + 2 * width ≤ pos.ipOff + pos.ver.protocolOff ∨ pos.ipOff + pos.ver.protocolOff < off)) :
    Turned pos frame (swapFields mid off width) :=
  turned.overwrite off (2 * width) _ (by simp; omega) ethernet inside apart

theorem Turned.writeIpChecksum {frame mid : Buf} {ipOff : Nat} (turned : Turned { ver := .v4, ipOff } frame mid)
    (ethernet : 14 ≤ ipOff) : Turned { ver := .v4, ipOff } frame (writeIpChecksum ipOff mid) := by
  have inside : ipOff + 10 + 2 ≤ ({ ver := .v4, ipOff } : UdpPos).payloadOff := by
    simp only [UdpPos.payloadOff, UdpPos.udpOff, IpVersion.headerLen]
    omega
  unfold Bpf.writeIpChecksum
  dsimp only
  refine Turned.overwrite ?_ _ 2 _ (by simp) ethernet inside (by simp only [IpVersion.protocolOff]; omega)
  exact turned.overwrite _ 2 _ (by simp) ethernet inside (by simp only [IpVersion.protocolOff]; omega)

section Return

variable (pos : UdpPos) (n : Nat) (frame : Buf) (ethernet : 14 ≤ pos.ipOff)

include ethernet

theorem turned_returnQuic : Turned pos frame (returnQuic pos n frame) := by
  have offsets : pos.payloadOff = pos.ipOff + pos.ver.headerLen + 8 ∧ pos.udpOff = pos.ipOff + pos.ver.headerLen :=
    ⟨rfl, rfl⟩
  have fields : 20 ≤ pos.ver.headerLen ∧ pos.ver.protocolOff < 10 ∧ pos.ver.protocolOff < pos.ver.saddrOff ∧
      pos.ver.saddrOff + 2 * pos.ver.addrLen ≤ pos.ver.headerLen := by
    cases pos.ver <;> decide
  have macs := (Turned.refl pos frame).swapFields 0 6 ethernet (by omega) (by omega)
  have addresses := macs.swapFields (pos.ipOff + pos.ver.saddrOff) pos.ver.addrLen ethernet (by omega) (by omega)
  unfold returnQuic
  dsimp only
  refine Turned.overwrite ?_ _ 2 _ (by simp) ethernet (by omega) (by omega)
  refine Turned.overwrite ?_ _ 2 _ (by simp) ethernet (by omega) (by omega)
  refine Turned.overwrite ?_ _ 2 _ (by simp) ethernet (by omega) (by omega)
  refine Turned.swapFields ?_ _ 2 ethernet (by omega) (by omega)
  obtain ⟨ver, ipOff⟩ := pos
  cases ver with
  | v4 =>
      refine Turned.writeIpChecksum ?_ ethernet
      exact addresses.overwrite _ 2 _ (by simp) ethernet (by omega) (by simp only [IpVersion.protocolOff]; omega)
  | v6 => exact addresses.overwrite _ 2 _ (by simp) ethernet (by omega) (by simp only [IpVersion.protocolOff]; omega)

theorem turned_returnSip : Turned pos frame (returnSip pos n frame) := by
  have offsets : pos.payloadOff = pos.ipOff + pos.ver.headerLen + 8 ∧ pos.udpOff = pos.ipOff + pos.ver.headerLen :=
    ⟨rfl, rfl⟩
  have fields : 20 ≤ pos.ver.headerLen ∧ pos.ver.protocolOff < 10 ∧ pos.ver.protocolOff < pos.ver.saddrOff ∧
      pos.ver.saddrOff + 2 * pos.ver.addrLen ≤ pos.ver.headerLen := by
    cases pos.ver <;> decide
  have macs := (Turned.refl pos frame).swapFields 0 6 ethernet (by omega) (by omega)
  have ports := macs.swapFields pos.udpOff 2 ethernet (by omega) (by omega)
  have length := ports.overwrite (pos.udpOff + 4) 2 (toBeBytes16 (UInt16.ofNat n)) (by simp) ethernet (by omega) (by omega)
  have checksum := length.overwrite (pos.udpOff + 6) 2 [0, 0] (by simp) ethernet (by omega) (by omega)
  have addresses := checksum.swapFields (pos.ipOff + pos.ver.saddrOff) pos.ver.addrLen ethernet (by omega) (by omega)
  obtain ⟨ver, ipOff⟩ := pos
  cases ver with
  | v4 =>
      refine Turned.writeIpChecksum (Turned.overwrite ?_ _ 1 _ (by simp) ethernet (by omega) ?_) ethernet
      · exact addresses.overwrite _ 2 _ (by simp) ethernet (by omega) (by simp only [IpVersion.protocolOff]; omega)
      · simp only [IpVersion.protocolOff]
        omega
  | v6 =>
      refine Turned.overwrite ?_ _ 1 _ (by simp) ethernet (by omega) (by simp only [IpVersion.protocolOff]; omega)
      exact addresses.overwrite _ 2 _ (by simp) ethernet (by omega) (by simp only [IpVersion.protocolOff]; omega)

theorem turned_writeLengths (cfg : GutConfig) : Turned pos frame (writeLengths cfg pos n frame) := by
  have offsets : pos.payloadOff = pos.ipOff + pos.ver.headerLen + 8 ∧ pos.udpOff = pos.ipOff + pos.ver.headerLen :=
    ⟨rfl, rfl⟩
  have fields : 20 ≤ pos.ver.headerLen ∧ pos.ver.protocolOff < 10 := by
    cases pos.ver <;> decide
  have length := (Turned.refl pos frame).overwrite (pos.udpOff + 4) 2 (toBeBytes16 (UInt16.ofNat n)) (by simp) ethernet
    (by omega) (by omega)
  have checksum := length.overwrite (pos.udpOff + 6) 2 [0, 0] (by simp) ethernet (by omega) (by omega)
  obtain ⟨ver, ipOff⟩ := pos
  unfold writeLengths
  cases ver with
  | v4 =>
      simp only [IpVersion.headerLen] at offsets
      have total := checksum.overwrite (ipOff + 2) 2 (toBeBytes16 (UInt16.ofNat (20 + n))) (by simp) ethernet (by omega)
        (by simp only [IpVersion.protocolOff]; omega)
      dsimp only
      split_ifs
      · refine Turned.overwrite ?_ _ 4 _ (by simp) ethernet (by omega) (by simp only [IpVersion.protocolOff]; omega)
        exact total.overwrite _ 4 _ (by simp) ethernet (by omega) (by simp only [IpVersion.protocolOff]; omega)
      · exact total
  | v6 =>
      simp only [IpVersion.headerLen] at offsets
      have total := checksum.overwrite (ipOff + 4) 2 (toBeBytes16 (UInt16.ofNat n)) (by simp) ethernet (by omega)
        (by simp only [IpVersion.protocolOff]; omega)
      dsimp only
      split_ifs
      · refine Turned.overwrite ?_ _ 16 _ (by simp) ethernet (by omega) (by simp only [IpVersion.protocolOff]; omega)
        exact total.overwrite _ 16 _ (by simp) ethernet (by omega) (by simp only [IpVersion.protocolOff]; omega)
      · exact total

end Return

def quicVersion (frame : Buf) : Option UInt32 := (parseUdp frame).map fun pos => be32At frame (pos.payloadOff + 1)

def connectionIds (frame : Buf) : Option (Nat × Nat) :=
  (parseUdp frame).map fun pos =>
    let dcidLen := (byteAt frame (pos.payloadOff + 5)).toNat
    (dcidLen, (byteAt frame (pos.payloadOff + 6 + dcidLen)).toNat)

structure QuicProbe (pos : UdpPos) (dcidLen scidLen : Nat) (frame : Buf) : Prop where
  parsed : parseUdp frame = some pos
  whole : pos.payloadOff + 32 ≤ frame.length
  long : byteAt frame pos.payloadOff &&& 0x80 = 0x80
  dcid : (byteAt frame (pos.payloadOff + 5)).toNat = dcidLen
  scid : (byteAt frame (pos.payloadOff + 6 + dcidLen)).toNat = scidLen
  small : dcidLen ≤ 20 ∧ scidLen ≤ 20
  scidWhole : pos.payloadOff + 7 + dcidLen + 20 ≤ frame.length

structure VersionReply (pos : UdpPos) (dcidLen scidLen : Nat) (frame : Buf) : Prop where
  parsed : parseUdp frame = some pos
  length : frame.length = pos.payloadOff + 15 + scidLen + dcidLen
  long : byteAt frame pos.payloadOff &&& 0x80 = 0x80
  dcid : (byteAt frame (pos.payloadOff + 5)).toNat = scidLen
  scid : (byteAt frame (pos.payloadOff + 6 + scidLen)).toNat = dcidLen
  small : dcidLen ≤ 20 ∧ scidLen ≤ 20

variable {x x' : Xdp} {pos : UdpPos} {dcidLen scidLen : Nat}

theorem QuicProbe.ids {frame : Buf} (probe : QuicProbe pos dcidLen scidLen frame) :
    connectionIds frame = some (dcidLen, scidLen) := by
  simp only [connectionIds, probe.parsed, Option.map_some, probe.dcid, probe.scid]

theorem length_versionNegotiation (first : UInt8) (dcid scid : Buf) :
    (versionNegotiation first dcid scid).length = 15 + scid.length + dcid.length := by
  simp [versionNegotiation, supportedVersions]
  omega

theorem adjustTail_some {x'' : Xdp} {delta : Int} (resized : x.adjustTail delta = some x'') :
    x''.frame.length = (x.frame.length + delta).toNat ∧
      ∀ i, i < x.frame.length → i < x''.frame.length → byteAt x''.frame i = byteAt x.frame i := by
  unfold Xdp.adjustTail at resized
  dsimp only at resized
  split_ifs at resized
  cases resized
  generalize (x.frame.length + delta).toNat = n
  have length : (x.frame.take n ++ List.replicate (n - x.frame.length) 0).length = n := by simp; omega
  refine ⟨length, ?_⟩
  intro i inside bounded
  dsimp only at bounded ⊢
  rw [byteAt_append_left _ _ _ (by simp; omega), byteAt_take, if_pos (by omega)]

def dcidOf (pos : UdpPos) (frame : Buf) : Buf :=
  slice frame (pos.payloadOff + 6) (pos.payloadOff + 6 + (byteAt frame (pos.payloadOff + 5)).toNat)

def scidOf (pos : UdpPos) (frame : Buf) : Buf :=
  let start := pos.payloadOff + 7 + (byteAt frame (pos.payloadOff + 5)).toNat
  slice frame start (start + (byteAt frame (start - 1)).toNat)

theorem QuicProbe.lengths {frame : Buf} (probe : QuicProbe pos dcidLen scidLen frame) :
    (dcidOf pos frame).length = dcidLen ∧ (scidOf pos frame).length = scidLen := by
  obtain ⟨-, whole, -, rfl, scid, small, scidWhole⟩ := probe
  have start : pos.payloadOff + 7 + (byteAt frame (pos.payloadOff + 5)).toNat - 1 =
      pos.payloadOff + 6 + (byteAt frame (pos.payloadOff + 5)).toNat := by omega
  simp only [dcidOf, scidOf, length_slice, start, scid]
  omega

theorem handleQuicProbe_probe (answered : handleQuicProbe x = .ok x') :
    ∃ pos dcidLen scidLen, QuicProbe pos dcidLen scidLen x.frame ∧
      ∃ resized, x.adjustTail ((pos.udpOff + (8 + (15 + scidLen + dcidLen)) : Nat) - x.frame.length) = some resized ∧
        x'.frame = returnQuic pos (8 + (15 + scidLen + dcidLen)) (overwrite resized.frame pos.payloadOff
          (versionNegotiation (byteAt x.frame pos.payloadOff) (dcidOf pos x.frame) (scidOf pos x.frame))) := by
  unfold handleQuicProbe at answered
  obtain ⟨pos, parsed, answered⟩ := bind_eq_ok.mp answered
  rw [orReject_eq_ok] at parsed
  obtain ⟨u₁, whole, answered⟩ := bind_eq_ok.mp answered
  obtain ⟨u₂, long, answered⟩ := bind_eq_ok.mp answered
  obtain ⟨u₃, dcidSmall, answered⟩ := bind_eq_ok.mp answered
  obtain ⟨lenByte, loaded, answered⟩ := bind_eq_ok.mp answered
  obtain ⟨u₄, scidSmall, answered⟩ := bind_eq_ok.mp answered
  obtain ⟨scid, scidLoaded, answered⟩ := bind_eq_ok.mp answered
  obtain ⟨resized, tail, answered⟩ := bind_eq_ok.mp answered
  obtain ⟨frame, stored, done⟩ := bind_eq_ok.mp answered
  rw [rejectIf_eq_ok] at whole long dcidSmall scidSmall
  obtain ⟨inside, rfl⟩ := loadBytes_some (orReject_eq_ok.mp loaded)
  obtain ⟨scidWhole, rfl⟩ := loadBytes_some (orReject_eq_ok.mp scidLoaded)
  obtain ⟨-, rfl⟩ := storeBytes_some (orReject_eq_ok.mp stored)
  have lenByte : byteAt (slice x.frame (pos.payloadOff + 6 + (byteAt x.frame (pos.payloadOff + 5)).toNat)
      (pos.payloadOff + 6 + (byteAt x.frame (pos.payloadOff + 5)).toNat + 1)) 0 =
      byteAt x.frame (pos.payloadOff + 6 + (byteAt x.frame (pos.payloadOff + 5)).toNat) := by
    rw [byteAt_slice, if_pos (by omega), Nat.add_zero]
  rw [lenByte] at scidSmall tail done
  have shorter (a n : Nat) (bounded : n ≤ 20) : (slice x.frame a (a + 20)).take n = slice x.frame a (a + n) := by
    rw [slice, slice, List.take_take]
    congr 1
    omega
  have start : pos.payloadOff + 7 + (byteAt x.frame (pos.payloadOff + 5)).toNat - 1 =
      pos.payloadOff + 6 + (byteAt x.frame (pos.payloadOff + 5)).toNat := by omega
  have dcid : (slice x.frame (pos.payloadOff + 6) (pos.payloadOff + 26)).take (byteAt x.frame (pos.payloadOff + 5)).toNat =
      dcidOf pos x.frame := shorter _ _ (by omega)
  have scid := shorter (pos.payloadOff + 7 + (byteAt x.frame (pos.payloadOff + 5)).toNat)
    (byteAt x.frame (pos.payloadOff + 6 + (byteAt x.frame (pos.payloadOff + 5)).toNat)).toNat (by omega)
  cases done
  refine ⟨pos, _, _, ⟨parsed, by omega, not_not.mp long, rfl, rfl, ⟨by omega, by omega⟩, by omega⟩, resized,
    orReject_eq_ok.mp tail, ?_⟩
  simp only [dcid, scid, scidOf, start]

theorem byteAt_versionNegotiation (first : UInt8) (dcid scid : Buf) :
    byteAt (versionNegotiation first dcid scid) 0 = first ||| 0x80 ∧
      byteAt (versionNegotiation first dcid scid) 5 = UInt8.ofNat scid.length ∧
      byteAt (versionNegotiation first dcid scid) (6 + scid.length) = UInt8.ofNat dcid.length := by
  refine ⟨rfl, rfl, ?_⟩
  have split : versionNegotiation first dcid scid = ([first ||| 0x80, 0, 0, 0, 0, UInt8.ofNat scid.length] ++ scid) ++
      (UInt8.ofNat dcid.length :: (dcid ++ supportedVersions)) := by
    simp [versionNegotiation]
  have front : ([first ||| 0x80, 0, 0, 0, 0, UInt8.ofNat scid.length] ++ scid).length = 6 + scid.length := by
    simp only [List.length_append, List.length_cons, List.length_nil]
  rw [split, byteAt_append, if_neg (by omega), front, Nat.sub_self]
  rfl

theorem handleQuicProbe_reply (answered : handleQuicProbe x = .ok x') :
    ∃ pos dcidLen scidLen, QuicProbe pos dcidLen scidLen x.frame ∧ VersionReply pos dcidLen scidLen x'.frame := by
  obtain ⟨pos, dcidLen, scidLen, probe, resized, tail, frame⟩ := handleQuicProbe_probe answered
  obtain ⟨dcidLength, scidLength⟩ := probe.lengths
  generalize dcidOf pos x.frame = dcid at *
  generalize scidOf pos x.frame = scid at *
  have whole := probe.whole
  have small := probe.small
  have ethernet := parseUdp_ipOff probe.parsed
  have offsets : pos.payloadOff = pos.udpOff + 8 ∧ pos.payloadOff = pos.ipOff + pos.ver.headerLen + 8 := ⟨rfl, rfl⟩
  have inner : pos.ver.protocolOff < pos.ver.headerLen := by cases pos.ver <;> decide
  obtain ⟨length, kept⟩ := adjustTail_some tail
  have responseLength := length_versionNegotiation (byteAt x.frame pos.payloadOff) dcid scid
  obtain ⟨first, fifth, scidByte⟩ := byteAt_versionNegotiation (byteAt x.frame pos.payloadOff) dcid scid
  generalize versionNegotiation (byteAt x.frame pos.payloadOff) dcid scid = response at *
  have front (i : Nat) (inside : i < pos.payloadOff) :
      byteAt (overwrite resized.frame pos.payloadOff response) i = byteAt x.frame i := by
    rw [byteAt_overwrite_other _ _ _ _ (.inl inside), kept i (by omega) (by omega)]
  have stored : parseUdp (overwrite resized.frame pos.payloadOff response) = some pos :=
    parseUdp_congr probe.parsed ⟨fun i _ below => front i (by omega), front _ (by omega)⟩ (by simp; omega)
  have turned := turned_returnQuic pos (8 + (15 + scidLen + dcidLen)) (overwrite resized.frame pos.payloadOff response)
    ethernet
  rw [← frame] at turned
  have size : x'.frame.length = pos.payloadOff + 15 + scidLen + dcidLen := by
    rw [turned.length, length_overwrite]
    omega
  have payload (j : Nat) (inside : j < 15 + scidLen + dcidLen) :
      byteAt x'.frame (pos.payloadOff + j) = byteAt response j := by
    rw [turned.payload _ (by omega), byteAt_overwrite, if_pos (by omega), Nat.add_sub_cancel_left]
  have or : ∀ b : UInt8, (b ||| 0x80) &&& 0x80 = 0x80 := forall_byte (by decide)
  refine ⟨pos, dcidLen, scidLen, probe, parseUdp_congr stored turned.toKeepsLink (by omega), size, ?_, ?_, ?_, small⟩
  · rw [← Nat.add_zero pos.payloadOff, payload 0 (by omega), first]
    exact or _
  · rw [payload 5 (by omega), fifth, scidLength]
    simp
    omega
  · rw [Nat.add_assoc, payload _ (by omega), ← scidLength, scidByte, dcidLength]
    simp
    omega

theorem VersionReply.answered_iff (reply : VersionReply pos dcidLen scidLen x.frame) :
    (∃ x', handleQuicProbe x = .ok x') ↔ 12 ≤ dcidLen ∧ 17 ≤ dcidLen + scidLen := by
  have length := reply.length
  constructor
  · rintro ⟨x', answered⟩
    obtain ⟨pos', scidLen', dcidLen', probe, -⟩ := handleQuicProbe_reply answered
    obtain rfl : pos = pos' := Option.some_inj.mp (reply.parsed.symm.trans probe.parsed)
    obtain rfl : scidLen = scidLen' := reply.dcid.symm.trans probe.dcid
    have whole := probe.whole
    have scidWhole := probe.scidWhole
    omega
  · rintro ⟨dcid, both⟩
    have small := reply.small
    have offsets : pos.payloadOff = pos.udpOff + 8 := rfl
    have scidByte : byteAt (slice x.frame (pos.payloadOff + 6 + scidLen) (pos.payloadOff + 6 + scidLen + 1)) 0 =
        byteAt x.frame (pos.payloadOff + 6 + scidLen) := by
      rw [byteAt_slice, if_pos (by omega), Nat.add_zero]
    obtain ⟨resized, tail⟩ : ∃ resized, x.adjustTail
        ((pos.udpOff + (8 + (15 + dcidLen + scidLen)) : Nat) - x.frame.length) = some resized := by
      unfold Xdp.adjustTail
      dsimp only
      rw [if_neg (by omega)]
      exact ⟨_, rfl⟩
    have resizedLength := (adjustTail_some tail).1
    unfold handleQuicProbe
    rw [reply.parsed, orReject_some, bind_ok]
    dsimp only
    rw [rejectIf_ok (by omega), bind_ok, rejectIf_ok (not_not.mpr reply.long), bind_ok, reply.dcid, rejectIf_ok (by omega), bind_ok, loadBytes_ok (by omega), orReject_some, bind_ok, scidByte, reply.scid,
      rejectIf_ok (by omega), bind_ok, loadBytes_ok (by omega), orReject_some, bind_ok, tail, orReject_some, bind_ok,
      storeBytes_ok ?_, orReject_some, bind_ok]
    · exact ⟨_, rfl⟩
    · rw [length_versionNegotiation]
      simp
      omega

variable {cfg : GutConfig} {attached : Attached}

theorem VersionReply.rejected (reply : VersionReply pos dcidLen scidLen x.frame) : gutXdpCore .quic cfg x = .error x := by
  have length := reply.length
  have small := reply.small
  cases parsed : parseWg cfg x.frame with
  | none => exact gutXdpCore_foreign parsed
  | some r =>
      rw [(gutXdpCore_plain parsed (.inr rfl)).1]
      apply openDatagram_unreadable
      rintro outer ⟨form, front⟩
      have offset : r.wgOff = pos.payloadOff := by
        rw [Received.wgOff, Option.some_inj.mp ((parseWg_pos parsed).symm.trans reply.parsed)]
      have long := reply.long
      have other : ∀ b : UInt8, b &&& 0x80 = 0x80 → b ≠ 0x40 := forall_byte (by decide)
      rw [offset, outerHdrLen, if_neg (other _ long), if_pos long, Option.some_inj] at form
      omega

theorem defaultAction_ne_tx (cfg : GutConfig) : defaultAction cfg ≠ .tx := by
  unfold defaultAction
  split_ifs <;> decide

theorem xdpGutIngress_quic_tx :
    xdpGutIngress .quic cfg attached x = (.tx, x') ↔
      cfg.ownHttp3 = 1 ∧ attached.probe = true ∧
        ∃ x₁, gutXdpCore .quic cfg x = .error x₁ ∧ handleQuicProbe x₁ = .ok x' := by
  have silent := defaultAction_ne_tx cfg
  unfold xdpGutIngress xdpQuicProbe
  cases core : gutXdpCore .quic cfg x with
  | ok x₁ =>
      cases attached.txDevice <;> simp
  | error x₁ =>
      by_cases active : cfg.ownHttp3 = 1 ∧ attached.probe = true
      · cases handled : handleQuicProbe x₁ with
        | ok x₂ => simp [active, handled]
        | error x₂ => simp [active, handled, silent]
      · simp only [if_neg active, Prod.mk.injEq, silent, false_and, false_iff]
        rintro ⟨own, probe, -⟩
        exact active ⟨own, probe⟩

theorem VersionReply.loops_iff (reply : VersionReply pos dcidLen scidLen x.frame) (cfg : GutConfig) (attached : Attached) :
    (∃ x', xdpGutIngress .quic cfg attached x = (.tx, x')) ↔
      cfg.ownHttp3 = 1 ∧ attached.probe = true ∧ 12 ≤ dcidLen ∧ 17 ≤ dcidLen + scidLen := by
  simp only [xdpGutIngress_quic_tx, reply.rejected, Except.error.injEq, exists_eq_left', ← reply.answered_iff]
  constructor
  · rintro ⟨x', own, probe, handled⟩
    exact ⟨own, probe, x', handled⟩
  · rintro ⟨own, probe, x', handled⟩
    exact ⟨x', own, probe, handled⟩

open Classical in
-- The frame of a rejected packet, as far as the probe handler looks at it. A genuine message behind a misannounced
-- UDP length has lost its outer header; all other packets still have theirs.
noncomputable def probed (cfg : GutConfig) (x : Xdp) : Buf :=
  match parseWg cfg x.frame with
  | none => x.frame
  | some r =>
      match outerHdrLen .quic (byteAt x.frame r.wgOff) with
      | none => x.frame
      | some outer =>
          if Misannounced .quic cfg r x.frame outer then
            trimmed (cutFrame cfg r.pos (innerUdpLen r x.frame outer) outer (unmaskedFrame cfg r x.frame outer))
              (ballastOf r x.frame outer)
          else x.frame

variable {r : Received} {outer : Nat}

theorem QuicProbe.before {frame frame' : Buf} (probe : QuicProbe pos dcidLen scidLen frame')
    (parsed : parseUdp frame = some r.pos) (readable : Readable .quic r frame outer) (keeps : KeepsLink r.pos frame frame')
    (length : frame'.length = frame.length)
    (header : ∀ i, r.wgOff ≤ i → i < r.wgOff + outer → byteAt frame' i = byteAt frame i) :
    connectionIds frame = some (dcidLen, scidLen) := by
  have small := probe.small
  have front := readable.front
  have bounds := readable.outer_bounds
  have whole : r.wgOff = r.pos.payloadOff := rfl
  obtain rfl : pos = r.pos :=
    Option.some_inj.mp (probe.parsed.symm.trans (parseUdp_congr parsed keeps (by omega)))
  -- the first byte has the bit of a long header, so the outer header is the long one
  have long : outer = 1200 := by
    have first := probe.long
    have other : ∀ b : UInt8, b &&& 0x80 = 0x80 → b ≠ 0x40 := forall_byte (by decide)
    rw [← whole, header _ (Nat.le_refl _) (by omega)] at first
    have form := readable.form
    rw [outerHdrLen, if_neg (other _ first), if_pos first] at form
    exact (Option.some_inj.mp form).symm
  have dcid := probe.dcid
  have scid := probe.scid
  rw [← whole, header _ (by omega) (by omega)] at dcid scid
  simp only [connectionIds, parsed, Option.map_some, ← whole, dcid, scid]

theorem probed_misannounced (parsed : parseWg cfg x.frame = some r) (misannounced : Misannounced .quic cfg r x.frame outer) :
    probed cfg x = trimmed (cutFrame cfg r.pos (innerUdpLen r x.frame outer) outer (unmaskedFrame cfg r x.frame outer))
      (ballastOf r x.frame outer) := by
  simp only [probed, parsed, misannounced.readable.form, if_pos misannounced]

theorem probed_eq_frame (other : ∀ r outer, parseWg cfg x.frame = some r → ¬Misannounced .quic cfg r x.frame outer) :
    probed cfg x = x.frame := by
  unfold probed
  split
  · rfl
  · rename_i r parsed
    split
    · rfl
    · rw [if_neg (other r _ parsed)]

theorem keepsLink_headers {frame frame' : Buf} (same : ∀ i, i < r.wgOff → byteAt frame' i = byteAt frame i) :
    KeepsLink r.pos frame frame' := by
  have offset : r.wgOff = r.pos.ipOff + r.pos.ver.headerLen + 8 := rfl
  have inner : r.pos.ver.protocolOff < r.pos.ver.headerLen := by cases r.pos.ver <;> decide
  exact ⟨fun i _ below => same i (by omega), same _ (by omega)⟩

theorem byteAt_unmaskedFrame (cfg : GutConfig) (frame : Buf) (i : Nat) (before : i < r.wgOff + outer) :
    byteAt (unmaskedFrame cfg r frame outer) i = byteAt frame i := by
  rw [unmaskedFrame, byteAt_unmaskMac2_front _ _ _ _ _ (by omega), byteAt_frontUnmasked _ _ _ before]

theorem connectionIds_kept {x₁ : Xdp} (parsed : parseWg cfg x.frame = some r)
    (failed : openDatagram .quic cfg r x = .error x₁) (other : ∀ outer, ¬Misannounced .quic cfg r x.frame outer)
    (probe : QuicProbe pos dcidLen scidLen x₁.frame) : connectionIds x.frame = some (dcidLen, scidLen) := by
  have udp := parseWg_pos parsed
  have ethernet := parseUdp_ipOff udp
  by_cases readable : ∃ outer, Readable .quic r x.frame outer
  · obtain ⟨outer, readable⟩ := readable
    by_cases genuine : Genuine .quic cfg r x.frame outer
    · have unmasked (i : Nat) (before : i < r.wgOff + outer) := byteAt_unmaskedFrame cfg x.frame i before
      by_cases sized : Sized r x.frame outer
      · by_cases small : r.wgOff ≤ 62
        · by_cases datagram : r.pos.udpOff + max 8 (innerUdpLen r x.frame outer) + outer + ballastOf r x.frame outer ≤
              x.frame.length
          · obtain ⟨x₂, done, -⟩ := openDatagram_opens ⟨readable, genuine, sized, small, datagram⟩ ethernet
            rw [done] at failed
            cases failed
          · exact absurd ⟨readable, genuine, sized, small, by omega⟩ (other outer)
        · rw [openDatagram_large readable genuine sized (by omega)] at failed
          cases failed
          have turned := turned_writeLengths r.pos (innerUdpLen r x.frame outer) (unmaskedFrame cfg r x.frame outer)
            ethernet cfg
          have link := keepsLink_headers (r := r) (fun i before => unmasked i (by omega))
          refine probe.before udp readable ⟨?_, turned.protocol.trans link.protocol⟩ (by simp) ?_
          · intro i above below
            exact (turned.link i above below).trans (link.link i above below)
          · intro i above below
            exact (turned.payload i above).trans (unmasked i below)
      · rw [openDatagram_unsized readable genuine sized] at failed
        cases failed
        exact probe.before udp readable (keepsLink_headers fun i before => unmasked i (by omega)) (by simp)
          fun i _ below => unmasked i below
    · rw [openDatagram_forged readable genuine] at failed
      cases failed
      have unmasked (i : Nat) (before : i < r.wgOff + outer) := byteAt_frontUnmasked cfg x.frame i before
      exact probe.before udp readable (keepsLink_headers fun i before => unmasked i (by omega)) (by simp)
        fun i _ below => unmasked i below
  · rw [openDatagram_unreadable (not_exists.mp readable)] at failed
    cases failed
    exact probe.ids

theorem connectionIds_probed {x₁ : Xdp} (failed : gutXdpCore .quic cfg x = .error x₁)
    (probe : QuicProbe pos dcidLen scidLen x₁.frame) : connectionIds (probed cfg x) = some (dcidLen, scidLen) := by
  cases parsed : parseWg cfg x.frame with
  | none =>
      rw [gutXdpCore_foreign parsed] at failed
      cases failed
      rw [probed_eq_frame (by simp [parsed])]
      exact probe.ids
  | some r =>
      rw [(gutXdpCore_plain parsed (.inr rfl)).1] at failed
      by_cases misannounced : ∃ outer, Misannounced .quic cfg r x.frame outer
      · obtain ⟨outer, misannounced⟩ := misannounced
        obtain ⟨x₂, done, frame⟩ := openDatagram_misannounced misannounced (parseUdp_ipOff (parseWg_pos parsed))
        rw [done] at failed
        cases failed
        rw [probed_misannounced parsed misannounced, ← frame]
        exact probe.ids
      · rw [not_exists] at misannounced
        have same : probed cfg x = x.frame := by
          apply probed_eq_frame
          intro r' outer found
          rw [parsed] at found
          cases found
          exact misannounced outer
        rw [same]
        exact connectionIds_kept parsed failed misannounced probe

theorem be16At_returnSip (pos : UdpPos) (n : Nat) (frame : Buf) (ethernet : 14 ≤ pos.ipOff)
    (whole : pos.payloadOff ≤ frame.length) : be16At (returnSip pos n frame) (pos.udpOff + 4) = UInt16.ofNat n := by
  obtain ⟨ver, ipOff⟩ := pos
  unfold UdpPos.payloadOff UdpPos.udpOff at whole
  unfold returnSip swapFields writeIpChecksum UdpPos.udpOff
  cases ver with
  | v4 =>
      simp only [IpVersion.headerLen, IpVersion.saddrOff, IpVersion.addrLen] at whole ethernet ⊢
      simp (disch := (simp; try omega)) only [be16At_overwrite_other]
      exact be16At_overwrite_same _ _ _ (by simp; omega)
  | v6 =>
      simp only [IpVersion.headerLen, IpVersion.saddrOff, IpVersion.addrLen] at whole ethernet ⊢
      simp (disch := (simp; try omega)) only [be16At_overwrite_other]
      exact be16At_overwrite_same _ _ _ (by simp; omega)

structure StatusReply (pos : UdpPos) (frame : Buf) : Prop where
  parsed : parseUdp frame = some pos
  udpLen : (be16At frame (pos.udpOff + 4)).toNat < 8 + 64
  line : slice frame pos.payloadOff (pos.payloadOff + 3) = ascii "SIP"
  whole : pos.payloadOff + 10 ≤ frame.length

theorem sipStatus_line (first : UInt8) :
    (sipStatus first).take 3 = ascii "SIP" ∧ 10 ≤ (sipStatus first).length ∧ (sipStatus first).length < 64 := by
  unfold sipStatus
  split_ifs <;> decide

theorem respondSip_stored {first : UInt8} (parsed : parseUdp x.frame = some pos) (answered : respondSip pos first x = .ok x') :
    ∃ resized : Xdp, pos.payloadOff + (sipStatus first).length ≤ resized.frame.length ∧
      (resized.frame.length : Int) + (be16At x.frame (pos.udpOff + 4)).toNat = x.frame.length + (8 + (sipStatus first).length) ∧
      (∀ i, i < pos.payloadOff → byteAt resized.frame i = byteAt x.frame i) ∧
      x'.frame = returnSip pos (8 + (sipStatus first).length) (overwrite resized.frame pos.payloadOff (sipStatus first)) := by
  have before := (parseUdp_some parsed).1
  have long := (sipStatus_line first).2.1
  unfold respondSip at answered
  obtain ⟨resized, tail, answered⟩ := bind_eq_ok.mp answered
  obtain ⟨frame, stored, done⟩ := bind_eq_ok.mp answered
  obtain ⟨fits, rfl⟩ := storeBytes_some (orReject_eq_ok.mp stored)
  cases done
  have found := orReject_eq_ok.mp tail
  unfold resizeTo at found
  dsimp only at found
  split_ifs at found with whole
  · cases found
    exact ⟨x, fits, by omega, fun _ _ => rfl, rfl⟩
  · obtain ⟨length, kept⟩ := adjustTail_some found
    exact ⟨resized, fits, by omega, fun i inside => kept i (by omega) (by omega), rfl⟩

theorem respondSip_reply {first : UInt8} (parsed : parseUdp x.frame = some pos)
    (answered : respondSip pos first x = .ok x') : StatusReply pos x'.frame := by
  have ethernet := parseUdp_ipOff parsed
  have inner : pos.ver.protocolOff < pos.ver.headerLen := by cases pos.ver <;> decide
  have offsets : pos.payloadOff = pos.ipOff + pos.ver.headerLen + 8 := rfl
  obtain ⟨line, long, short⟩ := sipStatus_line first
  obtain ⟨resized, fits, -, kept, frame⟩ := respondSip_stored parsed answered
  generalize sipStatus first = response at *
  have front (i : Nat) (inside : i < pos.payloadOff) :
      byteAt (overwrite resized.frame pos.payloadOff response) i = byteAt x.frame i := by
    rw [byteAt_overwrite_other _ _ _ _ (.inl inside), kept i inside]
  have storedParsed : parseUdp (overwrite resized.frame pos.payloadOff response) = some pos :=
    parseUdp_congr parsed ⟨fun i _ below => front i (by omega), front _ (by omega)⟩ (by simp; omega)
  have turned := turned_returnSip pos (8 + response.length) (overwrite resized.frame pos.payloadOff response) ethernet
  rw [frame]
  have length := turned.length
  rw [length_overwrite] at length
  refine ⟨parseUdp_congr storedParsed turned.toKeepsLink (by omega), ?_, ?_, by omega⟩
  · rw [be16At_returnSip _ _ _ ethernet (by simp; omega)]
    simp
    omega
  · rw [← line]
    apply ext_byteAt (by simp [length]; omega)
    intro i bounded
    simp only [length_slice] at bounded
    rw [byteAt_slice, if_pos (by omega), turned.payload _ (by omega), byteAt_overwrite, if_pos (by omega),
      Nat.add_sub_cancel_left, byteAt_take, if_pos (by omega)]

theorem handleSipProbe_tx (answered : handleSipProbe x = (.tx, x')) :
    ∃ pos, parseUdp x.frame = some pos ∧ respondSip pos (byteAt x.frame pos.payloadOff) x = .ok x' := by
  unfold handleSipProbe at answered
  split at answered
  · cases answered
  · rename_i pos parsed
    dsimp only at answered
    split_ifs at answered
    · cases answered
    · cases answered
    · cases answered
    · split at answered
      · cases answered
      · rename_i x₂ responded
        cases answered
        exact ⟨pos, parsed, responded⟩

theorem handleSipProbe_reply (answered : handleSipProbe x = (.tx, x')) : ∃ pos, StatusReply pos x'.frame := by
  obtain ⟨pos, parsed, responded⟩ := handleSipProbe_tx answered
  exact ⟨pos, respondSip_reply parsed responded⟩

theorem StatusReply.first (reply : StatusReply pos x.frame) : byteAt x.frame pos.payloadOff = 0x53 := by
  have line := congrArg (byteAt · 0) reply.line
  simp only [byteAt_slice, Nat.add_zero] at line
  rw [if_pos (by omega)] at line
  exact line

theorem StatusReply.passed (reply : StatusReply pos x.frame) : handleSipProbe x = (.pass, x) := by
  have whole := reply.whole
  unfold handleSipProbe
  rw [reply.parsed]
  dsimp only
  rw [if_neg (by omega), reply.first, if_neg (by decide), if_pos reply.line]

theorem StatusReply.rejected (reply : StatusReply pos x.frame) (cfg : GutConfig) :
    ∃ x', gutXdpCore .sip cfg x = .error x' ∧ x'.frame = x.frame := by
  cases parsed : parseWg cfg x.frame with
  | none => exact ⟨x, gutXdpCore_foreign parsed, rfl⟩
  | some r =>
      have announced := parseWg_announced parsed
      have udpLen := (parseWg_inside parsed).udpLen
      have samePos : r.pos = pos := Option.some_inj.mp ((parseWg_pos parsed).symm.trans reply.parsed)
      have short := reply.udpLen
      rw [← samePos, announced] at short
      have refused : unwrap .sip cfg r x = none := by
        have binary : looksRtp x.frame r.wgOff = false := by
          rw [looksRtp, Received.wgOff, samePos, reply.first]
          rfl
        have noText : sipText cfg r x = none := by
          unfold sipText
          dsimp only
          rw [if_pos (.inl (by omega))]
        simp only [unwrap, binary, noText, Option.bind_none, Option.map_none]
        split_ifs <;> simp_all
      obtain ⟨x', core, frame, -⟩ := gutXdpCore_wrapped parsed refused
      exact ⟨x', core, frame⟩

theorem xdpGutIngress_sip_tx :
    xdpGutIngress .sip cfg attached x = (.tx, x') →
      ∃ x₁, gutXdpCore .sip cfg x = .error x₁ ∧ handleSipProbe x₁ = (.tx, x') := by
  have silent := defaultAction_ne_tx cfg
  unfold xdpGutIngress xdpSipProbe
  cases core : gutXdpCore .sip cfg x with
  | ok x₁ =>
      cases attached.txDevice <;> simp
  | error x₁ =>
      by_cases active : cfg.ownHttp3 = 1 ∧ attached.probe = true
      · rcases handled : handleSipProbe x₁ with ⟨rc, x₂⟩
        by_cases tx : rc = .tx
        · simp [active, handled, tx]
        · simp [active, handled, tx, silent]
      · simp [if_neg active, silent]

theorem StatusReply.ends (reply : StatusReply pos x.frame) : (xdpGutIngress .sip cfg attached x).1 ≠ .tx := by
  intro answered
  obtain ⟨x₁, core, handled⟩ := xdpGutIngress_sip_tx (Prod.ext answered rfl)
  obtain ⟨x₂, core', frame⟩ := reply.rejected cfg
  rw [core] at core'
  cases core'
  rw [StatusReply.passed (frame ▸ reply)] at handled
  cases handled

theorem reply_loop_free {mode : ObfsMode} (responder : mode = .quic ∨ mode = .sip)
    (answered : xdpGutIngress mode cfg attached x = (.tx, x')) :
    ((∀ cfg' attached' (y : Xdp), y.frame = x'.frame → (xdpGutIngress mode cfg' attached' y).1 ≠ .tx) ∧
        (mode = .quic → quicVersion x.frame ≠ some 0)) ↔
      (mode = .quic → quicVersion x.frame ≠ some 0 ∧
        ∀ dcidLen scidLen, connectionIds (probed cfg x) = some (dcidLen, scidLen) →
          dcidLen < 12 ∨ dcidLen + scidLen < 17) := by
  rcases responder with rfl | rfl
  · obtain ⟨own, probe, x₁, failed, handled⟩ := xdpGutIngress_quic_tx.mp answered
    obtain ⟨pos, dcidLen, scidLen, isProbe, reply⟩ := handleQuicProbe_reply handled
    have ids := connectionIds_probed failed isProbe
    constructor
    · rintro ⟨ends, version⟩ -
      refine ⟨version rfl, ?_⟩
      intro d s found
      rw [ids] at found
      cases found
      by_contra long
      obtain ⟨x'', again⟩ := (reply.loops_iff cfg attached).mpr ⟨own, probe, by omega, by omega⟩
      exact ends cfg attached x' rfl (by rw [again])
    · intro condition
      obtain ⟨version, short⟩ := condition rfl
      refine ⟨?_, fun _ => version⟩
      intro cfg' attached' y same again
      have replyY : VersionReply pos dcidLen scidLen y.frame := same ▸ reply
      obtain ⟨-, -, dcid, both⟩ := (replyY.loops_iff cfg' attached').mp ⟨_, Prod.ext again rfl⟩
      have := short _ _ ids
      omega
  · obtain ⟨x₁, failed, handled⟩ := xdpGutIngress_sip_tx answered
    obtain ⟨pos, reply⟩ := handleSipProbe_reply handled
    constructor
    · intro _ quic
      cases quic
    · intro _
      refine ⟨?_, nofun⟩
      intro cfg' attached' y same
      exact StatusReply.ends (same ▸ reply)

end Gutd.Bpf

namespace Gutd

open Bytes Bpf

def probeFrame (version : UInt8) : Buf :=
  List.replicate 12 0 ++ [0x08, 0x00] ++ [0x45, 0, 0, 92, 0, 0, 0, 0, 64, 17, 0, 0, 10, 0, 0, 2, 10, 0, 0, 1] ++
    [0xCA, 0x6C, 0xA0, 0x28, 0, 72, 0, 0] ++
    ([0xC0, 0, 0, 0, version, 20] ++ List.replicate 20 1 ++ [20] ++ List.replicate 37 2)

theorem size_responderAddr : #[(192 : UInt8), 0, 2, 1].size = 4 := rfl

def responderConfig (key : UInt8) : GutConfig :=
  { GutConfig.fromConfig (Vector.replicate 32 key) [41000] (.v4 ⟨#[192, 0, 2, 1], size_responderAddr⟩) with ownHttp3 := 1 }

def responder (key : UInt8) (frame : Buf) : XdpAction × Xdp :=
  xdpGutIngress .quic (responderConfig key) { probe := true, txDevice := true } (delivered frame)

theorem responder_answers : (responder 7 (probeFrame 1)).1 = .tx := by
  decide

theorem reply_loop_free_probe :
    ((∀ cfg attached (y : Xdp), y.frame = (responder 7 (probeFrame 1)).2.frame →
          (xdpGutIngress .quic cfg attached y).1 ≠ .tx) ∧
        (ObfsMode.quic = .quic → quicVersion (delivered (probeFrame 1)).frame ≠ some 0)) ↔
      (ObfsMode.quic = .quic → quicVersion (delivered (probeFrame 1)).frame ≠ some 0 ∧
        ∀ dcidLen scidLen,
          connectionIds (probed (responderConfig 7) (delivered (probeFrame 1))) = some (dcidLen, scidLen) →
          dcidLen < 12 ∨ dcidLen + scidLen < 17) := by
  have answered : xdpGutIngress .quic (responderConfig 7) { probe := true, txDevice := true } (delivered (probeFrame 1)) =
      (.tx, (responder 7 (probeFrame 1)).2) := Prod.ext responder_answers rfl
  exact reply_loop_free (.inl rfl) answered

-- two peers with different keys answer each other, and a Version Negotiation packet is answered like any other
theorem reply_loop :
    (responder 7 (probeFrame 1)).1 = .tx ∧ (responder 9 (responder 7 (probeFrame 1)).2.frame).1 = .tx ∧
      quicVersion (probeFrame 0) = some 0 ∧ (responder 7 (probeFrame 0)).1 = .tx := by
  decide

end Gutd
