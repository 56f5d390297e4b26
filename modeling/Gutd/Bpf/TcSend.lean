import Gutd.Bpf.TcEgress
import Gutd.Userspace.Encap

set_option autoImplicit false

namespace Gutd.Bpf

open Bytes Checked Wire

theorem routeOf_lengths {cfg : GutConfig} {clientMap : UInt32 → Option PeerEndpoint} {cIdx : UInt32} {ver : IpVersion}
    {route : Route} (found : routeOf cfg clientMap cIdx ver = some route) :
    route.saddr.length = ver.addrLen ∧ route.daddr.length = ver.addrLen := by
  unfold routeOf at found
  split_ifs at found with fixed
  · cases found
    cases ver <;> simp [configuredRoute, IpVersion.addrLen]
  · split at found
    · split_ifs at found
      cases found
      cases ver <;> simp only [endpointRoute] <;> split_ifs <;> simp [IpVersion.addrLen]
    · cases found

section Headers

variable (cfg : GutConfig) (ver : IpVersion) (headers rest : Buf)

theorem writeOuterLengths_append (port : UInt16) (n : Nat) (whole : payloadOff ver ≤ headers.length) :
    writeOuterLengths ver port n (headers ++ rest) = writeOuterLengths ver port n headers ++ rest := by
  unfold writeOuterLengths
  cases ver with
  | v4 =>
      simp only [payloadOff, IpVersion.headerLen] at whole ⊢
      simp (disch := (simp; omega)) only [overwrite_append_left]
  | v6 =>
      simp only [payloadOff, IpVersion.headerLen] at whole ⊢
      simp (disch := (simp; omega)) only [overwrite_append_left]

@[simp] theorem length_writeOuterLengths (port : UInt16) (n : Nat) :
    (writeOuterLengths ver port n headers).length = headers.length := by
  unfold writeOuterLengths
  cases ver <;> simp

variable {ver}

theorem writeRoute_append {route : Route} (whole : payloadOff ver ≤ headers.length)
    (lengths : route.saddr.length = ver.addrLen ∧ route.daddr.length = ver.addrLen) :
    writeRoute ver route (headers ++ rest) = writeRoute ver route headers ++ rest := by
  obtain ⟨saddr, daddr⟩ := lengths
  unfold writeRoute
  cases ver <;> cases route.source <;> cases route.dest <;>
    simp only [payloadOff, IpVersion.headerLen, IpVersion.saddrOff, IpVersion.addrLen] at whole saddr daddr ⊢ <;>
    simp (disch := (simp; omega)) only [overwrite_append_left]

@[simp] theorem length_writeRoute (route : Route) : (writeRoute ver route headers).length = headers.length := by
  unfold writeRoute
  cases route.source <;> cases route.dest <;> simp

theorem writeUdpChecksum_append (whole : payloadOff ver ≤ headers.length) :
    writeUdpChecksum ver (headers ++ rest) = writeUdpChecksum ver headers ++ rest := by
  unfold writeUdpChecksum
  cases ver <;>
    simp only [payloadOff, IpVersion.headerLen, IpVersion.saddrOff, IpVersion.addrLen] at whole ⊢ <;>
    simp (disch := (simp; omega)) only [overwrite_append_left, slice_append_left]

@[simp] theorem length_writeUdpChecksum : (writeUdpChecksum ver headers).length = headers.length := by
  simp [writeUdpChecksum]

theorem writeOuterHeaders_append {route : Route} (whole : payloadOff ver ≤ headers.length)
    (lengths : route.saddr.length = ver.addrLen ∧ route.daddr.length = ver.addrLen) :
    writeOuterHeaders cfg ver route (headers ++ rest) = writeOuterHeaders cfg ver route headers ++ rest := by
  have routed := writeRoute_append headers rest whole lengths
  unfold writeOuterHeaders
  cases ver with
  | v4 =>
      have enough : 42 ≤ headers.length := whole
      simp only [routed]
      rw [writeIpChecksum_append _ _ _ (by simp; omega), writeUdpChecksum_append _ _ (by simpa using whole)]
      simp (disch := (simp; omega)) only [overwrite_append_left]
  | v6 =>
      have enough : 62 ≤ headers.length := whole
      simp only [routed]
      rw [writeUdpChecksum_append _ _ (by simpa using whole)]
      simp (disch := (simp; omega)) only [overwrite_append_left]

@[simp] theorem length_writeOuterHeaders (route : Route) :
    (writeOuterHeaders cfg ver route headers).length = headers.length := by
  unfold writeOuterHeaders
  cases ver <;> simp

end Headers

theorem writeOuterHeaders_fields (cfg : GutConfig) {ver : IpVersion} {sport dport : UInt16} {udpLen n : Nat}
    {headers : Buf} {route : Route} (port : UInt16) (length : headers.length = payloadOff ver) (small : n < 2 ^ 16)
    (lengths : route.saddr.length = ver.addrLen ∧ route.daddr.length = ver.addrLen)
    (fields : UdpHeaders ver sport dport udpLen headers) :
    UdpHeaders ver (route.source.getD port) (route.dest.getD port) n
      (writeOuterHeaders cfg ver route (writeOuterLengths ver port n headers)) := by
  have word : (UInt16.ofNat n).toNat = n := by simp; omega
  obtain ⟨link, protocol, options, -, -, -⟩ := fields
  obtain ⟨saddr, daddr⟩ := lengths
  obtain ⟨source, dest, routeSource, routeDest⟩ : ∃ source dest, route.source = source ∧ route.dest = dest :=
    ⟨_, _, rfl, rfl⟩
  unfold writeOuterHeaders writeUdpChecksum writeRoute writeIpChecksum writeOuterLengths
  rw [routeSource, routeDest]
  cases ver with
  | v4 =>
      simp only [payloadOff, IpVersion.headerLen, IpVersion.protocolOff, IpVersion.saddrOff, IpVersion.addrLen] at *
      refine ⟨?_, ?_, ?_, ?_, ?_, ?_⟩ <;> cases source <;> cases dest <;>
        simp (disch := (simp; try omega)) only [be16At_overwrite_same, be16At_overwrite_other, byteAt_overwrite_other,
          link, protocol, options, word, IpVersion.headerLen, IpVersion.protocolOff, Nat.reduceAdd, implies_true,
          Option.getD_none, Option.getD_some]
  | v6 =>
      simp only [payloadOff, IpVersion.headerLen, IpVersion.protocolOff, IpVersion.saddrOff, IpVersion.addrLen] at *
      refine ⟨?_, ?_, by simp, ?_, ?_, ?_⟩ <;> cases source <;> cases dest <;>
        simp (disch := (simp; try omega)) only [be16At_overwrite_same, be16At_overwrite_other, byteAt_overwrite_other,
          link, protocol, word, IpVersion.headerLen, IpVersion.protocolOff, Nat.reduceAdd, Option.getD_none,
          Option.getD_some]

section Stages

variable {cfg : GutConfig} {k : Kernel} {tc tc' : Tc} {ver : IpVersion} {sport dport : UInt16} {w pad headers body : Buf}

theorem locateUdp_ok {udpLen : Nat} {skb : Buf} (whole : payloadOff ver ≤ skb.length)
    (fields : UdpHeaders ver sport dport udpLen skb) : locateUdp skb = some (ver, 14 + ver.headerLen) := by
  obtain ⟨link, protocol, options, -, -, -⟩ := fields
  unfold locateUdp payloadOff at *
  cases ver with
  | v4 =>
      simp only [IpVersion.headerLen, IpVersion.protocolOff] at whole protocol ⊢
      have untagged : (IpVersion.v4.etherType == ethP8021Q) = false := by decide
      rw [link, untagged]
      simp only [Bool.false_eq_true, if_false, if_true, protocol, options, ne_eq, not_true_eq_false]
      rw [if_neg (by omega)]
      rfl
  | v6 =>
      simp only [IpVersion.headerLen, IpVersion.protocolOff] at whole protocol ⊢
      have untagged : (IpVersion.v6.etherType == ethP8021Q) = false := by decide
      have other : IpVersion.v6.etherType ≠ IpVersion.v4.etherType := by decide
      rw [link, untagged]
      simp only [Bool.false_eq_true, if_false, if_true, protocol, other, ne_eq, not_true_eq_false]
      rw [if_neg (by omega)]

theorem parseEgress_ok {skb : Buf} (isUdp : UdpFrame ver sport dport w skb) (message : WgMessage w) :
    parseEgress skb = some { ver, wgOff := payloadOff ver, wgLen := w.length, head := w.take 32,
                             plainPorts := packPorts sport dport } := by
  have whole := isUdp.whole
  have bounds := message.length
  have wide : 42 ≤ payloadOff ver := by cases ver <;> decide
  have off : 14 + ver.headerLen + 8 = payloadOff ver := rfl
  have wgLen : sub32 (be16At skb (14 + ver.headerLen + 4)).toNat 8 = w.length := by
    rw [isUdp.headers.udpLen, sub32]
    omega
  have head : slice skb (payloadOff ver) (payloadOff ver + 32) = w.take 32 := by
    obtain ⟨headers, trail, split, length, -⟩ := isUdp.split
    rw [split, ← length, slice, List.drop_left, Nat.add_sub_cancel_left, List.take_append_of_le_length bounds.1]
  have type : ¬(byteAt (w.take 32) 0 &&& 0x1F < 1 ∨ byteAt (w.take 32) 0 &&& 0x1F > 4 ∨ byteAt (w.take 32) 1 ≠ 0 ∨
      byteAt (w.take 32) 2 ≠ 0) := by
    rw [byteAt_take, byteAt_take, byteAt_take, if_pos (by omega), if_pos (by omega), if_pos (by omega),
      message.reserved.1, message.reserved.2.1]
    rcases message.sized with ⟨type, -⟩ | ⟨type, -⟩ | ⟨type, -⟩ | ⟨type, -⟩ <;> rw [type] <;> decide
  unfold parseEgress
  rw [if_neg (by simp [wgMinPacket]; omega), locateUdp_ok (by omega) isUdp.headers]
  dsimp only
  unfold parseMessage
  dsimp only
  rw [wgLen, off, if_neg (by omega), if_neg (by simp [wgMinPacket]; omega), loadBytes_ok (by simp [wgMinPacket]; omega)]
  simp only [wgMinPacket, head]
  rw [if_neg type, isUdp.headers.sport, isUdp.headers.dport]

theorem padTail_eq_ok {padLen : Nat} {padBlock : Buf} (bounded : padLen ≤ 64) (whole : padBlock.length = 64) :
    padTail k padLen padBlock tc = .ok tc' ↔
      (0 < padLen → k.changeTail = true) ∧ tc' = { tc with skb := tc.skb ++ padBlock.take padLen } := by
  unfold padTail
  by_cases some : padLen > 0
  · have width : (padBlock.take padLen).length = padLen := by
      rw [List.length_take]
      omega
    have stored : overwrite (tc.skb ++ List.replicate padLen 0) tc.skb.length (padBlock.take padLen) =
        tc.skb ++ padBlock.take padLen := by
      rw [overwrite_append_next _ _ _ (by simp only [width, List.length_replicate, Nat.le_refl]),
        List.drop_eq_nil_of_le (by simp only [width, List.length_replicate, Nat.le_refl]), List.append_nil]
    rw [if_pos some]
    cases grown : k.changeTail with
    | false => simp [rejectIf, some]
    | true =>
        rw [rejectIf_ok (by simp), bind_ok]
        dsimp only
        have off : (tc.skb ++ List.replicate padLen (0 : UInt8)).length - padLen = tc.skb.length := by simp
        rw [rejectIf_ok (by omega), bind_ok, off,
          storeBytes_ok (by simp only [width, List.length_append, List.length_replicate, Nat.le_refl]), orReject_some, bind_ok, stored]
        simp [eq_comm]
  · have none : padLen = 0 := by omega
    rw [if_neg some, none, List.take_zero, List.append_nil]
    constructor
    · rintro ⟨⟩
      exact ⟨by simp, rfl⟩
    · rintro ⟨-, rfl⟩
      rfl

theorem maskMac2In_ok (front m rest ks : Buf) (type : UInt8) (block : ks.length = 64) :
    maskMac2In (front ++ (m ++ rest)) front.length m.length type ks = front ++ (maskMac2 ks type m ++ rest) := by
  unfold maskMac2In maskMac2
  cases found : mac2Off type m.length with
  | none => rfl
  | some off =>
      have bounds := mac2Off_bounds found
      dsimp only
      rw [loadBytes_ok (by simp; omega)]
      dsimp only
      have width : (slice ks 16 32).length = 16 := by simp [block]
      rw [storeBytes_ok (by simp; omega), Option.getD_some, overwrite_xorAt_slice _ _ _ width (by simp; omega),
        xorAt_middle _ _ _ _ _ (by omega)]

theorem maskMessage_ok {pkt : WgPacket} (tc : Tc) (ks : Buf) (skb : tc.skb = headers ++ (w ++ pad)) (block : ks.length = 64)
    (off : pkt.wgOff = headers.length) (len : pkt.wgLen = w.length) (head : pkt.head = w.take 32)
    (message : 32 ≤ w.length) :
    maskMessage pkt ks tc = .ok { tc with skb := headers ++ (mask ks w ++ pad) } := by
  have type : pkt.wgType = typeOf w := by
    rw [WgPacket.wgType, head, byteAt_take, if_pos (by omega), typeOf]
  have stored : overwrite tc.skb pkt.wgOff ((xorAt pkt.head 0 (slice ks 0 16)).take 16) =
      headers ++ (xorAt w 0 (slice ks 0 16) ++ pad) := by
    have width : (slice ks 0 16).length = 16 := by simp [block]
    have front : slice tc.skb headers.length (headers.length + 16) = w.take 16 := by
      rw [skb, slice, List.drop_left, Nat.add_sub_cancel_left, List.take_append_of_le_length (by omega)]
    have middle := xorAt_middle headers w pad (slice ks 0 16) 0 (by omega)
    rw [head, take_xorAt, List.take_take, Nat.min_eq_left (by omega), ← front, off,
      overwrite_xorAt_slice _ _ _ width (by simp [skb]; omega), skb]
    exact middle
  have inside : pkt.wgOff + ((xorAt pkt.head 0 (slice ks 0 16)).take 16).length ≤ tc.skb.length := by
    rw [skb, off, head]
    simp only [List.length_take, length_xorAt, List.length_append]
    omega
  unfold maskMessage
  dsimp only
  rw [storeBytes_ok inside, orReject_some, bind_ok, stored, off, len, type]
  have masked := maskMac2In_ok headers (xorAt w 0 (slice ks 0 16)) pad ks (typeOf w) block
  rw [length_xorAt] at masked
  rw [masked]
  rfl

theorem makeRoom_eq_ok (k : Kernel) (room : Nat) (skb : tc.skb = headers ++ body)
    (length : headers.length = payloadOff ver) (untagged : tc.macLen = 14) :
    ∃ junk : Buf, junk.length = room ∧ ∀ tc', makeRoom k ver room tc = .ok tc' ↔
      k.adjustRoom = true ∧ k.pullData = true ∧ tc' = { tc with skb := headers ++ (junk ++ body) } := by
  have wide : 14 ≤ payloadOff ver := by cases ver <;> decide
  have shift : (headers.drop 14).length = shiftLen ver := by
    simp only [List.length_drop, length, shiftLen, payloadOff]
    omega
  have ethernet : (headers.take 14).length = 14 := by simp; omega
  have inserted : tc.skb.take tc.macLen ++ (List.replicate room 0 ++ tc.skb.drop tc.macLen) =
      headers.take 14 ++ (List.replicate room 0 ++ (headers.drop 14 ++ body)) := by
    rw [skb, untagged, List.take_append_of_le_length (by omega), List.drop_append_of_le_length (by omega)]
  have loaded : slice (headers.take 14 ++ (List.replicate room 0 ++ (headers.drop 14 ++ body))) (14 + room)
      (14 + room + shiftLen ver) = headers.drop 14 := by
    have front : (headers.take 14 ++ List.replicate room (0 : UInt8)).length = 14 + room := by
      rw [List.length_append, ethernet, List.length_replicate]
    rw [← List.append_assoc, ← front, slice_middle _ _ _ _ shift]
  have total : (headers.take 14 ++ (List.replicate room (0 : UInt8) ++ (headers.drop 14 ++ body))).length =
      14 + room + shiftLen ver + body.length := by
    simp only [List.length_append, ethernet, List.length_replicate, shift]
    omega
  -- what is left of the gap and of the old headers is where the outer header goes
  refine ⟨(List.replicate room 0 ++ headers.drop 14).drop (shiftLen ver), by simp [shift], ?_⟩
  have stored : overwrite (headers.take 14 ++ (List.replicate room 0 ++ (headers.drop 14 ++ body))) 14
      (headers.drop 14) = headers ++ ((List.replicate room 0 ++ headers.drop 14).drop (shiftLen ver) ++ body) := by
    have next := overwrite_append_next (headers.take 14) (List.replicate room 0 ++ (headers.drop 14 ++ body))
      (headers.drop 14) (by simp; omega)
    rw [ethernet, shift] at next
    rw [next, List.take_append_drop, ← List.append_assoc (List.replicate room 0),
      List.drop_append_of_le_length (by rw [List.length_append, shift]; omega)]
  intro tc'
  unfold makeRoom
  rw [inserted]
  cases adjusted : k.adjustRoom with
  | false => simp [rejectIf]
  | true =>
      cases pulled : k.pullData with
      | false => simp [rejectIf]
      | true =>
          rw [rejectIf_ok (by simp), bind_ok]
          dsimp only
          rw [rejectIf_ok (by simp), bind_ok, loadBytes_ok (by omega), orReject_some, bind_ok, loaded, storeBytes_ok (by omega), orReject_some, bind_ok,
            stored]
          simp [eq_comm]

theorem writeGutHeader_ok (junk : Buf) (ppn encPorts : UInt32) (padLen : Nat) (room : junk.length = 10) :
    writeGutHeader (headers ++ (junk ++ body)) headers.length ppn encPorts padLen =
      headers ++ (gutHeader ppn encPorts padLen ++ body) := by
  have inside : ¬headers.length + gutHeaderSize > (headers ++ (junk ++ body)).length := by
    simp [gutHeaderSize]
    omega
  have last : body = (junk ++ body).drop (gutHeader ppn encPorts padLen).length := by
    rw [show (gutHeader ppn encPorts padLen).length = junk.length from room.symm, List.drop_left]
  unfold writeGutHeader
  rw [if_neg inside]
  simp (disch := simp) only [overwrite_next]
  change overwrite _ _ (gutHeader ppn encPorts padLen) = _
  rw [overwrite_append_next _ _ _ (by simp [gutHeader]; omega), ← last, List.append_assoc]

theorem writeQuicShortHeader_ok (junk : Buf) (dcid ppn encPorts : UInt32) (padLen : Nat) (room : junk.length = 16) :
    writeQuicShortHeader (headers ++ (junk ++ body)) headers.length dcid ppn encPorts padLen =
      headers ++ (quicShortHeader dcid ppn encPorts padLen ++ body) := by
  have inside : ¬headers.length + 16 > (headers ++ (junk ++ body)).length := by
    simp
    omega
  have last : body = (junk ++ body).drop (quicShortHeader dcid ppn encPorts padLen).length := by
    rw [show (quicShortHeader dcid ppn encPorts padLen).length = junk.length from room.symm, List.drop_left]
  unfold writeQuicShortHeader
  rw [if_neg inside]
  simp (disch := simp) only [overwrite_next]
  change overwrite _ _ (quicShortHeader dcid ppn encPorts padLen) = _
  rw [overwrite_append_next _ _ _ (by simp [quicShortHeader]; omega), ← last, List.append_assoc]

theorem finish_ok (p : Prepared) (tc : Tc) {route : Route} (n : Nat) (skb : tc.skb = headers ++ body)
    (length : headers.length = payloadOff p.ver) (found : routeOf cfg tc.clientMap p.wgIdx p.ver = some route) :
    ∃ tc', finish cfg p n tc = .ok tc' ∧
      tc'.skb = writeOuterHeaders cfg p.ver route (writeOuterLengths p.ver p.port n headers) ++ body := by
  have lengths := routeOf_lengths found
  unfold finish
  rw [rejectIf_ok (by simp [skb]; omega), bind_ok]
  dsimp only
  rw [found, orReject_some, bind_ok]
  refine ⟨_, rfl, ?_⟩
  simp only [skb]
  rw [writeOuterLengths_append _ _ _ _ _ (by omega), writeOuterHeaders_append _ _ _ (by simp; omega) lengths]

theorem finish_routes {p : Prepared} {n : Nat} (done : finish cfg p n tc = .ok tc') :
    ∃ route, routeOf cfg tc.clientMap p.wgIdx p.ver = some route := by
  obtain ⟨-, -, rest⟩ := bind_eq_ok.mp done
  obtain ⟨route, found, -⟩ := bind_eq_ok.mp rest
  exact ⟨route, orReject_eq_ok.mp found⟩

end Stages

def tcForm (mode : ObfsMode) (wgType : UInt8) : Form :=
  if mode ≠ .quic then .gut else if wgType = 1 ∨ wgType = 3 then .quicLong else .quicShort

theorem egressHdrLen_eq (mode : ObfsMode) (wgType : UInt8) : egressHdrLen mode wgType = (tcForm mode wgType).headerLen := by
  cases mode with
  | quic =>
      simp only [egressHdrLen, tcForm, ne_eq, not_true_eq_false, if_false]
      split_ifs <;> rfl
  | gut => rfl
  | syslog => rfl
  | sip => rfl

theorem egressPadLen_eq (mode : ObfsMode) (outer wgLen : Nat) (padBlock : Buf) :
    egressPadLen mode outer wgLen padBlock = Userspace.encapPadLen mode outer wgLen padBlock := by
  unfold egressPadLen Userspace.encapPadLen ballastThreshold
  cases mode <;> simp <;> split_ifs <;> omega

theorem padBytes_eq (padBlock : Buf) (padLen : Nat) (bounded : padLen ≤ 64) (whole : padBlock.length = 64) :
    Userspace.padBytes padBlock padLen = padBlock.take padLen := by
  apply ext_byteAt (by simp; omega)
  intro i inside
  rw [Userspace.length_padBytes] at inside
  have low : i &&& 0x3F = i := by
    rw [show (0x3F : Nat) = 2 ^ 6 - 1 from rfl, Nat.and_two_pow_sub_one_eq_mod]
    omega
  rw [byteAt_take, if_pos inside, byteAt_eq_getElem _ _ (by simpa using inside)]
  simp [Userspace.padBytes, low]

def indexOf (w : Buf) : UInt32 := if typeOf w = 2 then le32At w 8 else le32At w 4

section Program

variable (key : Vector UInt8 32) (mode : ObfsMode) (ver : IpVersion) (w : Buf) (sport dport : UInt16)

def tcPad : Buf := Userspace.encapPad (channel key) mode (tcForm mode (typeOf w)) w

def prepared (seq : UInt32) (port : UInt16) : Prepared :=
  { ver
    wgOff := payloadOff ver
    wgLen := w.length
    wgType := typeOf w
    wgIdx := indexOf w
    nonce := nonceOf w
    seq
    ks47 := (channel key).ks47 w
    encPorts := packPorts sport dport ^^^ ((channel key).ks47 w).get 11
    outer := (tcForm mode (typeOf w)).headerLen
    padLen := (tcPad key mode w).length
    port }

structure Admits (cfg : GutConfig) (k : Kernel) (tc : Tc) (port : UInt16) (route : Route) : Prop where
  kept : keepaliveDropped cfg k.prandom (typeOf w) w.length = false
  port : tunnelPort mode cfg (nextSeq tc) = some port
  grown : 0 < (tcPad key mode w).length → k.changeTail = true
  bridged : cfg.dynamicPeer ≠ 0 → typeOf w ≠ 1
  room : k.adjustRoom = true ∧ k.pullData = true
  tail : tcForm mode (typeOf w) = .quicLong → k.tailCall = true ∧ k.pullAgain = true
  routed : routeOf cfg tc.clientMap (indexOf w) ver = some route

end Program

section Sent

variable {key : Vector UInt8 32} {mode : ObfsMode} {ver : IpVersion} {w headers : Buf} {sport dport : UInt16}
  {cfg : GutConfig} {k : Kernel} {tc : Tc} {port : UInt16} {route : Route}

theorem bridgeSession_ok {pkt : WgPacket} (tc : Tc) (bridged : cfg.dynamicPeer ≠ 0 → pkt.wgType ≠ 1) :
    ∃ sessionMap, bridgeSession cfg pkt tc = .ok { tc with sessionMap } := by
  unfold bridgeSession
  by_cases fixed : cfg.dynamicPeer = 0
  · rw [if_pos fixed]
    exact ⟨tc.sessionMap, rfl⟩
  · rw [if_neg fixed, rejectIf_ok (bridged fixed), bind_ok]
    by_cases response : pkt.wgType = 2
    · rw [if_pos response]
      exact ⟨_, rfl⟩
    · rw [if_neg response]
      exact ⟨tc.sessionMap, rfl⟩

theorem bridgeSession_guards {pkt : WgPacket} {tc' : Tc} (done : bridgeSession cfg pkt tc = .ok tc') :
    cfg.dynamicPeer ≠ 0 → pkt.wgType ≠ 1 := by
  intro dynamic
  rw [bridgeSession, if_neg dynamic] at done
  obtain ⟨u, type, -⟩ := bind_eq_ok.mp done
  exact rejectIf_eq_ok.mp type

structure Parsed (ver : IpVersion) (w : Buf) (sport dport : UInt16) (pkt : WgPacket) : Prop where
  version : pkt.ver = ver
  wgOff : pkt.wgOff = payloadOff ver
  wgLen : pkt.wgLen = w.length
  head : pkt.head = w.take 32
  ports : pkt.plainPorts = packPorts sport dport
  wgType : pkt.wgType = typeOf w
  index : wgIndex pkt = indexOf w
  nonce : wgNonce32 pkt.head = nonceOf w

theorem parseEgress_parsed {skb : Buf} (isUdp : UdpFrame ver sport dport w skb) (message : WgMessage w) :
    ∃ pkt, parseEgress skb = some pkt ∧ Parsed ver w sport dport pkt := by
  have bounds := message.length
  have type : byteAt (w.take 32) 0 &&& 0x1F = typeOf w := by rw [byteAt_take, if_pos (by omega), typeOf]
  have word (off : Nat) (inside : off + 4 ≤ 32) : le32At (w.take 32) off = le32At w off :=
    le32At_congr fun n bounded => by rw [byteAt_take, if_pos (by omega)]
  refine ⟨_, parseEgress_ok isUdp message, rfl, rfl, rfl, rfl, rfl, type, ?_, ?_⟩
  · simp only [wgIndex, WgPacket.wgType, type, indexOf, word 8 (by omega), word 4 (by omega)]
  · simp only [wgNonce32, nonceOf, if_neg (Nat.not_lt.mpr bounds.1), word 16 (by omega), word 20 (by omega),
      word 24 (by omega), word 28 (by omega)]

theorem padBlock_eq (keyed : cfg.Keyed key) (w : Buf) :
    blockBytes .little (chachaBlock cfg.chachaInit 69 (nonceOf w)) = (channel key).padBlock w := by
  rw [chachaBlock_eq, keyed.init]
  rfl

@[simp] theorem length_padBlock (ch : Channel) (w : Buf) : (ch.padBlock w).length = 64 := by
  simp [Channel.padBlock]

theorem length_tcPad_le (key : Vector UInt8 32) (mode : ObfsMode) (w : Buf) : (tcPad key mode w).length ≤ 64 :=
  Userspace.length_encapPad _ _ _ _

theorem egressPadLen_tcPad (key : Vector UInt8 32) (mode : ObfsMode) (w : Buf) :
    egressPadLen mode (egressHdrLen mode (typeOf w)) w.length ((channel key).padBlock w) = (tcPad key mode w).length := by
  rw [egressPadLen_eq, egressHdrLen_eq, tcPad, Userspace.encapPad, Userspace.length_padBytes]

theorem take_padBlock (key : Vector UInt8 32) (mode : ObfsMode) (w : Buf) :
    ((channel key).padBlock w).take (tcPad key mode w).length = tcPad key mode w := by
  rw [← padBytes_eq _ _ (length_tcPad_le key mode w) (by simp)]
  simp [tcPad, Userspace.encapPad]

theorem prepare_ok (keyed : cfg.Keyed key) (fits : mode = .syslog → w.length ≤ gutB64WgMtuMax) (isUdp : UdpFrame ver sport dport w tc.skb)
    (message : WgMessage w) (skb : tc.skb = headers ++ w) (length : headers.length = payloadOff ver)
    (kept : keepaliveDropped cfg k.prandom (typeOf w) w.length = false)
    (selected : tunnelPort mode cfg (nextSeq tc) = some port)
    (extended : 0 < (tcPad key mode w).length → k.changeTail = true)
    (fixed : cfg.dynamicPeer ≠ 0 → typeOf w ≠ 1) :
    ∃ seq sessionMap, prepare mode cfg k tc = .ok (prepared key mode ver w sport dport (nextSeq tc) port,
      { tc with skb := headers ++ (mask ((channel key).keystream w) w ++ tcPad key mode w), seq, sessionMap }) := by
  obtain ⟨pkt, found, parsed⟩ := parseEgress_parsed isUdp message
  obtain ⟨sessionMap, bridged⟩ := bridgeSession_ok
    { tc with skb := headers ++ (w ++ tcPad key mode w), seq := nextSeq tc + 1 } (parsed.wgType.symm ▸ fixed)
  have masked := maskMessage_ok
    { tc with skb := headers ++ (w ++ tcPad key mode w), seq := nextSeq tc + 1, sessionMap } ((channel key).keystream w)
    rfl (by simp [Channel.keystream]) (parsed.wgOff.trans length.symm) parsed.wgLen parsed.head message.length.1
  have grown : padTail k (tcPad key mode w).length ((channel key).padBlock w) { tc with seq := nextSeq tc + 1 } =
      .ok { tc with skb := headers ++ (w ++ tcPad key mode w), seq := nextSeq tc + 1 } := by
    rw [padTail_eq_ok (length_tcPad_le key mode w) (by simp)]
    exact ⟨extended, by rw [take_padBlock, skb, List.append_assoc]⟩
  have keystream : blockBytes .little ((channel key).ks47 w) = (channel key).keystream w := rfl
  refine ⟨nextSeq tc + 1, sessionMap, ?_⟩
  unfold prepare
  rw [found, orReject_some, bind_ok, parsed.wgType, parsed.wgLen, kept, rejectIf_ok (by simp), bind_ok,
    rejectIf_ok (fun large => Nat.not_le.mpr large.2 (fits large.1)), bind_ok]
  simp only [selected, orReject_some, bind_ok, parsed.nonce, keyed.ks47, padBlock_eq keyed, egressPadLen_tcPad, grown,
    bridged, keystream, masked, parsed.version, parsed.wgOff, parsed.index, parsed.ports, pure_eq_ok]
  rw [egressHdrLen_eq]
  rfl

structure TcHeader (key : Vector UInt8 32) (mode : ObfsMode) (w : Buf) (sport dport : UInt16) (header : Buf) : Prop where
  length : header.length = (tcForm mode (typeOf w)).headerLen
  reads : HeaderFor (channel key) (tcForm mode (typeOf w)) w sport dport (tcPad key mode w).length header
  gut : mode = .gut → header = gutHeader (((channel key).ks47 w).get 10)
    (packPorts sport dport ^^^ ((channel key).ks47 w).get 11) (tcPad key mode w).length

theorem emit_ok (tc : Tc) (sport dport : UInt16) (seq : UInt32) (port : UInt16) {body : Buf} (keyed : cfg.Keyed key) (plain : mode = .gut ∨ mode = .quic)
    (skb : tc.skb = headers ++ body) (length : headers.length = payloadOff ver) (untagged : tc.macLen = 14)
    (room : k.adjustRoom = true ∧ k.pullData = true)
    (tail : tcForm mode (typeOf w) = .quicLong → k.tailCall = true ∧ k.pullAgain = true)
    (routed : routeOf cfg tc.clientMap (indexOf w) ver = some route) :
    ∃ tc' header, emit mode cfg k (prepared key mode ver w sport dport seq port) tc = .ok tc' ∧
      TcHeader key mode w sport dport header ∧
      tc'.skb = writeOuterHeaders cfg ver route (writeOuterLengths ver port
        (prepared key mode ver w sport dport seq port).udpLen headers) ++ (header ++ body) := by
  have padding := length_tcPad_le key mode w
  obtain ⟨junk, junkLength, made⟩ := makeRoom_eq_ok k (tcForm mode (typeOf w)).headerLen skb length untagged
  have roomed := (made _).mpr ⟨room.1, room.2, rfl⟩
  have finished (header : Buf) := finish_ok (prepared key mode ver w sport dport seq port)
    { tc with skb := headers ++ (header ++ body) } (prepared key mode ver w sport dport seq port).udpLen rfl length routed
  rcases plain with rfl | rfl
  · obtain ⟨tc', done, frame⟩ := finished (gutHeader (((channel key).ks47 w).get 10)
      (packPorts sport dport ^^^ ((channel key).ks47 w).get 11) (tcPad key .gut w).length)
    refine ⟨tc', _, ?_, ⟨rfl, gutHeader_header _ _ _ _ padding, fun _ => rfl⟩, frame⟩
    change (makeRoom k ver (tcForm .gut (typeOf w)).headerLen tc >>= _) = _
    rw [roomed, bind_ok, ← done, ← writeGutHeader_ok junk _ _ _ junkLength, length]
    rfl
  · by_cases long : typeOf w = 1 ∨ typeOf w = 3
    · have form : tcForm .quic (typeOf w) = .quicLong := by simp [tcForm, long]
      obtain ⟨called, pulled⟩ := tail form
      have outer : (prepared key .quic ver w sport dport seq port).outer ≠ 16 := by simp [prepared, form, Form.headerLen]
      have gap : junk.length = 1200 := by
        rw [junkLength, form, Form.headerLen]
      generalize written : writeQuicLongHeader (List.replicate 1200 0) (typeOf w) (indexOf w)
          (((channel key).ks47 w).get 10) (packPorts sport dport ^^^ ((channel key).ks47 w).get 11) (tcPad key .quic w).length cfg
          (blockBytes .little (chachaBlock cfg.chachaInit 69 (nonceOf w))) k.ktimeNs = header
      have headerLength : header.length = 1200 := by
        rw [← written, length_writeQuicLongHeader, List.length_replicate]
      have stored : overwrite (headers ++ (junk ++ body)) (payloadOff ver) header = headers ++ (header ++ body) := by
        have middle := overwrite_append_next headers (junk ++ body) header (by simp [headerLength, gap])
        rw [headerLength, ← gap, List.drop_left, List.append_assoc] at middle
        rw [← length, middle]
      obtain ⟨tc', done, frame⟩ := finished header
      refine ⟨tc', header, ?_, ⟨by rw [form]; exact headerLength, ?_, by simp⟩, frame⟩
      · unfold emit
        rw [if_neg outer]
        unfold emitLong
        change (makeRoom k ver (tcForm .quic (typeOf w)).headerLen tc >>= _) = _
        rw [roomed, bind_ok, rejectIf_ok (by simp [called]), bind_ok]
        unfold gutEgressQuicLong
        dsimp only
        rw [rejectIf_ok (by simp [pulled]), bind_ok]
        change (orReject _ (storeBytes (headers ++ (junk ++ body)) (payloadOff ver) (writeQuicLongHeader _ (typeOf w) (indexOf w)
          (((channel key).ks47 w).get 10) (packPorts sport dport ^^^ ((channel key).ks47 w).get 11) (tcPad key .quic w).length cfg
          (blockBytes .little (chachaBlock cfg.chachaInit 69 (nonceOf w))) k.ktimeNs)) >>= _) = _
        rw [written, storeBytes_ok (by simp [headerLength, length, gap]), orReject_some, bind_ok, stored, ← done]
      · rw [form, ← written]
        exact writeQuicLongHeader_header _ _ _ _ _ _ _ _ keyed List.length_replicate padding rfl rfl
    · have form : tcForm .quic (typeOf w) = .quicShort := by simp [tcForm, long]
      obtain ⟨tc', done, frame⟩ := finished (quicShortHeader (((channel key).ks47 w).get 9) (((channel key).ks47 w).get 10)
        (packPorts sport dport ^^^ ((channel key).ks47 w).get 11) (tcPad key .quic w).length)
      refine ⟨tc', _, ?_, ⟨by rw [form]; rfl, by rw [form]; exact quicShortHeader_header _ _ _ _ padding, by simp⟩, frame⟩
      have short : (prepared key .quic ver w sport dport seq port).outer = 16 := by simp [prepared, form, Form.headerLen]
      rw [form] at junkLength
      unfold emit
      rw [if_pos short]
      change (makeRoom k ver (tcForm .quic (typeOf w)).headerLen tc >>= _) = _
      rw [roomed, bind_ok, ← done, ← writeQuicShortHeader_ok junk _ _ _ _ junkLength, length]
      rfl

theorem prepare_guards {r : Prepared × Tc} (keyed : cfg.Keyed key) (isUdp : UdpFrame ver sport dport w tc.skb)
    (message : WgMessage w) (done : prepare mode cfg k tc = .ok r) :
    keepaliveDropped cfg k.prandom (typeOf w) w.length = false ∧ (∃ port, tunnelPort mode cfg (nextSeq tc) = some port) ∧
      (0 < (tcPad key mode w).length → k.changeTail = true) ∧ (cfg.dynamicPeer ≠ 0 → typeOf w ≠ 1) ∧
      (mode = .syslog → w.length ≤ gutB64WgMtuMax) := by
  obtain ⟨pkt, found, parsed⟩ := parseEgress_parsed isUdp message
  unfold prepare at done
  simp only [found, orReject_some, bind_ok, parsed.wgType, parsed.wgLen, parsed.nonce, padBlock_eq keyed,
    egressPadLen_tcPad] at done
  obtain ⟨u, kept, done⟩ := bind_eq_ok.mp done
  obtain ⟨u, fits, done⟩ := bind_eq_ok.mp done
  obtain ⟨port, selected, done⟩ := bind_eq_ok.mp done
  obtain ⟨padded, grown, done⟩ := bind_eq_ok.mp done
  obtain ⟨bridged, bridge, -⟩ := bind_eq_ok.mp done
  exact ⟨by simpa using rejectIf_eq_ok.mp kept, ⟨port, orReject_eq_ok.mp selected⟩,
    ((padTail_eq_ok (length_tcPad_le key mode w) (by simp)).mp grown).1, parsed.wgType ▸ bridgeSession_guards bridge,
    fun text => Nat.not_lt.mp fun large => rejectIf_eq_ok.mp fits ⟨text, large⟩⟩

theorem emit_guards (tc : Tc) {body : Buf} {seq : UInt32} {tc' : Tc} (plain : mode = .gut ∨ mode = .quic)
    (skb : tc.skb = headers ++ body) (length : headers.length = payloadOff ver) (untagged : tc.macLen = 14)
    (done : emit mode cfg k (prepared key mode ver w sport dport seq port) tc = .ok tc') :
    (k.adjustRoom = true ∧ k.pullData = true) ∧
      (tcForm mode (typeOf w) = .quicLong → k.tailCall = true ∧ k.pullAgain = true) ∧
      ∃ route, routeOf cfg tc.clientMap (indexOf w) ver = some route := by
  obtain ⟨junk, junkLength, made⟩ := makeRoom_eq_ok k (tcForm mode (typeOf w)).headerLen skb length untagged
  rcases plain with rfl | rfl
  · obtain ⟨tc1, roomed, finished⟩ := bind_eq_ok.mp done
    obtain ⟨adjusted, pulled, rfl⟩ := (made tc1).mp roomed
    exact ⟨⟨adjusted, pulled⟩, nofun, finish_routes finished⟩
  · by_cases long : typeOf w = 1 ∨ typeOf w = 3
    · have form : tcForm .quic (typeOf w) = .quicLong := by simp [tcForm, long]
      have outer : (prepared key .quic ver w sport dport seq port).outer ≠ 16 := by simp [prepared, form, Form.headerLen]
      rw [emit, if_neg outer] at done
      obtain ⟨tc1, roomed, rest⟩ := bind_eq_ok.mp done
      obtain ⟨adjusted, pulled, rfl⟩ := (made tc1).mp roomed
      obtain ⟨u, called, rest⟩ := bind_eq_ok.mp rest
      obtain ⟨u, pulledAgain, rest⟩ := bind_eq_ok.mp rest
      obtain ⟨stored, -, finished⟩ := bind_eq_ok.mp rest
      exact ⟨⟨adjusted, pulled⟩, fun _ => ⟨by simpa using rejectIf_eq_ok.mp called,
        by simpa using rejectIf_eq_ok.mp pulledAgain⟩, finish_routes finished⟩
    · have form : tcForm .quic (typeOf w) = .quicShort := by simp [tcForm, long]
      have outer : (prepared key .quic ver w sport dport seq port).outer = 16 := by simp [prepared, form, Form.headerLen]
      rw [emit, if_pos outer] at done
      obtain ⟨tc1, roomed, finished⟩ := bind_eq_ok.mp done
      obtain ⟨adjusted, pulled, rfl⟩ := (made tc1).mp roomed
      exact ⟨⟨adjusted, pulled⟩, fun other => by simp [form] at other, finish_routes finished⟩

theorem gutEgress_admits {ifindex : UInt32} {tc' : Tc} (keyed : cfg.Keyed key) (plain : mode = .gut ∨ mode = .quic)
    (isUdp : UdpFrame ver sport dport w tc.skb) (message : WgMessage w) (skb : tc.skb = headers ++ w)
    (length : headers.length = payloadOff ver) (untagged : tc.macLen = 14)
    (done : gutEgress mode cfg k tc = (.redirect ifindex, tc')) :
    ∃ port route, Admits key mode ver w cfg k tc port route := by
  unfold gutEgress at done
  dsimp only at done
  split at done
  · rename_i sent run
    obtain ⟨r, prep, emitted⟩ := bind_eq_ok.mp run
    obtain ⟨kept, ⟨port, selected⟩, grown, fixed, fits⟩ := prepare_guards keyed isUdp message prep
    obtain ⟨seq, sessionMap, explicit⟩ := prepare_ok keyed fits isUdp message skb length kept selected grown fixed
    rw [prep] at explicit
    cases explicit
    obtain ⟨room, tail, route, routed⟩ := emit_guards _ plain rfl length (by exact untagged) emitted
    exact ⟨port, route, kept, selected, grown, fixed, room, tail, routed⟩
  · cases done

theorem gutEgress_sends (keyed : cfg.Keyed key) (plain : mode = .gut ∨ mode = .quic)
    (isUdp : UdpFrame ver sport dport w tc.skb) (message : WgMessage w) (skb : tc.skb = headers ++ w)
    (length : headers.length = payloadOff ver) (untagged : tc.macLen = 14)
    (admits : Admits key mode ver w cfg k tc port route) :
    ∃ tc' header, gutEgress mode cfg k tc = (.redirect cfg.egressIfindex, tc') ∧
      TcHeader key mode w sport dport header ∧
      UdpFrame ver (route.source.getD port) (route.dest.getD port)
        (header ++ (mask ((channel key).keystream w) w ++ tcPad key mode w)) tc'.skb := by
  have fits : mode = .syslog → w.length ≤ gutB64WgMtuMax := by rcases plain with rfl | rfl <;> exact nofun
  have bounds := message.length
  have padding := length_tcPad_le key mode w
  have outer := (tcForm mode (typeOf w)).headerLen_le
  obtain ⟨seq, sessionMap, prep⟩ := prepare_ok keyed fits isUdp message skb length admits.kept admits.port admits.grown
    admits.bridged
  obtain ⟨tc', header, emitted, reads, frame⟩ := emit_ok
    { tc with skb := headers ++ (mask ((channel key).keystream w) w ++ tcPad key mode w), seq, sessionMap } sport dport
    (nextSeq tc) port keyed plain rfl length untagged admits.room admits.tail admits.routed
  have fields := isUdp.headers
  rw [skb, UdpHeaders.append_iff length] at fields
  have total : (prepared key mode ver w sport dport (nextSeq tc) port).udpLen =
      (header ++ (mask ((channel key).keystream w) w ++ tcPad key mode w)).length + 8 := by
    have exact := reads.length
    simp only [Prepared.udpLen, prepared, List.length_append, length_mask]
    omega
  refine ⟨tc', header, ?_, reads, ?_⟩
  · unfold gutEgress
    rw [prep, bind_ok]
    dsimp only
    rw [emitted]
  · have rewritten := writeOuterHeaders_fields cfg port length (n := (prepared key mode ver w sport dport (nextSeq tc) port).udpLen)
      (by simp only [Prepared.udpLen, prepared]; omega) (routeOf_lengths admits.routed) fields
    rw [total] at rewritten
    have isFrame := UdpFrame.of_headers [] (by simpa using length) rewritten
    rw [frame, total]
    simpa using isFrame

end Sent

end Gutd.Bpf
