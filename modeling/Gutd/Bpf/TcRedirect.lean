import Gutd.Bpf.Base64
import Gutd.Bpf.SipScan
import Gutd.Bpf.TcPlan
import Gutd.Bpf.WellFormed

set_option autoImplicit false

namespace Gutd.Bpf

open Bytes Checked Wire Checksum

structure OuterFields (ver : IpVersion) (route : Route) (port : UInt16) (n : Nat) (headers out : Buf) : Prop where
  link : be16At out 12 = be16At headers 12
  version : byteAt out 14 = byteAt headers 14
  protocol : byteAt out (14 + ver.protocolOff) = byteAt headers (14 + ver.protocolOff)
  total : ver = .v4 → be16At out 16 = UInt16.ofNat (n + 20)
  payloadLen : ver = .v6 → be16At out 18 = UInt16.ofNat n
  udpLen : be16At out (14 + ver.headerLen + 4) = UInt16.ofNat n
  daddr : slice out (14 + ver.saddrOff + ver.addrLen) (14 + ver.saddrOff + ver.addrLen + ver.addrLen) = route.daddr
  dport : be16At out (14 + ver.headerLen + 2) = route.dest.getD port
  checksum : ver = .v4 → HeaderSum out 14

theorem headerSum_congr {frame frame' : Buf} {ipOff : Nat} (sum : HeaderSum frame ipOff)
    (same : slice frame' ipOff (ipOff + 20) = slice frame ipOff (ipOff + 20)) : HeaderSum frame' ipOff := by
  rw [HeaderSum, same]
  exact sum

theorem headerSum_writeOuterHeaders (cfg : GutConfig) (route : Route) {headers : Buf} (inside : 34 ≤ headers.length) :
    HeaderSum (writeOuterHeaders cfg .v4 route headers) 14 := by
  have summed : HeaderSum (writeIpChecksum 14 (writeRoute .v4 route headers)) 14 :=
    headerSum_writeIpChecksum (by rw [length_writeRoute]; omega)
  refine headerSum_congr summed ?_
  unfold writeOuterHeaders writeUdpChecksum
  dsimp only [IpVersion.headerLen]
  rw [slice_overwrite_other _ _ (.inr (by simp)), slice_overwrite_other _ _ (.inr (by simp)),
    slice_overwrite_other _ _ (.inl (by simp)), slice_overwrite_other _ _ (.inl (by simp))]

theorem outerFields (cfg : GutConfig) {ver : IpVersion} {route : Route} {headers : Buf} (port : UInt16) (n : Nat)
    (length : headers.length = payloadOff ver)
    (lengths : route.saddr.length = ver.addrLen ∧ route.daddr.length = ver.addrLen) :
    OuterFields ver route port n headers (writeOuterHeaders cfg ver route (writeOuterLengths ver port n headers)) := by
  obtain ⟨saddr, daddr⟩ := lengths
  obtain ⟨source, dest, routeSource, routeDest⟩ : ∃ source dest, route.source = source ∧ route.dest = dest :=
    ⟨_, _, rfl, rfl⟩
  cases ver with
  | v4 =>
      simp only [payloadOff, IpVersion.headerLen, IpVersion.addrLen] at length saddr daddr
      refine ⟨?_, ?_, ?_, fun _ => ?_, by simp, ?_, ?_, ?_, fun _ =>
        headerSum_writeOuterHeaders cfg route (by rw [length_writeOuterLengths]; omega)⟩
      all_goals
        unfold writeOuterHeaders writeUdpChecksum writeRoute writeIpChecksum writeOuterLengths
        rw [routeSource, routeDest]
        cases source <;> cases dest <;>
          simp (disch := (simp; try omega)) only [be16At_overwrite_same, be16At_overwrite_other, byteAt_overwrite_other,
            slice_overwrite_other, Option.getD_none, Option.getD_some, Nat.reduceAdd, IpVersion.headerLen,
            IpVersion.protocolOff, IpVersion.saddrOff, IpVersion.addrLen]
      all_goals
        exact slice_overwrite_width _ daddr (by simp; omega)
  | v6 =>
      simp only [payloadOff, IpVersion.headerLen, IpVersion.addrLen] at length saddr daddr
      refine ⟨?_, ?_, ?_, by simp, fun _ => ?_, ?_, ?_, ?_, by simp⟩
      all_goals
        unfold writeOuterHeaders writeUdpChecksum writeRoute writeIpChecksum writeOuterLengths
        rw [routeSource, routeDest]
        cases source <;> cases dest <;>
          simp (disch := (simp; try omega)) only [be16At_overwrite_same, be16At_overwrite_other, byteAt_overwrite_other,
            slice_overwrite_other, Option.getD_none, Option.getD_some, Nat.reduceAdd, IpVersion.headerLen,
            IpVersion.protocolOff, IpVersion.saddrOff, IpVersion.addrLen]
      all_goals
        exact slice_overwrite_width _ daddr (by simp; omega)

section Packet

variable {mode : ObfsMode} {cfg : GutConfig} {k : Kernel} {tc : Tc} {pkt : WgPacket} {port : UInt16} {pl : Plan} {route : Route}

@[simp] theorem length_maskMac2In (skb : Buf) (wgOff wgLen : Nat) (wgType : UInt8) (ks : Buf) :
    (maskMac2In skb wgOff wgLen wgType ks).length = skb.length := by
  unfold maskMac2In
  split
  · rfl
  · split
    · rfl
    · unfold storeBytes
      split_ifs <;> simp

@[simp] theorem length_maskedIn (cfg : GutConfig) (pkt : WgPacket) (skb : Buf) : (maskedIn cfg pkt skb).length = skb.length := by
  simp [maskedIn]

theorem byteAt_maskedIn (cfg : GutConfig) (pkt : WgPacket) (skb : Buf) {i : Nat} (before : i < pkt.wgOff) :
    byteAt (maskedIn cfg pkt skb) i = byteAt skb i := by
  have first : byteAt (overwrite skb pkt.wgOff ((xorAt pkt.head 0 (slice (streamOf cfg pkt) 0 16)).take 16)) i = byteAt skb i :=
    byteAt_overwrite_other _ _ _ _ (.inl before)
  unfold maskedIn maskMac2In
  split
  · exact first
  · split
    · exact first
    · unfold storeBytes
      split_ifs
      · exact first
      · rw [Option.getD_some, byteAt_overwrite_other _ _ _ _ (.inl (by omega)), first]

theorem length_preparedTc (mode : ObfsMode) (cfg : GutConfig) (tc : Tc) (pkt : WgPacket) :
    (preparedTc mode cfg tc pkt).skb.length = tc.skb.length + padLenOf mode cfg pkt := by
  simp [preparedTc]

theorem byteAt_preparedTc (mode : ObfsMode) (cfg : GutConfig) (tc : Tc) {i : Nat} (before : i < pkt.wgOff)
    (inside : i < tc.skb.length) : byteAt (preparedTc mode cfg tc pkt).skb i = byteAt tc.skb i := by
  unfold preparedTc
  dsimp only
  rw [byteAt_maskedIn _ _ _ before, byteAt_append_left _ _ _ inside]

@[simp] theorem length_storedSkb (mode : ObfsMode) (cfg : GutConfig) (tc : Tc) (pkt : WgPacket) (pl : Plan) :
    (storedSkb mode cfg tc pkt pl).length = tc.skb.length + padLenOf mode cfg pkt + pl.room := by
  simp [storedSkb, length_preparedTc]

theorem storedSkb_drop (fits : pl.Fits k pkt.ver (preparedTc mode cfg tc pkt).skb) :
    (storedSkb mode cfg tc pkt pl).drop (payloadOff pkt.ver) = pl.head ++
      ((preparedTc mode cfg tc pkt).shifted pl.room pkt.ver).drop (payloadOff pkt.ver + pl.head.length) := by
  have stored := fits.stored
  have width := length_shifted (preparedTc mode cfg tc pkt) pl.room pkt.ver
  rw [storedSkb, overwrite_eq_append _ _ _ (by omega), List.append_assoc, List.drop_left' (by rw [List.length_take]; omega)]

theorem byteAt_storedSkb_link (ethernet : 14 ≤ tc.macLen) (inside : pkt.Inside tc.skb) {i : Nat} (link : i < 14) :
    byteAt (storedSkb mode cfg tc pkt pl) i = byteAt tc.skb i := by
  have off := inside.front
  have first := inside.first
  have length := length_preparedTc mode cfg tc pkt
  have wide : 14 ≤ payloadOff pkt.ver := by
    unfold payloadOff
    omega
  have front := @take_shifted_link (preparedTc mode cfg tc pkt) pl.room pkt.ver ethernet (by omega)
  have same := congrArg (byteAt · i) front
  simp only [byteAt_take, if_pos link] at same
  rw [storedSkb, byteAt_overwrite_other _ _ _ _ (.inl (by omega)), same, byteAt_preparedTc mode cfg tc (by omega) (by omega)]

theorem byteAt_storedSkb_headers (untagged : tc.macLen = 14)
    (fits : pl.Fits k pkt.ver (preparedTc mode cfg tc pkt).skb) {i : Nat} (header : i < payloadOff pkt.ver) :
    byteAt (storedSkb mode cfg tc pkt pl) i = byteAt (preparedTc mode cfg tc pkt).skb i := by
  obtain ⟨junk, -, shifted⟩ := @shifted_eq (preparedTc mode cfg tc pkt) pl.room pkt.ver untagged fits.headers
  have headers := fits.headers
  rw [storedSkb, byteAt_overwrite_other _ _ _ _ (.inl header), shifted,
    byteAt_append_left _ _ _ (by rw [List.length_take]; omega), byteAt_take, if_pos header]

theorem byteAt_storedSkb_plain (inside : pkt.Inside tc.skb) (link : tc.macLen = 14) (off : pkt.wgOff = payloadOff pkt.ver)
    (fits : pl.Fits k pkt.ver (preparedTc mode cfg tc pkt).skb) {i : Nat} (header : i < payloadOff pkt.ver) :
    byteAt ((storedSkb mode cfg tc pkt pl).take (payloadOff pkt.ver)) i = byteAt tc.skb i := by
  have first := inside.first
  rw [byteAt_take, if_pos header, byteAt_storedSkb_headers link fits header,
    byteAt_preparedTc mode cfg tc (by omega) (by omega)]

theorem sentSkb_split (sends : Sends mode cfg k tc pkt port pl route) :
    ∃ headers, sentSkb mode cfg tc pkt pl route = headers ++ (storedSkb mode cfg tc pkt pl).drop (payloadOff pkt.ver) ∧
      headers.length = payloadOff pkt.ver ∧
      OuterFields pkt.ver route pl.port pl.udpLen ((storedSkb mode cfg tc pkt pl).take (payloadOff pkt.ver)) headers := by
  have lengths := routeOf_lengths sends.routed
  have headers := sends.fits.headers
  rw [length_preparedTc] at headers
  have width : ((storedSkb mode cfg tc pkt pl).take (payloadOff pkt.ver)).length = payloadOff pkt.ver := by
    rw [List.length_take, length_storedSkb]
    omega
  refine ⟨_, ?_, ?_, outerFields cfg pl.port pl.udpLen width lengths⟩
  · have split := (List.take_append_drop (payloadOff pkt.ver) (storedSkb mode cfg tc pkt pl)).symm
    rw [sentSkb]
    nth_rewrite 1 [split]
    rw [writeOuterLengths_append _ _ _ _ _ (by omega),
      writeOuterHeaders_append _ _ _ (by rw [length_writeOuterLengths]; omega) lengths]
  · rw [length_writeOuterHeaders, length_writeOuterLengths, width]

end Packet

def encapsulation (mode : ObfsMode) (cfg : GutConfig) (k : Kernel) (p : Prepared) (body : Buf) : Buf :=
  match mode with
  | .gut => gutHeader p.ppn p.encPorts p.padLen ++ body
  | .quic =>
      if p.outer = 16 then quicShortHeader (p.ks47.get 9) p.ppn p.encPorts p.padLen ++ body
      else
        writeQuicLongHeader (List.replicate 1200 0) p.wgType p.wgIdx p.ppn p.encPorts p.padLen cfg
          (blockBytes .little (chachaBlock cfg.chachaInit 69 p.nonce)) k.ktimeNs ++ body
  | .syslog => writeSyslogAscii cfg k.taiNs ++ Base64.encode (gutHeader p.ppn p.encPorts p.padLen ++ body)
  | .sip =>
      if p.wgType = 4 ∧ p.wgLen > 32 then rtpGut p ++ body
      else writeSipHeader cfg p.wgType p.wgLen k.taiNs ++ Base64.encode (gutHeader p.ppn p.encPorts p.padLen ++ body)

section Plan

variable {mode : ObfsMode} {cfg : GutConfig} {k : Kernel} {p : Prepared} {tc : Tc} {pl : Plan} {hdr text : Buf}

def Prepared.total (p : Prepared) : Nat := (p.wgLen + p.padLen) % 2 ^ 32

structure Prepends (mode : ObfsMode) (cfg : GutConfig) (k : Kernel) (p : Prepared) (pl : Plan) : Prop where
  room : pl.head.length = pl.room
  bounds : pl.room = 10 ∨ pl.room = 16 ∨ pl.room = 22 ∨ pl.room = 1200
  udpLen : pl.udpLen = pl.room + p.wgLen + p.padLen + 8
  whole : ∀ body, encapsulation mode cfg k p body = pl.head ++ body

structure Replaces (mode : ObfsMode) (cfg : GutConfig) (k : Kernel) (p : Prepared) (tc : Tc) (pl : Plan) (hdr : Buf) :
    Prop where
  build : mode = .syslog ∨ mode = .sip
  total : 32 ≤ p.total ∧ p.total ≤ 886
  inside : p.wgOff + p.total ≤ tc.skb.length
  head : pl.head = hdr ++
    Base64.encode (gutHeader p.ppn p.encPorts p.padLen ++ slice tc.skb p.wgOff (p.wgOff + p.total))
  room : pl.room + p.total = pl.head.length
  udpLen : pl.udpLen = pl.head.length + 8
  whole : ∀ body, encapsulation mode cfg k p body = hdr ++ Base64.encode (gutHeader p.ppn p.encPorts p.padLen ++ body)

theorem encodeInner_inv (outer : p.outer = gutHeaderSize) (done : encodeInner p tc = .ok text) :
    (32 ≤ p.total ∧ p.total ≤ 886) ∧ p.wgOff + p.total ≤ tc.skb.length ∧
      text = Base64.encode (gutHeader p.ppn p.encPorts p.padLen ++ slice tc.skb p.wgOff (p.wgOff + p.total)) := by
  have constants : gutHeaderSize = 10 ∧ wgMinPacket = 32 ∧ gutB64MaxInner = 896 := ⟨rfl, rfl, rfl⟩
  have header : (gutHeader p.ppn p.encPorts p.padLen).length = 10 := rfl
  obtain ⟨u, sized, done⟩ := bind_eq_ok.mp done
  obtain ⟨u, -, done⟩ := bind_eq_ok.mp done
  obtain ⟨body, loaded, done⟩ := bind_eq_ok.mp done
  obtain ⟨u, -, done⟩ := bind_eq_ok.mp done
  have bounds := rejectIf_eq_ok.mp sized
  have total : (p.wgLen + p.padLen) % 2 ^ 32 = p.total := rfl
  rw [total] at bounds
  have same : p.total % 2 ^ 10 = p.total := Nat.mod_eq_of_lt (by omega)
  rw [total, same] at loaded
  obtain ⟨inside, rfl⟩ := loadBytes_some (orReject_eq_ok.mp loaded)
  cases done
  refine ⟨by omega, inside, b64Encode_eq _ ?_⟩
  rw [List.length_append, header, length_slice]
  omega

theorem textPlan_replaces {hdrLimit : Nat} (text' : mode = .syslog ∨ mode = .sip) (outer : p.outer = gutHeaderSize)
    (short : hdr.length ≤ 256) (encoded : encodeInner p tc = .ok text) (planned : textPlan p hdr text hdrLimit = .ok pl)
    (whole : ∀ body, encapsulation mode cfg k p body = hdr ++ Base64.encode (gutHeader p.ppn p.encPorts p.padLen ++ body)) :
    Replaces mode cfg k p tc pl hdr := by
  obtain ⟨total, inside, rfl⟩ := encodeInner_inv outer encoded
  have header : (gutHeader p.ppn p.encPorts p.padLen).length = 10 := rfl
  have size := Base64.length_encode (gutHeader p.ppn p.encPorts p.padLen ++ slice tc.skb p.wgOff (p.wgOff + p.total))
  rw [List.length_append, header, length_slice] at size
  have sum : (p.wgLen + p.padLen) % 2 ^ 32 = p.total := rfl
  obtain ⟨u, -, done⟩ := bind_eq_ok.mp planned
  cases done
  refine ⟨text', total, inside, rfl, ?_, ?_, whole⟩
  · dsimp only
    rw [List.length_append, sum]
    unfold sub32
    omega
  · rw [List.length_append]

theorem plan_cases (sized : p.outer = egressHdrLen mode p.wgType) (planned : plan mode cfg k p tc = .ok pl) :
    Prepends mode cfg k p pl ∨ ∃ hdr, Replaces mode cfg k p tc pl hdr := by
  cases mode with
  | gut =>
      have outer : p.outer = 10 := sized
      cases planned
      exact .inl ⟨outer.symm, .inl outer, by simp only [gutPlan, Prepared.udpLen]; omega, fun _ => rfl⟩
  | quic =>
      cases planned
      by_cases short : p.outer = 16
      · rw [if_pos short]
        refine .inl ⟨short.symm, .inr (.inl short), by simp only [shortPlan, Prepared.udpLen]; omega, fun body => ?_⟩
        rw [encapsulation, if_pos short]
        rfl
      · have long : p.outer = 1200 := by
          simp only [egressHdrLen] at sized
          split_ifs at sized
          · exact sized
          · exact absurd sized short
        rw [if_neg short]
        refine .inl ⟨?_, .inr (.inr (.inr long)), by simp only [longPlan, Prepared.udpLen]; omega, fun body => ?_⟩
        · simp only [longPlan, length_writeQuicLongHeader, List.length_replicate, long]
        · simp only [encapsulation, if_neg short, longPlan]
  | syslog =>
      obtain ⟨text, found, rest⟩ := bind_eq_ok.mp planned
      have encoded : encodeInner p tc = .ok text := by rw [encodeInner_eq, orReject_eq_ok.mp found, orReject_some]
      exact .inr ⟨_, textPlan_replaces (.inl rfl) sized (by rw [length_writeSyslogAscii]; omega) encoded rest fun _ => rfl⟩
  | sip =>
      unfold plan at planned
      dsimp only at planned
      split_ifs at planned with data
      · obtain ⟨u, -, rest⟩ := bind_eq_ok.mp planned
        cases rest
        have outer : p.outer = 10 := sized
        refine .inl ⟨rfl, .inr (.inr (.inl rfl)), by simp only [rtpPlan, Prepared.udpLen]; omega, fun body => ?_⟩
        rw [encapsulation, if_pos data]
        rfl
      · obtain ⟨u, -, rest⟩ := bind_eq_ok.mp planned
        obtain ⟨text, found, rest⟩ := bind_eq_ok.mp rest
        obtain ⟨u, -, rest⟩ := bind_eq_ok.mp rest
        have encoded : encodeInner p tc = .ok text := by rw [encodeInner_eq, orReject_eq_ok.mp found, orReject_some]
        have start := length_viaStart cfg p.wgType p.wgLen
        refine .inr ⟨_, textPlan_replaces (.inr rfl) sized (by rw [length_writeSipHeader]; omega) encoded rest fun body => ?_⟩
        rw [encapsulation, if_neg data]

theorem first_writeSipHeader (cfg : GutConfig) (wgType : UInt8) (wgLen taiNs : Nat) (rest : Buf) :
    byteAt (writeSipHeader cfg wgType wgLen taiNs ++ rest) 0 ∈ ascii "RSOM" := by
  have letters : ∀ s ∈ [ascii "REGISTER sip:", ascii "SIP/2.0 200 OK\r\n", ascii "SIP/2.0 401 Unauthorized\r\n",
      ascii "OPTIONS sip:5060@", ascii "MESSAGE sip:5060@"], s ≠ [] ∧ byteAt s 0 ∈ ascii "RSOM" := by
    decide +kernel
  have front (s behind : Buf) (known : s ∈ [ascii "REGISTER sip:", ascii "SIP/2.0 200 OK\r\n",
      ascii "SIP/2.0 401 Unauthorized\r\n", ascii "OPTIONS sip:5060@", ascii "MESSAGE sip:5060@"]) :
      byteAt (s ++ behind) 0 ∈ ascii "RSOM" := by
    obtain ⟨some, letter⟩ := letters s known
    rw [byteAt_append_left _ _ _ (List.length_pos_iff.mpr some)]
    exact letter
  rw [writeSipHeader_eq, viaStart]
  unfold sipStartLine
  split_ifs <;> simp only [List.append_assoc]
  · exact front _ _ (by simp)
  · exact front _ _ (by simp)
  · exact front _ _ (by simp)
  · exact front _ _ (by simp)
  · exact front _ _ (by simp)

theorem first_writeQuicLongHeader (wgType : UInt8) (wgIdx ppn encPorts : UInt32) (padLen : Nat) (cfg : GutConfig)
    (padBlock : Buf) (ktimeNs : Nat) {quic : Buf} (whole : quic.length = 1200) :
    byteAt (writeQuicLongHeader quic wgType wgIdx ppn encPorts padLen cfg padBlock ktimeNs) 0 &&& 0xC0 = 0xC0 := by
  obtain ⟨m, low, bytes⟩ := byteAt_writeQuicLongHeader wgType wgIdx ppn encPorts padLen cfg padBlock ktimeNs whole
  rw [bytes 0 (by omega), byteAt_xorAt, if_pos (by simp), xor_and_distrib]
  change (_ &&& 0xC0) ^^^ (m &&& 0xC0) = _
  rw [low, UInt8.xor_zero]
  change (if wgType = 3 then (0xF3 : UInt8) else 0xC3) &&& 0xC0 = 0xC0
  split_ifs <;> decide

theorem plan_first (sized : p.outer = egressHdrLen mode p.wgType) (planned : plan mode cfg k p tc = .ok pl)
    (wrapped : mode ≠ .gut) : byteAt pl.head 0 ≠ 7 := by
  cases mode with
  | gut => exact absurd rfl wrapped
  | quic =>
      cases planned
      by_cases short : p.outer = 16
      · rw [if_pos short]
        change (0x40 : UInt8) ≠ 7
        decide
      · rw [if_neg short]
        have high := first_writeQuicLongHeader p.wgType p.wgIdx p.ppn p.encPorts p.padLen cfg
          (blockBytes .little (chachaBlock cfg.chachaInit 69 p.nonce)) k.ktimeNs
          (List.length_replicate : (List.replicate 1200 (0 : UInt8)).length = 1200)
        intro seven
        simp only [longPlan] at seven
        rw [seven] at high
        exact absurd high (by decide)
  | syslog =>
      obtain ⟨text, -, rest⟩ := bind_eq_ok.mp planned
      obtain ⟨u, -, done⟩ := bind_eq_ok.mp rest
      cases done
      unfold writeSyslogAscii
      simp only [List.append_assoc]
      rw [byteAt_append_left _ _ _ (by decide)]
      decide
  | sip =>
      unfold plan at planned
      dsimp only at planned
      split_ifs at planned with data
      · obtain ⟨u, -, rest⟩ := bind_eq_ok.mp planned
        cases rest
        change (0x80 : UInt8) ≠ 7
        decide
      · obtain ⟨u, -, rest⟩ := bind_eq_ok.mp planned
        obtain ⟨text, -, rest⟩ := bind_eq_ok.mp rest
        obtain ⟨u, -, rest⟩ := bind_eq_ok.mp rest
        obtain ⟨u, -, done⟩ := bind_eq_ok.mp rest
        cases done
        intro seven
        have letter := first_writeSipHeader cfg p.wgType p.wgLen k.taiNs text
        rw [seven] at letter
        exact absurd letter (by decide)

end Plan

section Layout

variable {skb : Buf} {pkt : WgPacket}

theorem parseEgress_layout (found : parseEgress skb = some pkt) :
    be16At skb 12 = ethP8021Q ∧ pkt.ver = .v4 ∨
      be16At skb 12 = pkt.ver.etherType ∧ byteAt skb (14 + pkt.ver.protocolOff) = ipprotoUdp ∧
        (pkt.ver = .v4 → pkt.wgOff = 22 + (byteAt skb 14 &&& 0x0F).toNat * 4) ∧
        (pkt.ver = .v6 → pkt.wgOff = payloadOff .v6) := by
  unfold parseEgress at found
  split_ifs at found
  cases located : locateUdp skb with
  | none => simp [located] at found
  | some result =>
      obtain ⟨ver, udpOff⟩ := result
      rw [located] at found
      obtain ⟨sameVer, off, -⟩ := parseMessage_inside (locateUdp_off located) found
      unfold locateUdp at located
      rw [sameVer, off]
      by_cases tagged : be16At skb 12 = ethP8021Q
      · have other : ethP8021Q ≠ IpVersion.v6.etherType := by decide
        simp only [tagged, beq_self_eq_true, if_true, if_neg other] at located
        split_ifs at located
        cases located
        exact .inl ⟨tagged, rfl⟩
      · have untagged : (be16At skb 12 == ethP8021Q) = false := by simpa using tagged
        simp only [untagged, Bool.false_eq_true, if_false] at located
        split_ifs at located with v4 short other v6 <;> cases located
        · exact .inr ⟨v4, not_not.mp other, fun _ => by omega, nofun⟩
        · rename_i udp
          exact .inr ⟨v6, not_not.mp udp, nofun, fun _ => rfl⟩

end Layout

def WgPacket.message (pkt : WgPacket) (skb : Buf) : Buf := slice skb pkt.wgOff (pkt.wgOff + pkt.wgLen)

def bodyOf (mode : ObfsMode) (cfg : GutConfig) (pkt : WgPacket) (skb : Buf) : Buf :=
  mask (streamOf cfg pkt) (pkt.message skb) ++ padOf mode cfg pkt

def encapsulated (mode : ObfsMode) (cfg : GutConfig) (k : Kernel) (tc : Tc) (pkt : WgPacket) : Buf :=
  -- the port is no part of it
  encapsulation mode cfg k (preparedOf mode cfg pkt (nextSeq tc) 0) (bodyOf mode cfg pkt tc.skb)

section Frames

variable {mode : ObfsMode} {cfg : GutConfig} {k : Kernel} {tc : Tc} {pkt : WgPacket} {port : UInt16} {pl : Plan}

theorem encapsulation_port (mode : ObfsMode) (cfg : GutConfig) (k : Kernel) (pkt : WgPacket) (seq : UInt32) (port : UInt16)
    (body : Buf) : encapsulation mode cfg k (preparedOf mode cfg pkt seq port) body =
      encapsulation mode cfg k (preparedOf mode cfg pkt seq 0) body := by
  cases mode <;> simp only [encapsulation, preparedOf, rtpGut, Prepared.ppn] <;> split_ifs <;> rfl

theorem length_bodyOf (mode : ObfsMode) (cfg : GutConfig) {skb : Buf} (inside : pkt.Inside skb) (proper : pkt.wgLen < 2 ^ 16) :
    (bodyOf mode cfg pkt skb).length = pkt.wgLen + padLenOf mode cfg pkt := by
  have whole := inside.whole proper
  rw [bodyOf, List.length_append, length_mask, WgPacket.message, length_slice, length_padOf]
  omega

theorem total_preparedOf (mode : ObfsMode) (cfg : GutConfig) (seq : UInt32) (port : UInt16) (proper : pkt.wgLen < 2 ^ 16) :
    (preparedOf mode cfg pkt seq port).total = pkt.wgLen + padLenOf mode cfg pkt := by
  have padding := padLenOf_le mode cfg pkt
  exact Nat.mod_eq_of_lt (by simp only [preparedOf]; omega)

theorem plan_lengths (inside : pkt.Inside tc.skb) (proper : pkt.wgLen < 2 ^ 16)
    (planned : plan mode cfg k (preparedOf mode cfg pkt (nextSeq tc) port) (preparedTc mode cfg tc pkt) = .ok pl) :
    pl.udpLen = (encapsulated mode cfg k tc pkt).length + 8 ∧
      (encapsulated mode cfg k tc pkt).length = pl.room + pkt.wgLen + padLenOf mode cfg pkt := by
  have body := length_bodyOf mode cfg inside proper
  have total := total_preparedOf mode cfg (nextSeq tc) port proper
  rw [encapsulated, ← encapsulation_port mode cfg k pkt (nextSeq tc) port]
  rcases plan_cases rfl planned with prepends | ⟨hdr, replaces⟩
  · have width := prepends.room
    have udpLen : pl.udpLen = pl.room + pkt.wgLen + padLenOf mode cfg pkt + 8 := prepends.udpLen
    rw [prepends.whole, List.length_append, body]
    omega
  · obtain ⟨-, -, loaded, head, room, udpLen, whole⟩ := replaces
    have same : (encapsulation mode cfg k (preparedOf mode cfg pkt (nextSeq tc) port) (bodyOf mode cfg pkt tc.skb)).length =
        pl.head.length := by
      rw [whole, head, List.length_append, List.length_append, Base64.length_encode, Base64.length_encode,
        List.length_append, List.length_append, body, length_slice, total]
      omega
    omega

-- the packets that the sender rewrites as they are: headers without tag and options, and nothing behind the datagram
structure PlainPacket (mode : ObfsMode) (cfg : GutConfig) (k : Kernel) (tc : Tc) (pkt : WgPacket) : Prop where
  untagged : be16At tc.skb 12 ≠ ethP8021Q
  options : pkt.ver = .v4 → byteAt tc.skb 14 &&& 0x0F = 5
  -- a UDP length below eight has wrapped around
  announced : pkt.wgLen < 2 ^ 16
  ends : tc.skb.length = pkt.wgOff + pkt.wgLen
  fits : (encapsulated mode cfg k tc pkt).length + 8 < 2 ^ 16 ∧
    (pkt.ver = .v4 → (encapsulated mode cfg k tc pkt).length + 28 < 2 ^ 16)

theorem wgOff_eq (found : parseEgress tc.skb = some pkt) (untagged : be16At tc.skb 12 ≠ ethP8021Q)
    (options : pkt.ver = .v4 → byteAt tc.skb 14 &&& 0x0F = 5) : pkt.wgOff = payloadOff pkt.ver := by
  rcases parseEgress_layout found with ⟨tagged, -⟩ | ⟨-, -, v4, v6⟩
  · exact absurd tagged untagged
  · cases ver : pkt.ver with
    | v4 =>
        rw [v4 ver, options ver]
        rfl
    | v6 => exact v6 ver

theorem preparedTc_plain (found : parseEgress tc.skb = some pkt) (plain : PlainPacket mode cfg k tc pkt) :
    (preparedTc mode cfg tc pkt).skb = tc.skb.take (payloadOff pkt.ver) ++ bodyOf mode cfg pkt tc.skb ∧
      (tc.skb.take (payloadOff pkt.ver)).length = payloadOff pkt.ver := by
  have inside := parseEgress_inside found
  have first := inside.first
  have bounds := inside.lengths.1
  have ends := plain.ends
  have off := wgOff_eq found plain.untagged plain.options
  have width : (tc.skb.take (payloadOff pkt.ver)).length = payloadOff pkt.ver := by
    rw [List.length_take]
    omega
  have message : tc.skb.drop (payloadOff pkt.ver) = pkt.message tc.skb := by
    rw [WgPacket.message, slice, off, ← off, List.take_of_length_le (by rw [List.length_drop]; omega)]
  have split : tc.skb ++ padOf mode cfg pkt =
      tc.skb.take (payloadOff pkt.ver) ++ (pkt.message tc.skb ++ padOf mode cfg pkt) := by
    rw [← message, ← List.append_assoc, List.take_append_drop]
  have size : (pkt.message tc.skb).length = pkt.wgLen := by
    rw [← message, List.length_drop]
    omega
  have head : pkt.head = (pkt.message tc.skb).take 32 := by
    rw [inside.head, ← message, slice, off, Nat.add_sub_cancel_left]
  have head32 : pkt.head.length = 32 := by
    rw [head, List.length_take]
    omega
  have masked := maskMessage_ok { tc with skb := tc.skb ++ padOf mode cfg pkt } (streamOf cfg pkt) split
    (length_streamOf cfg pkt) (off.trans width.symm) size.symm head (by omega)
  rw [maskMessage_eq _ (by simp only [List.length_append]; omega) (by omega)] at masked
  exact ⟨congrArg Tc.skb (Except.ok.inj masked), width⟩

theorem storedSkb_plain (found : parseEgress tc.skb = some pkt) (plain : PlainPacket mode cfg k tc pkt)
    (link : tc.macLen = 14)
    (planned : plan mode cfg k (preparedOf mode cfg pkt (nextSeq tc) port) (preparedTc mode cfg tc pkt) = .ok pl)
    (fits : pl.Fits k pkt.ver (preparedTc mode cfg tc pkt).skb) :
    (storedSkb mode cfg tc pkt pl).drop (payloadOff pkt.ver) = encapsulated mode cfg k tc pkt := by
  have inside := parseEgress_inside found
  have off := wgOff_eq found plain.untagged plain.options
  have body := length_bodyOf mode cfg inside plain.announced
  have total := total_preparedOf mode cfg (nextSeq tc) port plain.announced
  obtain ⟨prepared, width⟩ := preparedTc_plain found plain
  obtain ⟨junk, junkLength, shifted⟩ := @shifted_eq (preparedTc mode cfg tc pkt) pl.room pkt.ver link fits.headers
  have behind : (preparedTc mode cfg tc pkt).skb.drop (payloadOff pkt.ver) = bodyOf mode cfg pkt tc.skb := by
    rw [prepared, List.drop_left' width]
  have front : ((preparedTc mode cfg tc pkt).skb.take (payloadOff pkt.ver)).length = payloadOff pkt.ver := by
    rw [List.length_take]
    have := fits.headers
    omega
  rw [storedSkb_drop fits, shifted, behind, ← List.drop_drop, List.drop_left' front, encapsulated,
    ← encapsulation_port mode cfg k pkt (nextSeq tc) port]
  rcases plan_cases rfl planned with prepends | ⟨hdr, replaces⟩
  · rw [prepends.whole, prepends.room, List.drop_left' junkLength]
  · have rest : (junk ++ bodyOf mode cfg pkt tc.skb).length = pl.head.length := by
      rw [List.length_append, body, junkLength, ← replaces.room, total]
    have loaded : slice (preparedTc mode cfg tc pkt).skb (preparedOf mode cfg pkt (nextSeq tc) port).wgOff
        ((preparedOf mode cfg pkt (nextSeq tc) port).wgOff + (preparedOf mode cfg pkt (nextSeq tc) port).total) =
        bodyOf mode cfg pkt tc.skb := by
      have same : (preparedOf mode cfg pkt (nextSeq tc) port).wgOff = payloadOff pkt.ver := off
      rw [same, total, slice, behind, Nat.add_sub_cancel_left, ← body, List.take_length]
    rw [List.drop_eq_nil_of_le (by omega), List.append_nil, replaces.whole, replaces.head, loaded]

theorem padLenOf_text (text : mode = .syslog ∨ mode = .sip) (large : 220 ≤ pkt.wgLen) : padLenOf mode cfg pkt ≤ 15 := by
  have short : ¬pkt.wgLen < ballastThreshold := Nat.not_lt.mpr large
  rcases text with rfl | rfl <;> simp only [padLenOf, egressPadLen, if_neg short] <;> omega

variable {route : Route} {pos : UdpPos}

theorem length_encapsulation_prepends {p : Prepared} (prepends : Prepends mode cfg k p pl) (body : Buf) :
    (encapsulation mode cfg k p body).length = pl.room + body.length := by
  rw [prepends.whole, List.length_append, prepends.room]

theorem wrapped_udpLen (inside : pkt.Inside tc.skb) (wrapped : 2 ^ 16 ≤ pkt.wgLen)
    (planned : plan mode cfg k (preparedOf mode cfg pkt (nextSeq tc) port) (preparedTc mode cfg tc pkt) = .ok pl) :
    pl.udpLen % 2 ^ 16 < (encapsulated mode cfg k tc pkt).length ∧ pl.udpLen % 2 ^ 16 < 2028 := by
  have padding := padLenOf_le mode cfg pkt
  have bounds := inside.lengths
  have first := inside.first
  have body : padLenOf mode cfg pkt + 32 ≤ (bodyOf mode cfg pkt tc.skb).length := by
    rw [bodyOf, List.length_append, length_mask, WgPacket.message, length_slice, length_padOf]
    omega
  rw [encapsulated, ← encapsulation_port mode cfg k pkt (nextSeq tc) port]
  rcases plan_cases rfl planned with prepends | ⟨hdr, replaces⟩
  · have udpLen : pl.udpLen = pl.room + pkt.wgLen + padLenOf mode cfg pkt + 8 := prepends.udpLen
    have room := prepends.bounds
    rw [length_encapsulation_prepends prepends]
    omega
  · have small := @padLenOf_text _ cfg pkt replaces.build (by omega)
    have total := replaces.total
    have sum : (preparedOf mode cfg pkt (nextSeq tc) port).total = (pkt.wgLen + padLenOf mode cfg pkt) % 2 ^ 32 := rfl
    omega

theorem sent_fields (sends : Sends mode cfg k tc pkt port pl route) (ethernet : 14 ≤ tc.macLen)
    (inside : pkt.Inside tc.skb) :
    be16At (sentSkb mode cfg tc pkt pl route) 12 = be16At tc.skb 12 ∧
      (be16At (sentSkb mode cfg tc pkt pl route) (14 + pkt.ver.headerLen + 4)).toNat = pl.udpLen % 2 ^ 16 ∧
      (pkt.ver = .v4 → (be16At (sentSkb mode cfg tc pkt pl route) 16).toNat = (pl.udpLen + 20) % 2 ^ 16) ∧
      (pkt.ver = .v6 → (be16At (sentSkb mode cfg tc pkt pl route) 18).toNat = pl.udpLen % 2 ^ 16) ∧
      (sentSkb mode cfg tc pkt pl route).length = tc.skb.length + padLenOf mode cfg pkt + pl.room ∧
      (sentSkb mode cfg tc pkt pl route).drop (payloadOff pkt.ver) =
        (storedSkb mode cfg tc pkt pl).drop (payloadOff pkt.ver) := by
  obtain ⟨headers, split, width, fields⟩ := sentSkb_split sends
  have wide : 42 ≤ payloadOff pkt.ver ∧ 14 + pkt.ver.headerLen + 8 = payloadOff pkt.ver := by
    cases pkt.ver <;> decide
  have word (i : Nat) (header : i + 2 ≤ payloadOff pkt.ver) : be16At (sentSkb mode cfg tc pkt pl route) i = be16At headers i := by
    rw [split]
    exact be16At_append_left _ _ _ (by omega)
  refine ⟨?_, ?_, fun v4 => ?_, fun v6 => ?_, ?_, ?_⟩
  · rw [word 12 (by omega), fields.link]
    apply be16At_congr
    intro i small
    rw [byteAt_take, if_pos (by omega), byteAt_storedSkb_link ethernet inside (by omega)]
  · rw [word _ (by omega), fields.udpLen, UInt16.toNat_ofNat']
  · rw [word 16 (by omega), fields.total v4, UInt16.toNat_ofNat']
  · rw [word 18 (by omega), fields.payloadLen v6, UInt16.toNat_ofNat']
  · simp only [sentSkb, length_writeOuterHeaders, length_writeOuterLengths, length_storedSkb]
  · rw [split, List.drop_left' width]

theorem encapsulated_gut (tc : Tc) (planned : plan .gut cfg k (preparedOf .gut cfg pkt (nextSeq tc) port)
      (preparedTc .gut cfg tc pkt) = .ok pl) :
    pl.head.length = 10 ∧ byteAt pl.head 8 = 0 ∧ encapsulated .gut cfg k tc pkt = pl.head ++ bodyOf .gut cfg pkt tc.skb := by
  cases planned
  exact ⟨rfl, rfl, rfl⟩

-- the lengths that the sender writes fall on the tag, where they would have to be the type of IPv4
theorem tagged_malformed (found : parseEgress tc.skb = some pkt) (sends : Sends mode cfg k tc pkt port pl route)
    (ethernet : 14 ≤ tc.macLen) (tagged : be16At tc.skb 12 = ethP8021Q) (family : pos.ver = pkt.ver)
    (formed : WellFormed pos (encapsulated mode cfg k tc pkt) (sentSkb mode cfg tc pkt pl route)) : False := by
  have inside := parseEgress_inside found
  have v4 : pkt.ver = .v4 := by
    rcases parseEgress_layout found with ⟨-, v4⟩ | ⟨untagged, -⟩
    · exact v4
    · exact absurd (untagged.symm.trans tagged) (etherType_untagged _)
  obtain ⟨link, -, total, -, -, behind⟩ := sent_fields sends ethernet inside
  generalize sentSkb mode cfg tc pkt pl route = out at formed link total behind
  have ip : parseIp out (be16At out 16) 18 = some pos := by
    rcases (parseUdp_some formed.parsed).2 with ⟨-, ip⟩ | ⟨untagged, -⟩
    · exact ip
    · exact absurd (link.trans tagged) untagged
  obtain ⟨off, proto, -, -⟩ := parseIp_some ip
  have type : (be16At out 16).toNat = 2048 := by
    rw [proto, family, v4]
    rfl
  have sum := total v4
  rw [type] at sum
  have offset : pos.udpOff = 38 ∧ pos.payloadOff = 46 := by
    rw [UdpPos.payloadOff, UdpPos.udpOff, off, family, v4]
    exact ⟨rfl, rfl⟩
  have udpLen : (be16At out 42).toNat = 8 + (encapsulated mode cfg k tc pkt).length := by
    have announced := formed.udpLen
    rw [offset.1] at announced
    exact announced
  have small := (be16At out 42).toNat_lt
  have proper : pkt.wgLen < 2 ^ 16 := by
    by_contra wrapped
    have := wrapped_udpLen inside (Nat.not_lt.mp wrapped) sends.planned
    omega
  have lengths := plan_lengths inside proper sends.planned
  have stored := storedSkb_drop sends.fits
  rw [← behind, v4] at stored
  have byte (i : Nat) : byteAt out (42 + i) = byteAt (pl.head ++ ((preparedTc mode cfg tc pkt).shifted pl.room .v4).drop
      (42 + pl.head.length)) i := by
    rw [← byteAt_drop]
    exact congrArg (byteAt · i) stored
  have some : 10 ≤ pl.head.length := by
    rcases plan_cases rfl sends.planned with prepends | ⟨hdr, replaces⟩
    · have bounds := prepends.bounds
      rw [prepends.room]
      omega
    · have room := replaces.room
      have enough := replaces.total
      omega
  have head (i : Nat) (front : i < 10) : byteAt out (42 + i) = byteAt pl.head i := by
    rw [byte, byteAt_append_left _ _ _ (by omega)]
  have first : byteAt pl.head 0 = 7 := by
    rw [← head 0 (by omega)]
    have high := toNat_be16At out 42
    apply UInt8.toNat_inj.mp
    change (byteAt out 42).toNat = 7
    have low := (byteAt out (42 + 1)).toNat_lt
    omega
  by_cases wrapped : mode = .gut
  · subst wrapped
    obtain ⟨ten, zero, whole⟩ := encapsulated_gut tc sends.planned
    -- read four bytes further on, the header is its own continuation
    have shifted (i : Nat) (front : i < 6) : byteAt pl.head i = byteAt pl.head (i + 4) := by
      have payload := congrArg (byteAt · i) (formed.payload.trans whole)
      simp only [byteAt_drop, offset.2] at payload
      rw [byteAt_append_left _ _ _ (by omega)] at payload
      rw [← payload, ← head (i + 4) (by omega)]
      congr 1
      omega
    rw [shifted 0 (by omega), shifted 4 (by omega), zero] at first
    exact absurd first (by decide)
  · exact plan_first rfl sends.planned wrapped first

theorem plain_of_formed_egress (found : parseEgress tc.skb = some pkt) (sends : Sends mode cfg k tc pkt port pl route)
    (link : tc.macLen = 14) (untagged : be16At tc.skb 12 ≠ ethP8021Q)
    (formed : WellFormed pos (encapsulated mode cfg k tc pkt) (sentSkb mode cfg tc pkt pl route)) :
    PlainPacket mode cfg k tc pkt := by
  have inside := parseEgress_inside found
  have first := inside.first
  have front := inside.front
  obtain ⟨etherType, udpField, total, payloadLen, length, behind⟩ := sent_fields sends (by omega) inside
  obtain ⟨headers, split, width, fields⟩ := sentSkb_split sends
  have wide : 42 ≤ payloadOff pkt.ver := by cases pkt.ver <;> decide
  have type : be16At (sentSkb mode cfg tc pkt pl route) 12 = pkt.ver.etherType := by
    rcases parseEgress_layout found with ⟨tagged, -⟩ | ⟨type, -⟩
    · exact absurd tagged untagged
    · exact etherType.trans type
  obtain rfl := parseUdp_untagged formed.parsed type
  have options : pkt.ver = .v4 → byteAt tc.skb 14 &&& 0x0F = 5 := by
    intro v4
    have read : byteAt (sentSkb mode cfg tc pkt pl route) 14 &&& 0x0F = 5 := by
      rcases (parseUdp_some formed.parsed).2 with ⟨-, ip⟩ | ⟨-, ip⟩
      · exact absurd (parseIp_some ip).1 (by simp)
      · exact (parseIp_some ip).2.2.2 v4
    rw [split, byteAt_append_left _ _ _ (by omega), fields.version, byteAt_take, if_pos (by omega),
      byteAt_storedSkb_headers link sends.fits (by omega), byteAt_preparedTc mode cfg tc (by omega) (by omega)] at read
    exact read
  have off := wgOff_eq found untagged options
  have udpLen : pl.udpLen % 2 ^ 16 = 8 + (encapsulated mode cfg k tc pkt).length := udpField.symm.trans formed.udpLen
  have proper : pkt.wgLen < 2 ^ 16 := by
    by_contra wrapped
    have := wrapped_udpLen inside (Nat.not_lt.mp wrapped) sends.planned
    omega
  have lengths := plan_lengths inside proper sends.planned
  have whole : (sentSkb mode cfg tc pkt pl route).length = payloadOff pkt.ver + (encapsulated mode cfg k tc pkt).length :=
    formed.length
  refine ⟨untagged, options, proper, by omega, by omega, fun v4 => ?_⟩
  have ipLen : (be16At (sentSkb mode cfg tc pkt pl route) 16).toNat = 20 + 8 + (encapsulated mode cfg k tc pkt).length := by
    have announced := formed.ipLen
    simp only [ipLength, v4, IpVersion.headerLen] at announced
    exact announced
  have field := total v4
  omega

theorem formed_of_plain_egress (found : parseEgress tc.skb = some pkt) (sends : Sends mode cfg k tc pkt port pl route)
    (link : tc.macLen = 14) (plain : PlainPacket mode cfg k tc pkt) :
    WellFormed { ver := pkt.ver, ipOff := 14 } (encapsulated mode cfg k tc pkt) (sentSkb mode cfg tc pkt pl route) := by
  have inside := parseEgress_inside found
  have first := inside.first
  have off := wgOff_eq found plain.untagged plain.options
  obtain ⟨etherType, udpField, total, payloadLen, length, behind⟩ := sent_fields sends (by omega) inside
  obtain ⟨headers, split, width, fields⟩ := sentSkb_split sends
  have wide : 42 ≤ payloadOff pkt.ver ∧ 14 + pkt.ver.protocolOff < payloadOff pkt.ver ∧ 14 + 20 ≤ payloadOff pkt.ver := by
    cases pkt.ver <;> decide
  have lengths := plan_lengths inside plain.announced sends.planned
  have small := plain.fits
  rcases parseEgress_layout found with ⟨tagged, -⟩ | ⟨type, protocol, -⟩
  · exact absurd tagged plain.untagged
  refine ⟨parseUdp_plain (etherType.trans type) ?_ (fun v4 => ?_) ?_, ?_, ?_, ?_, fun v4 => ?_⟩
  · rw [split, byteAt_append_left _ _ _ (by omega), fields.protocol,
      byteAt_storedSkb_plain inside link off sends.fits (by omega), protocol]
  · rw [split, byteAt_append_left _ _ _ (by omega), fields.version,
      byteAt_storedSkb_plain inside link off sends.fits (by omega), plain.options v4]
  · rw [split, List.length_append]
    omega
  · cases ver : pkt.ver with
    | v4 =>
        have field := total ver
        have fits := small.2 ver
        simp only [ipLength, IpVersion.headerLen, Nat.reduceAdd]
        omega
    | v6 =>
        have field := payloadLen ver
        simp only [ipLength, IpVersion.headerLen, Nat.reduceAdd]
        omega
  · have field : (be16At (sentSkb mode cfg tc pkt pl route) (14 + pkt.ver.headerLen + 4)).toNat = _ := udpField
    simp only [UdpPos.udpOff]
    omega
  · exact behind.trans (storedSkb_plain found plain link sends.planned sends.fits)
  · have sum : HeaderSum (sentSkb mode cfg tc pkt pl route) 14 := by
      refine headerSum_congr (fields.checksum v4) ?_
      rw [split, slice_append_left _ _ _ _ (by omega)]
    exact sum

theorem redirected_wellFormed_iff {ifindex : UInt32} {tc' : Tc} (parsed : parseEgress tc.skb = some pkt)
    (ethernet : 14 ≤ tc.macLen) (link : be16At tc.skb 12 ≠ ethP8021Q → tc.macLen = 14)
    (redirected : gutEgress mode cfg k tc = (.redirect ifindex, tc')) :
    (∃ pos : UdpPos, pos.ver = pkt.ver ∧ WellFormed pos (encapsulated mode cfg k tc pkt) tc'.skb) ↔
      PlainPacket mode cfg k tc pkt := by
  obtain ⟨pkt', port, pl, route, found, sends, skb⟩ := gutEgress_redirect redirected
  obtain rfl : pkt = pkt' := Option.some.inj (parsed.symm.trans found)
  rw [skb]
  constructor
  · rintro ⟨pos, family, formed⟩
    by_cases tagged : be16At tc.skb 12 = ethP8021Q
    · exact absurd formed fun formed => tagged_malformed found sends ethernet tagged family formed
    · exact plain_of_formed_egress found sends (link tagged) tagged formed
  · intro plain
    exact ⟨{ ver := pkt.ver, ipOff := 14 }, rfl, formed_of_plain_egress found sends (link plain.untagged) plain⟩

end Frames

def sampleKernel : Kernel :=
  { changeTail := true, adjustRoom := true, pullData := true, tailCall := true, pullAgain := true
    prandom := 0, ktimeNs := 0, taiNs := 0 }

def keepalive (tag : UInt8) : Buf :=
  [4, 0, 0, 0, 42, 0, 0, 0, 0, 0, 0, 0, 0, 0, 0, 0] ++ [tag] ++ List.replicate 15 0

def sampleHeaders : Buf :=
  List.replicate 12 0 ++ [0x08, 0x00] ++ [0x45, 0, 0, 60, 0, 0, 0, 0, 64, 17, 0, 0, 10, 0, 0, 2, 10, 0, 0, 1] ++
    [0xCA, 0x6C, 0xA0, 0x28, 0, 40, 0, 0]

def sampleTc (tag : UInt8) : Tc :=
  { skb := sampleHeaders ++ keepalive tag, macLen := 14, seq := 0, clientMap := fun _ => none
    sessionMap := fun _ => none, stats := noStats }

theorem keepalive_message (tag : UInt8) : WgMessage (keepalive tag) :=
  ⟨⟨rfl, rfl, rfl⟩, .inr (.inr (.inr ⟨rfl, by simp [keepalive], by simp [keepalive]⟩))⟩

theorem sampleHeaders_fields : UdpHeaders .v4 51820 41000 40 sampleHeaders := by
  refine ⟨?_, ?_, fun _ => ?_, ?_, ?_, ?_⟩ <;> decide

theorem sampleTc_input (tag : UInt8) : UdpFrame .v4 51820 41000 (keepalive tag) (sampleTc tag).skb := by
  have frame : UdpFrame .v4 51820 41000 (keepalive tag) (sampleHeaders ++ (keepalive tag ++ [])) :=
    UdpFrame.of_headers [] rfl sampleHeaders_fields
  rwa [List.append_nil] at frame

theorem redirected_wellFormed_keepalive :
    ∃ pkt tc', parseEgress (sampleTc 0).skb = some pkt ∧
      gutEgress .gut sampleConfig sampleKernel (sampleTc 0) = (.redirect 0, tc') ∧
      ∃ pos : UdpPos, pos.ver = pkt.ver ∧ WellFormed pos (encapsulated .gut sampleConfig sampleKernel (sampleTc 0) pkt) tc'.skb := by
  have parsed := parseEgress_ok (sampleTc_input 0) (keepalive_message 0)
  have redirected : (gutEgress .gut sampleConfig sampleKernel (sampleTc 0)).1 = .redirect 0 := by decide +kernel
  refine ⟨_, _, parsed, Prod.ext redirected rfl,
    (redirected_wellFormed_iff parsed (by decide) (fun _ => rfl) (Prod.ext redirected rfl)).mpr ?_⟩
  exact ⟨by decide, fun _ => by decide, by decide, by decide, by decide +kernel, fun _ => by decide +kernel⟩

def optionsTc : Tc :=
  { sampleTc 0 with
    skb := List.replicate 12 0 ++ [0x08, 0x00] ++ [0x46, 0, 0, 64, 0, 0, 0, 0, 64, 17, 0, 0, 10, 0, 0, 2, 10, 0, 0, 1] ++
      [1, 1, 1, 0] ++ [0xCA, 0x6C, 0xA0, 0x28, 0, 40, 0, 0] ++ keepalive 0 }

-- the header still says six words, the lengths say five
theorem redirected_options_unreadable :
    (parseEgress optionsTc.skb).map (·.ver) = some .v4 ∧
      ∃ tc', gutEgress .gut sampleConfig sampleKernel optionsTc = (.redirect 0, tc') ∧ parseUdp tc'.skb = none ∧
        tc'.skb.length ≠ 14 + ipLength { ver := .v4, ipOff := 14 } tc'.skb := by
  have run : (gutEgress .gut sampleConfig sampleKernel optionsTc).1 = .redirect 0 ∧
      parseUdp (gutEgress .gut sampleConfig sampleKernel optionsTc).2.skb = none ∧
      (gutEgress .gut sampleConfig sampleKernel optionsTc).2.skb.length ≠
        14 + ipLength { ver := .v4, ipOff := 14 } (gutEgress .gut sampleConfig sampleKernel optionsTc).2.skb := by
    decide +kernel
  exact ⟨by decide +kernel, _, Prod.ext run.1 rfl, run.2⟩

end Gutd.Bpf
