import Gutd.Bpf.Loader
import Gutd.Bpf.TcRedirect

set_option autoImplicit false

namespace Gutd.Bpf

open Bytes Checked Wire

variable {mode : ObfsMode} {cfg : GutConfig} {k : Kernel} {tc tc' : Tc} {pkt : WgPacket} {port : UInt16} {pl : Plan}
  {route : Route}

def IpVersion.number : IpVersion → UInt8
  | .v4 => 4
  | .v6 => 6

-- UDP over IPv4 without options or IPv6 without extension headers, right behind an untagged Ethernet header
structure PlainHeaders (ver : IpVersion) (skb : Buf) : Prop where
  etherType : be16At skb 12 = ver.etherType
  version : byteAt skb 14 >>> 4 = ver.number
  options : ver = .v4 → byteAt skb 14 &&& 0x0F = 5
  protocol : byteAt skb (14 + ver.protocolOff) = ipprotoUdp

structure Ends (ver : IpVersion) (saddr daddr : Buf) (sport dport : UInt16) (skb : Buf) : Prop where
  saddr : slice skb (14 + ver.saddrOff) (14 + ver.saddrOff + ver.addrLen) = saddr
  daddr : slice skb (14 + ver.saddrOff + ver.addrLen) (14 + ver.saddrOff + ver.addrLen + ver.addrLen) = daddr
  sport : be16At skb (14 + ver.headerLen) = sport
  dport : be16At skb (14 + ver.headerLen + 2) = dport

structure Addressed (ver : IpVersion) (saddr daddr : Buf) (sport dport : UInt16) (skb : Buf) : Prop
    extends PlainHeaders ver skb, Ends ver saddr daddr sport dport skb

theorem ends_writeOuterHeaders (cfg : GutConfig) {ver : IpVersion} (port : UInt16) (n : Nat) {skb : Buf}
    (inside : payloadOff ver ≤ skb.length) (lengths : route.saddr.length = ver.addrLen ∧ route.daddr.length = ver.addrLen) :
    Ends ver route.saddr route.daddr (route.source.getD port) (route.dest.getD port)
      (writeOuterHeaders cfg ver route (writeOuterLengths ver port n skb)) := by
  obtain ⟨saddr, daddr⟩ := lengths
  obtain ⟨source, dest, routeSource, routeDest⟩ : ∃ source dest, route.source = source ∧ route.dest = dest :=
    ⟨_, _, rfl, rfl⟩
  cases ver with
  | v4 =>
      simp only [payloadOff, IpVersion.headerLen, IpVersion.addrLen] at inside saddr daddr
      refine ⟨?_, ?_, ?_, ?_⟩
      all_goals
        unfold writeOuterHeaders writeUdpChecksum writeRoute writeIpChecksum writeOuterLengths
        rw [routeSource, routeDest]
        cases source <;> cases dest <;>
          simp (disch := (simp; try omega)) only [be16At_overwrite_same, be16At_overwrite_other, slice_overwrite_other,
            Option.getD_none, Option.getD_some, Nat.reduceAdd, IpVersion.headerLen, IpVersion.saddrOff, IpVersion.addrLen]
      all_goals first
        | exact slice_overwrite_width _ daddr (by simp; omega)
        | exact slice_overwrite_width _ saddr (by simp; omega)
  | v6 =>
      simp only [payloadOff, IpVersion.headerLen, IpVersion.addrLen] at inside saddr daddr
      refine ⟨?_, ?_, ?_, ?_⟩
      all_goals
        unfold writeOuterHeaders writeUdpChecksum writeRoute writeIpChecksum writeOuterLengths
        rw [routeSource, routeDest]
        cases source <;> cases dest <;>
          simp (disch := (simp; try omega)) only [be16At_overwrite_same, be16At_overwrite_other, slice_overwrite_other,
            Option.getD_none, Option.getD_some, Nat.reduceAdd, IpVersion.headerLen, IpVersion.saddrOff, IpVersion.addrLen]
      all_goals first
        | exact slice_overwrite_width _ daddr (by simp; omega)
        | exact slice_overwrite_width _ saddr (by simp; omega)

theorem PlainHeaders.ver_eq {ver : IpVersion} (plain : PlainHeaders ver tc.skb) (found : parseEgress tc.skb = some pkt) :
    pkt.ver = ver := by
  rcases parseEgress_layout found with ⟨tagged, -⟩ | ⟨untagged, -⟩
  · exact absurd (plain.etherType.symm.trans tagged) (etherType_untagged ver)
  · exact etherType_injective (untagged.symm.trans plain.etherType)

theorem PlainHeaders.sent {ver : IpVersion} (plain : PlainHeaders ver tc.skb) (link : tc.macLen = 14)
    (found : parseEgress tc.skb = some pkt) (sends : Sends mode cfg k tc pkt port pl route) :
    PlainHeaders ver (sentSkb mode cfg tc pkt pl route) := by
  obtain rfl := plain.ver_eq found
  have inside := parseEgress_inside found
  have off := wgOff_eq found (by rw [plain.etherType]; exact etherType_untagged pkt.ver) plain.options
  obtain ⟨headers, split, width, fields⟩ := sentSkb_split sends
  have wide : 42 ≤ payloadOff pkt.ver ∧ 14 + pkt.ver.protocolOff < payloadOff pkt.ver := by cases pkt.ver <;> decide
  have kept {i : Nat} (header : i < payloadOff pkt.ver)
      (same : byteAt headers i = byteAt ((storedSkb mode cfg tc pkt pl).take (payloadOff pkt.ver)) i) :
      byteAt (sentSkb mode cfg tc pkt pl route) i = byteAt tc.skb i := by
    rw [split, byteAt_append_left _ _ _ (by omega), same]
    exact byteAt_storedSkb_plain inside link off sends.fits header
  have first := kept (by omega) fields.version
  have link := (sent_fields sends (by omega) inside).1
  exact ⟨link.trans plain.etherType, by rw [first, plain.version], fun v4 => by rw [first, plain.options v4],
    (kept wide.2 fields.protocol).trans plain.protocol⟩

theorem addressed_sent {ver : IpVersion} (plain : PlainHeaders ver tc.skb) (link : tc.macLen = 14)
    (found : parseEgress tc.skb = some pkt) (sends : Sends mode cfg k tc pkt port pl route) :
    Addressed ver route.saddr route.daddr (route.source.getD pl.port) (route.dest.getD pl.port)
      (sentSkb mode cfg tc pkt pl route) := by
  obtain rfl := plain.ver_eq found
  have headers := sends.fits.headers
  rw [length_preparedTc] at headers
  exact ⟨plain.sent link found sends,
    ends_writeOuterHeaders cfg pl.port pl.udpLen (by rw [length_storedSkb]; omega) (routeOf_lengths sends.routed)⟩

theorem take_storedPorts (ports : List UInt16) :
    (storedPorts ports).toList.take (min ports.length maxPorts) = ports.take maxPorts := by
  refine List.ext_getElem? fun k => ?_
  rw [List.getElem?_take, List.getElem?_take]
  unfold maxPorts
  by_cases inside : k < min ports.length 6
  · rw [if_pos inside, if_pos (by omega)]
    have stored : (storedPorts ports).toList[k]? = some (ports.getD k 0) := by
      rw [List.getElem?_eq_getElem (by simp; omega)]
      simp [storedPorts]
    rw [stored, List.getD_eq_getElem?_getD, List.getElem?_eq_getElem (by omega : k < ports.length), Option.getD_some]
  · rw [if_neg inside]
    split_ifs
    · rw [List.getElem?_eq_none (by omega)]
    · rfl

section Built

variable {net : Lookups} {peer : PeerConfig}

theorem isGutPort_iff (built : FromPeer net peer cfg) : isGutPort port cfg = true ↔ port ∈ peer.ports.take maxPorts := by
  rw [isGutPort, built.ports, built.numPorts, take_storedPorts]
  simp

theorem port_mem (built : FromPeer net peer cfg) {i : Nat} (inside : i < cfg.numPorts) :
    cfg.ports.toList.getD i 0 ∈ peer.ports.take maxPorts := by
  have few : cfg.numPorts ≤ cfg.ports.toList.length := by
    rw [built.numPorts, Vector.length_toList]
    exact Nat.min_le_right _ _
  rw [← take_storedPorts, ← built.ports, ← built.numPorts, List.getD_eq_getElem?_getD, List.getElem?_eq_getElem (by omega),
    Option.getD_some]
  exact List.mem_take_iff_getElem.mpr ⟨i, by omega, rfl⟩

theorem tunnelPort_mem (built : FromPeer net peer cfg) {seq : UInt32} (selected : tunnelPort mode cfg seq = some port) :
    port ∈ peer.ports.take maxPorts := by
  have chosen (picked : (if selectPort seq cfg = 0 then none else some (selectPort seq cfg)) = some port) :
      port ∈ peer.ports.take maxPorts := by
    unfold selectPort at picked
    split_ifs at picked with none zero
    · exact absurd rfl zero
    · cases picked
      exact port_mem built (Nat.mod_lt _ (by omega))
  cases mode with
  | sip =>
      unfold tunnelPort at selected
      dsimp only at selected
      split_ifs at selected with none
      cases selected
      have first : cfg.ports.toList.getD 0 0 = cfg.ports.get 0 := by
        rw [List.getD_eq_getElem _ _ (by simp), Vector.getElem_toList]
        rfl
      rw [← first]
      exact port_mem built (by omega)
  | quic => exact chosen selected
  | gut => exact chosen selected
  | syslog => exact chosen selected

theorem rtpPort_mem (built : FromPeer net peer cfg) (several : 2 ≤ cfg.numPorts) (seq : UInt32) :
    rtpPort cfg seq ∈ peer.ports.take maxPorts := by
  have few : cfg.numPorts ≤ maxPorts := by
    rw [built.numPorts]
    exact Nat.min_le_right _ _
  have rest := Nat.mod_lt seq.toNat (by omega : 0 < cfg.numPorts - 1)
  unfold rtpPort
  dsimp only
  rw [if_neg (by omega)]
  exact port_mem built (by omega)

end Built

theorem plan_port {p : Prepared} (planned : plan mode cfg k p tc = .ok pl) :
    pl.port = p.port ∨ 2 ≤ cfg.numPorts ∧ pl.port = rtpPort cfg p.seq := by
  have text {hdr text : Buf} {limit : Nat} (planned : textPlan p hdr text limit = .ok pl) : pl.port = p.port := by
    obtain ⟨u, -, same⟩ := bind_eq_ok.mp planned
    cases same
    rfl
  unfold plan at planned
  cases mode with
  | gut =>
      cases planned
      exact .inl rfl
  | quic =>
      cases planned
      split_ifs <;> exact .inl rfl
  | syslog =>
      obtain ⟨encoded, -, rest⟩ := bind_eq_ok.mp planned
      exact .inl (text rest)
  | sip =>
      dsimp only at planned
      split_ifs at planned
      · obtain ⟨u, enough, same⟩ := bind_eq_ok.mp planned
        cases same
        exact .inr ⟨Nat.not_lt.mp (rejectIf_eq_ok.mp enough), rfl⟩
      · obtain ⟨u, -, planned⟩ := bind_eq_ok.mp planned
        obtain ⟨encoded, -, planned⟩ := bind_eq_ok.mp planned
        obtain ⟨u, -, planned⟩ := bind_eq_ok.mp planned
        exact .inl (text planned)

section Fixed

variable {net : Lookups} {peer : PeerConfig} {ifindex : UInt32}

theorem buildGutConfig_peer (done : buildGutConfig net peer = .ok cfg) :
    cfg.peerIp = ip4Of peer.peerIp ∧ cfg.peerIp6 = ip6Of peer.peerIp ∧
      cfg.dynamicPeer = if peer.dynamicPeer then 1 else 0 := by
  unfold buildGutConfig at done
  obtain ⟨bound, bind, done⟩ := bind_eq_ok.mp done
  obtain ⟨egressIfindex, -, done⟩ := bind_eq_ok.mp done
  obtain ⟨tunIfindex, -, done⟩ := bind_eq_ok.mp done
  obtain ⟨srcMac, -, done⟩ := bind_eq_ok.mp done
  obtain ⟨dstMac, -, done⟩ := bind_eq_ok.mp done
  obtain ⟨bindIp, bindIp6, rfl⟩ := setBindIp_keeps bind
  obtain ⟨quicKeyRk, quicHpRk, quicIv, sniDomain, sniDomainLen, rfl⟩ := setQuic_keeps done
  obtain ⟨tunLocalIp4, tunPeerIp4, tunnel⟩ := setTunnelIps_keeps peer
    { GutConfig.fromConfig peer.key peer.ports peer.peerIp with
      bindIp, bindIp6, egressIfindex, srcMac, dstMac
      tunMac := (net.tunMac.toOption).getD (Vector.replicate 6 0)
      defaultXdpAction := defaultXdpAction net peer
      keepaliveDropPercent := peer.keepaliveDropPercent
      ownHttp3 := if peer.ownHttp3 then 1 else 0 }
  simp only [tunnel]
  by_cases dynamic : peer.dynamicPeer = true
  · simp only [if_pos dynamic]
    exact ⟨rfl, rfl, trivial⟩
  · simp only [if_neg dynamic]
    exact ⟨rfl, rfl, rfl⟩

-- all zeros in the family that the peer has no address in
def addressIn (ip : Net.IpAddr) : IpVersion → Buf
  | .v4 => (ip4Of ip).toList
  | .v6 => (ip6Of ip).toList

def GutConfig.bound (cfg : GutConfig) : IpVersion → Buf
  | .v4 => cfg.bindIp.toList
  | .v6 => cfg.bindIp6.toList

theorem configuredRoute_eq (ip4 : cfg.peerIp = ip4Of peer.peerIp) (ip6 : cfg.peerIp6 = ip6Of peer.peerIp) (ver : IpVersion) :
    configuredRoute cfg ver = { saddr := cfg.bound ver, daddr := addressIn peer.peerIp ver, source := none, dest := none } := by
  cases ver with
  | v4 => simp only [configuredRoute, GutConfig.bound, addressIn, ip4]
  | v6 => simp only [configuredRoute, GutConfig.bound, addressIn, ip6]

theorem redirected_fixed {ver : IpVersion} (static : peer.dynamicPeer = false) (built : buildGutConfig net peer = .ok cfg)
    (plain : PlainHeaders ver tc.skb) (link : tc.macLen = 14) (done : gutEgress mode cfg k tc = (.redirect ifindex, tc')) :
    ∃ port ∈ peer.ports.take maxPorts, Addressed ver (cfg.bound ver) (addressIn peer.peerIp ver) port port tc'.skb := by
  obtain ⟨pkt, port, pl, route, found, sends, sent⟩ := gutEgress_redirect done
  obtain ⟨ip4, ip6, fixed⟩ := buildGutConfig_peer built
  have fromPeer := buildGutConfig_fromPeer built
  have addressed := addressed_sent plain link found sends
  have routed := sends.routed
  rw [routeOf, if_pos (by rw [fixed, static]; rfl), plain.ver_eq found, configuredRoute_eq ip4 ip6] at routed
  cases routed
  rw [← sent] at addressed
  refine ⟨pl.port, ?_, addressed⟩
  rcases plan_port sends.planned with same | ⟨several, media⟩
  · rw [same]
    exact tunnelPort_mem fromPeer sends.selected
  · rw [media]
    exact rtpPort_mem fromPeer several _

def sampleLookups : Lookups :=
  { interfaceIpv4 := .ok (Vector.replicate 4 10)
    interfaceIpv6 := .ok (Vector.replicate 16 0)
    routeSrcIp := fun _ => .ok (.v4 (Vector.replicate 4 10))
    egressIfindex := .ok 2
    tunIfindex := .ok 3
    srcMac := .ok (Vector.replicate 6 2)
    gatewayMac := some (Vector.replicate 6 4)
    peerMac := fun _ => .ok (Vector.replicate 6 6)
    tunMac := .ok (Vector.replicate 6 8)
    onDefaultRoute := false }

def plainPeer (name : String) (port : UInt16) : PeerConfig :=
  { name, mtu := 1420, nic := none, defaultPolicy := .allow, address := "10.254.0.1/30"
    bindIp := .v4 (Vector.replicate 4 10), peerIp := .v4 (Vector.replicate 4 11), dynamicPeer := false, responder := false
    ports := [port], peerPorts := [port], key := Vector.replicate 32 7, keepaliveDropPercent := 30, outerMtu := 1500
    ownHttp3 := true, wgHost := "127.0.0.1:51820", sipDomain := ascii "127.0.0.1", obfs := .gut, bindPort := 51820 }

theorem buildGutConfig_plainPeer (name : String) (port : UInt16) :
    ∃ cfg, buildGutConfig sampleLookups (plainPeer name port) = .ok cfg := by
  have keys (cfg : GutConfig) : ∃ cfg', setQuic (plainPeer name port) cfg = .ok cfg' := by
    obtain ⟨keys, derived, -⟩ := deriveQuicClientKeys_ok (quicDcidOf cfg.chachaInit).toList
    unfold setQuic
    dsimp only
    rw [derived]
    exact ⟨_, rfl⟩
  have bound (cfg : GutConfig) : setBindIp sampleLookups (plainPeer name port) cfg =
      .ok { cfg with bindIp := Vector.replicate 4 10 } := by
    rw [setBindIp, plainPeer]
    dsimp only
    rw [if_neg (by decide), pure_eq_ok]
  unfold buildGutConfig
  dsimp only
  rw [bound]
  exact keys _

def helloTc : Tc :=
  { sampleTc 0 with
    skb := List.replicate 12 0 ++ [0x08, 0x00] ++ [0x45, 0, 0, 176, 0, 0, 0, 0, 64, 17, 0, 0, 10, 0, 0, 2, 10, 0, 0, 1] ++
      [0xCA, 0x6C, 0xA0, 0x28, 0, 156, 0, 0] ++ ([1, 0, 0, 0, 42, 0, 0, 0] ++ List.replicate 140 0) }

theorem helloTc_parsed : ∃ pkt, parseEgress helloTc.skb = some pkt ∧ pkt.ver = .v4 ∧ pkt.wgType = 1 := by
  have fields : (parseEgress helloTc.skb).map (fun pkt => (pkt.ver, pkt.wgType)) = some (.v4, 1) := by decide +kernel
  obtain ⟨pkt, parsed, same⟩ := Option.map_eq_some_iff.mp fields
  exact ⟨pkt, parsed, (Prod.ext_iff.mp same).1, (Prod.ext_iff.mp same).2⟩

theorem helloTc_plain : PlainHeaders .v4 helloTc.skb :=
  ⟨by decide +kernel, by decide +kernel, fun _ => by decide +kernel, by decide +kernel⟩

theorem redirected_fixed_hello :
    ∃ cfg tc', buildGutConfig sampleLookups (plainPeer "gut0" 41000) = .ok cfg ∧
      gutEgress .gut cfg sampleKernel helloTc = (.redirect cfg.egressIfindex, tc') ∧
      Addressed .v4 (cfg.bound .v4) [11, 11, 11, 11] 41000 41000 tc'.skb := by
  obtain ⟨cfg, built⟩ := buildGutConfig_plainPeer "gut0" 41000
  obtain ⟨-, -, fixed⟩ := buildGutConfig_peer built
  have fromPeer := buildGutConfig_fromPeer built
  obtain ⟨pkt, parsed, ver, type⟩ := helloTc_parsed
  have selected : tunnelPort .gut cfg (nextSeq helloTc) = some 41000 := by
    have one : cfg.numPorts = 1 := fromPeer.numPorts
    unfold tunnelPort selectPort
    rw [fromPeer.ports, one]
    decide
  have length := length_preparedTc .gut cfg helloTc pkt
  have whole : payloadOff pkt.ver ≤ helloTc.skb.length := by
    rw [ver]
    decide +kernel
  have sends : Sends .gut cfg sampleKernel helloTc pkt 41000 (gutPlan (preparedOf .gut cfg pkt (nextSeq helloTc) 41000))
      (configuredRoute cfg pkt.ver) := by
    refine ⟨⟨by simp [keepaliveDropped, type], by simp, selected, fun _ => rfl, fun dynamic => absurd fixed dynamic⟩, rfl, rfl,
      ⟨rfl, rfl, by omega, ?_⟩, if_pos fixed⟩
    have head : (gutPlan (preparedOf .gut cfg pkt (nextSeq helloTc) 41000)).head.length = 10 := by simp [gutPlan, gutHeader]
    have room : (gutPlan (preparedOf .gut cfg pkt (nextSeq helloTc) 41000)).room = 10 := rfl
    omega
  obtain ⟨tc', done, -⟩ := gutEgress_sent parsed sends
  obtain ⟨port, member, addressed⟩ := redirected_fixed rfl built helloTc_plain rfl done
  cases List.mem_singleton.mp (List.mem_of_mem_take member)
  exact ⟨cfg, tc', built, done, addressed⟩

end Fixed

end Gutd.Bpf
