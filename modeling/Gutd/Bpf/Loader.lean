import Gutd.Bpf.Maps
import Gutd.Proto.Quic
import Gutd.Shared.NetParse
import Gutd.Tun

set_option autoImplicit false

-- `GutConfig::from_config` of `maps.rs` and `build_gut_config` of `loader.rs`.

namespace Gutd.Bpf

open Bytes Checked Net Wire

inductive LoadError where
  | message (text : Buf)
  | panicked (panic : Panic)

structure Lookups where
  interfaceIpv4 : Except Buf (Vector UInt8 4)
  interfaceIpv6 : Except Buf (Vector UInt8 16)
  routeSrcIp : IpAddr → Except Buf IpAddr
  egressIfindex : Except Buf UInt32
  tunIfindex : Except Buf UInt32
  srcMac : Except Buf (Vector UInt8 6)
  gatewayMac : Option (Vector UInt8 6)
  peerMac : IpAddr → Except Buf (Vector UInt8 6)
  tunMac : Except Buf (Vector UInt8 6)
  -- whether the ingress interface has the default route
  onDefaultRoute : Bool

abbrev Load := Except LoadError

def lookup {α : Type} : Except Buf α → Load α
  | .ok a => pure a
  | .error text => throw (.message text)

def octets6 (segments : Vector UInt16 8) : Vector UInt8 16 := bytesAt (segments.toList.flatMap toBeBytes16) 0 16

def isUnspecified : IpAddr → Bool
  | .v4 octets => octets = Vector.replicate 4 0
  | .v6 segments => segments = Vector.replicate 8 0

def ip4Of : IpAddr → Vector UInt8 4
  | .v4 octets => octets
  | .v6 _ => Vector.replicate 4 0

def ip6Of : IpAddr → Vector UInt8 16
  | .v4 _ => Vector.replicate 16 0
  | .v6 segments => octets6 segments

def storedPorts (ports : List UInt16) : Vector UInt16 6 := Vector.ofFn fun i => ports.getD i.val 0

def GutConfig.fromConfig (key : Vector UInt8 32) (ports : List UInt16) (peerIp : IpAddr) : GutConfig :=
  { key
    ports := storedPorts ports
    numPorts := min ports.length maxPorts
    peerIp := ip4Of peerIp
    bindIp := Vector.replicate 4 0
    egressIfindex := 0
    srcMac := Vector.replicate 6 0
    dstMac := Vector.replicate 6 0
    tunMac := Vector.replicate 6 0
    chachaInit := Gutd.chachaInit key
    defaultXdpAction := 0
    keepaliveDropPercent := 30
    peerIp6 := ip6Of peerIp
    bindIp6 := Vector.replicate 16 0
    tunLocalIp4 := Vector.replicate 4 0
    tunPeerIp4 := Vector.replicate 4 0
    tunLocalIp6 := Vector.replicate 16 0
    tunPeerIp6 := Vector.replicate 16 0
    ownHttp3 := 1
    dynamicPeer := 0
    sniDomain := Vector.replicate 32 0
    sniDomainLen := 0
    quicDcid := Vector.replicate 8 0
    quicKeyRk := Vector.replicate 44 0
    quicHpRk := Vector.replicate 44 0
    quicIv := Vector.replicate 12 0 }

def familyHint : Buf := ascii ". Set explicit bind_ip or peer_ip family consistently."

def setBindIp (net : Lookups) (peer : PeerConfig) (cfg : GutConfig) : Load GutConfig :=
  match peer.bindIp with
  | .v4 ip =>
      if isUnspecified (.v4 ip) then
        if isUnspecified peer.peerIp then do
          pure { cfg with bindIp := ← lookup net.interfaceIpv4 }
        else do
          match ← lookup (net.routeSrcIp peer.peerIp) with
          | .v4 src => pure { cfg with bindIp := src }
          | .v6 src => throw (.message (ascii "bind_ip=0.0.0.0 but route source resolved to IPv6 " ++ (IpAddr.v6 src).text ++
              familyHint))
      else pure { cfg with bindIp := ip }
  | .v6 ip =>
      if isUnspecified (.v6 ip) then
        if isUnspecified peer.peerIp then do
          pure { cfg with bindIp6 := ← lookup net.interfaceIpv6 }
        else do
          match ← lookup (net.routeSrcIp peer.peerIp) with
          | .v6 src => pure { cfg with bindIp6 := octets6 src }
          | .v4 src => throw (.message (ascii "bind_ip=:: but route source resolved to IPv4 " ++ (IpAddr.v4 src).text ++
              familyHint))
      else pure { cfg with bindIp6 := octets6 ip }

def dstMac (net : Lookups) (peer : PeerConfig) : Load (Vector UInt8 6) :=
  if peer.dynamicPeer then
    match net.gatewayMac with
    | some mac => pure mac
    | none => throw (.message (ascii "dynamic_peer: cannot resolve default gateway MAC on ingress NIC"))
  else lookup (net.peerMac peer.peerIp)

def policyAction : XdpDefaultPolicy → UInt8
  | .allow => 0
  | .drop => 1

-- dropping everything else would cut the host off on its default route
def defaultXdpAction (net : Lookups) (peer : PeerConfig) : UInt8 :=
  if policyAction peer.defaultPolicy = 1 ∧ net.onDefaultRoute then 0 else policyAction peer.defaultPolicy

def setTunnelIps (peer : PeerConfig) (cfg : GutConfig) : GutConfig :=
  match Tun.releasedP2pPeer peer.address.toList with
  | .ok (localIpStr, peerIpStr, _) =>
      match parseIpv4Addr (Str.utf8 localIpStr), parseIpv4Addr (Str.utf8 peerIpStr) with
      | some localIp, some peerIp => { cfg with tunLocalIp4 := localIp, tunPeerIp4 := peerIp }
      | _, _ => cfg
  | .error _ => cfg

def quicDcidOf (init : ChachaInit) : Vector UInt8 8 :=
  let ks99 := chachaBlockFast init 99 0 chachaRounds
  bytesAt (toLeBytes (ks99.get 0) ++ toLeBytes (ks99.get 1)) 0 8

def expandedKey (key : Buf) : Vector UInt32 44 := Vector.ofFn fun i => (aes128ExpandKey key).getD i.val 0

def setQuic (peer : PeerConfig) (cfg : GutConfig) : Load GutConfig :=
  let dcid := quicDcidOf cfg.chachaInit
  match deriveQuicClientKeys dcid.toList with
  | .error panic => throw (.panicked panic)
  | .ok keys =>
      let sniLen := min peer.sipDomain.length 31
      pure { cfg with
        quicDcid := dcid
        quicKeyRk := expandedKey keys.key
        quicHpRk := expandedKey keys.hp
        quicIv := bytesAt keys.iv 0 12
        sniDomain := bytesAt (peer.sipDomain.take sniLen ++ List.replicate 32 0x20) 0 32
        sniDomainLen := UInt8.ofNat sniLen }

def buildGutConfig (net : Lookups) (peer : PeerConfig) : Load GutConfig := do
  let cfg := GutConfig.fromConfig peer.key peer.ports peer.peerIp
  let cfg ← setBindIp net peer cfg
  let egressIfindex ← lookup net.egressIfindex
  let _ ← lookup net.tunIfindex
  let srcMac ← lookup net.srcMac
  let dstMac ← dstMac net peer
  let cfg := { cfg with
    egressIfindex, srcMac, dstMac
    tunMac := (net.tunMac.toOption).getD (Vector.replicate 6 0)
    defaultXdpAction := defaultXdpAction net peer
    keepaliveDropPercent := peer.keepaliveDropPercent
    ownHttp3 := if peer.ownHttp3 then 1 else 0 }
  let cfg := setTunnelIps peer cfg
  let cfg := if peer.dynamicPeer then { cfg with dynamicPeer := 1 } else cfg
  setQuic peer cfg

section Built

variable {net : Lookups} {peer : PeerConfig} {cfg cfg' : GutConfig}

theorem setBindIp_keeps (done : setBindIp net peer cfg = .ok cfg') :
    ∃ bindIp bindIp6, cfg' = { cfg with bindIp, bindIp6 } := by
  unfold setBindIp at done
  split at done
  · split_ifs at done with wildcard dynamic
    · obtain ⟨src, -, ⟨⟩⟩ := bind_eq_ok.mp done
      exact ⟨src, cfg.bindIp6, rfl⟩
    · obtain ⟨src, -, rest⟩ := bind_eq_ok.mp done
      cases src with
      | v4 octets =>
          cases rest
          exact ⟨octets, cfg.bindIp6, rfl⟩
      | v6 segments => cases rest
    · cases done
      exact ⟨_, cfg.bindIp6, rfl⟩
  · split_ifs at done with wildcard dynamic
    · obtain ⟨src, -, ⟨⟩⟩ := bind_eq_ok.mp done
      exact ⟨cfg.bindIp, src, rfl⟩
    · obtain ⟨src, -, rest⟩ := bind_eq_ok.mp done
      cases src with
      | v4 octets => cases rest
      | v6 segments =>
          cases rest
          exact ⟨cfg.bindIp, octets6 segments, rfl⟩
    · cases done
      exact ⟨cfg.bindIp, _, rfl⟩

theorem setTunnelIps_keeps (peer : PeerConfig) (cfg : GutConfig) :
    ∃ tunLocalIp4 tunPeerIp4, setTunnelIps peer cfg = { cfg with tunLocalIp4, tunPeerIp4 } := by
  unfold setTunnelIps
  split
  · split
    · exact ⟨_, _, rfl⟩
    · exact ⟨cfg.tunLocalIp4, cfg.tunPeerIp4, rfl⟩
  · exact ⟨cfg.tunLocalIp4, cfg.tunPeerIp4, rfl⟩

theorem setQuic_keeps (done : setQuic peer cfg = .ok cfg') :
    ∃ quicKeyRk quicHpRk quicIv sniDomain sniDomainLen, cfg' =
      { cfg with quicDcid := quicDcidOf cfg.chachaInit, quicKeyRk, quicHpRk, quicIv, sniDomain, sniDomainLen } := by
  unfold setQuic at done
  dsimp only at done
  split at done
  · cases done
  · cases done
    exact ⟨_, _, _, _, _, rfl⟩

structure FromPeer (net : Lookups) (peer : PeerConfig) (cfg : GutConfig) : Prop where
  key : cfg.key = peer.key
  init : cfg.chachaInit = Gutd.chachaInit peer.key
  dcid : cfg.quicDcid = quicDcidOf (Gutd.chachaInit peer.key)
  ports : cfg.ports = storedPorts peer.ports
  numPorts : cfg.numPorts = min peer.ports.length maxPorts
  policy : cfg.defaultXdpAction = defaultXdpAction net peer
  keepalive : cfg.keepaliveDropPercent = peer.keepaliveDropPercent
  http3 : cfg.ownHttp3 = if peer.ownHttp3 then 1 else 0

theorem buildGutConfig_fromPeer (done : buildGutConfig net peer = .ok cfg) : FromPeer net peer cfg := by
  unfold buildGutConfig at done
  obtain ⟨bound, bind, done⟩ := bind_eq_ok.mp done
  obtain ⟨egressIfindex, -, done⟩ := bind_eq_ok.mp done
  obtain ⟨tunIfindex, -, done⟩ := bind_eq_ok.mp done
  obtain ⟨srcMac, -, done⟩ := bind_eq_ok.mp done
  obtain ⟨dstMac, -, done⟩ := bind_eq_ok.mp done
  obtain ⟨bindIp, bindIp6, rfl⟩ := setBindIp_keeps bind
  obtain ⟨quicKeyRk, quicHpRk, quicIv, sniDomain, sniDomainLen, rfl⟩ := setQuic_keeps done
  obtain ⟨tunLocalIp4, tunPeerIp4, tunnel⟩ := setTunnelIps_keeps peer
    { GutConfig.fromConfig peer.key peer.ports peer.peerIp with
      bindIp, bindIp6, egressIfindex, srcMac, dstMac
      tunMac := (net.tunMac.toOption).getD (Vector.replicate 6 0)
      defaultXdpAction := defaultXdpAction net peer
      keepaliveDropPercent := peer.keepaliveDropPercent
      ownHttp3 := if peer.ownHttp3 then 1 else 0 }
  simp only [tunnel]
  by_cases dynamic : peer.dynamicPeer = true
  · simp only [if_pos dynamic]
    exact ⟨rfl, rfl, rfl, rfl, rfl, rfl, rfl, rfl⟩
  · simp only [if_neg dynamic]
    exact ⟨rfl, rfl, rfl, rfl, rfl, rfl, rfl, rfl⟩

theorem toList_quicDcidOf (init : ChachaInit) :
    (quicDcidOf init).toList =
      toLeBytes ((chachaBlockFast init 99 0 chachaRounds).get 0) ++ toLeBytes ((chachaBlockFast init 99 0 chachaRounds).get 1) := by
  generalize words : chachaBlockFast init 99 0 chachaRounds = ks99
  rw [quicDcidOf, words, toList_bytesAt _ _ _ (by simp), slice_zero, Nat.zero_add]
  exact List.take_of_length_le (by simp)

theorem FromPeer.keyed (built : FromPeer net peer cfg) : cfg.Keyed peer.key := by
  refine ⟨built.init, ?_⟩
  rw [built.dcid, toList_quicDcidOf]
  rfl

end Built

end Gutd.Bpf
