import Gutd.Config.Load
import Gutd.Daemon.Manager
import Gutd.Shared.NetText
import Gutd.Userspace.Delivery

set_option autoImplicit false

-- What `run` of `userspace.rs` does before its threads.

namespace Gutd.Userspace

open Bytes Checked Net Str

structure Overrides where
  obfs : Option (List Char)
  wgHost : Option (List Char)
  peerIp : Option (List Char)

inductive StartError where
  | noPeers
  | invalidAddress
  | unbound (addr : SocketAddr)
  deriving DecidableEq

-- `sip` is not among the names
def overriddenObfs (overrides : Overrides) (peer : PeerConfig) : ObfsMode :=
  match overrides.obfs with
  | some name =>
      if name = "syslog".toList then .syslog
      else if name = "quic".toList then .quic
      else if name = "gut".toList ∨ name = "gost".toList ∨ name = "noise".toList then .gut
      else peer.obfs
  | none => peer.obfs

def wgHostStr (overrides : Overrides) (peer : PeerConfig) : Buf := utf8 (overrides.wgHost.getD peer.wgHost.toList)

def peerIpStr (overrides : Overrides) (peer : PeerConfig) : Buf := (overrides.peerIp.map utf8).getD peer.peerIp.text

def isDynamicPeer (overrides : Overrides) (peer : PeerConfig) : Bool :=
  peer.dynamicPeer || overrides.peerIp.any isDynamic || peerIpStr overrides peer == ascii "0.0.0.0"

def remotePeerText (overrides : Overrides) (peer : PeerConfig) : Buf :=
  peerIpStr overrides peer ++ (ascii ":" ++ decimal ((peer.peerPorts.head?.getD 41000).toNat))

def remotePeer (overrides : Overrides) (peer : PeerConfig) : Except StartError (Option SocketAddr) :=
  if isDynamicPeer overrides peer then pure none
  else do
    let addr ← orReject .invalidAddress (parseSocketAddr (remotePeerText overrides peer))
    pure (some addr)

-- what the host says to another socket, by the addresses of those that are open
abbrev Sockets := List SocketAddr → SocketAddr → Bool

def bindUdp (sockets : Sockets) (bound : List SocketAddr) (addr : SocketAddr) : Except StartError (List SocketAddr) := do
  rejectIf (.unbound addr) (sockets bound addr = false)
  pure (bound ++ [addr])

-- GUTD_OBFS does not count here
def clientNeedsFixedPort (peer : PeerConfig) : Bool := peer.responder || peer.obfs == .sip

def extAddrs (peer : PeerConfig) : List SocketAddr :=
  peer.ports.map fun port => ⟨peer.bindIp, if clientNeedsFixedPort peer then port else 0⟩

def localBind (peer : PeerConfig) (wgAddr : SocketAddr) : SocketAddr :=
  if peer.responder then ⟨peer.bindIp, peer.bindPort⟩ else wgAddr

def startRuntime (order : ByteOrder) (overrides : Overrides) (sockets : Sockets) (config : Config) :
    Except StartError Runtime := do
  let peer ← orReject .noPeers config.peers.head?
  let wgAddr ← orReject .invalidAddress (parseSocketAddr (wgHostStr overrides peer))
  let remotePeerAddr ← remotePeer overrides peer
  let bound ← (extAddrs peer).foldlM (bindUdp sockets) []
  let _ ← bindUdp sockets bound (localBind peer wgAddr)
  pure
    { order
      key := peer.key
      isServer := peer.responder
      obfs := overriddenObfs overrides peer
      wgAddr
      dynamicPeer := isDynamicPeer overrides peer
      remotePeerAddr
      bindIp := peer.bindIp
      ports := peer.ports
      peerPorts := peer.peerPorts
      sipDomain := peer.sipDomain }

def AllBind (sockets : Sockets) (addrs : List SocketAddr) : Prop :=
  ∀ before addr after, addrs = before ++ addr :: after → sockets before addr = true

section Bind

variable {sockets : Sockets} {addrs : List SocketAddr}

theorem bindUdp_eq_ok {bound bound' : List SocketAddr} {addr : SocketAddr} :
    bindUdp sockets bound addr = .ok bound' ↔ sockets bound addr = true ∧ bound' = bound ++ [addr] := by
  unfold bindUdp
  cases sockets bound addr <;> simp [rejectIf, eq_comm]

theorem allBind_append_singleton {addr : SocketAddr} :
    AllBind sockets (addrs ++ [addr]) ↔ AllBind sockets addrs ∧ sockets addrs addr = true := by
  constructor
  · intro binds
    refine ⟨fun before addr' after split => ?_, binds addrs addr [] rfl⟩
    exact binds before addr' (after ++ [addr]) (by simp [split])
  · rintro ⟨binds, last⟩ before addr' after split
    rcases List.eq_nil_or_concat after with rfl | ⟨after', addr'', rfl⟩
    · obtain ⟨rfl, same⟩ := List.append_inj' split rfl
      cases same
      exact last
    · refine binds before addr' after' ?_
      rw [List.concat_eq_append, ← List.cons_append, ← List.append_assoc] at split
      exact (List.append_inj' split rfl).1

-- by induction from the last socket: the sockets before it are open when it is asked for
theorem foldlM_bindUdp_eq_ok {bound : List SocketAddr} :
    addrs.foldlM (bindUdp sockets) [] = .ok bound ↔ AllBind sockets addrs ∧ bound = addrs := by
  induction addrs using List.reverseRecOn generalizing bound with
  | nil =>
      have none : AllBind sockets [] := fun before addr after split => absurd split (by simp)
      rw [List.foldlM_nil, pure_eq_ok, Except.ok.injEq]
      exact ⟨fun same => ⟨none, same.symm⟩, fun same => same.2.symm⟩
  | append_singleton addrs addr ih =>
      rw [List.foldlM_append, allBind_append_singleton]
      constructor
      · intro done
        obtain ⟨open', opened, last⟩ := bind_eq_ok.mp done
        obtain ⟨binds, rfl⟩ := ih.mp opened
        rw [List.foldlM_cons] at last
        obtain ⟨all, opened, same⟩ := bind_eq_ok.mp last
        obtain ⟨allowed, rfl⟩ := bindUdp_eq_ok.mp opened
        cases same
        exact ⟨⟨binds, allowed⟩, rfl⟩
      · rintro ⟨⟨binds, allowed⟩, rfl⟩
        rw [ih.mpr ⟨binds, rfl⟩, bind_ok, List.foldlM_cons, bindUdp_eq_ok.mpr ⟨allowed, rfl⟩]
        rfl

end Bind

section Remote

variable {order : ByteOrder} {config : Config} {peer : PeerConfig} {rest : List PeerConfig} {overrides : Overrides}
  {sockets : Sockets}

theorem startRuntime_iff (first : config.peers = peer :: rest) :
    (∃ rt, startRuntime order overrides sockets config = .ok rt) ↔
      ∃ wgAddr, parseSocketAddr (wgHostStr overrides peer) = some wgAddr ∧
        (isDynamicPeer overrides peer = true ∨ ∃ addr, parseSocketAddr (remotePeerText overrides peer) = some addr) ∧
        AllBind sockets (extAddrs peer ++ [localBind peer wgAddr]) := by
  have remote : (∃ addr, remotePeer overrides peer = .ok addr) ↔
      isDynamicPeer overrides peer = true ∨ ∃ addr, parseSocketAddr (remotePeerText overrides peer) = some addr := by
    unfold remotePeer
    cases isDynamicPeer overrides peer <;> cases parseSocketAddr (remotePeerText overrides peer) <;> simp [orReject]
  unfold startRuntime
  rw [first, List.head?_cons, orReject, pure_eq_ok, bind_ok]
  constructor
  · rintro ⟨rt, started⟩
    obtain ⟨wgAddr, parsed, started⟩ := bind_eq_ok.mp started
    obtain ⟨addr, found, started⟩ := bind_eq_ok.mp started
    obtain ⟨bound, opened, started⟩ := bind_eq_ok.mp started
    obtain ⟨all, last, -⟩ := bind_eq_ok.mp started
    obtain ⟨binds, rfl⟩ := foldlM_bindUdp_eq_ok.mp opened
    exact ⟨wgAddr, orReject_eq_ok.mp parsed, remote.mp ⟨addr, found⟩,
      allBind_append_singleton.mpr ⟨binds, (bindUdp_eq_ok.mp last).1⟩⟩
  · rintro ⟨wgAddr, parsed, reached, binds⟩
    obtain ⟨addr, found⟩ := remote.mpr reached
    obtain ⟨binds, last⟩ := allBind_append_singleton.mp binds
    rw [orReject_eq_ok.mpr parsed, bind_ok, found, bind_ok, foldlM_bindUdp_eq_ok.mpr ⟨binds, rfl⟩, bind_ok,
      bindUdp_eq_ok.mpr ⟨last, rfl⟩, bind_ok]
    exact ⟨_, rfl⟩

theorem remote_of_started {rt : Runtime} (first : config.peers = peer :: rest)
    (started : startRuntime order overrides sockets config = .ok rt) :
    rt.dynamicPeer = isDynamicPeer overrides peer ∧
      rt.remotePeerAddr = if isDynamicPeer overrides peer then none else parseSocketAddr (remotePeerText overrides peer) := by
  unfold startRuntime at started
  rw [first, List.head?_cons, orReject, pure_eq_ok, bind_ok] at started
  obtain ⟨wgAddr, -, started⟩ := bind_eq_ok.mp started
  obtain ⟨remote, found, started⟩ := bind_eq_ok.mp started
  obtain ⟨bound, -, started⟩ := bind_eq_ok.mp started
  obtain ⟨all, -, started⟩ := bind_eq_ok.mp started
  cases started
  refine ⟨rfl, ?_⟩
  unfold remotePeer at found
  split_ifs at found ⊢ with dynamic
  · cases found
    rfl
  · obtain ⟨addr, parsed, found⟩ := bind_eq_ok.mp found
    cases found
    exact (orReject_eq_ok.mp parsed).symm

theorem remotePeerText_plain (unset : overrides.peerIp = none) :
    remotePeerText overrides peer =
      peer.peerIp.text ++ (ascii ":" ++ decimal ((peer.peerPorts.head?.getD 41000).toNat)) := by
  rw [remotePeerText, peerIpStr, unset]
  rfl

theorem fixed_peer_starts_iff (order : ByteOrder) (overrides : Overrides) (sockets : Sockets) (unset : overrides.peerIp = none)
    (first : config.peers = peer :: rest) (fixed : isDynamicPeer overrides peer = false) :
    ((∃ rt, startRuntime order overrides sockets config = .ok rt) ↔
        ∃ wgAddr octets, parseSocketAddr (wgHostStr overrides peer) = some wgAddr ∧ peer.peerIp = .v4 octets ∧
          AllBind sockets (extAddrs peer ++ [localBind peer wgAddr])) ∧
      ∀ rt, startRuntime order overrides sockets config = .ok rt →
        rt.remotePeerAddr = some ⟨peer.peerIp, peer.peerPorts.head?.getD 41000⟩ := by
  have text := @remotePeerText_plain peer overrides unset
  cases ip : peer.peerIp with
  | v4 octets =>
      have parsed : parseSocketAddr (remotePeerText overrides peer) = some ⟨.v4 octets, peer.peerPorts.head?.getD 41000⟩ := by
        rw [text, ip]
        exact parseSocketAddr_v4 octets _
      refine ⟨?_, fun rt started => ?_⟩
      · rw [startRuntime_iff first, parsed, fixed]
        simp
      · have remote := (remote_of_started first started).2
        rwa [fixed, parsed] at remote
  | v6 segments =>
      have parsed : parseSocketAddr (remotePeerText overrides peer) = none := by
        rw [text, ip]
        exact parseSocketAddr_v6 segments _
      have never : ¬∃ rt, startRuntime order overrides sockets config = .ok rt := by
        rw [startRuntime_iff first, parsed, fixed]
        simp
      refine ⟨⟨fun started => absurd started never, ?_⟩, fun rt started => absurd ⟨rt, started⟩ never⟩
      rintro ⟨wgAddr, octets, -, other, -⟩
      cases other

end Remote

def v6Peer : Config :=
  { Bpf.onePeer 41000 with peers := [{ Bpf.plainPeer "gut0" 41000 with peerIp := .v6 (Vector.replicate 8 1) }] }

theorem fixed_peer_starts_iff_v6 :
    (∃ rt, startRuntime .little ⟨none, none, none⟩ (fun _ _ => true) (Bpf.onePeer 41000) = .ok rt) ∧
      ¬∃ rt, startRuntime .little ⟨none, none, none⟩ (fun _ _ => true) v6Peer = .ok rt := by
  have first : (Bpf.onePeer 41000).peers = Bpf.plainPeer "gut0" 41000 :: [] := rfl
  have second : v6Peer.peers = { Bpf.plainPeer "gut0" 41000 with peerIp := .v6 (Vector.replicate 8 1) } :: [] := rfl
  rw [(fixed_peer_starts_iff .little ⟨none, none, none⟩ (fun _ _ => true) rfl first (by decide)).1,
    (fixed_peer_starts_iff .little ⟨none, none, none⟩ (fun _ _ => true) rfl second (by decide)).1]
  have host : parseSocketAddr (ascii "127.0.0.1:51820") = some ⟨.v4 (Vector.mk #[127, 0, 0, 1] rfl), 51820⟩ := by decide +kernel
  refine ⟨⟨_, _, host, rfl, fun _ _ _ _ => rfl⟩, ?_⟩
  rintro ⟨wgAddr, octets, -, ip, -⟩
  cases ip

end Gutd.Userspace
