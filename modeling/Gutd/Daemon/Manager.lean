import Gutd.Bpf.Destination
import Gutd.Bpf.Dispatch
import Gutd.Config.Validity
import Gutd.Shared.Folds
import Mathlib.Data.List.AList

set_option autoImplicit false

-- `TcBpfManager` and `XdpDispatcher` of `loader.rs`. What the kernel and the host answer comes from outside.

namespace Gutd.Bpf

open Bytes Checked Folds Str

def maxPeers : Nat := 8

def portMapEntries : Nat := 64

abbrev PortMap := AList fun _ : UInt16 => Nat

-- The maps of the dispatcher on one NIC. A program goes by the number of its manager.
structure XdpDispatcher where
  portMap : PortMap
  peerProgs : Nat → Option Nat
  nextPeerIdx : Nat

def XdpDispatcher.empty : XdpDispatcher := { portMap := ∅, peerProgs := fun _ => none, nextPeerIdx := 0 }

def e2big : LoadError := .message (ascii "Argument list too long (os error 7)")

-- a full hash map still takes a new value for a key it has
def updatePort (peerIdx : Nat) (portMap : PortMap) (port : UInt16) : Load PortMap := do
  rejectIf e2big (port ∉ portMap ∧ portMap.keys.length ≥ portMapEntries)
  pure (portMap.insert port peerIdx)

def XdpDispatcher.registerPeer (d : XdpDispatcher) (prog : Nat) (ports : List UInt16) : Load XdpDispatcher := do
  rejectIf e2big (d.nextPeerIdx ≥ maxPeers)
  let portMap ← ports.foldlM (updatePort d.nextPeerIdx) d.portMap
  pure { portMap, peerProgs := Function.update d.peerProgs d.nextPeerIdx (some prog), nextPeerIdx := d.nextPeerIdx + 1 }

theorem lookup_updatePorts {peerIdx : Nat} {portMap portMap' : PortMap} {ports : List UInt16}
    (done : ports.foldlM (updatePort peerIdx) portMap = .ok portMap') (port : UInt16) :
    portMap'.lookup port = if port ∈ ports then some peerIdx else portMap.lookup port := by
  induction ports generalizing portMap with
  | nil =>
      cases done
      simp
  | cons first ports ih =>
      rw [List.foldlM_cons] at done
      obtain ⟨next, stored, done⟩ := bind_eq_ok.mp done
      obtain ⟨-, same⟩ := rejectIf_bind_eq_ok.mp stored
      cases same
      rw [ih done]
      by_cases here : port = first
      · subst here
        simp [AList.lookup_insert]
      · simp [here, AList.lookup_insert_ne here]

structure TcBpfManager where
  interface : String
  ingressInterface : String
  -- the build whose programs it has loaded
  mode : ObfsMode
  prog : Nat
  configMap : GutConfig

structure Startup where
  defaultRoute : Option String
  peerRoute : Option String
  kernelVersion : Except Buf (Nat × Nat × Nat)
  vethPair : Except Buf Unit
  tunIfindex : Except Buf UInt32
  nicIfindex : Except Buf UInt32
  attachDispatcher : Except Buf Unit
  lookups : Lookups
  loadEgress : Except Buf Unit
  loadIngress : Except Buf Unit
  probePrograms : Except Buf Unit

def noNic : LoadError := .message (ascii "dynamic_peer: cannot auto-detect ingress NIC. Set 'nic' explicitly.")

def ingressIfname (answers : Startup) (ifname : String) (peer : PeerConfig) : Load String :=
  match peer.nic.filter fun nic => notBlank nic.toList with
  | some nic => pure nic
  | none =>
      if peer.dynamicPeer then orReject noNic answers.defaultRoute
      else pure ((answers.peerRoute.or answers.defaultRoute).getD ifname)

def oldKernel (version : Nat × Nat × Nat) : LoadError :=
  .message (ascii ("GUT TC eBPF requires kernel >= 5.2 (current: " ++ toString version.1 ++ "." ++ toString version.2.1 ++ "." ++
    toString version.2.2 ++ ")"))

abbrev Dispatchers := AList fun _ : String => XdpDispatcher

-- the first manager on a NIC attaches its dispatcher
def findDispatcher (answers : Startup) (nic : String) (dispatchers : Dispatchers) : Load XdpDispatcher :=
  match dispatchers.lookup nic with
  | some d => pure d
  | none => do
      lookup answers.attachDispatcher
      pure XdpDispatcher.empty

namespace TcBpfManager

def new (answers : Startup) (prog : Nat) (ifname : String) (peer : PeerConfig) (dispatchers : Dispatchers) :
    Load (TcBpfManager × Dispatchers) := do
  let nic ← ingressIfname answers ifname peer
  let version ← lookup answers.kernelVersion
  rejectIf (oldKernel version) (version.1 < 5 ∨ version.1 = 5 ∧ version.2.1 < 2)
  lookup answers.vethPair
  let _ ← lookup answers.tunIfindex
  let _ ← lookup answers.nicIfindex
  let dispatcher ← findDispatcher answers nic dispatchers
  let configMap ← buildGutConfig answers.lookups peer
  lookup answers.loadEgress
  lookup answers.loadIngress
  let dispatcher ← dispatcher.registerPeer prog peer.ports
  lookup answers.probePrograms
  pure ({ interface := ifname, ingressInterface := nic, mode := peer.obfs, prog, configMap },
    dispatchers.insert nic dispatcher)

def updateConfig (net : Lookups) (pushed : Except Buf Unit) (peer : PeerConfig) (m : TcBpfManager) : Load TcBpfManager := do
  let configMap ← buildGutConfig net peer
  lookup pushed
  pure { m with configMap }

end TcBpfManager

def Explained {α : Type} (run : Load α) : Prop := ∀ panic, run ≠ .error (.panicked panic)

theorem explained_ok {α : Type} (a : α) : Explained (.ok a) := by
  simp [Explained]

theorem explained_lookup {α : Type} (answer : Except Buf α) : Explained (lookup answer) := by
  cases answer <;> simp [Explained, lookup, throw, throwThe, MonadExceptOf.throw]

theorem Explained.bind {α β : Type} {run : Load α} {next : α → Load β} (first : Explained run)
    (rest : ∀ a, Explained (next a)) : Explained (run >>= next) := by
  cases run with
  | ok a => exact rest a
  | error e => simpa [Explained] using first

theorem buildGutConfig_explained (net : Lookups) (peer : PeerConfig) : Explained (buildGutConfig net peer) := by
  have message {α : Type} (text : Buf) : Explained (throw (.message text) : Load α) := by
    simp [Explained, throw, throwThe, MonadExceptOf.throw]
  have bound (cfg : GutConfig) : Explained (setBindIp net peer cfg) := by
    unfold setBindIp
    split
    · split_ifs
      · exact (explained_lookup _).bind fun _ => explained_ok _
      · refine (explained_lookup _).bind fun src => ?_
        cases src with
        | v4 octets => exact explained_ok _
        | v6 segments => exact message _
      · exact explained_ok _
    · split_ifs
      · exact (explained_lookup _).bind fun _ => explained_ok _
      · refine (explained_lookup _).bind fun src => ?_
        cases src with
        | v4 octets => exact message _
        | v6 segments => exact explained_ok _
      · exact explained_ok _
  have gateway : Explained (dstMac net peer) := by
    unfold dstMac
    split_ifs
    · cases net.gatewayMac with
      | some mac => exact explained_ok _
      | none => exact message _
    · exact explained_lookup _
  have keys (cfg : GutConfig) : Explained (setQuic peer cfg) := by
    obtain ⟨keys, derived, -⟩ := deriveQuicClientKeys_ok (quicDcidOf cfg.chachaInit).toList
    unfold setQuic
    dsimp only
    rw [derived]
    exact explained_ok _
  unfold buildGutConfig
  refine (bound _).bind fun cfg => (explained_lookup _).bind fun _ => (explained_lookup _).bind fun _ =>
    (explained_lookup _).bind fun _ => gateway.bind fun _ => keys _

def startPeer (started : List TcBpfManager × Dispatchers) (next : PeerConfig × Startup) :
    Load (List TcBpfManager × Dispatchers) := do
  let (manager, dispatchers) ← TcBpfManager.new next.2 started.1.length next.1.name next.1 started.2
  pure (started.1 ++ [manager], dispatchers)

def startPeers (config : Config) (answers : Nat → Startup) : Load (List TcBpfManager × Dispatchers) :=
  (config.peers.zipIdx.map fun next => (next.1, answers next.2)).foldlM startPeer ([], ∅)

structure TcBpfManager.StartedFor (m : TcBpfManager) (peer : PeerConfig) (number : Nat) : Prop where
  interface : m.interface = peer.name
  mode : m.mode = peer.obfs
  prog : m.prog = number
  entry : ∃ net, buildGutConfig net peer = .ok m.configMap

structure Registered (peers : List PeerConfig) (started : List TcBpfManager × Dispatchers) : Prop where
  length : started.1.length = peers.length
  managers : ∀ i (m : TcBpfManager), started.1[i]? = some m → ∃ peer, peers[i]? = some peer ∧ m.StartedFor peer i
  -- a slot in use has been handed out
  slots : ∀ nic d, started.2.lookup nic = some d → ∀ slot i, d.peerProgs slot = some i → slot < d.nextPeerIdx
  targets : ∀ nic d, started.2.lookup nic = some d → ∀ port slot, d.portMap.lookup port = some slot →
    ∃ i m peer, d.peerProgs slot = some i ∧ started.1[i]? = some m ∧ peers[i]? = some peer ∧ m.ingressInterface = nic ∧
      port ∈ peer.ports
  reached : ∀ i m peer port, started.1[i]? = some m → peers[i]? = some peer → port ∈ peer.ports →
    ∃ d slot, started.2.lookup m.ingressInterface = some d ∧ d.portMap.lookup port = some slot ∧ d.peerProgs slot = some i

def PortsDisjoint (peers : List PeerConfig) : Prop := peers.Pairwise fun p q => ∀ port ∈ p.ports, port ∉ q.ports

section Start

variable {answers : Startup} {prog : Nat} {ifname : String} {peer : PeerConfig} {dispatchers dispatchers' : Dispatchers}
  {m : TcBpfManager}

theorem TcBpfManager.new_inv (done : TcBpfManager.new answers prog ifname peer dispatchers = .ok (m, dispatchers')) :
    ∃ d d', findDispatcher answers m.ingressInterface dispatchers = .ok d ∧ d.registerPeer prog peer.ports = .ok d' ∧
      dispatchers' = dispatchers.insert m.ingressInterface d' ∧ m.interface = ifname ∧ m.mode = peer.obfs ∧ m.prog = prog ∧
      buildGutConfig answers.lookups peer = .ok m.configMap := by
  unfold TcBpfManager.new at done
  obtain ⟨nic, -, done⟩ := bind_eq_ok.mp done
  obtain ⟨version, -, done⟩ := bind_eq_ok.mp done
  obtain ⟨-, done⟩ := rejectIf_bind_eq_ok.mp done
  obtain ⟨-, -, done⟩ := bind_eq_ok.mp done
  obtain ⟨tunIfindex, -, done⟩ := bind_eq_ok.mp done
  obtain ⟨nicIfindex, -, done⟩ := bind_eq_ok.mp done
  obtain ⟨d, found, done⟩ := bind_eq_ok.mp done
  obtain ⟨configMap, built, done⟩ := bind_eq_ok.mp done
  obtain ⟨-, -, done⟩ := bind_eq_ok.mp done
  obtain ⟨-, -, done⟩ := bind_eq_ok.mp done
  obtain ⟨d', registered, done⟩ := bind_eq_ok.mp done
  obtain ⟨-, -, done⟩ := bind_eq_ok.mp done
  cases done
  exact ⟨d, d', found, registered, rfl, rfl, rfl, rfl, built⟩

theorem registerPeer_inv {d d' : XdpDispatcher} {ports : List UInt16} (done : d.registerPeer prog ports = .ok d') :
    d.nextPeerIdx < maxPeers ∧ d'.nextPeerIdx = d.nextPeerIdx + 1 ∧
      d'.peerProgs = Function.update d.peerProgs d.nextPeerIdx (some prog) ∧
      ∀ port, d'.portMap.lookup port = if port ∈ ports then some d.nextPeerIdx else d.portMap.lookup port := by
  obtain ⟨free, done⟩ := rejectIf_bind_eq_ok.mp done
  obtain ⟨portMap, stored, done⟩ := bind_eq_ok.mp done
  cases done
  exact ⟨by omega, rfl, rfl, lookup_updatePorts stored⟩

theorem findDispatcher_inv {d : XdpDispatcher} {nic : String} (found : findDispatcher answers nic dispatchers = .ok d) :
    dispatchers.lookup nic = some d ∨ dispatchers.lookup nic = none ∧ d = XdpDispatcher.empty := by
  unfold findDispatcher at found
  cases known : dispatchers.lookup nic with
  | some d' =>
      rw [known] at found
      cases found
      exact .inl rfl
  | none =>
      rw [known] at found
      obtain ⟨-, -, same⟩ := bind_eq_ok.mp found
      cases same
      exact .inr ⟨rfl, rfl⟩

theorem startPeer_registered {peers : List PeerConfig} {started started' : List TcBpfManager × Dispatchers}
    {next : PeerConfig × Startup} (registered : Registered peers started) (disjoint : PortsDisjoint (peers ++ [next.1]))
    (done : startPeer started next = .ok started') : Registered (peers ++ [next.1]) started' := by
  obtain ⟨⟨m, dispatchers'⟩, made, same⟩ := bind_eq_ok.mp done
  cases same
  obtain ⟨d, d', found, entered, rfl, interface, mode, program, built⟩ := TcBpfManager.new_inv made
  obtain ⟨-, nextIdx, progs, ports⟩ := registerPeer_inv entered
  have length := registered.length
  -- what was in the dispatcher of this NIC, nothing if it is new
  have slotsBefore : ∀ slot i, d.peerProgs slot = some i → slot < d.nextPeerIdx := by
    intro slot i used
    rcases findDispatcher_inv found with known | ⟨-, rfl⟩
    · exact registered.slots _ d known slot i used
    · cases used
  have kept : ∀ slot i, d.peerProgs slot = some i → d'.peerProgs slot = some i := by
    intro slot i used
    have before := slotsBefore slot i used
    rw [progs, Function.update_of_ne (by omega), used]
  have apart : ∀ (i : Nat) (peer : PeerConfig) port, peers[i]? = some peer → port ∈ peer.ports → port ∉ next.1.ports := by
    intro i peer port member here
    exact (List.pairwise_append.mp disjoint).2.2 peer (List.mem_of_getElem? member) next.1 (by simp) port here
  refine ⟨by simp [length], ?_, ?_, ?_, ?_⟩
  · intro i m' here
    rcases getElem?_concat_eq_some.mp here with old | ⟨rfl, rfl⟩
    · obtain ⟨peer, served, started⟩ := registered.managers i m' old
      exact ⟨peer, getElem?_concat_eq_some.mpr (.inl served), started⟩
    · exact ⟨next.1, getElem?_concat_eq_some.mpr (.inr ⟨length, rfl⟩), interface, mode, program, _, built⟩
  · intro nic e known slot i used
    by_cases here : nic = m.ingressInterface
    · subst here
      rw [AList.lookup_insert] at known
      cases known
      rw [nextIdx]
      by_cases fresh : slot = d.nextPeerIdx
      · omega
      · rw [progs, Function.update_of_ne fresh] at used
        have before := slotsBefore slot i used
        omega
    · rw [AList.lookup_insert_ne here] at known
      exact registered.slots nic e known slot i used
  · intro nic e known port slot sent
    have older : ∀ d₀, started.2.lookup nic = some d₀ → d₀.portMap.lookup port = some slot →
        (∀ i, d₀.peerProgs slot = some i → e.peerProgs slot = some i) →
        ∃ i m' peer, e.peerProgs slot = some i ∧ (started.1 ++ [m])[i]? = some m' ∧ (peers ++ [next.1])[i]? = some peer ∧
          m'.ingressInterface = nic ∧ port ∈ peer.ports := by
      intro d₀ before sent still
      obtain ⟨i, m', peer, used, manager, served, same, inside⟩ := registered.targets nic d₀ before port slot sent
      exact ⟨i, m', peer, still i used, getElem?_concat_eq_some.mpr (.inl manager),
        getElem?_concat_eq_some.mpr (.inl served), same, inside⟩
    by_cases here : nic = m.ingressInterface
    · subst here
      rw [AList.lookup_insert] at known
      cases known
      rw [ports] at sent
      by_cases own : port ∈ next.1.ports
      · rw [if_pos own] at sent
        cases sent
        refine ⟨started.1.length, m, next.1, ?_, getElem?_concat_eq_some.mpr (.inr ⟨rfl, rfl⟩),
          getElem?_concat_eq_some.mpr (.inr ⟨length, rfl⟩), rfl, own⟩
        rw [progs, Function.update_self]
      · rw [if_neg own] at sent
        rcases findDispatcher_inv found with before | ⟨-, rfl⟩
        · exact older d before sent fun i used => kept slot i used
        · cases sent
    · rw [AList.lookup_insert_ne here] at known
      exact older e known sent fun i used => used
  · intro i m' peer port manager served inside
    rcases getElem?_concat_eq_some.mp manager with old | ⟨rfl, rfl⟩
    · have bounded : i < peers.length := by
        rw [← length]
        exact (List.getElem?_eq_some_iff.mp old).1
      have servedBefore : peers[i]? = some peer := by
        rcases getElem?_concat_eq_some.mp served with before | ⟨last, -⟩
        · exact before
        · omega
      obtain ⟨d₀, slot, before, sent, used⟩ := registered.reached i m' peer port old servedBefore inside
      by_cases here : m'.ingressInterface = m.ingressInterface
      · have same : d₀ = d := by
          rcases findDispatcher_inv found with known | ⟨unknown, -⟩
          · rw [here, known] at before
            exact (Option.some.inj before).symm
          · rw [here, unknown] at before
            cases before
        subst same
        refine ⟨d', slot, by rw [here, AList.lookup_insert], ?_, kept slot i used⟩
        rw [ports, if_neg (apart i peer port servedBefore inside), sent]
      · exact ⟨d₀, slot, by rw [AList.lookup_insert_ne here, before], sent, used⟩
    · have own : peer = next.1 := by
        rcases getElem?_concat_eq_some.mp served with before | ⟨-, same⟩
        · rw [length, List.getElem?_eq_none (Nat.le_refl _)] at before
          cases before
        · exact same.symm
      subst own
      refine ⟨d', d.nextPeerIdx, AList.lookup_insert _, ?_, ?_⟩
      · rw [ports, if_pos inside]
      · rw [progs, Function.update_self]

theorem startPeers_registered {config : Config} {answers : Nat → Startup} {started : List TcBpfManager × Dispatchers}
    (disjoint : PortsDisjoint config.peers) (done : startPeers config answers = .ok started) :
    Registered config.peers started := by
  have peers : (config.peers.zipIdx.map fun next => (next.1, answers next.2)).map Prod.fst = config.peers := by
    rw [List.map_map]
    exact List.zipIdx_map_fst 0 config.peers
  have all := foldlM_invariant
    (P := fun done started => PortsDisjoint (done.map Prod.fst) → Registered (done.map Prod.fst) started)
    (fun done next started started' before step disjoint => by
      rw [List.map_append, List.map_singleton] at disjoint ⊢
      exact startPeer_registered (before (List.pairwise_append.mp disjoint).1) disjoint step)
    (fun _ => ⟨rfl, by simp, by simp, by simp, by simp⟩) done
  rw [peers] at all
  exact all disjoint

end Start

def sampleStartup : Startup :=
  { defaultRoute := some "eth0"
    peerRoute := none
    kernelVersion := .ok (6, 1, 0)
    vethPair := .ok ()
    tunIfindex := .ok 3
    nicIfindex := .ok 2
    attachDispatcher := .ok ()
    lookups := sampleLookups
    loadEgress := .ok ()
    loadIngress := .ok ()
    probePrograms := .ok () }

def onePeer (port : UInt16) : Config :=
  { global := { outerMtu := 1500, userspaceOnly := false }
    runtime := { statsInterval := 5, statFile := "/run/gutd.stat" }
    peers := [plainPeer "gut0" port] }

theorem new_plainPeer (prog : Nat) (name : String) (port : UInt16) {dispatchers : Dispatchers} {d d' : XdpDispatcher}
    (found : findDispatcher sampleStartup "eth0" dispatchers = .ok d) (registered : d.registerPeer prog [port] = .ok d') :
    ∃ m, TcBpfManager.new sampleStartup prog name (plainPeer name port) dispatchers = .ok (m, dispatchers.insert "eth0" d') := by
  obtain ⟨cfg, built⟩ := buildGutConfig_plainPeer name port
  refine ⟨{ interface := name, ingressInterface := "eth0", mode := .gut, prog, configMap := cfg }, ?_⟩
  have nic : ingressIfname sampleStartup name (plainPeer name port) = .ok "eth0" := rfl
  have version : lookup sampleStartup.kernelVersion = .ok (6, 1, 0) := rfl
  have index : lookup sampleStartup.tunIfindex = .ok 3 ∧ lookup sampleStartup.nicIfindex = .ok 2 := ⟨rfl, rfl⟩
  have fine : lookup sampleStartup.vethPair = .ok () ∧ lookup sampleStartup.loadEgress = .ok () ∧
      lookup sampleStartup.loadIngress = .ok () ∧ lookup sampleStartup.probePrograms = .ok () := ⟨rfl, rfl, rfl, rfl⟩
  unfold TcBpfManager.new
  rw [nic, bind_ok, version, bind_ok, rejectIf_ok (by decide), bind_ok, fine.1, bind_ok, index.1, bind_ok, index.2, bind_ok,
    found, bind_ok, show sampleStartup.lookups = sampleLookups from rfl, built, bind_ok, fine.2.1, bind_ok, fine.2.2.1, bind_ok,
    show (plainPeer name port).ports = [port] from rfl, registered, bind_ok, fine.2.2.2, bind_ok, pure_eq_ok]
  rfl

theorem startPeers_plainPeer (port : UInt16) : ∃ started, startPeers (onePeer port) (fun _ => sampleStartup) = .ok started := by
  obtain ⟨m, made⟩ := new_plainPeer 0 "gut0" port (rfl : findDispatcher sampleStartup "eth0" ∅ = .ok XdpDispatcher.empty) rfl
  exact ⟨_, bind_eq_ok.mpr ⟨_, bind_eq_ok.mpr ⟨_, made, rfl⟩, rfl⟩⟩

theorem onePeer_valid : (onePeer 41000).Valid where
  some := by simp [onePeer]
  names := by simp [onePeer]
  peers := by
    intro p member
    cases List.mem_singleton.mp member
    exact ⟨by decide, by decide, by decide, by decide, by decide⟩
  disjoint := List.pairwise_singleton _ _

section Ports

variable {frame : Buf}

theorem dispatchIp_of_parseIp {proto : UInt16} {ipOff : Nat} {pos : UdpPos} (parsed : parseIp frame proto ipOff = some pos) :
    dispatchIp frame proto ipOff = some pos.udpOff := by
  unfold parseIp at parsed
  unfold dispatchIp
  split_ifs at parsed with v4 short foreign v6 short foreign <;> cases parsed
  · rw [not_or, not_not, not_not] at foreign
    rw [if_pos v4, if_neg short, if_neg (by simp [foreign.1]), foreign.2]
    rfl
  · rw [if_neg v4, if_pos v6, if_neg short, if_neg foreign]
    rfl

theorem dispatchPort_of_parseUdp {pos : UdpPos} (parsed : parseUdp frame = some pos) :
    dispatchPort frame = some (be16At frame (pos.udpOff + 2)) := by
  obtain ⟨whole, link⟩ := parseUdp_some parsed
  have ethernet := parseUdp_ipOff parsed
  unfold UdpPos.payloadOff UdpPos.udpOff at whole
  have found : dispatchOffset frame = some pos.udpOff := by
    unfold dispatchOffset
    rw [if_neg (by omega)]
    rcases link with ⟨tagged, ip⟩ | ⟨plain, ip⟩
    · have tag := (parseIp_some ip).1
      rw [if_pos tagged, if_neg (by omega), dispatchIp_of_parseIp ip]
    · rw [if_neg plain, dispatchIp_of_parseIp ip]
  rw [dispatchPort, found]
  dsimp only
  rw [if_neg (by unfold UdpPos.udpOff; omega)]

theorem isGutPort_of_parseWg {cfg : GutConfig} {r : Received} (parsed : parseWg cfg frame = some r) :
    isGutPort (be16At frame (r.pos.udpOff + 2)) cfg = true := by
  unfold parseWg at parsed
  split at parsed
  · cases parsed
  · dsimp only at parsed
    split_ifs at parsed with foreign
    cases parsed
    simpa using foreign

theorem port_of_decapsulated {disp : Dispatcher} {x : Xdp} (opened : Decapsulated disp x) :
    ∃ port prog slot, dispatchPort x.frame = some port ∧ disp.portMap port = some slot ∧ disp.peerProgs slot = some prog ∧
      isGutPort port prog.cfg = true := by
  obtain ⟨prog, x', target, core⟩ := opened
  obtain ⟨port, udp, rest⟩ := Option.bind_eq_some_iff.mp target
  obtain ⟨slot, mapped, loaded⟩ := Option.bind_eq_some_iff.mp rest
  cases parsed : parseWg prog.cfg x.frame with
  | none =>
      rw [gutXdpCore_foreign parsed] at core
      cases core
  | some r =>
      have listens := isGutPort_of_parseWg parsed
      have same := dispatchPort_of_parseUdp (parseWg_pos parsed)
      rw [udp] at same
      cases same
      exact ⟨_, prog, slot, udp, mapped, loaded, listens⟩

end Ports

end Gutd.Bpf
