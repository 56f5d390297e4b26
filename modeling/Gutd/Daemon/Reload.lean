import Gutd.Daemon.Loop

set_option autoImplicit false

namespace Gutd.Daemon

open Bytes Checked Bpf Folds

structure Works (answers : Answers) (interface : String) (peer : PeerConfig) : Prop where
  built : ∃ cfg, buildGutConfig (answers.lookups interface) peer = .ok cfg
  pushed : answers.pushed interface = .ok ()

theorem Works.attempted {answers : Answers} {m : TcBpfManager} {peer : PeerConfig} {config : Config}
    (works : Works answers m.interface peer)
    (found : config.peers.find? (fun peer => peer.name = m.interface) = some peer) :
    (attempted config answers m).interface = m.interface ∧
      buildGutConfig (answers.lookups m.interface) peer = .ok (attempted config answers m).configMap := by
  obtain ⟨⟨cfg, built⟩, pushed⟩ := works
  have updated : m.updateConfig (answers.lookups m.interface) (answers.pushed m.interface) peer =
      .ok { m with configMap := cfg } := by
    unfold TcBpfManager.updateConfig
    rw [built, bind_ok, pushed]
    rfl
  unfold Gutd.attempted
  rw [found]
  dsimp only
  rw [updated]
  exact ⟨rfl, built⟩

theorem find?_name {peers : List PeerConfig} (names : (peers.map PeerConfig.name).Nodup) {i : Nat} {peer : PeerConfig}
    (member : peers[i]? = some peer) : peers.find? (fun p => p.name = peer.name) = some peer := by
  induction peers generalizing i with
  | nil => simp at member
  | cons first peers ih =>
      rw [List.map_cons, List.nodup_cons] at names
      cases i with
      | zero =>
          cases member
          simp
      | succ i =>
          rw [List.getElem?_cons_succ] at member
          have other : first.name ≠ peer.name := fun same =>
            names.1 (same ▸ List.mem_map_of_mem (List.mem_of_getElem? member))
          rw [List.find?_cons_of_neg (by simpa using other)]
          exact ih names.2 member

def Untouched (before after : Nat) : Prop := before % netRefreshTicks + after < netRefreshTicks

instance (before after : Nat) : Decidable (Untouched before after) := Nat.decLt _ _

section Lifetime

variable {config loaded : Config} {source : ReloadSource} {answers : Nat → Startup} {start d : Daemon}
  {before done after : List Event} {world : World} {i : Nat} {old new : PeerConfig}

def Carries (before : List Event) (world : World) (i : Nat) (old new : PeerConfig) (later : Nat) (d : Daemon) : Prop :=
  ∃ m, d.managers[i]? = some m ∧ m.interface = old.name ∧
    (Untouched (turns before + 1) later → buildGutConfig (world.reload.lookups old.name) new = .ok m.configMap) ∧
    (¬Untouched (turns before + 1) later → ∃ net, buildGutConfig net old = .ok m.configMap)

structure Behind (config : Config) (source : ReloadSource) (before : List Event) (world : World) (i : Nat)
    (old new : PeerConfig) (done : List Event) (d : Daemon) : Prop where
  counts : Counts config source (before ++ .sighup :: .turn world :: done) d
  idle : d.reloadFlag = false
  entry : Carries before world i old new (turns done) d

theorem turns_append (events more : List Event) : turns (events ++ more) = turns events + turns more := List.countP_append

theorem turns_behind (before : List Event) (world : World) (done : List Event) :
    turns (before ++ .sighup :: .turn world :: done) = turns before + 1 + turns done := by
  have first : turns (.sighup :: .turn world :: done) = turns done + 1 := by
    rw [turns, List.countP_cons_of_neg (by simp [isTurn]), List.countP_cons_of_pos rfl, turns]
  rw [turns_append, first]
  omega

theorem Behind.turned (behind : Behind config source before world i old new done d) (next : World)
    (found : config.peers.find? (fun peer => peer.name = old.name) = some old) (works : Works next.refresh old.name old) :
    Carries before world i old new (turns done + 1) (d.afterTurn next) := by
  obtain ⟨m, manager, interface, young, aged⟩ := behind.entry
  have due := behind.counts.refreshDue
  rw [turns_behind] at due
  have stays : d.reloaded next (d.refreshed next m) = d.refreshed next m := by simp [reloaded, behind.idle]
  refine ⟨d.refreshed next m, ?_, ?_⟩
  · rw [afterTurn, List.getElem?_map, manager, Option.map_some, stays]
  unfold refreshed
  rw [due]
  unfold Untouched netRefreshTicks at *
  by_cases now : 120 ∣ turns before + 1 + turns done + 1
  · rw [decide_eq_true now, if_pos rfl, behind.counts.unchanged]
    rw [← interface] at works found
    obtain ⟨same, built⟩ := works.attempted found
    exact ⟨same.trans interface, fun short => by omega, fun _ => ⟨_, built⟩⟩
  · rw [decide_eq_false now, if_neg (by simp)]
    exact ⟨interface, fun short => young (by omega), fun long => aged (by omega)⟩

def Calm (old : PeerConfig) (event : Event) : Prop :=
  event ≠ .sigterm ∧ event ≠ .sighup ∧ ∀ next, event = .turn next → Works next.refresh old.name old

theorem Behind.step (behind : Behind config source before world i old new done d) {event : Event} (calm : Calm old event)
    (found : config.peers.find? (fun peer => peer.name = old.name) = some old) :
    ∃ d', d.step event = .ok d' ∧ Behind config source before world i old new (done ++ [event]) d' := by
  obtain ⟨live, quiet, works⟩ := calm
  have survives (world : World) : d.Survives world := by simp [Survives, behind.idle]
  obtain ⟨d', stepped, counts⟩ := behind.counts.step live fun world _ => survives world
  have all : before ++ .sighup :: .turn world :: done ++ [event] = before ++ .sighup :: .turn world :: (done ++ [event]) := by
    simp
  rw [all] at counts
  suffices rest : d'.reloadFlag = false ∧ Carries before world i old new (turns (done ++ [event])) d' from
    ⟨d', stepped, counts, rest.1, rest.2⟩
  unfold Daemon.step at stepped
  rw [if_pos behind.counts.running] at stepped
  rw [turns_append]
  cases event with
  | sigusr1 =>
      cases stepped
      exact ⟨behind.idle, behind.entry⟩
  | sigterm => exact absurd rfl live
  | sighup => exact absurd rfl quiet
  | turn next =>
      dsimp only at stepped
      rw [turn_eq next d behind.counts.exitFlag (survives next)] at stepped
      cases stepped
      exact ⟨rfl, behind.turned next found (works next rfl)⟩

theorem attempted_interface (config : Config) (answers : Answers) (m : TcBpfManager) :
    (attempted config answers m).interface = m.interface := by
  rcases attempted_cases config answers m with same | ⟨peer, cfg, -, -, same⟩ <;> rw [same]

theorem Behind.first {m : TcBpfManager} (counts : Counts config source before d) (manager : d.managers[i]? = some m)
    (interface : m.interface = old.name) (read : source.load world = .ok loaded)
    (listed : loaded.peers.find? (fun peer => peer.name = old.name) = some new) (works : Works world.reload old.name new) :
    ∃ d', d.run [.sighup, .turn world] = .ok d' ∧ Behind config source before world i old new [] d' := by
  let flagged := { d with reloadFlag := true }
  have raised : d.step .sighup = .ok flagged := by rw [Daemon.step, if_pos counts.running, pure_eq_ok]
  have again : flagged.reloadSource.load world = .ok loaded := by rw [← read, ← counts.reloadSource]
  have survives : flagged.Survives world := by simp [Survives, again]
  have turned : flagged.step (.turn world) = .ok (flagged.afterTurn world) := by
    rw [Daemon.step, if_pos counts.running, turn_eq world flagged counts.exitFlag survives]
  obtain ⟨d₁, stepped, counts⟩ := counts.step (by simp : Event.sighup ≠ .sigterm) (by simp)
  cases raised.symm.trans stepped
  obtain ⟨d₂, stepped, counts⟩ := counts.step (by simp : Event.turn world ≠ .sigterm) (by simpa using survives)
  cases turned.symm.trans stepped
  refine ⟨flagged.afterTurn world, ?_, by simpa using counts, rfl, ?_⟩
  · rw [run, List.foldlM_cons, raised, bind_ok, List.foldlM_cons, turned, bind_ok, List.foldlM_nil, pure_eq_ok]
  have same : (flagged.refreshed world m).interface = old.name := by
    unfold refreshed
    split_ifs
    · rw [attempted_interface, interface]
    · exact interface
  have renewed : flagged.reloaded world (flagged.refreshed world m) =
      attempted loaded world.reload (flagged.refreshed world m) := by
    rw [reloaded, if_pos rfl, again]
  rw [← same] at works listed
  obtain ⟨stays, built⟩ := works.attempted listed
  rw [same] at stays built
  refine ⟨_, ?_, stays, fun _ => built, fun late => absurd ?_ late⟩
  · rw [afterTurn, List.getElem?_map, show flagged.managers[i]? = some m from manager, Option.map_some, renewed]
  · exact Nat.mod_lt (turns before + 1) (by decide : 0 < netRefreshTicks)

theorem Follows.serves (valid : config.Valid) (started : Daemon.start config source answers = .ok start)
    (follows : Follows start done d) (served : config.peers[i]? = some old) :
    ∃ m₀ m, start.managers[i]? = some m₀ ∧ m₀.StartedFor old i ∧ d.managers[i]? = some m ∧ Kept config source done m₀ m := by
  obtain ⟨ready, same⟩ := start_inv started
  have registered := startPeers_registered valid.disjoint ready
  have inside : i < d.managers.length := by
    rw [follows.length, registered.length]
    exact (List.getElem?_eq_some_iff.mp served).1
  obtain ⟨m₀, manager₀, kept⟩ := follows.managers i _ (List.getElem?_eq_getElem inside)
  obtain ⟨peer, here, startedFor⟩ := registered.managers i m₀ manager₀
  cases served.symm.trans here
  rw [same] at kept
  exact ⟨m₀, _, manager₀, startedFor, List.getElem?_eq_getElem inside, kept⟩

theorem reload_undone (valid : config.Valid) (started : Daemon.start config source answers = .ok start)
    (live : Event.sigterm ∉ before) (loads : Loads source before) (calm : ∀ event ∈ after, Calm old event)
    (served : config.peers[i]? = some old) (read : source.load world = .ok loaded)
    (listed : loaded.peers.find? (fun peer => peer.name = old.name) = some new) (works : Works world.reload old.name new) :
    ∃ d, start.run (before ++ .sighup :: .turn world :: after) = .ok d ∧
      Carries before world i old new (turns after) d := by
  obtain ⟨d, ran, counts⟩ := (start_counts started).run live loads
  have same := (start_inv started).2
  obtain ⟨d', again, follows⟩ := (start_follows valid started).run_loads (by rw [same]; exact loads)
  cases ran.symm.trans again
  obtain ⟨m₀, m, -, startedFor, manager, kept⟩ := follows.serves valid started served
  obtain ⟨d₁, reloading, behind⟩ :=
    Behind.first counts manager (kept.interface.trans startedFor.interface) read listed works
  obtain ⟨d₂, rest, behind⟩ := foldlM_reaches (Q := Calm old)
    (fun _ _ _ calm behind => behind.step calm (find?_name valid.names served)) behind calm
  refine ⟨d₂, ?_, behind.entry⟩
  rw [show before ++ .sighup :: .turn world :: after = before ++ ([.sighup, .turn world] ++ after) by simp, run_append, ran,
    bind_ok, run_append, reloading, bind_ok]
  exact rest

theorem works_sampleWorld (asked port : UInt16) :
    Works (sampleWorld asked).refresh "gut0" (plainPeer "gut0" port) ∧
      Works (sampleWorld asked).reload "gut0" (plainPeer "gut0" port) :=
  ⟨⟨buildGutConfig_plainPeer "gut0" port, rfl⟩, ⟨buildGutConfig_plainPeer "gut0" port, rfl⟩⟩

-- the port has changed in the file, and two minutes later the program listens on the old one
theorem reload_undone_port :
    ∃ start d m net, Daemon.start (onePeer 41000) sampleSource (fun _ => sampleStartup) = .ok start ∧
      start.run (.sighup :: .turn (sampleWorld 42000) :: List.replicate 120 (.turn (sampleWorld 42000))) = .ok d ∧
      d.managers[0]? = some m ∧ buildGutConfig net (plainPeer "gut0" 41000) = .ok m.configMap := by
  obtain ⟨start, started⟩ := start_onePeer 41000
  have calm : ∀ event ∈ List.replicate 120 (Event.turn (sampleWorld 42000)), Calm (plainPeer "gut0" 41000) event := by
    intro event member
    cases List.eq_of_mem_replicate member
    refine ⟨by simp, by simp, fun next same => ?_⟩
    cases same
    exact (works_sampleWorld 42000 41000).1
  obtain ⟨d, done, m, manager, -, -, undone⟩ :=
    reload_undone (i := 0) onePeer_valid started (by simp : Event.sigterm ∉ []) (loads_sampleWorld (by simp)) calm rfl
      load_sampleWorld rfl (works_sampleWorld 42000 42000).2
  have count : turns (List.replicate 120 (Event.turn (sampleWorld 42000))) = 120 := List.countP_replicate
  obtain ⟨net, built⟩ := undone (by rw [count]; decide)
  exact ⟨start, d, m, net, started, done, manager, built⟩

end Lifetime

section Ports

variable {config : Config} {source : ReloadSource} {answers : Nat → Startup} {start : Daemon}

def peerProg (attached : Nat → Attached) (m : TcBpfManager) : PeerProg :=
  { mode := m.mode, cfg := m.configMap, attached := attached m.prog }

def dispatcher (attached : Nat → Attached) (nic : String) (d : Daemon) : Dispatcher :=
  { portMap := fun port => (d.dispatchers.lookup nic).bind fun xdp => xdp.portMap.lookup port
    peerProgs := fun slot => do
      let xdp ← d.dispatchers.lookup nic
      let number ← xdp.peerProgs slot
      let m ← d.managers[number]?
      pure (peerProg attached m) }

structure Listens (attached : Nat → Attached) (config : Config) (source : ReloadSource) (events : List Event) (d : Daemon) :
    Prop where
  handed : ∀ (i : Nat) (peer : PeerConfig) (m : TcBpfManager) frame port ver ipOff, config.peers[i]? = some peer →
    d.managers[i]? = some m → UdpAt frame port ver ipOff → port ∈ peer.ports →
    (d.dispatcher attached m.ingressInterface).target frame = some (peerProg attached m)
  -- the port is also among the first six of the peer that the entry was last built for
  opened : ∀ nic x, Decapsulated (d.dispatcher attached nic) x →
    ∃ (i : Nat) (peer current : PeerConfig) (m : TcBpfManager) (net : Lookups) (port : UInt16) (ver : IpVersion) (ipOff : Nat),
      config.peers[i]? = some peer ∧ d.managers[i]? = some m ∧ m.ingressInterface = nic ∧
      buildGutConfig net current = .ok m.configMap ∧ current.name = peer.name ∧ Known config source events current ∧
      UdpAt x.frame port ver ipOff ∧ port ∈ peer.ports ∧ port ∈ current.ports.take maxPorts

theorem run_listens (valid : config.Valid) (started : Daemon.start config source answers = .ok start)
    (attached : Nat → Attached) {events : List Event} (loads : Loads source events) :
    ∃ d, start.run events = .ok d ∧ Listens attached config source events d := by
  obtain ⟨ready, same⟩ := start_inv started
  obtain ⟨d, ran, follows⟩ := (start_follows valid started).run_loads (by rw [same]; exact loads)
  have registered := startPeers_registered valid.disjoint ready
  refine ⟨d, ran, ?_, ?_⟩
  · intro i peer m frame port ver ipOff served manager udp inside
    have udp := dispatchPort_eq_some.mpr ⟨ver, ipOff, udp⟩
    obtain ⟨m₀, manager₀, kept⟩ := follows.managers i m manager
    obtain ⟨xdp, slot, found, mapped, loaded⟩ := registered.reached i m₀ peer port manager₀ served inside
    rw [← follows.dispatchers, ← kept.ingressInterface] at found
    simp [Dispatcher.target, udp, dispatcher, found, mapped, loaded, manager]
  · intro nic x opened
    obtain ⟨port, prog, slot, udp, mapped, loaded, listens⟩ := port_of_decapsulated opened
    obtain ⟨ver, ipOff, udp⟩ := dispatchPort_eq_some.mp udp
    obtain ⟨xdp, found, mapped⟩ := Option.bind_eq_some_iff.mp mapped
    obtain ⟨i, m₀, peer, used, manager₀, served, onNic, inside⟩ :=
      registered.targets nic xdp (by rw [← follows.dispatchers, found]) port slot mapped
    obtain ⟨m₁, m, manager₁, startedFor, manager, kept⟩ := follows.serves valid started served
    cases manager₀.symm.trans manager₁
    obtain ⟨net, current, built, name, known⟩ := kept.entry
    have running : prog = peerProg attached m := by
      simpa [dispatcher, found, used, manager] using loaded.symm
    subst running
    exact ⟨i, peer, current, m, net, port, ver, ipOff, served, manager, kept.ingressInterface.trans onNic, built,
      name.trans (kept.interface.trans startedFor.interface), known, udp, inside,
      (isGutPort_iff (buildGutConfig_fromPeer built)).mp listens⟩

theorem run_listens_reload :
    ∃ start d, Daemon.start (onePeer 41000) sampleSource (fun _ => sampleStartup) = .ok start ∧
      start.run [.sighup, .turn (sampleWorld 42000)] = .ok d ∧
      Listens (fun _ => { probe := true, txDevice := true }) (onePeer 41000) sampleSource
        [.sighup, .turn (sampleWorld 42000)] d := by
  obtain ⟨start, started⟩ := start_onePeer 41000
  have loads : Loads sampleSource [.sighup, .turn (sampleWorld 42000)] := loads_sampleWorld (by simp)
  obtain ⟨d, done, listens⟩ := run_listens onePeer_valid started (fun _ => { probe := true, txDevice := true }) loads
  exact ⟨start, d, started, done, listens⟩

end Ports

end Gutd.Daemon
