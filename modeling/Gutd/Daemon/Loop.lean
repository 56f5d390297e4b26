import Gutd.Daemon.Manager
import Gutd.Shared.Ticker

set_option autoImplicit false

-- `run_daemon` of `main.rs` in eBPF mode, with the flags of `reload.rs`.

namespace Gutd

open Bytes Checked Bpf Folds

inductive Output where
  | notify (state : String)
  -- the statistics on standard error
  | stats
  -- the counters in the stat file
  | counters
  deriving DecidableEq

-- the environment of a process does not change from outside
inductive ReloadSource where
  | file (path : String)
  | environment (env : Environment)

structure Daemon where
  config : Config
  reloadSource : ReloadSource
  managers : List TcBpfManager
  dispatchers : Dispatchers
  statsTick : Nat
  netRefreshTick : Nat
  exitFlag : Bool
  printStats : Bool
  reloadFlag : Bool
  running : Bool
  log : List Output

structure Answers where
  lookups : String → Lookups
  pushed : String → Except Buf Unit

structure World where
  refresh : Answers
  -- what the configuration file holds
  file : Except String (List Char)
  reload : Answers

inductive Event where
  | sigusr1
  -- `SIGINT` or `SIGTERM`
  | sigterm
  | sighup
  | turn (world : World)

def ReloadSource.load (source : ReloadSource) (world : World) : Parsed Config :=
  match source with
  | .file path => loadConfig path world.file
  | .environment env => loadConfigFromEnv env

def netRefreshTicks : Nat := 120

-- Turns between two dumps of the counters. The product wraps around.
def statsTicksTarget (config : Config) : Nat := (config.runtime.statsInterval * 2).toNat

-- a manager whose peer is not in the configuration is skipped, and one whose update fails keeps its entry
def attempt (config : Config) (answers : Answers) (m : TcBpfManager) : Result TcBpfManager :=
  match config.peers.find? fun peer => peer.name = m.interface with
  | none => pure m
  | some peer =>
      match m.updateConfig (answers.lookups m.interface) (answers.pushed m.interface) peer with
      | .ok m => pure m
      | .error (.message _) => pure m
      | .error (.panicked panic) => throw panic

namespace Daemon

def say (output : Output) (d : Daemon) : Daemon := { d with log := d.log ++ [output] }

def showStats (d : Daemon) : Daemon := if d.printStats then { d with printStats := false }.say .stats else d

def dumpCounters (d : Daemon) : Daemon :=
  if statsTicksTarget d.config > 0 then
    let (statsTick, due) := Ticker.turn (statsTicksTarget d.config) d.statsTick
    if due then { d with statsTick }.say .counters else { d with statsTick }
  else d

def refresh (world : World) (d : Daemon) : Result Daemon := do
  let (netRefreshTick, due) := Ticker.turn netRefreshTicks d.netRefreshTick
  let managers ← if due then d.managers.mapM (attempt d.config world.refresh) else pure d.managers
  pure { d with netRefreshTick, managers }

def reload (world : World) (d : Daemon) : Result Daemon :=
  if d.reloadFlag then do
    let d := { d with reloadFlag := false }.say (.notify "RELOADING=1")
    let managers ← match d.reloadSource.load world with
      | .ok config => d.managers.mapM (attempt config world.reload)
      | .error (.message _) => pure d.managers
      | .error (.panicked panic) => throw panic
    pure ({ d with managers }.say (.notify "READY=1"))
  else pure d

def stop (d : Daemon) : Daemon :=
  let d := { d with running := false }.say (.notify "STOPPING=1")
  let d := if statsTicksTarget d.config > 0 then d.say .counters else d
  d.say .stats

def turn (world : World) (d : Daemon) : Result Daemon := do
  let d := d.say (.notify "WATCHDOG=1")
  if d.exitFlag then pure d.stop
  else
    let d := d.showStats.dumpCounters
    let d ← d.refresh world
    d.reload world

def step (d : Daemon) (event : Event) : Result Daemon :=
  if d.running then
    match event with
    | .sigusr1 => pure { d with printStats := true }
    | .sigterm => pure { d with exitFlag := true }
    | .sighup => pure { d with reloadFlag := true }
    | .turn world => d.turn world
  else pure d

def run (d : Daemon) (events : List Event) : Result Daemon := events.foldlM step d

def start (config : Config) (reloadSource : ReloadSource) (answers : Nat → Startup) : Load Daemon := do
  let (managers, dispatchers) ← startPeers config answers
  pure { config, reloadSource, managers, dispatchers, statsTick := 0, netRefreshTick := 0, exitFlag := false, printStats := false
         reloadFlag := false, running := true, log := [.notify "READY=1", .notify "READY=1"] }

end Daemon

section Attempt

variable (config : Config) (answers : Answers) (m : TcBpfManager)

def attempted : TcBpfManager :=
  match config.peers.find? fun peer => peer.name = m.interface with
  | none => m
  | some peer => (m.updateConfig (answers.lookups m.interface) (answers.pushed m.interface) peer).toOption.getD m

theorem attempt_eq : attempt config answers m = .ok (attempted config answers m) := by
  unfold attempt attempted
  cases config.peers.find? fun peer => peer.name = m.interface with
  | none => rfl
  | some peer =>
      dsimp only
      have explained : Explained (m.updateConfig (answers.lookups m.interface) (answers.pushed m.interface) peer) :=
        (buildGutConfig_explained _ _).bind fun _ => (explained_lookup _).bind fun _ => explained_ok _
      cases updated : m.updateConfig (answers.lookups m.interface) (answers.pushed m.interface) peer with
      | ok m' => rfl
      | error e =>
          cases e with
          | message text => rfl
          | panicked panic => exact absurd updated (explained panic)

theorem attempted_cases :
    attempted config answers m = m ∨
      ∃ peer cfg, config.peers.find? (fun peer => peer.name = m.interface) = some peer ∧
        buildGutConfig (answers.lookups m.interface) peer = .ok cfg ∧ attempted config answers m = { m with configMap := cfg } := by
  unfold attempted
  cases found : config.peers.find? fun peer => peer.name = m.interface with
  | none => exact .inl rfl
  | some peer =>
      dsimp only
      cases updated : m.updateConfig (answers.lookups m.interface) (answers.pushed m.interface) peer with
      | error e => exact .inl rfl
      | ok m' =>
          obtain ⟨cfg, built, rest⟩ := bind_eq_ok.mp updated
          obtain ⟨-, -, same⟩ := bind_eq_ok.mp rest
          cases same
          exact .inr ⟨peer, cfg, rfl, built, rfl⟩

end Attempt

namespace Daemon

section Turn

variable (world : World) (d : Daemon)

def refreshDue : Bool := (Ticker.turn netRefreshTicks d.netRefreshTick).2

def statsTurn : Nat × Bool :=
  if statsTicksTarget d.config > 0 then Ticker.turn (statsTicksTarget d.config) d.statsTick else (d.statsTick, false)

def refreshed (m : TcBpfManager) : TcBpfManager := if d.refreshDue then attempted d.config world.refresh m else m

def reloaded (m : TcBpfManager) : TcBpfManager :=
  if d.reloadFlag then
    match d.reloadSource.load world with
    | .ok config => attempted config world.reload m
    | .error _ => m
  else m

def Survives : Prop := d.reloadFlag = true → ∀ panic, d.reloadSource.load world ≠ .error (.panicked panic)

def turnLog : List Output :=
  .notify "WATCHDOG=1" :: ((if d.printStats then [.stats] else []) ++ (if d.statsTurn.2 then [.counters] else []) ++
    if d.reloadFlag then [.notify "RELOADING=1", .notify "READY=1"] else [])

def afterTurn : Daemon :=
  { d with
    managers := d.managers.map fun m => d.reloaded world (d.refreshed world m)
    statsTick := d.statsTurn.1
    netRefreshTick := (Ticker.turn netRefreshTicks d.netRefreshTick).1
    printStats := false
    reloadFlag := false
    log := d.log ++ d.turnLog }

theorem showStats_eq :
    d.showStats = { d with printStats := false, log := d.log ++ if d.printStats then [.stats] else [] } := by
  obtain ⟨config, source, managers, dispatchers, statsTick, netRefreshTick, exitFlag, printStats, reloadFlag, running, log⟩ := d
  cases printStats <;> simp [showStats, say]

theorem dumpCounters_eq :
    d.dumpCounters = { d with statsTick := d.statsTurn.1, log := d.log ++ if d.statsTurn.2 then [.counters] else [] } := by
  unfold dumpCounters statsTurn
  by_cases dumped : statsTicksTarget d.config > 0
  · simp only [if_pos dumped]
    cases Ticker.turn (statsTicksTarget d.config) d.statsTick with
    | mk statsTick due => cases due <;> simp [say]
  · simp [dumped]

theorem refresh_eq :
    d.refresh world = .ok { d with
      netRefreshTick := (Ticker.turn netRefreshTicks d.netRefreshTick).1
      managers := d.managers.map (d.refreshed world) } := by
  unfold refresh refreshed refreshDue
  cases Ticker.turn netRefreshTicks d.netRefreshTick with
  | mk netRefreshTick due =>
      cases due with
      | false => simp
      | true =>
          dsimp only
          rw [if_pos rfl, mapM_ok (attempt_eq d.config world.refresh), bind_ok, pure_eq_ok]
          simp

theorem reload_eq (survives : d.Survives world) :
    d.reload world = .ok { d with
      reloadFlag := false
      managers := d.managers.map (d.reloaded world)
      log := d.log ++ if d.reloadFlag then [.notify "RELOADING=1", .notify "READY=1"] else [] } := by
  unfold reload reloaded
  by_cases wanted : d.reloadFlag = true
  · simp only [if_pos wanted]
    cases read : d.reloadSource.load world with
    | ok config =>
        simp only [say, read]
        rw [mapM_ok (attempt_eq config world.reload), bind_ok, pure_eq_ok]
        simp
    | error e =>
        cases e with
        | message text => simp [say, read]
        | panicked panic => exact absurd read (survives wanted panic)
  · obtain ⟨config, source, managers, dispatchers, statsTick, netRefreshTick, exitFlag, printStats, reloadFlag, running, log⟩ := d
    simp only [Bool.not_eq_true] at wanted
    subst wanted
    simp

theorem reload_panicked (asked : d.reloadFlag = true) {panic : Panic}
    (read : d.reloadSource.load world = .error (.panicked panic)) : d.reload world = .error panic := by
  unfold reload
  rw [if_pos asked]
  simp only [say, read]
  rfl

theorem turn_eq (live : d.exitFlag = false) (survives : d.Survives world) : d.turn world = .ok (d.afterTurn world) := by
  have watching : (d.say (.notify "WATCHDOG=1")).exitFlag = false := live
  unfold turn
  dsimp only
  rw [if_neg (by simp [watching]), showStats_eq, dumpCounters_eq, refresh_eq, bind_ok, reload_eq _ _ (by exact survives)]
  unfold afterTurn turnLog say statsTurn refreshed reloaded refreshDue
  simp [Function.comp_def]

theorem turn_panicked (live : d.exitFlag = false) (asked : d.reloadFlag = true) {panic : Panic}
    (read : d.reloadSource.load world = .error (.panicked panic)) : d.turn world = .error panic := by
  have watching : (d.say (.notify "WATCHDOG=1")).exitFlag = false := live
  unfold turn
  dsimp only
  rw [if_neg (by simp [watching]), showStats_eq, dumpCounters_eq, refresh_eq, bind_ok]
  apply reload_panicked
  · exact asked
  · exact read

theorem turn_stop (asked : d.exitFlag = true) : d.turn world = .ok (d.say (.notify "WATCHDOG=1")).stop := by
  have watching : (d.say (.notify "WATCHDOG=1")).exitFlag = true := asked
  unfold turn
  dsimp only
  rw [if_pos watching, pure_eq_ok]

theorem turn_cases :
    d.turn world = .ok (d.say (.notify "WATCHDOG=1")).stop ∨ d.turn world = .ok (d.afterTurn world) ∨
      ∃ panic, d.reloadFlag = true ∧ d.reloadSource.load world = .error (.panicked panic) ∧ d.turn world = .error panic := by
  cases asked : d.exitFlag with
  | true => exact .inl (turn_stop world d asked)
  | false =>
      by_cases survives : d.Survives world
      · exact .inr (.inl (turn_eq world d asked survives))
      · simp only [Survives, not_forall, not_not] at survives
        obtain ⟨wanted, panic, read⟩ := survives
        exact .inr (.inr ⟨panic, wanted, read, turn_panicked world d asked wanted read⟩)

end Turn

section Run

variable {d d' : Daemon} {events : List Event}

theorem run_append (d : Daemon) (before after : List Event) : d.run (before ++ after) = d.run before >>= (run · after) :=
  List.foldlM_append

theorem step_stopped (stopped : d.running = false) (event : Event) : d.step event = .ok d := by
  unfold step
  rw [if_neg (by simp [stopped]), pure_eq_ok]

theorem run_stopped (stopped : d.running = false) (events : List Event) : d.run events = .ok d := by
  induction events with
  | nil => rfl
  | cons event events ih =>
      rw [run, List.foldlM_cons, step_stopped stopped, bind_ok]
      exact ih

-- a step only fails where the loader panics on what it is given
theorem step_error {event : Event} {panic : Panic} (failed : d.step event = .error panic) :
    ∃ world, event = .turn world ∧ d.reloadFlag = true ∧ d.reloadSource.load world = .error (.panicked panic) := by
  unfold step at failed
  split_ifs at failed
  · cases event with
    | sigusr1 => cases failed
    | sigterm => cases failed
    | sighup => cases failed
    | turn world =>
        dsimp only at failed
        rcases turn_cases world d with stopped | gone | ⟨panic', wanted, read, panicked⟩
        · rw [stopped] at failed
          cases failed
        · rw [gone] at failed
          cases failed
        · rw [panicked] at failed
          cases failed
          exact ⟨world, rfl, wanted, read⟩
  · cases failed

def Known (config : Config) (source : ReloadSource) (events : List Event) (peer : PeerConfig) : Prop :=
  peer ∈ config.peers ∨ ∃ world loaded, Event.turn world ∈ events ∧ source.load world = .ok loaded ∧ peer ∈ loaded.peers

structure Kept (config : Config) (source : ReloadSource) (events : List Event) (before after : TcBpfManager) : Prop where
  interface : after.interface = before.interface
  ingressInterface : after.ingressInterface = before.ingressInterface
  mode : after.mode = before.mode
  prog : after.prog = before.prog
  entry : ∃ net peer, buildGutConfig net peer = .ok after.configMap ∧ peer.name = after.interface ∧
    Known config source events peer

section Kept

variable {config : Config} {source : ReloadSource} {before after : TcBpfManager}

theorem Known.later {peer : PeerConfig} (known : Known config source events peer) (event : Event) :
    Known config source (events ++ [event]) peer := by
  rcases known with first | ⟨world, loaded, turned, read, member⟩
  · exact .inl first
  · exact .inr ⟨world, loaded, List.mem_append_left _ turned, read, member⟩

theorem Kept.later (kept : Kept config source events before after) (event : Event) :
    Kept config source (events ++ [event]) before after := by
  obtain ⟨net, peer, built, name, known⟩ := kept.entry
  exact ⟨kept.interface, kept.ingressInterface, kept.mode, kept.prog, net, peer, built, name, known.later event⟩

theorem Kept.attempted {listing : Config} (kept : Kept config source events before after) (answers : Answers)
    (known : ∀ peer ∈ listing.peers, Known config source events peer) :
    Kept config source events before (attempted listing answers after) := by
  rcases attempted_cases listing answers after with same | ⟨peer, cfg, found, built, same⟩
  · rw [same]
    exact kept
  · rw [same]
    have name : peer.name = after.interface := by simpa using List.find?_some found
    exact ⟨kept.interface, kept.ingressInterface, kept.mode, kept.prog, _, peer, built, name,
      known peer (List.mem_of_find?_eq_some found)⟩

theorem Kept.turned (kept : Kept config source events before after) (world : World) (same : d.config = config)
    (from_ : d.reloadSource = source) :
    Kept config source (events ++ [.turn world]) before (d.reloaded world (d.refreshed world after)) := by
  have first : Kept config source (events ++ [.turn world]) before (d.refreshed world after) := by
    unfold refreshed
    split_ifs
    · refine (kept.later _).attempted _ fun peer member => ?_
      rw [same] at member
      exact .inl member
    · exact kept.later _
  unfold reloaded
  split_ifs
  · cases read : d.reloadSource.load world with
    | error e => exact first
    | ok loaded =>
        rw [from_] at read
        exact first.attempted _ fun peer member => .inr ⟨world, loaded, by simp, read, member⟩
  · exact first

end Kept

structure Follows (start : Daemon) (events : List Event) (d : Daemon) : Prop where
  config : d.config = start.config
  reloadSource : d.reloadSource = start.reloadSource
  dispatchers : d.dispatchers = start.dispatchers
  length : d.managers.length = start.managers.length
  managers : ∀ (i : Nat) m, d.managers[i]? = some m →
    ∃ m₀, start.managers[i]? = some m₀ ∧ Kept start.config start.reloadSource events m₀ m

theorem Follows.later {start : Daemon} (follows : Follows start events d) (event : Event)
    (same : d'.config = d.config ∧ d'.reloadSource = d.reloadSource ∧ d'.dispatchers = d.dispatchers ∧
      d'.managers = d.managers) :
    Follows start (events ++ [event]) d' := by
  obtain ⟨config, source, dispatchers, managers⟩ := same
  refine ⟨config.trans follows.config, source.trans follows.reloadSource, dispatchers.trans follows.dispatchers,
    by rw [managers, follows.length], ?_⟩
  intro i m found
  rw [managers] at found
  obtain ⟨m₀, first, kept⟩ := follows.managers i m found
  exact ⟨m₀, first, kept.later event⟩

theorem Follows.turned {start : Daemon} (follows : Follows start events d) (world : World) :
    Follows start (events ++ [.turn world]) (d.afterTurn world) := by
  refine ⟨follows.config, follows.reloadSource, follows.dispatchers, ?_, ?_⟩
  · rw [afterTurn, List.length_map, follows.length]
  · intro i m found
    rw [afterTurn, List.getElem?_map, Option.map_eq_some_iff] at found
    obtain ⟨m₁, before, rfl⟩ := found
    obtain ⟨m₀, first, kept⟩ := follows.managers i m₁ before
    exact ⟨m₀, first, kept.turned world follows.config follows.reloadSource⟩

theorem Follows.step {start : Daemon} (follows : Follows start events d) {event : Event} (stepped : d.step event = .ok d') :
    Follows start (events ++ [event]) d' := by
  unfold Daemon.step at stepped
  split_ifs at stepped with live
  · cases event with
    | sigusr1 =>
        cases stepped
        exact follows.later _ ⟨rfl, rfl, rfl, rfl⟩
    | sigterm =>
        cases stepped
        exact follows.later _ ⟨rfl, rfl, rfl, rfl⟩
    | sighup =>
        cases stepped
        exact follows.later _ ⟨rfl, rfl, rfl, rfl⟩
    | turn world =>
        dsimp only at stepped
        rcases turn_cases world d with stopped | gone | ⟨panic, -, -, panicked⟩
        · rw [stopped] at stepped
          cases stepped
          refine follows.later _ ?_
          unfold stop say
          dsimp only
          split_ifs <;> exact ⟨rfl, rfl, rfl, rfl⟩
        · rw [gone] at stepped
          cases stepped
          exact follows.turned world
        · rw [panicked] at stepped
          cases stepped
  · cases stepped
    exact follows.later event ⟨rfl, rfl, rfl, rfl⟩

-- the loader does not panic on the configurations of these turns
def Loads (source : ReloadSource) (events : List Event) : Prop :=
  ∀ world, Event.turn world ∈ events → ∀ panic, source.load world ≠ .error (.panicked panic)

theorem Follows.run {start : Daemon} (first : Follows start [] start) (events : List Event) :
    (∃ d, start.run events = .ok d ∧ Follows start events d) ∨
      ∃ before world after d panic, events = before ++ .turn world :: after ∧ start.run before = .ok d ∧
        Follows start before d ∧ d.reloadFlag = true ∧ start.reloadSource.load world = .error (.panicked panic) ∧
        start.run events = .error panic := by
  rcases foldlM_stops (P := Follows start) (fun _ _ _ _ follows stepped => follows.step stepped) first events with
    done | ⟨before, event, after, d, panic, split, ran, follows, failed, outcome⟩
  · exact .inl done
  · obtain ⟨world, rfl, wanted, read⟩ := step_error failed
    rw [follows.reloadSource] at read
    exact .inr ⟨before, world, after, d, panic, split, ran, follows, wanted, read, outcome⟩

theorem Follows.run_loads {start : Daemon} (first : Follows start [] start) (loads : Loads start.reloadSource events) :
    ∃ d, start.run events = .ok d ∧ Follows start events d := by
  rcases first.run events with done | ⟨before, world, after, d, panic, rfl, -, -, -, read, -⟩
  · exact done
  · exact absurd read (loads world (by simp) panic)

end Run

section Started

variable {config : Config} {source : ReloadSource} {answers : Nat → Startup} {start d : Daemon} {events : List Event}

theorem start_inv (started : Daemon.start config source answers = .ok start) :
    startPeers config answers = .ok (start.managers, start.dispatchers) ∧
      start = { config, reloadSource := source, managers := start.managers, dispatchers := start.dispatchers, statsTick := 0, netRefreshTick := 0
                exitFlag := false, printStats := false, reloadFlag := false, running := true
                log := [.notify "READY=1", .notify "READY=1"] } := by
  obtain ⟨⟨managers, dispatchers⟩, done, same⟩ := bind_eq_ok.mp started
  cases same
  exact ⟨done, rfl⟩

theorem start_follows (valid : config.Valid) (started : Daemon.start config source answers = .ok start) : Follows start [] start := by
  obtain ⟨done, same⟩ := start_inv started
  have registered := startPeers_registered valid.disjoint done
  refine ⟨rfl, rfl, rfl, rfl, ?_⟩
  intro i m found
  obtain ⟨peer, served, startedFor⟩ := registered.managers i m found
  obtain ⟨net, built⟩ := startedFor.entry
  refine ⟨m, found, rfl, rfl, rfl, rfl, net, peer, built, startedFor.interface.symm, .inl ?_⟩
  rw [same]
  exact List.mem_of_getElem? served

theorem run_keeps (valid : config.Valid) (started : Daemon.start config source answers = .ok start) (events : List Event) :
    (∃ d, start.run events = .ok d ∧ Follows start events d) ∨
      ∃ before world after d panic, events = before ++ .turn world :: after ∧ start.run before = .ok d ∧
        Follows start before d ∧ d.reloadFlag = true ∧ source.load world = .error (.panicked panic) ∧
        start.run events = .error panic := by
  have same := (start_inv started).2
  have outcome := (start_follows valid started).run events
  rwa [show start.reloadSource = source by rw [same]] at outcome

def sampleSource : ReloadSource := .file "/etc/gutd.conf"

theorem start_onePeer (port : UInt16) :
    ∃ start, Daemon.start (onePeer port) sampleSource (fun _ => sampleStartup) = .ok start := by
  obtain ⟨started, done⟩ := startPeers_plainPeer port
  exact ⟨_, bind_eq_ok.mpr ⟨started, done, rfl⟩⟩

def onePeerFile (port : UInt16) : List Char :=
  "[peer]\nname = gut0\nmtu = 1420\naddress = 10.254.0.1/30\nresponder = false\n".toList ++
    "bind_ip = 10.10.10.10\nbind_port = 51820\npeer_ip = 11.11.11.11\nports = ".toList ++ (toString port.toNat).toList ++
    "\nkey = ".toList ++ (List.replicate 32 ['0', '7']).flatten

def sampleWorld (port : UInt16) : World :=
  { refresh := { lookups := fun _ => sampleLookups, pushed := fun _ => .ok () }
    file := .ok (onePeerFile port)
    reload := { lookups := fun _ => sampleLookups, pushed := fun _ => .ok () } }

theorem load_sampleWorld : sampleSource.load (sampleWorld 42000) = .ok (onePeer 42000) := by
  have read : (parseConfig (onePeerFile 42000)).toOption = some (onePeer 42000) := by decide +kernel
  have parsed : parseConfig (onePeerFile 42000) = .ok (onePeer 42000) := by
    cases outcome : parseConfig (onePeerFile 42000) with
    | error e =>
        rw [outcome] at read
        cases read
    | ok config =>
        rw [outcome] at read
        exact congrArg Except.ok (Option.some.inj read)
  change underName ("Error in config file '" ++ "/etc/gutd.conf" ++ "'") (parseConfig (onePeerFile 42000)) = _
  rw [parsed]
  rfl

theorem loads_sampleWorld {events : List Event} (all : ∀ world, Event.turn world ∈ events → world = sampleWorld 42000) :
    Loads sampleSource events := by
  intro world member panic read
  rw [all world member, load_sampleWorld] at read
  cases read

-- a key of 64 bytes in which a character lies across the first pair
def cutKeyFile : List Char := "[peer]\nkey = ".toList ++ 'a' :: 'é' :: List.replicate 61 '0'

def panicOf {α : Type} : Parsed α → Option Panic
  | .error (.panicked panic) => some panic
  | _ => none

theorem load_cutKeyFile :
    ∃ panic, sampleSource.load { sampleWorld 42000 with file := .ok cutKeyFile } = .error (.panicked panic) := by
  have panics : (panicOf (sampleSource.load { sampleWorld 42000 with file := .ok cutKeyFile })).isSome = true := by
    decide +kernel
  cases outcome : sampleSource.load { sampleWorld 42000 with file := .ok cutKeyFile } with
  | ok config => simp [outcome, panicOf] at panics
  | error e =>
      cases e with
      | message text => simp [outcome, panicOf] at panics
      | panicked panic => exact ⟨panic, rfl⟩

theorem run_keeps_reload :
    (∃ start d, Daemon.start (onePeer 41000) sampleSource (fun _ => sampleStartup) = .ok start ∧
      start.run [.sighup, .turn (sampleWorld 42000), .sigterm] = .ok d ∧
      Follows start [.sighup, .turn (sampleWorld 42000), .sigterm] d) ∧
    ∃ start panic, Daemon.start (onePeer 41000) sampleSource (fun _ => sampleStartup) = .ok start ∧
      start.run [.sighup, .turn { sampleWorld 42000 with file := .ok cutKeyFile }] = .error panic := by
  obtain ⟨start, started⟩ := start_onePeer 41000
  constructor
  · rcases run_keeps onePeer_valid started [.sighup, .turn (sampleWorld 42000), .sigterm] with
      ⟨d, done, follows⟩ | ⟨before, world, after, d, panic, split, -, -, -, read, -⟩
    · exact ⟨start, d, started, done, follows⟩
    · have member : Event.turn world ∈ [.sighup, .turn (sampleWorld 42000), .sigterm] := by rw [split]; simp
      have same : world = sampleWorld 42000 := by simpa using member
      rw [same, load_sampleWorld] at read
      cases read
  · obtain ⟨panic, read⟩ := load_cutKeyFile
    obtain ⟨-, same⟩ := start_inv started
    refine ⟨start, panic, started, ?_⟩
    rw [same, run, List.foldlM_cons, step, if_pos rfl, pure_eq_ok, bind_ok, List.foldlM_cons, step, if_pos rfl]
    dsimp only
    rw [turn_panicked _ _ rfl rfl read]
    rfl

def isTurn : Event → Bool
  | .turn _ => true
  | _ => false

def turns (events : List Event) : Nat := events.countP isTurn

structure Counts (config : Config) (source : ReloadSource) (events : List Event) (d : Daemon) : Prop where
  unchanged : d.config = config
  reloadSource : d.reloadSource = source
  running : d.running = true
  exitFlag : d.exitFlag = false
  netRefreshTick : d.netRefreshTick = turns events % netRefreshTicks
  statsTick : 0 < statsTicksTarget config → d.statsTick = turns events % statsTicksTarget config
  dumps : d.log.count .counters = turns events / statsTicksTarget config

theorem Counts.refreshDue (counts : Counts config source events d) :
    d.refreshDue = decide (netRefreshTicks ∣ turns events + 1) := by
  rw [Daemon.refreshDue, counts.netRefreshTick, Ticker.turn_mod (by decide)]

theorem Counts.statsTurn (counts : Counts config source events d) (dumped : 0 < statsTicksTarget config) :
    d.statsTurn = ((turns events + 1) % statsTicksTarget config, decide (statsTicksTarget config ∣ turns events + 1)) := by
  rw [Daemon.statsTurn, counts.unchanged, if_pos dumped, counts.statsTick dumped, Ticker.turn_mod dumped]

theorem count_turnLog (d : Daemon) : d.turnLog.count .counters = if d.statsTurn.2 then 1 else 0 := by
  unfold turnLog
  cases d.printStats <;> cases d.statsTurn.2 <;> cases d.reloadFlag <;> simp

theorem Counts.signalled {d' : Daemon} (counts : Counts config source events d) {event : Event} (signal : isTurn event = false)
    (same : d'.config = d.config ∧ d'.reloadSource = d.reloadSource ∧ d'.running = d.running ∧ d'.exitFlag = d.exitFlag ∧
      d'.netRefreshTick = d.netRefreshTick ∧ d'.statsTick = d.statsTick ∧ d'.log = d.log) :
    Counts config source (events ++ [event]) d' := by
  obtain ⟨unchanged, reloadSource, running, exitFlag, netRefreshTick, statsTick, log⟩ := same
  have none : turns (events ++ [event]) = turns events := by simp [turns, signal]
  constructor
  · exact unchanged.trans counts.unchanged
  · exact reloadSource.trans counts.reloadSource
  · exact running.trans counts.running
  · exact exitFlag.trans counts.exitFlag
  · rw [none, netRefreshTick, counts.netRefreshTick]
  · rw [none, statsTick]
    exact counts.statsTick
  · rw [none, log, counts.dumps]

theorem Counts.step (counts : Counts config source events d) {event : Event} (live : event ≠ .sigterm)
    (survives : ∀ world, event = .turn world → d.Survives world) :
    ∃ d', d.step event = .ok d' ∧ Counts config source (events ++ [event]) d' := by
  unfold Daemon.step
  rw [if_pos counts.running]
  cases event with
  | sigusr1 => exact ⟨_, rfl, counts.signalled rfl ⟨rfl, rfl, rfl, rfl, rfl, rfl, rfl⟩⟩
  | sigterm => exact absurd rfl live
  | sighup => exact ⟨_, rfl, counts.signalled rfl ⟨rfl, rfl, rfl, rfl, rfl, rfl, rfl⟩⟩
  | turn world =>
      have next : turns (events ++ [.turn world]) = turns events + 1 := by simp [turns, isTurn]
      refine ⟨_, turn_eq world d counts.exitFlag (survives world rfl), counts.unchanged, counts.reloadSource, counts.running,
        counts.exitFlag, ?_, ?_, ?_⟩ <;>
        rw [next] <;> dsimp only [afterTurn]
      · rw [counts.netRefreshTick, Ticker.turn_mod (by decide)]
      · intro dumped
        rw [counts.statsTurn dumped]
      · rw [List.count_append, count_turnLog, counts.dumps]
        rcases Nat.eq_zero_or_pos (statsTicksTarget config) with never | dumped
        · simp [Daemon.statsTurn, counts.unchanged, never]
        · rw [counts.statsTurn dumped, Nat.succ_div]
          simp

theorem Counts.run (counts : Counts config source [] start) (live : Event.sigterm ∉ events) (loads : Loads source events) :
    ∃ d, start.run events = .ok d ∧ Counts config source events d := by
  refine foldlM_reaches (Q := fun event => event ∈ events) (fun _ event d member counts => ?_) counts fun _ member => member
  refine counts.step (fun stopped => live (stopped ▸ member)) fun world turned _ panic => ?_
  rw [counts.reloadSource]
  exact loads world (turned ▸ member) panic

theorem start_counts (started : Daemon.start config source answers = .ok start) : Counts config source [] start := by
  obtain ⟨-, same⟩ := start_inv started
  rw [same]
  exact ⟨rfl, rfl, rfl, rfl, rfl, fun _ => by simp [turns], by simp [turns]⟩

structure Stopping (before d : Daemon) : Prop where
  running : d.running = true
  exitFlag : d.exitFlag = true
  config : d.config = before.config
  managers : d.managers = before.managers
  log : d.log = before.log

theorem Stopping.run {before : Daemon} {signals : List Event} (stopping : Stopping before d)
    (all : ∀ event ∈ signals, isTurn event = false) : ∃ d', d.run signals = .ok d' ∧ Stopping before d' := by
  refine foldlM_reaches (P := fun _ => Stopping before) (fun _ event d signal stopping => ?_) stopping all
  unfold step
  rw [if_pos stopping.running]
  obtain ⟨running, exitFlag, config, managers, log⟩ := stopping
  cases event with
  | sigusr1 => exact ⟨_, rfl, running, exitFlag, config, managers, log⟩
  | sigterm => exact ⟨_, rfl, running, rfl, config, managers, log⟩
  | sighup => exact ⟨_, rfl, running, exitFlag, config, managers, log⟩
  | turn world => cases signal

theorem stop_eq (d : Daemon) :
    d.stop = { d with
      running := false
      log := d.log ++ (.notify "STOPPING=1" :: ((if 0 < statsTicksTarget d.config then [.counters] else []) ++ [.stats])) } := by
  unfold stop say
  dsimp only
  split_ifs <;> simp

theorem counters_written (started : Daemon.start config source answers = .ok start) (live : Event.sigterm ∉ events)
    (loads : Loads source events) {signals : List Event} (all : ∀ event ∈ signals, isTurn event = false) (world : World) :
    ∃ d stopped, start.run events = .ok d ∧ d.running = true ∧
      d.log.count .counters = turns events / statsTicksTarget config ∧
      (∀ rest, start.run (events ++ .sigterm :: (signals ++ .turn world :: rest)) = .ok stopped) ∧ stopped.running = false ∧
      stopped.managers = d.managers ∧
      stopped.log.count .counters = turns events / statsTicksTarget config + if statsTicksTarget config = 0 then 0 else 1 := by
  obtain ⟨d, done, counts⟩ := (start_counts started).run live loads
  have asked : Stopping d { d with exitFlag := true } := ⟨counts.running, rfl, rfl, rfl, rfl⟩
  obtain ⟨d', signalled, stopping⟩ := asked.run all
  have ended := stop_eq (say (.notify "WATCHDOG=1") d')
  refine ⟨d, (say (.notify "WATCHDOG=1") d').stop, done, counts.running, counts.dumps, fun rest => ?_, by rw [ended], ?_, ?_⟩
  · rw [run_append, done, bind_ok, run, List.foldlM_cons, step, if_pos counts.running, pure_eq_ok, bind_ok]
    change run _ _ = _
    rw [run_append, signalled, bind_ok, run, List.foldlM_cons, step, if_pos stopping.running, turn_stop world d' stopping.exitFlag, bind_ok]
    exact run_stopped (by rw [ended]) rest
  · rw [ended]
    exact stopping.managers
  · rw [ended]
    simp only [say, stopping.log, stopping.config, counts.unchanged]
    rcases Nat.eq_zero_or_pos (statsTicksTarget config) with never | dumped
    · simp [never, counts.dumps]
    · simp [dumped, Nat.ne_of_gt dumped, counts.dumps]

theorem counters_written_idle :
    ∃ start stopped, Daemon.start (onePeer 41000) sampleSource (fun _ => sampleStartup) = .ok start ∧
      start.run (List.replicate 25 (.turn (sampleWorld 42000)) ++ [.sigterm, .sighup, .turn (sampleWorld 42000), .sigusr1]) =
        .ok stopped ∧
      stopped.log.count .counters = 3 := by
  obtain ⟨start, started⟩ := start_onePeer 41000
  have loads : Loads sampleSource (List.replicate 25 (.turn (sampleWorld 42000))) :=
    loads_sampleWorld fun world member => Event.turn.inj (List.eq_of_mem_replicate member)
  obtain ⟨d, stopped, -, -, -, done, -, -, written⟩ :=
    counters_written started (by simp : Event.sigterm ∉ List.replicate 25 (.turn (sampleWorld 42000))) loads
      (by simp [isTurn] : ∀ event ∈ [Event.sighup], isTurn event = false) (sampleWorld 42000)
  exact ⟨start, stopped, started, done [.sigusr1], written⟩

end Started

end Daemon

end Gutd
