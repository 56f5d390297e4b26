import Gutd.Userspace.EgressThread
import Gutd.Userspace.Routing

set_option autoImplicit false

namespace Gutd.Userspace

open Bytes Checked Wire Net Folds

inductive Turn where
  | arrival (arrival : Arrival)
  | packet (packet : Packet)

def Turn.step (rt : Runtime) (shared : Shared) : Turn → Result Shared
  | .arrival a => do
      let (shared, _, _) ← ingress rt shared a.buf a.outBuf a.size a.src a.clock
      pure shared
  | .packet p => do
      let (shared, _) ← egress rt shared p
      pure shared

def runTurns (rt : Runtime) (turns : List Turn) : Result Shared := turns.foldlM (Turn.step rt) Shared.empty

def Arrival.mode (rt : Runtime) (a : Arrival) : Option ObfsMode :=
  match a.classify rt with
  | .ok (.authentic _ _ obfs, _) => some obfs
  | _ => none

def Arrival.origin (rt : Runtime) (a : Arrival) : Option SocketAddr :=
  match a.classify rt with
  | .ok (.authentic slot len obfs, _) =>
      match obfsDecap rt.order slot len rt.keyInit Runtime.rounds obfs with
      | .ok (_, some _) => some a.src
      | _ => none
  | _ => none

def Turn.origin (rt : Runtime) : Turn → Option SocketAddr
  | .arrival a => a.origin rt
  | .packet _ => none

def Turn.modeOf (rt : Runtime) (addr : SocketAddr) : Turn → Option ObfsMode
  | .arrival a => if rt.isServer ∧ a.src = addr then a.mode rt else none
  | .packet _ => none

def lastOrigin (rt : Runtime) (turns : List Turn) : Option SocketAddr := turns.reverse.findSome? (Turn.origin rt)

def lastMode (rt : Runtime) (turns : List Turn) (addr : SocketAddr) : Option ObfsMode :=
  turns.reverse.findSome? (Turn.modeOf rt addr)

theorem findSome?_concat {α β : Type} (f : α → Option β) (items : List α) (a : α) :
    (items ++ [a]).reverse.findSome? f = (f a).or (items.reverse.findSome? f) := by
  rw [List.reverse_append, List.reverse_singleton, List.singleton_append, List.findSome?_cons]
  cases f a <;> rfl

section Turns

variable {rt : Runtime} {shared shared' : Shared} {turns : List Turn}

theorem learn_kept (rt : Runtime) (payload : Buf) (src : SocketAddr) (shared : Shared) :
    (learn rt payload src shared).peerExt = shared.peerExt ∧ (learn rt payload src shared).clientObfs = shared.clientObfs := by
  unfold learn
  split_ifs with dynamic
  · cases boundIndex shared.sessionMap payload <;> exact ⟨rfl, rfl⟩
  · exact ⟨rfl, rfl⟩

theorem recordObfs_mode (rt : Runtime) (obfs : ObfsMode) (src addr : SocketAddr) (shared : Shared) :
    (recordObfs rt obfs src shared).clientObfs addr =
      (if rt.isServer ∧ src = addr then some obfs else none).or (shared.clientObfs addr) := by
  unfold recordObfs insert
  by_cases server : rt.isServer = true
  · by_cases same : src = addr
    · simp [server, same]
    · simp [server, same, Ne.symm same]
  · simp [server]

theorem recordObfs_peerExt (rt : Runtime) (obfs : ObfsMode) (src : SocketAddr) (shared : Shared) :
    (recordObfs rt obfs src shared).peerExt = shared.peerExt := by
  unfold recordObfs
  split_ifs <;> rfl

theorem ingress_hears {a : Arrival} {outBuf : Buf} {sent : List Sent}
    (done : ingress rt shared a.buf a.outBuf a.size a.src a.clock = .ok (shared', outBuf, sent)) :
    shared'.peerExt = (a.origin rt).or shared.peerExt ∧
      ∀ addr, shared'.clientObfs addr = (Turn.modeOf rt addr (.arrival a)).or (shared.clientObfs addr) := by
  unfold ingress at done
  obtain ⟨⟨verdict, out⟩, classified, done⟩ := bind_eq_ok.mp done
  have same : a.classify rt = .ok (verdict, out) := classified
  cases verdict with
  | ignored =>
      cases done
      simp [Arrival.origin, Turn.modeOf, Arrival.mode, same]
  | probe reply =>
      cases done
      simp [Arrival.origin, Turn.modeOf, Arrival.mode, same]
  | authentic slot len obfs =>
      obtain ⟨⟨plain, found⟩, opened, done⟩ := bind_eq_ok.mp done
      have mode (addr : SocketAddr) :
          Turn.modeOf rt addr (.arrival a) = if rt.isServer ∧ a.src = addr then some obfs else none := by
        simp [Turn.modeOf, Arrival.mode, same]
      simp only [mode, Arrival.origin, same, opened]
      cases found with
      | none =>
          cases done
          exact ⟨recordObfs_peerExt _ _ _ _, fun addr => recordObfs_mode _ _ _ _ _⟩
      | some result =>
          obtain ⟨payload, -, done⟩ := bind_eq_ok.mp done
          cases done
          refine ⟨(learn_kept _ _ _ _).1, fun addr => ?_⟩
          rw [(learn_kept _ _ _ _).2]
          exact recordObfs_mode _ _ _ _ _

theorem egressDest_kept {buf : Buf} {size : Nat} {found : Option SocketAddr}
    (done : egressDest rt shared buf size = .ok (shared', found)) :
    shared'.peerExt = shared.peerExt ∧ shared'.clientObfs = shared.clientObfs := by
  unfold egressDest at done
  split_ifs at done with static
  · cases done
    exact ⟨rfl, rfl⟩
  · obtain ⟨route, -, done⟩ := bind_eq_ok.mp done
    cases route <;> cases done <;> exact ⟨rfl, rfl⟩

theorem trackWgPeer_kept (rt : Runtime) (src : SocketAddr) (shared : Shared) :
    (trackWgPeer rt src shared).peerExt = shared.peerExt ∧ (trackWgPeer rt src shared).clientObfs = shared.clientObfs := by
  unfold trackWgPeer
  split_ifs <;> exact ⟨rfl, rfl⟩

theorem egress_kept {packet : Packet} {sent : Option Outgoing} (done : egress rt shared packet = .ok (shared', sent)) :
    shared'.peerExt = shared.peerExt ∧ shared'.clientObfs = shared.clientObfs := by
  obtain ⟨⟨routed, found⟩, route, done⟩ := bind_eq_ok.mp done
  have tracked := trackWgPeer_kept rt packet.src shared
  have kept := egressDest_kept route
  suffices same : shared' = routed by
    rw [same]
    exact ⟨kept.1.trans tracked.1, kept.2.trans tracked.2⟩
  cases found with
  | none =>
      cases done
      rfl
  | some dest =>
      obtain ⟨out, -, done⟩ := bind_eq_ok.mp done
      cases done
      rfl

structure Knows (rt : Runtime) (turns : List Turn) (shared : Shared) : Prop where
  origin : shared.peerExt = lastOrigin rt turns
  mode : ∀ addr, shared.clientObfs addr = lastMode rt turns addr

theorem Knows.step {turn : Turn} (knows : Knows rt turns shared) (stepped : turn.step rt shared = .ok shared') :
    Knows rt (turns ++ [turn]) shared' := by
  have origins : lastOrigin rt (turns ++ [turn]) = (turn.origin rt).or (lastOrigin rt turns) := findSome?_concat _ _ _
  have modes (addr : SocketAddr) : lastMode rt (turns ++ [turn]) addr = (turn.modeOf rt addr).or (lastMode rt turns addr) :=
    findSome?_concat _ _ _
  cases turn with
  | arrival a =>
      obtain ⟨⟨heard, out, sent⟩, done, same⟩ := bind_eq_ok.mp stepped
      cases same
      obtain ⟨origin, mode⟩ := ingress_hears done
      exact ⟨by rw [origins, origin, knows.origin]; rfl, fun addr => by rw [modes, mode, knows.mode]⟩
  | packet p =>
      obtain ⟨⟨kept, sent⟩, done, same⟩ := bind_eq_ok.mp stepped
      cases same
      obtain ⟨origin, mode⟩ := egress_kept done
      exact ⟨by rw [origins, origin, knows.origin]; rfl, fun addr => by rw [modes, mode, knows.mode]; rfl⟩

theorem run_knows (ran : runTurns rt turns = .ok shared) : Knows rt turns shared :=
  foldlM_invariant (P := Knows rt) (fun _ _ _ _ knows stepped => knows.step stepped) ⟨rfl, fun _ => rfl⟩ ran

structure Directed (rt : Runtime) (turns : List Turn) (dest : SocketAddr) (obfs : ObfsMode) : Prop where
  goes : (lastOrigin rt turns).or rt.remotePeerAddr = some dest
  mode : obfs = if rt.isServer then (lastMode rt turns dest).getD rt.obfs else rt.obfs

theorem egress_directed (static : rt.dynamicPeer = false) (ran : runTurns rt turns = .ok shared) (packet : Packet)
    (dest : SocketAddr) (obfs : ObfsMode) (directed : Directed rt turns dest obfs) :
    egress rt shared packet = (transmit rt packet dest obfs).map (Prod.mk (trackWgPeer rt packet.src shared)) := by
  obtain ⟨origin, mode⟩ := run_knows ran
  obtain ⟨kept, modes⟩ := trackWgPeer_kept rt packet.src shared
  have routed : egressDest rt (trackWgPeer rt packet.src shared) packet.buf packet.size =
      .ok (trackWgPeer rt packet.src shared, some dest) := by
    unfold egressDest
    rw [static, kept, origin, directed.goes]
    rfl
  have chosen : encapObfs rt (trackWgPeer rt packet.src shared) dest = obfs := by
    rw [encapObfs, modes, mode, directed.mode]
  unfold egress
  rw [routed, bind_ok]
  dsimp only
  rw [chosen]
  cases transmit rt packet dest obfs <;> rfl

theorem egress_undirected (static : rt.dynamicPeer = false) (ran : runTurns rt turns = .ok shared) (packet : Packet)
    (unknown : (lastOrigin rt turns).or rt.remotePeerAddr = none) :
    egress rt shared packet = .ok (trackWgPeer rt packet.src shared, none) := by
  obtain ⟨kept, -⟩ := trackWgPeer_kept rt packet.src shared
  have routed : egressDest rt (trackWgPeer rt packet.src shared) packet.buf packet.size =
      .ok (trackWgPeer rt packet.src shared, none) := by
    unfold egressDest
    rw [static, kept, (run_knows ran).origin, unknown]
    rfl
  unfold egress
  rw [routed, bind_ok]
  rfl

theorem rtpFrame_ip {q : Buf} {dcid : UInt32} {dest : SocketAddr} {out : Outgoing}
    (framed : rtpFrame rt q dcid dest = .ok out) : out.dest.ip = dest.ip := by
  obtain ⟨ts, -, framed⟩ := bind_eq_ok.mp framed
  dsimp only at framed
  split_ifs at framed
  · obtain ⟨port, -, framed⟩ := bind_eq_ok.mp framed
    cases framed
    rfl
  · cases framed
    rfl

theorem sipFrame_ip {q : Buf} {origType : UInt8} {origSize : Nat} {src dest : SocketAddr} {clock : Clock} {out : Outgoing}
    (framed : sipFrame rt q origType origSize src dest clock = .ok out) : out.dest.ip = dest.ip := by
  obtain ⟨text, -, framed⟩ := bind_eq_ok.mp framed
  obtain ⟨date, -, framed⟩ := bind_eq_ok.mp framed
  obtain ⟨header, -, framed⟩ := bind_eq_ok.mp framed
  obtain ⟨port, -, framed⟩ := bind_eq_ok.mp framed
  cases framed
  rfl

theorem frame_ip {q : Buf} {dcid : UInt32} {origType : UInt8} {origSize : Nat} {src dest : SocketAddr} {obfs : ObfsMode}
    {clock : Clock} {out : Outgoing} (framed : frame rt q dcid origType origSize src dest obfs clock = .ok out) :
    out.dest.ip = dest.ip := by
  by_cases sip : obfs = .sip
  · subst sip
    by_cases data : origType = 4 ∧ origSize > 32
    · have rtp : rtpFrame rt q dcid dest = .ok out := by simpa only [frame, if_pos data] using framed
      exact rtpFrame_ip rtp
    · have text : sipFrame rt q origType origSize src dest clock = .ok out := by
        simpa only [frame, if_neg data] using framed
      exact sipFrame_ip text
  · rw [frame_dest sip framed]

theorem transmit_ip {packet : Packet} {dest : SocketAddr} {obfs : ObfsMode} {out : Outgoing}
    (sent : transmit rt packet dest obfs = .ok (some out)) : out.dest.ip = dest.ip := by
  obtain ⟨origType, -, sent⟩ := bind_eq_ok.mp sent
  obtain ⟨⟨buf, encapped⟩, -, sent⟩ := bind_eq_ok.mp sent
  cases encapped with
  | none => cases sent
  | some result =>
      obtain ⟨q, -, sent⟩ := bind_eq_ok.mp sent
      obtain ⟨out', framed, sent⟩ := bind_eq_ok.mp sent
      split_ifs at sent
      cases sent
      exact frame_ip framed

theorem sent_iff_directed (static : rt.dynamicPeer = false) (ran : runTurns rt turns = .ok shared) (packet : Packet)
    (out : Outgoing) :
    (∃ shared', egress rt shared packet = .ok (shared', some out)) ↔
      ∃ dest obfs, Directed rt turns dest obfs ∧ transmit rt packet dest obfs = .ok (some out) ∧
        out.dest.ip = dest.ip ∧ (obfs ≠ .sip → out.dest = dest) := by
  constructor
  · rintro ⟨shared', sent⟩
    cases goes : (lastOrigin rt turns).or rt.remotePeerAddr with
    | none =>
        rw [egress_undirected static ran packet goes] at sent
        cases sent
    | some dest =>
        have directed : Directed rt turns dest _ := ⟨goes, rfl⟩
        rw [egress_directed static ran packet dest _ directed] at sent
        have transmitted := (map_mk_eq_ok sent).2
        exact ⟨dest, _, directed, transmitted, transmit_ip transmitted, fun mode => transmit_dest mode transmitted⟩
  · rintro ⟨dest, obfs, directed, transmitted, -⟩
    refine ⟨trackWgPeer rt packet.src shared, ?_⟩
    rw [egress_directed static ran packet dest obfs directed, transmitted]
    rfl

end Turns

def staticServer : Runtime := { sampleRuntime true .gut with dynamicPeer := false, remotePeerAddr := some (localhost 41000) }

def staticPacket : Packet := ⟨4 :: List.replicate 111 0, 32, localhost 51820, ⟨0, 0⟩, 0⟩

def blankArrival : Arrival := ⟨List.replicate 64 0, [], 20, localhost 443, ⟨0, 0⟩⟩

theorem sent_iff_directed_unheard :
    ∃ shared out, runTurns staticServer [.arrival blankArrival] = .ok shared ∧
      (∃ shared', egress staticServer shared staticPacket = .ok (shared', some out)) ∧ out.dest = localhost 41000 := by
  have fits : Fits staticServer staticPacket .gut := by
    unfold Fits
    decide +kernel
  obtain ⟨out, sent⟩ := (transmit_fits_iff (localhost 41000) (by decide) (by decide) (by decide)).mpr fits
  have ran : runTurns staticServer [.arrival blankArrival] = .ok Shared.empty := rfl
  have directed : Directed staticServer [.arrival blankArrival] (localhost 41000) .gut := ⟨rfl, rfl⟩
  have goes : out.dest = localhost 41000 := transmit_dest (by decide) sent
  exact ⟨_, out, ran, (sent_iff_directed rfl ran staticPacket out).mpr ⟨_, _, directed, sent, by rw [goes], fun _ => goes⟩, goes⟩

end Gutd.Userspace
