import Gutd.Bpf.Destination
import Gutd.Bpf.TcExits
import Gutd.Bpf.XdpRejection
import Gutd.Shared.Roaming
import Mathlib.Data.List.Induction

set_option autoImplicit false

-- The kernel may evict the oldest of 8192 entries of `client_map` and `session_map`, which is left out here.

namespace Gutd.Bpf

open Bytes Checked Wire Roaming

structure PeerMaps where
  clientMap : UInt32 → Option PeerEndpoint
  sessionMap : UInt32 → Option UInt32

namespace PeerMaps

def empty : PeerMaps := { clientMap := fun _ => none, sessionMap := fun _ => none }

def onXdp (maps : PeerMaps) (x : Xdp) : Xdp := { x with clientMap := maps.clientMap, sessionMap := maps.sessionMap }

def onTc (maps : PeerMaps) (tc : Tc) : Tc := { tc with clientMap := maps.clientMap, sessionMap := maps.sessionMap }

end PeerMaps

def Xdp.maps (x : Xdp) : PeerMaps := { clientMap := x.clientMap, sessionMap := x.sessionMap }

def Tc.maps (tc : Tc) : PeerMaps := { clientMap := tc.clientMap, sessionMap := tc.sessionMap }

def ended : Run Xdp → Xdp
  | .ok x => x
  | .error x => x

inductive Passage where
  | ingress (x : Xdp)
  | egress (k : Kernel) (tc : Tc)

namespace PeerMaps

def step (mode : ObfsMode) (cfg : GutConfig) (maps : PeerMaps) : Passage → PeerMaps
  | .ingress x => (ended (gutXdpCore mode cfg (maps.onXdp x))).maps
  | .egress k tc => (gutEgress mode cfg k (maps.onTc tc)).2.maps

def run (mode : ObfsMode) (cfg : GutConfig) (passages : List Passage) : PeerMaps := passages.foldl (step mode cfg) empty

end PeerMaps

def noteAt (frame : Buf) (pos : UdpPos) (wg : Nat) : Option (Note UInt32 PeerEndpoint) :=
  let wgType := byteAt frame wg &&& 0x1F
  if wgType = 1 then some (.hello (le32At frame (wg + 4)) (sourceEndpoint frame pos))
  else if wgType = 4 ∨ wgType = 3 then some (.data (le32At frame (wg + 4)) (sourceEndpoint frame pos))
  else none

def heard (mode : ObfsMode) (cfg : GutConfig) (frame : Buf) : Option (Note UInt32 PeerEndpoint) := do
  let r ← parseWg cfg frame
  let outer ← outerHdrLen mode (byteAt frame r.wgOff)
  if r.wgOff + outer + wgMinPacket ≤ frame.length ∧
      headerMatches mode cfg frame r.wgOff outer (messageBlock cfg r frame outer) = true then
    noteAt (frontUnmasked cfg r frame outer) r.pos (r.wgOff + outer)
  else none

def answered (mode : ObfsMode) (cfg : GutConfig) (k : Kernel) (tc : Tc) : Option (Note UInt32 PeerEndpoint) := do
  let pkt ← parseEgress tc.skb
  if pkt.wgType = 2 ∧ (mode = .syslog → pkt.wgLen ≤ gutB64WgMtuMax) ∧ (tunnelPort mode cfg (nextSeq tc)).isSome ∧
      (0 < padLenOf mode cfg pkt → k.changeTail = true) then
    some (.answer (le32At pkt.head 4) (le32At pkt.head 8))
  else none

def Passage.note (mode : ObfsMode) (cfg : GutConfig) : Passage → Option (Note UInt32 PeerEndpoint)
  | .ingress x => heard mode cfg x.frame
  | .egress k tc => answered mode cfg k tc

def notesOf (mode : ObfsMode) (cfg : GutConfig) (passages : List Passage) : List (Note UInt32 PeerEndpoint) :=
  (passages.filterMap (Passage.note mode cfg)).reverse

section Receiver

variable {mode : ObfsMode} {cfg : GutConfig} {r : Received} {x : Xdp} {outer : Nat}

theorem ended_rejectIf {bad : Prop} [Decidable bad] (next : Unit → Run Xdp) :
    ended (rejectIf x bad >>= next) = if bad then x else ended (next ()) := by
  by_cases failing : bad <;> simp [rejectIf, failing, ended]

theorem ended_orReject {α : Type} (answer : Option α) (next : α → Run Xdp) :
    ended (orReject x answer >>= next) = answer.elim x fun a => ended (next a) := by
  cases answer <;> rfl

theorem maps_adjustHead {n : Nat} {x' : Xdp} (cut : x.adjustHead n = some x') : x'.maps = x.maps := by
  unfold Xdp.adjustHead at cut
  split_ifs at cut
  cases cut
  rfl

theorem maps_adjustTail {n : Int} {x' : Xdp} (cut : x.adjustTail n = some x') : x'.maps = x.maps := by
  unfold Xdp.adjustTail at cut
  dsimp only at cut
  split_ifs at cut
  cases cut
  rfl

theorem maps_bind {run : Run Xdp} {next : Xdp → Run Xdp} {maps : PeerMaps} (first : (ended run).maps = maps)
    (rest : ∀ x, x.maps = maps → (ended (next x)).maps = maps) : (ended (run >>= next)).maps = maps := by
  cases run with
  | ok x => exact rest x first
  | error x => exact first

theorem maps_cutOuterHeader (pos : UdpPos) (outer : Nat) (x : Xdp) : (ended (cutOuterHeader pos outer x)).maps = x.maps := by
  unfold cutOuterHeader
  rw [ended_rejectIf, ended_orReject]
  split_ifs
  · rfl
  cases loadBytes x.frame 0 pos.payloadOff with
  | none => rfl
  | some headers =>
      dsimp only [Option.elim]
      rw [ended_orReject]
      cases cut : x.adjustHead outer with
      | none => rfl
      | some x' =>
          have same := maps_adjustHead cut
          dsimp only [Option.elim]
          rw [ended_orReject]
          cases storeBytes x'.frame 0 headers with
          | none => exact same
          | some frame => exact same

theorem maps_trimBallast (x : Xdp) (ballast : Nat) : (ended (trimBallast x ballast)).maps = x.maps := by
  unfold trimBallast
  split_ifs
  · cases cut : x.adjustTail (-ballast) with
    | none => rfl
    | some x' => exact maps_adjustTail cut
  · rfl

theorem maps_deliver (cfg : GutConfig) (pos : UdpPos) (outer ballast udpLen : Nat) (ports : UInt32) (x : Xdp) :
    (ended (deliver cfg pos outer ballast udpLen ports x)).maps = x.maps := by
  unfold deliver
  refine maps_bind (maps_cutOuterHeader pos outer _) fun x₁ cut => ?_
  refine maps_bind ((maps_trimBallast x₁ ballast).trans cut) fun x₂ trimmed => ?_
  rw [ended_rejectIf, ended_rejectIf]
  split_ifs <;> exact trimmed

theorem maps_openDatagram (readable : Readable mode r x.frame outer) :
    (ended (openDatagram mode cfg r x)).maps =
      if headerMatches mode cfg x.frame r.wgOff outer (messageBlock cfg r x.frame outer) = true then
        (learned mode cfg r x outer).maps
      else x.maps := by
  split_ifs with genuine
  · by_cases sized : Sized r x.frame outer
    · rw [openDatagram_sized readable genuine sized, maps_deliver]
      rfl
    · rw [openDatagram_unsized readable genuine sized]
      rfl
  · rw [openDatagram_forged readable genuine]
    rfl

theorem clientMap_learned_text (text : mode = .syslog ∨ mode = .sip) : (learned mode cfg r x outer).clientMap = x.clientMap := by
  have compiledOut : mode = .syslog ∨ mode = .sip ∨ cfg.dynamicPeer = 0 := by rw [← or_assoc]; exact .inl text
  rw [learned, learn, if_pos compiledOut]

theorem clientMap_openDatagram_text (text : mode = .syslog ∨ mode = .sip) :
    (ended (openDatagram mode cfg r x)).clientMap = x.clientMap := by
  by_cases readable : ∃ outer, Readable mode r x.frame outer
  · obtain ⟨outer, readable⟩ := readable
    have same := congrArg PeerMaps.clientMap (@maps_openDatagram mode cfg r x outer readable)
    split_ifs at same
    · exact same.trans (clientMap_learned_text text)
    · exact same
  · rw [openDatagram_unreadable (not_exists.mp readable)]
    rfl

theorem clientMap_gutXdpCore_text (text : mode = .syslog ∨ mode = .sip) :
    (ended (gutXdpCore mode cfg x)).clientMap = x.clientMap := by
  cases parsed : parseWg cfg x.frame with
  | none =>
      rw [gutXdpCore_foreign parsed]
      rfl
  | some r =>
      cases opened : unwrap mode cfg r x with
      | none =>
          obtain ⟨x', done, -, same⟩ := gutXdpCore_wrapped parsed opened
          rw [done]
          exact same
      | some inner =>
          obtain ⟨x', done, -, same⟩ := gutXdpCore_unwrapped parsed opened
          rw [done, clientMap_openDatagram_text text, same]

-- zero is no index of a client
def located (maps : PeerMaps) (client : UInt32) (source : PeerEndpoint) : PeerMaps :=
  if client = 0 then maps else { maps with clientMap := updateElem maps.clientMap client source }

def noted (maps : PeerMaps) : Option (Note UInt32 PeerEndpoint) → PeerMaps
  | some (.hello client source) => located maps client source
  | some (.data session source) => located maps ((maps.sessionMap session).getD 0) source
  | some (.answer session client) => { maps with sessionMap := updateElem maps.sessionMap session client }
  | none => maps

theorem maps_learn (learning : ¬(mode = .syslog ∨ mode = .sip ∨ cfg.dynamicPeer = 0)) (pos : UdpPos) (wg : Nat) (x : Xdp) :
    (learn mode cfg pos wg x).maps = noted x.maps (noteAt x.frame pos wg) := by
  unfold learn clientIdx noteAt
  rw [if_neg learning]
  dsimp only
  split_ifs with first none data none none <;> unfold noted located
  · exact (if_pos none).symm
  · exact (if_neg none).symm
  · exact (if_pos none).symm
  · exact (if_neg none).symm
  · rfl
  · exact absurd rfl none

theorem maps_gutXdpCore (plain : mode = .gut ∨ mode = .quic) (dynamic : cfg.dynamicPeer ≠ 0) (x : Xdp) :
    (ended (gutXdpCore mode cfg x)).maps = noted x.maps (heard mode cfg x.frame) := by
  have learning : ¬(mode = .syslog ∨ mode = .sip ∨ cfg.dynamicPeer = 0) := by
    rcases plain with rfl | rfl <;> simp [dynamic]
  unfold heard
  cases parsed : parseWg cfg x.frame with
  | none =>
      rw [gutXdpCore_foreign parsed]
      rfl
  | some r =>
      rw [(gutXdpCore_plain parsed plain).1, Option.bind_eq_bind, Option.bind_some]
      cases form : outerHdrLen mode (byteAt x.frame r.wgOff) with
      | none =>
          rw [openDatagram_unreadable fun outer readable => by simpa [form] using readable.form]
          rfl
      | some outer =>
          rw [Option.bind_eq_bind, Option.bind_some]
          by_cases front : r.wgOff + outer + wgMinPacket ≤ x.frame.length
          · rw [maps_openDatagram ⟨form, front⟩]
            simp only [front, true_and]
            split_ifs
            · exact maps_learn learning r.pos _ _
            · rfl
          · rw [openDatagram_unreadable fun other readable => by
              have same := readable.form
              rw [form] at same
              cases same
              exact front readable.front]
            simp [front, noted, ended]

end Receiver

section Sender

variable {mode : ObfsMode} {cfg : GutConfig} {k : Kernel} {tc : Tc} {pkt : WgPacket}

def endedTc : TcRun Tc → Tc
  | .ok tc => tc
  | .error (_, tc) => tc

theorem gutEgress_snd (mode : ObfsMode) (cfg : GutConfig) (k : Kernel) (tc : Tc) :
    (gutEgress mode cfg k tc).2 = endedTc (prepare mode cfg k tc >>= fun prepared => emit mode cfg k prepared.1 prepared.2) := by
  unfold gutEgress
  dsimp only
  cases prepare mode cfg k tc >>= fun prepared => emit mode cfg k prepared.1 prepared.2 with
  | ok tc' => rfl
  | error stop => rfl

theorem maps_finish (cfg : GutConfig) (p : Prepared) (n : Nat) (tc : Tc) : (endedTc (finish cfg p n tc)).maps = tc.maps := by
  unfold finish
  by_cases short : payloadOff p.ver > tc.skb.length
  · rw [rejectIf, if_pos short]
    rfl
  · rw [rejectIf_ok short, bind_ok]
    dsimp only
    cases routeOf cfg tc.clientMap p.wgIdx p.ver with
    | none => rfl
    | some route => rfl

theorem maps_emit {p : Prepared} (sized : p.outer = egressHdrLen mode p.wgType) (tc : Tc) :
    (endedTc (emit mode cfg k p tc)).maps = tc.maps := by
  cases planned : plan mode cfg k p tc with
  | error v =>
      rw [emit_stops planned]
      rfl
  | ok pl =>
      obtain ⟨carries, breaks⟩ := emit_carriesOut sized planned
      by_cases done : k.adjustRoom = false ∨ pl.Fits k p.ver tc.skb
      · rw [carries done, carryOut]
        split_ifs
        · rfl
        · rw [maps_finish]
          rfl
      · rw [not_or] at done
        obtain ⟨skb, stopped, -⟩ := breaks (by simpa using done.1) done.2
        rw [stopped]
        rfl

theorem maps_unprepared {v : TcStop} {tc' : Tc} (found : parseEgress tc.skb = some pkt)
    (stopped : prepare mode cfg k tc = .error (v, tc')) : tc'.maps = tc.maps := by
  rw [prepare_eq mode k found] at stopped
  cases selected : tunnelPort mode cfg (nextSeq tc) with
  | none =>
      rw [selected] at stopped
      dsimp only at stopped
      split_ifs at stopped <;> cases stopped <;> rfl
  | some port =>
      rw [selected] at stopped
      dsimp only at stopped
      split_ifs at stopped <;> cases stopped <;> rfl

theorem maps_gutEgress (dynamic : cfg.dynamicPeer ≠ 0) (tc : Tc) :
    (gutEgress mode cfg k tc).2.maps = noted tc.maps (answered mode cfg k tc) := by
  rw [gutEgress_snd]
  unfold answered
  cases found : parseEgress tc.skb with
  | none =>
      rw [prepare, found]
      rfl
  | some pkt =>
      rw [Option.bind_eq_bind, Option.bind_some]
      cases prepared : prepare mode cfg k tc with
      | error stop =>
          obtain ⟨v, tc'⟩ := stop
          rw [if_neg fun reaches => ?_]
          · exact maps_unprepared found prepared
          · obtain ⟨response, sized, selected, grown⟩ := reaches
            obtain ⟨port, selected⟩ := Option.isSome_iff_exists.mp selected
            have kept : keepaliveDropped cfg k.prandom pkt.wgType pkt.wgLen = false := by simp [keepaliveDropped, response]
            have prepares : Prepares mode cfg k tc pkt port := ⟨kept, sized, selected, grown, fun _ => by simp [response]⟩
            rw [prepare_prepares found prepares] at prepared
            cases prepared
      | ok result =>
          obtain ⟨port, prepares⟩ := prepares_of_prepare found prepared
          rw [prepare_prepares found prepares] at prepared
          cases prepared
          rw [bind_ok, maps_emit rfl]
          by_cases response : pkt.wgType = 2
          · rw [if_pos ⟨response, prepares.sized, by simp [prepares.selected], prepares.grown⟩]
            simp [preparedTc, bridgedMap, noted, Tc.maps, dynamic, response, wgIndex]
          · rw [if_neg (by simp [response])]
            simp [preparedTc, bridgedMap, noted, Tc.maps, response]

theorem clientMap_gutEgress (mode : ObfsMode) (cfg : GutConfig) (k : Kernel) (tc : Tc) :
    (gutEgress mode cfg k tc).2.clientMap = tc.clientMap := by
  rw [gutEgress_snd]
  cases found : parseEgress tc.skb with
  | none =>
      rw [prepare, found]
      rfl
  | some pkt =>
      cases prepared : prepare mode cfg k tc with
      | error stop =>
          obtain ⟨v, tc'⟩ := stop
          exact congrArg PeerMaps.clientMap (maps_unprepared found prepared)
      | ok result =>
          obtain ⟨port, prepares⟩ := prepares_of_prepare found prepared
          rw [prepare_prepares found prepares] at prepared
          cases prepared
          rw [bind_ok]
          exact congrArg PeerMaps.clientMap (maps_emit rfl (preparedTc mode cfg tc pkt))

end Sender

section Runs

variable {mode : ObfsMode} {cfg : GutConfig} {k : Kernel} {tc tc' : Tc} {passages : List Passage} {ifindex : UInt32}

structure Follows (maps : PeerMaps) (notes : List (Note UInt32 PeerEndpoint)) : Prop where
  clients : ∀ c, maps.clientMap c = if c = 0 then none else sourceOf notes c
  sessions : ∀ s, maps.sessionMap s = clientOf notes s

theorem Follows.located {maps : PeerMaps} {notes : List (Note UInt32 PeerEndpoint)} (follows : Follows maps notes)
    (client : UInt32) (source : PeerEndpoint) (c : UInt32) :
    (located maps client source).clientMap c =
      if c = 0 then none else if client = c then some source else sourceOf notes c := by
  unfold Bpf.located
  by_cases zero : client = 0
  · rw [if_pos zero, follows.clients]
    by_cases none : c = 0
    · simp [none]
    · simp [none, zero, Ne.symm none]
  · rw [if_neg zero]
    dsimp only
    unfold updateElem
    rw [follows.clients]
    by_cases same : c = client
    · simp [same, zero]
    · simp [same, Ne.symm same]

theorem sessionMap_located (maps : PeerMaps) (client : UInt32) (source : PeerEndpoint) :
    (located maps client source).sessionMap = maps.sessionMap := by
  unfold located
  split_ifs <;> rfl

theorem Follows.noted {maps : PeerMaps} {notes : List (Note UInt32 PeerEndpoint)} (follows : Follows maps notes)
    (note : Note UInt32 PeerEndpoint) : Follows (noted maps (some note)) (note :: notes) := by
  cases note with
  | hello client source =>
      refine ⟨follows.located client source, fun s => ?_⟩
      rw [Bpf.noted, sessionMap_located]
      exact follows.sessions s
  | answer session client =>
      refine ⟨follows.clients, fun s => ?_⟩
      unfold Bpf.noted updateElem clientOf
      dsimp only
      rw [follows.sessions]
      by_cases same : s = session
      · simp [same]
      · simp [same, Ne.symm same]
  | data session source =>
      refine ⟨fun c => ?_, fun s => ?_⟩
      · rw [Bpf.noted, follows.located, follows.sessions, sourceOf]
        by_cases none : c = 0
        · rw [if_pos none, if_pos none]
        · rw [if_neg none, if_neg none]
          cases clientOf notes session with
          | none => simp [Ne.symm none]
          | some client => simp
      · rw [Bpf.noted, sessionMap_located]
        exact follows.sessions s

theorem step_eq (plain : mode = .gut ∨ mode = .quic) (dynamic : cfg.dynamicPeer ≠ 0) (maps : PeerMaps) (passage : Passage) :
    maps.step mode cfg passage = noted maps (passage.note mode cfg) := by
  cases passage with
  | ingress x => exact maps_gutXdpCore plain dynamic (maps.onXdp x)
  | egress k tc => exact maps_gutEgress dynamic (maps.onTc tc)

theorem notesOf_append (mode : ObfsMode) (cfg : GutConfig) (passages more : List Passage) :
    notesOf mode cfg (passages ++ more) = notesOf mode cfg more ++ notesOf mode cfg passages := by
  simp [notesOf]

theorem run_follows (plain : mode = .gut ∨ mode = .quic) (dynamic : cfg.dynamicPeer ≠ 0) (passages : List Passage) :
    Follows (PeerMaps.run mode cfg passages) (notesOf mode cfg passages) := by
  induction passages using List.reverseRecOn with
  | nil => exact ⟨fun c => by simp [PeerMaps.run, PeerMaps.empty, notesOf, sourceOf], fun s => rfl⟩
  | append_singleton passages passage ih =>
      have last : PeerMaps.run mode cfg (passages ++ [passage]) =
          noted (PeerMaps.run mode cfg passages) (passage.note mode cfg) := by
        rw [PeerMaps.run, List.foldl_append]
        exact step_eq plain dynamic _ passage
      rw [last, notesOf_append]
      cases said : passage.note mode cfg with
      | none => simpa [notesOf, said, noted] using ih
      | some note => simpa [notesOf, said] using ih.noted note

end Runs

section Destination

variable {mode : ObfsMode} {cfg : GutConfig} {k : Kernel} {tc tc' : Tc} {pkt : WgPacket} {port : UInt16} {pl : Plan}
  {passages : List Passage} {ifindex : UInt32}

structure Ready (mode : ObfsMode) (cfg : GutConfig) (k : Kernel) (tc : Tc) (pkt : WgPacket) (port : UInt16) (pl : Plan) : Prop
    extends Prepares mode cfg k tc pkt port where
  planned : plan mode cfg k (preparedOf mode cfg pkt (nextSeq tc) port) (preparedTc mode cfg tc pkt) = .ok pl
  adjusted : k.adjustRoom = true
  fits : pl.Fits k pkt.ver (preparedTc mode cfg tc pkt).skb

theorem Ready.sends {maps : PeerMaps} {route : Route} (ready : Ready mode cfg k tc pkt port pl)
    (plain : mode = .gut ∨ mode = .quic) (routed : routeOf cfg maps.clientMap (wgIndex pkt) pkt.ver = some route) :
    Sends mode cfg k (maps.onTc tc) pkt port pl route := by
  obtain ⟨⟨kept, sized, selected, grown, responder⟩, planned, adjusted, fits⟩ := ready
  -- neither build looks at the packet when it plans
  rcases plain with rfl | rfl <;>
    exact ⟨⟨kept, sized, selected, grown, responder⟩, planned, adjusted,
      ⟨fits.pulled, fits.going, fits.headers, fits.stored⟩, routed⟩

theorem source_of_noteAt {frame : Buf} {pos : UdpPos} {wg : Nat} {index : UInt32} {ep : PeerEndpoint}
    (said : noteAt frame pos wg = some (.hello index ep) ∨ noteAt frame pos wg = some (.data index ep)) :
    ep = sourceEndpoint frame pos := by
  unfold noteAt at said
  dsimp only at said
  rcases said with said | said <;> split_ifs at said <;> cases said <;> rfl

-- the addresses and ports stand before what is unmasked
theorem sourceEndpoint_frontUnmasked (cfg : GutConfig) (r : Received) (frame : Buf) (outer : Nat) :
    sourceEndpoint (frontUnmasked cfg r frame outer) r.pos = sourceEndpoint frame r.pos := by
  have payload : r.wgOff = r.pos.ipOff + r.pos.ver.headerLen + 8 := rfl
  have udp : r.pos.udpOff = r.pos.ipOff + r.pos.ver.headerLen := rfl
  have same (i : Nat) (before : i < r.wgOff) : byteAt (frontUnmasked cfg r frame outer) i = byteAt frame i :=
    byteAt_frontUnmasked cfg frame i (by omega)
  have word (i : Nat) (before : i + 2 ≤ r.wgOff) : be16At (frontUnmasked cfg r frame outer) i = be16At frame i :=
    be16At_congr fun k small => same _ (by omega)
  have bytes (off n : Nat) (before : off + n ≤ r.wgOff) :
      bytesAt (frontUnmasked cfg r frame outer) off n = bytesAt frame off n := by
    unfold bytesAt
    congr 1
    funext i
    exact same _ (by omega)
  unfold sourceEndpoint
  rw [word _ (by omega), word _ (by omega)]
  cases ver : r.pos.ver with
  | v4 =>
      rw [ver] at payload
      simp only [IpVersion.headerLen] at payload
      dsimp only
      rw [bytes _ _ (by omega), bytes _ _ (by omega)]
  | v6 =>
      rw [ver] at payload
      simp only [IpVersion.headerLen] at payload
      dsimp only
      rw [bytes _ _ (by omega), bytes _ _ (by omega)]

theorem source_of_heard {frame : Buf} {index : UInt32} {ep : PeerEndpoint}
    (said : heard mode cfg frame = some (.hello index ep) ∨ heard mode cfg frame = some (.data index ep)) :
    ∃ pos, parseUdp frame = some pos ∧ ep = sourceEndpoint frame pos := by
  unfold heard at said
  cases parsed : parseWg cfg frame with
  | none => simp [parsed] at said
  | some r =>
      cases form : outerHdrLen mode (byteAt frame r.wgOff) with
      | none => simp [parsed, form] at said
      | some outer =>
          simp only [parsed, form, Option.bind_eq_bind, Option.bind_some] at said
          split_ifs at said
          · exact ⟨r.pos, parseWg_pos parsed, (source_of_noteAt said).trans (sourceEndpoint_frontUnmasked cfg r frame outer)⟩
          · rcases said with said | said <;> cases said

def HeardFrom (mode : ObfsMode) (cfg : GutConfig) (frame : Buf) (pos : UdpPos) : Prop :=
  parseUdp frame = some pos ∧ ∃ index, heard mode cfg frame = some (.hello index (sourceEndpoint frame pos)) ∨
    heard mode cfg frame = some (.data index (sourceEndpoint frame pos))

theorem heardFrom_of_sourceOf {c : UInt32} {ep : PeerEndpoint} (known : sourceOf (notesOf mode cfg passages) c = some ep) :
    ∃ x pos, Passage.ingress x ∈ passages ∧ HeardFrom mode cfg x.frame pos ∧ ep = sourceEndpoint x.frame pos := by
  have origin (note : Note UInt32 PeerEndpoint) (member : note ∈ notesOf mode cfg passages) :
      ∃ passage ∈ passages, passage.note mode cfg = some note := by
    rwa [notesOf, List.mem_reverse, List.mem_filterMap] at member
  have received (note : Note UInt32 PeerEndpoint) (member : note ∈ notesOf mode cfg passages)
      (other : ∀ session client, note ≠ .answer session client) :
      ∃ x, Passage.ingress x ∈ passages ∧ heard mode cfg x.frame = some note := by
    obtain ⟨passage, member, said⟩ := origin note member
    cases passage with
    | ingress x => exact ⟨x, member, said⟩
    | egress k tc =>
        simp only [Passage.note, answered, Option.bind_eq_bind, Option.bind_eq_some_iff] at said
        obtain ⟨pkt, -, said⟩ := said
        split_ifs at said
        cases said
        exact absurd rfl (other _ _)
  rcases mem_of_sourceOf known with hello | ⟨session, data⟩
  · obtain ⟨x, member, said⟩ := received _ hello (by simp)
    obtain ⟨pos, parsed, rfl⟩ := source_of_heard (.inl said)
    exact ⟨x, pos, member, ⟨parsed, c, .inl said⟩, rfl⟩
  · obtain ⟨x, member, said⟩ := received _ data (by simp)
    obtain ⟨pos, parsed, rfl⟩ := source_of_heard (.inr said)
    exact ⟨x, pos, member, ⟨parsed, session, .inr said⟩, rfl⟩

theorem valid_sourceEndpoint (frame : Buf) (pos : UdpPos) : (sourceEndpoint frame pos).valid = true := by
  unfold sourceEndpoint
  cases pos.ver <;> rfl

theorem routeOf_run (plain : mode = .gut ∨ mode = .quic) (dynamic : cfg.dynamicPeer ≠ 0) (c : UInt32) (ver : IpVersion) :
    routeOf cfg (PeerMaps.run mode cfg passages).clientMap c ver =
      if c = 0 then none else (sourceOf (notesOf mode cfg passages) c).map fun ep => endpointRoute cfg ep ver := by
  rw [routeOf, if_neg dynamic, (run_follows plain dynamic passages).clients]
  split_ifs with zero
  · rfl
  · cases known : sourceOf (notesOf mode cfg passages) c with
    | none => rfl
    | some ep =>
        obtain ⟨x, pos, -, -, rfl⟩ := heardFrom_of_sourceOf known
        dsimp only
        rw [if_pos (valid_sourceEndpoint _ _)]
        rfl

def UdpPos.saddr (pos : UdpPos) (frame : Buf) : Buf :=
  slice frame (pos.ipOff + pos.ver.saddrOff) (pos.ipOff + pos.ver.saddrOff + pos.ver.addrLen)

def UdpPos.daddr (pos : UdpPos) (frame : Buf) : Buf :=
  slice frame (pos.ipOff + pos.ver.saddrOff + pos.ver.addrLen) (pos.ipOff + pos.ver.saddrOff + pos.ver.addrLen + pos.ver.addrLen)

def zeroAddress (ver : IpVersion) : Buf := List.replicate ver.addrLen 0

-- The endpoint of a client is an address of the family that its frame was in. A packet of the other family is sent to
-- zero all the same.
structure AnswersTo (cfg : GutConfig) (ver : IpVersion) (frame : Buf) (pos : UdpPos) (port : UInt16) (skb : Buf) : Prop where
  within : pos.ver = ver → Addressed ver (if pos.daddr frame = zeroAddress ver then cfg.bound ver else pos.daddr frame)
    (pos.saddr frame) (if be16At frame (pos.udpOff + 2) = 0 then port else be16At frame (pos.udpOff + 2))
    (be16At frame pos.udpOff) skb
  across : pos.ver ≠ ver → Addressed ver (cfg.bound ver) (zeroAddress ver)
    (if be16At frame (pos.udpOff + 2) = 0 then port else be16At frame (pos.udpOff + 2)) (be16At frame pos.udpOff) skb

section Route

variable {frame skb : Buf} {pos : UdpPos} {ver : IpVersion}

theorem bytesAt_eq_zero (frame : Buf) (off n : Nat) (inside : off + n ≤ frame.length) :
    bytesAt frame off n = Vector.replicate n 0 ↔ slice frame off (off + n) = List.replicate n 0 := by
  rw [← toList_bytesAt frame off n inside, ← Vector.toList_replicate, Vector.toList_inj]

theorem ports_endpointRoute (cfg : GutConfig) (frame : Buf) (pos : UdpPos) (ver : IpVersion) (port : UInt16) :
    (endpointRoute cfg (sourceEndpoint frame pos) ver).source.getD port =
        (if be16At frame (pos.udpOff + 2) = 0 then port else be16At frame (pos.udpOff + 2)) ∧
      (endpointRoute cfg (sourceEndpoint frame pos) ver).dest.getD port = be16At frame pos.udpOff := by
  unfold sourceEndpoint
  cases pos.ver <;> cases ver <;> dsimp only [endpointRoute] <;> split_ifs with some none <;> first
    | exact ⟨rfl, rfl⟩
    | exact absurd none some

theorem addresses_endpointRoute_within (cfg : GutConfig) (whole : pos.payloadOff ≤ frame.length) :
    (endpointRoute cfg (sourceEndpoint frame pos) pos.ver).saddr =
        (if pos.daddr frame = zeroAddress pos.ver then cfg.bound pos.ver else pos.daddr frame) ∧
      (endpointRoute cfg (sourceEndpoint frame pos) pos.ver).daddr = pos.saddr frame := by
  obtain ⟨ver, ipOff⟩ := pos
  cases ver with
  | v4 =>
      have inside : ipOff + 20 + 8 ≤ frame.length := whole
      have zero := bytesAt_eq_zero frame (ipOff + 16) 4 (by omega)
      have server := toList_bytesAt frame (ipOff + 16) 4 (by omega)
      refine ⟨?_, toList_bytesAt frame (ipOff + 12) 4 (by omega)⟩
      simp only [endpointRoute, sourceEndpoint, ne_eq, zero, ite_not, server]
      rfl
  | v6 =>
      have inside : ipOff + 40 + 8 ≤ frame.length := whole
      have zero := bytesAt_eq_zero frame (ipOff + 24) 16 (by omega)
      have server := toList_bytesAt frame (ipOff + 24) 16 (by omega)
      refine ⟨?_, toList_bytesAt frame (ipOff + 8) 16 (by omega)⟩
      simp only [endpointRoute, sourceEndpoint, ne_eq, zero, ite_not, server]
      rfl

theorem addresses_endpointRoute_across (cfg : GutConfig) (frame : Buf) (other : pos.ver ≠ ver) :
    (endpointRoute cfg (sourceEndpoint frame pos) ver).saddr = cfg.bound ver ∧
      (endpointRoute cfg (sourceEndpoint frame pos) ver).daddr = zeroAddress ver := by
  obtain ⟨family, ipOff⟩ := pos
  cases family <;> cases ver <;> first
    | exact absurd rfl other
    | simp [endpointRoute, sourceEndpoint, GutConfig.bound, zeroAddress, IpVersion.addrLen]

theorem answersTo_of_addressed (parsed : parseUdp frame = some pos)
    (addressed : Addressed ver (endpointRoute cfg (sourceEndpoint frame pos) ver).saddr
      (endpointRoute cfg (sourceEndpoint frame pos) ver).daddr
      ((endpointRoute cfg (sourceEndpoint frame pos) ver).source.getD port)
      ((endpointRoute cfg (sourceEndpoint frame pos) ver).dest.getD port) skb) :
    AnswersTo cfg ver frame pos port skb := by
  obtain ⟨source, dest⟩ := ports_endpointRoute cfg frame pos ver port
  rw [source, dest] at addressed
  refine ⟨fun same => ?_, fun other => ?_⟩
  · subst same
    obtain ⟨saddr, daddr⟩ := addresses_endpointRoute_within cfg (parseUdp_some parsed).1
    rwa [saddr, daddr] at addressed
  · obtain ⟨saddr, daddr⟩ := addresses_endpointRoute_across cfg frame other
    rwa [saddr, daddr] at addressed

end Route

theorem plan_port_plain {p : Prepared} (plain : mode = .gut ∨ mode = .quic) (planned : plan mode cfg k p tc = .ok pl) :
    pl.port = p.port := by
  rcases plain with rfl | rfl
  · cases planned
    rfl
  · cases planned
    split_ifs <;> rfl

theorem redirected_to_lastHeard {ver : IpVersion} (plain : mode = .gut ∨ mode = .quic) (dynamic : cfg.dynamicPeer ≠ 0)
    (passages : List Passage) (headers : PlainHeaders ver tc.skb) (link : tc.macLen = 14)
    (done : gutEgress mode cfg k ((PeerMaps.run mode cfg passages).onTc tc) = (.redirect ifindex, tc')) :
    ∃ pkt x pos port, parseEgress tc.skb = some pkt ∧ pkt.wgType ≠ 1 ∧ wgIndex pkt ≠ 0 ∧
      Passage.ingress x ∈ passages ∧ HeardFrom mode cfg x.frame pos ∧
      sourceOf (notesOf mode cfg passages) (wgIndex pkt) = some (sourceEndpoint x.frame pos) ∧
      tunnelPort mode cfg (nextSeq tc) = some port ∧ AnswersTo cfg ver x.frame pos port tc'.skb := by
  obtain ⟨pkt, port, pl, route, found, sends, sent⟩ := gutEgress_redirect done
  have plainHeaders : PlainHeaders ver ((PeerMaps.run mode cfg passages).onTc tc).skb := headers
  have addressed := addressed_sent plainHeaders link found sends
  have routed := sends.routed
  simp only [PeerMaps.onTc] at routed
  rw [routeOf_run plain dynamic, headers.ver_eq found] at routed
  split_ifs at routed with zero
  obtain ⟨ep, known, rfl⟩ := Option.map_eq_some_iff.mp routed
  obtain ⟨x, pos, member, heardFrom, rfl⟩ := heardFrom_of_sourceOf known
  have same : pl.port = port := plan_port_plain plain sends.planned
  rw [← sent, same] at addressed
  exact ⟨pkt, x, pos, port, found, sends.responder dynamic, zero, member, heardFrom, known, sends.selected,
    answersTo_of_addressed heardFrom.1 addressed⟩

def helloFrame : Buf :=
  List.replicate 12 0 ++ [0x08, 0x00] ++ [0x45, 0, 0, 196, 0, 0, 0, 0, 64, 17, 0, 0, 10, 0, 0, 2, 10, 0, 0, 1] ++
    [0xCA, 0x6C, 0xA0, 0x28, 0, 176, 0, 0] ++ [71, 98, 206, 92, 186, 59, 65, 144, 0, 73] ++
    [177, 121, 233, 240, 105, 6, 138, 86, 42, 28, 92, 156, 114, 108, 177, 149] ++ List.replicate 116 0 ++
    [201, 26, 136, 229, 163, 23, 252, 187, 41, 196, 156, 93, 13, 212, 42, 247] ++ [69, 69, 219, 104, 89, 51, 30, 182, 112, 178]

def helloSource : PeerEndpoint :=
  { ip4 := bytesAt [10, 0, 0, 2] 0 4, ip6 := Vector.replicate 16 0, port := 51820, serverIp4 := bytesAt [10, 0, 0, 1] 0 4
    serverIp6 := Vector.replicate 16 0, serverPort := 41000, valid := true }

theorem helloFrame_heard : heard .gut dynamicConfig helloFrame = some (.hello 42 helloSource) := by
  decide +kernel

theorem sourceOf_helloFrame : sourceOf (notesOf .gut dynamicConfig [.ingress (delivered helloFrame)]) 42 = some helloSource := by
  have notes : notesOf .gut dynamicConfig [.ingress (delivered helloFrame)] = [.hello 42 helloSource] := by
    simp [notesOf, Passage.note, delivered, helloFrame_heard]
  rw [notes]
  rfl

theorem keepalive_ready :
    ∃ pkt pl, parseEgress (sampleTc 0).skb = some pkt ∧ wgIndex pkt = 42 ∧ pkt.ver = .v4 ∧
      Ready .gut dynamicConfig sampleKernel (sampleTc 0) pkt 41000 pl := by
  have found := parseEgress_ok (sampleTc_input 0) (keepalive_message 0)
  have whole : payloadOff .v4 ≤ (sampleTc 0).skb.length := by decide
  refine ⟨_, gutPlan _, found, by decide, rfl,
    ⟨by decide +kernel, by simp, by decide +kernel, fun _ => rfl, fun _ => by decide⟩, rfl, rfl, ⟨rfl, rfl, ?_, ?_⟩⟩ <;>
    rw [length_preparedTc]
  · exact Nat.le_trans whole (Nat.le_add_right _ _)
  · exact Nat.add_le_add_right (Nat.le_trans whole (Nat.le_add_right _ _)) 10

theorem keepalive_plain : PlainHeaders .v4 (sampleTc 0).skb :=
  ⟨by decide +kernel, by decide +kernel, fun _ => by decide +kernel, by decide +kernel⟩

theorem redirected_to_lastHeard_keepalive :
    ∃ (x : Xdp) (pos : UdpPos) (port : UInt16) (tc' : Tc), HeardFrom .gut dynamicConfig x.frame pos ∧
      sourceOf (notesOf .gut dynamicConfig [.ingress (delivered helloFrame)]) 42 = some (sourceEndpoint x.frame pos) ∧
      gutEgress .gut dynamicConfig sampleKernel
        ((PeerMaps.run .gut dynamicConfig [.ingress (delivered helloFrame)]).onTc (sampleTc 0)) = (.redirect 0, tc') ∧
      AnswersTo dynamicConfig .v4 x.frame pos port tc'.skb := by
  obtain ⟨pkt, pl, found, index, ver, ready⟩ := keepalive_ready
  have routed : routeOf dynamicConfig (PeerMaps.run .gut dynamicConfig [.ingress (delivered helloFrame)]).clientMap (wgIndex pkt)
      pkt.ver = some (endpointRoute dynamicConfig helloSource pkt.ver) := by
    rw [routeOf_run (.inl rfl) (by decide), index, sourceOf_helloFrame]
    rfl
  obtain ⟨tc', done, -⟩ := gutEgress_sent (by exact found) (ready.sends (.inl rfl) routed)
  obtain ⟨pkt', x, pos, port, found', -, -, -, heardFrom, known, -, answers⟩ :=
    redirected_to_lastHeard (.inl rfl) (by decide) _ keepalive_plain rfl done
  cases found.symm.trans found'
  rw [index] at known
  exact ⟨x, pos, port, tc', heardFrom, known, done, answers⟩

theorem text_never_redirected (text : mode = .syslog ∨ mode = .sip) (dynamic : cfg.dynamicPeer ≠ 0) (passages : List Passage)
    (k : Kernel) (tc : Tc) (ifindex : UInt32) :
    (gutEgress mode cfg k ((PeerMaps.run mode cfg passages).onTc tc)).1 ≠ .redirect ifindex := by
  have nothing : (PeerMaps.run mode cfg passages).clientMap = fun _ => none := by
    induction passages using List.reverseRecOn with
    | nil => rfl
    | append_singleton passages passage ih =>
        rw [PeerMaps.run, List.foldl_append]
        cases passage with
        | ingress x => exact (clientMap_gutXdpCore_text text).trans ih
        | egress k tc => exact (clientMap_gutEgress mode cfg k _).trans ih
  intro redirected
  obtain ⟨pkt, port, pl, route, -, sends, -⟩ := gutEgress_redirect (Prod.ext redirected rfl)
  have routed := sends.routed
  simp [PeerMaps.onTc, nothing, routeOf, dynamic] at routed

theorem text_never_redirected_keepalive :
    (gutEgress .syslog dynamicConfig sampleKernel
      ((PeerMaps.run .syslog dynamicConfig [.ingress (delivered helloFrame)]).onTc (sampleTc 0))).1 ≠ .redirect 0 :=
  text_never_redirected (.inl rfl) (by decide) _ _ _ _

end Destination

end Gutd.Bpf
