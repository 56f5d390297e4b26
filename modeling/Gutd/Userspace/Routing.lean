import Gutd.Userspace.TextSend
import Gutd.Userspace.Threads

set_option autoImplicit false

namespace Gutd.Userspace

open Bytes Checked Wire Net

def latestMode (log : List Event) (address : SocketAddr) : Option ObfsMode :=
  log.findSome? fun event =>
    match event with
    | .authenticated arrival obfs => if arrival.src = address then some obfs else none
    | _ => none

def latestSession (log : List Event) (index : UInt32) : Option UInt32 :=
  log.findSome? fun event =>
    match event with
    | .bound sIdx cIdx => if sIdx = index then some cIdx else none
    | _ => none

-- the payload of a datagram binds the client index `c`: it starts a handshake of that client, or it is transport data
-- of a session that the most recent handshake response gave to that client
def Binds (c : UInt32) (payload : Buf) (seen : List Event) : Prop :=
  8 ≤ payload.length ∧
    (typeOf payload = 1 ∧ le32At payload 4 = c ∧ c ≠ 0 ∨
      typeOf payload = 4 ∧ latestSession seen (le32At payload 4) = some c)

instance (c : UInt32) (payload : Buf) (seen : List Event) : Decidable (Binds c payload seen) := by
  unfold Binds
  infer_instance

def latestClient (log : List Event) (c : UInt32) : Option SocketAddr :=
  log.findSome? fun event =>
    match event with
    | .learned arrival payload seen => if Binds c payload seen then some arrival.src else none
    | _ => none

def Detected (rt : Runtime) (arrival : Arrival) (obfs : ObfsMode) : Prop :=
  ∃ slot size outBuf, arrival.classify rt = .ok (.authentic slot size obfs, outBuf)

def Opens (rt : Runtime) (arrival : Arrival) (payload : Buf) : Prop :=
  ∃ slot size obfs outBuf plain n sport dport,
    arrival.classify rt = .ok (.authentic slot size obfs, outBuf) ∧
      obfsDecap rt.order slot size rt.keyInit Runtime.rounds obfs = .ok (plain, some (n, sport, dport)) ∧
      payload = plain.take n

theorem boundIndex_iff {sessionMap : UInt32 → Option UInt32} {payload : Buf} {seen : List Event} {c : UInt32}
    (sessions : ∀ s, sessionMap s = latestSession seen s) :
    boundIndex sessionMap payload = some c ↔ Binds c payload seen := by
  unfold boundIndex Binds typeOf
  rw [sessions]
  split_ifs with short init named transport
  · simp [Nat.not_le.mpr short]
  · simp only [Option.some.injEq]
    constructor
    · rintro rfl
      exact ⟨by omega, .inl ⟨init, rfl, named⟩⟩
    · rintro ⟨-, ⟨-, same, -⟩ | ⟨type, -⟩⟩
      · exact same
      · rw [init] at type
        exact absurd type (by decide)
  · refine iff_of_false nofun ?_
    rintro ⟨-, ⟨-, same, nonzero⟩ | ⟨type, -⟩⟩
    · exact nonzero (same.symm.trans (not_not.mp named))
    · rw [init] at type
      exact absurd type (by decide)
  · simp [transport, Nat.not_lt.mp short]
  · simp [init, transport]

def Recorded (log : List Event) (arrival : Arrival) : Prop := ∃ obfs, .authenticated arrival obfs ∈ log

def Receives (packet : Packet) (c : UInt32) : Prop :=
  dynamicRoute packet.buf packet.size = .ok (.client c) ∨
    ∃ s, dynamicRoute packet.buf packet.size = .ok (.session s c)

inductive Explained (rt : Runtime) (packet : Packet) (seen seenMode : List Event) : Outcome → Prop where
  | unreadable (panic : Panic) (route : dynamicRoute packet.buf packet.size = .error panic) :
      Explained rt packet seen seenMode .crashed
  | unroutable (route : dynamicRoute packet.buf packet.size = .ok .drop) : Explained rt packet seen seenMode .dropped
  | unknown (c : UInt32) (receives : Receives packet c) (missing : latestClient seen c = none) :
      Explained rt packet seen seenMode .dropped
  | routed (c : UInt32) (dest : SocketAddr) (receives : Receives packet c) (known : latestClient seen c = some dest) :
      Explained rt packet seen seenMode (outcomeOf (transmit rt packet dest ((latestMode seenMode dest).getD rt.obfs)))

def EventOk (rt : Runtime) (earlier : List Event) : Event → Prop
  | .authenticated arrival obfs => Detected rt arrival obfs
  | .learned arrival payload seen => Opens rt arrival payload ∧ Recorded earlier arrival ∧ seen <:+ earlier
  | .bound _ _ => True
  | .handled packet seen seenMode outcome =>
      seen <:+ seenMode ∧ seenMode <:+ earlier ∧ Explained rt packet seen seenMode outcome

inductive LogOk (rt : Runtime) : List Event → Prop where
  | nil : LogOk rt []
  | cons (event : Event) (earlier : List Event) (explained : EventOk rt earlier event) (before : LogOk rt earlier) :
      LogOk rt (event :: earlier)

def IngressOk (rt : Runtime) (log : List Event) : IngressStage → Prop
  | .authentic arrival slot size obfs => ∃ outBuf, arrival.classify rt = .ok (.authentic slot size obfs, outBuf)
  | .recorded arrival slot size obfs =>
      (∃ outBuf, arrival.classify rt = .ok (.authentic slot size obfs, outBuf)) ∧ Recorded log arrival
  | .opened arrival payload => Opens rt arrival payload ∧ Recorded log arrival
  | .resolved arrival payload cIdx seen =>
      Opens rt arrival payload ∧ Recorded log arrival ∧ seen <:+ log ∧ ∀ c, cIdx = some c ↔ Binds c payload seen
  | .idle | .panicked => True

def EgressOk (rt : Runtime) (log : List Event) : EgressStage → Prop
  | .routing packet route =>
      dynamicRoute packet.buf packet.size = .ok route ∨ ∃ c, route = .client c ∧ Receives packet c
  | .found packet dest seen => seen <:+ log ∧ ∃ c, Receives packet c ∧ latestClient seen c = some dest
  | .chosen packet dest obfs seen seenMode =>
      seen <:+ seenMode ∧ seenMode <:+ log ∧ obfs = (latestMode seenMode dest).getD rt.obfs ∧
        ∃ c, Receives packet c ∧ latestClient seen c = some dest
  | .idle | .panicked => True

structure Consistent (rt : Runtime) (world : World) : Prop where
  clients : ∀ c, world.shared.clientMap c = latestClient world.log c
  sessions : ∀ s, world.shared.sessionMap s = latestSession world.log s
  modes : ∀ address, world.shared.clientObfs address = latestMode world.log address
  log : LogOk rt world.log
  ingress : ∀ i, IngressOk rt world.log (world.ingress i)
  egress : EgressOk rt world.log world.egress

section Steps

variable {rt : Runtime} {world : World}

theorem Recorded.cons {log : List Event} {arrival : Arrival} (event : Event) (recorded : Recorded log arrival) :
    Recorded (event :: log) arrival := by
  obtain ⟨obfs, inside⟩ := recorded
  exact ⟨obfs, List.mem_cons_of_mem _ inside⟩

theorem suffix_cons_of_suffix {seen log : List Event} (event : Event) (suffix : seen <:+ log) : seen <:+ event :: log :=
  suffix.trans (List.suffix_cons event log)

theorem IngressOk.cons {log : List Event} {stage : IngressStage} (event : Event) (ok : IngressOk rt log stage) :
    IngressOk rt (event :: log) stage := by
  cases stage with
  | idle | panicked => trivial
  | authentic arrival slot size obfs => exact ok
  | recorded arrival slot size obfs => exact ⟨ok.1, ok.2.cons event⟩
  | opened arrival payload => exact ⟨ok.1, ok.2.cons event⟩
  | resolved arrival payload cIdx seen =>
      exact ⟨ok.1, ok.2.1.cons event, suffix_cons_of_suffix event ok.2.2.1, ok.2.2.2⟩

theorem EgressOk.cons {log : List Event} {stage : EgressStage} (event : Event) (ok : EgressOk rt log stage) :
    EgressOk rt (event :: log) stage := by
  cases stage with
  | idle | panicked => trivial
  | routing packet route => exact ok
  | found packet dest seen => exact ⟨suffix_cons_of_suffix event ok.1, ok.2⟩
  | chosen packet dest obfs seen seenMode => exact ⟨ok.1, suffix_cons_of_suffix event ok.2.1, ok.2.2⟩

namespace Consistent

theorem setIngress (ok : Consistent rt world) (i : Nat) (stage : IngressStage) (fits : IngressOk rt world.log stage) :
    Consistent rt (world.setIngress i stage) := by
  refine ⟨ok.clients, ok.sessions, ok.modes, ok.log, ?_, ok.egress⟩
  intro j
  by_cases same : j = i
  · simpa [World.setIngress, same] using fits
  · simpa [World.setIngress, same] using ok.ingress j

theorem setEgress (ok : Consistent rt world) (stage : EgressStage) (fits : EgressOk rt world.log stage) :
    Consistent rt (world.setEgress stage) :=
  ⟨ok.clients, ok.sessions, ok.modes, ok.log, ok.ingress, fits⟩

theorem send (ok : Consistent rt world) (sent : List Sent) : Consistent rt (world.send sent) :=
  ⟨ok.clients, ok.sessions, ok.modes, ok.log, ok.ingress, ok.egress⟩

theorem record (ok : Consistent rt world) (shared : Shared) (event : Event) (explained : EventOk rt world.log event)
    (clients : ∀ c, shared.clientMap c = latestClient (event :: world.log) c)
    (sessions : ∀ s, shared.sessionMap s = latestSession (event :: world.log) s)
    (modes : ∀ address, shared.clientObfs address = latestMode (event :: world.log) address) :
    Consistent rt ((world.setShared shared).record event) :=
  ⟨clients, sessions, modes, .cons event world.log explained ok.log, fun i => (ok.ingress i).cons event,
    ok.egress.cons event⟩

theorem handled (ok : Consistent rt world) (packet : Packet) (seen seenMode : List Event) (outcome : Outcome)
    (explained : EventOk rt world.log (.handled packet seen seenMode outcome)) :
    Consistent rt (world.record (.handled packet seen seenMode outcome)) :=
  ok.record world.shared _ explained ok.clients ok.sessions ok.modes

theorem recordMode (ok : Consistent rt world) (server : rt.isServer = true) (arrival : Arrival) (obfs : ObfsMode)
    (detected : Detected rt arrival obfs) :
    Consistent rt ((world.setShared (recordObfs rt obfs arrival.src world.shared)).record
      (.authenticated arrival obfs)) := by
  have recorded : recordObfs rt obfs arrival.src world.shared =
      { world.shared with clientObfs := insert world.shared.clientObfs arrival.src obfs } := by
    rw [recordObfs, if_pos server]
  rw [recorded]
  refine ok.record _ _ detected ok.clients ok.sessions ?_
  intro address
  simp only [insert, latestMode, List.findSome?_cons, @eq_comm _ arrival.src]
  split_ifs with same
  · rfl
  · exact ok.modes address

theorem bindClient (ok : Consistent rt world) (arrival : Arrival) (payload : Buf) (cIdx : Option UInt32)
    (seen : List Event) (opens : Opens rt arrival payload) (recorded : Recorded world.log arrival)
    (suffix : seen <:+ world.log) (binds : ∀ c, cIdx = some c ↔ Binds c payload seen) :
    Consistent rt ((world.setShared (bindClient world.shared cIdx arrival.src)).record
      (.learned arrival payload seen)) := by
  have clients : ∀ c, (Userspace.bindClient world.shared cIdx arrival.src).clientMap c =
      latestClient (.learned arrival payload seen :: world.log) c := by
    intro c
    simp only [latestClient, List.findSome?_cons, ← binds c]
    cases cIdx with
    | none => exact ok.clients c
    | some bound =>
        simp only [Userspace.bindClient, insert, Option.some.injEq, @eq_comm _ bound]
        split_ifs with same
        · rfl
        · exact ok.clients c
  cases cIdx with
  | none => exact ok.record _ _ ⟨opens, recorded, suffix⟩ clients ok.sessions ok.modes
  | some bound => exact ok.record _ _ ⟨opens, recorded, suffix⟩ clients ok.sessions ok.modes

theorem bindSession (ok : Consistent rt world) (sIdx cIdx : UInt32) :
    Consistent rt ((world.setShared
      { world.shared with sessionMap := insert world.shared.sessionMap sIdx cIdx }).record (.bound sIdx cIdx)) := by
  refine ok.record _ _ trivial ok.clients ?_ ok.modes
  intro s
  simp only [insert, latestSession, List.findSome?_cons, @eq_comm _ sIdx]
  split_ifs with same
  · rfl
  · exact ok.sessions s

theorem encapObfs (ok : Consistent rt world) (server : rt.isServer = true) (dest : SocketAddr) :
    encapObfs rt world.shared dest = (latestMode world.log dest).getD rt.obfs := by
  rw [Userspace.encapObfs, if_pos server, ok.modes]

end Consistent

theorem Consistent.receive (ok : Consistent rt world) (i : Nat) (arrival : Arrival) :
    Consistent rt (receive rt world i arrival) := by
  unfold Userspace.receive
  split
  · exact ok.setIngress i _ trivial
  · exact ok
  · exact ok.send _
  · next slot size obfs outBuf classified => exact ok.setIngress i _ ⟨outBuf, classified⟩

theorem Consistent.openDatagram (ok : Consistent rt world) (i : Nat) (arrival : Arrival) (slot : Buf) (size : Nat)
    (obfs : ObfsMode) (classified : ∃ outBuf, arrival.classify rt = .ok (.authentic slot size obfs, outBuf))
    (recorded : Recorded world.log arrival) : Consistent rt (openDatagram rt world i arrival slot size obfs) := by
  obtain ⟨outBuf, classified⟩ := classified
  unfold Userspace.openDatagram
  split
  · exact ok.setIngress i _ trivial
  · exact ok.setIngress i _ trivial
  · next plain n sport dport decapped =>
      have stored : Consistent rt (world.setShared { world.shared with peerExt := some arrival.src }) :=
        ⟨ok.clients, ok.sessions, ok.modes, ok.log, ok.ingress, ok.egress⟩
      exact stored.setIngress i _ ⟨⟨slot, size, obfs, outBuf, plain, n, sport, dport, classified, decapped, rfl⟩, recorded⟩

theorem Consistent.accept (ok : Consistent rt world) (server : rt.isServer = true) (packet : Packet) :
    Consistent rt (accept rt world packet) := by
  unfold Userspace.accept
  split
  · next panic route =>
      refine (ok.handled packet _ _ _ ⟨List.suffix_rfl, List.suffix_rfl, ?_⟩).setEgress _ trivial
      exact .unreadable panic route
  · next route found =>
      have untracked : trackWgPeer rt packet.src world.shared = world.shared := by simp [trackWgPeer, server]
      rw [untracked]
      exact ok.setEgress _ (.inl found)

theorem Consistent.find (ok : Consistent rt world) (packet : Packet) (c : UInt32) (receives : Receives packet c) :
    Consistent rt (find world packet c) := by
  unfold Userspace.find
  split
  · next missing =>
      rw [ok.clients] at missing
      refine (ok.handled packet _ _ _ ⟨List.suffix_rfl, List.suffix_rfl, ?_⟩).setEgress _ trivial
      exact .unknown c receives missing
  · next dest known =>
      rw [ok.clients] at known
      exact ok.setEgress _ ⟨List.suffix_rfl, c, receives, known⟩

theorem Consistent.finish (ok : Consistent rt world) (packet : Packet) (dest : SocketAddr) (obfs : ObfsMode)
    (seen seenMode : List Event) (chosen : EgressOk rt world.log (.chosen packet dest obfs seen seenMode)) :
    Consistent rt (finish rt world packet dest obfs seen seenMode) := by
  obtain ⟨earlier, before, rfl, c, receives, known⟩ := chosen
  refine (ok.handled packet _ _ _ ⟨earlier, before, .routed c dest receives known⟩).setEgress _ ?_
  split <;> trivial

theorem receives_of_routing {packet : Packet} {c : UInt32} {log : List Event}
    (ok : EgressOk rt log (.routing packet (.client c))) : Receives packet c := by
  rcases ok with route | ⟨c', same, receives⟩
  · exact .inl route
  · cases same
    exact receives

theorem Consistent.next {world' : World} (server : rt.isServer = true) (dynamic : rt.dynamicPeer = true)
    (ok : Consistent rt world) (step : Step rt world world') : Consistent rt world' := by
  cases step with
  | receive i arrival idle => exact ok.receive i arrival
  | recordMode i arrival slot size obfs here =>
      have stage := ok.ingress i
      rw [here] at stage
      obtain ⟨outBuf, classified⟩ := stage
      refine (ok.recordMode server arrival obfs ⟨slot, size, outBuf, classified⟩).setIngress i _ ?_
      exact ⟨⟨outBuf, classified⟩, obfs, List.mem_cons_self⟩
  | openDatagram i arrival slot size obfs here =>
      have stage := ok.ingress i
      rw [here] at stage
      exact ok.openDatagram i arrival slot size obfs stage.1 stage.2
  | readSession i arrival payload here =>
      have stage := ok.ingress i
      rw [here] at stage
      refine ok.setIngress i _ ⟨stage.1, stage.2, List.suffix_rfl, ?_⟩
      intro c
      rw [resolve, if_pos dynamic]
      exact boundIndex_iff ok.sessions
  | bindClient i arrival payload cIdx seen here =>
      have stage := ok.ingress i
      rw [here] at stage
      obtain ⟨opens, recorded, suffix, binds⟩ := stage
      exact ((ok.bindClient arrival payload cIdx seen opens recorded suffix binds).setIngress i .idle trivial).send _
  | accept packet idle => exact ok.accept server packet
  | dropPacket packet here =>
      have stage := ok.egress
      rw [here] at stage
      refine (ok.handled packet _ _ _ ⟨List.suffix_rfl, List.suffix_rfl, ?_⟩).setEgress _ trivial
      rcases stage with route | ⟨c, same, -⟩
      · exact .unroutable route
      · cases same
  | bindSession packet sIdx cIdx here =>
      have stage := ok.egress
      rw [here] at stage
      refine (ok.bindSession sIdx cIdx).setEgress _ (.inr ⟨cIdx, rfl, .inr ⟨sIdx, ?_⟩⟩)
      rcases stage with route | ⟨c, same, -⟩
      · exact route
      · cases same
  | find packet cIdx here =>
      have stage := ok.egress
      rw [here] at stage
      exact ok.find packet cIdx (receives_of_routing stage)
  | chooseMode packet dest seen here =>
      have stage := ok.egress
      rw [here] at stage
      exact ok.setEgress _ ⟨stage.1, List.suffix_rfl, ok.encapObfs server dest, stage.2⟩
  | finish packet dest obfs seen seenMode here =>
      have stage := ok.egress
      rw [here] at stage
      exact ok.finish packet dest obfs seen seenMode stage

end Steps

theorem LogOk.split {rt : Runtime} {later earlier : List Event} {event : Event}
    (ok : LogOk rt (later ++ event :: earlier)) : EventOk rt earlier event ∧ LogOk rt earlier := by
  induction later with
  | nil =>
      cases ok with
      | cons _ _ explained before => exact ⟨explained, before⟩
  | cons first later ih =>
      cases ok with
      | cons _ _ explained before => exact ih before

theorem LogOk.suffix {rt : Runtime} {log seen : List Event} (ok : LogOk rt log) (suffix : seen <:+ log) :
    LogOk rt seen := by
  obtain ⟨later, rfl⟩ := suffix
  induction later with
  | nil => exact ok
  | cons first later ih =>
      cases ok with
      | cons _ _ explained before => exact ih before

theorem LogOk.learned {rt : Runtime} {log : List Event} {arrival : Arrival} {payload : Buf} {seen : List Event}
    (ok : LogOk rt log) (inside : .learned arrival payload seen ∈ log) : Opens rt arrival payload ∧ Recorded log arrival := by
  obtain ⟨later, earlier, rfl⟩ := List.append_of_mem inside
  obtain ⟨⟨opens, ⟨obfs, recorded⟩, -⟩, -⟩ := ok.split
  exact ⟨opens, obfs, by simp [recorded]⟩

def Fits (rt : Runtime) (packet : Packet) (obfs : ObfsMode) : Prop :=
  encapLen rt packet obfs ≤ packet.buf.length ∧
    (obfs = .syslog → 36 + rt.sipDomain.length + 4 * ((encapLen rt packet obfs + 2) / 3) ≤ outBufLen)

theorem frame_dest {rt : Runtime} {p : Buf} {dcid : UInt32} {origType : UInt8} {origSize : Nat} {src dest : SocketAddr}
    {obfs : ObfsMode} {clock : Clock} {out : Outgoing} (mode : obfs ≠ .sip)
    (framed : frame rt p dcid origType origSize src dest obfs clock = .ok out) : out.dest = dest := by
  cases obfs with
  | quic | gut =>
      cases framed
      rfl
  | sip => exact absurd rfl mode
  | syslog =>
      obtain ⟨header, -, framed⟩ := bind_eq_ok.mp framed
      obtain ⟨text, -, framed⟩ := bind_eq_ok.mp framed
      cases framed
      rfl

theorem transmit_dest {rt : Runtime} {packet : Packet} {dest : SocketAddr} {obfs : ObfsMode} {out : Outgoing}
    (mode : obfs ≠ .sip) (sent : transmit rt packet dest obfs = .ok (some out)) : out.dest = dest := by
  obtain ⟨origType, -, sent⟩ := bind_eq_ok.mp sent
  obtain ⟨⟨buf, encapped⟩, -, sent⟩ := bind_eq_ok.mp sent
  cases encapped with
  | none => cases sent
  | some result =>
      obtain ⟨p, -, sent⟩ := bind_eq_ok.mp sent
      obtain ⟨out', framed, sent⟩ := bind_eq_ok.mp sent
      split_ifs at sent
      · cases sent
        exact frame_dest mode framed

theorem syslogFrame_iff (rt : Runtime) (p : Buf) (dest : SocketAddr) (clock : Clock) :
    (∃ out, syslogFrame rt p dest clock = .ok out) ↔ 36 + rt.sipDomain.length + 4 * ((p.length + 2) / 3) ≤ outBufLen := by
  have size := Base64.length_encode p
  constructor
  · rintro ⟨out, done⟩
    obtain ⟨header, written, done⟩ := bind_eq_ok.mp done
    obtain ⟨text, encoded, -⟩ := bind_eq_ok.mp done
    have fits : 36 + rt.sipDomain.length ≤ outBufLen := by
      by_contra large
      rw [Syslog.writeHeader, Syslog.syslogHdrBase, if_neg large] at written
      cases written
    obtain ⟨header', again, length⟩ := Syslog.writeHeader_ok clock.secs fits
    cases written.symm.trans again
    by_contra large
    rw [Base64.encodeInto, if_neg (by omega)] at encoded
    cases encoded
  · intro fits
    obtain ⟨header, written, length⟩ := @Syslog.writeHeader_ok outBufLen rt.sipDomain clock.secs (by omega)
    have encoded : Base64.encodeInto p (outBufLen - header.length) = .ok (Base64.encode p) := if_pos (by omega)
    rw [syslogFrame, written, bind_ok, encoded, bind_ok]
    exact ⟨_, rfl⟩

theorem frame_iff (rt : Runtime) (p : Buf) (dcid : UInt32) (origType : UInt8) (origSize : Nat) (src dest : SocketAddr)
    {obfs : ObfsMode} (clock : Clock) (mode : obfs ≠ .sip) :
    (∃ out, frame rt p dcid origType origSize src dest obfs clock = .ok out) ↔
      (obfs = .syslog → 36 + rt.sipDomain.length + 4 * ((p.length + 2) / 3) ≤ outBufLen) := by
  cases obfs with
  | quic | gut => exact ⟨fun _ => by simp, fun _ => ⟨_, rfl⟩⟩
  | sip => exact absurd rfl mode
  | syslog => exact (syslogFrame_iff rt p dest clock).trans (by simp)

theorem frame_socket {rt : Runtime} {p : Buf} {dcid : UInt32} {origType : UInt8} {origSize : Nat} {src dest : SocketAddr}
    {obfs : ObfsMode} {clock : Clock} {out : Outgoing} (mode : obfs ≠ .sip)
    (framed : frame rt p dcid origType origSize src dest obfs clock = .ok out) : out.sockIdx = 0 := by
  cases obfs with
  | quic | gut =>
      cases framed
      rfl
  | sip => exact absurd rfl mode
  | syslog =>
      obtain ⟨header, -, framed⟩ := bind_eq_ok.mp framed
      obtain ⟨text, -, framed⟩ := bind_eq_ok.mp framed
      cases framed
      rfl

theorem transmit_fits_iff {rt : Runtime} {packet : Packet} (dest : SocketAddr) {obfs : ObfsMode} (sockets : rt.ports ≠ [])
    (mode : obfs ≠ .sip) (enough : 16 ≤ packet.size) :
    (∃ out, transmit rt packet dest obfs = .ok (some out)) ↔ Fits rt packet obfs := by
  by_cases room : encapLen rt packet obfs ≤ packet.buf.length
  · obtain ⟨buf, dcid, encapped, length⟩ := obfsEncap_fits enough room
    have first : 0 < packet.buf.length := by
      unfold encapLen at room
      dsimp only at room
      omega
    have size : (slice buf 0 (encapLen rt packet obfs)).length = encapLen rt packet obfs := by
      rw [length_slice]
      omega
    have framed := frame_iff rt (slice buf 0 (encapLen rt packet obfs)) dcid (byteAt packet.buf 0) packet.size packet.src dest
      packet.clock mode
    rw [size] at framed
    have whole : (∃ out, transmit rt packet dest obfs = .ok (some out)) ↔
        ∃ out, frame rt (slice buf 0 (encapLen rt packet obfs)) dcid (byteAt packet.buf 0) packet.size packet.src dest obfs
          packet.clock = .ok out := by
      unfold transmit
      rw [getByte_ok first, bind_ok, encapped, bind_ok]
      dsimp only
      rw [subslice_ok (by omega) (by omega), bind_ok]
      refine exists_congr fun out => ⟨fun sent => ?_, fun done => ?_⟩
      · obtain ⟨out', done, sent⟩ := bind_eq_ok.mp sent
        split_ifs at sent
        cases sent
        exact done
      · rw [done, bind_ok, frame_socket mode done, if_pos (List.length_pos_iff.mpr sockets), pure_eq_ok]
    rw [whole, framed, Fits, and_iff_right room]
  · refine ⟨?_, fun fits => absurd fits.1 room⟩
    rintro ⟨out, sent⟩
    obtain ⟨origType, -, sent⟩ := bind_eq_ok.mp sent
    obtain ⟨⟨buf, found⟩, encapped, -⟩ := bind_eq_ok.mp sent
    obtain ⟨result, rfl⟩ := obfsEncap_some enough encapped
    exact absurd (obfsEncap_room rt.channel rfl rfl encapped).2 room

theorem Receives.unique {packet : Packet} {c c' : UInt32} (first : Receives packet c) (second : Receives packet c') :
    c = c' := by
  rcases first with first | ⟨s, first⟩ <;> rcases second with second | ⟨s', second⟩ <;> rw [first] at second <;> cases second <;>
    rfl

section Explained

variable {rt : Runtime} {packet : Packet} {seen seenMode : List Event} {outcome : Outcome}

theorem outcomeOf_sent {result : Result (Option Outgoing)} {out : Outgoing} (sent : outcomeOf result = .sent out) :
    result = .ok (some out) := by
  cases result with
  | error panic => cases sent
  | ok answer =>
      cases answer with
      | none => cases sent
      | some out' =>
          cases sent
          rfl

theorem Explained.sent {out : Outgoing} (explained : Explained rt packet seen seenMode (.sent out)) :
    ∃ c dest, latestClient seen c = some dest ∧
      transmit rt packet dest ((latestMode seenMode dest).getD rt.obfs) = .ok (some out) := by
  generalize whole : Outcome.sent out = outcome at explained
  cases explained with
  | unreadable => cases whole
  | unroutable => cases whole
  | unknown => cases whole
  | routed c dest receives known =>
      exact ⟨c, dest, known, outcomeOf_sent whole.symm⟩

end Explained

def initiation : Buf := [1, 0, 0, 0, 5, 0, 0, 0] ++ List.replicate 24 0

end Gutd.Userspace
