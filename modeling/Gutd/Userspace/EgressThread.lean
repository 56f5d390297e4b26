import Gutd.Shared.Folds
import Gutd.Userspace.Delivery
import Gutd.Userspace.Receiver
import Gutd.Userspace.TextSend

set_option autoImplicit false

namespace Gutd.Userspace

open Bytes Checked Wire Net Folds

section Egress

variable {rt : Runtime} {packet : Packet} {obfs : ObfsMode} {shared : Shared} {dest : SocketAddr}

def Encapsulates (rt : Runtime) (packet : Packet) (obfs : ObfsMode) (q : Buf) : Prop :=
  ∃ buf n dcid, obfsEncap rt.order packet.buf packet.size rt.keyInit Runtime.rounds rt.isServer packet.src.port rt.wgAddr.port
    obfs rt.sipDomain packet.nowNs = .ok (buf, some (n, dcid)) ∧ q = buf.take n

def sockIdxOf (rt : Runtime) (packet : Packet) (obfs : ObfsMode) (q : Buf) : Nat :=
  if obfs = .sip ∧ byteAt packet.buf 0 = 4 ∧ packet.size > 32 ∧ 1 < rt.peerPorts.length then
    1 + (nonceOf q).toNat % (rt.peerPorts.length - 1)
  else 0

structure Framable (rt : Runtime) (clock : Clock) : Prop where
  domain : rt.sipDomain.length ≤ 60
  peerPorts : rt.peerPorts ≠ []
  fourDigits : clock.FourDigits

theorem frame_total {q : Buf} (framable : Framable rt packet.clock) (fits : q.length ≤ 48384) (dcid : UInt32) (dest : SocketAddr)
    (obfs : ObfsMode) :
    ∃ out, frame rt q dcid (byteAt packet.buf 0) packet.size packet.src dest obfs packet.clock = .ok out ∧
      out.sockIdx = sockIdxOf rt packet obfs q := by
  obtain ⟨domain, peerPorts, fourDigits⟩ := framable
  have size := Base64.length_encode q
  unfold frame sockIdxOf
  cases obfs with
  | gut => exact ⟨_, rfl, by simp⟩
  | quic => exact ⟨_, rfl, by simp⟩
  | syslog =>
      have header : Syslog.writeHeader outBufLen packet.clock.secs rt.sipDomain =
          .ok ((Syslog.headerLine packet.clock.secs rt.sipDomain).take (Syslog.syslogHdrBase + rt.sipDomain.length)) := by
        refine if_pos ?_
        rw [Syslog.syslogHdrBase, outBufLen]
        omega
      have encoded : Base64.encodeInto q (outBufLen - ((Syslog.headerLine packet.clock.secs rt.sipDomain).take
          (Syslog.syslogHdrBase + rt.sipDomain.length)).length) = .ok (Base64.encode q) := by
        refine if_pos ?_
        rw [outBufLen, List.length_take, Syslog.syslogHdrBase]
        omega
      dsimp only
      rw [syslogFrame, header, bind_ok, encoded, bind_ok, pure_eq_ok]
      exact ⟨_, rfl, by simp⟩
  | sip =>
      dsimp only
      by_cases data : byteAt packet.buf 0 = 4 ∧ packet.size > 32
      · obtain ⟨out, done, -, socket⟩ := @rtpFrame_ok rt q dcid dest (by rw [outBufLen]; omega)
        rw [if_pos data]
        exact ⟨out, done, by rw [socket]; simp [data]⟩
      · obtain ⟨out, done, socket, -⟩ :=
          sipFrame_ok (byteAt packet.buf 0) packet.size packet.src dest fourDigits domain fits peerPorts
        rw [if_neg data]
        refine ⟨out, done, ?_⟩
        rw [socket, if_neg]
        rintro ⟨-, type, long, -⟩
        exact data ⟨type, long⟩

def Sends (rt : Runtime) (packet : Packet) (obfs : ObfsMode) : Prop :=
  packet.size < 16 ∨
    encapLen rt packet obfs ≤ packet.buf.length ∧
      ∀ q, Encapsulates rt packet obfs q → sockIdxOf rt packet obfs q < rt.ports.length

theorem transmit_iff (framable : Framable rt packet.clock) (inside : packet.size ≤ packet.buf.length)
    (nonempty : 0 < packet.buf.length) (small : packet.size ≤ 47120) (dest : SocketAddr) (obfs : ObfsMode) :
    (∃ sent, transmit rt packet dest obfs = .ok sent) ↔ Sends rt packet obfs := by
  unfold transmit Sends
  rw [getByte_ok nonempty, bind_ok]
  by_cases short : packet.size < 16
  · have none : obfsEncap rt.order packet.buf packet.size rt.keyInit Runtime.rounds rt.isServer packet.src.port rt.wgAddr.port
        obfs rt.sipDomain packet.nowNs = .ok (packet.buf, none) := if_pos short
    rw [none, bind_ok]
    exact ⟨fun _ => .inl short, fun _ => ⟨_, rfl⟩⟩
  by_cases room : encapLen rt packet obfs ≤ packet.buf.length
  · obtain ⟨buf, dcid, done, length⟩ := obfsEncap_fits (by omega) room
    have fits : (buf.take (encapLen rt packet obfs)).length ≤ 48384 := by
      have header := Form.headerLen_le (encapForm obfs (typeOf (packet.buf.take packet.size)) rt.isServer)
      have padding := length_encapPad rt.channel obfs (encapForm obfs (typeOf (packet.buf.take packet.size)) rt.isServer)
        (packet.buf.take packet.size)
      rw [List.length_take, encapLen]
      omega
    obtain ⟨out, framed, socket⟩ := frame_total framable fits dcid dest obfs
    rw [done, bind_ok]
    dsimp only
    rw [subslice_ok (by omega) (by omega), bind_ok, slice_zero, framed, bind_ok, socket]
    constructor
    · rintro ⟨sent, returned⟩
      refine .inr ⟨room, ?_⟩
      rintro q ⟨buf', n, dcid', again, rfl⟩
      cases done.symm.trans again
      split_ifs at returned with open'
      exact open'
    · rintro (few | ⟨-, sockets⟩)
      · exact absurd few short
      · rw [if_pos (sockets _ ⟨buf, _, dcid, done, rfl⟩)]
        exact ⟨_, rfl⟩
  · constructor
    · rintro ⟨sent, returned⟩
      obtain ⟨⟨out, found⟩, done, -⟩ := bind_eq_ok.mp returned
      obtain ⟨result, rfl⟩ := obfsEncap_some (by omega) done
      exact absurd (obfsEncap_room rt.channel rfl rfl done).2 room
    · rintro (few | ⟨fits, -⟩)
      · exact absurd few short
      · exact absurd fits room

theorem dynamicRoute_total {buf : Buf} {size : Nat} (inside : size ≤ buf.length) :
    ∃ route, dynamicRoute buf size = .ok route := by
  unfold dynamicRoute
  split_ifs with four
  · rw [getByte_ok (by omega), bind_ok]
    dsimp only
    split_ifs with hello answer data
    · exact ⟨_, rfl⟩
    · rw [readLe32_ok (by omega), bind_ok, readLe32_ok (by omega)]
      exact ⟨_, rfl⟩
    · rw [readLe32_ok (by omega)]
      exact ⟨_, rfl⟩
    · exact ⟨_, rfl⟩
  · exact ⟨_, rfl⟩

theorem egressDest_total (rt : Runtime) (shared : Shared) (inside : packet.size ≤ packet.buf.length) :
    ∃ shared' found, egressDest rt shared packet.buf packet.size = .ok (shared', found) := by
  unfold egressDest
  split_ifs with static
  · exact ⟨_, _, rfl⟩
  · obtain ⟨route, routed⟩ := dynamicRoute_total inside
    rw [routed, bind_ok]
    cases route <;> exact ⟨_, _, rfl⟩

theorem egress_of_sends (framable : Framable rt packet.clock) (shared : Shared) (inside : packet.size ≤ packet.buf.length)
    (nonempty : 0 < packet.buf.length) (small : packet.size ≤ 47120)
    (sends : ∀ shared' dest, egressDest rt (trackWgPeer rt packet.src shared) packet.buf packet.size = .ok (shared', some dest) →
      Sends rt packet (encapObfs rt shared' dest)) : ∃ result, egress rt shared packet = .ok result := by
  obtain ⟨shared', found, routed⟩ := egressDest_total rt (trackWgPeer rt packet.src shared) inside
  unfold egress
  rw [routed, bind_ok]
  cases found with
  | none => exact ⟨_, rfl⟩
  | some dest =>
      obtain ⟨sent, transmitted⟩ := (transmit_iff framable inside nonempty small dest _).mpr (sends shared' dest routed)
      dsimp only
      rw [transmitted, bind_ok]
      exact ⟨_, rfl⟩

theorem egress_returns_iff (framable : Framable rt packet.clock) (shared : Shared) (inside : packet.size ≤ packet.buf.length)
    (nonempty : 0 < packet.buf.length) (small : packet.size ≤ 47120) :
    (∃ result, egress rt shared packet = .ok result) ↔
      ∀ shared' dest, egressDest rt (trackWgPeer rt packet.src shared) packet.buf packet.size = .ok (shared', some dest) →
        Sends rt packet (encapObfs rt shared' dest) := by
  refine ⟨?_, egress_of_sends framable shared inside nonempty small⟩
  rintro ⟨result, done⟩ shared' dest routed
  unfold egress at done
  rw [routed, bind_ok] at done
  obtain ⟨sent, transmitted, -⟩ := bind_eq_ok.mp done
  exact (transmit_iff framable inside nonempty small dest _).mp ⟨sent, transmitted⟩

-- a local program may send what it likes: these bytes look like a handshake initiation that nearly fills its slot
theorem egress_returns_iff_oversized :
    ¬∃ result, egress { sampleRuntime false .quic with remotePeerAddr := some (localhost 443) } Shared.empty
      { buf := 1 :: List.replicate 2047 0, size := 900, src := localhost 51820, clock := ⟨0, 0⟩, nowNs := 0 } = .ok result := by
  have slot : ((1 : UInt8) :: List.replicate 2047 0).length = 2048 := by rw [List.length_cons, List.length_replicate]
  rw [egress_returns_iff ⟨by decide, by decide, by decide, by decide⟩ Shared.empty (by rw [slot]; decide) (by rw [slot]; decide)
    (by decide)]
  intro sends
  rcases sends _ _ rfl with few | ⟨room, -⟩
  · exact absurd few (by decide)
  · have form : encapForm .quic (typeOf (((1 : UInt8) :: List.replicate 2047 0).take 900)) false = .quicLong := by
      rw [typeOf_take _ _ (by decide)]
      rfl
    have client : encapObfs { sampleRuntime false .quic with remotePeerAddr := some (localhost 443) } = fun _ _ => .quic := rfl
    rw [slot, client, encapLen] at room
    dsimp only [sampleRuntime] at room
    rw [form, Form.headerLen] at room
    omega

def Sendable (pktBuf : Nat) (w : Buf) : Prop :=
  (if typeOf w = 1 ∨ typeOf w = 3 then 1200 else 16) + w.length + 64 ≤ pktBuf ∧ w.length ≤ 47120

theorem headerLen_encapForm_le (obfs : ObfsMode) (wgType : UInt8) (isServer : Bool) :
    (encapForm obfs wgType isServer).headerLen ≤ if wgType = 1 ∨ wgType = 3 then 1200 else 16 := by
  unfold encapForm
  split_ifs <;> simp_all [Form.headerLen]

theorem sends_of_sendable (obfs : ObfsMode) (inside : packet.size ≤ packet.buf.length)
    (sendable : Sendable packet.buf.length (packet.buf.take packet.size)) (ports : 0 < rt.ports.length)
    (enough : rt.peerPorts.length ≤ rt.ports.length) : Sends rt packet obfs := by
  obtain ⟨room, -⟩ := sendable
  have header := headerLen_encapForm_le obfs (typeOf (packet.buf.take packet.size)) rt.isServer
  have padding := length_encapPad rt.channel obfs (encapForm obfs (typeOf (packet.buf.take packet.size)) rt.isServer)
    (packet.buf.take packet.size)
  rw [List.length_take, Nat.min_eq_left inside] at room
  refine .inr ⟨?_, ?_⟩
  · unfold encapLen
    dsimp only
    omega
  · intro q _
    unfold sockIdxOf
    split_ifs with media
    · have index := Nat.mod_lt (nonceOf q).toNat (show 0 < rt.peerPorts.length - 1 by omega)
      omega
    · exact ports

end Egress

def kaPkt : Buf := 0x40 :: List.replicate 15 0 ++ [0x01]

def idleKeepalive (rt : Runtime) (timedOut : Bool) : Result (Option Outgoing) :=
  if timedOut ∧ !rt.isServer then
    match rt.remotePeerAddr with
    | some dest => if 0 < rt.ports.length then pure (some { bytes := kaPkt, sockIdx := 0, dest }) else throw .outOfBounds
    | none => pure none
  else pure none

structure EgressThread where
  receiver : BatchRecv
  answers : List (List Datagram)
  shared : Shared
  outbox : List Outgoing

namespace EgressThread

structure Surroundings where
  meanwhile : Shared → Shared
  clock : Clock
  nowNs : Nat
  timedOut : Bool
  use : Buf → Buf

def start (outerMtu : UInt16) (answers : List (List Datagram)) : EgressThread :=
  { receiver := BatchRecv.new outerMtu, answers, shared := Shared.empty, outbox := [] }

-- a call that would wait leaves everything as it is
def step (rt : Runtime) (thread : EgressThread) (around : Surroundings) : Result EgressThread := do
  match ← thread.receiver.recv rt.order thread.answers with
  | none => pure thread
  | some called =>
      let thread := { thread with receiver := called.state.afterUse around.use called.result, answers := called.answers }
      match called.result with
      | .received _ _ buf size src => do
          let (shared, sent) ← egress rt (around.meanwhile thread.shared)
            { buf, size, src, clock := around.clock, nowNs := around.nowNs }
          pure { thread with shared, outbox := sent.toList ++ thread.outbox }
      | .osError => do
          let sent ← idleKeepalive rt around.timedOut
          pure { thread with outbox := sent.toList ++ thread.outbox }
      | .badSockaddr => pure thread

variable {rt : Runtime} {outerMtu : UInt16} {thread : EgressThread} {around : Surroundings}

theorem idleKeepalive_total (ports : 0 < rt.ports.length) (timedOut : Bool) : ∃ sent, idleKeepalive rt timedOut = .ok sent := by
  unfold idleKeepalive
  split_ifs with idle
  · cases rt.remotePeerAddr with
    | none => exact ⟨_, rfl⟩
    | some dest => exact ⟨_, rfl⟩
  · exact ⟨_, rfl⟩

def Goes (order : ByteOrder) (outerMtu : UInt16) (thread : EgressThread) : Prop :=
  BatchRecv.Receiving order outerMtu (fun d => Sendable (BatchRecv.new outerMtu).pktBuf d.data) thread.receiver thread.answers

theorem Goes.step (goes : thread.Goes rt.order outerMtu) (framable : Framable rt around.clock) (ports : 0 < rt.ports.length)
    (enough : rt.peerPorts.length ≤ rt.ports.length) :
    ∃ thread', thread.step rt around = .ok thread' ∧ thread'.Goes rt.order outerMtu := by
  unfold EgressThread.step
  rcases BatchRecv.Receiving.recv goes with waits | ⟨called, done, later, slot⟩
  · rw [waits, bind_ok]
    exact ⟨thread, rfl, goes⟩
  · rw [done, bind_ok]
    dsimp only
    cases result : called.result with
    | badSockaddr => exact ⟨_, rfl, result ▸ later around.use⟩
    | osError =>
        obtain ⟨sent, kept⟩ := idleKeepalive_total ports around.timedOut
        dsimp only
        rw [kept, bind_ok]
        exact ⟨_, rfl, result ▸ later around.use⟩
    | received start stop buf size src =>
        obtain ⟨length, inside, d, sendable, data⟩ := slot start stop buf size src result
        rw [← data, ← length] at sendable
        have positive : 0 < buf.length := by
          rw [length, BatchRecv.pktBuf_new]
          omega
        have small : size ≤ 47120 := by
          have few := sendable.2
          rwa [List.length_take, Nat.min_eq_left inside] at few
        have sends (obfs : ObfsMode) : Sends rt { buf, size, src, clock := around.clock, nowNs := around.nowNs } obfs :=
          sends_of_sendable obfs inside sendable ports enough
        obtain ⟨answer, returned⟩ := egress_of_sends framable (around.meanwhile thread.shared) inside positive small
          fun _ _ _ => sends _
        dsimp only
        rw [returned, bind_ok]
        exact ⟨_, rfl, result ▸ later around.use⟩

theorem egress_never_panics (outerMtu : UInt16) (answers : List (List Datagram)) (arounds : List Surroundings)
    (ports : 0 < rt.ports.length) (enough : rt.peerPorts.length ≤ rt.ports.length)
    (framable : ∀ around ∈ arounds, Framable rt around.clock)
    (fits : ∀ answer ∈ answers, BatchRecv.Fits (BatchRecv.new outerMtu).pktBuf (BatchRecv.new outerMtu).batch answer)
    (sendable : ∀ answer ∈ answers, ∀ d ∈ answer, Sendable (BatchRecv.new outerMtu).pktBuf d.data) :
    ∃ thread, arounds.foldlM (step rt) (start outerMtu answers) = .ok thread := by
  obtain ⟨thread, ran, -⟩ := foldlM_reaches (P := fun _ thread => thread.Goes rt.order outerMtu)
    (Q := fun around : Surroundings => Framable rt around.clock) (fun _ _ _ framable goes => goes.step framable ports enough)
    (s := start outerMtu answers) (BatchRecv.new_receiving fits sendable) framable
  exact ⟨thread, ran⟩

theorem egress_never_panics_keepalive :
    ∃ thread, [Surroundings.mk id ⟨0, 0⟩ 0 false id].foldlM (step (sampleRuntime false .sip))
      (start 1492 [[{ data := 4 :: List.replicate 31 0, source := .inet (Vector.replicate 4 127) 51820 }]]) = .ok thread :=
  egress_never_panics 1492 [[{ data := 4 :: List.replicate 31 0, source := .inet (Vector.replicate 4 127) 51820 }]]
    [Surroundings.mk id ⟨0, 0⟩ 0 false id] (by decide) (by decide)
    (List.forall_mem_singleton.mpr ⟨by decide, by decide, by decide, by decide⟩)
    (List.forall_mem_singleton.mpr ⟨by decide, List.forall_mem_singleton.mpr (by decide)⟩)
    (List.forall_mem_singleton.mpr (List.forall_mem_singleton.mpr ⟨by decide, by decide⟩))

end EgressThread

end Gutd.Userspace
