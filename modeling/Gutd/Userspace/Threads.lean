import Gutd.Userspace.Delivery
import Gutd.Userspace.Egress
import Mathlib.Logic.Relation

set_option autoImplicit false

-- Each access to a shared map is one step. The log is ghost state: it records what happened, newest first, and the
-- stages of a thread remember the log they saw.

namespace Gutd.Userspace

open Bytes Checked Wire Net

structure Arrival where
  buf : Buf
  outBuf : Buf
  size : Nat
  src : SocketAddr
  clock : Clock

inductive Outcome where
  | dropped
  | sent (out : Outgoing)
  | crashed
  deriving DecidableEq

inductive Event where
  | authenticated (arrival : Arrival) (obfs : ObfsMode)
  -- the client map was updated from a decapsulated datagram; `seen` is the log at its session lookup
  | learned (arrival : Arrival) (payload : Buf) (seen : List Event)
  | bound (sIdx cIdx : UInt32)
  -- a packet was dealt with; `seen` and `seenMode` are the logs at its two lookups
  | handled (packet : Packet) (seen seenMode : List Event) (outcome : Outcome)

inductive IngressStage where
  | idle
  | authentic (arrival : Arrival) (slot : Buf) (size : Nat) (obfs : ObfsMode)
  | recorded (arrival : Arrival) (slot : Buf) (size : Nat) (obfs : ObfsMode)
  | opened (arrival : Arrival) (payload : Buf)
  | resolved (arrival : Arrival) (payload : Buf) (cIdx : Option UInt32) (seen : List Event)
  | panicked

inductive EgressStage where
  | idle
  | routing (packet : Packet) (route : Route)
  | found (packet : Packet) (dest : SocketAddr) (seen : List Event)
  | chosen (packet : Packet) (dest : SocketAddr) (obfs : ObfsMode) (seen seenMode : List Event)
  | panicked

structure World where
  shared : Shared
  ingress : Nat → IngressStage
  egress : EgressStage
  outbox : List Sent
  log : List Event

namespace World

def init : World :=
  { shared := Shared.empty, ingress := fun _ => .idle, egress := .idle, outbox := [], log := [] }

def setIngress (world : World) (i : Nat) (stage : IngressStage) : World :=
  { world with ingress := fun j => if j = i then stage else world.ingress j }

def setEgress (world : World) (stage : EgressStage) : World := { world with egress := stage }

def record (world : World) (event : Event) : World := { world with log := event :: world.log }

def setShared (world : World) (shared : Shared) : World := { world with shared }

def send (world : World) (sent : List Sent) : World := { world with outbox := sent ++ world.outbox }

end World

def Arrival.classify (rt : Runtime) (arrival : Arrival) : Result (Verdict × Buf) :=
  Userspace.classify rt arrival.buf arrival.outBuf arrival.size arrival.src arrival.clock

def receive (rt : Runtime) (world : World) (i : Nat) (arrival : Arrival) : World :=
  match arrival.classify rt with
  | .error _ => world.setIngress i .panicked
  | .ok (.ignored, _) => world
  | .ok (.probe reply, _) => world.send [.probeReply reply arrival.src]
  | .ok (.authentic slot size obfs, _) => world.setIngress i (.authentic arrival slot size obfs)

def openDatagram (rt : Runtime) (world : World) (i : Nat) (arrival : Arrival) (slot : Buf) (size : Nat) (obfs : ObfsMode) :
    World :=
  match obfsDecap rt.order slot size rt.keyInit Runtime.rounds obfs with
  | .error _ => world.setIngress i .panicked
  | .ok (_, none) => world.setIngress i .idle
  | .ok (plain, some (newSize, _, _)) =>
      (world.setShared { world.shared with peerExt := some arrival.src }).setIngress i
        (.opened arrival (plain.take newSize))

def resolve (rt : Runtime) (sessionMap : UInt32 → Option UInt32) (payload : Buf) : Option UInt32 :=
  if rt.dynamicPeer then boundIndex sessionMap payload else none

def bindClient (shared : Shared) (cIdx : Option UInt32) (src : SocketAddr) : Shared :=
  match cIdx with
  | some cIdx => { shared with clientMap := insert shared.clientMap cIdx src }
  | none => shared

def accept (rt : Runtime) (world : World) (packet : Packet) : World :=
  match dynamicRoute packet.buf packet.size with
  | .error _ => (world.record (.handled packet world.log world.log .crashed)).setEgress .panicked
  | .ok route => (world.setShared (trackWgPeer rt packet.src world.shared)).setEgress (.routing packet route)

def find (world : World) (packet : Packet) (cIdx : UInt32) : World :=
  match world.shared.clientMap cIdx with
  | none => (world.record (.handled packet world.log world.log .dropped)).setEgress .idle
  | some dest => world.setEgress (.found packet dest world.log)

def outcomeOf : Result (Option Outgoing) → Outcome
  | .error _ => .crashed
  | .ok none => .dropped
  | .ok (some out) => .sent out

def finish (rt : Runtime) (world : World) (packet : Packet) (dest : SocketAddr) (obfs : ObfsMode)
    (seen seenMode : List Event) : World :=
  let result := transmit rt packet dest obfs
  (world.record (.handled packet seen seenMode (outcomeOf result))).setEgress
    (match result with
      | .error _ => .panicked
      | .ok _ => .idle)

inductive Step (rt : Runtime) : World → World → Prop where
  | receive (world : World) (i : Nat) (arrival : Arrival) (idle : world.ingress i = .idle) :
      Step rt world (receive rt world i arrival)
  | recordMode (world : World) (i : Nat) (arrival : Arrival) (slot : Buf) (size : Nat) (obfs : ObfsMode)
      (here : world.ingress i = .authentic arrival slot size obfs) :
      Step rt world (((world.setShared (recordObfs rt obfs arrival.src world.shared)).record
        (.authenticated arrival obfs)).setIngress i (.recorded arrival slot size obfs))
  | openDatagram (world : World) (i : Nat) (arrival : Arrival) (slot : Buf) (size : Nat) (obfs : ObfsMode)
      (here : world.ingress i = .recorded arrival slot size obfs) :
      Step rt world (openDatagram rt world i arrival slot size obfs)
  | readSession (world : World) (i : Nat) (arrival : Arrival) (payload : Buf)
      (here : world.ingress i = .opened arrival payload) :
      Step rt world (world.setIngress i
        (.resolved arrival payload (resolve rt world.shared.sessionMap payload) world.log))
  | bindClient (world : World) (i : Nat) (arrival : Arrival) (payload : Buf) (cIdx : Option UInt32) (seen : List Event)
      (here : world.ingress i = .resolved arrival payload cIdx seen) :
      Step rt world ((((world.setShared (bindClient world.shared cIdx arrival.src)).record
        (.learned arrival payload seen)).setIngress i .idle).send
          (forward rt (bindClient world.shared cIdx arrival.src) payload))
  | accept (world : World) (packet : Packet) (idle : world.egress = .idle) : Step rt world (accept rt world packet)
  | dropPacket (world : World) (packet : Packet) (here : world.egress = .routing packet .drop) :
      Step rt world ((world.record (.handled packet world.log world.log .dropped)).setEgress .idle)
  | bindSession (world : World) (packet : Packet) (sIdx cIdx : UInt32)
      (here : world.egress = .routing packet (.session sIdx cIdx)) :
      Step rt world (((world.setShared
        { world.shared with sessionMap := insert world.shared.sessionMap sIdx cIdx }).record
          (.bound sIdx cIdx)).setEgress (.routing packet (.client cIdx)))
  | find (world : World) (packet : Packet) (cIdx : UInt32) (here : world.egress = .routing packet (.client cIdx)) :
      Step rt world (find world packet cIdx)
  | chooseMode (world : World) (packet : Packet) (dest : SocketAddr) (seen : List Event)
      (here : world.egress = .found packet dest seen) :
      Step rt world (world.setEgress (.chosen packet dest (encapObfs rt world.shared dest) seen world.log))
  | finish (world : World) (packet : Packet) (dest : SocketAddr) (obfs : ObfsMode) (seen seenMode : List Event)
      (here : world.egress = .chosen packet dest obfs seen seenMode) :
      Step rt world (finish rt world packet dest obfs seen seenMode)

section Alone

open Relation

variable {rt : Runtime} {world : World}

def bindSession (shared : Shared) (sIdx cIdx : UInt32) : Shared :=
  { shared with sessionMap := insert shared.sessionMap sIdx cIdx }

theorem map_mk_eq_ok {α β : Type} {a a' : α} {b : β} {result : Result β} (done : result.map (Prod.mk a) = .ok (a', b)) :
    a = a' ∧ result = .ok b := by
  cases result with
  | error panic => cases done
  | ok value =>
      cases done
      exact ⟨rfl, rfl⟩

end Alone

end Gutd.Userspace
