import Gutd.Userspace.BatchRecv

set_option autoImplicit false

namespace Gutd.Userspace

open Bytes Checked Net

namespace BatchRecv

variable {order : ByteOrder} {s : BatchRecv} {outerMtu : UInt16} {allowed : Datagram → Prop} {answers : List (List Datagram)}

theorem pktBuf_new (outerMtu : UInt16) : (new outerMtu).pktBuf = max (outerMtu.toNat + 548) 2048 := rfl

theorem handOut_slot {s' : BatchRecv} {start stop size : Nat} {bytes : Buf} {src : SocketAddr}
    (done : s.handOut order = .ok (.received start stop bytes size src, s')) : bytes.length = stop - start := by
  obtain ⟨msg, -, done⟩ := bind_eq_ok.mp done
  obtain ⟨storage, -, done⟩ := bind_eq_ok.mp done
  cases found : mmsgSockaddr order storage with
  | none =>
      rw [found] at done
      cases done
  | some src' =>
      rw [found] at done
      obtain ⟨slot, taken, done⟩ := bind_eq_ok.mp done
      cases done
      obtain ⟨-, -, rfl⟩ := subslice_inside taken
      rw [length_slice]
      have inside := (subslice_inside taken).2.1
      omega

theorem recv_slot {called : Called} {start stop size : Nat} {bytes : Buf} {src : SocketAddr}
    (done : s.recv order answers = .ok (some called)) (got : called.result = .received start stop bytes size src) :
    bytes.length = stop - start := by
  unfold recv at done
  split_ifs at done with drained
  · obtain ⟨s₁, -, done⟩ := bind_eq_ok.mp done
    cases answers with
    | nil => cases done
    | cons answer answers =>
        obtain ⟨s₂, -, done⟩ := bind_eq_ok.mp done
        split_ifs at done with none
        · cases done
          cases got
        · obtain ⟨handed, out, done⟩ := bind_eq_ok.mp done
          cases done
          obtain ⟨result, s₃⟩ := handed
          subst got
          exact handOut_slot out
  · obtain ⟨handed, out, done⟩ := bind_eq_ok.mp done
    cases done
    obtain ⟨result, s₃⟩ := handed
    subst got
    exact handOut_slot out

structure Receiving (order : ByteOrder) (outerMtu : UInt16) (allowed : Datagram → Prop) (s : BatchRecv)
    (answers : List (List Datagram)) : Prop where
  pending : ∃ ds, s.Pending order ds ∧ ∀ d ∈ ds, allowed d
  pktBuf : s.pktBuf = (new outerMtu).pktBuf
  batch : s.batch = (new outerMtu).batch
  fits : ∀ answer ∈ answers, Fits (new outerMtu).pktBuf (new outerMtu).batch answer
  kind : ∀ answer ∈ answers, ∀ d ∈ answer, allowed d

theorem new_receiving (fits : ∀ answer ∈ answers, Fits (new outerMtu).pktBuf (new outerMtu).batch answer)
    (kind : ∀ answer ∈ answers, ∀ d ∈ answer, allowed d) : Receiving order outerMtu allowed (new outerMtu) answers :=
  ⟨⟨[], new_pending order outerMtu, by simp⟩, rfl, rfl, fits, kind⟩

theorem Leaves.receiving {s' : BatchRecv} {ds : List Datagram} {current : Nat} (leaves : Leaves order s s' ds current)
    (pktBuf : s.pktBuf = (new outerMtu).pktBuf) (batch : s.batch = (new outerMtu).batch) (these : ∀ d ∈ ds, allowed d)
    (fits : ∀ answer ∈ answers, Fits (new outerMtu).pktBuf (new outerMtu).batch answer)
    (kind : ∀ answer ∈ answers, ∀ d ∈ answer, allowed d) : Receiving order outerMtu allowed s' answers :=
  ⟨⟨ds, leaves.pending, these⟩, leaves.pktBuf.trans pktBuf, leaves.batch.trans batch, fits, kind⟩

structure Slot (outerMtu : UInt16) (allowed : Datagram → Prop) (bytes : Buf) (size : Nat) : Prop where
  length : bytes.length = (new outerMtu).pktBuf
  inside : size ≤ bytes.length
  holds : ∃ d, allowed d ∧ bytes.take size = d.data

theorem slot_of_seen {result : RecvResult} {d : Datagram} {i start stop size : Nat} {bytes : Buf} {src : SocketAddr}
    (seen : result.seen = delivery s.pktBuf (d, i)) (got : result = .received start stop bytes size src)
    (length : bytes.length = stop - start) (pktBuf : s.pktBuf = (new outerMtu).pktBuf) (this : allowed d) :
    Slot outerMtu allowed bytes size := by
  subst got
  unfold delivery RecvResult.seen at seen
  cases source : d.source.socketAddr with
  | none =>
      rw [source] at seen
      cases seen
  | some src' =>
      rw [source] at seen
      injection seen with starts stops data sizes
      have taken : (bytes.take size).length = size := by rw [data, sizes]
      rw [List.length_take] at taken
      exact ⟨by omega, by omega, d, this, data⟩

theorem Receiving.recv (receiving : Receiving order outerMtu allowed s answers) :
    s.recv order answers = .ok none ∨
      ∃ called, s.recv order answers = .ok (some called) ∧
        (∀ use, Receiving order outerMtu allowed (called.state.afterUse use called.result) called.answers) ∧
        ∀ start stop bytes size src, called.result = .received start stop bytes size src → Slot outerMtu allowed bytes size := by
  obtain ⟨⟨ds, pending, these⟩, pktBuf, batch, fits, kind⟩ := receiving
  cases ds with
  | cons d ds =>
      obtain ⟨this, these⟩ := List.forall_mem_cons.mp these
      obtain ⟨result, s', done, seen, leaves⟩ := recv_kept pending answers
      refine .inr ⟨_, done, fun use => (leaves use).receiving pktBuf batch these fits kind, ?_⟩
      intro start stop bytes size src got
      exact slot_of_seen seen got (recv_slot done got) pktBuf this
  | nil =>
      cases answers with
      | nil => exact .inl (recv_idle pending).1
      | cons answer answers =>
          obtain ⟨here, later⟩ := List.forall_mem_cons.mp fits
          obtain ⟨first, rest⟩ := List.forall_mem_cons.mp kind
          cases answer with
          | nil =>
              refine .inr ⟨_, (recv_idle pending).2 answers, fun use => ?_, ?_⟩
              · exact ⟨⟨[], pending.pointed, by simp⟩, pktBuf, batch, later, rest⟩
              · intro start stop bytes size src got
                cases got
          | cons d ds =>
              obtain ⟨this, these⟩ := List.forall_mem_cons.mp first
              obtain ⟨result, s', done, seen, leaves⟩ := recv_refilled pending (by rw [pktBuf, batch]; exact here) answers
              refine .inr ⟨_, done, fun use => (leaves use).receiving pktBuf batch these later rest, ?_⟩
              intro start stop bytes size src got
              exact slot_of_seen seen got (recv_slot done got) pktBuf this

end BatchRecv

end Gutd.Userspace
