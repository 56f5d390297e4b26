import Gutd.Shared.Attributes
import Gutd.Shared.Batches
import Gutd.Shared.Net

set_option autoImplicit false

-- `BatchRecv` of `userspace.rs`. The socket is a list of answers, one for each `recvmmsg`. An empty answer stands for
-- a call that returned zero or less.

namespace Gutd.Userspace

open Bytes Checked Net

def afInet : UInt16 := 2

def afInet6 : UInt16 := 10

inductive Source where
  | inet (addr : Vector UInt8 4) (port : UInt16)
  | inet6 (addr : Vector UInt16 8) (port : UInt16) (flowinfo scopeId : UInt32)
  | other (family : UInt16) (rest : Buf) (foreign : family ≠ afInet ∧ family ≠ afInet6) (short : rest.length ≤ 126)

namespace Source

variable (order : ByteOrder)

-- `sockaddr_in`, `sockaddr_in6`, or the address of another family
def sockaddr : Source → Buf
  | inet addr port => toNeBytes16 order afInet ++ (toBeBytes16 port ++ (addr.toList ++ List.replicate 8 0))
  | inet6 addr port flowinfo scopeId =>
      toNeBytes16 order afInet6 ++
        (toBeBytes16 port ++ (toBeBytes flowinfo ++ (addr.toList.flatMap toBeBytes16 ++ toNeBytes order scopeId)))
  | other family rest _ _ => toNeBytes16 order family ++ rest

def socketAddr : Source → Option SocketAddr
  | inet addr port => some { ip := .v4 addr, port }
  | inet6 addr port _ _ => some { ip := .v6 addr, port }
  | other _ _ _ _ => none

theorem length_sockaddr (source : Source) : (source.sockaddr order).length ≤ 128 := by
  cases source with
  | inet addr port => simp [sockaddr]
  | inet6 addr port flowinfo scopeId => simp [sockaddr, List.length_flatMap]
  | other family rest foreign short =>
      simp only [sockaddr, List.length_append, length_toNeBytes16]
      omega

end Source

structure Datagram where
  data : Buf
  source : Source

structure SockaddrStorage where
  bytes : Buf
  size : bytes.length = 128

namespace SockaddrStorage

def zeroed : SockaddrStorage := { bytes := List.replicate 128 0, size := List.length_replicate }

def put (storage : SockaddrStorage) (name : Buf) : SockaddrStorage :=
  { bytes := overwrite storage.bytes 0 name, size := by rw [length_overwrite, storage.size] }

end SockaddrStorage

-- pointers are places in `mem`, `iovecs` and `addrs`; null is `none`
structure IoVec where
  iovBase : Option Nat
  iovLen : Nat

structure MsgHdr where
  msgName : Option Nat
  msgNamelen : Nat
  msgIov : Option Nat
  msgIovlen : Nat

structure MMsgHdr where
  msgHdr : MsgHdr
  msgLen : Nat

structure BatchRecv where
  mem : Buf
  pktBuf : Nat
  batch : Nat
  addrs : List SockaddrStorage
  iovecs : List IoVec
  msgs : List MMsgHdr
  count : Nat
  current : Nat

inductive RecvResult where
  | received (start stop : Nat) (bytes : Buf) (size : Nat) (src : SocketAddr)
  | badSockaddr
  | osError
  deriving DecidableEq

inductive Observed where
  | recvmmsg (answer : List Datagram)
  | returned (result : RecvResult)

def mmsgSockaddr (order : ByteOrder) (storage : SockaddrStorage) : Option SocketAddr :=
  let family := ne16At order storage.bytes 0
  if family = afInet then
    some { ip := .v4 (Vector.ofFn fun i => byteAt storage.bytes (4 + i)), port := be16At storage.bytes 2 }
  else if family = afInet6 then
    some { ip := .v6 (Vector.ofFn fun i => be16At storage.bytes (8 + 2 * i)), port := be16At storage.bytes 2 }
  else none

namespace BatchRecv

def new (outerMtu : UInt16) : BatchRecv :=
  let pktBuf := max (outerMtu.toNat + 548) 2048
  let batch := min 16 (65536 / pktBuf)
  { mem := List.replicate (pktBuf * batch) 0
    pktBuf
    batch
    addrs := List.replicate batch .zeroed
    iovecs := List.replicate batch { iovBase := none, iovLen := 0 }
    msgs := List.replicate batch
      { msgHdr := { msgName := none, msgNamelen := 0, msgIov := none, msgIovlen := 0 }, msgLen := 0 }
    count := 0
    current := 0 }

def slotVec (pktBuf i : Nat) : IoVec := { iovBase := some (i * pktBuf), iovLen := pktBuf }

def slotHdr (i : Nat) : MsgHdr := { msgName := some i, msgNamelen := 128, msgIov := some i, msgIovlen := 1 }

def setUpSlot (s : BatchRecv) (i : Nat) : Result BatchRecv := do
  let iovecs ← setEntry s.iovecs i (slotVec s.pktBuf i)
  let msg ← entryAt s.msgs i
  let _ ← entryAt s.addrs i
  let msgs ← setEntry s.msgs i { msg with msgHdr := slotHdr i }
  pure { s with iovecs, msgs }

def setUp (s : BatchRecv) : Result BatchRecv := (List.range s.batch).foldlM setUpSlot s

section Kernel

variable (order : ByteOrder)

def scatter (mem : Buf) : List IoVec → Buf → Result (Buf × Nat)
  | [], _ => pure (mem, 0)
  | vec :: vecs, data => do
      let base ← orReject .outOfBounds vec.iovBase
      let part := data.take vec.iovLen
      let mem ← copyFromSlice mem base (base + part.length) part
      let (mem, n) ← scatter mem vecs (data.drop vec.iovLen)
      pure (mem, part.length + n)

def fill (s : BatchRecv) (i : Nat) (d : Datagram) : Result BatchRecv := do
  let msg ← entryAt s.msgs i
  let iov ← orReject .outOfBounds msg.msgHdr.msgIov
  let (mem, msgLen) ← scatter s.mem ((s.iovecs.drop iov).take msg.msgHdr.msgIovlen) d.data
  let place ← orReject .outOfBounds msg.msgHdr.msgName
  let storage ← entryAt s.addrs place
  let name := d.source.sockaddr order
  let addrs ← setEntry s.addrs place (storage.put (name.take msg.msgHdr.msgNamelen))
  let msgs ← setEntry s.msgs i { msgHdr := { msg.msgHdr with msgNamelen := name.length }, msgLen }
  pure { s with mem, addrs, msgs }

def recvmmsg (s : BatchRecv) (i : Nat) : List Datagram → Result BatchRecv
  | [] => pure s
  | d :: ds => do
      let s ← fill order s i d
      recvmmsg s (i + 1) ds

end Kernel

variable (order : ByteOrder)

def handOut (s : BatchRecv) : Result (RecvResult × BatchRecv) := do
  let i := s.current
  let s := { s with current := i + 1 }
  let msg ← entryAt s.msgs i
  let storage ← entryAt s.addrs i
  match mmsgSockaddr order storage with
  | none => pure (.badSockaddr, s)
  | some src =>
      let start := i * s.pktBuf
      let stop := start + s.pktBuf
      let bytes ← subslice s.mem start stop
      pure (.received start stop bytes msg.msgLen src, s)

structure Called where
  shown : List Observed
  result : RecvResult
  state : BatchRecv
  answers : List (List Datagram)

-- `none`: the socket has no answer any more, and the call waits
def recv (s : BatchRecv) (answers : List (List Datagram)) : Result (Option Called) :=
  if s.current ≥ s.count then do
    let s ← s.setUp
    match answers with
    | [] => pure none
    | answer :: answers =>
        let s ← recvmmsg order s 0 answer
        if answer.length = 0 then
          pure (some { shown := [.recvmmsg answer, .returned .osError], result := .osError, state := s, answers })
        else do
          let (result, s) ← handOut order { s with count := answer.length, current := 0 }
          pure (some { shown := [.recvmmsg answer, .returned result], result, state := s, answers })
  else do
    let (result, s) ← s.handOut order
    pure (some { shown := [.returned result], result, state := s, answers })

-- the caller owns the slot until the next call and may leave anything there
def afterUse (use : Buf → Buf) (s : BatchRecv) : RecvResult → BatchRecv
  | .received start _ bytes _ _ => { s with mem := overwrite s.mem start ((use bytes).take bytes.length) }
  | .badSockaddr => s
  | .osError => s

-- A run of calls. The uses of the slots are numbered from the end.
def run (uses : Nat → Buf → Buf) : Nat → BatchRecv → List (List Datagram) → Result (List Observed)
  | 0, _, _ => pure []
  | calls + 1, s, answers => do
      match ← s.recv order answers with
      | none => pure []
      | some called =>
          let later ← run uses calls (called.state.afterUse (uses calls) called.result) called.answers
          pure (called.shown ++ later)

end BatchRecv

section Sockaddr

variable {order : ByteOrder}

theorem family_at (family : UInt16) (rest : Buf) : ne16At order (toNeBytes16 order family ++ rest) 0 = family :=
  @ne16At_append order [] rest family

theorem port_at (family port : UInt16) (rest : Buf) :
    be16At (toNeBytes16 order family ++ (toBeBytes16 port ++ rest)) 2 = port := by
  have word := be16At_append (toNeBytes16 order family) rest port
  rwa [length_toNeBytes16] at word

theorem mmsgSockaddr_eq {source : Source} {storage : SockaddrStorage} (held : source.sockaddr order <+: storage.bytes) :
    mmsgSockaddr order storage = source.socketAddr := by
  obtain ⟨rest, bytes⟩ := held
  rw [mmsgSockaddr, ← bytes]
  cases source with
  | inet addr port =>
      simp only [Source.sockaddr, List.append_assoc]
      rw [if_pos (family_at _ _), port_at]
      have octets := byteAt_middle (toNeBytes16 order afInet ++ toBeBytes16 port) addr.toList (List.replicate 8 0 ++ rest)
      simp only [List.append_assoc, List.length_append, length_toNeBytes16, length_toBeBytes16, Vector.length_toList]
        at octets
      have same : (Vector.ofFn fun i : Fin 4 => byteAt (toNeBytes16 order afInet ++ (toBeBytes16 port ++ (addr.toList ++
          (List.replicate 8 0 ++ rest)))) (4 + i)) = addr := by
        ext i inside
        rw [Vector.getElem_ofFn, octets i inside, Vector.getElem_toList]
      rw [same]
      rfl
  | inet6 addr port flowinfo scopeId =>
      simp only [Source.sockaddr, List.append_assoc]
      rw [if_neg (by rw [family_at]; decide), if_pos (family_at _ _), port_at]
      have segments := be16At_flatMap (toNeBytes16 order afInet6 ++ (toBeBytes16 port ++ toBeBytes flowinfo))
        (toNeBytes order scopeId ++ rest) addr.toList
      simp only [List.append_assoc, List.length_append, length_toNeBytes16, length_toBeBytes16, length_toBeBytes,
        Vector.length_toList] at segments
      have same : (Vector.ofFn fun i : Fin 8 => be16At (toNeBytes16 order afInet6 ++ (toBeBytes16 port ++
          (toBeBytes flowinfo ++ (addr.toList.flatMap toBeBytes16 ++ (toNeBytes order scopeId ++ rest))))) (8 + 2 * i)) =
            addr := by
        ext i inside
        rw [Vector.getElem_ofFn, segments i inside, Vector.getElem_toList]
      rw [same]
      rfl
  | other family after foreign short =>
      simp only [Source.sockaddr, List.append_assoc, family_at]
      rw [if_neg foreign.1, if_neg foreign.2]
      rfl

end Sockaddr

namespace BatchRecv

structure Allocated (s : BatchRecv) : Prop where
  mem : s.mem.length = s.pktBuf * s.batch
  addrs : s.addrs.length = s.batch
  iovecs : s.iovecs.length = s.batch
  msgs : s.msgs.length = s.batch

theorem new_allocated (outerMtu : UInt16) : (new outerMtu).Allocated :=
  ⟨List.length_replicate, List.length_replicate, List.length_replicate, List.length_replicate⟩

def pointed (s : BatchRecv) (n : Nat) : BatchRecv :=
  { s with
    iovecs := s.iovecs.mapIdx fun i vec => if i < n then slotVec s.pktBuf i else vec
    msgs := s.msgs.mapIdx fun i msg => if i < n then { msg with msgHdr := slotHdr i } else msg }

theorem pointed_allocated {s : BatchRecv} (allocated : s.Allocated) (n : Nat) : (s.pointed n).Allocated :=
  ⟨allocated.mem, allocated.addrs, by simp [pointed, allocated.iovecs], by simp [pointed, allocated.msgs]⟩

theorem set_mapIdx {α : Type} (entries : List α) (f : Nat → α → α) {n : Nat} {entry : α} (here : entries[n]? = some entry) :
    (entries.mapIdx fun i a => if i < n then f i a else a).set n (f n entry) =
      entries.mapIdx fun i a => if i < n + 1 then f i a else a := by
  apply List.ext_getElem?
  intro i
  rw [List.getElem?_set]
  by_cases same : n = i
  · subst same
    obtain ⟨inside, rfl⟩ := List.getElem?_eq_some_iff.mp here
    simp [inside]
  · have order : i < n ↔ i < n + 1 := by omega
    simp [same, order]

theorem setUpSlot_pointed {s : BatchRecv} (allocated : s.Allocated) {n : Nat} (inside : n < s.batch) :
    setUpSlot (s.pointed n) n = .ok (s.pointed (n + 1)) := by
  obtain ⟨vec, vecAt⟩ : ∃ vec, s.iovecs[n]? = some vec := ⟨_, List.getElem?_eq_getElem (by rw [allocated.iovecs]; exact inside)⟩
  obtain ⟨msg, msgAt⟩ : ∃ msg, s.msgs[n]? = some msg := ⟨_, List.getElem?_eq_getElem (by rw [allocated.msgs]; exact inside)⟩
  obtain ⟨storage, addrAt⟩ : ∃ storage, s.addrs[n]? = some storage :=
    ⟨_, List.getElem?_eq_getElem (by rw [allocated.addrs]; exact inside)⟩
  have shape := pointed_allocated allocated n
  have msgNow : (s.pointed n).msgs[n]? = some msg := by simp [pointed, msgAt]
  unfold setUpSlot
  rw [setEntry_ok _ (by rw [shape.iovecs]; exact inside), bind_ok, entryAt_some msgNow, bind_ok,
    @entryAt_some _ (s.pointed n).addrs n storage addrAt, bind_ok, setEntry_ok _ (by rw [shape.msgs]; exact inside), bind_ok]
  have vecs := set_mapIdx s.iovecs (fun i _ => slotVec s.pktBuf i) vecAt
  have msgs := set_mapIdx s.msgs (fun i msg => { msg with msgHdr := slotHdr i }) msgAt
  simp only [pointed, pure_eq_ok] at vecs msgs ⊢
  rw [vecs, msgs]

theorem setUp_eq {s : BatchRecv} (allocated : s.Allocated) : s.setUp = .ok (s.pointed s.batch) := by
  have passes : ∀ n ≤ s.batch, (List.range n).foldlM setUpSlot s = .ok (s.pointed n) := by
    intro n bounded
    induction n with
    | zero => simp [pointed, List.mapIdx_eq_zipIdx_map]
    | succ n ih =>
        rw [List.range_succ, List.foldlM_append, ih (by omega), bind_ok, List.foldlM_cons,
          setUpSlot_pointed allocated bounded]
        rfl
  exact passes s.batch (Nat.le_refl _)

section Slots

variable {order : ByteOrder} {s : BatchRecv} {i j : Nat} {d e : Datagram}

structure PointsAt (s : BatchRecv) (i : Nat) : Prop where
  vec : s.iovecs[i]? = some (slotVec s.pktBuf i)
  msg : ∃ len, s.msgs[i]? = some { msgHdr := slotHdr i, msgLen := len }

structure Holds (order : ByteOrder) (s : BatchRecv) (i : Nat) (d : Datagram) : Prop where
  data : d.data <+: slice s.mem (i * s.pktBuf) (i * s.pktBuf + s.pktBuf)
  size : ∃ hdr, s.msgs[i]? = some { msgHdr := hdr, msgLen := d.data.length }
  source : ∃ storage, s.addrs[i]? = some storage ∧ d.source.sockaddr order <+: storage.bytes

theorem pointed_pointsAt (allocated : s.Allocated) (inside : i < s.batch) : (s.pointed s.batch).PointsAt i := by
  have vecs := allocated.iovecs
  have msgs := allocated.msgs
  constructor
  · simp [pointed, inside, vecs]
  · simp [pointed, inside, msgs]

theorem slots_apart (p : Nat) (different : j ≠ i) : j * p + p ≤ i * p ∨ i * p + p ≤ j * p := by
  rw [← Nat.succ_mul, ← Nat.succ_mul]
  rcases Nat.lt_or_gt_of_ne different with before | behind
  · exact .inl (Nat.mul_le_mul_right p before)
  · exact .inr (Nat.mul_le_mul_right p behind)

theorem slot_inside (allocated : s.Allocated) (inside : i < s.batch) : i * s.pktBuf + s.pktBuf ≤ s.mem.length := by
  rw [allocated.mem, ← Nat.succ_mul, Nat.mul_comm s.pktBuf]
  exact Nat.mul_le_mul_right s.pktBuf inside

def filled (order : ByteOrder) (s : BatchRecv) (i : Nat) (d : Datagram) : BatchRecv :=
  { s with
    mem := overwrite s.mem (i * s.pktBuf) d.data
    addrs := s.addrs.modify i fun storage => storage.put (d.source.sockaddr order)
    msgs := s.msgs.set i
      { msgHdr := { slotHdr i with msgNamelen := (d.source.sockaddr order).length }, msgLen := d.data.length } }

theorem fill_eq (allocated : s.Allocated) (points : s.PointsAt i) (inside : i < s.batch) (fits : d.data.length ≤ s.pktBuf) :
    fill order s i d = .ok (filled order s i d) := by
  obtain ⟨len, msgAt⟩ := points.msg
  have room := slot_inside allocated inside
  have vecs : (s.iovecs.drop i).take 1 = [slotVec s.pktBuf i] := by
    rw [List.take_one, List.head?_drop, points.vec]
    rfl
  have written : scatter s.mem [slotVec s.pktBuf i] d.data = .ok (overwrite s.mem (i * s.pktBuf) d.data, d.data.length) := by
    have whole : d.data.take s.pktBuf = d.data := List.take_of_length_le fits
    simp only [scatter, slotVec, orReject_some, bind_ok, whole]
    rw [copyFromSlice_ok rfl (by omega), bind_ok]
    rfl
  obtain ⟨storage, addrAt⟩ : ∃ storage, s.addrs[i]? = some storage :=
    ⟨_, List.getElem?_eq_getElem (by rw [allocated.addrs]; exact inside)⟩
  have name : (d.source.sockaddr order).take 128 = d.source.sockaddr order :=
    List.take_of_length_le (d.source.length_sockaddr order)
  have put : s.addrs.set i (storage.put (d.source.sockaddr order)) =
      s.addrs.modify i fun storage => storage.put (d.source.sockaddr order) := by
    rw [List.modify_eq_set_getElem?, addrAt]
    rfl
  unfold fill
  rw [entryAt_some msgAt, bind_ok]
  simp only [slotHdr, orReject_some, bind_ok, vecs, written, name]
  rw [entryAt_some addrAt, bind_ok, setEntry_ok _ (by rw [allocated.addrs]; exact inside), bind_ok,
    setEntry_ok _ (by rw [allocated.msgs]; exact inside), bind_ok, put]
  rfl

theorem filled_allocated (allocated : s.Allocated) : (filled order s i d).Allocated :=
  ⟨by simp [filled, allocated.mem], by simp [filled, allocated.addrs], allocated.iovecs, by simp [filled, allocated.msgs]⟩

theorem filled_pointsAt (different : j ≠ i) (points : s.PointsAt j) : (filled order s i d).PointsAt j := by
  obtain ⟨len, msgAt⟩ := points.msg
  exact ⟨points.vec, len, by rw [filled, List.getElem?_set_ne different.symm, msgAt]⟩

theorem filled_holds (allocated : s.Allocated) (inside : i < s.batch) (fits : d.data.length ≤ s.pktBuf) :
    (filled order s i d).Holds order i d := by
  have room := slot_inside allocated inside
  constructor
  · have whole := slice_overwrite_inside s.mem d.data (Nat.le_refl (i * s.pktBuf)) (Nat.add_le_add_left fits _) room
    have empty : slice s.mem (i * s.pktBuf) (i * s.pktBuf) = [] := by rw [slice, Nat.sub_self, List.take_zero]
    rw [empty, List.nil_append] at whole
    exact ⟨_, whole.symm⟩
  · exact ⟨_, List.getElem?_set_self (by rw [allocated.msgs]; exact inside)⟩
  · obtain ⟨storage, addrAt⟩ : ∃ storage, s.addrs[i]? = some storage :=
      ⟨_, List.getElem?_eq_getElem (by rw [allocated.addrs]; exact inside)⟩
    refine ⟨storage.put (d.source.sockaddr order), ?_, ?_⟩
    · simp [filled, addrAt]
    · refine ⟨_, Eq.symm (overwrite_zero _ _ ?_)⟩
      rw [storage.size]
      exact d.source.length_sockaddr order

theorem Holds.of_overwrite {new : Buf} (held : s.Holds order j e) (different : j ≠ i) (short : new.length ≤ s.pktBuf)
    (current : Nat) : Holds order { s with mem := overwrite s.mem (i * s.pktBuf) new, current } j e := by
  have apart := slots_apart s.pktBuf different
  refine ⟨?_, held.size, held.source⟩
  simp only
  rw [slice_overwrite_other _ _ (by omega)]
  exact held.data

theorem filled_keeps (held : s.Holds order j e) (different : j ≠ i) (fits : d.data.length ≤ s.pktBuf) :
    (filled order s i d).Holds order j e := by
  obtain ⟨hdr, msgAt⟩ := held.size
  obtain ⟨storage, addrAt, name⟩ := held.source
  refine ⟨(held.of_overwrite different fits s.current).data, ⟨hdr, ?_⟩, storage, ?_, name⟩
  · rw [filled, List.getElem?_set_ne different.symm, msgAt]
  · rw [filled, List.getElem?_modify_ne _ _ different.symm, addrAt]

theorem recvmmsg_ok {ds : List Datagram} (allocated : s.Allocated) (points : ∀ j, i ≤ j → j < s.batch → s.PointsAt j)
    (room : i + ds.length ≤ s.batch) (fits : ∀ d ∈ ds, d.data.length ≤ s.pktBuf) :
    ∃ s', recvmmsg order s i ds = .ok s' ∧ s'.Allocated ∧ s'.pktBuf = s.pktBuf ∧ s'.batch = s.batch ∧
      (∀ k d, ds[k]? = some d → s'.Holds order (i + k) d) ∧ ∀ j < i, ∀ e, s.Holds order j e → s'.Holds order j e := by
  induction ds generalizing s i with
  | nil => exact ⟨s, rfl, allocated, rfl, rfl, nofun, fun _ _ _ held => held⟩
  | cons d ds ih =>
      obtain ⟨here, later⟩ := List.forall_mem_cons.mp fits
      have inside : i < s.batch := by simp only [List.length_cons] at room; omega
      have rest : ∀ j, i + 1 ≤ j → j < s.batch → (filled order s i d).PointsAt j := fun j behind bounded =>
        filled_pointsAt (by omega) (points j (by omega) bounded)
      obtain ⟨s', done, allocated', pktBuf, batch, held, kept⟩ :=
        @ih (filled order s i d) (i + 1) (filled_allocated allocated) rest
          (by simp only [List.length_cons, filled] at room ⊢; omega) later
      refine ⟨s', ?_, allocated', pktBuf, batch, ?_, ?_⟩
      · rw [recvmmsg, fill_eq allocated (points i (Nat.le_refl i) inside) inside here, bind_ok, done]
      · intro k e found
        cases k with
        | zero =>
            cases found
            exact kept i (Nat.lt_succ_self i) d (filled_holds allocated inside here)
        | succ k =>
            have slot := held k e found
            rwa [show i + 1 + k = i + (k + 1) by omega] at slot
      · intro j before e slot
        exact kept j (by omega) e (filled_keeps slot (by omega) here)

end Slots

end BatchRecv

def RecvResult.seen : RecvResult → RecvResult
  | .received start stop bytes size src => .received start stop (bytes.take size) size src
  | .badSockaddr => .badSockaddr
  | .osError => .osError

def Observed.seen : Observed → Observed
  | .recvmmsg answer => .recvmmsg answer
  | .returned result => .returned result.seen

def delivery (pktBuf : Nat) (item : Datagram × Nat) : RecvResult :=
  match item.1.source.socketAddr with
  | some src => .received (item.2 * pktBuf) (item.2 * pktBuf + pktBuf) item.1.data item.1.data.length src
  | none => .badSockaddr

def shown (pktBuf : Nat) : Batches.Event (Datagram × Nat) → Observed
  | .fetched batch => .recvmmsg (batch.map Prod.fst)
  | .taken item => .returned (delivery pktBuf item)
  | .failed => .returned .osError

namespace BatchRecv

section Run

variable {order : ByteOrder} {s : BatchRecv} {d : Datagram} {ds : List Datagram}

structure Pending (order : ByteOrder) (s : BatchRecv) (ds : List Datagram) : Prop where
  allocated : s.Allocated
  count : s.count = s.current + ds.length
  bounded : s.count ≤ s.batch
  holds : ∀ k d, ds[k]? = some d → s.Holds order (s.current + k) d

theorem new_pending (order : ByteOrder) (outerMtu : UInt16) : (new outerMtu).Pending order [] :=
  ⟨new_allocated outerMtu, rfl, Nat.zero_le _, nofun⟩

structure Leaves (order : ByteOrder) (s s' : BatchRecv) (ds : List Datagram) (current : Nat) : Prop where
  pending : s'.Pending order ds
  current : s'.current = current
  pktBuf : s'.pktBuf = s.pktBuf
  batch : s'.batch = s.batch

theorem Pending.tail (pending : s.Pending order (d :: ds)) (new : Buf) (short : new.length ≤ s.pktBuf) :
    Leaves order s { s with mem := overwrite s.mem (s.current * s.pktBuf) new, current := s.current + 1 } ds
      (s.current + 1) := by
  have count := pending.count
  have allocated := pending.allocated
  simp only [List.length_cons] at count
  refine ⟨⟨⟨(length_overwrite _ _ _).trans allocated.mem, allocated.addrs, allocated.iovecs, allocated.msgs⟩, ?_,
    pending.bounded, fun k e found => ?_⟩, rfl, rfl, rfl⟩
  · simp only
    omega
  · have behind : s.current + (k + 1) ≠ s.current := by omega
    have held := (pending.holds (k + 1) e found).of_overwrite behind short (s.current + 1)
    rwa [show s.current + (k + 1) = s.current + 1 + k by omega] at held

theorem handOut_eq (pending : s.Pending order (d :: ds)) :
    ∃ result s', handOut order s = .ok (result, s') ∧ result.seen = delivery s.pktBuf (d, s.current) ∧
      ∀ use, Leaves order s (s'.afterUse use result) ds (s.current + 1) := by
  have count := pending.count
  have bounded := pending.bounded
  have held := pending.holds 0 d rfl
  obtain ⟨hdr, msgAt⟩ := held.size
  obtain ⟨storage, addrAt, name⟩ := held.source
  obtain ⟨stale, bytes⟩ := held.data
  simp only [List.length_cons] at count
  rw [Nat.add_zero] at msgAt addrAt bytes
  have room := slot_inside pending.allocated (show s.current < s.batch by omega)
  unfold handOut delivery
  simp only
  rw [entryAt_some msgAt, bind_ok, entryAt_some addrAt, bind_ok, mmsgSockaddr_eq name]
  cases d.source.socketAddr with
  | none =>
      have same := pending.tail [] (Nat.zero_le _)
      rw [overwrite_nil] at same
      exact ⟨.badSockaddr, _, rfl, rfl, fun use => same⟩
  | some src =>
      simp only
      rw [subslice_ok (Nat.le_add_right _ _) room, bind_ok]
      refine ⟨_, _, rfl, ?_, fun use => pending.tail _ ?_⟩
      · rw [← bytes, RecvResult.seen, List.take_left]
      · rw [List.length_take, length_slice]
        omega

structure Fits (pktBuf batch : Nat) (answer : List Datagram) : Prop where
  slots : answer.length ≤ batch
  sizes : ∀ d ∈ answer, d.data.length ≤ pktBuf

theorem refill_eq (allocated : s.Allocated) (fits : Fits s.pktBuf s.batch ds) :
    ∃ s', recvmmsg order (s.pointed s.batch) 0 ds = .ok s' ∧
      Leaves order s { s' with count := ds.length, current := 0 } ds 0 := by
  obtain ⟨s', done, shape, pktBuf, batch, held, -⟩ := @recvmmsg_ok order (s.pointed s.batch) 0 ds
    (pointed_allocated allocated _) (fun j _ inside => pointed_pointsAt allocated inside)
    (by rw [Nat.zero_add]; exact fits.slots) fits.sizes
  refine ⟨s', done, ⟨⟨shape.mem, shape.addrs, shape.iovecs, shape.msgs⟩, (Nat.zero_add _).symm, ?_, ?_⟩, rfl, pktBuf, batch⟩
  · simp only [batch]
    exact fits.slots
  · intro k d found
    obtain ⟨data, size, source⟩ := held k d found
    exact ⟨data, size, source⟩

theorem recv_kept (pending : s.Pending order (d :: ds)) (answers : List (List Datagram)) :
    ∃ result s', s.recv order answers = .ok (some { shown := [.returned result], result, state := s', answers }) ∧
      result.seen = delivery s.pktBuf (d, s.current) ∧
      ∀ use, Leaves order s (s'.afterUse use result) ds (s.current + 1) := by
  obtain ⟨result, s', done, seen, later⟩ := handOut_eq pending
  have count := pending.count
  simp only [List.length_cons] at count
  refine ⟨result, s', ?_, seen, later⟩
  rw [recv, if_neg (by omega), done]
  rfl

theorem recv_refilled (pending : s.Pending order []) (fits : Fits s.pktBuf s.batch (d :: ds))
    (answers : List (List Datagram)) :
    ∃ result s', s.recv order ((d :: ds) :: answers) =
        .ok (some { shown := [.recvmmsg (d :: ds), .returned result], result, state := s', answers }) ∧
      result.seen = delivery s.pktBuf (d, 0) ∧ ∀ use, Leaves order s (s'.afterUse use result) ds 1 := by
  obtain ⟨middle, done, filled⟩ := @refill_eq order s (d :: ds) pending.allocated fits
  obtain ⟨result, s', out, seen, later⟩ := handOut_eq filled.pending
  have count := pending.count
  simp only [List.length_nil, Nat.add_zero] at count
  refine ⟨result, s', ?_, ?_, fun use => ?_⟩
  · rw [recv, if_pos (by omega), setUp_eq pending.allocated, bind_ok]
    simp only
    rw [done, bind_ok, if_neg (by simp), out]
    rfl
  · rw [← filled.pktBuf]
    exact seen
  · obtain ⟨kept, current, pktBuf, batch⟩ := later use
    exact ⟨kept, current, pktBuf.trans filled.pktBuf, batch.trans filled.batch⟩

theorem recv_idle (pending : s.Pending order []) :
    s.recv order [] = .ok none ∧ ∀ answers, s.recv order ([] :: answers) =
      .ok (some { shown := [.recvmmsg [], .returned .osError], result := .osError, state := s.pointed s.batch, answers }) := by
  have count := pending.count
  simp only [List.length_nil, Nat.add_zero] at count
  constructor
  · rw [recv, if_pos (by omega), setUp_eq pending.allocated]
    rfl
  · intro answers
    rw [recv, if_pos (by omega), setUp_eq pending.allocated]
    rfl

theorem Pending.pointed (pending : s.Pending order []) : (s.pointed s.batch).Pending order [] :=
  ⟨pointed_allocated pending.allocated _, pending.count, pending.bounded, nofun⟩

theorem run_reads (uses : Nat → Buf → Buf) (calls : Nat) {answers : List (List Datagram)} (pending : s.Pending order ds)
    (fits : ∀ answer ∈ answers, Fits s.pktBuf s.batch answer) :
    ∃ trace, run order uses calls s answers = .ok trace ∧
      trace.map Observed.seen =
        (Batches.reads (answers.map List.zipIdx) (ds.zipIdx s.current) calls).map (shown s.pktBuf) := by
  induction calls generalizing s ds answers with
  | zero => exact ⟨[], rfl, rfl⟩
  | succ calls ih =>
      rw [run]
      cases ds with
      | cons d ds =>
          obtain ⟨result, s', done, seen, later⟩ := recv_kept pending answers
          obtain ⟨kept, current, pktBuf, batch⟩ := later (uses calls)
          obtain ⟨trace, rest, same⟩ := ih kept (by rwa [pktBuf, batch])
          rw [done, bind_ok]
          simp only
          rw [rest, bind_ok]
          refine ⟨_, rfl, ?_⟩
          rw [List.map_append, same]
          simp [Batches.reads, shown, Observed.seen, seen, current, pktBuf]
      | nil =>
          cases answers with
          | nil =>
              rw [(recv_idle pending).1]
              exact ⟨[], rfl, rfl⟩
          | cons answer answers =>
              obtain ⟨here, others⟩ := List.forall_mem_cons.mp fits
              cases answer with
              | nil =>
                  obtain ⟨trace, rest, same⟩ := ih pending.pointed others
                  rw [(recv_idle pending).2, bind_ok]
                  simp only [afterUse]
                  rw [rest, bind_ok]
                  refine ⟨_, rfl, ?_⟩
                  rw [List.map_append, same]
                  simp [Batches.reads, shown, Observed.seen, RecvResult.seen, pointed]
              | cons d ds =>
                  obtain ⟨result, s', done, seen, later⟩ := recv_refilled pending here answers
                  obtain ⟨kept, current, pktBuf, batch⟩ := later (uses calls)
                  obtain ⟨trace, rest, same⟩ := ih kept (by rw [pktBuf, batch]; exact others)
                  rw [done, bind_ok]
                  simp only
                  rw [rest, bind_ok]
                  refine ⟨_, rfl, ?_⟩
                  rw [List.map_append, same]
                  simp [Batches.reads, shown, Observed.seen, seen, pktBuf, current, List.zipIdx_cons]

end Run

end BatchRecv

def Observed.result? : Observed → Option RecvResult
  | .recvmmsg _ => none
  | .returned result => some result

def Observed.answer? : Observed → Option (List Datagram)
  | .recvmmsg answer => some answer
  | .returned _ => none

structure DeliversOnce (pktBuf : Nat) (answers : List (List Datagram)) (calls : Nat) (trace : List Observed) : Prop where
  results : (trace.filterMap Observed.result?).map RecvResult.seen =
    ((answers.flatMap List.zipIdx).take calls).map (delivery pktBuf)
  answered : trace.filterMap Observed.answer? <+: answers
  drained : ∀ before answer after, trace = before ++ .recvmmsg answer :: after →
    (before.filterMap Observed.result?).map RecvResult.seen =
      ((before.filterMap Observed.answer?).flatMap List.zipIdx).map (delivery pktBuf)

section Once

variable {pktBuf : Nat} {trace : List Observed} {events : List (Batches.Event (Datagram × Nat))}

theorem results_of_shown (same : trace.map Observed.seen = events.map (shown pktBuf)) {items : List (Datagram × Nat)}
    (taken : events.filterMap Batches.Event.result? = items.map some) :
    (trace.filterMap Observed.result?).map RecvResult.seen = items.map (delivery pktBuf) := by
  have left : (trace.filterMap Observed.result?).map RecvResult.seen =
      (trace.map Observed.seen).filterMap Observed.result? := by
    rw [List.map_filterMap, List.filterMap_map]
    refine List.filterMap_congr fun o _ => ?_
    cases o <;> rfl
  have right : (events.map (shown pktBuf)).filterMap Observed.result? =
      (events.filterMap Batches.Event.result?).map fun item => item.elim .osError (delivery pktBuf) := by
    rw [List.map_filterMap, List.filterMap_map]
    refine List.filterMap_congr fun e _ => ?_
    cases e <;> rfl
  rw [left, same, right, taken, List.map_map]
  rfl

theorem answers_of_shown (same : trace.map Observed.seen = events.map (shown pktBuf)) :
    trace.filterMap Observed.answer? = (events.filterMap Batches.Event.batch?).map (List.map Prod.fst) := by
  have left : (trace.map Observed.seen).filterMap Observed.answer? = trace.filterMap Observed.answer? := by
    rw [List.filterMap_map]
    refine List.filterMap_congr fun o _ => ?_
    cases o <;> rfl
  have right : (events.map (shown pktBuf)).filterMap Observed.answer? =
      (events.filterMap Batches.Event.batch?).map (List.map Prod.fst) := by
    rw [List.map_filterMap, List.filterMap_map]
    refine List.filterMap_congr fun e _ => ?_
    cases e <;> rfl
  rw [← left, same, right]

theorem deliversOnce_of_reads {answers : List (List Datagram)} {calls : Nat} (full : ∀ answer ∈ answers, 1 ≤ answer.length)
    (same : trace.map Observed.seen = (Batches.reads (answers.map List.zipIdx) [] calls).map (shown pktBuf)) :
    DeliversOnce pktBuf answers calls trace := by
  have indexed : ∀ batch ∈ answers.map List.zipIdx, batch ≠ [] := by
    intro batch member
    obtain ⟨answer, inside, rfl⟩ := List.mem_map.mp member
    have one := full answer inside
    exact List.ne_nil_of_length_pos (by rw [List.length_zipIdx]; omega)
  have fsts : ∀ answers : List (List Datagram), (answers.map List.zipIdx).map (List.map Prod.fst) = answers := by
    intro answers
    simp [List.map_map, Function.comp_def, List.zipIdx_map_fst]
  refine ⟨?_, ?_, ?_⟩
  · have taken := @Batches.results_reads _ _ [] calls indexed
    rw [List.nil_append, ← List.flatMap_def] at taken
    exact results_of_shown same taken
  · rw [answers_of_shown same]
    have order := (Batches.batches_reads (answers.map List.zipIdx) [] calls).map (List.map Prod.fst)
    rwa [fsts] at order
  · intro before answer after split
    rw [split, List.map_append, List.map_cons] at same
    obtain ⟨front, rest, whole, frontSame, restSame⟩ := List.map_eq_append_iff.mp same.symm
    obtain ⟨event, later, rfl, here, -⟩ := List.map_eq_cons_iff.mp restSame
    cases event with
    | taken item => cases here
    | failed => cases here
    | fetched batch =>
        have order := Batches.batches_reads (answers.map List.zipIdx) [] calls
        have taken := Batches.reads_drained indexed whole
        rw [whole, List.filterMap_append] at order
        -- the batches fetched so far are the first answers with their indices
        have first := List.prefix_iff_eq_take.mp ((List.prefix_append _ _).trans order)
        rw [← List.map_take] at first
        rw [results_of_shown frontSame.symm taken, answers_of_shown frontSame.symm, first, fsts, List.flatMap_def,
          List.nil_append]

end Once

namespace BatchRecv

def ReceivesOnce (outerMtu : UInt16) : Prop :=
  1 ≤ (new outerMtu).batch ∧
    ∀ order uses answers calls,
      (∀ answer ∈ answers, 1 ≤ answer.length ∧ Fits (new outerMtu).pktBuf (new outerMtu).batch answer) →
        ∃ trace, run order uses calls (new outerMtu) answers = .ok trace ∧
          DeliversOnce (new outerMtu).pktBuf answers calls trace

theorem one_le_batch_iff (outerMtu : UInt16) : 1 ≤ (new outerMtu).batch ↔ outerMtu.toNat ≤ 64988 := by
  have slots : 1 ≤ 65536 / max (outerMtu.toNat + 548) 2048 ↔ outerMtu.toNat ≤ 64988 := by
    rw [Nat.le_div_iff_mul_le (by omega)]
    omega
  simp only [new]
  omega

-- a larger MTU leaves no room for a single slot
theorem receivesOnce_iff (outerMtu : UInt16) : ReceivesOnce outerMtu ↔ outerMtu.toNat ≤ 64988 := by
  constructor
  · intro once
    exact (one_le_batch_iff outerMtu).mp once.1
  · intro small
    refine ⟨(one_le_batch_iff outerMtu).mpr small, fun order uses answers calls valid => ?_⟩
    obtain ⟨trace, done, same⟩ := run_reads uses calls (new_pending order outerMtu) fun answer member => (valid answer member).2
    exact ⟨trace, done, deliversOnce_of_reads (fun answer member => (valid answer member).1) same⟩

theorem starved_64989 :
    (new 64989).batch = 0 ∧ ¬ReceivesOnce 64989 ∧
      run .little (fun _ slot => slot) 1 (new 64989) [[]] = .ok [.recvmmsg [], .returned .osError] := by
  refine ⟨by decide, fun once => absurd once.1 (by decide), rfl⟩

end BatchRecv

end Gutd.Userspace
