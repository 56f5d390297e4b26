import Gutd.Bpf.ReplyLoop
import Gutd.Bpf.WellFormed

set_option autoImplicit false

namespace Gutd.Bpf

open Bytes Checked Checksum Wire

def replySum (addresses datagram : Buf) : Nat :=
  let words := 4 * (datagram.length / 4)
  ones32 (sumLe32 addresses + sumLe32 (pseudoHeader datagram.length) + sumLe32 (datagram.take words)) +
    leNat (datagram.drop words)

theorem csumChunks_short (data : Buf) {width len : Nat} (short : len < width) (count off csum : Nat) :
    csumChunks data width count off len csum = (off, len, csum) := by
  induction count with
  | zero => rfl
  | succ count ih => rw [csumChunks, if_neg (by omega), ih]

theorem csumChunks_words (data : Buf) (count : Nat) {off len : Nat} (s : Nat) (enough : len / 4 ≤ count)
    (inside : off + len ≤ data.length) :
    csumChunks data 4 count off len (ones32 s) =
      (off + 4 * (len / 4), len % 4, ones32 (s + sumLe32 (slice data off (off + 4 * (len / 4))))) := by
  induction count generalizing off len s with
  | zero =>
      have none : len / 4 = 0 := by omega
      have empty : slice data off off = [] := by simp [slice]
      rw [csumChunks, none, Nat.mul_zero, Nat.add_zero, empty, Nat.mod_eq_of_lt (by omega)]
      rfl
  | succ count ih =>
      rw [csumChunks]
      by_cases more : len ≥ 4
      · have words : len / 4 = (len - 4) / 4 + 1 := by omega
        have ends : off + 4 + 4 * ((len - 4) / 4) = off + 4 * (len / 4) := by omega
        have first : (slice data off (off + 4)).length % 4 = 0 := by
          simp only [length_slice]
          omega
        rw [if_pos more, if_neg (by omega), csumDiff, ones32_add, ih _ (by omega) (by omega), ends,
          ← slice_append_slice data (by omega : off ≤ off + 4) (by omega : off + 4 ≤ off + 4 * (len / 4)),
          sumLe32_append first, Nat.add_assoc s, (by omega : (len - 4) % 4 = len % 4)]
      · have none : len / 4 = 0 := by omega
        have empty : slice data off off = [] := by simp [slice]
        rw [if_neg more, csumChunks_short data (by omega), none, Nat.mul_zero, Nat.add_zero, empty,
          Nat.mod_eq_of_lt (by omega)]
        rfl

theorem calcPayloadCsum_eq {data : Buf} {off len : Nat} (s : Nat) (short : len < 64) (inside : off + len ≤ data.length) :
    calcPayloadCsum data off len (ones32 s) =
      (ones32 (s + sumLe32 (slice data off (off + 4 * (len / 4)))) + leNat (slice data (off + 4 * (len / 4)) (off + len))) %
        2 ^ 32 := by
  have split : off + 4 * (len / 4) + len % 4 = off + len := by omega
  have bound := ones32_lt (s + sumLe32 (slice data off (off + 4 * (len / 4))))
  unfold calcPayloadCsum
  rw [csumChunks_short data short]
  dsimp only
  rw [csumChunks_words data 15 s (by omega) inside]
  dsimp only
  rw [split]
  split_ifs with tail
  · rfl
  · have none : slice data (off + 4 * (len / 4)) (off + len) = [] := by
      apply List.eq_nil_of_length_eq_zero
      simp only [length_slice]
      omega
    rw [none, leNat, Nat.add_zero, Nat.mod_eq_of_lt bound]

theorem reply_verifies {addresses front rest : Buf} (words : addresses.length % 4 = 0) (six : front.length = 6) :
    ones16 (sumBe (addresses ++ (pseudoHeader (front ++ ([0, 0] ++ rest)).length ++
        (front ++ (toLeBytes16 (csumFold (replySum addresses (front ++ ([0, 0] ++ rest)) % 2 ^ 32)) ++ rest))))) = 0xFFFF ↔
      replySum addresses (front ++ ([0, 0] ++ rest)) < 2 ^ 32 := by
  have zeros : sumBe [(0 : UInt8), 0] = 0 := by decide
  have whole : sumBe (front ++ ([0, 0] ++ rest)) = sumBe front + sumBe rest := by
    rw [sumBe_append (by omega), sumBe_append (by simp), zeros, Nat.zero_add]
  generalize front ++ ([0, 0] ++ rest) = datagram at whole ⊢
  have taken : (datagram.take (4 * (datagram.length / 4))).length = 4 * (datagram.length / 4) := by
    rw [List.length_take]
    omega
  have split : sumBe datagram = sumBe (datagram.take (4 * (datagram.length / 4))) +
      sumBe (datagram.drop (4 * (datagram.length / 4))) := by
    rw [← sumBe_append (by omega), List.take_append_drop]
  have inAddresses := (sumBe_sumLe32 words).1
  have inPseudo := (@sumBe_sumLe32 (pseudoHeader datagram.length) (by simp [pseudoHeader])).1
  have inWords := (@sumBe_sumLe32 (datagram.take (4 * (datagram.length / 4))) (by omega)).1
  have inTail := (sumBe_leNat (datagram.drop (4 * (datagram.length / 4)))).1
  have protocol : 17 ≤ sumBe (pseudoHeader datagram.length) := by
    simp only [pseudoHeader, List.cons_append, sumBe]
    have value : ipprotoUdp.toNat = 17 := rfl
    omega
  have tail : leNat (datagram.drop (4 * (datagram.length / 4))) < 2 ^ 24 := by
    refine leNat_lt ?_
    rw [List.length_drop]
    omega
  have total : replySum addresses datagram = ones32 (sumLe32 addresses + sumLe32 (pseudoHeader datagram.length) +
    sumLe32 (datagram.take (4 * (datagram.length / 4)))) + leNat (datagram.drop (4 * (datagram.length / 4))) := rfl
  have class' : 2 ^ 8 * replySum addresses datagram % 0xFFFF =
      (sumBe addresses + sumBe (pseudoHeader datagram.length) + (sumBe front + sumBe rest)) % 0xFFFF := by
    have folded := ones32_mod (sumLe32 addresses + sumLe32 (pseudoHeader datagram.length) +
      sumLe32 (datagram.take (4 * (datagram.length / 4))))
    have added : 2 ^ 8 * (sumLe32 addresses + sumLe32 (pseudoHeader datagram.length) +
        sumLe32 (datagram.take (4 * (datagram.length / 4)))) % 0xFFFF = (sumBe addresses + sumBe (pseudoHeader datagram.length) +
          sumBe (datagram.take (4 * (datagram.length / 4)))) % 0xFFFF := by
      omega
    omega
  have bound := ones32_lt (sumLe32 addresses + sumLe32 (pseudoHeader datagram.length) +
    sumLe32 (datagram.take (4 * (datagram.length / 4))))
  obtain ⟨cancels, -⟩ := sumBe_csumFold (n := replySum addresses datagram % 2 ^ 32) (Nat.mod_lt _ (by decide))
  rw [ones16_eq_full, sumBe_append (by omega), sumBe_append (by simp [pseudoHeader]), sumBe_append (by omega),
    sumBe_append (by simp)]
  clear inAddresses inPseudo inWords inTail split whole
  generalize sumBe (toLeBytes16 (csumFold (replySum addresses datagram % 2 ^ 32))) = check at *
  -- a lost carry counts for one, 2 ^ 32 being one more than a multiple of all ones
  by_cases fits : replySum addresses datagram < 2 ^ 32
  · rw [Nat.mod_eq_of_lt fits] at cancels
    simp only [fits, iff_true]
    omega
  · have lost : replySum addresses datagram % 2 ^ 32 = replySum addresses datagram - 2 ^ 32 := by omega
    rw [lost] at cancels
    simp only [fits, iff_false]
    omega

section Swap

variable {frame : Buf} {off width a b : Nat}

def Exchanged (frame reply : Buf) (off width : Nat) : Prop :=
  slice reply off (off + width) = slice frame (off + width) (off + 2 * width) ∧
    slice reply (off + width) (off + 2 * width) = slice frame off (off + width)

theorem exchanged_swapFields (inside : off + 2 * width ≤ frame.length) : Exchanged frame (swapFields frame off width) off width := by
  have halves : (slice frame (off + width) (off + 2 * width)).length = width ∧ (slice frame off (off + width)).length = width := by
    simp only [length_slice]
    omega
  have written : slice (swapFields frame off width) off (off + 2 * width) =
      slice frame (off + width) (off + 2 * width) ++ slice frame off (off + width) := by
    have ends : off + 2 * width = off + (slice frame (off + width) (off + 2 * width) ++ slice frame off (off + width)).length := by
      rw [List.length_append]
      omega
    nth_rewrite 1 [ends]
    exact slice_overwrite_same _ _ _ (by omega)
  rw [← slice_append_slice _ (by omega : off ≤ off + width) (by omega : off + width ≤ off + 2 * width)] at written
  refine List.append_inj written ?_
  rw [halves.1, length_slice, swapFields, length_overwrite]
  omega

theorem slice_swapFields_other (apart : b ≤ off ∨ off + 2 * width ≤ a) :
    slice (swapFields frame off width) a b = slice frame a b := by
  refine slice_overwrite_other _ _ ?_
  simp only [List.length_append, length_slice]
  omega

theorem Exchanged.congr {mid reply reply' : Buf} (exchanged : Exchanged mid reply off width)
    (source : slice frame off (off + 2 * width) = slice mid off (off + 2 * width))
    (target : slice reply' off (off + 2 * width) = slice reply off (off + 2 * width)) : Exchanged frame reply' off width := by
  have half (buf : Buf) : slice buf off (off + width) = (slice buf off (off + 2 * width)).take width ∧
      slice buf (off + width) (off + 2 * width) = (slice buf off (off + 2 * width)).drop width := by
    have first : off + width - off = width := by omega
    have both : off + 2 * width - off = width + width := by omega
    have second : off + 2 * width - (off + width) = width := by omega
    simp only [slice, first, both, second, List.take_take, List.drop_take, List.drop_drop, Nat.add_sub_cancel_left]
    exact ⟨by rw [Nat.min_eq_left (by omega)], trivial⟩
  unfold Exchanged at *
  rwa [(half reply').1, (half reply').2, (half frame).1, (half frame).2, source, target, ← (half reply).1, ← (half reply).2,
    ← (half mid).1, ← (half mid).2]

@[simp] theorem length_swapFields : (swapFields frame off width).length = frame.length := length_overwrite _ _ _

end Swap

theorem slice_writeIpChecksum_other {frame : Buf} {ipOff a b : Nat} (apart : b ≤ ipOff + 10 ∨ ipOff + 12 ≤ a) :
    slice (writeIpChecksum ipOff frame) a b = slice frame a b := by
  unfold writeIpChecksum
  dsimp only
  rw [slice_overwrite_other _ _ (by simpa using apart), slice_overwrite_other _ _ (by simpa using apart)]

theorem be16At_writeIpChecksum_other {frame : Buf} {ipOff i : Nat} (apart : i + 2 ≤ ipOff + 10 ∨ ipOff + 12 ≤ i) :
    be16At (writeIpChecksum ipOff frame) i = be16At frame i := by
  unfold writeIpChecksum
  dsimp only
  rw [be16At_overwrite_other _ _ _ _ (by simpa using apart), be16At_overwrite_other _ _ _ _ (by simpa using apart)]

theorem be16At_of_slice {frame frame' : Buf} {a b i : Nat} (same : slice frame' a b = slice frame a b) (starts : a ≤ i)
    (ends : i + 2 ≤ b) : be16At frame' i = be16At frame i := by
  apply be16At_congr
  intro k bounded
  have byte := congrArg (byteAt · (i + k - a)) same
  simp only [byteAt_slice] at byte
  rwa [if_pos (by omega), if_pos (by omega), (by omega : a + (i + k - a) = i + k)] at byte

theorem ipHeader_congr {pos : UdpPos} {frame frame' : Buf}
    (same : slice frame' pos.ipOff (pos.ipOff + pos.ver.headerLen) = slice frame pos.ipOff (pos.ipOff + pos.ver.headerLen)) :
    ipLength pos frame' = ipLength pos frame ∧ (pos.ver = .v4 → HeaderSum frame pos.ipOff → HeaderSum frame' pos.ipOff) := by
  obtain ⟨ver, ipOff⟩ := pos
  cases ver with
  | v4 =>
      refine ⟨?_, fun _ sum => ?_⟩
      · simp only [ipLength, be16At_of_slice same (by omega : ipOff ≤ ipOff + 2) (by simp only [IpVersion.headerLen]; omega)]
      · simp only [IpVersion.headerLen] at same
        rwa [HeaderSum, same]
  | v6 =>
      refine ⟨?_, by simp⟩
      simp only [ipLength, be16At_of_slice same (by omega : ipOff ≤ ipOff + 4) (by simp only [IpVersion.headerLen]; omega)]

structure IpSized (pos : UdpPos) (n : Nat) (frame frame' : Buf) : Prop where
  length : frame'.length = frame.length
  ipLen : ipLength pos frame' = pos.ver.headerLen + n
  headerSum : pos.ver = .v4 → HeaderSum frame' pos.ipOff
  other : ∀ a b, b ≤ pos.ipOff + 2 ∨ pos.ipOff + pos.ver.saddrOff ≤ a → slice frame' a b = slice frame a b

theorem IpSized.overwrite {pos : UdpPos} {n : Nat} {frame frame' new : Buf} {off : Nat}
    (sized : IpSized pos n (overwrite frame off new) frame') (behind : pos.ipOff + 2 ≤ off)
    (before : off + new.length ≤ pos.ipOff + pos.ver.saddrOff) : IpSized pos n frame frame' := by
  refine ⟨by rw [sized.length, length_overwrite], sized.ipLen, sized.headerSum, ?_⟩
  intro a b apart
  rw [sized.other a b apart, slice_overwrite_other _ _ (by omega)]

section Sized

variable {ipOff n : Nat} {frame : Buf}

theorem ipSized_v4 (whole : ipOff + 20 ≤ frame.length) (small : n < 2 ^ 15) (total : be16At frame (ipOff + 2) = UInt16.ofNat (20 + n)) :
    IpSized { ver := .v4, ipOff } n frame (writeIpChecksum ipOff frame) := by
  refine ⟨length_writeIpChecksum _ _, ?_, fun _ => headerSum_writeIpChecksum whole, ?_⟩
  · simp only [ipLength, IpVersion.headerLen]
    rw [be16At_writeIpChecksum_other (by omega), total]
    simp
    omega
  · intro a b apart
    refine slice_writeIpChecksum_other ?_
    simp only [IpVersion.saddrOff] at apart
    omega

theorem ipSized_v6 (small : n < 2 ^ 15) {frame' : Buf} (length : frame'.length = frame.length)
    (total : be16At frame' (ipOff + 4) = UInt16.ofNat n)
    (other : ∀ a b, b ≤ ipOff + 2 ∨ ipOff + 8 ≤ a → slice frame' a b = slice frame a b) :
    IpSized { ver := .v6, ipOff } n frame frame' := by
  refine ⟨length, ?_, nofun, other⟩
  simp only [ipLength, IpVersion.headerLen, total]
  simp
  omega

def sizeQuic (pos : UdpPos) (n : Nat) (frame : Buf) : Buf :=
  match pos.ver with
  | .v4 => writeIpChecksum pos.ipOff (overwrite frame (pos.ipOff + 2) (toBeBytes16 (UInt16.ofNat (20 + n))))
  | .v6 => overwrite frame (pos.ipOff + 4) (toBeBytes16 (UInt16.ofNat n))

def sizeSip (pos : UdpPos) (n : Nat) (frame : Buf) : Buf :=
  match pos.ver with
  | .v4 =>
      let frame := overwrite frame (pos.ipOff + 2) (toBeBytes16 (UInt16.ofNat (20 + n)))
      writeIpChecksum pos.ipOff (overwrite frame (pos.ipOff + 8) [64])
  | .v6 => overwrite (overwrite frame (pos.ipOff + 4) (toBeBytes16 (UInt16.ofNat n))) (pos.ipOff + 7) [64]

variable {pos : UdpPos} (whole : pos.payloadOff ≤ frame.length) (small : n < 2 ^ 15)

include whole small

theorem ipSized_quic : IpSized pos n frame (sizeQuic pos n frame) := by
  obtain ⟨ver, ipOff⟩ := pos
  unfold sizeQuic
  cases ver with
  | v4 =>
      simp only [UdpPos.payloadOff, UdpPos.udpOff, IpVersion.headerLen] at whole
      dsimp only
      refine (ipSized_v4 ?_ small ?_).overwrite (by simp) (by simp [IpVersion.saddrOff])
      · rw [length_overwrite]
        omega
      · exact be16At_overwrite_same _ _ _ (by omega)
  | v6 =>
      simp only [UdpPos.payloadOff, UdpPos.udpOff, IpVersion.headerLen] at whole
      dsimp only
      refine ipSized_v6 small (length_overwrite _ _ _) (be16At_overwrite_same _ _ _ (by omega)) ?_
      intro a b apart
      exact slice_overwrite_other _ _ (by simp; omega)

theorem ipSized_sip : IpSized pos n frame (sizeSip pos n frame) := by
  obtain ⟨ver, ipOff⟩ := pos
  unfold sizeSip
  cases ver with
  | v4 =>
      simp only [UdpPos.payloadOff, UdpPos.udpOff, IpVersion.headerLen] at whole
      dsimp only
      refine ((ipSized_v4 ?_ small ?_).overwrite (by simp) (by simp [IpVersion.saddrOff])).overwrite (by simp)
        (by simp [IpVersion.saddrOff])
      · rw [length_overwrite, length_overwrite]
        omega
      · rw [be16At_overwrite_other _ _ _ _ (.inl (by omega))]
        exact be16At_overwrite_same _ _ _ (by omega)
  | v6 =>
      simp only [UdpPos.payloadOff, UdpPos.udpOff, IpVersion.headerLen] at whole
      dsimp only
      refine ipSized_v6 small (by simp only [length_overwrite]) ?_ ?_
      · rw [be16At_overwrite_other _ _ _ _ (.inl (by omega))]
        exact be16At_overwrite_same _ _ _ (by omega)
      · intro a b apart
        rw [slice_overwrite_other _ _ (by simp; omega), slice_overwrite_other _ _ (by simp; omega)]

end Sized

structure TurnedRound (pos : UdpPos) (n : Nat) (payload frame reply : Buf) : Prop where
  macs : Exchanged frame reply 0 6
  addresses : Exchanged frame reply (pos.ipOff + pos.ver.saddrOff) pos.ver.addrLen
  ports : Exchanged frame reply pos.udpOff 2
  ipLen : ipLength pos reply = pos.ver.headerLen + n
  headerSum : pos.ver = .v4 → HeaderSum reply pos.ipOff
  udpLen : slice reply (pos.udpOff + 4) (pos.udpOff + 6) = toBeBytes16 (UInt16.ofNat n)
  unsummed : slice reply (pos.udpOff + 6) (pos.udpOff + 8) = [0, 0]
  payload : reply.drop pos.payloadOff = payload

def returnQuicUnsummed (pos : UdpPos) (newUdpLen : Nat) (frame : Buf) : Buf :=
  let frame := swapFields (swapFields frame 0 6) (pos.ipOff + pos.ver.saddrOff) pos.ver.addrLen
  let frame := swapFields (sizeQuic pos newUdpLen frame) pos.udpOff 2
  overwrite (overwrite frame (pos.udpOff + 4) (toBeBytes16 (UInt16.ofNat newUdpLen))) (pos.udpOff + 6) [0, 0]

@[simp] theorem length_returnQuicUnsummed (pos : UdpPos) (n : Nat) (frame : Buf) :
    (returnQuicUnsummed pos n frame).length = frame.length := by
  simp only [returnQuicUnsummed, length_overwrite, length_swapFields, sizeQuic]
  cases pos.ver <;> simp

theorem returnQuic_eq (pos : UdpPos) (n : Nat) (frame : Buf) :
    returnQuic pos n frame =
      let frame := returnQuicUnsummed pos n frame
      let addresses := slice frame (pos.ipOff + pos.ver.saddrOff) (pos.ipOff + pos.ver.saddrOff + 2 * pos.ver.addrLen)
      overwrite frame (pos.udpOff + 6) (toLeBytes16 (csumFold (calcPayloadCsum frame pos.udpOff n
        (csumDiff (pseudoHeader n) (csumDiff addresses 0))))) := rfl

theorem returnSip_eq (pos : UdpPos) (n : Nat) (frame : Buf) :
    returnSip pos n frame =
      let frame := swapFields (swapFields frame 0 6) pos.udpOff 2
      let frame := overwrite (overwrite frame (pos.udpOff + 4) (toBeBytes16 (UInt16.ofNat n))) (pos.udpOff + 6) [0, 0]
      sizeSip pos n (swapFields frame (pos.ipOff + pos.ver.saddrOff) pos.ver.addrLen) := rfl

theorem drop_of_slice {frame frame' : Buf} {n : Nat} (length : frame'.length = frame.length)
    (same : slice frame' n frame.length = slice frame n frame.length) : frame'.drop n = frame.drop n := by
  have whole (buf : Buf) (size : buf.length = frame.length) : slice buf n frame.length = buf.drop n := by
    rw [slice, List.take_of_length_le (Nat.le_of_eq (by rw [List.length_drop, size]))]
  rwa [whole _ length, whole _ rfl] at same

section Return

variable {pos : UdpPos} {n : Nat} {frame : Buf} (ethernet : 14 ≤ pos.ipOff) (whole : pos.payloadOff ≤ frame.length) (small : n < 2 ^ 15)

include ethernet whole small

theorem turnedRound_quic : TurnedRound pos n (frame.drop pos.payloadOff) frame (returnQuicUnsummed pos n frame) := by
  have offsets : pos.payloadOff = pos.udpOff + 8 ∧ pos.udpOff = pos.ipOff + pos.ver.headerLen := ⟨rfl, rfl⟩
  have fields : 8 ≤ pos.ver.saddrOff ∧ pos.ver.saddrOff + 2 * pos.ver.addrLen = pos.ver.headerLen := by
    cases pos.ver <;> decide
  have zero : ([0, 0] : Buf).length = 2 := rfl
  have width := length_toBeBytes16 (UInt16.ofNat n)
  unfold returnQuicUnsummed
  dsimp only
  have sized := @ipSized_quic _ (swapFields (swapFields frame 0 6) (pos.ipOff + pos.ver.saddrOff) pos.ver.addrLen) _
    (by simpa only [length_swapFields] using whole) small
  generalize sizeQuic _ _ _ = framed at sized ⊢
  have length := sized.length
  have other := sized.other
  simp only [length_swapFields] at length
  have header : slice (overwrite (overwrite (swapFields framed pos.udpOff 2) (pos.udpOff + 4) (toBeBytes16 (UInt16.ofNat n)))
      (pos.udpOff + 6) [0, 0]) pos.ipOff (pos.ipOff + pos.ver.headerLen) = slice framed pos.ipOff (pos.ipOff + pos.ver.headerLen) := by
    simp (disch := omega) only [slice_overwrite_other, slice_swapFields_other]
  constructor
  · refine (exchanged_swapFields (by omega)).congr rfl ?_
    simp (disch := omega) only [slice_overwrite_other, slice_swapFields_other, other]
  · have kept : slice frame (pos.ipOff + pos.ver.saddrOff) (pos.ipOff + pos.ver.saddrOff + 2 * pos.ver.addrLen) =
        slice (swapFields frame 0 6) (pos.ipOff + pos.ver.saddrOff) (pos.ipOff + pos.ver.saddrOff + 2 * pos.ver.addrLen) :=
      (slice_swapFields_other (by omega)).symm
    refine (exchanged_swapFields (by simp only [length_swapFields]; omega)).congr kept ?_
    simp (disch := omega) only [slice_overwrite_other, slice_swapFields_other, other]
  · refine @Exchanged.congr _ _ _ framed _ _ (exchanged_swapFields (by omega)) ?_ ?_
    · simp (disch := omega) only [slice_swapFields_other, other]
    · simp (disch := omega) only [slice_overwrite_other]
  · exact (ipHeader_congr header).1.trans sized.ipLen
  · exact fun v4 => (ipHeader_congr header).2 v4 (sized.headerSum v4)
  · rw [slice_overwrite_other _ _ (by omega)]
    exact width ▸ slice_overwrite_same _ _ _ (by simp only [length_swapFields]; omega)
  · exact slice_overwrite_same _ _ [0, 0] (by simp; omega)
  · refine drop_of_slice (by simp only [length_overwrite, length_swapFields, length]) ?_
    simp (disch := omega) only [slice_overwrite_other, slice_swapFields_other, other]

theorem turnedRound_sip : TurnedRound pos n (frame.drop pos.payloadOff) frame (returnSip pos n frame) := by
  have offsets : pos.payloadOff = pos.udpOff + 8 ∧ pos.udpOff = pos.ipOff + pos.ver.headerLen := ⟨rfl, rfl⟩
  have fields : 8 ≤ pos.ver.saddrOff ∧ pos.ver.saddrOff + 2 * pos.ver.addrLen = pos.ver.headerLen := by
    cases pos.ver <;> decide
  have zero : ([0, 0] : Buf).length = 2 := rfl
  have width := length_toBeBytes16 (UInt16.ofNat n)
  rw [returnSip_eq]
  dsimp only
  have sized := @ipSized_sip _ (swapFields (overwrite (overwrite (swapFields (swapFields frame 0 6) pos.udpOff 2)
    (pos.udpOff + 4) (toBeBytes16 (UInt16.ofNat n))) (pos.udpOff + 6) [0, 0]) (pos.ipOff + pos.ver.saddrOff) pos.ver.addrLen) _
    (by simpa only [length_swapFields, length_overwrite] using whole) small
  generalize sizeSip _ _ _ = framed at sized ⊢
  obtain ⟨length, ipLen, headerSum, other⟩ := sized
  simp only [length_swapFields, length_overwrite] at length
  refine ⟨?_, ?_, ?_, ipLen, headerSum, ?_, ?_, ?_⟩
  · refine (exchanged_swapFields (by omega)).congr rfl ?_
    simp (disch := omega) only [slice_overwrite_other, slice_swapFields_other, other]
  · refine (exchanged_swapFields (by simp only [length_swapFields, length_overwrite]; omega)).congr ?_
      (other _ _ (.inr (Nat.le_refl _)))
    simp (disch := omega) only [slice_overwrite_other, slice_swapFields_other]
  · refine @Exchanged.congr _ _ _ (swapFields frame 0 6) _ _ (exchanged_swapFields (by simp only [length_swapFields]; omega)) ?_ ?_
    · simp (disch := omega) only [slice_swapFields_other]
    · simp (disch := omega) only [slice_overwrite_other, slice_swapFields_other, other]
  · rw [other _ _ (.inr (by omega)), slice_swapFields_other (by omega), slice_overwrite_other _ _ (by omega)]
    exact width ▸ slice_overwrite_same _ _ _ (by simp only [length_swapFields]; omega)
  · rw [other _ _ (.inr (by omega)), slice_swapFields_other (by omega)]
    exact slice_overwrite_same _ _ [0, 0] (by simp; omega)
  · refine drop_of_slice length ?_
    simp (disch := omega) only [slice_overwrite_other, slice_swapFields_other, other]

end Return

inductive Summing where
  | computed
  | omitted

-- The checksum of RFC 768 and RFC 8200: one that is computed is never sent as zero, and zero says over IPv4 that
-- there is none. The length in the pseudo-header of IPv6 is wider, which adds nothing.
def UdpSum (pos : UdpPos) (frame : Buf) : Summing → Prop
  | .computed =>
      let addresses := slice frame (pos.ipOff + pos.ver.saddrOff) (pos.ipOff + pos.ver.saddrOff + 2 * pos.ver.addrLen)
      let pseudo := pseudoHeader (be16At frame (pos.udpOff + 4)).toNat
      slice frame (pos.udpOff + 6) (pos.udpOff + 8) ≠ [0, 0] ∧
        ones16 (sumBe (addresses ++ (pseudo ++ frame.drop pos.udpOff))) = 0xFFFF
  | .omitted => pos.ver = .v4 ∧ slice frame (pos.udpOff + 6) (pos.udpOff + 8) = [0, 0]

structure ReplyFrame (summing : Summing) (pos : UdpPos) (frame reply : Buf) : Prop where
  parsed : parseUdp reply = some pos
  macs : Exchanged frame reply 0 6
  addresses : Exchanged frame reply (pos.ipOff + pos.ver.saddrOff) pos.ver.addrLen
  ports : Exchanged frame reply pos.udpOff 2
  ipLen : pos.ipOff + ipLength pos reply = reply.length
  udpLen : pos.udpOff + (be16At reply (pos.udpOff + 4)).toNat = reply.length
  headerSum : pos.ver = .v4 → HeaderSum reply pos.ipOff
  udpSum : UdpSum pos reply summing

def Summable (total : Nat) : Prop := total < 2 ^ 32 ∧ csumFold (total % 2 ^ 32) ≠ 0

theorem toLeBytes16_eq_zero (c : UInt16) : toLeBytes16 c = [0, 0] ↔ c = 0 := by
  constructor
  · intro zero
    have value := leNat_toLeBytes16 c
    rw [zero] at value
    exact UInt16.toNat_inj.mp value.symm
  · rintro rfl
    rfl

theorem udpSum_iff {pos : UdpPos} {head front rest : Buf} (start : head.length = pos.udpOff) (six : front.length = 6)
    (udpLen : (be16At (head ++ front) (pos.udpOff + 4)).toNat = (front ++ ([0, 0] ++ rest)).length) :
    UdpSum pos (head ++ (front ++ (toLeBytes16 (csumFold (replySum
        (slice head (pos.ipOff + pos.ver.saddrOff) (pos.ipOff + pos.ver.saddrOff + 2 * pos.ver.addrLen))
        (front ++ ([0, 0] ++ rest)) % 2 ^ 32)) ++ rest))) .computed ↔
      Summable (replySum (slice head (pos.ipOff + pos.ver.saddrOff) (pos.ipOff + pos.ver.saddrOff + 2 * pos.ver.addrLen))
        (front ++ ([0, 0] ++ rest))) := by
  have offset : pos.udpOff = pos.ipOff + pos.ver.headerLen := rfl
  have fields : pos.ver.saddrOff + 2 * pos.ver.addrLen = pos.ver.headerLen ∧ pos.ver.addrLen % 4 = 0 := by
    cases pos.ver <;> decide
  have words : (slice head (pos.ipOff + pos.ver.saddrOff) (pos.ipOff + pos.ver.saddrOff + 2 * pos.ver.addrLen)).length % 4 = 0 := by
    rw [length_slice]
    omega
  have verifies := @reply_verifies _ _ rest words six
  generalize total : replySum _ _ = sum at *
  have width := length_toLeBytes16 (csumFold (sum % 2 ^ 32))
  have check : slice (head ++ (front ++ (toLeBytes16 (csumFold (sum % 2 ^ 32)) ++ rest))) (pos.udpOff + 6) (pos.udpOff + 8) =
      toLeBytes16 (csumFold (sum % 2 ^ 32)) := by
    have at' : pos.udpOff + 6 = (head ++ front).length := by rw [List.length_append]; omega
    rw [← List.append_assoc, at', (by rw [List.length_append]; omega : pos.udpOff + 8 = (head ++ front).length + 2),
      slice_middle _ _ _ _ width]
  unfold UdpSum Summable
  dsimp only
  rw [check, slice_append_left _ _ _ _ (by omega), ← List.append_assoc head, be16At_append_left _ _ _ (by
    rw [List.length_append]; omega), udpLen, List.append_assoc head, ← start, List.drop_left, Ne, toLeBytes16_eq_zero, verifies]
  tauto

section Answer

variable {x x' : Xdp} {pos : UdpPos}

def swappedAddresses (pos : UdpPos) (frame : Buf) : Buf :=
  let start := pos.ipOff + pos.ver.saddrOff
  slice frame (start + pos.ver.addrLen) (start + 2 * pos.ver.addrLen) ++ slice frame start (start + pos.ver.addrLen)

def answerDatagram (pos : UdpPos) (frame : Buf) : Buf :=
  let answer := versionNegotiation (byteAt frame pos.payloadOff) (dcidOf pos frame) (scidOf pos frame)
  slice frame (pos.udpOff + 2) (pos.udpOff + 4) ++ slice frame pos.udpOff (pos.udpOff + 2) ++
    toBeBytes16 (UInt16.ofNat (8 + answer.length)) ++ ([0, 0] ++ answer)

section Reply

variable {n : Nat} {payload frame reply : Buf}

theorem TurnedRound.of_headers {stored : Buf} (turned : TurnedRound pos n payload stored reply) (ethernet : 14 ≤ pos.ipOff)
    (same : ∀ a b, b ≤ pos.payloadOff → slice stored a b = slice frame a b) : TurnedRound pos n payload frame reply := by
  have offsets : pos.payloadOff = pos.ipOff + pos.ver.headerLen + 8 ∧ pos.udpOff = pos.ipOff + pos.ver.headerLen := ⟨rfl, rfl⟩
  have fields : pos.ver.saddrOff + 2 * pos.ver.addrLen = pos.ver.headerLen := by cases pos.ver <;> decide
  obtain ⟨macs, addresses, ports, ipLen, headerSum, udpLen, unsummed, rest⟩ := turned
  exact ⟨macs.congr (same _ _ (by omega)).symm rfl, addresses.congr (same _ _ (by omega)).symm rfl,
    ports.congr (same _ _ (by omega)).symm rfl, ipLen, headerSum, udpLen, unsummed, rest⟩

theorem TurnedRound.front (turned : TurnedRound pos n payload frame reply) :
    slice reply pos.udpOff (pos.udpOff + 6) =
      slice frame (pos.udpOff + 2) (pos.udpOff + 4) ++ slice frame pos.udpOff (pos.udpOff + 2) ++ toBeBytes16 (UInt16.ofNat n) := by
  rw [← turned.udpLen, ← turned.ports.1, ← turned.ports.2, slice_append_slice _ (by omega) (by omega),
    slice_append_slice _ (by omega) (by omega)]

theorem TurnedRound.swapped (turned : TurnedRound pos n payload frame reply) :
    slice reply (pos.ipOff + pos.ver.saddrOff) (pos.ipOff + pos.ver.saddrOff + 2 * pos.ver.addrLen) = swappedAddresses pos frame := by
  rw [swappedAddresses, ← turned.addresses.1, ← turned.addresses.2, slice_append_slice _ (by omega) (by omega)]

theorem TurnedRound.announced (turned : TurnedRound pos n payload frame reply) (small : n < 2 ^ 15) :
    (be16At reply (pos.udpOff + 4)).toNat = n := by
  have word : be16At reply (pos.udpOff + 4) = UInt16.ofNat n := by
    have first := congrArg (byteAt · 0) turned.udpLen
    have second := congrArg (byteAt · 1) turned.udpLen
    simp only [byteAt_slice] at first second
    rw [if_pos (by omega)] at first second
    rw [be16At, ← Nat.add_zero (pos.udpOff + 4), first, Nat.add_zero, second]
    exact be16_toBeBytes16 _
  rw [word]
  simp
  omega

theorem TurnedRound.replyFrame_iff {summed : Buf} {summing : Summing} (turned : TurnedRound pos n payload frame reply) (ethernet : 14 ≤ pos.ipOff)
    (small : n < 2 ^ 15) (parsed : parseUdp summed = some pos)
    (same : ∀ a b, b ≤ pos.udpOff + 6 → slice summed a b = slice reply a b) :
    ReplyFrame summing pos frame summed ↔ summed.length = pos.udpOff + n ∧ UdpSum pos summed summing := by
  have offsets : pos.payloadOff = pos.ipOff + pos.ver.headerLen + 8 ∧ pos.udpOff = pos.ipOff + pos.ver.headerLen := ⟨rfl, rfl⟩
  have fields : pos.ver.saddrOff + 2 * pos.ver.addrLen = pos.ver.headerLen := by cases pos.ver <;> decide
  have announced : (be16At summed (pos.udpOff + 4)).toNat = n := by
    rw [be16At_of_slice (same (pos.udpOff + 4) (pos.udpOff + 6) (Nat.le_refl _)) (Nat.le_refl _) (by omega)]
    exact turned.announced small
  obtain ⟨ipLen, headerSum⟩ := ipHeader_congr (same pos.ipOff (pos.ipOff + pos.ver.headerLen) (by omega))
  constructor
  · intro formed
    exact ⟨by rw [← formed.udpLen, announced], formed.udpSum⟩
  · rintro ⟨length, sum⟩
    refine ⟨parsed, turned.macs.congr rfl (same _ _ (by omega)), turned.addresses.congr rfl (same _ _ (by omega)),
      turned.ports.congr rfl (same _ _ (by omega)), ?_, by omega, fun v4 => headerSum v4 (turned.headerSum v4), sum⟩
    rw [ipLen, turned.ipLen, length]
    omega

theorem slice_stored {resized : Buf} (kept : ∀ i, i < pos.payloadOff → byteAt resized i = byteAt frame i)
    (inside : pos.payloadOff ≤ frame.length) (inside' : pos.payloadOff ≤ resized.length) {a b : Nat} (front : b ≤ pos.payloadOff) :
    slice (overwrite resized pos.payloadOff payload) a b = slice frame a b := by
  apply ext_byteAt (by simp; omega)
  intro i bounded
  simp only [length_slice, length_overwrite] at bounded
  rw [byteAt_slice, byteAt_slice, if_pos (by omega), if_pos (by omega), byteAt_overwrite_other _ _ _ _ (.inl (by omega)),
    kept _ (by omega)]

theorem TurnedRound.datagram (turned : TurnedRound pos n payload frame reply) :
    reply.drop pos.udpOff = slice frame (pos.udpOff + 2) (pos.udpOff + 4) ++ slice frame pos.udpOff (pos.udpOff + 2) ++
      toBeBytes16 (UInt16.ofNat n) ++ ([0, 0] ++ payload) := by
  have sum : slice reply (pos.udpOff + 6) (pos.udpOff + 8) ++ reply.drop pos.payloadOff = reply.drop (pos.udpOff + 6) :=
    slice_append_drop reply (pos.udpOff + 6) 2
  rw [← turned.front, ← turned.unsummed, ← turned.payload, sum, slice_append_drop]

theorem calcPayloadCsum_datagram {addresses : Buf} (length : reply.length = pos.udpOff + n) (short : n < 64) :
    calcPayloadCsum reply pos.udpOff n (csumDiff (pseudoHeader n) (csumDiff addresses 0)) =
      replySum addresses (reply.drop pos.udpOff) % 2 ^ 32 := by
  have size : (reply.drop pos.udpOff).length = n := by
    rw [List.length_drop]
    omega
  have front : slice reply pos.udpOff (pos.udpOff + 4 * (n / 4)) = (reply.drop pos.udpOff).take (4 * (n / 4)) := by
    rw [slice, Nat.add_sub_cancel_left]
  have last : slice reply (pos.udpOff + 4 * (n / 4)) (pos.udpOff + n) = (reply.drop pos.udpOff).drop (4 * (n / 4)) := by
    rw [slice, List.drop_drop, List.take_of_length_le]
    rw [List.length_drop]
    omega
  rw [csumDiff, csumDiff, Nat.zero_add, ones32_add, calcPayloadCsum_eq _ short (by omega), replySum, size, front, last]

theorem TurnedRound.udpSum_iff (turned : TurnedRound pos n payload frame reply) (length : reply.length = pos.udpOff + n)
    (small : n < 2 ^ 15) (front : pos.udpOff + 8 ≤ reply.length) :
    UdpSum pos (overwrite reply (pos.udpOff + 6)
        (toLeBytes16 (csumFold (replySum (swappedAddresses pos frame) (reply.drop pos.udpOff) % 2 ^ 32)))) .computed ↔
      Summable (replySum (swappedAddresses pos frame) (reply.drop pos.udpOff)) := by
  have offset : pos.udpOff = pos.ipOff + pos.ver.headerLen := rfl
  have fields : pos.ver.saddrOff + 2 * pos.ver.addrLen = pos.ver.headerLen := by cases pos.ver <;> decide
  have start : (reply.take pos.udpOff).length = pos.udpOff := by
    rw [List.length_take]
    omega
  have six : (slice reply pos.udpOff (pos.udpOff + 6)).length = 6 := by
    rw [length_slice]
    omega
  have datagram : reply.drop pos.udpOff = slice reply pos.udpOff (pos.udpOff + 6) ++ ([0, 0] ++ payload) := by
    rw [turned.datagram, turned.front]
  have split : reply = reply.take pos.udpOff ++ (slice reply pos.udpOff (pos.udpOff + 6) ++ ([0, 0] ++ payload)) := by
    rw [← datagram, List.take_append_drop]
  have addresses : slice (reply.take pos.udpOff) (pos.ipOff + pos.ver.saddrOff)
      (pos.ipOff + pos.ver.saddrOff + 2 * pos.ver.addrLen) = swappedAddresses pos frame := by
    rw [← turned.swapped]
    nth_rewrite 2 [split]
    rw [slice_append_left _ _ _ _ (by omega)]
  have udpLen : (be16At (reply.take pos.udpOff ++ slice reply pos.udpOff (pos.udpOff + 6)) (pos.udpOff + 4)).toNat =
      (slice reply pos.udpOff (pos.udpOff + 6) ++ ([0, 0] ++ payload)).length := by
    rw [← be16At_append_left _ ([0, 0] ++ payload) _ (by rw [List.length_append]; omega), List.append_assoc, ← split,
      turned.announced small, ← datagram, List.length_drop]
    omega
  have written (check : Buf) (two : check.length = 2) : overwrite reply (pos.udpOff + 6) check =
      reply.take pos.udpOff ++ (slice reply pos.udpOff (pos.udpOff + 6) ++ (check ++ payload)) := by
    have taken : reply.take (pos.udpOff + 6) = reply.take pos.udpOff ++ slice reply pos.udpOff (pos.udpOff + 6) := by
      rw [List.take_add, slice, Nat.add_sub_cancel_left]
    rw [overwrite_eq_append _ _ _ (by omega), two, taken, ← turned.payload, List.append_assoc, List.append_assoc]
    rfl
  have criterion := @Bpf.udpSum_iff _ _ _ payload start six udpLen
  rw [addresses, ← datagram] at criterion
  rw [written _ (length_toLeBytes16 _)]
  exact criterion

end Reply

theorem quicReply_frame_iff (parsed : parseUdp x.frame = some pos) (answered : handleQuicProbe x = .ok x') :
    ReplyFrame .computed pos x.frame x'.frame ↔
      Summable (replySum (swappedAddresses pos x.frame) (answerDatagram pos x.frame)) := by
  obtain ⟨pos', dcidLen, scidLen, probe, resized, tail, frame⟩ := handleQuicProbe_probe answered
  cases Option.some.inj (parsed.symm.trans probe.parsed)
  have ethernet := parseUdp_ipOff parsed
  have whole := probe.whole
  have small := probe.small
  have offsets : pos.payloadOff = pos.udpOff + 8 := rfl
  have reparsed : parseUdp x'.frame = some pos := by
    obtain ⟨pos', dcidLen', scidLen', probe', reply⟩ := handleQuicProbe_reply answered
    cases Option.some.inj (parsed.symm.trans probe'.parsed)
    exact reply.parsed
  have answerLength : (versionNegotiation (byteAt x.frame pos.payloadOff) (dcidOf pos x.frame) (scidOf pos x.frame)).length =
      15 + scidLen + dcidLen := by
    rw [length_versionNegotiation, probe.lengths.1, probe.lengths.2]
  rw [answerDatagram, answerLength]
  generalize versionNegotiation _ _ _ = answer at *
  obtain ⟨length, kept⟩ := adjustTail_some tail
  generalize total : 8 + (15 + scidLen + dcidLen) = n at *
  have size : resized.frame.length = pos.udpOff + n := by omega
  have payload : (overwrite resized.frame pos.payloadOff answer).drop pos.payloadOff = answer := by
    rw [overwrite_eq_append _ _ _ (by omega), List.append_assoc, List.drop_left' (by simp; omega),
      List.drop_eq_nil_of_le (by omega), List.append_nil]
  have stored : pos.payloadOff ≤ (overwrite resized.frame pos.payloadOff answer).length := by
    rw [length_overwrite]
    omega
  have turned := (turnedRound_quic ethernet stored (by omega : n < 2 ^ 15)).of_headers ethernet fun a b front =>
    slice_stored (fun i inside => kept i (by omega) (by omega)) (by omega) (by omega) front
  have unsummed : (returnQuicUnsummed pos n (overwrite resized.frame pos.payloadOff answer)).length = pos.udpOff + n := by
    rw [length_returnQuicUnsummed, length_overwrite, size]
  rw [payload] at turned
  rw [returnQuic_eq] at frame
  generalize returnQuicUnsummed _ _ _ = reply at *
  dsimp only at frame
  rw [calcPayloadCsum_datagram unsummed (by omega), turned.swapped] at frame
  have same (a b : Nat) (front : b ≤ pos.udpOff + 6) : slice x'.frame a b = slice reply a b := by
    rw [frame, slice_overwrite_other _ _ (.inl front)]
  rw [turned.replyFrame_iff ethernet (by omega) reparsed same, frame, length_overwrite,
    turned.udpSum_iff unsummed (by omega) (by omega), turned.datagram]
  simp only [unsummed, true_and]

theorem sipReply_frame_iff (parsed : parseUdp x.frame = some pos) (answered : handleSipProbe x = (.tx, x')) :
    ReplyFrame .omitted pos x.frame x'.frame ↔
      pos.ver = .v4 ∧ pos.udpOff + (be16At x.frame (pos.udpOff + 4)).toNat = x.frame.length := by
  obtain ⟨pos', parsed', responded⟩ := handleSipProbe_tx answered
  cases Option.some.inj (parsed.symm.trans parsed')
  have ethernet := parseUdp_ipOff parsed
  have before := (parseUdp_some parsed).1
  have offset : pos.payloadOff = pos.udpOff + 8 := rfl
  have reparsed := (respondSip_reply parsed responded).parsed
  obtain ⟨-, -, short⟩ := sipStatus_line (byteAt x.frame pos.payloadOff)
  obtain ⟨resized, fits, length, kept, frame⟩ := respondSip_stored parsed responded
  generalize sipStatus (byteAt x.frame pos.payloadOff) = response at *
  have stored : pos.payloadOff ≤ (overwrite resized.frame pos.payloadOff response).length := by
    rw [length_overwrite]
    omega
  have turned := (turnedRound_sip ethernet stored (by omega : 8 + response.length < 2 ^ 15)).of_headers ethernet fun a b front =>
    slice_stored kept before (by omega) front
  have size := (turned_returnSip pos (8 + response.length) (overwrite resized.frame pos.payloadOff response) ethernet).length
  rw [← frame] at turned size
  rw [length_overwrite] at size
  have sum : UdpSum pos x'.frame .omitted ↔ pos.ver = .v4 := by simp [UdpSum, turned.unsummed]
  rw [turned.replyFrame_iff ethernet (by omega) reparsed fun _ _ _ => rfl, sum, size]
  constructor
  · rintro ⟨whole, v4⟩
    exact ⟨v4, by omega⟩
  · rintro ⟨v4, whole⟩
    exact ⟨by omega, v4⟩

theorem probeReply_frame_iff {x x' : Xdp} {pos : UdpPos} (parsed : parseUdp x.frame = some pos) :
    (handleQuicProbe x = .ok x' → (ReplyFrame .computed pos x.frame x'.frame ↔
      Summable (replySum (swappedAddresses pos x.frame) (answerDatagram pos x.frame)))) ∧
    (handleSipProbe x = (.tx, x') → (ReplyFrame .omitted pos x.frame x'.frame ↔
      pos.ver = .v4 ∧ pos.udpOff + (be16At x.frame (pos.udpOff + 4)).toNat = x.frame.length)) :=
  ⟨quicReply_frame_iff parsed, sipReply_frame_iff parsed⟩

def quicProbe (scid : Buf) : Buf :=
  foreignFrame.take 42 ++ ([0xC0, 0, 0, 0, 1, 8] ++ List.replicate 8 0 ++ [8] ++ scid ++ List.replicate 41 0)

def sipProbe (headers : Buf) : Buf := headers ++ ascii "OPTIONS sip:pbx" ++ List.replicate 49 0

def sampleHeaders6 : Buf :=
  List.replicate 12 0 ++ [0x86, 0xDD] ++ [0x60, 0, 0, 0, 0, 72, 17, 64] ++ List.replicate 32 1 ++
    [0xCA, 0x6C, 0xA0, 0x28, 0, 72, 0, 0]

theorem quicProbe_answered (scid : Buf) (accepted : (handleQuicProbe (delivered (quicProbe scid))).isOk = true) :
    ∃ x', handleQuicProbe (delivered (quicProbe scid)) = .ok x' := by
  cases done : handleQuicProbe (delivered (quicProbe scid)) with
  | error _ => simp [done, Except.isOk, Except.toBool] at accepted
  | ok x' => exact ⟨x', rfl⟩

theorem sipProbe_answered (headers : Buf) (sent : (handleSipProbe (delivered (sipProbe headers))).1 = .tx) :
    ∃ x', handleSipProbe (delivered (sipProbe headers)) = (.tx, x') :=
  ⟨_, Prod.ext sent rfl⟩

theorem probeReply_frame_samples :
    (∃ x', handleQuicProbe (delivered (quicProbe (List.replicate 8 0))) = .ok x' ∧
      ReplyFrame .computed { ver := .v4, ipOff := 14 } (quicProbe (List.replicate 8 0)) x'.frame) ∧
    ∃ x', handleSipProbe (delivered (sipProbe (foreignFrame.take 42))) = (.tx, x') ∧
      ReplyFrame .omitted { ver := .v4, ipOff := 14 } (sipProbe (foreignFrame.take 42)) x'.frame := by
  obtain ⟨x₁, negotiated⟩ := quicProbe_answered (List.replicate 8 0) (by decide)
  obtain ⟨x₂, responded⟩ := sipProbe_answered (foreignFrame.take 42) (by decide)
  refine ⟨⟨x₁, negotiated, ((probeReply_frame_iff (by decide)).1 negotiated).mpr ?_⟩,
    x₂, responded, ((probeReply_frame_iff (by decide)).2 responded).mpr ?_⟩
  · unfold Summable
    decide
  · decide

-- connection ids for which a carry is lost and for which the checksum is zero, and a status line over IPv6
theorem probeReply_unsummed :
    (∀ scid ∈ [[0, 0, 71, 83, 94, 253, 0, 0], [0, 0, 0xB5, 0x50, 0, 0, 0, 0]],
      ∃ x', handleQuicProbe (delivered (quicProbe scid)) = .ok x' ∧
        ¬ReplyFrame .computed { ver := .v4, ipOff := 14 } (quicProbe scid) x'.frame) ∧
    ∃ x', handleSipProbe (delivered (sipProbe sampleHeaders6)) = (.tx, x') ∧
      ¬ReplyFrame .omitted { ver := .v6, ipOff := 14 } (sipProbe sampleHeaders6) x'.frame := by
  obtain ⟨x₂, responded⟩ := sipProbe_answered sampleHeaders6 (by decide +kernel)
  refine ⟨?_, x₂, responded, mt (sipReply_frame_iff (by decide +kernel) responded).mp (by decide)⟩
  have unsummed (scid : Buf) (accepted : (handleQuicProbe (delivered (quicProbe scid))).isOk = true)
      (parsed : parseUdp (quicProbe scid) = some { ver := .v4, ipOff := 14 })
      (sum : ¬Summable (replySum (swappedAddresses { ver := .v4, ipOff := 14 } (quicProbe scid))
        (answerDatagram { ver := .v4, ipOff := 14 } (quicProbe scid)))) :
      ∃ x', handleQuicProbe (delivered (quicProbe scid)) = .ok x' ∧
        ¬ReplyFrame .computed { ver := .v4, ipOff := 14 } (quicProbe scid) x'.frame := by
    obtain ⟨x', negotiated⟩ := quicProbe_answered scid accepted
    exact ⟨x', negotiated, mt (quicReply_frame_iff parsed negotiated).mp sum⟩
  simp only [List.forall_mem_cons, List.not_mem_nil, false_imp_iff, implies_true, and_true]
  constructor
  · refine unsummed _ (by decide) (by decide) ?_
    unfold Summable
    decide
  · refine unsummed _ (by decide) (by decide) ?_
    unfold Summable
    decide

end Answer

end Gutd.Bpf
