import Gutd.Bpf.XdpRejection

set_option autoImplicit false

namespace Gutd.Bpf

open Bytes Checked Checksum Wire

theorem foldCarry_spec (n : Nat) : foldCarry n % 0xFFFF = n % 0xFFFF ∧ (foldCarry n = 0 ↔ n = 0) := by
  unfold foldCarry
  split_ifs <;> omega

theorem csumFold_eq {n : Nat} (small : n < 2 ^ 32) : (csumFold n).toNat = 0xFFFF - ones16 n := by
  have size : UInt16.size = 2 ^ 16 := rfl
  obtain ⟨once, zero⟩ := foldCarry_spec n
  obtain ⟨again, still⟩ := foldCarry_spec (foldCarry n)
  have twice : foldCarry (foldCarry n) ≤ 0xFFFF := by
    unfold foldCarry
    split_ifs <;> omega
  have stable (v : Nat) (bounded : v ≤ 0xFFFF) : foldCarry v = v := by rw [foldCarry, if_neg (by omega)]
  have folded : ones16 n = foldCarry (foldCarry n) := ones16_eq twice (by omega) (by omega)
  rw [csumFold, stable _ (by rw [stable _ twice]; exact twice), stable _ twice, folded, UInt16.toNat_not, UInt16.toNat_ofNat']
  omega

theorem leNat_toLeBytes16 (x : UInt16) : leNat (toLeBytes16 x) = x.toNat := by
  have bound := x.toNat_lt
  simp only [toLeBytes16, leNat, UInt8.toNat_ofNat']
  omega

theorem sumBe_csumFold {n : Nat} (small : n < 2 ^ 32) :
    (sumBe (toLeBytes16 (csumFold n)) + 2 ^ 8 * n) % 0xFFFF = 0 ∧ (sumBe (toLeBytes16 (csumFold n)) = 0 ↔ csumFold n = 0) := by
  have folded := csumFold_eq small
  have bound := ones16_le n
  have same : ones16 n % 0xFFFF = n % 0xFFFF := by
    unfold ones16
    split_ifs <;> omega
  obtain ⟨swapped, nothing⟩ := sumBe_leNat (toLeBytes16 (csumFold n))
  rw [leNat_toLeBytes16] at swapped nothing
  rw [folded] at swapped
  refine ⟨by omega, ?_⟩
  rw [← nothing, ← UInt16.toNat_inj]
  rfl

theorem complement_verifies {front rest : Buf} (even : front.length % 2 = 0) {n : Nat} (small : n < 2 ^ 32)
    (class' : 2 ^ 8 * n % 0xFFFF = (sumBe front + sumBe rest) % 0xFFFF) (zero : sumBe front + sumBe rest = 0 → n = 0) :
    ones16 (sumBe (front ++ (toLeBytes16 (csumFold n) ++ rest))) = 0xFFFF := by
  obtain ⟨cancels, none⟩ := sumBe_csumFold small
  rw [sumBe_append even, sumBe_append (by simp), ones16_eq_full]
  refine ⟨by omega, fun nothing => ?_⟩
  have folded := csumFold_eq small
  rw [none.mp (by omega), zero (by omega)] at folded
  exact absurd folded (by decide)

def HeaderSum (frame : Buf) (ipOff : Nat) : Prop := ones16 (sumBe (slice frame ipOff (ipOff + 20))) = 0xFFFF

theorem headerSum_writeIpChecksum {frame : Buf} {ipOff : Nat} (inside : ipOff + 20 ≤ frame.length) :
    HeaderSum (writeIpChecksum ipOff frame) ipOff := by
  have zeroed : slice (overwrite frame (ipOff + 10) [0, 0]) ipOff (ipOff + 20) =
      slice frame ipOff (ipOff + 10) ++ ([0, 0] ++ slice frame (ipOff + 12) (ipOff + 20)) :=
    slice_overwrite_inside frame [0, 0] (by omega) (by simp) inside
  have front : (slice frame ipOff (ipOff + 10)).length = 10 := by simp; omega
  have rest : (slice frame (ipOff + 12) (ipOff + 20)).length = 8 := by simp; omega
  have zeros : sumBe [(0 : UInt8), 0] = 0 := by decide
  have sum := @sumBe_sumLe32 (slice frame ipOff (ipOff + 10) ++ ([0, 0] ++ slice frame (ipOff + 12) (ipOff + 20)))
    (by simp only [List.length_append, front, rest]; decide)
  rw [sumBe_append (by rw [front]), sumBe_append (by simp), zeros, Nat.zero_add] at sum
  generalize total : sumLe32 (slice frame ipOff (ipOff + 10) ++ ([0, 0] ++ slice frame (ipOff + 12) (ipOff + 20))) = n at sum
  have folded := ones32_mod n
  have written : slice (writeIpChecksum ipOff frame) ipOff (ipOff + 20) = slice frame ipOff (ipOff + 10) ++
      (toLeBytes16 (csumFold (ones32 n)) ++ slice frame (ipOff + 12) (ipOff + 20)) := by
    unfold writeIpChecksum
    simp only [zeroed, csumDiff, Nat.zero_add, total]
    rw [slice_overwrite_inside _ _ (by omega) (by simp) (by simpa using inside), length_toLeBytes16,
      slice_overwrite_other _ _ (.inl (by omega)), slice_overwrite_other _ _ (.inr (by simp))]
  rw [HeaderSum, written]
  refine complement_verifies (by rw [front]) (ones32_lt n) ?_ ?_
  · omega
  · rw [ones32_eq_zero]
    exact sum.2.mpr

def ipLength (pos : UdpPos) (frame : Buf) : Nat :=
  match pos.ver with
  | .v4 => (be16At frame (pos.ipOff + 2)).toNat
  | .v6 => 40 + (be16At frame (pos.ipOff + 4)).toNat

structure WellFormed (pos : UdpPos) (payload frame : Buf) : Prop where
  parsed : parseUdp frame = some pos
  ipLen : ipLength pos frame = pos.ver.headerLen + 8 + payload.length
  udpLen : (be16At frame (pos.udpOff + 4)).toNat = 8 + payload.length
  payload : frame.drop pos.payloadOff = payload
  checksum : pos.ver = .v4 → HeaderSum frame pos.ipOff

theorem WellFormed.length {pos : UdpPos} {payload frame : Buf} (formed : WellFormed pos payload frame) :
    frame.length = pos.payloadOff + payload.length := by
  have whole := (parseUdp_some formed.parsed).1
  rw [← formed.payload, List.length_drop]
  omega

theorem etherType_injective {ver ver' : IpVersion} (same : ver.etherType = ver'.etherType) : ver = ver' := by
  cases ver <;> cases ver' <;> first | rfl | exact absurd same (by decide)

theorem etherType_untagged (ver : IpVersion) : ver.etherType ≠ ethP8021Q := by cases ver <;> decide

theorem parseUdp_untagged {frame : Buf} {pos : UdpPos} {ver : IpVersion} (parsed : parseUdp frame = some pos)
    (link : be16At frame 12 = ver.etherType) : pos = { ver, ipOff := 14 } := by
  rcases (parseUdp_some parsed).2 with ⟨tagged, -⟩ | ⟨-, ip⟩
  · exact absurd (link.symm.trans tagged) (etherType_untagged ver)
  · obtain ⟨off, proto, -, -⟩ := parseIp_some ip
    rw [link] at proto
    obtain ⟨ver', ipOff⟩ := pos
    cases off
    rw [etherType_injective proto]

theorem parseUdp_ipOff_eq {frame : Buf} {pos : UdpPos} (parsed : parseUdp frame = some pos) :
    pos.ipOff = 14 ↔ be16At frame 12 ≠ ethP8021Q := by
  rcases (parseUdp_some parsed).2 with ⟨tagged, ip⟩ | ⟨untagged, ip⟩
  · simp [(parseIp_some ip).1, tagged]
  · simp [(parseIp_some ip).1, untagged]

theorem udpHeaders_of_parse {frame : Buf} {ver : IpVersion} (parsed : parseUdp frame = some { ver, ipOff := 14 }) :
    UdpHeaders ver (be16At frame (14 + ver.headerLen)) (be16At frame (14 + ver.headerLen + 2))
      (be16At frame (14 + ver.headerLen + 4)).toNat frame := by
  rcases (parseUdp_some parsed).2 with ⟨-, ip⟩ | ⟨-, ip⟩
  · exact absurd (parseIp_some ip).1 (by simp)
  · obtain ⟨-, proto, protocol, options⟩ := parseIp_some ip
    exact ⟨proto, protocol, options, rfl, rfl, rfl⟩

theorem writeInnerHeaders_ether (cfg : GutConfig) (pos : UdpPos) (sport dport : UInt16) {headers : Buf}
    (ethernet : 14 ≤ headers.length) : be16At (writeInnerHeaders cfg pos sport dport headers) 12 = pos.ver.etherType := by
  unfold writeInnerHeaders writeEth
  refine be16At_overwrite_same _ _ _ ?_
  cases pos.ver <;> simp <;> omega

theorem writeInnerHeaders_ip (cfg : GutConfig) {ver : IpVersion} {headers : Buf} (sport dport : UInt16) {n : Nat}
    (length : headers.length = payloadOff ver) (small : n < 2 ^ 16) (total : ver = .v4 → 20 + n < 2 ^ 16) (rest : Buf) :
    ipLength { ver, ipOff := 14 } (writeInnerHeaders cfg { ver, ipOff := 14 } sport dport
        (writeLengths cfg { ver, ipOff := 14 } n headers) ++ rest) = ver.headerLen + n ∧
      (ver = .v4 → HeaderSum (writeInnerHeaders cfg { ver, ipOff := 14 } sport dport
        (writeLengths cfg { ver, ipOff := 14 } n headers) ++ rest) 14) := by
  cases ver with
  | v4 =>
      simp only [payloadOff, IpVersion.headerLen] at length
      have fits := total rfl
      have word : (UInt16.ofNat (20 + n)).toNat = 20 + n := by simp; omega
      have total : be16At (writeInnerHeaders cfg { ver := .v4, ipOff := 14 } sport dport
          (writeLengths cfg { ver := .v4, ipOff := 14 } n headers)) 16 = UInt16.ofNat (20 + n) := by
        unfold writeInnerHeaders writeEth writeIpChecksum writeLengths
        split_ifs <;>
          simp (disch := (simp [UdpPos.udpOff, IpVersion.headerLen]; try omega)) only [be16At_overwrite_same,
            be16At_overwrite_other, Nat.reduceAdd]
      have sum : HeaderSum (writeInnerHeaders cfg { ver := .v4, ipOff := 14 } sport dport
          (writeLengths cfg { ver := .v4, ipOff := 14 } n headers)) 14 := by
        have verified := @headerSum_writeIpChecksum (writeLengths cfg { ver := .v4, ipOff := 14 } n headers) 14
          (by simp; omega)
        unfold HeaderSum writeInnerHeaders writeEth at *
        simp (disch := (simp [UdpPos.udpOff, IpVersion.headerLen])) only [slice_overwrite_other]
        exact verified
      refine ⟨?_, fun _ => ?_⟩
      · simp only [ipLength, IpVersion.headerLen]
        rw [be16At_append_left _ _ _ (by simp; omega), total, word]
      · rw [HeaderSum, slice_append_left _ _ _ _ (by simp; omega)]
        exact sum
  | v6 =>
      simp only [payloadOff, IpVersion.headerLen] at length
      have word : (UInt16.ofNat n).toNat = n := by simp; omega
      have total : be16At (writeInnerHeaders cfg { ver := .v6, ipOff := 14 } sport dport
          (writeLengths cfg { ver := .v6, ipOff := 14 } n headers)) 18 = UInt16.ofNat n := by
        unfold writeInnerHeaders writeEth writeLengths
        split_ifs <;>
          simp (disch := (simp [UdpPos.udpOff, IpVersion.headerLen]; try omega)) only [be16At_overwrite_same,
            be16At_overwrite_other, Nat.reduceAdd]
      refine ⟨?_, by simp⟩
      simp only [ipLength, IpVersion.headerLen]
      rw [be16At_append_left _ _ _ (by simp; omega), total, word]

section Xdp

variable {mode : ObfsMode} {cfg : GutConfig} {x x' : Xdp} {r r' : Received} {frame : Buf} {outer : Nat}

def messageOf (cfg : GutConfig) (r : Received) (frame : Buf) (outer : Nat) : Buf :=
  slice (unmaskedFrame cfg r frame outer) (r.wgOff + outer) (r.wgOff + r.wgLen - ballastOf r frame outer)

def decapsulated (mode : ObfsMode) (cfg : GutConfig) (x : Xdp) : Option Buf := do
  let r ← parseWg cfg x.frame
  let (r, frame) ← unwrap mode cfg r x
  let outer ← outerHdrLen mode (byteAt frame r.wgOff)
  some (messageOf cfg r frame outer)

theorem gutXdpCore_inv (done : gutXdpCore mode cfg x = .ok x') :
    ∃ r r' frame outer, parseWg cfg x.frame = some r ∧ unwrap mode cfg r x = some (r', frame) ∧
      Opens mode cfg r' frame outer ∧
      x'.frame = writeInnerHeaders cfg r'.pos (innerPorts mode cfg r' frame outer >>> 16).toUInt16
        (innerPorts mode cfg r' frame outer &&& 0xFFFF).toUInt16
        ((cutFrame cfg r'.pos (innerUdpLen r' frame outer) outer (unmaskedFrame cfg r' frame outer)).take
          (frame.length - outer - ballastOf r' frame outer)) := by
  cases parsed : parseWg cfg x.frame with
  | none =>
      rw [gutXdpCore_foreign parsed] at done
      cases done
  | some r =>
      have inside := parseWg_inside parsed
      cases opened : unwrap mode cfg r x with
      | none =>
          obtain ⟨x'', core, -⟩ := gutXdpCore_wrapped parsed opened
          rw [core] at done
          cases done
      | some result =>
          obtain ⟨r', frame⟩ := result
          have ethernet : 14 ≤ r'.pos.ipOff := unwrap_pos inside opened ▸ inside.ethernet
          obtain ⟨x'', core, rfl, -⟩ := gutXdpCore_unwrapped parsed opened
          rw [core] at done
          by_cases opens : ∃ outer, Opens mode cfg r' x''.frame outer
          · obtain ⟨outer, opens⟩ := opens
            obtain ⟨x₃, done', rewritten⟩ := openDatagram_opens opens ethernet
            rw [done'] at done
            cases done
            exact ⟨r, r', x''.frame, outer, rfl, opened, opens, rewritten⟩
          · obtain ⟨x₃, failed, -⟩ := openDatagram_error (not_exists.mp opens) ethernet
            rw [failed] at done
            cases done

def RtpJumbo (mode : ObfsMode) (r : Received) (frame : Buf) : Prop :=
  mode = .sip ∧ looksRtp frame r.wgOff = true ∧ 2 ^ 12 ≤ r.wgLen - 12

theorem unwrap_inside (inside : r.Inside x.frame) (opened : unwrap mode cfg r x = some (r', frame)) :
    r'.Inside frame ∧
      (r'.wgOff + r'.wgLen = frame.length ↔ r.wgOff + r.wgLen = x.frame.length ∧ ¬RtpJumbo mode r x.frame) := by
  have constants : wgMinPacket = 32 ∧ gutHeaderSize = 10 ∧ gutB64MaxInner = 896 := ⟨rfl, rfl, rfl⟩
  have resized (d : Buf) : (r.resized d).wgOff = r.wgOff ∧ (r.resized d).wgLen = d.length ∧ (r.resized d).udpLen = 8 + d.length :=
    ⟨rfl, rfl, rfl⟩
  have text {text d : Buf} (short : text.length ≤ r.wgLen) (decoded : innerDatagram text = some d) :
      (r.resized d).Inside (inPlace r x.frame d) ∧
        ((r.resized d).wgOff + (r.resized d).wgLen = (inPlace r x.frame d).length ↔ r.wgOff + r.wgLen = x.frame.length) := by
    obtain ⟨udpLen, small, minimum, whole, ethernet⟩ := inside
    have size := length_innerDatagram decoded
    have replaced := length_inPlace (d := d) ⟨udpLen, small, minimum, whole, ethernet⟩ (by omega)
    have fields := resized d
    exact ⟨⟨Nat.add_comm _ _, by omega, by omega, by omega, ethernet⟩, by omega⟩
  cases mode with
  | gut =>
      cases opened
      exact ⟨inside, by simp [RtpJumbo]⟩
  | quic =>
      cases opened
      exact ⟨inside, by simp [RtpJumbo]⟩
  | syslog =>
      simp only [unwrap, Option.map_eq_some_iff, Option.bind_eq_some_iff] at opened
      obtain ⟨d, ⟨line, header, decoded⟩, same⟩ := opened
      cases same
      simpa [RtpJumbo] using text (length_syslogText header) decoded
  | sip =>
      unfold unwrap at opened
      dsimp only at opened
      split_ifs at opened with rtp sip
      · simp only [Option.map_eq_some_iff] at opened
        obtain ⟨d, found, same⟩ := opened
        cases same
        unfold rtpDatagram at found
        dsimp only at found
        split_ifs at found with lengths
        cases found
        obtain ⟨udpLen, small, minimum, whole, ethernet⟩ := inside
        have size : (slice x.frame (r.wgOff + 12) (r.wgOff + 12 + (r.wgLen - 12) % 2 ^ 12)).length = (r.wgLen - 12) % 2 ^ 12 := by
          simp only [length_slice]
          omega
        have cut : (x.frame.take r.wgOff ++ x.frame.drop (r.wgOff + 12)).length = x.frame.length - 12 := by
          simp only [List.length_append, List.length_take, List.length_drop]
          omega
        have fields := resized (slice x.frame (r.wgOff + 12) (r.wgOff + 12 + (r.wgLen - 12) % 2 ^ 12))
        have jumbo : RtpJumbo .sip r x.frame ↔ 2 ^ 12 ≤ r.wgLen - 12 := by simp [RtpJumbo, rtp]
        rw [jumbo]
        exact ⟨⟨Nat.add_comm _ _, by omega, by omega, by omega, ethernet⟩, by omega⟩
      · simp only [Option.map_eq_some_iff, Option.bind_eq_some_iff] at opened
        obtain ⟨d, ⟨line, header, decoded⟩, same⟩ := opened
        cases same
        simpa [RtpJumbo, rtp] using text (length_sipText header) decoded

theorem unwrap_headers (inside : r.Inside x.frame) (opened : unwrap mode cfg r x = some (r', frame)) :
    frame.take r.wgOff = x.frame.take r.wgOff := by
  have whole := inside.whole
  have width : (x.frame.take r.wgOff).length = r.wgOff := by
    rw [List.length_take]
    omega
  cases mode with
  | gut =>
      cases opened
      rfl
  | quic =>
      cases opened
      rfl
  | syslog =>
      simp only [unwrap, Option.map_eq_some_iff] at opened
      obtain ⟨d, -, same⟩ := opened
      cases same
      exact List.take_left' width
  | sip =>
      unfold unwrap at opened
      dsimp only at opened
      split_ifs at opened
      all_goals
        simp only [Option.map_eq_some_iff] at opened
        obtain ⟨d, -, same⟩ := opened
        cases same
        exact List.take_left' width

theorem take_unmaskedFrame (cfg : GutConfig) (r : Received) (frame : Buf) (outer : Nat) :
    (unmaskedFrame cfg r frame outer).take r.wgOff = frame.take r.wgOff := by
  apply ext_byteAt (by simp)
  intro i bounded
  rw [List.length_take] at bounded
  rw [byteAt_take, byteAt_take, if_pos (by omega), if_pos (by omega), unmaskedFrame,
    byteAt_unmaskMac2_front _ _ _ _ _ (by omega), byteAt_frontUnmasked _ _ _ (by omega)]

theorem delivered_split (sport dport : UInt16) (n : Nat) (inside : r.Inside frame) (opens : Opens mode cfg r frame outer) :
    writeInnerHeaders cfg r.pos sport dport ((cutFrame cfg r.pos n outer (unmaskedFrame cfg r frame outer)).take
        (frame.length - outer - ballastOf r frame outer)) =
      writeInnerHeaders cfg r.pos sport dport (writeLengths cfg r.pos n (frame.take r.wgOff)) ++
        slice (unmaskedFrame cfg r frame outer) (r.wgOff + outer) (frame.length - ballastOf r frame outer) := by
  have datagram := opens.cuttable.datagram
  have whole := inside.whole
  have offset : r.wgOff = r.pos.payloadOff ∧ r.pos.payloadOff = r.pos.udpOff + 8 := ⟨rfl, rfl⟩
  have width : (writeLengths cfg r.pos n (frame.take r.wgOff)).length = r.wgOff := by simp; omega
  have kept : frame.length - outer - ballastOf r frame outer =
      r.wgOff + (frame.length - ballastOf r frame outer - (r.wgOff + outer)) := by omega
  have cut : cutFrame cfg r.pos n outer (unmaskedFrame cfg r frame outer) =
      writeLengths cfg r.pos n (frame.take r.wgOff) ++ (unmaskedFrame cfg r frame outer).drop (r.wgOff + outer) := by
    rw [cutFrame, ← take_unmaskedFrame cfg r frame outer, offset.1]
  rw [cut, kept]
  nth_rewrite 1 [← width]
  rw [List.take_length_add_append, ← slice]
  exact writeInnerHeaders_append cfg r.pos _ _ sport dport inside.ethernet (by omega)

theorem length_messageOf (cfg : GutConfig) (inside : r.Inside frame) :
    (messageOf cfg r frame outer).length = r.wgLen - (outer + ballastOf r frame outer) := by
  have whole := inside.whole
  simp only [messageOf, length_slice, length_unmaskedFrame]
  omega

theorem messageOf_ends (inside : r.Inside frame) (opens : Opens mode cfg r frame outer) :
    innerUdpLen r frame outer = 8 + (messageOf cfg r frame outer).length ∧
        frame.length - outer - ballastOf r frame outer = r.wgOff + (messageOf cfg r frame outer).length ↔
      r.wgOff + r.wgLen = frame.length := by
  have message := opens.sized.message
  have datagram := opens.cuttable.datagram
  have front := opens.readable.front
  have length := @length_messageOf _ _ outer cfg inside
  obtain ⟨udpLen, small, minimum, whole, -⟩ := inside
  have bounds := opens.readable.outer_bounds
  have ballast := opens.sized.ballast
  have constant : wgMinPacket = 32 := rfl
  have offset : r.wgOff = r.pos.udpOff + 8 := rfl
  have inner : outer + ballastOf r frame outer ≤ r.wgLen → innerUdpLen r frame outer = r.udpLen - (outer + ballastOf r frame outer) := by
    intro fits
    unfold innerUdpLen
    generalize ballastOf r frame outer = ballastLen at *
    unfold sub32
    omega
  -- a header longer than the datagram wraps the length around
  have wrapped : r.wgLen < outer + ballastOf r frame outer → innerUdpLen r frame outer ≠ 8 := by
    intro short
    unfold innerUdpLen
    generalize ballastOf r frame outer = ballastLen at *
    unfold sub32
    omega
  have fits : r.wgOff + r.wgLen = frame.length → outer + ballastOf r frame outer ≤ r.wgLen := by
    intro ends
    unfold sub32 at message
    omega
  constructor
  · rintro ⟨udp, ends⟩
    by_cases room : outer + ballastOf r frame outer ≤ r.wgLen
    · omega
    · exact absurd (by omega) (wrapped (by omega))
  · intro ends
    have room := fits ends
    have lengths := inner room
    omega

theorem messageOf_room (inside : r.Inside frame) (opens : Opens mode cfg r frame outer) :
    r.wgOff + (messageOf cfg r frame outer).length ≤ frame.length - outer - ballastOf r frame outer := by
  have datagram := opens.cuttable.datagram
  have length := @length_messageOf _ _ outer cfg inside
  have whole := inside.whole
  have offset : r.wgOff = r.pos.udpOff + 8 := rfl
  omega

structure Plain (mode : ObfsMode) (pos : UdpPos) (frame : Buf) : Prop where
  untagged : be16At frame 12 ≠ ethP8021Q
  ends : pos.udpOff + (be16At frame (pos.udpOff + 4)).toNat = frame.length
  small : ¬(mode = .sip ∧ looksRtp frame pos.payloadOff = true ∧ 2 ^ 12 + 20 ≤ (be16At frame (pos.udpOff + 4)).toNat)

theorem plain_iff (parsed : parseWg cfg x.frame = some r) :
    Plain mode r.pos x.frame ↔ r.pos.ipOff = 14 ∧ r.wgOff + r.wgLen = x.frame.length ∧ ¬RtpJumbo mode r x.frame := by
  have inside := parseWg_inside parsed
  have announced := parseWg_announced parsed
  have udpLen := inside.udpLen
  have offset : r.wgOff = r.pos.payloadOff ∧ r.pos.payloadOff = r.pos.udpOff + 8 := ⟨rfl, rfl⟩
  have length : r.pos.udpOff + r.udpLen = x.frame.length ↔ r.wgOff + r.wgLen = x.frame.length := by omega
  have jumbo : 2 ^ 12 + 20 ≤ r.udpLen ↔ 2 ^ 12 ≤ r.wgLen - 12 := by omega
  constructor
  · rintro ⟨untagged, ends, small⟩
    rw [announced] at ends small
    rw [jumbo] at small
    exact ⟨(parseUdp_ipOff_eq (parseWg_pos parsed)).mpr untagged, length.mp ends, small⟩
  · rintro ⟨untagged, ends, small⟩
    refine ⟨(parseUdp_ipOff_eq (parseWg_pos parsed)).mp untagged, ?_, ?_⟩ <;> rw [announced]
    · exact length.mpr ends
    · rw [jumbo]
      exact small

theorem decapsulated_eq (parsed : parseWg cfg x.frame = some r) (opened : unwrap mode cfg r x = some (r', frame))
    (readable : Readable mode r' frame outer) : decapsulated mode cfg x = some (messageOf cfg r' frame outer) := by
  simp [decapsulated, parsed, opened, readable.form]

theorem rewritten_headers (cfg : GutConfig) {ver : IpVersion} {whole : Buf} (sport dport : UInt16) {n : Nat} (small : n < 2 ^ 16)
    (parsed : parseUdp whole = some { ver, ipOff := 14 }) :
    UdpHeaders ver sport dport n (writeInnerHeaders cfg { ver, ipOff := 14 } sport dport
      (writeLengths cfg { ver, ipOff := 14 } n (whole.take (payloadOff ver)))) := by
  have inside : payloadOff ver ≤ whole.length := (parseUdp_some parsed).1
  have width : (whole.take (payloadOff ver)).length = payloadOff ver := by
    rw [List.length_take]
    omega
  have fields := udpHeaders_of_parse parsed
  nth_rewrite 4 [← List.take_append_drop (payloadOff ver) whole] at fields
  exact writeInnerHeaders_fields cfg sport dport width small ((UdpHeaders.append_iff width _).mp fields)

theorem delivered_headers {ver : IpVersion} {whole : Buf} (sport dport : UInt16) (pos : r.pos = { ver, ipOff := 14 })
    (inside : r.Inside frame) (opens : Opens mode cfg r frame outer) (parsed : parseUdp whole = some { ver, ipOff := 14 })
    (headers : frame.take r.wgOff = whole.take r.wgOff) :
    UdpHeaders ver sport dport (innerUdpLen r frame outer) (writeInnerHeaders cfg r.pos sport dport
      ((cutFrame cfg r.pos (innerUdpLen r frame outer) outer (unmaskedFrame cfg r frame outer)).take
        (frame.length - outer - ballastOf r frame outer))) := by
  have offset : r.wgOff = payloadOff ver := by
    rw [Received.wgOff, pos]
    rfl
  have whole := inside.whole
  have width : (frame.take r.wgOff).length = payloadOff ver := by
    rw [List.length_take, ← offset]
    omega
  have fields := rewritten_headers cfg sport dport (Nat.mod_lt _ (by decide) : innerUdpLen r frame outer < 2 ^ 16) parsed
  rw [← offset, ← headers] at fields
  rw [delivered_split sport dport _ inside opens, pos]
  exact (UdpHeaders.append_iff (by simpa only [length_writeInnerHeaders, length_writeLengths] using width) _).mpr fields

theorem delivered_plain {ver : IpVersion} {whole : Buf} (sport dport : UInt16) (pos : r.pos = { ver, ipOff := 14 })
    (inside : r.Inside frame) (opens : Opens mode cfg r frame outer) (ends : r.wgOff + r.wgLen = frame.length)
    (parsed : parseUdp whole = some { ver, ipOff := 14 }) (headers : frame.take r.wgOff = whole.take r.wgOff)
    (small : ver = .v4 → frame.length < 14 + 2 ^ 16) :
    WellFormed r.pos (messageOf cfg r frame outer)
      (writeInnerHeaders cfg r.pos sport dport ((cutFrame cfg r.pos (innerUdpLen r frame outer) outer
        (unmaskedFrame cfg r frame outer)).take (frame.length - outer - ballastOf r frame outer))) := by
  obtain ⟨udp, length⟩ := (messageOf_ends inside opens).mpr ends
  have room := @length_messageOf _ _ outer cfg inside
  have bounds := opens.readable.outer_bounds
  have offset : r.wgOff = payloadOff ver := by
    rw [Received.wgOff, pos]
    rfl
  have udpLen : innerUdpLen r frame outer < 2 ^ 16 := Nat.mod_lt _ (by decide)
  have total : ver = .v4 → 20 + innerUdpLen r frame outer < 2 ^ 16 := by
    rintro rfl
    have fits := small rfl
    have offset' : r.wgOff = 42 := offset
    omega
  have width : (frame.take r.wgOff).length = payloadOff ver := by
    rw [List.length_take, ← offset]
    omega
  have body : slice (unmaskedFrame cfg r frame outer) (r.wgOff + outer) (frame.length - ballastOf r frame outer) =
      messageOf cfg r frame outer := by
    rw [messageOf, ends]
  rw [delivered_split sport dport _ inside opens, body, pos]
  obtain ⟨ipLen, checksum⟩ := writeInnerHeaders_ip cfg sport dport width udpLen total (messageOf cfg r frame outer)
  have fields := rewritten_headers cfg sport dport udpLen parsed
  rw [← offset, ← headers] at fields
  generalize rebuilt : writeInnerHeaders cfg { ver, ipOff := 14 } sport dport
    (writeLengths cfg { ver, ipOff := 14 } (innerUdpLen r frame outer) (frame.take r.wgOff)) = front at *
  have width' : front.length = payloadOff ver := by
    rw [← rebuilt, length_writeInnerHeaders, length_writeLengths, width]
  have isFrame := UdpFrame.of_headers [] width' (Nat.add_comm 8 _ ▸ udp ▸ fields)
  rw [List.append_nil] at isFrame
  refine ⟨isFrame.parseUdp, ipLen.trans (by simp only; omega), isFrame.headers.udpLen.trans (Nat.add_comm _ _), ?_, checksum⟩
  exact List.drop_left' width'

theorem plain_of_formed {pos : UdpPos} {whole : Buf} {sport dport : UInt16} (inside : r.Inside frame)
    (opens : Opens mode cfg r frame outer) (parsed : parseUdp whole = some r.pos)
    (headers : frame.take r.wgOff = whole.take r.wgOff)
    (formed : WellFormed pos (messageOf cfg r frame outer) (writeInnerHeaders cfg r.pos sport dport
      ((cutFrame cfg r.pos (innerUdpLen r frame outer) outer (unmaskedFrame cfg r frame outer)).take
        (frame.length - outer - ballastOf r frame outer)))) :
    r.pos.ipOff = 14 ∧ r.wgOff + r.wgLen = frame.length := by
  have datagram := opens.cuttable.datagram
  have ethernet := inside.ethernet
  have room := messageOf_room inside opens
  have offset : r.wgOff = r.pos.ipOff + r.pos.ver.headerLen + 8 ∧ r.wgOff = r.pos.udpOff + 8 := ⟨rfl, rfl⟩
  have cut : (cutFrame cfg r.pos (innerUdpLen r frame outer) outer (unmaskedFrame cfg r frame outer)).length =
      frame.length - outer := by
    rw [length_cutFrame _ _ _ _ _ (by rw [length_unmaskedFrame, ← Received.wgOff]; omega), length_unmaskedFrame]
  -- the ether type is written over the tag, so the parser looks for the IP header at 14
  have found := parseUdp_untagged formed.parsed (writeInnerHeaders_ether _ _ _ _ (by rw [List.length_take, cut]; omega))
  have total := formed.length
  simp only [found, length_writeInnerHeaders, List.length_take, cut, UdpPos.payloadOff, UdpPos.udpOff] at total
  have untagged : r.pos.ipOff = 14 := by omega
  have pos' : r.pos = { ver := r.pos.ver, ipOff := 14 } := by rw [← untagged]
  refine ⟨untagged, (messageOf_ends inside opens).mp ⟨?_, by omega⟩⟩
  have fields := delivered_headers sport dport pos' inside opens (parsed.trans (congrArg some pos')) headers
  have udpLen := formed.udpLen
  rw [found] at udpLen
  exact fields.udpLen.symm.trans udpLen

theorem unwrap_length (inside : r.Inside x.frame) (opened : unwrap mode cfg r x = some (r', frame)) :
    frame.length ≤ x.frame.length := by
  cases mode with
  | gut =>
      cases opened
      exact Nat.le_refl _
  | quic =>
      cases opened
      exact Nat.le_refl _
  | syslog => exact Nat.le_of_lt (unwrap_shorter inside (.inl rfl) opened).2
  | sip => exact Nat.le_of_lt (unwrap_shorter inside (.inr rfl) opened).2

theorem delivered_wellFormed_iff {pos : UdpPos} (parsed : parseUdp x.frame = some pos)
    (length : x.frame.length = pos.ipOff + ipLength pos x.frame) (done : gutXdpCore mode cfg x = .ok x') :
    (∃ pos' message, decapsulated mode cfg x = some message ∧ WellFormed pos' message x'.frame) ↔ Plain mode pos x.frame := by
  obtain ⟨r, r', frame, outer, received, opened, opens, rewritten⟩ := gutXdpCore_inv done
  have inside := parseWg_inside received
  obtain ⟨inside', ends⟩ := unwrap_inside inside opened
  have samePos := unwrap_pos inside opened
  have sameOff : r'.wgOff = r.wgOff := by rw [Received.wgOff, samePos, Received.wgOff]
  have headers := sameOff ▸ unwrap_headers inside opened
  cases Option.some.inj (parsed.symm.trans (parseWg_pos received))
  rw [plain_iff received, ← ends, decapsulated_eq received opened opens.readable, rewritten]
  constructor
  · rintro ⟨pos', message, same, formed⟩
    cases same
    obtain ⟨untagged, whole⟩ := plain_of_formed inside' opens (parsed.trans (congrArg some samePos.symm)) headers formed
    exact ⟨samePos ▸ untagged, whole⟩
  · rintro ⟨untagged, whole⟩
    have pos : r.pos = { ver := r.pos.ver, ipOff := 14 } := by rw [← untagged]
    have short := unwrap_length inside opened
    refine ⟨_, _, rfl, delivered_plain _ _ (samePos.trans pos) inside' opens whole (parsed.trans (congrArg some pos)) headers ?_⟩
    intro v4
    have bound := (be16At x.frame (r.pos.ipOff + 2)).toNat_lt
    simp only [ipLength, v4] at length
    omega

def sealedKeepalive : Buf :=
  [71, 98, 206, 92, 186, 59, 65, 144, 0, 77, 180, 121, 233, 240, 105, 6, 138, 86, 42, 28, 92, 156, 114, 108, 177, 149] ++
    List.replicate 16 0 ++ [69, 69, 219, 104, 89, 51, 30, 182, 112, 178, 67, 116, 144, 121]

def sealedFrame (tag : Buf) : Buf :=
  List.replicate 12 0 ++ tag ++ [0x08, 0x00] ++
    [0x45, 0, 0, 84, 0, 0, 0, 0, 64, 17, 184, 152, 0, 0, 0, 0, 192, 0, 2, 1] ++ [0xA0, 0x28, 0xA0, 0x28, 0, 64, 0, 0] ++
    sealedKeepalive

theorem delivered_wellFormed_keepalive :
    ∃ x', gutXdpCore .gut sampleConfig (delivered (sealedFrame [])) = .ok x' ∧
      ((∃ pos' message, decapsulated .gut sampleConfig (delivered (sealedFrame [])) = some message ∧
          WellFormed pos' message x'.frame) ↔
        Plain .gut { ver := .v4, ipOff := 14 } (sealedFrame [])) := by
  have accepted : (gutXdpCore .gut sampleConfig (delivered (sealedFrame []))).isOk = true := by decide +kernel
  cases done : gutXdpCore .gut sampleConfig (delivered (sealedFrame [])) with
  | error _ => simp [done, Except.isOk, Except.toBool] at accepted
  | ok x' => exact ⟨x', rfl, delivered_wellFormed_iff (by decide) (by decide) done⟩

-- the tag stays in the frame behind an ether type that says there is none
theorem delivered_tagged_unreadable :
    let frame := sealedFrame [0x81, 0x00, 0, 1]
    parseUdp frame = some { ver := .v4, ipOff := 18 } ∧ frame.length = 18 + ipLength { ver := .v4, ipOff := 18 } frame ∧
      ∃ x', gutXdpCore .gut sampleConfig (delivered frame) = .ok x' ∧ parseUdp x'.frame = none := by
  intro frame
  refine ⟨by decide, by decide, ?_⟩
  have lost : ((gutXdpCore .gut sampleConfig (delivered frame)).map fun x' => parseUdp x'.frame).toOption = some none := by
    decide +kernel
  cases done : gutXdpCore .gut sampleConfig (delivered frame) with
  | error _ => simp [done, Except.map, Except.toOption] at lost
  | ok x' => exact ⟨x', rfl, by simpa [done, Except.map, Except.toOption] using lost⟩

end Xdp

end Gutd.Bpf
