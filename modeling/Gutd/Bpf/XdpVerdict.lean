import Gutd.Bpf.Unwrap

set_option autoImplicit false

namespace Gutd.Bpf

open Bytes Checked Wire

section Envelope

variable {mode : ObfsMode} {cfg : GutConfig} {r : Received} {x : Xdp}

theorem gutXdpCore_foreign (foreign : parseWg cfg x.frame = none) : gutXdpCore mode cfg x = .error x := by
  rw [gutXdpCore, foreign]
  rfl

theorem gutXdpCore_wrapped (parsed : parseWg cfg x.frame = some r) (refused : unwrap mode cfg r x = none) :
    ∃ x', gutXdpCore mode cfg x = .error x' ∧ x'.frame = x.frame ∧ x'.clientMap = x.clientMap := by
  have envelope := removeEnvelope_unwraps mode cfg (parseWg_inside parsed)
  rw [refused] at envelope
  obtain ⟨x', stage, frame, map⟩ := envelope
  refine ⟨x', ?_, frame, map⟩
  rw [gutXdpCore, parsed, orReject_some, bind_ok, stage, bind_error]

theorem gutXdpCore_unwrapped {r' : Received} {frame : Buf} (parsed : parseWg cfg x.frame = some r)
    (opened : unwrap mode cfg r x = some (r', frame)) :
    ∃ x', gutXdpCore mode cfg x = openDatagram mode cfg r' x' ∧ x'.frame = frame ∧ x'.clientMap = x.clientMap := by
  have envelope := removeEnvelope_unwraps mode cfg (parseWg_inside parsed)
  rw [opened] at envelope
  obtain ⟨x', stage, frame, map⟩ := envelope
  refine ⟨x', ?_, frame, map⟩
  rw [gutXdpCore, parsed, orReject_some, bind_ok, stage, bind_ok]

theorem gutXdpCore_plain (parsed : parseWg cfg x.frame = some r) (plain : mode = .gut ∨ mode = .quic) :
    gutXdpCore mode cfg x = openDatagram mode cfg r x ∧ unwrap mode cfg r x = some (r, x.frame) := by
  rw [gutXdpCore, parsed]
  rcases plain with rfl | rfl <;> exact ⟨rfl, rfl⟩

end Envelope

section Frame

variable (mode : ObfsMode) (cfg : GutConfig) (r : Received) (frame : Buf) (outer : Nat)

def messageBlock : Block := chachaBlock cfg.chachaInit 47 (wgNonce32 (frame.drop (r.wgOff + outer)))

def messageStream : Buf := blockBytes .little (messageBlock cfg r frame outer)

def ballastOf : Nat := ballastLen (byteAt frame (r.wgOff + outer - 1))

def frontUnmasked : Buf := xor16 frame (r.wgOff + outer) (messageStream cfg r frame outer)

def unmaskedFrame : Buf :=
  unmaskMac2 (frontUnmasked cfg r frame outer) (r.wgOff + outer) (sub32 r.wgLen outer) (messageStream cfg r frame outer)

def innerUdpLen : Nat := sub32 (sub32 r.udpLen (ballastOf r frame outer)) outer % 2 ^ 16

def innerPorts : UInt32 :=
  le32At frame (r.wgOff + encPortsOff mode outer) ^^^ (messageBlock cfg r frame outer).get 11

structure Readable : Prop where
  form : outerHdrLen mode (byteAt frame r.wgOff) = some outer
  front : r.wgOff + outer + wgMinPacket ≤ frame.length

def Genuine : Prop := headerMatches mode cfg frame r.wgOff outer (messageBlock cfg r frame outer) = true

structure Sized : Prop where
  ballast : ballastOf r frame outer ≤ 63
  message : ballastOf r frame outer + wgMinPacket ≤ sub32 r.wgLen outer

structure Cuttable : Prop where
  headers : r.wgOff ≤ 62
  datagram : r.pos.udpOff + max 8 (innerUdpLen r frame outer) + outer + ballastOf r frame outer ≤ frame.length

structure Opens : Prop where
  readable : Readable mode r frame outer
  genuine : Genuine mode cfg r frame outer
  sized : Sized r frame outer
  cuttable : Cuttable r frame outer

end Frame

variable {mode : ObfsMode} {cfg : GutConfig} {r : Received} {x : Xdp} {outer : Nat}

@[simp] theorem length_frontUnmasked (frame : Buf) : (frontUnmasked cfg r frame outer).length = frame.length := by
  simp [frontUnmasked, xor16]

@[simp] theorem length_unmaskMac2 (frame : Buf) (wg wgLen : Nat) (ks : Buf) :
    (unmaskMac2 frame wg wgLen ks).length = frame.length := by
  unfold unmaskMac2
  split
  · split_ifs <;> simp [xor16]
  · rfl

@[simp] theorem length_unmaskedFrame (frame : Buf) : (unmaskedFrame cfg r frame outer).length = frame.length := by
  simp [unmaskedFrame]

theorem byteAt_frontUnmasked (cfg : GutConfig) (frame : Buf) (i : Nat) (before : i < r.wgOff + outer) :
    byteAt (frontUnmasked cfg r frame outer) i = byteAt frame i := by
  rw [frontUnmasked, xor16, byteAt_xorAt, if_neg (by omega)]

theorem le32At_frontUnmasked (frame : Buf) (i : Nat) (before : i + 4 ≤ r.wgOff + outer) :
    le32At (frontUnmasked cfg r frame outer) i = le32At frame i := by
  apply le32At_congr
  intro k small
  exact byteAt_frontUnmasked cfg frame _ (by omega)

theorem outer_cases {frame : Buf} (readable : Readable mode r frame outer) :
    (mode = .quic → outer = 16 ∨ outer = 1200) ∧ (mode ≠ .quic → outer = 10) := by
  have form := readable.form
  cases mode with
  | quic =>
      simp only [outerHdrLen] at form
      split_ifs at form <;> simp_all
  | gut => simp_all [outerHdrLen, gutHeaderSize]
  | syslog => simp_all [outerHdrLen, gutHeaderSize]
  | sip => simp_all [outerHdrLen, gutHeaderSize]

theorem Readable.outer_bounds {frame : Buf} (readable : Readable mode r frame outer) : 10 ≤ outer ∧ outer ≤ 1200 := by
  obtain ⟨quic, other⟩ := outer_cases readable
  by_cases build : mode = .quic
  · rcases quic build with rfl | rfl <;> decide
  · have := other build
    omega

theorem headerMatches_frontUnmasked {frame : Buf} (readable : Readable mode r frame outer) (ks47 : Block) :
    headerMatches mode cfg (frontUnmasked cfg r frame outer) r.wgOff outer ks47 =
      headerMatches mode cfg frame r.wgOff outer ks47 := by
  obtain ⟨quic, other⟩ := outer_cases readable
  cases mode with
  | quic =>
      rcases quic rfl with rfl | rfl <;>
        simp (disch := omega) only [headerMatches, le32At_frontUnmasked, byteAt_frontUnmasked, if_true]
  | gut =>
      obtain rfl := other (by decide)
      simp (disch := omega) only [headerMatches, le32At_frontUnmasked]
  | syslog =>
      obtain rfl := other (by decide)
      simp (disch := omega) only [headerMatches, le32At_frontUnmasked]
  | sip =>
      obtain rfl := other (by decide)
      simp (disch := omega) only [headerMatches, le32At_frontUnmasked]

theorem ports_frontUnmasked (cfg : GutConfig) {frame : Buf} (readable : Readable mode r frame outer) :
    le32At (frontUnmasked cfg r frame outer) (r.wgOff + encPortsOff mode outer) =
      le32At frame (r.wgOff + encPortsOff mode outer) := by
  obtain ⟨quic, other⟩ := outer_cases readable
  apply le32At_frontUnmasked
  cases mode with
  | quic => rcases quic rfl with rfl | rfl <;> simp [encPortsOff]
  | gut => simp [encPortsOff, other nofun]
  | syslog => simp [encPortsOff, other nofun]
  | sip => simp [encPortsOff, other nofun]

theorem openDatagram_unreadable (unread : ∀ outer, ¬Readable mode r x.frame outer) :
    openDatagram mode cfg r x = .error x := by
  unfold openDatagram unmaskAndVerify
  cases form : outerHdrLen mode (byteAt x.frame r.wgOff) with
  | none => rfl
  | some outer =>
      have short : r.wgOff + outer + wgMinPacket > x.frame.length := by
        by_contra fits
        exact unread outer ⟨form, by omega⟩
      rw [orReject_some, bind_ok]
      dsimp only
      rw [rejectIf, if_pos short]
      rfl

theorem unmaskAndVerify_readable (readable : Readable mode r x.frame outer) :
    unmaskAndVerify mode cfg r x =
      (let x' := { x with frame := frontUnmasked cfg r x.frame outer }
       do
        rejectIf x' (headerMatches mode cfg x.frame r.wgOff outer (messageBlock cfg r x.frame outer) = false)
        pure ({ outer, ballast := ballastOf r x.frame outer, wgLen := sub32 r.wgLen outer
                ks47 := messageBlock cfg r x.frame outer }, x')) := by
  rw [← headerMatches_frontUnmasked readable]
  unfold unmaskAndVerify
  rw [readable.form, orReject_some, bind_ok]
  dsimp only
  rw [rejectIf_ok (Nat.not_lt.mpr readable.front), bind_ok]
  rfl

-- the header is compared after the front of the message has been unmasked in the frame
theorem openDatagram_forged (readable : Readable mode r x.frame outer) (forged : ¬Genuine mode cfg r x.frame outer) :
    openDatagram mode cfg r x = .error { x with frame := frontUnmasked cfg r x.frame outer } := by
  have mismatch : headerMatches mode cfg x.frame r.wgOff outer (messageBlock cfg r x.frame outer) = false := by
    simpa [Genuine] using forged
  unfold openDatagram
  rw [unmaskAndVerify_readable readable]
  dsimp only
  rw [rejectIf, if_pos mismatch]
  rfl

def learned (mode : ObfsMode) (cfg : GutConfig) (r : Received) (x : Xdp) (outer : Nat) : Xdp :=
  learn mode cfg r.pos (r.wgOff + outer) { x with frame := frontUnmasked cfg r x.frame outer }

theorem openDatagram_genuine (readable : Readable mode r x.frame outer) (genuine : Genuine mode cfg r x.frame outer) :
    openDatagram mode cfg r x =
      (let x' := { learned mode cfg r x outer with frame := unmaskedFrame cfg r x.frame outer }
       let ballast := ballastOf r x.frame outer
       let wgLen := sub32 r.wgLen outer
       do
        rejectIf x' (ballast > 63 ∨ ballast > wgLen)
        rejectIf x' (wgLen < ballast ∨ wgLen - ballast < wgMinPacket)
        deliver cfg r.pos outer ballast r.udpLen (innerPorts mode cfg r x.frame outer) x') := by
  have verified : ¬headerMatches mode cfg x.frame r.wgOff outer (messageBlock cfg r x.frame outer) = false := by
    simpa [Genuine] using genuine
  have ports := ports_frontUnmasked cfg readable
  unfold openDatagram
  rw [unmaskAndVerify_readable readable]
  dsimp only
  rw [rejectIf_ok verified, bind_ok]
  dsimp only [pure_eq_ok, bind_ok]
  rw [frame_learn, ports]
  rfl

theorem openDatagram_unsized (readable : Readable mode r x.frame outer) (genuine : Genuine mode cfg r x.frame outer)
    (unsized : ¬Sized r x.frame outer) :
    openDatagram mode cfg r x =
      .error { learned mode cfg r x outer with frame := unmaskedFrame cfg r x.frame outer } := by
  rw [openDatagram_genuine readable genuine]
  dsimp only
  by_cases ballast : ballastOf r x.frame outer > 63 ∨ ballastOf r x.frame outer > sub32 r.wgLen outer
  · rw [rejectIf, if_pos ballast]
    rfl
  · have short : sub32 r.wgLen outer < ballastOf r x.frame outer ∨
        sub32 r.wgLen outer - ballastOf r x.frame outer < wgMinPacket := by
      by_contra enough
      exact unsized ⟨by omega, by omega⟩
    rw [rejectIf_ok ballast, bind_ok, rejectIf, if_pos short]
    rfl

theorem openDatagram_sized (readable : Readable mode r x.frame outer) (genuine : Genuine mode cfg r x.frame outer)
    (sized : Sized r x.frame outer) :
    openDatagram mode cfg r x =
      deliver cfg r.pos outer (ballastOf r x.frame outer) r.udpLen (innerPorts mode cfg r x.frame outer)
        { learned mode cfg r x outer with frame := unmaskedFrame cfg r x.frame outer } := by
  have ballast := sized.ballast
  have message := sized.message
  rw [openDatagram_genuine readable genuine]
  dsimp only
  rw [rejectIf_ok (by omega), bind_ok, rejectIf_ok (by omega), bind_ok]

theorem deliver_uncut (cfg : GutConfig) (pos : UdpPos) (outer ballast udpLen : Nat) (ports : UInt32) (x : Xdp)
    (large : 62 < pos.payloadOff) :
    deliver cfg pos outer ballast udpLen ports x =
      .error { x with frame := writeLengths cfg pos (sub32 (sub32 udpLen ballast) outer % 2 ^ 16) x.frame } := by
  unfold deliver cutOuterHeader
  dsimp only
  rw [rejectIf, if_pos (.inr large)]
  rfl

def cutFrame (cfg : GutConfig) (pos : UdpPos) (newUdpLen outer : Nat) (frame : Buf) : Buf :=
  writeLengths cfg pos newUdpLen (frame.take pos.payloadOff) ++ frame.drop (pos.payloadOff + outer)

theorem length_cutFrame (cfg : GutConfig) (pos : UdpPos) (newUdpLen outer : Nat) (frame : Buf)
    (inside : pos.payloadOff + outer ≤ frame.length) :
    (cutFrame cfg pos newUdpLen outer frame).length = frame.length - outer := by
  simp [cutFrame]
  omega

theorem cutOuterHeader_lengths (cfg : GutConfig) (pos : UdpPos) (n outer : Nat) (x : Xdp) (ethernet : 14 ≤ pos.ipOff)
    (small : pos.payloadOff ≤ 62) (inside : pos.payloadOff + outer ≤ x.frame.length) :
    cutOuterHeader pos outer { x with frame := writeLengths cfg pos n x.frame } =
      .ok { x with frame := cutFrame cfg pos n outer x.frame } := by
  have width : (slice x.frame pos.payloadOff (pos.payloadOff + outer)).length = outer := by simp; omega
  have split : x.frame = x.frame.take pos.payloadOff ++
      (slice x.frame pos.payloadOff (pos.payloadOff + outer) ++ x.frame.drop (pos.payloadOff + outer)) := by
    rw [slice_append_drop, List.take_append_drop]
  have lengths : writeLengths cfg pos n x.frame = writeLengths cfg pos n (x.frame.take pos.payloadOff) ++
      (slice x.frame pos.payloadOff (pos.payloadOff + outer) ++ x.frame.drop (pos.payloadOff + outer)) := by
    rw [← writeLengths_append _ _ _ _ _ (by simp; omega), ← split]
  have cut := cutOuterHeader_ok (x := { x with frame := writeLengths cfg pos n x.frame }) lengths
    (by simp; omega) ethernet small
  rwa [width] at cut

theorem trimBallast_eq (x : Xdp) (ballast : Nat) :
    trimBallast x ballast =
      if 0 < ballast ∧ x.frame.length < ballast + 14 then .error x.dropped
      else .ok { x with frame := x.frame.take (x.frame.length - ballast), tailroom := x.tailroom + ballast } := by
  unfold trimBallast
  by_cases some : ballast > 0
  · rw [if_pos some]
    split_ifs with short
    · have fails : x.adjustTail (-ballast) = none := by
        unfold Xdp.adjustTail
        rw [if_pos (by omega)]
      rw [fails]
      rfl
    · rw [adjustTail_trim (by omega), orReject_some]
  · have none : ballast = 0 := by omega
    simp [none]

def trimmed (frame : Buf) (ballast : Nat) : Buf :=
  if 0 < ballast ∧ frame.length < ballast + 14 then frame else frame.take (frame.length - ballast)

theorem length_trimmed_le (frame : Buf) (ballast : Nat) : (trimmed frame ballast).length ≤ frame.length := by
  unfold trimmed
  split_ifs <;> simp

section Cut

variable (cfg : GutConfig) (pos : UdpPos) (outer ballast udpLen : Nat) (ports : UInt32) {n : Nat} (ethernet : 14 ≤ pos.ipOff)
  (small : pos.payloadOff ≤ 62) (inside : pos.payloadOff + outer ≤ x.frame.length)
  (lengths : n = sub32 (sub32 udpLen ballast) outer % 2 ^ 16)

include ethernet small inside lengths

theorem deliver_short (short : x.frame.length < pos.udpOff + max 8 n + outer + ballast) :
    ∃ x', deliver cfg pos outer ballast udpLen ports x = .error x' ∧
      x'.frame = trimmed (cutFrame cfg pos n outer x.frame) ballast ∧ x'.clientMap = x.clientMap := by
  have cut := cutOuterHeader_lengths cfg pos n outer x ethernet small inside
  have size := length_cutFrame cfg pos n outer x.frame inside
  unfold deliver
  simp only [← lengths]
  rw [cut, bind_ok, trimBallast_eq]
  unfold trimmed
  dsimp only
  split_ifs with tiny
  · exact ⟨_, rfl, rfl, rfl⟩
  · rw [bind_ok]
    by_cases datagram : pos.ipOff + pos.ver.headerLen + n >
        ((cutFrame cfg pos n outer x.frame).take ((cutFrame cfg pos n outer x.frame).length - ballast)).length
    · rw [rejectIf, if_pos datagram]
      exact ⟨_, rfl, rfl, rfl⟩
    · have headers : pos.payloadOff >
          ((cutFrame cfg pos n outer x.frame).take ((cutFrame cfg pos n outer x.frame).length - ballast)).length := by
        simp only [List.length_take, size] at datagram ⊢
        simp only [UdpPos.payloadOff, UdpPos.udpOff] at short datagram inside ⊢
        omega
      rw [rejectIf_ok datagram, bind_ok, rejectIf, if_pos headers]
      exact ⟨_, rfl, rfl, rfl⟩

theorem deliver_whole (whole : pos.udpOff + max 8 n + outer + ballast ≤ x.frame.length) :
    ∃ x', deliver cfg pos outer ballast udpLen ports x = .ok x' ∧
      x'.frame = writeInnerHeaders cfg pos (ports >>> 16).toUInt16 (ports &&& 0xFFFF).toUInt16
        ((cutFrame cfg pos n outer x.frame).take (x.frame.length - outer - ballast)) ∧
      x'.clientMap = x.clientMap := by
  have cut := cutOuterHeader_lengths cfg pos n outer x ethernet small inside
  have size := length_cutFrame cfg pos n outer x.frame inside
  have offsets : pos.payloadOff = pos.udpOff + 8 ∧ pos.udpOff = pos.ipOff + pos.ver.headerLen := ⟨rfl, rfl⟩
  unfold deliver
  simp only [← lengths]
  rw [cut, bind_ok, trimBallast_eq, if_neg (by simp only [size]; omega), bind_ok,
    rejectIf_ok (by simp only [List.length_take, size]; omega), bind_ok,
    rejectIf_ok (by simp only [List.length_take, size]; omega), bind_ok]
  refine ⟨_, rfl, ?_, rfl⟩
  simp only [size]

end Cut

theorem openDatagram_large (readable : Readable mode r x.frame outer) (genuine : Genuine mode cfg r x.frame outer)
    (sized : Sized r x.frame outer) (large : 62 < r.wgOff) :
    openDatagram mode cfg r x = .error { learned mode cfg r x outer with
      frame := writeLengths cfg r.pos (innerUdpLen r x.frame outer) (unmaskedFrame cfg r x.frame outer) } := by
  rw [openDatagram_sized readable genuine sized, deliver_uncut _ _ _ _ _ _ _ large]
  rfl

structure Misannounced (mode : ObfsMode) (cfg : GutConfig) (r : Received) (frame : Buf) (outer : Nat) : Prop where
  readable : Readable mode r frame outer
  genuine : Genuine mode cfg r frame outer
  sized : Sized r frame outer
  headers : r.wgOff ≤ 62
  outside : frame.length < r.pos.udpOff + max 8 (innerUdpLen r frame outer) + outer + ballastOf r frame outer

theorem openDatagram_misannounced (misannounced : Misannounced mode cfg r x.frame outer) (ethernet : 14 ≤ r.pos.ipOff) :
    ∃ x', openDatagram mode cfg r x = .error x' ∧
      x'.frame = trimmed (cutFrame cfg r.pos (innerUdpLen r x.frame outer) outer (unmaskedFrame cfg r x.frame outer))
        (ballastOf r x.frame outer) := by
  obtain ⟨readable, genuine, sized, headers, outside⟩ := misannounced
  have front := readable.front
  have constants : wgMinPacket = 32 ∧ r.wgOff = r.pos.payloadOff := ⟨rfl, rfl⟩
  obtain ⟨x', done, frame, -⟩ := deliver_short cfg r.pos outer (ballastOf r x.frame outer) r.udpLen
    (innerPorts mode cfg r x.frame outer) (n := innerUdpLen r x.frame outer)
    (x := { learned mode cfg r x outer with frame := unmaskedFrame cfg r x.frame outer }) ethernet headers
    (by simp only [length_unmaskedFrame]; omega) rfl (by simp only [length_unmaskedFrame]; exact outside)
  rw [openDatagram_sized readable genuine sized]
  exact ⟨x', done, frame⟩

theorem openDatagram_opens (opens : Opens mode cfg r x.frame outer) (ethernet : 14 ≤ r.pos.ipOff) :
    ∃ x', openDatagram mode cfg r x = .ok x' ∧
      x'.frame = writeInnerHeaders cfg r.pos (innerPorts mode cfg r x.frame outer >>> 16).toUInt16
        (innerPorts mode cfg r x.frame outer &&& 0xFFFF).toUInt16
        ((cutFrame cfg r.pos (innerUdpLen r x.frame outer) outer (unmaskedFrame cfg r x.frame outer)).take
          (x.frame.length - outer - ballastOf r x.frame outer)) := by
  obtain ⟨readable, genuine, sized, headers, datagram⟩ := opens
  have front := readable.front
  have constants : wgMinPacket = 32 ∧ r.wgOff = r.pos.payloadOff := ⟨rfl, rfl⟩
  obtain ⟨x', done, frame, -⟩ := deliver_whole cfg r.pos outer (ballastOf r x.frame outer) r.udpLen
    (innerPorts mode cfg r x.frame outer) (n := innerUdpLen r x.frame outer)
    (x := { learned mode cfg r x outer with frame := unmaskedFrame cfg r x.frame outer }) ethernet headers
    (by simp only [length_unmaskedFrame]; omega) rfl (by simp only [length_unmaskedFrame]; exact datagram)
  rw [length_unmaskedFrame] at frame
  rw [openDatagram_sized readable genuine sized]
  exact ⟨x', done, frame⟩

end Gutd.Bpf
