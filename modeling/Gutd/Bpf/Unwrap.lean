import Gutd.Bpf.XdpReceive

set_option autoImplicit false

namespace Gutd.Bpf

open Bytes Checked Wire

def innerDatagram (text : Buf) : Option Buf :=
  let (inner, decodedLen) := b64Decode text
  let ballast := ballastLen (byteAt inner 9)
  if text.length < 16 ∨ text.length > gutB64MaxOut ∨ text.length % 4 ≠ 0 then none
  else if decodedLen < gutHeaderSize + wgMinPacket ∨ decodedLen > gutB64MaxInner then none
  else if decodedLen - ballast < gutHeaderSize + wgMinPacket then none
  else some ((overwrite inner 9 [0x00]).take (decodedLen - ballast))

def syslogText (r : Received) (frame : Buf) : Option Buf :=
  let hdrLen := syslogHdrLen frame r.wgOff
  if byteAt frame r.wgOff ≠ 0x3C ∨ r.wgOff + 68 > frame.length ∨ hdrLen < 36 ∨ r.wgLen < hdrLen then none
  else some (slice frame (r.wgOff + hdrLen) (r.wgOff + hdrLen + (r.wgLen - hdrLen) % 2 ^ 12))

def sipWindow (r : Received) (x : Xdp) : Buf :=
  let scanLen := min r.wgLen 1024
  slice x.frame r.wgOff (r.wgOff + scanLen) ++ x.scan.drop scanLen

def sipScan (window : Buf) (scanLen : Nat) : SipScan :=
  let ctx : SipScan := { result := 0, dateNumeric := 0, authToken := 0 }
  let ctx := bpfLoop 512 (sipDateExtractCb window scanLen) ctx
  bpfLoop 480 (sipAuthScanCb window scanLen) ctx

def sipMarkerScan (window : Buf) (scanLen : Nat) : Nat :=
  (bpfLoop 1024 (sipMarkerScanCb window scanLen) (sipScan window scanLen)).result

def sipAuthentic (cfg : GutConfig) (ctx : SipScan) : Prop :=
  ctx.authToken ≠ 0 ∧ sipHash32 (ctx.dateNumeric / 10000).toUInt32 cfg.tokenKey = ctx.authToken

instance (cfg : GutConfig) (ctx : SipScan) : Decidable (sipAuthentic cfg ctx) := inferInstanceAs (Decidable (_ ∧ _))

def sipText (cfg : GutConfig) (r : Received) (x : Xdp) : Option Buf :=
  let scanLen := min r.wgLen 1024
  let hdrLen := sipMarkerScan (sipWindow r x) scanLen
  if scanLen < 64 ∨ ¬sipAuthentic cfg (sipScan (sipWindow r x) scanLen) then none
  else if hdrLen = 0 ∨ hdrLen > 256 ∨ hdrLen ≥ r.wgLen then none
  else some (slice x.frame (r.wgOff + hdrLen) (r.wgOff + hdrLen + (r.wgLen - hdrLen) % 2 ^ 11))

def rtpDatagram (r : Received) (frame : Buf) : Option Buf :=
  let len := (r.wgLen - 12) % 2 ^ 12
  if len < gutHeaderSize + wgMinPacket ∨ len > 1500 ∨ r.wgOff > 62 then none
  else some (slice frame (r.wgOff + 12) (r.wgOff + 12 + len))

def Received.resized (r : Received) (d : Buf) : Received := { r with udpLen := 8 + d.length, wgLen := d.length }

def inPlace (r : Received) (frame d : Buf) : Buf :=
  frame.take r.wgOff ++ (d ++ (frame.drop (r.wgOff + d.length)).take (frame.length - r.wgOff - r.wgLen))

def unwrap (mode : ObfsMode) (cfg : GutConfig) (r : Received) (x : Xdp) : Option (Received × Buf) :=
  match mode with
  | .gut => some (r, x.frame)
  | .quic => some (r, x.frame)
  | .syslog => ((syslogText r x.frame).bind innerDatagram).map fun d => (r.resized d, inPlace r x.frame d)
  | .sip =>
      if looksRtp x.frame r.wgOff then
        (rtpDatagram r x.frame).map fun d => (r.resized d, x.frame.take r.wgOff ++ x.frame.drop (r.wgOff + 12))
      else if looksSip x.frame r.wgOff then
        ((sipText cfg r x).bind innerDatagram).map fun d => (r.resized d, inPlace r x.frame d)
      else none

structure Received.Inside (r : Received) (frame : Buf) : Prop where
  udpLen : r.udpLen = r.wgLen + 8
  small : r.udpLen < 2 ^ 16
  minimum : wgMinPacket ≤ r.wgLen
  whole : r.wgOff + r.wgLen ≤ frame.length
  ethernet : 14 ≤ r.pos.ipOff

variable {mode : ObfsMode} {cfg : GutConfig} {r : Received} {x : Xdp}

theorem parseWg_pos {frame : Buf} (parsed : parseWg cfg frame = some r) : parseUdp frame = some r.pos := by
  unfold parseWg at parsed
  split at parsed
  · cases parsed
  · rename_i pos udp
    dsimp only at parsed
    split_ifs at parsed
    cases parsed
    exact udp

theorem parseWg_inside {frame : Buf} (parsed : parseWg cfg frame = some r) : r.Inside frame := by
  unfold parseWg at parsed
  split at parsed
  · cases parsed
  · rename_i pos udp
    dsimp only at parsed
    split_ifs at parsed with port short outside
    cases parsed
    have small := (be16At frame (pos.udpOff + 4)).toNat_lt
    simp only [wgMinPacket] at short outside
    exact ⟨by simp only; omega, small, by simp only [wgMinPacket]; omega, by simp only [Received.wgOff]; omega,
      parseUdp_ipOff udp⟩

theorem length_b64Decode (text : Buf) :
    (b64Decode text).1.length = text.length / 4 * 3 ∧ (b64Decode text).2 ≤ text.length / 4 * 3 := by
  constructor
  · simp [b64Decode, List.length_flatMap, b64DecodeStep, List.map_const']
  · simp only [b64Decode]
    omega

theorem length_innerDatagram {text d : Buf} (found : innerDatagram text = some d) :
    gutHeaderSize + wgMinPacket ≤ d.length ∧ d.length < text.length ∧ d.length ≤ gutB64MaxInner := by
  have size := length_b64Decode text
  unfold innerDatagram at found
  dsimp only at found
  split_ifs at found with lengths decoded net
  cases found
  simp only [List.length_take, length_overwrite, size.1, gutHeaderSize, wgMinPacket, gutB64MaxInner] at *
  omega

theorem trimTail_eq (x : Xdp) (excess : Nat) (inside : excess + 14 ≤ x.frame.length) :
    ∃ x', trimTail x excess = .ok x' ∧ x'.frame = x.frame.take (x.frame.length - excess) ∧ x'.clientMap = x.clientMap := by
  unfold trimTail
  split_ifs with some
  · rw [adjustTail_trim inside]
    exact ⟨_, rfl, rfl, rfl⟩
  · have none : excess = 0 := by omega
    exact ⟨x, rfl, by simp [none], rfl⟩

theorem inPlace_eq {d : Buf} (inside : r.Inside x.frame) (shorter : d.length ≤ r.wgLen) :
    (overwrite x.frame r.wgOff d).take (x.frame.length - (r.wgLen - d.length)) = inPlace r x.frame d := by
  have whole := inside.whole
  have kept : x.frame.length - (r.wgLen - d.length) =
      (x.frame.take r.wgOff).length + (d.length + (x.frame.length - r.wgOff - r.wgLen)) := by
    simp
    omega
  rw [overwrite_eq_append _ _ _ (by omega), List.append_assoc, kept, List.take_length_add_append,
    List.take_length_add_append]
  rfl

theorem length_inPlace {d : Buf} (inside : r.Inside x.frame) (shorter : d.length ≤ r.wgLen) :
    (inPlace r x.frame d).length + r.wgLen = x.frame.length + d.length := by
  have whole := inside.whole
  simp [inPlace]
  omega

theorem store_inPlace {d : Buf} (inside : r.Inside x.frame) (shorter : d.length ≤ r.wgLen)
    (minimum : gutHeaderSize + wgMinPacket ≤ d.length) :
    ∃ x', (do
        let frame ← orReject x (storeBytes x.frame r.wgOff d)
        let x := { x with frame }
        let x ← trimTail x (r.wgLen - d.length)
        rejectIf x (r.wgOff > x.frame.length)
        rejectIf x (r.wgOff + gutHeaderSize + wgMinPacket > x.frame.length ∨ r.wgOff + d.length > x.frame.length)
        pure ({ r with udpLen := 8 + d.length, wgLen := d.length }, x)) = .ok (r.resized d, x') ∧
      x'.frame = inPlace r x.frame d ∧ x'.clientMap = x.clientMap := by
  have whole := inside.whole
  have ethernet := inside.ethernet
  have offset : 22 ≤ r.wgOff := by
    simp only [Received.wgOff, UdpPos.payloadOff, UdpPos.udpOff]
    omega
  obtain ⟨x', trimmed, frame, map⟩ := trimTail_eq { x with frame := overwrite x.frame r.wgOff d }
    (r.wgLen - d.length) (by simp; omega)
  have placed : x'.frame = inPlace r x.frame d := by
    rw [frame, length_overwrite, inPlace_eq inside shorter]
  have size := length_inPlace inside shorter
  rw [← placed] at size
  refine ⟨x', ?_, placed, map⟩
  rw [storeBytes_ok (by omega), orReject_some, bind_ok]
  dsimp only
  rw [trimmed, bind_ok, rejectIf_ok (by omega), bind_ok, rejectIf_ok (by omega), bind_ok]
  rfl

-- a text is decoded and checked before the first byte of the frame is written
theorem replaceByDecoded_spec {hdrLen b64Len : Nat} (inside : r.Inside x.frame) (within : hdrLen + b64Len ≤ r.wgLen) :
    match innerDatagram (slice x.frame (r.wgOff + hdrLen) (r.wgOff + hdrLen + b64Len)) with
    | none => replaceByDecoded r hdrLen b64Len x = .error x
    | some d => ∃ x', replaceByDecoded r hdrLen b64Len x = .ok (r.resized d, x') ∧ x'.frame = inPlace r x.frame d ∧
        x'.clientMap = x.clientMap := by
  have whole := inside.whole
  have length : (slice x.frame (r.wgOff + hdrLen) (r.wgOff + hdrLen + b64Len)).length = b64Len := by simp; omega
  have loaded : loadBytes x.frame (r.wgOff + hdrLen) b64Len = _ := loadBytes_ok (by omega)
  generalize slice x.frame (r.wgOff + hdrLen) (r.wgOff + hdrLen + b64Len) = text at length loaded
  have size := length_b64Decode text
  unfold replaceByDecoded innerDatagram
  simp only [loaded, orReject_some, bind_ok, length] at size ⊢
  generalize b64Decode text = decoded at size ⊢
  obtain ⟨inner, decodedLen⟩ := decoded
  dsimp only at size ⊢
  by_cases lengths : b64Len < 16 ∨ b64Len > gutB64MaxOut
  · rw [if_pos (by omega), rejectIf, if_pos lengths]
    rfl
  rw [rejectIf_ok lengths, bind_ok]
  by_cases odd : b64Len % 4 ≠ 0
  · rw [if_pos (by omega), rejectIf, if_pos odd]
    rfl
  rw [if_neg (by omega), rejectIf_ok odd, bind_ok]
  by_cases range : decodedLen < gutHeaderSize + wgMinPacket ∨ decodedLen > gutB64MaxInner
  · rw [if_pos range, rejectIf, if_pos range]
    rfl
  rw [if_neg range, rejectIf_ok range, bind_ok]
  have constants : gutHeaderSize = 10 ∧ wgMinPacket = 32 ∧ gutB64MaxInner = 896 := ⟨rfl, rfl, rfl⟩
  by_cases ballast : ballastLen (byteAt inner 9) ≥ decodedLen - gutHeaderSize
  · rw [if_pos (by omega), rejectIf, if_pos ballast]
    rfl
  rw [rejectIf_ok ballast, bind_ok, Nat.mod_eq_of_lt (by omega)]
  by_cases net : decodedLen - ballastLen (byteAt inner 9) < gutHeaderSize + wgMinPacket
  · rw [if_pos net, rejectIf, if_pos net]
    rfl
  rw [if_neg net, rejectIf_ok net, bind_ok]
  have width : ((overwrite inner 9 [0x00]).take (decodedLen - ballastLen (byteAt inner 9))).length =
      decodedLen - ballastLen (byteAt inner 9) := by
    simp only [List.length_take, length_overwrite]
    omega
  have stored := store_inPlace (d := (overwrite inner 9 [0x00]).take (decodedLen - ballastLen (byteAt inner 9))) inside
    (by omega) (by omega)
  simpa only [width] using stored

def Unwraps (stage : Run (Received × Xdp)) (x : Xdp) : Option (Received × Buf) → Prop
  | none => ∃ x', stage = .error x' ∧ x'.frame = x.frame ∧ x'.clientMap = x.clientMap
  | some (r', frame) => ∃ x', stage = .ok (r', x') ∧ x'.frame = frame ∧ x'.clientMap = x.clientMap

theorem replaceByDecoded_unwraps {hdrLen b64Len : Nat} (inside : r.Inside x.frame) (within : hdrLen + b64Len ≤ r.wgLen) :
    Unwraps (replaceByDecoded r hdrLen b64Len x) x
      ((innerDatagram (slice x.frame (r.wgOff + hdrLen) (r.wgOff + hdrLen + b64Len))).map fun d =>
        (r.resized d, inPlace r x.frame d)) := by
  have spec := replaceByDecoded_spec inside within
  split at spec
  · rename_i refused
    rw [refused]
    exact ⟨x, spec, rfl, rfl⟩
  · rename_i d found
    rw [found]
    exact spec

theorem removeSyslog_unwraps (inside : r.Inside x.frame) :
    Unwraps (removeSyslog r x) x
      (((syslogText r x.frame).bind innerDatagram).map fun d => (r.resized d, inPlace r x.frame d)) := by
  have udpLen := inside.udpLen
  have bounded := inside.small
  have header : syslogHdrLen x.frame r.wgOff ≤ 68 := by
    unfold syslogHdrLen
    split
    · rename_i i found
      have member := List.mem_of_find?_eq_some found
      simp at member
      omega
    · omega
  unfold removeSyslog syslogText
  dsimp only
  by_cases first : byteAt x.frame r.wgOff ≠ 0x3C
  · rw [if_pos (.inl first), rejectIf, if_pos first]
    exact ⟨x, rfl, rfl, rfl⟩
  rw [rejectIf_ok first, bind_ok]
  by_cases short : r.wgOff + 68 > x.frame.length
  · rw [if_pos (.inr (.inl short)), rejectIf, if_pos short]
    exact ⟨x, rfl, rfl, rfl⟩
  rw [rejectIf_ok short, bind_ok]
  by_cases unmarked : syslogHdrLen x.frame r.wgOff < 36
  · rw [if_pos (.inr (.inr (.inl unmarked))), rejectIf, if_pos (.inl unmarked)]
    exact ⟨x, rfl, rfl, rfl⟩
  rw [rejectIf_ok (by omega), bind_ok]
  by_cases behind : r.wgLen < syslogHdrLen x.frame r.wgOff
  · -- the length wraps around and is refused as too large
    have wrapped : sub32 r.wgLen (syslogHdrLen x.frame r.wgOff) % 2 ^ 12 > gutB64MaxOut := by
      simp only [sub32, gutB64MaxOut]
      omega
    rw [if_pos (.inr (.inr (.inr behind)))]
    unfold replaceByDecoded
    rw [rejectIf, if_pos (.inr wrapped)]
    exact ⟨x, rfl, rfl, rfl⟩
  · have length : sub32 r.wgLen (syslogHdrLen x.frame r.wgOff) = r.wgLen - syslogHdrLen x.frame r.wgOff := by
      unfold sub32
      omega
    rw [if_neg (by simp only [not_or]; exact ⟨first, short, unmarked, behind⟩), length, Option.bind_some]
    exact replaceByDecoded_unwraps inside (by omega)

theorem removeRtp_unwraps (inside : r.Inside x.frame) :
    Unwraps (removeRtp r x) x
      ((rtpDatagram r x.frame).map fun d => (r.resized d, x.frame.take r.wgOff ++ x.frame.drop (r.wgOff + 12))) := by
  have udpLen := inside.udpLen
  have bounded := inside.small
  have whole := inside.whole
  have minimum := inside.minimum
  have constants : gutHeaderSize = 10 ∧ wgMinPacket = 32 := ⟨rfl, rfl⟩
  have ethernet : 14 ≤ r.wgOff := by
    have := inside.ethernet
    simp only [Received.wgOff, UdpPos.payloadOff, UdpPos.udpOff]
    omega
  have length : sub32 r.wgLen 12 = r.wgLen - 12 := by
    unfold sub32
    omega
  unfold removeRtp rtpDatagram
  rw [length]
  dsimp only
  generalize taken : (r.wgLen - 12) % 2 ^ 12 = len
  by_cases range : len < gutHeaderSize + wgMinPacket ∨ len > 1500
  · rw [if_pos (by omega), rejectIf, if_pos range]
    exact ⟨x, rfl, rfl, rfl⟩
  rw [rejectIf_ok range, bind_ok]
  by_cases large : r.wgOff > 62
  · rw [if_pos (.inr (.inr large)), rejectIf, if_pos large]
    exact ⟨x, rfl, rfl, rfl⟩
  have width : (slice x.frame (r.wgOff + 12) (r.wgOff + 12 + len)).length = len := by simp; omega
  rw [rejectIf_ok large, bind_ok, if_neg (by omega), adjustHead_ok (by omega), orReject_some, bind_ok,
    rejectIf_ok (by simp; omega), bind_ok, rejectIf_ok (by simp; omega), bind_ok]
  refine ⟨{ x with frame := overwrite (x.frame.drop 12) 0 (slice x.frame 0 r.wgOff) }, ?_, ?_, rfl⟩
  · rw [Received.resized, width]
    rfl
  rw [slice_zero, overwrite_zero _ _ (by simp; omega), List.drop_drop, List.length_take, Nat.min_eq_left (by omega),
    Nat.add_comm 12]

theorem removeSip_unwraps (inside : r.Inside x.frame) :
    Unwraps (removeSip cfg r x) x
      (((sipText cfg r x).bind innerDatagram).map fun d => (r.resized d, inPlace r x.frame d)) := by
  have udpLen := inside.udpLen
  have bounded := inside.small
  have whole := inside.whole
  unfold removeSip sipText
  dsimp only
  by_cases short : min r.wgLen 1024 < 64
  · rw [if_pos (.inl short), rejectIf, if_pos short]
    exact ⟨x, rfl, rfl, rfl⟩
  rw [rejectIf_ok short, bind_ok, loadBytes_ok (by omega), orReject_some, bind_ok]
  -- only the scratch bytes change before the text is decoded
  change Unwraps (do
    rejectIf { x with scan := sipWindow r x } ((sipScan (sipWindow r x) (min r.wgLen 1024)).authToken = 0 ∨
      sipHash32 ((sipScan (sipWindow r x) (min r.wgLen 1024)).dateNumeric / 10000).toUInt32 cfg.tokenKey ≠
        (sipScan (sipWindow r x) (min r.wgLen 1024)).authToken)
    rejectIf { x with scan := sipWindow r x } (sipMarkerScan (sipWindow r x) (min r.wgLen 1024) = 0 ∨
      sipMarkerScan (sipWindow r x) (min r.wgLen 1024) > 256 ∨ sipMarkerScan (sipWindow r x) (min r.wgLen 1024) ≥ r.wgLen)
    replaceByDecoded r (sipMarkerScan (sipWindow r x) (min r.wgLen 1024))
      (sub32 r.wgLen (sipMarkerScan (sipWindow r x) (min r.wgLen 1024)) % 2 ^ 11) { x with scan := sipWindow r x }) x _
  generalize sipMarkerScan (sipWindow r x) (min r.wgLen 1024) = hdrLen
  generalize sipScan (sipWindow r x) (min r.wgLen 1024) = ctx
  by_cases authentic : sipAuthentic cfg ctx
  · rw [if_neg (by simp [short, authentic]), rejectIf_ok (by simpa [sipAuthentic] using authentic), bind_ok]
    by_cases unmarked : hdrLen = 0 ∨ hdrLen > 256 ∨ hdrLen ≥ r.wgLen
    · rw [if_pos unmarked, rejectIf, if_pos unmarked]
      exact ⟨_, rfl, rfl, rfl⟩
    · have length : sub32 r.wgLen hdrLen = r.wgLen - hdrLen := by
        unfold sub32
        omega
      rw [if_neg unmarked, rejectIf_ok unmarked, bind_ok, length, Option.bind_some]
      exact replaceByDecoded_unwraps (x := { x with scan := sipWindow r x }) inside (by omega)
  · have probe : ctx.authToken = 0 ∨ sipHash32 (ctx.dateNumeric / 10000).toUInt32 cfg.tokenKey ≠ ctx.authToken := by
      by_contra both
      exact authentic (by simpa [sipAuthentic] using both)
    rw [if_pos (.inr authentic), rejectIf, if_pos probe]
    exact ⟨_, rfl, rfl, rfl⟩

theorem removeEnvelope_unwraps (mode : ObfsMode) (cfg : GutConfig) (inside : r.Inside x.frame) :
    Unwraps (removeEnvelope mode cfg r x) x (unwrap mode cfg r x) := by
  cases mode with
  | gut => exact ⟨x, rfl, rfl, rfl⟩
  | quic => exact ⟨x, rfl, rfl, rfl⟩
  | syslog => exact removeSyslog_unwraps inside
  | sip =>
      have minimum := inside.minimum
      unfold removeEnvelope removeSipOrRtp unwrap
      dsimp only
      rw [if_neg (by simp only [wgMinPacket] at minimum; omega)]
      split_ifs
      · exact removeRtp_unwraps inside
      · exact removeSip_unwraps inside
      · exact ⟨x, rfl, rfl, rfl⟩

theorem length_syslogText {text : Buf} (found : syslogText r x.frame = some text) : text.length ≤ r.wgLen := by
  unfold syslogText at found
  dsimp only at found
  split_ifs at found
  cases found
  simp
  omega

theorem length_sipText {text : Buf} (found : sipText cfg r x = some text) : text.length ≤ r.wgLen := by
  unfold sipText at found
  dsimp only at found
  split_ifs at found
  cases found
  simp
  omega

theorem length_inPlace_lt {text d : Buf} (inside : r.Inside x.frame) (short : text.length ≤ r.wgLen)
    (found : innerDatagram text = some d) : (inPlace r x.frame d).length < x.frame.length := by
  have size := length_innerDatagram found
  have replaced := length_inPlace (d := d) inside (by omega)
  omega

theorem unwrap_shorter {r' : Received} {frame : Buf} (inside : r.Inside x.frame) (text : mode = .syslog ∨ mode = .sip)
    (found : unwrap mode cfg r x = some (r', frame)) : r'.pos = r.pos ∧ frame.length < x.frame.length := by
  rcases text with rfl | rfl
  · simp only [unwrap, Option.map_eq_some_iff, Option.bind_eq_some_iff] at found
    obtain ⟨d, ⟨text, header, decoded⟩, same⟩ := found
    cases same
    exact ⟨rfl, length_inPlace_lt inside (length_syslogText header) decoded⟩
  · unfold unwrap at found
    dsimp only at found
    split_ifs at found
    · have minimum := inside.minimum
      have whole := inside.whole
      simp only [Option.map_eq_some_iff] at found
      obtain ⟨d, -, same⟩ := found
      cases same
      refine ⟨rfl, ?_⟩
      simp only [wgMinPacket] at minimum
      simp
      omega
    · simp only [Option.map_eq_some_iff, Option.bind_eq_some_iff] at found
      obtain ⟨d, ⟨text, header, decoded⟩, same⟩ := found
      cases same
      exact ⟨rfl, length_inPlace_lt inside (length_sipText header) decoded⟩

theorem unwrap_pos {r' : Received} {frame : Buf} (inside : r.Inside x.frame)
    (found : unwrap mode cfg r x = some (r', frame)) : r'.pos = r.pos := by
  cases mode with
  | gut =>
      cases found
      rfl
  | quic =>
      cases found
      rfl
  | syslog => exact (unwrap_shorter inside (.inl rfl) found).1
  | sip => exact (unwrap_shorter inside (.inr rfl) found).1

end Gutd.Bpf
