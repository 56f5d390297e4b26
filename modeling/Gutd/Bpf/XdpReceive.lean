import Gutd.Bpf.XdpCore

set_option autoImplicit false

namespace Gutd.Bpf

open Bytes Checked Wire

section Headers

variable (cfg : GutConfig) (pos : UdpPos) (headers rest : Buf)

theorem writeLengths_append (n : Nat) (whole : pos.payloadOff ≤ headers.length) :
    writeLengths cfg pos n (headers ++ rest) = writeLengths cfg pos n headers ++ rest := by
  obtain ⟨ver, ipOff⟩ := pos
  unfold UdpPos.payloadOff UdpPos.udpOff at whole
  unfold writeLengths UdpPos.udpOff
  cases ver with
  | v4 =>
      simp only [IpVersion.headerLen] at whole ⊢
      split_ifs <;> simp (disch := (simp; omega)) only [overwrite_append_left]
  | v6 =>
      simp only [IpVersion.headerLen] at whole ⊢
      split_ifs <;> simp (disch := (simp; omega)) only [overwrite_append_left]

@[simp] theorem length_writeLengths (n : Nat) : (writeLengths cfg pos n headers).length = headers.length := by
  unfold writeLengths
  cases pos.ver <;> simp only [] <;> split_ifs <;> simp

theorem writeInnerHeaders_append (sport dport : UInt16) (ethernet : 14 ≤ pos.ipOff)
    (whole : pos.payloadOff ≤ headers.length) :
    writeInnerHeaders cfg pos sport dport (headers ++ rest) = writeInnerHeaders cfg pos sport dport headers ++ rest := by
  obtain ⟨ver, ipOff⟩ := pos
  unfold UdpPos.payloadOff UdpPos.udpOff at whole
  unfold writeInnerHeaders writeEth UdpPos.udpOff
  cases ver with
  | v4 =>
      simp only [IpVersion.headerLen] at whole ethernet ⊢
      rw [writeIpChecksum_append _ _ _ (by omega)]
      simp (disch := (simp; omega)) only [overwrite_append_left]
  | v6 =>
      simp only [IpVersion.headerLen] at whole ethernet ⊢
      simp (disch := (simp; omega)) only [overwrite_append_left]

@[simp] theorem length_writeInnerHeaders (sport dport : UInt16) :
    (writeInnerHeaders cfg pos sport dport headers).length = headers.length := by
  unfold writeInnerHeaders writeEth
  cases pos.ver <;> simp

end Headers

theorem writeInnerHeaders_fields (cfg : GutConfig) {ver : IpVersion} {sport dport : UInt16} {udpLen n : Nat}
    {headers : Buf} (sport' dport' : UInt16) (length : headers.length = payloadOff ver) (small : n < 2 ^ 16)
    (fields : UdpHeaders ver sport dport udpLen headers) :
    UdpHeaders ver sport' dport' n
      (writeInnerHeaders cfg { ver, ipOff := 14 } sport' dport' (writeLengths cfg { ver, ipOff := 14 } n headers)) := by
  have word : (UInt16.ofNat n).toNat = n := by simp; omega
  obtain ⟨link, protocol, options, -, -, -⟩ := fields
  unfold writeInnerHeaders writeEth writeIpChecksum writeLengths
  cases ver with
  | v4 =>
      simp only [payloadOff, UdpPos.udpOff, IpVersion.headerLen, IpVersion.protocolOff] at *
      refine ⟨?_, ?_, ?_, ?_, ?_, ?_⟩ <;> split_ifs <;>
        simp (disch := (simp; try omega)) only [be16At_overwrite_same, be16At_overwrite_other, byteAt_overwrite_other,
          protocol, options, word, IpVersion.headerLen, IpVersion.protocolOff, Nat.reduceAdd, implies_true]
  | v6 =>
      simp only [payloadOff, UdpPos.udpOff, IpVersion.headerLen, IpVersion.protocolOff] at *
      refine ⟨?_, ?_, by simp, ?_, ?_, ?_⟩ <;> split_ifs <;>
        simp (disch := (simp; try omega)) only [be16At_overwrite_same, be16At_overwrite_other, byteAt_overwrite_other,
          protocol, word, IpVersion.headerLen, IpVersion.protocolOff, Nat.reduceAdd]

theorem overwrite_drop_front (headers outer body : Buf) :
    overwrite ((headers ++ (outer ++ body)).drop outer.length) 0 headers = headers ++ body := by
  have inside : headers.length ≤ ((headers ++ (outer ++ body)).drop outer.length).length := by simp; omega
  have both : (headers ++ (outer ++ body)).drop (outer.length + headers.length) = body := by
    rw [← List.append_assoc, Nat.add_comm, ← List.length_append, List.drop_left]
  rw [overwrite_zero _ _ inside, List.drop_drop, both]

variable {cfg : GutConfig} {pos : UdpPos} {x : Xdp} {headers outer body w pad trail : Buf}

theorem cutOuterHeader_ok (frame : x.frame = headers ++ (outer ++ body)) (length : headers.length = pos.payloadOff)
    (ethernet : 14 ≤ pos.ipOff) (small : pos.payloadOff ≤ 62) :
    cutOuterHeader pos outer.length x = .ok { x with frame := headers ++ body } := by
  have size : x.frame.length = headers.length + outer.length + body.length := by simp [frame]; omega
  have wide : 14 ≤ pos.payloadOff := by
    unfold UdpPos.payloadOff UdpPos.udpOff
    omega
  have loaded : slice x.frame 0 (0 + pos.payloadOff) = headers := by
    rw [frame, Nat.zero_add, ← length, slice_append_left _ _ _ _ (by omega), slice_zero_length]
  have cut : x.adjustHead outer.length = some { x with frame := x.frame.drop outer.length } :=
    adjustHead_ok (by omega)
  unfold cutOuterHeader
  rw [rejectIf_ok (by omega), bind_ok, loadBytes_ok (by omega), orReject_some, bind_ok, loaded, cut, orReject_some,
    bind_ok, storeBytes_ok (by simp; omega), orReject_some, bind_ok, frame, overwrite_drop_front]
  rfl

theorem trimBallast_ok (frame : x.frame = headers ++ (w ++ (pad ++ trail))) (ethernet : 14 ≤ headers.length) :
    ∃ x' rest, trimBallast x pad.length = .ok x' ∧ x'.frame = headers ++ (w ++ rest) ∧ x'.clientMap = x.clientMap := by
  have size : x.frame.length = headers.length + w.length + pad.length + trail.length := by simp [frame]; omega
  unfold trimBallast
  split_ifs with some
  · have kept : x.frame.length - pad.length = headers.length + (w.length + trail.length) := by omega
    rw [adjustTail_trim (by omega), orReject_some]
    refine ⟨_, (pad ++ trail).take trail.length, rfl, ?_, rfl⟩
    simp only [kept]
    rw [frame, List.take_length_add_append, List.take_length_add_append]
  · exact ⟨x, pad ++ trail, rfl, frame, rfl⟩

theorem deliver_ok (cfg : GutConfig) (pos : UdpPos) (udpLen : Nat) (ports : UInt32) (frame : x.frame = headers ++ (outer ++ (w ++ (pad ++ trail))))
    (length : headers.length = pos.payloadOff) (ethernet : 14 ≤ pos.ipOff) (small : pos.payloadOff ≤ 62)
    (total : udpLen = outer.length + w.length + pad.length + 8) (bounded : udpLen < 2 ^ 16) :
    ∃ x' rest, deliver cfg pos outer.length pad.length udpLen ports x = .ok x' ∧
      x'.frame = writeInnerHeaders cfg pos (ports >>> 16).toUInt16 (ports &&& 0xFFFF).toUInt16
        (writeLengths cfg pos (w.length + 8) headers) ++ (w ++ rest) ∧
      x'.clientMap = x.clientMap := by
  have newLen : sub32 (sub32 udpLen pad.length) outer.length % 2 ^ 16 = w.length + 8 := by
    unfold sub32
    omega
  have offsets : pos.payloadOff = pos.ipOff + pos.ver.headerLen + 8 := rfl
  have lengths := writeLengths_append cfg pos headers (outer ++ (w ++ (pad ++ trail))) (w.length + 8) (by omega)
  rw [← frame] at lengths
  have cut := cutOuterHeader_ok (x := { x with frame := writeLengths cfg pos (w.length + 8) x.frame }) lengths
    (by simpa using length) ethernet small
  obtain ⟨x', rest, trimmed, frame', map⟩ := trimBallast_ok
    (x := { x with frame := writeLengths cfg pos (w.length + 8) headers ++ (w ++ (pad ++ trail)) }) rfl (by simp; omega)
  have size : x'.frame.length = headers.length + w.length + rest.length := by simp [frame']; omega
  have delivered : ∃ x'', deliver cfg pos outer.length pad.length udpLen ports x = .ok x'' ∧
      x''.frame = writeInnerHeaders cfg pos (ports >>> 16).toUInt16 (ports &&& 0xFFFF).toUInt16 x'.frame ∧
      x''.clientMap = x'.clientMap := by
    unfold deliver
    simp only [newLen]
    rw [cut, bind_ok, trimmed, bind_ok, rejectIf_ok (by omega), bind_ok, rejectIf_ok (by omega), bind_ok]
    exact ⟨_, rfl, rfl, rfl⟩
  obtain ⟨x'', done, written, kept⟩ := delivered
  refine ⟨x'', rest, done, ?_, kept.trans map⟩
  rw [written, frame', writeInnerHeaders_append _ _ _ _ _ _ ethernet (by simp; omega)]

def Built (mode : ObfsMode) (form : Form) : Prop := mode = .gut ∧ form = .gut ∨ mode = .quic ∧ form ≠ .gut

def Framed (mode : ObfsMode) (form : Form) : Prop := mode = .quic ∧ form ≠ .gut ∨ mode ≠ .quic ∧ form = .gut

theorem Built.framed {mode : ObfsMode} {form : Form} (built : Built mode form) : Framed mode form := by
  rcases built with ⟨rfl, rfl⟩ | quic
  · exact .inr ⟨nofun, rfl⟩
  · exact .inl quic

section Header

variable {key : Vector UInt8 32} {mode : ObfsMode} {form : Form} {frame : Buf} {wgOff padLen : Nat}
  {sport dport : UInt16}

theorem outerHdrLen_of_header (framed : Framed mode form)
    (header : HeaderFor (channel key) form w sport dport padLen (frame.drop wgOff)) :
    outerHdrLen mode (byteAt frame wgOff) = some form.headerLen := by
  have fields := header.fields
  rcases framed with ⟨rfl, quic⟩ | ⟨other, rfl⟩
  · cases form with
    | gut => exact absurd rfl quic
    | quicShort =>
        simp only [FormFields, byteAt_drop, Nat.add_zero] at fields
        simp [outerHdrLen, fields.1, Form.headerLen]
    | quicLong =>
        have first : ∀ b : UInt8, b &&& 0xC0 = 0xC0 → b ≠ 0x40 ∧ b &&& 0x80 = 0x80 := forall_byte (by decide)
        simp only [FormFields, byteAt_drop, Nat.add_zero] at fields
        obtain ⟨long, top⟩ := first _ fields.1
        simp [outerHdrLen, long, top, Form.headerLen]
  · cases mode with
    | quic => exact absurd rfl other
    | gut => rfl
    | syslog => rfl
    | sip => rfl

theorem headerMatches_of_header (keyed : cfg.Keyed key) (framed : Framed mode form)
    (header : HeaderFor (channel key) form w sport dport padLen (frame.drop wgOff)) :
    headerMatches mode cfg frame wgOff form.headerLen ((channel key).ks47 w) = true := by
  have ppn := header.ppn
  have fields := header.fields
  rw [le32At_drop] at ppn
  rcases framed with ⟨rfl, quic⟩ | ⟨other, rfl⟩
  · cases form with
    | gut => exact absurd rfl quic
    | quicShort =>
        simp only [FormFields, byteAt_drop, le32At_drop] at fields
        simp only [Form.ppnOff] at ppn
        simp [headerMatches, Form.headerLen, fields.2.1, fields.2.2, ppn]
    | quicLong =>
        have dcid : le32At cfg.quicDcid.toList 0 = (channel key).ks99.get 0 := by
          rw [keyed.dcid, le32At_append_left _ _ _ (by simp)]
          exact le32_toLeBytes _
        simp only [FormFields, byteAt_drop, le32At_drop] at fields
        simp only [Form.ppnOff] at ppn
        simp [headerMatches, Form.headerLen, fields.2.1, fields.2.2.1, ppn, dcid]
  · cases mode with
    | quic => exact absurd rfl other
    | gut => simpa [headerMatches, Form.ppnOff] using ppn
    | syslog => simpa [headerMatches, Form.ppnOff] using ppn
    | sip => simpa [headerMatches, Form.ppnOff] using ppn

theorem ports_of_header (framed : Framed mode form)
    (header : HeaderFor (channel key) form w sport dport padLen (frame.drop wgOff)) :
    le32At frame (wgOff + encPortsOff mode form.headerLen) ^^^ ((channel key).ks47 w).get 11 = packPorts sport dport := by
  have ports := header.ports
  have off : encPortsOff mode form.headerLen = form.portsOff := by
    rcases framed with ⟨rfl, quic⟩ | ⟨other, rfl⟩
    · cases form with
      | gut => exact absurd rfl quic
      | quicShort => rfl
      | quicLong => rfl
    · cases mode with
      | quic => exact absurd rfl other
      | gut => rfl
      | syslog => rfl
      | sip => rfl
  rw [le32At_drop] at ports
  rw [off, ports, UInt32.xor_assoc, UInt32.xor_self, UInt32.xor_zero]

end Header

theorem parseWg_ok {ver : IpVersion} {sport dport : UInt16} {p frame : Buf} (isUdp : UdpFrame ver sport dport p frame)
    (port : isGutPort dport cfg = true) (enough : 32 ≤ p.length) :
    parseWg cfg frame = some { pos := { ver, ipOff := 14 }, udpLen := p.length + 8, wgLen := p.length } := by
  have whole := isUdp.whole
  have udpLen := isUdp.headers.udpLen
  have dest := isUdp.headers.dport
  unfold payloadOff at whole
  simp only [parseWg, isUdp.parseUdp, UdpPos.udpOff, UdpPos.payloadOff, udpLen, dest, port, wgMinPacket]
  rw [if_neg (by simp), if_neg (by omega), if_neg (by omega), Nat.add_sub_cancel]

theorem unmaskMac2_ok (front m rest ks : Buf) (n : Nat) (some : 0 < m.length) (block : ks.length = 64)
    (window : mac2Off (typeOf m) n = mac2Off (typeOf m) m.length) :
    unmaskMac2 (front ++ (m ++ rest)) front.length n ks = front ++ (maskMac2 ks (typeOf m) m ++ rest) := by
  have type : byteAt (front ++ (m ++ rest)) front.length &&& 0x1F = typeOf m := by
    rw [byteAt_append, if_neg (by omega), Nat.sub_self, byteAt_append_left _ _ _ some, typeOf]
  unfold unmaskMac2 maskMac2
  rw [type, window]
  cases found : mac2Off (typeOf m) m.length with
  | none => rfl
  | some off =>
      have bounds := mac2Off_bounds found
      have inside : ¬front.length + off + 16 > (front ++ (m ++ rest)).length := by simp; omega
      simp only [if_neg inside]
      exact xorAt_middle _ _ _ _ _ (by simp [block]; omega)

@[simp] theorem frame_learn (mode : ObfsMode) (cfg : GutConfig) (pos : UdpPos) (wg : Nat) (x : Xdp) :
    (learn mode cfg pos wg x).frame = x.frame := by
  unfold learn
  split_ifs
  · rfl
  · dsimp only
    split_ifs <;> rfl

section Carried

variable {key : Vector UInt8 32} {mode : ObfsMode} {form : Form} {ver : IpVersion} {p : Buf}
  {sport dport sport' dport' : UInt16}

theorem carried_split {frame : Buf} (carries : Carries (channel key) form w pad sport dport p)
    (split : frame = headers ++ (p ++ trail)) :
    ∃ outer, frame = headers ++ outer ++ (mask ((channel key).keystream w) w ++ (pad ++ trail)) ∧
      outer.length = form.headerLen ∧
      ∀ rest, HeaderFor (channel key) form w sport dport pad.length ((headers ++ outer ++ rest).drop headers.length) := by
  have whole := carries.header.whole
  have outerLength : (p.take form.headerLen).length = form.headerLen := by simp; omega
  have parts : p = p.take form.headerLen ++ (mask ((channel key).keystream w) w ++ pad) := by
    rw [← carries.body, List.take_append_drop]
  refine ⟨p.take form.headerLen, ?_, outerLength, ?_⟩
  · rw [split]
    nth_rewrite 1 [parts]
    simp only [List.append_assoc]
  · intro rest
    apply carries.header.congr (by simp; omega)
    intro i inside
    rw [List.append_assoc, List.drop_left, byteAt_append_left _ _ _ (by omega), byteAt_take, if_pos inside]

theorem unmaskAndVerify_ok {front rest : Buf} {r : Received} (keyed : cfg.Keyed key) (framed : Framed mode form)
    (frame : x.frame = front ++ (mask ((channel key).keystream w) w ++ rest)) (message : 32 ≤ w.length)
    (length : front.length = r.wgOff + form.headerLen) (total : r.wgLen = form.headerLen + (w.length + pad.length))
    (bounded : r.wgLen < 2 ^ 16)
    (header : ∀ rest, HeaderFor (channel key) form w sport dport pad.length ((front ++ rest).drop r.wgOff)) :
    unmaskAndVerify mode cfg r x =
      .ok ({ outer := form.headerLen, ballast := pad.length, wgLen := w.length + pad.length, ks47 := (channel key).ks47 w },
        { x with frame := front ++ (maskMac2 ((channel key).keystream w) (typeOf w) w ++ rest) }) := by
  have positive : 0 < form.headerLen := by cases form <;> decide
  have outer := outerHdrLen_of_header framed (header (mask ((channel key).keystream w) w ++ rest))
  have inside : ¬r.wgOff + form.headerLen + wgMinPacket > x.frame.length := by
    simp [frame, wgMinPacket]
    omega
  have ballast : ballastLen (byteAt x.frame (r.wgOff + form.headerLen - 1)) = pad.length := by
    have padByte := (header (mask ((channel key).keystream w) w ++ rest)).pad
    rw [← frame, byteAt_drop, ← Nat.add_sub_assoc (by omega)] at padByte
    exact padByte
  have nonce : wgNonce32 (x.frame.drop (r.wgOff + form.headerLen)) = nonceOf w := by
    rw [frame, ← length, List.drop_left, wgNonce32_eq _ _ (by simpa using message), nonceOf_mask]
  have ks47 := keyed.ks47 w
  have bytes : blockBytes .little ((channel key).ks47 w) = (channel key).keystream w := rfl
  have plain : xor16 x.frame (r.wgOff + form.headerLen) ((channel key).keystream w) =
      front ++ (maskMac2 ((channel key).keystream w) (typeOf w) w ++ rest) := by
    have middle := xorAt_middle front (mask ((channel key).keystream w) w) rest (slice ((channel key).keystream w) 0 16) 0 (by simp; omega)
    rw [Nat.add_zero, mask, xorAt_maskMac2, xorAt_xorAt] at middle
    rw [frame, ← length]
    exact middle
  have wgLen : sub32 r.wgLen form.headerLen = w.length + pad.length := by
    unfold sub32
    omega
  have verified := headerMatches_of_header keyed framed (header (maskMac2 ((channel key).keystream w) (typeOf w) w ++ rest))
  rw [← frame] at outer
  unfold unmaskAndVerify
  rw [outer, orReject_some, bind_ok]
  dsimp only
  rw [rejectIf_ok inside, bind_ok]
  simp only [nonce, ks47, ballast, wgLen, bytes, plain]
  rw [rejectIf_ok (by simp [verified]), bind_ok]
  rfl

theorem unmaskMac2_carried (key : Vector UInt8 32) (front rest : Buf) (message : 32 ≤ w.length)
    (window : mac2Off (typeOf w) (w.length + pad.length) = mac2Off (typeOf w) w.length) :
    unmaskMac2 (front ++ (maskMac2 ((channel key).keystream w) (typeOf w) w ++ rest)) front.length
        (w.length + pad.length) ((channel key).keystream w) = front ++ (w ++ rest) := by
  have type : typeOf (maskMac2 ((channel key).keystream w) (typeOf w) w) = typeOf w := by
    rw [typeOf, byteAt_maskMac2_front _ _ _ _ (by omega), typeOf]
  rw [unmaskMac2_ok _ _ _ _ _ (by simp; omega) (by simp [Channel.keystream]) (by simpa [type] using window), type,
    maskMac2_maskMac2]

theorem openDatagram_carried {r : Received} {n : Nat} (keyed : cfg.Keyed key) (framed : Framed mode form)
    (carries : Carries (channel key) form w pad sport dport p) (frame : x.frame = headers ++ (p ++ trail))
    (length : headers.length = payloadOff ver) (fields : UdpHeaders ver sport' dport' n headers)
    (pos : r.pos = { ver, ipOff := 14 }) (udpLen : r.udpLen = p.length + 8) (wgLen : r.wgLen = p.length)
    (bound : p.length + 8 < 2 ^ 16)
    (window : mac2Off (typeOf w) (w.length + pad.length) = mac2Off (typeOf w) w.length) :
    (pad.length ≤ 63 → ∃ x', openDatagram mode cfg r x = .ok x' ∧ UdpFrame ver sport dport w x'.frame) ∧
      (63 < pad.length → ∃ x', openDatagram mode cfg r x = .error x') := by
  have message := carries.message
  have size := carries.length
  obtain ⟨outer, frame, outerLength, header⟩ := carried_split carries frame
  have wgOff : headers.length = r.wgOff := by
    rw [Received.wgOff, pos, length]
    rfl
  have frontLength : (headers ++ outer).length = r.wgOff + form.headerLen := by simp [outerLength, wgOff]
  rw [wgOff] at header
  have opened := unmaskAndVerify_ok keyed framed frame message frontLength (by omega) (by omega) header
  have bytes : blockBytes .little ((channel key).ks47 w) = (channel key).keystream w := rfl
  have ports := ports_of_header framed (header (maskMac2 ((channel key).keystream w) (typeOf w) w ++ (pad ++ trail)))
  have plain := unmaskMac2_carried key (headers ++ outer) (pad ++ trail) message window
  rw [frontLength] at plain
  have start : ∃ x', x'.frame = headers ++ (outer ++ (w ++ (pad ++ trail))) ∧
      openDatagram mode cfg r x = (do
        rejectIf x' (pad.length > 63 ∨ pad.length > w.length + pad.length)
        rejectIf x' (w.length + pad.length < pad.length ∨ w.length + pad.length - pad.length < wgMinPacket)
        deliver cfg { ver, ipOff := 14 } outer.length pad.length (p.length + 8) (packPorts sport dport) x') := by
    unfold openDatagram
    rw [opened, bind_ok]
    simp only [frame_learn, bytes, outerLength, plain, pos, udpLen]
    refine ⟨{ learn mode cfg { ver, ipOff := 14 } (r.wgOff + form.headerLen)
      { x with frame := headers ++ outer ++ (maskMac2 ((channel key).keystream w) (typeOf w) w ++ (pad ++ trail)) } with
      frame := headers ++ outer ++ (w ++ (pad ++ trail)) }, by simp, ?_⟩
    rw [ports]
  obtain ⟨x', frame', run⟩ := start
  constructor
  · intro short
    obtain ⟨x'', rest, delivered, frame'', -⟩ := deliver_ok cfg { ver, ipOff := 14 } (p.length + 8)
      (packPorts sport dport) frame' length (by simp) (by cases ver <;> decide) (by omega) (by omega)
    rw [run, rejectIf_ok (by omega), bind_ok, rejectIf_ok (by simp [wgMinPacket]; omega), bind_ok]
    refine ⟨x'', delivered, ?_⟩
    rw [frame'', sport_packPorts, dport_packPorts]
    exact UdpFrame.of_headers rest (by simpa using length) (writeInnerHeaders_fields cfg sport dport length (by omega) fields)
  · intro long
    exact ⟨x', by rw [run, rejectIf, if_pos (.inl (by omega))]; rfl⟩

theorem gutXdpCore_carried (keyed : cfg.Keyed key) (built : Built mode form) (port : isGutPort dport' cfg = true)
    (isUdp : UdpFrame ver sport' dport' p x.frame) (carries : Carries (channel key) form w pad sport dport p)
    (window : mac2Off (typeOf w) (w.length + pad.length) = mac2Off (typeOf w) w.length) :
    (pad.length ≤ 63 → ∃ x', gutXdpCore mode cfg x = .ok x' ∧ UdpFrame ver sport dport w x'.frame) ∧
      (63 < pad.length → ∃ x', gutXdpCore mode cfg x = .error x') := by
  have message := carries.message
  have size := carries.length
  have bound := isUdp.headers.udpLen ▸ (be16At x.frame (14 + ver.headerLen + 4)).toNat_lt
  obtain ⟨headers, trail, frame, length, fields⟩ := isUdp.split
  have opened := openDatagram_carried (r := { pos := { ver, ipOff := 14 }, udpLen := p.length + 8, wgLen := p.length })
    keyed built.framed carries frame length fields rfl rfl rfl bound window
  have core : gutXdpCore mode cfg x =
      openDatagram mode cfg { pos := { ver, ipOff := 14 }, udpLen := p.length + 8, wgLen := p.length } x := by
    rw [gutXdpCore, parseWg_ok isUdp port (by omega), orReject_some, bind_ok]
    rcases built with ⟨rfl, -⟩ | ⟨rfl, -⟩ <;> rfl
  rwa [core]

end Carried

end Gutd.Bpf
