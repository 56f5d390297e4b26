import Gutd.Bpf.WellFormed
import Gutd.SipInterop

set_option autoImplicit false

namespace Gutd

open Bytes Checked Wire Bpf

variable {key : Vector UInt8 32} {w p : Buf} {sport dport : UInt16}

section Userspace

open Userspace

theorem byteAt_headerText (kind : Sip.SipKind) (a : Sip.HeaderArgs) : byteAt (Sip.headerText kind a) 0 < 0x80 := by
  have letter (head : String) (rest : Buf) (low : byteAt (ascii head) 0 < 0x80) (nonempty : 0 < (ascii head).length) :
      byteAt (ascii head ++ rest) 0 < 0x80 := by
    rwa [byteAt_append_left _ _ _ nonempty]
  unfold Sip.headerText
  split_ifs
  · unfold Sip.optionsKeepalive
    simp only [List.append_assoc]
    exact letter _ _ (by decide) (by decide)
  · unfold Sip.startLine
    cases kind <;> simp only [List.append_assoc] <;> exact letter _ _ (by decide) (by decide)

theorem sipFrame_long {rt : Runtime} {q : Buf} {origType : UInt8} {origSize : Nat} {src dest : Net.SocketAddr} {clock : Clock}
    {out : Outgoing} (written : sipFrame rt q origType origSize src dest clock = .ok out)
    (message : sipKind origType origSize ≠ .options) (nonempty : 0 < q.length) :
    ∃ header, out.bytes = header ++ Base64.encode q ∧ 360 ≤ header.length ∧ header.length ≤ 1024 ∧ byteAt header 0 < 0x80 := by
  have size := Base64.length_encode q
  unfold sipFrame at written
  obtain ⟨text, prepared, written⟩ := bind_eq_ok.mp written
  obtain ⟨date, -, written⟩ := bind_eq_ok.mp written
  obtain ⟨header, filled, written⟩ := bind_eq_ok.mp written
  obtain ⟨port, -, written⟩ := bind_eq_ok.mp written
  cases written
  rw [sipPayload, if_neg message, Base64.encodeInto] at prepared
  split_ifs at prepared
  cases prepared
  unfold Sip.writeHeader at filled
  split_ifs at filled with room
  cases filled
  refine ⟨_, rfl, Sip.length_headerText_ge (by simp only; omega), room, byteAt_headerText _ _⟩

end Userspace

section Xdp

variable {cfg : GutConfig} {x x' : Xdp} {r : Received} {ver : IpVersion} {sport' dport' : UInt16}

theorem sipText_long {text : Buf} (inside : r.Inside x.frame) (small : r.wgLen < 2 ^ 11) (found : sipText cfg r x = some text) :
    r.wgLen ≤ text.length + 256 := by
  have whole := inside.whole
  unfold sipText at found
  dsimp only at found
  split_ifs at found with authentic limit
  cases found
  simp only [length_slice]
  omega

theorem innerDatagram_long {text d : Buf} (found : innerDatagram text = some d) :
    3 * text.length ≤ 4 * (d.length + 66) ∧ byteAt d 9 = 0 := by
  have size := (length_b64Decode text).1
  have constants : gutHeaderSize = 10 ∧ wgMinPacket = 32 := ⟨rfl, rfl⟩
  have decodedLen : text.length / 4 * 3 ≤ (b64Decode text).2 + 2 := by
    simp only [b64Decode]
    split_ifs <;> omega
  have bound := (b64Decode text).2
  have ballast (b : UInt8) : ballastLen b ≤ 64 := forall_byte (P := fun b => ballastLen b ≤ 64) (by decide) b
  have cut := ballast (byteAt (b64Decode text).1 9)
  have decodedBound := (length_b64Decode text).2
  unfold innerDatagram at found
  dsimp only at found
  split_ifs at found with lengths decoded net
  cases found
  simp only [List.length_take, length_overwrite, size]
  refine ⟨by omega, ?_⟩
  rw [byteAt_take, if_pos (by omega)]
  rw [byteAt_overwrite, if_pos ⟨by omega, by simp, by omega⟩]
  rfl

theorem handedOn_udpLen {mode : ObfsMode} (isUdp : UdpFrame ver sport' dport' p x.frame) (done : gutXdpCore mode cfg x = .ok x')
    (handed : UdpFrame ver sport dport w x'.frame) :
    ∃ r r' frame outer, parseWg cfg x.frame = some r ∧ unwrap mode cfg r x = some (r', frame) ∧
      Opens mode cfg r' frame outer ∧ innerUdpLen r' frame outer = w.length + 8 := by
  obtain ⟨r, r', frame, outer, received, opened, opens, rewritten⟩ := gutXdpCore_inv done
  refine ⟨r, r', frame, outer, received, opened, opens, ?_⟩
  have inside := parseWg_inside received
  have pos : r.pos = { ver, ipOff := 14 } := Option.some.inj ((parseWg_pos received).symm.trans isUdp.parseUdp)
  have samePos := unwrap_pos inside opened
  have sameOff : r'.wgOff = r.wgOff := by rw [Received.wgOff, samePos, Received.wgOff]
  have fields := delivered_headers (innerPorts mode cfg r' frame outer >>> 16).toUInt16
    (innerPorts mode cfg r' frame outer &&& 0xFFFF).toUInt16 (samePos.trans pos) (unwrap_inside inside opened).1 opens
    isUdp.parseUdp (sameOff ▸ unwrap_headers inside opened)
  rw [← rewritten] at fields
  exact fields.udpLen.symm.trans handed.headers.udpLen

theorem signal_refused {header q : Buf} (long : 360 ≤ header.length) (short : header.length ≤ 1024) (text : byteAt header 0 < 0x80)
    (message : w.length + 10 ≤ q.length) (small : q.length ≤ 255) (isUdp : UdpFrame ver sport' dport' (header ++ Base64.encode q) x.frame) :
    ¬∃ x', gutXdpCore .sip cfg x = .ok x' ∧ UdpFrame ver sport dport w x'.frame := by
  rintro ⟨x', done, handed⟩
  obtain ⟨r, r', frame, outer, received, opened, opens, udpLen⟩ := handedOn_udpLen isUdp done handed
  have inside := parseWg_inside received
  have size := Base64.length_encode q
  have pos : r.pos = { ver, ipOff := 14 } := Option.some.inj ((parseWg_pos received).symm.trans isUdp.parseUdp)
  have wgLen : r.wgLen = header.length + (Base64.encode q).length := by
    have announced := parseWg_announced received
    have total := inside.udpLen
    have field := isUdp.headers.udpLen
    rw [pos] at announced
    rw [List.length_append] at field
    have same : r.udpLen = header.length + (Base64.encode q).length + 8 := announced.symm.trans field
    omega
  have first : byteAt x.frame r.wgOff < 0x80 := by
    obtain ⟨headers, trail, split, length, -⟩ := isUdp.split
    have offset : r.wgOff = headers.length := by
      rw [Received.wgOff, pos, length]
      rfl
    rw [split, offset, byteAt_append, if_neg (Nat.lt_irrefl _), Nat.sub_self, List.append_assoc,
      byteAt_append_left _ _ _ (by omega)]
    exact text
  have notRtp : looksRtp x.frame r.wgOff = false := by
    have low (b : UInt8) : b < 0x80 → b &&& 0xC0 ≠ 0x80 :=
      forall_byte (P := fun b => b < 0x80 → b &&& 0xC0 ≠ 0x80) (by decide) b
    simp [looksRtp, low _ first]
  simp only [unwrap, notRtp, Bool.false_eq_true, if_false] at opened
  split_ifs at opened
  simp only [Option.map_eq_some_iff, Option.bind_eq_some_iff] at opened
  obtain ⟨d, ⟨found, payload, decoded⟩, same⟩ := opened
  cases same
  have scanned := sipText_long inside (by omega) payload
  obtain ⟨decodedLen, flag⟩ := innerDatagram_long decoded
  have bounds := length_innerDatagram decoded
  have form : gutHeaderSize = outer := Option.some.inj opens.readable.form
  have constants : gutHeaderSize = 10 ∧ wgMinPacket = 32 ∧ gutB64MaxInner = 896 := ⟨rfl, rfl, rfl⟩
  have whole := inside.whole
  have ballast : ballastOf (r.resized d) (inPlace r x.frame d) outer = 0 := by
    have start : (x.frame.take r.wgOff).length = r.wgOff := by
      rw [List.length_take]
      omega
    have read : byteAt (inPlace r x.frame d) ((r.resized d).wgOff + outer - 1) = byteAt d 9 := by
      have offset : (r.resized d).wgOff = r.wgOff := rfl
      rw [inPlace, byteAt_append, if_neg (by omega), start, byteAt_append_left _ _ _ (by omega)]
      congr 1
      omega
    rw [ballastOf, read, flag]
    rfl
  have net : innerUdpLen (r.resized d) (inPlace r x.frame d) outer + 2 = d.length := by
    have length : (r.resized d).udpLen = 8 + d.length := rfl
    rw [innerUdpLen, ballast, length, ← form]
    simp only [sub32]
    omega
  omega

end Xdp

section Sent

variable {rt : Userspace.Runtime} {packet : Userspace.Packet} {dest : Net.SocketAddr} {out : Userspace.Outgoing}

theorem transmit_sip_long (sip : SipMessage w) (handshake : typeOf w ≠ 4) (input : UserspaceInput key w sport dport rt packet)
    (sent : Userspace.transmit rt packet dest .sip = .ok (some out)) :
    ∃ header q, out.bytes = header ++ Base64.encode q ∧ 360 ≤ header.length ∧ header.length ≤ 1024 ∧ byteAt header 0 < 0x80 ∧
      w.length + 10 ≤ q.length ∧ q.length ≤ 255 := by
  have type : byteAt w 0 ≠ 4 := sip.message.typeOf_eq ▸ handshake
  have ballast := Userspace.length_encapPad_text rt.channel (.inr rfl) .gut w
  have short : w.length ≤ 148 := by
    rcases sip.message.sized with ⟨-, length⟩ | ⟨-, length⟩ | ⟨-, length⟩ | ⟨data, -⟩
    · omega
    · omega
    · omega
    · exact absurd data type
  obtain ⟨q, carries, framed⟩ := Userspace.transmit_eq dest (input.payload sip.message)
    (Userspace.transmit_room (input.payload sip.message) sent)
  have length := carries.length
  rw [Form.headerLen] at length
  rw [framed] at sent
  obtain ⟨out', written, checked⟩ := bind_eq_ok.mp sent
  split_ifs at checked
  cases checked
  rw [Userspace.frame, input.first sip.message, if_neg (fun data => type data.1)] at written
  obtain ⟨header, bytes, long, bounded, text⟩ := sipFrame_long written
    (fun options => type ((Userspace.sipKind_options _ _).mp options).1) (by omega)
  exact ⟨header, q, bytes, long, bounded, text, by omega, by omega⟩

theorem sip_userspace_refused {cfg : GutConfig} {x : Xdp} {ver : IpVersion} {sport' dport' : UInt16} (sip : SipMessage w)
    (handshake : typeOf w ≠ 4) (input : UserspaceInput key w sport dport rt packet)
    (sent : Userspace.transmit rt packet dest .sip = .ok (some out)) (isUdp : UdpFrame ver sport' dport' out.bytes x.frame) :
    ¬∃ x', gutXdpCore .sip cfg x = .ok x' ∧ UdpFrame ver sport dport w x'.frame := by
  obtain ⟨header, q, bytes, long, short, text, message, small⟩ := transmit_sip_long sip handshake input sent
  exact signal_refused long short text message small (bytes ▸ isUdp)

def headersFor (n : Nat) : Buf := overwrite sampleHeaders 38 (toBeBytes16 (UInt16.ofNat (n + 8)))

theorem headersFor_frame {p : Buf} (small : p.length + 8 < 2 ^ 16) :
    UdpFrame .v4 51820 41000 p (headersFor p.length ++ p) := by
  obtain ⟨link, protocol, options, source, target, -⟩ := sampleHeaders_fields
  have word : (UInt16.ofNat (p.length + 8)).toNat = p.length + 8 := by simp; omega
  have length : sampleHeaders.length = 42 := rfl
  have fields : UdpHeaders .v4 51820 41000 (p.length + 8) (headersFor p.length) := by
    unfold headersFor
    simp only [IpVersion.headerLen, IpVersion.protocolOff, Nat.reduceAdd] at *
    refine ⟨?_, ?_, ?_, ?_, ?_, ?_⟩ <;>
      simp (disch := simp) only [be16At_overwrite_other, byteAt_overwrite_other, IpVersion.headerLen, IpVersion.protocolOff,
        Nat.reduceAdd]
    · exact link
    · exact protocol
    · exact options
    · exact source
    · exact target
    · rw [be16At_overwrite_same _ _ _ (by rw [length]; decide), word]
  have frame := UdpFrame.of_headers [] (by simp [headersFor, length, payloadOff, IpVersion.headerLen]) fields
  rwa [List.append_nil] at frame

theorem sipPacket_sent :
    ∃ out, Userspace.transmit (Userspace.sampleRuntime false .sip) sipPacket (Userspace.localhost 41000) .sip = .ok (some out) := by
  have domain : DomainName 60 (Userspace.sampleRuntime false .sip).sipDomain := ⟨by decide, by decide, by decide⟩
  have ballast := Userspace.length_encapPad_text (Userspace.sampleRuntime false .sip).channel (.inr rfl) .gut sipInitiation
  have size : sipPacket.buf.length = sipInitiation.length + 42 := by simp [sipPacket]
  obtain ⟨q, out, -, -, socket, result⟩ := transmit_sip (Userspace.localhost 41000) sipInitiation_message
    (sipPacket_input false .sip) domain sipPacket_clock (by omega) (fun _ => by decide)
  exact ⟨out, by rw [result, if_pos (Nat.lt_of_lt_of_le socket (by decide))]⟩

theorem sip_initiation_refused :
    ∃ out, Userspace.transmit (Userspace.sampleRuntime false .sip) sipPacket (Userspace.localhost 41000) .sip = .ok (some out) ∧
      ∀ frame, UdpFrame .v4 51820 41000 out.bytes frame →
        ¬∃ x', gutXdpCore .sip sampleConfig (delivered frame) = .ok x' ∧ UdpFrame .v4 41000 51820 sipInitiation x'.frame := by
  obtain ⟨out, sent⟩ := sipPacket_sent
  exact ⟨out, sent, fun frame isUdp =>
    sip_userspace_refused sipInitiation_message (by decide) (sipPacket_input false .sip) sent isUdp⟩

theorem sip_initiation_lost :
    ∃ out frame, Userspace.transmit (Userspace.sampleRuntime false .sip) sipPacket (Userspace.localhost 41000) .sip = .ok (some out) ∧
      UdpFrame .v4 51820 41000 out.bytes frame ∧ isGutPort 41000 sampleConfig = true ∧
      ¬∃ x', gutXdpCore .sip sampleConfig (delivered frame) = .ok x' ∧ UdpFrame .v4 41000 51820 sipInitiation x'.frame := by
  obtain ⟨out, sent⟩ := sipPacket_sent
  obtain ⟨header, q, bytes, long, short, text, message, small⟩ :=
    transmit_sip_long sipInitiation_message (by decide) (sipPacket_input false .sip) sent
  have length := Base64.length_encode q
  have frame := headersFor_frame (p := out.bytes) (by rw [bytes, List.length_append]; omega)
  refine ⟨out, _, sent, frame, by decide, ?_⟩
  rw [bytes] at frame ⊢
  exact signal_refused long short text message small frame

end Sent

end Gutd
