import Gutd.Bpf.SipScan
import Gutd.Bpf.TextSend
import Gutd.Proto.SipHeader

set_option autoImplicit false

namespace Gutd.Bpf

open Bytes Checked Wire Scan

variable {cfg : GutConfig} {key : Vector UInt8 32} {k : Kernel} {ver : IpVersion} {route : Route}
  {w headers body : Buf} {sport dport port : UInt16}

theorem sipStartLine_split (cfg : GutConfig) (wgType : UInt8) (wgLen : Nat) (domain : 0x0D ∉ cfg.sni) :
    ∃ tag ∈ Sip.methods, ∃ rest nul, sipStartLine cfg wgType wgLen = tag ++ rest ++ (Sip.crlf ++ nul) ∧
      0x0D ∉ tag ++ rest ∧ 0x0D ∉ nul := by
  have name : 0x0D ∈ cfg.sni ↔ False := iff_false_intro domain
  have version : ascii " SIP/2.0\r\n" = ascii " SIP/2.0" ++ Sip.crlf := by decide
  have register : ascii "REGISTER sip:" = ascii "REGISTER " ++ ascii "sip:" := by decide
  have ok : ascii "SIP/2.0 200 OK\r\n" = ascii "SIP/2.0 " ++ (ascii "200 OK" ++ Sip.crlf) := by decide
  have unauthorized : ascii "SIP/2.0 401 Unauthorized\r\n" = ascii "SIP/2.0 " ++ (ascii "401 Unauthorized" ++ Sip.crlf) := by
    decide
  have options : ascii "OPTIONS sip:5060@" = ascii "OPTIONS " ++ ascii "sip:5060@" := by decide
  have message : ascii "MESSAGE sip:5060@" = ascii "MESSAGE " ++ ascii "sip:5060@" := by decide
  unfold sipStartLine
  split_ifs
  · refine ⟨ascii "REGISTER ", by decide, ascii "sip:" ++ (cfg.sni ++ ascii " SIP/2.0"), [], ?_, ?_, by simp⟩
    · simp only [register, version, List.append_assoc, List.append_nil]
    · simp (disch := decide) only [List.mem_append, Sip.mem_ascii_false, name, or_self, not_false_eq_true]
  · refine ⟨ascii "SIP/2.0 ", by decide, ascii "200 OK", [0x00], ?_, by decide, by decide⟩
    simp only [ok, List.append_assoc]
  · refine ⟨ascii "SIP/2.0 ", by decide, ascii "401 Unauthorized", [], ?_, by decide, by simp⟩
    simp only [unauthorized, List.append_assoc, List.append_nil]
  · refine ⟨ascii "OPTIONS ", by decide, ascii "sip:5060@" ++ (cfg.sni ++ ascii " SIP/2.0"), [], ?_, ?_, by simp⟩
    · simp only [options, version, List.append_assoc, List.append_nil]
    · simp (disch := decide) only [List.mem_append, Sip.mem_ascii_false, name, or_self, not_false_eq_true]
  · refine ⟨ascii "MESSAGE ", by decide, ascii "sip:5060@" ++ (cfg.sni ++ ascii " SIP/2.0"), [], ?_, ?_, by simp⟩
    · simp only [message, version, List.append_assoc, List.append_nil]
    · simp (disch := decide) only [List.mem_append, Sip.mem_ascii_false, name, or_self, not_false_eq_true]

theorem cr_dateText {taiNs : Nat} (year : (civilTime taiNs).y < 10000) : 0x0D ∉ dateText (civilTime taiNs) := fun member => by
  have plain := List.all_eq_true.mp (plainByte_dateText (civilTime_fits year)) _ member
  simp [plainByte] at plain

theorem writeSipHeader_message (cfg : GutConfig) (wgType : UInt8) (wgLen : Nat) {taiNs : Nat} (domain : 0x0D ∉ cfg.sni)
    (year : (civilTime taiNs).y < 10000) (text : Buf) : Sip.Message text (writeSipHeader cfg wgType wgLen taiNs ++ text) := by
  obtain ⟨tag, known, rest, nul, start, first, second⟩ := sipStartLine_split cfg wgType wgLen domain
  have name : 0x0D ∈ cfg.sni ↔ False := iff_false_intro domain
  have some : ∀ tag ∈ Sip.methods, tag ≠ [] := by decide
  have free : 0x0D ∈ nul ↔ False := iff_false_intro second
  have branch : ascii ";branch=z9hG4bK-" = ascii ";branch=" ++ ascii "z9hG4bK-" := by decide
  have ends : ascii "\r\n" = Sip.crlf := by decide
  have content : sdpStart = Sip.crlf ++ (ascii "Content-Type: application/sdp" ++ (Sip.crlf ++ (Sip.crlf ++
      ascii "v=0\r\nm=audio 0 RTP/AVP 0\r\n"))) := by
    decide
  have marker : sipMarker = Sip.fmtpMarker := rfl
  generalize via : nul ++ (ascii "Via: SIP/2.0/UDP " ++ (cfg.sni ++ (ascii ";branch=z9hG4bK-" ++
    hex8 (sipAuthToken cfg (civilTime taiNs))))) = viaLine
  have viaPlain : Sip.Plain viaLine := by
    rw [← via]
    constructor
    · simp (disch := decide) only [ne_eq, List.append_eq_nil_iff, Sip.ascii_nil_false, false_and, and_false, not_false_eq_true]
    · simp (disch := decide) only [List.mem_append, Sip.mem_ascii_false, name, free, Sip.cr_hex8, or_self, not_false_eq_true]
  have datePlain : Sip.Plain (ascii "Date: " ++ dateText (civilTime taiNs)) := by
    have date : 0x0D ∈ dateText (civilTime taiNs) ↔ False := iff_false_intro (cr_dateText year)
    constructor
    · simp (disch := decide) only [ne_eq, List.append_eq_nil_iff, Sip.ascii_nil_false, false_and, not_false_eq_true]
    · simp (disch := decide) only [List.mem_append, Sip.mem_ascii_false, date, or_self, not_false_eq_true]
  have message := @Sip.Message.mk text tag
    (rest ++ (Sip.crlf ++ (viaLine ++ (Sip.crlf ++ (ascii "Date: " ++ dateText (civilTime taiNs) ++ (Sip.crlf ++
      ascii "Content-Type: application/sdp"))))))
    [tag ++ rest, viaLine, ascii "Date: " ++ dateText (civilTime taiNs)] (ascii "Content-Type: application/sdp")
    (ascii "v=0\r\nm=audio 0 RTP/AVP 0\r\n") known
    (by simp only [Sip.lineText, List.flatMap_cons, List.flatMap_nil, List.append_assoc, List.append_nil])
    (by
      simp only [List.forall_mem_cons, List.not_mem_nil, IsEmpty.forall_iff, implies_true, and_true]
      exact ⟨⟨by simp [some tag known], first⟩, viaPlain, datePlain⟩)
    ⟨by decide, by decide⟩ (.of_differs (by decide))
  have split : writeSipHeader cfg wgType wgLen taiNs = Sip.lineText [tag ++ rest, viaLine,
      ascii "Date: " ++ dateText (civilTime taiNs)] ++ (ascii "Content-Type: application/sdp" ++ (Sip.crlf ++ (Sip.crlf ++
        (ascii "v=0\r\nm=audio 0 RTP/AVP 0\r\n" ++ Sip.fmtpMarker)))) := by
    rw [writeSipHeader_eq, viaStart, branchLine, start, ← via, branch, ends, content, marker]
    simp only [Sip.lineText, List.flatMap_cons, List.flatMap_nil, List.append_assoc, List.append_nil]
  rw [split]
  simpa only [List.append_assoc] using message

theorem emit_sip (cfg : GutConfig) (k : Kernel) (p : Prepared) (tc : Tc) :
    emit .sip cfg k p tc = if p.wgType = 4 ∧ p.wgLen > 32 then emitRtp cfg k p tc
      else rejectIf tc.pass (k.tailCall = false) >>= fun _ => gutEgressSipSignal cfg k p tc := rfl

theorem emitSignal_ok (tc : Tc) (seq : UInt32) (message : 32 ≤ w.length)
    (skb : tc.skb = headers ++ (mask ((channel key).keystream w) w ++ tcPad key .sip w))
    (length : headers.length = payloadOff ver) (untagged : tc.macLen = 14) (signal : ¬(typeOf w = 4 ∧ w.length > 32))
    (fits : w.length + (tcPad key .sip w).length ≤ 886) (called : k.tailCall = true)
    (room : k.adjustRoom = true ∧ k.pullData = true) (routed : routeOf cfg tc.clientMap (indexOf w) ver = some route) :
    ∃ tc', emit .sip cfg k (prepared key .sip ver w sport dport seq port) tc = .ok tc' ∧
      tc'.skb = writeOuterHeaders cfg ver route (writeOuterLengths ver port
        ((writeSipHeader cfg (typeOf w) w.length k.taiNs ++ Base64.encode (textDatagram key .sip w sport dport)).length + 8)
          headers) ++
        (writeSipHeader cfg (typeOf w) w.length k.taiNs ++ Base64.encode (textDatagram key .sip w sport dport)) := by
  have start := length_viaStart cfg (typeOf w) w.length
  have hdrLength := length_writeSipHeader cfg (typeOf w) w.length k.taiNs
  have size := Base64.length_encode (textDatagram key .sip w sport dport)
  have total := length_textDatagram key .sip w sport dport
  have bodyLength : (mask ((channel key).keystream w) w ++ tcPad key .sip w).length = w.length + (tcPad key .sip w).length := by
    simp
  have encoded := encodeInner_ok (prepared key .sip ver w sport dport seq port) tc skb length.symm bodyLength.symm rfl
    (by rw [wgMinPacket, bodyLength]; omega) (by omega)
  obtain ⟨tc', replaced, frame⟩ := replaceByText_ok (writeSipHeader cfg (typeOf w) w.length k.taiNs)
    (Base64.encode (textDatagram key .sip w sport dport)) 256 (prepared key .sip ver w sport dport seq port) tc skb length
    untagged bodyLength.symm (by omega) (by rw [gutB64MaxOut]; omega) (by decide) room routed
  refine ⟨tc', ?_, by rw [List.length_append]; exact frame⟩
  rw [emit_sip, if_neg (by exact signal), rejectIf_ok (by simp [called]), bind_ok]
  unfold gutEgressSipSignal
  rw [encoded, bind_ok]
  dsimp only
  change (rejectIf tc.pass ((writeSipHeader cfg (typeOf w) w.length k.taiNs).length % 2 ^ 9 < 40 ∨
    (writeSipHeader cfg (typeOf w) w.length k.taiNs).length % 2 ^ 9 > 256) >>= _) = _
  rw [rejectIf_ok (by omega), bind_ok]
  exact replaced

def rtpStart (key : Vector UInt8 32) (w : Buf) (seq : UInt32) : Buf :=
  ([0x80, 0x60] : Buf) ++ toBeBytes16 seq.toUInt16 ++ toBeBytes (seq * 160) ++ toLeBytes (((channel key).ks47 w).get 9)

theorem emitRtp_ok (tc : Tc) (seq : UInt32)
    (skb : tc.skb = headers ++ (mask ((channel key).keystream w) w ++ tcPad key .sip w))
    (length : headers.length = payloadOff ver) (untagged : tc.macLen = 14) (data : typeOf w = 4 ∧ w.length > 32)
    (ports : 2 ≤ cfg.numPorts) (room : k.adjustRoom = true ∧ k.pullData = true)
    (routed : routeOf cfg tc.clientMap (indexOf w) ver = some route) :
    ∃ tc', emit .sip cfg k (prepared key .sip ver w sport dport seq port) tc = .ok tc' ∧
      tc'.skb = writeOuterHeaders cfg ver route (writeOuterLengths ver (rtpPort cfg seq)
        ((rtpStart key w seq ++ textDatagram key .sip w sport dport).length + 8) headers) ++
        (rtpStart key w seq ++ textDatagram key .sip w sport dport) := by
  obtain ⟨junk, junkLength, made⟩ := makeRoom_eq_ok k 22 skb length untagged
  have roomed := (made _).mpr ⟨room.1, room.2, rfl⟩
  have start : (rtpStart key w seq).length = 12 := rfl
  have outer : (tcForm .sip (typeOf w)).headerLen = 10 := rfl
  have sum : 12 + (prepared key .sip ver w sport dport seq port).udpLen =
      (rtpStart key w seq ++ textDatagram key .sip w sport dport).length + 8 := by
    rw [List.length_append, length_textDatagram, start]
    simp only [Prepared.udpLen, prepared, outer]
    omega
  have header : rtpGut (prepared key .sip ver w sport dport seq (rtpPort cfg seq)) = rtpStart key w seq ++ gutHeader
      (((channel key).ks47 w).get 10) (packPorts sport dport ^^^ ((channel key).ks47 w).get 11) (tcPad key .sip w).length := rfl
  have headerLength : (rtpGut (prepared key .sip ver w sport dport seq (rtpPort cfg seq))).length = 22 := rfl
  have stored : overwrite (headers ++ (junk ++ (mask ((channel key).keystream w) w ++ tcPad key .sip w))) (payloadOff ver)
      (rtpGut (prepared key .sip ver w sport dport seq (rtpPort cfg seq))) =
      headers ++ (rtpStart key w seq ++ textDatagram key .sip w sport dport) := by
    have next := overwrite_append_next headers (junk ++ (mask ((channel key).keystream w) w ++ tcPad key .sip w))
      (rtpGut (prepared key .sip ver w sport dport seq (rtpPort cfg seq))) (by simp [headerLength, junkLength])
    rw [headerLength, ← junkLength, List.drop_left, header] at next
    rw [← length, header, next, textDatagram]
    simp only [List.append_assoc]
  obtain ⟨tc', done, frame⟩ := finish_ok (prepared key .sip ver w sport dport seq (rtpPort cfg seq))
    { tc with skb := headers ++ (rtpStart key w seq ++ textDatagram key .sip w sport dport) }
    (12 + (prepared key .sip ver w sport dport seq port).udpLen) rfl length routed
  refine ⟨tc', ?_, by rw [← sum]; exact frame⟩
  rw [emit_sip, if_pos (by exact data)]
  unfold emitRtp
  rw [rejectIf_ok (by omega), bind_ok]
  change (makeRoom k ver 22 tc >>= _) = _
  rw [roomed, bind_ok]
  change (orReject _ (storeBytes (headers ++ (junk ++ (mask ((channel key).keystream w) w ++ tcPad key .sip w))) (payloadOff ver)
    (rtpGut (prepared key .sip ver w sport dport seq (rtpPort cfg seq)))) >>= _) = _
  rw [storeBytes_ok (by simp only [headerLength, List.length_append]; omega), orReject_some, bind_ok, stored]
  exact done

def SipNeeds (cfg : GutConfig) (k : Kernel) (w : Buf) : Prop :=
  if typeOf w = 4 ∧ w.length > 32 then 2 ≤ cfg.numPorts else k.tailCall = true

section Sent

variable {tc : Tc}

theorem emit_sip_guards (tc : Tc) {body : Buf} {seq : UInt32} {tc' : Tc} (skb : tc.skb = headers ++ body)
    (length : headers.length = payloadOff ver) (untagged : tc.macLen = 14)
    (done : emit .sip cfg k (prepared key .sip ver w sport dport seq port) tc = .ok tc') :
    SipNeeds cfg k w ∧ (k.adjustRoom = true ∧ k.pullData = true) ∧
      ∃ route, routeOf cfg tc.clientMap (indexOf w) ver = some route := by
  unfold SipNeeds
  by_cases data : typeOf w = 4 ∧ w.length > 32
  · rw [emit_sip, if_pos (by exact data)] at done
    obtain ⟨u, ports, done⟩ := bind_eq_ok.mp done
    obtain ⟨tc1, roomed, done⟩ := bind_eq_ok.mp done
    obtain ⟨junk, -, made⟩ := makeRoom_eq_ok k 22 skb length untagged
    obtain ⟨adjusted, pulled, rfl⟩ := (made tc1).mp roomed
    obtain ⟨stored, -, finished⟩ := bind_eq_ok.mp done
    obtain ⟨route, routed⟩ := finish_routes finished
    exact ⟨by rw [if_pos data]; exact Nat.not_lt.mp (rejectIf_eq_ok.mp ports), ⟨adjusted, pulled⟩, route, routed⟩
  · rw [emit_sip, if_neg (by exact data)] at done
    obtain ⟨u, called, done⟩ := bind_eq_ok.mp done
    obtain ⟨text, -, done⟩ := bind_eq_ok.mp done
    obtain ⟨u, -, replaced⟩ := bind_eq_ok.mp done
    obtain ⟨room, route, routed⟩ := replaceByText_guards skb length untagged replaced
    exact ⟨by rw [if_neg data]; simpa using rejectIf_eq_ok.mp called, room, route, routed⟩

theorem gutEgress_sip_admits {ifindex : UInt32} {tc' : Tc} (keyed : cfg.Keyed key)
    (isUdp : UdpFrame ver sport dport w tc.skb) (message : WgMessage w) (skb : tc.skb = headers ++ w)
    (length : headers.length = payloadOff ver) (untagged : tc.macLen = 14)
    (done : gutEgress .sip cfg k tc = (.redirect ifindex, tc')) :
    SipNeeds cfg k w ∧ ∃ port route, Admits key .sip ver w cfg k tc port route := by
  unfold gutEgress at done
  dsimp only at done
  split at done
  · rename_i sent run
    obtain ⟨r, prep, emitted⟩ := bind_eq_ok.mp run
    obtain ⟨kept, ⟨port, selected⟩, grown, fixed, fits⟩ := prepare_guards keyed isUdp message prep
    obtain ⟨seq, sessionMap, explicit⟩ := prepare_ok keyed fits isUdp message skb length kept selected grown fixed
    rw [prep] at explicit
    cases explicit
    obtain ⟨needs, room, route, routed⟩ := emit_sip_guards _ rfl length (by exact untagged) emitted
    exact ⟨needs, port, route, kept, selected, grown, fixed, room, nofun, routed⟩
  · cases done

theorem gutEgress_sip_sends (keyed : cfg.Keyed key) (isUdp : UdpFrame ver sport dport w tc.skb) (message : WgMessage w)
    (skb : tc.skb = headers ++ w) (length : headers.length = payloadOff ver) (untagged : tc.macLen = 14)
    (domain : 0x0D ∉ cfg.sni) (year : (civilTime k.taiNs).y < 10000) (needs : SipNeeds cfg k w)
    (admits : Admits key .sip ver w cfg k tc port route) :
    ∃ tc' p port', gutEgress .sip cfg k tc = (.redirect cfg.egressIfindex, tc') ∧ Sip.Enveloped (textDatagram key .sip w sport dport) p ∧
      UdpFrame ver (route.source.getD port') (route.dest.getD port') p tc'.skb := by
  have bounds := message.length
  have ballast := length_tcPad_text key w .sip (.inr rfl)
  have inner := length_textDatagram key .sip w sport dport
  have fits : ObfsMode.sip = .syslog → w.length ≤ gutB64WgMtuMax := nofun
  by_cases data : typeOf w = 4 ∧ w.length > 32
  · have start : (rtpStart key w (nextSeq tc)).length = 12 := rfl
    rw [SipNeeds, if_pos data] at needs
    obtain ⟨tc', redirected, frame⟩ := gutEgress_of_emitted (rtpStart key w (nextSeq tc) ++ textDatagram key .sip w sport dport)
      keyed fits isUdp message skb length admits (by rw [List.length_append]; omega) fun seq sessionMap =>
        emitRtp_ok { tc with skb := headers ++ (mask ((channel key).keystream w) w ++ tcPad key .sip w), seq, sessionMap }
          (nextSeq tc) rfl length untagged data needs admits.room admits.routed
    exact ⟨tc', _, _, redirected, .rtp rfl rfl rfl, frame⟩
  · have small : w.length ≤ 148 := by
      rcases message.sized with ⟨-, len⟩ | ⟨-, len⟩ | ⟨-, len⟩ | ⟨type, len⟩
      · omega
      · omega
      · omega
      · have keepalive := Nat.not_lt.mp fun more => data ⟨message.typeOf_eq.trans type, more⟩
        omega
    have text := Base64.length_encode (textDatagram key .sip w sport dport)
    have start := length_viaStart cfg (typeOf w) w.length
    have hdrLength := length_writeSipHeader cfg (typeOf w) w.length k.taiNs
    rw [SipNeeds, if_neg data] at needs
    obtain ⟨tc', redirected, frame⟩ := gutEgress_of_emitted
      (writeSipHeader cfg (typeOf w) w.length k.taiNs ++ Base64.encode (textDatagram key .sip w sport dport))
      keyed fits isUdp message skb length admits (by rw [List.length_append]; omega) fun seq sessionMap =>
        emitSignal_ok { tc with skb := headers ++ (mask ((channel key).keystream w) w ++ tcPad key .sip w), seq, sessionMap }
          (nextSeq tc) bounds.1 rfl length untagged data (by omega) needs admits.room admits.routed
    exact ⟨tc', _, _, redirected, .signal (writeSipHeader_message cfg _ _ domain year _), frame⟩

end Sent

end Gutd.Bpf
