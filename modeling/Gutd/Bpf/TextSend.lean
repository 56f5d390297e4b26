import Gutd.Bpf.Base64
import Gutd.Bpf.TcSend
import Gutd.Proto.Syslog

set_option autoImplicit false

namespace Gutd.Bpf

open Bytes Checked Wire

variable {cfg : GutConfig} {key : Vector UInt8 32} {mode : ObfsMode} {k : Kernel} {ver : IpVersion} {route : Route}
  {w headers body hdr text : Buf} {sport dport port : UInt16}

theorem encodeInner_ok (p : Prepared) (tc : Tc) (skb : tc.skb = headers ++ body) (off : p.wgOff = headers.length)
    (total : p.wgLen + p.padLen = body.length) (outer : p.outer = gutHeaderSize) (minimum : wgMinPacket ≤ body.length)
    (fits : body.length ≤ 886) :
    encodeInner p tc = .ok (Base64.encode (gutHeader p.ppn p.encPorts p.padLen ++ body)) := by
  have constants : gutHeaderSize = 10 ∧ wgMinPacket = 32 ∧ gutB64MaxInner = 896 ∧ gutB64MaxOut = 1200 :=
    ⟨rfl, rfl, rfl, rfl⟩
  have header : (gutHeader p.ppn p.encPorts p.padLen).length = 10 := rfl
  have inner : (gutHeader p.ppn p.encPorts p.padLen ++ body).length = 10 + body.length := by rw [List.length_append, header]
  have size := Base64.length_encode (gutHeader p.ppn p.encPorts p.padLen ++ body)
  have loaded : slice tc.skb headers.length (headers.length + body.length) = body := by
    rw [skb, slice, List.drop_left, Nat.add_sub_cancel_left, List.take_length]
  unfold encodeInner
  simp only [total, outer, off]
  rw [Nat.mod_eq_of_lt (by omega : body.length < 2 ^ 32), rejectIf_ok (by omega), bind_ok,
    Nat.mod_eq_of_lt (by omega : body.length < 2 ^ 10), rejectIf_ok (by omega), bind_ok,
    loadBytes_ok (by simp [skb]), orReject_some, bind_ok, loaded, b64Encode_eq _ (by omega), rejectIf_ok (by omega),
    bind_ok]
  rfl

theorem replaceByText_ok (hdr text : Buf) (hdrLimit : Nat) (p : Prepared) (tc : Tc) (skb : tc.skb = headers ++ body)
    (length : headers.length = payloadOff p.ver) (untagged : tc.macLen = 14) (sum : p.wgLen + p.padLen = body.length)
    (grows : body.length < hdr.length + text.length) (limit : hdr.length + text.length ≤ hdrLimit + gutB64MaxOut)
    (small : hdrLimit ≤ 256) (room : k.adjustRoom = true ∧ k.pullData = true)
    (routed : routeOf cfg tc.clientMap p.wgIdx p.ver = some route) :
    ∃ tc', replaceByText cfg k p hdr text hdr.length hdrLimit tc = .ok tc' ∧
      tc'.skb = writeOuterHeaders cfg p.ver route (writeOuterLengths p.ver p.port (hdr.length + text.length + 8) headers) ++
        (hdr ++ text) := by
  have constant : gutB64MaxOut = 1200 := rfl
  generalize extra : hdr.length + text.length - body.length = gap
  have roomLen : sub32 (hdr.length + text.length) (body.length % 2 ^ 32) % 2 ^ 11 = gap := by
    unfold sub32
    omega
  obtain ⟨junk, junkLength, made⟩ := makeRoom_eq_ok k gap skb length untagged
  have roomed := (made _).mpr ⟨room.1, room.2, rfl⟩
  have inside : (junk ++ body).length = hdr.length + text.length := by
    rw [List.length_append]
    omega
  have headed : overwrite (headers ++ (junk ++ body)) (payloadOff p.ver) hdr = headers ++ hdr ++ (junk ++ body).drop hdr.length := by
    rw [← length, overwrite_append_next _ _ _ (by omega)]
  have written : overwrite (headers ++ hdr ++ (junk ++ body).drop hdr.length) (payloadOff p.ver + hdr.length) text =
      headers ++ (hdr ++ text) := by
    have front : (headers ++ hdr).length = payloadOff p.ver + hdr.length := by rw [List.length_append, length]
    rw [← front, overwrite_append_next _ _ _ (by rw [List.length_drop]; omega),
      List.drop_eq_nil_of_le (by rw [List.length_drop]; omega), List.append_nil, List.append_assoc]
  obtain ⟨tc', done, frame⟩ := finish_ok p { tc with skb := headers ++ (hdr ++ text) } (hdr.length + text.length + 8) rfl
    length routed
  refine ⟨tc', ?_, frame⟩
  unfold replaceByText
  simp only [sum, roomLen]
  rw [rejectIf_ok (by omega), bind_ok, roomed, bind_ok]
  dsimp only
  rw [storeBytes_ok (by rw [List.length_append]; omega), orReject_some, bind_ok, headed,
    storeBytes_ok (by simp only [List.length_append, List.length_drop] at *; omega), orReject_some, bind_ok, written]
  exact done

theorem replaceByText_guards {p : Prepared} {tc tc' : Tc} {hdrMax hdrLimit : Nat} (skb : tc.skb = headers ++ body)
    (length : headers.length = payloadOff p.ver) (untagged : tc.macLen = 14)
    (done : replaceByText cfg k p hdr text hdrMax hdrLimit tc = .ok tc') :
    (k.adjustRoom = true ∧ k.pullData = true) ∧ ∃ route, routeOf cfg tc.clientMap p.wgIdx p.ver = some route := by
  obtain ⟨u, -, done⟩ := bind_eq_ok.mp done
  obtain ⟨tc1, roomed, done⟩ := bind_eq_ok.mp done
  obtain ⟨junk, -, made⟩ := makeRoom_eq_ok k
    (sub32 (hdrMax + text.length) ((p.wgLen + p.padLen) % 2 ^ 32) % 2 ^ 11) skb length untagged
  obtain ⟨adjusted, pulled, rfl⟩ := (made tc1).mp roomed
  obtain ⟨headed, -, done⟩ := bind_eq_ok.mp done
  obtain ⟨written, -, finished⟩ := bind_eq_ok.mp done
  obtain ⟨route, routed⟩ := finish_routes finished
  exact ⟨⟨adjusted, pulled⟩, route, routed⟩

theorem writeSyslogAscii_line (cfg : GutConfig) (taiNs : Nat) (short : cfg.sniDomainLen.toNat ≤ 31) (word : 0x20 ∉ cfg.sni) :
    (writeSyslogAscii cfg taiNs).length = 36 + min cfg.sniDomainLen.toNat 32 ∧
      ∀ text, Syslog.Line text (writeSyslogAscii cfg taiNs ++ text) := by
  have name : cfg.sni.length = min cfg.sniDomainLen.toNat 32 := by
    rw [GutConfig.sni, List.length_take, Vector.length_toList]
    omega
  refine ⟨length_writeSyslogAscii cfg taiNs, fun text => ?_⟩
  unfold writeSyslogAscii
  dsimp only
  generalize front : ascii "<165>1 " ++ digits4 (civilTime taiNs).y ++ ascii "-" ++ digits2 (civilTime taiNs).m ++
    ascii "-" ++ digits2 (civilTime taiNs).d ++ ascii "T" ++ digits2 (civilTime taiNs).hour ++ ascii ":" ++
    digits2 (civilTime taiNs).min ++ ascii ":" ++ digits2 (civilTime taiNs).sec ++ ascii "Z " = stamp
  have length : stamp.length = 28 := by
    rw [← front]
    rfl
  have tag : stamp.take 7 = ascii "<165>1 " := by
    rw [← front]
    simp only [List.append_assoc]
    exact List.take_left' rfl
  rw [List.append_assoc, List.append_assoc]
  exact .mk stamp cfg.sni tag length (by omega) word

def textDatagram (key : Vector UInt8 32) (mode : ObfsMode) (w : Buf) (sport dport : UInt16) : Buf :=
  gutHeader (((channel key).ks47 w).get 10) (packPorts sport dport ^^^ ((channel key).ks47 w).get 11) (tcPad key mode w).length ++
    (mask ((channel key).keystream w) w ++ tcPad key mode w)

theorem length_textDatagram (key : Vector UInt8 32) (mode : ObfsMode) (w : Buf) (sport dport : UInt16) :
    (textDatagram key mode w sport dport).length = 10 + (w.length + (tcPad key mode w).length) := by
  have header : ∀ ppn encPorts padLen, (gutHeader ppn encPorts padLen).length = 10 := fun _ _ _ => rfl
  simp [textDatagram, header]

theorem carries_textDatagram (key : Vector UInt8 32) (mode : ObfsMode) (sport dport : UInt16) (message : 32 ≤ w.length) :
    Carries (channel key) .gut w (tcPad key mode w) sport dport (textDatagram key mode w sport dport) :=
  have padding := length_tcPad_le key mode w
  Carries.of_header (gutHeader_header _ _ _ _ padding) rfl message padding

theorem emitSyslog_ok (tc : Tc) (seq : UInt32) (message : 32 ≤ w.length)
    (skb : tc.skb = headers ++ (mask ((channel key).keystream w) w ++ tcPad key .syslog w))
    (length : headers.length = payloadOff ver) (untagged : tc.macLen = 14) (fits : w.length + (tcPad key .syslog w).length ≤ 886)
    (short : cfg.sniDomainLen.toNat ≤ 31) (word : 0x20 ∉ cfg.sni)
    (room : k.adjustRoom = true ∧ k.pullData = true) (routed : routeOf cfg tc.clientMap (indexOf w) ver = some route) :
    ∃ tc', emit .syslog cfg k (prepared key .syslog ver w sport dport seq port) tc = .ok tc' ∧
      tc'.skb = writeOuterHeaders cfg ver route (writeOuterLengths ver port
        ((writeSyslogAscii cfg k.taiNs ++ Base64.encode (textDatagram key .syslog w sport dport)).length + 8) headers) ++
          (writeSyslogAscii cfg k.taiNs ++ Base64.encode (textDatagram key .syslog w sport dport)) := by
  obtain ⟨hdrLength, -⟩ := writeSyslogAscii_line cfg k.taiNs short word
  have size := Base64.length_encode (textDatagram key .syslog w sport dport)
  have total := length_textDatagram key .syslog w sport dport
  have bodyLength : (mask ((channel key).keystream w) w ++ tcPad key .syslog w).length = w.length + (tcPad key .syslog w).length := by
    simp
  have encoded := encodeInner_ok (prepared key .syslog ver w sport dport seq port) tc skb length.symm bodyLength.symm rfl
    (by rw [wgMinPacket, bodyLength]; omega) (by omega)
  obtain ⟨tc', replaced, frame⟩ := replaceByText_ok (writeSyslogAscii cfg k.taiNs)
    (Base64.encode (textDatagram key .syslog w sport dport)) 68
    (prepared key .syslog ver w sport dport seq port) tc skb length untagged bodyLength.symm (by omega)
    (by rw [gutB64MaxOut]; omega) (by decide) room routed
  refine ⟨tc', ?_, by rw [List.length_append]; exact frame⟩
  unfold emit emitSyslog
  rw [encoded, bind_ok, ← hdrLength]
  exact replaced

section Sent

variable {tc : Tc}

theorem gutEgress_syslog_admits {ifindex : UInt32} {tc' : Tc} (keyed : cfg.Keyed key)
    (isUdp : UdpFrame ver sport dport w tc.skb) (message : WgMessage w) (skb : tc.skb = headers ++ w)
    (length : headers.length = payloadOff ver) (untagged : tc.macLen = 14)
    (done : gutEgress .syslog cfg k tc = (.redirect ifindex, tc')) :
    ∃ port route, Admits key .syslog ver w cfg k tc port route := by
  unfold gutEgress at done
  dsimp only at done
  split at done
  · rename_i sent run
    obtain ⟨r, prep, emitted⟩ := bind_eq_ok.mp run
    obtain ⟨kept, ⟨port, selected⟩, grown, fixed, fits⟩ := prepare_guards keyed isUdp message prep
    obtain ⟨seq, sessionMap, explicit⟩ := prepare_ok keyed fits isUdp message skb length kept selected grown fixed
    rw [prep] at explicit
    cases explicit
    obtain ⟨text, -, replaced⟩ := bind_eq_ok.mp emitted
    obtain ⟨room, route, routed⟩ := replaceByText_guards rfl length (by exact untagged) replaced
    exact ⟨port, route, kept, selected, grown, fixed, room, nofun, routed⟩
  · cases done

theorem gutEgress_of_emitted {port' : UInt16} (p : Buf) (keyed : cfg.Keyed key)
    (fits : mode = .syslog → w.length ≤ gutB64WgMtuMax) (isUdp : UdpFrame ver sport dport w tc.skb) (message : WgMessage w)
    (skb : tc.skb = headers ++ w) (length : headers.length = payloadOff ver)
    (admits : Admits key mode ver w cfg k tc port route) (small : p.length + 8 < 2 ^ 16)
    (emitted : ∀ seq sessionMap, ∃ tc', emit mode cfg k (prepared key mode ver w sport dport (nextSeq tc) port)
        { tc with skb := headers ++ (mask ((channel key).keystream w) w ++ tcPad key mode w), seq, sessionMap } = .ok tc' ∧
      tc'.skb = writeOuterHeaders cfg ver route (writeOuterLengths ver port' (p.length + 8) headers) ++ p) :
    ∃ tc', gutEgress mode cfg k tc = (.redirect cfg.egressIfindex, tc') ∧
      UdpFrame ver (route.source.getD port') (route.dest.getD port') p tc'.skb := by
  obtain ⟨seq, sessionMap, prep⟩ := prepare_ok keyed fits isUdp message skb length admits.kept admits.port admits.grown
    admits.bridged
  obtain ⟨tc', done, frame⟩ := emitted seq sessionMap
  have fields := isUdp.headers
  rw [skb, UdpHeaders.append_iff length] at fields
  refine ⟨tc', ?_, ?_⟩
  · unfold gutEgress
    rw [prep, bind_ok]
    dsimp only
    rw [done]
  · have rewritten := writeOuterHeaders_fields cfg port' length small (routeOf_lengths admits.routed) fields
    have isFrame := UdpFrame.of_headers [] (by simpa using length) rewritten
    rw [frame]
    simpa using isFrame

theorem length_tcPad_text (key : Vector UInt8 32) (w : Buf) (mode : ObfsMode) (text : mode = .syslog ∨ mode = .sip) :
    1 ≤ (tcPad key mode w).length ∧ (tcPad key mode w).length ≤ 32 ∧ (220 ≤ w.length → (tcPad key mode w).length ≤ 15) :=
  Userspace.length_encapPad_text (channel key) text (tcForm mode (typeOf w)) w

theorem gutEgress_syslog_sends (keyed : cfg.Keyed key) (isUdp : UdpFrame ver sport dport w tc.skb) (message : WgMessage w)
    (skb : tc.skb = headers ++ w) (length : headers.length = payloadOff ver) (untagged : tc.macLen = 14)
    (fits : w.length ≤ 871) (short : cfg.sniDomainLen.toNat ≤ 31) (word : 0x20 ∉ cfg.sni)
    (admits : Admits key .syslog ver w cfg k tc port route) :
    ∃ tc' p, gutEgress .syslog cfg k tc = (.redirect cfg.egressIfindex, tc') ∧
      Syslog.Line (Base64.encode (textDatagram key .syslog w sport dport)) p ∧
      UdpFrame ver (route.source.getD port) (route.dest.getD port) p tc'.skb := by
  have bounds := message.length
  have ballast := length_tcPad_text key w .syslog (.inl rfl)
  have size := Base64.length_encode (textDatagram key .syslog w sport dport)
  have inner := length_textDatagram key .syslog w sport dport
  obtain ⟨hdrLength, line⟩ := writeSyslogAscii_line cfg k.taiNs short word
  obtain ⟨tc', redirected, frame⟩ := gutEgress_of_emitted
    (writeSyslogAscii cfg k.taiNs ++ Base64.encode (textDatagram key .syslog w sport dport)) keyed
    (fun _ => by rw [gutB64WgMtuMax]; omega) isUdp message skb length admits (by rw [List.length_append]; omega) fun seq sessionMap =>
      emitSyslog_ok { tc with skb := headers ++ (mask ((channel key).keystream w) w ++ tcPad key .syslog w), seq, sessionMap }
        (nextSeq tc) bounds.1 rfl length untagged (by omega) short word admits.room admits.routed
  exact ⟨tc', _, redirected, line _, frame⟩

end Sent

end Gutd.Bpf
