import Gutd.Proto.SipHeader
import Gutd.Userspace.Egress
import Gutd.Userspace.RoundTrip

set_option autoImplicit false

namespace Gutd.Userspace

open Bytes Checked Wire Net

variable {rt : Runtime} {packet : Packet} {obfs : ObfsMode} {w pad : Buf} {form : Form}

def encapLen (rt : Runtime) (packet : Packet) (obfs : ObfsMode) : Nat :=
  let w := packet.buf.take packet.size
  let form := encapForm obfs (typeOf w) rt.isServer
  form.headerLen + packet.size + (encapPad rt.channel obfs form w).length

theorem obfsEncap_some {order : ByteOrder} {buf out : Buf} {n : Nat} {key : ChachaInit} {rounds : UInt8} {isServer : Bool}
    {sport dport : UInt16} {sipDomain : Buf} {nowNs : Nat} {found : Option (Nat × UInt32)} (enough : 16 ≤ n)
    (done : obfsEncap order buf n key rounds isServer sport dport obfs sipDomain nowNs = .ok (out, found)) :
    ∃ result, found = some result := by
  unfold obfsEncap at done
  rw [if_neg (by omega)] at done
  obtain ⟨first, -, done⟩ := bind_eq_ok.mp done
  obtain ⟨idx, -, done⟩ := bind_eq_ok.mp done
  obtain ⟨plain, -, done⟩ := bind_eq_ok.mp done
  obtain ⟨nonce, -, done⟩ := bind_eq_ok.mp done
  obtain ⟨moved, -, done⟩ := bind_eq_ok.mp done
  obtain ⟨masked, -, done⟩ := bind_eq_ok.mp done
  obtain ⟨mac2, -, done⟩ := bind_eq_ok.mp done
  obtain ⟨padded, -, done⟩ := bind_eq_ok.mp done
  obtain ⟨headed, -, done⟩ := bind_eq_ok.mp done
  cases done
  exact ⟨_, rfl⟩

theorem obfsEncap_fits (enough : 16 ≤ packet.size) (room : encapLen rt packet obfs ≤ packet.buf.length) :
    ∃ buf dcid, obfsEncap rt.order packet.buf packet.size rt.keyInit Runtime.rounds rt.isServer packet.src.port rt.wgAddr.port
      obfs rt.sipDomain packet.nowNs = .ok (buf, some (encapLen rt packet obfs, dcid)) ∧
      buf.length = packet.buf.length := by
  obtain ⟨header, length, -, -, done⟩ := obfsEncap_ok rt.channel packet.buf packet.size rt.isServer packet.src.port
    rt.wgAddr.port obfs rt.sipDomain packet.nowNs (packet.buf.take packet.size) _ _ enough rfl rfl rfl room
  refine ⟨_, _, done, ?_⟩
  unfold encapLen at room
  simp only [List.length_append, List.length_drop, length_mask, List.length_take, length]
  dsimp only at room
  omega

structure Payload (rt : Runtime) (packet : Packet) (obfs : ObfsMode) (w pad : Buf) (form : Form) : Prop where
  payload : w = packet.buf.take packet.size
  chosen : form = encapForm obfs (typeOf w) rt.isServer
  padded : pad = encapPad rt.channel obfs form w
  message : 32 ≤ packet.size

theorem transmit_eq (dest : SocketAddr) (input : Payload rt packet obfs w pad form)
    (room : form.headerLen + packet.size + pad.length ≤ packet.buf.length) :
    ∃ q, Carries rt.channel form w pad packet.src.port rt.wgAddr.port q ∧
      transmit rt packet dest obfs =
        frame rt q ((rt.channel.ks47 w).get 9) (byteAt packet.buf 0) packet.size packet.src dest obfs packet.clock >>=
          fun out => if out.sockIdx < rt.ports.length then pure (some out) else throw .outOfBounds := by
  have message := input.message
  obtain ⟨q, carries, encapped⟩ := obfsEncap_carries rt.channel packet.buf packet.size rt.isServer packet.src.port
    rt.wgAddr.port obfs rt.sipDomain packet.nowNs w pad form message input.payload input.chosen input.padded room
  refine ⟨q, carries, ?_⟩
  change obfsEncap rt.order packet.buf packet.size rt.keyInit Runtime.rounds rt.isServer packet.src.port rt.wgAddr.port
    obfs rt.sipDomain packet.nowNs = _ at encapped
  unfold transmit
  rw [getByte_ok (by omega), bind_ok, encapped, bind_ok]
  dsimp only
  rw [subslice_ok (by omega) (by simp), bind_ok, slice_zero, List.take_left' rfl]

theorem transmit_room {dest : SocketAddr} {out : Outgoing} (input : Payload rt packet obfs w pad form)
    (sent : transmit rt packet dest obfs = .ok (some out)) :
    form.headerLen + packet.size + pad.length ≤ packet.buf.length := by
  obtain ⟨origType, -, sent⟩ := bind_eq_ok.mp sent
  obtain ⟨⟨buf, encapped⟩, done, sent⟩ := bind_eq_ok.mp sent
  cases encapped with
  | none => cases sent
  | some result =>
      obtain ⟨rfl, rfl, rfl, -⟩ := input
      exact (obfsEncap_room rt.channel rfl rfl done).2

theorem frame_syslog {q : Buf} (dcid : UInt32) (origType : UInt8) (origSize : Nat) (src dest : SocketAddr) (clock : Clock)
    (fourDigits : Calendar.year (clock.secs / 86400) < 10000) (short : rt.sipDomain.length ≤ 31) (word : 0x20 ∉ rt.sipDomain)
    (fits : q.length ≤ 10000) :
    ∃ out, frame rt q dcid origType origSize src dest .syslog clock = .ok out ∧ out.sockIdx = 0 ∧
      Syslog.Line (Base64.encode q) out.bytes := by
  have size := Base64.length_encode q
  obtain ⟨header, written, length, line⟩ := @Syslog.writeHeader_line outBufLen _ _ (by decide) fourDigits short word
  have encoded : Base64.encodeInto q (outBufLen - header.length) = .ok (Base64.encode q) := by
    refine if_pos ?_
    rw [outBufLen]
    omega
  refine ⟨{ bytes := header ++ Base64.encode q, sockIdx := 0, dest }, ?_, rfl, line _⟩
  rw [frame, syslogFrame, written, bind_ok, encoded, bind_ok, pure_eq_ok]

structure Clock.FourDigits (clock : Clock) : Prop where
  secs : Calendar.year (clock.secs / 86400) < 10000
  us : Calendar.year (clock.us / 1000000 / 86400) < 10000

theorem Clock.FourDigits.date {clock : Clock} (fourDigits : clock.FourDigits) :
    ∃ date, Sip.formatSipDateOnly clock.secs = .ok date ∧ 0x0D ∉ date ∧ date.length ≤ 16 := by
  obtain ⟨date, formatted, plain, length⟩ := Sip.formatSipDateOnly_ok clock.secs
  have year : (decimal (Calendar.year (clock.secs / 86400))).length ≤ 4 := length_decimal_le (by decide) fourDigits.secs
  exact ⟨date, formatted, plain, by omega⟩

theorem Clock.FourDigits.millis {clock : Clock} (fourDigits : clock.FourDigits) : clock.us / 1000 < 10 ^ 15 := by
  have days := Calendar.days_lt _ fourDigits.us
  omega

theorem sipFrame_ok {q : Buf} (origType : UInt8) (origSize : Nat) (src dest : SocketAddr) {clock : Clock}
    (fourDigits : clock.FourDigits) (domain : rt.sipDomain.length ≤ 60) (fits : q.length ≤ 48384) (ports : rt.peerPorts ≠ []) :
    ∃ out, sipFrame rt q origType origSize src dest clock = .ok out ∧ out.sockIdx = 0 ∧
      (sipKind origType origSize ≠ .options → 0 < q.length → 0x0D ∉ rt.sipDomain → Sip.Message (Base64.encode q) out.bytes) := by
  have size := Base64.length_encode q
  have encoded : Base64.encodeInto q (outBufLen - Sip.maxSipHeaderLen) = .ok (Base64.encode q) := by
    refine if_pos ?_
    rw [outBufLen, Sip.maxSipHeaderLen]
    omega
  obtain ⟨text, prepared, textLength, whole⟩ : ∃ text, sipPayload (sipKind origType origSize) q = .ok text ∧
      text.length ≤ 64512 ∧ (sipKind origType origSize ≠ .options → text = Base64.encode q) := by
    unfold sipPayload
    split_ifs with options
    · exact ⟨[], rfl, by simp, fun other => absurd options other⟩
    · exact ⟨_, encoded, by omega, fun _ => rfl⟩
  obtain ⟨date, formatted, plain, dateLength⟩ := fourDigits.date
  obtain ⟨args, header⟩ : ∃ args : Sip.HeaderArgs, args =
      { domain := rt.sipDomain, srcIp := src.ip.text, dstIp := dest.ip.text, sport := src.port, dport := dest.port
        rtpPort := rt.peerPorts.getD 1 10000, payloadLen := text.length, feistelKey := rt.authKey, dateStr := date
        nowUs := clock.us } := ⟨_, rfl⟩
  have bounded : args.Bounded := by
    rw [header]
    exact ⟨IpAddr.length_text _, IpAddr.length_text _, dateLength, fourDigits.millis, Nat.le_trans textLength (by decide)⟩
  have named : args.domain.length ≤ 60 := by rw [header]; exact domain
  have room := Sip.length_headerText_le (sipKind origType origSize) bounded
  have written : Sip.writeHeader (sipKind origType origSize) args = .ok (Sip.headerText (sipKind origType origSize) args) := by
    refine if_pos ?_
    rw [Sip.maxSipHeaderLen]
    omega
  obtain ⟨port, rest, first⟩ := List.exists_cons_of_ne_nil ports
  have target : getPort rt.peerPorts 0 = .ok port := by rw [first]; rfl
  refine ⟨{ bytes := Sip.headerText (sipKind origType origSize) args ++ text, sockIdx := 0, dest := { dest with port } }, ?_,
    rfl, ?_⟩
  · unfold sipFrame
    dsimp only
    rw [prepared, bind_ok, formatted, bind_ok, ← header, written, bind_ok, target, bind_ok, pure_eq_ok]
  · intro message nonempty noBreak
    have printable : args.Printable := by
      rw [header]
      exact ⟨noBreak, fun _ => IpAddr.mem_text, fun _ => IpAddr.mem_text, plain⟩
    rw [whole message]
    refine Sip.headerText_message printable ?_ _
    rw [header]
    change 0 < text.length
    rw [whole message]
    omega

theorem sipFrame_ports {q : Buf} {origType : UInt8} {origSize : Nat} {src dest : SocketAddr} {clock : Clock} {out : Outgoing}
    (done : sipFrame rt q origType origSize src dest clock = .ok out) : rt.peerPorts ≠ [] := by
  obtain ⟨text, -, done⟩ := bind_eq_ok.mp done
  obtain ⟨date, -, done⟩ := bind_eq_ok.mp done
  obtain ⟨header, -, done⟩ := bind_eq_ok.mp done
  obtain ⟨port, found, -⟩ := bind_eq_ok.mp done
  intro none
  rw [none] at found
  cases found

-- the socket index of an RTP packet is chosen from the ports of the peer
theorem rtpFrame_ok {q : Buf} (dcid : UInt32) (dest : SocketAddr) (fits : q.length + 12 ≤ outBufLen) :
    ∃ out, rtpFrame rt q dcid dest = .ok out ∧ Sip.Enveloped q out.bytes ∧
      out.sockIdx = if 1 < rt.peerPorts.length then 1 + (nonceOf q).toNat % (rt.peerPorts.length - 1) else 0 := by
  have length : ∀ seq ts ssrc, (Sip.rtpHeader seq ts ssrc).length = 12 := fun _ _ _ => rfl
  unfold rtpFrame
  rw [wgNonce32_ok, bind_ok]
  dsimp only
  rw [if_neg (by rw [List.length_append, length]; omega)]
  split_ifs with several
  · have inside := Nat.mod_lt (nonceOf q).toNat (show 0 < rt.peerPorts.length - 1 by omega)
    have target : getPort rt.peerPorts (1 + (nonceOf q).toNat % (rt.peerPorts.length - 1)) =
        .ok (rt.peerPorts.get ⟨1 + (nonceOf q).toNat % (rt.peerPorts.length - 1), by omega⟩) := by
      rw [getPort, List.getElem?_eq_getElem (by omega)]
      rfl
    rw [target, bind_ok]
    exact ⟨_, rfl, .rtp rfl rfl rfl, rfl⟩
  · exact ⟨_, rfl, .rtp rfl rfl rfl, rfl⟩

theorem sipKind_options (origType : UInt8) (origSize : Nat) :
    sipKind origType origSize = .options ↔ origType = 4 ∧ origSize = 32 := by
  unfold sipKind
  split_ifs with one two three options
  · simp [one]
  · simp [two]
  · simp [three]
  · simp [options]
  · simp [options]

theorem frame_sip {q : Buf} (dcid : UInt32) (origType : UInt8) (origSize : Nat) (src dest : SocketAddr) {clock : Clock}
    (fourDigits : clock.FourDigits) (domain : rt.sipDomain.length ≤ 60) (noBreak : 0x0D ∉ rt.sipDomain) (nonempty : 0 < q.length)
    (fits : q.length ≤ 48384) (other : ¬(origType = 4 ∧ origSize = 32)) (ports : ¬(origType = 4 ∧ origSize > 32) → rt.peerPorts ≠ []) :
    ∃ out, frame rt q dcid origType origSize src dest .sip clock = .ok out ∧ Sip.Enveloped q out.bytes ∧
      out.sockIdx < max 1 rt.peerPorts.length := by
  unfold frame
  dsimp only
  split_ifs with data
  · obtain ⟨out, done, enveloped, socket⟩ := @rtpFrame_ok rt q dcid dest (by rw [outBufLen]; omega)
    refine ⟨out, done, enveloped, ?_⟩
    rw [socket]
    split_ifs with several
    · have inside := Nat.mod_lt (nonceOf q).toNat (show 0 < rt.peerPorts.length - 1 by omega)
      omega
    · omega
  · obtain ⟨out, done, socket, message⟩ := sipFrame_ok origType origSize src dest fourDigits domain fits (ports data)
    exact ⟨out, done, .signal (message (fun options => other ((sipKind_options _ _).mp options)) nonempty noBreak),
      by rw [socket]; omega⟩

end Gutd.Userspace
