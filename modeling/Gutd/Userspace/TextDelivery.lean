import Gutd.Proto.SipLines
import Gutd.Userspace.GutDelivery

set_option autoImplicit false

namespace Gutd.Userspace

open Bytes Checked Wire Net

variable {rt : Runtime} {w pad p q : Buf} {sport dport : UInt16}

def Delivers (rt : Runtime) (p w : Buf) (sport dport : UInt16) : Prop :=
  ∀ (shared : Shared) (outBuf rest : Buf) (src : SocketAddr) (clock : Clock), p.length ≤ outBuf.length →
    ∃ slot len outBuf' plain,
      classify rt (p ++ rest) outBuf p.length src clock = .ok (.authentic slot len rt.obfs, outBuf') ∧
        obfsDecap rt.order slot len rt.keyInit Runtime.rounds rt.obfs = .ok (plain, some (w.length, sport, dport)) ∧
        plain.take w.length = w ∧
        ∃ shared', ingress rt shared (p ++ rest) outBuf p.length src clock =
          .ok (shared', outBuf', (wgDest rt shared).toList.map (Sent.toWireGuard w))

theorem Delivers.unique {w' : Buf} (first : Delivers rt p w sport dport) (second : Delivers rt p w' sport dport)
    (length : w.length = w'.length) : w = w' := by
  obtain ⟨slot, len, out, plain, classified, decapped, message, -⟩ :=
    first Shared.empty p [] (localhost 0) ⟨0, 0⟩ (Nat.le_refl _)
  obtain ⟨slot', len', out', plain', classified', decapped', message', -⟩ :=
    second Shared.empty p [] (localhost 0) ⟨0, 0⟩ (Nat.le_refl _)
  cases classified.symm.trans classified'
  rw [length] at decapped message
  cases decapped.symm.trans decapped'
  exact message.symm.trans message'

theorem authenticate_carried (client : rt.isServer = false) (mode : rt.obfs ≠ .quic)
    (carries : Carries rt.channel .gut w pad sport dport q) (rest : Buf) (prepend : Option ObfsMode) :
    authenticate rt (q ++ rest) q.length prepend = .ok (some rt.obfs) := by
  have message := carries.message
  have length := carries.length
  have verified : obfsVerify (q ++ rest) q.length rt.keyInit Runtime.rounds .gut = .ok true :=
    obfsVerify_carried carries rest (by simp)
  have enough : gutQuicShortHeaderSize + 16 ≤ q.length := by
    simp only [gutQuicShortHeaderSize, Form.headerLen] at *
    omega
  unfold authenticate
  rw [if_neg (by simp [client]), if_pos mode, verifyIf, if_pos (by simpa using enough), verified, bind_ok]
  rfl

theorem delivers_of_detected (client : rt.isServer = false) (mode : rt.obfs ≠ .quic)
    (carries : Carries rt.channel .gut w pad sport dport q)
    (detected : ∀ outBuf rest, p.length ≤ outBuf.length → ∃ rest' prepend wasRtp kind outBuf',
      detectEnvelope (p ++ rest) outBuf p.length = .ok (.datagram (q ++ rest') q.length prepend wasRtp kind, outBuf')) :
    Delivers rt p w sport dport := by
  intro shared outBuf rest src clock room
  obtain ⟨rest', prepend, wasRtp, kind, outBuf', found⟩ := detected outBuf rest room
  have length := carries.length
  have family : Form.gut = .gut ↔ rt.obfs ≠ .quic := by simp [mode]
  have classified := classify_authentic src clock found (authenticate_carried client mode carries rest' prepend)
  have delivered := ingress_carried shared carries family classified
  rw [forward_eq] at delivered
  refine ⟨_, _, _, _, classified, obfsDecap_carried carries rest' family, ?_, _, delivered⟩
  rw [overwrite_zero _ _ (by simp; omega), List.take_left' rfl]

theorem replaceByDecoded_ok {buf outBuf : Buf} (fits : q.length ≤ buf.length) (room : q.length ≤ outBuf.length) :
    replaceByDecoded buf (overwrite outBuf 0 q) q.length = .ok (q ++ buf.drop q.length) := by
  unfold replaceByDecoded
  rw [subslice_ok (by omega) (by simpa using room), bind_ok, slice_zero, overwrite_zero _ _ room, List.take_left' rfl,
    copyFromSlice_ok (by omega) (by omega), overwrite_zero _ _ fits]

theorem detectEnvelope_line {outBuf : Buf} (line : Syslog.Line (Base64.encode q) p) (rest : Buf)
    (room : p.length ≤ outBuf.length) :
    detectEnvelope (p ++ rest) outBuf p.length =
      .ok (.datagram (q ++ (p ++ rest).drop q.length) q.length (some .syslog) false .response401, overwrite outBuf 0 q) := by
  obtain ⟨hdrLen, checked, text⟩ := line.checkHeader
  have bounds := Syslog.checkHeader_bounds checked
  have size := line.length_ge
  have inflated := Base64.length_encode q
  have payload : slice (p ++ rest) hdrLen p.length = Base64.encode q := by
    rw [slice, List.drop_append_of_le_length bounds.2, text, List.take_left' (by rw [← text, List.length_drop])]
  unfold detectEnvelope
  rw [subslice_ok (by omega) (by simp), bind_ok, slice_zero, List.take_left' rfl]
  simp only [checked]
  rw [subslice_ok bounds.2 (by simp), bind_ok, payload, Base64.decode_encode _ _ (by omega), bind_ok]
  dsimp only
  rw [replaceByDecoded_ok (by simp; omega) (by omega)]
  rfl

theorem line_delivers (client : rt.isServer = false) (mode : rt.obfs ≠ .quic)
    (carries : Carries rt.channel .gut w pad sport dport q) (line : Syslog.Line (Base64.encode q) p) :
    Delivers rt p w sport dport :=
  delivers_of_detected client mode carries fun _ rest room => ⟨_, _, _, _, _, detectEnvelope_line line rest room⟩

theorem syslog_of_sip {buf : Buf} {hdrLen : Nat} (checked : Sip.checkHeader buf = some hdrLen) : Syslog.checkHeader buf = none := by
  cases found : Syslog.checkHeader buf with
  | none => rfl
  | some other =>
      have first := Sip.checkHeader_first checked
      rw [Syslog.checkHeader_first found] at first
      exact absurd first (by decide)

theorem detectEnvelope_message {outBuf : Buf} (message : Sip.Message (Base64.encode q) p) (nonempty : 0 < q.length) (rest : Buf)
    (room : p.length ≤ outBuf.length) :
    detectEnvelope (p ++ rest) outBuf p.length =
      .ok (.datagram (q ++ (p ++ rest).drop q.length) q.length (some .sip) false (sipProbeKind p), overwrite outBuf 0 q) := by
  obtain ⟨hdrLen, checked, text⟩ := message.checkHeader
  have bounds := Sip.checkHeader_bounds checked
  have size := message.length_ge
  have inflated := Base64.length_encode q
  have payload : slice (p ++ rest) hdrLen p.length = Base64.encode q := by
    rw [slice, List.drop_append_of_le_length bounds.2, text, List.take_left' (by rw [← text, List.length_drop])]
  unfold detectEnvelope
  rw [subslice_ok (by omega) (by simp), bind_ok, slice_zero, List.take_left' rfl]
  simp only [syslog_of_sip checked, checked]
  rw [subslice_ok bounds.2 (by simp), bind_ok, payload, Base64.decode_encode _ _ (by omega), bind_ok]
  dsimp only
  rw [if_pos nonempty, replaceByDecoded_ok (by simp; omega) (by omega)]
  rfl

theorem message_delivers (client : rt.isServer = false) (mode : rt.obfs ≠ .quic)
    (carries : Carries rt.channel .gut w pad sport dport q) (message : Sip.Message (Base64.encode q) p) :
    Delivers rt p w sport dport := by
  have length := carries.length
  have enough := carries.message
  exact delivers_of_detected client mode carries fun _ rest room =>
    ⟨_, _, _, _, _, detectEnvelope_message message (by omega) rest room⟩

theorem rtp_delivers (client : rt.isServer = false) (mode : rt.obfs ≠ .quic)
    (carries : Carries rt.channel .gut w pad sport dport q) {header : Buf} (length : header.length = 12)
    (version : byteAt header 0 = 0x80) (type : byteAt header 1 = 0x60) : Delivers rt (header ++ q) w sport dport := by
  have first : byteAt (header ++ q) 0 = 0x80 := by rw [byteAt_append_left _ _ _ (by omega), version]
  have second : byteAt (header ++ q) 1 = 0x60 := by rw [byteAt_append_left _ _ _ (by omega), type]
  have syslog : Syslog.checkHeader (header ++ q) = none := by
    cases found : Syslog.checkHeader (header ++ q) with
    | none => rfl
    | some hdrLen => exact absurd (first.symm.trans (Syslog.checkHeader_first found)) (by decide)
  have sip : Sip.checkHeader (header ++ q) = none := by
    cases found : Sip.checkHeader (header ++ q) with
    | none => rfl
    | some hdrLen =>
        have letter := Sip.checkHeader_first found
        rw [first] at letter
        exact absurd letter (by decide)
  have rtp : Sip.checkRtpHeader (header ++ q) = true := by
    rw [Sip.checkRtpHeader_iff, first, second]
    exact ⟨by simp [length], by decide, by decide⟩
  refine delivers_of_detected client mode carries fun outBuf rest _ => ?_
  obtain ⟨rest', detected⟩ := detectEnvelope_rtp outBuf rest syslog sip rtp
  rw [← length, List.drop_left] at detected
  exact ⟨rest', _, _, _, _, detected⟩

theorem enveloped_delivers (client : rt.isServer = false) (mode : rt.obfs ≠ .quic)
    (carries : Carries rt.channel .gut w pad sport dport q) (enveloped : Sip.Enveloped q p) : Delivers rt p w sport dport := by
  cases enveloped with
  | signal text => exact message_delivers client mode carries text
  | rtp length version type => exact rtp_delivers client mode carries length version type

end Gutd.Userspace
