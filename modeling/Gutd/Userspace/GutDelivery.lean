import Gutd.Userspace.Delivery

set_option autoImplicit false

namespace Gutd.Userspace

open Bytes Checked Wire Net

theorem replaceByDecoded_inside {buf outBuf slot : Buf} {decodedLen : Nat}
    (done : replaceByDecoded buf outBuf decodedLen = .ok slot) : decodedLen ≤ slot.length := by
  obtain ⟨decoded, -, copied⟩ := bind_eq_ok.mp done
  obtain ⟨inside, length⟩ := copyFromSlice_inside copied
  omega

-- the text of an envelope is longer than what it decodes to
theorem detectEnvelope_text {buf outBuf slot outBuf' : Buf} {len size hdrLen : Nat} {prepend : Option ObfsMode}
    {wasRtp : Bool} {kind : Sip.SipKind} (inside : len ≤ buf.length)
    (text : Syslog.checkHeader (buf.take len) = some hdrLen ∨
      Syslog.checkHeader (buf.take len) = none ∧ Sip.checkHeader (buf.take len) = some hdrLen)
    (detected : detectEnvelope buf outBuf len = .ok (.datagram slot size prepend wasRtp kind, outBuf')) :
    size ≤ slot.length ∧ 4 * size ≤ 3 * (len - hdrLen) := by
  unfold detectEnvelope at detected
  rw [subslice_ok (by omega) inside, bind_ok, slice_zero] at detected
  rcases text with syslog | ⟨syslog, sip⟩
  · simp only [syslog] at detected
    obtain ⟨payload, got, detected⟩ := bind_eq_ok.mp detected
    obtain ⟨⟨decoded, out⟩, valid, detected⟩ := bind_eq_ok.mp detected
    obtain ⟨-, -, rfl⟩ := subslice_inside got
    cases decoded with
    | none => cases detected
    | some decodedLen =>
        obtain ⟨slot', replaced, detected⟩ := bind_eq_ok.mp detected
        cases detected
        have bound := Base64.decode_bound valid
        rw [length_slice] at bound
        exact ⟨replaceByDecoded_inside replaced, by omega⟩
  · simp only [syslog, sip] at detected
    obtain ⟨payload, got, detected⟩ := bind_eq_ok.mp detected
    obtain ⟨⟨decoded, out⟩, valid, detected⟩ := bind_eq_ok.mp detected
    obtain ⟨-, -, rfl⟩ := subslice_inside got
    cases decoded with
    | none => cases detected
    | some decodedLen =>
        simp only at detected
        split_ifs at detected with some
        · obtain ⟨slot', replaced, detected⟩ := bind_eq_ok.mp detected
          cases detected
          have bound := Base64.decode_bound valid
          rw [length_slice] at bound
          exact ⟨replaceByDecoded_inside replaced, by omega⟩
        · cases detected

theorem detectEnvelope_inside {buf outBuf slot outBuf' : Buf} {len size : Nat} {prepend : Option ObfsMode}
    {wasRtp : Bool} {kind : Sip.SipKind} (inside : len ≤ buf.length)
    (detected : detectEnvelope buf outBuf len = .ok (.datagram slot size prepend wasRtp kind, outBuf')) :
    size ≤ slot.length := by
  cases syslog : Syslog.checkHeader (buf.take len) with
  | some hdrLen => exact (detectEnvelope_text inside (.inl syslog) detected).1
  | none =>
      cases sip : Sip.checkHeader (buf.take len) with
      | some hdrLen => exact (detectEnvelope_text inside (.inr ⟨syslog, sip⟩) detected).1
      | none =>
          unfold detectEnvelope at detected
          rw [subslice_ok (by omega) inside, bind_ok, slice_zero] at detected
          simp only [syslog, sip] at detected
          split_ifs at detected with rtp
          · obtain ⟨stripped, copied, detected⟩ := bind_eq_ok.mp detected
            cases detected
            obtain ⟨-, -, length⟩ := copyWithin_inside copied
            omega
          · cases detected
            exact inside

theorem detectEnvelope_rtp {p : Buf} (outBuf rest : Buf) (syslog : Syslog.checkHeader p = none)
    (sip : Sip.checkHeader p = none) (rtp : Sip.checkRtpHeader p = true) :
    ∃ rest', detectEnvelope (p ++ rest) outBuf p.length =
      .ok (.datagram (p.drop 12 ++ rest') (p.drop 12).length (some .sip) true .response401, outBuf) := by
  obtain ⟨long, -⟩ := Sip.checkRtpHeader_iff.mp rtp
  have front : (p ++ rest).take p.length = p := List.take_left' rfl
  have stripped : slice (p ++ rest) 12 p.length = p.drop 12 := by
    rw [slice, List.drop_append_of_le_length long, List.take_left' (by simp)]
  refine ⟨(p ++ rest).drop (p.drop 12).length, ?_⟩
  unfold detectEnvelope
  rw [subslice_ok (by omega) (by simp), bind_ok, slice_zero, front]
  simp only [syslog, sip, rtp, if_true, Sip.rtpHeaderLen]
  rw [copyWithin_ok long (by simp) (by simp; omega), bind_ok, stripped, overwrite_zero _ _ (by simp; omega),
    List.length_drop, pure_eq_ok]

section Client

variable {rt : Runtime}

theorem authenticate_client (client : rt.isServer = false) (mode : rt.obfs = .gut) {slot : Buf} {len : Nat}
    {prepend : Option ObfsMode} {obfs : ObfsMode} :
    authenticate rt slot len prepend = .ok (some obfs) ↔
      obfs = .gut ∧ 32 ≤ len ∧ obfsVerify slot len rt.keyInit Runtime.rounds .gut = .ok true := by
  unfold authenticate verifyIf
  rw [if_neg (by simp [client]), if_pos (by simp [mode]), mode, bind_eq_ok]
  simp only [gutQuicShortHeaderSize, ge_iff_le, Nat.reduceAdd, decide_eq_true_eq]
  constructor
  · rintro ⟨ok, verified, result⟩
    cases ok with
    | false => cases result
    | true =>
        cases result
        split_ifs at verified with long
        · exact ⟨rfl, long, verified⟩
        · cases verified
  · rintro ⟨rfl, long, verified⟩
    exact ⟨true, by rw [if_pos long, verified], rfl⟩

theorem client_forwards_iff (client : rt.isServer = false) (mode : rt.obfs = .gut) (shared : Shared) (buf outBuf w : Buf)
    (len : Nat) (src dest : SocketAddr) (clock : Clock) (inside : len ≤ buf.length) :
    (∃ shared' outBuf', ingress rt shared buf outBuf len src clock = .ok (shared', outBuf', [.toWireGuard w dest])) ↔
      shared.wgPeer = some dest ∧
        ∃ p rest prepend wasRtp kind outBuf',
          detectEnvelope buf outBuf len = .ok (.datagram (p ++ rest) p.length prepend wasRtp kind, outBuf') ∧
            ∃ pad sport dport, Carries rt.channel .gut w pad sport dport p := by
  have known : wgDest rt shared = shared.wgPeer := by simp [wgDest, client]
  constructor
  · rintro ⟨shared', outBuf', forwarded⟩
    obtain ⟨peer, slot, size, obfs, plain, n, sport, dport, classified, decapped, payload⟩ :=
      ingress_forwarded_inv forwarded
    obtain ⟨prepend, wasRtp, kind, detected, verified⟩ := classify_authentic_inv classified
    obtain ⟨rfl, -, verified⟩ := (authenticate_client client mode).mp verified
    have fits := detectEnvelope_inside inside detected
    obtain ⟨p, rest, rfl, rfl⟩ : ∃ p rest, slot = p ++ rest ∧ size = p.length :=
      ⟨slot.take size, slot.drop size, by simp, by simp [fits]⟩
    obtain ⟨w', pad, sport', dport', carries⟩ : ∃ w pad sport dport, Carries rt.channel .gut w pad sport dport p :=
      carries_of_obfsVerify (by decide) rest verified
    have length := carries.length
    have same := (obfsDecap_carried carries rest (by simp)).symm.trans decapped
    have delivered : w = w' := by
      cases same
      rw [payload, overwrite_zero _ _ (by simp; omega), List.take_left' rfl]
    exact ⟨known ▸ peer, p, rest, prepend, wasRtp, kind, outBuf', detected, pad, sport', dport', delivered ▸ carries⟩
  · rintro ⟨peer, p, rest, prepend, wasRtp, kind, outBuf', detected, pad, sport, dport, carries⟩
    have length := carries.length
    have message := carries.message
    have verified : obfsVerify (p ++ rest) p.length rt.keyInit Runtime.rounds .gut = .ok true :=
      obfsVerify_carried carries rest (by simp)
    have long : 32 ≤ p.length := by omega
    have classified := classify_authentic src clock detected
      ((authenticate_client client mode).mpr ⟨rfl, long, verified⟩)
    have delivered := ingress_carried shared carries (by simp) classified
    rw [forward_eq, known, peer] at delivered
    exact ⟨_, _, delivered⟩

end Client

def SelfSimilar (p : Buf) (n : Nat) : Prop :=
  le32At p 12 = le32At p 0 ∧ slice p 22 (22 + n) = slice p 10 (10 + n) ∧ 22 + n + ballastLen (byteAt p 21) = p.length

instance (p : Buf) (n : Nat) : Decidable (SelfSimilar p n) := by
  unfold SelfSimilar
  infer_instance

theorem carries_drop_iff {ch : Channel} {w pad p : Buf} {sport dport : UInt16}
    (carries : Carries ch .gut w pad sport dport p) :
    (∃ pad' sport' dport', Carries ch .gut w pad' sport' dport' (p.drop 12)) ↔ SelfSimilar p w.length := by
  have masked : slice p 10 (10 + w.length) = mask (ch.keystream w) w := slice_body carries
  have ppn : le32At p 0 = (ch.ks47 w).get 10 := carries.header.ppn
  have message := carries.message
  have length := carries.length
  rw [Form.headerLen] at length
  constructor
  · rintro ⟨pad', sport', dport', again⟩
    have whole := again.header.whole
    have total := again.length
    have ppn' : le32At (p.drop 12) 0 = (ch.ks47 w).get 10 := again.header.ppn
    have ballast : ballastLen (byteAt p 21) = pad'.length := by
      rw [← again.header.pad]
      exact congrArg ballastLen (byteAt_drop p 12 9).symm
    have masked' : slice (p.drop 12) 10 (10 + w.length) = mask (ch.keystream w) w := slice_body again
    rw [le32At_drop] at ppn'
    rw [slice_drop] at masked'
    simp only [Form.headerLen, List.length_drop] at total whole
    exact ⟨by rw [ppn', ppn], by rw [masked, ← masked', ← Nat.add_assoc], by omega⟩
  · rintro ⟨samePpn, sameBody, total⟩
    have body : (p.drop 12).drop 10 = mask (ch.keystream w) w ++ p.drop (22 + w.length) := by
      rw [List.drop_drop, ← masked, ← sameBody, slice_append_drop]
    have ppn' : le32At (p.drop 12) 0 = (ch.ks47 (mask (ch.keystream w) w)).get 10 := by
      rw [le32At_drop, samePpn, ch.ks47_mask, ppn]
    obtain ⟨sport', dport', again⟩ := Carries.of_masked (by simp; omega) (by simpa using message) body
      (by simp; omega) ppn'
    rw [ch.keystream_mask, unmask_mask] at again
    exact ⟨_, sport', dport', again⟩

def Unmistakable (ch : Channel) (w : Buf) (sport dport : UInt16) : Prop :=
  let p := gutDatagram ch w sport dport
  Syslog.checkHeader p = none ∧ Sip.checkHeader p = none ∧
    (Sip.checkRtpHeader p = false ∨ SelfSimilar p w.length)

instance (ch : Channel) (w : Buf) (sport dport : UInt16) : Decidable (Unmistakable ch w sport dport) := by
  unfold Unmistakable
  infer_instance

theorem text_lost {ch : Channel} {w pad p q outBuf rest rest' outBuf' : Buf} {sport dport : UInt16} {hdrLen : Nat}
    {prepend : Option ObfsMode} {wasRtp : Bool} {kind : Sip.SipKind} (length : p.length ≤ 25 + w.length)
    (text : Syslog.checkHeader p = some hdrLen ∨ Syslog.checkHeader p = none ∧ Sip.checkHeader p = some hdrLen)
    (detected : detectEnvelope (p ++ rest) outBuf p.length = .ok (.datagram (q ++ rest') q.length prepend wasRtp kind, outBuf')) :
    ¬ Carries ch .gut w pad sport dport q := by
  intro carries
  have front : (p ++ rest).take p.length = p := List.take_left' rfl
  have bound := (detectEnvelope_text (by simp) (by rw [front]; exact text) detected).2
  have header : 4 ≤ hdrLen := by
    rcases text with syslog | ⟨-, sip⟩
    · exact Nat.le_trans (by decide) (Syslog.checkHeader_bounds syslog).1
    · exact (Sip.checkHeader_bounds sip).1
  have total := carries.length
  have message := carries.message
  rw [Form.headerLen] at total
  omega

theorem detected_carries_iff {ch : Channel} {w pad p : Buf} {sport dport : UInt16} (outBuf rest : Buf)
    (carries : Carries ch .gut w pad sport dport p) (padding : pad.length ≤ 15) :
    (∃ q rest' prepend wasRtp kind outBuf',
        detectEnvelope (p ++ rest) outBuf p.length = .ok (.datagram (q ++ rest') q.length prepend wasRtp kind, outBuf') ∧
          ∃ pad' sport' dport', Carries ch .gut w pad' sport' dport' q) ↔
      Syslog.checkHeader p = none ∧ Sip.checkHeader p = none ∧
        (Sip.checkRtpHeader p = false ∨ SelfSimilar p w.length) := by
  have front : (p ++ rest).take p.length = p := List.take_left' rfl
  have length := carries.length
  rw [Form.headerLen] at length
  have short : p.length ≤ 25 + w.length := by omega
  cases syslog : Syslog.checkHeader p with
  | some hdrLen =>
      simp only [reduceCtorEq, false_and, iff_false]
      rintro ⟨q, rest', prepend, wasRtp, kind, outBuf', detected, pad', sport', dport', again⟩
      exact text_lost short (.inl syslog) detected again
  | none =>
      cases sip : Sip.checkHeader p with
      | some hdrLen =>
          simp only [reduceCtorEq, false_and, and_false, iff_false]
          rintro ⟨q, rest', prepend, wasRtp, kind, outBuf', detected, pad', sport', dport', again⟩
          exact text_lost short (.inr ⟨syslog, sip⟩) detected again
      | none =>
          cases rtp : Sip.checkRtpHeader p with
          | false =>
              have detected : detectEnvelope (p ++ rest) outBuf p.length = _ :=
                detectEnvelope_plain (by simp) (by rw [front, syslog]) (by rw [front, sip]) (by rw [front, rtp])
              simp only [true_or, and_self, iff_true]
              exact ⟨p, rest, _, _, _, _, detected, _, _, _, carries⟩
          | true =>
              obtain ⟨tail, stripped⟩ := detectEnvelope_rtp outBuf rest syslog sip rtp
              simp only [true_and, reduceCtorEq, false_or]
              rw [← carries_drop_iff carries]
              constructor
              · rintro ⟨q, rest', prepend, wasRtp, kind, outBuf', detected, again⟩
                have same := detected.symm.trans stripped
                simp only [Except.ok.injEq, Prod.mk.injEq, Envelope.datagram.injEq] at same
                obtain ⟨rfl, -⟩ := List.append_inj same.1.1 same.1.2.1
                exact again
              · intro again
                exact ⟨_, tail, _, _, _, _, stripped, again⟩

theorem gut_delivery (rt : Runtime) (client : rt.isServer = false) (mode : rt.obfs = .gut) (shared : Shared)
    (sendBuf out outBuf rest : Buf) (n len : Nat) (dcid : UInt32) (sendingServer : Bool) (sport dport : UInt16)
    (sipDomain : Buf) (nowNs : Nat) (src dest : SocketAddr) (clock : Clock) (message : 32 ≤ n)
    (encapped : obfsEncap rt.order sendBuf n rt.keyInit Runtime.rounds sendingServer sport dport .gut sipDomain nowNs =
      .ok (out, some (len, dcid))) :
    (∃ shared' outBuf', ingress rt shared (out.take len ++ rest) outBuf len src clock =
        .ok (shared', outBuf', [.toWireGuard (sendBuf.take n) dest])) ↔
      shared.wgPeer = some dest ∧ Unmistakable rt.channel (sendBuf.take n) sport dport := by
  obtain ⟨rfl, datagram, carries⟩ := obfsEncap_gut rt.channel message encapped
  rw [datagram, client_forwards_iff client mode _ _ _ _ _ _ _ _ (by simp), Unmistakable,
    detected_carries_iff outBuf rest carries (length_encapPad_gut rt.channel (sendBuf.take n))]

def keepalive (tag0 tag1 : UInt8) : Buf :=
  [4, 0, 0, 0] ++ List.replicate 12 0 ++ [tag0, tag1] ++ List.replicate 14 0

def connectedClient : Shared := { Shared.empty with wgPeer := some (localhost 51820) }

theorem gut_delivery_keepalive :
    ∃ out len dcid shared' outBuf',
      obfsEncap .little (keepalive 0 0 ++ List.replicate 1264 0) 32 (chachaInit (Vector.replicate 32 7)) 4 true 51820
          51820 .gut [] 0 = .ok (out, some (len, dcid)) ∧
        ingress (sampleRuntime false .gut) connectedClient (out.take len) [] len (localhost 443) ⟨0, 0⟩ =
          .ok (shared', outBuf', [.toWireGuard (keepalive 0 0) (localhost 51820)]) := by
  obtain ⟨out, len, dcid, encapped⟩ := obfsEncap_total (sampleRuntime false .gut).channel
    (keepalive 0 0 ++ List.replicate 1264 0) 32 true 51820 51820 .gut [] 0 (by decide)
    (Nat.le_of_eq (by rw [List.length_append, List.length_replicate]; rfl))
  obtain ⟨shared', outBuf', delivered⟩ := (gut_delivery (sampleRuntime false .gut) rfl rfl connectedClient _ out [] [] 32
    len dcid true 51820 51820 [] 0 (localhost 443) (localhost 51820) ⟨0, 0⟩ (by decide) encapped).mpr
    ⟨rfl, by decide +kernel⟩
  rw [List.append_nil] at delivered
  exact ⟨out, len, dcid, shared', outBuf', encapped, delivered⟩

-- the first two bytes of this datagram look like a dynamic RTP payload type, so twelve bytes are cut off
theorem gut_delivery_lost :
    ∃ p tail dcid,
      obfsEncap .little (keepalive 0x2B 0x01 ++ List.replicate 1264 0) 32 (chachaInit (Vector.replicate 32 7)) 4 true
          51820 51820 .gut [] 0 = .ok (p ++ tail, some (p.length, dcid)) ∧
        Sip.checkRtpHeader p = true ∧
        (ingress (sampleRuntime false .gut) connectedClient p [] p.length (localhost 443) ⟨0, 0⟩).map (·.2.2) = .ok [] := by
  obtain ⟨out, len, dcid, encapped⟩ := obfsEncap_total (sampleRuntime false .gut).channel
    (keepalive 0x2B 0x01 ++ List.replicate 1264 0) 32 true 51820 51820 .gut [] 0 (by decide)
    (Nat.le_of_eq (by rw [List.length_append, List.length_replicate]; rfl))
  obtain ⟨rfl, datagram, -⟩ := obfsEncap_gut (sampleRuntime false .gut).channel (by decide) encapped
  rw [← List.take_append_drop (gutDatagram _ _ _ _).length out, datagram] at encapped
  exact ⟨_, _, _, encapped, by decide +kernel, by decide +kernel⟩

end Gutd.Userspace
