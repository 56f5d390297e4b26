import Gutd.Userspace.Ingress
import Gutd.Userspace.RoundTrip

set_option autoImplicit false

namespace Gutd.Userspace

open Bytes Checked Wire Net

theorem detectEnvelope_plain {buf outBuf : Buf} {size : Nat} (inside : size ≤ buf.length)
    (syslog : Syslog.checkHeader (buf.take size) = none) (sip : Sip.checkHeader (buf.take size) = none)
    (rtp : Sip.checkRtpHeader (buf.take size) = false) :
    detectEnvelope buf outBuf size = .ok (.datagram buf size none false .response401, outBuf) := by
  unfold detectEnvelope
  rw [subslice_ok (by omega) inside, bind_ok, slice_zero]
  simp only [syslog, sip, rtp]
  rfl

theorem classify_authentic {rt : Runtime} {buf outBuf slot outBuf' : Buf} {size len : Nat} (src : SocketAddr)
    (clock : Clock) {prepend : Option ObfsMode} {wasRtp : Bool} {kind : Sip.SipKind} {obfs : ObfsMode}
    (detected : detectEnvelope buf outBuf size = .ok (.datagram slot len prepend wasRtp kind, outBuf'))
    (verified : authenticate rt slot len prepend = .ok (some obfs)) :
    classify rt buf outBuf size src clock = .ok (.authentic slot len obfs, outBuf') := by
  unfold classify
  rw [detected, bind_ok]
  simp only [verified, bind_ok]
  rfl

theorem wgDest_recordObfs (rt : Runtime) (obfs : ObfsMode) (src : SocketAddr) (shared : Shared) :
    wgDest rt (recordObfs rt obfs src shared) = wgDest rt shared := by
  unfold recordObfs
  split_ifs <;> rfl

theorem wgDest_learn (rt : Runtime) (payload : Buf) (src : SocketAddr) (shared : Shared) :
    wgDest rt (learn rt payload src shared) = wgDest rt shared := by
  unfold learn
  split_ifs with dynamic
  · cases boundIndex shared.sessionMap payload <;> rfl
  · rfl

def learned (rt : Runtime) (shared : Shared) (obfs : ObfsMode) (payload : Buf) (src : SocketAddr) : Shared :=
  learn rt payload src { recordObfs rt obfs src shared with peerExt := some src }

theorem forward_learned (rt : Runtime) (shared : Shared) (obfs : ObfsMode) (payload : Buf) (src : SocketAddr) :
    forward rt (learned rt shared obfs payload src) payload = forward rt shared payload := by
  have dest : wgDest rt (learned rt shared obfs payload src) = wgDest rt shared := by
    rw [learned, wgDest_learn]
    exact wgDest_recordObfs rt obfs src shared
  rw [forward, dest, forward]

theorem forward_eq (rt : Runtime) (shared : Shared) (payload : Buf) :
    forward rt shared payload = (wgDest rt shared).toList.map (Sent.toWireGuard payload) := by
  unfold forward
  cases wgDest rt shared <;> rfl

theorem ingress_decapped {rt : Runtime} (shared : Shared) {buf outBuf slot outBuf' plain : Buf} {size len n : Nat}
    {src : SocketAddr} {clock : Clock} {obfs : ObfsMode} {sport dport : UInt16}
    (classified : classify rt buf outBuf size src clock = .ok (.authentic slot len obfs, outBuf'))
    (decapped : obfsDecap rt.order slot len rt.keyInit Runtime.rounds obfs = .ok (plain, some (n, sport, dport)))
    (inside : n ≤ plain.length) :
    ingress rt shared buf outBuf size src clock =
      .ok (learned rt shared obfs (plain.take n) src, outBuf', forward rt shared (plain.take n)) := by
  unfold ingress
  rw [classified, bind_ok]
  simp only [decapped, bind_ok]
  rw [subslice_ok (by omega) inside, bind_ok, slice_zero, ← forward_learned rt shared obfs]
  rfl

theorem classify_authentic_inv {rt : Runtime} {buf outBuf slot outBuf' : Buf} {size len : Nat} {src : SocketAddr}
    {clock : Clock} {obfs : ObfsMode}
    (classified : classify rt buf outBuf size src clock = .ok (.authentic slot len obfs, outBuf')) :
    ∃ prepend wasRtp kind, detectEnvelope buf outBuf size = .ok (.datagram slot len prepend wasRtp kind, outBuf') ∧
      authenticate rt slot len prepend = .ok (some obfs) := by
  obtain ⟨⟨envelope, out⟩, detected, classified⟩ := bind_eq_ok.mp classified
  cases envelope with
  | invalid => cases classified
  | sipProbe kind =>
      simp only at classified
      split_ifs at classified
      · obtain ⟨reply, -, probe⟩ := bind_eq_ok.mp classified
        cases probe
      · cases classified
  | datagram slot' len' prepend wasRtp kind =>
      obtain ⟨mode, verified, classified⟩ := bind_eq_ok.mp classified
      cases mode with
      | some obfs' =>
          cases classified
          exact ⟨prepend, wasRtp, kind, detected, verified⟩
      | none =>
          obtain ⟨reply, -, classified⟩ := bind_eq_ok.mp classified
          cases reply <;> cases classified

theorem ingress_forwarded_inv {rt : Runtime} {shared shared' : Shared} {buf outBuf outBuf' w : Buf} {size : Nat}
    {src dest : SocketAddr} {clock : Clock}
    (forwarded : ingress rt shared buf outBuf size src clock = .ok (shared', outBuf', [.toWireGuard w dest])) :
    wgDest rt shared = some dest ∧
      ∃ slot len obfs plain n sport dport,
        classify rt buf outBuf size src clock = .ok (.authentic slot len obfs, outBuf') ∧
          obfsDecap rt.order slot len rt.keyInit Runtime.rounds obfs = .ok (plain, some (n, sport, dport)) ∧
          w = plain.take n := by
  obtain ⟨⟨verdict, out⟩, classified, done⟩ := bind_eq_ok.mp forwarded
  cases verdict with
  | ignored => cases done
  | probe reply => cases done
  | authentic slot len obfs =>
      obtain ⟨⟨plain, decapped⟩, got, done⟩ := bind_eq_ok.mp done
      cases decapped with
      | none => cases done
      | some result =>
          obtain ⟨n, sport, dport⟩ := result
          obtain ⟨payload, taken, done⟩ := bind_eq_ok.mp done
          obtain ⟨-, -, rfl⟩ := subslice_inside taken
          rw [slice_zero, pure_eq_ok] at done
          change Except.ok (learned rt shared obfs (plain.take n) src, out,
            forward rt (learned rt shared obfs (plain.take n) src) (plain.take n)) = _ at done
          rw [forward_learned, forward_eq] at done
          cases known : wgDest rt shared with
          | none =>
              rw [known] at done
              cases done
          | some address =>
              rw [known] at done
              cases done
              exact ⟨rfl, slot, len, obfs, plain, n, sport, dport, classified, got, rfl⟩

section Carried

variable {rt : Runtime} {form : Form} {w pad p : Buf} {sport dport : UInt16} {obfs : ObfsMode}

theorem ingress_carried (shared : Shared) {buf outBuf outBuf' rest : Buf} {size : Nat} {src : SocketAddr} {clock : Clock}
    (carries : Carries rt.channel form w pad sport dport p) (mode : form = .gut ↔ obfs ≠ .quic)
    (classified : classify rt buf outBuf size src clock = .ok (.authentic (p ++ rest) p.length obfs, outBuf')) :
    ingress rt shared buf outBuf size src clock =
      .ok (learned rt shared obfs w src, outBuf', forward rt shared w) := by
  have length := carries.length
  have decapped := obfsDecap_carried carries rest mode
  have delivered := ingress_decapped shared classified decapped (by simp; omega)
  rw [overwrite_zero _ _ (by simp; omega), List.take_left' rfl] at delivered
  exact delivered

theorem not_enveloped {buf : Buf} (first : byteAt buf 0 = 0x40 ∨ byteAt buf 0 &&& 0xC0 = 0xC0) :
    Syslog.checkHeader buf = none ∧ Sip.checkHeader buf = none ∧ Sip.checkRtpHeader buf = false := by
  have noText : ∀ b : UInt8, b = 0x40 ∨ b &&& 0xC0 = 0xC0 →
      b ≠ 0x3C ∧ b ∉ ([0x49, 0x52, 0x4D, 0x4F, 0x53] : Buf) ∧ b &&& 0xC0 ≠ 0x80 :=
    forall_byte (by decide)
  obtain ⟨angle, letter, version⟩ := noText _ first
  refine ⟨?_, ?_, ?_⟩
  · cases found : Syslog.checkHeader buf with
    | none => rfl
    | some hdrLen => exact absurd (Syslog.checkHeader_first found) angle
  · cases found : Sip.checkHeader buf with
    | none => rfl
    | some hdrLen => exact absurd (Sip.checkHeader_first found) letter
  · cases found : Sip.checkRtpHeader buf with
    | false => rfl
    | true => exact absurd (Sip.checkRtpHeader_iff.mp found).2.1 version

theorem quic_first (carries : Carries rt.channel form w pad sport dport p) (quic : form ≠ .gut) :
    byteAt p 0 = 0x40 ∨ byteAt p 0 &&& 0xC0 = 0xC0 := by
  have fields := carries.header.fields
  cases form with
  | gut => exact absurd rfl quic
  | quicShort => exact .inl fields.1
  | quicLong => exact .inr fields.1

theorem authenticate_quic (carries : Carries rt.channel form w pad sport dport p) (quic : form ≠ .gut)
    (receiver : rt.isServer = true ∨ rt.obfs = .quic) (rest : Buf) (prepend : Option ObfsMode) :
    authenticate rt (p ++ rest) p.length prepend = .ok (some .quic) := by
  have length := carries.length
  have six : 10 ≤ form.headerLen := by cases form <;> decide
  have looks : looksQuic (byteAt (p ++ rest) 0) = true := by
    have all : ∀ b : UInt8, b = 0x40 ∨ b &&& 0xC0 = 0xC0 → looksQuic b = true := forall_byte (by decide)
    rw [byteAt_append_left _ _ _ (by omega)]
    exact all _ (quic_first carries quic)
  have verified : obfsVerify (p ++ rest) p.length rt.keyInit Runtime.rounds .quic = .ok true :=
    obfsVerify_carried carries rest (by simp [quic])
  unfold authenticate
  by_cases server : rt.isServer = true
  · rw [if_pos server, subslice_ok (by omega) (by simp; omega), bind_ok, getByte_ok (by simp; omega), bind_ok, looks,
      verifyIf, if_pos rfl, verified, bind_ok]
    rfl
  · have mode := receiver.resolve_left server
    rw [if_neg server, if_neg (by simp [mode]), getByte_ok (by simp; omega), bind_ok, looks, verifyIf, if_pos rfl,
      verified, bind_ok]
    rfl

theorem quic_ingress (carries : Carries rt.channel form w pad sport dport p) (quic : form ≠ .gut)
    (receiver : rt.isServer = true ∨ rt.obfs = .quic) (shared : Shared) (outBuf rest : Buf) (src : SocketAddr)
    (clock : Clock) :
    classify rt (p ++ rest) outBuf p.length src clock = .ok (.authentic (p ++ rest) p.length .quic, outBuf) ∧
      ingress rt shared (p ++ rest) outBuf p.length src clock =
        .ok (learned rt shared .quic w src, outBuf, forward rt shared w) := by
  obtain ⟨syslog, sip, rtp⟩ := not_enveloped (quic_first carries quic)
  have front : (p ++ rest).take p.length = p := List.take_left' rfl
  have detected : detectEnvelope (p ++ rest) outBuf p.length =
      .ok (.datagram (p ++ rest) p.length none false .response401, outBuf) :=
    detectEnvelope_plain (by simp) (by rw [front, syslog]) (by rw [front, sip]) (by rw [front, rtp])
  have verified := authenticate_quic carries quic receiver rest none
  have classified := classify_authentic src clock detected verified
  exact ⟨classified, ingress_carried shared carries (by simp [quic]) classified⟩

end Carried

theorem encapForm_quic (wgType : UInt8) (isServer : Bool) : encapForm .quic wgType isServer ≠ .gut := by
  simp [encapForm_gut]

theorem quic_delivery (rt : Runtime) (shared : Shared) (sendBuf out outBuf rest : Buf) (n len : Nat) (dcid : UInt32)
    (sendingServer : Bool) (sport dport : UInt16) (sipDomain : Buf) (nowNs : Nat) (src : SocketAddr) (clock : Clock)
    (message : 32 ≤ n)
    (encapped : obfsEncap rt.order sendBuf n rt.keyInit Runtime.rounds sendingServer sport dport .quic sipDomain nowNs =
      .ok (out, some (len, dcid)))
    (receiver : rt.isServer = true ∨ rt.obfs = .quic) :
    Syslog.checkHeader (out.take len) = none ∧ Sip.checkHeader (out.take len) = none ∧
      Sip.checkRtpHeader (out.take len) = false ∧
      classify rt (out.take len ++ rest) outBuf len src clock = .ok (.authentic (out.take len ++ rest) len .quic, outBuf) ∧
      ∃ shared', ingress rt shared (out.take len ++ rest) outBuf len src clock =
        .ok (shared', outBuf, (wgDest rt shared).toList.map (Sent.toWireGuard (sendBuf.take n))) := by
  obtain ⟨p, rfl, rfl, carries⟩ := carries_of_obfsEncap rt.channel message encapped
  have quic := encapForm_quic (typeOf (sendBuf.take n)) sendingServer
  obtain ⟨syslog, sip, rtp⟩ := not_enveloped (quic_first carries quic)
  obtain ⟨classified, delivered⟩ := quic_ingress carries quic receiver shared outBuf rest src clock
  rw [List.take_left' rfl]
  rw [forward_eq] at delivered
  exact ⟨syslog, sip, rtp, classified, _, delivered⟩

def localhost (port : UInt16) : SocketAddr := { ip := .v4 #v[127, 0, 0, 1], port }

def sampleRuntime (isServer : Bool) (obfs : ObfsMode) : Runtime :=
  { order := .little, key := Vector.replicate 32 7, isServer, obfs, wgAddr := localhost 51820, dynamicPeer := isServer,
    remotePeerAddr := none, bindIp := .v4 #v[0, 0, 0, 0], ports := [41000], peerPorts := [41000], sipDomain := [] }

theorem quic_delivery_initiation :
    ∃ out len dcid shared',
      obfsEncap .little ((1 : UInt8) :: List.replicate 1411 0) 148 (chachaInit (Vector.replicate 32 7)) 4 false 51820 41000
          .quic [] 0 = .ok (out, some (len, dcid)) ∧
        ingress (sampleRuntime true .sip) Shared.empty (out.take len) [] len (localhost 443) ⟨0, 0⟩ =
          .ok (shared', [],
            [.toWireGuard (((1 : UInt8) :: List.replicate 1411 0).take 148) (localhost 51820)]) := by
  obtain ⟨out, len, dcid, encapped⟩ := obfsEncap_total (sampleRuntime true .sip).channel
    ((1 : UInt8) :: List.replicate 1411 0) 148 false 51820 41000 .quic [] 0 (by decide)
    (Nat.le_of_eq (by rw [List.length_cons, List.length_replicate]))
  obtain ⟨-, -, -, -, shared', delivered⟩ := quic_delivery (sampleRuntime true .sip) Shared.empty _ out [] [] 148 len dcid
    false 51820 41000 [] 0 (localhost 443) ⟨0, 0⟩ (by decide) encapped (by decide)
  rw [List.append_nil] at delivered
  exact ⟨out, len, dcid, shared', encapped, delivered⟩

-- a client whose WireGuard has not sent anything yet drops the payload
theorem quic_delivery_unlearned :
    ∃ p tail dcid shared',
      obfsEncap .little (List.replicate 1296 0) 32 (chachaInit (Vector.replicate 32 7)) 4 true 51820 41000 .quic [] 0 =
          .ok (p ++ tail, some (p.length, dcid)) ∧
        ingress (sampleRuntime false .quic) Shared.empty p [] p.length (localhost 443) ⟨0, 0⟩ = .ok (shared', [], []) := by
  obtain ⟨out, len, dcid, encapped⟩ := obfsEncap_total (sampleRuntime false .quic).channel (List.replicate 1296 0) 32
    true 51820 41000 .quic [] 0 (by decide) (Nat.le_of_eq (by rw [List.length_replicate]))
  obtain ⟨p, rfl, rfl, carries⟩ := carries_of_obfsEncap (sampleRuntime false .quic).channel (by decide) encapped
  have delivered := (quic_ingress carries (encapForm_quic _ _) (by decide) Shared.empty [] [] (localhost 443) ⟨0, 0⟩).2
  rw [List.append_nil] at delivered
  exact ⟨p, _, _, _, encapped, delivered⟩

end Gutd.Userspace
