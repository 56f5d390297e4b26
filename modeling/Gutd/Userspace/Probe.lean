import Gutd.Userspace.Delivery

set_option autoImplicit false

namespace Gutd.Userspace

open Bytes Checked Wire Net

def Answers (rt : Runtime) (shared : Shared) (buf outBuf : Buf) (size : Nat) (src : SocketAddr) (clock : Clock)
    (reply : Buf) : Prop :=
  ∃ shared' outBuf', ingress rt shared buf outBuf size src clock = .ok (shared', outBuf', [.probeReply reply src])

def LooksSip (d : Buf) : Prop := Syslog.checkHeader d = none ∧ (Sip.checkHeader d).isSome

instance (d : Buf) : Decidable (LooksSip d) := by
  unfold LooksSip
  infer_instance

theorem forward_ne_probeReply (rt : Runtime) (shared : Shared) (payload reply : Buf) (dest : SocketAddr) :
    forward rt shared payload ≠ [.probeReply reply dest] := by
  rw [forward_eq]
  cases wgDest rt shared <;> simp

theorem answers_iff {rt : Runtime} {shared : Shared} {buf outBuf reply : Buf} {size : Nat} {src : SocketAddr}
    {clock : Clock} :
    Answers rt shared buf outBuf size src clock reply ↔
      ∃ outBuf', classify rt buf outBuf size src clock = .ok (.probe reply, outBuf') := by
  constructor
  · rintro ⟨shared', outBuf', sent⟩
    obtain ⟨⟨verdict, out⟩, classified, done⟩ := bind_eq_ok.mp sent
    cases verdict with
    | ignored => cases done
    | probe reply' =>
        cases done
        exact ⟨_, classified⟩
    | authentic slot len obfs =>
        obtain ⟨⟨plain, decapped⟩, -, done⟩ := bind_eq_ok.mp done
        cases decapped with
        | none => cases done
        | some result =>
            obtain ⟨payload, -, done⟩ := bind_eq_ok.mp done
            simp only [pure_eq_ok, Except.ok.injEq, Prod.mk.injEq] at done
            exact absurd done.2.2 (forward_ne_probeReply _ _ _ _ _)
  · rintro ⟨outBuf', classified⟩
    refine ⟨shared, outBuf', ?_⟩
    unfold ingress
    rw [classified, bind_ok]
    rfl

theorem classify_probe_inv {rt : Runtime} {buf outBuf reply outBuf' : Buf} {size : Nat} {src : SocketAddr}
    {clock : Clock} (classified : classify rt buf outBuf size src clock = .ok (.probe reply, outBuf')) :
    (∃ kind, detectEnvelope buf outBuf size = .ok (.sipProbe kind, outBuf') ∧
        sipReply rt kind 5060 src clock = .ok reply) ∨
      ∃ slot len prepend wasRtp kind,
        detectEnvelope buf outBuf size = .ok (.datagram slot len prepend wasRtp kind, outBuf') ∧
          unauthenticatedReply rt slot len prepend wasRtp kind src clock = .ok (some reply) := by
  obtain ⟨⟨envelope, out⟩, detected, classified⟩ := bind_eq_ok.mp classified
  cases envelope with
  | invalid => cases classified
  | sipProbe kind =>
      simp only at classified
      split_ifs at classified
      · obtain ⟨text, written, probe⟩ := bind_eq_ok.mp classified
        cases probe
        exact .inl ⟨kind, detected, written⟩
      · cases classified
  | datagram slot len prepend wasRtp kind =>
      obtain ⟨mode, -, classified⟩ := bind_eq_ok.mp classified
      cases mode with
      | some obfs => cases classified
      | none =>
          obtain ⟨answer, written, classified⟩ := bind_eq_ok.mp classified
          cases answer with
          | none => cases classified
          | some text =>
              cases classified
              exact .inr ⟨slot, len, prepend, wasRtp, kind, detected, written⟩

theorem sipProbeKind_response (head : Buf) : Sip.isResponse (sipProbeKind head) = true := by
  unfold sipProbeKind
  split_ifs <;> rfl

theorem detectEnvelope_sip {buf outBuf outBuf' : Buf} {size : Nat} {envelope : Envelope} (inside : size ≤ buf.length)
    (detected : detectEnvelope buf outBuf size = .ok (envelope, outBuf')) (sip : LooksSip (buf.take size)) :
    envelope = .sipProbe (sipProbeKind (buf.take size)) ∨
      ∃ slot len, envelope = .datagram slot len (some .sip) false (sipProbeKind (buf.take size)) := by
  obtain ⟨syslog, found⟩ := sip
  obtain ⟨hdrLen, found⟩ := Option.isSome_iff_exists.mp found
  unfold detectEnvelope at detected
  rw [subslice_ok (by omega) inside, bind_ok, slice_zero] at detected
  simp only [syslog, found] at detected
  obtain ⟨payload, -, detected⟩ := bind_eq_ok.mp detected
  obtain ⟨⟨decoded, out⟩, -, detected⟩ := bind_eq_ok.mp detected
  cases decoded with
  | none =>
      cases detected
      exact .inl rfl
  | some decodedLen =>
      simp only at detected
      split_ifs at detected
      · obtain ⟨slot, -, detected⟩ := bind_eq_ok.mp detected
        cases detected
        exact .inr ⟨_, _, rfl⟩
      · cases detected
        exact .inl rfl

theorem detectEnvelope_notSip {buf outBuf outBuf' : Buf} {size : Nat} {envelope : Envelope} (inside : size ≤ buf.length)
    (detected : detectEnvelope buf outBuf size = .ok (envelope, outBuf')) (other : ¬ LooksSip (buf.take size)) :
    envelope = .invalid ∨
      ∃ slot len prepend wasRtp kind, envelope = .datagram slot len prepend wasRtp kind ∧
        ¬ (prepend = some .sip ∧ wasRtp = false) := by
  unfold detectEnvelope at detected
  rw [subslice_ok (by omega) inside, bind_ok, slice_zero] at detected
  cases syslog : Syslog.checkHeader (buf.take size) with
  | some hdrLen =>
      simp only [syslog] at detected
      obtain ⟨payload, -, detected⟩ := bind_eq_ok.mp detected
      obtain ⟨⟨decoded, out⟩, -, detected⟩ := bind_eq_ok.mp detected
      cases decoded with
      | none =>
          cases detected
          exact .inl rfl
      | some decodedLen =>
          obtain ⟨slot, -, detected⟩ := bind_eq_ok.mp detected
          cases detected
          exact .inr ⟨_, _, _, _, _, rfl, by simp⟩
  | none =>
      cases sip : Sip.checkHeader (buf.take size) with
      | some hdrLen => exact absurd ⟨syslog, by simp [sip]⟩ other
      | none =>
          simp only [syslog, sip] at detected
          split_ifs at detected
          · obtain ⟨slot, -, detected⟩ := bind_eq_ok.mp detected
            cases detected
            exact .inr ⟨_, _, _, _, _, rfl, by simp⟩
          · cases detected
            exact .inr ⟨_, _, _, _, _, rfl, by simp⟩

theorem sipReply_response {rt : Runtime} {kind : Sip.SipKind} {sport : UInt16} {src : SocketAddr} {clock : Clock}
    {text : Buf} (response : Sip.isResponse kind = true) (written : sipReply rt kind sport src clock = .ok text) :
    Sip.EmptyResponse text := by
  obtain ⟨date, -, written⟩ := bind_eq_ok.mp written
  unfold Sip.writeHeader at written
  split_ifs at written
  · cases written
    exact Sip.headerText_response response rfl

theorem length_sipReply {rt : Runtime} {kind : Sip.SipKind} {sport : UInt16} {src : SocketAddr} {clock : Clock}
    {text : Buf} (written : sipReply rt kind sport src clock = .ok text) : text.length ≤ 1024 := by
  obtain ⟨date, -, written⟩ := bind_eq_ok.mp written
  unfold Sip.writeHeader at written
  split_ifs at written with fits
  · cases written
    exact fits

structure VersionNegotiation (r : Buf) : Prop where
  long : 14 ≤ r.length
  first : byteAt r 0 &&& 0xC0 = 0xC0
  version : be32At r 1 = 0

theorem versionNegotiationPacket_reads (dcid scid : Buf) : VersionNegotiation (versionNegotiationPacket dcid scid) := by
  have high : ∀ b : UInt8, ((0x80 : UInt8) ||| 0x40 ||| b) &&& 0xC0 = 0xC0 := forall_byte (by decide)
  refine ⟨?_, high _, rfl⟩
  simp [versionNegotiationPacket, supportedVersions]
  omega

theorem generateQuicVersionNegotiation_reply {buf r : Buf} {size : Nat}
    (generated : generateQuicVersionNegotiation buf size = .ok (some r)) : VersionNegotiation r := by
  unfold generateQuicVersionNegotiation at generated
  split_ifs at generated
  · cases generated
  obtain ⟨fb, -, generated⟩ := bind_eq_ok.mp generated
  split_ifs at generated
  · cases generated
  obtain ⟨version, -, generated⟩ := bind_eq_ok.mp generated
  split_ifs at generated
  · cases generated
  obtain ⟨dcidLen, -, generated⟩ := bind_eq_ok.mp generated
  dsimp only at generated
  split_ifs at generated
  · cases generated
  obtain ⟨dcid, -, generated⟩ := bind_eq_ok.mp generated
  obtain ⟨scidLen, -, generated⟩ := bind_eq_ok.mp generated
  split_ifs at generated
  · cases generated
  obtain ⟨scid, -, generated⟩ := bind_eq_ok.mp generated
  split_ifs at generated
  · cases generated
  · cases generated
    exact versionNegotiationPacket_reads dcid scid

theorem unauthenticatedReply_sip {rt : Runtime} {slot r : Buf} {len : Nat} {kind : Sip.SipKind} {src : SocketAddr}
    {clock : Clock} (response : Sip.isResponse kind = true)
    (written : unauthenticatedReply rt slot len (some .sip) false kind src clock = .ok (some r)) :
    Sip.EmptyResponse r := by
  unfold unauthenticatedReply at written
  split_ifs at written with client sip
  · cases written
  · obtain ⟨text, done, answer⟩ := bind_eq_ok.mp written
    cases answer
    exact sipReply_response response done
  · exact absurd ⟨rfl, rfl⟩ sip
  · cases written

theorem unauthenticatedReply_quic {rt : Runtime} {slot r : Buf} {len : Nat} {prepend : Option ObfsMode} {wasRtp : Bool}
    {kind : Sip.SipKind} {src : SocketAddr} {clock : Clock} (other : ¬ (prepend = some .sip ∧ wasRtp = false))
    (written : unauthenticatedReply rt slot len prepend wasRtp kind src clock = .ok (some r)) :
    generateQuicVersionNegotiation slot len = .ok (some r) := by
  unfold unauthenticatedReply at written
  rw [if_neg other] at written
  split_ifs at written with client quic
  · cases written
  · exact written
  · cases written

theorem probe_reply {rt : Runtime} {buf outBuf outBuf' r : Buf} {size : Nat} {src : SocketAddr} {clock : Clock}
    (inside : size ≤ buf.length) (classified : classify rt buf outBuf size src clock = .ok (.probe r, outBuf')) :
    LooksSip (buf.take size) ∧ Sip.EmptyResponse r ∨ ¬ LooksSip (buf.take size) ∧ VersionNegotiation r := by
  by_cases sip : LooksSip (buf.take size)
  · refine .inl ⟨sip, ?_⟩
    rcases classify_probe_inv classified with ⟨kind, detected, written⟩ | ⟨slot, len, prepend, wasRtp, kind, detected, written⟩
    · rcases detectEnvelope_sip inside detected sip with probe | ⟨slot, len, datagram⟩
      · cases probe
        exact sipReply_response (sipProbeKind_response _) written
      · cases datagram
    · rcases detectEnvelope_sip inside detected sip with probe | ⟨slot', len', datagram⟩
      · cases probe
      · cases datagram
        exact unauthenticatedReply_sip (sipProbeKind_response _) written
  · refine .inr ⟨sip, ?_⟩
    rcases classify_probe_inv classified with ⟨kind, detected, written⟩ | ⟨slot, len, prepend, wasRtp, kind, detected, written⟩
    · obtain invalid | ⟨slot, len, prepend, wasRtp, kind, datagram, -⟩ := detectEnvelope_notSip inside detected sip
      · cases invalid
      · cases datagram
    · obtain invalid | ⟨slot', len', prepend', wasRtp', kind', datagram, other⟩ := detectEnvelope_notSip inside detected sip
      · cases invalid
      · cases datagram
        exact generateQuicVersionNegotiation_reply (unauthenticatedReply_quic other written)

theorem classify_sipProbe {rt : Runtime} {buf outBuf outBuf' text : Buf} {size : Nat} {src : SocketAddr} {clock : Clock}
    {kind : Sip.SipKind} (server : rt.isServer = true)
    (detected : detectEnvelope buf outBuf size = .ok (.sipProbe kind, outBuf'))
    (written : sipReply rt kind 5060 src clock = .ok text) :
    classify rt buf outBuf size src clock = .ok (.probe text, outBuf') := by
  unfold classify
  rw [detected, bind_ok]
  simp only [server, if_true, written, bind_ok]
  rfl

theorem decode_responseBody {r outBuf : Buf} {hdrLen : Nat} (response : Sip.EmptyResponse r) (inside : hdrLen ≤ r.length)
    (room : r.length ≤ outBuf.length) :
    ∃ found outBuf', Base64.decode (slice r hdrLen r.length) outBuf = .ok (found, outBuf') ∧
      (found = none ∨ found = some 0) := by
  have long := response.long
  have width : (slice r hdrLen r.length).length = r.length - hdrLen := by simp
  by_cases empty : hdrLen = r.length
  · have nothing : slice r hdrLen r.length = [] := List.eq_nil_of_length_eq_zero (by omega)
    exact ⟨some 0, outBuf, by rw [nothing]; rfl, .inr rfl⟩
  · -- the body still ends with the line feed of the response
    have feed : (0x0A : UInt8) ∈ slice r hdrLen r.length := by
      have index : r.length - hdrLen - 1 < (slice r hdrLen r.length).length := by omega
      have last : byteAt (slice r hdrLen r.length) (r.length - hdrLen - 1) = 0x0A := by
        rw [byteAt_slice, if_pos (by omega), show hdrLen + (r.length - hdrLen - 1) = r.length - 1 by omega, response.last]
      rw [byteAt_eq_getElem _ _ index] at last
      exact last ▸ List.getElem_mem index
    obtain ⟨outBuf', decoded⟩ := Base64.decode_invalid feed (by decide) (show _ ≤ outBuf.length by omega)
    exact ⟨none, outBuf', decoded, .inl rfl⟩

theorem classify_emptyResponse {rt : Runtime} {r outBuf text : Buf} (rest : Buf) {src : SocketAddr} {clock : Clock}
    (server : rt.isServer = true) (response : Sip.EmptyResponse r) (room : r.length ≤ outBuf.length)
    (written : sipReply rt .response403 5060 src clock = .ok text) :
    ∃ outBuf', classify rt (r ++ rest) outBuf r.length src clock = .ok (.probe text, outBuf') := by
  have front : (r ++ rest).take r.length = r := List.take_left' rfl
  have long := response.long
  have letter : byteAt r 0 = 0x53 := Sip.byteAt_of_isPrefixOf response.tagged 0 (by decide)
  have syslog : Syslog.checkHeader r = none := by
    cases found : Syslog.checkHeader r with
    | none => rfl
    | some hdrLen =>
        have angle := Syslog.checkHeader_first found
        rw [letter] at angle
        exact absurd angle (by decide)
  have noRequest (method : Buf) (some : 0 < method.length) (other : (0x53 : UInt8) ≠ byteAt method 0) :
      ¬ method.isPrefixOf r = true := by
    intro found
    rw [← letter] at other
    exact other (Sip.byteAt_of_isPrefixOf found 0 some)
  have kind : sipProbeKind r = .response403 := by
    rw [sipProbeKind, if_neg (noRequest _ (by decide) (by decide)), if_neg (noRequest _ (by decide) (by decide))]
  obtain ⟨hdrLen, sip⟩ := response.checkHeader
  have inside := (Sip.checkHeader_bounds sip).2
  have body : slice (r ++ rest) hdrLen r.length = slice r hdrLen r.length := by
    rw [slice, slice, List.drop_append_of_le_length inside, List.take_append_of_le_length (by simp)]
  obtain ⟨found, outBuf', decoded, undecoded⟩ := decode_responseBody response inside room
  refine ⟨outBuf', ?_⟩
  have detected : detectEnvelope (r ++ rest) outBuf r.length = .ok (.sipProbe .response403, outBuf') := by
    unfold detectEnvelope
    rw [subslice_ok (by omega) (by simp), bind_ok, slice_zero, front]
    simp only [syslog, sip, kind]
    rw [subslice_ok inside (by simp), bind_ok, body, decoded, bind_ok]
    rcases undecoded with rfl | rfl <;> rfl
  exact classify_sipProbe server detected written

theorem generateQuicVersionNegotiation_zero {r : Buf} (rest : Buf) (packet : VersionNegotiation r) :
    generateQuicVersionNegotiation (r ++ rest) r.length = .ok none := by
  have long := packet.long
  have version : be32At (r ++ rest) 1 = 0 := by
    rw [← packet.version, be32At, be32At, byteAt_append_left _ _ _ (by omega), byteAt_append_left _ _ _ (by omega),
      byteAt_append_left _ _ _ (by omega), byteAt_append_left _ _ _ (by omega)]
  unfold generateQuicVersionNegotiation
  rw [if_neg (by omega), getByte_ok (by simp; omega), bind_ok]
  split_ifs with short
  · rfl
  · rw [readBe32_ok (by simp; omega), bind_ok, version, if_pos (.inl rfl)]
    rfl

theorem classify_versionNegotiation {rt : Runtime} {r outBuf outBuf' rest reply : Buf} {src : SocketAddr} {clock : Clock}
    (packet : VersionNegotiation r) :
    classify rt (r ++ rest) outBuf r.length src clock ≠ .ok (.probe reply, outBuf') := by
  intro classified
  have front : (r ++ rest).take r.length = r := List.take_left' rfl
  obtain ⟨syslog, sip, rtp⟩ := not_enveloped (.inr packet.first)
  have plain : detectEnvelope (r ++ rest) outBuf r.length =
      .ok (.datagram (r ++ rest) r.length none false .response401, outBuf) :=
    detectEnvelope_plain (by simp) (by rw [front, syslog]) (by rw [front, sip]) (by rw [front, rtp])
  rcases classify_probe_inv classified with ⟨kind, detected, -⟩ | ⟨slot, len, prepend, wasRtp, kind, detected, written⟩
  · rw [plain] at detected
    cases detected
  · rw [plain] at detected
    cases detected
    have generated := unauthenticatedReply_quic (by simp) written
    rw [generateQuicVersionNegotiation_zero rest packet] at generated
    cases generated

theorem reply_answered_iff (first second : Runtime) (server : second.isServer = true) (shared shared' : Shared)
    (d rest r rest' outBuf outBuf' : Buf) (src src' : SocketAddr) (clock clock' : Clock)
    (answered : Answers first shared (d ++ rest) outBuf d.length src clock r)
    (writer : ∃ text, sipReply second .response403 5060 src' clock' = .ok text) (room : r.length ≤ outBuf'.length) :
    (∀ reply, ¬ Answers second shared' (r ++ rest') outBuf' r.length src' clock' reply) ↔ ¬ LooksSip d := by
  obtain ⟨out, classified⟩ := answers_iff.mp answered
  have front : (d ++ rest).take d.length = d := List.take_left' rfl
  have reply := probe_reply (by simp) classified
  rw [front] at reply
  rcases reply with ⟨sip, response⟩ | ⟨other, packet⟩
  · obtain ⟨text, written⟩ := writer
    obtain ⟨out', again⟩ := classify_emptyResponse rest' server response room written
    simp only [sip, not_true, iff_false, not_forall, not_not]
    exact ⟨text, answers_iff.mpr ⟨out', again⟩⟩
  · simp only [other, not_false_eq_true, iff_true]
    intro reply again
    obtain ⟨out', classified⟩ := answers_iff.mp again
    exact classify_versionNegotiation packet classified

theorem writer_of_isOk {rt : Runtime} {kind : Sip.SipKind} {src : SocketAddr} {clock : Clock}
    (fits : (sipReply rt kind 5060 src clock).isOk = true) : ∃ text, sipReply rt kind 5060 src clock = .ok text := by
  cases written : sipReply rt kind 5060 src clock with
  | ok text => exact ⟨text, rfl⟩
  | error panic => simp [written, Except.isOk, Except.toBool] at fits

def initialPacket : Buf := [0xC0, 0, 0, 0, 1, 4, 1, 2, 3, 4, 2, 5, 6, 0, 0]

theorem reply_answered_iff_initial :
    ∃ r, Answers (sampleRuntime true .quic) Shared.empty initialPacket [] 15 (localhost 443) ⟨0, 0⟩ r ∧
      ∀ reply, ¬ Answers (sampleRuntime true .sip) Shared.empty r (List.replicate 64 0) r.length (localhost 443) ⟨0, 0⟩ reply := by
  have answered : Answers (sampleRuntime true .quic) Shared.empty (initialPacket ++ []) [] initialPacket.length
      (localhost 443) ⟨0, 0⟩ (versionNegotiationPacket [1, 2, 3, 4] [5, 6]) :=
    answers_iff.mpr ⟨[], by decide⟩
  have quiet := (reply_answered_iff (sampleRuntime true .quic) (sampleRuntime true .sip) rfl Shared.empty Shared.empty
    initialPacket [] _ [] [] (List.replicate 64 0) (localhost 443) (localhost 443) ⟨0, 0⟩ ⟨0, 0⟩ answered
    (writer_of_isOk (by decide +kernel)) (by decide)).mpr (by decide +kernel)
  rw [List.append_nil] at quiet
  exact ⟨_, answered, quiet⟩

def optionsProbe : Buf := ascii "OPTIONS sip:probe SIP/2.0\r\n\r\n"

theorem reply_answered_options :
    ∃ r r', Answers (sampleRuntime true .gut) Shared.empty optionsProbe [] optionsProbe.length (localhost 5060) ⟨0, 0⟩ r ∧
      Answers (sampleRuntime true .quic) Shared.empty r (List.replicate 1024 0) r.length (localhost 5060) ⟨0, 0⟩ r' := by
  obtain ⟨r, written⟩ : ∃ r, sipReply (sampleRuntime true .gut) .response200 5060 (localhost 5060) ⟨0, 0⟩ = .ok r :=
    writer_of_isOk (by decide +kernel)
  obtain ⟨r', written'⟩ : ∃ r', sipReply (sampleRuntime true .quic) .response403 5060 (localhost 5060) ⟨0, 0⟩ = .ok r' :=
    writer_of_isOk (by decide +kernel)
  have detected : detectEnvelope optionsProbe [] optionsProbe.length = .ok (.sipProbe .response200, []) := by
    decide
  have room : r.length ≤ (List.replicate 1024 (0 : UInt8)).length := by
    rw [List.length_replicate]
    exact length_sipReply written
  obtain ⟨out, again⟩ := classify_emptyResponse [] rfl (sipReply_response rfl written) room written'
  rw [List.append_nil] at again
  exact ⟨r, r', answers_iff.mpr ⟨[], classify_sipProbe rfl detected written⟩, answers_iff.mpr ⟨out, again⟩⟩

end Gutd.Userspace
