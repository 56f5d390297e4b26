import Gutd.Userspace.Probe
import Gutd.Userspace.Verdict

set_option autoImplicit false

namespace Gutd.Userspace

open Bytes Checked Wire Net

theorem verifyIf_total (test : Bool) {buf : Buf} {size : Nat} (key : ChachaInit) (obfs : ObfsMode)
    (inside : size ≤ buf.length) : ∃ b, verifyIf test buf size key obfs = .ok b := by
  cases test with
  | true => exact obfsVerify_total key Runtime.rounds obfs inside
  | false => exact ⟨false, rfl⟩

theorem authenticate_total {rt : Runtime} {slot : Buf} {len : Nat} (prepend : Option ObfsMode)
    (server : rt.isServer = true) (enough : 6 ≤ slot.length) (inside : len ≤ slot.length) :
    ∃ found, authenticate rt slot len prepend = .ok found := by
  have start : (slice slot 0 6).length = 6 := by simp; omega
  obtain ⟨quic, tried⟩ := verifyIf_total (looksQuic (byteAt slot 0)) rt.keyInit .quic inside
  obtain ⟨gut, verified⟩ := obfsVerify_total rt.keyInit Runtime.rounds .gut
    (show len ≤ (overwrite slot 0 (slice slot 0 6)).length by simpa using inside)
  unfold authenticate
  rw [if_pos server, subslice_ok (by omega) enough, bind_ok, getByte_ok (by omega), bind_ok, tried, bind_ok]
  cases quic with
  | true => exact ⟨_, rfl⟩
  | false =>
      simp only [Bool.false_eq_true, if_false]
      rw [copyFromSlice_ok (by omega) enough, bind_ok, verified, bind_ok]
      exact ⟨_, rfl⟩

theorem replaceByDecoded_total (buf : Buf) {outBuf : Buf} {n : Nat} (inside : n ≤ outBuf.length) (fits : n ≤ buf.length) :
    ∃ slot, replaceByDecoded buf outBuf n = .ok slot ∧ slot.length = buf.length := by
  have width : (slice outBuf 0 n).length = n := by simp; omega
  refine ⟨overwrite buf 0 (slice outBuf 0 n), ?_, by simp⟩
  unfold replaceByDecoded
  rw [subslice_ok (by omega) inside, bind_ok, copyFromSlice_ok (by omega) fits]

theorem detectEnvelope_sip_total {d : Buf} (rest : Buf) {outBuf : Buf} (sip : LooksSip d) (room : d.length ≤ outBuf.length) :
    ∃ envelope outBuf', detectEnvelope (d ++ rest) outBuf d.length = .ok (envelope, outBuf') ∧
      (envelope = .sipProbe (sipProbeKind d) ∨
        ∃ slot len, envelope = .datagram slot len (some .sip) false (sipProbeKind d) ∧
          slot.length = (d ++ rest).length ∧ len ≤ slot.length) := by
  have front : (d ++ rest).take d.length = d := List.take_left' rfl
  obtain ⟨syslog, found⟩ := sip
  obtain ⟨hdrLen, found⟩ := Option.isSome_iff_exists.mp found
  have bounds := (Sip.checkHeader_bounds found).2
  have width : (slice (d ++ rest) hdrLen d.length).length ≤ d.length := by
    rw [length_slice]
    omega
  obtain ⟨decoded, outBuf', done, kept⟩ := Base64.decode_ok (slice (d ++ rest) hdrLen d.length) outBuf (by omega)
  unfold detectEnvelope
  rw [subslice_ok (by omega) (by simp), bind_ok, slice_zero, front]
  simp only [syslog, found]
  rw [subslice_ok bounds (by simp), bind_ok, done, bind_ok]
  cases decoded with
  | none => exact ⟨_, _, rfl, .inl rfl⟩
  | some n =>
      have few := Base64.decode_bound done
      by_cases some : n > 0
      · obtain ⟨slot, replaced, length⟩ := replaceByDecoded_total (d ++ rest) (show n ≤ outBuf'.length by omega)
          (by simp; omega)
        simp only [if_pos some, replaced, bind_ok]
        exact ⟨_, _, rfl, .inr ⟨slot, n, rfl, length, by rw [length]; simp; omega⟩⟩
      · simp only [if_neg some]
        exact ⟨_, _, rfl, .inl rfl⟩

-- both source ports that a reply is written with have four digits, so one reply fits where the other does
theorem sipReply_ports (rt : Runtime) (kind : Sip.SipKind) (src : SocketAddr) (clock : Clock) :
    (∃ text, sipReply rt kind 4500 src clock = .ok text) ↔ ∃ text, sipReply rt kind 5060 src clock = .ok text := by
  have digits : (decimal (4500 : UInt16).toNat).length = (decimal (5060 : UInt16).toNat).length := by decide
  unfold sipReply
  cases Sip.formatSipDateOnly clock.secs with
  | error => simp
  | ok dateStr =>
      have same := Sip.length_headerText_sport
        { domain := rt.sipDomain, srcIp := rt.bindIp.text, dstIp := src.ip.text, sport := 5060, dport := src.port
          rtpPort := 10000, payloadLen := 0, feistelKey := rt.authKey, dateStr, nowUs := clock.us } 4500 digits kind
      unfold Sip.writeHeader
      rw [bind_ok, bind_ok, same]
      split_ifs <;> simp

theorem unauthenticatedReply_text {rt : Runtime} (server : rt.isServer = true) {slot text : Buf} (len : Nat)
    {kind : Sip.SipKind} {src : SocketAddr} {clock : Clock} (written : sipReply rt kind 4500 src clock = .ok text) :
    unauthenticatedReply rt slot len (some .sip) false kind src clock = .ok (some text) := by
  unfold unauthenticatedReply
  rw [if_neg (by simp [server]), if_pos ⟨rfl, rfl⟩, written]
  rfl

theorem unauthenticatedReply_written {rt : Runtime} {slot text : Buf} {len : Nat} {kind : Sip.SipKind} {src : SocketAddr}
    {clock : Clock} (reply : unauthenticatedReply rt slot len (some .sip) false kind src clock = .ok (some text)) :
    sipReply rt kind 4500 src clock = .ok text := by
  unfold unauthenticatedReply at reply
  split_ifs at reply with client sip
  · cases reply
  · obtain ⟨text', written, answer⟩ := bind_eq_ok.mp reply
    cases answer
    exact written
  · exact absurd ⟨rfl, rfl⟩ sip
  · exact absurd ⟨rfl, rfl⟩ sip

theorem unauthenticatedReply_quiet {rt : Runtime} (quiet : rt.obfs = .gut ∨ rt.obfs = .syslog) {slot text : Buf} {len : Nat}
    {prepend : Option ObfsMode} {wasRtp : Bool} {kind : Sip.SipKind} {src : SocketAddr} {clock : Clock}
    (other : ¬(prepend = some .sip ∧ wasRtp = false)) :
    unauthenticatedReply rt slot len prepend wasRtp kind src clock ≠ .ok (some text) := by
  have mode : rt.obfs ≠ .quic := by rcases quiet with gut | syslog <;> simp [*]
  unfold unauthenticatedReply
  rw [if_neg other, if_neg mode]
  split_ifs <;> simp

def Authenticates (rt : Runtime) (buf outBuf : Buf) (size : Nat) (src : SocketAddr) (clock : Clock) : Prop :=
  ∃ slot len obfs outBuf', classify rt buf outBuf size src clock = .ok (.authentic slot len obfs, outBuf')

def Respondable (rt : Runtime) (d : Buf) (src : SocketAddr) (clock : Clock) : Prop :=
  LooksSip d ∧ ∃ text, sipReply rt (sipProbeKind d) 5060 src clock = .ok text

section

variable {rt : Runtime} {d rest outBuf : Buf} {src : SocketAddr} {clock : Clock}

theorem answered_of_respondable (server : rt.isServer = true) (room : d.length ≤ outBuf.length)
    (foreign : ¬Authenticates rt (d ++ rest) outBuf d.length src clock) (respondable : Respondable rt d src clock) :
    ∃ reply outBuf', classify rt (d ++ rest) outBuf d.length src clock = .ok (.probe reply, outBuf') := by
  obtain ⟨sip, text, written⟩ := respondable
  have long : 16 ≤ d.length := by
    obtain ⟨hdrLen, found⟩ := Option.isSome_iff_exists.mp sip.2
    unfold Sip.checkHeader at found
    split_ifs at found
    omega
  obtain ⟨envelope, outBuf', detected, rfl | ⟨slot, len, rfl, length, inside⟩⟩ := detectEnvelope_sip_total rest sip room
  · exact ⟨text, outBuf', classify_sipProbe server detected written⟩
  · obtain ⟨found, tried⟩ := authenticate_total (some .sip) server (by rw [length]; simp; omega) inside
    cases found with
    | some obfs => exact absurd ⟨slot, len, obfs, outBuf', classify_authentic src clock detected tried⟩ foreign
    | none =>
        obtain ⟨text', written'⟩ := (sipReply_ports rt _ src clock).mpr ⟨text, written⟩
        refine ⟨text', outBuf', ?_⟩
        unfold classify
        rw [detected, bind_ok]
        dsimp only
        rw [tried, bind_ok]
        dsimp only
        rw [unauthenticatedReply_text server len written', bind_ok]
        rfl

theorem respondable_of_answered (quiet : rt.obfs = .gut ∨ rt.obfs = .syslog) {reply outBuf' : Buf}
    (classified : classify rt (d ++ rest) outBuf d.length src clock = .ok (.probe reply, outBuf')) :
    Respondable rt d src clock := by
  have front : (d ++ rest).take d.length = d := List.take_left' rfl
  have inside : d.length ≤ (d ++ rest).length := by simp
  by_cases sip : LooksSip d
  · refine ⟨sip, ?_⟩
    have taken : LooksSip ((d ++ rest).take d.length) := by rwa [front]
    rcases classify_probe_inv classified with ⟨kind, detected, written⟩ | ⟨slot, len, prepend, wasRtp, kind, detected, written⟩
    · rcases detectEnvelope_sip inside detected taken with probe | ⟨slot, len, datagram⟩
      · cases probe
        rw [front] at written
        exact ⟨reply, written⟩
      · cases datagram
    · rcases detectEnvelope_sip inside detected taken with probe | ⟨slot', len', datagram⟩
      · cases probe
      · cases datagram
        rw [front] at written
        exact (sipReply_ports rt _ src clock).mp ⟨reply, unauthenticatedReply_written written⟩
  · have taken : ¬LooksSip ((d ++ rest).take d.length) := by rwa [front]
    rcases classify_probe_inv classified with ⟨kind, detected, -⟩ | ⟨slot, len, prepend, wasRtp, kind, detected, written⟩
    · obtain invalid | ⟨slot, len, prepend, wasRtp, kind, datagram, -⟩ := detectEnvelope_notSip inside detected taken
      · cases invalid
      · cases datagram
    · obtain invalid | ⟨slot', len', prepend', wasRtp', kind', datagram, other⟩ := detectEnvelope_notSip inside detected taken
      · cases invalid
      · cases datagram
        exact absurd written (unauthenticatedReply_quiet quiet other)

end

theorem silent_iff (rt : Runtime) (shared : Shared) (d rest outBuf : Buf) (src : SocketAddr) (clock : Clock)
    (server : rt.isServer = true) (quiet : rt.obfs = .gut ∨ rt.obfs = .syslog) (room : d.length ≤ outBuf.length)
    (foreign : ¬Authenticates rt (d ++ rest) outBuf d.length src clock) :
    (∀ shared' outBuf' sent,
        ingress rt shared (d ++ rest) outBuf d.length src clock = .ok (shared', outBuf', sent) → sent = []) ↔
      ¬Respondable rt d src clock := by
  constructor
  · intro silent respondable
    obtain ⟨reply, outBuf', classified⟩ := answered_of_respondable server room foreign respondable
    obtain ⟨shared', out, answered⟩ := answers_iff.mpr ⟨outBuf', classified⟩
    exact absurd (silent _ _ _ answered) (by simp)
  · intro unanswered shared' outBuf' sent received
    obtain ⟨⟨verdict, out⟩, classified, done⟩ := bind_eq_ok.mp received
    cases verdict with
    | ignored =>
        cases done
        rfl
    | probe reply => exact absurd (respondable_of_answered quiet classified) unanswered
    | authentic slot len obfs => exact absurd ⟨slot, len, obfs, out, classified⟩ foreign

theorem not_authenticates {rt : Runtime} {buf outBuf outBuf' : Buf} {size : Nat} {src : SocketAddr} {clock : Clock}
    {verdict : Verdict} (classified : classify rt buf outBuf size src clock = .ok (verdict, outBuf'))
    (other : ∀ slot len obfs, verdict ≠ .authentic slot len obfs) : ¬Authenticates rt buf outBuf size src clock := by
  rintro ⟨slot, len, obfs, out, authentic⟩
  obtain ⟨rfl, -⟩ : verdict = .authentic slot len obfs ∧ outBuf' = out := by simpa using classified.symm.trans authentic
  exact other slot len obfs rfl

theorem silent_iff_noise :
    (∀ shared' outBuf' sent,
        ingress (sampleRuntime true .syslog) Shared.empty ([1, 2, 3, 4, 5, 6] ++ []) (List.replicate 6 0) 6 (localhost 514)
          ⟨0, 0⟩ = .ok (shared', outBuf', sent) → sent = []) ↔
      ¬Respondable (sampleRuntime true .syslog) [1, 2, 3, 4, 5, 6] (localhost 514) ⟨0, 0⟩ := by
  have classified : classify (sampleRuntime true .syslog) ([1, 2, 3, 4, 5, 6] ++ []) (List.replicate 6 0) 6 (localhost 514)
      ⟨0, 0⟩ = .ok (.ignored, List.replicate 6 0) := by
    decide
  exact silent_iff (sampleRuntime true .syslog) Shared.empty [1, 2, 3, 4, 5, 6] [] (List.replicate 6 0) (localhost 514)
    ⟨0, 0⟩ rfl (.inr rfl) (by decide) (not_authenticates classified nofun)

-- a GUT server tells an OPTIONS request that it is there
theorem options_answered :
    ¬Authenticates (sampleRuntime true .gut) optionsProbe [] optionsProbe.length (localhost 5060) ⟨0, 0⟩ ∧
      ∃ shared' outBuf' reply,
        ingress (sampleRuntime true .gut) Shared.empty optionsProbe [] optionsProbe.length (localhost 5060) ⟨0, 0⟩ =
          .ok (shared', outBuf', [.probeReply reply (localhost 5060)]) := by
  obtain ⟨r, written⟩ : ∃ r, sipReply (sampleRuntime true .gut) .response200 5060 (localhost 5060) ⟨0, 0⟩ = .ok r :=
    writer_of_isOk (by decide +kernel)
  have detected : detectEnvelope optionsProbe [] optionsProbe.length = .ok (.sipProbe .response200, []) := by
    decide
  have classified := classify_sipProbe rfl detected written
  obtain ⟨shared', outBuf', answered⟩ := answers_iff.mpr ⟨[], classified⟩
  exact ⟨not_authenticates classified nofun, shared', outBuf', r, answered⟩

end Gutd.Userspace
