import Gutd.Shared.Folds
import Gutd.Userspace.Receiver
import Gutd.Userspace.Silence
import Gutd.Userspace.TextSend
import Gutd.Userspace.VersionNegotiation

set_option autoImplicit false

namespace Gutd.Userspace

open Bytes Checked Wire Net Folds

section Ingress

variable {rt : Runtime} {buf outBuf : Buf} {size : Nat} {src : SocketAddr} {clock : Clock}

def Envelope.Within (n : Nat) : Envelope → Prop
  | .datagram slot len _ _ _ => slot.length = n ∧ len ≤ n
  | _ => True

theorem decoded_total (off : Nat) (ordered : off ≤ size) (inside : size ≤ buf.length) (room : 3 * size ≤ 4 * outBuf.length) :
    ∃ decoded outBuf', Base64.decode (slice buf off size) outBuf = .ok (decoded, outBuf') ∧ outBuf'.length = outBuf.length ∧
      ∀ n, decoded = some n → n ≤ buf.length ∧ ∃ slot, replaceByDecoded buf outBuf' n = .ok slot ∧ slot.length = buf.length := by
  have width : (slice buf off size).length ≤ size := by
    rw [length_slice]
    omega
  obtain ⟨decoded, outBuf', done, kept⟩ := Base64.decode_ok (slice buf off size) outBuf (by omega)
  refine ⟨decoded, outBuf', done, kept, ?_⟩
  rintro n rfl
  have few := Base64.decode_bound done
  exact ⟨by omega, replaceByDecoded_total buf (by omega) (by omega)⟩

theorem detectEnvelope_total (inside : size ≤ buf.length) (room : 3 * size ≤ 4 * outBuf.length) :
    ∃ envelope outBuf', detectEnvelope buf outBuf size = .ok (envelope, outBuf') ∧ outBuf'.length = outBuf.length ∧
      envelope.Within buf.length := by
  have head : (buf.take size).length = size := by simp [inside]
  unfold detectEnvelope
  rw [subslice_ok (by omega) inside, bind_ok, slice_zero]
  cases syslog : Syslog.checkHeader (buf.take size) with
  | some hdrLen =>
      have bounds := Syslog.checkHeader_bounds syslog
      obtain ⟨decoded, outBuf', done, kept, replaced⟩ :=
        decoded_total hdrLen (by omega) inside room
      dsimp only
      rw [subslice_ok (by omega) inside, bind_ok, done, bind_ok]
      cases decoded with
      | none => exact ⟨_, _, rfl, kept, trivial⟩
      | some n =>
          obtain ⟨few, slot, copied, length⟩ := replaced n rfl
          dsimp only
          rw [copied, bind_ok]
          exact ⟨_, _, rfl, kept, length, few⟩
  | none =>
      cases sip : Sip.checkHeader (buf.take size) with
      | some hdrLen =>
          have bounds := Sip.checkHeader_bounds sip
          obtain ⟨decoded, outBuf', done, kept, replaced⟩ :=
            decoded_total hdrLen (by omega) inside room
          dsimp only
          rw [subslice_ok (by omega) inside, bind_ok, done, bind_ok]
          cases decoded with
          | none => exact ⟨_, _, rfl, kept, trivial⟩
          | some n =>
              obtain ⟨few, slot, copied, length⟩ := replaced n rfl
              dsimp only
              split_ifs with some
              · rw [copied, bind_ok]
                exact ⟨_, _, rfl, kept, length, few⟩
              · exact ⟨_, _, rfl, kept, trivial⟩
      | none =>
          dsimp only
          split_ifs with rtp
          · obtain ⟨long, -⟩ := Sip.checkRtpHeader_iff.mp rtp
            rw [copyWithin_ok (by rw [Sip.rtpHeaderLen]; omega) inside (by rw [Sip.rtpHeaderLen]; omega), bind_ok]
            exact ⟨_, _, rfl, rfl, by simp, by omega⟩
          · exact ⟨_, _, rfl, rfl, rfl, inside⟩

theorem authenticate_client_total (prepend : Option ObfsMode) (client : rt.isServer ≠ true) (some : 0 < buf.length)
    (inside : size ≤ buf.length) : ∃ found, authenticate rt buf size prepend = .ok found := by
  unfold authenticate
  rw [if_neg client]
  split_ifs with other
  · obtain ⟨ok, tried⟩ := verifyIf_total (size ≥ gutQuicShortHeaderSize + 16) rt.keyInit .gut inside
    rw [tried, bind_ok]
    exact ⟨_, rfl⟩
  · obtain ⟨ok, tried⟩ := verifyIf_total (looksQuic (byteAt buf 0)) rt.keyInit .quic inside
    rw [getByte_ok some, bind_ok, tried, bind_ok]
    exact ⟨_, rfl⟩

theorem generateQuicVersionNegotiation_total (inside : size ≤ buf.length) :
    ∃ reply, generateQuicVersionNegotiation buf size = .ok reply := by
  unfold generateQuicVersionNegotiation
  split_ifs with short
  · exact ⟨_, rfl⟩
  rw [getByte_ok (by omega), bind_ok]
  split_ifs with form
  · exact ⟨_, rfl⟩
  rw [readBe32_ok (by omega), bind_ok]
  split_ifs with version
  · exact ⟨_, rfl⟩
  rw [getByte_ok (by omega), bind_ok]
  dsimp only
  split_ifs with dcid
  · exact ⟨_, rfl⟩
  rw [subslice_ok (by omega) (by omega), bind_ok, getByte_ok (by omega), bind_ok]
  split_ifs with scid
  · exact ⟨_, rfl⟩
  rw [subslice_ok (by omega) (by omega), bind_ok]
  split_ifs <;> exact ⟨_, rfl⟩

theorem sipReply_total (domain : rt.sipDomain.length ≤ 60) (fourDigits : clock.FourDigits) (kind : Sip.SipKind) (sport : UInt16)
    (src : SocketAddr) : ∃ reply, sipReply rt kind sport src clock = .ok reply := by
  obtain ⟨date, formatted, -, dateLength⟩ := fourDigits.date
  obtain ⟨args, header⟩ : ∃ args : Sip.HeaderArgs, args =
      { domain := rt.sipDomain, srcIp := rt.bindIp.text, dstIp := src.ip.text, sport, dport := src.port
        rtpPort := 10000, payloadLen := 0, feistelKey := rt.authKey, dateStr := date, nowUs := clock.us } := ⟨_, rfl⟩
  have bounded : args.Bounded := by
    rw [header]
    exact ⟨IpAddr.length_text _, IpAddr.length_text _, dateLength, fourDigits.millis, Nat.zero_le _⟩
  have named : args.domain.length ≤ 60 := by rw [header]; exact domain
  have room := Sip.length_headerText_le kind bounded
  refine ⟨Sip.headerText kind args, ?_⟩
  unfold sipReply
  rw [formatted, bind_ok, ← header]
  refine if_pos ?_
  rw [Sip.maxSipHeaderLen]
  omega

theorem unauthenticatedReply_total (domain : rt.sipDomain.length ≤ 60) (fourDigits : clock.FourDigits)
    (inside : size ≤ buf.length) (prepend : Option ObfsMode) (wasRtp : Bool) (kind : Sip.SipKind) (src : SocketAddr) :
    ∃ reply, unauthenticatedReply rt buf size prepend wasRtp kind src clock = .ok reply := by
  unfold unauthenticatedReply
  split_ifs with client text quic
  · exact ⟨_, rfl⟩
  · obtain ⟨reply, written⟩ := sipReply_total domain fourDigits kind 4500 src
    rw [written, bind_ok]
    exact ⟨_, rfl⟩
  · exact generateQuicVersionNegotiation_total inside
  · exact ⟨_, rfl⟩

structure Receivable (buf outBuf : Buf) (size : Nat) (clock : Clock) : Prop where
  start : 6 ≤ buf.length
  inside : size ≤ buf.length
  room : 3 * size ≤ 4 * outBuf.length
  fourDigits : clock.FourDigits

theorem classify_total (domain : rt.sipDomain.length ≤ 60) (receivable : Receivable buf outBuf size clock) (src : SocketAddr) :
    ∃ verdict outBuf', classify rt buf outBuf size src clock = .ok (verdict, outBuf') ∧ outBuf'.length = outBuf.length ∧
      ∀ slot len obfs, verdict = .authentic slot len obfs → len ≤ slot.length := by
  obtain ⟨start, inside, room, fourDigits⟩ := receivable
  obtain ⟨envelope, outBuf', detected, kept, within⟩ := detectEnvelope_total inside room
  unfold classify
  rw [detected, bind_ok]
  cases envelope with
  | invalid => exact ⟨_, _, rfl, kept, by simp⟩
  | sipProbe kind =>
      dsimp only
      split_ifs with server
      · obtain ⟨reply, written⟩ := sipReply_total domain fourDigits kind 5060 src
        rw [written, bind_ok]
        exact ⟨_, _, rfl, kept, by simp⟩
      · exact ⟨_, _, rfl, kept, by simp⟩
  | datagram slot len prepend wasRtp kind =>
      obtain ⟨length, few⟩ := within
      have whole : ∃ found, authenticate rt slot len prepend = .ok found := by
        by_cases server : rt.isServer = true
        · exact authenticate_total prepend server (by omega) (by omega)
        · exact authenticate_client_total prepend server (by omega) (by omega)
      obtain ⟨found, tried⟩ := whole
      dsimp only
      rw [tried, bind_ok]
      cases found with
      | some obfs =>
          refine ⟨_, _, rfl, kept, ?_⟩
          rintro _ _ _ ⟨⟩
          omega
      | none =>
          obtain ⟨reply, answered⟩ := unauthenticatedReply_total domain fourDigits (show len ≤ slot.length by omega)
            prepend wasRtp kind src
          dsimp only
          rw [answered, bind_ok]
          cases reply with
          | some reply => exact ⟨_, _, rfl, kept, by simp⟩
          | none => exact ⟨_, _, rfl, kept, by simp⟩

theorem xorMac2_total (buf : Buf) (off len : Nat) {ks : Buf} (wgType : UInt8) (inside : off + len ≤ buf.length)
    (block : ks.length = 64) :
    ∃ out, xorMac2 buf off wgType len ks = .ok out ∧ out.length = buf.length := by
  have whole : (slice ks 16 32).length = 16 := by simp [block]
  unfold xorMac2
  split_ifs
  · exact ⟨_, xor16_ok _ _ _ (by omega) whole, by simp⟩
  · exact ⟨_, xor16_ok _ _ _ (by omega) whole, by simp⟩
  · exact ⟨_, rfl, rfl⟩

theorem decapHdrLen_total (obfs : ObfsMode) (nonempty : 0 < buf.length) :
    ∃ found, decapHdrLen buf obfs = .ok found ∧
      ∀ hdrLen, found = some hdrLen →
        hdrLen = gutHeaderSize ∨ hdrLen = gutQuicShortHeaderSize ∨ hdrLen = gutQuicLongHeaderSize := by
  unfold decapHdrLen
  split_ifs
  · exact ⟨_, rfl, by simp⟩
  rw [getByte_ok nonempty, bind_ok]
  split_ifs
  · exact ⟨_, rfl, by simp⟩
  · exact ⟨_, rfl, by simp⟩
  · exact ⟨_, rfl, by simp⟩

theorem readEncPorts_total {hdrLen : Nat} (inside : hdrLen + 16 ≤ buf.length)
    (header : hdrLen = gutHeaderSize ∨ hdrLen = gutQuicShortHeaderSize ∨ hdrLen = gutQuicLongHeaderSize) :
    ∃ ports, readEncPorts buf hdrLen = .ok ports := by
  have sizes : gutHeaderSize = 10 ∧ gutQuicShortHeaderSize = 16 ∧ gutQuicLongHeaderSize = 1200 := ⟨rfl, rfl, rfl⟩
  unfold readEncPorts
  split_ifs
  · exact ⟨_, readLe32_ok (by omega)⟩
  · exact ⟨_, readLe32_ok (by omega)⟩
  · exact ⟨_, readLe32_ok (by omega)⟩

-- sixteen bytes behind the header are unmasked even if the padding leaves fewer of them
theorem decapPayload_total (buf : Buf) {hdrLen : Nat} (wgLen : Nat) (order : ByteOrder) (key : ChachaInit) (rounds : UInt8)
    (header : hdrLen = gutHeaderSize ∨ hdrLen = gutQuicShortHeaderSize ∨ hdrLen = gutQuicLongHeaderSize)
    (front : hdrLen + 16 ≤ buf.length) (inside : hdrLen + wgLen ≤ buf.length) :
    ∃ plain ports, decapPayload order buf hdrLen wgLen key rounds = .ok (plain, some (wgLen, ports)) ∧ wgLen ≤ plain.length := by
  obtain ⟨ports, read⟩ := readEncPorts_total front header
  unfold decapPayload
  rw [read, bind_ok, subslice_ok (by omega) inside, bind_ok, wgNonce32_ok, bind_ok]
  dsimp only
  rw [xor16_ok _ _ _ front (by simp), bind_ok, getByte_ok (by simp; omega), bind_ok]
  obtain ⟨out, unmasked, length⟩ := xorMac2_total (xorAt buf hdrLen (slice (blockBytes order (chachaBlockFast key 47
      (nonceOf (slice buf hdrLen (hdrLen + wgLen))) rounds)) 0 16)) hdrLen wgLen
    (byteAt (xorAt buf hdrLen (slice (blockBytes order (chachaBlockFast key 47 (nonceOf (slice buf hdrLen (hdrLen + wgLen)))
      rounds)) 0 16)) hdrLen &&& 0x1F) (by simpa using inside) (length_blockBytes order _)
  rw [length_xorAt] at length
  rw [unmasked, bind_ok, copyWithin_ok (by omega) (by omega) (by omega), bind_ok]
  exact ⟨_, _, rfl, by simp; omega⟩

theorem obfsDecap_total (order : ByteOrder) (key : ChachaInit) (rounds : UInt8) (obfs : ObfsMode) (inside : size ≤ buf.length) :
    ∃ plain found, obfsDecap order buf size key rounds obfs = .ok (plain, found) ∧
      ∀ n ports, found = some (n, ports) → n ≤ plain.length := by
  unfold obfsDecap
  split_ifs with empty
  · exact ⟨_, _, rfl, by simp⟩
  obtain ⟨found, header, sizes⟩ := decapHdrLen_total obfs (show 0 < buf.length by omega)
  rw [header, bind_ok]
  cases found with
  | none => exact ⟨_, _, rfl, by simp⟩
  | some hdrLen =>
      dsimp only
      split_ifs with short
      · exact ⟨_, _, rfl, by simp⟩
      rw [getByte_ok (by omega), bind_ok]
      split_ifs with padded
      · exact ⟨_, _, rfl, by simp⟩
      obtain ⟨plain, ports, opened, few⟩ := decapPayload_total buf
        (size - hdrLen - ballastLen (byteAt buf (hdrLen - 1))) order key rounds (sizes hdrLen rfl) (by omega) (by omega)
      refine ⟨plain, _, opened, ?_⟩
      rintro n ports' ⟨⟩
      exact few

theorem ingress_total (domain : rt.sipDomain.length ≤ 60) (shared : Shared) (receivable : Receivable buf outBuf size clock)
    (src : SocketAddr) :
    ∃ shared' outBuf' sent, ingress rt shared buf outBuf size src clock = .ok (shared', outBuf', sent) ∧
      outBuf'.length = outBuf.length := by
  obtain ⟨verdict, outBuf', classified, kept, inside⟩ := classify_total domain receivable src
  unfold ingress
  rw [classified, bind_ok]
  cases verdict with
  | ignored => exact ⟨_, _, _, rfl, kept⟩
  | probe reply => exact ⟨_, _, _, rfl, kept⟩
  | authentic slot len obfs =>
      obtain ⟨plain, found, opened, few⟩ := obfsDecap_total rt.order rt.keyInit Runtime.rounds obfs (inside slot len obfs rfl)
      dsimp only
      rw [opened, bind_ok]
      cases found with
      | none => exact ⟨_, _, _, rfl, kept⟩
      | some result =>
          obtain ⟨n, ports⟩ := result
          dsimp only
          rw [subslice_ok (by omega) (few n ports rfl), bind_ok]
          exact ⟨_, _, _, rfl, kept⟩

end Ingress

structure IngressThread where
  receiver : BatchRecv
  answers : List (List Datagram)
  shared : Shared
  outBuf : Buf

structure Surroundings where
  meanwhile : Shared → Shared
  clock : Clock
  use : Buf → Buf

namespace IngressThread

def start (outerMtu : UInt16) (answers : List (List Datagram)) : IngressThread :=
  { receiver := BatchRecv.new outerMtu, answers, shared := Shared.empty, outBuf := List.replicate outBufLen 0 }

def step (rt : Runtime) (thread : IngressThread) (around : Surroundings) : Result IngressThread := do
  match ← thread.receiver.recv rt.order thread.answers with
  | none => pure thread
  | some called =>
      let thread := { thread with receiver := called.state.afterUse around.use called.result, answers := called.answers }
      match called.result with
      | .received _ _ bytes size src => do
          let (shared, outBuf, _) ← ingress rt (around.meanwhile thread.shared) bytes thread.outBuf size src around.clock
          pure { thread with shared, outBuf }
      | .badSockaddr | .osError => pure thread

structure Goes (order : ByteOrder) (outerMtu : UInt16) (thread : IngressThread) : Prop where
  receiving : BatchRecv.Receiving order outerMtu (fun _ => True) thread.receiver thread.answers
  outBuf : thread.outBuf.length = outBufLen

variable {rt : Runtime} {outerMtu : UInt16} {thread : IngressThread} {around : Surroundings}

theorem Goes.step (goes : thread.Goes rt.order outerMtu) (domain : rt.sipDomain.length ≤ 60)
    (fourDigits : around.clock.FourDigits) :
    ∃ thread', thread.step rt around = .ok thread' ∧ thread'.Goes rt.order outerMtu := by
  have mtu := outerMtu.toNat_lt
  unfold IngressThread.step
  rcases goes.receiving.recv with waits | ⟨called, done, later, slot⟩
  · rw [waits, bind_ok]
    exact ⟨thread, rfl, goes⟩
  · rw [done, bind_ok]
    dsimp only
    cases result : called.result with
    | badSockaddr => exact ⟨_, rfl, result ▸ later around.use, goes.outBuf⟩
    | osError => exact ⟨_, rfl, result ▸ later around.use, goes.outBuf⟩
    | received start stop bytes size src =>
        obtain ⟨length, inside, -⟩ := slot start stop bytes size src result
        rw [BatchRecv.pktBuf_new] at length
        have receivable : Receivable bytes thread.outBuf size around.clock :=
          ⟨by omega, inside, by rw [goes.outBuf, outBufLen]; omega, fourDigits⟩
        obtain ⟨shared', outBuf', sent, answered, kept⟩ :=
          ingress_total domain (around.meanwhile thread.shared) receivable src
        dsimp only
        rw [answered, bind_ok]
        exact ⟨_, rfl, result ▸ later around.use, kept.trans goes.outBuf⟩

theorem ingress_never_panics (outerMtu : UInt16) (answers : List (List Datagram)) (arounds : List Surroundings)
    (domain : rt.sipDomain.length ≤ 60)
    (fits : ∀ answer ∈ answers, BatchRecv.Fits (BatchRecv.new outerMtu).pktBuf (BatchRecv.new outerMtu).batch answer)
    (fourDigits : ∀ around ∈ arounds, around.clock.FourDigits) :
    ∃ thread, arounds.foldlM (step rt) (start outerMtu answers) = .ok thread ∧ thread.outBuf.length = outBufLen := by
  obtain ⟨thread, ran, goes⟩ := foldlM_reaches (P := fun _ thread => thread.Goes rt.order outerMtu)
    (Q := fun around : Surroundings => around.clock.FourDigits) (fun _ _ _ fourDigits goes => goes.step domain fourDigits)
    (s := start outerMtu answers) ⟨BatchRecv.new_receiving fits (by simp), List.length_replicate⟩ fourDigits
  exact ⟨thread, ran, goes.outBuf⟩

theorem ingress_never_panics_options :
    ∃ thread, [Surroundings.mk id ⟨0, 0⟩ id].foldlM (step (sampleRuntime true .gut))
      (start 1492 [[{ data := optionsProbe, source := .inet (Vector.replicate 4 127) 5060 }]]) = .ok thread := by
  obtain ⟨thread, ran, -⟩ := ingress_never_panics 1492 [[{ data := optionsProbe, source := .inet (Vector.replicate 4 127) 5060 }]]
    [Surroundings.mk id ⟨0, 0⟩ id] (by decide : (sampleRuntime true .gut).sipDomain.length ≤ 60)
    (List.forall_mem_singleton.mpr ⟨by decide, List.forall_mem_singleton.mpr (by decide)⟩)
    (List.forall_mem_singleton.mpr ⟨by decide, by decide⟩)
  exact ⟨thread, ran⟩

end IngressThread

section Overflow

variable {rt : Runtime}

-- a response names the domain three times
theorem sipReply_overflows (long : 271 ≤ rt.sipDomain.length) {kind : Sip.SipKind} (response : Sip.isResponse kind = true)
    (sport : UInt16) (src : SocketAddr) (clock : Clock) : ∃ e, sipReply rt kind sport src clock = .error e := by
  obtain ⟨date, formatted, -, dateLength⟩ := Sip.formatSipDateOnly_ok clock.secs
  refine ⟨.outOfBounds, ?_⟩
  unfold sipReply
  rw [formatted, bind_ok]
  refine if_neg ?_
  have fields := Sip.length_fieldLines kind
    { domain := rt.sipDomain, srcIp := rt.bindIp.text, dstIp := src.ip.text, sport, dport := src.port
      rtpPort := 10000, payloadLen := 0, feistelKey := rt.authKey, dateStr := date, nowUs := clock.us }
  have general : kind ≠ .options := by
    rintro rfl
    cases response
  rw [Sip.headerText, if_neg (by simp [general]), Sip.maxSipHeaderLen]
  simp only [List.length_append]
  dsimp only at fields
  omega

theorem long_domain_panics (server : rt.isServer = true) (long : 271 ≤ rt.sipDomain.length) (shared : Shared) {d : Buf}
    (rest : Buf) {outBuf : Buf} (src : SocketAddr) (clock : Clock) (sip : LooksSip d) (room : d.length ≤ outBuf.length)
    (start : 6 ≤ (d ++ rest).length) (foreign : ¬Authenticates rt (d ++ rest) outBuf d.length src clock) :
    ∃ e, ingress rt shared (d ++ rest) outBuf d.length src clock = .error e := by
  obtain ⟨envelope, outBuf', detected, shape⟩ := detectEnvelope_sip_total rest sip room
  have overflow (sport : UInt16) := sipReply_overflows long (sipProbeKind_response d) sport src clock
  suffices classified : ∃ e, classify rt (d ++ rest) outBuf d.length src clock = .error e by
    obtain ⟨e, classified⟩ := classified
    refine ⟨e, ?_⟩
    unfold ingress
    rw [classified]
    rfl
  unfold classify
  rw [detected, bind_ok]
  rcases shape with rfl | ⟨slot, len, rfl, length, inside⟩
  · obtain ⟨e, overflow⟩ := overflow 5060
    exact ⟨e, by simp [server, overflow, bind_error]⟩
  · obtain ⟨found, tried⟩ := authenticate_total (some .sip) server (by omega) inside
    cases found with
    | some obfs => exact absurd ⟨slot, len, obfs, outBuf', classify_authentic src clock detected tried⟩ foreign
    | none =>
        obtain ⟨e, overflow⟩ := overflow 4500
        exact ⟨e, by simp [tried, unauthenticatedReply, server, overflow, bind_error]⟩

theorem long_domain_panics_options :
    ∃ e, ingress { sampleRuntime true .gut with sipDomain := List.replicate 271 97 } Shared.empty (optionsProbe ++ [])
      (List.replicate 64 0) optionsProbe.length (localhost 5060) ⟨0, 0⟩ = .error e := by
  refine long_domain_panics rfl ?_ Shared.empty [] (localhost 5060) ⟨0, 0⟩ (by decide) (by decide) (by decide) ?_
  · exact Nat.le_of_eq List.length_replicate.symm
  · rintro ⟨slot, len, obfs, out, authentic⟩
    obtain ⟨prepend, wasRtp, kind, detected, -⟩ := classify_authentic_inv authentic
    have probe : detectEnvelope (optionsProbe ++ []) (List.replicate 64 0) optionsProbe.length =
        .ok (.sipProbe .response200, List.replicate 64 0) := by
      decide
    cases probe.symm.trans detected

end Overflow

end Gutd.Userspace
