import Gutd.Bpf.TcRedirect
import Gutd.Bpf.TextSend

set_option autoImplicit false

namespace Gutd.Bpf

open Bytes Checked Wire

section Exits

variable (mode : ObfsMode) (cfg : GutConfig) (k : Kernel) (tc : Tc) (pkt : WgPacket)

def Unroutable : Prop :=
  cfg.dynamicPeer ≠ 0 ∧ (pkt.wgType = 1 ∨ routeOf cfg tc.clientMap (wgIndex pkt) pkt.ver = none)

def Outcome : TcAction × Tc → Prop
  | (.redirect _, tc') => ∃ pkt, parseEgress tc.skb = some pkt ∧
      ∃ pos : UdpPos, pos.ver = pkt.ver ∧ WellFormed pos (encapsulated mode cfg k tc pkt) tc'.skb
  | (.stop .shot, _) => True
  | (.stop .ok, tc') => tc'.skb = tc.skb

structure NoneHalfDone : Prop where
  outcome : Outcome mode cfg k tc (gutEgress mode cfg k tc)
  unroutable : ∀ pkt, parseEgress tc.skb = some pkt → Unroutable cfg tc pkt → (gutEgress mode cfg k tc).1 ≠ .stop .ok

def Encodable : Prop :=
  match mode with
  | .gut => True
  | .quic => pkt.wgType = 1 ∨ pkt.wgType = 3 → k.tailCall = true ∧ k.pullAgain = true
  | .syslog => pkt.wgLen + padLenOf mode cfg pkt ≤ 886
  | .sip =>
      if pkt.wgType = 4 ∧ pkt.wgLen > 32 then 2 ≤ cfg.numPorts
      else k.tailCall = true ∧ pkt.wgLen + padLenOf mode cfg pkt ≤ 886

inductive Settled : Prop
  | dropped (lost : keepaliveDropped cfg k.prandom pkt.wgType pkt.wgLen = true)
  | oversized (text : mode = .syslog) (large : pkt.wgLen > gutB64WgMtuMax)
  | declined
      (early : tunnelPort mode cfg (nextSeq tc) = none ∨ 0 < padLenOf mode cfg pkt ∧ k.changeTail = false)
      (routable : ¬Unroutable cfg tc pkt)
  | portless (port : UInt16) (prepares : Prepares mode cfg k tc pkt port) (build : mode = .sip)
      (media : pkt.wgType = 4 ∧ pkt.wgLen > 32) (few : cfg.numPorts < 2)
  -- neither padded nor masked
  | untouched (port : UInt16) (prepares : Prepares mode cfg k tc pkt port) (build : mode = .gut ∨ mode = .quic)
      (refused : k.adjustRoom = false) (unpadded : padLenOf mode cfg pkt = 0)
      (unmasked : maskedIn cfg pkt tc.skb = tc.skb) (routable : ¬Unroutable cfg tc pkt)
  | sent (port : UInt16) (route : Route) (prepares : Prepares mode cfg k tc pkt port)
      (helpers : k.adjustRoom = true ∧ k.pullData = true) (encodable : Encodable mode cfg k pkt)
      (routed : routeOf cfg tc.clientMap (wgIndex pkt) pkt.ver = some route) (plain : PlainPacket mode cfg k tc pkt)

end Exits

section Lemmas

variable {mode : ObfsMode} {cfg : GutConfig} {k : Kernel} {tc : Tc} {pkt : WgPacket} {port : UInt16} {pl : Plan} {route : Route}

theorem preparedTc_eq_iff : (preparedTc mode cfg tc pkt).skb = tc.skb ↔
    padLenOf mode cfg pkt = 0 ∧ maskedIn cfg pkt tc.skb = tc.skb := by
  constructor
  · intro same
    have length := congrArg List.length same
    rw [length_preparedTc] at length
    have none : padLenOf mode cfg pkt = 0 := by omega
    have empty : padOf mode cfg pkt = [] := List.eq_nil_of_length_eq_zero (by rw [length_padOf, none])
    refine ⟨none, ?_⟩
    rwa [preparedTc, empty, List.append_nil] at same
  · rintro ⟨none, same⟩
    have empty : padOf mode cfg pkt = [] := List.eq_nil_of_length_eq_zero (by rw [length_padOf, none])
    rw [preparedTc, empty, List.append_nil, same]

theorem textPlan_ok {p : Prepared} {hdr text : Buf} {hdrLimit : Nat} (total : 32 ≤ p.total ∧ p.total ≤ 886)
    (size : text.length = 4 * ((p.total + 12) / 3)) (short : hdr.length ≤ hdrLimit) (limit : hdrLimit ≤ 256) :
    ∃ pl, textPlan p hdr text hdrLimit = .ok pl := by
  have sum : (p.wgLen + p.padLen) % 2 ^ 32 = p.total := rfl
  have constant : gutB64MaxOut = 1200 := rfl
  unfold textPlan
  dsimp only
  rw [sum, rejectIf_ok (by unfold sub32; omega)]
  exact ⟨_, rfl⟩

theorem encodeInner_plain (found : parseEgress tc.skb = some pkt) (plain : PlainPacket mode cfg k tc pkt) (seq : UInt32)
    (outer : egressHdrLen mode pkt.wgType = gutHeaderSize) (fits : pkt.wgLen + padLenOf mode cfg pkt ≤ 886) :
    ∃ text, encodeInner (preparedOf mode cfg pkt seq port) (preparedTc mode cfg tc pkt) = .ok text ∧
      text.length = 4 * ((pkt.wgLen + padLenOf mode cfg pkt + 12) / 3) := by
  have inside := parseEgress_inside found
  have bounds := inside.lengths
  have body := length_bodyOf mode cfg inside plain.announced
  have off := wgOff_eq found plain.untagged plain.options
  obtain ⟨skb, width⟩ := preparedTc_plain found plain
  have encoded := encodeInner_ok (preparedOf mode cfg pkt seq port) (preparedTc mode cfg tc pkt) skb
    (by rw [width]; exact off) body.symm outer (by rw [wgMinPacket]; omega) (by omega)
  refine ⟨_, encoded, ?_⟩
  rw [Base64.length_encode, List.length_append, body]
  change 4 * ((10 + (pkt.wgLen + padLenOf mode cfg pkt) + 2) / 3) = _
  congr 2
  omega

theorem textPlan_plain_iff {hdr : Buf} {hdrLimit : Nat} (found : parseEgress tc.skb = some pkt)
    (plain : PlainPacket mode cfg k tc pkt) (seq : UInt32) (outer : egressHdrLen mode pkt.wgType = gutHeaderSize)
    (short : hdr.length ≤ hdrLimit) (limit : hdrLimit ≤ 256) :
    (∃ pl, (do
        let text ← orReject TcStop.ok (encodeInner (preparedOf mode cfg pkt seq port) (preparedTc mode cfg tc pkt)).toOption
        textPlan (preparedOf mode cfg pkt seq port) hdr text hdrLimit) = .ok pl ∧ pl.stuck = false) ↔
      pkt.wgLen + padLenOf mode cfg pkt ≤ 886 := by
  have bounds := (parseEgress_inside found).lengths
  have total := total_preparedOf mode cfg seq port plain.announced
  constructor
  · rintro ⟨pl, planned, -⟩
    obtain ⟨text, encoded, -⟩ := bind_eq_ok.mp planned
    have done : encodeInner (preparedOf mode cfg pkt seq port) (preparedTc mode cfg tc pkt) = .ok text := by
      rw [encodeInner_eq, orReject_eq_ok.mp encoded, orReject_some]
    have small := (encodeInner_inv outer done).1
    rw [total] at small
    exact small.2
  · intro fits
    obtain ⟨text, encoded, size⟩ := @encodeInner_plain _ _ _ _ _ port found plain seq outer fits
    obtain ⟨pl, planned⟩ := @textPlan_ok (preparedOf mode cfg pkt seq port) hdr _ hdrLimit
      (by rw [total]; exact ⟨by omega, fits⟩) (by rw [total]; exact size) short limit
    have some : (encodeInner (preparedOf mode cfg pkt seq port) (preparedTc mode cfg tc pkt)).toOption = .some text := by
      rw [encoded]
      rfl
    refine ⟨pl, ?_, ?_⟩
    · rw [some, orReject_some, bind_ok, planned]
    · obtain ⟨u, -, done⟩ := bind_eq_ok.mp planned
      cases done
      rfl

theorem planned_quic (p : Prepared) :
    (∃ pl, plan .quic cfg k p tc = .ok pl ∧ pl.stuck = false) ↔ (p.outer ≠ 16 → k.tailCall = true ∧ k.pullAgain = true) := by
  have stuck : (longPlan cfg k p).stuck = false ↔ k.tailCall = true ∧ k.pullAgain = true := by
    change (!k.tailCall || !k.pullAgain) = false ↔ _
    cases k.tailCall <;> cases k.pullAgain <;> decide
  rw [← stuck]
  constructor
  · rintro ⟨pl, planned, going⟩ long
    cases planned
    rwa [if_neg long] at going
  · intro going
    refine ⟨_, rfl, ?_⟩
    by_cases short : p.outer = 16
    · rw [if_pos short]
      rfl
    · rw [if_neg short]
      exact going short

theorem planned_sip (p : Prepared) :
    (∃ pl, plan .sip cfg k p tc = .ok pl ∧ pl.stuck = false) ↔
      if p.wgType = 4 ∧ p.wgLen > 32 then 2 ≤ cfg.numPorts
      else k.tailCall = true ∧ ∃ pl, (do
        let text ← orReject TcStop.ok (encodeInner p tc).toOption
        textPlan p (writeSipHeader cfg p.wgType p.wgLen k.taiNs) text 256) = .ok pl ∧ pl.stuck = false := by
  have start := length_viaStart cfg p.wgType p.wgLen
  have length := length_writeSipHeader cfg p.wgType p.wgLen k.taiNs
  have bounds : ¬((writeSipHeader cfg p.wgType p.wgLen k.taiNs).length % 2 ^ 9 < 40 ∨
      (writeSipHeader cfg p.wgType p.wgLen k.taiNs).length % 2 ^ 9 > 256) := by
    omega
  unfold plan
  dsimp only
  by_cases data : p.wgType = 4 ∧ p.wgLen > 32
  · rw [if_pos data, if_pos data]
    constructor
    · rintro ⟨pl, planned, -⟩
      obtain ⟨u, enough, -⟩ := bind_eq_ok.mp planned
      exact Nat.not_lt.mp (rejectIf_eq_ok.mp enough)
    · intro enough
      rw [rejectIf_ok (by omega)]
      exact ⟨_, rfl, rfl⟩
  · rw [if_neg data, if_neg data]
    cases k.tailCall with
    | false =>
        rw [rejectIf_eq_error.mpr ⟨rfl, rfl⟩, bind_error]
        simp only [reduceCtorEq, false_and, exists_false]
    | true =>
        -- `simp` would leave the kernel to unfold `textPlan`
        have same (text : Buf) : (do
            rejectIf TcStop.ok ((writeSipHeader cfg p.wgType p.wgLen k.taiNs).length % 2 ^ 9 < 40 ∨
              (writeSipHeader cfg p.wgType p.wgLen k.taiNs).length % 2 ^ 9 > 256)
            textPlan p (writeSipHeader cfg p.wgType p.wgLen k.taiNs) text 256) =
              textPlan p (writeSipHeader cfg p.wgType p.wgLen k.taiNs) text 256 := by
          rw [rejectIf_ok bounds, bind_ok]
        rw [rejectIf_ok (by decide), bind_ok]
        simp only [same, true_and]

theorem plan_plain_iff (found : parseEgress tc.skb = some pkt) (plain : PlainPacket mode cfg k tc pkt) (seq : UInt32) :
    (∃ pl, plan mode cfg k (preparedOf mode cfg pkt seq port) (preparedTc mode cfg tc pkt) = .ok pl ∧ pl.stuck = false) ↔
      Encodable mode cfg k pkt := by
  cases mode with
  | gut => exact ⟨fun _ => trivial, fun _ => ⟨_, rfl, rfl⟩⟩
  | quic =>
      have outer : (preparedOf .quic cfg pkt seq port).outer = if pkt.wgType = 1 ∨ pkt.wgType = 3 then 1200 else 16 := rfl
      rw [planned_quic, outer]
      unfold Encodable
      split_ifs with long <;> simp [long]
  | syslog =>
      have short : (writeSyslogAscii cfg k.taiNs).length ≤ 68 := by
        rw [length_writeSyslogAscii]
        omega
      exact textPlan_plain_iff found plain seq rfl short (by decide)
  | sip =>
      have start := length_viaStart cfg pkt.wgType pkt.wgLen
      have fits := @textPlan_plain_iff _ _ _ _ _ port (writeSipHeader cfg pkt.wgType pkt.wgLen k.taiNs) 256
        found plain seq rfl (by rw [length_writeSipHeader]; omega) (Nat.le_refl _)
      rw [planned_sip]
      unfold Encodable
      dsimp only
      rw [← fits]
      rfl

theorem fits_plain (found : parseEgress tc.skb = some pkt) (plain : PlainPacket mode cfg k tc pkt)
    (planned : plan mode cfg k (preparedOf mode cfg pkt (nextSeq tc) port) (preparedTc mode cfg tc pkt) = .ok pl) :
    pl.Fits k pkt.ver (preparedTc mode cfg tc pkt).skb ↔ k.pullData = true ∧ pl.stuck = false := by
  refine ⟨fun fits => ⟨fits.pulled, fits.going⟩, fun ⟨pulled, going⟩ => ?_⟩
  have ends := plain.ends
  have off := wgOff_eq found plain.untagged plain.options
  have length := length_preparedTc mode cfg tc pkt
  have total := total_preparedOf mode cfg (nextSeq tc) port plain.announced
  refine ⟨pulled, going, by omega, ?_⟩
  rcases plan_cases rfl planned with prepends | ⟨hdr, replaces⟩
  · rw [prepends.room]
    omega
  · have room := replaces.room
    omega

theorem padLenOf_pos (text : mode = .syslog ∨ mode = .sip) : 0 < padLenOf mode cfg pkt := by
  rcases text with rfl | rfl <;> simp only [padLenOf, egressPadLen] <;> split <;> omega

theorem textPlan_error {p : Prepared} {hdr text : Buf} {hdrLimit : Nat} {v : TcStop}
    (stopped : textPlan p hdr text hdrLimit = .error v) : v = .ok := by
  rcases bind_eq_error.mp stopped with early | ⟨u, -, done⟩
  · exact (rejectIf_eq_error.mp early).2
  · cases done

theorem plan_error {p : Prepared} {v : TcStop} (stopped : plan mode cfg k p tc = .error v) :
    (mode = .syslog ∨ mode = .sip) ∧
      (v = .ok ∨ v = .shot ∧ mode = .sip ∧ (p.wgType = 4 ∧ p.wgLen > 32) ∧ cfg.numPorts < 2) := by
  cases mode with
  | gut => cases stopped
  | quic => cases stopped
  | syslog =>
      refine ⟨.inl rfl, .inl ?_⟩
      rcases bind_eq_error.mp stopped with early | ⟨text, -, late⟩
      · exact (orReject_eq_error.mp early).2
      · exact textPlan_error late
  | sip =>
      refine ⟨.inr rfl, ?_⟩
      unfold plan at stopped
      dsimp only at stopped
      split_ifs at stopped with media
      · rcases bind_eq_error.mp stopped with early | ⟨u, -, done⟩
        · obtain ⟨few, rfl⟩ := rejectIf_eq_error.mp early
          exact .inr ⟨rfl, rfl, media, few⟩
        · cases done
      · left
        rcases bind_eq_error.mp stopped with early | ⟨u, -, late⟩
        · exact (rejectIf_eq_error.mp early).2
        rcases bind_eq_error.mp late with early | ⟨text, -, late⟩
        · exact (orReject_eq_error.mp early).2
        rcases bind_eq_error.mp late with early | ⟨u, -, late⟩
        · exact (rejectIf_eq_error.mp early).2
        · exact textPlan_error late

theorem plan_room {p : Prepared} (sized : p.outer = egressHdrLen mode p.wgType) (planned : plan mode cfg k p tc = .ok pl) :
    0 < pl.room := by
  rcases plan_cases sized planned with prepends | ⟨hdr, replaces⟩
  · have bounds := prepends.bounds
    omega
  · have room := replaces.room
    have total := replaces.total
    have header : (gutHeader p.ppn p.encPorts p.padLen).length = 10 := rfl
    have inside := replaces.inside
    rw [replaces.head, List.length_append, Base64.length_encode, List.length_append, header, length_slice] at room
    omega

end Lemmas

section Runs

variable {mode : ObfsMode} {cfg : GutConfig} {k : Kernel} {tc tc' : Tc} {pkt : WgPacket} {port : UInt16} {pl : Plan}
  {route : Route} {v : TcStop}

theorem gutEgress_unprepared (stopped : prepare mode cfg k tc = .error (v, tc')) :
    gutEgress mode cfg k tc = (.stop v, tc') := by
  unfold gutEgress
  rw [stopped, bind_error]

theorem gutEgress_stopped (found : parseEgress tc.skb = some pkt) (prepares : Prepares mode cfg k tc pkt port)
    (stopped : emit mode cfg k (preparedOf mode cfg pkt (nextSeq tc) port) (preparedTc mode cfg tc pkt) = .error (v, tc')) :
    gutEgress mode cfg k tc = (.stop v, tc') := by
  unfold gutEgress
  rw [prepare_prepares found prepares, bind_ok]
  dsimp only
  rw [stopped]

theorem gutEgress_refused (found : parseEgress tc.skb = some pkt) (prepares : Prepares mode cfg k tc pkt port)
    (planned : plan mode cfg k (preparedOf mode cfg pkt (nextSeq tc) port) (preparedTc mode cfg tc pkt) = .ok pl)
    (refused : k.adjustRoom = false) : gutEgress mode cfg k tc = (.stop .ok, preparedTc mode cfg tc pkt) := by
  apply gutEgress_stopped found prepares
  rw [(emit_carriesOut rfl planned).1 (.inl refused), carryOut, if_pos refused]
  rfl

theorem gutEgress_grown (found : parseEgress tc.skb = some pkt) (prepares : Prepares mode cfg k tc pkt port)
    (planned : plan mode cfg k (preparedOf mode cfg pkt (nextSeq tc) port) (preparedTc mode cfg tc pkt) = .ok pl)
    (adjusted : k.adjustRoom = true) :
    (∃ route, Sends mode cfg k tc pkt port pl route) ∨
      ∃ tc', gutEgress mode cfg k tc = (.stop .ok, tc') ∧ tc'.skb.length ≠ tc.skb.length := by
  have room := plan_room rfl planned
  have length := length_preparedTc mode cfg tc pkt
  obtain ⟨carries, breaks⟩ := emit_carriesOut (p := preparedOf mode cfg pkt (nextSeq tc) port) rfl planned
  by_cases fits : pl.Fits k pkt.ver (preparedTc mode cfg tc pkt).skb
  · cases routed : routeOf cfg tc.clientMap (wgIndex pkt) pkt.ver with
    | some route => exact .inl ⟨route, prepares, planned, adjusted, fits, routed⟩
    | none =>
        right
        obtain ⟨carried, inside⟩ := @carryOut_fits cfg _ _ _ (preparedOf mode cfg pkt (nextSeq tc) port) adjusted fits
        have unrouted : routeOf cfg (preparedTc mode cfg tc pkt).clientMap (wgIndex pkt) pkt.ver = none := routed
        have stopped := carries (.inr fits)
        rw [carried, finish_eq inside] at stopped
        simp only [preparedOf, unrouted] at stopped
        refine ⟨_, gutEgress_stopped found prepares stopped, ?_⟩
        rw [length_writeOuterLengths, length_overwrite, length_shifted]
        omega
  · obtain ⟨skb, stopped, grown⟩ := breaks adjusted fits
    exact .inr ⟨_, gutEgress_stopped found prepares stopped, by dsimp only; omega⟩

theorem NoneHalfDone.stopped (whole : NoneHalfDone mode cfg k tc) (found : parseEgress tc.skb = some pkt)
    (done : gutEgress mode cfg k tc = (.stop .ok, tc')) : tc'.skb = tc.skb ∧ ¬Unroutable cfg tc pkt := by
  refine ⟨?_, fun unroutable => whole.unroutable pkt found unroutable (by rw [done])⟩
  have outcome := whole.outcome
  rwa [done] at outcome

theorem settled_of_prepares (ethernet : 14 ≤ tc.macLen) (link : be16At tc.skb 12 ≠ ethP8021Q → tc.macLen = 14)
    (whole : NoneHalfDone mode cfg k tc) (found : parseEgress tc.skb = some pkt)
    (prepares : Prepares mode cfg k tc pkt port) : Settled mode cfg k tc pkt := by
  cases planned : plan mode cfg k (preparedOf mode cfg pkt (nextSeq tc) port) (preparedTc mode cfg tc pkt) with
  | error v =>
      have done := gutEgress_stopped found prepares (emit_stops planned)
      obtain ⟨text, rfl | ⟨-, build, media, few⟩⟩ := plan_error planned
      · have padded := @padLenOf_pos _ cfg pkt text
        have unpadded := (preparedTc_eq_iff.mp (whole.stopped found done).1).1
        omega
      · exact .portless port prepares build media few
  | ok pl =>
      cases room : k.adjustRoom with
      | false =>
          obtain ⟨same, routable⟩ := whole.stopped found (gutEgress_refused found prepares planned room)
          obtain ⟨unpadded, unmasked⟩ := preparedTc_eq_iff.mp same
          have build : mode = .gut ∨ mode = .quic := by
            cases mode with
            | gut => exact .inl rfl
            | quic => exact .inr rfl
            | syslog => exact absurd unpadded (padLenOf_pos (.inl rfl)).ne'
            | sip => exact absurd unpadded (padLenOf_pos (.inr rfl)).ne'
          exact .untouched port prepares build room unpadded unmasked routable
      | true =>
          rcases gutEgress_grown found prepares planned room with ⟨route, sends⟩ | ⟨tc', done, longer⟩
          · obtain ⟨tc', done, skb⟩ := gutEgress_sent found sends
            have outcome := whole.outcome
            rw [done] at outcome
            obtain ⟨pkt', found', pos, family, formed⟩ := outcome
            obtain rfl : pkt = pkt' := Option.some.inj (found.symm.trans found')
            rw [skb] at formed
            have untagged : be16At tc.skb 12 ≠ ethP8021Q :=
              fun tagged => tagged_malformed found sends ethernet tagged family formed
            have plain := plain_of_formed_egress found sends (link untagged) untagged formed
            have encodable := (plan_plain_iff found plain _).mp ⟨pl, planned, sends.fits.going⟩
            exact .sent port route prepares ⟨room, sends.fits.pulled⟩ encodable sends.routed plain
          · exact absurd (congrArg List.length (whole.stopped found done).1) longer

theorem settled_of_noneHalfDone (ethernet : 14 ≤ tc.macLen) (link : be16At tc.skb 12 ≠ ethP8021Q → tc.macLen = 14)
    (whole : NoneHalfDone mode cfg k tc) (found : parseEgress tc.skb = some pkt) : Settled mode cfg k tc pkt := by
  have start := @prepare_eq cfg _ _ mode k found
  by_cases dropped : keepaliveDropped cfg k.prandom pkt.wgType pkt.wgLen = true
  · exact .dropped dropped
  by_cases oversized : mode = .syslog ∧ pkt.wgLen > gutB64WgMtuMax
  · exact .oversized oversized.1 oversized.2
  rw [if_neg dropped, if_neg oversized] at start
  cases selected : tunnelPort mode cfg (nextSeq tc) with
  | none =>
      rw [selected] at start
      exact .declined (.inl selected) (whole.stopped found (gutEgress_unprepared start)).2
  | some port =>
      rw [selected] at start
      dsimp only at start
      by_cases refused : 0 < padLenOf mode cfg pkt ∧ k.changeTail = false
      · rw [if_pos refused] at start
        exact .declined (.inr refused) (whole.stopped found (gutEgress_unprepared start)).2
      by_cases initiation : cfg.dynamicPeer ≠ 0 ∧ pkt.wgType = 1
      · rw [if_neg refused, if_pos initiation] at start
        exact absurd ⟨initiation.1, .inl initiation.2⟩ (whole.stopped found (gutEgress_unprepared start)).2
      rw [if_neg refused, if_neg initiation] at start
      obtain ⟨port, prepares⟩ := prepares_of_prepare found start
      exact settled_of_prepares ethernet link whole found prepares

theorem noneHalfDone_shot (done : gutEgress mode cfg k tc = (.stop .shot, tc')) : NoneHalfDone mode cfg k tc := by
  refine ⟨?_, fun pkt found unroutable => ?_⟩ <;> rw [done]
  · trivial
  · simp

theorem noneHalfDone_passed (found : parseEgress tc.skb = some pkt) (routable : ¬Unroutable cfg tc pkt)
    (done : gutEgress mode cfg k tc = (.stop .ok, tc')) (same : tc'.skb = tc.skb) : NoneHalfDone mode cfg k tc := by
  refine ⟨?_, fun pkt' found' unroutable => ?_⟩
  · rw [done]
    exact same
  · obtain rfl : pkt = pkt' := Option.some.inj (found.symm.trans found')
    exact absurd unroutable routable

theorem noneHalfDone_of_settled (link : be16At tc.skb 12 ≠ ethP8021Q → tc.macLen = 14) (found : parseEgress tc.skb = some pkt)
    (settled : Settled mode cfg k tc pkt) : NoneHalfDone mode cfg k tc := by
  have start := @prepare_eq cfg _ _ mode k found
  by_cases dropped : keepaliveDropped cfg k.prandom pkt.wgType pkt.wgLen = true
  · rw [if_pos dropped] at start
    exact noneHalfDone_shot (gutEgress_unprepared start)
  by_cases oversized : mode = .syslog ∧ pkt.wgLen > gutB64WgMtuMax
  · rw [if_neg dropped, if_pos oversized] at start
    exact noneHalfDone_shot (gutEgress_unprepared start)
  rw [if_neg dropped, if_neg oversized] at start
  cases settled with
  | dropped lost => exact absurd lost dropped
  | oversized text large => exact absurd ⟨text, large⟩ oversized
  | declined early routable =>
      cases selected : tunnelPort mode cfg (nextSeq tc) with
      | none =>
          rw [selected] at start
          exact noneHalfDone_passed found routable (gutEgress_unprepared start) rfl
      | some port =>
          rw [selected] at start
          dsimp only at start
          rw [if_pos (early.resolve_left (by simp [selected]))] at start
          exact noneHalfDone_passed found routable (gutEgress_unprepared start) rfl
  | portless port prepares build media few =>
      subst build
      have stopped : plan .sip cfg k (preparedOf .sip cfg pkt (nextSeq tc) port) (preparedTc .sip cfg tc pkt) =
          .error .shot := by
        have media' : (preparedOf .sip cfg pkt (nextSeq tc) port).wgType = 4 ∧
            (preparedOf .sip cfg pkt (nextSeq tc) port).wgLen > 32 := media
        unfold plan
        dsimp only
        rw [if_pos media', rejectIf_eq_error.mpr ⟨few, rfl⟩, bind_error]
      exact noneHalfDone_shot (gutEgress_stopped found prepares (emit_stops stopped))
  | untouched port prepares build refused unpadded unmasked routable =>
      have planned : ∃ pl, plan mode cfg k (preparedOf mode cfg pkt (nextSeq tc) port) (preparedTc mode cfg tc pkt) =
          .ok pl := by
        rcases build with rfl | rfl <;> exact ⟨_, rfl⟩
      obtain ⟨pl, planned⟩ := planned
      exact noneHalfDone_passed found routable (gutEgress_refused found prepares planned refused)
        (preparedTc_eq_iff.mpr ⟨unpadded, unmasked⟩)
  | sent port route prepares helpers encodable routed plain =>
      obtain ⟨pl, planned, going⟩ := (@plan_plain_iff _ _ _ _ _ port found plain (nextSeq tc)).mpr encodable
      have fits := (fits_plain found plain planned).mpr ⟨helpers.2, going⟩
      have sends : Sends mode cfg k tc pkt port pl route := ⟨prepares, planned, helpers.1, fits, routed⟩
      obtain ⟨tc', done, skb⟩ := gutEgress_sent found sends
      refine ⟨?_, fun pkt' found' unroutable => by simp [done]⟩
      rw [done]
      refine ⟨pkt, found, { ver := pkt.ver, ipOff := 14 }, rfl, ?_⟩
      rw [skb]
      exact formed_of_plain_egress found sends (link plain.untagged) plain

theorem gutEgress_noneHalfDone_iff (ethernet : 14 ≤ tc.macLen) (link : be16At tc.skb 12 ≠ ethP8021Q → tc.macLen = 14) :
    NoneHalfDone mode cfg k tc ↔ ∀ pkt, parseEgress tc.skb = some pkt → Settled mode cfg k tc pkt := by
  constructor
  · intro whole pkt found
    exact settled_of_noneHalfDone ethernet link whole found
  · intro settled
    cases found : parseEgress tc.skb with
    | some pkt => exact noneHalfDone_of_settled link found (settled pkt found)
    | none =>
        have done : gutEgress mode cfg k tc = (.stop .ok, tc) := by
          apply gutEgress_unprepared
          unfold prepare
          rw [found]
          rfl
        refine ⟨?_, fun pkt found' => ?_⟩
        · rw [done]
          rfl
        · rw [found] at found'
          cases found'

theorem gutEgress_noneHalfDone_keepalive : NoneHalfDone .gut sampleConfig sampleKernel (sampleTc 0) := by
  refine (gutEgress_noneHalfDone_iff (by decide) fun _ => rfl).mpr fun pkt found => ?_
  obtain rfl := Option.some.inj ((parseEgress_ok (sampleTc_input 0) (keepalive_message 0)).symm.trans found)
  refine .sent 41000 (configuredRoute sampleConfig .v4) ⟨by decide +kernel, nofun, ?_, fun _ => rfl, fun dynamic => absurd rfl dynamic⟩
    ⟨rfl, rfl⟩ trivial rfl ⟨by decide, fun _ => by decide, by decide, by decide, by decide +kernel, fun _ => by decide +kernel⟩
  decide +kernel

def dynamicConfig : GutConfig := { sampleConfig with dynamicPeer := 1 }

-- masked and with room for a header, but without an address: the packet goes on up the stack
theorem gutEgress_unrouted_passed :
    (gutEgress .gut dynamicConfig sampleKernel (sampleTc 0)).1 = .stop .ok ∧
      (gutEgress .gut dynamicConfig sampleKernel (sampleTc 0)).2.skb ≠ (sampleTc 0).skb := by
  decide +kernel

end Runs

end Gutd.Bpf
