import Gutd.Bpf.XdpRejection
import Gutd.Userspace.Ingress
import Gutd.Userspace.Verdict

set_option autoImplicit false

namespace Gutd

open Bytes Checked Wire Bpf Userspace

def xdpForm (mode : ObfsMode) (first : UInt8) : Option Form :=
  match mode with
  | .quic =>
      if first = 0x40 then some .quicShort
      else if first &&& 0x80 = 0x80 then some .quicLong
      else none
  | _ => some .gut

theorem outerHdrLen_eq (mode : ObfsMode) (first : UInt8) :
    outerHdrLen mode first = (xdpForm mode first).map Form.headerLen := by
  cases mode with
  | quic =>
      simp only [outerHdrLen, xdpForm]
      split_ifs <;> rfl
  | gut | syslog | sip => rfl

def leftUdpLen (n : Nat) (q : Buf) (form : Form) : Nat :=
  sub32 (sub32 (n + 8) (ballastAt q form)) form.headerLen % 2 ^ 16

structure Admitted (ch : Channel) (mode : ObfsMode) (n : Nat) (q : Buf) (form : Form) : Prop where
  first : xdpForm mode (byteAt q 0) = some form
  marked : Marked q form
  front : form.headerLen + 32 ≤ q.length
  agrees : Matches ch q form
  ballast : ballastAt q form ≤ 63
  message : ballastAt q form + 32 ≤ sub32 n form.headerLen
  datagram : max 8 (leftUdpLen n q form) + form.headerLen + ballastAt q form ≤ q.length + 8

section Frame

variable {key : Vector UInt8 32} {mode : ObfsMode} {cfg : GutConfig} {ver : IpVersion} {form : Form} {frame : Buf}

def received (ver : IpVersion) (n : Nat) : Received :=
  { pos := { ver, ipOff := 14 }, udpLen := n + 8, wgLen := n }

theorem messageBlock_eq (keyed : cfg.Keyed key) (n outer : Nat)
    (front : outer + 32 ≤ (frame.drop (payloadOff ver)).length) :
    messageBlock cfg (received ver n) frame outer = (channel key).ks47 ((frame.drop (payloadOff ver)).drop outer) := by
  have nonce := wgNonce32_eq ((frame.drop (payloadOff ver)).drop outer) [] (by simp only [List.length_drop] at front ⊢; omega)
  rw [List.append_nil, List.drop_drop] at nonce
  rw [messageBlock, List.drop_drop, ← keyed.ks47, ← nonce]
  rfl

theorem genuine_iff (keyed : cfg.Keyed key) (n : Nat) (chosen : xdpForm mode (byteAt frame (payloadOff ver)) = some form)
    (front : form.headerLen + 32 ≤ (frame.drop (payloadOff ver)).length) :
    Genuine mode cfg (received ver n) frame form.headerLen ↔
      Marked (frame.drop (payloadOff ver)) form ∧ Matches (channel key) (frame.drop (payloadOff ver)) form := by
  have dcid : le32At cfg.quicDcid.toList 0 = (channel key).ks99.get 0 := by
    rw [keyed.dcid, le32At_append_left _ _ _ (by simp)]
    exact le32_toLeBytes _
  have wgOff : (received ver n).wgOff = payloadOff ver := rfl
  rw [Genuine, messageBlock_eq keyed n _ front, wgOff]
  unfold Matches
  generalize (channel key).ks47 ((frame.drop (payloadOff ver)).drop form.headerLen) = ks47
  cases mode with
  | quic =>
      simp only [xdpForm] at chosen
      split_ifs at chosen with short long
      · cases chosen
        simp only [headerMatches, Form.headerLen, Marked, byteAt_drop, le32At_drop, if_true, Bool.and_eq_true, beq_iff_eq]
        tauto
      · cases chosen
        simp only [headerMatches, Form.headerLen, Marked, byteAt_drop, le32At_drop, dcid, Nat.reduceEqDiff, if_false,
          Bool.and_eq_true, beq_iff_eq]
        tauto
  | gut | syslog | sip =>
      cases chosen
      simp only [headerMatches, Marked, le32At_drop, Nat.add_zero, beq_iff_eq, true_and]

theorem ballastOf_eq (n : Nat) (form : Form) :
    ballastOf (received ver n) frame form.headerLen = ballastAt (frame.drop (payloadOff ver)) form := by
  have positive := headerLen_pos form
  rw [ballastOf, ballastAt, byteAt_drop, ← Nat.add_sub_assoc (by omega)]
  rfl

theorem opens_iff (keyed : cfg.Keyed key) (n : Nat) (form : Form) :
    Opens mode cfg (received ver n) frame form.headerLen ∧ xdpForm mode (byteAt frame (payloadOff ver)) = some form ↔
      Admitted (channel key) mode n (frame.drop (payloadOff ver)) form := by
  have wgOff : (received ver n).wgOff = payloadOff ver := rfl
  have udpOff : (received ver n).pos.udpOff + 8 = payloadOff ver := rfl
  have small : payloadOff ver ≤ 62 := by cases ver <;> decide
  have constants : wgMinPacket = 32 := rfl
  have left : innerUdpLen (received ver n) frame form.headerLen = leftUdpLen n (frame.drop (payloadOff ver)) form := by
    rw [innerUdpLen, ballastOf_eq, leftUdpLen]
    rfl
  constructor
  · rintro ⟨⟨⟨known, front⟩, genuine, ⟨ballast, message⟩, ⟨headers, datagram⟩⟩, chosen⟩
    have room : form.headerLen + 32 ≤ (frame.drop (payloadOff ver)).length := by
      rw [List.length_drop]
      omega
    obtain ⟨marked, agrees⟩ := (genuine_iff keyed n chosen room).mp genuine
    rw [ballastOf_eq] at ballast message datagram
    rw [left] at datagram
    refine ⟨by simpa using chosen, marked, room, agrees, ballast, message, ?_⟩
    generalize leftUdpLen n (frame.drop (payloadOff ver)) form = remaining at datagram ⊢
    rw [List.length_drop]
    omega
  · rintro ⟨first, marked, front, agrees, ballast, message, datagram⟩
    have chosen : xdpForm mode (byteAt frame (payloadOff ver)) = some form := by simpa using first
    have room := front
    rw [List.length_drop] at room datagram
    refine ⟨⟨⟨?_, by omega⟩, (genuine_iff keyed n chosen front).mpr ⟨marked, agrees⟩, ⟨?_, ?_⟩, ⟨?_, ?_⟩⟩, chosen⟩
    · rw [outerHdrLen_eq, wgOff, chosen]
      rfl
    · rw [ballastOf_eq]
      exact ballast
    · rw [ballastOf_eq]
      exact message
    · exact small
    · rw [left, ballastOf_eq]
      generalize leftUdpLen n (frame.drop (payloadOff ver)) form = remaining at datagram ⊢
      omega

theorem opens_cases {n outer : Nat} (opens : Opens mode cfg (received ver n) frame outer) :
    ∃ form : Form, xdpForm mode (byteAt frame (payloadOff ver)) = some form ∧ outer = form.headerLen := by
  have known := opens.readable.form
  rw [outerHdrLen_eq] at known
  obtain ⟨form, chosen, same⟩ := Option.map_eq_some_iff.mp known
  exact ⟨form, chosen, same.symm⟩

theorem accepts_iff {x : Xdp} {p : Buf} {sport dport : UInt16} (plain : mode = .gut ∨ mode = .quic)
    (keyed : cfg.Keyed key) (port : isGutPort dport cfg = true) (isUdp : UdpFrame ver sport dport p x.frame)
    (enough : 32 ≤ p.length) :
    (∃ x', gutXdpCore mode cfg x = .ok x') ↔
      ∃ form, Admitted (channel key) mode p.length (x.frame.drop (payloadOff ver)) form := by
  have core := (gutXdpCore_plain (parseWg_ok isUdp port enough) plain).1
  have ethernet : 14 ≤ (received ver p.length).pos.ipOff := Nat.le_refl 14
  constructor
  · rintro ⟨x', accepted⟩
    by_contra refused
    have closed (outer : Nat) : ¬Opens mode cfg (received ver p.length) x.frame outer := by
      intro opens
      obtain ⟨form, chosen, rfl⟩ := opens_cases opens
      exact refused ⟨form, (opens_iff keyed p.length form).mp ⟨opens, chosen⟩⟩
    obtain ⟨x'', failed, -⟩ := openDatagram_error closed ethernet
    cases core.symm.trans accepted |>.symm.trans failed
  · rintro ⟨form, admitted⟩
    obtain ⟨x', opened, -⟩ := openDatagram_opens ((opens_iff keyed p.length form).mpr admitted).1 ethernet
    exact ⟨x', core.trans opened⟩

end Frame

section Verdicts

variable {ch : Channel} {mode : ObfsMode} {p : Buf} {form form' : Form}

theorem marked_append (trail : Buf) (form : Form) (enough : 6 ≤ p.length) : Marked (p ++ trail) form ↔ Marked p form := by
  cases form <;> simp only [Marked] <;> rw [byteAt_append_left p trail 5 (by omega)]

theorem matches_append (ch : Channel) (trail : Buf) (form : Form) (whole : form.headerLen + 32 ≤ p.length) :
    Matches ch (p ++ trail) form ↔ Matches ch p form := by
  have nonce : nonceOf ((p ++ trail).drop form.headerLen) = nonceOf (p.drop form.headerLen) := by
    apply nonceOf_congr (by simp; omega) (by simp; omega)
    intro i front
    rw [byteAt_drop, byteAt_drop, byteAt_append_left _ _ _ (by omega)]
  have word (off : Nat) (inside : off + 4 ≤ 32) : le32At (p ++ trail) off = le32At p off :=
    le32At_append_left p trail off (by omega)
  unfold Matches
  rw [Channel.ks47, nonce, ← Channel.ks47]
  cases form with
  | gut => rw [word 0 (by omega)]
  | quicShort => rw [word 1 (by omega), word 6 (by omega)]
  | quicLong => rw [word 6 (by omega), word 15 (by omega)]

theorem ballastAt_append (trail : Buf) (form : Form) (whole : form.headerLen ≤ p.length) :
    ballastAt (p ++ trail) form = ballastAt p form := by
  have positive := headerLen_pos form
  rw [ballastAt, byteAt_append_left _ _ _ (by omega), ballastAt]

theorem xdpForm_top : ∀ first : UInt8, first &&& 0x80 = 0x80 → xdpForm .quic first = some .quicLong :=
  forall_byte (by decide)

theorem firstForm_top : ∀ first : UInt8, first &&& 0x80 = 0x80 →
    first &&& 0xC0 = 0xC0 ∧ firstForm .quic first = some .quicLong ∨
      first &&& 0xC0 = 0x80 ∧ firstForm .quic first = none :=
  forall_byte (by decide)

theorem top_of_bits : ∀ first : UInt8, first &&& 0xC0 = 0xC0 ∨ first &&& 0xC0 = 0x80 → first &&& 0x80 = 0x80 :=
  forall_byte (by decide)

theorem forms_quic : ∀ first : UInt8, firstForm .quic first = none ∨ xdpForm .quic first = none ∨
    firstForm .quic first = xdpForm .quic first :=
  forall_byte (by decide)

theorem forms_agree (plain : mode = .gut ∨ mode = .quic) {first : UInt8} (chosen : firstForm mode first = some form)
    (known : xdpForm mode first = some form') : form = form' := by
  rcases plain with rfl | rfl
  · cases chosen
    cases known
    rfl
  · rcases forms_quic first with unknown | unknown | same
    · simp [unknown] at chosen
    · simp [unknown] at known
    · rw [chosen, known] at same
      exact Option.some.inj same

theorem admitted_of_sized (trail : Buf) (known : xdpForm mode (byteAt p 0) = some form) (marked : Marked p form)
    (sized : form.headerLen + 32 + ballastAt p form ≤ p.length) (agrees : Matches ch p form)
    (ballast : ballastAt p form ≤ 63) (bounded : p.length + 8 < 2 ^ 16) :
    Admitted ch mode p.length (p ++ trail) form := by
  have positive := headerLen_pos form
  have padding := ballastAt_append trail form (show form.headerLen ≤ p.length by omega)
  refine ⟨?_, (marked_append trail form (by omega)).mpr marked, by simp; omega,
    (matches_append ch trail form (by omega)).mpr agrees, by omega, ?_, ?_⟩
  · rw [byteAt_append_left _ _ _ (by omega), known]
  · rw [padding, sub32]
    omega
  · have left : leftUdpLen p.length (p ++ trail) form = p.length + 8 - ballastAt p form - form.headerLen := by
      unfold leftUdpLen sub32
      omega
    rw [left, padding, List.length_append]
    omega

theorem verified_of_admitted {trail : Buf} (admitted : Admitted ch mode p.length (p ++ trail) form)
    (enough : 6 ≤ p.length) (bounded : p.length + 8 < 2 ^ 16) (whole : form.headerLen ≤ p.length)
    (chosen : firstForm mode (byteAt p 0) = some form) : Verified ch mode p form := by
  have message := admitted.message
  rw [ballastAt_append trail form whole, sub32] at message
  have sized : form.headerLen + 32 + ballastAt p form ≤ p.length := by omega
  exact ⟨chosen, (marked_append trail form enough).mp admitted.marked, sized,
    (matches_append ch trail form (by omega)).mp admitted.agrees⟩

structure SameVerdict (ch : Channel) (mode : ObfsMode) (p trail : Buf) : Prop where
  ballast : ∀ form, Verified ch mode p form → ballastAt p form ≤ 63
  -- userspace ignores the low bits of a short header's first byte
  shortBits : mode = .quic → Verified ch mode p .quicShort → byteAt p 0 = 0x40
  -- the XDP receiver ignores the second bit of a long header's first byte
  fixedBit : mode = .quic → byteAt p 0 &&& 0xC0 = 0x80 → Marked p .quicLong → Matches ch p .quicLong →
    ballastAt p .quicLong ≤ 63 → p.length < 1232 + ballastAt p .quicLong
  -- it subtracts 1200 from the announced length without a check; bytes behind the datagram then stand in for the message
  overrun : mode = .quic → byteAt p 0 &&& 0x80 = 0x80 → p.length < 1200 → 1232 ≤ (p ++ trail).length →
    Marked p .quicLong → Matches ch (p ++ trail) .quicLong → ballastAt (p ++ trail) .quicLong ≤ 63 →
    p.length < 1192 + ballastAt (p ++ trail) .quicLong ∧ trail.length < 65536

theorem overrun_datagram {trail : Buf} (short : p.length < 1200) (enough : 48 ≤ p.length)
    (room : 1232 ≤ (p ++ trail).length) (ballast : ballastAt (p ++ trail) .quicLong ≤ 63) :
    max 8 (leftUdpLen p.length (p ++ trail) .quicLong) + 1200 + ballastAt (p ++ trail) .quicLong ≤ (p ++ trail).length + 8 ↔
      ¬(p.length < 1192 + ballastAt (p ++ trail) .quicLong ∧ trail.length < 65536) := by
  unfold leftUdpLen sub32
  simp only [Form.headerLen]
  generalize ballastAt (p ++ trail) .quicLong = b at ballast
  rw [List.length_append] at room ⊢
  omega

section

variable {trail : Buf} (plain : mode = .gut ∨ mode = .quic) (bounded : p.length + 8 < 2 ^ 16)

include plain bounded

theorem SameVerdict.verified (same : SameVerdict ch mode p trail) (enough : 42 ≤ p.length)
    (enoughQuic : mode = .quic → 48 ≤ p.length) (admitted : Admitted ch mode p.length (p ++ trail) form) :
    Verified ch mode p form := by
  have first := admitted.first
  rw [byteAt_append_left _ _ _ (by omega)] at first
  rcases plain with rfl | rfl
  · cases first
    exact verified_of_admitted admitted (by omega) bounded (by simp only [Form.headerLen]; omega) rfl
  · have quic := enoughQuic rfl
    simp only [xdpForm] at first
    split_ifs at first with short long
    · cases first
      exact verified_of_admitted admitted (by omega) bounded (by simp only [Form.headerLen]; omega)
        (by rw [short]; decide)
    · cases first
      have marked := (marked_append trail .quicLong (by omega)).mp admitted.marked
      by_cases whole : 1200 ≤ p.length
      · have message := admitted.message
        rw [ballastAt_append trail .quicLong whole, sub32] at message
        simp only [Form.headerLen] at message
        have agrees := (matches_append ch trail .quicLong (by simp only [Form.headerLen]; omega)).mp admitted.agrees
        have ballast := admitted.ballast
        rw [ballastAt_append trail .quicLong whole] at ballast
        rcases firstForm_top _ long with ⟨-, chosen⟩ | ⟨high, -⟩
        · exact verified_of_admitted admitted (by omega) bounded whole chosen
        · have fits := same.fixedBit rfl high marked agrees ballast
          omega
      · have room := admitted.front
        simp only [Form.headerLen] at room
        have clipped := same.overrun rfl long (by omega) (by omega) marked admitted.agrees admitted.ballast
        exact absurd clipped ((overrun_datagram (by omega) quic (by omega) admitted.ballast).mp admitted.datagram)

theorem SameVerdict.admitted (same : SameVerdict ch mode p trail) (verified : Verified ch mode p form) :
    Admitted ch mode p.length (p ++ trail) form := by
  apply admitted_of_sized trail _ verified.marked verified.sized verified.agrees (same.ballast form verified) bounded
  have first := verified.first
  rcases plain with rfl | rfl
  · exact first
  · simp only [firstForm] at first
    split_ifs at first with gut long short
    · exact absurd rfl gut
    · cases first
      exact xdpForm_top _ (top_of_bits _ (.inl long))
    · cases first
      rw [same.shortBits rfl verified]
      rfl

theorem sameVerdict_of_iff (enough : 42 ≤ p.length) (enoughQuic : mode = .quic → 48 ≤ p.length)
    (agree : (∃ form, Admitted ch mode p.length (p ++ trail) form) ↔ ∃ form, Verified ch mode p form) :
    SameVerdict ch mode p trail := by
  have both (form : Form) (verified : Verified ch mode p form) : Admitted ch mode p.length (p ++ trail) form := by
    obtain ⟨form', admitted⟩ := agree.mpr ⟨form, verified⟩
    have first := admitted.first
    rw [byteAt_append_left _ _ _ (by omega)] at first
    obtain rfl := forms_agree plain verified.first first
    exact admitted
  refine ⟨?_, ?_, ?_, ?_⟩
  · intro form verified
    have sized := verified.sized
    have ballast := (both form verified).ballast
    rwa [ballastAt_append trail form (by omega)] at ballast
  · rintro rfl verified
    have first := (both .quicShort verified).first
    rw [byteAt_append_left _ _ _ (by omega)] at first
    simp only [xdpForm] at first
    split_ifs at first with short long
    · exact short
    · cases first
  · rintro rfl high marked agrees ballast
    by_contra fits
    have top := top_of_bits _ (.inr high)
    obtain ⟨form, verified⟩ := agree.mp ⟨.quicLong, admitted_of_sized trail (xdpForm_top _ top) marked
      (by simp only [Form.headerLen]; omega) agrees ballast bounded⟩
    rcases firstForm_top _ top with ⟨both, -⟩ | ⟨-, unknown⟩
    · rw [high] at both
      exact absurd both (by decide)
    · simp [verified.first] at unknown
  · rintro rfl top short room marked agrees ballast
    by_contra clipped
    have quic := enoughQuic rfl
    have known : xdpForm .quic (byteAt (p ++ trail) 0) = some .quicLong := by
      rw [byteAt_append_left _ _ _ (by omega), xdpForm_top _ top]
    have message : ballastAt (p ++ trail) .quicLong + 32 ≤ sub32 p.length 1200 := by
      unfold sub32
      omega
    have datagram := (overrun_datagram short quic room ballast).mpr clipped
    obtain ⟨form, verified⟩ := agree.mp ⟨.quicLong, known, (marked_append trail .quicLong (by omega)).mpr marked, room,
      agrees, ballast, message, datagram⟩
    obtain rfl := forms_agree (.inr rfl) verified.first (xdpForm_top _ top)
    have sized := verified.sized
    simp only [Form.headerLen] at sized
    omega

end

end Verdicts

-- The XDP receiver looks for the second MAC in the message and its ballast together. What it unmasks of the message
-- for that reason must be masked by zeros.
def WindowKept (ks m : Buf) (ballast : Nat) : Prop :=
  ∀ off, mac2Off (typeOf (xorAt m 0 (slice ks 0 16))) (m.length + ballast) = some off → m.length < off + 16 →
    ∀ i, off + i < m.length → byteAt ks (16 + i) = 0

theorem mac2Off_shorter {type : UInt8} {n off : Nat} (len : Nat) (found : mac2Off type n = some off) :
    mac2Off type len = if off + 16 ≤ len then some off else none := by
  simp only [mac2Off] at found ⊢
  split_ifs at found with init response
  · cases found
    simp [init.1]
  · cases found
    simp [response.1]

theorem mac2Off_none {type : UInt8} {n len : Nat} (absent : mac2Off type n = none) (shorter : len ≤ n) :
    mac2Off type len = none := by
  cases found : mac2Off type len with
  | none => rfl
  | some off =>
      have bounds := mac2Off_bounds found
      have longer := mac2Off_shorter n found
      rw [if_pos (by omega), absent] at longer
      cases longer

theorem unmaskMac2_split (front m tail ks : Buf) (n : Nat) (nonempty : 0 < m.length) (block : ks.length = 64)
    (longer : m.length ≤ n) (inside : n ≤ m.length + tail.length) :
    ∃ m' tail', unmaskMac2 (front ++ (m ++ tail)) front.length n ks = front ++ (m' ++ tail') ∧ m'.length = m.length ∧
      tail'.length = tail.length ∧
      (m' = maskMac2 ks (typeOf m) m ↔ ∀ off, mac2Off (typeOf m) n = some off → m.length < off + 16 →
        ∀ i, off + i < m.length → byteAt ks (16 + i) = 0) := by
  have type : byteAt (front ++ (m ++ tail)) front.length &&& 0x1F = typeOf m := by
    rw [byteAt_append, if_neg (by omega), Nat.sub_self, byteAt_append_left _ _ _ nonempty, typeOf]
  have width : (slice ks 16 32).length = 16 := by simp [block]
  unfold unmaskMac2 maskMac2
  rw [type]
  cases found : mac2Off (typeOf m) n with
  | none =>
      rw [mac2Off_none found longer]
      exact ⟨m, tail, rfl, rfl, rfl, by simp⟩
  | some off =>
      have bounds := mac2Off_bounds found
      have fits : ¬front.length + off + 16 > (front ++ (m ++ tail)).length := by simp; omega
      have masked : Bpf.xor16 (front ++ (m ++ tail)) (front.length + off) (ks.drop 16) =
          front ++ ((xorAt (m ++ tail) off (slice ks 16 32)).take m.length ++
            (xorAt (m ++ tail) off (slice ks 16 32)).drop m.length) := by
        rw [List.take_append_drop]
        exact xorAt_append_right _ _ _ _
      refine ⟨_, _, by simp only [if_neg fits]; exact masked, by simp, by simp, ?_⟩
      rw [mac2Off_shorter m.length found]
      by_cases whole : off + 16 ≤ m.length
      · rw [if_pos whole, xorAt_append_left m tail off _ (by omega), List.take_left' (by simp)]
        simp only [true_iff]
        intro off' same short
        cases same
        omega
      · have window (i : Nat) (inside : off + i < m.length) :
            byteAt ((xorAt (m ++ tail) off (slice ks 16 32)).take m.length) (off + i) =
              byteAt m (off + i) ^^^ byteAt ks (16 + i) := by
          rw [byteAt_take, if_pos inside, byteAt_xorAt, if_pos (by simp; omega), byteAt_append_left _ _ _ inside,
            byteAt_slice, if_pos (by omega), Nat.add_sub_cancel_left]
        rw [if_neg whole]
        constructor
        · intro same off' here short i bounded
          cases here
          have byte := window i bounded
          rw [same] at byte
          have zero : byteAt m (off + i) ^^^ 0 = byteAt m (off + i) ^^^ byteAt ks (16 + i) := by rw [UInt8.xor_zero, ← byte]
          exact ((UInt8.xor_right_inj _).mp zero).symm
        · intro zeros
          apply ext_byteAt (by simp)
          intro j bounded
          have small : j < m.length := by simpa using bounded
          by_cases before : j < off
          · rw [byteAt_take, if_pos small, byteAt_xorAt, if_neg (by omega), byteAt_append_left _ _ _ small]
          · have byte := window (j - off) (by omega)
            rw [Nat.add_sub_cancel' (by omega)] at byte
            rw [byte, zeros off rfl (by omega) (j - off) (by omega), UInt8.xor_zero]

section Opened

variable {key : Vector UInt8 32} {mode : ObfsMode} {cfg : GutConfig} {ver : IpVersion} {form : Form} {x : Xdp} {p : Buf}
  {sport dport : UInt16}

theorem encPortsOff_form (plain : mode = .gut ∨ mode = .quic) (first : UInt8) (known : xdpForm mode first = some form) :
    encPortsOff mode form.headerLen = form.portsOff := by
  rcases plain with rfl | rfl
  · cases known
    rfl
  · simp only [xdpForm] at known
    split_ifs at known <;> cases known <;> rfl

theorem frame_split (isUdp : UdpFrame ver sport dport p x.frame) (verified : Verified (channel key) mode p form) :
    ∃ headers outer pad trail,
      x.frame = headers ++ outer ++ (maskedMessage p form ++ (pad ++ trail)) ∧ headers.length = payloadOff ver ∧
        outer.length = form.headerLen ∧ pad.length = ballastAt p form ∧
        UdpHeaders ver sport dport (p.length + 8) headers := by
  obtain ⟨headers, trail, frame, length, fields⟩ := isUdp.split
  have sized := verified.sized
  have rejoin := slice_append_drop p form.headerLen (p.length - ballastAt p form - form.headerLen)
  rw [Nat.add_sub_cancel' (by omega), ← maskedMessage] at rejoin
  have whole : p = p.take form.headerLen ++ (maskedMessage p form ++ p.drop (p.length - ballastAt p form)) := by
    rw [rejoin, List.take_append_drop]
  refine ⟨headers, p.take form.headerLen, p.drop (p.length - ballastAt p form), trail, ?_, length, by simp; omega,
    by simp; omega, fields⟩
  rw [frame]
  nth_rewrite 1 [whole]
  simp only [List.append_assoc]

theorem le32At_payload {frame : Buf} (isUdp : UdpFrame ver sport dport p frame) (off : Nat) (inside : off + 4 ≤ p.length) :
    le32At frame (payloadOff ver + off) = le32At p off := by
  apply le32At_congr
  intro k small
  have byte := congrArg (byteAt · (off + k)) isUdp.payload
  simp only [byteAt_slice] at byte
  rw [if_pos (by omega)] at byte
  rw [← byte, Nat.add_assoc]

theorem drop_headers {frame : Buf} (isUdp : UdpFrame ver sport dport p frame) :
    frame.drop (payloadOff ver) = p ++ frame.drop (payloadOff ver + p.length) := by
  have rest := slice_append_drop frame (payloadOff ver) p.length
  rw [isUdp.payload] at rest
  exact rest.symm

theorem portsOff_inside (form : Form) : form.portsOff + 4 ≤ form.headerLen := by
  cases form <;> decide

theorem opened_frame (plain : mode = .gut ∨ mode = .quic) (keyed : cfg.Keyed key) (port : isGutPort dport cfg = true)
    (isUdp : UdpFrame ver sport dport p x.frame) (verified : Verified (channel key) mode p form)
    (admitted : Admitted (channel key) mode p.length (x.frame.drop (payloadOff ver)) form) :
    ∃ x' w, gutXdpCore mode cfg x = .ok x' ∧
      UdpFrame ver ((le32At p form.portsOff ^^^ ((channel key).ks47 (maskedMessage p form)).get 11) >>> 16).toUInt16
        ((le32At p form.portsOff ^^^ ((channel key).ks47 (maskedMessage p form)).get 11) &&& 0xFFFF).toUInt16 w x'.frame ∧
      (w = unmask ((channel key).keystream (maskedMessage p form)) (maskedMessage p form) ↔
        WindowKept ((channel key).keystream (maskedMessage p form)) (maskedMessage p form) (ballastAt p form)) := by
  have sized := verified.sized
  have positive := headerLen_pos form
  have bound := isUdp.headers.udpLen ▸ (be16At x.frame (14 + ver.headerLen + 4)).toNat_lt
  have core := (gutXdpCore_plain (parseWg_ok isUdp port (by omega)) plain).1
  have opens := ((opens_iff keyed p.length form).mpr admitted).1
  have opened := openDatagram_sized (x := x) opens.readable opens.genuine opens.sized
  have ports : innerPorts mode cfg (received ver p.length) x.frame form.headerLen =
      le32At p form.portsOff ^^^ (messageBlock cfg (received ver p.length) x.frame form.headerLen).get 11 := by
    have fits := portsOff_inside form
    rw [innerPorts, encPortsOff_form plain _ admitted.first]
    congr 1
    exact le32At_payload isUdp _ (by omega)
  obtain ⟨headers, outer, pad, trail, frame, length, outerLength, padLength, fields⟩ := frame_split isUdp verified
  have width := verified.length_message
  obtain ⟨m, message⟩ : ∃ m, maskedMessage p form = m := ⟨_, rfl⟩
  rw [message] at frame width ⊢
  have behind : (x.frame.drop (payloadOff ver)).drop form.headerLen = m ++ (pad ++ trail) := by
    rw [frame, List.drop_drop, ← length, ← outerLength, ← List.length_append, List.drop_left]
  have block : messageBlock cfg (received ver p.length) x.frame form.headerLen = (channel key).ks47 m := by
    rw [messageBlock_eq keyed _ _ admitted.front, behind, Channel.ks47, Channel.ks47]
    congr 1
    apply nonceOf_congr (by simp; omega) (by omega)
    intro i front
    exact byteAt_append_left _ _ _ (by omega)
  have stream : messageStream cfg (received ver p.length) x.frame form.headerLen = (channel key).keystream m := by
    rw [messageStream, block]
    rfl
  generalize stretch : (channel key).keystream m = ks at stream ⊢
  have ksLength : ks.length = 64 := by rw [← stretch]; simp [Channel.keystream]
  have start : (headers ++ outer).length = (received ver p.length).wgOff + form.headerLen := by
    rw [List.length_append, length, outerLength]
    rfl
  have unmaskedFront : frontUnmasked cfg (received ver p.length) x.frame form.headerLen =
      headers ++ outer ++ (xorAt m 0 (slice ks 0 16) ++ (pad ++ trail)) := by
    have middle := xorAt_middle (headers ++ outer) m (pad ++ trail) (slice ks 0 16) 0 (by simp; omega)
    rw [frontUnmasked, stream, ← start, frame]
    exact middle
  have count : sub32 (received ver p.length).wgLen form.headerLen = m.length + ballastAt p form := by
    unfold received sub32
    dsimp only
    omega
  obtain ⟨w, tail, unmasked, wLength, tailLength, kept⟩ := unmaskMac2_split (headers ++ outer)
    (xorAt m 0 (slice ks 0 16)) (pad ++ trail) ks (m.length + ballastAt p form) (by simp; omega) ksLength (by simp)
    (by simp; omega)
  have cut : unmaskedFrame cfg (received ver p.length) x.frame form.headerLen =
      headers ++ (outer ++ (w ++ (tail.take pad.length ++ tail.drop pad.length))) := by
    rw [unmaskedFrame, unmaskedFront, stream, count, ← start, unmasked, List.append_assoc, List.take_append_drop]
  have trimmed : (tail.take pad.length).length = ballastAt p form := by
    rw [List.length_take, tailLength, List.length_append]
    omega
  have lengths : w.length = m.length := by simpa using wLength
  obtain ⟨x', rest, delivered, frame', -⟩ := deliver_ok
    (x := { learned mode cfg (received ver p.length) x form.headerLen with
      frame := unmaskedFrame cfg (received ver p.length) x.frame form.headerLen })
    cfg { ver, ipOff := 14 } (p.length + 8) (le32At p form.portsOff ^^^ ((channel key).ks47 m).get 11) cut length (by simp)
    (by cases ver <;> decide) (by omega) (by omega)
  rw [outerLength, trimmed] at delivered
  rw [ports, block, ballastOf_eq, drop_headers isUdp, ballastAt_append _ _ (by omega)] at opened
  refine ⟨x', w, core.trans (opened.trans delivered), ?_, ?_⟩
  · rw [frame']
    exact UdpFrame.of_headers rest (by simpa using length) (writeInnerHeaders_fields cfg _ _ length (by omega) fields)
  · simp only [length_xorAt] at kept
    exact kept

end Opened

theorem receivers_agree_iff (key : Vector UInt8 32) (mode : ObfsMode) (cfg : GutConfig) (x : Xdp) (ver : IpVersion)
    (sport dport : UInt16) (p rest : Buf) (plain : mode = .gut ∨ mode = .quic) (enough : 42 ≤ p.length)
    (enoughQuic : mode = .quic → 48 ≤ p.length) (keyed : cfg.Keyed key) (port : isGutPort dport cfg = true)
    (isUdp : UdpFrame ver sport dport p x.frame) :
    (((∃ x', gutXdpCore mode cfg x = .ok x') ↔
        obfsVerify (p ++ rest) p.length (chachaInit key) Runtime.rounds mode = .ok true) ∧
      ∀ x', gutXdpCore mode cfg x = .ok x' → ∃ buf n sport' dport',
        obfsDecap .little (p ++ rest) p.length (chachaInit key) Runtime.rounds mode = .ok (buf, some (n, sport', dport')) ∧
          UdpFrame ver sport' dport' (buf.take n) x'.frame) ↔
      SameVerdict (channel key) mode p (x.frame.drop (payloadOff ver + p.length)) ∧
        ∀ form, Verified (channel key) mode p form →
          WindowKept ((channel key).keystream (maskedMessage p form)) (maskedMessage p form) (ballastAt p form) := by
  have bounded : p.length + 8 < 2 ^ 16 := isUdp.headers.udpLen ▸ (be16At x.frame (14 + ver.headerLen + 4)).toNat_lt
  have accepts := accepts_iff plain keyed port isUdp (by omega)
  have verifies := obfsVerify_iff (channel key) mode p rest (by omega)
  have tail := drop_headers isUdp
  rw [tail] at accepts
  constructor
  · rintro ⟨verdicts, results⟩
    have same := sameVerdict_of_iff plain bounded enough enoughQuic (accepts.symm.trans (verdicts.trans verifies))
    refine ⟨same, ?_⟩
    intro form verified
    have admitted := same.admitted plain bounded verified
    rw [← tail] at admitted
    obtain ⟨x', w, accepted, frame, kept⟩ := opened_frame plain keyed port isUdp verified admitted
    obtain ⟨buf, n, sport', dport', decapped, frame'⟩ := results x' accepted
    obtain ⟨buf', decapped', message⟩ := obfsDecap_verified verified rest
    obtain ⟨rfl, rfl, -⟩ : buf = buf' ∧ n = _ ∧ _ := by simpa using decapped.symm.trans decapped'
    exact kept.mp ((frame.payload_unique frame').trans message)
  · rintro ⟨same, windows⟩
    have agree : (∃ form, Admitted (channel key) mode p.length (p ++ x.frame.drop (payloadOff ver + p.length)) form) ↔
        ∃ form, Verified (channel key) mode p form := by
      constructor
      · rintro ⟨form, admitted⟩
        exact ⟨form, same.verified plain bounded enough enoughQuic admitted⟩
      · rintro ⟨form, verified⟩
        exact ⟨form, same.admitted plain bounded verified⟩
    refine ⟨accepts.trans (agree.trans verifies.symm), ?_⟩
    intro x' accepted
    obtain ⟨form, verified⟩ := agree.mp (accepts.mp ⟨x', accepted⟩)
    have admitted := same.admitted plain bounded verified
    rw [← tail] at admitted
    obtain ⟨x'', w, accepted', frame, kept⟩ := opened_frame plain keyed port isUdp verified admitted
    obtain ⟨buf, decapped, message⟩ := obfsDecap_verified verified rest
    obtain rfl : x' = x'' := by simpa using accepted.symm.trans accepted'
    refine ⟨buf, _, _, _, decapped, ?_⟩
    rw [message, ← kept.mpr (windows form verified)]
    exact frame

def probeHeaders (udpLen : UInt16) : Buf :=
  List.replicate 12 0 ++ [0x08, 0x00] ++ [0x45, 0, 0, 0, 0, 0, 0, 0, 64, 17, 0, 0, 10, 0, 0, 2, 10, 0, 0, 1] ++
    [0xCA, 0x6C, 0xA0, 0x28] ++ toBeBytes16 udpLen ++ [0, 0]

theorem probeHeaders_frame {p : Buf} {udpLen : UInt16} (length : udpLen.toNat = p.length + 8) :
    UdpFrame .v4 51820 41000 p (probeHeaders udpLen ++ p) := by
  have fields : UdpHeaders .v4 51820 41000 (p.length + 8) (probeHeaders udpLen) := by
    have version : byteAt (probeHeaders udpLen) 14 = 0x45 := rfl
    refine ⟨rfl, rfl, fun _ => by rw [version]; decide, rfl, rfl, ?_⟩
    rw [← length]
    exact congrArg UInt16.toNat (be16_toBeBytes16 udpLen)
  have frame := UdpFrame.of_headers [] rfl fields
  rwa [List.append_nil] at frame

theorem receivers_agree_iff_zeros :
    (((∃ x', gutXdpCore .gut sampleConfig (delivered (probeHeaders 50 ++ List.replicate 42 0)) = .ok x') ↔
        obfsVerify (List.replicate 42 0 ++ []) (List.replicate 42 (0 : UInt8)).length (chachaInit sampleKey) Runtime.rounds
          .gut = .ok true) ∧
      ∀ x', gutXdpCore .gut sampleConfig (delivered (probeHeaders 50 ++ List.replicate 42 0)) = .ok x' →
        ∃ buf n sport' dport',
          obfsDecap .little (List.replicate 42 0 ++ []) (List.replicate 42 (0 : UInt8)).length (chachaInit sampleKey)
              Runtime.rounds .gut = .ok (buf, some (n, sport', dport')) ∧
            UdpFrame .v4 sport' dport' (buf.take n) x'.frame) ↔
      SameVerdict (channel sampleKey) .gut (List.replicate 42 0)
          ((delivered (probeHeaders 50 ++ List.replicate 42 0)).frame.drop
            (payloadOff .v4 + (List.replicate 42 (0 : UInt8)).length)) ∧
        ∀ form, Verified (channel sampleKey) .gut (List.replicate 42 0) form →
          WindowKept ((channel sampleKey).keystream (maskedMessage (List.replicate 42 0) form))
            (maskedMessage (List.replicate 42 0) form) (ballastAt (List.replicate 42 0) form) :=
  receivers_agree_iff sampleKey .gut sampleConfig (delivered (probeHeaders 50 ++ List.replicate 42 0)) .v4 51820 41000
    (List.replicate 42 0) [] (.inl rfl) (by simp) nofun sampleConfig_keyed (by decide) (probeHeaders_frame (by simp))

def overpadded : Buf :=
  let w : Buf := [4, 0, 0, 0] ++ List.replicate 28 0
  gutHeader (((channel sampleKey).ks47 w).get 10) (packPorts 51820 41000 ^^^ ((channel sampleKey).ks47 w).get 11) 64 ++
    (mask ((channel sampleKey).keystream w) w ++ List.replicate 64 0)

theorem overpadded_refused :
    UdpFrame .v4 51820 41000 overpadded (probeHeaders 114 ++ overpadded) ∧
      obfsVerify overpadded overpadded.length (chachaInit sampleKey) Runtime.rounds .gut = .ok true ∧
      ∃ x', gutXdpCore .gut sampleConfig (delivered (probeHeaders 114 ++ overpadded)) = .error x' := by
  have carries : Carries (channel sampleKey) .gut ([4, 0, 0, 0] ++ List.replicate 28 0) (List.replicate 64 0) 51820 41000
      overpadded := by
    apply Carries.of_header _ rfl (by simp) (by simp)
    rw [List.length_replicate]
    exact gutHeader_header (channel sampleKey) _ 51820 41000 (Nat.le_refl 64)
  have length : overpadded.length = 106 := by simpa [Form.headerLen] using carries.length
  have frame : UdpFrame .v4 51820 41000 overpadded (probeHeaders 114 ++ overpadded) :=
    probeHeaders_frame (by rw [length]; rfl)
  have verified : obfsVerify (overpadded ++ []) overpadded.length (chachaInit sampleKey) Runtime.rounds .gut = .ok true :=
    obfsVerify_carried carries [] (by simp)
  rw [List.append_nil] at verified
  refine ⟨frame, verified, ?_⟩
  exact (gutXdpCore_carried (x := delivered (probeHeaders 114 ++ overpadded)) sampleConfig_keyed (.inl ⟨rfl, rfl⟩)
    (by decide) frame carries (by decide)).2 (by simp)

end Gutd
