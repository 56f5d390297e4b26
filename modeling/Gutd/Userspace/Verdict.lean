import Gutd.Userspace.Decap

set_option autoImplicit false

namespace Gutd.Userspace

open Bytes Checked Wire

theorem verifyHdrLen_total (buf : Buf) (obfs : ObfsMode) (some : 0 < buf.length) :
    ∃ found, verifyHdrLen buf obfs = .ok found := by
  unfold verifyHdrLen
  rw [getByte_ok some, bind_ok]
  split_ifs <;> exact ⟨_, rfl⟩

theorem verifyHeader_total {buf : Buf} (hdrLen : Nat) (key : ChachaInit) (rounds : UInt8) (obfs : ObfsMode)
    (ks47 : Block) (enough : 20 ≤ buf.length) : ∃ b, verifyHeader buf hdrLen key rounds obfs ks47 = .ok b := by
  unfold verifyHeader
  split_ifs with gut short tiny
  · rw [readLe32_ok (by omega), bind_ok]
    exact ⟨_, rfl⟩
  · rw [readLe32_ok (by omega), bind_ok, readLe32_ok (by omega), bind_ok]
    exact ⟨_, rfl⟩
  · exact ⟨_, rfl⟩
  · dsimp only
    rw [readLe32_ok (by omega), bind_ok, readLe32_ok (by omega), bind_ok]
    exact ⟨_, rfl⟩

theorem obfsVerify_total {buf : Buf} {size : Nat} (key : ChachaInit) (rounds : UInt8) (obfs : ObfsMode)
    (inside : size ≤ buf.length) : ∃ b, obfsVerify buf size key rounds obfs = .ok b := by
  unfold obfsVerify
  split_ifs with empty
  · exact ⟨_, rfl⟩
  obtain ⟨found, header⟩ := verifyHdrLen_total buf obfs (by omega)
  rw [header, bind_ok]
  cases found with
  | none => exact ⟨_, rfl⟩
  | some hdrLen =>
      dsimp only
      split_ifs with short
      · exact ⟨_, rfl⟩
      rw [getByte_ok (by omega), bind_ok]
      split_ifs
      · exact ⟨_, rfl⟩
      · exact ⟨_, rfl⟩
      rw [subslice_ok (by omega) (by omega), bind_ok, wgNonce32_ok, bind_ok]
      exact verifyHeader_total _ _ _ _ _ (by omega)

def firstForm (obfs : ObfsMode) (first : UInt8) : Option Form :=
  if obfs ≠ .quic then some .gut
  else if first &&& 0xC0 = 0xC0 then some .quicLong
  else if first &&& 0x40 = 0x40 then some .quicShort
  else none

def Marked (p : Buf) : Form → Prop
  | .gut => True
  | .quicShort => byteAt p 5 = 0x01
  | .quicLong => byteAt p 5 = 0x08

def Matches (ch : Channel) (p : Buf) (form : Form) : Prop :=
  let ks47 := ch.ks47 (p.drop form.headerLen)
  match form with
  | .gut => le32At p 0 = ks47.get 10
  | .quicShort => le32At p 1 = ks47.get 9 ∧ le32At p 6 = ks47.get 10
  | .quicLong => le32At p 6 = ch.ks99.get 0 ∧ le32At p 15 = ks47.get 10

def ballastAt (p : Buf) (form : Form) : Nat := ballastLen (byteAt p (form.headerLen - 1))

structure Verified (ch : Channel) (obfs : ObfsMode) (p : Buf) (form : Form) : Prop where
  first : firstForm obfs (byteAt p 0) = some form
  marked : Marked p form
  sized : form.headerLen + 32 + ballastAt p form ≤ p.length
  agrees : Matches ch p form

variable {ch : Channel} {obfs : ObfsMode} {p : Buf} {form : Form}

theorem verifyHdrLen_some (obfs : ObfsMode) (rest : Buf) (enough : 6 ≤ p.length) {hdrLen : Nat} :
    verifyHdrLen (p ++ rest) obfs = .ok (some hdrLen) ↔
      ∃ form, firstForm obfs (byteAt p 0) = some form ∧ Marked p form ∧ hdrLen = form.headerLen := by
  have inside : 5 < p.length + rest.length := by omega
  unfold verifyHdrLen firstForm
  rw [getByte_ok (by simp; omega), bind_ok, byteAt_append_left p rest 0 (by omega),
    byteAt_append_left p rest 5 (by omega)]
  by_cases gut : obfs ≠ .quic
  · simp [gut, Marked, Form.headerLen, gutHeaderSize, eq_comm]
  by_cases long : byteAt p 0 &&& 0xC0 = 0xC0
  · simp only [if_neg gut, if_pos long]
    by_cases marker : byteAt p 5 = 0x08 <;>
      simp [Marked, Form.headerLen, gutQuicLongHeaderSize, marker, inside, eq_comm]
  by_cases short : byteAt p 0 &&& 0x40 = 0x40
  · simp only [if_neg gut, if_neg long, if_pos short]
    by_cases marker : byteAt p 5 = 0x01 <;>
      simp [Marked, Form.headerLen, gutQuicShortHeaderSize, marker, inside, eq_comm]
  · simp only [if_neg gut, if_neg long, if_neg short]
    simp

theorem firstForm_gut (first : UInt8) (found : firstForm obfs first = some form) : form = .gut ↔ obfs ≠ .quic := by
  unfold firstForm at found
  split_ifs at found <;> cases found <;> simp_all

theorem nonceOf_congr {a b : Buf} (wholeA : 32 ≤ a.length) (wholeB : 32 ≤ b.length)
    (same : ∀ i, i < 32 → byteAt a i = byteAt b i) : nonceOf a = nonceOf b := by
  have word (off : Nat) (front : off + 4 ≤ 32) : le32At a off = le32At b off := by
    apply le32At_congr
    intro k small
    exact same (off + k) (by omega)
  unfold nonceOf
  rw [if_neg (by omega), if_neg (by omega), word 16 (by omega), word 20 (by omega), word 24 (by omega),
    word 28 (by omega)]

theorem nonceOf_slice {hdrLen n : Nat} (rest : Buf) (message : 32 ≤ n) (inside : hdrLen + n ≤ p.length) :
    nonceOf (slice (p ++ rest) hdrLen (hdrLen + n)) = nonceOf (p.drop hdrLen) := by
  apply nonceOf_congr (by simp; omega) (by simp; omega)
  intro i front
  rw [byteAt_slice, if_pos (by omega), byteAt_append_left _ _ _ (by omega), byteAt_drop]

theorem verifyHeader_iff (rest : Buf) (chosen : firstForm obfs (byteAt p 0) = some form)
    (whole : form.headerLen + 32 ≤ p.length) :
    verifyHeader (p ++ rest) form.headerLen ch.key ch.rounds obfs (ch.ks47 (p.drop form.headerLen)) = .ok true ↔
      Matches ch p form := by
  have mode := firstForm_gut _ chosen
  have word (off : Nat) (inside : off + 4 ≤ p.length) : le32At (p ++ rest) off = le32At p off :=
    le32At_append_left p rest off inside
  unfold verifyHeader Matches
  cases form with
  | gut =>
      simp only [Form.headerLen] at whole
      rw [if_pos (mode.mp rfl), readLe32_ok (by simp; omega), bind_ok, word _ (by omega)]
      simp
  | quicShort =>
      have quic : obfs = .quic := by simpa using mode
      simp only [Form.headerLen] at whole
      rw [if_neg (by simp [quic]), if_pos (by rfl), readLe32_ok (by simp; omega), bind_ok, readLe32_ok (by simp; omega),
        bind_ok, word _ (by omega), word _ (by omega)]
      simp
  | quicLong =>
      have quic : obfs = .quic := by simpa using mode
      simp only [Form.headerLen] at whole
      rw [if_neg (by simp [quic]), if_neg (by decide), if_neg (by simp; omega), readLe32_ok (by simp; omega), bind_ok,
        readLe32_ok (by simp; omega), bind_ok, word _ (by omega), word _ (by omega)]
      simp [Channel.ks99, Channel.block]

theorem obfsVerify_iff (ch : Channel) (obfs : ObfsMode) (p rest : Buf) (enough : 6 ≤ p.length) :
    obfsVerify (p ++ rest) p.length ch.key ch.rounds obfs = .ok true ↔ ∃ form, Verified ch obfs p form := by
  obtain ⟨found, header⟩ := verifyHdrLen_total (p ++ rest) obfs (by simp; omega)
  unfold obfsVerify
  rw [if_neg (by omega), header, bind_ok]
  cases found with
  | none =>
      simp only [pure_eq_ok, Except.ok.injEq, Bool.false_eq_true, false_iff, not_exists]
      intro form verified
      have again := (verifyHdrLen_some obfs rest enough).mpr ⟨form, verified.first, verified.marked, rfl⟩
      rw [header] at again
      cases again
  | some hdrLen =>
      obtain ⟨form, chosen, marked, rfl⟩ := (verifyHdrLen_some obfs rest enough).mp header
      have positive := headerLen_pos form
      have only (form' : Form) (verified : Verified ch obfs p form') : form' = form := by
        simpa [chosen, eq_comm] using verified.first
      dsimp only
      by_cases sized : form.headerLen + 32 + ballastAt p form ≤ p.length
      · have ballast : ballastLen (byteAt (p ++ rest) (form.headerLen - 1)) = ballastAt p form := by
          rw [byteAt_append_left _ _ _ (by omega), ballastAt]
        have width : form.headerLen + (p.length - form.headerLen - ballastAt p form) ≤ p.length := by omega
        rw [if_neg (by omega), getByte_ok (by simp; omega), bind_ok, ballast, if_neg (by omega), if_neg (by omega),
          subslice_ok (by omega) (by simp; omega), bind_ok, wgNonce32_ok, bind_ok,
          nonceOf_slice rest (by omega) width]
        rw [show chachaBlockFast ch.key 47 (nonceOf (p.drop form.headerLen)) ch.rounds = ch.ks47 (p.drop form.headerLen)
          from rfl, verifyHeader_iff rest chosen (by omega)]
        constructor
        · intro agrees
          exact ⟨form, chosen, marked, sized, agrees⟩
        · rintro ⟨form', verified⟩
          obtain rfl := only form' verified
          exact verified.agrees
      · have none : ¬∃ form, Verified ch obfs p form := by
          rintro ⟨form', verified⟩
          obtain rfl := only form' verified
          exact sized verified.sized
        simp only [none, iff_false]
        split_ifs with short
        · simp
        rw [getByte_ok (by simp; omega), bind_ok, byteAt_append_left _ _ _ (by omega)]
        have ballast : ballastLen (byteAt p (form.headerLen - 1)) = ballastAt p form := rfl
        rw [ballast]
        split_ifs with large small
        · simp
        · simp
        · omega

def maskedMessage (p : Buf) (form : Form) : Buf := slice p form.headerLen (p.length - ballastAt p form)

theorem decapHdrLen_first (rest : Buf) (nonempty : 0 < p.length) (chosen : firstForm obfs (byteAt p 0) = some form) :
    decapHdrLen (p ++ rest) obfs = .ok (some form.headerLen) := by
  have long : ∀ b : UInt8, b &&& 0xC0 = 0xC0 → b &&& 0x80 = 0x80 := forall_byte (by decide)
  have short : ∀ b : UInt8, ¬b &&& 0xC0 = 0xC0 → b &&& 0x40 = 0x40 → ¬b &&& 0x80 = 0x80 := forall_byte (by decide)
  unfold firstForm at chosen
  unfold decapHdrLen
  split_ifs at chosen with gut isLong isShort
  · cases chosen
    rw [if_pos gut]
    rfl
  · cases chosen
    rw [if_neg gut, getByte_ok (by simp; omega), bind_ok, byteAt_append_left _ _ _ nonempty, if_pos (long _ isLong)]
    rfl
  · cases chosen
    rw [if_neg gut, getByte_ok (by simp; omega), bind_ok, byteAt_append_left _ _ _ nonempty,
      if_neg (short _ isLong isShort), if_pos isShort]
    rfl

theorem readEncPorts_form (form : Form) (rest : Buf) (whole : form.headerLen ≤ p.length) :
    readEncPorts (p ++ rest) form.headerLen = .ok (le32At p form.portsOff) := by
  unfold readEncPorts
  cases form with
  | gut =>
      simp only [Form.headerLen] at whole
      rw [if_pos (by rfl), readLe32_ok (by simp; omega), le32At_append_left _ _ _ (by omega)]
      rfl
  | quicShort =>
      simp only [Form.headerLen] at whole
      rw [if_neg (by decide), if_pos (by rfl), readLe32_ok (by simp; omega), le32At_append_left _ _ _ (by omega)]
      rfl
  | quicLong =>
      simp only [Form.headerLen] at whole
      rw [if_neg (by decide), if_neg (by decide), readLe32_ok (by simp; omega), le32At_append_left _ _ _ (by omega)]
      rfl

theorem Verified.length_message (verified : Verified ch obfs p form) :
    (maskedMessage p form).length = p.length - form.headerLen - ballastAt p form := by
  have sized := verified.sized
  rw [maskedMessage, length_slice]
  omega

theorem Verified.ks47 (verified : Verified ch obfs p form) :
    ch.ks47 (p.drop form.headerLen) = ch.ks47 (maskedMessage p form) := by
  have sized := verified.sized
  have same := nonceOf_slice (p := p) (n := p.length - ballastAt p form - form.headerLen) [] (by omega)
    (show form.headerLen + (p.length - ballastAt p form - form.headerLen) ≤ p.length by omega)
  rw [List.append_nil, Nat.add_sub_cancel' (by omega)] at same
  rw [Channel.ks47, ← same, Channel.ks47, maskedMessage]

theorem obfsDecap_verified (verified : Verified ch obfs p form) (rest : Buf) :
    ∃ plain, obfsDecap ch.order (p ++ rest) p.length ch.key ch.rounds obfs =
        .ok (plain, some ((maskedMessage p form).length,
          ((le32At p form.portsOff ^^^ (ch.ks47 (maskedMessage p form)).get 11) >>> 16).toUInt16,
          ((le32At p form.portsOff ^^^ (ch.ks47 (maskedMessage p form)).get 11) &&& 0xFFFF).toUInt16)) ∧
      plain.take (maskedMessage p form).length =
        unmask (ch.keystream (maskedMessage p form)) (maskedMessage p form) := by
  have sized := verified.sized
  have positive := headerLen_pos form
  have width := verified.length_message
  obtain ⟨m, message⟩ : ∃ m, maskedMessage p form = m := ⟨_, rfl⟩
  rw [message] at width ⊢
  obtain ⟨front, taken⟩ : ∃ front, p.take form.headerLen = front := ⟨_, rfl⟩
  have header : front.length = form.headerLen := by
    rw [← taken]
    simp
    omega
  have split : p ++ rest = front ++ (m ++ (p.drop (p.length - ballastAt p form) ++ rest)) := by
    have rejoin := slice_append_drop p form.headerLen (p.length - ballastAt p form - form.headerLen)
    rw [Nat.add_sub_cancel' (by omega), ← maskedMessage, message] at rejoin
    rw [← taken, ← List.append_assoc m, rejoin, ← List.append_assoc, List.take_append_drop]
  have ports := readEncPorts_form (p := p) form rest (by omega)
  rw [split, ← header] at ports
  have decapped := decapPayload_ok ch _ _ _ _ ports (by omega)
  rw [header, ← split] at decapped
  have stages : obfsDecap ch.order (p ++ rest) p.length ch.key ch.rounds obfs =
      decapPayload ch.order (p ++ rest) form.headerLen m.length ch.key ch.rounds := by
    unfold obfsDecap
    rw [if_neg (by omega), decapHdrLen_first rest (by omega) verified.first, bind_ok]
    simp only
    rw [if_neg (by omega), getByte_ok (by simp; omega), bind_ok, byteAt_append_left _ _ _ (by omega), ← ballastAt,
      if_neg (by omega), ← width]
  refine ⟨_, stages.trans decapped, ?_⟩
  rw [overwrite_zero _ _ (by simp; omega), List.take_left' (by simp)]

end Gutd.Userspace
