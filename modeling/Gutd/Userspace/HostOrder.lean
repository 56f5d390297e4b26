import Gutd.Userspace.RoundTrip

set_option autoImplicit false

namespace Gutd.Userspace

open Bytes Checked Wire

theorem drop_flatMap_words (f : UInt32 → Buf) (width : ∀ x, (f x).length = 4) (words : List UInt32) (n : Nat) :
    (words.flatMap f).drop (4 * n) = (words.drop n).flatMap f := by
  induction words generalizing n with
  | nil => simp
  | cons x rest ih =>
      cases n with
      | zero => simp
      | succ n =>
          rw [List.flatMap_cons, List.drop_succ_cons, ← ih n, show 4 * (n + 1) = (f x).length + 4 * n by rw [width]; omega,
            List.drop_append]
          simp

theorem take_flatMap_words (f : UInt32 → Buf) (width : ∀ x, (f x).length = 4) (words : List UInt32) (n : Nat) :
    (words.flatMap f).take (4 * n) = (words.take n).flatMap f := by
  induction words generalizing n with
  | nil => simp
  | cons x rest ih =>
      cases n with
      | zero => simp
      | succ n =>
          rw [List.take_succ_cons, List.flatMap_cons, List.flatMap_cons, ← ih n,
            show 4 * (n + 1) = (f x).length + 4 * n by rw [width]; omega, List.take_length_add_append]

theorem flatMap_words_eq_iff (f g : UInt32 → Buf) (width : ∀ x, (f x).length = (g x).length) (words : List UInt32) :
    words.flatMap f = words.flatMap g ↔ ∀ x ∈ words, f x = g x := by
  induction words with
  | nil => simp
  | cons x rest ih =>
      rw [List.flatMap_cons, List.flatMap_cons, List.forall_mem_cons, ← ih]
      constructor
      · intro equal
        exact List.append_inj equal (width x)
      · rintro ⟨first, others⟩
        rw [first, others]

def Palindromic (x : UInt32) : Prop := toBeBytes x = toLeBytes x

instance (x : UInt32) : Decidable (Palindromic x) := inferInstanceAs (Decidable (_ = _))

theorem toNeBytes_eq_iff (sender receiver : ByteOrder) (x : UInt32) :
    toNeBytes sender x = toNeBytes receiver x ↔ sender = receiver ∨ Palindromic x := by
  cases sender <;> cases receiver <;> simp [toNeBytes, Palindromic, eq_comm]

theorem slice_blockBytes_eq_iff (sender receiver : ByteOrder) (block : Block) (i j : Nat) :
    slice (blockBytes sender block) (4 * i) (4 * j) = slice (blockBytes receiver block) (4 * i) (4 * j) ↔
      ∀ x ∈ (block.toList.drop i).take (j - i), sender = receiver ∨ Palindromic x := by
  simp only [slice, blockBytes, ← Nat.mul_sub, drop_flatMap_words _ (length_toNeBytes _),
    take_flatMap_words _ (length_toNeBytes _)]
  rw [flatMap_words_eq_iff _ _ (by simp)]
  simp only [toNeBytes_eq_iff]

theorem mask_eq_iff (ks ks' w : Buf) (block : ks.length = 64) (block' : ks'.length = 64) (whole : 16 ≤ w.length) :
    mask ks w = mask ks' w ↔
      slice ks 0 16 = slice ks' 0 16 ∧
        (mac2Off (typeOf w) w.length ≠ none → slice ks 16 32 = slice ks' 16 32) := by
  have front : (slice ks 0 16).length = (slice ks' 0 16).length := by simp [block, block']
  have back : (slice ks 16 32).length = (slice ks' 16 32).length := by simp [block, block']
  have width : (slice ks 0 16).length = 16 ∧ (slice ks 16 32).length = 16 := by simp [block]
  cases window : mac2Off (typeOf w) w.length with
  | none => simp [mask, maskMac2, window, xorAt_inj w 0 front (by omega)]
  | some off =>
      have bounds := mac2Off_bounds window
      simp only [mask, maskMac2, length_xorAt, window, ne_eq, reduceCtorEq, not_false_eq_true, true_implies]
      constructor
      · intro equal
        have first : slice ks 0 16 = slice ks' 0 16 := by
          apply (xorAt_inj w 0 front (by omega)).mp
          apply ext_byteAt (by simp)
          intro i inside
          -- the second MAC lies behind the front
          by_cases near : i < 16
          · have byte := congrArg (byteAt · i) equal
            simp only [byteAt_xorAt _ off] at byte
            rwa [if_neg (by omega), if_neg (by omega)] at byte
          · rw [byteAt_xorAt, if_neg (by omega), byteAt_xorAt, if_neg (by omega)]
        rw [first] at equal
        exact ⟨first, (xorAt_inj _ off back (by simp; omega)).mp equal⟩
      · rintro ⟨first, second⟩
        rw [first, second]

theorem unmask_mask_iff (ks ks' w : Buf) : unmask ks' (mask ks w) = w ↔ mask ks w = mask ks' w := by
  constructor
  · intro plain
    rw [← mask_unmask ks' (mask ks w), plain]
  · intro same
    rw [same, unmask_mask]

def maskWords (ks47 : Block) (w : Buf) : List UInt32 :=
  ks47.toList.take (if mac2Off (typeOf w) w.length = none then 4 else 8)

theorem unmaskedBy_eq_iff (receiver : ByteOrder) (ch : Channel) (w : Buf) (whole : 16 ≤ w.length) :
    unmaskedBy receiver ch w = w ↔ ch.order = receiver ∨ ∀ x ∈ maskWords (ch.ks47 w) w, Palindromic x := by
  rw [unmaskedBy, Channel.keystream, unmask_mask_iff, mask_eq_iff _ _ _ (by simp) (by simp) whole,
    slice_blockBytes_eq_iff ch.order receiver _ 0 4, slice_blockBytes_eq_iff ch.order receiver _ 4 8]
  have both : (ch.ks47 w).toList.take 8 = (ch.ks47 w).toList.take 4 ++ ((ch.ks47 w).toList.drop 4).take 4 := by
    rw [← List.take_add]
  by_cases same : ch.order = receiver
  · simp [same]
  · by_cases window : mac2Off (typeOf w) w.length = none
    · simp [same, maskWords, window]
    · simp only [same, maskWords, window, both, List.mem_append, List.drop_zero, Nat.sub_zero, false_or, ne_eq,
        not_false_eq_true, true_implies, if_false, Nat.reduceSub, or_imp, forall_and]

section Carried

variable {ch : Channel} {form : Form} {w pad p : Buf} {sport dport : UInt16}

@[simp] theorem length_unmaskedBy (receiver : ByteOrder) (ch : Channel) (w : Buf) :
    (unmaskedBy receiver ch w).length = w.length := by
  simp [unmaskedBy]

theorem mask_unmaskedBy (receiver : ByteOrder) (ch : Channel) (w : Buf) :
    mask (blockBytes receiver (ch.ks47 w)) (unmaskedBy receiver ch w) = mask (ch.keystream w) w := mask_unmask _ _

theorem ks47_unmaskedBy (receiver : ByteOrder) (ch : Channel) (w : Buf) : ch.ks47 (unmaskedBy receiver ch w) = ch.ks47 w := by
  rw [← ch.ks47_mask (blockBytes receiver (ch.ks47 w)), mask_unmaskedBy, ch.ks47_mask]

theorem carries_unmaskedBy (receiver : ByteOrder) (carries : Carries ch form w pad sport dport p) :
    Carries { ch with order := receiver } form (unmaskedBy receiver ch w) pad sport dport p := by
  have words : Channel.ks47 { ch with order := receiver } (unmaskedBy receiver ch w) = ch.ks47 w := ks47_unmaskedBy receiver ch w
  obtain ⟨⟨whole, ppn, ports, padLen, fields⟩, message, padding, body⟩ := carries
  refine ⟨⟨whole, by rw [words, ppn], by rw [words, ports], padLen, ?_⟩, by simpa using message, padding, ?_⟩
  · cases form with
    | gut => trivial
    | quicShort =>
        obtain ⟨first, marker, dcid⟩ := fields
        exact ⟨first, marker, by rw [words, dcid]⟩
    | quicLong => exact fields
  · rw [Channel.keystream, words, mask_unmaskedBy, body]

end Carried

theorem obfsEncap_decapBy (receiver : ByteOrder) (ch : Channel) (isServer : Bool) (sport dport : UInt16)
    (obfs : ObfsMode) (sipDomain : Buf) (nowNs : Nat) (buf : Buf) (n : Nat) (message : 32 ≤ n)
    (room : 1200 + n + 64 ≤ buf.length) :
    ∃ out len dcid,
      obfsEncap ch.order buf n ch.key ch.rounds isServer sport dport obfs sipDomain nowNs =
          .ok (out, some (len, dcid)) ∧
        len ≤ out.length ∧
        ∀ rest, ∃ plain, obfsDecap receiver (out.take len ++ rest) len ch.key ch.rounds obfs =
            .ok (plain, some (n, sport, dport)) ∧
          plain.take n = unmaskedBy receiver ch (buf.take n) := by
  obtain ⟨out, len, dcid, done⟩ := obfsEncap_total ch buf n isServer sport dport obfs sipDomain nowNs message room
  obtain ⟨p, rfl, rfl, carries⟩ := carries_of_obfsEncap ch message done
  have wLength : (buf.take n).length = n := by simp; omega
  have plainLength : (unmaskedBy receiver ch (buf.take n)).length = n := by rw [length_unmaskedBy, wLength]
  refine ⟨_, p.length, _, done, by simp, ?_⟩
  intro rest
  have decapped := obfsDecap_carriedBy receiver carries rest (encapForm_gut obfs (typeOf (buf.take n)) isServer)
  rw [wLength] at decapped
  rw [List.take_left' rfl]
  refine ⟨_, decapped, ?_⟩
  have length := carries.length
  rw [overwrite_zero _ _ (by simp; omega), List.take_left' plainLength]

theorem roundTrip_across_iff (sender receiver : ByteOrder) (key : Vector UInt8 32) (rounds : UInt8) (isServer : Bool)
    (sport dport : UInt16) (obfs : ObfsMode) (sipDomain : Buf) (nowNs : Nat) (buf : Buf) (n : Nat) (message : 32 ≤ n)
    (room : 1200 + n + 64 ≤ buf.length) :
    (∃ out len dcid,
      obfsEncap sender buf n (chachaInit key) rounds isServer sport dport obfs sipDomain nowNs =
          .ok (out, some (len, dcid)) ∧
        len ≤ out.length ∧
        ∀ rest, ∃ plain, obfsDecap receiver (out.take len ++ rest) len (chachaInit key) rounds obfs =
            .ok (plain, some (n, sport, dport)) ∧
          plain.take n = buf.take n) ↔
      sender = receiver ∨
        ∀ x ∈ maskWords (chachaBlockFast (chachaInit key) 47 (nonceOf (buf.take n)) rounds) (buf.take n),
          Palindromic x := by
  let ch : Channel := { order := sender, key := chachaInit key, rounds }
  have wLength : 16 ≤ (buf.take n).length := by simp; omega
  obtain ⟨out, len, dcid, encapped, inside, decapped⟩ := obfsEncap_decapBy receiver ch isServer sport dport obfs
    sipDomain nowNs buf n message room
  refine Iff.trans ?_ (unmaskedBy_eq_iff receiver ch (buf.take n) wLength)
  constructor
  · rintro ⟨out', len', dcid', encapped', -, recovered⟩
    obtain ⟨rfl, rfl, -⟩ : out = out' ∧ len = len' ∧ dcid = dcid' := by simpa using encapped.symm.trans encapped'
    obtain ⟨plain, result, payload⟩ := decapped []
    obtain ⟨plain', result', payload'⟩ := recovered []
    obtain rfl : plain = plain' := by simpa using result.symm.trans result'
    rw [← payload, payload']
  · intro survives
    rw [survives] at decapped
    exact ⟨out, len, dcid, encapped, inside, decapped⟩

def dataSlot : Buf := 4 :: List.replicate 1295 0

theorem length_dataSlot : dataSlot.length = 1296 := by
  rw [dataSlot, List.length_cons, List.length_replicate]

theorem roundTrip_across_keepalive :
    (∃ out len dcid,
      obfsEncap .big dataSlot 32 (chachaInit (Vector.replicate 32 7)) 4 true 51820 41000 .gut [] 0 =
          .ok (out, some (len, dcid)) ∧
        len ≤ out.length ∧
        ∀ rest, ∃ plain, obfsDecap .big (out.take len ++ rest) len (chachaInit (Vector.replicate 32 7)) 4 .gut =
            .ok (plain, some (32, 51820, 41000)) ∧
          plain.take 32 = dataSlot.take 32) ↔
      ByteOrder.big = ByteOrder.big ∨
        ∀ x ∈ maskWords (chachaBlockFast (chachaInit (Vector.replicate 32 7)) 47 (nonceOf (dataSlot.take 32)) 4)
            (dataSlot.take 32), Palindromic x :=
  roundTrip_across_iff .big .big (Vector.replicate 32 7) 4 true 51820 41000 .gut [] 0 dataSlot 32 (by decide)
    (Nat.le_of_eq length_dataSlot.symm)

-- the ports and the length arrive, the message does not
theorem keepalive_garbled :
    ∃ out len dcid plain,
      obfsEncap .little dataSlot 32 (chachaInit (Vector.replicate 32 7)) 4 true 51820 41000 .gut [] 0 =
          .ok (out, some (len, dcid)) ∧
        obfsDecap .big (out.take len) len (chachaInit (Vector.replicate 32 7)) 4 .gut =
          .ok (plain, some (32, 51820, 41000)) ∧
        plain.take 32 ≠ dataSlot.take 32 := by
  let ch : Channel := { order := .little, key := chachaInit (Vector.replicate 32 7), rounds := 4 }
  obtain ⟨out, len, dcid, encapped, -, decapped⟩ := obfsEncap_decapBy .big ch true 51820 41000 .gut [] 0 dataSlot 32
    (by decide) (Nat.le_of_eq length_dataSlot.symm)
  obtain ⟨plain, result, payload⟩ := decapped []
  rw [List.append_nil] at result
  refine ⟨out, len, dcid, plain, encapped, result, ?_⟩
  rw [payload, Ne, unmaskedBy_eq_iff .big ch _ (by decide)]
  have noticed : ((maskWords (ch.ks47 (dataSlot.take 32)) (dataSlot.take 32)).all fun x => decide (Palindromic x)) = false := by
    decide +kernel
  rintro (same | unnoticed)
  · cases same
  · have every := List.all_eq_true.mpr fun x inside => decide_eq_true (unnoticed x inside)
    rw [noticed] at every
    cases every

end Gutd.Userspace
