import Gutd.Proto.Base64
import Gutd.Shared.Rfc4648

set_option autoImplicit false

namespace Gutd.Base64

open Bytes Checked

theorem decodeTable_eq (c : UInt8) :
    (decodeTable c = 0xFF ↔ c ∉ Rfc4648.alphabet ∧ c ≠ Rfc4648.pad) ∧
      (decodeTable c ≠ 0xFF → (decodeTable c).toNat = Rfc4648.value c ∧ Rfc4648.value c < 64) := by
  have same : Rfc4648.alphabet = alphabet := rfl
  have padding' : Rfc4648.pad = padChar := rfl
  have size : alphabet.length = 64 := rfl
  unfold decodeTable Rfc4648.value
  rw [same, padding']
  by_cases padding : c = padChar
  · rw [if_pos padding, if_pos padding]
    exact ⟨iff_of_false (by decide) fun ⟨_, other⟩ => other padding, fun _ => ⟨rfl, by decide⟩⟩
  rw [if_neg padding, if_neg padding]
  cases found : alphabet.findIdx? (· == c) with
  | none =>
      have absent : c ∉ alphabet := fun member => by
        have other := List.findIdx?_eq_none_iff.mp found c member
        simp at other
      exact ⟨iff_of_true rfl ⟨absent, padding⟩, fun other => absurd rfl other⟩
  | some i =>
      obtain ⟨inside, index⟩ := List.findIdx?_eq_some_iff_findIdx_eq.mp found
      have position : alphabet.idxOf c = i := index
      have value : (UInt8.ofNat i).toNat = i := by
        rw [UInt8.toNat_ofNat']
        omega
      have member : c ∈ alphabet := List.idxOf_lt_length_iff.mp (by omega)
      have small : UInt8.ofNat i ≠ 0xFF := fun equal => by
        have big : i = 255 := value.symm.trans (congrArg UInt8.toNat equal)
        omega
      exact ⟨iff_of_false small fun ⟨absent, _⟩ => absent member, fun _ => ⟨by rw [value, position], by omega⟩⟩

theorem toNat_shiftLeft_or (a b : UInt8) (k : Nat) (inside : k < 8) (low : b.toNat < 2 ^ k) :
    ((a <<< UInt8.ofNat k) ||| b).toNat = a.toNat % 2 ^ (8 - k) * 2 ^ k + b.toNat := by
  have shift : (UInt8.ofNat k).toNat % 8 = k := by
    rw [UInt8.toNat_ofNat']
    omega
  have wrapped : a.toNat <<< k % 2 ^ 8 = (a.toNat % 2 ^ (8 - k)) <<< k := by
    have split : 2 ^ 8 = 2 ^ k * 2 ^ (8 - k) := by rw [← Nat.pow_add, Nat.add_sub_cancel' (by omega)]
    rw [Nat.shiftLeft_eq, Nat.shiftLeft_eq, split, Nat.mul_comm, Nat.mul_mod_mul_left, Nat.mul_comm]
  rw [UInt8.toNat_or, UInt8.toNat_shiftLeft, shift, wrapped, ← Nat.shiftLeft_add_eq_or_of_lt low, Nat.shiftLeft_eq]

theorem group_quantum {c0 c1 c2 c3 : UInt8} (valid0 : decodeTable c0 ≠ 0xFF) (valid1 : decodeTable c1 ≠ 0xFF)
    (valid2 : decodeTable c2 ≠ 0xFF) (valid3 : decodeTable c3 ≠ 0xFF) :
    [(decodeTable c0 <<< 2) ||| (decodeTable c1 >>> 4), (decodeTable c1 <<< 4) ||| (decodeTable c2 >>> 2),
      (decodeTable c2 <<< 6) ||| decodeTable c3] = Rfc4648.quantum c0 c1 c2 c3 := by
  obtain ⟨value0, small0⟩ := (decodeTable_eq c0).2 valid0
  obtain ⟨value1, small1⟩ := (decodeTable_eq c1).2 valid1
  obtain ⟨value2, small2⟩ := (decodeTable_eq c2).2 valid2
  obtain ⟨value3, small3⟩ := (decodeTable_eq c3).2 valid3
  have high1 : (decodeTable c1 >>> 4).toNat = Rfc4648.value c1 / 16 := by
    rw [UInt8.toNat_shiftRight, value1, Nat.shiftRight_eq_div_pow]
    rfl
  have high2 : (decodeTable c2 >>> 2).toNat = Rfc4648.value c2 / 4 := by
    rw [UInt8.toNat_shiftRight, value2, Nat.shiftRight_eq_div_pow]
    rfl
  have byte0 := toNat_shiftLeft_or (decodeTable c0) (decodeTable c1 >>> 4) 2 (by decide) (by omega)
  have byte1 := toNat_shiftLeft_or (decodeTable c1) (decodeTable c2 >>> 2) 4 (by decide) (by omega)
  have byte2 := toNat_shiftLeft_or (decodeTable c2) (decodeTable c3) 6 (by decide) (by omega)
  rw [high1, value0] at byte0
  rw [high2, value1] at byte1
  rw [value2, value3] at byte2
  unfold Rfc4648.quantum
  dsimp only
  refine congrArg₂ List.cons ?_ (congrArg₂ List.cons ?_ (congrArg₂ List.cons ?_ rfl)) <;> apply UInt8.toNat_inj.mp
  · rw [show (2 : UInt8) = UInt8.ofNat 2 from rfl, byte0, UInt8.toNat_ofNat']
    omega
  · rw [show (4 : UInt8) = UInt8.ofNat 4 from rfl, byte1, UInt8.toNat_ofNat']
    omega
  · rw [show (6 : UInt8) = UInt8.ofNat 6 from rfl, byte2, UInt8.toNat_ofNat']
    omega

theorem decodeTable_alphabet {c : UInt8} (data : c ∈ Rfc4648.alphabet) : decodeTable c ≠ 0xFF ∧ c ≠ padChar := by
  refine ⟨fun foreign => ((decodeTable_eq c).1.mp foreign).1 data, ?_⟩
  rintro rfl
  exact Rfc4648.pad_not_mem data

theorem decodeTable_pad : decodeTable Rfc4648.pad ≠ 0xFF := by
  decide

section Groups

variable {c0 c1 c2 c3 : UInt8} {o : Nat} {output : Buf}

theorem decodeGroup_three (h0 : c0 ∈ Rfc4648.alphabet) (h1 : c1 ∈ Rfc4648.alphabet) (h2 : c2 ∈ Rfc4648.alphabet)
    (h3 : c3 ∈ Rfc4648.alphabet) (room : o + 3 ≤ output.length) :
    decodeGroup c0 c1 c2 c3 o output = .ok (3, overwrite output o (Rfc4648.quantum c0 c1 c2 c3)) := by
  rw [← group_quantum (decodeTable_alphabet h0).1 (decodeTable_alphabet h1).1 (decodeTable_alphabet h2).1
    (decodeTable_alphabet h3).1]
  unfold decodeGroup
  simp only [setIf, (decodeTable_alphabet h2).2, (decodeTable_alphabet h3).2, ne_eq, not_false_eq_true, decide_true, if_true]
  rw [setByte_ok _ (by omega), bind_ok, setByte_ok _ (by simp; omega), bind_ok, setByte_ok _ (by simp; omega), bind_ok,
    overwrite_next _ _ _ _ _ (by simp), overwrite_next _ _ _ _ _ (by simp)]
  rfl

theorem decodeGroup_two (h0 : c0 ∈ Rfc4648.alphabet) (h1 : c1 ∈ Rfc4648.alphabet) (h2 : c2 ∈ Rfc4648.alphabet)
    (room : o + 2 ≤ output.length) :
    decodeGroup c0 c1 c2 padChar o output =
      .ok (2, overwrite output o ((Rfc4648.quantum c0 c1 c2 Rfc4648.pad).take 2)) := by
  rw [← group_quantum (decodeTable_alphabet h0).1 (decodeTable_alphabet h1).1 (decodeTable_alphabet h2).1 decodeTable_pad]
  unfold decodeGroup
  simp only [setIf, (decodeTable_alphabet h2).2, ne_eq, not_true_eq_false, not_false_eq_true, decide_true, decide_false,
    Bool.false_eq_true, if_true, if_false]
  rw [setByte_ok _ (by omega), bind_ok, setByte_ok _ (by simp; omega), bind_ok, overwrite_next _ _ _ _ _ (by simp)]
  rfl

theorem decodeGroup_one (h0 : c0 ∈ Rfc4648.alphabet) (h1 : c1 ∈ Rfc4648.alphabet) (room : o + 1 ≤ output.length) :
    decodeGroup c0 c1 padChar padChar o output =
      .ok (1, overwrite output o ((Rfc4648.quantum c0 c1 Rfc4648.pad Rfc4648.pad).take 1)) := by
  rw [← group_quantum (decodeTable_alphabet h0).1 (decodeTable_alphabet h1).1 decodeTable_pad decodeTable_pad]
  unfold decodeGroup
  simp only [setIf, ne_eq, not_true_eq_false, decide_false, Bool.false_eq_true, if_false]
  rw [setByte_ok _ (by omega), bind_ok]
  rfl

end Groups

theorem decodeGroups_grouped {text : Buf} (grouped : Rfc4648.Grouped text) (o : Nat) (output : Buf)
    (room : o + Rfc4648.decodedLength text ≤ output.length) :
    decodeGroups text o output = .ok (some (o + Rfc4648.decodedLength text), overwrite output o (Rfc4648.decoded text)) := by
  induction grouped generalizing o output with
  | empty =>
      have empty : Rfc4648.decoded [] = [] := rfl
      rw [empty, overwrite_nil]
      rfl
  | @one c0 c1 h0 h1 =>
      have length := Rfc4648.decodedLength_one h0 h1
      rw [length] at room
      rw [Rfc4648.decoded, length, decodeGroups,
        if_neg (by simp [(decodeTable_alphabet h0).1, (decodeTable_alphabet h1).1, decodeTable_pad])]
      change (decodeGroup c0 c1 padChar padChar o output >>= _) = _
      rw [decodeGroup_one h0 h1 room, bind_ok]
      rfl
  | @two c0 c1 c2 h0 h1 h2 =>
      have length := Rfc4648.decodedLength_two h0 h1 h2
      rw [length] at room
      rw [Rfc4648.decoded, length, decodeGroups, if_neg (by simp [(decodeTable_alphabet h0).1, (decodeTable_alphabet h1).1,
        (decodeTable_alphabet h2).1, decodeTable_pad])]
      change (decodeGroup c0 c1 c2 padChar o output >>= _) = _
      rw [decodeGroup_two h0 h1 h2 room, bind_ok]
      rfl
  | @three c0 c1 c2 c3 rest h0 h1 h2 h3 later ih =>
      have length := Rfc4648.decodedLength_group h0 h1 h2 h3 later
      have width : (Rfc4648.quantum c0 c1 c2 c3).length = 3 := rfl
      rw [length] at room
      rw [decodeGroups, if_neg (by simp [(decodeTable_alphabet h0).1, (decodeTable_alphabet h1).1,
        (decodeTable_alphabet h2).1, (decodeTable_alphabet h3).1]), decodeGroup_three h0 h1 h2 h3 (by omega), bind_ok]
      dsimp only
      rw [ih _ _ (by rw [length_overwrite]; omega), overwrite_next _ _ _ _ _ (by rw [width]), length,
        Rfc4648.decoded_group h0 h1 h2 h3 later, Nat.add_assoc]

theorem decode_wellFormed {text : Buf} (formed : Rfc4648.WellFormed text) (output : Buf)
    (room : Rfc4648.decodedLength text ≤ output.length) :
    decode text output = .ok (some (Rfc4648.decodedLength text), overwrite output 0 (Rfc4648.decoded text)) := by
  rw [decode, if_neg (by simp [formed.whole]), decodeGroups_grouped formed.grouped _ _ (by omega), Nat.zero_add]

theorem decodeGroup_inside {c0 c1 c2 c3 : UInt8} {o written : Nat} {output output' : Buf}
    (done : decodeGroup c0 c1 c2 c3 o output = .ok (written, output')) :
    output'.length = output.length ∧ o < output.length ∧ (c2 ≠ padChar → o + 1 < output.length) ∧
      (c3 ≠ padChar → o + 2 < output.length) := by
  have kept {condition : Bool} {buf buf' : Buf} {i : Nat} {value : UInt8} (done : setIf condition buf i value = .ok buf') :
      buf'.length = buf.length ∧ (condition = true → i < buf.length) := by
    cases condition with
    | true => exact ⟨(length_setByte done).2, fun _ => (length_setByte done).1⟩
    | false =>
        cases done
        exact ⟨rfl, nofun⟩
  obtain ⟨first, write0, done⟩ := bind_eq_ok.mp done
  obtain ⟨second, write1, done⟩ := bind_eq_ok.mp done
  obtain ⟨third, write2, done⟩ := bind_eq_ok.mp done
  cases done
  obtain ⟨inside0, length0⟩ := length_setByte write0
  obtain ⟨length1, inside1⟩ := kept write1
  obtain ⟨length2, inside2⟩ := kept write2
  rw [decide_eq_true_iff, length0] at inside1
  rw [decide_eq_true_iff, length1, length0] at inside2
  exact ⟨by omega, inside0, inside1, inside2⟩

theorem decodeGroups_inside {text : Buf} (grouped : Rfc4648.Grouped text) {o n : Nat} {output output' : Buf}
    (start : o ≤ output.length) (done : decodeGroups text o output = .ok (some n, output')) :
    o + Rfc4648.decodedLength text ≤ output.length := by
  have split {c0 c1 c2 c3 : UInt8} {rest output : Buf} {o : Nat}
      (done : decodeGroups (c0 :: c1 :: c2 :: c3 :: rest) o output = .ok (some n, output')) :
      ∃ written middle, decodeGroup c0 c1 c2 c3 o output = .ok (written, middle) ∧
        decodeGroups rest (o + written) middle = .ok (some n, output') := by
    rw [decodeGroups] at done
    split_ifs at done
    · cases done
    · obtain ⟨⟨written, middle⟩, group, later⟩ := bind_eq_ok.mp done
      exact ⟨written, middle, group, later⟩
  induction grouped generalizing o output with
  | empty => exact start
  | one h0 h1 =>
      obtain ⟨written, middle, group, -⟩ := split done
      obtain ⟨-, inside, -, -⟩ := decodeGroup_inside group
      rw [Rfc4648.decodedLength_one h0 h1]
      exact inside
  | two h0 h1 h2 =>
      obtain ⟨written, middle, group, -⟩ := split done
      obtain ⟨-, -, inside, -⟩ := decodeGroup_inside group
      rw [Rfc4648.decodedLength_two h0 h1 h2]
      exact inside (decodeTable_alphabet h2).2
  | three h0 h1 h2 h3 later ih =>
      obtain ⟨written, middle, group, done⟩ := split done
      obtain ⟨length, -, -, inside⟩ := decodeGroup_inside group
      have inside := inside (decodeTable_alphabet h3).2
      rw [decodeGroup_three h0 h1 h2 h3 (by omega)] at group
      cases group
      have bound := ih (by omega) done
      rw [Rfc4648.decodedLength_group h0 h1 h2 h3 later]
      omega

theorem decode_accepts {text : Buf} (whole : text.length % 4 = 0)
    (known : ∀ c ∈ text, c ∈ Rfc4648.alphabet ∨ c = Rfc4648.pad) (output : Buf)
    (room : 3 * (text.length / 4) ≤ output.length) : ∃ n output', decode text output = .ok (some n, output') := by
  have groups (text : Buf) (o : Nat) (output : Buf) (known : ∀ c ∈ text, decodeTable c ≠ 0xFF)
      (room : o + 3 * (text.length / 4) ≤ output.length) : ∃ n output', decodeGroups text o output = .ok (some n, output') := by
    fun_induction decodeGroups text o output with
    | case1 c0 c1 c2 c3 rest o output invalid =>
        simp only [List.mem_cons, forall_eq_or_imp] at known
        rcases invalid with foreign | foreign | foreign | foreign
        · exact absurd foreign known.1
        · exact absurd foreign known.2.1
        · exact absurd foreign known.2.2.1
        · exact absurd foreign known.2.2.2.1
    | case2 c0 c1 c2 c3 rest o output valid ih =>
        simp only [List.length_cons] at room
        simp only [List.mem_cons, forall_eq_or_imp] at known
        obtain ⟨written, middle, group, length⟩ := decodeGroup_ok c0 c1 c2 c3 o output (by omega)
        have few := decodeGroup_written group
        rw [group, bind_ok]
        exact ih written middle known.2.2.2.2 (by omega)
    | case3 text o output short => exact ⟨o, output, rfl⟩
  rw [decode, if_neg (by simp [whole])]
  refine groups text 0 output (fun c member foreign => ?_) (by omega)
  obtain ⟨absent, other⟩ := (decodeTable_eq c).1.mp foreign
  exact (known c member).elim absent other

theorem decode_strict_iff (text : Buf) :
    (∀ output n output', decode text output = .ok (some n, output') →
      Rfc4648.WellFormed text ∧ n = Rfc4648.decodedLength text ∧ output'.take n = Rfc4648.decoded text) ↔
    (text.length % 4 = 0 → (∀ c ∈ text, c ∈ Rfc4648.alphabet ∨ c = Rfc4648.pad) → Rfc4648.WellFormed text) := by
  constructor
  · intro strict whole known
    obtain ⟨n, output', done⟩ := decode_accepts whole known (List.replicate (3 * (text.length / 4)) 0) (by simp)
    exact (strict _ n output' done).1
  · intro formed output n output' done
    have whole : text.length % 4 = 0 := by
      by_contra ragged
      rw [decode, if_pos ragged] at done
      cases done
    have formed := formed whole fun c member => by
      by_contra foreign
      rw [not_or] at foreign
      exact decode_valid done c member ((decodeTable_eq c).1.mpr foreign)
    have room : Rfc4648.decodedLength text ≤ output.length := by
      rw [decode, if_neg (by simp [whole])] at done
      have inside := decodeGroups_inside formed.grouped (Nat.zero_le _) done
      omega
    rw [decode_wellFormed formed output room] at done
    cases done
    have length := formed.grouped.length_decoded
    refine ⟨formed, rfl, ?_⟩
    rw [overwrite_zero _ _ (by omega), ← length, List.take_left]

-- padding inside a group leaves a byte of the buffer as it was, and counts it
theorem decode_stale :
    decode (ascii "AA=A") [1, 2, 3] = .ok (some 2, [0, 2, 0]) ∧ decode (ascii "AA=A") [1, 9, 3] = .ok (some 2, [0, 9, 0]) := by
  decide

end Gutd.Base64
