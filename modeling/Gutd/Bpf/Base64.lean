import Gutd.Bpf.TextHeaders
import Gutd.Bpf.Unwrap
import Gutd.Proto.Base64

set_option autoImplicit false

namespace Gutd.Bpf

open Bytes Wire Base64

theorem b64e_char (v : UInt8) : v >>> 6 = 0 → b64e v = char v :=
  forall_byte (P := fun v => v >>> 6 = 0 → b64e v = char v) (by decide) v

theorem b64DecLut_char (v : UInt8) : v >>> 6 = 0 → b64DecLut (char v) = v :=
  forall_byte (P := fun v => v >>> 6 = 0 → b64DecLut (char v) = v) (by decide) v

def b64Tail (src : Buf) (ip : Nat) : Buf :=
  let rem := src.length - ip
  let a := byteAt src ip
  let b := byteAt src (ip + 1)
  if rem ≥ 2 then [b64e (a >>> 2), b64e (((a &&& 0x03) <<< 4) ||| (b >>> 4)), b64e ((b &&& 0x0F) <<< 2), 0x3D]
  else if rem ≥ 1 then [b64e (a >>> 2), b64e ((a &&& 0x03) <<< 4), 0x3D, 0x3D]
  else []

theorem b64EncodeStep_cons (b0 b1 b2 : UInt8) (rest : Buf) (idx : Nat) :
    b64EncodeStep (b0 :: b1 :: b2 :: rest) (idx + 1) = b64EncodeStep rest idx := by
  have shift (k : Nat) : byteAt (b0 :: b1 :: b2 :: rest) (idx * 3 + 3 + k) = byteAt rest (idx * 3 + k) := by
    rw [show idx * 3 + 3 + k = idx * 3 + k + 1 + 1 + 1 by omega]
    rfl
  have first := shift 0
  simp only [Nat.add_zero] at first
  simp only [b64EncodeStep, Nat.add_mul, Nat.one_mul, shift, first]

theorem b64Tail_cons (b0 b1 b2 : UInt8) (rest : Buf) (ip : Nat) :
    b64Tail (b0 :: b1 :: b2 :: rest) (ip + 3) = b64Tail rest ip := by
  have shift (k : Nat) : byteAt (b0 :: b1 :: b2 :: rest) (ip + 3 + k) = byteAt rest (ip + k) := by
    rw [show ip + 3 + k = ip + k + 1 + 1 + 1 by omega]
    rfl
  have first := shift 0
  simp only [Nat.add_zero] at first
  have rem : (b0 :: b1 :: b2 :: rest).length - (ip + 3) = rest.length - ip := by
    simp only [List.length_cons]
    omega
  simp only [b64Tail, rem, shift, first]

theorem encode_eq (src : Buf) :
    (List.range (src.length / 3)).flatMap (b64EncodeStep src) ++ b64Tail src (src.length / 3 * 3) = encode src := by
  fun_induction encode src with
  | case1 => rfl
  | case2 b0 =>
      have low : (b0 &&& 0x3) <<< 4 = sextet1 b0 0 := (UInt8.or_zero).symm
      have first : byteAt [b0] 0 = b0 := rfl
      have chars := b64e_char (sextet0 b0) (sextet0_high b0)
      have chars' := b64e_char (sextet1 b0 0) (sextet1_high b0 0)
      simp only [b64Tail, List.length_singleton, Nat.reduceDiv, List.range_zero, List.flatMap_nil, List.nil_append,
        Nat.zero_mul, Nat.sub_zero, first, low]
      change [b64e (sextet0 b0), b64e (sextet1 b0 0), 0x3D, 0x3D] = _
      rw [chars, chars']
      rfl
  | case3 b0 b1 =>
      have low : (b1 &&& 0xF) <<< 2 = sextet2 b1 0 := (UInt8.or_zero).symm
      have first : byteAt [b0, b1] 0 = b0 := rfl
      have second : byteAt [b0, b1] 1 = b1 := rfl
      have chars := b64e_char (sextet0 b0) (sextet0_high b0)
      have chars' := b64e_char (sextet1 b0 b1) (sextet1_high b0 b1)
      have chars'' := b64e_char (sextet2 b1 0) (sextet2_high b1 0)
      simp only [b64Tail, List.length_cons, List.length_nil, Nat.reduceAdd, Nat.reduceDiv, List.range_zero, List.flatMap_nil,
        List.nil_append, Nat.zero_mul, Nat.sub_zero, Nat.zero_add, first, second, low]
      change [b64e (sextet0 b0), b64e (sextet1 b0 b1), b64e (sextet2 b1 0), 0x3D] = _
      rw [chars, chars', chars'']
      rfl
  | case4 b0 b1 b2 rest ih =>
      have groups : (b0 :: b1 :: b2 :: rest).length / 3 = rest.length / 3 + 1 := by
        simp only [List.length_cons]
        omega
      have group : b64EncodeStep (b0 :: b1 :: b2 :: rest) 0 =
          [char (sextet0 b0), char (sextet1 b0 b1), char (sextet2 b1 b2), char (sextet3 b2)] := by
        rw [← b64e_char _ (sextet0_high b0), ← b64e_char _ (sextet1_high b0 b1), ← b64e_char _ (sextet2_high b1 b2),
          ← b64e_char _ (sextet3_high b2)]
        rfl
      rw [groups, List.range_succ_eq_map, List.flatMap_cons, List.flatMap_map, group, Nat.add_mul, Nat.one_mul, b64Tail_cons,
        List.append_assoc, ← ih]
      simp only [b64EncodeStep_cons]
      rfl

-- the loop of the TC program covers 300 groups
theorem b64Encode_eq (src : Buf) (short : src.length ≤ 902) : b64Encode src = encode src := by
  have groups : min (src.length / 3) 300 = src.length / 3 := by omega
  rw [← encode_eq]
  unfold b64Encode
  dsimp only
  rw [groups]
  rfl

theorem b64DecodeStep_cons (c0 c1 c2 c3 : UInt8) (rest : Buf) (idx : Nat) :
    b64DecodeStep (c0 :: c1 :: c2 :: c3 :: rest) (idx + 1) = b64DecodeStep rest idx := by
  have shift (k : Nat) : byteAt (c0 :: c1 :: c2 :: c3 :: rest) (idx * 4 + 4 + k) = byteAt rest (idx * 4 + k) := by
    rw [show idx * 4 + 4 + k = idx * 4 + k + 1 + 1 + 1 + 1 by omega]
    rfl
  have first := shift 0
  simp only [Nat.add_zero] at first
  simp only [b64DecodeStep, Nat.add_mul, Nat.one_mul, shift, first]

theorem flatMap_b64DecodeStep (d : Buf) :
    ∃ zeros, (List.range ((encode d).length / 4)).flatMap (b64DecodeStep (encode d)) = d ++ zeros := by
  have one : List.range 1 = [0] := rfl
  fun_induction encode d with
  | case1 => exact ⟨[], rfl⟩
  | case2 b0 =>
      have low : (b0 &&& 0x3) <<< 4 = sextet1 b0 0 := (UInt8.or_zero).symm
      have value0 := b64DecLut_char (sextet0 b0) (sextet0_high b0)
      have value1 := b64DecLut_char (sextet1 b0 0) (sextet1_high b0 0)
      have byte0 := byte0_sextets b0 0
      simp only [low, List.length_cons, List.length_nil, Nat.reduceAdd, Nat.reduceDiv, one, List.flatMap_cons,
        List.flatMap_nil, List.append_nil]
      refine ⟨(b64DecodeStep [char (sextet0 b0), char (sextet1 b0 0), padChar, padChar] 0).tail, ?_⟩
      change [(b64DecLut (char (sextet0 b0)) <<< 2) ||| (b64DecLut (char (sextet1 b0 0)) >>> 4), _, _] = [b0, _, _]
      rw [value0, value1, byte0]
      rfl
  | case3 b0 b1 =>
      have low : (b1 &&& 0xF) <<< 2 = sextet2 b1 0 := (UInt8.or_zero).symm
      have value0 := b64DecLut_char (sextet0 b0) (sextet0_high b0)
      have value1 := b64DecLut_char (sextet1 b0 b1) (sextet1_high b0 b1)
      have value2 := b64DecLut_char (sextet2 b1 0) (sextet2_high b1 0)
      have byte0 := byte0_sextets b0 b1
      have byte1 := byte1_sextets b0 b1 0
      simp only [low, List.length_cons, List.length_nil, Nat.reduceAdd, Nat.reduceDiv, one, List.flatMap_cons,
        List.flatMap_nil, List.append_nil]
      refine ⟨(b64DecodeStep [char (sextet0 b0), char (sextet1 b0 b1), char (sextet2 b1 0), padChar] 0).drop 2, ?_⟩
      change [(b64DecLut (char (sextet0 b0)) <<< 2) ||| (b64DecLut (char (sextet1 b0 b1)) >>> 4),
        (b64DecLut (char (sextet1 b0 b1)) <<< 4) ||| (b64DecLut (char (sextet2 b1 0)) >>> 2), _] = [b0, b1, _]
      rw [value0, value1, value2, byte0, byte1]
      rfl
  | case4 b0 b1 b2 rest ih =>
      obtain ⟨zeros, decoded⟩ := ih
      have value0 := b64DecLut_char (sextet0 b0) (sextet0_high b0)
      have value1 := b64DecLut_char (sextet1 b0 b1) (sextet1_high b0 b1)
      have value2 := b64DecLut_char (sextet2 b1 b2) (sextet2_high b1 b2)
      have value3 := b64DecLut_char (sextet3 b2) (sextet3_high b2)
      refine ⟨zeros, ?_⟩
      change (List.range (((encode rest).length + 4) / 4)).flatMap (b64DecodeStep (char (sextet0 b0) ::
        char (sextet1 b0 b1) :: char (sextet2 b1 b2) :: char (sextet3 b2) :: encode rest)) = _
      have groups : ((encode rest).length + 4) / 4 = (encode rest).length / 4 + 1 := by omega
      have group : b64DecodeStep (char (sextet0 b0) :: char (sextet1 b0 b1) :: char (sextet2 b1 b2) :: char (sextet3 b2) ::
          encode rest) 0 = [b0, b1, b2] := by
        change [(b64DecLut (char (sextet0 b0)) <<< 2) ||| (b64DecLut (char (sextet1 b0 b1)) >>> 4),
          (b64DecLut (char (sextet1 b0 b1)) <<< 4) ||| (b64DecLut (char (sextet2 b1 b2)) >>> 2),
          (b64DecLut (char (sextet2 b1 b2)) <<< 6) ||| b64DecLut (char (sextet3 b2))] = _
        rw [value0, value1, value2, value3, byte0_sextets, byte1_sextets, byte2_sextets]
      rw [groups, List.range_succ_eq_map, List.flatMap_cons, List.flatMap_map, group]
      simp only [b64DecodeStep_cons, decoded]
      rfl

theorem b64Decode_encode {d : Buf} (some : d ≠ []) : ∃ zeros, b64Decode (encode d) = (d ++ zeros, d.length) := by
  obtain ⟨zeros, decoded⟩ := flatMap_b64DecodeStep d
  obtain ⟨last, before⟩ := encode_ends some
  have length := length_encode d
  have positive := List.length_pos_iff.mpr some
  have pad : (0x3D : UInt8) = padChar := rfl
  refine ⟨zeros, ?_⟩
  unfold b64Decode
  dsimp only
  rw [decoded, pad, if_congr (and_iff_right (by omega : 4 ≤ (encode d).length)) rfl rfl,
    if_congr (and_iff_right (by omega : 4 ≤ (encode d).length)) rfl rfl, if_congr last rfl rfl, if_congr before rfl rfl]
  congr 1
  split_ifs <;> omega

end Gutd.Bpf
