import Gutd.Shared.Checked
import Gutd.Shared.Text

set_option autoImplicit false

-- `proto/base64.rs`. The decoder writes into a buffer that its caller keeps from one datagram to the next.

namespace Gutd.Base64

open Bytes Checked

def alphabet : Buf := ascii "ABCDEFGHIJKLMNOPQRSTUVWXYZabcdefghijklmnopqrstuvwxyz0123456789+/"

def padChar : UInt8 := 0x3D

def decodeTable (c : UInt8) : UInt8 :=
  if c = padChar then 0
  else
    match alphabet.findIdx? (· == c) with
    | some i => UInt8.ofNat i
    | none => 0xFF

def encode : Buf → Buf
  | [] => []
  | [b0] =>
      [byteAt alphabet (b0 >>> 2).toNat, byteAt alphabet ((b0 &&& 0x3) <<< 4).toNat, padChar, padChar]
  | [b0, b1] =>
      [byteAt alphabet (b0 >>> 2).toNat, byteAt alphabet (((b0 &&& 0x3) <<< 4) ||| (b1 >>> 4)).toNat,
        byteAt alphabet ((b1 &&& 0xF) <<< 2).toNat, padChar]
  | b0 :: b1 :: b2 :: rest =>
      [byteAt alphabet (b0 >>> 2).toNat, byteAt alphabet (((b0 &&& 0x3) <<< 4) ||| (b1 >>> 4)).toNat,
        byteAt alphabet (((b1 &&& 0xF) <<< 2) ||| (b2 >>> 6)).toNat, byteAt alphabet (b2 &&& 0x3F).toNat] ++
        encode rest

def encodeInto (input : Buf) (room : Nat) : Result Buf :=
  if (encode input).length ≤ room then pure (encode input) else throw .outOfBounds

def setIf (condition : Bool) (output : Buf) (i : Nat) (value : UInt8) : Result Buf :=
  if condition then setByte output i value else pure output

def decodeGroup (c0 c1 c2 c3 : UInt8) (o : Nat) (output : Buf) : Result (Nat × Buf) := do
  let v1 := decodeTable c1
  let v2 := decodeTable c2
  let output ← setByte output o ((decodeTable c0 <<< 2) ||| (v1 >>> 4))
  let output ← setIf (c2 ≠ padChar) output (o + 1) ((v1 <<< 4) ||| (v2 >>> 2))
  let output ← setIf (c3 ≠ padChar) output (o + 2) ((v2 <<< 6) ||| decodeTable c3)
  -- the index advances by the number of bytes written, wherever they were written
  pure (1 + (if c2 ≠ padChar then 1 else 0) + (if c3 ≠ padChar then 1 else 0), output)

def decodeGroups : Buf → Nat → Buf → Result (Option Nat × Buf)
  | c0 :: c1 :: c2 :: c3 :: rest, o, output =>
      if decodeTable c0 = 0xFF ∨ decodeTable c1 = 0xFF ∨ decodeTable c2 = 0xFF ∨ decodeTable c3 = 0xFF then
        pure (none, output)
      else do
        let (written, output) ← decodeGroup c0 c1 c2 c3 o output
        decodeGroups rest (o + written) output
  | _, o, output => pure (some o, output)

def decode (input output : Buf) : Result (Option Nat × Buf) :=
  if input.length % 4 ≠ 0 then pure (none, output) else decodeGroups input 0 output

theorem length_encode (input : Buf) : (encode input).length = 4 * ((input.length + 2) / 3) := by
  fun_induction encode input with
  | case1 => rfl
  | case2 b0 => simp
  | case3 b0 b1 => simp
  | case4 b0 b1 b2 rest ih =>
      simp only [List.length_append, List.length_cons, List.length_nil, ih]
      omega

theorem setIf_ok (condition : Bool) (output : Buf) (i : Nat) (value : UInt8) (inside : i < output.length) :
    ∃ output', setIf condition output i value = .ok output' ∧ output'.length = output.length := by
  cases condition with
  | true => exact ⟨_, setByte_ok value inside, by simp⟩
  | false => exact ⟨output, rfl, rfl⟩

theorem decodeGroup_ok (c0 c1 c2 c3 : UInt8) (o : Nat) (output : Buf) (room : o + 3 ≤ output.length) :
    ∃ written output', decodeGroup c0 c1 c2 c3 o output = .ok (written, output') ∧ output'.length = output.length := by
  obtain ⟨second, writeSecond, lengthSecond⟩ := setIf_ok (c2 ≠ padChar)
    (overwrite output o [(decodeTable c0 <<< 2) ||| (decodeTable c1 >>> 4)]) (o + 1)
    ((decodeTable c1 <<< 4) ||| (decodeTable c2 >>> 2)) (by simp; omega)
  have length : second.length = output.length := by simpa using lengthSecond
  obtain ⟨third, writeThird, lengthThird⟩ := setIf_ok (c3 ≠ padChar) second (o + 2)
    ((decodeTable c2 <<< 6) ||| decodeTable c3) (by omega)
  refine ⟨1 + (if c2 ≠ padChar then 1 else 0) + (if c3 ≠ padChar then 1 else 0), third, ?_, by omega⟩
  unfold decodeGroup
  dsimp only
  rw [setByte_ok _ (by omega), bind_ok, writeSecond, bind_ok, writeThird, bind_ok, pure_eq_ok]

theorem decodeGroup_written {c0 c1 c2 c3 : UInt8} {o written : Nat} {output output' : Buf}
    (done : decodeGroup c0 c1 c2 c3 o output = .ok (written, output')) : written ≤ 3 := by
  obtain ⟨_, -, done⟩ := bind_eq_ok.mp done
  obtain ⟨_, -, done⟩ := bind_eq_ok.mp done
  obtain ⟨_, -, done⟩ := bind_eq_ok.mp done
  cases done
  split_ifs <;> omega

theorem decodeGroups_ok (input : Buf) (o : Nat) (output : Buf) (room : o + 3 * (input.length / 4) ≤ output.length) :
    ∃ found output', decodeGroups input o output = .ok (found, output') ∧ output'.length = output.length := by
  fun_induction decodeGroups input o output with
  | case1 c0 c1 c2 c3 rest o output invalid => exact ⟨none, output, rfl, rfl⟩
  | case2 c0 c1 c2 c3 rest o output valid ih =>
      simp only [List.length_cons] at room
      obtain ⟨written, output', group, length⟩ := decodeGroup_ok c0 c1 c2 c3 o output (by omega)
      have few := decodeGroup_written group
      obtain ⟨found, last, done, lengthLast⟩ := ih written output' (by omega)
      refine ⟨found, last, ?_, by omega⟩
      rw [group, bind_ok]
      exact done
  | case3 input o output short => exact ⟨some o, output, rfl, rfl⟩

theorem decode_ok (input output : Buf) (room : 3 * (input.length / 4) ≤ output.length) :
    ∃ found output', decode input output = .ok (found, output') ∧ output'.length = output.length := by
  unfold decode
  split_ifs with ragged
  · exact ⟨none, output, rfl, rfl⟩
  · exact decodeGroups_ok input 0 output (by omega)

theorem decodeGroups_bound {input output output' : Buf} {o n : Nat}
    (done : decodeGroups input o output = .ok (some n, output')) : n ≤ o + 3 * (input.length / 4) := by
  fun_induction decodeGroups input o output with
  | case1 c0 c1 c2 c3 rest o output invalid => cases done
  | case2 c0 c1 c2 c3 rest o output valid ih =>
      obtain ⟨⟨written, middle⟩, group, later⟩ := bind_eq_ok.mp done
      have few := decodeGroup_written group
      have bound := ih written middle later
      simp only [List.length_cons]
      omega
  | case3 input o output short =>
      cases done
      omega

theorem decode_bound {input output output' : Buf} {n : Nat} (done : decode input output = .ok (some n, output')) :
    4 * n ≤ 3 * input.length := by
  unfold decode at done
  split_ifs at done with ragged
  · cases done
  · have bound := decodeGroups_bound done
    omega

theorem decodeGroups_valid {input output output' : Buf} {o n : Nat} (whole : input.length % 4 = 0)
    (done : decodeGroups input o output = .ok (some n, output')) : ∀ c ∈ input, decodeTable c ≠ 0xFF := by
  fun_induction decodeGroups input o output with
  | case1 c0 c1 c2 c3 rest o output invalid => cases done
  | case2 c0 c1 c2 c3 rest o output valid ih =>
      obtain ⟨⟨written, middle⟩, -, later⟩ := bind_eq_ok.mp done
      simp only [List.length_cons] at whole
      have tail := ih written middle (by omega) later
      simp only [not_or] at valid
      simp only [List.mem_cons]
      rintro c (rfl | rfl | rfl | rfl | inside)
      · exact valid.1
      · exact valid.2.1
      · exact valid.2.2.1
      · exact valid.2.2.2
      · exact tail c inside
  | case3 input o output short =>
      match input, short with
      | [], _ => simp
      | [_], _ => simp at whole
      | [_, _], _ => simp at whole
      | [_, _, _], _ => simp at whole
      | c0 :: c1 :: c2 :: c3 :: rest, short => exact absurd rfl (short c0 c1 c2 c3 rest)

theorem decode_valid {input output output' : Buf} {n : Nat} (done : decode input output = .ok (some n, output')) :
    ∀ c ∈ input, decodeTable c ≠ 0xFF := by
  unfold decode at done
  split_ifs at done with ragged
  · cases done
  · exact decodeGroups_valid (by omega) done

theorem decode_invalid {input output : Buf} {c : UInt8} (present : c ∈ input) (foreign : decodeTable c = 0xFF)
    (room : 3 * (input.length / 4) ≤ output.length) : ∃ output', decode input output = .ok (none, output') := by
  obtain ⟨found, output', done, -⟩ := decode_ok input output room
  cases found with
  | none => exact ⟨output', done⟩
  | some n => exact absurd foreign (decode_valid done c present)

def sextet0 (b0 : UInt8) : UInt8 := b0 >>> 2

def sextet1 (b0 b1 : UInt8) : UInt8 := ((b0 &&& 0x3) <<< 4) ||| (b1 >>> 4)

def sextet2 (b1 b2 : UInt8) : UInt8 := ((b1 &&& 0xF) <<< 2) ||| (b2 >>> 6)

def sextet3 (b2 : UInt8) : UInt8 := b2 &&& 0x3F

section Sextets

variable (b0 b1 b2 : UInt8)

theorem sextet0_high : sextet0 b0 >>> 6 = 0 := forall_byte (P := fun b => sextet0 b >>> 6 = 0) (by decide) b0

theorem sextet1_high : sextet1 b0 b1 >>> 6 = 0 := by
  have left : ∀ b : UInt8, ((b &&& 0x3) <<< 4) >>> 6 = 0 := forall_byte (by decide)
  have right : ∀ b : UInt8, (b >>> 4) >>> 6 = 0 := forall_byte (by decide)
  rw [sextet1, UInt8.shiftRight_or, left, right]
  rfl

theorem sextet2_high : sextet2 b1 b2 >>> 6 = 0 := by
  have left : ∀ b : UInt8, ((b &&& 0xF) <<< 2) >>> 6 = 0 := forall_byte (by decide)
  have right : ∀ b : UInt8, (b >>> 6) >>> 6 = 0 := forall_byte (by decide)
  rw [sextet2, UInt8.shiftRight_or, left, right]
  rfl

theorem sextet3_high : sextet3 b2 >>> 6 = 0 := forall_byte (P := fun b => sextet3 b >>> 6 = 0) (by decide) b2

theorem byte0_sextets : (sextet0 b0 <<< 2) ||| (sextet1 b0 b1 >>> 4) = b0 := by
  have left : ∀ b : UInt8, ((b &&& 0x3) <<< 4) >>> 4 = b &&& 0x3 := forall_byte (by decide)
  have right : ∀ b : UInt8, (b >>> 4) >>> 4 = 0 := forall_byte (by decide)
  have whole : ∀ b : UInt8, ((b >>> 2) <<< 2) ||| (b &&& 0x3) = b := forall_byte (by decide)
  rw [sextet0, sextet1, UInt8.shiftRight_or, left, right, UInt8.or_zero, whole]

theorem byte1_sextets : (sextet1 b0 b1 <<< 4) ||| (sextet2 b1 b2 >>> 2) = b1 := by
  have gone : ∀ b : UInt8, ((b &&& 0x3) <<< 4) <<< 4 = 0 := forall_byte (by decide)
  have left : ∀ b : UInt8, ((b &&& 0xF) <<< 2) >>> 2 = b &&& 0xF := forall_byte (by decide)
  have right : ∀ b : UInt8, (b >>> 6) >>> 2 = 0 := forall_byte (by decide)
  have whole : ∀ b : UInt8, ((b >>> 4) <<< 4) ||| (b &&& 0xF) = b := forall_byte (by decide)
  rw [sextet1, sextet2, UInt8.shiftLeft_or, UInt8.shiftRight_or, gone, left, right, UInt8.zero_or, UInt8.or_zero, whole]

theorem byte2_sextets : (sextet2 b1 b2 <<< 6) ||| sextet3 b2 = b2 := by
  have gone : ∀ b : UInt8, ((b &&& 0xF) <<< 2) <<< 6 = 0 := forall_byte (by decide)
  have whole : ∀ b : UInt8, ((b >>> 6) <<< 6) ||| (b &&& 0x3F) = b := forall_byte (by decide)
  rw [sextet2, sextet3, UInt8.shiftLeft_or, gone, UInt8.zero_or, whole]

end Sextets

def char (v : UInt8) : UInt8 := byteAt alphabet v.toNat

theorem decodeTable_char (v : UInt8) : v >>> 6 = 0 → decodeTable (char v) = v ∧ char v ≠ padChar ∧ v ≠ 0xFF :=
  forall_byte (P := fun v => v >>> 6 = 0 → decodeTable (char v) = v ∧ char v ≠ padChar ∧ v ≠ 0xFF) (by decide) v

theorem decodeGroups_encode (d : Buf) (o : Nat) (output : Buf) (room : o + d.length ≤ output.length) :
    decodeGroups (encode d) o output = .ok (some (o + d.length), overwrite output o d) := by
  have padding : decodeTable padChar = 0 := by decide
  fun_induction encode d generalizing o output with
  | case1 =>
      rw [overwrite_nil]
      rfl
  | case2 b0 =>
      obtain ⟨value0, -, valid0⟩ := decodeTable_char (sextet0 b0) (sextet0_high b0)
      obtain ⟨value1, -, valid1⟩ := decodeTable_char (sextet1 b0 0) (sextet1_high b0 0)
      simp only [List.length_singleton] at room
      have low : (b0 &&& 0x3) <<< 4 = sextet1 b0 0 := (UInt8.or_zero).symm
      rw [low]
      change decodeGroups [char (sextet0 b0), char (sextet1 b0 0), padChar, padChar] o output = _
      have group : decodeGroup (char (sextet0 b0)) (char (sextet1 b0 0)) padChar padChar o output =
          .ok (1, overwrite output o [b0]) := by
        unfold decodeGroup
        simp only [value0, value1, byte0_sextets, setIf, ne_eq, not_true_eq_false, decide_false, Bool.false_eq_true, if_false]
        rw [setByte_ok _ (by omega), bind_ok]
        rfl
      rw [decodeGroups, if_neg (by simp [value0, value1, valid0, valid1, padding]), group, bind_ok]
      rfl
  | case3 b0 b1 =>
      obtain ⟨value0, -, valid0⟩ := decodeTable_char (sextet0 b0) (sextet0_high b0)
      obtain ⟨value1, -, valid1⟩ := decodeTable_char (sextet1 b0 b1) (sextet1_high b0 b1)
      obtain ⟨value2, some2, valid2⟩ := decodeTable_char (sextet2 b1 0) (sextet2_high b1 0)
      simp only [List.length_cons, List.length_nil] at room
      have low : (b1 &&& 0xF) <<< 2 = sextet2 b1 0 := (UInt8.or_zero).symm
      rw [low]
      change decodeGroups [char (sextet0 b0), char (sextet1 b0 b1), char (sextet2 b1 0), padChar] o output = _
      have group : decodeGroup (char (sextet0 b0)) (char (sextet1 b0 b1)) (char (sextet2 b1 0)) padChar o output =
          .ok (2, overwrite output o [b0, b1]) := by
        unfold decodeGroup
        simp only [value0, value1, value2, byte0_sextets, byte1_sextets, setIf, some2, ne_eq, not_true_eq_false,
          not_false_eq_true, decide_true, decide_false, Bool.false_eq_true, if_true, if_false]
        rw [setByte_ok _ (by omega), bind_ok, setByte_ok _ (by simp; omega), bind_ok, overwrite_next _ _ _ _ _ (by simp)]
        rfl
      rw [decodeGroups, if_neg (by simp [value0, value1, value2, valid0, valid1, valid2, padding]), group, bind_ok]
      rfl
  | case4 b0 b1 b2 rest ih =>
      obtain ⟨value0, -, valid0⟩ := decodeTable_char (sextet0 b0) (sextet0_high b0)
      obtain ⟨value1, -, valid1⟩ := decodeTable_char (sextet1 b0 b1) (sextet1_high b0 b1)
      obtain ⟨value2, some2, valid2⟩ := decodeTable_char (sextet2 b1 b2) (sextet2_high b1 b2)
      obtain ⟨value3, some3, valid3⟩ := decodeTable_char (sextet3 b2) (sextet3_high b2)
      simp only [List.length_cons] at room
      change decodeGroups (char (sextet0 b0) :: char (sextet1 b0 b1) :: char (sextet2 b1 b2) :: char (sextet3 b2) ::
        encode rest) o output = _
      have group : decodeGroup (char (sextet0 b0)) (char (sextet1 b0 b1)) (char (sextet2 b1 b2)) (char (sextet3 b2)) o
          output = .ok (3, overwrite output o [b0, b1, b2]) := by
        unfold decodeGroup
        simp only [value0, value1, value2, value3, byte0_sextets, byte1_sextets, byte2_sextets, setIf, some2, some3, ne_eq,
          not_false_eq_true, decide_true, if_true]
        rw [setByte_ok _ (by omega), bind_ok, setByte_ok _ (by simp; omega), bind_ok, setByte_ok _ (by simp; omega), bind_ok,
          overwrite_next _ _ _ _ _ (by simp), overwrite_next _ _ _ _ _ (by simp)]
        rfl
      rw [decodeGroups, if_neg (by simp [value0, value1, value2, value3, valid0, valid1, valid2, valid3]), group, bind_ok]
      dsimp only
      rw [ih _ _ (by simp; omega), overwrite_next _ _ _ _ _ (by simp)]
      simp only [List.cons_append, List.nil_append, List.length_cons]
      congr 3
      omega

theorem encode_ends {d : Buf} (some : d ≠ []) :
    (byteAt (encode d) ((encode d).length - 1) = padChar ↔ d.length % 3 ≠ 0) ∧
      (byteAt (encode d) ((encode d).length - 2) = padChar ↔ d.length % 3 = 1) := by
  fun_induction encode d with
  | case1 => exact absurd rfl some
  | case2 b0 => exact ⟨iff_of_true rfl (by simp), iff_of_true rfl rfl⟩
  | case3 b0 b1 =>
      have low : (b1 &&& 0xF) <<< 2 = sextet2 b1 0 := (UInt8.or_zero).symm
      have third := (decodeTable_char (sextet2 b1 0) (sextet2_high b1 0)).2.1
      rw [low]
      exact ⟨iff_of_true rfl (by simp), iff_of_false third (by simp)⟩
  | case4 b0 b1 b2 rest ih =>
      cases rest with
      | nil =>
          have third := (decodeTable_char (sextet2 b1 b2) (sextet2_high b1 b2)).2.1
          have fourth := (decodeTable_char (sextet3 b2) (sextet3_high b2)).2.1
          exact ⟨iff_of_false fourth (by simp), iff_of_false third (by simp)⟩
      | cons b rest =>
          obtain ⟨last, before⟩ := ih (List.cons_ne_nil b rest)
          have length := length_encode (b :: rest)
          simp only [List.length_cons] at length
          rw [List.length_append, byteAt_append, byteAt_append, if_neg (by simp; omega), if_neg (by simp; omega)]
          simp only [List.length_cons, List.length_nil] at last before ⊢
          rw [show 0 + 1 + 1 + 1 + 1 + (encode (b :: rest)).length - 1 - (0 + 1 + 1 + 1 + 1) =
              (encode (b :: rest)).length - 1 by omega,
            show 0 + 1 + 1 + 1 + 1 + (encode (b :: rest)).length - 2 - (0 + 1 + 1 + 1 + 1) =
              (encode (b :: rest)).length - 2 by omega, last, before]
          omega

theorem decode_encode (d output : Buf) (room : d.length ≤ output.length) :
    decode (encode d) output = .ok (some d.length, overwrite output 0 d) := by
  have groups : (encode d).length % 4 = 0 := by
    rw [length_encode]
    omega
  rw [decode, if_neg (by omega), decodeGroups_encode _ _ _ (by omega), Nat.zero_add]

end Gutd.Base64
