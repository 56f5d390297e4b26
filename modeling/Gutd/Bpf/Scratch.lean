import Gutd.Bpf.Base64

set_option autoImplicit false

namespace Gutd.Bpf

open Bytes Base64

def scratchSize : Nat := 16384

def scratchIdx (off : UInt32) (pos : Nat) : Nat := ((off + UInt32.ofNat pos) &&& 0x3FFF).toNat

def scratchAt (scratch : Buf) (off : UInt32) (pos : Nat) : UInt8 := byteAt scratch (scratchIdx off pos)

def scratchSet (scratch : Buf) (off : UInt32) (pos : Nat) (value : UInt8) : Buf :=
  overwrite scratch (scratchIdx off pos) [value]

def b64EncodeStepAt (inOff outOff : UInt32) (scratch : Buf) (idx : Nat) : Buf :=
  let pos := idx * 3
  let opos := idx * 4
  let a := scratchAt scratch inOff pos
  let b := scratchAt scratch inOff (pos + 1)
  let d := scratchAt scratch inOff (pos + 2)
  let scratch := scratchSet scratch outOff opos (b64e (a >>> 2))
  let scratch := scratchSet scratch outOff (opos + 1) (b64e (((a &&& 0x03) <<< 4) ||| (b >>> 4)))
  let scratch := scratchSet scratch outOff (opos + 2) (b64e (((b &&& 0x0F) <<< 2) ||| (d >>> 6)))
  scratchSet scratch outOff (opos + 3) (b64e (d &&& 0x3F))

def b64EncodeAt (scratch : Buf) (inOff : UInt32) (inLen : Nat) (outOff : UInt32) : Buf × Nat :=
  let fullGroups := min (inLen / 3) 300
  let scratch := (List.range fullGroups).foldl (b64EncodeStepAt inOff outOff) scratch
  let ip := fullGroups * 3 % 2 ^ 12
  let op := fullGroups * 4 % 2 ^ 12
  let rem := inLen - ip
  if rem ≥ 1 then
    let a := scratchAt scratch inOff ip
    if rem ≥ 2 then
      let b := scratchAt scratch inOff (ip + 1)
      let scratch := scratchSet scratch outOff op (b64e (a >>> 2))
      let scratch := scratchSet scratch outOff (op + 1) (b64e (((a &&& 0x03) <<< 4) ||| (b >>> 4)))
      let scratch := scratchSet scratch outOff (op + 2) (b64e ((b &&& 0x0F) <<< 2))
      (scratchSet scratch outOff (op + 3) 0x3D, op + 4)
    else
      let scratch := scratchSet scratch outOff op (b64e (a >>> 2))
      let scratch := scratchSet scratch outOff (op + 1) (b64e ((a &&& 0x03) <<< 4))
      let scratch := scratchSet scratch outOff (op + 2) 0x3D
      (scratchSet scratch outOff (op + 3) 0x3D, op + 4)
  else (scratch, op)

def b64DecodeStepAt (inOff outOff : UInt32) (scratch : Buf) (idx : Nat) : Buf :=
  let pos := idx * 4
  let opos := idx * 3
  let v0 := b64DecLut (scratchAt scratch inOff pos)
  let v1 := b64DecLut (scratchAt scratch inOff (pos + 1))
  let v2 := b64DecLut (scratchAt scratch inOff (pos + 2))
  let v3 := b64DecLut (scratchAt scratch inOff (pos + 3))
  let scratch := scratchSet scratch outOff opos ((v0 <<< 2) ||| (v1 >>> 4))
  let scratch := scratchSet scratch outOff (opos + 1) ((v1 <<< 4) ||| (v2 >>> 2))
  scratchSet scratch outOff (opos + 2) ((v2 <<< 6) ||| v3)

def b64DecodeAt (scratch : Buf) (inOff : UInt32) (inLen : Nat) (outOff : UInt32) : Buf × Nat :=
  let ngroups := inLen / 4
  let scratch := (List.range ngroups).foldl (b64DecodeStepAt inOff outOff) scratch
  let opos := ngroups * 3
  if inLen ≥ 4 then
    let opos := if scratchAt scratch inOff (inLen - 1) = 0x3D then opos - 1 else opos
    (scratch, if scratchAt scratch inOff (inLen - 2) = 0x3D then opos - 1 else opos)
  else (scratch, opos)

theorem scratchIdx_eq (off : UInt32) (pos : Nat) : scratchIdx off pos = (off.toNat + pos) % scratchSize := by
  have mask : (0x3FFF : UInt32).toNat = 2 ^ 14 - 1 := rfl
  rw [scratchIdx, UInt32.toNat_and, mask, Nat.and_two_pow_sub_one_eq_mod, UInt32.toNat_add, UInt32.toNat_ofNat', scratchSize]
  omega

def scratchBase (off : UInt32) : Nat := off.toNat % scratchSize

theorem scratchIdx_inside {off : UInt32} {pos : Nat} (inside : scratchBase off + pos < scratchSize) :
    scratchIdx off pos = scratchBase off + pos := by
  rw [scratchIdx_eq]
  unfold scratchBase scratchSize at *
  omega

theorem scratchIdx_wrapped {off : UInt32} {pos : Nat} (short : pos < scratchSize)
    (outside : scratchSize ≤ scratchBase off + pos) : scratchIdx off pos = scratchBase off + pos - scratchSize := by
  rw [scratchIdx_eq]
  unfold scratchBase scratchSize at *
  omega

structure Placed (scratch : Buf) (off : UInt32) (data : Buf) : Prop where
  fits : scratchBase off + data.length ≤ scratchSize
  there : slice scratch (scratchBase off) (scratchBase off + data.length) = data

def Apart (off : UInt32) (length : Nat) (off' : UInt32) (length' : Nat) : Prop :=
  scratchBase off + length ≤ scratchBase off' ∨ scratchBase off' + length' ≤ scratchBase off

section Codec

variable {scratch : Buf} {inOff outOff : UInt32} {src : Buf}

theorem scratchAt_source (placed : Placed scratch inOff src) {written : Buf} {n pos : Nat} (short : written.length ≤ n)
    (apart : Apart inOff src.length outOff n) (inside : pos < src.length) :
    scratchAt (overwrite scratch (scratchBase outOff) written) inOff pos = byteAt src pos := by
  have fits := placed.fits
  rw [scratchAt, scratchIdx_inside (by omega), byteAt_overwrite_other _ _ _ _ (by unfold Apart at apart; omega)]
  have read := congrArg (byteAt · pos) placed.there
  rwa [byteAt_slice, if_pos (by omega)] at read

theorem scratchSet_next {written : Buf} {pos : Nat} (value : UInt8) (behind : written.length = pos)
    (inside : scratchBase outOff + pos < scratchSize) :
    scratchSet (overwrite scratch (scratchBase outOff) written) outOff pos value =
      overwrite scratch (scratchBase outOff) (written ++ [value]) := by
  rw [scratchSet, scratchIdx_inside inside, overwrite_next _ _ _ _ _ (by rw [behind])]

theorem length_flatMap_b64EncodeStep (src : Buf) (n : Nat) :
    ((List.range n).flatMap (b64EncodeStep src)).length = n * 4 := by
  induction n with
  | zero => rfl
  | succ n ih =>
      rw [List.range_succ, List.flatMap_append, List.length_append, ih, Nat.succ_mul]
      rfl

variable {n : Nat}

theorem encodeLoop (placed : Placed scratch inOff src) (apart : Apart inOff src.length outOff n)
    (room : scratchBase outOff + n ≤ scratchSize) {groups : Nat} (inside : groups * 3 ≤ src.length) (short : groups * 4 ≤ n) :
    (List.range groups).foldl (b64EncodeStepAt inOff outOff) scratch =
      overwrite scratch (scratchBase outOff) ((List.range groups).flatMap (b64EncodeStep src)) := by
  induction groups with
  | zero => exact (overwrite_nil _ _).symm
  | succ g ih =>
      have length := length_flatMap_b64EncodeStep src g
      rw [List.range_succ, List.foldl_append, ih (by omega) (by omega), List.foldl_cons, List.foldl_nil, List.flatMap_append]
      unfold b64EncodeStepAt
      dsimp only
      rw [scratchAt_source placed (by omega) apart (by omega), scratchAt_source placed (by omega) apart (by omega),
        scratchAt_source placed (by omega) apart (by omega), scratchSet_next _ length (by omega),
        scratchSet_next _ (by simp [length]) (by omega), scratchSet_next _ (by simp [length]) (by omega),
        scratchSet_next _ (by simp [length]) (by omega)]
      simp only [List.append_assoc]
      rfl

theorem b64EncodeAt_eq (placed : Placed scratch inOff src) (short : src.length ≤ 902)
    (room : scratchBase outOff + (encode src).length ≤ scratchSize) (apart : Apart inOff src.length outOff (encode src).length) :
    b64EncodeAt scratch inOff src.length outOff =
      (overwrite scratch (scratchBase outOff) (encode src), (encode src).length) := by
  have whole := encode_eq src
  have size := length_encode src
  have length := length_flatMap_b64EncodeStep src (src.length / 3)
  have groups : min (src.length / 3) 300 = src.length / 3 := by omega
  have ip : src.length / 3 * 3 % 2 ^ 12 = src.length / 3 * 3 := by omega
  have op : src.length / 3 * 4 % 2 ^ 12 = src.length / 3 * 4 := by omega
  unfold b64EncodeAt
  dsimp only
  rw [groups, ip, op, encodeLoop placed apart room (by omega) (by omega)]
  unfold b64Tail at whole
  dsimp only at whole
  by_cases one : src.length - src.length / 3 * 3 ≥ 1
  · rw [if_pos one, scratchAt_source placed (by omega) apart (by omega)]
    by_cases two : src.length - src.length / 3 * 3 ≥ 2
    · rw [if_pos two] at whole
      rw [if_pos two, scratchAt_source placed (by omega) apart (by omega), scratchSet_next _ length (by omega),
        scratchSet_next _ (by simp [length]) (by omega), scratchSet_next _ (by simp [length]) (by omega),
        scratchSet_next _ (by simp [length]) (by omega), ← whole]
      simp only [List.append_assoc, List.length_append, length]
      rfl
    · rw [if_neg two, if_pos one] at whole
      rw [if_neg two, scratchSet_next _ length (by omega), scratchSet_next _ (by simp [length]) (by omega),
        scratchSet_next _ (by simp [length]) (by omega), scratchSet_next _ (by simp [length]) (by omega), ← whole]
      simp only [List.append_assoc, List.length_append, length]
      rfl
  · rw [if_neg (by omega), if_neg one, List.append_nil] at whole
    rw [if_neg one, whole, ← length, whole]

theorem length_flatMap_b64DecodeStep (text : Buf) (n : Nat) :
    ((List.range n).flatMap (b64DecodeStep text)).length = n * 3 := by
  induction n with
  | zero => rfl
  | succ n ih =>
      rw [List.range_succ, List.flatMap_append, List.length_append, ih, Nat.succ_mul]
      rfl

theorem decodeLoop (placed : Placed scratch inOff src) (apart : Apart inOff src.length outOff n)
    (room : scratchBase outOff + n ≤ scratchSize) {groups : Nat} (inside : groups * 4 ≤ src.length) (short : groups * 3 ≤ n) :
    (List.range groups).foldl (b64DecodeStepAt inOff outOff) scratch =
      overwrite scratch (scratchBase outOff) ((List.range groups).flatMap (b64DecodeStep src)) := by
  induction groups with
  | zero => exact (overwrite_nil _ _).symm
  | succ g ih =>
      have length := length_flatMap_b64DecodeStep src g
      rw [List.range_succ, List.foldl_append, ih (by omega) (by omega), List.foldl_cons, List.foldl_nil, List.flatMap_append]
      unfold b64DecodeStepAt
      dsimp only
      rw [scratchAt_source placed (by omega) apart (by omega), scratchAt_source placed (by omega) apart (by omega),
        scratchAt_source placed (by omega) apart (by omega), scratchAt_source placed (by omega) apart (by omega),
        scratchSet_next _ length (by omega), scratchSet_next _ (by simp [length]) (by omega),
        scratchSet_next _ (by simp [length]) (by omega)]
      simp only [List.append_assoc]
      rfl

theorem scratchIdx_behind {data text : Nat} (short : data ≤ 896) (long : 4 ≤ text)
    (fits : scratchBase inOff + text ≤ scratchSize) (room : scratchBase outOff + data ≤ scratchSize)
    (apart : Apart inOff text outOff data) {pos : Nat} (behind : data ≤ pos) (near : pos < data + 2) :
    (scratchIdx outOff pos < scratchBase outOff ∨ scratchBase outOff + data ≤ scratchIdx outOff pos) ∧
      scratchIdx outOff pos ≠ scratchBase inOff + (text - 1) ∧ scratchIdx outOff pos ≠ scratchBase inOff + (text - 2) := by
  have size : scratchSize = 16384 := rfl
  unfold Apart at apart
  by_cases inside : scratchBase outOff + pos < scratchSize
  · rw [scratchIdx_inside inside]
    omega
  · rw [scratchIdx_wrapped (by omega) (by omega)]
    omega

structure Restored (s : Buf) (inOff outOff : UInt32) (text data : Buf) : Prop where
  there : slice s (scratchBase outOff) (scratchBase outOff + data.length) = data
  last : scratchAt s inOff (text.length - 1) = byteAt text (text.length - 1)
  before : scratchAt s inOff (text.length - 2) = byteAt text (text.length - 2)

variable {text data : Buf}

theorem restored_overwrite (whole : scratch.length = scratchSize) (placed : Placed scratch inOff text) (long : 4 ≤ text.length)
    (room : scratchBase outOff + data.length ≤ scratchSize) (apart : Apart inOff text.length outOff data.length) :
    Restored (overwrite scratch (scratchBase outOff) data) inOff outOff text data := by
  refine ⟨slice_overwrite_same _ _ _ (by omega), ?_, ?_⟩
  · exact scratchAt_source placed (Nat.le_refl _) apart (by omega)
  · exact scratchAt_source placed (Nat.le_refl _) apart (by omega)

theorem Restored.behind {s : Buf} (restored : Restored s inOff outOff text data) (short : data.length ≤ 896) (long : 4 ≤ text.length)
    (fits : scratchBase inOff + text.length ≤ scratchSize) (room : scratchBase outOff + data.length ≤ scratchSize)
    (apart : Apart inOff text.length outOff data.length) {pos : Nat} (after : data.length ≤ pos) (near : pos < data.length + 2)
    (value : UInt8) : Restored (scratchSet s outOff pos value) inOff outOff text data := by
  obtain ⟨outside, notLast, notBefore⟩ := scratchIdx_behind short long fits room apart after near
  have kept {p : Nat} (inside : p < text.length) (other : scratchIdx outOff pos ≠ scratchBase inOff + p) :
      scratchAt (scratchSet s outOff pos value) inOff p = scratchAt s inOff p := by
    rw [scratchAt, scratchAt, scratchIdx_inside (by omega), scratchSet,
      byteAt_overwrite_other _ _ _ _ (by rw [List.length_singleton]; omega)]
  refine ⟨?_, ?_, ?_⟩
  · rw [scratchSet, slice_overwrite_other _ _ (by rw [List.length_singleton]; omega), restored.there]
  · rw [kept (by omega) notLast, restored.last]
  · rw [kept (by omega) notBefore, restored.before]

theorem decodeLoop_restored (whole : scratch.length = scratchSize) (short : data.length ≤ 896) (some : data ≠ [])
    (placed : Placed scratch inOff (encode data)) (room : scratchBase outOff + data.length ≤ scratchSize)
    (apart : Apart inOff (encode data).length outOff data.length) :
    Restored ((List.range ((encode data).length / 4)).foldl (b64DecodeStepAt inOff outOff) scratch) inOff outOff (encode data)
      data := by
  obtain ⟨zeros, decoded⟩ := flatMap_b64DecodeStep data
  have size := length_encode data
  have positive := List.length_pos_iff.mpr some
  have fits := placed.fits
  obtain ⟨g, last⟩ : ∃ g, (encode data).length / 4 = g + 1 := ⟨(encode data).length / 4 - 1, by omega⟩
  have length := length_flatMap_b64DecodeStep (encode data) g
  rw [last, List.range_succ, List.flatMap_append, List.flatMap_cons, List.flatMap_nil, List.append_nil] at decoded
  obtain ⟨w0, w1, w2, group⟩ : ∃ w0 w1 w2, b64DecodeStep (encode data) g = [w0, w1, w2] := ⟨_, _, _, rfl⟩
  have step {written : Buf} (done : written.length ≤ data.length) :
      b64DecodeStepAt inOff outOff (overwrite scratch (scratchBase outOff) written) g =
        scratchSet (scratchSet (scratchSet (overwrite scratch (scratchBase outOff) written) outOff (g * 3) w0) outOff
          (g * 3 + 1) w1) outOff (g * 3 + 2) w2 := by
    obtain ⟨first, second, third⟩ : _ = w0 ∧ _ = w1 ∧ _ = w2 := by simpa [b64DecodeStep] using group
    unfold b64DecodeStepAt
    dsimp only
    rw [scratchAt_source placed done apart (by omega), scratchAt_source placed done apart (by omega),
      scratchAt_source placed done apart (by omega), scratchAt_source placed done apart (by omega), first, second, third]
  rw [last, List.range_succ, List.foldl_append, decodeLoop placed apart room (by omega) (by omega), List.foldl_cons,
    List.foldl_nil, step (by omega), scratchSet_next _ length (by omega)]
  rw [group] at decoded
  generalize (List.range g).flatMap (b64DecodeStep (encode data)) = written at decoded length
  have longText : 4 ≤ (encode data).length := by omega
  -- how many of the three bytes are data
  rcases (by omega : data.length = g * 3 + 1 ∨ data.length = g * 3 + 2 ∨ data.length = g * 3 + 3) with one | two | three
  · have exact : written ++ [w0] = data := by
      have front := congrArg (List.take data.length) decoded
      rwa [List.take_left, show written ++ [w0, w1, w2] = (written ++ [w0]) ++ [w1, w2] by simp,
        List.take_left' (by simp [length, one])] at front
    rw [exact]
    have restored := restored_overwrite whole placed longText room apart
    exact (restored.behind short longText fits room apart (by omega) (by omega) w1).behind short longText fits room apart
      (by omega) (by omega) w2
  · have exact : written ++ [w0] ++ [w1] = data := by
      have front := congrArg (List.take data.length) decoded
      rwa [List.take_left, show written ++ [w0, w1, w2] = (written ++ [w0] ++ [w1]) ++ [w2] by simp,
        List.take_left' (by simp [length, two])] at front
    rw [scratchSet_next _ (by simp [length]) (by omega), exact]
    have restored := restored_overwrite whole placed longText room apart
    exact restored.behind short longText fits room apart (by omega) (by omega) w2
  · have exact : written ++ [w0] ++ [w1] ++ [w2] = data := by
      have front := congrArg (List.take data.length) decoded
      rwa [List.take_left, show written ++ [w0, w1, w2] = written ++ [w0] ++ [w1] ++ [w2] by simp,
        List.take_of_length_le (by simp [length, three])] at front
    rw [scratchSet_next _ (by simp [length]) (by omega), scratchSet_next _ (by simp [length]) (by omega), exact]
    exact restored_overwrite whole placed longText room apart

theorem b64DecodeAt_encode (whole : scratch.length = scratchSize) (short : data.length ≤ 896)
    (placed : Placed scratch inOff (encode data)) (room : scratchBase outOff + data.length ≤ scratchSize)
    (apart : Apart inOff (encode data).length outOff data.length) :
    ∃ s, b64DecodeAt scratch inOff (encode data).length outOff = (s, data.length) ∧
      slice s (scratchBase outOff) (scratchBase outOff + data.length) = data := by
  by_cases empty : data = []
  · subst empty
    exact ⟨scratch, rfl, by simp [slice]⟩
  have restored := decodeLoop_restored whole short empty placed room apart
  obtain ⟨last, before⟩ := encode_ends empty
  have size := length_encode data
  have positive := List.length_pos_iff.mpr empty
  have pad : (0x3D : UInt8) = padChar := rfl
  refine ⟨_, ?_, restored.there⟩
  unfold b64DecodeAt
  dsimp only
  rw [if_pos (by omega), restored.last, restored.before, pad, if_congr last rfl rfl, if_congr before rfl rfl]
  congr 1
  split_ifs <;> omega

end Codec

theorem base64_codecs :
    (∀ (x out : Buf) (room : Nat), (encode x).length ≤ room → x.length ≤ out.length →
      ∃ text out', encodeInto x room = .ok text ∧ decode text out = .ok (some x.length, out') ∧ out'.take x.length = x) ∧
    (∀ (x scratch : Buf) (inOff outOff : UInt32), x.length ≤ 896 → scratch.length = scratchSize →
      Placed scratch inOff x → scratchBase outOff + (encode x).length ≤ scratchSize →
      Apart inOff x.length outOff (encode x).length →
      ∃ s, b64EncodeAt scratch inOff x.length outOff = (s, (encode x).length) ∧
        slice s (scratchBase outOff) (scratchBase outOff + (encode x).length) = encode x) ∧
    (∀ (x scratch : Buf) (inOff outOff : UInt32), x.length ≤ 896 → scratch.length = scratchSize →
      Placed scratch inOff (encode x) → scratchBase outOff + x.length ≤ scratchSize →
      Apart inOff (encode x).length outOff x.length →
      ∃ s, b64DecodeAt scratch inOff (encode x).length outOff = (s, x.length) ∧
        slice s (scratchBase outOff) (scratchBase outOff + x.length) = x) := by
  refine ⟨fun x out room fits large => ?_, fun x scratch inOff outOff short whole placed room apart => ?_,
    fun x scratch inOff outOff short whole placed room apart => b64DecodeAt_encode whole short placed room apart⟩
  · refine ⟨encode x, overwrite out 0 x, ?_, decode_encode x out large, ?_⟩
    · rw [encodeInto, if_pos fits, Checked.pure_eq_ok]
    · rw [overwrite_zero _ _ large, List.take_left]
  · exact ⟨_, b64EncodeAt_eq placed (by omega) room apart, slice_overwrite_same _ _ _ (by omega)⟩

theorem placed_behind {front rest data : Buf} {off : UInt32} (start : scratchBase off = front.length)
    (whole : (front ++ (data ++ rest)).length = scratchSize) : Placed (front ++ (data ++ rest)) off data := by
  simp only [List.length_append] at whole
  exact ⟨by omega, by rw [start]; exact slice_middle front data rest _ rfl⟩

theorem base64_codecs_sample :
    (∃ text out', encodeInto [1, 2, 3, 4] 8 = .ok text ∧ decode text [0, 0, 0, 0] = .ok (some 4, out') ∧
      out'.take 4 = [1, 2, 3, 4]) ∧
    (∃ s, b64EncodeAt (List.replicate 384 0 ++ ([1, 2, 3, 4] ++ List.replicate 15996 0)) 384 4 1280 = (s, 8) ∧
      slice s 1280 1288 = encode [1, 2, 3, 4]) ∧
    (∃ s, b64DecodeAt (List.replicate 1280 0 ++ (encode [1, 2, 3, 4] ++ List.replicate 15096 0)) 1280 8 384 = (s, 4) ∧
      slice s 384 388 = [1, 2, 3, 4]) := by
  have size : (encode [1, 2, 3, 4]).length = 8 := rfl
  have data : (List.replicate 384 (0 : UInt8) ++ ([1, 2, 3, 4] ++ List.replicate 15996 0)).length = scratchSize := by
    simp only [List.length_append, List.length_replicate]
    rfl
  have text : (List.replicate 1280 (0 : UInt8) ++ (encode [1, 2, 3, 4] ++ List.replicate 15096 0)).length = scratchSize := by
    simp only [List.length_append, List.length_replicate, size]
    rfl
  refine ⟨base64_codecs.1 [1, 2, 3, 4] [0, 0, 0, 0] 8 (by decide) (by decide), ?_, ?_⟩
  · exact base64_codecs.2.1 [1, 2, 3, 4] _ 384 1280 (by decide) data (placed_behind (List.length_replicate ..).symm data)
      (by decide) (.inl (by decide))
  · exact base64_codecs.2.2 [1, 2, 3, 4] _ 1280 384 (by decide) text (placed_behind (List.length_replicate ..).symm text)
      (by decide) (.inr (by decide))

end Gutd.Bpf
