import Gutd.Shared.BlockWords
import Gutd.Bpf.LongHeader

set_option autoImplicit false

namespace Gutd.Bpf

open Bytes

theorem xtime_eq : ∀ x : UInt8, xtime x = Gutd.xtime x := forall_byte (by decide)

theorem mixColumn_be32 (b0 b1 b2 b3 : UInt8) : mixColumn (be32 b0 b1 b2 b3) = aesColumn b0 b1 b2 b3 := by
  have bytes : toBeBytes (be32 b0 b1 b2 b3) = [b0, b1, b2, b3] := toBeBytes_le32 b3 b2 b1 b0
  rw [mixColumn, bytes]
  simp only [aesColumn, xtime_eq]
  rfl

theorem sb_shiftRight (w : UInt32) {k : Nat} (inside : k < 4) : sb (w >>> UInt32.ofNat (8 * k)) = subByte (wordByte w k) := by
  have amount : (UInt32.ofNat (8 * k)).toNat % 32 = 8 * k := by
    rw [UInt32.toNat_ofNat']
    omega
  rw [sb_toUInt8]
  congr 1
  apply UInt8.toNat_inj.mp
  rw [UInt32.toNat_toUInt8, UInt32.toNat_shiftRight, amount, wordByte, UInt8.toNat_ofNat', Nat.shiftRight_eq_div_pow]

theorem sb_eq (w : UInt32) : sb w = subByte (wordByte w 0) := by
  rw [← sb_shiftRight w (show 0 < 4 by omega)]
  congr 1

theorem subShift_eq (a b c d : UInt32) :
    subShift #v[a, b, c, d] =
      #v[be32 (sb (a >>> 24)) (sb (b >>> 16)) (sb (c >>> 8)) (sb d), be32 (sb (b >>> 24)) (sb (c >>> 16)) (sb (d >>> 8)) (sb a),
        be32 (sb (c >>> 24)) (sb (d >>> 16)) (sb (a >>> 8)) (sb b),
        be32 (sb (d >>> 24)) (sb (a >>> 16)) (sb (b >>> 8)) (sb c)] := by
  have top (w : UInt32) : sb (w >>> 24) = subByte (wordByte w 3) := sb_shiftRight w (k := 3) (by omega)
  have second (w : UInt32) : sb (w >>> 16) = subByte (wordByte w 2) := sb_shiftRight w (k := 2) (by omega)
  have third (w : UInt32) : sb (w >>> 8) = subByte (wordByte w 1) := sb_shiftRight w (k := 1) (by omega)
  have bytes : (#v[a, b, c, d] : Vector UInt32 4).toList.flatMap toBeBytes =
      [wordByte a 3, wordByte a 2, wordByte a 1, wordByte a 0, wordByte b 3, wordByte b 2, wordByte b 1, wordByte b 0,
        wordByte c 3, wordByte c 2, wordByte c 1, wordByte c 0, wordByte d 3, wordByte d 2, wordByte d 1, wordByte d 0] := by
    simp [toBeBytes_eq_wordByte]
  rw [subShift, bytes]
  simp only [top, second, third, sb_eq]
  rfl

theorem addRoundKey_eq (roundKeys : List UInt32) (r : Nat) (a b c d : UInt32) :
    addRoundKey roundKeys r #v[a, b, c, d] =
      #v[a ^^^ roundKeys.getD (r * 4 + 0) 0, b ^^^ roundKeys.getD (r * 4 + 1) 0, c ^^^ roundKeys.getD (r * 4 + 2) 0,
        d ^^^ roundKeys.getD (r * 4 + 3) 0] :=
  vector4_ofFn _

theorem aesRound_eq (rk : Vector UInt32 44) (s : Vector UInt32 4) (r : Nat) :
    aesRound rk s r = addRoundKey rk.toList r ((subShift s).map mixColumn) := by
  obtain ⟨a, b, c, d, rfl⟩ : ∃ a b c d, s = #v[a, b, c, d] := ⟨_, _, _, _, vector4_eta s⟩
  rw [subShift_eq]
  simp only [Vector.map_mk, List.map_toArray, List.map_cons, List.map_nil, mixColumn_be32]
  rw [addRoundKey_eq]
  rfl

theorem aesLastColumn_eq (roundKey w0 w1 w2 w3 : UInt32) :
    aesLastColumn roundKey w0 w1 w2 w3 =
      toBeBytes (be32 (sb (w0 >>> 24)) (sb (w1 >>> 16)) (sb (w2 >>> 8)) (sb w3) ^^^ roundKey) := by
  have key {k : Nat} (inside : k < 4) : (roundKey >>> UInt32.ofNat (8 * k)).toUInt8 = wordByte roundKey k := by
    have amount : (UInt32.ofNat (8 * k)).toNat % 32 = 8 * k := by
      rw [UInt32.toNat_ofNat']
      omega
    apply UInt8.toNat_inj.mp
    rw [UInt32.toNat_toUInt8, UInt32.toNat_shiftRight, amount, wordByte, UInt8.toNat_ofNat', Nat.shiftRight_eq_div_pow]
  have last : roundKey.toUInt8 = wordByte roundKey 0 := key (k := 0) (by omega)
  have column : toBeBytes (be32 (sb (w0 >>> 24)) (sb (w1 >>> 16)) (sb (w2 >>> 8)) (sb w3)) =
      [sb (w0 >>> 24), sb (w1 >>> 16), sb (w2 >>> 8), sb w3] := toBeBytes_le32 _ _ _ _
  rw [toBeBytes_xor, column, toBeBytes_eq_wordByte, aesLastColumn, last]
  rw [← key (k := 3) (by omega), ← key (k := 2) (by omega), ← key (k := 1) (by omega)]
  rfl

theorem aes128EncryptBlock_eq (rk : Vector UInt32 44) (block : Buf) :
    aes128EncryptBlock rk block = Gutd.aes128EncryptBlock rk.toList block := by
  have words : (Vector.ofFn fun i : Fin 4 => be32At block (4 * i.val)) = wordsOfBytes block := vector4_ofFn _
  have key (i : Nat) (inside : i < 44) : rk.toList.getD i 0 = rk.get ⟨i, inside⟩ := by
    rw [List.getD_eq_getElem _ _ (by simpa using inside), Vector.getElem_toList]
    rfl
  have start : #v[be32At block 0 ^^^ rk.get 0, be32At block 4 ^^^ rk.get 1, be32At block 8 ^^^ rk.get 2,
      be32At block 12 ^^^ rk.get 3] = addRoundKey rk.toList 0 (wordsOfBytes block) := by
    rw [wordsOfBytes, addRoundKey_eq, key _ (by omega), key _ (by omega), key _ (by omega), key _ (by omega)]
    rfl
  have rounds (s : Vector UInt32 4) : (List.range' 1 9).foldl (aesRound rk) s =
      (List.range' 1 9).foldl (fun s r => addRoundKey rk.toList r ((subShift s).map mixColumn)) s := by
    congr 1
    funext s r
    exact aesRound_eq rk s r
  unfold aes128EncryptBlock Gutd.aes128EncryptBlock
  dsimp only
  rw [words, start, rounds]
  generalize List.foldl _ _ _ = s
  obtain ⟨a, b, c, d, rfl⟩ : ∃ a b c d, s = #v[a, b, c, d] := ⟨_, _, _, _, vector4_eta s⟩
  rw [subShift_eq, addRoundKey_eq, key _ (by omega), key _ (by omega), key _ (by omega), key _ (by omega)]
  simp only [vector4_get, aesLastColumn_eq]
  exact (bytesOfWords_eq _ _ _ _).symm

theorem bytesOfWords_zipWith_xor (z v : Vector UInt32 4) :
    bytesOfWords (Vector.zipWith (· ^^^ ·) z v) = xorAt (bytesOfWords z) 0 (bytesOfWords v) := by
  obtain ⟨a, b, c, d, rfl⟩ : ∃ a b c d, z = #v[a, b, c, d] := ⟨_, _, _, _, vector4_eta z⟩
  obtain ⟨a', b', c', d', rfl⟩ : ∃ a b c d, v = #v[a, b, c, d] := ⟨_, _, _, _, vector4_eta v⟩
  have zipped : Vector.zipWith (· ^^^ ·) #v[a, b, c, d] #v[a', b', c', d'] = #v[a ^^^ a', b ^^^ b', c ^^^ c', d ^^^ d'] := by
    simp
  rw [zipped]
  simp only [bytesOfWords_eq, toBeBytes_eq_wordByte, wordByte_xor]
  simp [xorAt]

def shiftWords (v : Vector UInt32 4) : Vector UInt32 4 :=
  #v[v.get 0 >>> 1, (v.get 1 >>> 1) ||| (v.get 0 <<< 31), (v.get 2 >>> 1) ||| (v.get 1 <<< 31), (v.get 3 >>> 1) ||| (v.get 2 <<< 31)]

theorem shiftRightBlock_bytes (b0 b1 b2 b3 b4 b5 b6 b7 b8 b9 b10 b11 b12 b13 b14 b15 : UInt8) :
    shiftRightBlock [b0, b1, b2, b3, b4, b5, b6, b7, b8, b9, b10, b11, b12, b13, b14, b15] =
      [b0 >>> 1, (b1 >>> 1) ||| (b0 <<< 7), (b2 >>> 1) ||| (b1 <<< 7), (b3 >>> 1) ||| (b2 <<< 7),
        (b4 >>> 1) ||| (b3 <<< 7), (b5 >>> 1) ||| (b4 <<< 7), (b6 >>> 1) ||| (b5 <<< 7), (b7 >>> 1) ||| (b6 <<< 7),
        (b8 >>> 1) ||| (b7 <<< 7), (b9 >>> 1) ||| (b8 <<< 7), (b10 >>> 1) ||| (b9 <<< 7), (b11 >>> 1) ||| (b10 <<< 7),
        (b12 >>> 1) ||| (b11 <<< 7), (b13 >>> 1) ||| (b12 <<< 7), (b14 >>> 1) ||| (b13 <<< 7), (b15 >>> 1) ||| (b14 <<< 7)] := by
  simp [shiftRightBlock, byteAt]

theorem shiftRightBlock_bytesOfWords (v : Vector UInt32 4) : shiftRightBlock (bytesOfWords v) = bytesOfWords (shiftWords v) := by
  obtain ⟨a, b, c, d, rfl⟩ : ∃ a b c d, v = #v[a, b, c, d] := ⟨_, _, _, _, vector4_eta v⟩
  have words : shiftWords #v[a, b, c, d] =
    #v[a >>> 1, (b >>> 1) ||| (a <<< 31), (c >>> 1) ||| (b <<< 31), (d >>> 1) ||| (c <<< 31)] := rfl
  rw [words]
  have inner (w u : UInt32) : toBeBytes ((w >>> 1) ||| (u <<< 31)) =
      [(wordByte w 3 >>> 1) ||| (wordByte u 0 <<< 7), (wordByte w 2 >>> 1) ||| (wordByte w 3 <<< 7),
        (wordByte w 1 >>> 1) ||| (wordByte w 2 <<< 7), (wordByte w 0 >>> 1) ||| (wordByte w 1 <<< 7)] := by
    rw [toBeBytes_eq_wordByte, wordByte_shift_top, wordByte_shift_inner w u (k := 2) (by omega),
      wordByte_shift_inner w u (k := 1) (by omega), wordByte_shift_inner w u (k := 0) (by omega)]
  have first (w : UInt32) : toBeBytes (w >>> 1) =
      [wordByte w 3 >>> 1, (wordByte w 2 >>> 1) ||| (wordByte w 3 <<< 7),
        (wordByte w 1 >>> 1) ||| (wordByte w 2 <<< 7), (wordByte w 0 >>> 1) ||| (wordByte w 1 <<< 7)] := by
    rw [toBeBytes_eq_wordByte, wordByte_shift_first, wordByte_shift_first_inner w (k := 2) (by omega),
      wordByte_shift_first_inner w (k := 1) (by omega), wordByte_shift_first_inner w (k := 0) (by omega)]
  rw [bytesOfWords_eq, bytesOfWords_eq, first, inner, inner, inner]
  simp only [toBeBytes_eq_wordByte, List.cons_append, List.nil_append]
  exact shiftRightBlock_bytes ..

theorem and_one_cases (w : UInt32) : w &&& 1 = 0 ∨ w &&& 1 = 1 := by
  have value : (w &&& 1).toNat = w.toNat % 2 := by
    rw [UInt32.toNat_and]
    exact Nat.and_one_is_mod _
  rw [← UInt32.toNat_inj, ← UInt32.toNat_inj, value]
  exact Nat.mod_two_eq_zero_or_one _

theorem and_full (w : UInt32) : w &&& (0 - 1) = w := by
  apply UInt32.toNat_inj.mp
  rw [UInt32.toNat_and]
  exact Nat.and_two_pow_sub_one_of_lt_two_pow w.toNat_lt

theorem and_none (w : UInt32) : w &&& (0 - 0) = 0 := by
  apply UInt32.toNat_inj.mp
  rw [UInt32.toNat_and]
  exact Nat.and_zero _

theorem wordByte_low (w : UInt32) : wordByte w 0 &&& 1 = 1 ↔ w &&& 1 = 1 := by
  rw [← UInt8.toNat_inj, ← UInt32.toNat_inj, UInt8.toNat_and, UInt32.toNat_and]
  change _ &&& 1 = 1 ↔ _ &&& 1 = 1
  rw [Nat.and_one_is_mod, Nat.and_one_is_mod, wordByte, UInt8.toNat_ofNat']
  omega

theorem addMasked_eq (z v : Vector UInt32 4) (y : UInt32) :
    bytesOfWords (Vector.zipWith (fun z v => z ^^^ (v &&& (0 - (y &&& 1)))) z v) =
      if y &&& 1 = 1 then xorAt (bytesOfWords z) 0 (bytesOfWords v) else bytesOfWords z := by
  rcases and_one_cases y with clear | set
  · rw [clear, if_neg (by decide)]
    simp only [and_none, UInt32.xor_zero]
    congr 1
    rw [vector4_eta z, vector4_eta v]
    simp
  · rw [set, if_pos rfl]
    simp only [and_full]
    exact bytesOfWords_zipWith_xor z v

theorem reduce_eq (v : Vector UInt32 4) :
    bytesOfWords #v[(v.get 0 >>> 1) ^^^ ((0xE1000000 : UInt32) &&& ((0 : UInt32) - (v.get 3 &&& 1))), (v.get 1 >>> 1) ||| (v.get 0 <<< 31),
        (v.get 2 >>> 1) ||| (v.get 1 <<< 31), (v.get 3 >>> 1) ||| (v.get 2 <<< 31)] =
      if v.get 3 &&& 1 = 1 then xorAt (bytesOfWords (shiftWords v)) 0 [0xE1] else bytesOfWords (shiftWords v) := by
  rcases and_one_cases (v.get 3) with clear | set
  · rw [clear, if_neg (by decide), and_none, UInt32.xor_zero]
    rfl
  · rw [set, if_pos rfl, and_full]
    generalize lead : v.get 0 >>> 1 = w
    have reduced : toBeBytes (w ^^^ 0xE1000000) = xorAt (toBeBytes w) 0 [0xE1] := by
      rw [toBeBytes_xor, toBeBytes_eq_wordByte]
      have polynomial : toBeBytes 0xE1000000 = [0xE1, 0, 0, 0] := by decide
      rw [polynomial]
      simp [xorAt]
    rw [shiftWords, lead, bytesOfWords_eq, bytesOfWords_eq, reduced, List.append_assoc, List.append_assoc, List.append_assoc,
      List.append_assoc, xorAt_append_left _ _ _ _ (by simp)]

theorem byteAt_bytesOfWords_last (v : Vector UInt32 4) : byteAt (bytesOfWords v) 15 = wordByte (v.get 3) 0 := by
  obtain ⟨a, b, c, d, rfl⟩ : ∃ a b c d, v = #v[a, b, c, d] := ⟨_, _, _, _, vector4_eta v⟩
  rw [bytesOfWords_eq]
  simp only [toBeBytes_eq_wordByte]
  rfl

theorem gf128MulStep_words (x : Buf) (ctx : GfCtx) {w b : Nat} (inside : b < 32) :
    gf128MulStep x (bytesOfWords ctx.z, bytesOfWords ctx.v) (32 * w + b) =
      (bytesOfWords (gfStepCb (be32At x (4 * w)) ctx b).z, bytesOfWords (gfStepCb (be32At x (4 * w)) ctx b).v) := by
  have place : (32 * w + b) / 8 = 4 * w + b / 8 := by omega
  have bit : (32 * w + b) % 8 = b % 8 := by omega
  have same : (byteAt x (4 * w + b / 8) >>> UInt8.ofNat (7 - b % 8)) &&& 1 = 1 ↔
      (be32At x (4 * w) >>> UInt32.ofNat (31 - b)) &&& 1 = 1 := by
    rw [byte_and_one_eq_one_iff_testBit _ (by omega), and_one_eq_one_iff_testBit _ (by omega), testBit_be32At x (4 * w) inside]
  have carry : byteAt (bytesOfWords ctx.v) 15 &&& 1 = 1 ↔ ctx.v.get 3 &&& 1 = 1 := by
    rw [byteAt_bytesOfWords_last, wordByte_low]
  simp only [gf128MulStep, gfStepCb, addMasked_eq, reduce_eq, shiftRightBlock_bytesOfWords, place, bit, same, carry]

theorem gf128Mul_word (x : Buf) (ctx : GfCtx) (w : Nat) {n : Nat} (inside : n ≤ 32) :
    (List.range n).foldl (fun zv b => gf128MulStep x zv (32 * w + b)) (bytesOfWords ctx.z, bytesOfWords ctx.v) =
      (bytesOfWords ((List.range n).foldl (gfStepCb (be32At x (4 * w))) ctx).z,
        bytesOfWords ((List.range n).foldl (gfStepCb (be32At x (4 * w))) ctx).v) := by
  induction n with
  | zero => rfl
  | succ n ih =>
    rw [List.range_succ, List.foldl_append, List.foldl_append, ih (by omega)]
    exact gf128MulStep_words x _ (by omega)

theorem foldl_range_words {σ : Type} (f : σ → Nat → σ) (start : σ) (n : Nat) :
    (List.range (32 * n)).foldl f start =
      (List.range n).foldl (fun s w => (List.range 32).foldl (fun s b => f s (32 * w + b)) s) start := by
  induction n with
  | zero => rfl
  | succ n ih =>
    rw [Nat.mul_succ, List.range_add, List.foldl_append, ih, List.foldl_map, List.range_succ (n := n), List.foldl_append]
    rfl

theorem gf128Mul_words (x : Buf) (start : GfCtx) {m : Nat} (inside : m ≤ 32) (n : Nat) :
    (List.range n).foldl (fun zv w => (List.range m).foldl (fun zv b => gf128MulStep x zv (32 * w + b)) zv)
        (bytesOfWords start.z, bytesOfWords start.v) =
      let ctx := (List.range n).foldl (fun ctx w => (List.range m).foldl (gfStepCb (be32At x (4 * w))) ctx) start
      (bytesOfWords ctx.z, bytesOfWords ctx.v) := by
  induction n with
  | zero => rfl
  | succ n ih =>
    rw [List.range_succ, List.foldl_append, List.foldl_append, ih]
    exact gf128Mul_word x _ n inside

theorem gf128Mul_eq (x : Buf) {h : Buf} (width : h.length = 16) : gf128Mul x h = Gutd.gf128Mul x h := by
  have zero : (List.replicate 16 0 : Buf) = bytesOfWords #v[0, 0, 0, 0] := by decide
  have subkey : h = bytesOfWords (wordsOfBytes h) := (bytesOfWords_wordsOfBytes width).symm
  have words := gf128Mul_words x { z := #v[0, 0, 0, 0], v := wordsOfBytes h } (Nat.le_refl 32) 4
  rw [Gutd.gf128Mul, show 128 = 32 * 4 from rfl, foldl_range_words, zero]
  nth_rewrite 2 [subkey]
  rw [words]
  rfl

theorem ghashUpdate_eq {h : Buf} (width : h.length = 16) (x block : Buf) :
    ghashUpdate h x block = Gutd.gf128Mul (xorAt x 0 block) h := gf128Mul_eq _ width

theorem xorAt_append_zeros (x block : Buf) (off n : Nat) : xorAt x off (block ++ List.replicate n 0) = xorAt x off block := by
  have padded (i : Nat) : (block ++ List.replicate n 0).getD i 0 = block.getD i 0 := by
    change byteAt _ i = byteAt block i
    rw [byteAt_append]
    split_ifs with inside
    · rfl
    · rw [byteAt_of_length_le block i (by omega)]
      simp [byteAt]
  simp only [xorAt, padded]

theorem gcmGhashTag128_eq {h aad ct : Buf} (j0Ks : Buf) (subkey : h.length = 16) (header : aad.length = 34)
    (frame : ct.length = 128) : gcmGhashTag128 h aad ct j0Ks = xorAt j0Ks 0 (ghash h aad ct) := by
  have lengths : toBeBytes64 (UInt64.ofNat 34 * 8) ++ toBeBytes64 (UInt64.ofNat 128 * 8) =
      [0, 0, 0, 0, 0, 0, 0x01, 0x10, 0, 0, 0, 0, 0, 0, 0x04, 0x00] := by decide
  have cut : slice aad 32 48 = slice aad 32 34 := by
    rw [slice, slice, List.take_of_length_le (by simp; omega), List.take_of_length_le (by simp; omega)]
  have headerBlocks (x : Buf) : ghashBlocks h aad x = Gutd.gf128Mul (xorAt (Gutd.gf128Mul (xorAt (Gutd.gf128Mul
      (xorAt x 0 (slice aad 0 16)) h) 0 (slice aad 16 32)) h) 0 (slice aad 32 34)) h := by
    rw [ghashBlocks, header, ← cut]
    rfl
  have frameBlocks (x : Buf) : ghashBlocks h ct x =
      (List.range 8).foldl (fun x i => Gutd.gf128Mul (xorAt x 0 (slice ct (i * 16) (i * 16 + 16))) h) x := by
    rw [ghashBlocks, frame]
  simp only [gcmGhashTag128, ghashUpdate_eq subkey, xorAt_append_zeros]
  rw [ghash, header, frame, lengths, headerBlocks, frameBlocks]

theorem sealFrame_eq (cfg : GutConfig) (nonce : Buf) {aad frame : Buf} (header : aad.length = 34) (width : frame.length = 128) :
    sealFrame cfg nonce aad frame = aes128GcmEncrypt cfg.quicKeyRk.toList nonce aad frame := by
  have counters : ∀ i ∈ List.range 8, aesCtr cfg.quicKeyRk nonce (i + 2) =
      Gutd.aes128EncryptBlock cfg.quicKeyRk.toList (nonce ++ toBeBytes (UInt32.ofNat i + 2)) := by
    intro i inside
    have counter : ∀ i ∈ List.range 8, ([0, 0, 0, UInt8.ofNat (i + 2)] : Buf) = toBeBytes (UInt32.ofNat i + 2) := by decide
    rw [aesCtr, aes128EncryptBlock_eq, counter i inside]
  have keystream : (List.range 8).flatMap (fun i => aesCtr cfg.quicKeyRk nonce (i + 2)) =
      (List.range ((128 + 15) / 16)).flatMap
        (fun i => Gutd.aes128EncryptBlock cfg.quicKeyRk.toList (nonce ++ toBeBytes (UInt32.ofNat i + 2))) := by
    rw [List.flatMap_def, List.flatMap_def, List.map_congr_left counters]
  have first : aesCtr cfg.quicKeyRk nonce 1 = Gutd.aes128EncryptBlock cfg.quicKeyRk.toList (nonce ++ [0, 0, 0, 1]) :=
    aes128EncryptBlock_eq _ _
  rw [sealFrame, aes128GcmEncrypt, width, keystream, first, aes128EncryptBlock_eq, gcmGhashTag128_eq _ (by simp) header (by simp [width])]

end Gutd.Bpf
