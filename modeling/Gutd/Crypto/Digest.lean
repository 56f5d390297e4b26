import Gutd.Crypto
import Gutd.Shared.Fips180
import Gutd.Shared.KeyedHash
import Mathlib.Data.List.Basic

set_option autoImplicit false

namespace Gutd

open Bytes

theorem sha256K_eq : sha256K = Fips180.primes.map (Fips180.rootBits 3) := by
  decide +kernel

theorem sha256H0_eq : sha256H0 = Fips180.initialHash := by
  decide +kernel

theorem getD_map_range {α : Type} (f : Nat → α) (d : α) {i n : Nat} (inside : i < n) :
    ((List.range n).map f).getD i d = f i := by
  simp [List.getD_eq_getElem?_getD, inside]

def scheduleWord (w : List UInt32) (i : Nat) : UInt32 :=
  w.getD (i - 16) 0 + Fips180.smallSigma0 (w.getD (i - 15) 0) + w.getD (i - 7) 0 + Fips180.smallSigma1 (w.getD (i - 2) 0)

theorem scheduleWord_schedule (block : Nat → UInt32) {n i : Nat} (late : 16 ≤ i) (inside : i ≤ n) :
    scheduleWord ((List.range n).map (Fips180.schedule block)) i = Fips180.schedule block i := by
  rw [Fips180.schedule_late late, scheduleWord, getD_map_range _ _ (by omega), getD_map_range _ _ (by omega),
    getD_map_range _ _ (by omega), getD_map_range _ _ (by omega)]
  ac_rfl

theorem messageSchedule_eq (block : Buf) :
    messageSchedule block = (List.range 64).map (Fips180.schedule (Fips180.wordsAt block 0)) := by
  -- the loop has filled in the words up to its counter
  have filled (n : Nat) : (List.range' 16 n).foldl (fun w i => w ++ [scheduleWord w i])
      ((List.range 16).map fun i => be32At block (i * 4)) =
        (List.range (16 + n)).map (Fips180.schedule (Fips180.wordsAt block 0)) := by
    induction n with
    | zero =>
        apply List.map_congr_left
        intro i inside
        rw [Fips180.schedule_early (List.mem_range.mp inside), Fips180.wordsAt, Nat.zero_add, Nat.mul_comm]
    | succ n ih =>
        rw [List.range'_1_concat, List.foldl_append, ih, List.foldl_cons, List.foldl_nil,
          scheduleWord_schedule _ (by omega) (by omega), ← Nat.add_assoc, List.range_succ, List.map_append, List.map_cons,
          List.map_nil]
  exact filled 48

theorem compressRound_eq {w : List UInt32} {words : Nat → UInt32} {i : Nat} (word : w.getD i 0 = words i)
    (r : Vector UInt32 8) : compressRound w r i = Fips180.round words r i := by
  have constant : sha256K.getD i 0 = Fips180.roundConstant i := by
    rw [sha256K_eq, Fips180.roundConstant]
  have same : compressRound w r i = Fips180.roundWith (sha256K.getD i 0) (w.getD i 0) r := rfl
  rw [same, constant, word, Fips180.round]

theorem compress_eq (h : Vector UInt32 8) (block : Buf) :
    compress h block = Fips180.compression h (Fips180.wordsAt block 0) := by
  have rounds : (List.range 64).foldl (compressRound (messageSchedule block)) h =
      (List.range 64).foldl (Fips180.round (Fips180.schedule (Fips180.wordsAt block 0))) h := by
    rw [messageSchedule_eq]
    refine List.foldl_ext _ _ _ fun r i inside => ?_
    exact compressRound_eq (getD_map_range _ _ (List.mem_range.mp inside)) r
  rw [compress, Fips180.compression, rounds]

namespace Sha256

theorem compressBlocks_eq (h : Vector UInt32 8) (data : Buf) (n : Nat) :
    compressBlocks h data n = Fips180.absorb h data n := by
  induction n generalizing h data with
  | zero => rfl
  | succ n ih =>
      have first : compress h (data.take 64) = Fips180.absorb h data 1 := by
        rw [compress_eq]
        apply Fips180.compression_congr
        apply Fips180.wordsAt_congr
        intro k bounded
        rw [byteAt_take, if_pos (by omega)]
      rw [compressBlocks, ih, first, Nat.add_comm n 1, Fips180.absorb_add]

structure Absorbed (s : Sha256) (message : Buf) : Prop where
  hash : s.h = Fips180.absorb Fips180.initialHash message (message.length / 64)
  unfinished : s.bufLen = message.length % 64
  rest : s.buf.take s.bufLen = message.drop (64 * (message.length / 64))
  total : s.totalLen = UInt64.ofNat message.length

theorem absorbed_new : Absorbed new [] := by
  refine ⟨sha256H0_eq, rfl, rfl, rfl⟩

theorem absorb_append (h : Vector UInt32 8) (a b : Buf) {n : Nat} (inside : 64 * n ≤ a.length) :
    Fips180.absorb h (a ++ b) n = Fips180.absorb h a n := by
  apply Fips180.absorb_congr
  intro k bounded
  exact byteAt_append_left a b k (by omega)

theorem absorb_aligned (h : Vector UInt32 8) {message : Buf} (rest : Buf) {m : Nat} (aligned : message.length = 64 * m) :
    Fips180.absorb (Fips180.absorb h message m) rest (rest.length / 64) =
      Fips180.absorb h (message ++ rest) ((message ++ rest).length / 64) := by
  have blocks : (message ++ rest).length / 64 = m + rest.length / 64 := by
    rw [List.length_append]
    omega
  rw [blocks, Fips180.absorb_add, absorb_append _ _ _ (by omega), ← aligned, List.drop_left]

theorem drop_aligned {message : Buf} (rest : Buf) {m : Nat} (aligned : message.length = 64 * m) :
    (message ++ rest).drop (64 * ((message ++ rest).length / 64)) = rest.drop (64 * (rest.length / 64)) := by
  have blocks : 64 * ((message ++ rest).length / 64) = message.length + 64 * (rest.length / 64) := by
    rw [List.length_append]
    omega
  rw [blocks, List.drop_append, List.drop_of_length_le (by omega), List.nil_append, Nat.add_sub_cancel_left]

theorem Absorbed.update_short {s : Sha256} {message data : Buf} (absorbed : Absorbed s message)
    (pending : 0 < s.bufLen) (short : s.bufLen + data.length < 64) : Absorbed (s.update data) (message ++ data) := by
  obtain ⟨hash, unfinished, rest, total⟩ := absorbed
  have width := s.buf_length
  have blocks : (message ++ data).length / 64 = message.length / 64 := by
    rw [List.length_append]
    omega
  have take : min data.length (64 - s.bufLen) = data.length := by omega
  unfold update
  simp only [if_pos pending, take, List.take_length, List.drop_length, List.length_nil, Nat.zero_div, Nat.mul_zero,
    List.drop_nil, Nat.lt_irrefl, if_false, overwrite_nil, compressBlocks]
  refine ⟨?_, ?_, ?_, ?_⟩
  · dsimp only
    rw [if_neg (by omega), hash, blocks, absorb_append _ _ _ (by omega)]
  · dsimp only
    rw [if_neg (by omega), List.length_append]
    omega
  · dsimp only
    rw [if_neg (by omega), blocks, List.drop_append_of_le_length (by omega), ← rest, overwrite_eq_append _ _ _ (by omega),
      List.take_append_of_le_length (by simp; omega), List.take_of_length_le (by simp only [List.length_append, List.length_take]; omega)]
  · rw [total, List.length_append, UInt64.ofNat_add]

theorem Absorbed.update_long {s : Sha256} {message data : Buf} (absorbed : Absorbed s message)
    (long : s.bufLen = 0 ∨ 64 ≤ s.bufLen + data.length) : Absorbed (s.update data) (message ++ data) := by
  obtain ⟨hash, unfinished, rest, total⟩ := absorbed
  have width := s.buf_length
  have bounded := s.bufLen_lt
  obtain ⟨take, taken⟩ : ∃ take, take = if s.bufLen > 0 then min data.length (64 - s.bufLen) else 0 := ⟨_, rfl⟩
  have complete : s.bufLen + take = 0 ∧ take = 0 ∨ s.bufLen + take = 64 ∧ 0 < take ∧ take ≤ data.length := by
    rw [taken]
    split_ifs <;> omega
  -- the message up to the end of the block that is completed
  obtain ⟨front, fronted⟩ : ∃ front, front = message ++ data.take take := ⟨_, rfl⟩
  have whole : message ++ data = front ++ data.drop take := by
    rw [fronted, List.append_assoc, List.take_append_drop]
  have length : front.length = message.length + take := by
    rw [fronted, List.length_append, List.length_take]
    omega
  have aligned : front.length = 64 * (front.length / 64) := by omega
  have filled : (if s.bufLen + take = 64 then compress s.h (overwrite s.buf s.bufLen (data.take take)) else s.h) =
      Fips180.absorb Fips180.initialHash front (front.length / 64) := by
    rcases complete with ⟨empty, none⟩ | ⟨full, some, inside⟩
    · rw [if_neg (by omega), hash, fronted, none, List.take_zero, List.append_nil]
    · have blocks : front.length / 64 = message.length / 64 + 1 := by omega
      have size : (data.take take).length = take := by
        rw [List.length_take]
        omega
      have block : overwrite s.buf s.bufLen (data.take take) = front.drop (64 * (message.length / 64)) := by
        rw [overwrite_eq_append _ _ _ (by omega), rest, size, full, List.drop_of_length_le (Nat.le_of_eq width), List.append_nil,
          fronted, List.drop_append_of_le_length (by omega)]
      rw [if_pos full, compress_eq, block, blocks, Fips180.absorb, hash]
      have before : Fips180.absorb Fips180.initialHash message (message.length / 64) =
          Fips180.absorb Fips180.initialHash front (message.length / 64) := by
        rw [fronted, absorb_append _ _ _ (by omega)]
      rw [before]
      apply Fips180.compression_congr
      apply Fips180.wordsAt_congr
      intro k _
      rw [byteAt_drop, Nat.zero_add]
  have tail : ((data.drop take).drop (64 * ((data.drop take).length / 64))).length = (data.drop take).length % 64 := by
    rw [List.length_drop]
    omega
  have last : (message ++ data).length % 64 = (data.drop take).length % 64 := by
    rw [whole, List.length_append]
    omega
  have open' : (if 0 < ((data.drop take).drop (64 * ((data.drop take).length / 64))).length then
      ((data.drop take).drop (64 * ((data.drop take).length / 64))).length
      else if s.bufLen + take = 64 then 0 else s.bufLen + take) = (message ++ data).length % 64 := by
    rw [last, tail]
    split_ifs <;> omega
  unfold update
  simp only [← taken]
  refine ⟨?_, open', ?_, ?_⟩
  · dsimp only
    rw [filled, compressBlocks_eq, absorb_aligned _ _ aligned, ← whole]
  · dsimp only
    rw [open', last, ← tail, whole, drop_aligned _ aligned]
    rw [overwrite_zero _ _ (by rw [tail, length_overwrite]; omega), List.take_left]
  · dsimp only
    rw [total, List.length_append, UInt64.ofNat_add]

theorem Absorbed.update {s : Sha256} {message : Buf} (absorbed : Absorbed s message) (data : Buf) :
    Absorbed (s.update data) (message ++ data) := by
  by_cases short : 0 < s.bufLen ∧ s.bufLen + data.length < 64
  · exact absorbed.update_short short.1 short.2
  · exact absorbed.update_long (by omega)

theorem Absorbed.updates {s : Sha256} {message : Buf} (absorbed : Absorbed s message) (chunks : List Buf) :
    Absorbed (chunks.foldl Sha256.update s) (message ++ chunks.flatten) := by
  induction chunks generalizing s message with
  | nil => simpa using absorbed
  | cons chunk chunks ih =>
      have next := ih (absorbed.update chunk)
      rwa [List.append_assoc] at next

theorem compress_next {h : Vector UInt32 8} {data block : Buf} {n : Nat} (hash : h = Fips180.absorb Fips180.initialHash data n)
    (next : slice data (64 * n) (64 * n + 64) = block) :
    compress h block = Fips180.absorb Fips180.initialHash data (n + 1) := by
  rw [compress_eq, Fips180.absorb, hash, ← next]
  apply Fips180.compression_congr
  apply Fips180.wordsAt_congr
  intro k bounded
  rw [byteAt_slice, Nat.zero_add, if_pos (by omega)]

theorem Absorbed.padded {s : Sha256} {message : Buf} (absorbed : Absorbed s message) :
    s.h = Fips180.absorb Fips180.initialHash (Fips180.padded message) (message.length / 64) ∧
      (Fips180.padded message).drop (64 * (message.length / 64)) =
        s.buf.take s.bufLen ++ Fips180.padding message.length := by
  rw [absorbed.hash, Fips180.padded, absorb_append _ _ _ (by omega), List.drop_append_of_le_length (by omega), absorbed.rest]
  exact ⟨rfl, rfl⟩

theorem slice_block {data block rest : Buf} {n : Nat} (split : data.drop (64 * n) = block ++ rest) (width : block.length = 64) :
    slice data (64 * n) (64 * n + 64) = block ∧ data.drop (64 * (n + 1)) = rest := by
  constructor
  · rw [slice, split, Nat.add_sub_cancel_left, ← width, List.take_left]
  · rw [Nat.mul_succ, ← List.drop_drop, split, ← width, List.drop_left]

theorem Absorbed.finalize_eq {s : Sha256} {message : Buf} (absorbed : Absorbed s message) :
    s.finalize = Fips180.digest message := by
  have width := s.buf_length
  have bounded := s.bufLen_lt
  have unfinished := absorbed.unfinished
  obtain ⟨hash, tail⟩ := absorbed.padded
  have bits : toBeBytes64 (s.totalLen * 8) = toBeBytes64 (UInt64.ofNat (8 * message.length)) := by
    rw [absorbed.total, UInt64.ofNat_mul, UInt64.mul_comm]
    rfl
  obtain ⟨bitLen, named⟩ : ∃ bitLen, bitLen = toBeBytes64 (UInt64.ofNat (8 * message.length)) := ⟨_, rfl⟩
  have size : bitLen.length = 8 := by rw [named, toBeBytes64, List.length_append, length_toBeBytes, length_toBeBytes]
  have blocks := Fips180.blocks_padded message
  have front : (s.buf.take s.bufLen).length = s.bufLen := by
    rw [List.length_take]
    omega
  rw [← unfinished] at blocks
  unfold finalize Fips180.digest
  rw [bits, ← named]
  dsimp only
  by_cases room : s.bufLen < 56
  · -- the marker and the length fit behind the rest
    have block : overwrite (overwrite (overwrite s.buf s.bufLen [0x80]) (s.bufLen + 1) (List.replicate (56 - (s.bufLen + 1)) 0)) 56
        bitLen = s.buf.take s.bufLen ++ Fips180.padding message.length := by
      rw [overwrite_next _ _ _ _ _ (by simp; omega), overwrite_next _ _ _ _ _ (by simp), overwrite_eq_append _ _ _ (by simp; omega),
        List.drop_of_length_le (by simp; omega), List.append_nil, Fips180.padding_open (by omega), ← named, ← unfinished,
        show 56 - (s.bufLen + 1) = 55 - s.bufLen by omega, List.append_assoc]
    rw [if_pos room] at blocks
    rw [← block, ← List.append_nil (overwrite _ _ _)] at tail
    obtain ⟨last, -⟩ := slice_block tail (by simp [width])
    have count : (Fips180.padded message).length / 64 = message.length / 64 + 1 := by omega
    rw [if_neg (by omega), compress_next hash last, count]
  · -- the marker ends one block, the length another
    have first : overwrite (overwrite s.buf s.bufLen [0x80]) (s.bufLen + 1) (List.replicate (64 - (s.bufLen + 1)) 0) =
        s.buf.take s.bufLen ++ ([0x80] ++ List.replicate (63 - s.bufLen) 0) := by
      rw [overwrite_next _ _ _ _ _ (by simp), overwrite_eq_append _ _ _ (by simp; omega), List.drop_of_length_le (by simp; omega),
        List.append_nil, show 64 - (s.bufLen + 1) = 63 - s.bufLen by omega]
    have second : overwrite (overwrite (overwrite s.buf s.bufLen [0x80]) 0 (List.replicate (56 - 0) 0)) 56 bitLen =
        List.replicate 56 0 ++ bitLen := by
      rw [overwrite_next _ _ _ _ _ (by simp), overwrite_zero _ _ (by simp; omega), List.drop_of_length_le (by simp; omega),
        List.append_nil]
    rw [if_neg room] at blocks
    rw [Fips180.padding_full (by omega), ← named, ← unfinished, ← List.append_assoc, ← first] at tail
    obtain ⟨here, after⟩ := slice_block tail (by simp [width])
    rw [← second, ← List.append_nil (overwrite _ 56 _)] at after
    obtain ⟨last, -⟩ := slice_block after (by simp [width])
    have count : (Fips180.padded message).length / 64 = message.length / 64 + 1 + 1 := by omega
    rw [if_pos (by omega)]
    dsimp only
    rw [compress_next (compress_next hash here) last, count]

theorem finalize_updates (chunks : List Buf) : (chunks.foldl update new).finalize = Fips180.digest chunks.flatten := by
  have absorbed := absorbed_new.updates chunks
  rw [List.nil_append] at absorbed
  exact absorbed.finalize_eq

end Sha256

theorem sha256_eq (data : Buf) : sha256 data = Fips180.digest data := by
  have done := Sha256.finalize_updates [data]
  rwa [List.flatten_singleton] at done

theorem length_digest (message : Buf) : (Fips180.digest message).length = 32 := by
  rw [← sha256_eq, sha256, Sha256.length_finalize]

theorem xorAt_replicate (c : UInt8) {k : Buf} {n : Nat} (width : k.length = n) :
    xorAt (List.replicate n c) 0 k = k.map (· ^^^ c) := by
  apply ext_byteAt (by simp [width])
  intro i inside
  simp only [length_xorAt, List.length_replicate] at inside
  rw [byteAt_xorAt, if_pos (by simp; omega), byteAt_eq_getElem _ _ (by simpa using inside), Nat.sub_zero,
    byteAt_eq_getElem k i (by omega), byteAt_eq_getElem _ _ (by simp; omega), List.getElem_map, List.getElem_replicate,
    UInt8.xor_comm]

theorem hmacSha256_eq (key message : Buf) : hmacSha256 key message = KeyedHash.hmac Fips180.digest 64 key message := by
  have filled {short : Buf} (fits : short.length ≤ 64) :
      overwrite (List.replicate 64 (0 : UInt8)) 0 short = short ++ List.replicate (64 - short.length) 0 := by
    rw [overwrite_zero _ _ (by simpa using fits), List.drop_replicate]
  have k : (if key.length > 64 then overwrite (List.replicate 64 (0 : UInt8)) 0 (sha256 key)
      else overwrite (List.replicate 64 (0 : UInt8)) 0 key) = KeyedHash.blockKey Fips180.digest 64 key := by
    unfold KeyedHash.blockKey
    split_ifs with long
    · rw [sha256_eq, filled (by rw [length_digest]; omega)]
    · rw [filled (by omega)]
  have width : (KeyedHash.blockKey Fips180.digest 64 key).length = 64 := by
    rw [← k]
    split_ifs <;> simp
  have hashed (a b : Buf) : ((Sha256.new.update a).update b).finalize = Fips180.digest (a ++ b) := by
    have done := Sha256.finalize_updates [a, b]
    rwa [List.flatten_cons, List.flatten_singleton] at done
  unfold hmacSha256 KeyedHash.hmac
  dsimp only
  rw [k, xorAt_replicate _ width, xorAt_replicate _ width, hashed, hashed]

theorem sha256_hmac_standard :
    (∀ chunks : List Buf, chunks.flatten.length < 2 ^ 61 →
      (chunks.foldl Sha256.update Sha256.new).finalize = Fips180.digest chunks.flatten) ∧
    (∀ key message : Buf, key.length < 2 ^ 61 → 64 + message.length < 2 ^ 61 →
      hmacSha256 key message = KeyedHash.hmac Fips180.digest 64 key message) :=
  ⟨fun chunks _ => Sha256.finalize_updates chunks, fun key message _ _ => hmacSha256_eq key message⟩

theorem sha256_hmac_standard_sample :
    ([[0x61], [0x62, 0x63]].foldl Sha256.update Sha256.new).finalize = Fips180.digest [0x61, 0x62, 0x63] ∧
      hmacSha256 (List.replicate 65 1) [2] = KeyedHash.hmac Fips180.digest 64 (List.replicate 65 1) [2] :=
  ⟨sha256_hmac_standard.1 [[0x61], [0x62, 0x63]] (by decide), sha256_hmac_standard.2 _ _ (by simp) (by simp)⟩

example : sha256 [0x61, 0x62, 0x63] =
    [0xba, 0x78, 0x16, 0xbf, 0x8f, 0x01, 0xcf, 0xea, 0x41, 0x41, 0x40, 0xde, 0x5d, 0xae, 0x22, 0x23, 0xb0, 0x03, 0x61, 0xa3,
     0x96, 0x17, 0x7a, 0x9c, 0xb4, 0x10, 0xff, 0x61, 0xf2, 0x00, 0x15, 0xad] := by
  decide +kernel

end Gutd
