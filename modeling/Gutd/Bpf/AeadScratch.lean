import Gutd.Bpf.Aead
import Gutd.Bpf.XdpRejection

set_option autoImplicit false

-- `write_quic_long_header` keeps the frame, the header, the keystreams and the working area of GHASH in one buffer.

namespace Gutd.Bpf

open Bytes

def xorInto (scratch : Buf) (dst a b n : Nat) : Buf :=
  (List.range n).foldl (fun s j => overwrite s (dst + j) [byteAt s (a + j) ^^^ byteAt s (b + j)]) scratch

def encryptAt (rk : Vector UInt32 44) (scratch : Buf) (src dst : Nat) : Buf :=
  overwrite scratch dst (aes128EncryptBlock rk (slice scratch src (src + 16)))

def ghashUpdateAt (scratch : Buf) (h x block tmp : Nat) : Buf :=
  let scratch := xorInto scratch x x block 16
  let scratch := overwrite scratch tmp (gf128Mul (slice scratch x (x + 16)) (slice scratch h (h + 16)))
  overwrite scratch x (slice scratch tmp (tmp + 16))

def loadHeaderTail (scratch : Buf) (blk aad : Nat) : Buf :=
  let scratch := overwrite scratch blk (List.replicate 16 0)
  let scratch := overwrite scratch blk [byteAt scratch (aad + 32)]
  overwrite scratch (blk + 1) [byteAt scratch (aad + 33)]

def loadLengths (scratch : Buf) (blk : Nat) : Buf :=
  let scratch := overwrite scratch blk (List.replicate 16 0)
  let scratch := overwrite scratch (blk + 6) [0x01]
  let scratch := overwrite scratch (blk + 7) [0x10]
  let scratch := overwrite scratch (blk + 14) [0x04]
  overwrite scratch (blk + 15) [0x00]

def gcmGhashTag128At (scratch : Buf) (h aad ct j0Ks scratchGhash : Nat) : Buf :=
  let ghashX := scratchGhash
  let tmp := scratchGhash + 16
  let blk := scratchGhash + 32
  let tagOut := scratchGhash + 48
  let scratch := overwrite scratch ghashX (List.replicate 16 0)
  let scratch := overwrite scratch blk (slice scratch aad (aad + 16))
  let scratch := ghashUpdateAt scratch h ghashX blk tmp
  let scratch := overwrite scratch blk (slice scratch (aad + 16) (aad + 32))
  let scratch := ghashUpdateAt scratch h ghashX blk tmp
  let scratch := loadHeaderTail scratch blk aad
  let scratch := ghashUpdateAt scratch h ghashX blk tmp
  let scratch := (List.range 8).foldl (fun scratch i => ghashUpdateAt scratch h ghashX (ct + i * 16) tmp) scratch
  let scratch := loadLengths scratch blk
  let scratch := ghashUpdateAt scratch h ghashX blk tmp
  xorInto scratch tagOut j0Ks ghashX 16

def sealBlockAt (rk : Vector UInt32 44) (scratch : Buf) (i : Nat) : Buf :=
  let scratch := overwrite scratch 655 [UInt8.ofNat (i + 2)]
  let scratch := encryptAt rk scratch 640 528
  xorInto scratch (320 + i * 16) (320 + i * 16) 528 16

def prepareSealAt (rk : Vector UInt32 44) (iv ppnBe quic scratch : Buf) : Buf :=
  let scratch := overwrite scratch 624 iv
  let scratch := xorAt scratch 632 ppnBe
  let scratch := overwrite scratch 448 (quic.take 34)
  let scratch := overwrite scratch 512 (List.replicate 16 0)
  let scratch := encryptAt rk scratch 512 512
  let scratch := overwrite scratch 640 (slice scratch 624 636)
  overwrite scratch 652 [0, 0, 0]

-- the frame stands at 320; the ciphertext replaces it and the tag is left at 608
def sealFrameAt (rk : Vector UInt32 44) (iv ppnBe quic scratch : Buf) : Buf :=
  let scratch := prepareSealAt rk iv ppnBe quic scratch
  let scratch := (List.range 8).foldl (sealBlockAt rk) scratch
  let scratch := overwrite scratch 655 [1]
  let scratch := encryptAt rk scratch 640 544
  gcmGhashTag128At scratch 512 448 320 544 560

structure SameOutside (lo hi : Nat) (s t : Buf) : Prop where
  length : t.length = s.length
  bytes : ∀ i, i < lo ∨ hi ≤ i → byteAt t i = byteAt s i

namespace SameOutside

variable {lo hi : Nat} {s t u : Buf}

theorem refl (lo hi : Nat) (s : Buf) : SameOutside lo hi s s := ⟨rfl, fun _ _ => rfl⟩

theorem trans (first : SameOutside lo hi s t) (second : SameOutside lo hi t u) : SameOutside lo hi s u :=
  ⟨second.length.trans first.length, fun i outside => (second.bytes i outside).trans (first.bytes i outside)⟩

theorem widen {lo' hi' : Nat} (same : SameOutside lo hi s t) (below : lo' ≤ lo) (above : hi ≤ hi') :
    SameOutside lo' hi' s t :=
  ⟨same.length, fun i outside => same.bytes i (by omega)⟩

theorem overwrite (s new : Buf) {off : Nat} (starts : lo ≤ off) (ends : off + new.length ≤ hi) :
    SameOutside lo hi s (overwrite s off new) :=
  ⟨length_overwrite .., fun i outside => byteAt_overwrite_other _ _ _ _ (by omega)⟩

theorem slice_eq (same : SameOutside lo hi s t) {a b : Nat} (outside : b ≤ lo ∨ hi ≤ a) : slice t a b = slice s a b := by
  apply ext_byteAt
  · rw [length_slice, length_slice, same.length]
  · intro i bounded
    rw [length_slice] at bounded
    rw [byteAt_slice, byteAt_slice]
    split_ifs
    · exact same.bytes _ (by omega)
    · rfl

end SameOutside

theorem xorInto_succ (scratch : Buf) (dst a b n : Nat) :
    xorInto scratch dst a b (n + 1) =
      overwrite (xorInto scratch dst a b n) (dst + n)
        [byteAt (xorInto scratch dst a b n) (a + n) ^^^ byteAt (xorInto scratch dst a b n) (b + n)] := by
  rw [xorInto, List.range_succ, List.foldl_append]
  rfl

theorem sameOutside_xorInto (scratch : Buf) (dst a b n : Nat) :
    SameOutside dst (dst + n) scratch (xorInto scratch dst a b n) := by
  induction n with
  | zero => exact .refl ..
  | succ n ih =>
    rw [xorInto_succ]
    exact (ih.widen (Nat.le_refl dst) (by omega)).trans (.overwrite _ _ (by omega) (by rw [List.length_singleton]; omega))

-- the loop reads a byte before it writes it, so the target may be one of the operands
theorem byteAt_xorInto {scratch : Buf} {dst a b n j : Nat} (fits : dst + n ≤ scratch.length)
    (first : a = dst ∨ a + n ≤ dst ∨ dst + n ≤ a) (second : b + n ≤ dst ∨ dst + n ≤ b) (inside : j < n) :
    byteAt (xorInto scratch dst a b n) (dst + j) = byteAt scratch (a + j) ^^^ byteAt scratch (b + j) := by
  induction n with
  | zero => omega
  | succ n ih =>
    have same := sameOutside_xorInto scratch dst a b n
    rw [xorInto_succ]
    by_cases last : j = n
    · subst last
      rw [byteAt_overwrite, if_pos ⟨Nat.le_refl _, by simp, by rw [same.length]; omega⟩, Nat.sub_self,
        same.bytes (a + j) (by omega), same.bytes (b + j) (by omega)]
      rfl
    · rw [byteAt_overwrite_other _ _ _ _ (by simp; omega)]
      exact ih (by omega) (by omega) (by omega) (by omega)

theorem slice_xorInto {scratch : Buf} {dst a b n : Nat} (fits : dst + n ≤ scratch.length) (left : a + n ≤ scratch.length)
    (right : b + n ≤ scratch.length) (first : a = dst ∨ a + n ≤ dst ∨ dst + n ≤ a) (second : b + n ≤ dst ∨ dst + n ≤ b) :
    slice (xorInto scratch dst a b n) dst (dst + n) =
      xorAt (slice scratch a (a + n)) 0 (slice scratch b (b + n)) := by
  have same := sameOutside_xorInto scratch dst a b n
  apply ext_byteAt
  · rw [length_xorAt, length_slice, length_slice, same.length]
    omega
  · intro j bounded
    rw [length_slice, same.length] at bounded
    rw [byteAt_slice, if_pos (by omega), byteAt_xorInto fits first second (by omega), byteAt_xorAt, length_slice, length_slice,
      if_pos (by omega), byteAt_slice, byteAt_slice, if_pos (by omega), if_pos (by omega), Nat.sub_zero]

structure GhashInputs (scratch h aad ct j0Ks : Buf) : Prop where
  room : 672 ≤ scratch.length
  subkey : slice scratch 512 528 = h
  header : slice scratch 448 482 = aad
  frame : slice scratch 320 448 = ct
  mask : slice scratch 544 560 = j0Ks

section Ghash

variable {scratch next h aad ct j0Ks x : Buf}

theorem GhashInputs.kept (inputs : GhashInputs scratch h aad ct j0Ks) (same : SameOutside 560 624 scratch next) :
    GhashInputs next h aad ct j0Ks where
  room := by
    rw [same.length]
    exact inputs.room
  subkey := (same.slice_eq (by omega)).trans inputs.subkey
  header := (same.slice_eq (by omega)).trans inputs.header
  frame := (same.slice_eq (by omega)).trans inputs.frame
  mask := (same.slice_eq (by omega)).trans inputs.mask

theorem sameOutside_ghashUpdateAt (scratch : Buf) (block : Nat) :
    SameOutside 560 592 scratch (ghashUpdateAt scratch 512 560 block 576) := by
  have added : SameOutside 560 592 scratch (xorInto scratch 560 560 block 16) :=
    (sameOutside_xorInto scratch 560 560 block 16).widen (by omega) (by omega)
  refine (added.trans (.overwrite _ _ (by omega) ?_)).trans (.overwrite _ _ (by omega) ?_)
  · have product (x h : Buf) : (gf128Mul x h).length = 16 := length_bytesOfWords _
    exact Nat.le_of_eq (congrArg (576 + ·) (product _ _))
  · rw [length_slice]
    omega

theorem slice_ghashUpdateAt {block : Nat} (room : 672 ≤ scratch.length) (place : block + 16 ≤ 560 ∨ block = 592) :
    slice (ghashUpdateAt scratch 512 560 block 576) 560 576 =
      ghashUpdate (slice scratch 512 528) (slice scratch 560 576) (slice scratch block (block + 16)) := by
  have added := sameOutside_xorInto scratch 560 560 block 16
  have product (x h : Buf) : (gf128Mul x h).length = 16 := length_bytesOfWords _
  rw [ghashUpdateAt, ghashUpdate]
  rw [slice_overwrite_width _ (n := 16) (by rw [length_slice, length_overwrite, added.length]; omega)
    (by rw [length_overwrite, added.length]; omega)]
  rw [slice_overwrite_width _ (n := 16) (product _ _) (by rw [added.length]; omega)]
  rw [slice_xorInto (by omega) (by omega) (by omega) (.inl rfl) (by omega), added.slice_eq (by omega)]

structure Hashing (scratch h aad ct j0Ks x : Buf) : Prop extends GhashInputs scratch h aad ct j0Ks where
  state : slice scratch 560 576 = x

theorem Hashing.update (hashing : Hashing scratch h aad ct j0Ks x) {block : Nat} {data : Buf}
    (place : block + 16 ≤ 560 ∨ block = 592) (there : slice scratch block (block + 16) = data) :
    Hashing (ghashUpdateAt scratch 512 560 block 576) h aad ct j0Ks (ghashUpdate h x data) where
  toGhashInputs := hashing.kept ((sameOutside_ghashUpdateAt scratch block).widen (by omega) (by omega))
  state := by rw [slice_ghashUpdateAt hashing.room place, hashing.subkey, hashing.state, there]

theorem Hashing.load (hashing : Hashing scratch h aad ct j0Ks x) (same : SameOutside 592 608 scratch next) :
    Hashing next h aad ct j0Ks x where
  toGhashInputs := hashing.kept (same.widen (by omega) (by omega))
  state := (same.slice_eq (by omega)).trans hashing.state

theorem slice_slice (buf : Buf) {a b i j : Nat} (inside : a + j ≤ b) : slice (slice buf a b) i j = slice buf (a + i) (a + j) := by
  rw [slice, slice, slice, List.drop_take, List.drop_drop, List.take_take]
  congr 1
  omega

theorem Hashing.frameBlocks (hashing : Hashing scratch h aad ct j0Ks x) {n : Nat} (inside : n ≤ 8) :
    Hashing ((List.range n).foldl (fun scratch i => ghashUpdateAt scratch 512 560 (320 + i * 16) 576) scratch) h aad ct j0Ks
      ((List.range n).foldl (fun x i => ghashUpdate h x (slice ct (i * 16) (i * 16 + 16))) x) := by
  induction n with
  | zero => exact hashing
  | succ n ih =>
    have before := ih (by omega)
    simp only [List.range_succ, List.foldl_append, List.foldl_cons, List.foldl_nil]
    apply before.update (.inl (by omega))
    rw [← before.frame, slice_slice _ (by omega), Nat.add_assoc]

theorem Hashing.absorb (hashing : Hashing scratch h aad ct j0Ks x) {data : Buf} (same : SameOutside 592 608 scratch next)
    (there : slice next 592 608 = data) :
    Hashing (ghashUpdateAt next 512 560 592 576) h aad ct j0Ks (ghashUpdate h x data) where
  toGhashInputs := by
    have loaded := hashing.kept (same.widen (by omega) (by omega))
    exact loaded.kept ((sameOutside_ghashUpdateAt next 592).widen (by omega) (by omega))
  state := by
    have room := (hashing.kept (same.widen (by omega) (by omega))).room
    rw [slice_ghashUpdateAt room (.inr rfl), same.slice_eq (by omega), hashing.subkey, same.slice_eq (by omega), hashing.state,
      there]

theorem overwrite_nested (s a b : Buf) {off k : Nat} (inner : k + b.length ≤ a.length) :
    overwrite (overwrite s off a) (off + k) b = overwrite s off (overwrite a k b) := by
  apply ext_byteAt (by simp)
  intro i bounded
  simp only [byteAt_overwrite, length_overwrite]
  split_ifs <;> first | omega | rfl | (congr 1; omega)

theorem GhashInputs.slice_blk (inputs : GhashInputs scratch h aad ct j0Ks) {data : Buf} (width : data.length = 16) :
    slice (overwrite scratch 592 data) 592 608 = data :=
  slice_overwrite_width _ (n := 16) width (by have := inputs.room; omega)

theorem GhashInputs.slice_header (inputs : GhashInputs scratch h aad ct j0Ks) {i j : Nat} (inside : j ≤ 34) :
    slice scratch (448 + i) (448 + j) = slice aad i j := by
  rw [← inputs.header, slice_slice _ (by omega)]

theorem GhashInputs.byteAt_header (inputs : GhashInputs scratch h aad ct j0Ks) {i : Nat} (inside : i < 34) :
    byteAt scratch (448 + i) = byteAt aad i := by
  rw [← inputs.header, byteAt_slice, if_pos (by have := inputs.room; omega)]

theorem loadHeaderTail_eq (scratch : Buf) {blk aad : Nat} (apart : aad + 34 ≤ blk) :
    loadHeaderTail scratch blk aad =
      overwrite scratch blk ([byteAt scratch (aad + 32), byteAt scratch (aad + 33)] ++ List.replicate 14 0) := by
  have padded (a b : UInt8) : overwrite (overwrite (List.replicate 16 0) 0 [a]) 1 [b] = [a, b] ++ List.replicate 14 0 := by
    simp [overwrite, List.replicate]
  have nested (a : UInt8) := @overwrite_nested scratch (List.replicate 16 0) [a] blk 0 (by simp)
  have read0 (new : Buf) : byteAt (overwrite scratch blk new) (aad + 32) = byteAt scratch (aad + 32) :=
    byteAt_overwrite_other _ _ _ _ (by omega)
  have read1 (new : Buf) : byteAt (overwrite scratch blk new) (aad + 33) = byteAt scratch (aad + 33) :=
    byteAt_overwrite_other _ _ _ _ (by omega)
  simp only [Nat.add_zero] at nested
  rw [loadHeaderTail, nested, overwrite_nested _ _ _ (by simp), padded, read0, read1]

theorem loadLengths_eq (scratch : Buf) (blk : Nat) :
    loadLengths scratch blk = overwrite scratch blk [0, 0, 0, 0, 0, 0, 0x01, 0x10, 0, 0, 0, 0, 0, 0, 0x04, 0x00] := by
  have filled : overwrite (overwrite (overwrite (overwrite (List.replicate 16 0) 6 [0x01]) 7 [0x10]) 14 [0x04]) 15 [0x00] =
      ([0, 0, 0, 0, 0, 0, 0x01, 0x10, 0, 0, 0, 0, 0, 0, 0x04, 0x00] : Buf) := by decide
  rw [loadLengths, overwrite_nested _ _ _ (by simp), overwrite_nested _ _ _ (by simp), overwrite_nested _ _ _ (by simp),
    overwrite_nested _ _ _ (by simp), filled]

theorem Hashing.headerBlock (hashing : Hashing scratch h aad ct j0Ks x) {i : Nat} (inside : i + 16 ≤ 34) :
    Hashing (ghashUpdateAt (overwrite scratch 592 (slice scratch (448 + i) (448 + (i + 16)))) 512 560 592 576) h aad ct j0Ks
      (ghashUpdate h x (slice aad i (i + 16))) := by
  have room := hashing.room
  apply hashing.absorb (.overwrite _ _ (by omega) (by rw [length_slice]; omega))
  rw [← hashing.slice_header inside]
  exact hashing.slice_blk (by rw [length_slice]; omega)

theorem Hashing.headerTail (hashing : Hashing scratch h aad ct j0Ks x) :
    Hashing (ghashUpdateAt (loadHeaderTail scratch 592 448) 512 560 592 576) h aad ct j0Ks
      (ghashUpdate h x (slice aad 32 34 ++ List.replicate 14 0)) := by
  have room := hashing.room
  have width : aad.length = 34 := by
    rw [← hashing.header, length_slice]
    omega
  have tail : slice aad 32 34 = [byteAt aad 32, byteAt aad 33] := (map_byteAt aad 32 2 (by omega)).symm
  rw [loadHeaderTail_eq scratch (by omega), hashing.byteAt_header (by omega), hashing.byteAt_header (by omega), ← tail]
  apply hashing.absorb (.overwrite _ _ (by omega) (by simp; omega))
  exact hashing.slice_blk (by simp; omega)

theorem Hashing.lengths (hashing : Hashing scratch h aad ct j0Ks x) :
    Hashing (ghashUpdateAt (loadLengths scratch 592) 512 560 592 576) h aad ct j0Ks
      (ghashUpdate h x [0, 0, 0, 0, 0, 0, 0x01, 0x10, 0, 0, 0, 0, 0, 0, 0x04, 0x00]) := by
  rw [loadLengths_eq]
  apply hashing.absorb (.overwrite _ _ (by omega) (by simp))
  exact hashing.slice_blk rfl

theorem Hashing.tag (hashing : Hashing scratch h aad ct j0Ks x) :
    GhashInputs (xorInto scratch 608 544 560 16) h aad ct j0Ks ∧
      slice (xorInto scratch 608 544 560 16) 608 624 = xorAt j0Ks 0 x := by
  have room := hashing.room
  constructor
  · exact hashing.kept ((sameOutside_xorInto scratch 608 544 560 16).widen (by omega) (by omega))
  · rw [← hashing.mask, ← hashing.state]
    exact slice_xorInto (by omega) (by omega) (by omega) (by omega) (by omega)

theorem gcmGhashTag128At_tag (inputs : GhashInputs scratch h aad ct j0Ks) :
    GhashInputs (gcmGhashTag128At scratch 512 448 320 544 560) h aad ct j0Ks ∧
      slice (gcmGhashTag128At scratch 512 448 320 544 560) 608 624 = gcmGhashTag128 h aad ct j0Ks := by
  have room := inputs.room
  have start : Hashing (overwrite scratch 560 (List.replicate 16 0)) h aad ct j0Ks (List.replicate 16 0) :=
    ⟨inputs.kept (.overwrite _ _ (by omega) (by rw [List.length_replicate]; omega)),
      slice_overwrite_width _ (n := 16) (by simp) (by omega)⟩
  have first := start.headerBlock (i := 0) (by omega)
  have second := first.headerBlock (i := 16) (by omega)
  exact (second.headerTail.frameBlocks (Nat.le_refl 8)).lengths.tag

end Ghash

structure Sealing (scratch h aad counter text : Buf) : Prop where
  room : 672 ≤ scratch.length
  subkey : slice scratch 512 528 = h
  header : slice scratch 448 482 = aad
  counter : slice scratch 640 655 = counter
  frame : slice scratch 320 448 = text

section Sealing

variable {rk : Vector UInt32 44} {scratch h aad counter text : Buf}

theorem slice_counter (room : 672 ≤ scratch.length) (there : slice scratch 640 655 = counter) (last : UInt8) :
    slice (overwrite scratch 655 [last]) 640 656 = counter ++ [last] := by
  rw [← slice_append_slice _ (show 640 ≤ 655 by omega) (show 655 ≤ 656 by omega), slice_overwrite_other _ _ (.inl (Nat.le_refl _)),
    there, slice_overwrite_width _ (n := 1) rfl (by omega)]

theorem Sealing.block (sealing : Sealing scratch h aad counter text) {i : Nat} (inside : i < 8) :
    Sealing (sealBlockAt rk scratch i) h aad counter
      (xorAt text (i * 16) (aes128EncryptBlock rk (counter ++ [UInt8.ofNat (i + 2)]))) := by
  have room := sealing.room
  have counted := slice_counter room sealing.counter (UInt8.ofNat (i + 2))
  have width := length_aes128EncryptBlock rk (counter ++ [UInt8.ofNat (i + 2)])
  rw [sealBlockAt, encryptAt, counted]
  generalize UInt8.ofNat (i + 2) = last at *
  generalize aes128EncryptBlock rk (counter ++ [last]) = keystream at *
  have stepped : SameOutside 655 656 scratch (overwrite scratch 655 [last]) := .overwrite _ _ (by omega) (by simp)
  have keyed : SameOutside 528 544 (overwrite scratch 655 [last]) (overwrite (overwrite scratch 655 [last]) 528 keystream) :=
    .overwrite _ _ (by omega) (by omega)
  have there : slice (overwrite (overwrite scratch 655 [last]) 528 keystream) 528 (528 + 16) = keystream :=
    slice_overwrite_width _ width (by rw [length_overwrite]; omega)
  generalize overwrite (overwrite scratch 655 [last]) 528 keystream = filled at *
  have wide : 672 ≤ filled.length := by
    rw [keyed.length, stepped.length]
    exact room
  have added := sameOutside_xorInto filled (320 + i * 16) (320 + i * 16) 528 16
  have kept {a b : Nat} (apart : (b ≤ 320 ∨ 448 ≤ a) ∧ (b ≤ 528 ∨ 544 ≤ a) ∧ (b ≤ 655 ∨ 656 ≤ a)) :
      slice (xorInto filled (320 + i * 16) (320 + i * 16) 528 16) a b = slice scratch a b := by
    rw [added.slice_eq (by omega), keyed.slice_eq (by omega), stepped.slice_eq (by omega)]
  have frame : slice filled 320 448 = text := by
    rw [keyed.slice_eq (by omega), stepped.slice_eq (by omega)]
    exact sealing.frame
  exact
    { room := by rw [added.length]; exact wide
      subkey := (kept (by omega)).trans sealing.subkey
      header := (kept (by omega)).trans sealing.header
      counter := (kept (by omega)).trans sealing.counter
      frame := by
        rw [← frame, ← there]
        apply ext_byteAt
        · rw [length_xorAt, length_slice, length_slice, added.length]
        · intro j bounded
          rw [length_slice, added.length] at bounded
          rw [byteAt_slice, if_pos (by omega), byteAt_xorAt, length_slice, length_slice, byteAt_slice, byteAt_slice]
          by_cases block : i * 16 ≤ j ∧ j < i * 16 + 16
          · rw [if_pos (by omega), if_pos (by omega), if_pos (by omega)]
            have position : 320 + j = 320 + i * 16 + (j - i * 16) := by omega
            rw [position]
            exact byteAt_xorInto (by omega) (.inl rfl) (by omega) (by omega)
          · rw [if_neg (by omega), if_pos (by omega)]
            exact added.bytes _ (by omega) }

theorem xorAt_next (buf first second : Buf) {n : Nat} (width : first.length = n) :
    xorAt (xorAt buf 0 first) n second = xorAt buf 0 (first ++ second) := by
  subst width
  apply ext_byteAt (by simp)
  intro i bounded
  simp only [byteAt_xorAt, length_xorAt, List.length_append, byteAt_append]
  split_ifs <;> first | rfl | omega

theorem Sealing.run (sealing : Sealing scratch h aad counter text) {n : Nat} (inside : n ≤ 8) :
    Sealing ((List.range n).foldl (sealBlockAt rk) scratch) h aad counter
      (xorAt text 0 ((List.range n).flatMap fun i => aes128EncryptBlock rk (counter ++ [UInt8.ofNat (i + 2)]))) := by
  induction n with
  | zero =>
    have unchanged : xorAt text 0 [] = text := by
      apply ext_byteAt (by simp)
      intro i bounded
      rw [byteAt_xorAt, if_neg (by rw [List.length_nil]; omega)]
    rw [List.range_zero, List.flatMap_nil, unchanged]
    exact sealing
  | succ n ih =>
    have width : ((List.range n).flatMap fun i => aes128EncryptBlock rk (counter ++ [UInt8.ofNat (i + 2)])).length = n * 16 := by
      simp [List.length_flatMap, List.map_const']
    have before := ih (by omega)
    rw [List.range_succ, List.foldl_append, List.flatMap_append, List.flatMap_singleton, ← xorAt_next _ _ _ width,
      List.foldl_cons, List.foldl_nil]
    exact before.block (by omega)

end Sealing

section Frame

variable {rk : Vector UInt32 44} {iv ppnBe quic scratch frame : Buf}

theorem slice_nonce (room : 672 ≤ scratch.length) (ivWidth : iv.length = 12) (ppnWidth : ppnBe.length = 4) :
    slice (xorAt (overwrite scratch 624 iv) 632 ppnBe) 624 636 = xorAt iv 8 ppnBe := by
  apply ext_byteAt
  · rw [length_xorAt, length_slice, length_xorAt, length_overwrite]
    omega
  · intro j bounded
    rw [length_slice, length_xorAt, length_overwrite] at bounded
    have read : byteAt (overwrite scratch 624 iv) (624 + j) = byteAt iv j := by
      rw [byteAt_overwrite, if_pos (by omega), Nat.add_sub_cancel_left]
    have shifted : 624 + j - 632 = j - 8 := by omega
    rw [byteAt_slice, if_pos (by omega), byteAt_xorAt, byteAt_xorAt, length_overwrite, read, shifted]
    by_cases masked : 8 ≤ j
    · rw [if_pos (by omega), if_pos (by omega)]
    · rw [if_neg (by omega), if_neg (by omega)]

theorem sealing_prepareSealAt (room : 672 ≤ scratch.length) (ivWidth : iv.length = 12) (ppnWidth : ppnBe.length = 4)
    (header : 34 ≤ quic.length) (there : slice scratch 320 448 = frame) :
    Sealing (prepareSealAt rk iv ppnBe quic scratch) (aes128EncryptBlock rk (List.replicate 16 0)) (quic.take 34)
      (xorAt iv 8 ppnBe ++ [0, 0, 0]) frame := by
  have nonce := slice_nonce room ivWidth ppnWidth
  have headerWidth : (quic.take 34).length = 34 := by
    rw [List.length_take]
    omega
  have mixed : SameOutside 624 636 scratch (xorAt (overwrite scratch 624 iv) 632 ppnBe) := by
    refine ⟨by simp, fun i outside => ?_⟩
    rw [byteAt_xorAt, if_neg (by omega), byteAt_overwrite_other _ _ _ _ (by omega)]
  -- each write in turn: what it stores, and that it leaves the other parts alone
  rw [prepareSealAt]
  generalize xorAt (overwrite scratch 624 iv) 632 ppnBe = nonced at *
  have wide : 672 ≤ nonced.length := by
    rw [mixed.length]
    exact room
  have headed : SameOutside 448 482 nonced (overwrite nonced 448 (quic.take 34)) := .overwrite _ _ (by omega) (by omega)
  have copied : slice (overwrite nonced 448 (quic.take 34)) 448 (448 + 34) = quic.take 34 :=
    slice_overwrite_width _ headerWidth (by omega)
  generalize overwrite nonced 448 (quic.take 34) = withHeader at *
  have subkeyed : encryptAt rk (overwrite withHeader 512 (List.replicate 16 0)) 512 512 =
      overwrite withHeader 512 (aes128EncryptBlock rk (List.replicate 16 0)) := by
    rw [encryptAt, slice_overwrite_width _ (n := 16) (by simp) (by rw [headed.length]; omega),
      overwrite_cover _ _ _ _ _ (Nat.le_refl _) (by simp)]
  rw [subkeyed]
  have keyed : SameOutside 512 528 withHeader (overwrite withHeader 512 (aes128EncryptBlock rk (List.replicate 16 0))) :=
    .overwrite _ _ (by omega) (by simp)
  have subkey : slice (overwrite withHeader 512 (aes128EncryptBlock rk (List.replicate 16 0))) 512 (512 + 16) =
      aes128EncryptBlock rk (List.replicate 16 0) := slice_overwrite_width _ (by simp) (by rw [headed.length]; omega)
  generalize overwrite withHeader 512 (aes128EncryptBlock rk (List.replicate 16 0)) = withKey at *
  have length : withKey.length = nonced.length := keyed.length.trans headed.length
  have kept {a b : Nat} (apart : (b ≤ 448 ∨ 482 ≤ a) ∧ (b ≤ 512 ∨ 528 ≤ a)) : slice withKey a b = slice nonced a b := by
    rw [keyed.slice_eq (by omega), headed.slice_eq (by omega)]
  have counter : overwrite (overwrite withKey 640 (slice withKey 624 636)) 652 [0, 0, 0] =
      overwrite withKey 640 (xorAt iv 8 ppnBe ++ [0, 0, 0]) := by
    rw [kept (by omega), nonce]
    exact overwrite_next _ _ _ _ _ (by simp [ivWidth])
  rw [counter]
  have last : SameOutside 640 655 withKey (overwrite withKey 640 (xorAt iv 8 ppnBe ++ [0, 0, 0])) :=
    .overwrite _ _ (by omega) (by simp [ivWidth])
  exact
    { room := by rw [last.length, length]; exact wide
      subkey := (last.slice_eq (by omega)).trans subkey
      header := by rw [last.slice_eq (by omega), keyed.slice_eq (by omega)]; exact copied
      counter := slice_overwrite_width _ (n := 15) (by simp [ivWidth]) (by rw [length]; omega)
      frame := by rw [last.slice_eq (by omega), kept (by omega), mixed.slice_eq (by omega)]; exact there }

theorem sealFrameAt_eq_sealFrame (cfg : GutConfig) (room : 672 ≤ scratch.length) (ivWidth : iv.length = 12)
    (ppnWidth : ppnBe.length = 4) (header : 34 ≤ quic.length) (there : slice scratch 320 448 = frame) :
    (slice (sealFrameAt cfg.quicKeyRk iv ppnBe quic scratch) 320 448,
      slice (sealFrameAt cfg.quicKeyRk iv ppnBe quic scratch) 608 624) =
      sealFrame cfg (xorAt iv 8 ppnBe) (quic.take 34) frame := by
  have prepared := @sealing_prepareSealAt cfg.quicKeyRk _ _ _ _ _ room ivWidth ppnWidth header there
  have sealed := @Sealing.run cfg.quicKeyRk _ _ _ _ _ prepared 8 (Nat.le_refl 8)
  rw [sealFrameAt]
  generalize (List.range 8).foldl (sealBlockAt cfg.quicKeyRk) (prepareSealAt cfg.quicKeyRk iv ppnBe quic scratch) = blocks at *
  have wide := sealed.room
  have counted := slice_counter wide sealed.counter 1
  have stepped : SameOutside 655 656 blocks (overwrite blocks 655 [1]) := .overwrite _ _ (by omega) (by simp)
  rw [encryptAt, counted]
  generalize overwrite blocks 655 [1] = last at *
  have masked : SameOutside 544 560 last (overwrite last 544 (aes128EncryptBlock cfg.quicKeyRk ((xorAt iv 8 ppnBe ++ [0, 0, 0]) ++ [1]))) :=
    .overwrite _ _ (by omega) (by simp)
  have kept {a b : Nat} (apart : (b ≤ 544 ∨ 560 ≤ a) ∧ (b ≤ 655 ∨ 656 ≤ a)) :
      slice (overwrite last 544 (aes128EncryptBlock cfg.quicKeyRk ((xorAt iv 8 ppnBe ++ [0, 0, 0]) ++ [1]))) a b = slice blocks a b := by
    rw [masked.slice_eq (by omega), stepped.slice_eq (by omega)]
  have inputs : GhashInputs (overwrite last 544 (aes128EncryptBlock cfg.quicKeyRk ((xorAt iv 8 ppnBe ++ [0, 0, 0]) ++ [1]))) _ _ _ _ :=
    { room := by rw [masked.length, stepped.length]; exact wide
      subkey := (kept (by omega)).trans sealed.subkey
      header := (kept (by omega)).trans sealed.header
      frame := (kept (by omega)).trans sealed.frame
      mask := slice_overwrite_width _ (n := 16) (by simp) (by rw [stepped.length]; omega) }
  obtain ⟨after, tag⟩ := gcmGhashTag128At_tag inputs
  rw [after.frame, tag, sealFrame]
  simp only [aesCtr, List.append_assoc, List.cons_append, List.nil_append]
  rfl

end Frame

theorem sealFrameAt_eq_aes128GcmEncrypt (cfg : GutConfig) (iv ppnBe quic scratch : Buf) (ivWidth : iv.length = 12)
    (ppnWidth : ppnBe.length = 4) (header : 34 ≤ quic.length) (room : 672 ≤ scratch.length) :
    (slice (sealFrameAt cfg.quicKeyRk iv ppnBe quic scratch) 320 448,
        slice (sealFrameAt cfg.quicKeyRk iv ppnBe quic scratch) 608 624) =
        aes128GcmEncrypt cfg.quicKeyRk.toList (xorAt iv 8 ppnBe) (quic.take 34) (slice scratch 320 448) ∧
      sealFrame cfg (xorAt iv 8 ppnBe) (quic.take 34) (slice scratch 320 448) =
        aes128GcmEncrypt cfg.quicKeyRk.toList (xorAt iv 8 ppnBe) (quic.take 34) (slice scratch 320 448) := by
  have headerWidth : (quic.take 34).length = 34 := by
    rw [List.length_take]
    omega
  have frameWidth : (slice scratch 320 448).length = 128 := by
    rw [length_slice]
    omega
  have sealed := sealFrame_eq cfg (xorAt iv 8 ppnBe) headerWidth frameWidth
  exact ⟨(sealFrameAt_eq_sealFrame cfg room ivWidth ppnWidth header rfl).trans sealed, sealed⟩

def clearScratch : Buf := List.replicate 672 0

theorem sealFrameAt_eq_aes128GcmEncrypt_zeros :
    slice (sealFrameAt sampleConfig.quicKeyRk (List.replicate 12 0) [0, 0, 0, 1] (List.replicate 34 0) clearScratch) 608 624 =
      (aes128GcmEncrypt sampleConfig.quicKeyRk.toList (xorAt (List.replicate 12 0) 8 [0, 0, 0, 1]) ((List.replicate 34 0).take 34)
        (slice clearScratch 320 448)).2 := by
  have room : 672 ≤ clearScratch.length := Nat.le_of_eq (List.length_replicate ..).symm
  have agree := sealFrameAt_eq_aes128GcmEncrypt sampleConfig (List.replicate 12 0) [0, 0, 0, 1] (List.replicate 34 0)
    clearScratch (List.length_replicate ..) rfl (Nat.le_of_eq (List.length_replicate ..).symm) room
  rw [← agree.1]

end Gutd.Bpf
