import Gutd.Shared.Checked

set_option autoImplicit false

namespace Bytes

def toNeBytes16 : ByteOrder → UInt16 → Buf
  | .little, x => (toBeBytes16 x).reverse
  | .big, x => toBeBytes16 x

def ne16At : ByteOrder → Buf → Nat → UInt16
  | .little, buf, off => be16 (byteAt buf (off + 1)) (byteAt buf off)
  | .big, buf, off => be16At buf off

def ne32At : ByteOrder → Buf → Nat → UInt32
  | .little, buf, off => le32At buf off
  | .big, buf, off => be32At buf off

@[simp] theorem length_toNeBytes16 (order : ByteOrder) (x : UInt16) : (toNeBytes16 order x).length = 2 := by
  cases order <;> simp [toNeBytes16]

section Read

variable {order : ByteOrder} {a b : Buf} {i j : Nat}

theorem ne16At_congr (bytes : ∀ k < 2, byteAt a (i + k) = byteAt b (j + k)) : ne16At order a i = ne16At order b j := by
  have first := bytes 0 (by omega)
  have second := bytes 1 (by omega)
  simp only [Nat.add_zero] at first
  cases order <;> simp only [ne16At, be16At, first, second]

theorem ne32At_congr (bytes : ∀ k < 4, byteAt a (i + k) = byteAt b (j + k)) : ne32At order a i = ne32At order b j := by
  have first := bytes 0 (by omega)
  have second := bytes 1 (by omega)
  have third := bytes 2 (by omega)
  have fourth := bytes 3 (by omega)
  simp only [Nat.add_zero] at first
  cases order <;> simp only [ne32At, le32At, be32At, first, second, third, fourth]

theorem ne16At_toNeBytes16 (x : UInt16) : ne16At order (toNeBytes16 order x) 0 = x := by
  cases order <;> exact be16_toBeBytes16 x

theorem ne32At_toNeBytes (x : UInt32) : ne32At order (toNeBytes order x) 0 = x := by
  cases order <;> exact le32_toLeBytes x

theorem ne16At_append (before rest : Buf) (x : UInt16) :
    ne16At order (before ++ (toNeBytes16 order x ++ rest)) before.length = x := by
  refine Eq.trans (ne16At_congr fun k inside => ?_) (ne16At_toNeBytes16 x)
  rw [byteAt_append, if_neg (by omega), byteAt_append, if_pos (by simp; omega), Nat.add_sub_cancel_left, Nat.zero_add]

theorem ne32At_append (before rest : Buf) (x : UInt32) :
    ne32At order (before ++ (toNeBytes order x ++ rest)) before.length = x := by
  refine Eq.trans (ne32At_congr fun k inside => ?_) (ne32At_toNeBytes x)
  rw [byteAt_append, if_neg (by omega), byteAt_append, if_pos (by simp; omega), Nat.add_sub_cancel_left, Nat.zero_add]

end Read

theorem be16At_append (before rest : Buf) (x : UInt16) : be16At (before ++ (toBeBytes16 x ++ rest)) before.length = x :=
  @ne16At_append .big before rest x

theorem be16At_flatMap (before rest : Buf) (words : List UInt16) (i : Nat) (inside : i < words.length) :
    be16At (before ++ (words.flatMap toBeBytes16 ++ rest)) (before.length + 2 * i) = words[i] := by
  induction words generalizing before i with
  | nil => cases inside
  | cons word words ih =>
      rw [List.flatMap_cons, List.append_assoc]
      cases i with
      | zero => exact be16At_append before _ word
      | succ i =>
          have later := ih (before ++ toBeBytes16 word) i (by simpa using inside)
          rw [List.append_assoc, List.length_append, length_toBeBytes16] at later
          rw [List.getElem_cons_succ, ← later]
          congr 1
          omega

end Bytes

namespace Checked

open Bytes

def readNe16 (order : ByteOrder) (buf : Buf) (off : Nat) : Result UInt16 := do
  let word ← subslice buf off (off + 2)
  pure (ne16At order word 0)

def readNe32 (order : ByteOrder) (buf : Buf) (off : Nat) : Result UInt32 := do
  let word ← subslice buf off (off + 4)
  pure (ne32At order word 0)

variable {order : ByteOrder} {buf : Buf} {off : Nat}

theorem readNe16_ok (inside : off + 2 ≤ buf.length) : readNe16 order buf off = .ok (ne16At order buf off) := by
  rw [readNe16, subslice_ok (Nat.le_add_right off 2) inside, bind_ok]
  refine congrArg Except.ok (ne16At_congr fun k small => ?_)
  rw [byteAt_slice, if_pos (by omega), Nat.zero_add]

theorem readNe32_ok (inside : off + 4 ≤ buf.length) : readNe32 order buf off = .ok (ne32At order buf off) := by
  rw [readNe32, subslice_ok (Nat.le_add_right off 4) inside, bind_ok]
  refine congrArg Except.ok (ne32At_congr fun k small => ?_)
  rw [byteAt_slice, if_pos (by omega), Nat.zero_add]

end Checked

namespace Attributes

open Bytes Checked

structure Attr where
  type : UInt16
  data : Buf
  deriving DecidableEq

-- `(n + 3) & !3`
def align4 (n : Nat) : Nat := (n + 3) / 4 * 4

def encode (order : ByteOrder) (attr : Attr) : Buf :=
  toNeBytes16 order (UInt16.ofNat (4 + attr.data.length)) ++ (toNeBytes16 order attr.type ++ (attr.data ++
    List.replicate (align4 attr.data.length - attr.data.length) 0))

def encodeAll (order : ByteOrder) (attrs : List Attr) : Buf := attrs.flatMap (encode order)

theorem le_align4 (n : Nat) : n ≤ align4 n := by
  unfold align4
  omega

@[simp] theorem length_encode (order : ByteOrder) (attr : Attr) : (encode order attr).length = 4 + align4 attr.data.length := by
  have grows := le_align4 attr.data.length
  simp only [encode, List.length_append, length_toNeBytes16, List.length_replicate]
  omega

theorem length_encodeAll (order : ByteOrder) (attrs : List Attr) :
    (encodeAll order attrs).length = (attrs.map fun attr => 4 + align4 attr.data.length).sum := by
  simp [encodeAll, List.length_flatMap]

theorem length_encodeAll_mod (order : ByteOrder) (attrs : List Attr) : (encodeAll order attrs).length % 4 = 0 := by
  induction attrs with
  | nil => rfl
  | cons attr attrs ih =>
      rw [encodeAll, List.flatMap_cons, List.length_append, length_encode, align4]
      rw [encodeAll] at ih
      omega

section Walk

variable {σ : Type} (order : ByteOrder)

def walk (visit : Buf → σ → UInt16 → Nat → Nat → Result σ) (mem : Buf) (off : Nat) (state : σ) : Result σ :=
  if _more : off + 4 ≤ mem.length then do
    let rlen ← readNe16 order mem off
    let type ← readNe16 order mem (off + 2)
    if _bad : rlen.toNat < 4 ∨ mem.length < off + rlen.toNat then pure state
    else do
      let state ← visit mem state type (off + 4) (rlen.toNat - 4)
      walk visit mem (off + align4 rlen.toNat) state
  else pure state
termination_by mem.length - off
decreasing_by
  have grows := le_align4 rlen.toNat
  omega

def attrsFrom (mem : Buf) (off : Nat) : List Attr :=
  if _more : off + 4 ≤ mem.length then
    let rlen := (ne16At order mem off).toNat
    if _bad : rlen < 4 ∨ mem.length < off + rlen then []
    else { type := ne16At order mem (off + 2), data := slice mem (off + 4) (off + rlen) } :: attrsFrom mem (off + align4 rlen)
  else []
termination_by mem.length - off
decreasing_by
  have grows := le_align4 (ne16At order mem off).toNat
  omega

def Visits (visit : Buf → σ → UInt16 → Nat → Nat → Result σ) (f : σ → Attr → σ) : Prop :=
  ∀ mem state type off len, off + len ≤ mem.length →
    visit mem state type off len = .ok (f state { type, data := slice mem off (off + len) })

variable {order} {visit : Buf → σ → UInt16 → Nat → Nat → Result σ} {f : σ → Attr → σ}

theorem walk_eq (visits : Visits visit f) (mem : Buf) (off : Nat) (state : σ) :
    walk order visit mem off state = .ok ((attrsFrom order mem off).foldl f state) := by
  fun_induction attrsFrom order mem off generalizing state with
  | case1 off more rlen bad =>
      rw [walk, dif_pos more, readNe16_ok (by omega), readNe16_ok (by omega), bind_ok, bind_ok, dif_pos bad]
      rfl
  | case2 off more rlen fine ih =>
      have place : off + 4 + (rlen - 4) = off + rlen := by omega
      rw [walk, dif_pos more, readNe16_ok (by omega), readNe16_ok (by omega), bind_ok, bind_ok, dif_neg fine,
        visits mem state _ _ _ (by omega), bind_ok, ih, List.foldl_cons, place]
  | case3 off more =>
      rw [walk, dif_neg more]
      rfl

end Walk

section Encoded

variable {order : ByteOrder}

theorem attrsFrom_end (mem : Buf) : attrsFrom order mem mem.length = [] := by
  rw [attrsFrom, dif_neg (by omega)]

theorem attrsFrom_encode (before rest : Buf) {attr : Attr} (small : attr.data.length ≤ 65531) :
    attrsFrom order (before ++ (encode order attr ++ rest)) before.length =
      attr :: attrsFrom order (before ++ (encode order attr ++ rest)) (before.length + (encode order attr).length) := by
  have size : (UInt16.ofNat (4 + attr.data.length)).toNat = 4 + attr.data.length := by
    rw [UInt16.toNat_ofNat', Nat.mod_eq_of_lt (by omega)]
  have grows := le_align4 attr.data.length
  have total := length_encode order attr
  have whole : (before ++ (encode order attr ++ rest)).length = before.length + (4 + align4 attr.data.length + rest.length) := by
    simp only [List.length_append, total]
  have aligned : align4 (4 + attr.data.length) = 4 + align4 attr.data.length := by
    unfold align4
    omega
  -- the three parts of the attribute, each behind what stands before it
  have length : ne16At order (before ++ (encode order attr ++ rest)) before.length = UInt16.ofNat (4 + attr.data.length) := by
    rw [encode, List.append_assoc]
    exact ne16At_append ..
  have type : ne16At order (before ++ (encode order attr ++ rest)) (before.length + 2) = attr.type := by
    have here := @ne16At_append order (before ++ toNeBytes16 order (UInt16.ofNat (4 + attr.data.length)))
      (attr.data ++ List.replicate (align4 attr.data.length - attr.data.length) 0 ++ rest) attr.type
    simpa only [encode, List.append_assoc, List.length_append, length_toNeBytes16] using here
  have data : slice (before ++ (encode order attr ++ rest)) (before.length + 4) (before.length + (4 + attr.data.length)) =
      attr.data := by
    have here := slice_middle (before ++ toNeBytes16 order (UInt16.ofNat (4 + attr.data.length)) ++ toNeBytes16 order attr.type)
      attr.data (List.replicate (align4 attr.data.length - attr.data.length) 0 ++ rest) attr.data.length rfl
    simpa only [encode, List.append_assoc, List.length_append, length_toNeBytes16, Nat.add_assoc, Nat.reduceAdd] using here
  rw [attrsFrom, dif_pos (by omega), length, size]
  dsimp only
  rw [dif_neg (by omega), type, data, aligned, total]

-- the padding puts every attribute where the walk looks for it
theorem attrsFrom_encodeAll (before : Buf) {attrs : List Attr} (small : ∀ attr ∈ attrs, attr.data.length ≤ 65531) :
    attrsFrom order (before ++ encodeAll order attrs) before.length = attrs := by
  induction attrs generalizing before with
  | nil =>
      rw [encodeAll, List.flatMap_nil, List.append_nil]
      exact attrsFrom_end before
  | cons attr attrs ih =>
      have later := ih (before ++ encode order attr) fun other member => small other (List.mem_cons_of_mem attr member)
      rw [List.length_append, List.append_assoc] at later
      rw [encodeAll, List.flatMap_cons, attrsFrom_encode before _ (small attr List.mem_cons_self)]
      exact congrArg (attr :: ·) later

end Encoded

end Attributes
