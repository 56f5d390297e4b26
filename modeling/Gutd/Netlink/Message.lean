import Gutd.Shared.Attributes
import Mathlib.Data.List.Induction

set_option autoImplicit false

-- `NlBuf` and `parse_neigh_nlmsg_v4` of `netlink.rs`.

namespace Gutd.Netlink

open Attributes Bytes Checked

-- the index is a signed number that is stored and compared by its bits
structure Ndmsg where
  family : UInt8
  ifindex : UInt32
  state : UInt16
  flags : UInt8
  ndmType : UInt8

abbrev NlBuf := Buf

namespace NlBuf

variable (order : ByteOrder)

def pushU16 (buf : NlBuf) (v : UInt16) : NlBuf := buf ++ toNeBytes16 order v

def pushU32 (buf : NlBuf) (v : UInt32) : NlBuf := buf ++ toNeBytes order v

def pushBytes (buf : NlBuf) (b : Buf) : NlBuf := buf ++ b

def align4 (buf : NlBuf) : NlBuf := if buf.length % 4 ≠ 0 then align4 (buf ++ [0]) else buf
termination_by (4 - buf.length % 4) % 4
decreasing_by
  simp only [List.length_append, List.length_singleton]
  omega

def patchU16At (buf : NlBuf) (pos : Nat) (v : UInt16) : Result NlBuf := copyFromSlice buf pos (pos + 2) (toNeBytes16 order v)

def patchU32At (buf : NlBuf) (pos : Nat) (v : UInt32) : Result NlBuf := copyFromSlice buf pos (pos + 4) (toNeBytes order v)

def rtaBegin (buf : NlBuf) (rtaType : UInt16) : NlBuf × Nat := (pushU16 order (pushU16 order buf 0) rtaType, buf.length)

def rtaEnd (buf : NlBuf) (start : Nat) : Result NlBuf := do
  let len := UInt16.ofNat (buf.length - start)
  let buf ← patchU16At order buf start len
  pure (align4 buf)

def attr (buf : NlBuf) (rtaType : UInt16) (data : Buf) : Result NlBuf :=
  let (buf, s) := rtaBegin order buf rtaType
  rtaEnd order (pushBytes buf data) s

def finalizeNlmsg (buf : NlBuf) : Result NlBuf := patchU32At order buf 0 (UInt32.ofNat buf.length)

def writeNdmsg (buf : NlBuf) (ndm : Ndmsg) : NlBuf :=
  let buf := buf ++ [ndm.family] ++ [0]
  let buf := pushU16 order buf 0
  let buf := pushU32 order buf ndm.ifindex
  pushU16 order buf ndm.state ++ [ndm.flags] ++ [ndm.ndmType]

end NlBuf

def neighMessage (order : ByteOrder) (header : Vector UInt8 16) (ndm : Ndmsg) (attrs : List Attr) : Result NlBuf := do
  let buf := NlBuf.writeNdmsg order header.toList ndm
  let buf ← attrs.foldlM (fun buf a => NlBuf.attr order buf a.type a.data) buf
  NlBuf.finalizeNlmsg order buf

abbrev Mac := Vector UInt8 6

def macOf (bytes : Buf) : Mac := Vector.ofFn fun i => byteAt bytes i.val

def nlhSize : Nat := 16

def ndmSize : Nat := 12

def nudValid : UInt16 := 0x02 ||| 0x04 ||| 0x08 ||| 0x10 ||| 0x80

structure Found where
  ip : Bool
  mac : Option Mac

def neighVisit (targetIp4 : Vector UInt8 4) (mem : Buf) (found : Found) (rtaType : UInt16) (dptr dlen : Nat) : Result Found :=
  if rtaType = 1 ∧ dlen = 4 then do
    let a ← subslice mem dptr (dptr + 4)
    pure (if a = targetIp4.toList then { found with ip := true } else found)
  else if rtaType = 2 ∧ dlen = 6 then do
    let m ← subslice mem dptr (dptr + 6)
    pure { found with mac := some (macOf m) }
  else pure found

-- the memory holds the `msg_len` bytes of the message and nothing behind them
def parseNeighNlmsgV4 (order : ByteOrder) (mem : Buf) (targetIp4 : Vector UInt8 4) (ifindex : UInt32) : Result (Option Mac) :=
  if mem.length < nlhSize + ndmSize then pure none
  else do
    let ndmIfindex ← readNe32 order mem (nlhSize + 4)
    let ndmState ← readNe16 order mem (nlhSize + 8)
    if (ifindex ≠ 0 ∧ ndmIfindex ≠ ifindex) ∨ ndmState &&& nudValid = 0 then pure none
    else do
      let found ← walk order (neighVisit targetIp4) mem (Attributes.align4 (nlhSize + ndmSize)) { ip := false, mac := none }
      pure (if found.ip then found.mac else none)

section Written

variable {order : ByteOrder}

theorem align4_eq (buf : NlBuf) : NlBuf.align4 buf = buf ++ List.replicate (Attributes.align4 buf.length - buf.length) 0 := by
  fun_induction NlBuf.align4 buf with
  | case1 buf odd ih =>
      have more : Attributes.align4 buf.length - buf.length = Attributes.align4 (buf.length + 1) - (buf.length + 1) + 1 := by
        unfold Attributes.align4
        omega
      rw [ih, List.length_append, List.length_singleton, more, List.replicate_succ, List.append_assoc, List.singleton_append]
  | case2 buf even =>
      have none : Attributes.align4 buf.length - buf.length = 0 := by
        unfold Attributes.align4
        omega
      rw [none, List.replicate_zero, List.append_nil]

-- the length is patched before the padding, which it therefore leaves out
theorem attr_eq {buf : NlBuf} (aligned : buf.length % 4 = 0) (a : Attr) :
    NlBuf.attr order buf a.type a.data = .ok (buf ++ encode order a) := by
  have length : (buf ++ toNeBytes16 order 0 ++ toNeBytes16 order a.type ++ a.data).length = buf.length + (4 + a.data.length) := by
    simp only [List.length_append, length_toNeBytes16]
    omega
  have patched : overwrite (buf ++ toNeBytes16 order 0 ++ toNeBytes16 order a.type ++ a.data) buf.length
      (toNeBytes16 order (UInt16.ofNat (4 + a.data.length))) =
      buf ++ toNeBytes16 order (UInt16.ofNat (4 + a.data.length)) ++ (toNeBytes16 order a.type ++ a.data) := by
    have next := overwrite_append_next buf (toNeBytes16 order 0 ++ (toNeBytes16 order a.type ++ a.data))
      (toNeBytes16 order (UInt16.ofNat (4 + a.data.length))) (by simp)
    rwa [length_toNeBytes16, ← length_toNeBytes16 order 0, List.drop_left, ← List.append_assoc, ← List.append_assoc] at next
  have padding : Attributes.align4 (buf.length + (4 + a.data.length)) - (buf.length + (4 + a.data.length)) =
      Attributes.align4 a.data.length - a.data.length := by
    unfold Attributes.align4
    omega
  change NlBuf.rtaEnd order (buf ++ toNeBytes16 order 0 ++ toNeBytes16 order a.type ++ a.data) buf.length = _
  rw [NlBuf.rtaEnd, length, Nat.add_sub_cancel_left, NlBuf.patchU16At, copyFromSlice_ok (by simp) (by omega), bind_ok, align4_eq,
    length_overwrite, length, padding, patched, encode]
  simp only [List.append_assoc, pure_eq_ok]

theorem foldlM_attr {buf : NlBuf} (aligned : buf.length % 4 = 0) (attrs : List Attr) :
    attrs.foldlM (fun buf a => NlBuf.attr order buf a.type a.data) buf = .ok (buf ++ encodeAll order attrs) := by
  induction attrs generalizing buf with
  | nil =>
      rw [encodeAll, List.flatMap_nil, List.append_nil]
      rfl
  | cons a attrs ih =>
      have next : (buf ++ encode order a).length % 4 = 0 := by
        rw [List.length_append, length_encode, Attributes.align4]
        omega
      rw [List.foldlM_cons, attr_eq aligned, bind_ok, ih next, List.append_assoc]
      rfl

def ndmBytes (order : ByteOrder) (ndm : Ndmsg) : Buf := NlBuf.writeNdmsg order [] ndm

theorem writeNdmsg_eq (buf : NlBuf) (ndm : Ndmsg) : NlBuf.writeNdmsg order buf ndm = buf ++ ndmBytes order ndm := by
  simp [ndmBytes, NlBuf.writeNdmsg, NlBuf.pushU16, NlBuf.pushU32]

@[simp] theorem length_ndmBytes (ndm : Ndmsg) : (ndmBytes order ndm).length = 12 := by
  simp [ndmBytes, NlBuf.writeNdmsg, NlBuf.pushU16, NlBuf.pushU32]

theorem neighMessage_eq (header : Vector UInt8 16) (ndm : Ndmsg) (attrs : List Attr) :
    neighMessage order header ndm attrs = .ok (toNeBytes order (UInt32.ofNat (28 + (encodeAll order attrs).length)) ++
      (header.toList.drop 4 ++ (ndmBytes order ndm ++ encodeAll order attrs))) := by
  have front : (header.toList ++ ndmBytes order ndm).length = 28 := by simp
  have length : (header.toList ++ ndmBytes order ndm ++ encodeAll order attrs).length = 28 + (encodeAll order attrs).length := by
    rw [List.length_append, front]
  rw [neighMessage, writeNdmsg_eq, foldlM_attr (by rw [front]), bind_ok, NlBuf.finalizeNlmsg, NlBuf.patchU32At,
    copyFromSlice_ok (by simp) (by omega), length, overwrite_zero _ _ (by simp; omega), length_toNeBytes,
    List.append_assoc, List.drop_append_of_le_length (by simp)]

end Written

section Read

variable (targetIp4 : Vector UInt8 4)

def isDst (a : Attr) : Bool := a.type = 1 ∧ a.data = targetIp4.toList

def isLladdr (a : Attr) : Bool := a.type = 2 ∧ a.data.length = 6

def lastLladdr (attrs : List Attr) : Option Mac := ((attrs.filter isLladdr).getLast?).map fun a => macOf a.data

def visitAttr (found : Found) (a : Attr) : Found :=
  { ip := found.ip || isDst targetIp4 a, mac := if isLladdr a then some (macOf a.data) else found.mac }

variable {targetIp4}

theorem neighVisit_visits : Visits (neighVisit targetIp4) (visitAttr targetIp4) := by
  intro mem found type off len inside
  have length : (slice mem off (off + len)).length = len := by
    rw [length_slice]
    omega
  rw [neighVisit, visitAttr]
  by_cases dst : type = 1 ∧ len = 4
  · obtain ⟨rfl, rfl⟩ := dst
    rw [if_pos ⟨rfl, rfl⟩, subslice_ok (by omega) inside, bind_ok]
    by_cases same : slice mem off (off + 4) = targetIp4.toList <;> simp [isDst, isLladdr, same]
  · have other : isDst targetIp4 { type, data := slice mem off (off + len) } = false := by
      rw [isDst, decide_eq_false_iff_not]
      rintro ⟨rfl, same⟩
      refine dst ⟨rfl, ?_⟩
      exact length.symm.trans ((congrArg List.length same).trans targetIp4.length_toList)
    rw [if_neg dst, other, Bool.or_false]
    by_cases lladdr : type = 2 ∧ len = 6
    · obtain ⟨rfl, rfl⟩ := lladdr
      rw [if_pos ⟨rfl, rfl⟩, subslice_ok (by omega) inside, bind_ok]
      simp [isLladdr, length]
    · rw [if_neg lladdr]
      simp [isLladdr, length, lladdr]

theorem lastLladdr_concat (attrs : List Attr) (a : Attr) :
    lastLladdr (attrs ++ [a]) = if isLladdr a then some (macOf a.data) else lastLladdr attrs := by
  by_cases here : isLladdr a = true <;> simp [lastLladdr, here]

theorem foldl_visitAttr (attrs : List Attr) (found : Found) :
    attrs.foldl (visitAttr targetIp4) found =
      { ip := found.ip || attrs.any (isDst targetIp4), mac := (lastLladdr attrs).or found.mac } := by
  induction attrs using List.reverseRecOn with
  | nil => simp [lastLladdr]
  | append_singleton attrs a ih =>
      rw [List.foldl_append, List.foldl_cons, List.foldl_nil, ih, visitAttr, lastLladdr_concat]
      by_cases here : isLladdr a = true <;> simp [here, Bool.or_assoc]

def neighOf (targetIp4 : Vector UInt8 4) (attrs : List Attr) : Option Mac :=
  if attrs.any (isDst targetIp4) then lastLladdr attrs else none

section Parse

variable {order : ByteOrder} {mem : Buf} {ifindex : UInt32}

theorem parseNeighNlmsgV4_short (short : mem.length < 28) : parseNeighNlmsgV4 order mem targetIp4 ifindex = .ok none := by
  rw [parseNeighNlmsgV4]
  exact if_pos short

theorem parseNeighNlmsgV4_eq (long : 28 ≤ mem.length) :
    parseNeighNlmsgV4 order mem targetIp4 ifindex =
      .ok (if (ifindex = 0 ∨ ne32At order mem 20 = ifindex) ∧ ne16At order mem 24 &&& nudValid ≠ 0 then
        neighOf targetIp4 (attrsFrom order mem 28) else none) := by
  have start : Attributes.align4 (nlhSize + ndmSize) = 28 := rfl
  have index : readNe32 order mem (nlhSize + 4) = .ok (ne32At order mem 20) := readNe32_ok (show 20 + 4 ≤ mem.length by omega)
  have state : readNe16 order mem (nlhSize + 8) = .ok (ne16At order mem 24) := readNe16_ok (show 24 + 2 ≤ mem.length by omega)
  have whole : ¬mem.length < nlhSize + ndmSize := Nat.not_lt.mpr long
  rw [parseNeighNlmsgV4, if_neg whole, index, state, bind_ok, bind_ok, start]
  by_cases skipped : (ifindex ≠ 0 ∧ ne32At order mem 20 ≠ ifindex) ∨ ne16At order mem 24 &&& nudValid = 0
  · have other : ¬((ifindex = 0 ∨ ne32At order mem 20 = ifindex) ∧ ne16At order mem 24 &&& nudValid ≠ 0) := by tauto
    rw [if_pos skipped, if_neg other]
    rfl
  · have this : (ifindex = 0 ∨ ne32At order mem 20 = ifindex) ∧ ne16At order mem 24 &&& nudValid ≠ 0 := by tauto
    rw [if_neg skipped, if_pos this, walk_eq neighVisit_visits, foldl_visitAttr, bind_ok, neighOf, Bool.false_or, Option.or_none]
    rfl

theorem parseNeighNlmsgV4_total (order : ByteOrder) (mem : Buf) (targetIp4 : Vector UInt8 4) (ifindex : UInt32) :
    ∃ found, parseNeighNlmsgV4 order mem targetIp4 ifindex = .ok found := by
  by_cases short : mem.length < 28
  · exact ⟨_, parseNeighNlmsgV4_short short⟩
  · exact ⟨_, parseNeighNlmsgV4_eq (Nat.le_of_not_lt short)⟩

end Parse

end Read

section RoundTrip

variable {order : ByteOrder} {header : Vector UInt8 16} {ndm : Ndmsg} {attrs : List Attr} {buf : NlBuf}

theorem neighMessage_fields (written : neighMessage order header ndm attrs = .ok buf) :
    buf.length = 28 + (encodeAll order attrs).length ∧ ne32At order buf 0 = UInt32.ofNat buf.length ∧
      ne32At order buf 20 = ndm.ifindex ∧ ne16At order buf 24 = ndm.state := by
  rw [neighMessage_eq] at written
  cases written
  have head : (header.toList.drop 4).length = 12 := by simp
  have length : (toNeBytes order (UInt32.ofNat (28 + (encodeAll order attrs).length)) ++
      (header.toList.drop 4 ++ (ndmBytes order ndm ++ encodeAll order attrs))).length = 28 + (encodeAll order attrs).length := by
    simp only [List.length_append, length_toNeBytes, head, length_ndmBytes]
    omega
  refine ⟨length, ?_, ?_, ?_⟩
  · rw [length]
    exact ne32At_append [] _ _
  · have here := @ne32At_append order (toNeBytes order (UInt32.ofNat (28 + (encodeAll order attrs).length)) ++
      (header.toList.drop 4 ++ ([ndm.family] ++ ([0] ++ toNeBytes16 order 0))))
      (toNeBytes16 order ndm.state ++ ([ndm.flags] ++ ([ndm.ndmType] ++ encodeAll order attrs))) ndm.ifindex
    simpa only [ndmBytes, NlBuf.writeNdmsg, NlBuf.pushU16, NlBuf.pushU32, List.append_assoc, List.nil_append, List.length_append,
      length_toNeBytes, length_toNeBytes16, head, List.length_singleton, Nat.reduceAdd] using here
  · have here := @ne16At_append order (toNeBytes order (UInt32.ofNat (28 + (encodeAll order attrs).length)) ++
      (header.toList.drop 4 ++ ([ndm.family] ++ ([0] ++ (toNeBytes16 order 0 ++ toNeBytes order ndm.ifindex)))))
      ([ndm.flags] ++ ([ndm.ndmType] ++ encodeAll order attrs)) ndm.state
    simpa only [ndmBytes, NlBuf.writeNdmsg, NlBuf.pushU16, NlBuf.pushU32, List.append_assoc, List.nil_append, List.length_append,
      length_toNeBytes, length_toNeBytes16, head, List.length_singleton, Nat.reduceAdd] using here

theorem neighMessage_attrs (written : neighMessage order header ndm attrs = .ok buf)
    (small : ∀ a ∈ attrs, a.data.length ≤ 65531) : attrsFrom order buf 28 = attrs := by
  rw [neighMessage_eq] at written
  cases written
  have here := @attrsFrom_encodeAll order (toNeBytes order (UInt32.ofNat (28 + (encodeAll order attrs).length)) ++
    (header.toList.drop 4 ++ ndmBytes order ndm)) attrs small
  have head : (header.toList.drop 4).length = 12 := by simp
  simpa only [List.append_assoc, List.length_append, length_toNeBytes, head, length_ndmBytes, Nat.reduceAdd] using here

end RoundTrip

theorem neighMessage_read (order : ByteOrder) (header : Vector UInt8 16) {ndm : Ndmsg} {attrs : List Attr} {ifindex : UInt32}
    (targetIp4 : Vector UInt8 4) (small : ∀ a ∈ attrs, a.data.length ≤ 65531) (valid : ndm.state &&& nudValid ≠ 0)
    (matching : ifindex = 0 ∨ ndm.ifindex = ifindex) :
    (∃ buf, neighMessage order header ndm attrs = .ok buf ∧ (ne32At order buf 0).toNat = buf.length % 2 ^ 32 ∧
      buf.length % 4 = 0 ∧
      (∀ (σ : Type) (visit : Buf → σ → UInt16 → Nat → Nat → Result σ) (f : σ → Attr → σ) (state : σ), Visits visit f →
        walk order visit buf (Attributes.align4 (nlhSize + ndmSize)) state = .ok (attrs.foldl f state)) ∧
      parseNeighNlmsgV4 order buf targetIp4 ifindex =
        .ok (if ∃ a ∈ attrs, a.type = 1 ∧ a.data = targetIp4.toList then lastLladdr attrs else none)) ∧
      ∀ mem, ∃ found, parseNeighNlmsgV4 order mem targetIp4 ifindex = .ok found := by
  obtain ⟨buf, written⟩ : ∃ buf, neighMessage order header ndm attrs = .ok buf := ⟨_, neighMessage_eq header ndm attrs⟩
  obtain ⟨length, size, index, state⟩ := neighMessage_fields written
  have read := neighMessage_attrs written small
  have padded := length_encodeAll_mod order attrs
  refine ⟨⟨buf, written, ?_, by omega, fun σ visit f state visits => ?_, ?_⟩, fun mem =>
    parseNeighNlmsgV4_total order mem targetIp4 ifindex⟩
  · rw [size, UInt32.toNat_ofNat']
  · rw [walk_eq visits, show Attributes.align4 (nlhSize + ndmSize) = 28 from rfl, read]
  · rw [parseNeighNlmsgV4_eq (by omega), index, state, if_pos ⟨matching, valid⟩, read, neighOf]
    simp [isDst]

def sampleNdmsg : Ndmsg := { family := 2, ifindex := 3, state := 0x80, flags := 0, ndmType := 1 }

def sampleAttrs : List Attr := [{ type := 1, data := [10, 0, 0, 1] }, { type := 2, data := [2, 0, 0, 0, 0, 1] }]

theorem neighMessage_read_sample : ∃ buf, neighMessage .little (Vector.replicate 16 0) sampleNdmsg sampleAttrs = .ok buf ∧
    parseNeighNlmsgV4 .little buf #v[10, 0, 0, 1] 3 = .ok (some #v[2, 0, 0, 0, 0, 1]) := by
  obtain ⟨⟨buf, written, -, -, -, read⟩, -⟩ := @neighMessage_read .little (Vector.replicate 16 0) sampleNdmsg sampleAttrs 3
    #v[10, 0, 0, 1] (by decide) (by decide) (.inr rfl)
  have found : lastLladdr sampleAttrs = some #v[2, 0, 0, 0, 0, 1] := by decide
  rw [if_pos (by decide), found] at read
  exact ⟨buf, written, read⟩

theorem length_encodeAll_replicate (order : ByteOrder) (n size : Nat) (type : UInt16) :
    (encodeAll order (List.replicate n { type, data := List.replicate size 0 })).length = n * (4 + Attributes.align4 size) := by
  rw [length_encodeAll, List.map_replicate, List.sum_replicate_nat, List.length_replicate]

-- 65536 attributes of the largest size come to four gibibytes
theorem neighMessage_wraps : ∃ buf, neighMessage .little (Vector.replicate 16 0) sampleNdmsg
    (List.replicate 65536 { type := 3, data := List.replicate 65531 0 }) = .ok buf ∧
    (ne32At .little buf 0).toNat = 28 ∧ buf.length = 28 + 2 ^ 32 := by
  generalize large : List.replicate 65536 { type := 3, data := List.replicate 65531 0 : Attr } = attrs
  have total : (encodeAll .little attrs).length = 2 ^ 32 := by
    rw [← large, length_encodeAll_replicate]
    rfl
  have written := @neighMessage_eq .little (Vector.replicate 16 0) sampleNdmsg attrs
  obtain ⟨length, size, -⟩ := neighMessage_fields written
  refine ⟨_, written, ?_, ?_⟩
  · rw [size, length, total]
    rfl
  · rw [length, total]

end Gutd.Netlink
