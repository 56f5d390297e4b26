import Gutd.Crypto
import Gutd.Shared.Numerals

set_option autoImplicit false

-- `compute_p2p_peer` of `tun.rs`.

namespace Gutd.Tun

open Bytes Checked Str

-- `overflow` is where the source subtracts past zero
inductive P2pError where
  | message (text : String)
  | overflow
  deriving DecidableEq

def splitOnce (separator : Char) (s : List Char) : Option (List Char × List Char) :=
  (s.idxOf? separator).map fun i => (s.take i, s.drop (i + 1))

def invalidAddress (ipStr : List Char) : P2pError := .message ("Invalid IPv4 address: " ++ String.ofList ipStr)

structure Cidr where
  ipStr : List Char
  octets : Vector UInt8 4
  pfx : UInt8
  deriving DecidableEq

def fourOctets (ipStr : List Char) : List UInt8 → Except P2pError (Vector UInt8 4)
  | [a, b, c, d] => pure #v[a, b, c, d]
  | _ => throw (invalidAddress ipStr)

def readCidr (cidr : List Char) : Except P2pError Cidr := do
  let (ipStr, prefixStr) ← orReject (.message ("Invalid CIDR: " ++ String.ofList cidr)) (splitOnce '/' cidr)
  let pfx ← (parseU8 prefixStr).mapError fun _ => .message ("Invalid prefix length: " ++ String.ofList prefixStr)
  let parsed ← (ipStr.splitOn '.').mapM fun s => (parseU8 s).mapError fun _ => invalidAddress ipStr
  let octets ← fourOctets ipStr parsed
  pure { ipStr, octets, pfx }

def addressOf (octets : Vector UInt8 4) : UInt32 :=
  le32 (octets.get 3) (octets.get 2) (octets.get 1) (octets.get 0)

def prefixMask (pfx : UInt8) : Except P2pError UInt32 :=
  if pfx = 0 then pure 0
  else if 32 < pfx then throw .overflow
  else pure (0xFFFFFFFF <<< (32 - pfx).toUInt32)

def peerUnder (mask : UInt32) (c : Cidr) : Except P2pError UInt32 :=
  let ip := addressOf c.octets
  let network := ip &&& mask
  let hostPart := ip &&& ~~~mask
  let maxHost := ~~~mask
  if c.pfx = 31 then pure (network ||| (hostPart ^^^ 1))
  else if 30 ≤ c.pfx then
    if hostPart = 0 ∨ hostPart = maxHost then
      throw (.message (String.ofList c.ipStr ++ "/" ++ toString c.pfx.toNat ++ " is a network/broadcast address"))
    else pure (network ||| if hostPart = 1 then 2 else 1)
  else throw (.message ("Auto peer address only works with /30 or /31, got /" ++ toString c.pfx.toNat))

def peerOf (c : Cidr) : Except P2pError UInt32 := do
  let mask ← prefixMask c.pfx
  peerUnder mask c

def dottedQuad (ip : UInt32) : List Char :=
  (toString ((ip >>> 24) &&& 0xFF).toNat).toList ++ '.' :: ((toString ((ip >>> 16) &&& 0xFF).toNat).toList ++
    '.' :: ((toString ((ip >>> 8) &&& 0xFF).toNat).toList ++ '.' :: (toString (ip &&& 0xFF).toNat).toList))

def computeP2pPeer (cidr : List Char) : Except P2pError (List Char × List Char × UInt8) := do
  let c ← readCidr cidr
  let peer ← peerOf c
  pure (c.ipStr, dottedQuad peer, c.pfx)

-- The released build has no overflow checks. The subtraction and the shift wrap around there.
def releasedP2pPeer (cidr : List Char) : Except P2pError (List Char × List Char × UInt8) := do
  let c ← readCidr cidr
  let peer ← peerUnder (if c.pfx = 0 then 0 else 0xFFFFFFFF <<< (32 - c.pfx).toUInt32) c
  pure (c.ipStr, dottedQuad peer, c.pfx)

def hostNumber (pfx : UInt8) (ip : UInt32) : Nat := ip.toNat % 2 ^ (32 - pfx.toNat)

def subnetNumber (pfx : UInt8) (ip : UInt32) : Nat := ip.toNat / 2 ^ (32 - pfx.toNat)

def Usable (pfx : UInt8) (ip : UInt32) : Prop :=
  pfx = 31 ∨ (hostNumber pfx ip ≠ 0 ∧ hostNumber pfx ip ≠ 2 ^ (32 - pfx.toNat) - 1)

structure HostPair (pfx : UInt8) (a b : UInt32) : Prop where
  distinct : a ≠ b
  subnet : subnetNumber pfx a = subnetNumber pfx b
  usable : Usable pfx a ∧ Usable pfx b

theorem HostPair.symm {pfx : UInt8} {a b : UInt32} (pair : HostPair pfx a b) : HostPair pfx b a :=
  ⟨pair.distinct.symm, pair.subnet.symm, pair.usable.symm⟩

theorem and_not_add_and (x m : UInt32) : (x &&& ~~~m) + (x &&& m) = x := by
  have apart : (x.toBitVec &&& ~~~m.toBitVec) &&& (x.toBitVec &&& m.toBitVec) = 0#32 := by
    ext i inside
    simp only [BitVec.getElem_and, BitVec.getElem_not, BitVec.getElem_zero]
    cases m.toBitVec[i] <;> simp
  have joined : (x.toBitVec &&& ~~~m.toBitVec) ||| (x.toBitVec &&& m.toBitVec) = x.toBitVec := by
    ext i inside
    simp only [BitVec.getElem_and, BitVec.getElem_not, BitVec.getElem_or]
    cases m.toBitVec[i] <;> simp
  apply UInt32.toBitVec_inj.mp
  change (x.toBitVec &&& ~~~m.toBitVec) + (x.toBitVec &&& m.toBitVec) = x.toBitVec
  rw [BitVec.add_eq_or_of_and_eq_zero _ _ apart, joined]

theorem and_not_or {x m k : UInt32} (inside : k &&& m = k) : (x &&& ~~~m) ||| k = (x &&& ~~~m) + k := by
  have apart : (x.toBitVec &&& ~~~m.toBitVec) &&& k.toBitVec = 0#32 := by
    have bits : k.toBitVec &&& m.toBitVec = k.toBitVec := congrArg UInt32.toBitVec inside
    rw [← bits]
    ext i inside
    simp only [BitVec.getElem_and, BitVec.getElem_not, BitVec.getElem_zero]
    cases m.toBitVec[i] <;> simp
  apply UInt32.toBitVec_inj.mp
  change (x.toBitVec &&& ~~~m.toBitVec) ||| k.toBitVec = (x.toBitVec &&& ~~~m.toBitVec) + k.toBitVec
  exact (BitVec.add_eq_or_of_and_eq_zero _ _ apart).symm

theorem toNat_low {x m : UInt32} {n : Nat} (mask : m.toNat = 2 ^ n - 1) : (x &&& m).toNat = x.toNat % 2 ^ n := by
  rw [UInt32.toNat_and, mask, Nat.and_two_pow_sub_one_eq_mod]

theorem toNat_replaceHost (x k : UInt32) {m : UInt32} {n : Nat} (few : n ≤ 32) (mask : m.toNat = 2 ^ n - 1)
    (inside : k.toNat < 2 ^ n) : ((x &&& ~~~m) ||| k).toNat = x.toNat / 2 ^ n * 2 ^ n + k.toNat := by
  have kept : k &&& m = k := by
    apply UInt32.toNat_inj.mp
    rw [toNat_low mask, Nat.mod_eq_of_lt inside]
  have below : x &&& m ≤ x := by
    rw [UInt32.le_iff_toNat_le, UInt32.toNat_and]
    exact Nat.and_le_left
  have network : (x &&& ~~~m).toNat = x.toNat / 2 ^ n * 2 ^ n := by
    have rest : x &&& ~~~m = x - (x &&& m) := by
      calc x &&& ~~~m = (x &&& ~~~m) + (x &&& m) - (x &&& m) := (UInt32.add_sub_cancel _ _).symm
        _ = x - (x &&& m) := by rw [and_not_add_and]
    have whole := Nat.div_add_mod x.toNat (2 ^ n)
    rw [rest, UInt32.toNat_sub_of_le _ _ below, toNat_low mask, Nat.mul_comm]
    omega
  have blocks : x.toNat / 2 ^ n < 2 ^ (32 - n) := by
    apply Nat.div_lt_of_lt_mul
    rw [← Nat.pow_add, Nat.add_sub_cancel' few]
    exact x.toNat_lt
  have fits : x.toNat / 2 ^ n * 2 ^ n + k.toNat < 2 ^ 32 := by
    calc x.toNat / 2 ^ n * 2 ^ n + k.toNat < (x.toNat / 2 ^ n + 1) * 2 ^ n := by rw [Nat.succ_mul]; omega
      _ ≤ 2 ^ (32 - n) * 2 ^ n := Nat.mul_le_mul_right _ blocks
      _ = 2 ^ 32 := by rw [← Nat.pow_add, Nat.sub_add_cancel few]
  rw [and_not_or kept, UInt32.toNat_add, network, Nat.mod_eq_of_lt fits]

theorem hostPair_31 {a b : UInt32} : HostPair 31 a b ↔ a.toNat ≠ b.toNat ∧ a.toNat / 2 = b.toNat / 2 := by
  constructor
  · rintro ⟨distinct, subnet, -⟩
    exact ⟨fun same => distinct (UInt32.toNat_inj.mp same), subnet⟩
  · rintro ⟨distinct, subnet⟩
    exact ⟨fun same => distinct (congrArg UInt32.toNat same), subnet, .inl rfl, .inl rfl⟩

-- a block of four addresses has two usable ones
theorem hostPair_30 {a b : UInt32} :
    HostPair 30 a b ↔ a.toNat / 4 = b.toNat / 4 ∧
      (a.toNat % 4 = 1 ∧ b.toNat % 4 = 2 ∨ a.toNat % 4 = 2 ∧ b.toNat % 4 = 1) := by
  have usable (x : UInt32) : Usable 30 x ↔ x.toNat % 4 ≠ 0 ∧ x.toNat % 4 ≠ 3 := or_iff_right (by decide)
  constructor
  · rintro ⟨distinct, subnet, first, second⟩
    have distinct : a.toNat ≠ b.toNat := fun same => distinct (UInt32.toNat_inj.mp same)
    have subnet : a.toNat / 4 = b.toNat / 4 := subnet
    rw [usable] at first second
    omega
  · rintro ⟨subnet, hosts⟩
    refine ⟨fun same => ?_, subnet, (usable a).mpr (by omega), (usable b).mpr (by omega)⟩
    rw [same] at hosts
    omega

theorem peerOf_31 {c : Cidr} {peer : UInt32} (pfx : c.pfx = 31) :
    peerOf c = .ok peer ↔ HostPair 31 (addressOf c.octets) peer := by
  generalize address : addressOf c.octets = ip
  have mask : prefixMask c.pfx = .ok (~~~1) := by
    rw [pfx]
    decide
  have low : (ip &&& 1).toNat = ip.toNat % 2 := @toNat_low ip 1 1 rfl
  have flipped : ((ip &&& 1) ^^^ 1).toNat = 1 - ip.toNat % 2 := by
    rw [UInt32.toNat_xor, low]
    rcases Nat.mod_two_eq_zero_or_one ip.toNat with even | odd
    · rw [even]
      rfl
    · rw [odd]
      rfl
  have replaced := @toNat_replaceHost ip ((ip &&& 1) ^^^ 1) 1 1 (by decide) rfl (by omega)
  have result : peerOf c = .ok ((ip &&& ~~~1) ||| ((ip &&& 1) ^^^ 1)) := by
    rw [peerOf, mask, bind_ok, peerUnder, address, if_pos pfx, UInt32.not_not]
    rfl
  rw [result, hostPair_31, Except.ok.injEq, ← UInt32.toNat_inj, replaced, flipped]
  omega

theorem peerOf_30 {c : Cidr} {peer : UInt32} (pfx : c.pfx = 30) :
    peerOf c = .ok peer ↔ HostPair 30 (addressOf c.octets) peer := by
  generalize address : addressOf c.octets = ip
  have mask : prefixMask c.pfx = .ok (~~~3) := by
    rw [pfx]
    decide
  have low : (ip &&& 3).toNat = ip.toNat % 4 := @toNat_low ip 3 2 rfl
  have host (n : Nat) (small : n < 2 ^ 32) : ip &&& 3 = UInt32.ofNat n ↔ ip.toNat % 4 = n := by
    rw [← UInt32.toNat_inj, low, UInt32.toNat_ofNat', Nat.mod_eq_of_lt small]
  have zero : ip &&& 3 = 0 ↔ ip.toNat % 4 = 0 := host 0 (by decide)
  have one : ip &&& 3 = 1 ↔ ip.toNat % 4 = 1 := host 1 (by decide)
  have three : ip &&& 3 = 3 ↔ ip.toNat % 4 = 3 := host 3 (by decide)
  have first := @toNat_replaceHost ip 1 3 2 (by decide) rfl (by decide)
  have second := @toNat_replaceHost ip 2 3 2 (by decide) rfl (by decide)
  have values : (1 : UInt32).toNat = 1 ∧ (2 : UInt32).toNat = 2 := ⟨rfl, rfl⟩
  rw [peerOf, mask, bind_ok, peerUnder, address, if_neg (by rw [pfx]; decide), if_pos (by rw [pfx]; decide), UInt32.not_not,
    hostPair_30]
  split_ifs with outer inner
  all_goals rw [zero, three] at outer
  · refine iff_of_false (fun done => nomatch done) ?_
    omega
  · rw [one] at inner
    rw [pure_eq_ok, Except.ok.injEq, ← UInt32.toNat_inj, second]
    omega
  · rw [one] at inner
    rw [pure_eq_ok, Except.ok.injEq, ← UInt32.toNat_inj, first]
    omega

-- past 32 there is no mask, and 32 leaves no host
theorem prefixMask_past_31 {pfx : UInt8} {m : UInt32} (wide : 31 < pfx) (mask : prefixMask pfx = .ok m) : ~~~m = 0 := by
  have some : pfx ≠ 0 := by
    rintro rfl
    exact absurd wide (by decide)
  rw [prefixMask, if_neg some] at mask
  split_ifs at mask with past
  have last : pfx = 32 := by
    simp only [UInt8.lt_iff_toNat_lt, UInt8.reduceToNat] at wide past
    exact UInt8.toNat_inj.mp (by simp only [UInt8.reduceToNat]; omega)
  rw [last] at mask
  rw [← Except.ok.inj mask]
  decide

theorem peerOf_eq_ok {c : Cidr} {peer : UInt32} :
    peerOf c = .ok peer ↔ (c.pfx = 30 ∨ c.pfx = 31) ∧ HostPair c.pfx (addressOf c.octets) peer := by
  by_cases p31 : c.pfx = 31
  · rw [peerOf_31 p31, p31]
    simp
  by_cases p30 : c.pfx = 30
  · rw [peerOf_30 p30, p30]
    simp
  simp only [p30, p31, or_self, false_and, iff_false]
  rw [peerOf]
  cases mask : prefixMask c.pfx with
  | error e => exact fun done => nomatch done
  | ok m =>
      rw [bind_ok, peerUnder, if_neg p31]
      by_cases wide : 30 ≤ c.pfx
      · have past : 31 < c.pfx := by
          have not30 : c.pfx.toNat ≠ 30 := fun same => p30 (UInt8.toNat_inj.mp same)
          have not31 : c.pfx.toNat ≠ 31 := fun same => p31 (UInt8.toNat_inj.mp same)
          simp only [UInt8.le_iff_toNat_le, UInt8.reduceToNat] at wide not30 not31
          simp only [UInt8.lt_iff_toNat_lt, UInt8.reduceToNat]
          omega
        rw [if_pos wide, prefixMask_past_31 past mask, if_pos (.inl UInt32.and_zero)]
        exact fun done => nomatch done
      · rw [if_neg wide]
        exact fun done => nomatch done

structure ReadsQuad (text : List Char) (octets : Vector UInt8 4) : Prop where
  parts :
    ∃ a b c d, text.splitOn '.' = [a, b, c, d] ∧ parseU8 a = .ok (octets.get 0) ∧ parseU8 b = .ok (octets.get 1) ∧
    parseU8 c = .ok (octets.get 2) ∧ parseU8 d = .ok (octets.get 3)

theorem mapError_eq_ok {ε ε' α : Type} {f : ε → ε'} {x : Except ε α} {a : α} : x.mapError f = .ok a ↔ x = .ok a := by
  cases x <;> simp [Except.mapError]

theorem splitOnce_append {separator : Char} {front : List Char} (absent : separator ∉ front) (back : List Char) :
    splitOnce separator (front ++ separator :: back) = some (front, back) := by
  rw [splitOnce, idxOf?_append_cons absent]
  simp

theorem splitOnce_eq_some {separator : Char} {s front back : List Char} :
    splitOnce separator s = some (front, back) ↔ s = front ++ separator :: back ∧ separator ∉ front := by
  constructor
  · intro split
    by_cases member : separator ∈ s
    · obtain ⟨left, right, rfl, absent⟩ := List.eq_append_cons_of_mem member
      rw [splitOnce_append absent] at split
      cases split
      exact ⟨rfl, absent⟩
    · rw [splitOnce, List.idxOf?_eq_none_iff.mpr member] at split
      cases split
  · rintro ⟨rfl, absent⟩
    exact splitOnce_append absent back

theorem fourOctets_eq_ok {ipStr : List Char} {parsed : List UInt8} {octets : Vector UInt8 4} :
    fourOctets ipStr parsed = .ok octets ↔ parsed = [octets.get 0, octets.get 1, octets.get 2, octets.get 3] := by
  constructor
  · intro done
    unfold fourOctets at done
    split at done
    · cases done
      rfl
    · cases done
  · rintro rfl
    rw [fourOctets, pure_eq_ok, Except.ok.injEq]
    apply Vector.ext
    intro i inside
    match i, inside with
    | 0, _ | 1, _ | 2, _ | 3, _ => rfl

theorem readCidr_eq_ok {cidr : List Char} {c : Cidr} :
    readCidr cidr = .ok c ↔ ∃ prefixStr, cidr = c.ipStr ++ '/' :: prefixStr ∧ '/' ∉ c.ipStr ∧ parseU8 prefixStr = .ok c.pfx ∧
      ReadsQuad c.ipStr c.octets := by
  constructor
  · intro read
    obtain ⟨⟨ipStr, prefixStr⟩, split, read⟩ := bind_eq_ok.mp read
    obtain ⟨pfx, width, read⟩ := bind_eq_ok.mp read
    obtain ⟨parsed, numbers, read⟩ := bind_eq_ok.mp read
    obtain ⟨octets, four, same⟩ := bind_eq_ok.mp read
    cases same
    obtain ⟨whole, absent⟩ := splitOnce_eq_some.mp (orReject_eq_ok.mp split)
    have each := mapM_eq_ok.mp numbers
    simp only [mapError_eq_ok] at each width
    rw [fourOctets_eq_ok.mp four] at each
    refine ⟨prefixStr, whole, absent, width, ⟨?_⟩⟩
    generalize ipStr.splitOn '.' = pieces at each
    obtain _ | ⟨first, _ | ⟨second, _ | ⟨third, _ | ⟨fourth, ⟨⟩⟩⟩⟩⟩ := each
    exact ⟨_, _, _, _, rfl, first, second, third, fourth⟩
  · obtain ⟨ipStr, octets, pfx⟩ := c
    rintro ⟨prefixStr, rfl, absent, width, ⟨a, b, c, d, split, first, second, third, fourth⟩⟩
    simp only [readCidr, splitOnce_append absent, orReject_some, bind_ok, width, split, List.mapM_cons, List.mapM_nil,
      first, second, third, fourth, Except.mapError, pure_eq_ok, (@fourOctets_eq_ok ipStr _ octets).mpr rfl]

def octetsOf (ip : UInt32) : Vector UInt8 4 :=
  #v[UInt8.ofNat (ip.toNat / 2 ^ 24), UInt8.ofNat (ip.toNat / 2 ^ 16), UInt8.ofNat (ip.toNat / 2 ^ 8), UInt8.ofNat ip.toNat]

theorem addressOf_octetsOf (ip : UInt32) : addressOf (octetsOf ip) = ip := le32_toLeBytes ip

def quadText (a b c d : List Char) : List Char := a ++ '.' :: (b ++ '.' :: (c ++ '.' :: d))

theorem splitOn_quadText {a b c d : List Char} (absent : '.' ∉ a ∧ '.' ∉ b ∧ '.' ∉ c ∧ '.' ∉ d) :
    (quadText a b c d).splitOn '.' = [a, b, c, d] := by
  rw [quadText, List.splitOn_append_cons_self_of_not_mem absent.1, List.splitOn_append_cons_self_of_not_mem absent.2.1,
    List.splitOn_append_cons_self_of_not_mem absent.2.2.1, List.splitOn_eq_singleton absent.2.2.2]

theorem quadText_of_splitOn {text a b c d : List Char} (split : text.splitOn '.' = [a, b, c, d]) : text = quadText a b c d := by
  have joined := @List.intercalate_splitOn _ text _ _ '.'
  rw [split] at joined
  rw [← joined]
  simp [List.intercalate, quadText]

def numberText (x : UInt8) : List Char := (toString x.toNat).toList

theorem mem_numberText {x : UInt8} {c : Char} (member : c ∈ numberText x) : '0'.toNat ≤ c.toNat ∧ c.toNat ≤ '9'.toNat := by
  rw [numberText, Nat.toString_eq_repr, Nat.toList_repr] at member
  exact Char.isDigit_iff_toNat.mp (Nat.isDigit_of_mem_toDigits (by decide) (by decide) member)

theorem dottedQuad_eq (ip : UInt32) :
    dottedQuad ip = quadText (numberText ((octetsOf ip).get 0)) (numberText ((octetsOf ip).get 1)) (numberText ((octetsOf ip).get 2))
      (numberText ((octetsOf ip).get 3)) := by
  have byte (x : UInt32) : (x &&& 0xFF).toNat = (UInt8.ofNat x.toNat).toNat := by
    rw [@toNat_low x 0xFF 8 rfl, UInt8.toNat_ofNat']
  have shifted (n : UInt32) (k : Nat) (small : k < 32) (same : n.toNat = k) : (ip >>> n).toNat = ip.toNat / 2 ^ k := by
    rw [UInt32.toNat_shiftRight, same, Nat.mod_eq_of_lt small, Nat.shiftRight_eq_div_pow]
  rw [dottedQuad, byte, byte, byte, byte, shifted 24 24 (by decide) rfl, shifted 16 16 (by decide) rfl,
    shifted 8 8 (by decide) rfl]
  rfl

theorem not_mem_dottedQuad {ip : UInt32} {c : Char} (dot : c ≠ '.') (digit : ¬('0'.toNat ≤ c.toNat ∧ c.toNat ≤ '9'.toNat)) :
    c ∉ dottedQuad ip := by
  have free (x : UInt8) : c ∉ numberText x := fun member => digit (mem_numberText member)
  simp [dottedQuad_eq, quadText, free, dot]

theorem readsQuad_dottedQuad (ip : UInt32) : ReadsQuad (dottedQuad ip) (octetsOf ip) := by
  have free (x : UInt8) : '.' ∉ numberText x := fun member => absurd (mem_numberText member) (by decide)
  have read (x : UInt8) : parseU8 (numberText x) = .ok x := parseU8_toString.mpr rfl
  rw [dottedQuad_eq]
  exact ⟨_, _, _, _, splitOn_quadText ⟨free _, free _, free _, free _⟩, read _, read _, read _, read _⟩

theorem readCidr_dottedQuad (ip : UInt32) (pfx : UInt8) :
    readCidr (dottedQuad ip ++ '/' :: numberText pfx) = .ok ⟨dottedQuad ip, octetsOf ip, pfx⟩ :=
  readCidr_eq_ok.mpr
    ⟨numberText pfx, rfl, not_mem_dottedQuad (by decide) (by decide), parseU8_toString.mpr rfl, readsQuad_dottedQuad ip⟩

structure DottedQuad (text : List Char) (octets : Vector UInt8 4) : Prop where
  parts :
    ∃ a b c d, text = quadText a b c d ∧ Numeral 10 (utf8 a) (octets.get 0).toNat ∧ Numeral 10 (utf8 b) (octets.get 1).toNat ∧
    Numeral 10 (utf8 c) (octets.get 2).toNat ∧ Numeral 10 (utf8 d) (octets.get 3).toNat

structure P2pSpec (cidr : List Char) : Prop where
  returns : computeP2pPeer cidr ≠ .error .overflow
  pair : ∀ localText peerText pfx, computeP2pPeer cidr = .ok (localText, peerText, pfx) →
    (cidr = localText ++ "/30".toList ∧ pfx = 30 ∨ cidr = localText ++ "/31".toList ∧ pfx = 31) ∧
    ∃ octets peer, DottedQuad localText octets ∧ peerText = dottedQuad peer ∧ HostPair pfx (addressOf octets) peer ∧
      computeP2pPeer (peerText ++ '/' :: numberText pfx) = .ok (peerText, dottedQuad (addressOf octets), pfx)

def Cidr.Paired (c : Cidr) : Prop := (c.pfx = 30 ∨ c.pfx = 31) ∧ Usable c.pfx (addressOf c.octets)

structure Cidr.Plain (cidr : List Char) (c : Cidr) : Prop where
  unsigned : '+' ∉ cidr
  pfx : cidr = c.ipStr ++ "/30".toList ∨ cidr = c.ipStr ++ "/31".toList

theorem computeP2pPeer_eq_ok {cidr localText peerText : List Char} {pfx : UInt8} :
    computeP2pPeer cidr = .ok (localText, peerText, pfx) ↔
      ∃ c peer, readCidr cidr = .ok c ∧ (c.pfx = 30 ∨ c.pfx = 31) ∧ HostPair c.pfx (addressOf c.octets) peer ∧
        c.ipStr = localText ∧ dottedQuad peer = peerText ∧ c.pfx = pfx := by
  simp only [computeP2pPeer, bind_eq_ok, peerOf_eq_ok, pure_eq_ok, Except.ok.injEq, Prod.mk.injEq, exists_and_left, and_assoc]

theorem Cidr.Paired.peer {c : Cidr} (paired : c.Paired) : ∃ peer, HostPair c.pfx (addressOf c.octets) peer := by
  obtain ⟨pfx | pfx, usable⟩ := paired <;> rw [pfx] at usable ⊢ <;> generalize addressOf c.octets = ip at *
  all_goals have bound := ip.toNat_lt
  · have ends : ip.toNat % 4 ≠ 0 ∧ ip.toNat % 4 ≠ 3 := usable.resolve_left (by decide)
    refine ⟨UInt32.ofNat (ip.toNat / 4 * 4 + (3 - ip.toNat % 4)), hostPair_30.mpr ?_⟩
    rw [UInt32.toNat_ofNat', Nat.mod_eq_of_lt (by omega)]
    omega
  · refine ⟨UInt32.ofNat (ip.toNat / 2 * 2 + (1 - ip.toNat % 2)), hostPair_31.mpr ?_⟩
    rw [UInt32.toNat_ofNat', Nat.mod_eq_of_lt (by omega)]
    omega

theorem mapError_eq_error {ε ε' α : Type} {f : ε → ε'} {x : Except ε α} {e' : ε'} (failed : x.mapError f = .error e') :
    ∃ e, f e = e' := by
  cases x with
  | error e => exact ⟨e, Except.error.inj failed⟩
  | ok a => cases failed

theorem readCidr_ne_overflow (cidr : List Char) : readCidr cidr ≠ .error .overflow := by
  intro failed
  rcases bind_eq_error.mp failed with none | ⟨⟨ipStr, prefixStr⟩, -, failed⟩
  · cases (orReject_eq_error.mp none).2
  rcases bind_eq_error.mp failed with width | ⟨pfx, -, failed⟩
  · obtain ⟨e, same⟩ := mapError_eq_error width
    cases same
  rcases bind_eq_error.mp failed with number | ⟨parsed, -, failed⟩
  · obtain ⟨_, s, _, -, -, wrong⟩ := mapM_eq_error.mp number
    obtain ⟨e, same⟩ := mapError_eq_error wrong
    cases same
  rcases bind_eq_error.mp failed with count | ⟨octets, -, done⟩
  · unfold fourOctets at count
    split at count <;> cases count
  · cases done

theorem peerOf_overflow {c : Cidr} : peerOf c = .error .overflow ↔ 32 < c.pfx := by
  constructor
  · intro failed
    rcases bind_eq_error.mp failed with mask | ⟨m, -, failed⟩
    · unfold prefixMask at mask
      split_ifs at mask with zero past
      · cases mask
      · exact past
      · cases mask
    · unfold peerUnder at failed
      dsimp only at failed
      split_ifs at failed <;> cases failed
  · intro past
    have some : c.pfx ≠ 0 := by
      intro zero
      rw [zero] at past
      exact absurd past (by decide)
    rw [peerOf, prefixMask, if_neg some, if_pos past]
    rfl

theorem computeP2pPeer_overflow {cidr : List Char} :
    computeP2pPeer cidr = .error .overflow ↔ ∃ c, readCidr cidr = .ok c ∧ 32 < c.pfx := by
  constructor
  · intro failed
    rcases bind_eq_error.mp failed with unread | ⟨c, read, failed⟩
    · exact absurd unread (readCidr_ne_overflow cidr)
    rcases bind_eq_error.mp failed with past | ⟨peer, -, done⟩
    · exact ⟨c, read, peerOf_overflow.mp past⟩
    · cases done
  · rintro ⟨c, read, past⟩
    rw [computeP2pPeer, read, bind_ok, peerOf_overflow.mpr past]
    rfl

theorem DottedQuad.unsigned {text : List Char} {octets : Vector UInt8 4} (quad : DottedQuad text octets) : '+' ∉ text := by
  obtain ⟨a, b, c, d, rfl, first, second, third, fourth⟩ := quad
  have free {s : List Char} {n : Nat} (numeral : Numeral 10 (utf8 s) n) : '+' ∉ s :=
    fun member => numeral.not_signed.1 ((mem_utf8_iff (by decide)).mpr member)
  simp [quadText, free first, free second, free third, free fourth]

theorem numeral_of_parseU8 {s : List Char} {x : UInt8} (unsigned : '+' ∉ s) (parsed : parseU8 s = .ok x) :
    Numeral 10 (utf8 s) x.toNat := by
  obtain ⟨digits, same | signed, numeral⟩ := parseU8_eq_ok.mp parsed
  · exact same ▸ numeral
  · exact absurd ((mem_utf8_iff (by decide : '+'.toNat < 128)).mp (signed ▸ List.mem_cons_self)) unsigned

theorem ReadsQuad.dottedQuad {text : List Char} {octets : Vector UInt8 4} (quad : ReadsQuad text octets) (unsigned : '+' ∉ text) :
    DottedQuad text octets := by
  obtain ⟨a, b, c, d, split, first, second, third, fourth⟩ := quad
  have whole := quadText_of_splitOn split
  rw [whole] at unsigned
  simp only [quadText, List.mem_append, List.mem_cons, not_or] at unsigned
  obtain ⟨a', -, b', -, c', -, d'⟩ := unsigned
  exact ⟨a, b, c, d, whole, numeral_of_parseU8 a' first, numeral_of_parseU8 b' second, numeral_of_parseU8 c' third,
    numeral_of_parseU8 d' fourth⟩

theorem computeP2pPeer_iff (cidr : List Char) :
    P2pSpec cidr ↔ ∀ c, readCidr cidr = .ok c → c.pfx ≤ 32 ∧ (c.Paired → c.Plain cidr) := by
  constructor
  · rintro ⟨returns, pair⟩ c read
    refine ⟨UInt8.not_lt.mp fun past => returns (computeP2pPeer_overflow.mpr ⟨c, read, past⟩), fun paired => ?_⟩
    obtain ⟨peer, hosts⟩ := paired.peer
    obtain ⟨spelled, octets, -, quad, -⟩ := pair _ _ _ (computeP2pPeer_eq_ok.mpr ⟨c, peer, read, paired.1, hosts, rfl, rfl, rfl⟩)
    have unsigned := quad.unsigned
    rcases spelled with ⟨whole, -⟩ | ⟨whole, -⟩
    · exact ⟨by rw [whole]; simp [unsigned], .inl whole⟩
    · exact ⟨by rw [whole]; simp [unsigned], .inr whole⟩
  · intro fine
    refine ⟨fun failed => ?_, fun localText peerText pfx done => ?_⟩
    · obtain ⟨c, read, past⟩ := computeP2pPeer_overflow.mp failed
      exact UInt8.not_lt.mpr (fine c read).1 past
    · obtain ⟨c, peer, read, link, hosts, rfl, rfl, rfl⟩ := computeP2pPeer_eq_ok.mp done
      obtain ⟨unsigned, spelled⟩ := (fine c read).2 ⟨link, hosts.usable.1⟩
      obtain ⟨prefixStr, whole, -, width, quad⟩ := readCidr_eq_ok.mp read
      have plain : '+' ∉ c.ipStr := fun member => unsigned (whole ▸ List.mem_append_left _ member)
      refine ⟨?_, c.octets, peer, quad.dottedQuad plain, rfl, hosts, ?_⟩
      · have tail {text : List Char} {n : UInt8} (ends : cidr = c.ipStr ++ '/' :: text) (number : parseU8 text = .ok n) :
            c.pfx = n := by
          rw [ends, List.append_cancel_left_eq, List.cons.injEq] at whole
          rw [← whole.2, number] at width
          exact (Except.ok.inj width).symm
        rcases spelled with ends | ends
        · exact .inl ⟨ends, tail ends (by decide)⟩
        · exact .inr ⟨ends, tail ends (by decide)⟩
      · have back : HostPair c.pfx (addressOf (octetsOf peer)) (addressOf c.octets) := by
          rw [addressOf_octetsOf]
          exact hosts.symm
        exact computeP2pPeer_eq_ok.mpr ⟨_, _, readCidr_dottedQuad peer c.pfx, link, back, rfl, rfl, rfl⟩

example : (computeP2pPeer "10.0.0.1/30".toList).toOption = some ("10.0.0.1".toList, "10.0.0.2".toList, 30) := by decide

-- a prefix past 32, and a number with a sign
theorem p2pSpec_violated : ¬P2pSpec "10.0.0.1/33".toList ∧ ¬P2pSpec "+10.0.0.1/30".toList := by
  refine ⟨fun spec => spec.returns (by decide), fun spec => ?_⟩
  have signed : computeP2pPeer "+10.0.0.1/30".toList = .ok ("+10.0.0.1".toList, "10.0.0.2".toList, 30) := by decide
  obtain ⟨-, octets, -, quad, -⟩ := spec.pair _ _ _ signed
  exact quad.unsigned (by decide)

end Gutd.Tun
