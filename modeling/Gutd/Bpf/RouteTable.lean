import Gutd.Bpf.Loader
import Gutd.Shared.FirstMax
import Gutd.Shared.Hexadecimal
import Gutd.Shared.LeadingBits

set_option autoImplicit false

-- `proc_route_lookup_v4` and `proc_route_lookup_v6` of `loader.rs` with `hex16` of `netlink.rs`.

namespace Gutd.Bpf

open Bytes Checked FirstMax Net Str

-- the loop over the pairs ends at the first one that is not read
def hex16Bytes (bytes : Buf) : List Nat → Result (Option Buf)
  | [] => pure (some [])
  | i :: rest =>
      if isCharBoundary bytes (i * 2) && isCharBoundary bytes (i * 2 + 2) then
        match parseUnsigned 16 255 (slice bytes (i * 2) (i * 2 + 2)) with
        | .error _ => pure none
        | .ok n => do
            let read ← hex16Bytes bytes rest
            pure (read.map (UInt8.ofNat n :: ·))
      else throw .outOfBounds

def hex16 (s : List Char) : Result (Option (Vector UInt8 16)) :=
  let bytes := utf8 s
  if bytes.length ≠ 32 then pure none
  else do
    let read ← hex16Bytes bytes (List.range 16)
    pure (read.map fun b => bytesAt b 0 16)

structure Best where
  plen : Int
  dev : Option (List Char)
  via : Option IpAddr

abbrev Lookup := Option (List Char) × Option IpAddr × Option UInt16

section Mtu

variable (sysfs : List Char → Option (List Char))

def mtuOf (dev : List Char) : Option UInt16 :=
  (sysfs ("/sys/class/net/".toList ++ dev ++ "/mtu".toList)).bind fun text => (parseU16 (trim text)).toOption

def Best.lookup (best : Best) : Lookup := (best.dev, best.via, best.dev.bind (mtuOf sysfs))

end Mtu

def fromNeBytes : ByteOrder → Vector UInt8 4 → UInt32
  | .little, octets => le32 (octets.get 0) (octets.get 1) (octets.get 2) (octets.get 3)
  | .big, octets => le32 (octets.get 3) (octets.get 2) (octets.get 1) (octets.get 0)

def countOnes (x : UInt32) : Nat := (List.range 32).countP fun i => x.toNat.testBit i

structure FieldsV4 where
  dev : List Char
  dest : UInt32
  gw : UInt32
  flags : UInt32
  mask : UInt32

def fieldsV4 (hex : List Char → Option UInt32) (line : List Char) : Option FieldsV4 := do
  let f := splitWhitespace line
  let dev ← f[0]?
  let dest ← f[1]?.bind hex
  let gw ← f[2]?.bind hex
  let flags ← f[3]?.bind hex
  -- RefCnt, Use and Metric are passed over
  let mask ← f[7]?.bind hex
  pure { dev, dest, gw, flags, mask }

def gatewayV4 (order : ByteOrder) (gw : UInt32) : Option IpAddr :=
  if gw ≠ 0 then some (.v4 (bytesAt (toNeBytes order gw) 0 4)) else none

def routeStepV4 (order : ByteOrder) (nt : UInt32) (best : Best) (line : List Char) : Best :=
  match fieldsV4 hexU32 line with
  | none => best
  | some f =>
      if f.flags &&& 1 = 0 ∨ nt &&& f.mask ≠ f.dest then best
      else if (countOnes f.mask : Int) > best.plen then
        { plen := countOnes f.mask, dev := some f.dev, via := gatewayV4 order f.gw }
      else best

def procRouteLookupV4 (order : ByteOrder) (sysfs : List Char → Option (List Char)) (table : Option (List Char))
    (target : Vector UInt8 4) : Lookup :=
  match table with
  | none => (none, none, none)
  | some content =>
      let nt := fromNeBytes order target
      (((lines content).drop 1).foldl (routeStepV4 order nt) { plen := -1, dev := none, via := none }).lookup sysfs

def prefixMatches (octets dest : Buf) (plen : UInt8) : Result Bool := do
  let fb := (plen / 8).toNat
  let rb := plen % 8
  let head ← subslice octets 0 fb
  let destHead ← subslice dest 0 fb
  if head ≠ destHead then pure false
  else if rb > 0 then do
    let m := 0xFF <<< (8 - rb)
    let byte ← getByte octets fb
    let destByte ← getByte dest fb
    pure (byte &&& m = destByte &&& m)
  else pure true

def segmentsOf (b : Vector UInt8 16) : Vector UInt16 8 := Vector.ofFn fun i => be16At b.toList (2 * i.val)

def gatewayV6 (nexthop : Option (Vector UInt8 16)) : Option IpAddr :=
  nexthop.bind fun b => let v := IpAddr.v6 (segmentsOf b); if isUnspecified v then none else some v

def routeStepV6 (octets : Buf) (best : Best) (line : List Char) : Result Best := do
  let c := splitWhitespace line
  if c.length < 10 then return best
  let some dest ← hex16 (← entryAt c 0) | return best
  let some plen := hexU8 (← entryAt c 1) | return best
  let some flags := hexU32 (← entryAt c 8) | return best
  if flags &&& 1 = 0 ∨ plen > 128 then return best
  if !(← prefixMatches octets dest.toList plen) then return best
  if (plen.toNat : Int) > best.plen then
    let dev ← entryAt c 9
    let nexthop ← hex16 (← entryAt c 4)
    return { plen := plen.toNat, dev := some dev, via := gatewayV6 nexthop }
  return best

def procRouteLookupV6 (sysfs : List Char → Option (List Char)) (table : Option (List Char)) (target : Vector UInt16 8) :
    Result Lookup :=
  match table with
  | none => pure (none, none, none)
  | some content => do
      let octets := (octets6 target).toList
      let best ← (lines content).foldlM (routeStepV6 octets) { plen := -1, dev := none, via := none }
      pure (best.lookup sysfs)

def hexAddress (s : List Char) : Option (Vector UInt8 16) :=
  if s.length = 32 ∧ ∀ c ∈ s, IsHexDigit c then
    some (Vector.ofFn fun i => UInt8.ofNat (positional 16 (slice (utf8 s) (i.val * 2) (i.val * 2 + 2))))
  else none

structure Readers where
  u8 : List Char → Option UInt8
  u32 : List Char → Option UInt32
  address : List Char → Option (Vector UInt8 16)

def Readers.hexadecimal : Readers where
  u8 s := (hexNumber 255 s).map UInt8.ofNat
  u32 s := (hexNumber 4294967295 s).map UInt32.ofNat
  address := hexAddress

def Readers.source : Readers where
  u8 := hexU8
  u32 := hexU32
  address s := (hex16 s).toOption.join

structure TableRoute where
  dev : List Char
  via : Option IpAddr
  plen : Nat
  deriving DecidableEq

def TableRoute.view (route : TableRoute) : List Char × Option IpAddr := (route.dev, route.via)

def routeV4 (readers : Readers) (order : ByteOrder) (target : Vector UInt8 4) (line : List Char) : Option TableRoute :=
  (fieldsV4 readers.u32 line).bind fun f =>
    if f.flags &&& 1 ≠ 0 ∧ fromNeBytes order target &&& f.mask = f.dest then
      some { dev := f.dev, via := gatewayV4 order f.gw, plen := countOnes f.mask }
    else none

structure FieldsV6 where
  dest : Vector UInt8 16
  plen : UInt8
  nexthop : Option (Vector UInt8 16)
  flags : UInt32
  dev : List Char

def fieldsV6 (readers : Readers) (line : List Char) : Option FieldsV6 := do
  let cols := splitWhitespace line
  let dest ← cols[0]?.bind readers.address
  let plen ← cols[1]?.bind readers.u8
  let nexthop ← cols[4]?.map readers.address
  let flags ← cols[8]?.bind readers.u32
  let dev ← cols[9]?
  pure { dest, plen, nexthop, flags, dev }

def routeV6 (readers : Readers) (target : Vector UInt16 8) (line : List Char) : Option TableRoute :=
  (fieldsV6 readers line).bind fun f =>
    if f.flags &&& 1 ≠ 0 ∧ f.plen ≤ 128 ∧ SameBits f.plen.toNat (octets6 target).toList f.dest.toList then
      some { dev := f.dev, via := gatewayV6 f.nexthop, plen := f.plen.toNat }
    else none

def MalformedV4 (line : List Char) : Prop := fieldsV4 Readers.hexadecimal.u32 line = none

def MalformedV6 (line : List Char) : Prop := fieldsV6 Readers.hexadecimal line = none

section Fields

variable {s : List Char}

theorem isCharBoundary_plain {bytes : Buf} (plain : ∀ b ∈ bytes, b < 128) {i : Nat} (inside : i ≤ bytes.length) :
    isCharBoundary bytes i = true := by
  by_cases last : i = bytes.length
  · simp [isCharBoundary, last]
  · have before : i < bytes.length := by omega
    refine isCharBoundary_of_plain before (plain _ ?_)
    rw [byteAt_eq_getElem bytes i before]
    exact List.getElem_mem before

theorem hex16Bytes_plain {bytes : Buf} (plain : ∀ b ∈ bytes, b < 128) {indices : List Nat}
    (inside : ∀ i ∈ indices, i * 2 + 2 ≤ bytes.length) : ∃ read, hex16Bytes bytes indices = .ok read := by
  induction indices with
  | nil => exact ⟨_, rfl⟩
  | cons i rest ih =>
      have here := inside i List.mem_cons_self
      obtain ⟨read, later⟩ := ih fun j member => inside j (List.mem_cons_of_mem i member)
      rw [hex16Bytes, isCharBoundary_plain plain (by omega), isCharBoundary_plain plain here, later]
      cases parseUnsigned 16 255 (slice bytes (i * 2) (i * 2 + 2)) with
      | error e => exact ⟨_, rfl⟩
      | ok n => exact ⟨_, rfl⟩

theorem hex16_plain (plain : ∀ c ∈ s, c.toNat < 128) : ∃ read, hex16 s = .ok read := by
  rw [hex16]
  split_ifs with width
  · exact ⟨_, rfl⟩
  · have bytes : ∀ b ∈ utf8 s, b < 128 := by
      rw [utf8_plain plain]
      intro b member
      obtain ⟨c, inside, rfl⟩ := List.mem_map.mp member
      have small := plain c inside
      rw [UInt8.lt_iff_toNat_lt, UInt8.toNat_ofNat', Nat.mod_eq_of_lt (by omega)]
      exact small
    obtain ⟨read, loop⟩ := @hex16Bytes_plain _ bytes (List.range 16) fun i member => by
      have := List.mem_range.mp member
      omega
    exact ⟨_, by rw [loop]; rfl⟩

theorem hex16Bytes_ok {bytes : Buf} {n : Nat → Nat} {indices : List Nat}
    (each : ∀ i ∈ indices, isCharBoundary bytes (i * 2) = true ∧ isCharBoundary bytes (i * 2 + 2) = true ∧
      parseUnsigned 16 255 (slice bytes (i * 2) (i * 2 + 2)) = .ok (n i)) :
    hex16Bytes bytes indices = .ok (some (indices.map fun i => UInt8.ofNat (n i))) := by
  induction indices with
  | nil => rfl
  | cons i rest ih =>
      obtain ⟨start, stop, value⟩ := each i List.mem_cons_self
      rw [hex16Bytes, start, stop, value, ih fun j member => each j (List.mem_cons_of_mem i member)]
      rfl

theorem hex16_of_hexAddress {b : Vector UInt8 16} (value : hexAddress s = some b) : hex16 s = .ok (some b) := by
  obtain ⟨⟨width, digits⟩, ⟨⟩⟩ := (Option.ite_none_right_eq_some ..).mp value
  have length : (utf8 s).length = 32 := by rw [utf8_hex digits, List.length_map, width]
  have plain : ∀ b ∈ utf8 s, b < 128 := fun b member => plain_of_digit (digitValue_hex digits b member)
  have pairs : ∀ i ∈ List.range 16, isCharBoundary (utf8 s) (i * 2) = true ∧ isCharBoundary (utf8 s) (i * 2 + 2) = true ∧
      parseUnsigned 16 255 (slice (utf8 s) (i * 2) (i * 2 + 2)) = .ok (positional 16 (slice (utf8 s) (i * 2) (i * 2 + 2))) := by
    intro i member
    have inside := List.mem_range.mp member
    refine ⟨isCharBoundary_plain plain (by omega), isCharBoundary_plain plain (by omega), ?_⟩
    exact parseUnsigned_digits (digitValue_hex digits) (by omega)
  rw [hex16, if_neg (not_not.mpr length), hex16Bytes_ok pairs]
  refine congrArg (fun b => Except.ok (some b)) (Vector.ext fun i inside => ?_)
  simp [bytesAt, byteAt]

end Fields

structure Readers.Extends (loose strict : Readers) : Prop where
  u8 : ∀ s x, strict.u8 s = some x → loose.u8 s = some x
  u32 : ∀ s x, strict.u32 s = some x → loose.u32 s = some x
  address : ∀ s b, strict.address s = some b → loose.address s = some b

theorem source_address {s : List Char} {read : Option (Vector UInt8 16)} (value : hex16 s = .ok read) :
    Readers.source.address s = read := by
  change (hex16 s).toOption.join = read
  rw [value]
  cases read <;> rfl

theorem source_extends : Readers.source.Extends Readers.hexadecimal where
  u8 s x value := by
    obtain ⟨n, read, rfl⟩ := Option.map_eq_some_iff.mp value
    exact Option.map_eq_some_iff.mpr ⟨n, fromHex_of_hexNumber read, rfl⟩
  u32 s x value := by
    obtain ⟨n, read, rfl⟩ := Option.map_eq_some_iff.mp value
    exact Option.map_eq_some_iff.mpr ⟨n, fromHex_of_hexNumber read, rfl⟩
  address s b value := source_address (hex16_of_hexAddress value)

section Line

variable {loose strict : Readers} {order : ByteOrder} {target4 : Vector UInt8 4} {target6 : Vector UInt16 8} {line : List Char}

theorem fieldsV4_extends (wider : loose.Extends strict) {f : FieldsV4} (value : fieldsV4 strict.u32 line = some f) :
    fieldsV4 loose.u32 line = some f := by
  simp only [fieldsV4, Option.bind_eq_bind, Option.bind_eq_some_iff] at value ⊢
  obtain ⟨dev, first, dest, second, gw, third, flags, fourth, mask, eighth, ⟨⟩⟩ := value
  have read {i : Nat} {x : UInt32} (value : ∃ s, (splitWhitespace line)[i]? = some s ∧ strict.u32 s = some x) :
      ∃ s, (splitWhitespace line)[i]? = some s ∧ loose.u32 s = some x :=
    value.imp fun s => And.imp_right (wider.u32 s x)
  exact ⟨dev, first, dest, read second, gw, read third, flags, read fourth, mask, read eighth, rfl⟩

-- only the next hop may come out otherwise
theorem fieldsV6_extends (wider : loose.Extends strict) {f : FieldsV6} (value : fieldsV6 strict line = some f) :
    ∃ nexthop, fieldsV6 loose line = some { f with nexthop } := by
  simp only [fieldsV6, Option.bind_eq_bind, Option.bind_eq_some_iff, Option.map_eq_some_iff] at value ⊢
  obtain ⟨dest, ⟨s, first, readDest⟩, plen, ⟨t, second, readPlen⟩, nexthop, ⟨u, fifth, -⟩, flags, ⟨v, ninth, readFlags⟩, dev,
    tenth, ⟨⟩⟩ := value
  exact ⟨loose.address u, dest, ⟨s, first, wider.address s dest readDest⟩, plen, ⟨t, second, wider.u8 t plen readPlen⟩, _,
    ⟨u, fifth, rfl⟩, flags, ⟨v, ninth, wider.u32 v flags readFlags⟩, dev, tenth, rfl⟩

theorem routeV4_extends (wider : loose.Extends strict) (line : List Char) (route : TableRoute)
    (value : routeV4 strict order target4 line = some route) :
    ∃ route', routeV4 loose order target4 line = some route' ∧ route'.plen = route.plen := by
  obtain ⟨f, fields, value⟩ := Option.bind_eq_some_iff.mp value
  refine ⟨route, ?_, rfl⟩
  rw [routeV4, fieldsV4_extends wider fields]
  exact value

theorem routeV6_extends (wider : loose.Extends strict) (line : List Char) (route : TableRoute)
    (value : routeV6 strict target6 line = some route) :
    ∃ route', routeV6 loose target6 line = some route' ∧ route'.plen = route.plen := by
  obtain ⟨f, fields, value⟩ := Option.bind_eq_some_iff.mp value
  obtain ⟨nexthop, fields⟩ := fieldsV6_extends wider fields
  obtain ⟨up, ⟨⟩⟩ := (Option.ite_none_right_eq_some ..).mp value
  refine ⟨{ dev := f.dev, via := gatewayV6 nexthop, plen := f.plen.toNat }, ?_, rfl⟩
  rw [routeV6, fields, Option.bind_some]
  exact if_pos up

end Line

def Best.of : Option TableRoute → Best
  | none => { plen := -1, dev := none, via := none }
  | some route => { plen := route.plen, dev := some route.dev, via := route.via }

section Steps

variable {order : ByteOrder} {target4 : Vector UInt8 4} {target6 : Vector UInt16 8} {line : List Char}

theorem Best.of_keep (best : Option TableRoute) (route : TableRoute) :
    Best.of (keep TableRoute.plen best (some route)) =
      if (route.plen : Int) > (Best.of best).plen then Best.of (some route) else Best.of best := by
  cases best with
  | none => exact (if_pos (by simp only [Best.of]; omega)).symm
  | some kept =>
      simp only [keep, Best.of, gt_iff_lt, Int.ofNat_lt]
      split_ifs <;> rfl

theorem routeStepV4_eq (best : Option TableRoute) (line : List Char) :
    routeStepV4 order (fromNeBytes order target4) (Best.of best) line =
      Best.of (keep TableRoute.plen best (routeV4 Readers.source order target4 line)) := by
  rw [routeStepV4, routeV4]
  change (match fieldsV4 hexU32 line with | none => _ | some f => _) =
    Best.of (keep TableRoute.plen best ((fieldsV4 hexU32 line).bind _))
  cases fieldsV4 hexU32 line with
  | none => rfl
  | some f =>
      simp only [Option.bind_some]
      by_cases skipped : f.flags &&& 1 = 0 ∨ fromNeBytes order target4 &&& f.mask ≠ f.dest
      · rw [if_pos skipped, if_neg (by tauto)]
        rfl
      · have taken : f.flags &&& 1 ≠ 0 ∧ fromNeBytes order target4 &&& f.mask = f.dest := by tauto
        rw [if_neg skipped, if_pos taken, Best.of_keep]
        rfl

theorem foldl_routeStepV4 (table : List (List Char)) :
    table.foldl (routeStepV4 order (fromNeBytes order target4)) { plen := -1, dev := none, via := none } =
      Best.of (scan (routeV4 Readers.source order target4) TableRoute.plen table) := by
  induction table using List.reverseRecOn with
  | nil => rfl
  | append_singleton table line ih =>
      rw [List.foldl_concat, ih, routeStepV4_eq, scan_concat]

theorem prefixMatches_eq {octets dest : Buf} {plen : UInt8} (width : octets.length = 16) (destWidth : dest.length = 16)
    (small : plen ≤ 128) : prefixMatches octets dest plen = .ok (decide (SameBits plen.toNat octets dest)) := by
  have bound : plen.toNat ≤ 128 := UInt8.le_iff_toNat_le.mp small
  have whole : (plen / 8).toNat = plen.toNat / 8 := UInt8.toNat_div ..
  have rest : (plen % 8).toNat = plen.toNat % 8 := UInt8.toNat_mod ..
  have same := @sameBits_iff octets dest plen.toNat (by omega) (by omega)
  rw [prefixMatches, subslice, subslice, if_pos (by omega), if_pos (by omega), pure_bind, pure_bind, whole]
  simp only [slice, List.drop_zero, Nat.sub_zero]
  split_ifs with differ partly
  · rw [decide_eq_false fun equal => differ (same.mp equal).1]
    rfl
  · have some : 0 < plen.toNat % 8 := rest ▸ UInt8.lt_iff_toNat_lt.mp partly
    have inside : plen % 8 ≤ 8 := UInt8.le_iff_toNat_le.mpr (rest ▸ Nat.le_of_lt (Nat.mod_lt _ (by decide)))
    have masked := @and_highBits_eq (plen % 8) partly inside (byteAt octets (plen.toNat / 8)) (byteAt dest (plen.toNat / 8))
    rw [getByte, getByte, if_pos (by omega), if_pos (by omega), pure_bind, pure_bind]
    refine congrArg Except.ok (decide_eq_decide.mpr (masked.trans ?_))
    rw [same, rest]
    exact (and_iff_right (not_not.mp differ)).symm
  · have none : plen.toNat % 8 = 0 := by
      rw [← rest]
      exact Nat.eq_zero_of_not_pos fun positive => partly (UInt8.lt_iff_toNat_lt.mpr positive)
    rw [decide_eq_true (same.mpr ⟨not_not.mp differ, by simp [none]⟩)]
    rfl

theorem fieldsV6_short {readers : Readers} (short : (splitWhitespace line).length < 10) : fieldsV6 readers line = none := by
  have missing : (splitWhitespace line)[9]? = none := List.getElem?_eq_none (by omega)
  simp [fieldsV6, missing]

theorem fieldsV6_eq {readers : Readers} {s t u v dev : List Char} (first : (splitWhitespace line)[0]? = some s)
    (second : (splitWhitespace line)[1]? = some t) (fifth : (splitWhitespace line)[4]? = some u)
    (ninth : (splitWhitespace line)[8]? = some v) (tenth : (splitWhitespace line)[9]? = some dev) :
    fieldsV6 readers line = (readers.address s).bind fun dest => (readers.u8 t).bind fun plen =>
      (readers.u32 v).bind fun flags => some { dest, plen, nexthop := readers.address u, flags, dev } := by
  simp only [fieldsV6, first, second, fifth, ninth, tenth, Option.bind_eq_bind, Option.bind_some, Option.map_some]
  rfl

theorem keep_matching (best : Option TableRoute) (dest : Vector UInt8 16) (plen : UInt8) (flags : UInt32) (dev : List Char)
    (via : Option IpAddr) :
    (if flags &&& 1 = 0 ∨ plen > 128 then pure (Best.of best)
      else do
        let same ← prefixMatches (octets6 target6).toList dest.toList plen
        if (!same) = true then pure (Best.of best)
        else if (plen.toNat : Int) > (Best.of best).plen then pure { plen := plen.toNat, dev := some dev, via }
        else pure (Best.of best) : Result Best) =
      .ok (Best.of (keep TableRoute.plen best
        (if flags &&& 1 ≠ 0 ∧ plen ≤ 128 ∧ SameBits plen.toNat (octets6 target6).toList dest.toList then
          some { dev, via, plen := plen.toNat } else none))) := by
  by_cases skipped : flags &&& 1 = 0 ∨ plen > 128
  · rw [if_pos skipped, if_neg]
    · rfl
    · rintro ⟨up, small, -⟩
      exact skipped.elim up fun large => absurd small (UInt8.not_le.mpr large)
  · have small : plen ≤ 128 := UInt8.not_lt.mp fun large => skipped (.inr large)
    have up : flags &&& 1 ≠ 0 := fun down => skipped (.inl down)
    rw [if_neg skipped, prefixMatches_eq (by simp) (by simp) small, bind_ok]
    by_cases same : SameBits plen.toNat (octets6 target6).toList dest.toList
    · rw [decide_eq_true same, if_pos (show _ ∧ _ ∧ _ from ⟨up, small, same⟩), Best.of_keep]
      simp only [Bool.not_true, Bool.false_eq_true, if_false, pure_eq_ok]
      split_ifs <;> rfl
    · rw [decide_eq_false same, if_neg (show ¬(_ ∧ _ ∧ _) from fun all => same all.2.2)]
      rfl

theorem routeStepV6_eq (best : Option TableRoute) (plain : ∀ c ∈ line, c.toNat < 128) :
    routeStepV6 (octets6 target6).toList (Best.of best) line =
      .ok (Best.of (keep TableRoute.plen best (routeV6 Readers.source target6 line))) := by
  by_cases short : (splitWhitespace line).length < 10
  · rw [routeStepV6, routeV6, fieldsV6_short short]
    exact if_pos short
  · have entry {i : Nat} (inside : i < 10) : ∃ s read, (splitWhitespace line)[i]? = some s ∧ hex16 s = .ok read := by
      have here : (splitWhitespace line)[i]? = some (splitWhitespace line)[i] := List.getElem?_eq_getElem (by omega)
      have member := List.mem_of_getElem? here
      obtain ⟨read, value⟩ := hex16_plain fun c inside => plain c (mem_of_mem_splitWhitespace member c inside)
      exact ⟨_, read, here, value⟩
    obtain ⟨s, dest, first, readDest⟩ := entry (show 0 < 10 by decide)
    obtain ⟨t, -, second, -⟩ := entry (show 1 < 10 by decide)
    obtain ⟨u, nexthop, fifth, readNexthop⟩ := entry (show 4 < 10 by decide)
    obtain ⟨v, -, ninth, -⟩ := entry (show 8 < 10 by decide)
    obtain ⟨dev, -, tenth, -⟩ := entry (show 9 < 10 by decide)
    have numbers : Readers.source.u8 t = hexU8 t ∧ Readers.source.u32 v = hexU32 v := ⟨rfl, rfl⟩
    rw [routeStepV6, routeV6, fieldsV6_eq first second fifth ninth tenth, source_address readDest, source_address readNexthop,
      numbers.1, numbers.2]
    simp only [short, if_false, entryAt_some first, entryAt_some second, entryAt_some fifth, entryAt_some ninth,
      entryAt_some tenth, readDest, readNexthop, bind_ok]
    cases dest with
    | none => rfl
    | some dest =>
        cases hexU8 t with
        | none => rfl
        | some plen =>
            cases hexU32 v with
            | none => rfl
            | some flags => exact keep_matching best dest plen flags dev (gatewayV6 nexthop)

theorem foldlM_routeStepV6 {table : List (List Char)} (plain : ∀ line ∈ table, ∀ c ∈ line, c.toNat < 128) :
    table.foldlM (routeStepV6 (octets6 target6).toList) { plen := -1, dev := none, via := none } =
      .ok (Best.of (scan (routeV6 Readers.source target6) TableRoute.plen table)) := by
  induction table using List.reverseRecOn with
  | nil => rfl
  | append_singleton table line ih =>
      rw [List.foldlM_append, ih fun line member => plain line (List.mem_append_left _ member), bind_ok, List.foldlM_cons,
        routeStepV6_eq _ (plain line (by simp)), bind_ok, scan_concat]
      rfl

end Steps

section Longest

variable (sysfs : List Char → Option (List Char))

structure RouteSpec (read : List Char → Option TableRoute) (table : List (List Char)) (lookup : Lookup) : Prop where
  longest : ∀ line route, IsFirstMax read TableRoute.plen table line route →
    lookup = (some route.dev, route.via, mtuOf sysfs route.dev)
  unrouted : lookup.1 = none ↔ ∀ line ∈ table, read line = none

variable {sysfs}

theorem lookup_of_eq {best best' : Option TableRoute} :
    (Best.of best).lookup sysfs = (Best.of best').lookup sysfs ↔ best.map TableRoute.view = best'.map TableRoute.view := by
  cases best <;> cases best' <;> simp [Best.of, Best.lookup, TableRoute.view]
  grind

theorem routeSpec_iff {read : List Char → Option TableRoute} {table : List (List Char)} {best : Option TableRoute} :
    RouteSpec sysfs read table ((Best.of best).lookup sysfs) ↔
      best.map TableRoute.view = (scan read TableRoute.plen table).map TableRoute.view := by
  rw [← @lookup_of_eq sysfs]
  cases kept : scan read TableRoute.plen table with
  | none =>
      constructor
      · rintro ⟨-, unrouted⟩
        have none := unrouted.mpr (scan_eq_none.mp kept)
        cases best with
        | none => rfl
        | some route => cases none
      · intro same
        rw [same]
        refine ⟨fun line route first => ?_, iff_of_true rfl (scan_eq_none.mp kept)⟩
        rw [scan_eq_some.mpr ⟨line, first⟩] at kept
        cases kept
  | some route =>
      obtain ⟨line, first⟩ := scan_eq_some.mp kept
      constructor
      · rintro ⟨longest, -⟩
        exact longest line route first
      · intro same
        rw [same]
        refine ⟨fun line' route' first' => ?_, iff_of_false nofun fun unread => ?_⟩
        · rw [first'.unique first]
          rfl
        · rw [scan_eq_none.mpr unread] at kept
          cases kept

end Longest

section Tables

variable (order : ByteOrder) (sysfs : List Char → Option (List Char)) (target4 : Vector UInt8 4) (target6 : Vector UInt16 8)

def SettledV4 (table : List (List Char)) : Prop :=
  Settled (routeV4 Readers.hexadecimal order target4) (routeV4 Readers.source order target4) TableRoute.plen TableRoute.view table

def SettledV6 (table : List (List Char)) : Prop :=
  Settled (routeV6 Readers.hexadecimal target6) (routeV6 Readers.source target6) TableRoute.plen TableRoute.view table

structure SelectsRoutes (table4 table4' table6 table6' : List Char) : Prop where
  longest4 : RouteSpec sysfs (routeV4 Readers.hexadecimal order target4) ((lines table4).drop 1)
    (procRouteLookupV4 order sysfs (some table4) target4)
  inserted4 : procRouteLookupV4 order sysfs (some table4') target4 = procRouteLookupV4 order sysfs (some table4) target4
  longest6 : ∃ lookup, procRouteLookupV6 sysfs (some table6) target6 = .ok lookup ∧
    RouteSpec sysfs (routeV6 Readers.hexadecimal target6) (lines table6) lookup
  inserted6 : procRouteLookupV6 sysfs (some table6') target6 = procRouteLookupV6 sysfs (some table6) target6

variable {order sysfs target4 target6}

theorem procRouteLookupV4_eq (content : List Char) : procRouteLookupV4 order sysfs (some content) target4 =
    (Best.of (scan (routeV4 Readers.source order target4) TableRoute.plen ((lines content).drop 1))).lookup sysfs := by
  rw [procRouteLookupV4, foldl_routeStepV4]

theorem procRouteLookupV6_eq {content : List Char} (plain : ∀ c ∈ content, c.toNat < 128) :
    procRouteLookupV6 sysfs (some content) target6 =
      .ok ((Best.of (scan (routeV6 Readers.source target6) TableRoute.plen (lines content))).lookup sysfs) := by
  have below : ∀ line ∈ lines content, ∀ c ∈ line, c.toNat < 128 := fun line member c inside =>
    plain c (mem_of_mem_lines member c inside)
  rw [procRouteLookupV6, foldlM_routeStepV6 below]
  rfl

section Inserted

variable {content content' : List Char}

theorem lookupV4_iff (inserted : Inserted MalformedV4 ((lines content).drop 1) ((lines content').drop 1)) :
    (RouteSpec sysfs (routeV4 Readers.hexadecimal order target4) ((lines content).drop 1)
        (procRouteLookupV4 order sysfs (some content) target4) ∧
      procRouteLookupV4 order sysfs (some content') target4 = procRouteLookupV4 order sysfs (some content) target4) ↔
      SettledV4 order target4 ((lines content).drop 1) ∧ SettledV4 order target4 ((lines content').drop 1) := by
  have unread (line : List Char) (malformed : MalformedV4 line) : routeV4 Readers.hexadecimal order target4 line = none := by
    rw [routeV4, malformed]
    rfl
  rw [procRouteLookupV4_eq, procRouteLookupV4_eq, routeSpec_iff, lookup_of_eq]
  exact scan_inserted_iff (routeV4_extends source_extends) unread inserted

theorem lookupV6_iff (plain : ∀ c ∈ content, c.toNat < 128) (plain' : ∀ c ∈ content', c.toNat < 128)
    (inserted : Inserted MalformedV6 (lines content) (lines content')) :
    ((∃ lookup, procRouteLookupV6 sysfs (some content) target6 = .ok lookup ∧
        RouteSpec sysfs (routeV6 Readers.hexadecimal target6) (lines content) lookup) ∧
      procRouteLookupV6 sysfs (some content') target6 = procRouteLookupV6 sysfs (some content) target6) ↔
      SettledV6 target6 (lines content) ∧ SettledV6 target6 (lines content') := by
  have unread (line : List Char) (malformed : MalformedV6 line) : routeV6 Readers.hexadecimal target6 line = none := by
    rw [routeV6, malformed]
    rfl
  rw [procRouteLookupV6_eq plain, procRouteLookupV6_eq plain']
  simp only [Except.ok.injEq, exists_eq_left', routeSpec_iff, lookup_of_eq]
  exact scan_inserted_iff (routeV6_extends source_extends) unread inserted

end Inserted

theorem routes_iff {table4 table4' table6 table6' : List Char}
    (inserted4 : Inserted MalformedV4 ((lines table4).drop 1) ((lines table4').drop 1))
    (plain : ∀ c ∈ table6, c.toNat < 128) (plain' : ∀ c ∈ table6', c.toNat < 128)
    (inserted6 : Inserted MalformedV6 (lines table6) (lines table6')) :
    SelectsRoutes order sysfs target4 target6 table4 table4' table6 table6' ↔
      (SettledV4 order target4 ((lines table4).drop 1) ∧ SettledV4 order target4 ((lines table4').drop 1)) ∧
        SettledV6 target6 (lines table6) ∧ SettledV6 target6 (lines table6') := by
  constructor
  · rintro ⟨longest4, same4, longest6, same6⟩
    exact ⟨(lookupV4_iff inserted4).mp ⟨longest4, same4⟩, (lookupV6_iff plain plain' inserted6).mp ⟨longest6, same6⟩⟩
  · rintro ⟨settled4, settled6⟩
    obtain ⟨longest4, same4⟩ := (lookupV4_iff inserted4).mpr settled4
    obtain ⟨longest6, same6⟩ := (lookupV6_iff plain plain' inserted6).mpr settled6
    exact ⟨longest4, same4, longest6, same6⟩

end Tables

def defaultLine : List Char := "eth0 0 0 1 0 0 0 0".toList

def cutLine : List Char := "eth1 A 0 1".toList

def signedLine : List Char := "eth1 +A 0 1 0 0 0 FF".toList

def tableOf (table : List (List Char)) : List Char := ([] :: table).flatMap (· ++ ['\n'])

theorem routes_cutLine : SelectsRoutes .little (fun _ => none) #v[10, 0, 0, 1] (Vector.replicate 8 0) (tableOf [defaultLine])
    (tableOf [cutLine, defaultLine]) [] [] := by
  have table : (lines (tableOf [defaultLine])).drop 1 = [defaultLine] := by decide
  have table' : (lines (tableOf [cutLine, defaultLine])).drop 1 = [cutLine, defaultLine] := by decide
  have malformed : MalformedV4 cutLine := rfl
  have same : ∀ line ∈ [cutLine, defaultLine], routeV4 Readers.hexadecimal .little #v[10, 0, 0, 1] line =
      routeV4 Readers.source .little #v[10, 0, 0, 1] line := by decide
  refine (routes_iff ?_ (List.forall_mem_nil _) (List.forall_mem_nil _) .nil).mpr ⟨⟨?_, ?_⟩, ?_, ?_⟩
  · rw [table, table']
    exact .insert malformed (.keep defaultLine .nil)
  · rw [table]
    exact settled_of_forall fun line member => same line (List.mem_cons_of_mem cutLine member)
  · rw [table']
    exact settled_of_forall same
  · exact settled_of_forall nofun
  · exact settled_of_forall nofun

theorem routes_signedLine :
    Inserted MalformedV4 ((lines (tableOf [defaultLine])).drop 1) ((lines (tableOf [signedLine, defaultLine])).drop 1) ∧
      (procRouteLookupV4 .little (fun _ => none) (some (tableOf [defaultLine])) #v[10, 0, 0, 1]).1 = some "eth0".toList ∧
      (procRouteLookupV4 .little (fun _ => none) (some (tableOf [signedLine, defaultLine])) #v[10, 0, 0, 1]).1 =
        some "eth1".toList ∧
      ¬SelectsRoutes .little (fun _ => none) #v[10, 0, 0, 1] (Vector.replicate 8 0) (tableOf [defaultLine])
        (tableOf [signedLine, defaultLine]) [] [] := by
  have table : (lines (tableOf [defaultLine])).drop 1 = [defaultLine] := by decide
  have table' : (lines (tableOf [signedLine, defaultLine])).drop 1 = [signedLine, defaultLine] := by decide
  have malformed : MalformedV4 signedLine := rfl
  have device : (procRouteLookupV4 .little (fun _ => none) (some (tableOf [defaultLine])) #v[10, 0, 0, 1]).1 =
      some "eth0".toList := by decide
  have device' : (procRouteLookupV4 .little (fun _ => none) (some (tableOf [signedLine, defaultLine])) #v[10, 0, 0, 1]).1 =
      some "eth1".toList := by decide
  refine ⟨?_, device, device', fun selects => ?_⟩
  · rw [table, table']
    exact .insert malformed (.keep defaultLine .nil)
  · have same := congrArg Prod.fst selects.inserted4
    rw [device, device'] at same
    exact absurd same (by decide)

end Gutd.Bpf
