import Gutd.Config.Validity
import Gutd.Shared.Hexadecimal
import Mathlib.Data.List.Forall2
import Mathlib.Data.Nat.Find

set_option autoImplicit false

namespace Gutd

open Bytes Checked Str

-- `{b:02x}`
def hexByte (b : UInt8) : List Char := [Nat.digitChar (b.toNat / 16), Nat.digitChar (b.toNat % 16)]

def keyToHex (key : Vector UInt8 32) : List Char := key.toList.flatMap hexByte

def ReadablePair (bytes : Buf) (i : Nat) : Prop := (pairValue (byteAt bytes (i * 2)) (byteAt bytes (i * 2 + 1))).isSome

theorem plain_of_readable {bytes : Buf} {i : Nat} (readable : ReadablePair bytes i) :
    byteAt bytes (i * 2) < 128 ∧ byteAt bytes (i * 2 + 1) < 128 := by
  obtain ⟨n, value⟩ := Option.isSome_iff_exists.mp readable
  obtain ⟨low, second, value⟩ := Option.bind_eq_some_iff.mp value
  refine ⟨?_, plain_of_digit (Option.isSome_of_mem second)⟩
  split_ifs at value with signed
  · rw [signed]
    decide
  · obtain ⟨high, first, -⟩ := Option.map_eq_some_iff.mp value
    exact plain_of_digit (Option.isSome_of_mem first)

section Pairs

variable {bytes : Buf} {i : Nat}

theorem parseHexByte_eq_ok (inside : i * 2 + 2 ≤ bytes.length) {b : UInt8} :
    parseHexByte bytes i = .ok b ↔ (isCharBoundary bytes (i * 2) = true ∧ isCharBoundary bytes (i * 2 + 2) = true) ∧
      ∃ n, pairValue (byteAt bytes (i * 2)) (byteAt bytes (i * 2 + 1)) = some n ∧ UInt8.ofNat n = b := by
  rw [parseHexByte, strSlice]
  simp only [Bool.and_eq_true]
  split_ifs with whole
  · rw [pure_bind, slice_pair inside]
    simp only [← parseUnsigned_pair, whole, and_self, true_and, bind_eq_ok, pure_eq_ok, Except.ok.injEq]
    cases parseUnsigned 16 255 [byteAt bytes (i * 2), byteAt bytes (i * 2 + 1)] <;> simp [orMessage, reject]
  · simp [whole]

theorem parseHexByte_panicked :
    (∃ panic, parseHexByte bytes i = .error (.panicked panic)) ↔
      ¬(isCharBoundary bytes (i * 2) = true ∧ isCharBoundary bytes (i * 2 + 2) = true) := by
  rw [parseHexByte, strSlice]
  simp only [Bool.and_eq_true]
  split_ifs with whole
  · rw [pure_bind]
    cases parseUnsigned 16 255 (slice bytes (i * 2) (i * 2 + 2)) <;> simp [orMessage, reject, whole]
  · simp [whole]

end Pairs

section Key

variable {s : List Char}

theorem boundaries_of_readable {bytes : Buf} (width : bytes.length = 64) {i : Nat} (here : i < 32)
    (readable : ∀ j < 32, ReadablePair bytes j) :
    isCharBoundary bytes (i * 2) = true ∧ isCharBoundary bytes (i * 2 + 2) = true := by
  refine ⟨isCharBoundary_of_plain (by omega) (plain_of_readable (readable i here)).1, ?_⟩
  by_cases last : i = 31
  · subst last
    simp [isCharBoundary, width]
  · have next := (plain_of_readable (readable (i + 1) (by omega))).1
    rw [show (i + 1) * 2 = i * 2 + 2 by omega] at next
    exact isCharBoundary_of_plain (by omega) next

theorem parseHexKey_eq_ok {key : Vector UInt8 32} :
    parseHexKey s = .ok key ↔ (utf8 s).length = 64 ∧
      ∀ i (inside : i < 32), ∃ n, pairValue (byteAt (utf8 s) (i * 2)) (byteAt (utf8 s) (i * 2 + 1)) = some n ∧
        UInt8.ofNat n = key[i] := by
  rw [parseHexKey, rejectIf_bind_eq_ok, not_not]
  refine and_congr_right fun width => ?_
  simp only [bind_eq_ok, pure_eq_ok, Except.ok.injEq, mapM_eq_ok, List.forall₂_iff_get]
  constructor
  · rintro ⟨values, ⟨length, each⟩, rfl⟩ i inside
    have value := each i (by simpa using inside) (by simpa using length ▸ inside)
    simp only [List.get_eq_getElem, List.getElem_range] at value
    obtain ⟨n, read, same⟩ := ((parseHexByte_eq_ok (by omega)).mp value).2
    refine ⟨n, read, ?_⟩
    rw [same, keyBytes, Vector.getElem_ofFn, byteAt_eq_getElem]
  · intro read
    have readable : ∀ j < 32, ReadablePair (utf8 s) j := fun j inside => by
      obtain ⟨n, value, -⟩ := read j inside
      exact Option.isSome_iff_exists.mpr ⟨n, value⟩
    refine ⟨key.toList, ⟨by simp, fun i inside _ => ?_⟩, ?_⟩
    · have inside : i < 32 := by simpa using inside
      simp only [List.get_eq_getElem, List.getElem_range, Vector.getElem_toList]
      exact (parseHexByte_eq_ok (by omega)).mpr ⟨boundaries_of_readable width inside readable, read i inside⟩
    · apply Vector.ext
      intro i inside
      rw [keyBytes, Vector.getElem_ofFn, byteAt_eq_getElem _ _ (by simpa using inside), Vector.getElem_toList]

-- the first pair that is not read decides how the loop ends
theorem parseHexKey_panicked :
    (∃ panic, parseHexKey s = .error (.panicked panic)) ↔ (utf8 s).length = 64 ∧
      ∃ i < 32, (∀ j < i, ReadablePair (utf8 s) j) ∧ ¬isCharBoundary (utf8 s) (i * 2 + 2) = true := by
  rw [parseHexKey]
  constructor
  · rintro ⟨panic, failed⟩
    rcases bind_eq_error.mp failed with short | ⟨_, width, failed⟩
    · cases (rejectIf_eq_error.mp short).2
    · have width : (utf8 s).length = 64 := not_not.mp (rejectIf_eq_ok.mp width)
      rcases bind_eq_error.mp failed with loop | ⟨_, -, done⟩
      · obtain ⟨i, inside, fine, here⟩ := mapM_range_eq_error.mp loop
        have earlier (j : Nat) (before : j < i) := (fine j before).imp fun b read => (parseHexByte_eq_ok (by omega)).mp read
        have starts : isCharBoundary (utf8 s) (i * 2) = true := by
          cases i with
          | zero => rfl
          | succ j =>
              obtain ⟨b, whole, -⟩ := earlier j (Nat.lt_succ_self j)
              rw [Nat.succ_mul]
              exact whole.2
        refine ⟨width, i, inside, fun j before => ?_, fun ends => parseHexByte_panicked.mp ⟨panic, here⟩ ⟨starts, ends⟩⟩
        obtain ⟨b, -, n, value, -⟩ := earlier j before
        exact Option.isSome_iff_exists.mpr ⟨n, value⟩
      · cases done
  · classical
    rintro ⟨width, cut⟩
    obtain ⟨inside, readable, across⟩ := Nat.find_spec cut
    have uncut (j : Nat) (before : j < Nat.find cut) : isCharBoundary (utf8 s) (j * 2 + 2) = true := by
      by_contra ends
      exact Nat.find_min cut before ⟨by omega, fun k earlier => readable k (by omega), ends⟩
    generalize Nat.find cut = i at *
    obtain ⟨panic, here⟩ := parseHexByte_panicked.mpr fun whole => across whole.2
    refine ⟨panic, bind_eq_error.mpr (.inr ⟨(), rejectIf_ok (not_not.mpr width), bind_eq_error.mpr (.inl ?_)⟩)⟩
    refine mapM_range_eq_error.mpr ⟨i, inside, fun j before => ?_, here⟩
    obtain ⟨n, value⟩ := Option.isSome_iff_exists.mp (readable j before)
    refine ⟨_, (parseHexByte_eq_ok (by omega)).mpr ⟨⟨?_, uncut j before⟩, n, value, rfl⟩⟩
    exact isCharBoundary_of_plain (by omega) (plain_of_readable (readable j before)).1

end Key

theorem digitChar_hex {d : Nat} (small : d < 16) : IsHexDigit (Nat.digitChar d) ∧ (Nat.digitChar d).toLower = Nat.digitChar d := by
  have all : ∀ d < 16, IsHexDigit (Nat.digitChar d) ∧ (Nat.digitChar d).toLower = Nat.digitChar d := by decide
  exact all d small

theorem digitChar_inj {d d' : Nat} (small : d < 16) (small' : d' < 16) (same : Nat.digitChar d = Nat.digitChar d') : d = d' := by
  have all : ∀ d < 16, ∀ d' < 16, Nat.digitChar d = Nat.digitChar d' → d = d' := by decide
  exact all d small d' small' same

section Hex

variable (key : Vector UInt8 32)

theorem getElem?_hexBytes (bytes : Buf) (i : Nat) :
    (bytes.flatMap hexByte)[i * 2]? = (bytes[i]?).map (fun b => Nat.digitChar (b.toNat / 16)) ∧
      (bytes.flatMap hexByte)[i * 2 + 1]? = (bytes[i]?).map (fun b => Nat.digitChar (b.toNat % 16)) := by
  induction bytes generalizing i with
  | nil => simp
  | cons b bytes ih =>
      cases i with
      | zero => exact ⟨rfl, rfl⟩
      | succ i =>
          rw [Nat.succ_mul]
          exact ih i

@[simp] theorem length_keyToHex : (keyToHex key).length = 64 := by
  simp [keyToHex, hexByte]

theorem mem_keyToHex {c : Char} (member : c ∈ keyToHex key) : IsHexDigit c ∧ c.toLower = c := by
  obtain ⟨b, -, digit⟩ := List.mem_flatMap.mp member
  have small := b.toNat_lt
  rcases List.mem_pair.mp digit with rfl | rfl
  · exact digitChar_hex (by omega)
  · exact digitChar_hex (by omega)

theorem getElem_keyToHex {i : Nat} (inside : i < 32) :
    (keyToHex key)[i * 2]? = some (Nat.digitChar (key[i].toNat / 16)) ∧
      (keyToHex key)[i * 2 + 1]? = some (Nat.digitChar (key[i].toNat % 16)) := by
  have digits := getElem?_hexBytes key.toList i
  have entry : key.toList[i]? = some key[i] := by
    rw [List.getElem?_eq_getElem (by simpa using inside), Vector.getElem_toList]
  rwa [entry] at digits

theorem keyToHex_injective : Function.Injective keyToHex := by
  intro key key' same
  apply Vector.ext
  intro i inside
  obtain ⟨high, low⟩ := getElem_keyToHex key inside
  obtain ⟨high', low'⟩ := getElem_keyToHex key' inside
  rw [same, high', Option.some.injEq] at high
  rw [same, low', Option.some.injEq] at low
  have small := key[i].toNat_lt
  have small' := key'[i].toNat_lt
  have upper := digitChar_inj (by omega) (by omega) high
  have lower := digitChar_inj (by omega) (by omega) low
  apply UInt8.toNat_inj.mp
  omega

end Hex

structure HexKeySpec (s : List Char) : Prop where
  returns : ∀ panic, parseHexKey s ≠ .error (.panicked panic)
  accepts : (∃ key, parseHexKey s = .ok key) ↔ s.length = 64 ∧ ∀ c ∈ s, IsHexDigit c
  prints : ∀ key, parseHexKey s = .ok key → keyToHex key = s.map Char.toLower

-- for 64 bytes: no character lies across the end of a pair behind readable pairs, and no sign stands in readable ones
structure PlainPairs (bytes : Buf) : Prop where
  uncut : ∀ i < 32, (∀ j < i, ReadablePair bytes j) → isCharBoundary bytes (i * 2 + 2) = true
  unsigned : (∀ j < 32, ReadablePair bytes j) → 0x2B ∉ bytes

theorem byteAt_hex {s : List Char} (digits : ∀ c ∈ s, IsHexDigit c) {i : Nat} {c : Char} (here : s[i]? = some c) :
    ∃ d, d < 16 ∧ digitValue 16 (byteAt (utf8 s) i) = some d ∧ Nat.digitChar d = c.toLower ∧ byteAt (utf8 s) i ≠ 0x2B := by
  have digit := digits c (List.mem_of_getElem? here)
  have plain := plain_of_isHexDigit digit
  have entry : byteAt (utf8 s) i = UInt8.ofNat c.toNat := by
    rw [utf8_hex digits, byteAt, List.getD_eq_getElem?_getD, List.getElem?_map, here]
    rfl
  obtain ⟨d, value⟩ := Option.isSome_iff_exists.mp ((hexDigit_table plain).1.mp digit)
  rw [entry]
  refine ⟨d, digitValue_lt value, value, (hexDigit_table plain).2 d value, fun sign => ?_⟩
  rw [sign, digitValue_sign.1] at value
  cases value

theorem pairValue_hex {s : List Char} (digits : ∀ c ∈ s, IsHexDigit c) {i : Nat} (inside : i * 2 + 1 < s.length) :
    ∃ n, pairValue (byteAt (utf8 s) (i * 2)) (byteAt (utf8 s) (i * 2 + 1)) = some n ∧ n < 256 ∧
      s[i * 2]?.map Char.toLower = some (Nat.digitChar (n / 16)) ∧ s[i * 2 + 1]?.map Char.toLower = some (Nat.digitChar (n % 16)) := by
  have first : s[i * 2]? = some s[i * 2] := List.getElem?_eq_getElem (by omega)
  have second : s[i * 2 + 1]? = some s[i * 2 + 1] := List.getElem?_eq_getElem (by omega)
  obtain ⟨high, small, value, upper, unsigned⟩ := byteAt_hex digits first
  obtain ⟨low, small', value', lower, -⟩ := byteAt_hex digits second
  refine ⟨high * 16 + low, ?_, by omega, ?_, ?_⟩
  · rw [pairValue, value', Option.bind_some, if_neg unsigned, value, Option.map_some]
  · rw [first, Option.map_some, ← upper, show (high * 16 + low) / 16 = high by omega]
  · rw [second, Option.map_some, ← lower, show (high * 16 + low) % 16 = low by omega]

theorem parseHexKey_hex {s : List Char} (width : s.length = 64) (digits : ∀ c ∈ s, IsHexDigit c) :
    ∃ key, parseHexKey s = .ok key ∧ keyToHex key = s.map Char.toLower := by
  choose n value small high low using fun (i : Fin 32) => @pairValue_hex _ digits i.val (by omega)
  have accepted : parseHexKey s = .ok (Vector.ofFn fun i => UInt8.ofNat (n i)) := by
    refine parseHexKey_eq_ok.mpr ⟨?_, fun i inside => ⟨n ⟨i, inside⟩, value ⟨i, inside⟩, ?_⟩⟩
    · rw [utf8_hex digits, List.length_map, width]
    · rw [Vector.getElem_ofFn]
  refine ⟨_, accepted, List.ext_getElem? fun k => ?_⟩
  by_cases inside : k < 64
  · obtain ⟨upper, lower⟩ := getElem_keyToHex (Vector.ofFn fun i => UInt8.ofNat (n i)) (show k / 2 < 32 by omega)
    have byte := small ⟨k / 2, by omega⟩
    rw [Vector.getElem_ofFn, UInt8.toNat_ofNat', Nat.mod_eq_of_lt byte] at upper lower
    rw [List.getElem?_map]
    rcases Nat.mod_two_eq_zero_or_one k with even | odd
    · rw [show k = k / 2 * 2 by omega, upper, high ⟨k / 2, by omega⟩]
    · rw [show k = k / 2 * 2 + 1 by omega, lower, low ⟨k / 2, by omega⟩]
  · rw [List.getElem?_eq_none (by simpa using inside), List.getElem?_eq_none (by simpa [width] using inside)]

theorem digits_of_readable {bytes : Buf} (width : bytes.length = 64) (readable : ∀ j < 32, ReadablePair bytes j)
    (unsigned : 0x2B ∉ bytes) : ∀ b ∈ bytes, (digitValue 16 b).isSome := by
  intro b member
  obtain ⟨k, inside, rfl⟩ := List.getElem_of_mem member
  obtain ⟨n, value⟩ := Option.isSome_iff_exists.mp (readable (k / 2) (by omega))
  obtain ⟨low, second, value⟩ := Option.bind_eq_some_iff.mp value
  have first : byteAt bytes (k / 2 * 2) ≠ 0x2B := by
    rw [byteAt_eq_getElem _ _ (by omega)]
    exact fun sign => unsigned (sign ▸ List.getElem_mem _)
  rw [if_neg first] at value
  obtain ⟨high, first, -⟩ := Option.map_eq_some_iff.mp value
  rw [← byteAt_eq_getElem]
  rcases Nat.mod_two_eq_zero_or_one k with even | odd
  · rw [show k = k / 2 * 2 by omega, first]
    rfl
  · rw [show k = k / 2 * 2 + 1 by omega, second]
    rfl

theorem hex_of_readable {s : List Char} (width : (utf8 s).length = 64) (readable : ∀ j < 32, ReadablePair (utf8 s) j)
    (unsigned : 0x2B ∉ utf8 s) : s.length = 64 ∧ ∀ c ∈ s, IsHexDigit c := by
  have digits := digits_of_readable width readable unsigned
  have plain := plain_of_utf8 fun b member => plain_of_digit (digits b member)
  have bytes := utf8_plain plain
  refine ⟨by rwa [bytes, List.length_map] at width, fun c member => (hexDigit_table (plain c member)).1.mpr ?_⟩
  refine digits _ ?_
  rw [bytes]
  exact List.mem_map_of_mem member

theorem parseHexKey_keyToHex (key : Vector UInt8 32) : parseHexKey (keyToHex key) = .ok key := by
  obtain ⟨key', accepted, printed⟩ := parseHexKey_hex (length_keyToHex key) fun c member => (mem_keyToHex key member).1
  have lower : (keyToHex key).map Char.toLower = keyToHex key :=
    (List.map_congr_left fun c member => (mem_keyToHex key member).2).trans (List.map_id _)
  rwa [keyToHex_injective (printed.trans lower)] at accepted

theorem readable_of_accepted {s : List Char} {key : Vector UInt8 32} (accepted : parseHexKey s = .ok key) :
    (utf8 s).length = 64 ∧ ∀ j < 32, ReadablePair (utf8 s) j := by
  obtain ⟨width, read⟩ := parseHexKey_eq_ok.mp accepted
  refine ⟨width, fun j inside => ?_⟩
  obtain ⟨n, value, -⟩ := read j inside
  exact Option.isSome_iff_exists.mpr ⟨n, value⟩

theorem accepted_of_readable {s : List Char} (width : (utf8 s).length = 64) (readable : ∀ j < 32, ReadablePair (utf8 s) j) :
    ∃ key, parseHexKey s = .ok key := by
  choose n value using fun (i : Fin 32) => Option.isSome_iff_exists.mp (readable i i.isLt)
  refine ⟨Vector.ofFn fun i => UInt8.ofNat (n i), parseHexKey_eq_ok.mpr ⟨width, fun i inside => ?_⟩⟩
  exact ⟨n ⟨i, inside⟩, value ⟨i, inside⟩, by rw [Vector.getElem_ofFn]⟩

theorem hexKeySpec_iff (key : Vector UInt8 32) (s : List Char) :
    parseHexKey (keyToHex key) = .ok key ∧ (HexKeySpec s ↔ ((utf8 s).length = 64 → PlainPairs (utf8 s))) := by
  refine ⟨parseHexKey_keyToHex key, ⟨fun spec width => ⟨fun i inside readable => ?_, fun readable sign => ?_⟩, fun plain => ?_⟩⟩
  · by_contra across
    obtain ⟨panic, failed⟩ := parseHexKey_panicked.mpr ⟨width, i, inside, readable, across⟩
    exact spec.returns panic failed
  · obtain ⟨-, digits⟩ := spec.accepts.mp (accepted_of_readable width readable)
    obtain ⟨i, inside, here⟩ := List.getElem_of_mem sign
    have within : i < s.length := by rwa [utf8_hex digits, List.length_map] at inside
    obtain ⟨d, -, -, -, unsigned⟩ := byteAt_hex digits (List.getElem?_eq_getElem within)
    rw [byteAt_eq_getElem _ _ inside] at unsigned
    exact unsigned here
  · have exact {key : Vector UInt8 32} (accepted : parseHexKey s = .ok key) : s.length = 64 ∧ ∀ c ∈ s, IsHexDigit c := by
      obtain ⟨width, readable⟩ := readable_of_accepted accepted
      exact hex_of_readable width readable ((plain width).unsigned readable)
    constructor
    · intro panic failed
      obtain ⟨width, i, inside, readable, across⟩ := parseHexKey_panicked.mp ⟨panic, failed⟩
      exact across ((plain width).uncut i inside readable)
    · constructor
      · rintro ⟨key, accepted⟩
        exact exact accepted
      · rintro ⟨width, digits⟩
        obtain ⟨key, accepted, -⟩ := parseHexKey_hex width digits
        exact ⟨key, accepted⟩
    · intro key accepted
      obtain ⟨width, digits⟩ := exact accepted
      obtain ⟨key', accepted', printed⟩ := parseHexKey_hex width digits
      rw [accepted] at accepted'
      cases accepted'
      exact printed

-- `+0` is read as a zero byte, and the euro sign takes the bytes 1 to 3
theorem hexKeySpec_violated :
    (parseHexKey ((List.replicate 32 ['+', '0']).flatten) = .ok (Vector.replicate 32 0) ∧
        ¬HexKeySpec ((List.replicate 32 ['+', '0']).flatten)) ∧
      parseHexKey ('0' :: '€' :: List.replicate 60 '0') = .error (.panicked .outOfBounds) := by
  have accepted : parseHexKey ((List.replicate 32 ['+', '0']).flatten) = .ok (Vector.replicate 32 0) := by rfl
  refine ⟨⟨accepted, fun spec => ?_⟩, rfl⟩
  have digits := (spec.accepts.mp ⟨_, accepted⟩).2 '+' (by decide)
  exact absurd digits (by decide)

end Gutd
