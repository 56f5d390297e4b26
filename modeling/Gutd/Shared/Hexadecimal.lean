import Gutd.Shared.Numerals

set_option autoImplicit false

namespace Str

open Bytes Checked

def fromHex (max : Nat) (s : List Char) : Option Nat := (parseUnsigned 16 max (utf8 s)).toOption

def hexU8 (s : List Char) : Option UInt8 := (fromHex 255 s).map UInt8.ofNat

def hexU32 (s : List Char) : Option UInt32 := (fromHex 4294967295 s).map UInt32.ofNat

def IsHexDigit (c : Char) : Prop := ('0' ≤ c ∧ c ≤ '9') ∨ ('a' ≤ c ∧ c ≤ 'f') ∨ ('A' ≤ c ∧ c ≤ 'F')

instance (c : Char) : Decidable (IsHexDigit c) := inferInstanceAs (Decidable (_ ∨ _))

-- unlike `fromHex`, without a sign
def hexNumber (max : Nat) (s : List Char) : Option Nat :=
  if s ≠ [] ∧ (∀ c ∈ s, IsHexDigit c) ∧ positional 16 (utf8 s) ≤ max then some (positional 16 (utf8 s)) else none

-- what the number reader takes for a byte: two digits, or a plus sign and one digit
def pairValue (x y : UInt8) : Option Nat :=
  (digitValue 16 y).bind fun low => if x = 0x2B then some low else (digitValue 16 x).map fun high => high * 16 + low

theorem digitValue_lt {radix d : Nat} {b : UInt8} (value : digitValue radix b = some d) : d < radix := by
  simp only [digitValue, Option.ite_none_right_eq_some, Option.some.injEq] at value
  exact value.2 ▸ value.1

theorem parseUnsigned_pair (x y : UInt8) {n : Nat} : parseUnsigned 16 255 [x, y] = .ok n ↔ pairValue x y = some n := by
  have plus : ascii "+" = [0x2B] := by decide
  have minus : ascii "-" = [0x2D] := by decide
  have start (z : UInt8) : parseStep 16 255 0 z = (digitValue 16 z).elim (.error .invalidDigit) .ok := by
    rw [parseStep]
    cases value : digitValue 16 z with
    | none => rfl
    | some d =>
        have small := digitValue_lt value
        simp only [Nat.zero_mul, Nat.zero_add]
        exact if_pos (by omega)
  rw [parseUnsigned, plus, minus, if_neg (by simp), if_neg (by simp), pairValue]
  by_cases signed : x = 0x2B
  · subst signed
    simp only [List.head?_cons, if_true, List.tail_cons, List.foldlM_cons, List.foldlM_nil, bind_pure, start]
    cases digitValue 16 y <;> simp
  · simp only [List.head?_cons, Option.some.injEq, signed, if_false, List.foldlM_cons, List.foldlM_nil, bind_pure, start]
    cases high : digitValue 16 x with
    | none => cases digitValue 16 y <;> simp
    | some h =>
        rw [Option.elim_some, bind_ok, parseStep]
        cases low : digitValue 16 y with
        | none => simp
        | some l =>
            have := digitValue_lt high
            have := digitValue_lt low
            simp only [Option.bind_some, Option.map_some]
            rw [if_pos (by omega)]
            simp

theorem plain_of_digit {b : UInt8} : (digitValue 16 b).isSome → b < 128 := by
  have all : ∀ b : UInt8, (digitValue 16 b).isSome → b < 128 := forall_byte (by decide)
  exact all b

theorem isCharBoundary_of_plain {bytes : Buf} {i : Nat} (inside : i < bytes.length) (plain : byteAt bytes i < 128) :
    isCharBoundary bytes i = true := by
  simp [isCharBoundary, inside, plain]

theorem slice_pair {bytes : Buf} {i : Nat} (inside : i * 2 + 2 ≤ bytes.length) :
    slice bytes (i * 2) (i * 2 + 2) = [byteAt bytes (i * 2), byteAt bytes (i * 2 + 1)] := by
  have two := map_byteAt bytes (i * 2) 2 inside
  simpa [List.range_succ] using two.symm

theorem parseUnsigned_digits {bytes : Buf} (valid : ∀ b ∈ bytes, (digitValue 16 b).isSome) {i : Nat}
    (inside : i * 2 + 2 ≤ bytes.length) :
    parseUnsigned 16 255 (slice bytes (i * 2) (i * 2 + 2)) = .ok (positional 16 (slice bytes (i * 2) (i * 2 + 2))) := by
  have digit {k : Nat} (within : k < bytes.length) : ∃ d, digitValue 16 (byteAt bytes k) = some d := by
    rw [byteAt_eq_getElem _ _ within]
    exact Option.isSome_iff_exists.mp (valid _ (List.getElem_mem within))
  obtain ⟨high, first⟩ := digit (show i * 2 < bytes.length by omega)
  obtain ⟨low, second⟩ := digit (show i * 2 + 1 < bytes.length by omega)
  have unsigned : byteAt bytes (i * 2) ≠ 0x2B := by
    intro sign
    rw [sign, digitValue_sign.1] at first
    cases first
  rw [slice_pair inside, parseUnsigned_pair, pairValue, second, Option.bind_some, if_neg unsigned, first, Option.map_some]
  simp [positional, positionalStep, first, second]

theorem hexDigit_table {c : Char} (plain : c.toNat < 128) :
    (IsHexDigit c ↔ (digitValue 16 (UInt8.ofNat c.toNat)).isSome) ∧
      ∀ d ∈ digitValue 16 (UInt8.ofNat c.toNat), Nat.digitChar d = c.toLower := by
  have all : ∀ n : Fin 128, (IsHexDigit (Char.ofNat n) ↔ (digitValue 16 (UInt8.ofNat (Char.ofNat n).toNat)).isSome) ∧
      ∀ d ∈ digitValue 16 (UInt8.ofNat (Char.ofNat n).toNat), Nat.digitChar d = (Char.ofNat n).toLower := by decide
  have here := all ⟨c.toNat, plain⟩
  rwa [Char.ofNat_toNat] at here

theorem plain_of_isHexDigit {c : Char} (digit : IsHexDigit c) : c.toNat < 128 := by
  have order (a b : Char) (le : a ≤ b) : a.toNat ≤ b.toNat := le
  have ends : '9'.toNat = 57 ∧ 'f'.toNat = 102 ∧ 'F'.toNat = 70 := by decide
  rcases digit with ⟨-, last⟩ | ⟨-, last⟩ | ⟨-, last⟩
  all_goals
    have bound := order _ _ last
    omega

theorem utf8_hex {s : List Char} (digits : ∀ c ∈ s, IsHexDigit c) : utf8 s = s.map fun c => UInt8.ofNat c.toNat :=
  utf8_plain fun c member => plain_of_isHexDigit (digits c member)

theorem digitValue_hex {s : List Char} (digits : ∀ c ∈ s, IsHexDigit c) : ∀ b ∈ utf8 s, (digitValue 16 b).isSome := by
  rw [utf8_hex digits]
  intro b member
  obtain ⟨c, inside, rfl⟩ := List.mem_map.mp member
  exact (hexDigit_table (plain_of_isHexDigit (digits c inside))).1.mp (digits c inside)

theorem fromHex_of_hexNumber {s : List Char} {max n : Nat} (value : hexNumber max s = some n) : fromHex max s = some n := by
  obtain ⟨⟨some, digits, small⟩, ⟨⟩⟩ := (Option.ite_none_right_eq_some ..).mp value
  have written : utf8 s ≠ [] := by
    rw [utf8_hex digits]
    exact fun none => some (List.map_eq_nil_iff.mp none)
  have numeral : Numeral 16 (utf8 s) (positional 16 (utf8 s)) := ⟨written, digitValue_hex digits, rfl⟩
  rw [fromHex, (parseUnsigned_eq_ok (by decide)).mpr ⟨utf8 s, .inl rfl, numeral, small⟩]
  rfl

end Str
