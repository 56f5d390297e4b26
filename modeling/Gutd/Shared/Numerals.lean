import Gutd.Shared.Digits
import Gutd.Shared.Str

set_option autoImplicit false

namespace Str

open Bytes

def positionalStep (radix value : Nat) (b : UInt8) : Nat := value * radix + (digitValue radix b).getD 0

def positional (radix : Nat) (digits : Buf) : Nat := digits.foldl (positionalStep radix) 0

structure Numeral (radix : Nat) (digits : Buf) (n : Nat) : Prop where
  some : digits ≠ []
  valid : ∀ b ∈ digits, (digitValue radix b).isSome
  value : positional radix digits = n

variable {radix max v n : Nat}

theorem le_foldl_positionalStep (positive : 0 < radix) (digits : Buf) : v ≤ digits.foldl (positionalStep radix) v := by
  induction digits generalizing v with
  | nil => exact Nat.le_refl v
  | cons b digits ih =>
      have grows : v ≤ positionalStep radix v b := Nat.le_trans (Nat.le_mul_of_pos_right v positive) (Nat.le_add_right _ _)
      exact Nat.le_trans grows ih

-- the value only grows, so that checking it after each digit is checking the last one
theorem foldlM_parseStep_eq_ok (positive : 0 < radix) (within : v ≤ max) (digits : Buf) :
    digits.foldlM (parseStep radix max) v = .ok n ↔
      (∀ b ∈ digits, (digitValue radix b).isSome) ∧ digits.foldl (positionalStep radix) v = n ∧ n ≤ max := by
  induction digits generalizing v with
  | nil =>
      constructor
      · rintro ⟨⟩
        exact ⟨nofun, rfl, within⟩
      · rintro ⟨-, rfl, -⟩
        rfl
  | cons b digits ih =>
      rw [List.foldlM_cons, List.foldl_cons, List.forall_mem_cons, parseStep]
      cases known : digitValue radix b with
      | none => simp
      | some digit =>
          have next : positionalStep radix v b = v * radix + digit := by rw [positionalStep, known, Option.getD_some]
          dsimp only
          rw [next]
          split_ifs with fits
          · rw [Checked.bind_ok, ih fits]
            simp
          · have larger := @le_foldl_positionalStep _ (v * radix + digit) positive digits
            simp only [Checked.bind_error, reduceCtorEq, false_iff]
            rintro ⟨-, rfl, small⟩
            exact fits (Nat.le_trans larger small)

theorem digitValue_sign : digitValue radix 0x2B = none ∧ digitValue radix 0x2D = none := by
  simp [digitValue]

theorem Numeral.not_signed {digits : Buf} (numeral : Numeral radix digits n) : 0x2B ∉ digits ∧ 0x2D ∉ digits := by
  constructor
  · intro member
    have valid := numeral.valid _ member
    simp [digitValue_sign.1] at valid
  · intro member
    have valid := numeral.valid _ member
    simp [digitValue_sign.2] at valid

theorem parseUnsigned_eq_ok (positive : 0 < radix) {text : Buf} :
    parseUnsigned radix max text = .ok n ↔
      ∃ digits, (text = digits ∨ text = 0x2B :: digits) ∧ Numeral radix digits n ∧ n ≤ max := by
  have plus : ascii "+" = [0x2B] := by decide
  have minus : ascii "-" = [0x2D] := by decide
  have read {digits : Buf} (some : digits ≠ []) :
      digits.foldlM (parseStep radix max) 0 = .ok n ↔ Numeral radix digits n ∧ n ≤ max := by
    rw [foldlM_parseStep_eq_ok positive (Nat.zero_le max)]
    exact ⟨fun ⟨valid, value, small⟩ => ⟨⟨some, valid, value⟩, small⟩, fun ⟨⟨_, valid, value⟩, small⟩ => ⟨valid, value, small⟩⟩
  rw [parseUnsigned, plus, minus]
  split_ifs with empty sign signed
  · subst empty
    simp only [reduceCtorEq, false_iff]
    rintro ⟨digits, rfl | same, numeral, -⟩
    · exact numeral.some rfl
    · cases same
  · simp only [false_iff]
    rintro ⟨digits, spelled, numeral, -⟩
    have unsigned := numeral.not_signed
    rcases sign with rfl | rfl <;> rcases spelled with rfl | same
    · exact unsigned.1 List.mem_cons_self
    · exact numeral.some (List.cons.inj same).2.symm
    · exact unsigned.2 List.mem_cons_self
    · cases (List.cons.inj same).1
  · obtain ⟨digits, rfl⟩ : ∃ digits, text = 0x2B :: digits := by
      cases text with
      | nil => cases signed
      | cons b digits => exact ⟨digits, by rw [Option.some.inj signed]⟩
    have some : digits ≠ [] := fun none => sign (.inl (by rw [none]))
    rw [List.tail_cons, read some]
    constructor
    · exact fun spelled => ⟨digits, .inr rfl, spelled⟩
    · rintro ⟨digits', rfl | same, numeral, small⟩
      · exact absurd List.mem_cons_self numeral.not_signed.1
      · cases same
        exact ⟨numeral, small⟩
  · rw [read empty]
    constructor
    · exact fun spelled => ⟨text, .inl rfl, spelled⟩
    · rintro ⟨digits, rfl | rfl, spelled⟩
      · exact spelled
      · exact absurd rfl signed

theorem utf8_cons (c : Char) (s : List Char) : utf8 (c :: s) = String.utf8EncodeChar c ++ utf8 s := rfl

theorem utf8EncodeChar_plain {c : Char} (plain : c.toNat < 128) : String.utf8EncodeChar c = [UInt8.ofNat c.toNat] := by
  have small : c.val.toNat ≤ 0x7F := Nat.le_of_lt_succ plain
  rw [String.utf8EncodeChar]
  exact if_pos small

theorem utf8_plain {s : List Char} (plain : ∀ c ∈ s, c.toNat < 128) : utf8 s = s.map fun c => UInt8.ofNat c.toNat := by
  induction s with
  | nil => rfl
  | cons c s ih =>
      rw [utf8_cons, utf8EncodeChar_plain (plain c List.mem_cons_self), ih fun d member => plain d (List.mem_cons_of_mem _ member)]
      rfl

theorem utf8EncodeChar_high {c : Char} (high : ¬c.toNat < 128) : ∀ b ∈ String.utf8EncodeChar c, ¬b < 128 := by
  have past : ¬c.val.toNat ≤ 0x7F := fun small => high (Nat.lt_succ_of_le small)
  simp only [String.utf8EncodeChar, past, if_false, UInt8.lt_iff_toNat_lt, UInt8.reduceToNat]
  split_ifs <;> simp only [List.forall_mem_cons, UInt8.toNat_ofNat'] <;> simp <;> omega

theorem mem_utf8_iff {c : Char} (plain : c.toNat < 128) {s : List Char} : UInt8.ofNat c.toNat ∈ utf8 s ↔ c ∈ s := by
  induction s with
  | nil => simp [utf8]
  | cons d s ih =>
      have here : UInt8.ofNat c.toNat ∈ String.utf8EncodeChar d ↔ c = d := by
        by_cases small : d.toNat < 128
        · rw [utf8EncodeChar_plain small, List.mem_singleton, ← UInt8.toNat_inj, UInt8.toNat_ofNat', UInt8.toNat_ofNat',
            Nat.mod_eq_of_lt (by omega), Nat.mod_eq_of_lt (by omega), Char.toNat_inj]
        · refine iff_of_false (fun member => utf8EncodeChar_high small _ member ?_) fun same => small (same ▸ plain)
          rw [UInt8.lt_iff_toNat_lt, UInt8.toNat_ofNat', Nat.mod_eq_of_lt (by omega)]
          exact plain
      rw [utf8_cons, List.mem_append, List.mem_cons, here, ih]

theorem plain_of_utf8 {s : List Char} (plain : ∀ b ∈ utf8 s, b < 128) : ∀ c ∈ s, c.toNat < 128 := by
  intro c member
  by_contra high
  cases encoded : String.utf8EncodeChar c with
  | nil => exact String.utf8EncodeChar_ne_nil encoded
  | cons b rest =>
      have first : b ∈ String.utf8EncodeChar c := encoded ▸ List.mem_cons_self
      exact utf8EncodeChar_high high b first (plain b (List.mem_flatMap.mpr ⟨c, member, first⟩))

theorem utf8_toString (n : Nat) : utf8 (toString n).toList = decimal n := by
  refine utf8_plain fun c member => ?_
  rw [Nat.toString_eq_repr, Nat.toList_repr] at member
  have digit := Char.isDigit_iff_toNat.mp (Nat.isDigit_of_mem_toDigits (by decide) (by decide) member)
  have last : '9'.toNat = 57 := rfl
  omega

theorem numeral_decimal (n : Nat) : Numeral 10 (decimal n) n := by
  have digit : ∀ b : UInt8, IsDigit b → digitValue 10 b = some (b.toNat - 0x30) := forall_byte (by decide)
  have steps (text : Buf) (v : Nat) (digits : ∀ b ∈ text, IsDigit b) :
      text.foldl (positionalStep 10) v = text.foldl digitStep v := by
    induction text generalizing v with
    | nil => rfl
    | cons b text ih =>
        have first := digits b List.mem_cons_self
        rw [List.foldl_cons, List.foldl_cons, positionalStep, digit b first, digitStep, if_pos first]
        exact ih _ fun c member => digits c (List.mem_cons_of_mem _ member)
  refine ⟨?_, fun b member => by rw [digit b (mem_decimal member)]; rfl, ?_⟩
  · rw [decimal_eq]
    exact fun none => Nat.toDigits_ne_nil (List.map_eq_nil_iff.mp none)
  · rw [positional, steps _ _ fun b member => mem_decimal member, foldl_digitStep_decimal, Nat.zero_mul, Nat.zero_add]

theorem parseU8_eq_ok {s : List Char} {x : UInt8} :
    parseU8 s = .ok x ↔ ∃ digits, (utf8 s = digits ∨ utf8 s = 0x2B :: digits) ∧ Numeral 10 digits x.toNat := by
  have small := x.toNat_lt
  constructor
  · intro parsed
    cases read : parseUnsigned 10 255 (utf8 s) with
    | error e =>
        rw [parseU8, read] at parsed
        cases parsed
    | ok n =>
        rw [parseU8, read] at parsed
        obtain ⟨digits, spelled, numeral, bound⟩ := (parseUnsigned_eq_ok (by decide)).mp read
        cases parsed
        refine ⟨digits, spelled, ?_⟩
        rwa [UInt8.toNat_ofNat', Nat.mod_eq_of_lt (by omega)]
  · rintro ⟨digits, spelled, numeral⟩
    have read := (@parseUnsigned_eq_ok 10 255 _ (by decide) (utf8 s)).mpr ⟨digits, spelled, numeral, by omega⟩
    rw [parseU8, read]
    exact congrArg Except.ok UInt8.ofNat_toNat

theorem parseU8_toString {n : Nat} {x : UInt8} : parseU8 (toString n).toList = .ok x ↔ n = x.toNat := by
  rw [parseU8_eq_ok, utf8_toString]
  have decimal := numeral_decimal n
  constructor
  · rintro ⟨digits, rfl | signed, numeral⟩
    · exact decimal.value.symm.trans numeral.value
    · exact absurd (signed ▸ List.mem_cons_self) decimal.not_signed.1
  · rintro rfl
    exact ⟨_, .inl rfl, decimal⟩

end Str
