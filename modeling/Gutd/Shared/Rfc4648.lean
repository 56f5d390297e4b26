import Gutd.Shared.Text

set_option autoImplicit false

namespace Rfc4648

open Bytes

def alphabet : Buf := ascii "ABCDEFGHIJKLMNOPQRSTUVWXYZabcdefghijklmnopqrstuvwxyz0123456789+/"

def pad : UInt8 := 0x3D

def value (c : UInt8) : Nat := if c = pad then 0 else alphabet.idxOf c

def quantum (c0 c1 c2 c3 : UInt8) : Buf :=
  let bits := value c0 * 2 ^ 18 + value c1 * 2 ^ 12 + value c2 * 2 ^ 6 + value c3
  [UInt8.ofNat (bits / 2 ^ 16), UInt8.ofNat (bits / 2 ^ 8), UInt8.ofNat bits]

def quanta : Buf → Buf
  | c0 :: c1 :: c2 :: c3 :: rest => quantum c0 c1 c2 c3 ++ quanta rest
  | _ => []

structure WellFormed (text : Buf) : Prop where
  whole : text.length % 4 = 0
  padded : ∃ body padding, text = body ++ padding ∧ (∀ c ∈ body, c ∈ alphabet) ∧
    (padding = [] ∨ padding = [pad] ∨ padding = [pad, pad])

def decodedLength (text : Buf) : Nat := text.length / 4 * 3 - text.count pad

def decoded (text : Buf) : Buf := (quanta text).take (decodedLength text)

theorem pad_not_mem : pad ∉ alphabet := by
  decide

inductive Grouped : Buf → Prop
  | empty : Grouped []
  | one {c0 c1 : UInt8} (h0 : c0 ∈ alphabet) (h1 : c1 ∈ alphabet) : Grouped [c0, c1, pad, pad]
  | two {c0 c1 c2 : UInt8} (h0 : c0 ∈ alphabet) (h1 : c1 ∈ alphabet) (h2 : c2 ∈ alphabet) : Grouped [c0, c1, c2, pad]
  | three {c0 c1 c2 c3 : UInt8} {rest : Buf} (h0 : c0 ∈ alphabet) (h1 : c1 ∈ alphabet) (h2 : c2 ∈ alphabet)
      (h3 : c3 ∈ alphabet) (later : Grouped rest) : Grouped (c0 :: c1 :: c2 :: c3 :: rest)

theorem grouped_append (body padding : Buf) (data : ∀ c ∈ body, c ∈ alphabet)
    (few : padding = [] ∨ padding = [pad] ∨ padding = [pad, pad]) (whole : (body ++ padding).length % 4 = 0) :
    Grouped (body ++ padding) := by
  match body with
  | [] =>
      rcases few with rfl | rfl | rfl
      · exact .empty
      · simp at whole
      · simp at whole
  | [c0] => rcases few with rfl | rfl | rfl <;> simp at whole
  | [c0, c1] =>
      simp only [List.mem_cons, List.not_mem_nil, or_false, forall_eq_or_imp, forall_eq] at data
      rcases few with rfl | rfl | rfl
      · simp at whole
      · simp at whole
      · exact .one data.1 data.2
  | [c0, c1, c2] =>
      simp only [List.mem_cons, List.not_mem_nil, or_false, forall_eq_or_imp, forall_eq] at data
      rcases few with rfl | rfl | rfl
      · simp at whole
      · exact .two data.1 data.2.1 data.2.2
      · simp at whole
  | c0 :: c1 :: c2 :: c3 :: body =>
      simp only [List.mem_cons, forall_eq_or_imp] at data
      refine .three data.1 data.2.1 data.2.2.1 data.2.2.2.1 (grouped_append body padding data.2.2.2.2 few ?_)
      simp only [List.cons_append, List.length_cons] at whole
      omega

theorem WellFormed.grouped {text : Buf} (formed : WellFormed text) : Grouped text := by
  obtain ⟨whole, body, padding, rfl, data, few⟩ := formed
  exact grouped_append body padding data few whole

theorem count_alphabet {c : UInt8} (data : c ∈ alphabet) (rest : Buf) : (c :: rest).count pad = rest.count pad := by
  apply List.count_cons_of_ne
  rintro rfl
  exact pad_not_mem data

theorem decodedLength_one {c0 c1 : UInt8} (h0 : c0 ∈ alphabet) (h1 : c1 ∈ alphabet) : decodedLength [c0, c1, pad, pad] = 1 := by
  have two : [pad, pad].count pad = 2 := by decide
  rw [decodedLength, count_alphabet h0, count_alphabet h1, two]
  simp

theorem decodedLength_two {c0 c1 c2 : UInt8} (h0 : c0 ∈ alphabet) (h1 : c1 ∈ alphabet) (h2 : c2 ∈ alphabet) :
    decodedLength [c0, c1, c2, pad] = 2 := by
  have one : [pad].count pad = 1 := by decide
  rw [decodedLength, count_alphabet h0, count_alphabet h1, count_alphabet h2, one]
  simp

theorem Grouped.count_le {text : Buf} (grouped : Grouped text) : text.count pad ≤ 2 ∧ (text = [] → text.count pad = 0) ∧
    text.count pad ≤ text.length / 4 * 3 := by
  induction grouped with
  | empty => exact ⟨by decide, fun _ => rfl, by decide⟩
  | one h0 h1 =>
      rw [count_alphabet h0, count_alphabet h1]
      exact ⟨by decide, nofun, by simp⟩
  | two h0 h1 h2 =>
      rw [count_alphabet h0, count_alphabet h1, count_alphabet h2]
      exact ⟨by decide, nofun, by simp⟩
  | three h0 h1 h2 h3 later ih =>
      rw [count_alphabet h0, count_alphabet h1, count_alphabet h2, count_alphabet h3]
      refine ⟨ih.1, nofun, ?_⟩
      simp only [List.length_cons]
      omega

theorem decodedLength_group {c0 c1 c2 c3 : UInt8} {rest : Buf} (h0 : c0 ∈ alphabet) (h1 : c1 ∈ alphabet)
    (h2 : c2 ∈ alphabet) (h3 : c3 ∈ alphabet) (later : Grouped rest) :
    decodedLength (c0 :: c1 :: c2 :: c3 :: rest) = 3 + decodedLength rest := by
  have few := later.count_le
  rw [decodedLength, decodedLength, count_alphabet h0, count_alphabet h1, count_alphabet h2, count_alphabet h3]
  simp only [List.length_cons]
  omega

theorem decoded_group {c0 c1 c2 c3 : UInt8} {rest : Buf} (h0 : c0 ∈ alphabet) (h1 : c1 ∈ alphabet) (h2 : c2 ∈ alphabet)
    (h3 : c3 ∈ alphabet) (later : Grouped rest) :
    decoded (c0 :: c1 :: c2 :: c3 :: rest) = quantum c0 c1 c2 c3 ++ decoded rest := by
  have width : (quantum c0 c1 c2 c3).length = 3 := rfl
  rw [decoded, decodedLength_group h0 h1 h2 h3 later, quanta, List.take_append, List.take_of_length_le (by omega), width,
    Nat.add_sub_cancel_left, decoded]

theorem Grouped.length_decoded {text : Buf} (grouped : Grouped text) : (decoded text).length = decodedLength text := by
  induction grouped with
  | empty => rfl
  | one h0 h1 =>
      rw [decoded, decodedLength_one h0 h1]
      rfl
  | two h0 h1 h2 =>
      rw [decoded, decodedLength_two h0 h1 h2]
      rfl
  | three h0 h1 h2 h3 later ih =>
      rw [decoded_group h0 h1 h2 h3 later, decodedLength_group h0 h1 h2 h3 later, List.length_append, ih]
      rfl

end Rfc4648
