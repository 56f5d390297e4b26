import Gutd.Shared.Words

set_option autoImplicit false

namespace Bytes

def ascii (text : String) : Buf := text.toList.map fun c => UInt8.ofNat c.toNat

def decimal (n : Nat) : Buf := ascii (toString n)

def decimalPadded (width n : Nat) : Buf :=
  List.replicate (width - (decimal n).length) 0x30 ++ decimal n

theorem decimal_eq (n : Nat) : decimal n = (Nat.toDigits 10 n).map fun c => UInt8.ofNat c.toNat := by
  rw [decimal, ascii, Nat.toString_eq_repr, Nat.toList_repr]

theorem mem_decimal {n : Nat} {b : UInt8} (written : b ∈ decimal n) : 0x30 ≤ b ∧ b ≤ 0x39 := by
  have ends : '0'.toNat = 0x30 ∧ '9'.toNat = 0x39 := ⟨rfl, rfl⟩
  rw [decimal_eq] at written
  obtain ⟨c, digit, rfl⟩ := List.mem_map.mp written
  have isDigit := Char.isDigit_iff_toNat.mp (Nat.isDigit_of_mem_toDigits (by decide) (by decide) digit)
  simp only [UInt8.le_iff_toNat_le, UInt8.toNat_ofNat', UInt8.reduceToNat]
  omega

theorem length_decimal_le {k n : Nat} (some : 0 < k) (bounded : n < 10 ^ k) : (decimal n).length ≤ k := by
  rw [decimal_eq, List.length_map]
  exact (Nat.length_toDigits_le_iff (by decide) some).mpr bounded

theorem le_length_decimalPadded (width n : Nat) : width ≤ (decimalPadded width n).length := by
  simp only [decimalPadded, List.length_append, List.length_replicate]
  omega

theorem length_decimalPadded {width n : Nat} (some : 0 < width) (bounded : n < 10 ^ width) :
    (decimalPadded width n).length = width := by
  have fits := length_decimal_le some bounded
  rw [decimalPadded, List.length_append, List.length_replicate]
  omega

theorem mem_decimalPadded {width n : Nat} {b : UInt8} (written : b ∈ decimalPadded width n) : 0x30 ≤ b ∧ b ≤ 0x39 := by
  rcases List.mem_append.mp written with zero | digit
  · rw [List.eq_of_mem_replicate zero]
    decide
  · exact mem_decimal digit

def hexDigit (n : Nat) : UInt8 := byteAt (ascii "0123456789abcdef") n

def hex8 (x : UInt32) : Buf := (List.range 8).map fun i => hexDigit (x.toNat / 16 ^ (7 - i) % 16)

theorem mem_hex8 {x : UInt32} {c : UInt8} (member : c ∈ hex8 x) : c ∈ ascii "0123456789abcdef" := by
  obtain ⟨i, -, rfl⟩ := List.mem_map.mp member
  have inside : x.toNat / 16 ^ (7 - i) % 16 < (ascii "0123456789abcdef").length := Nat.mod_lt _ (by decide)
  rw [hexDigit, byteAt_eq_getElem _ _ inside]
  exact List.getElem_mem inside

theorem length_hex8 (x : UInt32) : (hex8 x).length = 8 := by
  simp [hex8]

def hexShort (n : Nat) : Buf := (Nat.toDigits 16 n).map fun c => UInt8.ofNat c.toNat

theorem mem_hexShort {n : Nat} {b : UInt8} (written : b ∈ hexShort n) : b ∈ ascii "0123456789abcdef" := by
  have digits : ∀ d : Fin 16, UInt8.ofNat (Nat.digitChar d.val).toNat ∈ ascii "0123456789abcdef" := by decide
  induction n using Nat.strongRecOn with
  | ind n ih =>
      rw [hexShort, Nat.toDigits_eq_if (by decide)] at written
      split_ifs at written with last
      · cases List.mem_singleton.mp written
        exact digits ⟨n, last⟩
      · rw [List.map_append, List.mem_append] at written
        rcases written with front | digit
        · exact ih (n / 16) (by omega) front
        · cases List.mem_singleton.mp digit
          exact digits ⟨n % 16, Nat.mod_lt _ (by decide)⟩

theorem length_hexShort_le {k n : Nat} (some : 0 < k) (bounded : n < 16 ^ k) : (hexShort n).length ≤ k := by
  rw [hexShort, List.length_map]
  exact (Nat.length_toDigits_le_iff (by decide) some).mpr bounded

theorem ascii_getD (names : List String) (other : String) (f : Buf → Bool)
    (all : (other :: names).all (fun name => f (ascii name)) = true) (i : Nat) : f (ascii (names.getD i other)) = true := by
  rw [List.all_eq_true] at all
  rw [List.getD_eq_getElem?_getD]
  cases found : names[i]? with
  | none => exact all other List.mem_cons_self
  | some name => exact all name (List.mem_cons_of_mem _ (List.mem_of_getElem? found))

def findWindow (pattern : Buf) : Buf → Option Nat
  | [] => none
  | b :: rest => if pattern.isPrefixOf (b :: rest) then some 0 else (findWindow pattern rest).map (· + 1)

theorem findWindow_bound {pattern : Buf} {buf : Buf} {i : Nat} (found : findWindow pattern buf = some i) :
    i + pattern.length ≤ buf.length := by
  induction buf generalizing i with
  | nil => simp [findWindow] at found
  | cons b rest ih =>
      simp only [findWindow] at found
      split_ifs at found with here
      · cases found
        simpa using (List.isPrefixOf_iff_prefix.mp here).length_le
      · obtain ⟨j, later, rfl⟩ := Option.map_eq_some_iff.mp found
        have bound := ih later
        simp only [List.length_cons]
        omega

theorem findWindow_suffix (pattern front : Buf) (nonempty : pattern ≠ []) :
    ∃ i, findWindow pattern (front ++ pattern) = some i := by
  induction front with
  | nil =>
      cases pattern with
      | nil => exact absurd rfl nonempty
      | cons p ps => exact ⟨0, by simp [findWindow]⟩
  | cons b front ih =>
      obtain ⟨i, later⟩ := ih
      simp only [List.cons_append, findWindow]
      split_ifs with here
      · exact ⟨0, rfl⟩
      · exact ⟨i + 1, by simp [later]⟩

end Bytes
