import Gutd.Shared.NetParse
import Gutd.Shared.Numerals

set_option autoImplicit false

namespace Net

open Bytes Str

variable {radix max n : Nat} {rest : Buf}

def Stops (radix : Nat) (rest : Buf) : Prop := ∀ b ∈ rest.head?, digitValue radix b = none

theorem takeWhile_digits {digits : Buf} (valid : ∀ b ∈ digits, (digitValue radix b).isSome) (stops : Stops radix rest) :
    (digits ++ rest).takeWhile (fun b => (digitValue radix b).isSome) = digits := by
  rw [List.takeWhile_append_of_pos valid]
  cases rest with
  | nil => simp
  | cons b rest => simp [stops b rfl]

theorem readNumber_numeral {maxDigits : Option Nat} {allowZeroPrefix : Bool} {digits : Buf} (numeral : Numeral radix digits n)
    (bounded : n ≤ max) (few : ∀ m ∈ maxDigits, digits.length ≤ m)
    (plain : allowZeroPrefix = true ∨ (digits ++ rest).head? ≠ some 0x30 ∨ digits.length ≤ 1) (stops : Stops radix rest) :
    readNumber radix max maxDigits allowZeroPrefix (digits ++ rest) = some (n, rest) := by
  have value : digits.foldl (fun value b => value * radix + (digitValue radix b).getD 0) 0 = n := numeral.value
  have small : ¬maxDigits.any (· < digits.length) = true := by
    cases maxDigits with
    | none => simp
    | some m => simpa using few m rfl
  have leading : ¬(!allowZeroPrefix && (digits ++ rest).head? = some 0x30 && 1 < digits.length) = true := by
    rcases plain with allowed | other | short
    · simp [allowed]
    · rw [decide_eq_false other]
      simp
    · simp [Nat.not_lt.mpr short]
  unfold readNumber
  simp only [takeWhile_digits numeral.valid stops, value]
  rw [if_neg small, if_neg numeral.some, if_neg leading, if_neg (Nat.not_lt.mpr bounded), List.drop_left]

theorem decimal_head {n : Nat} (positive : 0 < n) (rest : Buf) : (decimal n ++ rest).head? ≠ some 0x30 := by
  induction n using Nat.strongRecOn generalizing rest with
  | ind n ih =>
      by_cases small : n < 10
      · rw [decimal_digit small]
        have digit : ∀ d : Fin 10, d.val ≠ 0 → UInt8.ofNat (0x30 + d.val) ≠ 0x30 := by decide
        simpa using digit ⟨n, small⟩ (by simpa using Nat.ne_of_gt positive)
      · rw [decimal_last (by omega), List.append_assoc]
        exact ih (n / 10) (by omega) (by omega) _

theorem readNumber_decimal {maxDigits : Option Nat} (allowZeroPrefix : Bool) (bounded : n ≤ max)
    (few : ∀ m ∈ maxDigits, (decimal n).length ≤ m) (stops : Stops 10 rest) :
    readNumber 10 max maxDigits allowZeroPrefix (decimal n ++ rest) = some (n, rest) := by
  refine readNumber_numeral (numeral_decimal n) bounded few (.inr ?_) stops
  by_cases zero : n = 0
  · exact .inr (by rw [zero, decimal_digit (by decide)]; rfl)
  · exact .inl (decimal_head (by omega) rest)

theorem readOctet_decimal (o : UInt8) (stops : Stops 10 rest) : readOctet (decimal o.toNat ++ rest) = some (o.toNat, rest) := by
  have byte := o.toNat_lt
  refine readNumber_decimal false (by omega) ?_ stops
  rintro m ⟨⟩
  exact length_decimal_le (by decide) (by omega)

theorem readSeparator_next (index : Nat) (o : UInt8) (stops : Stops 10 rest) :
    readSeparator 0x2E (index + 1) readOctet (ascii "." ++ (decimal o.toNat ++ rest)) = some (o.toNat, rest) := by
  have dot : ascii "." ++ (decimal o.toNat ++ rest) = 0x2E :: (decimal o.toNat ++ rest) := rfl
  rw [dot]
  simp [readSeparator, readGivenChar, readOctet_decimal o stops]

theorem readIpv4Addr_text (octets : Vector UInt8 4) (stops : Stops 10 rest) :
    readIpv4Addr (IpAddr.textV4 octets.toList ++ rest) = some (octets, rest) := by
  obtain ⟨⟨list⟩, size⟩ := octets
  obtain ⟨a, b, c, d, rfl⟩ : ∃ a b c d, list = [a, b, c, d] := List.length_eq_four.mp size
  have dots (tail : Buf) : Stops 10 (ascii "." ++ tail) := by
    rintro _ ⟨⟩
    decide
  have text : IpAddr.textV4 [a, b, c, d] ++ rest = decimal a.toNat ++ (ascii "." ++ (decimal b.toNat ++ (ascii "." ++
      (decimal c.toNat ++ (ascii "." ++ (decimal d.toNat ++ rest)))))) := by
    simp [IpAddr.textV4, IpAddr.joinWith]
  change readIpv4Addr (IpAddr.textV4 [a, b, c, d] ++ rest) = _
  have first : readSeparator 0x2E 0 readOctet = readOctet := by
    funext text
    simp [readSeparator]
  rw [text, readIpv4Addr, first, readOctet_decimal a (dots _)]
  simp only [Option.bind_eq_bind, Option.bind_some]
  rw [readSeparator_next 0 b (dots _)]
  simp only [Option.bind_some]
  rw [readSeparator_next 1 c (dots _)]
  simp only [Option.bind_some]
  rw [readSeparator_next 2 d stops]
  simp

theorem parseSocketAddr_v4 (octets : Vector UInt8 4) (port : UInt16) :
    parseSocketAddr ((IpAddr.v4 octets).text ++ (ascii ":" ++ decimal port.toNat)) = some ⟨.v4 octets, port⟩ := by
  have colon : ascii ":" ++ decimal port.toNat = 0x3A :: decimal port.toNat := rfl
  have stops : Stops 10 (0x3A :: decimal port.toNat) := by
    rintro _ ⟨⟩
    decide
  have number : readPort (decimal port.toNat) = some (port.toNat, []) := by
    have word := port.toNat_lt
    have read := @readNumber_decimal 65535 port.toNat [] none true (by omega) (by simp) (by simp [Stops])
    rwa [List.append_nil] at read
  have whole : readSocketAddrV4 ((IpAddr.v4 octets).text ++ (ascii ":" ++ decimal port.toNat)) =
      some (⟨.v4 octets, port⟩, []) := by
    rw [readSocketAddrV4, IpAddr.text, colon, readIpv4Addr_text octets stops]
    simp [readGivenChar, number]
  rw [parseSocketAddr, parseWith, readSocketAddr, whole]
  rfl

theorem readNumber_head {maxDigits : Option Nat} {allowZeroPrefix : Bool} {text : Buf} {found : Nat × Buf}
    (read : readNumber radix max maxDigits allowZeroPrefix text = some found) :
    (∃ b, text.head? = some b ∧ (digitValue radix b).isSome) ∧ found.2 <:+ text := by
  unfold readNumber at read
  dsimp only at read
  split_ifs at read with many none
  cases read
  refine ⟨?_, List.drop_suffix _ _⟩
  cases text with
  | nil => simp at none
  | cons b text =>
      refine ⟨b, rfl, ?_⟩
      by_contra other
      simp [other] at none

theorem readIpv4Addr_dotted {text : Buf} {found : Vector UInt8 4 × Buf} (read : readIpv4Addr text = some found) :
    (∃ b, text.head? = some b ∧ (digitValue 10 b).isSome) ∧ 0x2E ∈ text := by
  unfold readIpv4Addr at read
  obtain ⟨⟨a, behind⟩, first, read⟩ := Option.bind_eq_some_iff.mp read
  obtain ⟨⟨b, later⟩, second, -⟩ := Option.bind_eq_some_iff.mp read
  have octet : readOctet text = some (a, behind) := by simpa [readSeparator] using first
  obtain ⟨head, suffix⟩ := readNumber_head octet
  refine ⟨head, suffix.subset ?_⟩
  cases behind with
  | nil => simp [readSeparator, readGivenChar] at second
  | cons c behind =>
      by_cases dot : c = 0x2E
      · rw [dot]
        exact List.mem_cons_self
      · simp [readSeparator, readGivenChar, dot] at second

theorem not_mem_textSegments (segments : List UInt16) : 0x2E ∉ IpAddr.textSegments segments := by
  intro member
  rcases IpAddr.mem_joinWith member with colon | ⟨part, segment, inside⟩
  · exact absurd colon (by decide)
  · obtain ⟨s, -, rfl⟩ := List.mem_map.mp segment
    exact absurd (mem_hexShort inside) (by decide)

theorem parseSocketAddr_v6 (segments : Vector UInt16 8) (port : UInt16) :
    parseSocketAddr ((IpAddr.v6 segments).text ++ (ascii ":" ++ decimal port.toNat)) = none := by
  obtain ⟨text, written⟩ : ∃ text, text = (IpAddr.v6 segments).text ++ (ascii ":" ++ decimal port.toNat) := ⟨_, rfl⟩
  have plain : ∀ b ∈ ascii ":" ++ decimal port.toNat, b ≠ 0x2E ∧ b ≠ 0x5B := by
    intro b member
    rcases List.mem_append.mp member with colon | digit
    · cases List.mem_singleton.mp colon
      decide
    · have digits : ∀ b : UInt8, 0x30 ≤ b ∧ b ≤ 0x39 → b ≠ 0x2E ∧ b ≠ 0x5B := forall_byte (by decide)
      exact digits b (mem_decimal digit)
  have unbracketed : readSocketAddrV6 text = none := by
    have bracket : 0x5B ∉ text := by
      rw [written, List.mem_append]
      rintro (member | member)
      · exact absurd (IpAddr.mem_text member) (by decide)
      · exact (plain _ member).2 rfl
    cases text with
    | nil => rfl
    | cons b text =>
        have other : b ≠ 0x5B := fun same => bracket (same ▸ List.mem_cons_self)
        simp [readSocketAddrV6, readGivenChar, other]
  have undotted : readIpv4Addr text = none := by
    by_contra found
    obtain ⟨found, read⟩ := Option.ne_none_iff_exists'.mp found
    obtain ⟨⟨b, head, digit⟩, dot⟩ := readIpv4Addr_dotted read
    rw [written, IpAddr.text] at head dot
    dsimp only at head dot
    split_ifs at head dot with mapped compressed
    · -- a mapped address ends in dots and starts with a colon
      cases head
      exact absurd digit (by decide)
    · rcases List.mem_append.mp dot with address | tail
      · rcases List.mem_append.mp address with front | back
        · rcases List.mem_append.mp front with segments | colons
          · exact not_mem_textSegments _ segments
          · exact absurd colons (by decide)
        · exact not_mem_textSegments _ back
      · exact (plain _ tail).1 rfl
    · rcases List.mem_append.mp dot with address | tail
      · exact not_mem_textSegments _ address
      · exact (plain _ tail).1 rfl
  rw [← written, parseSocketAddr, parseWith, readSocketAddr, unbracketed, readSocketAddrV4, undotted]
  rfl

end Net
