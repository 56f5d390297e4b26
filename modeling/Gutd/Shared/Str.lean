import Gutd.Shared.Checked
import Gutd.Shared.Text
import Mathlib.Data.List.DropRight

set_option autoImplicit false

namespace Str

open Bytes

def isWhitespace (c : Char) : Bool :=
  let n := c.toNat
  (0x09 ≤ n && n ≤ 0x0D) || n == 0x20 || n == 0x85 || n == 0xA0 || n == 0x1680 || (0x2000 ≤ n && n ≤ 0x200A) ||
    n == 0x2028 || n == 0x2029 || n == 0x202F || n == 0x205F || n == 0x3000

def trim (s : List Char) : List Char := (s.dropWhile isWhitespace).rdropWhile isWhitespace

def stripCarriageReturn (line : List Char) : List Char :=
  if line.getLast? = some '\r' then line.dropLast else line

-- every line loses its line end; an empty rest behind the last one is no line
def lines (s : List Char) : List (List Char) :=
  let pieces := s.splitOn '\n'
  pieces.dropLast.map stripCarriageReturn ++ (pieces.getLast?.filter (· ≠ [])).toList

def splitWhitespace (s : List Char) : List (List Char) := (s.splitOnP isWhitespace).filter (· ≠ [])

def trimMatches (c : Char) (s : List Char) : List Char := (s.dropWhile (· = c)).rdropWhile (· = c)

def eqIgnoreAsciiCase (s t : List Char) : Bool := s.map Char.toLower = t.map Char.toLower

def utf8 (s : List Char) : Buf := s.flatMap String.utf8EncodeChar

def isCharBoundary (bytes : Buf) (i : Nat) : Bool :=
  i = 0 || i = bytes.length || (i < bytes.length && (byteAt bytes i < 0x80 || 0xC0 ≤ byteAt bytes i))

inductive IntError where
  | empty
  | invalidDigit
  | posOverflow
  deriving DecidableEq

def IntError.text : IntError → String
  | .empty => "cannot parse integer from empty string"
  | .invalidDigit => "invalid digit found in string"
  | .posOverflow => "number too large to fit in target type"

def digitValue (radix : Nat) (b : UInt8) : Option Nat :=
  let digit :=
    if 0x30 ≤ b ∧ b ≤ 0x39 then b.toNat - 0x30
    else if 0x61 ≤ b ∧ b ≤ 0x7A then b.toNat - 0x61 + 10
    else if 0x41 ≤ b ∧ b ≤ 0x5A then b.toNat - 0x41 + 10
    else radix
  if digit < radix then some digit else none

def parseStep (radix max value : Nat) (b : UInt8) : Except IntError Nat :=
  match digitValue radix b with
  | none => .error .invalidDigit
  | some digit => if value * radix + digit ≤ max then .ok (value * radix + digit) else .error .posOverflow

-- one plus sign may lead the digits
def parseUnsigned (radix max : Nat) (text : Buf) : Except IntError Nat :=
  if text = [] then .error .empty
  else if text = ascii "+" ∨ text = ascii "-" then .error .invalidDigit
  else (if text.head? = some 0x2B then text.tail else text).foldlM (parseStep radix max) 0

def parseU8 (s : List Char) : Except IntError UInt8 := (parseUnsigned 10 255 (utf8 s)).map UInt8.ofNat

def parseU16 (s : List Char) : Except IntError UInt16 := (parseUnsigned 10 65535 (utf8 s)).map UInt16.ofNat

def parseU32 (s : List Char) : Except IntError UInt32 := (parseUnsigned 10 4294967295 (utf8 s)).map UInt32.ofNat

section Stripped

variable {p : Char → Bool} {s : List Char}

theorem head_of_stripped (stripped : (s.dropWhile p).rdropWhile p = s) : ∀ c ∈ s.head?, ¬p c := by
  intro c first dropped
  cases s with
  | nil => cases first
  | cons head s =>
      cases first
      have shorter := (List.rdropWhile_prefix p (s.dropWhile p)).length_le
      have rest := List.length_dropWhile_le p s
      rw [List.dropWhile_cons_of_pos dropped] at stripped
      rw [stripped, List.length_cons] at shorter
      omega

theorem getLast_of_stripped (stripped : (s.dropWhile p).rdropWhile p = s) : ∀ c ∈ s.getLast?, ¬p c := by
  intro c last
  have some : (s.dropWhile p).rdropWhile p ≠ [] := by
    rw [stripped]
    rintro rfl
    cases last
  have kept := List.rdropWhile_last_not p _ some
  simp only [stripped] at kept some
  rw [List.getLast?_eq_getLast_of_ne_nil some, Option.mem_some_iff] at last
  rwa [last] at kept

theorem stripped_of_ends (first : ∀ c ∈ s.head?, ¬p c) (last : ∀ c ∈ s.getLast?, ¬p c) : (s.dropWhile p).rdropWhile p = s := by
  have front : s.dropWhile p = s := by
    cases s with
    | nil => rfl
    | cons c s => exact List.dropWhile_cons_of_neg (first c rfl)
  rw [front, List.rdropWhile_eq_self_iff]
  intro some
  exact last _ (List.getLast?_eq_getLast_of_ne_nil some)

theorem stripped_sublist : (s.dropWhile p).rdropWhile p |>.Sublist s :=
  (List.rdropWhile_prefix p _).sublist.trans (List.dropWhile_sublist p)

end Stripped

theorem trim_cons_blank {s : List Char} {b : Char} (blank : isWhitespace b) : trim (b :: s) = trim s := by
  rw [trim, List.dropWhile_cons_of_pos blank, trim]

theorem trim_concat_blank (s : List Char) {b : Char} (blank : isWhitespace b) : trim (s ++ [b]) = trim s := by
  rw [trim, trim, List.dropWhile_append]
  split_ifs with allBlank
  · rw [List.dropWhile_cons_of_pos blank, List.dropWhile_nil, List.isEmpty_iff.mp allBlank]
  · exact List.rdropWhile_concat_pos _ _ _ blank

theorem trim_stripCarriageReturn (line : List Char) : trim (stripCarriageReturn line) = trim line := by
  rw [stripCarriageReturn]
  split_ifs with carriage
  · conv_rhs => rw [← List.dropLast_append_getLast? _ carriage]
    exact (trim_concat_blank _ (by decide)).symm
  · rfl

theorem trim_rdropWhile (s : List Char) : trim (s.rdropWhile isWhitespace) = trim s := by
  induction s using List.reverseRecOn with
  | nil => rfl
  | append_singleton s b ih =>
      by_cases blank : isWhitespace b
      · rw [List.rdropWhile_concat_pos _ _ _ blank, ih, trim_concat_blank s blank]
      · rw [List.rdropWhile_concat_neg _ _ _ blank]

-- what stands behind a solid character is trimmed at its end only
theorem trim_append_cons {front rest : List Char} {c : Char} (first : ∀ b ∈ front.head?, ¬isWhitespace b)
    (solid : ¬isWhitespace c) : trim (front ++ c :: rest) = front ++ c :: rest.rdropWhile isWhitespace := by
  have start : (front ++ c :: rest).dropWhile isWhitespace = front ++ c :: rest := by
    cases front with
    | nil => exact List.dropWhile_cons_of_neg solid
    | cons b front => exact List.dropWhile_cons_of_neg (first b rfl)
  rw [trim, start, List.rdropWhile, List.rdropWhile, List.reverse_append, List.reverse_cons, List.append_assoc,
    List.dropWhile_append]
  split_ifs with allBlank
  · rw [List.singleton_append, List.dropWhile_cons_of_neg solid, List.isEmpty_iff.mp allBlank]
    simp
  · simp

theorem idxOf?_append_cons {α : Type} [DecidableEq α] {left rest : List α} {c : α} (absent : c ∉ left) :
    (left ++ c :: rest).idxOf? c = some left.length := by
  induction left with
  | nil => simp [List.idxOf?_cons]
  | cons x left ih =>
      have other : x ≠ c := fun same => absent (same ▸ List.mem_cons_self)
      rw [List.cons_append, List.idxOf?_cons, ih fun later => absent (List.mem_cons_of_mem _ later)]
      simp [other]

theorem lines_cons {line rest : List Char} (whole : '\n' ∉ line) :
    lines (line ++ '\n' :: rest) = stripCarriageReturn line :: lines rest := by
  have some := List.splitOn_ne_nil '\n' rest
  rw [lines, List.splitOn_append_cons_self_of_not_mem whole, lines]
  simp only [List.dropLast_cons_of_ne_nil some, List.getLast?_cons_of_ne_nil some, List.map_cons, List.cons_append]

theorem lines_append {above : List Char} (fresh : above = [] ∨ above.getLast? = some '\n') (rest : List Char) :
    lines (above ++ rest) = lines above ++ lines rest := by
  induction length : above.length using Nat.strong_induction_on generalizing above with
  | _ n ih =>
      rcases fresh with rfl | ends
      · rfl
      · obtain ⟨line, below, rfl, whole⟩ := List.eq_append_cons_of_mem (List.mem_of_getLast? ends)
        have fresh : below = [] ∨ below.getLast? = some '\n' := by
          cases below with
          | nil => exact .inl rfl
          | cons c below => exact .inr (by simpa [List.getLast?_append, List.getLast?_cons_cons] using ends)
        rw [List.append_assoc, List.cons_append, lines_cons whole, lines_cons whole,
          ih below.length (by rw [← length]; simp; omega) fresh rfl, List.cons_append]

theorem mem_of_mem_splitOnP {p : Char → Bool} {s piece : List Char} (member : piece ∈ s.splitOnP p) : ∀ c ∈ piece, c ∈ s := by
  induction s generalizing piece with
  | nil => simp_all
  | cons d s ih =>
      intro c inside
      rw [List.splitOnP_cons_eq_if_modifyHead] at member
      split_ifs at member with cut
      · rcases List.mem_cons.mp member with rfl | later
        · cases inside
        · exact List.mem_cons_of_mem d (ih later c inside)
      · cases pieces : s.splitOnP p with
        | nil => exact absurd pieces (List.splitOnP_ne_nil p s)
        | cons first rest =>
            rw [pieces, List.modifyHead_cons] at member
            rcases List.mem_cons.mp member with rfl | later
            · rcases List.mem_cons.mp inside with rfl | inside
              · exact List.mem_cons_self
              · exact List.mem_cons_of_mem d (ih (pieces ▸ List.mem_cons_self) c inside)
            · exact List.mem_cons_of_mem d (ih (pieces ▸ List.mem_cons_of_mem first later) c inside)

theorem mem_of_mem_splitWhitespace {s piece : List Char} (member : piece ∈ splitWhitespace s) : ∀ c ∈ piece, c ∈ s :=
  mem_of_mem_splitOnP (List.mem_of_mem_filter member)

theorem mem_of_mem_lines {s line : List Char} (member : line ∈ lines s) : ∀ c ∈ line, c ∈ s := by
  rcases List.mem_append.mp member with inside | last
  · obtain ⟨piece, earlier, rfl⟩ := List.mem_map.mp inside
    intro c stripped
    refine mem_of_mem_splitOnP ((List.dropLast_sublist _).subset earlier) c ?_
    unfold stripCarriageReturn at stripped
    split_ifs at stripped
    · exact (List.dropLast_sublist _).subset stripped
    · exact stripped
  · have last := Option.mem_toList.mp last
    exact mem_of_mem_splitOnP (List.mem_of_getLast? (Option.mem_filter_iff.mp last).1)

theorem lines_single {line : List Char} (some : line ≠ []) (whole : '\n' ∉ line) : lines line = [line] := by
  rw [lines, List.splitOn_eq_singleton whole]
  simp [some]

end Str
