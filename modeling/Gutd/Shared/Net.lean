import Gutd.Shared.Text

set_option autoImplicit false

namespace Net

open Bytes

inductive IpAddr where
  | v4 (octets : Vector UInt8 4)
  | v6 (segments : Vector UInt16 8)
  deriving DecidableEq

structure SocketAddr where
  ip : IpAddr
  port : UInt16
  deriving DecidableEq

namespace IpAddr

def joinWith (separator : Buf) : List Buf → Buf
  | [] => []
  | [last] => last
  | part :: rest => part ++ separator ++ joinWith separator rest

def textV4 (octets : List UInt8) : Buf := joinWith (ascii ".") (octets.map fun o => decimal o.toNat)

def textSegments (segments : List UInt16) : Buf :=
  joinWith (ascii ":") (segments.map fun s => hexShort s.toNat)

def longestZeroRun (segments : List UInt16) : Nat × Nat :=
  let step := fun (state : (Nat × Nat) × (Nat × Nat)) (indexed : UInt16 × Nat) =>
    let (longest, current) := state
    let (segment, i) := indexed
    if segment = 0 then
      let current := if current.2 = 0 then (i, 1) else (current.1, current.2 + 1)
      (if current.2 > longest.2 then current else longest, current)
    else (longest, (0, 0))
  (segments.zipIdx.foldl step ((0, 0), (0, 0))).1

def text : IpAddr → Buf
  | v4 octets => textV4 octets.toList
  | v6 segments =>
      let s := segments.toList
      if s.take 6 = [0, 0, 0, 0, 0, 0xFFFF] then
        ascii "::ffff:" ++ textV4 ((s.drop 6).flatMap toBeBytes16)
      else
        let (start, len) := longestZeroRun s
        if len > 1 then textSegments (s.take start) ++ ascii "::" ++ textSegments (s.drop (start + len))
        else textSegments s

theorem mem_joinWith {separator : Buf} {parts : List Buf} {b : UInt8} (member : b ∈ joinWith separator parts) :
    b ∈ separator ∨ ∃ part ∈ parts, b ∈ part := by
  induction parts with
  | nil => cases member
  | cons part parts ih =>
      cases parts with
      | nil => exact .inr ⟨part, List.mem_cons_self, member⟩
      | cons next parts =>
          rw [joinWith, List.mem_append, List.mem_append] at member
          · rcases member with (here | between) | later
            · exact .inr ⟨part, List.mem_cons_self, here⟩
            · exact .inl between
            · rcases ih later with between | ⟨other, found, inside⟩
              · exact .inl between
              · exact .inr ⟨other, List.mem_cons_of_mem _ found, inside⟩
          · nofun

theorem length_joinWith {separator : Buf} {m : Nat} (single : separator.length = 1) {parts : List Buf}
    (short : ∀ part ∈ parts, part.length ≤ m) : (joinWith separator parts).length ≤ parts.length * (m + 1) - 1 := by
  induction parts with
  | nil => exact Nat.zero_le _
  | cons part parts ih =>
      have here := short part List.mem_cons_self
      cases parts with
      | nil =>
          rw [joinWith, List.length_singleton]
          omega
      | cons next parts =>
          have later := ih fun other member => short other (List.mem_cons_of_mem _ member)
          rw [joinWith, List.length_append, List.length_append, single]
          · simp only [List.length_cons, Nat.succ_mul] at later ⊢
            omega
          · nofun

theorem mem_textV4 {octets : List UInt8} {b : UInt8} (member : b ∈ textV4 octets) : b ∈ ascii "0123456789abcdef.:" := by
  have digits : ∀ b : UInt8, 0x30 ≤ b ∧ b ≤ 0x39 → b ∈ ascii "0123456789abcdef.:" := forall_byte (by decide)
  have separators : ∀ b ∈ ascii ".", b ∈ ascii "0123456789abcdef.:" := by decide
  rcases mem_joinWith member with dot | ⟨part, found, inside⟩
  · exact separators b dot
  · obtain ⟨octet, -, rfl⟩ := List.mem_map.mp found
    exact digits b (mem_decimal inside)

theorem length_textV4 (octets : List UInt8) : (textV4 octets).length ≤ octets.length * 4 - 1 := by
  have short : ∀ part ∈ octets.map fun o => decimal o.toNat, part.length ≤ 3 := by
    intro part member
    obtain ⟨octet, -, rfl⟩ := List.mem_map.mp member
    exact length_decimal_le (by decide) (Nat.lt_trans octet.toNat_lt (by decide))
  have joined := @length_joinWith (ascii ".") _ rfl _ short
  rwa [List.length_map] at joined

theorem mem_textSegments {segments : List UInt16} {b : UInt8} (member : b ∈ textSegments segments) :
    b ∈ ascii "0123456789abcdef.:" := by
  have separators : ∀ b ∈ ascii ":", b ∈ ascii "0123456789abcdef.:" := by decide
  have digits : ∀ b ∈ ascii "0123456789abcdef", b ∈ ascii "0123456789abcdef.:" := by decide
  rcases mem_joinWith member with colon | ⟨part, found, inside⟩
  · exact separators b colon
  · obtain ⟨segment, -, rfl⟩ := List.mem_map.mp found
    exact digits b (mem_hexShort inside)

theorem length_textSegments (segments : List UInt16) : (textSegments segments).length ≤ segments.length * 5 - 1 := by
  have short : ∀ part ∈ segments.map fun s => hexShort s.toNat, part.length ≤ 4 := by
    intro part member
    obtain ⟨segment, -, rfl⟩ := List.mem_map.mp member
    exact length_hexShort_le (by decide) segment.toNat_lt
  have joined := @length_joinWith (ascii ":") _ rfl _ short
  rwa [List.length_map] at joined

theorem longestZeroRun_inside (segments : List UInt16) :
    (longestZeroRun segments).1 + (longestZeroRun segments).2 ≤ segments.length := by
  let step := fun (state : (Nat × Nat) × (Nat × Nat)) (indexed : UInt16 × Nat) =>
    let (longest, current) := state
    let (segment, i) := indexed
    if segment = 0 then
      let current := if current.2 = 0 then (i, 1) else (current.1, current.2 + 1)
      (if current.2 > longest.2 then current else longest, current)
    else (longest, (0, 0))
  have scanned (rest : List UInt16) (i : Nat) (state : (Nat × Nat) × (Nat × Nat)) (longest : state.1.1 + state.1.2 ≤ i)
      (current : state.2.2 ≠ 0 → state.2.1 + state.2.2 = i) :
      ((rest.zipIdx i).foldl step state).1.1 + ((rest.zipIdx i).foldl step state).1.2 ≤ i + rest.length := by
    induction rest generalizing i state with
    | nil => exact longest
    | cons segment rest ih =>
        obtain ⟨⟨start, len⟩, ⟨start', len'⟩⟩ := state
        dsimp only at longest current
        rw [List.zipIdx_cons, List.foldl_cons, List.length_cons, Nat.add_comm rest.length, ← Nat.add_assoc]
        by_cases zero : segment = 0
        · by_cases fresh : len' = 0
          · by_cases longer : 1 > len <;> simp only [step, zero, fresh, longer, if_true, if_false] <;>
              exact ih _ _ (by dsimp only; omega) (by dsimp only; omega)
          · have ends := current fresh
            by_cases longer : len' + 1 > len <;> simp only [step, zero, fresh, longer, if_true, if_false] <;>
              exact ih _ _ (by dsimp only; omega) (by dsimp only; omega)
        · simp only [step, zero, if_false]
          exact ih _ _ (by dsimp only; omega) (by simp)
  have whole := scanned segments 0 ((0, 0), (0, 0)) (Nat.le_refl _) (fun none => absurd rfl none)
  rwa [Nat.zero_add] at whole

theorem mem_text {ip : IpAddr} {b : UInt8} (member : b ∈ ip.text) : b ∈ ascii "0123456789abcdef.:" := by
  cases ip with
  | v4 octets => exact mem_textV4 member
  | v6 segments =>
      have fixed : ∀ b : UInt8, b ∈ ascii "::ffff:" ∨ b ∈ ascii "::" → b ∈ ascii "0123456789abcdef.:" := by
        intro b
        rw [← List.mem_append]
        revert b
        decide
      simp only [text] at member
      split_ifs at member
      · rcases List.mem_append.mp member with mapped | octet
        · exact fixed b (.inl mapped)
        · exact mem_textV4 octet
      · rcases List.mem_append.mp member with front | back
        · rcases List.mem_append.mp front with front | gap
          · exact mem_textSegments front
          · exact fixed b (.inr gap)
        · exact mem_textSegments back
      · exact mem_textSegments member

theorem length_text (ip : IpAddr) : ip.text.length ≤ 39 := by
  cases ip with
  | v4 octets =>
      have length := length_textV4 octets.toList
      rw [Vector.length_toList] at length
      exact Nat.le_trans length (by decide)
  | v6 segments =>
      have run := longestZeroRun_inside segments.toList
      have all := length_textSegments segments.toList
      have front := length_textSegments (segments.toList.take (longestZeroRun segments.toList).1)
      have back := length_textSegments
        (segments.toList.drop ((longestZeroRun segments.toList).1 + (longestZeroRun segments.toList).2))
      have widths : (ascii "::ffff:").length = 7 ∧ (ascii "::").length = 2 := by decide
      simp only [Vector.length_toList, List.length_take, List.length_drop] at run all front back
      simp only [text]
      split_ifs with mapped compressed
      · have octets := length_textV4 ((segments.toList.drop 6).flatMap toBeBytes16)
        have four : ((segments.toList.drop 6).flatMap toBeBytes16).length = 4 := by
          have pairs : (fun s : UInt16 => (toBeBytes16 s).length) = fun _ => 2 := rfl
          rw [List.length_flatMap, pairs, List.map_const', List.length_drop, Vector.length_toList]
          rfl
        rw [List.length_append]
        omega
      · rw [List.length_append, List.length_append]
        omega
      · exact Nat.le_trans all (by decide)

end IpAddr

end Net
