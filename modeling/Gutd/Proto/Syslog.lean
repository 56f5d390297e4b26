import Gutd.Shared.Calendar
import Gutd.Shared.Checked
import Gutd.Shared.Text

set_option autoImplicit false

-- `proto/syslog.rs`.

namespace Gutd.Syslog

open Bytes Checked

def syslogHdrBase : Nat := 36

def headerLine (now : Nat) (serviceName : Buf) : Buf :=
  let z := now / 86400 + 719468
  let era := z / 146097
  let doe := z - era * 146097
  let yoe := (doe - doe / 1460 + doe / 36524 - doe / 146096) / 365
  let y := yoe + era * 400
  let doy := doe - (365 * yoe + yoe / 4 - yoe / 100)
  let mp := (5 * doy + 2) / 153
  let d := doy - (153 * mp + 2) / 5 + 1
  let m := if mp < 10 then mp + 3 else mp - 9
  let y := if m ≤ 2 then y + 1 else y
  ascii "<165>1 " ++ decimalPadded 4 y ++ ascii "-" ++ decimalPadded 2 m ++ ascii "-" ++ decimalPadded 2 d ++ ascii "T" ++
    decimalPadded 2 (now / 3600 % 24) ++ ascii ":" ++ decimalPadded 2 (now / 60 % 60) ++ ascii ":" ++
    decimalPadded 2 (now % 60) ++ ascii "Z " ++ serviceName ++ ascii " - - -  "

-- The header at the start of a buffer of `room` bytes. What exceeds the expected length is cut off.
def writeHeader (room now : Nat) (serviceName : Buf) : Result Buf :=
  let hlen := syslogHdrBase + serviceName.length
  if hlen ≤ room then pure ((headerLine now serviceName).take hlen) else throw .outOfBounds

def marker : Buf := ascii " - - -  "

def checkHeader (buf : Buf) : Option Nat :=
  if buf.length < syslogHdrBase then none
  else if slice buf 0 7 ≠ ascii "<165>1 " then none
  else
    let stop := min buf.length 68
    ((List.range' 28 (stop - 7 - 28)).find? fun i => slice buf i (i + 8) == marker).map (· + 8)

theorem checkHeader_first {buf : Buf} {hdrLen : Nat} (found : checkHeader buf = some hdrLen) :
    byteAt buf 0 = 0x3C := by
  unfold checkHeader at found
  split_ifs at found with short tag
  have tagged := not_not.mp tag
  calc byteAt buf 0 = byteAt (slice buf 0 7) 0 := by simp [byteAt_slice]
    _ = byteAt (ascii "<165>1 ") 0 := by rw [tagged]
    _ = 0x3C := by decide

theorem checkHeader_bounds {buf : Buf} {hdrLen : Nat} (found : checkHeader buf = some hdrLen) :
    36 ≤ hdrLen ∧ hdrLen ≤ buf.length := by
  unfold checkHeader at found
  split_ifs at found with short tag
  obtain ⟨i, here, rfl⟩ := Option.map_eq_some_iff.mp found
  obtain ⟨below, above⟩ := List.mem_range'_1.mp (List.mem_of_find?_eq_some here)
  rw [syslogHdrBase] at short
  omega

inductive Line (text : Buf) : Buf → Prop where
  | mk (front name : Buf) (tag : front.take 7 = ascii "<165>1 ") (length : front.length = 28) (short : name.length ≤ 31)
      (word : 0x20 ∉ name) : Line text (front ++ (name ++ (marker ++ text)))

theorem slice_eq_marker {front name text : Buf} {i : Nat} (length : front.length = 28) (word : 0x20 ∉ name)
    (behind : 28 ≤ i) (before : i ≤ 28 + name.length) :
    slice (front ++ (name ++ (marker ++ text))) i (i + 8) = marker ↔ i = 28 + name.length := by
  constructor
  · intro found
    by_contra other
    have first : byteAt (front ++ (name ++ (marker ++ text))) i = 0x20 := by
      calc byteAt (front ++ (name ++ (marker ++ text))) i
          = byteAt (slice (front ++ (name ++ (marker ++ text))) i (i + 8)) 0 := by simp [byteAt_slice]
        _ = byteAt marker 0 := by rw [found]
        _ = 0x20 := by decide
    rw [byteAt_append, if_neg (by omega), byteAt_append, if_pos (by omega), byteAt_eq_getElem _ _ (by omega)] at first
    exact word (first ▸ List.getElem_mem _)
  · rintro rfl
    have start : (front ++ name).length = 28 + name.length := by simp [length]
    rw [← List.append_assoc, ← start]
    exact slice_middle _ _ _ _ rfl

variable {text buf : Buf}

theorem Line.length_ge (line : Line text buf) : 36 + text.length ≤ buf.length := by
  obtain ⟨front, name, -, length⟩ := line
  simp [length, marker, ascii]
  omega

theorem Line.checkHeader (line : Line text buf) : ∃ hdrLen, checkHeader buf = some hdrLen ∧ buf.drop hdrLen = text := by
  have enough := line.length_ge
  obtain ⟨front, name, tag, length, short, word⟩ := line
  have markerLength : marker.length = 8 := rfl
  have total : (front ++ (name ++ (marker ++ text))).length = 36 + name.length + text.length := by
    simp only [List.length_append, length, markerLength]
    omega
  have starts : slice (front ++ (name ++ (marker ++ text))) 0 7 = ascii "<165>1 " := by
    rw [slice_zero, List.take_append_of_le_length (by omega), tag]
  have found : (List.range' 28 (min (36 + name.length + text.length) 68 - 7 - 28)).find?
      (fun i => slice (front ++ (name ++ (marker ++ text))) i (i + 8) == marker) = some (28 + name.length) := by
    rw [List.find?_range'_eq_some]
    refine ⟨by simp [slice_eq_marker length word], List.mem_range'_1.mpr ⟨by omega, by omega⟩, ?_⟩
    intro j behind before
    simp [slice_eq_marker length word behind (by omega)]
    omega
  refine ⟨28 + name.length + 8, ?_, ?_⟩
  · unfold Syslog.checkHeader
    rw [syslogHdrBase, total, if_neg (by omega), if_neg (by simp [starts])]
    dsimp only
    rw [found]
    rfl
  · have header : (front ++ (name ++ marker)).length = 28 + name.length + 8 := by
      simp only [List.length_append, length, markerLength]
      omega
    rw [← List.append_assoc name, ← List.append_assoc front, ← header, List.drop_left]

theorem headerLine_eq (now : Nat) (name : Buf) :
    headerLine now name = ascii "<165>1 " ++ decimalPadded 4 (Calendar.year (now / 86400)) ++ ascii "-" ++
      decimalPadded 2 (Calendar.month (now / 86400)) ++ ascii "-" ++ decimalPadded 2 (Calendar.day (now / 86400)) ++
      ascii "T" ++ decimalPadded 2 (now / 3600 % 24) ++ ascii ":" ++ decimalPadded 2 (now / 60 % 60) ++ ascii ":" ++
      decimalPadded 2 (now % 60) ++ ascii "Z " ++ name ++ ascii " - - -  " := rfl

theorem length_headerLine_ge (now : Nat) (name : Buf) : 36 + name.length ≤ (headerLine now name).length := by
  have fixed : (ascii "<165>1 ").length = 7 ∧ (ascii "-").length = 1 ∧ (ascii "T").length = 1 ∧ (ascii ":").length = 1 ∧
      (ascii "Z ").length = 2 ∧ (ascii " - - -  ").length = 8 := by decide
  obtain ⟨tag, dash, t, colon, z, marker⟩ := fixed
  have year := le_length_decimalPadded 4 (Calendar.year (now / 86400))
  have month := le_length_decimalPadded 2 (Calendar.month (now / 86400))
  have day := le_length_decimalPadded 2 (Calendar.day (now / 86400))
  have hour := le_length_decimalPadded 2 (now / 3600 % 24)
  have minute := le_length_decimalPadded 2 (now / 60 % 60)
  have second := le_length_decimalPadded 2 (now % 60)
  rw [headerLine_eq]
  simp only [List.length_append, tag, dash, t, colon, z, marker]
  omega

theorem writeHeader_ok {room : Nat} {name : Buf} (now : Nat) (fits : 36 + name.length ≤ room) :
    ∃ header, writeHeader room now name = .ok header ∧ header.length = 36 + name.length := by
  refine ⟨_, if_pos fits, ?_⟩
  rw [List.length_take, syslogHdrBase]
  exact Nat.min_eq_left (length_headerLine_ge now name)

theorem writeHeader_line {room now : Nat} {name : Buf} (fits : 67 ≤ room) (fourDigits : Calendar.year (now / 86400) < 10000)
    (short : name.length ≤ 31) (word : 0x20 ∉ name) :
    ∃ header, writeHeader room now name = .ok header ∧ header.length = 36 + name.length ∧
      ∀ text, Line text (header ++ text) := by
  have written := headerLine_eq now name
  generalize front : ascii "<165>1 " ++ decimalPadded 4 (Calendar.year (now / 86400)) ++ ascii "-" ++
    decimalPadded 2 (Calendar.month (now / 86400)) ++ ascii "-" ++ decimalPadded 2 (Calendar.day (now / 86400)) ++
    ascii "T" ++ decimalPadded 2 (now / 3600 % 24) ++ ascii ":" ++ decimalPadded 2 (now / 60 % 60) ++ ascii ":" ++
    decimalPadded 2 (now % 60) ++ ascii "Z " = stamp at written
  have two (n : Nat) (small : n < 100) : (decimalPadded 2 n).length = 2 := length_decimalPadded (by decide) small
  have month := Calendar.month_range (now / 86400)
  have day := Calendar.day_range (now / 86400)
  have length : stamp.length = 28 := by
    rw [← front]
    simp only [List.length_append]
    rw [length_decimalPadded (by decide) fourDigits, two _ (by omega), two _ (by omega), two _ (by omega), two _ (by omega),
      two _ (by omega)]
    rfl
  have tag : stamp.take 7 = ascii "<165>1 " := by
    rw [← front]
    simp only [List.append_assoc]
    exact List.take_left' rfl
  have total : (headerLine now name).length = 36 + name.length := by
    rw [written, List.length_append, List.length_append, length]
    change 28 + name.length + 8 = 36 + name.length
    omega
  refine ⟨headerLine now name, ?_, total, ?_⟩
  · unfold writeHeader
    rw [syslogHdrBase, if_pos (by omega), ← total, List.take_length]
    rfl
  · intro text
    rw [written, List.append_assoc, List.append_assoc]
    exact .mk stamp name tag length short word

end Gutd.Syslog
