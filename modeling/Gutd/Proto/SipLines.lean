import Gutd.Proto.Base64
import Gutd.Proto.Sip
import Gutd.Shared.Calendar
import Gutd.Shared.Net
import Gutd.Shared.Scan

set_option autoImplicit false

namespace Gutd.Sip

open Bytes Scan

def lineText (lines : List Buf) : Buf := lines.flatMap (· ++ crlf)

structure Plain (line : Buf) : Prop where
  nonempty : line ≠ []
  whole : 0x0D ∉ line

theorem Plain.head {line : Buf} (plain : Plain line) (rest : Buf) : (line ++ rest).head? ≠ some 0x0D := by
  obtain ⟨first, others, rfl⟩ := List.exists_cons_of_ne_nil plain.nonempty
  intro starts
  cases starts
  exact plain.whole List.mem_cons_self

theorem head_lineText {lines : List Buf} {last : Buf} (plain : ∀ line ∈ lines, Plain line) (lastPlain : Plain last)
    (rest : Buf) : (lineText lines ++ (last ++ rest)).head? ≠ some 0x0D := by
  cases lines with
  | nil => exact lastPlain.head rest
  | cons line lines =>
      rw [lineText, List.flatMap_cons, List.append_assoc, List.append_assoc]
      exact (plain line List.mem_cons_self).head _

theorem quiet_crlf {rest : Buf} (other : rest.head? ≠ some 0x0D) : Quiet (literal (crlf ++ crlf)) crlf rest := by
  intro i inside found
  have two : crlf.length = 2 := rfl
  have split : i = 0 ∨ i = 1 := by omega
  rcases split with rfl | rfl
  · have third := found 2 0x0D rfl
    rw [List.head?_eq_getElem?] at other
    exact other third
  · have first := found 0 0x0D rfl
    cases first

-- the induction goes along the lines; each is ruled out by the first byte of what follows it
theorem quiet_lines {lines : List Buf} {last : Buf} (plain : ∀ line ∈ lines, Plain line) (lastPlain : Plain last)
    (rest : Buf) : Quiet (literal (crlf ++ crlf)) (lineText lines ++ last) rest := by
  induction lines with
  | nil => exact .of_absent 0 0x0D rfl lastPlain.whole (by simp)
  | cons line lines ih =>
      have others : ∀ line ∈ lines, Plain line := fun line member => plain line (List.mem_cons_of_mem _ member)
      have here : Quiet (literal (crlf ++ crlf)) (line ++ crlf) (lineText lines ++ last ++ rest) := by
        refine .append (.of_absent 0 0x0D rfl (plain line List.mem_cons_self).whole (by simp)) (quiet_crlf ?_)
        rw [List.append_assoc]
        exact head_lineText others lastPlain rest
      have split : lineText (line :: lines) ++ last = line ++ crlf ++ (lineText lines ++ last) := by
        rw [lineText, List.flatMap_cons, List.append_assoc]
        rfl
      rw [split]
      exact .append here (ih others)

theorem findCrlfCrlf_lines {lines : List Buf} {last : Buf} (plain : ∀ line ∈ lines, Plain line) (lastPlain : Plain last)
    (rest : Buf) :
    findCrlfCrlf (lineText lines ++ last ++ (crlf ++ crlf ++ rest)) = some ((lineText lines ++ last).length + 4) := by
  rw [findCrlfCrlf, findWindow_eq_some (by decide) (quiet_lines plain lastPlain _), Option.map_some]

def methods : List Buf :=
  [ascii "INVITE ", ascii "REGISTER ", ascii "MESSAGE ", ascii "OPTIONS ", ascii "SIP/2.0 "]

theorem startsValid_of_method {tag : Buf} (known : tag ∈ methods) (rest : Buf) : startsValid (tag ++ rest) = true := by
  have starts : tag.isPrefixOf (tag ++ rest) = true := List.isPrefixOf_iff_prefix.mpr (List.prefix_append _ _)
  simp only [methods, List.mem_cons, List.not_mem_nil, or_false] at known
  unfold startsValid
  rcases known with rfl | rfl | rfl | rfl | rfl <;> rw [starts] <;> simp

inductive Message (text : Buf) : Buf → Prop where
  | mk (tag front : Buf) (lines : List Buf) (last sdp : Buf) (known : tag ∈ methods)
      (starts : lineText lines ++ last = tag ++ front) (plain : ∀ line ∈ lines, Plain line) (lastPlain : Plain last)
      (quiet : Quiet (literal fmtpMarker) sdp (fmtpMarker ++ text)) :
      Message text (lineText lines ++ last ++ (crlf ++ crlf ++ (sdp ++ (fmtpMarker ++ text))))

variable {text buf : Buf}

theorem Message.startsValid (message : Message text buf) : startsValid buf = true := by
  obtain ⟨tag, front, lines, last, sdp, known, starts⟩ := message
  rw [starts, List.append_assoc]
  exact startsValid_of_method known _

theorem Message.length_ge (message : Message text buf) : 13 + text.length ≤ buf.length := by
  obtain ⟨tag, front, lines, last, sdp, known, starts⟩ := message
  have widths : crlf.length = 2 ∧ fmtpMarker.length = 9 := ⟨rfl, rfl⟩
  simp only [List.length_append]
  omega

theorem Message.checkHeader (message : Message text buf) : ∃ hdrLen, checkHeader buf = some hdrLen ∧ buf.drop hdrLen = text := by
  have valid := message.startsValid
  obtain ⟨tag, front, lines, last, sdp, known, starts, plain, lastPlain, quiet⟩ := message
  have widths : crlf.length = 2 ∧ fmtpMarker.length = 9 := ⟨rfl, rfl⟩
  have shortest : ∀ tag ∈ methods, 7 ≤ tag.length := by decide
  have method := shortest tag known
  have separator := findCrlfCrlf_lines plain lastPlain (sdp ++ (fmtpMarker ++ text))
  have header : (lineText lines ++ last ++ (crlf ++ crlf)).length = (lineText lines ++ last).length + 4 := by
    simp only [List.length_append]
    omega
  have body : (lineText lines ++ last ++ (crlf ++ crlf ++ (sdp ++ (fmtpMarker ++ text)))).drop
      ((lineText lines ++ last).length + 4) = sdp ++ (fmtpMarker ++ text) := by
    rw [← List.append_assoc _ (crlf ++ crlf), ← header, List.drop_left]
  have long : 16 ≤ (lineText lines ++ last ++ (crlf ++ crlf ++ (sdp ++ (fmtpMarker ++ text)))).length := by
    rw [starts]
    simp only [List.length_append]
    omega
  refine ⟨(lineText lines ++ last).length + 4 + sdp.length + 9, ?_, ?_⟩
  · unfold Sip.checkHeader
    rw [if_neg (by omega), valid]
    simp only [Bool.not_true, Bool.false_eq_true, if_false, separator, body, findWindow_eq_some (by decide) quiet]
    rfl
  · have marker : (sdp ++ fmtpMarker).length = sdp.length + 9 := by rw [List.length_append, widths.2]
    rw [Nat.add_assoc, ← List.drop_drop, body, ← List.append_assoc, ← marker, List.drop_left]

inductive Enveloped (q : Buf) : Buf → Prop where
  | signal {p : Buf} (text : Message (Base64.encode q) p) : Enveloped q p
  | rtp {header : Buf} (length : header.length = 12) (version : byteAt header 0 = 0x80) (type : byteAt header 1 = 0x60) :
      Enveloped q (header ++ q)

end Gutd.Sip
