import Gutd.Proto.SipHeader
import Gutd.Shared.Numerals

set_option autoImplicit false

namespace Gutd.Sip

open Bytes Checked Scan

def dateMarker : Buf := ascii "Date: "

def u64Max : Nat := 2 ^ 64 - 1

def parseTimestampFromDateHeader (buf : Buf) : Option Nat := do
  let datePos ← findWindow dateMarker buf
  let dateStart := datePos + dateMarker.length
  let dateEnd := (← findWindow crlf (buf.drop dateStart)) + dateStart
  pure ((slice buf dateStart dateEnd).foldl (saturatingStep u64Max) 0)

def fromStrRadix16 (text : Buf) : Option UInt32 := (Str.parseUnsigned 16 4294967295 text).toOption.map UInt32.ofNat

def verifyAuthTokenFromTimestamp (tokenStr : Buf) (packetTimestampValue : Nat) (feistelKey : Vector UInt32 4) : Bool :=
  if tokenStr.length ≠ 8 then false
  else
    match fromStrRadix16 tokenStr with
    | none => false
    | some token => token == sipHash32 (UInt32.ofNat (packetTimestampValue / 10000)) feistelKey

def branchToken (buf : Buf) : Option Buf := do
  let via ← findWindow (ascii "\r\nVia: ") buf
  let branch ← findWindow (ascii "branch=z9hG4bK-") (buf.drop via)
  pure (slice buf (via + branch + 15) (via + branch + 23))

theorem digitValue_hexDigit {n : Nat} (digit : n < 16) : Str.digitValue 16 (hexDigit n) = some n := by
  have all : ∀ d : Fin 16, Str.digitValue 16 (hexDigit d.val) = some d.val := by decide
  exact all ⟨n, digit⟩

theorem positional_hex8 (x : UInt32) : Str.positional 16 (hex8 x) = x.toNat := by
  have bounded := x.toNat_lt
  -- after `n` digits the value is the number without its last `8 - n` digits
  have read (n : Nat) (inside : n ≤ 8) :
      Str.positional 16 ((List.range n).map fun i => hexDigit (x.toNat / 16 ^ (7 - i) % 16)) = x.toNat / 16 ^ (8 - n) := by
    induction n with
    | zero =>
        rw [Nat.div_eq_of_lt (by omega)]
        rfl
    | succ n ih =>
        have next : x.toNat / 16 ^ (8 - n) = x.toNat / 16 ^ (7 - n) / 16 := by
          rw [Nat.div_div_eq_div_mul, ← Nat.pow_succ, show (7 - n).succ = 8 - n by omega]
        have same : 8 - (n + 1) = 7 - n := by omega
        have earlier := ih (by omega)
        rw [Str.positional] at earlier
        rw [List.range_succ, List.map_append, List.map_singleton, Str.positional, List.foldl_concat, earlier, next, same,
          Str.positionalStep, digitValue_hexDigit (Nat.mod_lt _ (by decide)), Option.getD_some]
        omega
  have all := read 8 (Nat.le_refl 8)
  rwa [Nat.sub_self, Nat.pow_zero, Nat.div_one] at all

theorem numeral_hex8 (x : UInt32) : Str.Numeral 16 (hex8 x) x.toNat := by
  refine ⟨?_, ?_, positional_hex8 x⟩
  · rw [← List.length_pos_iff, length_hex8]
    decide
  · intro b member
    obtain ⟨i, -, rfl⟩ := List.mem_map.mp member
    rw [digitValue_hexDigit (Nat.mod_lt _ (by decide))]
    rfl

theorem fromStrRadix16_hex8 (x : UInt32) : fromStrRadix16 (hex8 x) = some x := by
  have bounded := x.toNat_lt
  have parsed := (Str.parseUnsigned_eq_ok (by decide)).mpr ⟨hex8 x, .inl rfl, numeral_hex8 x, Nat.le_of_lt_succ bounded⟩
  rw [fromStrRadix16, parsed]
  exact congrArg some UInt32.ofNat_toNat

theorem verify_hex8 (token : UInt32) (value : Nat) (key : Vector UInt32 4) :
    verifyAuthTokenFromTimestamp (hex8 token) value key = true ↔ token = sipHash32 (UInt32.ofNat (value / 10000)) key := by
  rw [verifyAuthTokenFromTimestamp, if_neg (by rw [length_hex8]; decide), fromStrRadix16_hex8]
  exact beq_iff_eq

def dateText (a : HeaderArgs) : Buf := a.dateStr ++ (ascii " " ++ (a.timeOfDay ++ ascii " GMT"))

def behindDomain (kind : SipKind) (a : HeaderArgs) : Buf :=
  match kind with
  | .register => ascii " SIP/2.0"
  | .message | .options => ascii ":" ++ (a.dportText ++ ascii " SIP/2.0")
  | .response401 =>
      ascii "\", nonce=\"" ++ (hex8 (sipHash32 (UInt32.ofNat (a.nowUs / 1000)) a.feistelKey) ++ ascii "\", algorithm=MD5")
  | .response200 | .response403 => ascii ">;tag=" ++ hex8 a.fromTag

def viaLine (a : HeaderArgs) : Buf :=
  ascii "Via: SIP/2.0/UDP " ++ (a.srcIp ++ (ascii ":" ++ (a.sportText ++ (ascii ";branch=z9hG4bK-" ++ hex8 a.authToken))))

def senderFront (a : HeaderArgs) : Buf := ascii "From: <sip:" ++ (a.sportText ++ ascii "@")

def beforeDomain (kind : SipKind) (a : HeaderArgs) : Buf :=
  match kind with
  | .register => ascii "REGISTER sip:"
  | .message => ascii "MESSAGE sip:" ++ (a.dportText ++ ascii "@")
  | .options => ascii "OPTIONS sip:" ++ (a.dportText ++ ascii "@")
  | .response401 => ascii "SIP/2.0 401 Unauthorized" ++ (crlf ++ ascii "WWW-Authenticate: Digest realm=\"")
  | .response200 => ascii "SIP/2.0 200 OK" ++ (crlf ++ (viaLine a ++ (crlf ++ (ascii "Max-Forwards: 70" ++ (crlf ++ senderFront a)))))
  | .response403 =>
      ascii "SIP/2.0 403 Forbidden" ++ (crlf ++ (viaLine a ++ (crlf ++ (ascii "Max-Forwards: 70" ++ (crlf ++ senderFront a)))))

def recipientLines (kind : SipKind) (a : HeaderArgs) : Buf :=
  ascii "To: <sip:" ++ (a.dportText ++ (ascii "@" ++ (a.domain ++ (ascii ">" ++
    ((if isResponse kind then ascii ";tag=" ++ hex8 a.toTag else []) ++ (crlf ++ (ascii "Call-ID: " ++ (hex8 a.authToken ++
      (ascii "@" ++ (a.domain ++ (crlf ++ (ascii "CSeq: " ++ (a.cseq ++ (ascii " " ++ (ascii (cseqMethod kind) ++ crlf)))))))))))))))

def beforeDate (kind : SipKind) (a : HeaderArgs) : Buf :=
  match kind with
  | .response200 | .response403 => recipientLines kind a
  | .register | .message | .options | .response401 =>
      viaLine a ++ (crlf ++ (ascii "Max-Forwards: 70" ++ (crlf ++ (senderFront a ++ (a.domain ++ (ascii ">;tag=" ++
        (hex8 a.fromTag ++ (crlf ++ recipientLines kind a))))))))

theorem optionsKeepalive_eq (a : HeaderArgs) :
    optionsKeepalive a = startLine .options a ++ (fieldLines .options a ++ ascii "Content-Length: 0\r\n\r\n") := by
  have via : ascii " SIP/2.0\r\nVia: SIP/2.0/UDP " = ascii " SIP/2.0\r\n" ++ ascii "Via: SIP/2.0/UDP " := by decide
  have call : ascii ">\r\nCall-ID: " = ascii ">" ++ (ascii "\r\n" ++ ascii "Call-ID: ") := by decide
  have date : ascii " OPTIONS\r\nDate: " = ascii " " ++ (ascii "OPTIONS" ++ ascii "\r\nDate: ") := by decide
  have agent : ascii ">\r\nUser-Agent: Asterisk PBX 16.2.0\r\nContent-Length: 0\r\n\r\n" =
      ascii ">\r\nUser-Agent: Asterisk PBX 16.2.0\r\n" ++ ascii "Content-Length: 0\r\n\r\n" := by decide
  have method : cseqMethod .options = "OPTIONS" := rfl
  have request : isResponse .options = false := rfl
  unfold optionsKeepalive startLine fieldLines
  simp only [via, call, date, agent, method]
  simp only [request, Bool.false_eq_true, if_false]
  simp only [List.append_assoc]

theorem headerText_lines (kind : SipKind) (a : HeaderArgs) :
    ∃ rest, headerText kind a = lineText (startLines kind a) ++ (lineText (fields kind a) ++ rest) := by
  unfold headerText
  split_ifs with keepalive
  · obtain ⟨rfl, -⟩ := keepalive
    rw [optionsKeepalive_eq, startLine_eq, fieldLines_eq]
    exact ⟨_, rfl⟩
  · rw [startLine_eq, fieldLines_eq, List.append_assoc]
    exact ⟨_, rfl⟩

theorem headerText_parts (kind : SipKind) (a : HeaderArgs) :
    ∃ rest, headerText kind a = beforeDomain kind a ++ (a.domain ++ behindDomain kind a ++ (crlf ++ (beforeDate kind a ++
      (dateMarker ++ (dateText a ++ (crlf ++ rest)))))) := by
  obtain ⟨rest, lines⟩ := headerText_lines kind a
  rw [lines]
  cases kind <;>
    simp only [startLines, fields, lineText, List.flatMap_cons, List.flatMap_nil, List.append_assoc, List.append_nil,
      beforeDomain, behindDomain, beforeDate, recipientLines, viaLine, senderFront, dateText, dateMarker] <;>
    exact ⟨_, rfl⟩

section Quiet

variable {a : HeaderArgs} {rest : Buf}

theorem quiet_decimal (n : Nat) : Quiet (literal dateMarker) (decimal n) rest :=
  .of_absent 0 0x44 (by decide) (fun member => absurd (mem_decimal member) (by decide)) (by simp)

theorem quiet_hex8 (x : UInt32) : Quiet (literal dateMarker) (hex8 x) rest :=
  .of_absent 0 0x44 (by decide) (fun member => absurd (mem_hex8 member) (by decide)) (by simp)

theorem quiet_text (text : String) (fixed : Quiet.differs (literal dateMarker) (ascii text) = true) :
    Quiet (literal dateMarker) (ascii text) rest := .of_differs fixed

theorem quiet_lineEnd : Quiet (literal dateMarker) crlf rest := .of_differs (by decide)

theorem no_blank_append {first rest : Buf} {k : Nat} (here : 0x20 ∉ first) (later : 0x20 ∉ rest.take (k - first.length)) :
    0x20 ∉ (first ++ rest).take k := by
  rw [List.take_append, List.mem_append]
  rintro (member | member)
  · exact here (List.mem_of_mem_take member)
  · exact later member

theorem no_blank_text {text : String} {rest : Buf} {k : Nat} (long : k ≤ (ascii text).length)
    (none : 0x20 ∉ (ascii text).take k) : 0x20 ∉ (ascii text ++ rest).take k := by
  rwa [List.take_append_of_le_length long]

theorem quiet_senderFront : Quiet (literal dateMarker) (senderFront a) rest :=
  .append (quiet_text _ (by decide)) (.append (quiet_decimal _) (quiet_text _ (by decide)))

variable (address : ∀ b ∈ a.srcIp, b ∈ ascii "0123456789abcdef.:")

include address

theorem quiet_viaLine : Quiet (literal dateMarker) (viaLine a) rest := by
  have ip {rest : Buf} : Quiet (literal dateMarker) a.srcIp rest :=
    .of_absent 0 0x44 (by decide) (fun member => absurd (address _ member) (by decide)) (by simp)
  exact .append (quiet_text _ (by decide)) (.append ip (.append (quiet_text _ (by decide))
    (.append (quiet_decimal _) (.append (quiet_text _ (by decide)) (quiet_hex8 _)))))

theorem quiet_beforeDomain (kind : SipKind) : Quiet (literal dateMarker) (beforeDomain kind a) rest := by
  have upToSender {rest : Buf} : Quiet (literal dateMarker)
      (crlf ++ (viaLine a ++ (crlf ++ (ascii "Max-Forwards: 70" ++ (crlf ++ senderFront a))))) rest :=
    .append quiet_lineEnd (.append (quiet_viaLine address) (.append quiet_lineEnd (.append (quiet_text _ (by decide))
      (.append quiet_lineEnd quiet_senderFront))))
  cases kind with
  | register => exact quiet_text _ (by decide)
  | message => exact .append (quiet_text _ (by decide)) (.append (quiet_decimal _) (quiet_text _ (by decide)))
  | options => exact .append (quiet_text _ (by decide)) (.append (quiet_decimal _) (quiet_text _ (by decide)))
  | response200 => exact .append (quiet_text _ (by decide)) upToSender
  | response401 => exact .append (quiet_text _ (by decide)) (.append quiet_lineEnd (quiet_text _ (by decide)))
  | response403 => exact .append (quiet_text _ (by decide)) upToSender

-- a domain without the marker hides none behind it either: no field goes on with a blank
theorem quiet_beforeDate (kind : SipKind) (domain : Quiet (literal dateMarker) a.domain []) :
    Quiet (literal dateMarker) (beforeDate kind a) rest := by
  have name {rest : Buf} (behind : 0x20 ∉ rest.take 5) : Quiet (literal dateMarker) a.domain rest :=
    domain.extend 5 0x20 (by decide) (by decide) behind
  have recipient {rest : Buf} : Quiet (literal dateMarker) (recipientLines kind a) rest := by
    have tag {rest : Buf} : Quiet (literal dateMarker) (if isResponse kind then ascii ";tag=" ++ hex8 a.toTag else []) rest := by
      split_ifs
      · exact .append (quiet_text _ (by decide)) (quiet_hex8 _)
      · exact .nil
    have method {rest : Buf} : Quiet (literal dateMarker) (ascii (cseqMethod kind)) rest := by
      cases kind <;> exact quiet_text _ (by decide)
    refine .append (quiet_text _ (by decide)) (.append (quiet_decimal _) (.append (quiet_text _ (by decide))
      (.append (name ?_) (.append (quiet_text _ (by decide)) (.append tag (.append quiet_lineEnd
        (.append (quiet_text _ (by decide)) (.append (quiet_hex8 _) (.append (quiet_text _ (by decide))
          (.append (name ?_) (.append quiet_lineEnd (.append (quiet_text _ (by decide)) (.append (quiet_decimal _)
            (.append (quiet_text _ (by decide)) (.append method quiet_lineEnd)))))))))))))))
    · simp only [List.append_assoc]
      refine no_blank_append (by decide) ?_
      split_ifs
      · rw [List.append_assoc]
        exact no_blank_text (by decide) (by decide)
      · exact no_blank_append (by decide) (no_blank_append (by decide) (no_blank_text (by decide) (by decide)))
    · simp only [List.append_assoc]
      exact no_blank_append (by decide) (no_blank_text (by decide) (by decide))
  have upToRecipient {rest : Buf} : Quiet (literal dateMarker) (viaLine a ++ (crlf ++ (ascii "Max-Forwards: 70" ++ (crlf ++
      (senderFront a ++ (a.domain ++ (ascii ">;tag=" ++ (hex8 a.fromTag ++ (crlf ++ recipientLines kind a))))))))) rest := by
    refine .append (quiet_viaLine address) (.append quiet_lineEnd (.append (quiet_text _ (by decide))
      (.append quiet_lineEnd (.append quiet_senderFront (.append (name ?_) (.append (quiet_text _ (by decide))
        (.append (quiet_hex8 _) (.append quiet_lineEnd recipient))))))))
    simp only [List.append_assoc]
    exact no_blank_text (by decide) (by decide)
  cases kind with
  | register | message | options | response401 => exact upToRecipient
  | response200 | response403 => exact recipient

end Quiet

def dateSource (kind : SipKind) (a : HeaderArgs) : Buf :=
  match findWindow dateMarker (a.domain ++ behindDomain kind a) with
  | some i => (a.domain ++ behindDomain kind a).drop (i + dateMarker.length)
  | none => dateText a

theorem parse_of_found {buf text rest : Buf} {i : Nat} (found : findWindow dateMarker buf = some i)
    (behind : buf.drop (i + dateMarker.length) = text ++ (crlf ++ rest)) (whole : 0x0D ∉ text) :
    parseTimestampFromDateHeader buf = some (min (digitsValue text) u64Max) := by
  have lineEnd : findWindow crlf (text ++ (crlf ++ rest)) = some text.length :=
    findWindow_eq_some (by decide) (.of_absent 0 0x0D rfl whole (by simp))
  have line : slice buf (i + dateMarker.length) (text.length + (i + dateMarker.length)) = text := by
    rw [slice, behind, Nat.add_sub_cancel, List.take_left]
  have value := foldl_saturatingStep u64Max 0 text
  rw [Nat.zero_min] at value
  rw [parseTimestampFromDateHeader, found]
  change (findWindow crlf (buf.drop (i + dateMarker.length)) >>= _) = _
  rw [behind, lineEnd]
  change some ((slice buf (i + dateMarker.length) (text.length + (i + dateMarker.length))).foldl (saturatingStep u64Max) 0) = _
  rw [line, value]
  rfl

theorem cr_behindDomain (kind : SipKind) (a : HeaderArgs) : 0x0D ∉ behindDomain kind a := by
  cases kind <;> simp (disch := decide) only [behindDomain, List.mem_append, mem_ascii_false, HeaderArgs.dportText, cr_decimal,
    cr_hex8, or_self, not_false_eq_true]

theorem parseTimestamp_headerText {kind : SipKind} {a : HeaderArgs} (address : ∀ b ∈ a.srcIp, b ∈ ascii "0123456789abcdef.:")
    (domain : 0x0D ∉ a.domain) (date : 0x0D ∉ a.dateStr) :
    parseTimestampFromDateHeader (headerText kind a) = some (min (digitsValue (dateSource kind a)) u64Max) := by
  obtain ⟨rest, parts⟩ := headerText_parts kind a
  have line : 0x0D ∉ a.domain ++ behindDomain kind a := by
    rw [List.mem_append]
    exact not_or.mpr ⟨domain, cr_behindDomain kind a⟩
  rw [parts]
  cases found : findWindow dateMarker (a.domain ++ behindDomain kind a) with
  | some i =>
      have source : dateSource kind a = (a.domain ++ behindDomain kind a).drop (i + dateMarker.length) := by
        rw [dateSource, found]
      have inside := findWindow_bound found
      generalize a.domain ++ behindDomain kind a = named at *
      rw [source]
      generalize beforeDate kind a ++ (dateMarker ++ (dateText a ++ (crlf ++ rest))) = later
      have here : findWindow dateMarker (beforeDomain kind a ++ (named ++ (crlf ++ later))) =
          some ((beforeDomain kind a).length + i) := by
        rw [findWindow_quiet (quiet_beforeDomain address kind), findWindow_append found, Option.map_some]
      have behind : (beforeDomain kind a ++ (named ++ (crlf ++ later))).drop
          ((beforeDomain kind a).length + i + dateMarker.length) = named.drop (i + dateMarker.length) ++ (crlf ++ later) := by
        rw [Nat.add_assoc, ← List.drop_drop, List.drop_left, List.drop_append_of_le_length inside]
      exact parse_of_found here behind fun member => line (List.mem_of_mem_drop member)
  | none =>
      have source : dateSource kind a = dateText a := by rw [dateSource, found]
      have quiet := quiet_of_findWindow_none found
      have name : Quiet (literal dateMarker) a.domain [] := (Quiet.append_iff.mp quiet).1.alone
      have start {behind : Buf} : 0x20 ∉ (crlf ++ (beforeDate kind a ++ behind)).take 5 := by
        have via : viaLine a = ascii "Via: SIP/2.0/UDP " ++ _ := rfl
        have recipient : recipientLines kind a = ascii "To: <sip:" ++ _ := rfl
        refine no_blank_append (by decide) ?_
        cases kind with
        | register | message | options | response401 =>
            rw [beforeDate, via]
            simp only [List.append_assoc]
            exact no_blank_text (by decide) (by decide)
        | response200 | response403 =>
            rw [beforeDate, recipient]
            simp only [List.append_assoc]
            exact no_blank_text (by decide) (by decide)
      have front : Quiet (literal dateMarker) (beforeDomain kind a ++ (a.domain ++ behindDomain kind a ++ (crlf ++ beforeDate kind a)))
          (dateMarker ++ (dateText a ++ (crlf ++ rest))) := by
        refine .append (quiet_beforeDomain address kind) (.append (quiet.extend 5 0x20 (by decide) (by decide) ?_)
          (.append quiet_lineEnd (quiet_beforeDate address kind name)))
        rw [List.append_assoc]
        exact start
      have whole : 0x0D ∉ dateText a := by
        simp (disch := decide) only [dateText, List.mem_append, mem_ascii_false, cr_timeOfDay, date, or_self, not_false_eq_true]
      have here := findWindow_eq_some (by decide) front
      have split : beforeDomain kind a ++ (a.domain ++ behindDomain kind a ++ (crlf ++ (beforeDate kind a ++ (dateMarker ++
          (dateText a ++ (crlf ++ rest)))))) = beforeDomain kind a ++ (a.domain ++ behindDomain kind a ++ (crlf ++
          beforeDate kind a)) ++ (dateMarker ++ (dateText a ++ (crlf ++ rest))) := by
        simp only [List.append_assoc]
      rw [source, split]
      have behind : (beforeDomain kind a ++ (a.domain ++ behindDomain kind a ++ (crlf ++ beforeDate kind a)) ++ (dateMarker ++
          (dateText a ++ (crlf ++ rest)))).drop ((beforeDomain kind a ++ (a.domain ++ behindDomain kind a ++ (crlf ++
          beforeDate kind a))).length + dateMarker.length) = dateText a ++ (crlf ++ rest) := by
        rw [← List.drop_drop, List.drop_left, List.drop_left]
      exact parse_of_found here behind whole

def viaField : Buf := ascii "\r\nVia: "

def startText (kind : SipKind) (a : HeaderArgs) : Buf :=
  match kind with
  | .response401 => ascii "SIP/2.0 401 Unauthorized" ++ (crlf ++ ascii "WWW-Authenticate: Digest realm=\"" ++
      (a.domain ++ behindDomain .response401 a))
  | .register | .message | .options => beforeDomain kind a ++ (a.domain ++ behindDomain kind a)
  | .response200 => ascii "SIP/2.0 200 OK"
  | .response403 => ascii "SIP/2.0 403 Forbidden"

theorem headerText_via (kind : SipKind) (a : HeaderArgs) :
    ∃ rest, headerText kind a = startText kind a ++ (viaField ++ (ascii "SIP/2.0/UDP " ++ (a.srcIp ++ (ascii ":" ++
      (a.sportText ++ (ascii ";" ++ (ascii "branch=z9hG4bK-" ++ (hex8 a.authToken ++ rest)))))))) := by
  have via : ascii "Via: SIP/2.0/UDP " = ascii "Via: " ++ ascii "SIP/2.0/UDP " := by decide
  have branch : ascii ";branch=z9hG4bK-" = ascii ";" ++ ascii "branch=z9hG4bK-" := by decide
  have field : viaField = crlf ++ ascii "Via: " := by decide
  obtain ⟨rest, lines⟩ := headerText_lines kind a
  rw [lines]
  cases kind <;>
    simp only [startLines, fields, lineText, List.flatMap_cons, List.flatMap_nil, List.append_assoc, List.append_nil,
      beforeDomain, behindDomain, startText, via, branch, field] <;>
    exact ⟨_, rfl⟩

theorem quiet_startText (kind : SipKind) {a : HeaderArgs} {rest : Buf} (domain : 0x0D ∉ a.domain) :
    Quiet (literal viaField) (startText kind a) rest := by
  have line {text rest : Buf} (whole : 0x0D ∉ text) : Quiet (literal viaField) text rest :=
    .of_absent 0 0x0D (by decide) whole (by simp)
  have fixed (text : String) {rest : Buf} (whole : (ascii text).contains 0x0D = false) : Quiet (literal viaField) (ascii text) rest :=
    line fun member => (mem_ascii_false whole).mp member
  have number (n : Nat) {rest : Buf} : Quiet (literal viaField) (decimal n) rest := line fun member => (cr_decimal n).mp member
  have named (kind : SipKind) {rest : Buf} : Quiet (literal viaField) (a.domain ++ behindDomain kind a) rest :=
    .append (line domain) (line (cr_behindDomain kind a))
  cases kind with
  | register => exact .append (fixed "REGISTER sip:" (by decide)) (named _)
  | message => exact .append (.append (fixed "MESSAGE sip:" (by decide)) (.append (number _) (fixed "@" (by decide)))) (named _)
  | options => exact .append (.append (fixed "OPTIONS sip:" (by decide)) (.append (number _) (fixed "@" (by decide)))) (named _)
  | response200 => exact fixed "SIP/2.0 200 OK" (by decide)
  | response403 => exact fixed "SIP/2.0 403 Forbidden" (by decide)
  | response401 =>
      exact .append (fixed "SIP/2.0 401 Unauthorized" (by decide)) (.append (.of_differs (by decide)) (named _))

theorem branchToken_headerText {kind : SipKind} {a : HeaderArgs} (address : ∀ b ∈ a.srcIp, b ∈ ascii "0123456789abcdef.:")
    (domain : 0x0D ∉ a.domain) : branchToken (headerText kind a) = some (hex8 a.authToken) := by
  obtain ⟨rest, parts⟩ := headerText_via kind a
  have marker : (ascii "branch=z9hG4bK-").length = 15 := by decide
  have via : findWindow viaField (headerText kind a) = some (startText kind a).length := by
    rw [parts]
    exact findWindow_eq_some (by decide) (quiet_startText kind domain)
  -- an address may hold a letter b, but no r follows it
  have quiet : Quiet (literal (ascii "branch=z9hG4bK-")) (viaField ++ (ascii "SIP/2.0/UDP " ++ (a.srcIp ++ (ascii ":" ++
      (a.sportText ++ ascii ";"))))) (ascii "branch=z9hG4bK-" ++ (hex8 a.authToken ++ rest)) := by
    have ip {behind : Buf} (other : 0x72 ∉ behind.take 1) : Quiet (literal (ascii "branch=z9hG4bK-")) a.srcIp behind :=
      .of_absent 1 0x72 (by decide) (fun member => absurd (address _ member) (by decide)) other
    refine .append (.of_differs (by decide)) (.append (.of_differs (by decide)) (.append (ip ?_)
      (.append (.of_differs (by decide)) (.append (.of_absent 0 0x62 (by decide) ?_ (by simp)) (.of_differs (by decide))))))
    · rw [List.append_assoc, List.take_append_of_le_length (by decide)]
      decide
    · exact fun member => absurd (mem_decimal member) (by decide)
  have split : (headerText kind a).drop (startText kind a).length = viaField ++ (ascii "SIP/2.0/UDP " ++ (a.srcIp ++ (ascii ":" ++
      (a.sportText ++ ascii ";")))) ++ (ascii "branch=z9hG4bK-" ++ (hex8 a.authToken ++ rest)) := by
    rw [parts, List.drop_left]
    simp only [List.append_assoc]
  have branch := findWindow_eq_some (by decide) quiet
  generalize viaField ++ (ascii "SIP/2.0/UDP " ++ (a.srcIp ++ (ascii ":" ++ (a.sportText ++ ascii ";")))) = front at split branch
  have token : slice (headerText kind a) ((startText kind a).length + front.length + 15)
      ((startText kind a).length + front.length + 23) = hex8 a.authToken := by
    have middle := slice_middle (front ++ ascii "branch=z9hG4bK-") (hex8 a.authToken) rest 8 (length_hex8 _)
    rw [List.append_assoc, List.length_append, marker] at middle
    rw [Nat.add_assoc, Nat.add_assoc, ← slice_drop, split]
    exact middle
  rw [branchToken]
  change (findWindow viaField (headerText kind a) >>= _) = _
  rw [via]
  change (findWindow (ascii "branch=z9hG4bK-") ((headerText kind a).drop (startText kind a).length) >>= _) = _
  rw [split, branch]
  exact congrArg some token

def dateStamp (nowUs : Nat) : Nat :=
  let days := nowUs / 86400000000
  let us := nowUs % 86400000000
  (Calendar.day days * 10 ^ (decimal (Calendar.year days)).length + Calendar.year days) * 10 ^ 12 +
    us / 3600000000 * 10 ^ 10 + us % 3600000000 / 60000000 * 10 ^ 8 + us % 60000000 / 1000000 * 10 ^ 6 + us % 1000000

theorem digitsValue_dateText {a : HeaderArgs} (dated : formatSipDateOnly (a.nowUs / 1000000) = .ok a.dateStr) :
    digitsValue (dateText a) = dateStamp a.nowUs := by
  have names : (∀ name ∈ dayNames, ∀ b ∈ ascii name, ¬IsDigit b) ∧ ∀ name ∈ monthNames, ∀ b ∈ ascii name, ¬IsDigit b := by
    decide
  have fixed : ∀ text ∈ [ascii ", ", ascii " ", ascii ":", ascii ".", ascii " GMT"], ∀ b ∈ text, ¬IsDigit b := by decide
  have plain (text : Buf) (n : Nat) (known : text ∈ [ascii ", ", ascii " ", ascii ":", ascii ".", ascii " GMT"]) :
      text.foldl digitStep n = n := foldl_digitStep_plain n (fixed text known)
  have days := Calendar.day_range (a.nowUs / 86400000000)
  obtain ⟨dayName, monthName, isDay, isMonth, text⟩ := formatSipDateOnly_text (a.nowUs / 1000000)
  rw [dated] at text
  have weekday (n : Nat) := foldl_digitStep_plain n (names.1 dayName (List.mem_of_getElem? isDay))
  have month (n : Nat) := foldl_digitStep_plain n (names.2 monthName (List.mem_of_getElem? isMonth))
  have whole : a.nowUs / 1000000 / 86400 = a.nowUs / 86400000000 := Nat.div_div_eq_div_mul _ _ _
  rw [digitsValue, dateText, Except.ok.inj text, HeaderArgs.timeOfDay, whole]
  simp only [List.foldl_append]
  simp (disch := simp) only [plain, weekday, month, foldl_digitStep_decimal]
  rw [foldl_digitStep_decimalPadded _ (by decide) (by omega), foldl_digitStep_decimalPadded _ (by decide) (by omega),
    foldl_digitStep_decimalPadded _ (by decide) (by omega), foldl_digitStep_decimalPadded _ (by decide) (by omega),
    foldl_digitStep_decimalPadded _ (by decide) (by omega), dateStamp, Nat.zero_mul, Nat.zero_add]
  omega

def stamp (kind : SipKind) (a : HeaderArgs) : Nat :=
  let line := a.domain ++ behindDomain kind a
  let digits := match findWindow dateMarker line with
    | some i => digitsValue (line.drop (i + dateMarker.length))
    | none => dateStamp a.nowUs
  min digits u64Max

theorem digitsValue_dateSource {kind : SipKind} {a : HeaderArgs} (dated : formatSipDateOnly (a.nowUs / 1000000) = .ok a.dateStr) :
    min (digitsValue (dateSource kind a)) u64Max = stamp kind a := by
  rw [dateSource, stamp]
  cases findWindow dateMarker (a.domain ++ behindDomain kind a) with
  | some i => rfl
  | none => exact congrArg (min · u64Max) (digitsValue_dateText dated)

def TokenPasses (header : Buf) (feistelKey : Vector UInt32 4) : Prop :=
  ∃ token value, branchToken header = some token ∧ parseTimestampFromDateHeader header = some value ∧
    verifyAuthTokenFromTimestamp token value feistelKey = true

theorem tokenPasses_headerText {kind : SipKind} {a : HeaderArgs} (domain : 0x0D ∉ a.domain)
    (address : ∃ src : Net.IpAddr, a.srcIp = src.text) (dated : formatSipDateOnly (a.nowUs / 1000000) = .ok a.dateStr) :
    TokenPasses (headerText kind a) a.feistelKey ↔
      sipHash32 (UInt32.ofNat (a.nowUs / 100000)) a.feistelKey =
        sipHash32 (UInt32.ofNat (stamp kind a / 10000)) a.feistelKey := by
  have printed : ∀ b ∈ a.srcIp, b ∈ ascii "0123456789abcdef.:" := by
    obtain ⟨src, address⟩ := address
    rw [address]
    exact fun _ member => Net.IpAddr.mem_text member
  have date : 0x0D ∉ a.dateStr := by
    obtain ⟨text, formatted, plain, -⟩ := formatSipDateOnly_ok (a.nowUs / 1000000)
    rw [dated] at formatted
    rwa [Except.ok.inj formatted]
  have token := @branchToken_headerText kind a printed domain
  have value := @parseTimestamp_headerText kind a printed domain date
  rw [digitsValue_dateSource dated] at value
  rw [← verify_hex8]
  constructor
  · rintro ⟨t, v, isToken, isValue, passes⟩
    rw [token] at isToken
    rw [value] at isValue
    cases isToken
    cases isValue
    exact passes
  · exact fun passes => ⟨_, _, token, value, passes⟩

-- the two clocks agree only by chance: one counts microseconds since 1970, the other reads a date's digits
theorem writeHeader_token_iff {kind : SipKind} {a : HeaderArgs} {header : Buf} (domain : 0x0D ∉ a.domain)
    (address : ∃ src : Net.IpAddr, a.srcIp = src.text) (dated : formatSipDateOnly (a.nowUs / 1000000) = .ok a.dateStr)
    (written : writeHeader kind a = .ok header) :
    TokenPasses header a.feistelKey ↔
      sipHash32 (UInt32.ofNat (a.nowUs / 100000)) a.feistelKey =
        sipHash32 (UInt32.ofNat (stamp kind a / 10000)) a.feistelKey := by
  have text : headerText kind a = header := by
    unfold writeHeader at written
    split_ifs at written
    exact Except.ok.inj written
  rw [← text]
  exact tokenPasses_headerText domain address dated

def keepaliveArgs : HeaderArgs :=
  { domain := ascii "sip.example.com", srcIp := (Net.IpAddr.v4 #v[10, 0, 0, 1]).text, dstIp := (Net.IpAddr.v4 #v[10, 0, 0, 2]).text
    sport := 5060, dport := 5060, rtpPort := 5062, payloadLen := 0, feistelKey := #v[1, 2, 3, 4]
    dateStr := ascii "Fri, 01 Jan 1970", nowUs := 0 }

theorem writeHeader_token_keepalive :
    TokenPasses (headerText .options keepaliveArgs) keepaliveArgs.feistelKey ↔
      sipHash32 (UInt32.ofNat (keepaliveArgs.nowUs / 100000)) keepaliveArgs.feistelKey =
        sipHash32 (UInt32.ofNat (stamp .options keepaliveArgs / 10000)) keepaliveArgs.feistelKey :=
  writeHeader_token_iff (by decide) ⟨.v4 #v[10, 0, 0, 1], rfl⟩ (by decide +kernel) (by decide +kernel)

theorem writeHeader_token_rejected :
    writeHeader .options keepaliveArgs = .ok (headerText .options keepaliveArgs) ∧
      formatSipDateOnly (keepaliveArgs.nowUs / 1000000) = .ok keepaliveArgs.dateStr ∧
      0x0D ∉ keepaliveArgs.domain ∧ 0x0A ∉ keepaliveArgs.domain ∧
      ¬TokenPasses (headerText .options keepaliveArgs) keepaliveArgs.feistelKey := by
  refine ⟨by decide +kernel, by decide +kernel, by decide, by decide, ?_⟩
  rw [tokenPasses_headerText (by decide) ⟨.v4 #v[10, 0, 0, 1], rfl⟩ (by decide +kernel)]
  decide +kernel

end Gutd.Sip
