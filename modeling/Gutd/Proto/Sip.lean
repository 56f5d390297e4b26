import Gutd.Proto.MaskBalanced
import Gutd.Shared.Checked
import Gutd.Shared.Text

set_option autoImplicit false

-- `proto/sip.rs`. A text that does not fit its buffer of 1024 bytes makes the writer panic.

namespace Gutd.Sip

open Bytes Checked

def maxSipHeaderLen : Nat := 1024

def rtpHeaderLen : Nat := 12

inductive SipKind where
  | register
  | message
  | options
  | response200
  | response401
  | response403
  deriving DecidableEq, Repr

def crlf : Buf := [0x0D, 0x0A]

def findCrlfCrlf (buf : Buf) : Option Nat := (findWindow (crlf ++ crlf) buf).map (· + 4)

def fmtpMarker : Buf := ascii "a=fmtp:0 "

def startsValid (buf : Buf) : Bool :=
  (ascii "INVITE ").isPrefixOf buf || (ascii "REGISTER ").isPrefixOf buf || (ascii "MESSAGE ").isPrefixOf buf ||
    (ascii "OPTIONS ").isPrefixOf buf || (ascii "SIP/2.0 ").isPrefixOf buf

def checkHeader (buf : Buf) : Option Nat :=
  if buf.length < 16 then none
  else if !startsValid buf then none
  else
    match findCrlfCrlf buf with
    | none => none
    | some hl =>
        match findWindow fmtpMarker (buf.drop hl) with
        | some pos => some (hl + pos + fmtpMarker.length)
        | none => some hl

def checkRtpHeader (buf : Buf) : Bool :=
  if buf.length < rtpHeaderLen then false
  else byteAt buf 0 &&& 0xC0 == 0x80 && byteAt buf 1 &&& 0x7F == 0x60

theorem byteAt_of_isPrefixOf {pattern buf : Buf} (found : pattern.isPrefixOf buf = true) (i : Nat)
    (inside : i < pattern.length) : byteAt buf i = byteAt pattern i := by
  obtain ⟨rest, rfl⟩ := List.isPrefixOf_iff_prefix.mp found
  rw [byteAt_append, if_pos inside]

theorem checkHeader_first {buf : Buf} {hdrLen : Nat} (found : checkHeader buf = some hdrLen) :
    byteAt buf 0 ∈ ([0x49, 0x52, 0x4D, 0x4F, 0x53] : Buf) := by
  unfold checkHeader at found
  split_ifs at found with short foreign
  simp only [Bool.not_eq_true', Bool.not_eq_false, startsValid, Bool.or_eq_true] at foreign
  rcases foreign with (((invite | register) | message) | options) | response
  · rw [byteAt_of_isPrefixOf invite 0 (by decide)]
    decide
  · rw [byteAt_of_isPrefixOf register 0 (by decide)]
    decide
  · rw [byteAt_of_isPrefixOf message 0 (by decide)]
    decide
  · rw [byteAt_of_isPrefixOf options 0 (by decide)]
    decide
  · rw [byteAt_of_isPrefixOf response 0 (by decide)]
    decide

theorem checkHeader_bounds {buf : Buf} {hdrLen : Nat} (found : checkHeader buf = some hdrLen) :
    4 ≤ hdrLen ∧ hdrLen ≤ buf.length := by
  unfold checkHeader at found
  split_ifs at found with short foreign
  cases separator : findCrlfCrlf buf with
  | none => simp [separator] at found
  | some hl =>
      obtain ⟨i, here, rfl⟩ := Option.map_eq_some_iff.mp separator
      have bound := findWindow_bound here
      have width : (crlf ++ crlf).length = 4 := by decide
      cases fmtp : findWindow fmtpMarker (buf.drop (i + 4)) with
      | none =>
          simp only [separator, fmtp, Option.some.injEq] at found
          omega
      | some pos =>
          have inside := findWindow_bound fmtp
          simp only [separator, fmtp, Option.some.injEq] at found
          simp only [List.length_drop] at inside
          omega

theorem checkRtpHeader_iff {buf : Buf} :
    checkRtpHeader buf = true ↔ 12 ≤ buf.length ∧ byteAt buf 0 &&& 0xC0 = 0x80 ∧ byteAt buf 1 &&& 0x7F = 0x60 := by
  unfold checkRtpHeader
  split_ifs with short
  · rw [rtpHeaderLen] at short
    simp [Nat.not_le.mpr short]
  · rw [rtpHeaderLen] at short
    simp [Nat.not_lt.mp short]

def dayNames : List String := ["Mon", "Tue", "Wed", "Thu", "Fri", "Sat", "Sun"]

def monthNames : List String :=
  ["Jan", "Feb", "Mar", "Apr", "May", "Jun", "Jul", "Aug", "Sep", "Oct", "Nov", "Dec"]

def formatSipDateOnly (timestamp : Nat) : Result Buf := do
  let daysSinceEpoch := timestamp / 86400
  let dayOfWeek := (daysSinceEpoch + 4) % 7
  let days := daysSinceEpoch + 719468
  let era := days / 146097
  let doe := days - era * 146097
  let yoe := (doe - doe / 1460 + doe / 36524 - doe / 146096) / 365
  let year := yoe + era * 400
  let doy := doe - (365 * yoe + yoe / 4 - yoe / 100)
  let mp := (5 * doy + 2) / 153
  let day := doy - (153 * mp + 2) / 5 + 1
  let month := (if mp < 10 then mp + 3 else mp - 9) - 1
  let year := if month ≤ 1 then year + 1 else year
  let dayName ← entryAt dayNames dayOfWeek
  let monthName ← entryAt monthNames month
  pure (ascii dayName ++ ascii ", " ++ decimalPadded 2 day ++ ascii " " ++ ascii monthName ++ ascii " " ++ decimal year)

structure HeaderArgs where
  domain : Buf
  srcIp : Buf
  dstIp : Buf
  sport : UInt16
  dport : UInt16
  rtpPort : UInt16
  payloadLen : Nat
  feistelKey : Vector UInt32 4
  dateStr : Buf
  nowUs : Nat

namespace HeaderArgs

def authToken (a : HeaderArgs) : UInt32 := sipHash32 (UInt32.ofNat (a.nowUs / 100000)) a.feistelKey

def fromTag (a : HeaderArgs) : UInt32 :=
  sipHash32 (UInt32.ofNat (a.nowUs / 1000 ^^^ a.sport.toNat)) a.feistelKey

def toTag (a : HeaderArgs) : UInt32 :=
  sipHash32 (UInt32.ofNat (a.nowUs / 1000 ^^^ a.dport.toNat)) a.feistelKey

def cseq (a : HeaderArgs) : Buf := decimal (a.nowUs / 1000 % 1000 + 1)

def timeOfDay (a : HeaderArgs) : Buf :=
  let us := a.nowUs % 86400000000
  decimalPadded 2 (us / 3600000000) ++ ascii ":" ++ decimalPadded 2 (us % 3600000000 / 60000000) ++ ascii ":" ++
    decimalPadded 2 (us % 60000000 / 1000000) ++ ascii "." ++ decimalPadded 6 (us % 1000000)

def sportText (a : HeaderArgs) : Buf := decimal a.sport.toNat

def dportText (a : HeaderArgs) : Buf := decimal a.dport.toNat

end HeaderArgs

def optionsKeepalive (a : HeaderArgs) : Buf :=
  ascii "OPTIONS sip:" ++ a.dportText ++ ascii "@" ++ a.domain ++ ascii ":" ++ a.dportText ++ ascii " SIP/2.0\r\nVia: SIP/2.0/UDP " ++
    a.srcIp ++ ascii ":" ++ a.sportText ++ ascii ";branch=z9hG4bK-" ++ hex8 a.authToken ++
    ascii "\r\nMax-Forwards: 70\r\nFrom: <sip:" ++ a.sportText ++ ascii "@" ++ a.domain ++ ascii ">;tag=" ++ hex8 a.fromTag ++
    ascii "\r\nTo: <sip:" ++ a.dportText ++ ascii "@" ++ a.domain ++ ascii ">\r\nCall-ID: " ++ hex8 a.authToken ++
    ascii "@" ++ a.domain ++ ascii "\r\nCSeq: " ++ a.cseq ++ ascii " OPTIONS\r\nDate: " ++ a.dateStr ++ ascii " " ++
    a.timeOfDay ++ ascii " GMT\r\nContact: <sip:" ++ a.sportText ++ ascii "@" ++ a.srcIp ++ ascii ":" ++ a.sportText ++
    ascii ">\r\nUser-Agent: Asterisk PBX 16.2.0\r\nContent-Length: 0\r\n\r\n"

def startLine (kind : SipKind) (a : HeaderArgs) : Buf :=
  match kind with
  | .register => ascii "REGISTER sip:" ++ a.domain ++ ascii " SIP/2.0\r\n"
  | .message =>
      ascii "MESSAGE sip:" ++ a.dportText ++ ascii "@" ++ a.domain ++ ascii ":" ++ a.dportText ++ ascii " SIP/2.0\r\n"
  | .options =>
      ascii "OPTIONS sip:" ++ a.dportText ++ ascii "@" ++ a.domain ++ ascii ":" ++ a.dportText ++ ascii " SIP/2.0\r\n"
  | .response200 => ascii "SIP/2.0 200 OK\r\n"
  | .response401 =>
      ascii "SIP/2.0 401 Unauthorized\r\nWWW-Authenticate: Digest realm=\"" ++ a.domain ++ ascii "\", nonce=\"" ++
        hex8 (sipHash32 (UInt32.ofNat (a.nowUs / 1000)) a.feistelKey) ++ ascii "\", algorithm=MD5\r\n"
  | .response403 => ascii "SIP/2.0 403 Forbidden\r\n"

def isResponse : SipKind → Bool
  | .response200 | .response401 | .response403 => true
  | _ => false

def cseqMethod : SipKind → String
  | .register | .response401 => "REGISTER"
  | .response200 => "OPTIONS"
  | .response403 => "INVITE"
  | .message => "MESSAGE"
  | .options => "OPTIONS"

def sdpPreamble (a : HeaderArgs) : Buf :=
  let sessionId := decimal (a.nowUs / 1000)
  ascii "v=0\r\no=- " ++ sessionId ++ ascii " " ++ sessionId ++ ascii " IN IP4 " ++ a.srcIp ++
    ascii "\r\ns=SIP Call\r\nc=IN IP4 " ++ a.dstIp ++ ascii "\r\nt=0 0\r\nm=audio " ++ decimal a.rtpPort.toNat ++
    ascii (" RTP/AVP 0 8\r\na=rtpmap:0 PCMU/8000\r\na=rtpmap:8 PCMA/8000\r\na=ptime:20\r\na=sendrecv\r\n" ++
      "a=fmtp:0 ")

def contentPart (a : HeaderArgs) : Buf :=
  if a.payloadLen > 0 then
    ascii "Content-Type: application/sdp\r\nContent-Length: " ++ decimal ((sdpPreamble a).length + a.payloadLen) ++
      ascii "\r\n\r\n" ++ sdpPreamble a
  else ascii "Content-Length: 0" ++ (crlf ++ crlf)

def fieldLines (kind : SipKind) (a : HeaderArgs) : Buf :=
  ascii "Via: SIP/2.0/UDP " ++ a.srcIp ++ ascii ":" ++ a.sportText ++ ascii ";branch=z9hG4bK-" ++
    hex8 a.authToken ++ ascii "\r\nMax-Forwards: 70\r\nFrom: <sip:" ++ a.sportText ++ ascii "@" ++ a.domain ++
    ascii ">;tag=" ++ hex8 a.fromTag ++ ascii "\r\nTo: <sip:" ++ a.dportText ++ ascii "@" ++ a.domain ++ ascii ">" ++
    (if isResponse kind then ascii ";tag=" ++ hex8 a.toTag ++ ascii "\r\n" else ascii "\r\n") ++
    ascii "Call-ID: " ++ hex8 a.authToken ++ ascii "@" ++ a.domain ++ ascii "\r\nCSeq: " ++ a.cseq ++ ascii " " ++
    ascii (cseqMethod kind) ++ ascii "\r\nDate: " ++ a.dateStr ++ ascii " " ++ a.timeOfDay ++
    ascii " GMT\r\nContact: <sip:" ++ a.sportText ++ ascii "@" ++ a.srcIp ++ ascii ":" ++ a.sportText ++
    ascii ">\r\nUser-Agent: Asterisk PBX 16.2.0\r\n"

def headerText (kind : SipKind) (a : HeaderArgs) : Buf :=
  if kind = .options ∧ a.payloadLen = 0 then optionsKeepalive a
  else startLine kind a ++ fieldLines kind a ++ contentPart a

def writeHeader (kind : SipKind) (a : HeaderArgs) : Result Buf :=
  if (headerText kind a).length ≤ maxSipHeaderLen then pure (headerText kind a) else throw .outOfBounds

def rtpHeader (seq : UInt16) (ts ssrc : UInt32) : Buf :=
  [0x80, 0x60] ++ toBeBytes16 seq ++ toBeBytes ts ++ toBeBytes ssrc

theorem startLine_response {kind : SipKind} (a : HeaderArgs) (response : isResponse kind = true) :
    ∃ rest, startLine kind a = ascii "SIP/2.0 " ++ rest := by
  cases kind with
  | response200 => exact ⟨ascii "200 OK\r\n", by rfl⟩
  | response401 =>
      have split : ascii "SIP/2.0 401 Unauthorized\r\nWWW-Authenticate: Digest realm=\"" =
          ascii "SIP/2.0 " ++ ascii "401 Unauthorized\r\nWWW-Authenticate: Digest realm=\"" := by decide
      simp only [startLine, split, List.append_assoc]
      exact ⟨_, rfl⟩
  | response403 => exact ⟨ascii "403 Forbidden\r\n", by rfl⟩
  | register | message | options => simp [isResponse] at response

def EmptyResponse (text : Buf) : Prop :=
  ∃ middle, text = ascii "SIP/2.0 " ++ (middle ++ ascii "Content-Length: 0") ++ (crlf ++ crlf)

theorem headerText_response {kind : SipKind} {a : HeaderArgs} (response : isResponse kind = true)
    (empty : a.payloadLen = 0) : EmptyResponse (headerText kind a) := by
  obtain ⟨rest, line⟩ := startLine_response a response
  have general : ¬ (kind = .options ∧ a.payloadLen = 0) := by
    rintro ⟨rfl, -⟩
    simp [isResponse] at response
  have content : contentPart a = ascii "Content-Length: 0" ++ (crlf ++ crlf) := by
    rw [contentPart, if_neg (by omega)]
  refine ⟨rest ++ fieldLines kind a, ?_⟩
  rw [headerText, if_neg general, line, content]
  simp only [List.append_assoc]

namespace EmptyResponse

variable {text : Buf}

theorem long (response : EmptyResponse text) : 16 ≤ text.length := by
  obtain ⟨middle, rfl⟩ := response
  have tag : (ascii "SIP/2.0 ").length = 8 := by decide
  have field : (ascii "Content-Length: 0").length = 17 := by decide
  simp only [List.length_append, tag, field]
  omega

theorem tagged (response : EmptyResponse text) : (ascii "SIP/2.0 ").isPrefixOf text = true := by
  obtain ⟨middle, rfl⟩ := response
  rw [List.append_assoc]
  exact List.isPrefixOf_iff_prefix.mpr (List.prefix_append _ _)

theorem last (response : EmptyResponse text) : byteAt text (text.length - 1) = 0x0A := by
  obtain ⟨middle, rfl⟩ := response
  have width : (crlf ++ crlf).length = 4 := by decide
  rw [byteAt_append, if_neg (by simp only [List.length_append, width]; omega)]
  simp only [List.length_append, width]
  rw [show ∀ n : Nat, n + 4 - 1 - n = 3 from fun n => by omega]
  decide

theorem checkHeader (response : EmptyResponse text) : ∃ hdrLen, checkHeader text = some hdrLen := by
  have valid : startsValid text = true := by
    rw [startsValid, response.tagged, Bool.or_true]
  have long := response.long
  obtain ⟨middle, whole⟩ := response
  obtain ⟨i, found⟩ := findWindow_suffix (crlf ++ crlf) (ascii "SIP/2.0 " ++ (middle ++ ascii "Content-Length: 0"))
    (by decide)
  rw [← whole] at found
  have separator : findCrlfCrlf text = some (i + 4) := by rw [findCrlfCrlf, found, Option.map_some]
  unfold Sip.checkHeader
  rw [if_neg (by omega), valid]
  simp only [Bool.not_true, Bool.false_eq_true, if_false, separator]
  cases findWindow fmtpMarker (text.drop (i + 4)) with
  | none => exact ⟨_, rfl⟩
  | some pos => exact ⟨_, rfl⟩

end EmptyResponse

section SourcePort

variable (a : HeaderArgs) (sport : UInt16)

theorem length_fromTag : (hex8 (HeaderArgs.fromTag { a with sport })).length = (hex8 a.fromTag).length := by
  rw [length_hex8, length_hex8]

theorem toTag_sport : HeaderArgs.toTag { a with sport } = a.toTag := rfl

theorem authToken_sport : HeaderArgs.authToken { a with sport } = a.authToken := rfl

theorem timeOfDay_sport : HeaderArgs.timeOfDay { a with sport } = a.timeOfDay := rfl

theorem cseq_sport : HeaderArgs.cseq { a with sport } = a.cseq := rfl

variable (digits : (decimal sport.toNat).length = (decimal a.sport.toNat).length)

include digits

theorem length_fieldLines_sport (kind : SipKind) :
    (fieldLines kind { a with sport }).length = (fieldLines kind a).length := by
  unfold fieldLines
  simp only [List.length_append]
  rw [toTag_sport, authToken_sport, timeOfDay_sport, cseq_sport, length_fromTag]
  simp only [HeaderArgs.sportText, HeaderArgs.dportText]
  rw [digits]

theorem length_optionsKeepalive_sport : (optionsKeepalive { a with sport }).length = (optionsKeepalive a).length := by
  unfold optionsKeepalive
  simp only [List.length_append]
  rw [authToken_sport, timeOfDay_sport, cseq_sport, length_fromTag]
  simp only [HeaderArgs.sportText, HeaderArgs.dportText]
  rw [digits]

theorem length_headerText_sport (kind : SipKind) :
    (headerText kind { a with sport }).length = (headerText kind a).length := by
  have line : startLine kind { a with sport } = startLine kind a := by cases kind <;> rfl
  have content : contentPart { a with sport } = contentPart a := rfl
  unfold headerText
  split_ifs
  · exact length_optionsKeepalive_sport a sport digits
  · rw [List.length_append, List.length_append, line, length_fieldLines_sport a sport digits, content,
      List.length_append, List.length_append]

end SourcePort

end Gutd.Sip
