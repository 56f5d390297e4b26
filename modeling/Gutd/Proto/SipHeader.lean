import Gutd.Proto.SipLines
import Gutd.Shared.Calendar

set_option autoImplicit false

namespace Gutd.Sip

open Bytes Checked Scan

theorem mem_ascii_false {c : UInt8} {text : String} (absent : (ascii text).contains c = false) : c ∈ ascii text ↔ False := by
  simpa using absent

theorem ascii_nil_false {text : String} (some : (ascii text).isEmpty = false) : ascii text = [] ↔ False := by
  simpa using some

theorem cr_decimal (n : Nat) : 0x0D ∈ decimal n ↔ False :=
  iff_false_intro fun member => absurd (mem_decimal member) (by decide)

theorem cr_decimalPadded (width n : Nat) : 0x0D ∈ decimalPadded width n ↔ False :=
  iff_false_intro fun member => absurd (mem_decimalPadded member) (by decide)

theorem cr_hex8 (x : UInt32) : 0x0D ∈ hex8 x ↔ False :=
  iff_false_intro fun member => absurd (mem_hex8 member) (by decide)

theorem formatSipDateOnly_text (timestamp : Nat) :
    ∃ dayName monthName, dayNames[(timestamp / 86400 + 4) % 7]? = some dayName ∧
      monthNames[Calendar.month (timestamp / 86400) - 1]? = some monthName ∧ formatSipDateOnly timestamp =
        .ok (ascii dayName ++ ascii ", " ++ decimalPadded 2 (Calendar.day (timestamp / 86400)) ++ ascii " " ++ ascii monthName ++
          ascii " " ++ decimal (Calendar.year (timestamp / 86400))) := by
  have months := Calendar.month_range (timestamp / 86400)
  have january : Calendar.month (timestamp / 86400) - 1 ≤ 1 ↔ Calendar.month (timestamp / 86400) ≤ 2 := by omega
  have weekday : (timestamp / 86400 + 4) % 7 < dayNames.length := Nat.mod_lt _ (by decide)
  have yearly : Calendar.month (timestamp / 86400) - 1 < monthNames.length := by
    change _ < 12
    omega
  have day := List.getElem?_eq_getElem weekday
  have month := List.getElem?_eq_getElem yearly
  refine ⟨_, _, day, month, ?_⟩
  rw [Calendar.year, ← if_congr january rfl rfl]
  change (entryAt dayNames ((timestamp / 86400 + 4) % 7) >>= fun dayName =>
    entryAt monthNames (Calendar.month (timestamp / 86400) - 1) >>= fun monthName => _) = _
  rw [entryAt_some day, bind_ok, entryAt_some month, bind_ok]
  rfl

theorem formatSipDateOnly_ok (timestamp : Nat) :
    ∃ date, formatSipDateOnly timestamp = .ok date ∧ 0x0D ∉ date ∧
      date.length = 12 + (decimal (Calendar.year (timestamp / 86400))).length := by
  have days := Calendar.day_range (timestamp / 86400)
  have names : (∀ name ∈ dayNames, 0x0D ∉ ascii name ∧ (ascii name).length = 3) ∧
      ∀ name ∈ monthNames, 0x0D ∉ ascii name ∧ (ascii name).length = 3 := by
    decide
  obtain ⟨dayName, monthName, weekday, month, text⟩ := formatSipDateOnly_text timestamp
  have isDay := List.mem_of_getElem? weekday
  have isMonth := List.mem_of_getElem? month
  refine ⟨_, text, ?_, ?_⟩
  · simp (disch := decide) only [List.mem_append, names.1 _ isDay, names.2 _ isMonth, mem_ascii_false, cr_decimal, cr_decimalPadded,
      or_self, not_false_eq_true]
  · have separators : (ascii ", ").length = 2 ∧ (ascii " ").length = 1 := by decide
    simp only [List.length_append]
    rw [(names.1 _ isDay).2, (names.2 _ isMonth).2, length_decimalPadded (by decide) (by omega), separators.1, separators.2]

def startLines (kind : SipKind) (a : HeaderArgs) : List Buf :=
  match kind with
  | .register => [ascii "REGISTER sip:" ++ (a.domain ++ ascii " SIP/2.0")]
  | .message => [ascii "MESSAGE sip:" ++ (a.dportText ++ (ascii "@" ++ (a.domain ++ (ascii ":" ++ (a.dportText ++ ascii " SIP/2.0")))))]
  | .options => [ascii "OPTIONS sip:" ++ (a.dportText ++ (ascii "@" ++ (a.domain ++ (ascii ":" ++ (a.dportText ++ ascii " SIP/2.0")))))]
  | .response200 => [ascii "SIP/2.0 200 OK" ++ []]
  | .response401 =>
      [ascii "SIP/2.0 401 Unauthorized" ++ [],
        ascii "WWW-Authenticate: Digest realm=\"" ++ (a.domain ++ (ascii "\", nonce=\"" ++
          (hex8 (sipHash32 (UInt32.ofNat (a.nowUs / 1000)) a.feistelKey) ++ ascii "\", algorithm=MD5")))]
  | .response403 => [ascii "SIP/2.0 403 Forbidden" ++ []]

def fields (kind : SipKind) (a : HeaderArgs) : List Buf :=
  [ascii "Via: SIP/2.0/UDP " ++ (a.srcIp ++ (ascii ":" ++ (a.sportText ++ (ascii ";branch=z9hG4bK-" ++ hex8 a.authToken)))),
    ascii "Max-Forwards: 70" ++ [],
    ascii "From: <sip:" ++ (a.sportText ++ (ascii "@" ++ (a.domain ++ (ascii ">;tag=" ++ hex8 a.fromTag)))),
    ascii "To: <sip:" ++ (a.dportText ++ (ascii "@" ++ (a.domain ++ (ascii ">" ++
      if isResponse kind then ascii ";tag=" ++ hex8 a.toTag else [])))),
    ascii "Call-ID: " ++ (hex8 a.authToken ++ (ascii "@" ++ a.domain)),
    ascii "CSeq: " ++ (a.cseq ++ (ascii " " ++ ascii (cseqMethod kind))),
    ascii "Date: " ++ (a.dateStr ++ (ascii " " ++ (a.timeOfDay ++ ascii " GMT"))),
    ascii "Contact: <sip:" ++ (a.sportText ++ (ascii "@" ++ (a.srcIp ++ (ascii ":" ++ (a.sportText ++ ascii ">"))))),
    ascii "User-Agent: Asterisk PBX 16.2.0" ++ []]

def contentLength (a : HeaderArgs) : Buf :=
  ascii "Content-Length: " ++ decimal ((sdpPreamble a).length + a.payloadLen)

def sdpFront (a : HeaderArgs) : Buf :=
  ascii "v=0\r\no=- " ++ (decimal (a.nowUs / 1000) ++ (ascii " " ++ (decimal (a.nowUs / 1000) ++ (ascii " IN IP4 " ++
    (a.srcIp ++ (ascii "\r\ns=SIP Call\r\nc=IN IP4 " ++ (a.dstIp ++ (ascii "\r\nt=0 0\r\nm=audio " ++
      (decimal a.rtpPort.toNat ++
        ascii " RTP/AVP 0 8\r\na=rtpmap:0 PCMU/8000\r\na=rtpmap:8 PCMA/8000\r\na=ptime:20\r\na=sendrecv\r\n")))))))))

theorem startLine_eq (kind : SipKind) (a : HeaderArgs) : startLine kind a = lineText (startLines kind a) := by
  have version : ascii " SIP/2.0\r\n" = ascii " SIP/2.0" ++ crlf := by decide
  have ok : ascii "SIP/2.0 200 OK\r\n" = ascii "SIP/2.0 200 OK" ++ crlf := by decide
  have unauthorized : ascii "SIP/2.0 401 Unauthorized\r\nWWW-Authenticate: Digest realm=\"" =
      ascii "SIP/2.0 401 Unauthorized" ++ (crlf ++ ascii "WWW-Authenticate: Digest realm=\"") := by decide
  have algorithm : ascii "\", algorithm=MD5\r\n" = ascii "\", algorithm=MD5" ++ crlf := by decide
  have forbidden : ascii "SIP/2.0 403 Forbidden\r\n" = ascii "SIP/2.0 403 Forbidden" ++ crlf := by decide
  cases kind <;>
    simp only [startLine, startLines, lineText, List.flatMap_cons, List.flatMap_nil, List.append_assoc, List.append_nil,
      version, ok, unauthorized, algorithm, forbidden]

theorem fieldLines_eq (kind : SipKind) (a : HeaderArgs) : fieldLines kind a = lineText (fields kind a) := by
  have forwards : ascii "\r\nMax-Forwards: 70\r\nFrom: <sip:" =
      crlf ++ (ascii "Max-Forwards: 70" ++ (crlf ++ ascii "From: <sip:")) := by decide
  have toField : ascii "\r\nTo: <sip:" = crlf ++ ascii "To: <sip:" := by decide
  have ends : ascii "\r\n" = crlf := by decide
  have cseq : ascii "\r\nCSeq: " = crlf ++ ascii "CSeq: " := by decide
  have date : ascii "\r\nDate: " = crlf ++ ascii "Date: " := by decide
  have contact : ascii " GMT\r\nContact: <sip:" = ascii " GMT" ++ (crlf ++ ascii "Contact: <sip:") := by decide
  have agent : ascii ">\r\nUser-Agent: Asterisk PBX 16.2.0\r\n" =
      ascii ">" ++ (crlf ++ (ascii "User-Agent: Asterisk PBX 16.2.0" ++ crlf)) := by decide
  have tag : (if isResponse kind then ascii ";tag=" ++ hex8 a.toTag ++ crlf else crlf) =
      (if isResponse kind then ascii ";tag=" ++ hex8 a.toTag else []) ++ crlf := by
    split_ifs <;> rfl
  unfold fieldLines fields lineText
  simp only [List.flatMap_cons, List.flatMap_nil]
  simp only [ends, forwards, toField, cseq, date, contact, agent]
  rw [tag]
  simp only [List.append_assoc, List.append_nil]

theorem sdpPreamble_eq (a : HeaderArgs) : sdpPreamble a = sdpFront a ++ fmtpMarker := by
  have lines : ascii (" RTP/AVP 0 8\r\na=rtpmap:0 PCMU/8000\r\na=rtpmap:8 PCMA/8000\r\na=ptime:20\r\na=sendrecv\r\n" ++
      "a=fmtp:0 ") =
      ascii " RTP/AVP 0 8\r\na=rtpmap:0 PCMU/8000\r\na=rtpmap:8 PCMA/8000\r\na=ptime:20\r\na=sendrecv\r\n" ++ fmtpMarker := by
    decide
  simp only [sdpPreamble, sdpFront, lines, List.append_assoc]

theorem contentPart_eq {a : HeaderArgs} (payload : 0 < a.payloadLen) :
    contentPart a = lineText [ascii "Content-Type: application/sdp" ++ []] ++
      (contentLength a ++ (crlf ++ crlf ++ (sdpFront a ++ fmtpMarker))) := by
  have type : ascii "Content-Type: application/sdp\r\nContent-Length: " =
      ascii "Content-Type: application/sdp" ++ (crlf ++ ascii "Content-Length: ") := by decide
  have ends : ascii "\r\n\r\n" = crlf ++ crlf := by decide
  rw [contentPart, if_pos payload]
  simp only [type, ends, sdpPreamble_eq, contentLength, lineText, List.flatMap_cons, List.flatMap_nil, List.append_assoc,
    List.append_nil]

theorem headerText_eq {kind : SipKind} {a : HeaderArgs} (payload : 0 < a.payloadLen) :
    headerText kind a = lineText (startLines kind a ++ (fields kind a ++ [ascii "Content-Type: application/sdp" ++ []])) ++
      contentLength a ++ (crlf ++ crlf ++ (sdpFront a ++ fmtpMarker)) := by
  have general : ¬(kind = .options ∧ a.payloadLen = 0) := by omega
  rw [headerText, if_neg general, startLine_eq, fieldLines_eq, contentPart_eq payload]
  simp only [lineText, List.flatMap_append, List.append_assoc]

structure HeaderArgs.Printable (a : HeaderArgs) : Prop where
  domain : 0x0D ∉ a.domain
  srcIp : ∀ b ∈ a.srcIp, b ∈ ascii "0123456789abcdef.:"
  dstIp : ∀ b ∈ a.dstIp, b ∈ ascii "0123456789abcdef.:"
  dateStr : 0x0D ∉ a.dateStr

theorem cr_timeOfDay (a : HeaderArgs) : 0x0D ∈ a.timeOfDay ↔ False := by
  simp (disch := decide) only [HeaderArgs.timeOfDay, List.mem_append, cr_decimalPadded, mem_ascii_false, or_self]

theorem cr_cseqMethod (kind : SipKind) : 0x0D ∈ ascii (cseqMethod kind) ↔ False := by
  cases kind <;> exact mem_ascii_false (by decide)

theorem HeaderArgs.Printable.cr {a : HeaderArgs} (printable : a.Printable) :
    (0x0D ∈ a.domain ↔ False) ∧ (0x0D ∈ a.srcIp ↔ False) ∧ (0x0D ∈ a.dstIp ↔ False) ∧ (0x0D ∈ a.dateStr ↔ False) :=
  ⟨iff_false_intro printable.domain, iff_false_intro fun member => absurd (printable.srcIp _ member) (by decide),
    iff_false_intro fun member => absurd (printable.dstIp _ member) (by decide), iff_false_intro printable.dateStr⟩

variable {a : HeaderArgs}

theorem plain_startLines (kind : SipKind) (printable : a.Printable) : ∀ line ∈ startLines kind a, Plain line := by
  obtain ⟨domain, -⟩ := printable.cr
  intro line member
  constructor
  · revert line
    cases kind <;> simp (disch := decide) only [startLines, List.forall_mem_cons, List.append_eq_nil_iff, ne_eq,
      ascii_nil_false, false_and, not_false_eq_true, List.not_mem_nil, IsEmpty.forall_iff, implies_true, and_self]
  · revert line
    cases kind <;> simp (disch := decide) only [startLines, List.forall_mem_cons, List.mem_append, mem_ascii_false, domain,
      HeaderArgs.dportText, cr_decimal, cr_hex8, or_self, not_false_eq_true, List.not_mem_nil, IsEmpty.forall_iff,
      implies_true, and_self]

theorem plain_fields (kind : SipKind) (printable : a.Printable) : ∀ line ∈ fields kind a, Plain line := by
  obtain ⟨domain, srcIp, -, dateStr⟩ := printable.cr
  have tag : 0x0D ∈ (if isResponse kind then ascii ";tag=" ++ hex8 a.toTag else []) ↔ False := by
    split_ifs <;> simp (disch := decide) only [List.mem_append, mem_ascii_false, cr_hex8, or_self, List.not_mem_nil]
  intro line member
  constructor
  · revert line
    simp (disch := decide) only [fields, List.forall_mem_cons, List.append_eq_nil_iff, ne_eq, ascii_nil_false, false_and,
      not_false_eq_true, List.not_mem_nil, IsEmpty.forall_iff, implies_true, and_self]
  · revert line
    simp (disch := decide) only [fields, List.forall_mem_cons, List.mem_append, mem_ascii_false, domain, srcIp, dateStr, tag,
      HeaderArgs.sportText, HeaderArgs.dportText, HeaderArgs.cseq, cr_decimal, cr_hex8, cr_timeOfDay, cr_cseqMethod, or_self,
      not_false_eq_true, List.not_mem_nil, IsEmpty.forall_iff, implies_true, and_self]

theorem plain_contentLength (a : HeaderArgs) : Plain (contentLength a) := by
  constructor
  · simp (disch := decide) only [contentLength, ne_eq, List.append_eq_nil_iff, ascii_nil_false, false_and, not_false_eq_true]
  · simp (disch := decide) only [contentLength, List.mem_append, mem_ascii_false, cr_decimal, or_self, not_false_eq_true]

theorem quiet_sdpFront (printable : a.Printable) (rest : Buf) : Quiet (literal fmtpMarker) (sdpFront a) rest := by
  have number (n : Nat) (behind : Buf) : Quiet (literal fmtpMarker) (decimal n) behind :=
    .of_absent 0 0x61 rfl (fun member => absurd (mem_decimal member) (by decide)) (by simp)
  -- an address may hold the letter, but no equals sign follows it
  have address {ip : Buf} (text : ∀ b ∈ ip, b ∈ ascii "0123456789abcdef.:") {behind : Buf} (other : 0x3D ∉ behind.take 1) :
      Quiet (literal fmtpMarker) ip behind :=
    .of_absent 1 0x3D rfl (fun member => absurd (text _ member) (by decide)) other
  refine .append (.of_differs (by decide)) (.append (number _ _) (.append (.of_differs (by decide))
    (.append (number _ _) (.append (.of_differs (by decide)) (.append (address printable.srcIp ?_)
      (.append (.of_differs (by decide)) (.append (address printable.dstIp ?_) (.append (.of_differs (by decide))
        (.append (number _ _) (.of_differs (by decide))))))))))) <;>
  · rw [List.append_assoc, List.take_append_of_le_length (by decide)]
    decide

theorem startLines_method (kind : SipKind) (a : HeaderArgs) :
    ∃ tag ∈ methods, ∃ front, lineText (startLines kind a) = tag ++ front := by
  have register : ascii "REGISTER sip:" = ascii "REGISTER " ++ ascii "sip:" := by decide
  have message : ascii "MESSAGE sip:" = ascii "MESSAGE " ++ ascii "sip:" := by decide
  have options : ascii "OPTIONS sip:" = ascii "OPTIONS " ++ ascii "sip:" := by decide
  have ok : ascii "SIP/2.0 200 OK" = ascii "SIP/2.0 " ++ ascii "200 OK" := by decide
  have unauthorized : ascii "SIP/2.0 401 Unauthorized" = ascii "SIP/2.0 " ++ ascii "401 Unauthorized" := by decide
  have forbidden : ascii "SIP/2.0 403 Forbidden" = ascii "SIP/2.0 " ++ ascii "403 Forbidden" := by decide
  cases kind <;>
    simp only [startLines, lineText, List.flatMap_cons, register, message, options, ok, unauthorized, forbidden,
      List.append_assoc] <;>
    exact ⟨_, by decide, _, rfl⟩

theorem headerText_message {kind : SipKind} (printable : a.Printable) (payload : 0 < a.payloadLen) (text : Buf) :
    Message text (headerText kind a ++ text) := by
  obtain ⟨tag, known, front, starts⟩ := startLines_method kind a
  have plain : ∀ line ∈ startLines kind a ++ (fields kind a ++ [ascii "Content-Type: application/sdp" ++ []]), Plain line := by
    intro line member
    rcases List.mem_append.mp member with start | member
    · exact plain_startLines kind printable line start
    · rcases List.mem_append.mp member with field | content
      · exact plain_fields kind printable line field
      · rw [List.mem_singleton.mp content]
        exact ⟨by decide, by decide⟩
  have message := @Message.mk text tag _ _ (contentLength a) (sdpFront a) known
    (by rw [lineText, List.flatMap_append]; change lineText (startLines kind a) ++ _ ++ _ = _; rw [starts, List.append_assoc, List.append_assoc])
    plain (plain_contentLength a) (quiet_sdpFront printable _)
  rw [headerText_eq payload]
  simpa only [List.append_assoc] using message

structure HeaderArgs.Bounded (a : HeaderArgs) : Prop where
  srcIp : a.srcIp.length ≤ 39
  dstIp : a.dstIp.length ≤ 39
  dateStr : a.dateStr.length ≤ 16
  clock : a.nowUs / 1000 < 10 ^ 15
  payload : a.payloadLen ≤ 65535

theorem length_port (port : UInt16) : (decimal port.toNat).length ≤ 5 :=
  length_decimal_le (by decide) (Nat.lt_trans port.toNat_lt (by decide))

theorem length_cseq (a : HeaderArgs) : a.cseq.length ≤ 4 :=
  length_decimal_le (by decide) (by omega)

theorem length_timeOfDay (a : HeaderArgs) : a.timeOfDay.length = 15 := by
  have two (n : Nat) (small : n < 100) : (decimalPadded 2 n).length = 2 := length_decimalPadded (by decide) small
  have six : (decimalPadded 6 (a.nowUs % 86400000000 % 1000000)).length = 6 :=
    length_decimalPadded (by decide) (Nat.mod_lt _ (by decide))
  have separators : (ascii ":").length = 1 ∧ (ascii ".").length = 1 := by decide
  simp only [HeaderArgs.timeOfDay, List.length_append]
  rw [two _ (by omega), two _ (by omega), two _ (by omega), six, separators.1, separators.2]

theorem length_startLine_le (kind : SipKind) (a : HeaderArgs) : (startLine kind a).length ≤ 94 + a.domain.length := by
  have dport := length_port a.dport
  have nonce := length_hex8 (sipHash32 (UInt32.ofNat (a.nowUs / 1000)) a.feistelKey)
  have widths : (ascii "REGISTER sip:").length = 13 ∧ (ascii " SIP/2.0\r\n").length = 10 ∧
      (ascii "MESSAGE sip:").length = 12 ∧ (ascii "OPTIONS sip:").length = 12 ∧ (ascii "@").length = 1 ∧
      (ascii ":").length = 1 ∧ (ascii "SIP/2.0 200 OK\r\n").length = 16 ∧ (ascii "SIP/2.0 403 Forbidden\r\n").length = 23 ∧
      (ascii "SIP/2.0 401 Unauthorized\r\nWWW-Authenticate: Digest realm=\"").length = 58 ∧
      (ascii "\", nonce=\"").length = 10 ∧ (ascii "\", algorithm=MD5\r\n").length = 18 := by
    decide
  obtain ⟨register, version, message, options, at', colon, ok, forbidden, realm, quoted, algorithm⟩ := widths
  cases kind <;> simp only [startLine, HeaderArgs.dportText, List.length_append, nonce, register, version, message, options,
    at', colon, ok, forbidden, realm, quoted, algorithm] <;> omega

theorem length_fieldLines (kind : SipKind) (a : HeaderArgs) :
    (fieldLines kind a).length = 212 + 2 * a.srcIp.length + 4 * (decimal a.sport.toNat).length +
      (decimal a.dport.toNat).length + 3 * a.domain.length + a.cseq.length + (ascii (cseqMethod kind)).length +
      a.dateStr.length + if isResponse kind then 13 else 0 := by
  have widths : (ascii "Via: SIP/2.0/UDP ").length = 17 ∧ (ascii ":").length = 1 ∧ (ascii ";branch=z9hG4bK-").length = 16 ∧
      (ascii "\r\nMax-Forwards: 70\r\nFrom: <sip:").length = 31 ∧ (ascii "@").length = 1 ∧ (ascii ">;tag=").length = 6 ∧
      (ascii "\r\nTo: <sip:").length = 11 ∧ (ascii ">").length = 1 ∧ (ascii "Call-ID: ").length = 9 ∧
      (ascii "\r\nCSeq: ").length = 8 ∧ (ascii " ").length = 1 ∧ (ascii "\r\nDate: ").length = 8 ∧
      (ascii " GMT\r\nContact: <sip:").length = 20 ∧ (ascii ">\r\nUser-Agent: Asterisk PBX 16.2.0\r\n").length = 36 := by
    decide
  have tag : (if isResponse kind then ascii ";tag=" ++ hex8 a.toTag ++ ascii "\r\n" else ascii "\r\n").length =
      2 + if isResponse kind then 13 else 0 := by
    have ends : (ascii ";tag=").length = 5 ∧ (ascii "\r\n").length = 2 := by decide
    split_ifs
    · rw [List.length_append, List.length_append, length_hex8, ends.1, ends.2]
    · exact ends.2
  have token := length_hex8 a.authToken
  have fromTag := length_hex8 a.fromTag
  have time := length_timeOfDay a
  obtain ⟨via, colon, branch, sender, at', tagged, recipient, bracket, call, cseq, space, date, contact, agent⟩ := widths
  unfold fieldLines HeaderArgs.sportText HeaderArgs.dportText
  simp only [List.length_append]
  rw [tag, token, fromTag, time, via, colon, branch, sender, at', tagged, recipient, bracket, call, cseq, space, date, contact,
    agent]
  omega

theorem length_sdpPreamble (a : HeaderArgs) :
    (sdpPreamble a).length = 149 + 2 * (decimal (a.nowUs / 1000)).length + a.srcIp.length + a.dstIp.length +
      (decimal a.rtpPort.toNat).length := by
  have widths : (ascii "v=0\r\no=- ").length = 9 ∧ (ascii " ").length = 1 ∧ (ascii " IN IP4 ").length = 8 ∧
      (ascii "\r\ns=SIP Call\r\nc=IN IP4 ").length = 23 ∧ (ascii "\r\nt=0 0\r\nm=audio ").length = 17 ∧
      (ascii (" RTP/AVP 0 8\r\na=rtpmap:0 PCMU/8000\r\na=rtpmap:8 PCMA/8000\r\na=ptime:20\r\na=sendrecv\r\n" ++
        "a=fmtp:0 ")).length = 91 := by
    decide
  obtain ⟨version, space, origin, call, media, attributes⟩ := widths
  simp only [sdpPreamble, List.length_append, version, space, origin, call, media, attributes]
  omega

theorem length_contentPart_le (bounded : a.Bounded) : (contentPart a).length ≤ 318 := by
  have widths : (ascii "Content-Type: application/sdp\r\nContent-Length: ").length = 47 ∧ (ascii "\r\n\r\n").length = 4 ∧
      (ascii "Content-Length: 0").length = 17 ∧ (crlf ++ crlf).length = 4 := by
    decide
  have session := length_decimal_le (by decide) bounded.clock
  have rtpPort := length_port a.rtpPort
  have sdp := length_sdpPreamble a
  obtain ⟨srcIp, dstIp, -, -, payload⟩ := bounded
  have total : (decimal ((sdpPreamble a).length + a.payloadLen)).length ≤ 5 :=
    length_decimal_le (by decide) (by rw [sdp]; omega)
  obtain ⟨type, separator, empty, ends⟩ := widths
  unfold contentPart
  split_ifs
  · simp only [List.length_append, type, separator]
    omega
  · rw [List.length_append, empty, ends]
    omega

theorem length_optionsKeepalive_le (bounded : a.Bounded) : (optionsKeepalive a).length ≤ 400 + 4 * a.domain.length := by
  have widths : (ascii "OPTIONS sip:").length = 12 ∧ (ascii "@").length = 1 ∧ (ascii ":").length = 1 ∧
      (ascii " SIP/2.0\r\nVia: SIP/2.0/UDP ").length = 27 ∧ (ascii ";branch=z9hG4bK-").length = 16 ∧
      (ascii "\r\nMax-Forwards: 70\r\nFrom: <sip:").length = 31 ∧ (ascii ">;tag=").length = 6 ∧
      (ascii "\r\nTo: <sip:").length = 11 ∧ (ascii ">\r\nCall-ID: ").length = 12 ∧ (ascii "\r\nCSeq: ").length = 8 ∧
      (ascii " OPTIONS\r\nDate: ").length = 16 ∧ (ascii " ").length = 1 ∧ (ascii " GMT\r\nContact: <sip:").length = 20 ∧
      (ascii ">\r\nUser-Agent: Asterisk PBX 16.2.0\r\nContent-Length: 0\r\n\r\n").length = 57 := by
    decide
  have token := length_hex8 a.authToken
  have fromTag := length_hex8 a.fromTag
  have time := length_timeOfDay a
  have number := length_cseq a
  have sport := length_port a.sport
  have dport := length_port a.dport
  obtain ⟨srcIp, -, dateStr, -⟩ := bounded
  obtain ⟨method, at', colon, via, branch, sender, tagged, recipient, call, cseq, date, space, contact, agent⟩ := widths
  unfold optionsKeepalive HeaderArgs.sportText HeaderArgs.dportText
  simp only [List.length_append]
  rw [token, fromTag, time, method, at', colon, via, branch, sender, tagged, recipient, call, cseq, date, space, contact, agent]
  omega

-- the name is written four times
theorem length_headerText_le (kind : SipKind) (bounded : a.Bounded) :
    (headerText kind a).length ≤ 768 + 4 * a.domain.length := by
  have start := length_startLine_le kind a
  have fields := length_fieldLines kind a
  have content := length_contentPart_le bounded
  have keepalive := length_optionsKeepalive_le bounded
  have cseq := length_cseq a
  have sport := length_port a.sport
  have dport := length_port a.dport
  have method : (ascii (cseqMethod kind)).length ≤ 8 := by cases kind <;> decide
  obtain ⟨srcIp, -, dateStr, -⟩ := bounded
  unfold headerText
  split_ifs
  · omega
  · rw [List.length_append, List.length_append]
    split_ifs at fields <;> omega

theorem length_headerText_ge {kind : SipKind} (payload : 0 < a.payloadLen) : 360 ≤ (headerText kind a).length := by
  have fields := length_fieldLines kind a
  have sdp := length_sdpPreamble a
  have general : ¬(kind = .options ∧ a.payloadLen = 0) := by omega
  rw [headerText, if_neg general, contentPart, if_pos payload]
  simp only [List.length_append]
  omega

end Gutd.Sip
