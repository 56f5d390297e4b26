import Gutd.Proto.SipToken
import Gutd.Shared.Cursor

set_option autoImplicit false

-- `write_header` and `write_options_keepalive` of `proto/sip.rs`, write by write. The clock is read in microseconds,
-- of which 64 bits are kept.

namespace Gutd.Sip

open Bytes Checked

def hexTable : Buf := ascii "0123456789abcdef"

-- `write_hex8` into the eight bytes behind the position, and `set_position` over them
def writeHex8 (c : Cursor) (val : UInt32) : Result Cursor :=
  c.patch 8 fun i => byteAt hexTable ((val >>> UInt32.ofNat (28 - 4 * i)) &&& 0xF).toNat

def generateAuthToken (timestampUs : Nat) (feistelKey : Vector UInt32 4) : UInt32 :=
  sipHash32 (UInt32.ofNat (timestampUs / 100000)) feistelKey

def keepaliveOn (srcIp : Buf) (sport dport : UInt16) (domain : Buf) (feistelKey : Vector UInt32 4) (dateStr : Buf)
    (nowUs : Nat) (c : Cursor) : Result Cursor := do
  let timestampUs := nowUs % 2 ^ 64
  let authToken := generateAuthToken timestampUs feistelKey
  let fromTagVal := sipHash32 (UInt32.ofNat (timestampUs / 1000 ^^^ sport.toNat)) feistelKey
  let timeOfDayUs := timestampUs % 86400000000
  let hour := UInt8.ofNat (timeOfDayUs / 3600000000)
  let minute := UInt8.ofNat (timeOfDayUs % 3600000000 / 60000000)
  let second := UInt8.ofNat (timeOfDayUs % 60000000 / 1000000)
  let microsecond := UInt32.ofNat (timeOfDayUs % 1000000)
  let c ← c.write (ascii "OPTIONS sip:" ++ decimal dport.toNat ++ ascii "@" ++ domain ++ ascii ":" ++ decimal dport.toNat ++
    ascii " SIP/2.0\r\nVia: SIP/2.0/UDP " ++ srcIp ++ ascii ":" ++ decimal sport.toNat ++ ascii ";branch=z9hG4bK-")
  let c ← writeHex8 c authToken
  let c ← c.write (ascii "\r\nMax-Forwards: 70\r\nFrom: <sip:" ++ decimal sport.toNat ++ ascii "@" ++ domain ++ ascii ">;tag=")
  let c ← writeHex8 c fromTagVal
  let c ← c.write (ascii "\r\nTo: <sip:" ++ decimal dport.toNat ++ ascii "@" ++ domain ++ ascii ">\r\nCall-ID: ")
  let c ← writeHex8 c authToken
  c.write (ascii "@" ++ domain ++ ascii "\r\nCSeq: " ++ decimal (timestampUs / 1000 % 1000 + 1) ++
    ascii " OPTIONS\r\nDate: " ++ dateStr ++ ascii " " ++ decimalPadded 2 hour.toNat ++ ascii ":" ++
    decimalPadded 2 minute.toNat ++ ascii ":" ++ decimalPadded 2 second.toNat ++ ascii "." ++
    decimalPadded 6 microsecond.toNat ++ ascii " GMT\r\nContact: <sip:" ++ decimal sport.toNat ++ ascii "@" ++ srcIp ++
    ascii ":" ++ decimal sport.toNat ++ ascii ">\r\nUser-Agent: Asterisk PBX 16.2.0\r\nContent-Length: 0\r\n\r\n")

def writeOptionsKeepalive (buf srcIp : Buf) (sport dport : UInt16) (domain : Buf) (feistelKey : Vector UInt32 4)
    (dateStr : Buf) (nowUs : Nat) : Result (Buf × Nat) := do
  let c ← keepaliveOn srcIp sport dport domain feistelKey dateStr nowUs { buf, pos := 0 }
  pure (c.buf, c.pos)

def startLineOn (kind : SipKind) (timestampUs : Nat) (a : HeaderArgs) (c : Cursor) : Result Cursor :=
  match kind with
  | .register => c.write (ascii "REGISTER sip:" ++ a.domain ++ ascii " SIP/2.0\r\n")
  | .message =>
      c.write (ascii "MESSAGE sip:" ++ decimal a.dport.toNat ++ ascii "@" ++ a.domain ++ ascii ":" ++
        decimal a.dport.toNat ++ ascii " SIP/2.0\r\n")
  | .options =>
      c.write (ascii "OPTIONS sip:" ++ decimal a.dport.toNat ++ ascii "@" ++ a.domain ++ ascii ":" ++
        decimal a.dport.toNat ++ ascii " SIP/2.0\r\n")
  | .response200 => c.write (ascii "SIP/2.0 200 OK\r\n")
  | .response401 => do
      let c ← c.write (ascii "SIP/2.0 401 Unauthorized\r\n")
      let nonceVal := sipHash32 (UInt32.ofNat (timestampUs / 1000)) a.feistelKey
      let c ← c.write (ascii "WWW-Authenticate: Digest realm=\"" ++ a.domain ++ ascii "\", nonce=\"")
      let c ← writeHex8 c nonceVal
      c.write (ascii "\", algorithm=MD5\r\n")
  | .response403 => c.write (ascii "SIP/2.0 403 Forbidden\r\n")

def recipientOn (kind : SipKind) (toTagVal : UInt32) (c : Cursor) : Result Cursor :=
  if isResponse kind then do
    let c ← c.write (ascii ";tag=")
    let c ← writeHex8 c toTagVal
    c.write (ascii "\r\n")
  else c.write (ascii "\r\n")

def fieldsOn (kind : SipKind) (timestampUs : Nat) (a : HeaderArgs) (c : Cursor) : Result Cursor := do
  let authToken := generateAuthToken timestampUs a.feistelKey
  let fromTagVal := sipHash32 (UInt32.ofNat (timestampUs / 1000 ^^^ a.sport.toNat)) a.feistelKey
  let toTagVal := sipHash32 (UInt32.ofNat (timestampUs / 1000 ^^^ a.dport.toNat)) a.feistelKey
  let c ← c.write (ascii "Via: SIP/2.0/UDP " ++ a.srcIp ++ ascii ":" ++ decimal a.sport.toNat ++ ascii ";branch=z9hG4bK-")
  let c ← writeHex8 c authToken
  let c ← c.write (ascii "\r\nMax-Forwards: 70\r\nFrom: <sip:" ++ decimal a.sport.toNat ++ ascii "@" ++ a.domain ++
    ascii ">;tag=")
  let c ← writeHex8 c fromTagVal
  let c ← c.write (ascii "\r\nTo: <sip:" ++ decimal a.dport.toNat ++ ascii "@" ++ a.domain ++ ascii ">")
  let c ← recipientOn kind toTagVal c
  let c ← c.write (ascii "Call-ID: ")
  let c ← writeHex8 c authToken
  let c ← c.write (ascii "@" ++ a.domain ++ ascii "\r\n")
  let c ← c.write (ascii "CSeq: " ++ decimal (timestampUs / 1000 % 1000 + 1) ++ ascii " " ++ ascii (cseqMethod kind) ++
    ascii "\r\n")
  let timeOfDayUs := timestampUs % 86400000000
  let hour := timeOfDayUs / 3600000000
  let minute := timeOfDayUs % 3600000000 / 60000000
  let second := timeOfDayUs % 60000000 / 1000000
  let microsecond := timeOfDayUs % 1000000
  let c ← c.write (ascii "Date: " ++ a.dateStr ++ ascii " " ++ decimalPadded 2 hour ++ ascii ":" ++ decimalPadded 2 minute ++
    ascii ":" ++ decimalPadded 2 second ++ ascii "." ++ decimalPadded 6 microsecond ++ ascii " GMT\r\n")
  let c ← c.write (ascii "Contact: <sip:" ++ decimal a.sport.toNat ++ ascii "@" ++ a.srcIp ++ ascii ":" ++
    decimal a.sport.toNat ++ ascii ">\r\n")
  c.write (ascii "User-Agent: Asterisk PBX 16.2.0\r\n")

def contentOn (timestampUs : Nat) (a : HeaderArgs) (c : Cursor) : Result Cursor :=
  if a.payloadLen > 0 then do
    let sessionId := decimal (timestampUs / 1000)
    let preamble := ascii "v=0\r\no=- " ++ sessionId ++ ascii " " ++ sessionId ++ ascii " IN IP4 " ++ a.srcIp ++
      ascii "\r\ns=SIP Call\r\nc=IN IP4 " ++ a.dstIp ++ ascii "\r\nt=0 0\r\nm=audio " ++ decimal a.rtpPort.toNat ++
      ascii (" RTP/AVP 0 8\r\na=rtpmap:0 PCMU/8000\r\na=rtpmap:8 PCMA/8000\r\na=ptime:20\r\na=sendrecv\r\n" ++ "a=fmtp:0 ")
    let c ← c.write (ascii "Content-Type: application/sdp\r\n")
    c.write (ascii "Content-Length: " ++ decimal (preamble.length + a.payloadLen) ++ ascii "\r\n\r\n" ++ preamble)
  else c.write (ascii "Content-Length: 0\r\n\r\n")

def generalOn (kind : SipKind) (a : HeaderArgs) (c : Cursor) : Result Cursor := do
  let timestampUs := a.nowUs % 2 ^ 64
  let c ← startLineOn kind timestampUs a c
  let c ← fieldsOn kind timestampUs a c
  contentOn timestampUs a c

def writeGeneral (buf : Buf) (kind : SipKind) (a : HeaderArgs) : Result (Buf × Nat) := do
  let c ← generalOn kind a { buf, pos := 0 }
  pure (c.buf, c.pos)

theorem nibbles_eq (val : UInt32) :
    ((List.range 8).map fun i => byteAt hexTable ((val >>> UInt32.ofNat (28 - 4 * i)) &&& 0xF).toNat) = hex8 val := by
  refine List.map_congr_left fun i inside => ?_
  have small := List.mem_range.mp inside
  have low : (0xF : UInt32).toNat = 2 ^ 4 - 1 := rfl
  have nibble : ((val >>> UInt32.ofNat (28 - 4 * i)) &&& 0xF).toNat = val.toNat / 16 ^ (7 - i) % 16 := by
    rw [UInt32.toNat_and, low, Nat.and_two_pow_sub_one_eq_mod, UInt32.toNat_shiftRight, UInt32.toNat_ofNat',
      Nat.shiftRight_eq_div_pow, show (28 - 4 * i) % 2 ^ 32 % 32 = 4 * (7 - i) by omega, Nat.pow_mul]
  rw [nibble]
  rfl

theorem emits_hex8 (val : UInt32) : Emits (fun c => writeHex8 c val) (hex8 val) :=
  (Emits.patch 8 _).congr (nibbles_eq val)

def HeaderArgs.clocked (a : HeaderArgs) : HeaderArgs := { a with nowUs := a.nowUs % 2 ^ 64 }

-- hours, minutes, seconds and microseconds fit the integers that the fast path casts them to
theorem timeOfDay_cast (us : Nat) :
    let day := us % 86400000000
    (UInt8.ofNat (day / 3600000000)).toNat = day / 3600000000 ∧
      (UInt8.ofNat (day % 3600000000 / 60000000)).toNat = day % 3600000000 / 60000000 ∧
      (UInt8.ofNat (day % 60000000 / 1000000)).toNat = day % 60000000 / 1000000 ∧
      (UInt32.ofNat (day % 1000000)).toNat = day % 1000000 := by
  simp only [UInt8.toNat_ofNat', UInt32.toNat_ofNat']
  omega

theorem emits_keepalive (a : HeaderArgs) :
    Emits (keepaliveOn a.srcIp a.sport a.dport a.domain a.feistelKey a.dateStr a.nowUs) (optionsKeepalive a.clocked) := by
  obtain ⟨hour, minute, second, microsecond⟩ := timeOfDay_cast (a.nowUs % 2 ^ 64)
  unfold keepaliveOn
  simp only [hour, minute, second, microsecond]
  refine Emits.congr ((Emits.write _).bind ((emits_hex8 _).bind ((Emits.write _).bind ((emits_hex8 _).bind
    ((Emits.write _).bind ((emits_hex8 _).bind (Emits.write _))))))) ?_
  unfold optionsKeepalive generateAuthToken HeaderArgs.authToken HeaderArgs.fromTag HeaderArgs.cseq HeaderArgs.timeOfDay
    HeaderArgs.sportText HeaderArgs.dportText HeaderArgs.clocked
  simp only [List.append_assoc]

theorem emits_startLine (kind : SipKind) (a : HeaderArgs) :
    Emits (startLineOn kind (a.nowUs % 2 ^ 64) a) (startLine kind a.clocked) := by
  cases kind with
  | register => exact Emits.write _
  | message => exact Emits.write _
  | options => exact Emits.write _
  | response200 => exact Emits.write _
  | response401 =>
      have line : ascii "SIP/2.0 401 Unauthorized\r\nWWW-Authenticate: Digest realm=\"" =
          ascii "SIP/2.0 401 Unauthorized\r\n" ++ ascii "WWW-Authenticate: Digest realm=\"" := by decide
      have writes : Emits (startLineOn .response401 (a.nowUs % 2 ^ 64) a) _ :=
        (Emits.write _).bind ((Emits.write _).bind ((emits_hex8 _).bind (Emits.write _)))
      refine writes.congr ?_
      simp only [startLine, line, List.append_assoc]
      rfl
  | response403 => exact Emits.write _

theorem emits_recipient (kind : SipKind) (tag : UInt32) :
    Emits (recipientOn kind tag) (if isResponse kind then ascii ";tag=" ++ hex8 tag ++ ascii "\r\n" else ascii "\r\n") := by
  unfold recipientOn
  split_ifs
  · exact ((Emits.write _).bind ((emits_hex8 _).bind (Emits.write _))).congr (List.append_assoc _ _ _).symm
  · exact Emits.write _

theorem emits_fields (kind : SipKind) (a : HeaderArgs) :
    Emits (fieldsOn kind (a.nowUs % 2 ^ 64) a) (fieldLines kind a.clocked) := by
  have cseq : ascii "\r\nCSeq: " = ascii "\r\n" ++ ascii "CSeq: " := by decide
  have date : ascii "\r\nDate: " = ascii "\r\n" ++ ascii "Date: " := by decide
  have contact : ascii " GMT\r\nContact: <sip:" = ascii " GMT\r\n" ++ ascii "Contact: <sip:" := by decide
  have agent : ascii ">\r\nUser-Agent: Asterisk PBX 16.2.0\r\n" =
      ascii ">\r\n" ++ ascii "User-Agent: Asterisk PBX 16.2.0\r\n" := by decide
  unfold fieldsOn
  dsimp only
  refine Emits.congr ((Emits.write _).bind ((emits_hex8 _).bind ((Emits.write _).bind ((emits_hex8 _).bind
    ((Emits.write _).bind ((emits_recipient _ _).bind ((Emits.write _).bind ((emits_hex8 _).bind ((Emits.write _).bind
      ((Emits.write _).bind ((Emits.write _).bind ((Emits.write _).bind (Emits.write _))))))))))))) ?_
  unfold fieldLines generateAuthToken HeaderArgs.authToken HeaderArgs.fromTag HeaderArgs.toTag HeaderArgs.cseq
    HeaderArgs.timeOfDay HeaderArgs.sportText HeaderArgs.dportText HeaderArgs.clocked
  simp only [cseq, date, contact, agent, List.append_assoc]

theorem emits_content (a : HeaderArgs) : Emits (contentOn (a.nowUs % 2 ^ 64) a) (contentPart a.clocked) := by
  have length : ascii "Content-Type: application/sdp\r\nContent-Length: " =
      ascii "Content-Type: application/sdp\r\n" ++ ascii "Content-Length: " := by decide
  have zero : ascii "Content-Length: 0\r\n\r\n" = ascii "Content-Length: 0" ++ (crlf ++ crlf) := by decide
  unfold contentOn contentPart
  by_cases payload : a.payloadLen > 0
  · have payload' : a.clocked.payloadLen > 0 := payload
    simp only [payload, payload', if_true]
    refine ((Emits.write _).bind (Emits.write _)).congr ?_
    simp only [length, sdpPreamble, HeaderArgs.clocked, List.append_assoc]
  · have payload' : ¬a.clocked.payloadLen > 0 := payload
    simp only [payload, payload', if_false]
    exact (Emits.write _).congr zero

theorem emits_general (kind : SipKind) (a : HeaderArgs) :
    Emits (generalOn kind a) (startLine kind a.clocked ++ fieldLines kind a.clocked ++ contentPart a.clocked) :=
  ((emits_startLine kind a).bind ((emits_fields kind a).bind (emits_content a))).congr (List.append_assoc _ _ _).symm

section Result

variable {writer : Cursor → Result Cursor} {text buf : Buf}

theorem written_whole (emits : Emits writer text) (room : text.length ≤ buf.length) :
    (do let c ← writer { buf, pos := 0 }; pure (c.buf, c.pos)) =
      (.ok (text ++ buf.drop text.length, text.length) : Result (Buf × Nat)) := by
  rw [emits.whole room]
  rfl

end Result

theorem headerText_options {a : HeaderArgs} (empty : a.payloadLen = 0) :
    startLine .options a ++ fieldLines .options a ++ contentPart a = optionsKeepalive a := by
  have content : contentPart a = ascii "Content-Length: 0\r\n\r\n" := by
    rw [contentPart, if_neg (by omega)]
    decide
  rw [optionsKeepalive_eq, content, List.append_assoc]

theorem writeOptionsKeepalive_general (buf : Buf) (a : HeaderArgs) (empty : a.payloadLen = 0)
    (room : (optionsKeepalive a.clocked).length ≤ buf.length) :
    writeOptionsKeepalive buf a.srcIp a.sport a.dport a.domain a.feistelKey a.dateStr a.nowUs =
        .ok (optionsKeepalive a.clocked ++ buf.drop (optionsKeepalive a.clocked).length,
          (optionsKeepalive a.clocked).length) ∧
      writeGeneral buf .options a =
        writeOptionsKeepalive buf a.srcIp a.sport a.dport a.domain a.feistelKey a.dateStr a.nowUs := by
  have fast := written_whole (emits_keepalive a) room
  have emits := (emits_general .options a).congr (headerText_options (a := a.clocked) empty)
  exact ⟨fast, (written_whole emits room).trans fast.symm⟩

theorem writeOptionsKeepalive_sample :
    writeOptionsKeepalive (List.replicate 1024 0) keepaliveArgs.srcIp 5060 5060 keepaliveArgs.domain keepaliveArgs.feistelKey
          keepaliveArgs.dateStr 0 =
        .ok (optionsKeepalive keepaliveArgs.clocked ++
          (List.replicate 1024 0).drop (optionsKeepalive keepaliveArgs.clocked).length,
            (optionsKeepalive keepaliveArgs.clocked).length) ∧
      writeGeneral (List.replicate 1024 0) .options keepaliveArgs =
        writeOptionsKeepalive (List.replicate 1024 0) keepaliveArgs.srcIp 5060 5060 keepaliveArgs.domain
          keepaliveArgs.feistelKey keepaliveArgs.dateStr 0 :=
  writeOptionsKeepalive_general (List.replicate 1024 0) keepaliveArgs rfl (by decide +kernel)

end Gutd.Sip
