import Gutd.Bpf.Xdp
import Gutd.Proto.Sip

set_option autoImplicit false

-- The part of `gut_xdp_core` that turns a syslog line, a SIP message or an RTP packet back into a GUT datagram in the
-- frame.

namespace Gutd.Bpf

open Bytes Checked Wire

def wgMinPacket : Nat := 32
def gutHeaderSize : Nat := 10

structure Received where
  pos : UdpPos
  udpLen : Nat
  wgLen : Nat
  deriving DecidableEq

def Received.wgOff (r : Received) : Nat := r.pos.payloadOff

def parseWg (cfg : GutConfig) (frame : Buf) : Option Received :=
  match parseUdp frame with
  | none => none
  | some pos =>
      let udpLen := (be16At frame (pos.udpOff + 4)).toNat
      if isGutPort (be16At frame (pos.udpOff + 2)) cfg = false then none
      else if udpLen < 8 + wgMinPacket then none
      else if pos.payloadOff + wgMinPacket > frame.length ∨ pos.payloadOff + (udpLen - 8) > frame.length then none
      else some { pos, udpLen, wgLen := udpLen - 8 }

def sub32 (a b : Nat) : Nat := (a + 2 ^ 32 - b) % 2 ^ 32

def b64DecLut (c : UInt8) : UInt8 :=
  if 0x41 ≤ c ∧ c ≤ 0x5A then c - 0x41
  else if 0x61 ≤ c ∧ c ≤ 0x7A then c - 0x61 + 26
  else if 0x30 ≤ c ∧ c ≤ 0x39 then c - 0x30 + 52
  else if c = 0x2B then 62
  else if c = 0x2F then 63
  else 0

def b64DecodeStep (src : Buf) (idx : Nat) : Buf :=
  let v0 := b64DecLut (byteAt src (idx * 4))
  let v1 := b64DecLut (byteAt src (idx * 4 + 1))
  let v2 := b64DecLut (byteAt src (idx * 4 + 2))
  let v3 := b64DecLut (byteAt src (idx * 4 + 3))
  [(v0 <<< 2) ||| (v1 >>> 4), (v1 <<< 4) ||| (v2 >>> 2), (v2 <<< 6) ||| v3]

def b64Decode (src : Buf) : Buf × Nat :=
  let ngroups := src.length / 4
  let equals (back : Nat) : Nat := if 4 ≤ src.length ∧ byteAt src (src.length - back) = 0x3D then 1 else 0
  ((List.range ngroups).flatMap (b64DecodeStep src), ngroups * 3 - equals 1 - equals 2)

def gutB64MaxOut : Nat := 1200
def gutB64MaxInner : Nat := 896

def trimTail (x : Xdp) (excess : Nat) : Run Xdp :=
  if excess > 0 then orReject x (x.adjustTail (-excess)) else pure x

def replaceByDecoded (r : Received) (hdrLen b64Len : Nat) (x : Xdp) : Run (Received × Xdp) := do
  rejectIf x (b64Len < 16 ∨ b64Len > gutB64MaxOut)
  let text ← orReject x (loadBytes x.frame (r.wgOff + hdrLen) b64Len)
  rejectIf x (b64Len % 4 ≠ 0)
  let (inner, decodedLen) := b64Decode text
  rejectIf x (decodedLen < gutHeaderSize + wgMinPacket ∨ decodedLen > gutB64MaxInner)
  let ballast := ballastLen (byteAt inner 9)
  rejectIf x (ballast ≥ decodedLen - gutHeaderSize)
  let netLen := (decodedLen - ballast) % 2 ^ 10
  rejectIf x (netLen < gutHeaderSize + wgMinPacket)
  -- the ballast flag is cleared for the code that all modes share
  let inner := overwrite inner 9 [0x00]
  let frame ← orReject x (storeBytes x.frame r.wgOff (inner.take netLen))
  let x := { x with frame }
  let x ← trimTail x (r.wgLen - netLen)
  rejectIf x (r.wgOff > x.frame.length)
  rejectIf x (r.wgOff + gutHeaderSize + wgMinPacket > x.frame.length ∨ r.wgOff + netLen > x.frame.length)
  pure ({ r with udpLen := 8 + netLen, wgLen := netLen }, x)

def syslogMarker : Buf := ascii " - - -  "

def syslogHdrLen (frame : Buf) (wgOff : Nat) : Nat :=
  match (List.range' 28 32).find? fun i => slice frame (wgOff + i) (wgOff + i + 8) == syslogMarker with
  | some i => i + 8
  | none => 0

def removeSyslog (r : Received) (x : Xdp) : Run (Received × Xdp) := do
  rejectIf x (byteAt x.frame r.wgOff ≠ 0x3C)
  rejectIf x (r.wgOff + 68 > x.frame.length)
  let hdrLen := syslogHdrLen x.frame r.wgOff
  rejectIf x (hdrLen < 36 ∨ hdrLen > 68)
  replaceByDecoded r hdrLen (sub32 r.wgLen hdrLen % 2 ^ 12) x

structure SipScan where
  result : Nat
  dateNumeric : UInt64
  authToken : UInt32

def dateDigits (line : Buf) (start : UInt64) : UInt64 :=
  (line.takeWhile fun b => b ≠ 0x0D ∧ b ≠ 0x0A).foldl
    (fun n b => if 0x30 ≤ b ∧ b ≤ 0x39 then n * 10 + (b - 0x30).toUInt64 else n) start

def sipDateExtractCb (scan : Buf) (maxLen idx : Nat) (ctx : SipScan) : SipScan × Bool :=
  if idx + 7 > maxLen then (ctx, true)
  else if slice scan idx (idx + 6) = ascii "Date: " then
    ({ ctx with dateNumeric := dateDigits (slice scan (idx + 6) (min (idx + 48) maxLen)) ctx.dateNumeric }, true)
  else (ctx, false)

def hexNibble (tok : UInt32) (b : UInt8) : UInt32 :=
  if 0x30 ≤ b ∧ b ≤ 0x39 then (tok <<< 4) ||| (b - 0x30).toUInt32
  else if 0x61 ≤ b ∧ b ≤ 0x66 then (tok <<< 4) ||| (b - 0x61 + 10).toUInt32
  else if 0x41 ≤ b ∧ b ≤ 0x46 then (tok <<< 4) ||| (b - 0x41 + 10).toUInt32
  else tok

-- the token may be read past the loaded bytes, where the scratch buffer still holds an earlier packet
def sipAuthScanCb (scan : Buf) (maxLen idx : Nat) (ctx : SipScan) : SipScan × Bool :=
  if ctx.authToken ≠ 0 then (ctx, true)
  else if idx ≥ maxLen then (ctx, true)
  else if byteAt scan idx = 0x7A ∧ byteAt scan (idx + 7) = 0x2D then
    ({ ctx with authToken := ((List.range 8).map fun j => byteAt scan (idx + 8 + j)).foldl hexNibble 0 }, true)
  else (ctx, false)

def sipMarker : Buf := ascii "a=fmtp:0 "

def sipMarkerScanCb (scan : Buf) (maxLen idx : Nat) (ctx : SipScan) : SipScan × Bool :=
  if ctx.result ≠ 0 then (ctx, true)
  else if idx + 9 > maxLen then (ctx, true)
  else if slice scan idx (idx + 9) = sipMarker then ({ ctx with result := idx + 9 }, true)
  else (ctx, false)

def looksRtp (frame : Buf) (wgOff : Nat) : Bool :=
  byteAt frame wgOff &&& 0xC0 == 0x80 && byteAt frame (wgOff + 1) &&& 0x7F == 0x60

def looksSip (frame : Buf) (wgOff : Nat) : Bool :=
  (ascii "MROSIBAVNP").contains (byteAt frame wgOff) || slice frame wgOff (wgOff + 3) == ascii "GET"

def removeRtp (r : Received) (x : Xdp) : Run (Received × Xdp) := do
  let gutDataLen := sub32 r.wgLen 12 % 2 ^ 12
  rejectIf x (gutDataLen < gutHeaderSize + wgMinPacket ∨ gutDataLen > 1500)
  rejectIf x (r.wgOff > 62)
  let headers := slice x.frame 0 r.wgOff
  let x ← orReject x (x.adjustHead 12)
  rejectIf x (r.wgOff > x.frame.length)
  let x := { x with frame := overwrite x.frame 0 headers }
  rejectIf x (r.wgOff + gutHeaderSize + wgMinPacket > x.frame.length)
  pure ({ r with udpLen := 8 + gutDataLen, wgLen := gutDataLen }, x)

def removeSip (cfg : GutConfig) (r : Received) (x : Xdp) : Run (Received × Xdp) := do
  let scanLen := min r.wgLen 1024
  rejectIf x (scanLen < 64)
  let window ← orReject x (loadBytes x.frame r.wgOff scanLen)
  let x := { x with scan := window ++ x.scan.drop scanLen }
  let ctx : SipScan := { result := 0, dateNumeric := 0, authToken := 0 }
  let ctx := bpfLoop 512 (sipDateExtractCb x.scan scanLen) ctx
  let ctx := bpfLoop 480 (sipAuthScanCb x.scan scanLen) ctx
  let ts100ms := (ctx.dateNumeric / 10000).toUInt32
  rejectIf x (ctx.authToken = 0 ∨ sipHash32 ts100ms cfg.tokenKey ≠ ctx.authToken)
  let ctx := bpfLoop 1024 (sipMarkerScanCb x.scan scanLen) ctx
  rejectIf x (ctx.result = 0 ∨ ctx.result > 256 ∨ ctx.result ≥ r.wgLen)
  replaceByDecoded r ctx.result (sub32 r.wgLen ctx.result % 2 ^ 11) x

def removeSipOrRtp (cfg : GutConfig) (r : Received) (x : Xdp) : Run (Received × Xdp) :=
  if r.wgLen < 22 then throw x
  else if looksRtp x.frame r.wgOff then removeRtp r x
  else if looksSip x.frame r.wgOff then removeSip cfg r x
  else throw x

def removeEnvelope (mode : ObfsMode) (cfg : GutConfig) (r : Received) (x : Xdp) : Run (Received × Xdp) :=
  match mode with
  | .gut => pure (r, x)
  | .quic => pure (r, x)
  | .syslog => removeSyslog r x
  | .sip => removeSipOrRtp cfg r x

end Gutd.Bpf
