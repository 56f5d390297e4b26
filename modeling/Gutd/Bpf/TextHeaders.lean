import Gutd.Bpf.Maps
import Gutd.Proto.Sip

set_option autoImplicit false

-- Base64 encoding, `write_syslog_ascii` and `write_sip_header` of `gut_common.h`.

namespace Gutd.Bpf

open Bytes Wire

def b64EncLut : Buf := ascii "ABCDEFGHIJKLMNOPQRSTUVWXYZabcdefghijklmnopqrstuvwxyz0123456789+/"

def b64e (val : UInt8) : UInt8 := byteAt b64EncLut (val &&& 63).toNat

def b64EncodeStep (src : Buf) (idx : Nat) : Buf :=
  let a := byteAt src (idx * 3)
  let b := byteAt src (idx * 3 + 1)
  let d := byteAt src (idx * 3 + 2)
  [b64e (a >>> 2), b64e (((a &&& 0x03) <<< 4) ||| (b >>> 4)), b64e (((b &&& 0x0F) <<< 2) ||| (d >>> 6)),
    b64e (d &&& 0x3F)]

def b64Encode (src : Buf) : Buf :=
  let fullGroups := min (src.length / 3) 300
  let ip := fullGroups * 3
  let rem := src.length - ip
  let a := byteAt src ip
  let b := byteAt src (ip + 1)
  let tail : Buf :=
    if rem ≥ 2 then [b64e (a >>> 2), b64e (((a &&& 0x03) <<< 4) ||| (b >>> 4)), b64e ((b &&& 0x0F) <<< 2), 0x3D]
    else if rem ≥ 1 then [b64e (a >>> 2), b64e ((a &&& 0x03) <<< 4), 0x3D, 0x3D]
    else []
  (List.range fullGroups).flatMap (b64EncodeStep src) ++ tail

structure CivilTime where
  y : Nat
  m : Nat
  d : Nat
  dow : Nat
  hour : Nat
  min : Nat
  sec : Nat
  us : Nat

-- the clock is International Atomic Time, 37 seconds ahead
def civilTime (taiNs : Nat) : CivilTime :=
  let secs := (taiNs / 1000000000 + 2 ^ 64 - 37) % 2 ^ 64
  let tod := secs % 86400
  let daysSinceEpoch := secs / 86400 % 2 ^ 32
  let z := (daysSinceEpoch + 719468) % 2 ^ 32
  let era := z / 146097
  let doe := z - era * 146097
  let yoe := (doe - doe / 1460 + doe / 36524 - doe / 146096) / 365
  let y := yoe + era * 400
  let doy := doe - (365 * yoe + yoe / 4 - yoe / 100)
  let mp := (5 * doy + 2) / 153
  let d := doy - (153 * mp + 2) / 5 + 1
  let m := if mp < 10 then mp + 3 else mp - 9
  { y := if m ≤ 2 then y + 1 else y
    m
    d
    dow := (daysSinceEpoch + 3) % 2 ^ 32 % 7
    hour := tod / 3600
    min := tod % 3600 / 60
    sec := tod % 60
    us := taiNs / 1000 % 1000000 }

def digit (n : Nat) : UInt8 := UInt8.ofNat (0x30 + n)

def digits2 (n : Nat) : Buf := [digit (n / 10), digit (n % 10)]

def digits4 (n : Nat) : Buf := [digit (n / 1000 % 10), digit (n / 100 % 10), digit (n / 10 % 10), digit (n % 10)]

def digits6 (n : Nat) : Buf :=
  [digit (n / 100000 % 10), digit (n / 10000 % 10), digit (n / 1000 % 10), digit (n / 100 % 10), digit (n / 10 % 10),
    digit (n % 10)]

def GutConfig.sni (cfg : GutConfig) : Buf := cfg.sniDomain.toList.take (min cfg.sniDomainLen.toNat 32)

def writeSyslogAscii (cfg : GutConfig) (taiNs : Nat) : Buf :=
  let t := civilTime taiNs
  ascii "<165>1 " ++ digits4 t.y ++ ascii "-" ++ digits2 t.m ++ ascii "-" ++ digits2 t.d ++ ascii "T" ++
    digits2 t.hour ++ ascii ":" ++ digits2 t.min ++ ascii ":" ++ digits2 t.sec ++ ascii "Z " ++ cfg.sni ++
    ascii " - - -  "

theorem length_writeSyslogAscii (cfg : GutConfig) (taiNs : Nat) :
    (writeSyslogAscii cfg taiNs).length = 36 + min cfg.sniDomainLen.toNat 32 := by
  have name : cfg.sni.length = min cfg.sniDomainLen.toNat 32 := by
    rw [GutConfig.sni, List.length_take, Vector.length_toList]
    omega
  have marker : (ascii " - - -  ").length = 8 := rfl
  unfold writeSyslogAscii
  dsimp only
  rw [List.length_append, List.length_append, name, marker]
  change 28 + min cfg.sniDomainLen.toNat 32 + 8 = 36 + min cfg.sniDomainLen.toNat 32
  omega

def dateNumeric (t : CivilTime) : Nat :=
  (t.d * 10000000000000000 + t.y * 1000000000000 + t.hour * 10000000000 + t.min * 100000000 + t.sec * 1000000 + t.us) %
    2 ^ 64

def sipAuthToken (cfg : GutConfig) (t : CivilTime) : UInt32 :=
  sipHash32 (UInt32.ofNat (dateNumeric t / 10000)) cfg.tokenKey

def sipStartLine (cfg : GutConfig) (wgType : UInt8) (wgLen : Nat) : Buf :=
  if wgType = 1 then ascii "REGISTER sip:" ++ cfg.sni ++ ascii " SIP/2.0\r\n"
  -- seventeen bytes are copied from a literal of sixteen characters, its terminator included
  else if wgType = 2 then ascii "SIP/2.0 200 OK\r\n" ++ [0x00]
  else if wgType = 3 then ascii "SIP/2.0 401 Unauthorized\r\n"
  else if wgType = 4 ∧ wgLen = 32 then ascii "OPTIONS sip:5060@" ++ cfg.sni ++ ascii " SIP/2.0\r\n"
  else ascii "MESSAGE sip:5060@" ++ cfg.sni ++ ascii " SIP/2.0\r\n"

def sipDateLine (t : CivilTime) : Buf :=
  ascii "Date: " ++ ascii (Sip.dayNames.getD t.dow "Sun") ++ ascii ", " ++ digits2 t.d ++ ascii " " ++
    ascii (Sip.monthNames.getD ((t.m - 1) % 12) "Dec") ++ ascii " " ++ digits4 t.y ++ ascii " " ++ digits2 t.hour ++
    ascii ":" ++ digits2 t.min ++ ascii ":" ++ digits2 t.sec ++ ascii "." ++ digits6 t.us ++ ascii " GMT\r\n"

def writeSipHeader (cfg : GutConfig) (wgType : UInt8) (wgLen taiNs : Nat) : Buf :=
  let t := civilTime taiNs
  sipStartLine cfg wgType wgLen ++ ascii "Via: SIP/2.0/UDP " ++ cfg.sni ++ ascii ";branch=z9hG4bK-" ++
    hex8 (sipAuthToken cfg t) ++ ascii "\r\n" ++ sipDateLine t ++ ascii "Content-Type: application/sdp\r\n\r\n" ++
    ascii "v=0\r\nm=audio 0 RTP/AVP 0\r\na=fmtp:0 "

end Gutd.Bpf
