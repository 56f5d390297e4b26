import Gutd.Bpf.XdpCore

set_option autoImplicit false

-- `xdp_gut_ingress` and the probe handlers that it falls back to when `gut_xdp_core` rejects a frame.

namespace Gutd.Bpf

open Bytes Checked

def swapFields (frame : Buf) (off width : Nat) : Buf :=
  let first := slice frame off (off + width)
  let second := slice frame (off + width) (off + 2 * width)
  overwrite frame off (second ++ first)

def pseudoHeader (udpLen : Nat) : Buf := [0, ipprotoUdp] ++ toBeBytes16 (UInt16.ofNat udpLen)

def supportedVersions : Buf := [0x6b, 0x33, 0x43, 0xcf, 0x00, 0x00, 0x00, 0x01]

def versionNegotiation (first : UInt8) (dcid scid : Buf) : Buf :=
  [first ||| 0x80, 0, 0, 0, 0, UInt8.ofNat scid.length] ++ scid ++ [UInt8.ofNat dcid.length] ++ dcid ++
    supportedVersions

def returnQuic (pos : UdpPos) (newUdpLen : Nat) (frame : Buf) : Buf :=
  let frame := swapFields frame 0 6
  let frame := swapFields frame (pos.ipOff + pos.ver.saddrOff) pos.ver.addrLen
  let frame := match pos.ver with
    | .v4 =>
        writeIpChecksum pos.ipOff
          (overwrite frame (pos.ipOff + 2) (toBeBytes16 (UInt16.ofNat (20 + newUdpLen))))
    | .v6 => overwrite frame (pos.ipOff + 4) (toBeBytes16 (UInt16.ofNat newUdpLen))
  let frame := swapFields frame pos.udpOff 2
  let frame := overwrite frame (pos.udpOff + 4) (toBeBytes16 (UInt16.ofNat newUdpLen))
  let frame := overwrite frame (pos.udpOff + 6) [0, 0]
  let addresses := slice frame (pos.ipOff + pos.ver.saddrOff) (pos.ipOff + pos.ver.saddrOff + 2 * pos.ver.addrLen)
  let csum := csumDiff (pseudoHeader newUdpLen) (csumDiff addresses 0)
  overwrite frame (pos.udpOff + 6) (toLeBytes16 (csumFold (calcPayloadCsum frame pos.udpOff newUdpLen csum)))

-- an error is `XDP_PASS`, a result is the frame for `XDP_TX`
def handleQuicProbe (x : Xdp) : Run Xdp := do
  let pos ← orReject x (parseUdp x.frame)
  let quic := pos.payloadOff
  rejectIf x (quic + 32 > x.frame.length)
  rejectIf x (byteAt x.frame quic &&& 0x80 ≠ 0x80)
  let dcidLen := (byteAt x.frame (quic + 5)).toNat
  rejectIf x (dcidLen > 20)
  let scidLenByte ← orReject x (loadBytes x.frame (quic + 6 + dcidLen) 1)
  let scidLen := (byteAt scidLenByte 0).toNat
  rejectIf x (scidLen > 20)
  let dcid := (slice x.frame (quic + 6) (quic + 26)).take dcidLen
  let origScid ← orReject x (loadBytes x.frame (quic + 7 + dcidLen) 20)
  let response := versionNegotiation (byteAt x.frame quic) dcid (origScid.take scidLen)
  let newUdpLen := 8 + (15 + scidLen + dcidLen)
  let x ← orReject x (x.adjustTail ((pos.udpOff + newUdpLen : Nat) - x.frame.length))
  -- the length is at most 55, so the clamp to 15..59 in front of the store never acts
  let frame ← orReject x (storeBytes x.frame quic response)
  pure { x with frame := returnQuic pos newUdpLen frame }

def sipStatus (first : UInt8) : Buf :=
  if first = 0x4F then ascii "SIP/2.0 200 OK\r\nContent-Length: 0\r\n\r\n"
  else if first = 0x52 then ascii "SIP/2.0 401 Unauthorized\r\nContent-Length: 0\r\n\r\n"
  else ascii "SIP/2.0 403 Forbidden\r\nContent-Length: 0\r\n\r\n"

def returnSip (pos : UdpPos) (newUdpLen : Nat) (frame : Buf) : Buf :=
  let frame := swapFields frame 0 6
  let frame := swapFields frame pos.udpOff 2
  let frame := overwrite frame (pos.udpOff + 4) (toBeBytes16 (UInt16.ofNat newUdpLen))
  let frame := overwrite frame (pos.udpOff + 6) [0, 0]
  let frame := swapFields frame (pos.ipOff + pos.ver.saddrOff) pos.ver.addrLen
  match pos.ver with
  | .v4 =>
      let frame := overwrite frame (pos.ipOff + 2) (toBeBytes16 (UInt16.ofNat (20 + newUdpLen)))
      writeIpChecksum pos.ipOff (overwrite frame (pos.ipOff + 8) [64])
  | .v6 =>
      let frame := overwrite frame (pos.ipOff + 4) (toBeBytes16 (UInt16.ofNat newUdpLen))
      overwrite frame (pos.ipOff + 7) [64]

def resizeTo (x : Xdp) (len udpLen : Nat) : Option Xdp :=
  let delta : Int := len - ((udpLen : Int) - 8)
  if delta = 0 then some x else x.adjustTail delta

def respondSip (pos : UdpPos) (first : UInt8) (x : Xdp) : Run Xdp := do
  let response := sipStatus first
  let x ← orReject x (resizeTo x response.length (be16At x.frame (pos.udpOff + 4)).toNat)
  let frame ← orReject x (storeBytes x.frame pos.payloadOff response)
  pure { x with frame := returnSip pos (8 + response.length) frame }

def handleSipProbe (x : Xdp) : XdpAction × Xdp :=
  match parseUdp x.frame with
  | none => (.pass, x)
  | some pos =>
      let first := byteAt x.frame pos.payloadOff
      if pos.payloadOff + 10 > x.frame.length then (.pass, x)
      else if first < 0x41 ∨ first > 0x5A then (.drop, x)
      else if slice x.frame pos.payloadOff (pos.payloadOff + 3) = ascii "SIP" then (.pass, x)
      else
        match respondSip pos first x with
        | .error x => (.pass, x)
        | .ok x => (.tx, x)

def defaultAction (cfg : GutConfig) : XdpAction := if cfg.defaultXdpAction = 1 then .drop else .pass

def xdpQuicProbe (cfg : GutConfig) (x : Xdp) : XdpAction × Xdp :=
  if cfg.ownHttp3 ≠ 1 then (.pass, x)
  else
    match handleQuicProbe x with
    | .ok x => (.tx, x)
    | .error x => (defaultAction cfg, x)

def xdpSipProbe (cfg : GutConfig) (x : Xdp) : XdpAction × Xdp :=
  if cfg.ownHttp3 ≠ 1 then (.pass, x)
  else
    let (rc, x) := handleSipProbe x
    if rc = .tx then (.tx, x) else (defaultAction cfg, x)

structure Attached where
  probe : Bool
  txDevice : Bool

def xdpGutIngress (mode : ObfsMode) (cfg : GutConfig) (attached : Attached) (x : Xdp) : XdpAction × Xdp :=
  match gutXdpCore mode cfg x with
  | .ok x => (if attached.txDevice then .redirect else .pass, x)
  | .error x =>
      -- a tail call to a program that is not loaded falls through
      match mode with
      | .quic => if cfg.ownHttp3 = 1 ∧ attached.probe then xdpQuicProbe cfg x else (defaultAction cfg, x)
      | .sip => if cfg.ownHttp3 = 1 ∧ attached.probe then xdpSipProbe cfg x else (defaultAction cfg, x)
      | _ => (defaultAction cfg, x)

end Gutd.Bpf
