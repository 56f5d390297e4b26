import Gutd.Bpf.Envelope

set_option autoImplicit false

-- `gut_xdp_core` of `xdp_gut_ingress.bpf.c`.

namespace Gutd.Bpf

open Bytes Checked Wire

def outerHdrLen (mode : ObfsMode) (first : UInt8) : Option Nat :=
  match mode with
  | .quic =>
      if first = 0x40 then some 16
      else if first &&& 0x80 = 0x80 then some 1200
      else none
  | _ => some gutHeaderSize

def xor16 (frame : Buf) (off : Nat) (k : Buf) : Buf := xorAt frame off (k.take 16)

def headerMatches (mode : ObfsMode) (cfg : GutConfig) (frame : Buf) (quic outer : Nat) (ks47 : Block) : Bool :=
  match mode with
  | .quic =>
      if outer = 16 then
        le32At frame (quic + 1) == ks47.get 9 && byteAt frame (quic + 5) == 0x01 &&
          le32At frame (quic + 6) == ks47.get 10
      else
        byteAt frame (quic + 5) == 0x08 && le32At frame (quic + 6) == le32At cfg.quicDcid.toList 0 &&
          le32At frame (quic + 15) == ks47.get 10
  | _ => le32At frame quic == ks47.get 10

structure Opened where
  outer : Nat
  ballast : Nat
  wgLen : Nat
  ks47 : Block

def unmaskAndVerify (mode : ObfsMode) (cfg : GutConfig) (r : Received) (x : Xdp) : Run (Opened × Xdp) := do
  let outer ← orReject x (outerHdrLen mode (byteAt x.frame r.wgOff))
  let wg := r.wgOff + outer
  rejectIf x (wg + wgMinPacket > x.frame.length)
  let ballast := ballastLen (byteAt x.frame (wg - 1))
  let ks47 := chachaBlock cfg.chachaInit 47 (wgNonce32 (x.frame.drop wg))
  let x := { x with frame := xor16 x.frame wg (blockBytes .little ks47) }
  rejectIf x (headerMatches mode cfg x.frame r.wgOff outer ks47 = false)
  pure ({ outer, ballast, wgLen := sub32 r.wgLen outer, ks47 }, x)

def encPortsOff (mode : ObfsMode) (outer : Nat) : Nat :=
  match mode with
  | .quic => if outer = 16 then 10 else 24
  | _ => 4

def clientIdx (sessionMap : UInt32 → Option UInt32) (frame : Buf) (wg : Nat) : UInt32 :=
  let wgType := byteAt frame wg &&& 0x1F
  if wgType = 1 then le32At frame (wg + 4)
  else if wgType = 4 ∨ wgType = 3 then (sessionMap (le32At frame (wg + 4))).getD 0
  else 0

def sourceEndpoint (frame : Buf) (pos : UdpPos) : PeerEndpoint :=
  let port := be16At frame pos.udpOff
  let serverPort := be16At frame (pos.udpOff + 2)
  match pos.ver with
  | .v4 =>
      { ip4 := bytesAt frame (pos.ipOff + 12) 4, serverIp4 := bytesAt frame (pos.ipOff + 16) 4
        ip6 := Vector.replicate 16 0, serverIp6 := Vector.replicate 16 0, port, serverPort, valid := true }
  | .v6 =>
      { ip4 := Vector.replicate 4 0, serverIp4 := Vector.replicate 4 0
        ip6 := bytesAt frame (pos.ipOff + 8) 16, serverIp6 := bytesAt frame (pos.ipOff + 24) 16, port, serverPort
        valid := true }

def learn (mode : ObfsMode) (cfg : GutConfig) (pos : UdpPos) (wg : Nat) (x : Xdp) : Xdp :=
  -- compiled out of the base64 builds
  if mode = .syslog ∨ mode = .sip ∨ cfg.dynamicPeer = 0 then x
  else
    let idx := clientIdx x.sessionMap x.frame wg
    if idx = 0 then x else { x with clientMap := updateElem x.clientMap idx (sourceEndpoint x.frame pos) }

-- both builds skip a second MAC that reaches past the frame
def unmaskMac2 (frame : Buf) (wg wgLen : Nat) (ks47B : Buf) : Buf :=
  match mac2Off (byteAt frame wg &&& 0x1F) wgLen with
  | some off => if wg + off + 16 > frame.length then frame else xor16 frame (wg + off) (ks47B.drop 16)
  | none => frame

def writeLengths (cfg : GutConfig) (pos : UdpPos) (newUdpLen : Nat) (frame : Buf) : Buf :=
  let frame := overwrite frame (pos.udpOff + 4) (toBeBytes16 (UInt16.ofNat newUdpLen))
  let frame := overwrite frame (pos.udpOff + 6) [0, 0]
  match pos.ver with
  | .v4 =>
      let frame := overwrite frame (pos.ipOff + 2) (toBeBytes16 (UInt16.ofNat (20 + newUdpLen)))
      if le32At cfg.tunPeerIp4.toList 0 ≠ 0 ∧ le32At cfg.tunLocalIp4.toList 0 ≠ 0 then
        overwrite (overwrite frame (pos.ipOff + 12) cfg.tunPeerIp4.toList) (pos.ipOff + 16) cfg.tunLocalIp4.toList
      else frame
  | .v6 =>
      let frame := overwrite frame (pos.ipOff + 4) (toBeBytes16 (UInt16.ofNat newUdpLen))
      if le32At cfg.tunPeerIp6.toList 0 ≠ 0 ∧ le32At cfg.tunLocalIp6.toList 0 ≠ 0 then
        overwrite (overwrite frame (pos.ipOff + 8) cfg.tunPeerIp6.toList) (pos.ipOff + 24) cfg.tunLocalIp6.toList
      else frame

def cutOuterHeader (pos : UdpPos) (outer : Nat) (x : Xdp) : Run Xdp := do
  rejectIf x (pos.payloadOff < 14 ∨ pos.payloadOff > 62)
  let headers ← orReject x (loadBytes x.frame 0 pos.payloadOff)
  let cut ← orReject x.dropped (x.adjustHead outer)
  let frame ← orReject cut.dropped (storeBytes cut.frame 0 headers)
  pure { cut with frame }

def trimBallast (x : Xdp) (ballast : Nat) : Run Xdp :=
  if ballast > 0 then orReject x.dropped (x.adjustTail (-ballast)) else pure x

def writeEth (cfg : GutConfig) (ver : IpVersion) (frame : Buf) : Buf :=
  let frame := overwrite frame 0 cfg.tunMac.toList
  let frame := overwrite frame 6 cfg.srcMac.toList
  overwrite frame 12 (toBeBytes16 ver.etherType)

def writeInnerHeaders (cfg : GutConfig) (pos : UdpPos) (sport dport : UInt16) (frame : Buf) : Buf :=
  let frame := match pos.ver with
    | .v4 => writeIpChecksum pos.ipOff frame
    | .v6 => frame
  let frame := overwrite frame (pos.udpOff + 6) [0, 0]
  let frame := overwrite frame pos.udpOff (toBeBytes16 sport)
  let frame := overwrite frame (pos.udpOff + 2) (toBeBytes16 dport)
  writeEth cfg pos.ver frame

def deliver (cfg : GutConfig) (pos : UdpPos) (outer ballast udpLen : Nat) (ports : UInt32) (x : Xdp) : Run Xdp := do
  let newUdpLen := sub32 (sub32 udpLen ballast) outer % 2 ^ 16
  let x := { x with frame := writeLengths cfg pos newUdpLen x.frame }
  let x ← cutOuterHeader pos outer x
  let x ← trimBallast x ballast
  rejectIf x (pos.ipOff + pos.ver.headerLen + newUdpLen > x.frame.length)
  rejectIf x (pos.payloadOff > x.frame.length)
  let sport := (ports >>> 16).toUInt16
  let dport := (ports &&& 0xFFFF).toUInt16
  let frame := writeInnerHeaders cfg pos sport dport x.frame
  pure { x with
    frame
    stats.maskCount := x.stats.maskCount + 1
    stats.packetsProcessed := x.stats.packetsProcessed + 1
    stats.packetsIngress := x.stats.packetsIngress + 1
    stats.bytesProcessed := x.stats.bytesProcessed + frame.length }

-- `gut_xdp_core` behind the envelope
def openDatagram (mode : ObfsMode) (cfg : GutConfig) (r : Received) (x : Xdp) : Run Xdp := do
  let (o, x) ← unmaskAndVerify mode cfg r x
  let wg := r.wgOff + o.outer
  let x := learn mode cfg r.pos wg x
  let ports := le32At x.frame (r.wgOff + encPortsOff mode o.outer) ^^^ o.ks47.get 11
  let x := { x with frame := unmaskMac2 x.frame wg o.wgLen (blockBytes .little o.ks47) }
  rejectIf x (o.ballast > 63 ∨ o.ballast > o.wgLen)
  rejectIf x (o.wgLen < o.ballast ∨ o.wgLen - o.ballast < wgMinPacket)
  deliver cfg r.pos o.outer o.ballast r.udpLen ports x

def gutXdpCore (mode : ObfsMode) (cfg : GutConfig) (x : Xdp) : Run Xdp := do
  let r ← orReject x (parseWg cfg x.frame)
  let (r, x) ← removeEnvelope mode cfg r x
  openDatagram mode cfg r x

end Gutd.Bpf
