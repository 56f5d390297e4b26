import Gutd.Bpf.LongHeader
import Gutd.Bpf.TextHeaders
import Gutd.Bpf.XdpCore

set_option autoImplicit false

-- `gut_egress` of `tc_gut_egress.bpf.c` and its tail-call targets `gut_egress_quic_long` and `gut_egress_sip_signal`.

namespace Gutd.Bpf

open Bytes Checked Wire

inductive TcStop where
  | ok
  | shot
  deriving DecidableEq, Repr

inductive TcAction where
  | stop (verdict : TcStop)
  | redirect (ifindex : UInt32)
  deriving DecidableEq, Repr

structure Tc where
  skb : Buf
  -- the length of the link header as the kernel sees it
  macLen : Nat
  seq : UInt32
  clientMap : UInt32 → Option PeerEndpoint
  sessionMap : UInt32 → Option UInt32
  stats : GutStats

structure Kernel where
  changeTail : Bool
  adjustRoom : Bool
  pullData : Bool
  tailCall : Bool
  -- the second `bpf_skb_pull_data`, in a tail-call target
  pullAgain : Bool
  prandom : UInt32
  ktimeNs : Nat
  taiNs : Nat

-- a stage of the program; an error is a `return` with the packet as it is then
abbrev TcRun := Except (TcStop × Tc)

namespace Tc

def pass (tc : Tc) : TcStop × Tc := (.ok, tc)

def shotDropped (tc : Tc) : TcStop × Tc :=
  (.shot, { tc with stats.packetsDropped := tc.stats.packetsDropped + 1 })

def shotOversized (tc : Tc) : TcStop × Tc :=
  (.shot, { tc with stats.packetsOversized := tc.stats.packetsOversized + 1 })

end Tc

def locateUdp (skb : Buf) : Option (IpVersion × Nat) :=
  let tagged : Bool := be16At skb 12 == ethP8021Q
  let protocol := if tagged then be16At skb 16 else be16At skb 12
  let ipOff := if tagged then 18 else 14
  if protocol = IpVersion.v4.etherType then
    if ipOff + 20 > skb.length then none
    else if byteAt skb (ipOff + 9) ≠ ipprotoUdp then none
    else some (.v4, ipOff + (byteAt skb ipOff &&& 0x0F).toNat * 4)
  -- the type in front of a tag is looked at here, so tagged IPv6 is not found
  else if be16At skb 12 = IpVersion.v6.etherType then
    if ipOff + 40 > skb.length then none
    else if byteAt skb (ipOff + 6) ≠ ipprotoUdp then none
    else some (.v6, ipOff + 40)
  else none

structure WgPacket where
  ver : IpVersion
  wgOff : Nat
  wgLen : Nat
  head : Buf
  plainPorts : UInt32

def WgPacket.wgType (pkt : WgPacket) : UInt8 := byteAt pkt.head 0 &&& 0x1F

def parseMessage (skb : Buf) (ver : IpVersion) (udpOff : Nat) : Option WgPacket :=
  let wgOff := udpOff + 8
  let wgLen := sub32 (be16At skb (udpOff + 4)).toNat 8
  if udpOff + 8 > skb.length then none
  else if (wgOff + wgLen) % 2 ^ 32 > skb.length ∨ wgLen < wgMinPacket then none
  else
    match loadBytes skb wgOff wgMinPacket with
    | none => none
    | some head =>
        let wgType := byteAt head 0 &&& 0x1F
        if wgType < 1 ∨ wgType > 4 ∨ byteAt head 1 ≠ 0 ∨ byteAt head 2 ≠ 0 then none
        else some { ver, wgOff, wgLen, head, plainPorts := packPorts (be16At skb udpOff) (be16At skb (udpOff + 2)) }

def parseEgress (skb : Buf) : Option WgPacket :=
  if skb.length < 14 + 20 + 8 + wgMinPacket then none
  else
    match locateUdp skb with
    | none => none
    | some (ver, udpOff) => parseMessage skb ver udpOff

def keepaliveDropped (cfg : GutConfig) (prandom : UInt32) (wgType : UInt8) (wgLen : Nat) : Bool :=
  wgType == 4 && wgLen == wgMinPacket && cfg.keepaliveDropPercent > 0 &&
    decide (prandom.toNat % 100 < cfg.keepaliveDropPercent.toNat)

def nextSeq (tc : Tc) : UInt32 := if tc.seq = 0 then 1 else tc.seq

def gutB64WgMtuMax : Nat := 886

def tunnelPort (mode : ObfsMode) (cfg : GutConfig) (seq : UInt32) : Option UInt16 :=
  match mode with
  | .sip => if cfg.numPorts = 0 ∨ cfg.ports.get 0 = 0 then none else some (cfg.ports.get 0)
  | _ => if selectPort seq cfg = 0 then none else some (selectPort seq cfg)

def egressHdrLen (mode : ObfsMode) (wgType : UInt8) : Nat :=
  match mode with
  | .quic => if wgType = 1 ∨ wgType = 3 then 1200 else 16
  | _ => gutHeaderSize

def ballastThreshold : Nat := 220

def egressPadLen (mode : ObfsMode) (outer wgLen : Nat) (padBlock : Buf) : Nat :=
  match mode with
  | .gut =>
      if wgLen < 256 then
        let remainder := (8 + outer + wgLen) % 16
        if remainder ≠ 0 then 16 - remainder else 0
      else 0
  | .quic => if wgLen < ballastThreshold then (byteAt padBlock 63 &&& 0x3F).toNat + 1 else 0
  | .syslog | .sip =>
      if wgLen < ballastThreshold then (byteAt padBlock 63 &&& 0x1F).toNat + 1
      else min (byteAt padBlock 63 &&& 0x0F).toNat 14 + 1

def wgIndex (pkt : WgPacket) : UInt32 := if pkt.wgType = 2 then le32At pkt.head 8 else le32At pkt.head 4

def padTail (k : Kernel) (padLen : Nat) (padBlock : Buf) (tc : Tc) : TcRun Tc :=
  if padLen > 0 then do
    rejectIf tc.pass (k.changeTail = false)
    let tc := { tc with skb := tc.skb ++ List.replicate padLen 0 }
    rejectIf tc.pass (padLen % 2 ^ 7 < 1 ∨ padLen % 2 ^ 7 > 64)
    let skb ← orReject tc.pass (storeBytes tc.skb (tc.skb.length - padLen) (padBlock.take padLen))
    pure { tc with skb }
  else pure tc

def bridgeSession (cfg : GutConfig) (pkt : WgPacket) (tc : Tc) : TcRun Tc :=
  if cfg.dynamicPeer = 0 then pure tc
  else do
    rejectIf tc.pass (pkt.wgType = 1)
    if pkt.wgType = 2 then
      pure { tc with sessionMap := updateElem tc.sessionMap (le32At pkt.head 4) (wgIndex pkt) }
    else pure tc

def maskMac2In (skb : Buf) (wgOff wgLen : Nat) (wgType : UInt8) (ks47B : Buf) : Buf :=
  match mac2Off wgType wgLen with
  | none => skb
  | some off =>
      match loadBytes skb (wgOff + off) 16 with
      | none => skb
      | some mac2 => (storeBytes skb (wgOff + off) (xorAt mac2 0 (slice ks47B 16 32))).getD skb

def maskMessage (pkt : WgPacket) (ks47B : Buf) (tc : Tc) : TcRun Tc := do
  let head := xorAt pkt.head 0 (slice ks47B 0 16)
  let skb ← orReject tc.pass (storeBytes tc.skb pkt.wgOff (head.take 16))
  pure { tc with skb := maskMac2In skb pkt.wgOff pkt.wgLen pkt.wgType ks47B }

def shiftLen (ver : IpVersion) : Nat := ver.headerLen + 8

def makeRoom (k : Kernel) (ver : IpVersion) (room : Nat) (tc : Tc) : TcRun Tc := do
  rejectIf tc.pass (k.adjustRoom = false)
  let tc := { tc with skb := tc.skb.take tc.macLen ++ (List.replicate room 0 ++ tc.skb.drop tc.macLen) }
  rejectIf tc.pass (k.pullData = false)
  let headers ← orReject tc.pass (loadBytes tc.skb (14 + room) (shiftLen ver))
  let skb ← orReject tc.pass (storeBytes tc.skb 14 headers)
  pure { tc with skb }

def writeGutHeader (skb : Buf) (quic : Nat) (ppn encPorts : UInt32) (padLen : Nat) : Buf :=
  if quic + gutHeaderSize > skb.length then skb
  else
    let skb := overwrite skb quic (toLeBytes ppn)
    let skb := overwrite skb (quic + 4) (toLeBytes encPorts)
    let skb := overwrite skb (quic + 8) [0x00]
    overwrite skb (quic + 9) [padByte padLen]

def writeQuicShortHeader (skb : Buf) (quic : Nat) (dcid ppn encPorts : UInt32) (padLen : Nat) : Buf :=
  if quic + 16 > skb.length then skb
  else
    let skb := overwrite skb quic [0x40]
    let skb := overwrite skb (quic + 1) (toLeBytes dcid)
    let skb := overwrite skb (quic + 5) [0x01]
    let skb := overwrite skb (quic + 6) (toLeBytes ppn)
    let skb := overwrite skb (quic + 10) (toLeBytes encPorts)
    let skb := overwrite skb (quic + 14) [0x00]
    overwrite skb (quic + 15) [padByte padLen]

def writeOuterLengths (ver : IpVersion) (port : UInt16) (newUdpLen : Nat) (skb : Buf) : Buf :=
  let udpOff := 14 + ver.headerLen
  let skb := match ver with
    | .v4 => overwrite skb 16 (toBeBytes16 (UInt16.ofNat (newUdpLen + 20)))
    | .v6 => overwrite skb 18 (toBeBytes16 (UInt16.ofNat newUdpLen))
  let skb := overwrite skb (udpOff + 4) (toBeBytes16 (UInt16.ofNat newUdpLen))
  let skb := overwrite skb udpOff (toBeBytes16 port)
  let skb := overwrite skb (udpOff + 2) (toBeBytes16 port)
  match ver with
  | .v4 => overwrite skb 24 [0, 0]
  | .v6 => skb

structure Route where
  saddr : Buf
  daddr : Buf
  source : Option UInt16
  dest : Option UInt16

def configuredRoute (cfg : GutConfig) : IpVersion → Route
  | .v4 => { saddr := cfg.bindIp.toList, daddr := cfg.peerIp.toList, source := none, dest := none }
  | .v6 => { saddr := cfg.bindIp6.toList, daddr := cfg.peerIp6.toList, source := none, dest := none }

def endpointRoute (cfg : GutConfig) (ep : PeerEndpoint) (ver : IpVersion) : Route :=
  let source := if ep.serverPort ≠ 0 then some ep.serverPort else none
  match ver with
  | .v4 =>
      { saddr := if ep.serverIp4 ≠ Vector.replicate 4 0 then ep.serverIp4.toList else cfg.bindIp.toList
        daddr := ep.ip4.toList, source, dest := some ep.port }
  | .v6 =>
      { saddr := if ep.serverIp6 ≠ Vector.replicate 16 0 then ep.serverIp6.toList else cfg.bindIp6.toList
        daddr := ep.ip6.toList, source, dest := some ep.port }

def routeOf (cfg : GutConfig) (clientMap : UInt32 → Option PeerEndpoint) (cIdx : UInt32) (ver : IpVersion) :
    Option Route :=
  if cfg.dynamicPeer = 0 then some (configuredRoute cfg ver)
  else
    match clientMap cIdx with
    | some ep => if ep.valid then some (endpointRoute cfg ep ver) else none
    | none => none

def writeRoute (ver : IpVersion) (route : Route) (skb : Buf) : Buf :=
  let udpOff := 14 + ver.headerLen
  let skb := overwrite skb (14 + ver.saddrOff) route.saddr
  let skb := overwrite skb (14 + ver.saddrOff + ver.addrLen) route.daddr
  let skb := match route.dest with
    | some port => overwrite skb (udpOff + 2) (toBeBytes16 port)
    | none => skb
  match route.source with
  | some port => overwrite skb udpOff (toBeBytes16 port)
  | none => skb

-- only the pseudo header is summed; the device adds the payload
def writeUdpChecksum (ver : IpVersion) (skb : Buf) : Buf :=
  let udpOff := 14 + ver.headerLen
  let skb := overwrite skb (udpOff + 6) [0, 0]
  let pseudo := csumDiff (slice skb (14 + ver.saddrOff) (14 + ver.saddrOff + 2 * ver.addrLen)) 0
  let pseudo := csumDiff ([0, ipprotoUdp] ++ slice skb (udpOff + 4) (udpOff + 6)) pseudo
  overwrite skb (udpOff + 6) (toLeBytes16 (~~~csumFold pseudo))

def writeOuterHeaders (cfg : GutConfig) (ver : IpVersion) (route : Route) (skb : Buf) : Buf :=
  let skb := writeRoute ver route skb
  let skb := match ver with
    | .v4 => writeIpChecksum 14 skb
    | .v6 => skb
  let skb := writeUdpChecksum ver skb
  overwrite (overwrite skb 0 cfg.dstMac.toList) 6 cfg.srcMac.toList

-- what the first half of the program leaves in its locals or in `tail_ctx`
structure Prepared where
  ver : IpVersion
  wgOff : Nat
  wgLen : Nat
  wgType : UInt8
  -- also the client index that routes the packet
  wgIdx : UInt32
  nonce : UInt32
  seq : UInt32
  ks47 : Block
  encPorts : UInt32
  outer : Nat
  padLen : Nat
  port : UInt16

namespace Prepared

def ppn (p : Prepared) : UInt32 := p.ks47.get 10

def udpLen (p : Prepared) : Nat := p.wgLen + p.outer + p.padLen + 8

end Prepared

def finish (cfg : GutConfig) (p : Prepared) (newUdpLen : Nat) (tc : Tc) : TcRun Tc := do
  rejectIf tc.pass (payloadOff p.ver > tc.skb.length)
  let tc := { tc with skb := writeOuterLengths p.ver p.port newUdpLen tc.skb }
  let route ← orReject tc.pass (routeOf cfg tc.clientMap p.wgIdx p.ver)
  pure { tc with
    skb := writeOuterHeaders cfg p.ver route tc.skb
    stats.packetsProcessed := tc.stats.packetsProcessed + 1
    stats.packetsEgress := tc.stats.packetsEgress + 1
    stats.bytesProcessed := tc.stats.bytesProcessed + tc.skb.length }

def emitGut (cfg : GutConfig) (k : Kernel) (p : Prepared) (tc : Tc) : TcRun Tc := do
  let tc ← makeRoom k p.ver p.outer tc
  let skb := writeGutHeader tc.skb (payloadOff p.ver) p.ppn p.encPorts p.padLen
  finish cfg p p.udpLen { tc with skb }

def emitShort (cfg : GutConfig) (k : Kernel) (p : Prepared) (tc : Tc) : TcRun Tc := do
  let tc ← makeRoom k p.ver p.outer tc
  let skb := writeQuicShortHeader tc.skb (payloadOff p.ver) (p.ks47.get 9) p.ppn p.encPorts p.padLen
  finish cfg p p.udpLen { tc with skb }

def gutEgressQuicLong (cfg : GutConfig) (k : Kernel) (p : Prepared) (tc : Tc) : TcRun Tc := do
  let padBlock := blockBytes .little (chachaBlock cfg.chachaInit 69 p.nonce)
  rejectIf tc.pass (k.pullAgain = false)
  let hdr := writeQuicLongHeader (List.replicate 1200 0) p.wgType p.wgIdx p.ppn p.encPorts p.padLen cfg padBlock k.ktimeNs
  let skb ← orReject tc.pass (storeBytes tc.skb (payloadOff p.ver) hdr)
  finish cfg p p.udpLen { tc with skb }

def emitLong (cfg : GutConfig) (k : Kernel) (p : Prepared) (tc : Tc) : TcRun Tc := do
  let tc ← makeRoom k p.ver p.outer tc
  rejectIf tc.pass (k.tailCall = false)
  gutEgressQuicLong cfg k p tc

def encodeInner (p : Prepared) (tc : Tc) : TcRun Buf := do
  let wgTotal := (p.wgLen + p.padLen) % 2 ^ 32
  rejectIf tc.pass (wgTotal < wgMinPacket ∨ wgTotal > gutB64MaxInner - p.outer)
  let loadLen := wgTotal % 2 ^ 10
  rejectIf tc.pass (loadLen < 1 ∨ loadLen > 886)
  let body ← orReject tc.pass (loadBytes tc.skb p.wgOff loadLen)
  let text := b64Encode (gutHeader p.ppn p.encPorts p.padLen ++ body)
  rejectIf tc.pass (text.length = 0 ∨ text.length > gutB64MaxOut)
  pure text

def replaceByText (cfg : GutConfig) (k : Kernel) (p : Prepared) (hdr text : Buf) (hdrMax hdrLimit : Nat) (tc : Tc) :
    TcRun Tc := do
  let total := hdrMax + text.length
  let room := sub32 total ((p.wgLen + p.padLen) % 2 ^ 32) % 2 ^ 11
  rejectIf tc.pass (room < 1 ∨ room > hdrLimit + gutB64MaxOut)
  let tc ← makeRoom k p.ver room tc
  let skb ← orReject tc.pass (storeBytes tc.skb (payloadOff p.ver) hdr)
  let tc := { tc with skb }
  let skb ← orReject tc.pass (storeBytes tc.skb (payloadOff p.ver + hdr.length) text)
  finish cfg p (total + 8) { tc with skb }

def emitSyslog (cfg : GutConfig) (k : Kernel) (p : Prepared) (tc : Tc) : TcRun Tc := do
  let text ← encodeInner p tc
  replaceByText cfg k p (writeSyslogAscii cfg k.taiNs) text (36 + min cfg.sniDomainLen.toNat 32) 68 tc

def gutEgressSipSignal (cfg : GutConfig) (k : Kernel) (p : Prepared) (tc : Tc) : TcRun Tc := do
  let text ← encodeInner p tc
  let hdr := writeSipHeader cfg p.wgType p.wgLen k.taiNs
  rejectIf tc.pass (hdr.length % 2 ^ 9 < 40 ∨ hdr.length % 2 ^ 9 > 256)
  replaceByText cfg k p hdr text hdr.length 256 tc

def rtpGut (p : Prepared) : Buf :=
  ([0x80, 0x60] : Buf) ++ toBeBytes16 p.seq.toUInt16 ++ toBeBytes (p.seq * 160) ++ toLeBytes (p.ks47.get 9) ++
    gutHeader p.ppn p.encPorts p.padLen

def rtpPort (cfg : GutConfig) (seq : UInt32) : UInt16 :=
  let idx := 1 + seq.toNat % (cfg.numPorts - 1)
  if idx ≥ maxPorts then cfg.ports.get 1 else cfg.ports.toList.getD idx 0

def emitRtp (cfg : GutConfig) (k : Kernel) (p : Prepared) (tc : Tc) : TcRun Tc := do
  rejectIf (.shot, tc) (cfg.numPorts < 2)
  let p := { p with port := rtpPort cfg p.seq }
  let tc ← makeRoom k p.ver 22 tc
  let skb ← orReject tc.pass (storeBytes tc.skb (payloadOff p.ver) (rtpGut p))
  finish cfg p (12 + p.udpLen) { tc with skb }

def emit (mode : ObfsMode) (cfg : GutConfig) (k : Kernel) (p : Prepared) (tc : Tc) : TcRun Tc :=
  match mode with
  | .gut => emitGut cfg k p tc
  | .quic => if p.outer = 16 then emitShort cfg k p tc else emitLong cfg k p tc
  | .syslog => emitSyslog cfg k p tc
  | .sip =>
      if p.wgType = 4 ∧ p.wgLen > 32 then emitRtp cfg k p tc
      else do
        rejectIf tc.pass (k.tailCall = false)
        gutEgressSipSignal cfg k p tc

def prepare (mode : ObfsMode) (cfg : GutConfig) (k : Kernel) (tc : Tc) : TcRun (Prepared × Tc) := do
  let pkt ← orReject tc.pass (parseEgress tc.skb)
  rejectIf tc.shotDropped (keepaliveDropped cfg k.prandom pkt.wgType pkt.wgLen = true)
  rejectIf tc.shotOversized (mode = .syslog ∧ pkt.wgLen > gutB64WgMtuMax)
  let nonce := wgNonce32 pkt.head
  let seq := nextSeq tc
  let tc := { tc with seq := seq + 1 }
  let port ← orReject tc.pass (tunnelPort mode cfg seq)
  let outer := egressHdrLen mode pkt.wgType
  let padBlock := blockBytes .little (chachaBlock cfg.chachaInit 69 nonce)
  let padLen := egressPadLen mode outer pkt.wgLen padBlock
  let tc ← padTail k padLen padBlock tc
  let ks47 := chachaBlock cfg.chachaInit 47 nonce
  let tc ← bridgeSession cfg pkt tc
  let tc ← maskMessage pkt (blockBytes .little ks47) tc
  pure ({ ver := pkt.ver, wgOff := pkt.wgOff, wgLen := pkt.wgLen, wgType := pkt.wgType, wgIdx := wgIndex pkt, nonce, seq
          ks47, encPorts := pkt.plainPorts ^^^ ks47.get 11, outer, padLen, port }, tc)

def gutEgress (mode : ObfsMode) (cfg : GutConfig) (k : Kernel) (tc : Tc) : TcAction × Tc :=
  let run : TcRun Tc := do
    let (p, tc) ← prepare mode cfg k tc
    emit mode cfg k p tc
  match run with
  | .ok tc => (.redirect cfg.egressIfindex, tc)
  | .error (verdict, tc) => (.stop verdict, tc)

end Gutd.Bpf
