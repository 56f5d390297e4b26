import Gutd.Userspace.Ingress

set_option autoImplicit false

-- One iteration of the egress thread of `run` in `userspace.rs`.

namespace Gutd.Userspace

open Bytes Checked Wire Net

def addrFingerprint (addr : SocketAddr) : UInt64 :=
  match addr.ip with
  | .v4 o => ((le32 (o.get 3) (o.get 2) (o.get 1) (o.get 0)).toUInt64 <<< 32) ^^^ addr.port.toUInt64
  | .v6 s =>
      let w := fun (high low : UInt16) => (high.toUInt32 <<< 16 ||| low.toUInt32).toUInt64
      (((w (s.get 0) (s.get 1) ^^^ w (s.get 4) (s.get 5)) <<< 32) ||| (w (s.get 2) (s.get 3) ^^^ w (s.get 6) (s.get 7))) ^^^ addr.port.toUInt64

def loadRaw (stored : Option SocketAddr) : UInt64 :=
  match stored with
  | some addr => addrFingerprint addr
  | none => 0

def trackWgPeer (rt : Runtime) (src : SocketAddr) (shared : Shared) : Shared :=
  if !rt.isServer ∧ loadRaw shared.wgPeer ≠ addrFingerprint src then { shared with wgPeer := some src } else shared

inductive Route where
  | drop
  | client (cIdx : UInt32)
  | session (sIdx cIdx : UInt32)
  deriving DecidableEq

def dynamicRoute (buf : Buf) (size : Nat) : Result Route :=
  if size ≥ 4 then do
    let wgType := (← getByte buf 0) &&& 0x1F
    if wgType = 1 then pure .drop
    else if wgType = 2 ∧ size ≥ 12 then do
      let sIdx ← readLe32 buf 4
      let cIdx ← readLe32 buf 8
      pure (.session sIdx cIdx)
    else if (wgType = 3 ∨ wgType = 4) ∧ size ≥ 8 then do
      let cIdx ← readLe32 buf 4
      pure (.client cIdx)
    else pure .drop
  else pure .drop

def egressDest (rt : Runtime) (shared : Shared) (buf : Buf) (size : Nat) : Result (Shared × Option SocketAddr) :=
  if !rt.dynamicPeer then pure (shared, shared.peerExt.or rt.remotePeerAddr)
  else do
    match ← dynamicRoute buf size with
    | .drop => pure (shared, none)
    | .client cIdx => pure (shared, shared.clientMap cIdx)
    | .session sIdx cIdx =>
        pure ({ shared with sessionMap := insert shared.sessionMap sIdx cIdx }, shared.clientMap cIdx)

def encapObfs (rt : Runtime) (shared : Shared) (dest : SocketAddr) : ObfsMode :=
  if rt.isServer then (shared.clientObfs dest).getD rt.obfs else rt.obfs

def outBufLen : Nat := 65536

structure Outgoing where
  bytes : Buf
  sockIdx : Nat
  dest : SocketAddr
  deriving DecidableEq

def syslogFrame (rt : Runtime) (p : Buf) (dest : SocketAddr) (clock : Clock) : Result Outgoing := do
  let header ← Syslog.writeHeader outBufLen clock.secs rt.sipDomain
  let text ← Base64.encodeInto p (outBufLen - header.length)
  pure { bytes := header ++ text, sockIdx := 0, dest }

def getPort (ports : List UInt16) (i : Nat) : Result UInt16 :=
  match ports[i]? with
  | some port => pure port
  | none => throw .outOfBounds

def rtpFrame (rt : Runtime) (p : Buf) (dcid : UInt32) (dest : SocketAddr) : Result Outgoing := do
  let ts ← wgNonce32 p
  let bytes := Sip.rtpHeader (ts &&& 0xFFFF).toUInt16 ts dcid ++ p
  if bytes.length > outBufLen then throw .outOfBounds
  else if rt.peerPorts.length > 1 then do
    let sockIdx := 1 + ts.toNat % (rt.peerPorts.length - 1)
    let port ← getPort rt.peerPorts sockIdx
    pure { bytes, sockIdx, dest := { dest with port } }
  else pure { bytes, sockIdx := 0, dest }

def sipKind (origType : UInt8) (origSize : Nat) : Sip.SipKind :=
  if origType = 1 then .register
  else if origType = 2 then .response200
  else if origType = 3 then .response401
  else if origType = 4 ∧ origSize = 32 then .options
  else .message

def sipPayload (kind : Sip.SipKind) (p : Buf) : Result Buf :=
  if kind = .options then pure [] else Base64.encodeInto p (outBufLen - Sip.maxSipHeaderLen)

def sipFrame (rt : Runtime) (p : Buf) (origType : UInt8) (origSize : Nat) (src dest : SocketAddr) (clock : Clock) :
    Result Outgoing := do
  let kind := sipKind origType origSize
  let text ← sipPayload kind p
  let dateStr ← Sip.formatSipDateOnly clock.secs
  let header ← Sip.writeHeader kind
    { domain := rt.sipDomain
      srcIp := src.ip.text
      dstIp := dest.ip.text
      sport := src.port
      dport := dest.port
      rtpPort := rt.peerPorts.getD 1 10000
      payloadLen := text.length
      feistelKey := rt.authKey
      dateStr
      nowUs := clock.us }
  let port ← getPort rt.peerPorts 0
  pure { bytes := header ++ text, sockIdx := 0, dest := { dest with port } }

def frame (rt : Runtime) (p : Buf) (dcid : UInt32) (origType : UInt8) (origSize : Nat) (src dest : SocketAddr)
    (obfs : ObfsMode) (clock : Clock) : Result Outgoing :=
  match obfs with
  | .syslog => syslogFrame rt p dest clock
  | .sip => if origType = 4 ∧ origSize > 32 then rtpFrame rt p dcid dest else sipFrame rt p origType origSize src dest clock
  | .quic | .gut => pure { bytes := p, sockIdx := 0, dest }

structure Packet where
  buf : Buf
  size : Nat
  src : SocketAddr
  clock : Clock
  nowNs : Nat

def transmit (rt : Runtime) (packet : Packet) (dest : SocketAddr) (obfs : ObfsMode) : Result (Option Outgoing) := do
  let origType ← getByte packet.buf 0
  let (buf, encapped) ← obfsEncap rt.order packet.buf packet.size rt.keyInit Runtime.rounds rt.isServer packet.src.port
    rt.wgAddr.port obfs rt.sipDomain packet.nowNs
  match encapped with
  | none => pure none
  | some (newSize, dcid) => do
      let p ← subslice buf 0 newSize
      let out ← frame rt p dcid origType packet.size packet.src dest obfs packet.clock
      if out.sockIdx < rt.ports.length then pure (some out) else throw .outOfBounds

def egress (rt : Runtime) (shared : Shared) (packet : Packet) : Result (Shared × Option Outgoing) := do
  let (shared, dest) ← egressDest rt (trackWgPeer rt packet.src shared) packet.buf packet.size
  match dest with
  | none => pure (shared, none)
  | some dest => do
      let sent ← transmit rt packet dest (encapObfs rt shared dest)
      pure (shared, sent)

end Gutd.Userspace
