import Gutd.Proto.Base64
import Gutd.Proto.Sip
import Gutd.Proto.Syslog
import Gutd.Shared.Net
import Gutd.Userspace.Decap

set_option autoImplicit false

-- One iteration of the ingress thread of `run` in `userspace.rs`.

namespace Gutd.Userspace

open Bytes Checked Wire Net

structure Runtime where
  order : ByteOrder
  key : Vector UInt8 32
  isServer : Bool
  obfs : ObfsMode
  wgAddr : SocketAddr
  dynamicPeer : Bool
  remotePeerAddr : Option SocketAddr
  bindIp : IpAddr
  ports : List UInt16
  peerPorts : List UInt16
  sipDomain : Buf

namespace Runtime

def rounds : UInt8 := 4

def keyInit (rt : Runtime) : ChachaInit := chachaInit rt.key

def authKey (rt : Runtime) : Vector UInt32 4 :=
  #v[rt.keyInit.get 4, rt.keyInit.get 5, rt.keyInit.get 6, rt.keyInit.get 7]

def channel (rt : Runtime) : Channel := { order := rt.order, key := rt.keyInit, rounds }

end Runtime

-- the clock at the moment of a SIP reply: seconds for the date, microseconds for the rest
structure Clock where
  secs : Nat
  us : Nat

inductive Envelope where
  | invalid
  | sipProbe (kind : Sip.SipKind)
  | datagram (buf : Buf) (size : Nat) (detectedPrepend : Option ObfsMode) (wasRtp : Bool) (kind : Sip.SipKind)
  deriving DecidableEq

def sipProbeKind (head : Buf) : Sip.SipKind :=
  if (ascii "OPTIONS ").isPrefixOf head then .response200
  else if (ascii "REGISTER ").isPrefixOf head then .response401
  else .response403

def replaceByDecoded (buf outBuf : Buf) (decodedLen : Nat) : Result Buf := do
  let decoded ← subslice outBuf 0 decodedLen
  copyFromSlice buf 0 decodedLen decoded

def detectEnvelope (buf outBuf : Buf) (size : Nat) : Result (Envelope × Buf) := do
  let head ← subslice buf 0 size
  match Syslog.checkHeader head with
  | some syslogHdrLen => do
      let payload ← subslice buf syslogHdrLen size
      let (decoded, outBuf) ← Base64.decode payload outBuf
      match decoded with
      | none => pure (.invalid, outBuf)
      | some decodedLen => do
          let buf ← replaceByDecoded buf outBuf decodedLen
          pure (.datagram buf decodedLen (some .syslog) false .response401, outBuf)
  | none =>
      match Sip.checkHeader head with
      | some sipLen => do
          let kind := sipProbeKind head
          let payload ← subslice buf sipLen size
          let (decoded, outBuf) ← Base64.decode payload outBuf
          match decoded with
          | none => pure (.sipProbe kind, outBuf)
          | some decodedLen =>
              if decodedLen > 0 then do
                let buf ← replaceByDecoded buf outBuf decodedLen
                pure (.datagram buf decodedLen (some .sip) false kind, outBuf)
              else pure (.sipProbe kind, outBuf)
      | none =>
          if Sip.checkRtpHeader head then do
            let buf ← copyWithin buf Sip.rtpHeaderLen size 0
            pure (.datagram buf (size - Sip.rtpHeaderLen) (some .sip) true .response401, outBuf)
          else pure (.datagram buf size none false .response401, outBuf)

def looksQuic (firstByte : UInt8) : Bool := firstByte &&& 0x40 == 0x40 || firstByte &&& 0x80 == 0x80

def verifyIf (test : Bool) (buf : Buf) (size : Nat) (key : ChachaInit) (obfs : ObfsMode) : Result Bool :=
  if test then obfsVerify buf size key Runtime.rounds obfs else pure false

-- The mode of an authentic datagram. A server tries both header families; a client only its own.
def authenticate (rt : Runtime) (buf : Buf) (size : Nat) (detectedPrepend : Option ObfsMode) :
    Result (Option ObfsMode) :=
  if rt.isServer then do
    let originalStart ← subslice buf 0 6
    let first ← getByte buf 0
    let quic ← verifyIf (looksQuic first) buf size rt.keyInit .quic
    if quic then pure (some .quic)
    else do
      let buf ← copyFromSlice buf 0 6 originalStart
      let gut ← obfsVerify buf size rt.keyInit Runtime.rounds .gut
      pure (if gut then some (detectedPrepend.getD .gut) else none)
  else if rt.obfs ≠ .quic then do
    let ok ← verifyIf (size ≥ gutQuicShortHeaderSize + 16) buf size rt.keyInit .gut
    pure (if ok then some rt.obfs else none)
  else do
    let first ← getByte buf 0
    let ok ← verifyIf (looksQuic first) buf size rt.keyInit .quic
    pure (if ok then some .quic else none)

def supportedVersions : Buf := [0x6b, 0x33, 0x43, 0xcf, 0, 0, 0, 1]

def versionNegotiationPacket (dcid scid : Buf) : Buf :=
  let randBits : UInt8 := if dcid.isEmpty then 0x0A else byteAt dcid 0 &&& 0x3F
  [(0x80 : UInt8) ||| 0x40 ||| randBits] ++ [0, 0, 0, 0] ++ [UInt8.ofNat scid.length] ++ scid ++
    [UInt8.ofNat dcid.length] ++ dcid ++ supportedVersions

def generateQuicVersionNegotiation (buf : Buf) (size : Nat) : Result (Option Buf) :=
  if size < 14 then pure none
  else do
    let fb ← getByte buf 0
    if fb &&& 0x80 = 0 then pure none
    else do
      let version ← readBe32 buf 1
      if version = 0 ∨ version = 0x6b3343cf then pure none
      else do
        let dcidLen := (← getByte buf 5).toNat
        if 6 + dcidLen ≥ size then pure none
        else do
          let dcid ← subslice buf 6 (6 + dcidLen)
          let scidLen := (← getByte buf (6 + dcidLen)).toNat
          if 6 + dcidLen + 1 + scidLen > size then pure none
          else do
            let scid ← subslice buf (6 + dcidLen + 1) (6 + dcidLen + 1 + scidLen)
            if 1 + 4 + 1 + scid.length + 1 + dcid.length + 8 > 64 then pure none
            else pure (some (versionNegotiationPacket dcid scid))

def sipReply (rt : Runtime) (kind : Sip.SipKind) (sport : UInt16) (src : SocketAddr) (clock : Clock) :
    Result Buf := do
  let dateStr ← Sip.formatSipDateOnly clock.secs
  Sip.writeHeader kind
    { domain := rt.sipDomain
      srcIp := rt.bindIp.text
      dstIp := src.ip.text
      sport
      dport := src.port
      rtpPort := 10000
      payloadLen := 0
      feistelKey := rt.authKey
      dateStr
      nowUs := clock.us }

def unauthenticatedReply (rt : Runtime) (buf : Buf) (size : Nat) (detectedPrepend : Option ObfsMode) (wasRtp : Bool)
    (kind : Sip.SipKind) (src : SocketAddr) (clock : Clock) : Result (Option Buf) :=
  if !rt.isServer then pure none
  else if detectedPrepend = some .sip ∧ wasRtp = false then do
    let reply ← sipReply rt kind 4500 src clock
    pure (some reply)
  else if rt.obfs = .quic then generateQuicVersionNegotiation buf size
  else pure none

inductive Verdict where
  | ignored
  | probe (reply : Buf)
  | authentic (buf : Buf) (size : Nat) (obfs : ObfsMode)
  deriving DecidableEq

def classify (rt : Runtime) (buf outBuf : Buf) (size : Nat) (src : SocketAddr) (clock : Clock) :
    Result (Verdict × Buf) := do
  let (envelope, outBuf) ← detectEnvelope buf outBuf size
  match envelope with
  | .invalid => pure (.ignored, outBuf)
  | .sipProbe kind =>
      if rt.isServer then do
        let reply ← sipReply rt kind 5060 src clock
        pure (.probe reply, outBuf)
      else pure (.ignored, outBuf)
  | .datagram buf size detectedPrepend wasRtp kind => do
      match ← authenticate rt buf size detectedPrepend with
      | some obfs => pure (.authentic buf size obfs, outBuf)
      | none => do
          match ← unauthenticatedReply rt buf size detectedPrepend wasRtp kind src clock with
          | some reply => pure (.probe reply, outBuf)
          | none => pure (.ignored, outBuf)

structure Shared where
  wgPeer : Option SocketAddr
  peerExt : Option SocketAddr
  clientMap : UInt32 → Option SocketAddr
  sessionMap : UInt32 → Option UInt32
  clientObfs : SocketAddr → Option ObfsMode

def Shared.empty : Shared :=
  { wgPeer := none, peerExt := none, clientMap := fun _ => none, sessionMap := fun _ => none,
    clientObfs := fun _ => none }

def insert {K V : Type} [DecidableEq K] (map : K → Option V) (key : K) (value : V) : K → Option V :=
  fun k => if k = key then some value else map k

def recordObfs (rt : Runtime) (obfs : ObfsMode) (src : SocketAddr) (shared : Shared) : Shared :=
  if rt.isServer then { shared with clientObfs := insert shared.clientObfs src obfs } else shared

def boundIndex (sessionMap : UInt32 → Option UInt32) (payload : Buf) : Option UInt32 :=
  if payload.length < 8 then none
  else if byteAt payload 0 &&& 0x1F = 1 then
    if le32At payload 4 ≠ 0 then some (le32At payload 4) else none
  else if byteAt payload 0 &&& 0x1F = 4 then sessionMap (le32At payload 4)
  else none

def learn (rt : Runtime) (payload : Buf) (src : SocketAddr) (shared : Shared) : Shared :=
  if rt.dynamicPeer then
    match boundIndex shared.sessionMap payload with
    | some cIdx => { shared with clientMap := insert shared.clientMap cIdx src }
    | none => shared
  else shared

inductive Sent where
  | probeReply (bytes : Buf) (dest : SocketAddr)
  | toWireGuard (bytes : Buf) (dest : SocketAddr)
  deriving DecidableEq

def wgDest (rt : Runtime) (shared : Shared) : Option SocketAddr :=
  if rt.isServer then some rt.wgAddr else shared.wgPeer

def forward (rt : Runtime) (shared : Shared) (payload : Buf) : List Sent :=
  match wgDest rt shared with
  | some dest => [.toWireGuard payload dest]
  | none => []

def ingress (rt : Runtime) (shared : Shared) (buf outBuf : Buf) (size : Nat) (src : SocketAddr) (clock : Clock) :
    Result (Shared × Buf × List Sent) := do
  let (verdict, outBuf) ← classify rt buf outBuf size src clock
  match verdict with
  | .ignored => pure (shared, outBuf, [])
  | .probe reply => pure (shared, outBuf, [.probeReply reply src])
  | .authentic buf size obfs => do
      let shared := recordObfs rt obfs src shared
      let (buf, decapped) ← obfsDecap rt.order buf size rt.keyInit Runtime.rounds obfs
      match decapped with
      | none => pure (shared, outBuf, [])
      | some (newSize, _, _) => do
          let payload ← subslice buf 0 newSize
          let shared := learn rt payload src { shared with peerExt := some src }
          pure (shared, outBuf, forward rt shared payload)

end Gutd.Userspace
