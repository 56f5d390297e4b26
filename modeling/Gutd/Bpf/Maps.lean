import Gutd.Bpf.Frame
import Gutd.Config
import Gutd.Wire.Format

set_option autoImplicit false

-- `gut_config`, `peer_endpoint` and the small functions of `gut_common.h` on them. The hosts are little-endian;
-- addresses are the bytes of their network order.

namespace Gutd.Bpf

open Bytes Wire

def maxPorts : Nat := 6

structure GutConfig where
  key : Vector UInt8 32
  ports : Vector UInt16 6
  numPorts : Nat
  peerIp : Vector UInt8 4
  bindIp : Vector UInt8 4
  egressIfindex : UInt32
  srcMac : Vector UInt8 6
  dstMac : Vector UInt8 6
  tunMac : Vector UInt8 6
  chachaInit : ChachaInit
  defaultXdpAction : UInt8
  keepaliveDropPercent : UInt8
  peerIp6 : Vector UInt8 16
  bindIp6 : Vector UInt8 16
  tunLocalIp4 : Vector UInt8 4
  tunPeerIp4 : Vector UInt8 4
  tunLocalIp6 : Vector UInt8 16
  tunPeerIp6 : Vector UInt8 16
  ownHttp3 : UInt8
  dynamicPeer : UInt8
  sniDomain : Vector UInt8 32
  sniDomainLen : UInt8
  quicDcid : Vector UInt8 8
  quicKeyRk : Vector UInt32 44
  quicHpRk : Vector UInt32 44
  quicIv : Vector UInt8 12
  deriving DecidableEq

def GutConfig.tokenKey (cfg : GutConfig) : Vector UInt32 4 :=
  #v[cfg.chachaInit.get 4, cfg.chachaInit.get 5, cfg.chachaInit.get 6, cfg.chachaInit.get 7]

structure PeerEndpoint where
  ip4 : Vector UInt8 4
  ip6 : Vector UInt8 16
  port : UInt16
  serverIp4 : Vector UInt8 4
  serverIp6 : Vector UInt8 16
  serverPort : UInt16
  valid : Bool
  deriving DecidableEq

def bytesAt (buf : Buf) (off n : Nat) : Vector UInt8 n := Vector.ofFn fun i => byteAt buf (off + i.val)

theorem toList_bytesAt (buf : Buf) (off n : Nat) (inside : off + n ≤ buf.length) :
    (bytesAt buf off n).toList = slice buf off (off + n) := by
  apply ext_byteAt (by simp; omega)
  intro i bounded
  simp only [Vector.length_toList] at bounded
  rw [byteAt_slice, if_pos (by omega), byteAt_eq_getElem _ _ (by simpa using bounded)]
  simp [bytesAt]

def updateElem {V : Type} (map : UInt32 → Option V) (key : UInt32) (value : V) : UInt32 → Option V :=
  fun k => if k = key then some value else map k

def isGutPort (port : UInt16) (cfg : GutConfig) : Bool := (cfg.ports.toList.take cfg.numPorts).contains port

def selectPort (pktId : UInt32) (cfg : GutConfig) : UInt16 :=
  if cfg.numPorts = 0 then 0 else cfg.ports.toList.getD (pktId.toNat % cfg.numPorts) 0

structure GutStats where
  packetsProcessed : Nat
  packetsDropped : Nat
  bytesProcessed : Nat
  packetsOversized : Nat
  maskCount : Nat
  packetsEgress : Nat
  packetsIngress : Nat

def chachaRounds : UInt8 := 4

def chachaQrIdx (st : Block) (ai bi ci di : Fin 16) : Block :=
  let st := st.setIfInBounds ai (st.get ai + st.get bi)
  let st := st.setIfInBounds di (st.get di ^^^ st.get ai)
  let st := st.setIfInBounds di ((st.get di <<< 16) ||| (st.get di >>> 16))
  let st := st.setIfInBounds ci (st.get ci + st.get di)
  let st := st.setIfInBounds bi (st.get bi ^^^ st.get ci)
  let st := st.setIfInBounds bi ((st.get bi <<< 12) ||| (st.get bi >>> 20))
  let st := st.setIfInBounds ai (st.get ai + st.get bi)
  let st := st.setIfInBounds di (st.get di ^^^ st.get ai)
  let st := st.setIfInBounds di ((st.get di <<< 8) ||| (st.get di >>> 24))
  let st := st.setIfInBounds ci (st.get ci + st.get di)
  let st := st.setIfInBounds bi (st.get bi ^^^ st.get ci)
  st.setIfInBounds bi ((st.get bi <<< 7) ||| (st.get bi >>> 25))

def chachaDoubleRoundIdx (st : Block) : Block :=
  let st := chachaQrIdx st 0 4 8 12
  let st := chachaQrIdx st 1 5 9 13
  let st := chachaQrIdx st 2 6 10 14
  let st := chachaQrIdx st 3 7 11 15
  let st := chachaQrIdx st 0 5 10 15
  let st := chachaQrIdx st 1 6 11 12
  let st := chachaQrIdx st 2 7 8 13
  chachaQrIdx st 3 4 9 14

theorem size_counterWords (counter nonce : UInt32) : #[counter, nonce, 0, 0].size = 4 := rfl

-- built for four rounds; the last two words are added to zero
def chachaBlock (init : ChachaInit) (counter nonce : UInt32) : Block :=
  let initial : Block := init ++ (⟨#[counter, nonce, 0, 0], size_counterWords counter nonce⟩ : Vector UInt32 4)
  let ks := chachaDoubleRoundIdx initial
  let ks := chachaDoubleRoundIdx ks
  Vector.zipWith (· + ·) ks initial

theorem chachaQrIdx_eq (st : Block) (ai bi ci di : Fin 16) : chachaQrIdx st ai bi ci di = qr st ai bi ci di := by
  have write (st : Block) (i : Fin 16) (x : UInt32) : st.setIfInBounds i x = st.set i x := by
    simp [Vector.setIfInBounds, Vector.set, Array.setIfInBounds]
  have read (st : Block) (i : Fin 16) : st.get i = st[i] := rfl
  simp only [chachaQrIdx, qr, rotateLeft, write, read, Vector.set_set, Fin.getElem_fin, Vector.getElem_set_self]
  rfl

theorem chachaDoubleRoundIdx_eq (st : Block) : chachaDoubleRoundIdx st = doubleRound st := by
  simp only [chachaDoubleRoundIdx, doubleRound, chachaQrIdx_eq]

theorem chachaBlock_eq (init : ChachaInit) (counter nonce : UInt32) :
    chachaBlock init counter nonce = chachaBlockFast init counter nonce chachaRounds := by
  simp only [chachaBlock, chachaDoubleRoundIdx_eq]
  rfl

def wgNonce32 (wg : Buf) : UInt32 := le32At wg 16 ^^^ le32At wg 20 ^^^ le32At wg 24 ^^^ le32At wg 28

theorem wgNonce32_eq (w rest : Buf) (whole : 32 ≤ w.length) : wgNonce32 (w ++ rest) = nonceOf w := by
  unfold wgNonce32 nonceOf
  rw [if_neg (by omega), le32At_append_left _ _ _ (by omega), le32At_append_left _ _ _ (by omega),
    le32At_append_left _ _ _ (by omega), le32At_append_left _ _ _ (by omega)]

def channel (key : Vector UInt8 32) : Channel := { order := .little, key := Gutd.chachaInit key, rounds := chachaRounds }

structure GutConfig.Keyed (cfg : GutConfig) (key : Vector UInt8 32) : Prop where
  init : cfg.chachaInit = Gutd.chachaInit key
  dcid :
    cfg.quicDcid.toList = toLeBytes ((channel key).ks99.get 0) ++ toLeBytes ((channel key).ks99.get 1)

theorem GutConfig.Keyed.ks47 {cfg : GutConfig} {key : Vector UInt8 32} (keyed : cfg.Keyed key) (w : Buf) :
    chachaBlock cfg.chachaInit 47 (nonceOf w) = (channel key).ks47 w := by
  simp only [chachaBlock_eq, keyed.init, Channel.ks47, Channel.block, channel]

end Gutd.Bpf
