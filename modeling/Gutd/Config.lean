import Gutd.Shared.Net

set_option autoImplicit false

namespace Gutd

open Bytes

inductive ObfsMode where
  | quic
  | gut
  | syslog
  | sip
  deriving DecidableEq, Repr

inductive XdpDefaultPolicy where
  | allow
  | drop
  deriving DecidableEq, Repr

structure GlobalConfig where
  outerMtu : UInt16
  userspaceOnly : Bool
  deriving DecidableEq

structure RuntimeConfig where
  statsInterval : UInt32
  statFile : String
  deriving DecidableEq

structure PeerConfig where
  name : String
  mtu : UInt16
  nic : Option String
  defaultPolicy : XdpDefaultPolicy
  address : String
  bindIp : Net.IpAddr
  peerIp : Net.IpAddr
  dynamicPeer : Bool
  responder : Bool
  ports : List UInt16
  peerPorts : List UInt16
  key : Vector UInt8 32
  keepaliveDropPercent : UInt8
  outerMtu : UInt16
  ownHttp3 : Bool
  wgHost : String
  sipDomain : Buf
  obfs : ObfsMode
  bindPort : UInt16
  deriving DecidableEq

structure Config where
  global : GlobalConfig
  runtime : RuntimeConfig
  peers : List PeerConfig
  deriving DecidableEq

end Gutd
