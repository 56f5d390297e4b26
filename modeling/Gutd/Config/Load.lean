import Gutd.Config
import Gutd.Crypto
import Gutd.Shared.NetParse

set_option autoImplicit false

-- `config.rs`: the two loaders, one for a file of sections and one for environment variables.

namespace Gutd

open Bytes Checked Net Str

inductive ConfigError where
  | message (text : String)
  | panicked (panic : Panic)

abbrev Parsed := Except ConfigError

def reject {α : Type} (text : String) : Parsed α := throw (.message text)

def orMessage {ε α : Type} (text : ε → String) : Except ε α → Parsed α
  | .ok a => pure a
  | .error e => reject (text e)

def unwrapped {α : Type} : Result α → Parsed α
  | .ok a => pure a
  | .error panic => throw (.panicked panic)

def underName {α : Type} (name : String) : Parsed α → Parsed α
  | .error (.message text) => reject (name ++ ": " ++ text)
  | outcome => outcome

def keyBytes (bytes : Buf) : Vector UInt8 32 := Vector.ofFn fun i => byteAt bytes i.val

def hkdfSalt : Buf := ascii "gutd-v1"

def hkdfInfo : Buf := ascii "gutd-chacha-key"

def deriveKey (passphrase : List Char) : Result (Vector UInt8 32) := do
  let okm ← hkdfExpand (hkdfExtract hkdfSalt (utf8 passphrase)) hkdfInfo 32
  pure (keyBytes okm)

-- two bytes of a string; cutting a character apart panics
def strSlice (bytes : Buf) (a b : Nat) : Parsed Buf :=
  if isCharBoundary bytes a && isCharBoundary bytes b then pure (slice bytes a b) else throw (.panicked .outOfBounds)

def parseHexByte (bytes : Buf) (i : Nat) : Parsed UInt8 := do
  let digits ← strSlice bytes (i * 2) (i * 2 + 2)
  let value ← orMessage (fun e => "invalid hex at byte " ++ toString i ++ ": " ++ e.text) (parseUnsigned 16 255 digits)
  pure (UInt8.ofNat value)

def parseHexKey (s : List Char) : Parsed (Vector UInt8 32) := do
  let bytes := utf8 s
  rejectIf (.message ("key hex must be 64 chars, got " ++ toString bytes.length)) (bytes.length ≠ 64)
  let key ← (List.range 32).mapM (parseHexByte bytes)
  pure (keyBytes key)

def parseInt {α : Type} (parse : List Char → Except IntError α) (value : List Char) : Parsed α :=
  orMessage IntError.text (parse value)

def parseBool (value : List Char) : Parsed Bool :=
  if value = "true".toList then pure true
  else if value = "false".toList then pure false
  else reject "provided string was not `true` or `false`"

def ipError : String := "invalid IP address syntax"

def parseIp (value : List Char) : Parsed IpAddr :=
  match parseIpAddr (utf8 value) with
  | some ip => pure ip
  | none => reject ipError

def isDynamic (value : List Char) : Bool := eqIgnoreAsciiCase value "dynamic".toList

def isTrue (value : List Char) : Bool := value = "true".toList || value = "1".toList

def policyOf (value : List Char) : Option XdpDefaultPolicy :=
  if value = "allow".toList ∨ value = "pass".toList then some .allow
  else if value = "drop".toList then some .drop
  else none

def obfsOf (value : List Char) : Option ObfsMode :=
  if value = "quic".toList then some .quic
  else if value = "gut".toList ∨ value = "gost".toList ∨ value = "noise".toList then some .gut
  else if value = "syslog".toList then some .syslog
  else if value = "sip".toList then some .sip
  else none

def parsePorts (text : List Char → IntError → String) (value : List Char) : Parsed (List UInt16) :=
  (value.splitOn ',').mapM fun part => orMessage (text part) (parseU16 (trim part))

def unspecified : IpAddr := .v4 (Vector.replicate 4 0)

-- an explicit role wins, then the parity of the last octet of the address, then whether the peer is dynamic
def resolveResponder (responder : Option Bool) (address : Option String) (dynamicPeer : Bool) : Bool :=
  match responder, address with
  | some r, _ => r
  | none, some addr =>
      let ipPart := (addr.toList.splitOn '/').headD []
      let parts := ipPart.splitOn '.'
      if parts.length = 4 then ((parseU8 (parts.getD 3 [])).toOption.getD 0) &&& 1 == 1 else false
  | none, none => dynamicPeer

structure PeerBuilder where
  name : String := "gut0"
  mtu : UInt16 := 1492
  nic : Option String := none
  defaultPolicy : XdpDefaultPolicy := .allow
  address : Option String := none
  bindIp : Option IpAddr := none
  peerIp : Option IpAddr := none
  dynamicPeer : Bool := false
  responder : Option Bool := none
  ports : Option (List UInt16) := none
  peerPorts : Option (List UInt16) := none
  key : Option (Vector UInt8 32) := none
  passphrase : Option (List Char) := none
  keepaliveDropPercent : UInt8 := 30
  ownHttp3 : Bool := true
  wgHost : Option String := none
  sipDomain : Option (List Char) := none
  obfs : ObfsMode := .gut
  bindPort : Option UInt16 := none

namespace PeerBuilder

def keyOf (b : PeerBuilder) : Parsed (Vector UInt8 32) :=
  match b.key, b.passphrase with
  | some k, _ => pure k
  | none, some p => unwrapped (deriveKey p)
  | none, none => reject ("Either key or passphrase must be set in [peer] (name=" ++ b.name ++ ")")

def peerIpOf (b : PeerBuilder) : Parsed IpAddr :=
  if b.dynamicPeer then pure unspecified else orReject (.message "peer_ip not set") b.peerIp

def build (b : PeerBuilder) (outerMtu : UInt16) (peerIndex : Nat) : Parsed PeerConfig := do
  let responder := resolveResponder b.responder b.address b.dynamicPeer
  let base := peerIndex * 4
  let address := b.address.getD ("10.47.0." ++ toString (base + if responder then 1 else 2) ++ "/30")
  let bindIp := b.bindIp.getD unspecified
  let peerIp ← b.peerIpOf
  let ports ← orReject (.message "ports not set") b.ports
  let peerPorts := b.peerPorts.getD ports
  let fewPorts := "SIP mode requires at least 2 ports (peer '" ++ b.name ++
    "'): peer_ports[0] = SIP signaling, peer_ports[1+] = RTP media"
  rejectIf (.message fewPorts) (b.obfs = .sip ∧ peerPorts.length < 2)
  let key ← b.keyOf
  pure { name := b.name, mtu := b.mtu, nic := b.nic, defaultPolicy := b.defaultPolicy, address, bindIp, peerIp
         dynamicPeer := b.dynamicPeer, responder, ports, peerPorts, key, keepaliveDropPercent := b.keepaliveDropPercent
         outerMtu, ownHttp3 := b.ownHttp3, wgHost := b.wgHost.getD "127.0.0.1:51820", obfs := b.obfs
         sipDomain := utf8 (b.sipDomain.getD "127.0.0.1".toList), bindPort := b.bindPort.getD 0 }

end PeerBuilder

inductive GlobalKey where
  | outerMtu
  | userspaceOnly
  | statsInterval
  | statFile
  deriving DecidableEq

def GlobalKey.ofName (name : List Char) : Option GlobalKey :=
  List.lookup name
    [("outer_mtu".toList, .outerMtu), ("userspace_only".toList, .userspaceOnly), ("stats_interval".toList, .statsInterval),
      ("stat_file".toList, .statFile)]

inductive PeerKey where
  | name
  | mtu
  | nic
  | address
  | defaultPolicy
  | bindIp
  | bindPort
  | peerIp
  | ports
  | peerPorts
  | key
  | passphrase
  | keepaliveDropPercent
  | wgHost
  | wgPort
  | ownHttp3
  | responder
  | sipDomain
  | obfs
  deriving DecidableEq

def PeerKey.ofName (name : List Char) : Option PeerKey :=
  List.lookup name
    [("name".toList, .name), ("mtu".toList, .mtu), ("nic".toList, .nic), ("address".toList, .address),
      ("default_policy".toList, .defaultPolicy), ("bind_ip".toList, .bindIp), ("bind_port".toList, .bindPort),
      ("peer_ip".toList, .peerIp), ("ports".toList, .ports), ("peer_ports".toList, .peerPorts), ("key".toList, .key),
      ("passphrase".toList, .passphrase), ("keepalive_drop_percent".toList, .keepaliveDropPercent),
      ("wg_host".toList, .wgHost), ("wg_port".toList, .wgPort), ("own_http3".toList, .ownHttp3),
      ("responder".toList, .responder), ("sip_domain".toList, .sipDomain), ("sni".toList, .sipDomain),
      ("service_name".toList, .sipDomain), ("obfs".toList, .obfs)]

def portsOf (value : List Char) : Parsed (List UInt16) := do
  let parsed ← parsePorts (fun _ e => "Port parse error: " ++ e.text) value
  rejectIf (.message "ports must not be empty") (parsed = [])
  rejectIf (.message "ports must be in range 1..65535") (0 ∈ parsed)
  pure parsed

def peerPortsOf (value : List Char) : Parsed (List UInt16) := do
  let parsed ← parsePorts (fun _ e => "Port parse error: " ++ e.text) value
  rejectIf (.message "peer_ports must not be empty") (parsed = [])
  pure parsed

def keepaliveOf (value : List Char) : Parsed UInt8 := do
  let parsed ← parseInt parseU8 value
  rejectIf (.message "keepalive_drop_percent must be in range 0..100") (parsed > 100)
  pure parsed

def setPeer (field : PeerKey) (value : List Char) (b : PeerBuilder) : Parsed PeerBuilder :=
  match field with
  | .name => pure { b with name := String.ofList value }
  | .mtu => do pure { b with mtu := ← parseInt parseU16 value }
  | .nic => pure { b with nic := some (String.ofList value) }
  | .address => pure { b with address := some (String.ofList value) }
  | .defaultPolicy => do
      let error := "Invalid default_policy: " ++ String.ofList value ++ " (expected allow|drop)"
      pure { b with defaultPolicy := ← orReject (.message error) (policyOf value) }
  | .bindIp => do pure { b with bindIp := some (← parseIp value) }
  | .bindPort => do pure { b with bindPort := some (← parseInt parseU16 value) }
  | .peerIp =>
      if isDynamic value then pure { b with dynamicPeer := true }
      else do pure { b with peerIp := some (← parseIp value) }
  | .ports => do pure { b with ports := some (← portsOf value) }
  | .peerPorts => do pure { b with peerPorts := some (← peerPortsOf value) }
  | .key => do pure { b with key := some (← parseHexKey (trim value)) }
  | .passphrase => pure { b with passphrase := some (trimMatches '"' value) }
  | .keepaliveDropPercent => do pure { b with keepaliveDropPercent := ← keepaliveOf value }
  | .wgHost => pure { b with wgHost := some (String.ofList value) }
  | .wgPort => pure { b with wgHost := some ("127.0.0.1:" ++ String.ofList value) }
  | .ownHttp3 => pure { b with ownHttp3 := isTrue value }
  | .responder => pure { b with responder := some (isTrue value) }
  | .sipDomain => pure { b with sipDomain := some (trimMatches '"' value) }
  | .obfs => do
      let error := "Invalid obfs value: " ++ String.ofList value ++ " (expected quic|gut|gost|noise|syslog|sip)"
      pure { b with obfs := ← orReject (.message error) (obfsOf value) }

structure FileState where
  outerMtu : UInt16 := 1500
  userspaceOnly : Bool := false
  statsInterval : UInt32 := 5
  statFile : String := "/run/gutd.stat"
  peers : List PeerConfig := []
  currentBuilder : Option PeerBuilder := none
  currentSection : List Char := []

def setGlobal (field : GlobalKey) (value : List Char) (s : FileState) : Parsed FileState :=
  match field with
  | .outerMtu => do pure { s with outerMtu := ← parseInt parseU16 value }
  | .userspaceOnly => do pure { s with userspaceOnly := ← parseBool value }
  | .statsInterval => do pure { s with statsInterval := ← parseInt parseU32 value }
  | .statFile => pure { s with statFile := String.ofList (trimMatches '"' value) }

def finalizePeer (s : FileState) : Parsed FileState :=
  match s.currentBuilder with
  | none => pure s
  | some builder => do
      let peer ← builder.build s.outerMtu s.peers.length
      pure { s with peers := s.peers ++ [peer], currentBuilder := none }

def openPeer (s : FileState) : Parsed FileState := do
  let s ← finalizePeer s
  pure { s with currentBuilder := some {} }

def enterSection (name : List Char) (s : FileState) : Parsed FileState := do
  let s ← (if name = "peer".toList then openPeer s else pure s)
  pure { s with currentSection := name }

-- a quoted value ends with its second quote, any other one with a comment
def valueOf (raw : List Char) : List Char :=
  match raw with
  | '"' :: stripped =>
      match stripped.idxOf? '"' with
      | some stop => raw.take (stop + 2)
      | none => raw
  | _ =>
      match raw.idxOf? '#' with
      | some hash => trim (raw.take hash)
      | none => raw

def assign (keyName value : List Char) (s : FileState) : Parsed FileState :=
  if s.currentSection = "global".toList then
    match GlobalKey.ofName keyName with
    | some known => setGlobal known value s
    | none => pure s
  else if s.currentSection = "peer".toList then do
    let b := s.currentBuilder.getD {}
    match PeerKey.ofName keyName with
    | some known => pure { s with currentBuilder := some (← setPeer known value b) }
    | none => pure { s with currentBuilder := some b }
  else pure s

def lineStep (s : FileState) (line : List Char) : Parsed FileState :=
  let line := trim line
  if line = [] ∨ line.head? = some '#' then pure s
  else if line.head? = some '[' ∧ line.getLast? = some ']' then enterSection line.tail.dropLast s
  else
    match line.idxOf? '=' with
    | some eqPos => assign (trim (line.take eqPos)) (valueOf (trim (line.drop (eqPos + 1)))) s
    | none => pure s

def checkNames (seen : List String) : List PeerConfig → Parsed Unit
  | [] => pure ()
  | p :: peers => do
      rejectIf (.message ("Duplicate peer name: '" ++ p.name ++ "'")) (p.name ∈ seen)
      checkNames (p.name :: seen) peers

-- ports that occur twice in one list count once
def checkPorts (seen : List UInt16) : List PeerConfig → Parsed Unit
  | [] => pure ()
  | p :: peers => do
      match p.ports.find? (· ∈ seen) with
      | some port =>
          reject ("Port " ++ toString port.toNat ++ " is used by multiple peers — each port must belong to exactly one peer")
      | none => checkPorts (p.ports ++ seen) peers

def finish (s : FileState) : Parsed Config := do
  let s ← finalizePeer s
  rejectIf (.message "No [peer] sections found in config ") (s.peers = [])
  checkNames [] s.peers
  checkPorts [] s.peers
  pure { global := { outerMtu := s.outerMtu, userspaceOnly := s.userspaceOnly }
         runtime := { statsInterval := s.statsInterval, statFile := s.statFile }
         peers := s.peers }

def parseConfig (content : List Char) : Parsed Config := do
  let s ← (lines content).foldlM lineStep {}
  finish s

def loadConfig (path : String) (read : Except String (List Char)) : Parsed Config := do
  let content ← orMessage (fun e => "Cannot read config file '" ++ path ++ "': " ++ e) read
  underName ("Error in config file '" ++ path ++ "'") (parseConfig content)

abbrev Environment := String → Option (List Char)

def required (env : Environment) (name : String) : Parsed (List Char) :=
  orReject (.message ("Required env var " ++ name ++ " is not set")) (env name)

def numberVar {α : Type} (env : Environment) (name default : String) (parse : List Char → Except IntError α) : Parsed α :=
  orMessage (fun e => name ++ ": " ++ e.text) (parse ((env name).getD default.toList))

def notBlank (value : List Char) : Bool := trim value ≠ []

def peerIpVar (env : Environment) : Parsed (IpAddr × Bool) := do
  let value ← required env "GUTD_PEER_IP"
  if isDynamic (trim value) then pure (unspecified, true)
  else
    let ip ← orReject (.message ("GUTD_PEER_IP: invalid IP address: " ++ ipError)) (parseIpAddr (utf8 value))
    pure (ip, false)

def bindIpVar (env : Environment) : Parsed IpAddr :=
  match (env "GUTD_BIND_IP").filter notBlank with
  | some value => orReject (.message ("GUTD_BIND_IP: invalid IP address: " ++ ipError)) (parseIpAddr (utf8 value))
  | none => pure unspecified

def invalidPort (name : String) (part : List Char) (e : IntError) : String :=
  name ++ ": invalid port '" ++ String.ofList part ++ "': " ++ e.text

def portsVar (env : Environment) : Parsed (List UInt16) := do
  let value ← required env "GUTD_PORTS"
  let ports ← parsePorts (invalidPort "GUTD_PORTS") value
  rejectIf (.message "GUTD_PORTS must not be empty") (ports = [])
  rejectIf (.message "GUTD_PORTS: port 0 is not allowed") (0 ∈ ports)
  pure ports

def peerPortsVar (env : Environment) (ports : List UInt16) : Parsed (List UInt16) :=
  match env "GUTD_PEER_PORTS" with
  | some value => do
      let parsed ← parsePorts (invalidPort "GUTD_PEER_PORTS") value
      rejectIf (.message "GUTD_PEER_PORTS must not be empty") (parsed = [])
      pure parsed
  | none => pure ports

def keyVar (env : Environment) : Parsed (Vector UInt8 32) :=
  match (env "GUTD_KEY").or ((env "GUTD_SECRET").or (env "GUTD_CIPHER")) with
  | some hex => underName "GUTD_KEY" (parseHexKey (trim hex))
  | none =>
      match (env "GUTD_PASSPHRASE").or (env "GUTD_PHRASE") with
      | some phrase => unwrapped (deriveKey phrase)
      | none => reject "Either GUTD_KEY/GUTD_CIPHER (64-char hex) or GUTD_PASSPHRASE/GUTD_PHRASE must be set"

def defaultPolicyVar (env : Environment) : Parsed XdpDefaultPolicy :=
  let value := (env "GUTD_DEFAULT_POLICY").getD "allow".toList
  orReject (.message ("GUTD_DEFAULT_POLICY: unknown value '" ++ String.ofList value ++ "', expected allow|drop")) (policyOf value)

def obfsVar (env : Environment) : Parsed ObfsMode :=
  let value := (env "GUTD_OBFS").getD "gut".toList
  orReject (.message ("GUTD_OBFS: unknown value '" ++ String.ofList value ++ "', expected quic|gut|gost|noise|syslog|sip"))
    (obfsOf value)

def loadConfigFromEnv (env : Environment) : Parsed Config := do
  let (peerIp, dynamicPeer) ← peerIpVar env
  let bindIp ← bindIpVar env
  let addressOpt := ((env "GUTD_ADDRESS").filter notBlank).map String.ofList
  let responderOpt := (env "GUTD_RESPONDER").map isTrue
  let responder := resolveResponder responderOpt addressOpt dynamicPeer
  let address := addressOpt.getD (if responder then "10.47.0.1/30" else "10.47.0.2/30")
  let ports ← portsVar env
  let peerPorts ← peerPortsVar env ports
  let key ← keyVar env
  let mtu ← numberVar env "GUTD_MTU" "1492" parseU16
  let outerMtu ← numberVar env "GUTD_OUTER_MTU" "1500" parseU16
  let defaultPolicy ← defaultPolicyVar env
  let keepaliveDropPercent ← numberVar env "GUTD_KEEPALIVE_DROP_PCT" "30" parseU8
  let obfs ← obfsVar env
  let fewPorts := "GUTD_OBFS=sip requires at least 2 ports in GUTD_PEER_PORTS (or GUTD_PORTS): " ++
    "ports[0] = SIP signaling, ports[1+] = RTP media"
  rejectIf (.message fewPorts) (obfs = .sip ∧ peerPorts.length < 2)
  let statsInterval ← numberVar env "GUTD_STATS_INTERVAL" "5" parseU32
  pure
    { global := { outerMtu, userspaceOnly := ((env "GUTD_USERSPACE_ONLY").map isTrue).getD false }
      runtime := { statsInterval, statFile := ((env "GUTD_STAT_FILE").map String.ofList).getD "/run/gutd.stat" }
      peers :=
        [{ name := ((env "GUTD_NAME").map String.ofList).getD "gut0", mtu
           nic := ((env "GUTD_NIC").filter notBlank).map String.ofList
           defaultPolicy, address, bindIp, peerIp, dynamicPeer, responder, ports, peerPorts, key, keepaliveDropPercent, outerMtu
           ownHttp3 := ((env "GUTD_OWN_HTTP3").map isTrue).getD true
           wgHost := ((env "GUTD_WG_HOST").map String.ofList).getD "127.0.0.1:51820"
           sipDomain := utf8 (((env "GUTD_SNI").or ((env "GUTD_SIP_DOMAIN").or (env "GUTD_SERVICE_NAME"))).getD "nginx".toList)
           obfs
           bindPort := ((env "GUTD_BIND_PORT").bind fun value => (parseU16 value).toOption).getD 0 }] }

end Gutd
