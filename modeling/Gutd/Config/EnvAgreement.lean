import Gutd.Config.Settings

set_option autoImplicit false

namespace Gutd

open Bytes Checked Net Str

theorem Settings.environment_peer (st : Settings) (s : PeerSetting) : st.environment s.envName = st.peer s := by
  have other : s.envName ≠ "GUTD_OUTER_MTU" := by cases s <;> decide
  have found : PeerSetting.all.find? (·.envName = s.envName) = some s := by cases s <;> decide
  rw [Settings.environment, if_neg other, found, Option.bind_some]

theorem Settings.environment_absent (st : Settings) {name : String} (other : name ≠ "GUTD_OUTER_MTU")
    (unknown : PeerSetting.all.find? (·.envName = name) = none) : st.environment name = none := by
  rw [Settings.environment, if_neg other, unknown, Option.bind_none]

def Settings.envValues (st : Settings) : PeerSetting → Option (List Char)
  | .bindIp => (st.peer .bindIp).filter notBlank
  | .address => (st.peer .address).filter notBlank
  | .nic => (st.peer .nic).filter notBlank
  | .sni => some ((st.peer .sni).getD "nginx".toList)
  | s => st.peer s

section Var

variable {env : Environment} {value : Option (List Char)} {α : Type} {a default : α}

theorem numberVar_eq_ok {name text : String} {parse : List Char → Except IntError α} (looked : env name = value)
    (known : parse text.toList = .ok default) :
    numberVar env name text parse = .ok a ↔
      (∀ v, value = some v → ∃ n, parse v = .ok n) ∧ a = (value.bind fun v => (parse v).toOption).getD default := by
  subst looked
  rw [numberVar]
  cases env name with
  | none => simp [known, orMessage, eq_comm]
  | some v => cases parsed : parse v <;> simp [parsed, orMessage, reject, Except.toOption, eq_comm]

theorem numberOr_eq_ok {parse : List Char → Except IntError α} :
    numberOr value default parse = .ok a ↔
      (∀ v, value = some v → ∃ n, parse v = .ok n) ∧ a = (value.bind fun v => (parse v).toOption).getD default := by
  cases value with
  | none => simp [numberOr, eq_comm]
  | some v => cases parsed : parse v <;> simp [numberOr, parsed, parseInt, orMessage, reject, Except.toOption, eq_comm]

theorem choice_eq_ok {text : String} {choose : List Char → Option α} {e : ConfigError} (known : choose text.toList = some default) :
    orReject e (choose (value.getD text.toList)) = .ok a ↔
      (∀ v, value = some v → ∃ n, choose v = some n) ∧ a = (value.bind choose).getD default := by
  cases value with
  | none => simp [known, eq_comm]
  | some v => cases chosen : choose v <;> simp [chosen, orReject, eq_comm]

theorem toOption_eq_some {ε : Type} {x : Except ε α} : x.toOption = some a ↔ x = .ok a := by
  cases x <;> simp [Except.toOption]

end Var

theorem parsePorts_eq_ok {text : List Char → IntError → String} {v : List Char} {ports : List UInt16} :
    parsePorts text v = .ok ports ↔ ((v.splitOn ',').mapM fun part => (parseU16 (trim part)).toOption) = some ports := by
  rw [parsePorts]
  generalize v.splitOn ',' = parts
  induction parts generalizing ports with
  | nil => simp [eq_comm]
  | cons part parts ih =>
      rw [List.mapM_cons, List.mapM_cons]
      cases parseU16 (trim part) with
      | error e => simp [orMessage, reject, Except.toOption]
      | ok port =>
          change (do let rest ← parts.mapM _; pure (port :: rest) : Parsed _) = _ ↔
            (do let rest ← parts.mapM _; pure (port :: rest) : Option _) = _
          simp only [bind_eq_ok, ih, Option.bind_eq_bind, Option.bind_eq_some_iff, pure_eq_ok, Except.ok.injEq, Option.pure_def,
            Option.some.injEq]

theorem portsOf_eq_ok (text : List Char → IntError → String) {v : List Char} {ports : List UInt16} :
    portsOf v = .ok ports ↔ parsePorts text v = .ok ports ∧ ports ≠ [] ∧ 0 ∉ ports := by
  rw [parsePorts_eq_ok, portsOf, bind_eq_ok]
  constructor
  · rintro ⟨parsed, read, checked⟩
    obtain ⟨some, checked⟩ := rejectIf_bind_eq_ok.mp checked
    obtain ⟨positive, same⟩ := rejectIf_bind_eq_ok.mp checked
    cases same
    exact ⟨parsePorts_eq_ok.mp read, some, positive⟩
  · rintro ⟨read, some, positive⟩
    exact ⟨ports, parsePorts_eq_ok.mpr read, rejectIf_bind_eq_ok.mpr ⟨some, rejectIf_bind_eq_ok.mpr ⟨positive, rfl⟩⟩⟩

theorem peerPortsOf_eq_ok (text : List Char → IntError → String) {v : List Char} {ports : List UInt16} :
    peerPortsOf v = .ok ports ↔ parsePorts text v = .ok ports ∧ ports ≠ [] := by
  rw [parsePorts_eq_ok, peerPortsOf, bind_eq_ok]
  constructor
  · rintro ⟨parsed, read, checked⟩
    obtain ⟨some, same⟩ := rejectIf_bind_eq_ok.mp checked
    cases same
    exact ⟨parsePorts_eq_ok.mp read, some⟩
  · rintro ⟨read, some⟩
    exact ⟨ports, parsePorts_eq_ok.mpr read, rejectIf_bind_eq_ok.mpr ⟨some, rfl⟩⟩

section Environment

variable {st : Settings}

theorem peerIpVar_eq_ok (plain : ∀ s v, st.peer s = some v → Plain v) {ip : IpAddr} {dynamic : Bool} :
    peerIpVar st.environment = .ok (ip, dynamic) ↔
      (∀ v, st.peer .peerIp = some v → Spelled .peerIp v) ∧
        (builderOf st.envValues).peerIpOf = .ok ip ∧ (builderOf st.envValues).dynamicPeer = dynamic := by
  have looked : st.environment "GUTD_PEER_IP" = st.peer .peerIp := st.environment_peer .peerIp
  have same : st.envValues .peerIp = st.peer .peerIp := rfl
  rw [peerIpVar, required, PeerBuilder.peerIpOf, looked]
  simp only [builderOf, same]
  cases value : st.peer .peerIp with
  | none => simp [orReject]
  | some v =>
      rw [orReject_some, bind_ok, (plain _ v value).trimmed]
      by_cases isDynamic : isDynamic v
      · simp [isDynamic, Spelled]
      · cases parsed : parseIpAddr (utf8 v) <;> simp [isDynamic, Spelled, parsed, orReject]

theorem bindIpVar_eq_ok {ip : IpAddr} :
    bindIpVar st.environment = .ok ip ↔
      (∀ v, st.envValues .bindIp = some v → Spelled .bindIp v) ∧ (builderOf st.envValues).bindIp.getD unspecified = ip := by
  have looked : st.environment "GUTD_BIND_IP" = st.peer .bindIp := st.environment_peer .bindIp
  have same : st.envValues .bindIp = (st.peer .bindIp).filter notBlank := rfl
  rw [bindIpVar, looked]
  simp only [builderOf, same]
  cases (st.peer .bindIp).filter notBlank with
  | none => simp
  | some v => cases parsed : parseIpAddr (utf8 v) <;> simp [Spelled, parsed, orReject]

theorem portsVar_eq_ok {ports : List UInt16} :
    portsVar st.environment = .ok ports ↔
      (∀ v, st.peer .ports = some v → Spelled .ports v) ∧ (builderOf st.envValues).ports = some ports := by
  have looked : st.environment "GUTD_PORTS" = st.peer .ports := st.environment_peer .ports
  have same : st.envValues .ports = st.peer .ports := rfl
  rw [portsVar, required, looked]
  simp only [builderOf, same]
  cases value : st.peer .ports with
  | none => simp [orReject]
  | some v =>
      have checked : (do
          let parsed ← parsePorts (invalidPort "GUTD_PORTS") v
          rejectIf (.message "GUTD_PORTS must not be empty") (parsed = [])
          rejectIf (.message "GUTD_PORTS: port 0 is not allowed") (0 ∈ parsed)
          pure parsed : Parsed (List UInt16)) = .ok ports ↔ portsOf v = .ok ports := by
        rw [portsOf_eq_ok (invalidPort "GUTD_PORTS"), bind_eq_ok]
        simp [rejectIf_bind_eq_ok]
      rw [orReject_some, bind_ok, checked]
      cases read : portsOf v <;> simp [Spelled, read, Except.toOption]

theorem peerPortsVar_eq_ok {ports peerPorts : List UInt16} :
    peerPortsVar st.environment ports = .ok peerPorts ↔
      (∀ v, st.peer .peerPorts = some v → Spelled .peerPorts v) ∧ (builderOf st.envValues).peerPorts.getD ports = peerPorts := by
  have looked : st.environment "GUTD_PEER_PORTS" = st.peer .peerPorts := st.environment_peer .peerPorts
  have same : st.envValues .peerPorts = st.peer .peerPorts := rfl
  rw [peerPortsVar, looked]
  simp only [builderOf, same]
  cases value : st.peer .peerPorts with
  | none => simp
  | some v =>
      have checked : (do
          let parsed ← parsePorts (invalidPort "GUTD_PEER_PORTS") v
          rejectIf (.message "GUTD_PEER_PORTS must not be empty") (parsed = [])
          pure parsed : Parsed (List UInt16)) = .ok peerPorts ↔ peerPortsOf v = .ok peerPorts := by
        rw [peerPortsOf_eq_ok (invalidPort "GUTD_PEER_PORTS"), bind_eq_ok]
        simp [rejectIf_bind_eq_ok]
      dsimp only
      rw [checked]
      cases read : peerPortsOf v <;> simp [Spelled, read, Except.toOption]

theorem keyVar_eq_ok (plain : ∀ s v, st.peer s = some v → Plain v) {k : Vector UInt8 32} :
    keyVar st.environment = .ok k ↔
      (∀ v, st.peer .key = some v → Spelled .key v) ∧ (builderOf st.envValues).keyOf = .ok k := by
  have key : st.environment "GUTD_KEY" = st.peer .key := st.environment_peer .key
  have passphrase : st.environment "GUTD_PASSPHRASE" = st.peer .passphrase := st.environment_peer .passphrase
  have secret : st.environment "GUTD_SECRET" = none := st.environment_absent (by decide) (by decide)
  have cipher : st.environment "GUTD_CIPHER" = none := st.environment_absent (by decide) (by decide)
  have phrase : st.environment "GUTD_PHRASE" = none := st.environment_absent (by decide) (by decide)
  have sameKey : st.envValues .key = st.peer .key := rfl
  have samePhrase : st.envValues .passphrase = st.peer .passphrase := rfl
  rw [keyVar, key, passphrase, secret, cipher, phrase, Option.or_none, Option.or_none, Option.or_none, PeerBuilder.keyOf]
  simp only [builderOf, sameKey, samePhrase]
  cases value : st.peer .key with
  | none => cases st.peer .passphrase <;> simp [reject]
  | some hex =>
      dsimp only
      rw [(plain _ hex value).trimmed]
      cases read : parseHexKey hex with
      | error e => cases e <;> simp [Spelled, read, underName, reject]
      | ok k => simp [Spelled, read, underName, Except.toOption]

def PeerBuilder.record (b : PeerBuilder) (outerMtu : UInt16) (peerIp : IpAddr) (ports : List UInt16) (key : Vector UInt8 32) :
    PeerConfig :=
  let responder := resolveResponder b.responder b.address b.dynamicPeer
  { name := b.name, mtu := b.mtu, nic := b.nic, defaultPolicy := b.defaultPolicy
    address := b.address.getD (if responder then "10.47.0.1/30" else "10.47.0.2/30")
    bindIp := b.bindIp.getD unspecified, peerIp, dynamicPeer := b.dynamicPeer, responder, ports
    peerPorts := b.peerPorts.getD ports, key, keepaliveDropPercent := b.keepaliveDropPercent, outerMtu, ownHttp3 := b.ownHttp3
    wgHost := b.wgHost.getD "127.0.0.1:51820", obfs := b.obfs, sipDomain := utf8 (b.sipDomain.getD "127.0.0.1".toList)
    bindPort := b.bindPort.getD 0 }

structure PeerBuilder.Builds (b : PeerBuilder) (peerIp : IpAddr) (ports : List UInt16) (key : Vector UInt8 32) : Prop where
  address : b.peerIpOf = .ok peerIp
  own : b.ports = some ports
  media : ¬(b.obfs = .sip ∧ (b.peerPorts.getD ports).length < 2)
  secret : b.keyOf = .ok key

theorem PeerBuilder.build_eq_ok {b : PeerBuilder} {outerMtu : UInt16} {peer : PeerConfig} :
    b.build outerMtu 0 = .ok peer ↔
      ∃ peerIp ports key, b.Builds peerIp ports key ∧ b.record outerMtu peerIp ports key = peer := by
  have default (responder : Bool) : "10.47.0." ++ toString (0 * 4 + if responder then 1 else 2) ++ "/30" =
      if responder then "10.47.0.1/30" else "10.47.0.2/30" := by
    cases responder <;> decide
  rw [PeerBuilder.build, default]
  constructor
  · intro built
    obtain ⟨peerIp, address, built⟩ := bind_eq_ok.mp built
    obtain ⟨ports, own, built⟩ := bind_eq_ok.mp built
    obtain ⟨media, built⟩ := rejectIf_bind_eq_ok.mp built
    obtain ⟨key, secret, same⟩ := bind_eq_ok.mp built
    exact ⟨peerIp, ports, key, ⟨address, orReject_eq_ok.mp own, media, secret⟩, Except.ok.inj same⟩
  · rintro ⟨peerIp, ports, key, builds, rfl⟩
    exact bind_eq_ok.mpr ⟨peerIp, builds.address, bind_eq_ok.mpr ⟨ports, orReject_eq_ok.mpr builds.own,
      rejectIf_bind_eq_ok.mpr ⟨builds.media, bind_eq_ok.mpr ⟨key, builds.secret, rfl⟩⟩⟩⟩

theorem mtuVar_eq_ok {n : UInt16} :
    numberVar st.environment "GUTD_MTU" "1492" parseU16 = .ok n ↔
      (∀ v, st.peer .mtu = some v → Spelled .mtu v) ∧ n = (builderOf st.envValues).mtu :=
  numberVar_eq_ok (st.environment_peer .mtu) (by decide)

theorem keepaliveVar_eq_ok {n : UInt8} :
    numberVar st.environment "GUTD_KEEPALIVE_DROP_PCT" "30" parseU8 = .ok n ↔
      (∀ v, st.peer .keepaliveDropPercent = some v → Spelled .keepaliveDropPercent v) ∧
        n = (builderOf st.envValues).keepaliveDropPercent :=
  numberVar_eq_ok (st.environment_peer .keepaliveDropPercent) (by decide)

theorem outerMtuVar_eq_ok {n : UInt16} :
    numberVar st.environment "GUTD_OUTER_MTU" "1500" parseU16 = .ok n ↔ numberOr st.outerMtu 1500 parseU16 = .ok n := by
  rw [numberOr_eq_ok]
  exact numberVar_eq_ok rfl (by decide)

theorem defaultPolicyVar_eq_ok {policy : XdpDefaultPolicy} :
    defaultPolicyVar st.environment = .ok policy ↔
      (∀ v, st.peer .defaultPolicy = some v → Spelled .defaultPolicy v) ∧ policy = (builderOf st.envValues).defaultPolicy := by
  have looked : st.environment "GUTD_DEFAULT_POLICY" = st.peer .defaultPolicy := st.environment_peer .defaultPolicy
  rw [defaultPolicyVar, looked]
  exact choice_eq_ok (by decide)

theorem obfsVar_eq_ok {mode : ObfsMode} :
    obfsVar st.environment = .ok mode ↔
      (∀ v, st.peer .obfs = some v → Spelled .obfs v) ∧ mode = (builderOf st.envValues).obfs := by
  have looked : st.environment "GUTD_OBFS" = st.peer .obfs := st.environment_peer .obfs
  rw [obfsVar, looked]
  exact choice_eq_ok (by decide)

theorem statsVar_eq_ok : numberVar st.environment "GUTD_STATS_INTERVAL" "5" parseU32 = .ok 5 := by
  have absent : st.environment "GUTD_STATS_INTERVAL" = none := st.environment_absent (by decide) (by decide)
  exact (numberVar_eq_ok absent (by decide)).mpr ⟨nofun, rfl⟩

theorem spelled_iff :
    (∀ s v, st.envValues s = some v → Spelled s v) ↔
      (∀ v, st.peer .peerIp = some v → Spelled .peerIp v) ∧ (∀ v, st.envValues .bindIp = some v → Spelled .bindIp v) ∧
      (∀ v, st.peer .ports = some v → Spelled .ports v) ∧ (∀ v, st.peer .peerPorts = some v → Spelled .peerPorts v) ∧
      (∀ v, st.peer .key = some v → Spelled .key v) ∧ (∀ v, st.peer .mtu = some v → Spelled .mtu v) ∧
      (∀ v, st.peer .defaultPolicy = some v → Spelled .defaultPolicy v) ∧
      (∀ v, st.peer .keepaliveDropPercent = some v → Spelled .keepaliveDropPercent v) ∧
      (∀ v, st.peer .obfs = some v → Spelled .obfs v) := by
  constructor
  · intro all
    exact ⟨all .peerIp, all .bindIp, all .ports, all .peerPorts, all .key, all .mtu, all .defaultPolicy,
      all .keepaliveDropPercent, all .obfs⟩
  · rintro ⟨peerIp, bindIp, ports, peerPorts, key, mtu, policy, keepalive, obfs⟩ s
    cases s with
    | peerIp => exact peerIp
    | bindIp => exact bindIp
    | ports => exact ports
    | peerPorts => exact peerPorts
    | key => exact key
    | mtu => exact mtu
    | defaultPolicy => exact policy
    | keepaliveDropPercent => exact keepalive
    | obfs => exact obfs
    | passphrase | address | responder | name | nic | ownHttp3 | sni | wgHost => exact fun _ _ => trivial

theorem loadConfigFromEnv_eq_ok (plain : ∀ s v, st.peer s = some v → Plain v) {c : Config} :
    loadConfigFromEnv st.environment = .ok c ↔
      ∃ outerMtu, numberOr st.outerMtu 1500 parseU16 = .ok outerMtu ∧ (∀ s v, st.envValues s = some v → Spelled s v) ∧
        ∃ peer, (builderOf st.envValues).build outerMtu 0 = .ok peer ∧ singlePeer outerMtu peer = c := by
  have look (s : PeerSetting) := st.environment_peer s
  have name : st.environment "GUTD_NAME" = st.peer .name := look .name
  have nic : st.environment "GUTD_NIC" = st.peer .nic := look .nic
  have address : st.environment "GUTD_ADDRESS" = st.peer .address := look .address
  have responder : st.environment "GUTD_RESPONDER" = st.peer .responder := look .responder
  have ownHttp3 : st.environment "GUTD_OWN_HTTP3" = st.peer .ownHttp3 := look .ownHttp3
  have wgHost : st.environment "GUTD_WG_HOST" = st.peer .wgHost := look .wgHost
  have sni : st.environment "GUTD_SNI" = st.peer .sni := look .sni
  have absent (name : String) (other : name ≠ "GUTD_OUTER_MTU")
    (unknown : PeerSetting.all.find? (·.envName = name) = none) := st.environment_absent other unknown
  have sipDomain := absent "GUTD_SIP_DOMAIN" (by decide) (by decide)
  have serviceName := absent "GUTD_SERVICE_NAME" (by decide) (by decide)
  have bindPort := absent "GUTD_BIND_PORT" (by decide) (by decide)
  have userspaceOnly := absent "GUTD_USERSPACE_ONLY" (by decide) (by decide)
  have statFile := absent "GUTD_STAT_FILE" (by decide) (by decide)
  rw [loadConfigFromEnv, spelled_iff]
  simp only [name, nic, address, responder, ownHttp3, wgHost, sni, sipDomain, serviceName, bindPort, userspaceOnly, statFile,
    Option.or_none, Option.map_none, Option.bind_none, Option.getD_none]
  constructor
  · intro loaded
    obtain ⟨⟨peerIp, dynamic⟩, peerIpVar, loaded⟩ := bind_eq_ok.mp loaded
    obtain ⟨bindIp, bindIpVar, loaded⟩ := bind_eq_ok.mp loaded
    obtain ⟨ports, portsVar, loaded⟩ := bind_eq_ok.mp loaded
    obtain ⟨peerPorts, peerPortsVar, loaded⟩ := bind_eq_ok.mp loaded
    obtain ⟨key, keyVar, loaded⟩ := bind_eq_ok.mp loaded
    obtain ⟨mtu, mtuVar, loaded⟩ := bind_eq_ok.mp loaded
    obtain ⟨outerMtu, outerMtuVar, loaded⟩ := bind_eq_ok.mp loaded
    obtain ⟨policy, policyVar, loaded⟩ := bind_eq_ok.mp loaded
    obtain ⟨percent, percentVar, loaded⟩ := bind_eq_ok.mp loaded
    obtain ⟨obfs, obfsVar, loaded⟩ := bind_eq_ok.mp loaded
    obtain ⟨media, loaded⟩ := rejectIf_bind_eq_ok.mp loaded
    rw [statsVar_eq_ok, bind_ok] at loaded
    obtain ⟨spelledIp, peerIpIs, rfl⟩ := (peerIpVar_eq_ok plain).mp peerIpVar
    obtain ⟨spelledBind, rfl⟩ := bindIpVar_eq_ok.mp bindIpVar
    obtain ⟨spelledPorts, portsAre⟩ := portsVar_eq_ok.mp portsVar
    obtain ⟨spelledPeerPorts, rfl⟩ := peerPortsVar_eq_ok.mp peerPortsVar
    obtain ⟨spelledKey, keyIs⟩ := (keyVar_eq_ok plain).mp keyVar
    obtain ⟨spelledMtu, rfl⟩ := mtuVar_eq_ok.mp mtuVar
    obtain ⟨spelledPolicy, rfl⟩ := defaultPolicyVar_eq_ok.mp policyVar
    obtain ⟨spelledPercent, rfl⟩ := keepaliveVar_eq_ok.mp percentVar
    obtain ⟨spelledObfs, rfl⟩ := obfsVar_eq_ok.mp obfsVar
    refine ⟨outerMtu, outerMtuVar_eq_ok.mp outerMtuVar, ⟨spelledIp, spelledBind, spelledPorts, spelledPeerPorts, spelledKey, spelledMtu,
      spelledPolicy, spelledPercent, spelledObfs⟩, _, PeerBuilder.build_eq_ok.mpr ⟨peerIp, ports, key,
      ⟨peerIpIs, portsAre, media, keyIs⟩, rfl⟩, ?_⟩
    rw [← Except.ok.inj loaded]
    rfl
  · rintro ⟨outerMtu, mtu, ⟨spelledIp, spelledBind, spelledPorts, spelledPeerPorts, spelledKey, spelledMtu,
      spelledPolicy, spelledPercent, spelledObfs⟩, peer, built, rfl⟩
    obtain ⟨peerIp, ports, key, builds, rfl⟩ := PeerBuilder.build_eq_ok.mp built
    refine bind_eq_ok.mpr ⟨_, (peerIpVar_eq_ok plain).mpr ⟨spelledIp, builds.address, rfl⟩, ?_⟩
    refine bind_eq_ok.mpr ⟨_, bindIpVar_eq_ok.mpr ⟨spelledBind, rfl⟩, ?_⟩
    refine bind_eq_ok.mpr ⟨_, portsVar_eq_ok.mpr ⟨spelledPorts, builds.own⟩, ?_⟩
    refine bind_eq_ok.mpr ⟨_, peerPortsVar_eq_ok.mpr ⟨spelledPeerPorts, rfl⟩, ?_⟩
    refine bind_eq_ok.mpr ⟨_, (keyVar_eq_ok plain).mpr ⟨spelledKey, builds.secret⟩, ?_⟩
    refine bind_eq_ok.mpr ⟨_, mtuVar_eq_ok.mpr ⟨spelledMtu, rfl⟩, ?_⟩
    refine bind_eq_ok.mpr ⟨_, outerMtuVar_eq_ok.mpr mtu, ?_⟩
    refine bind_eq_ok.mpr ⟨_, defaultPolicyVar_eq_ok.mpr ⟨spelledPolicy, rfl⟩, ?_⟩
    refine bind_eq_ok.mpr ⟨_, keepaliveVar_eq_ok.mpr ⟨spelledPercent, rfl⟩, ?_⟩
    refine bind_eq_ok.mpr ⟨_, obfsVar_eq_ok.mpr ⟨spelledObfs, rfl⟩, ?_⟩
    refine rejectIf_bind_eq_ok.mpr ⟨builds.media, ?_⟩
    rw [statsVar_eq_ok, bind_ok]
    rfl

end Environment

theorem deriveKey_total (passphrase : List Char) : ∃ key, deriveKey passphrase = .ok key := by
  obtain ⟨okm, expanded, -⟩ := hkdfExpand_length (hkdfExtract hkdfSalt (utf8 passphrase)) hkdfInfo 32 (by decide)
  exact ⟨keyBytes okm, by rw [deriveKey, expanded]; rfl⟩

structure Given (values : PeerSetting → Option (List Char)) : Prop where
  peerIp : (values .peerIp).isSome
  ports : (values .ports).isSome
  secret : (values .key).isSome ∨ (values .passphrase).isSome
  media : values .obfs = some "sip".toList →
    ∀ v, (values .peerPorts).or (values .ports) = some v → 2 ≤ (v.splitOn ',').length

theorem length_parsePorts {text : List Char → IntError → String} {v : List Char} {ports : List UInt16}
    (parsed : parsePorts text v = .ok ports) : ports.length = (v.splitOn ',').length := by
  rw [parsePorts] at parsed
  generalize v.splitOn ',' = parts at parsed ⊢
  induction parts generalizing ports with
  | nil =>
      cases parsed
      rfl
  | cons part parts ih =>
      rw [List.mapM_cons] at parsed
      obtain ⟨port, -, parsed⟩ := bind_eq_ok.mp parsed
      obtain ⟨rest, read, same⟩ := bind_eq_ok.mp parsed
      cases same
      rw [List.length_cons, List.length_cons, ih read]

theorem obfsOf_sip {v : List Char} : obfsOf v = some .sip ↔ v = "sip".toList := by
  have others : "sip".toList ≠ "quic".toList ∧ ¬("sip".toList = "gut".toList ∨ "sip".toList = "gost".toList ∨
      "sip".toList = "noise".toList) ∧ "sip".toList ≠ "syslog".toList := by decide
  constructor
  · intro chosen
    unfold obfsOf at chosen
    split_ifs at chosen with quic gut syslog sip
    · cases chosen
    · cases chosen
    · cases chosen
    · exact sip
  · rintro rfl
    rw [obfsOf, if_neg others.1, if_neg others.2.1, if_neg others.2.2, if_pos rfl]

theorem builds_iff {values : PeerSetting → Option (List Char)} (spelled : ∀ s v, values s = some v → Spelled s v) :
    (∃ peerIp ports key, (builderOf values).Builds peerIp ports key) ↔ Given values := by
  have sip : (builderOf values).obfs = .sip ↔ values .obfs = some "sip".toList := by
    simp only [builderOf]
    cases values .obfs with
    | none => simp
    | some v =>
        rw [Option.some.injEq, ← obfsOf_sip]
        cases chosen : obfsOf v <;> simp [chosen]
  have count {v : List Char} {ports : List UInt16} (text : (values .peerPorts).or (values .ports) = some v)
      (own : (builderOf values).ports = some ports) :
      ((builderOf values).peerPorts.getD ports).length = (v.splitOn ',').length := by
    simp only [builderOf] at own ⊢
    cases peer : values .peerPorts with
    | some w =>
        obtain ⟨peerPorts, read⟩ := spelled .peerPorts w peer
        rw [peer] at text
        cases text
        simpa [read, Except.toOption] using length_parsePorts ((peerPortsOf_eq_ok (invalidPort "")).mp read).1
    | none =>
        rw [peer, Option.none_or] at text
        rw [text, Option.bind_some, toOption_eq_some] at own
        simpa using length_parsePorts ((portsOf_eq_ok (invalidPort "")).mp own).1
  constructor
  · rintro ⟨peerIp, ports, key, builds⟩
    refine ⟨?_, ?_, ?_, fun isSip v text => Nat.not_lt.mp fun few => ?_⟩
    · have address := builds.address
      cases value : values .peerIp with
      | none => simp [PeerBuilder.peerIpOf, builderOf, value, orReject] at address
      | some v => rfl
    · have own := builds.own
      cases value : values .ports with
      | none => simp [builderOf, value] at own
      | some v => rfl
    · have secret := builds.secret
      cases value : values .key with
      | none =>
          cases phrase : values .passphrase with
          | none => simp [PeerBuilder.keyOf, builderOf, value, phrase, reject] at secret
          | some p => exact .inr rfl
      | some v => exact .inl rfl
    · exact builds.media ⟨sip.mpr isSip, by rwa [count text builds.own]⟩
  · intro given
    obtain ⟨ip, ipText⟩ := Option.isSome_iff_exists.mp given.peerIp
    obtain ⟨own, ownText⟩ := Option.isSome_iff_exists.mp given.ports
    obtain ⟨ports, readPorts⟩ := spelled .ports own ownText
    have address : ∃ peerIp, (builderOf values).peerIpOf = .ok peerIp := by
      simp only [PeerBuilder.peerIpOf, builderOf, ipText]
      by_cases dynamic : isDynamic ip
      · exact ⟨unspecified, by simp [dynamic]⟩
      · obtain ⟨peerIp, parsed⟩ := (spelled .peerIp ip ipText).resolve_left dynamic
        exact ⟨peerIp, by simp [dynamic, parsed]⟩
    have secret : ∃ key, (builderOf values).keyOf = .ok key := by
      simp only [PeerBuilder.keyOf, builderOf]
      cases value : values .key with
      | some hex =>
          obtain ⟨key, read⟩ := spelled .key hex value
          exact ⟨key, by simp [read, Except.toOption]⟩
      | none =>
          obtain ⟨phrase, text⟩ := Option.isSome_iff_exists.mp (given.secret.resolve_left (by simp [value]))
          obtain ⟨key, derived⟩ := deriveKey_total phrase
          exact ⟨key, by simp [text, derived, unwrapped]⟩
    obtain ⟨peerIp, address⟩ := address
    obtain ⟨key, secret⟩ := secret
    have ownIs : (builderOf values).ports = some ports := by simp [builderOf, ownText, readPorts, Except.toOption]
    refine ⟨peerIp, ports, key, address, ownIs, fun few => ?_, secret⟩
    obtain ⟨v, text⟩ : ∃ v, (values .peerPorts).or (values .ports) = some v := by
      cases values .peerPorts with
      | none => exact ⟨own, ownText⟩
      | some v => exact ⟨v, rfl⟩
    have enough := given.media (sip.mp few.1) v text
    rw [count text ownIs] at few
    omega

structure Settings.Complete (st : Settings) : Prop where
  outerMtu : ∀ v, st.outerMtu = some v → ∃ n, parseU16 v = .ok n
  spelled : ∀ s v, st.peer s = some v → Spelled s v ∨ (s = .bindIp ∧ v = [])
  given : Given st.peer

structure Settings.Alike (st : Settings) : Prop where
  sni : (st.peer .sni).isSome
  bindIp : st.peer .bindIp ≠ some []
  address : st.peer .address ≠ some []
  nic : st.peer .nic ≠ some []
  keepalive : ∀ v n, st.peer .keepaliveDropPercent = some v → parseU8 v = .ok n → n ≤ 100

def Agree : Parsed Config → Parsed Config → Prop
  | .ok c, .ok d => c.peers = d.peers ∧ c.global = d.global
  | .error _, .error _ => True
  | .ok _, .error _ => False
  | .error _, .ok _ => False

section Agreement

variable {st : Settings} {order : List PeerSetting}

theorem filter_notBlank {value : Option (List Char)} (plain : ∀ v, value = some v → Plain v) :
    value.filter notBlank = if value = some [] then none else value := by
  cases value with
  | none => rfl
  | some v => simp [Option.filter, notBlank, (plain v rfl).trimmed]

theorem envValues_spelled (plain : ∀ s v, st.peer s = some v → Plain v) :
    (∀ s v, st.envValues s = some v → Spelled s v) ↔ ∀ s v, st.peer s = some v → Spelled s v ∨ (s = .bindIp ∧ v = []) := by
  have bindIp : st.envValues .bindIp = if st.peer .bindIp = some [] then none else st.peer .bindIp :=
    filter_notBlank (plain .bindIp)
  constructor
  · intro spelled s v value
    cases s with
    | bindIp =>
        by_cases blank : v = []
        · exact .inr ⟨rfl, blank⟩
        · refine .inl (spelled .bindIp v ?_)
          rw [bindIp, value, if_neg (by simpa using blank)]
    | passphrase | address | responder | name | nic | ownHttp3 | sni | wgHost => exact .inl trivial
    | peerIp | ports | peerPorts | key | mtu | defaultPolicy | keepaliveDropPercent | obfs => exact .inl (spelled _ v value)
  · intro spelled s v value
    cases s with
    | bindIp =>
        rw [bindIp] at value
        split_ifs at value with blank
        refine (spelled .bindIp v value).resolve_right fun empty => blank ?_
        rw [value, empty.2]
    | passphrase | address | responder | name | nic | ownHttp3 | sni | wgHost => exact trivial
    | peerIp | ports | peerPorts | key | mtu | defaultPolicy | keepaliveDropPercent | obfs =>
        exact (spelled _ v value).resolve_right fun other => nomatch other.1

theorem envValues_eq (plain : ∀ s v, st.peer s = some v → Plain v) (alike : st.Alike) : st.envValues = st.peer := by
  have kept (s : PeerSetting) (some : st.peer s ≠ some []) : (st.peer s).filter notBlank = st.peer s := by
    rw [filter_notBlank (plain s), if_neg some]
  funext s
  cases s with
  | bindIp => exact kept .bindIp alike.bindIp
  | address => exact kept .address alike.address
  | nic => exact kept .nic alike.nic
  | sni =>
      obtain ⟨v, value⟩ := Option.isSome_iff_exists.mp alike.sni
      simp [Settings.envValues, value]
  | peerIp | ports | peerPorts | key | passphrase | responder | name | mtu | defaultPolicy | keepaliveDropPercent | ownHttp3 |
      obfs | wgHost => rfl

theorem given_envValues : Given st.envValues ↔ Given st.peer :=
  ⟨fun given => ⟨given.peerIp, given.ports, given.secret, given.media⟩,
    fun given => ⟨given.peerIp, given.ports, given.secret, given.media⟩⟩

theorem loadConfigFromEnv_accepts (plain : ∀ s v, st.peer s = some v → Plain v) :
    (∃ c, loadConfigFromEnv st.environment = .ok c) ↔ st.Complete := by
  constructor
  · rintro ⟨c, loaded⟩
    obtain ⟨outerMtu, mtu, spelled, peer, built, -⟩ := (loadConfigFromEnv_eq_ok plain).mp loaded
    obtain ⟨peerIp, ports, key, builds, -⟩ := PeerBuilder.build_eq_ok.mp built
    exact ⟨(numberOr_eq_ok.mp mtu).1, (envValues_spelled plain).mp spelled,
      given_envValues.mp ((builds_iff spelled).mp ⟨peerIp, ports, key, builds⟩)⟩
  · intro complete
    have spelled := (envValues_spelled plain).mpr complete.spelled
    obtain ⟨peerIp, ports, key, builds⟩ := (builds_iff spelled).mpr (given_envValues.mpr complete.given)
    exact ⟨_, (loadConfigFromEnv_eq_ok plain).mpr ⟨_, numberOr_eq_ok.mpr ⟨complete.outerMtu, rfl⟩, spelled, _,
      PeerBuilder.build_eq_ok.mpr ⟨peerIp, ports, key, builds, rfl⟩, rfl⟩⟩

variable (all : order.Perm PeerSetting.all) (plainMtu : ∀ v, st.outerMtu = some v → Plain v)
  (plain : ∀ s v, st.peer s = some v → Plain v)

include all plainMtu plain

theorem parseConfig_file_accepts {c : Config} (accepted : parseConfig (st.file order) = .ok c) :
    st.Complete ∧ st.peer .bindIp ≠ some [] ∧
      ∀ v n, st.peer .keepaliveDropPercent = some v → parseU8 v = .ok n → n ≤ 100 := by
  obtain ⟨outerMtu, mtu, readable, peer, built, -⟩ := (parseConfig_file_eq_ok all plainMtu plain).mp accepted
  obtain ⟨peerIp, ports, key, builds, -⟩ := PeerBuilder.build_eq_ok.mp built
  have spelled (s : PeerSetting) (v : List Char) (value : st.peer s = some v) := (readable s v value).1
  refine ⟨⟨(numberOr_eq_ok.mp mtu).1, fun s v value => .inl (spelled s v value),
    (builds_iff spelled).mp ⟨peerIp, ports, key, builds⟩⟩, fun blank => ?_, fun v n value => (readable _ v value).2 rfl n⟩
  have none : parseIpAddr (utf8 []) = none := by decide
  obtain ⟨ip, parsed⟩ := spelled .bindIp [] blank
  rw [none] at parsed
  cases parsed

theorem loaders_alike (complete : st.Complete) (alike : st.Alike) :
    ∃ c, loadConfigFromEnv st.environment = .ok c ∧ parseConfig (st.file order) = .ok c := by
  obtain ⟨c, loaded⟩ := (loadConfigFromEnv_accepts plain).mpr complete
  obtain ⟨outerMtu, mtu, -, built⟩ := (loadConfigFromEnv_eq_ok plain).mp loaded
  rw [envValues_eq plain alike] at built
  have readable : ∀ s v, st.peer s = some v → Readable s v := by
    intro s v value
    refine ⟨(complete.spelled s v value).resolve_right fun empty => ?_, fun percent n parsed => ?_⟩
    · obtain ⟨rfl, rfl⟩ := empty
      exact alike.bindIp value
    · cases percent
      exact alike.keepalive v n value parsed
  exact ⟨c, loaded, (parseConfig_file_eq_ok all plainMtu plain).mpr ⟨outerMtu, mtu, readable, built⟩⟩

theorem alike_of_same_peers {c d : Config} (loaded : loadConfigFromEnv st.environment = .ok c)
    (accepted : parseConfig (st.file order) = .ok d) (same : c.peers = d.peers) : st.Alike := by
  obtain ⟨-, bindIp, keepalive⟩ := parseConfig_file_accepts all plainMtu plain accepted
  obtain ⟨_, -, -, envPeer, envBuilt, rfl⟩ := (loadConfigFromEnv_eq_ok plain).mp loaded
  obtain ⟨_, -, -, filePeer, fileBuilt, rfl⟩ := (parseConfig_file_eq_ok all plainMtu plain).mp accepted
  obtain ⟨_, _, _, -, rfl⟩ := PeerBuilder.build_eq_ok.mp envBuilt
  obtain ⟨_, _, _, -, rfl⟩ := PeerBuilder.build_eq_ok.mp fileBuilt
  have peer := List.head_eq_of_cons_eq same
  refine ⟨?_, bindIp, fun blank => ?_, fun blank => ?_, keepalive⟩
  · have domain := congrArg PeerConfig.sipDomain peer
    cases value : st.peer .sni with
    | some v => rfl
    | none =>
        simp only [PeerBuilder.record, builderOf, Settings.envValues, value] at domain
        exact absurd domain (by decide)
  · have address := congrArg PeerConfig.address peer
    have dropped : st.envValues .address = none := (filter_notBlank (plain .address)).trans (if_pos blank)
    simp only [PeerBuilder.record, builderOf, dropped, blank, Option.map_none, Option.getD_none, Option.map_some,
      Option.getD_some] at address
    split_ifs at address <;> exact absurd address (by decide)
  · have nic := congrArg PeerConfig.nic peer
    have dropped : st.envValues .nic = none := (filter_notBlank (plain .nic)).trans (if_pos blank)
    simp only [PeerBuilder.record, builderOf, dropped, blank, Option.map_none, Option.map_some] at nic
    cases nic

-- blank values and a missing service name are read differently, and only the file limits the share of dropped
-- keepalives
theorem loaders_agree_iff :
    Agree (loadConfigFromEnv st.environment) (parseConfig (st.file order)) ↔ (st.Complete → st.Alike) := by
  constructor
  · intro agree complete
    obtain ⟨c, loaded⟩ := (loadConfigFromEnv_accepts plain).mpr complete
    rw [loaded] at agree
    cases accepted : parseConfig (st.file order) with
    | error e =>
        rw [accepted] at agree
        exact agree.elim
    | ok d =>
        rw [accepted] at agree
        exact alike_of_same_peers all plainMtu plain loaded accepted agree.1
  · intro alike
    by_cases complete : st.Complete
    · obtain ⟨c, loaded, accepted⟩ := loaders_alike all plainMtu plain complete (alike complete)
      rw [loaded, accepted]
      exact ⟨rfl, rfl⟩
    · cases loaded : loadConfigFromEnv st.environment with
      | ok c => exact absurd ((loadConfigFromEnv_accepts plain).mp ⟨c, loaded⟩) complete
      | error e =>
          cases accepted : parseConfig (st.file order) with
          | ok d => exact absurd (parseConfig_file_accepts all plainMtu plain accepted).1 complete
          | error e' => exact trivial

end Agreement

def sampleSettings : Settings :=
  { outerMtu := none
    peer := fun s =>
      match s with
      | .peerIp => some "dynamic".toList
      | .ports => some "443".toList
      | .key => some "000102030405060708090a0b0c0d0e0f101112131415161718191a1b1c1d1e1f".toList
      | _ => none }

theorem sampleSettings_plain (s : PeerSetting) (v : List Char) (value : sampleSettings.peer s = some v) : Plain v := by
  cases s <;> cases value <;> refine ⟨?_, ?_, ?_, ?_⟩ <;> decide

theorem loaders_agree_iff_sample :
    Agree (loadConfigFromEnv sampleSettings.environment) (parseConfig (sampleSettings.file PeerSetting.all)) ↔
      (sampleSettings.Complete → sampleSettings.Alike) :=
  loaders_agree_iff (List.Perm.refl _) nofun sampleSettings_plain

-- without a service name the environment takes `nginx` and the file takes `127.0.0.1`
theorem loaders_disagree :
    ∃ c d, loadConfigFromEnv sampleSettings.environment = .ok c ∧ parseConfig (sampleSettings.file PeerSetting.all) = .ok d ∧
      c.peers ≠ d.peers := by
  have fromEnv : (loadConfigFromEnv sampleSettings.environment).toOption.isSome = true := by decide
  have fromFile : (parseConfig (sampleSettings.file PeerSetting.all)).toOption.isSome = true := by decide
  obtain ⟨c, loaded⟩ := Option.isSome_iff_exists.mp fromEnv
  obtain ⟨d, accepted⟩ := Option.isSome_iff_exists.mp fromFile
  rw [toOption_eq_some] at loaded accepted
  refine ⟨c, d, loaded, accepted, fun same => ?_⟩
  have alike := @alike_of_same_peers sampleSettings _ (List.Perm.refl _) nofun sampleSettings_plain _ _ loaded accepted same
  exact absurd alike.sni (by decide)

end Gutd
