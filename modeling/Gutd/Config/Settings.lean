import Gutd.Config.Sections

set_option autoImplicit false

namespace Gutd

open Bytes Checked Net Str

inductive PeerSetting where
  | peerIp
  | bindIp
  | ports
  | peerPorts
  | key
  | passphrase
  | address
  | responder
  | name
  | mtu
  | nic
  | defaultPolicy
  | keepaliveDropPercent
  | ownHttp3
  | obfs
  | sni
  | wgHost
  deriving DecidableEq

namespace PeerSetting

def all : List PeerSetting :=
  [peerIp, bindIp, ports, peerPorts, key, passphrase, address, responder, name, mtu, nic, defaultPolicy, keepaliveDropPercent,
    ownHttp3, obfs, sni, wgHost]

def keyName : PeerSetting → String
  | peerIp => "peer_ip"
  | bindIp => "bind_ip"
  | ports => "ports"
  | peerPorts => "peer_ports"
  | key => "key"
  | passphrase => "passphrase"
  | address => "address"
  | responder => "responder"
  | name => "name"
  | mtu => "mtu"
  | nic => "nic"
  | defaultPolicy => "default_policy"
  | keepaliveDropPercent => "keepalive_drop_percent"
  | ownHttp3 => "own_http3"
  | obfs => "obfs"
  | sni => "sni"
  | wgHost => "wg_host"

def envName : PeerSetting → String
  | peerIp => "GUTD_PEER_IP"
  | bindIp => "GUTD_BIND_IP"
  | ports => "GUTD_PORTS"
  | peerPorts => "GUTD_PEER_PORTS"
  | key => "GUTD_KEY"
  | passphrase => "GUTD_PASSPHRASE"
  | address => "GUTD_ADDRESS"
  | responder => "GUTD_RESPONDER"
  | name => "GUTD_NAME"
  | mtu => "GUTD_MTU"
  | nic => "GUTD_NIC"
  | defaultPolicy => "GUTD_DEFAULT_POLICY"
  | keepaliveDropPercent => "GUTD_KEEPALIVE_DROP_PCT"
  | ownHttp3 => "GUTD_OWN_HTTP3"
  | obfs => "GUTD_OBFS"
  | sni => "GUTD_SNI"
  | wgHost => "GUTD_WG_HOST"

def peerKey : PeerSetting → PeerKey
  | peerIp => .peerIp
  | bindIp => .bindIp
  | ports => .ports
  | peerPorts => .peerPorts
  | key => .key
  | passphrase => .passphrase
  | address => .address
  | responder => .responder
  | name => .name
  | mtu => .mtu
  | nic => .nic
  | defaultPolicy => .defaultPolicy
  | keepaliveDropPercent => .keepaliveDropPercent
  | ownHttp3 => .ownHttp3
  | obfs => .obfs
  | sni => .sipDomain
  | wgHost => .wgHost

end PeerSetting

structure Settings where
  outerMtu : Option (List Char)
  peer : PeerSetting → Option (List Char)

def Settings.environment (st : Settings) : Environment := fun name =>
  if name = "GUTD_OUTER_MTU" then st.outerMtu else (PeerSetting.all.find? (·.envName = name)).bind st.peer

def sectionLine (name : String) : List Char := '[' :: name.toList ++ [']'] ++ ['\n']

def keyLine (keyName : String) (value : Option (List Char)) : List Char :=
  match value with
  | some v => keyName.toList ++ ([' ', '=', ' '] ++ v) ++ ['\n']
  | none => []

def Settings.file (st : Settings) (order : List PeerSetting) : List Char :=
  sectionLine "global" ++ (keyLine "outer_mtu" st.outerMtu ++ (sectionLine "peer" ++
    order.flatMap fun s => keyLine s.keyName (st.peer s)))

structure Plain (value : List Char) : Prop where
  trimmed : trim value = value
  comment : '#' ∉ value
  quote : '"' ∉ value
  line : '\n' ∉ value

theorem valueOf_plain {value : List Char} (plain : Plain value) : valueOf value = value := by
  have hash : value.idxOf? '#' = none := List.idxOf?_eq_none_iff.mpr plain.comment
  unfold valueOf
  split
  · exact absurd List.mem_cons_self plain.quote
  · rw [hash]

theorem lineStep_keyLine {keyName value : List Char} (s : FileState) (plain : Plain value) (name : KeyName keyName) :
    lineStep s (stripCarriageReturn (keyName ++ ([' ', '=', ' '] ++ value))) = assign keyName value s := by
  rw [lineStep_eq_readStep, readLine_stripCarriageReturn, readLine_keyLine name, plain.trimmed, valueOf_plain plain]
  rfl

def assignOpt (keyName : String) (value : Option (List Char)) (s : FileState) : Parsed FileState :=
  match value with
  | some v => assign keyName.toList v s
  | none => pure s

theorem run_keyLine {keyName : String} {value : Option (List Char)} (name : KeyName keyName.toList)
    (plain : ∀ v, value = some v → Plain v) (rest : List Char) (s : FileState) :
    (lines (keyLine keyName value ++ rest)).foldlM lineStep s =
      (do let s ← assignOpt keyName value s; (lines rest).foldlM lineStep s) := by
  cases value with
  | none => rfl
  | some v =>
      have plain := plain v rfl
      have first := @lines_cons _ rest (name.oneLine plain.line)
      rw [keyLine, List.append_assoc, List.singleton_append, first, List.foldlM_cons, lineStep_keyLine s plain name]
      rfl

theorem PeerSetting.keyName_spec (s : PeerSetting) :
    KeyName s.keyName.toList ∧ PeerKey.ofName s.keyName.toList = some s.peerKey := by
  refine ⟨⟨?_, ?_, ?_, ?_, ?_⟩, ?_⟩ <;> cases s <;> decide

def builderStep (values : PeerSetting → Option (List Char)) (b : PeerBuilder) (s : PeerSetting) : Parsed PeerBuilder :=
  match values s with
  | some v => setPeer s.peerKey v b
  | none => pure b

theorem run_peerLines {values : PeerSetting → Option (List Char)} {s : FileState} {b : PeerBuilder}
    (plain : ∀ setting v, values setting = some v → Plain v) (inside : s.currentSection = "peer".toList)
    (current : s.currentBuilder = some b) (order : List PeerSetting) :
    (lines (order.flatMap fun setting => keyLine setting.keyName (values setting))).foldlM lineStep s =
      (do let b ← order.foldlM (builderStep values) b; pure { s with currentBuilder := some b }) := by
  induction order generalizing s b with
  | nil =>
      change Except.ok s = Except.ok { s with currentBuilder := some b }
      rw [← current]
  | cons setting order ih =>
      obtain ⟨name, known⟩ := setting.keyName_spec
      have global : "peer".toList ≠ "global".toList := by decide
      rw [List.flatMap_cons, run_keyLine name (plain setting), List.foldlM_cons, builderStep]
      cases value : values setting with
      | none => exact ih inside current
      | some v =>
          rw [assignOpt, assign, inside, if_neg global, if_pos rfl, current, known]
          cases set : setPeer setting.peerKey v b with
          | error e => simp [set]
          | ok b' =>
              simp only [set, Option.getD_some, bind_ok, pure_eq_ok]
              exact ih rfl rfl

def numberOr {α : Type} (value : Option (List Char)) (default : α) (parse : List Char → Except IntError α) : Parsed α :=
  match value with
  | some v => parseInt parse v
  | none => pure default

def singlePeer (outerMtu : UInt16) (peer : PeerConfig) : Config :=
  { global := { outerMtu, userspaceOnly := false }
    runtime := { statsInterval := 5, statFile := "/run/gutd.stat" }
    peers := [peer] }

theorem finish_single (outerMtu : UInt16) (b : PeerBuilder) (current : List Char) :
    finish { outerMtu, currentBuilder := some b, currentSection := current } =
      (do let peer ← b.build outerMtu 0; pure (singlePeer outerMtu peer)) := by
  rw [finish, finalizePeer]
  change (do
    let s ← (do
      let peer ← b.build outerMtu 0
      pure ({ outerMtu, peers := [peer], currentSection := current } : FileState)); _) = _
  cases b.build outerMtu 0 with
  | error e => rfl
  | ok peer =>
      have names : checkNames [] [peer] = .ok () := by simp [checkNames, rejectIf]
      have free : peer.ports.find? (· ∈ ([] : List UInt16)) = none := List.find?_eq_none.mpr (by simp)
      have ports : checkPorts [] [peer] = .ok () := by
        rw [checkPorts, free]
        rfl
      simp only [bind_ok, pure_eq_ok, names, ports, singlePeer]
      rfl

theorem run_sectionLine {name : String} (whole : '\n' ∉ name.toList) (rest : List Char) (s : FileState) :
    (lines (sectionLine name ++ rest)).foldlM lineStep s =
      (do let s ← enterSection name.toList s; (lines rest).foldlM lineStep s) := by
  have line : '\n' ∉ '[' :: name.toList ++ [']'] := by simp [whole]
  have strip : stripCarriageReturn ('[' :: name.toList ++ [']']) = '[' :: name.toList ++ [']'] :=
    if_neg (by rw [List.getLast?_concat]; decide)
  have solid : trim ('[' :: name.toList ++ [']']) = '[' :: name.toList ++ [']'] := by
    refine stripped_of_ends (fun c first => ?_) fun c last => ?_
    · cases first
      decide
    · rw [List.getLast?_concat] at last
      cases last
      decide
  have entered : lineStep s ('[' :: name.toList ++ [']']) = enterSection name.toList s := by
    rw [lineStep]
    simp only [solid]
    rw [if_neg (by simp), if_pos ⟨by simp, List.getLast?_concat⟩]
    exact congrArg (enterSection · s) List.dropLast_concat
  rw [sectionLine, List.append_assoc, List.singleton_append, lines_cons line, strip, List.foldlM_cons, entered]

theorem assign_global {keyName value : List Char} {field : GlobalKey} {s : FileState} (inside : s.currentSection = "global".toList)
    (known : GlobalKey.ofName keyName = some field) : assign keyName value s = setGlobal field value s := by
  rw [assign, if_pos inside, known]

def globalState (outerMtu : UInt16) : FileState := { outerMtu, currentSection := "global".toList }

def peerState (outerMtu : UInt16) : FileState :=
  { outerMtu, currentBuilder := some {}, currentSection := "peer".toList }

theorem enterSection_global : enterSection "global".toList {} = .ok (globalState 1500) := by
  rw [enterSection, if_neg (by decide)]
  rfl

theorem enterSection_peer (outerMtu : UInt16) : enterSection "peer".toList (globalState outerMtu) = .ok (peerState outerMtu) := by
  rw [enterSection, if_pos rfl]
  rfl

theorem assignOpt_outerMtu (value : Option (List Char)) :
    assignOpt "outer_mtu" value (globalState 1500) = (do let outerMtu ← numberOr value 1500 parseU16; pure (globalState outerMtu)) := by
  cases value with
  | none => rfl
  | some v =>
      rw [assignOpt, assign_global rfl (by decide : GlobalKey.ofName "outer_mtu".toList = some .outerMtu)]
      rfl

theorem parseConfig_file {st : Settings} {order : List PeerSetting}
    (plainMtu : ∀ v, st.outerMtu = some v → Plain v) (plain : ∀ setting v, st.peer setting = some v → Plain v) :
    parseConfig (st.file order) = (do
      let outerMtu ← numberOr st.outerMtu 1500 parseU16
      let b ← order.foldlM (builderStep st.peer) {}
      let peer ← b.build outerMtu 0
      pure (singlePeer outerMtu peer)) := by
  have name : KeyName "outer_mtu".toList := by
    refine ⟨?_, ?_, ?_, ?_, ?_⟩ <;> decide
  rw [parseConfig, Settings.file, run_sectionLine (by decide), enterSection_global, bind_ok,
    run_keyLine name plainMtu, assignOpt_outerMtu]
  cases numberOr st.outerMtu 1500 parseU16 with
  | error e => simp only [bind_error]
  | ok outerMtu =>
      simp only [bind_ok, pure_eq_ok]
      rw [run_sectionLine (by decide), enterSection_peer, bind_ok, run_peerLines plain rfl rfl]
      cases order.foldlM (builderStep st.peer) {} with
      | error e => simp only [bind_error]
      | ok b => exact finish_single outerMtu b _

def builderOf (values : PeerSetting → Option (List Char)) : PeerBuilder :=
  { name := ((values .name).map String.ofList).getD "gut0"
    mtu := ((values .mtu).bind fun v => (parseU16 v).toOption).getD 1492
    nic := (values .nic).map String.ofList
    defaultPolicy := ((values .defaultPolicy).bind policyOf).getD .allow
    address := (values .address).map String.ofList
    bindIp := (values .bindIp).bind fun v => parseIpAddr (utf8 v)
    peerIp := (values .peerIp).bind fun v => if isDynamic v then none else parseIpAddr (utf8 v)
    dynamicPeer := (values .peerIp).any isDynamic
    responder := (values .responder).map isTrue
    ports := (values .ports).bind fun v => (portsOf v).toOption
    peerPorts := (values .peerPorts).bind fun v => (peerPortsOf v).toOption
    key := (values .key).bind fun v => (parseHexKey v).toOption
    passphrase := values .passphrase
    keepaliveDropPercent := ((values .keepaliveDropPercent).bind fun v => (parseU8 v).toOption).getD 30
    ownHttp3 := ((values .ownHttp3).map isTrue).getD true
    wgHost := (values .wgHost).map String.ofList
    sipDomain := values .sni
    obfs := ((values .obfs).bind obfsOf).getD .gut }

def Spelled : PeerSetting → List Char → Prop
  | .mtu, v => ∃ n, parseU16 v = .ok n
  | .defaultPolicy, v => ∃ policy, policyOf v = some policy
  | .bindIp, v => ∃ ip, parseIpAddr (utf8 v) = some ip
  | .peerIp, v => isDynamic v = true ∨ ∃ ip, parseIpAddr (utf8 v) = some ip
  | .ports, v => ∃ ports, portsOf v = .ok ports
  | .peerPorts, v => ∃ ports, peerPortsOf v = .ok ports
  | .key, v => ∃ k, parseHexKey v = .ok k
  | .keepaliveDropPercent, v => ∃ n, parseU8 v = .ok n
  | .obfs, v => ∃ mode, obfsOf v = some mode
  | .passphrase, _ | .address, _ | .responder, _ | .name, _ | .nic, _ | .ownHttp3, _ | .sni, _ | .wgHost, _ => True

def Readable (s : PeerSetting) (v : List Char) : Prop :=
  Spelled s v ∧ (s = .keepaliveDropPercent → ∀ n, parseU8 v = .ok n → n ≤ 100)

theorem parseInt_eq_ok {α : Type} {parse : List Char → Except IntError α} {v : List Char} {a : α} :
    parseInt parse v = .ok a ↔ parse v = .ok a := by
  rw [parseInt]
  cases parse v <;> simp [orMessage, reject]

theorem parseIp_eq_ok {v : List Char} {ip : IpAddr} : parseIp v = .ok ip ↔ parseIpAddr (utf8 v) = some ip := by
  rw [parseIp]
  cases parseIpAddr (utf8 v) <;> simp [reject]

theorem keepaliveOf_eq_ok {v : List Char} {n : UInt8} : keepaliveOf v = .ok n ↔ parseU8 v = .ok n ∧ n ≤ 100 := by
  rw [keepaliveOf, bind_eq_ok]
  constructor
  · rintro ⟨percent, parsed, checked⟩
    obtain ⟨small, same⟩ := rejectIf_bind_eq_ok.mp checked
    cases same
    exact ⟨parseInt_eq_ok.mp parsed, UInt8.not_lt.mp small⟩
  · rintro ⟨parsed, small⟩
    exact ⟨n, parseInt_eq_ok.mpr parsed, rejectIf_bind_eq_ok.mpr ⟨UInt8.not_lt.mpr small, rfl⟩⟩

theorem trimMatches_absent {c : Char} {s : List Char} (absent : c ∉ s) : trimMatches c s = s := by
  refine stripped_of_ends (fun b first same => absent ?_) fun b last same => absent ?_
  · exact of_decide_eq_true same ▸ List.mem_of_head? first
  · exact of_decide_eq_true same ▸ List.mem_of_getLast? last

theorem readable_of_setPeer {s : PeerSetting} {v : List Char} {b b' : PeerBuilder} (plain : Plain v)
    (set : setPeer s.peerKey v b = .ok b') : Readable s v := by
  cases s with
  | mtu =>
      obtain ⟨n, parsed, -⟩ := bind_eq_ok.mp set
      exact ⟨⟨n, parseInt_eq_ok.mp parsed⟩, nofun⟩
  | keepaliveDropPercent =>
      obtain ⟨n, parsed, -⟩ := bind_eq_ok.mp set
      obtain ⟨parsed, small⟩ := keepaliveOf_eq_ok.mp parsed
      refine ⟨⟨n, parsed⟩, fun _ m again => ?_⟩
      rw [parsed] at again
      cases again
      exact small
  | bindIp =>
      obtain ⟨ip, parsed, -⟩ := bind_eq_ok.mp set
      exact ⟨⟨ip, parseIp_eq_ok.mp parsed⟩, nofun⟩
  | peerIp =>
      refine ⟨?_, nofun⟩
      by_cases dynamic : isDynamic v
      · exact .inl dynamic
      · change (if isDynamic v then _ else _) = _ at set
        rw [if_neg dynamic] at set
        obtain ⟨ip, parsed, -⟩ := bind_eq_ok.mp set
        exact .inr ⟨ip, parseIp_eq_ok.mp parsed⟩
  | ports | peerPorts =>
      obtain ⟨ports, parsed, -⟩ := bind_eq_ok.mp set
      exact ⟨⟨ports, parsed⟩, nofun⟩
  | key =>
      obtain ⟨k, parsed, -⟩ := bind_eq_ok.mp set
      rw [plain.trimmed] at parsed
      exact ⟨⟨k, parsed⟩, nofun⟩
  | defaultPolicy | obfs =>
      obtain ⟨mode, parsed, -⟩ := bind_eq_ok.mp set
      exact ⟨⟨mode, orReject_eq_ok.mp parsed⟩, nofun⟩
  | passphrase | address | responder | name | nic | ownHttp3 | sni | wgHost => exact ⟨trivial, nofun⟩

theorem setPeer_builderOf {values : PeerSetting → Option (List Char)} {s : PeerSetting} {v : List Char} (fresh : values s = none)
    (plain : Plain v) (readable : Readable s v) :
    setPeer s.peerKey v (builderOf values) = .ok (builderOf (Function.update values s (some v))) := by
  obtain ⟨spelled, limited⟩ := readable
  cases s with
  | mtu =>
      obtain ⟨n, parsed⟩ := spelled
      have read := parseInt_eq_ok.mpr parsed
      simp [setPeer, PeerSetting.peerKey, read, builderOf, parsed, Except.toOption]
  | keepaliveDropPercent =>
      obtain ⟨n, parsed⟩ := spelled
      have read := keepaliveOf_eq_ok.mpr ⟨parsed, limited rfl n parsed⟩
      simp [setPeer, PeerSetting.peerKey, read, builderOf, parsed, Except.toOption]
  | bindIp =>
      obtain ⟨ip, parsed⟩ := spelled
      have read := parseIp_eq_ok.mpr parsed
      simp [setPeer, PeerSetting.peerKey, read, builderOf, parsed]
  | peerIp =>
      by_cases dynamic : isDynamic v
      · simp [setPeer, PeerSetting.peerKey, builderOf, dynamic, fresh]
      · obtain ⟨ip, parsed⟩ := spelled.resolve_left dynamic
        have read := parseIp_eq_ok.mpr parsed
        simp [setPeer, PeerSetting.peerKey, read, builderOf, parsed, dynamic, fresh]
  | ports | peerPorts =>
      obtain ⟨ports, read⟩ := spelled
      simp [setPeer, PeerSetting.peerKey, read, builderOf, Except.toOption]
  | key =>
      obtain ⟨k, read⟩ := spelled
      simp [setPeer, PeerSetting.peerKey, plain.trimmed, read, builderOf, Except.toOption]
  | defaultPolicy | obfs =>
      obtain ⟨mode, read⟩ := spelled
      simp [setPeer, PeerSetting.peerKey, read, builderOf]
  | passphrase | sni => simp [setPeer, PeerSetting.peerKey, trimMatches_absent plain.quote, builderOf]
  | address | responder | name | nic | ownHttp3 | wgHost => simp [setPeer, PeerSetting.peerKey, builderOf]

theorem run_builder {values done : PeerSetting → Option (List Char)} {order : List PeerSetting} (nodup : order.Nodup)
    (plain : ∀ s v, values s = some v → Plain v) (readable : ∀ s ∈ order, ∀ v, values s = some v → Readable s v)
    (fresh : ∀ s ∈ order, done s = none) :
    order.foldlM (builderStep values) (builderOf done) = .ok (builderOf fun s => if s ∈ order then values s else done s) := by
  induction order generalizing done with
  | nil => simp
  | cons s order ih =>
      obtain ⟨notAgain, nodup⟩ := List.nodup_cons.mp nodup
      have later (t : PeerSetting) (member : t ∈ order) : t ∈ s :: order := List.mem_cons_of_mem _ member
      rw [List.foldlM_cons, builderStep]
      cases value : values s with
      | none =>
          rw [pure_eq_ok, bind_ok, ih nodup (fun t member => readable t (later t member)) fun t member => fresh t (later t member)]
          congr 2
          funext t
          by_cases same : t = s
          · simp [same, notAgain, value, fresh s List.mem_cons_self]
          · simp [same]
      | some v =>
          have apart (t : PeerSetting) (member : t ∈ order) : t ≠ s := fun same => notAgain (same ▸ member)
          dsimp only
          rw [setPeer_builderOf (fresh s List.mem_cons_self) (plain s v value) (readable s List.mem_cons_self v value), bind_ok,
            ih nodup (fun t member => readable t (later t member))
              fun t member => (Function.update_of_ne (apart t member) _ _).trans (fresh t (later t member))]
          congr 2
          funext t
          by_cases same : t = s
          · simp [same, notAgain, value]
          · simp [same]

theorem readable_of_run {values : PeerSetting → Option (List Char)} {order : List PeerSetting} {b b' : PeerBuilder}
    (plain : ∀ s v, values s = some v → Plain v) (run : order.foldlM (builderStep values) b = .ok b') :
    ∀ s ∈ order, ∀ v, values s = some v → Readable s v := by
  induction order generalizing b with
  | nil => exact fun _ none => absurd none List.not_mem_nil
  | cons s order ih =>
      obtain ⟨next, step, rest⟩ := bind_eq_ok.mp run
      intro t member v value
      rcases List.mem_cons.mp member with rfl | later
      · rw [builderStep, value] at step
        exact readable_of_setPeer (plain t v value) step
      · exact ih rest t later v value

theorem parseConfig_file_eq_ok {st : Settings} {order : List PeerSetting} {c : Config} (complete : order.Perm PeerSetting.all)
    (plainMtu : ∀ v, st.outerMtu = some v → Plain v) (plain : ∀ s v, st.peer s = some v → Plain v) :
    parseConfig (st.file order) = .ok c ↔
      ∃ outerMtu, numberOr st.outerMtu 1500 parseU16 = .ok outerMtu ∧ (∀ s v, st.peer s = some v → Readable s v) ∧
        ∃ peer, (builderOf st.peer).build outerMtu 0 = .ok peer ∧ singlePeer outerMtu peer = c := by
  have every (s : PeerSetting) : s ∈ order := complete.mem_iff.mpr (by cases s <;> decide)
  have start : builderOf (fun _ => none) = {} := rfl
  have whole (readable : ∀ s v, st.peer s = some v → Readable s v) :
      order.foldlM (builderStep st.peer) {} = .ok (builderOf st.peer) := by
    have nodup : order.Nodup := complete.nodup_iff.mpr (by decide)
    have run := @run_builder st.peer (fun _ => none) order nodup plain (fun s _ => readable s) fun _ _ => rfl
    simpa only [start, every, if_true] using run
  rw [parseConfig_file plainMtu plain]
  constructor
  · intro accepted
    obtain ⟨outerMtu, mtu, accepted⟩ := bind_eq_ok.mp accepted
    obtain ⟨b, run, accepted⟩ := bind_eq_ok.mp accepted
    obtain ⟨peer, built, same⟩ := bind_eq_ok.mp accepted
    have readable (s : PeerSetting) := readable_of_run plain run s (every s)
    rw [whole readable] at run
    cases run
    exact ⟨outerMtu, mtu, readable, peer, built, Except.ok.inj same⟩
  · rintro ⟨outerMtu, mtu, readable, peer, built, same⟩
    rw [mtu, bind_ok, whole readable, bind_ok, built, bind_ok, ← same]
    rfl

end Gutd
