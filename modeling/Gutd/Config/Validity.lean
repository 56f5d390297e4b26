import Gutd.Config.Load

set_option autoImplicit false

namespace Gutd

open Bytes Checked Net Str

theorem rejectIf_bind_eq_ok {ε α : Type} {e : ε} {bad : Prop} [Decidable bad] {next : Except ε α} {a : α} :
    (do rejectIf e bad; next) = .ok a ↔ ¬bad ∧ next = .ok a := by
  by_cases failing : bad <;> simp [rejectIf, failing]

structure PeerBuilder.Valid (b : PeerBuilder) : Prop where
  ports : ∀ ports, b.ports = some ports → ports ≠ [] ∧ 0 ∉ ports
  peerPorts : ∀ ports, b.peerPorts = some ports → ports ≠ []
  keepalive : b.keepaliveDropPercent ≤ 100

structure PeerConfig.Valid (p : PeerConfig) : Prop where
  ports : p.ports ≠ [] ∧ 0 ∉ p.ports
  peerPorts : p.peerPorts ≠ []
  keepalive : p.keepaliveDropPercent ≤ 100
  media : p.obfs = .sip → 2 ≤ p.peerPorts.length
  learnt : p.dynamicPeer = true → p.peerIp = unspecified

structure Config.Valid (c : Config) : Prop where
  some : c.peers ≠ []
  names : (c.peers.map PeerConfig.name).Nodup
  peers : ∀ p ∈ c.peers, p.Valid
  disjoint : c.peers.Pairwise fun p q => ∀ port ∈ p.ports, port ∉ q.ports

theorem portsOf_valid {value : List Char} {ports : List UInt16} (parsed : portsOf value = .ok ports) :
    ports ≠ [] ∧ 0 ∉ ports := by
  obtain ⟨list, -, checked⟩ := bind_eq_ok.mp parsed
  obtain ⟨some, checked⟩ := rejectIf_bind_eq_ok.mp checked
  obtain ⟨positive, same⟩ := rejectIf_bind_eq_ok.mp checked
  cases same
  exact ⟨some, positive⟩

theorem peerPortsOf_valid {value : List Char} {ports : List UInt16} (parsed : peerPortsOf value = .ok ports) : ports ≠ [] := by
  obtain ⟨list, -, checked⟩ := bind_eq_ok.mp parsed
  obtain ⟨some, same⟩ := rejectIf_bind_eq_ok.mp checked
  cases same
  exact some

theorem keepaliveOf_valid {value : List Char} {percent : UInt8} (parsed : keepaliveOf value = .ok percent) : percent ≤ 100 := by
  obtain ⟨number, -, checked⟩ := bind_eq_ok.mp parsed
  obtain ⟨small, same⟩ := rejectIf_bind_eq_ok.mp checked
  cases same
  exact UInt8.not_lt.mp small

theorem setPeer_valid {field : PeerKey} {value : List Char} {b b' : PeerBuilder} (valid : b.Valid)
    (set : setPeer field value b = .ok b') : b'.Valid := by
  cases field with
  | ports =>
      obtain ⟨ports, parsed, same⟩ := bind_eq_ok.mp set
      cases same
      exact { valid with ports := fun _ same => Option.some.inj same ▸ portsOf_valid parsed }
  | peerPorts =>
      obtain ⟨ports, parsed, same⟩ := bind_eq_ok.mp set
      cases same
      exact { valid with peerPorts := fun _ same => Option.some.inj same ▸ peerPortsOf_valid parsed }
  | keepaliveDropPercent =>
      obtain ⟨percent, parsed, same⟩ := bind_eq_ok.mp set
      cases same
      exact { valid with keepalive := keepaliveOf_valid parsed }
  | mtu | bindIp | bindPort | key =>
      obtain ⟨_, -, same⟩ := bind_eq_ok.mp set
      cases same
      exact { valid with }
  | defaultPolicy | obfs =>
      obtain ⟨_, -, same⟩ := bind_eq_ok.mp set
      cases same
      exact { valid with }
  | peerIp =>
      rw [setPeer] at set
      split_ifs at set
      · cases set
        exact { valid with }
      · obtain ⟨_, -, same⟩ := bind_eq_ok.mp set
        cases same
        exact { valid with }
  | name | nic | address | passphrase | wgHost | wgPort | ownHttp3 | responder | sipDomain =>
      cases set
      exact { valid with }

theorem PeerBuilder.Valid.build {b : PeerBuilder} {outerMtu : UInt16} {index : Nat} {peer : PeerConfig} (valid : b.Valid)
    (built : b.build outerMtu index = .ok peer) : peer.Valid := by
  rw [PeerBuilder.build] at built
  obtain ⟨peerIp, address, built⟩ := bind_eq_ok.mp built
  obtain ⟨ports, own, built⟩ := bind_eq_ok.mp built
  obtain ⟨media, built⟩ := rejectIf_bind_eq_ok.mp built
  obtain ⟨key, -, same⟩ := bind_eq_ok.mp built
  have own := valid.ports ports (orReject_eq_ok.mp own)
  cases same
  refine ⟨own, ?_, valid.keepalive, ?_, ?_⟩
  · cases chosen : b.peerPorts with
    | none => exact own.1
    | some peerPorts => exact valid.peerPorts peerPorts chosen
  · intro sip
    exact Nat.not_lt.mp fun few => media ⟨sip, few⟩
  · intro learnt
    rw [PeerBuilder.peerIpOf, if_pos learnt] at address
    cases address
    rfl

structure FileState.Valid (s : FileState) : Prop where
  peers : ∀ p ∈ s.peers, p.Valid
  builder : ∀ b, s.currentBuilder = some b → b.Valid

theorem PeerBuilder.valid_default : PeerBuilder.Valid {} :=
  ⟨fun _ absent => (nomatch absent), fun _ absent => (nomatch absent), by decide⟩

theorem FileState.valid_default : FileState.Valid {} :=
  ⟨fun _ none => absurd none List.not_mem_nil, fun _ absent => nomatch absent⟩

theorem finalizePeer_valid {s s' : FileState} (valid : s.Valid) (final : finalizePeer s = .ok s') : s'.Valid := by
  rw [finalizePeer] at final
  cases current : s.currentBuilder with
  | none =>
      rw [current] at final
      cases final
      exact valid
  | some b =>
      rw [current] at final
      obtain ⟨peer, built, same⟩ := bind_eq_ok.mp final
      cases same
      refine ⟨fun p member => ?_, fun _ absent => nomatch absent⟩
      rcases List.mem_append.mp member with earlier | new
      · exact valid.peers p earlier
      · cases List.mem_singleton.mp new
        exact (valid.builder b current).build built

theorem enterSection_valid {name : List Char} {s s' : FileState} (valid : s.Valid) (entered : enterSection name s = .ok s') :
    s'.Valid := by
  rw [enterSection] at entered
  obtain ⟨opened, first, same⟩ := bind_eq_ok.mp entered
  cases same
  split_ifs at first
  · obtain ⟨final, closed, same⟩ := bind_eq_ok.mp first
    cases same
    exact ⟨(finalizePeer_valid valid closed).peers, fun _ same => Option.some.inj same ▸ PeerBuilder.valid_default⟩
  · cases first
    exact ⟨valid.peers, valid.builder⟩

theorem assign_valid {keyName value : List Char} {s s' : FileState} (valid : s.Valid) (assigned : assign keyName value s = .ok s') :
    s'.Valid := by
  have current : (s.currentBuilder.getD {}).Valid := by
    cases open_ : s.currentBuilder with
    | none => exact PeerBuilder.valid_default
    | some b => exact valid.builder b open_
  rw [assign] at assigned
  split_ifs at assigned
  · cases known : GlobalKey.ofName keyName with
    | none =>
        rw [known] at assigned
        cases assigned
        exact valid
    | some field =>
        rw [known] at assigned
        cases field with
        | outerMtu | userspaceOnly | statsInterval =>
            obtain ⟨_, -, same⟩ := bind_eq_ok.mp assigned
            cases same
            exact ⟨valid.peers, valid.builder⟩
        | statFile =>
            cases assigned
            exact ⟨valid.peers, valid.builder⟩
  · cases known : PeerKey.ofName keyName with
    | none =>
        rw [known] at assigned
        cases assigned
        exact ⟨valid.peers, fun _ same => Option.some.inj same ▸ current⟩
    | some field =>
        rw [known] at assigned
        obtain ⟨b, set, same⟩ := bind_eq_ok.mp assigned
        cases same
        exact ⟨valid.peers, fun _ same => Option.some.inj same ▸ setPeer_valid current set⟩
  · cases assigned
    exact valid

theorem lineStep_valid {s s' : FileState} {line : List Char} (valid : s.Valid) (stepped : lineStep s line = .ok s') : s'.Valid := by
  rw [lineStep] at stepped
  split_ifs at stepped
  · cases stepped
    exact valid
  · exact enterSection_valid valid stepped
  · cases found : (trim line).idxOf? '=' with
    | none =>
        rw [found] at stepped
        cases stepped
        exact valid
    | some eqPos =>
        rw [found] at stepped
        exact assign_valid valid stepped

theorem lineSteps_valid {s s' : FileState} {lines : List (List Char)} (valid : s.Valid)
    (run : lines.foldlM lineStep s = .ok s') : s'.Valid := by
  induction lines generalizing s with
  | nil =>
      cases run
      exact valid
  | cons line lines ih =>
      obtain ⟨next, stepped, rest⟩ := bind_eq_ok.mp run
      exact ih (lineStep_valid valid stepped) rest

theorem checkNames_nodup {seen : List String} {peers : List PeerConfig} (passed : checkNames seen peers = .ok ()) :
    (peers.map PeerConfig.name).Nodup ∧ ∀ p ∈ peers, p.name ∉ seen := by
  induction peers generalizing seen with
  | nil => exact ⟨List.nodup_nil, fun _ none => absurd none List.not_mem_nil⟩
  | cons p peers ih =>
      obtain ⟨fresh, rest⟩ := rejectIf_bind_eq_ok.mp passed
      obtain ⟨nodup, unseen⟩ := ih rest
      refine ⟨List.nodup_cons.mpr ⟨fun member => ?_, nodup⟩, fun q member => ?_⟩
      · obtain ⟨q, later, same⟩ := List.mem_map.mp member
        exact unseen q later (same ▸ List.mem_cons_self)
      · rcases List.mem_cons.mp member with rfl | later
        · exact fresh
        · exact fun before => unseen q later (List.mem_cons_of_mem _ before)

theorem checkPorts_disjoint {seen : List UInt16} {peers : List PeerConfig} (passed : checkPorts seen peers = .ok ()) :
    (peers.Pairwise fun p q => ∀ port ∈ p.ports, port ∉ q.ports) ∧ ∀ p ∈ peers, ∀ port ∈ p.ports, port ∉ seen := by
  induction peers generalizing seen with
  | nil => exact ⟨List.Pairwise.nil, fun _ none => absurd none List.not_mem_nil⟩
  | cons p peers ih =>
      rw [checkPorts] at passed
      cases clash : p.ports.find? (· ∈ seen) with
      | some port =>
          rw [clash] at passed
          cases passed
      | none =>
          rw [clash] at passed
          obtain ⟨disjoint, unseen⟩ := ih passed
          refine ⟨List.pairwise_cons.mpr ⟨fun q later port own other => ?_, disjoint⟩, fun q member port own => ?_⟩
          · exact unseen q later port other (List.mem_append_left _ own)
          · rcases List.mem_cons.mp member with rfl | later
            · simpa using List.find?_eq_none.mp clash port own
            · exact fun before => unseen q later port own (List.mem_append_right _ before)

theorem finish_valid {s : FileState} {c : Config} (valid : s.Valid) (finished : finish s = .ok c) : c.Valid := by
  obtain ⟨last, closed, finished⟩ := bind_eq_ok.mp finished
  obtain ⟨some, finished⟩ := rejectIf_bind_eq_ok.mp finished
  obtain ⟨_, names, finished⟩ := bind_eq_ok.mp finished
  obtain ⟨_, ports, same⟩ := bind_eq_ok.mp finished
  cases same
  exact ⟨some, (checkNames_nodup names).1, (finalizePeer_valid valid closed).peers, (checkPorts_disjoint ports).1⟩

theorem parseConfig_valid {content : List Char} {c : Config} (accepted : parseConfig content = .ok c) : c.Valid := by
  obtain ⟨s, run, finished⟩ := bind_eq_ok.mp accepted
  exact finish_valid (lineSteps_valid FileState.valid_default run) finished

def sampleFile : List Char :=
  ("[peer]\npeer_ip = 192.0.2.1\nports = 41000,41001\nobfs = sip # calls\n" ++
    "key = 000102030405060708090a0b0c0d0e0f101112131415161718191a1b1c1d1e1f\n").toList

theorem parseConfig_valid_sample : ∃ c, parseConfig sampleFile = .ok c ∧ c.peers.length = 1 ∧ c.Valid := by
  have single : (parseConfig sampleFile).toOption.map (fun c => c.peers.length) = some 1 := by decide +kernel
  cases accepted : parseConfig sampleFile with
  | error e =>
      rw [accepted] at single
      cases single
  | ok c =>
      rw [accepted] at single
      exact ⟨c, rfl, Option.some.inj single, parseConfig_valid accepted⟩

end Gutd
