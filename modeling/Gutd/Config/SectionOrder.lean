import Gutd.Config.Sections

set_option autoImplicit false

namespace Gutd

open Bytes Checked Net Str

-- the outer MTU in force at each peer header but the first: the last one set above it
def laterHeaderMtus (content : List Char) : List UInt16 := (mtusAtHeaders [] (sectionsOf content)).tail

def finalMtu (content : List Char) : UInt16 := outerMtuOf (globalEntries (sectionsOf content))

structure Rearranged (content content' : List Char) : Prop where
  sections : (sectionsOf content).Perm (sectionsOf content')
  peers : peerSections (sectionsOf content) = peerSections (sectionsOf content')
  once : ((globalEntries (sectionsOf content)).map Prod.fst).Nodup

theorem map_outerMtu {mtus : List UInt16} {ps : List PeerConfig} (length : mtus.length = ps.length) :
    (mtus.zipWith PeerConfig.withMtu ps).map PeerConfig.outerMtu = mtus := by
  induction ps generalizing mtus with
  | nil => cases List.eq_nil_of_length_eq_zero length; rfl
  | cons p ps ih =>
      cases mtus with
      | nil => cases length
      | cons mtu mtus => exact congrArg (mtu :: ·) (ih (Nat.succ.inj length))

theorem lastValue_perm {settings settings' : List GlobalEntry} (perm : settings.Perm settings')
    (once : (settings.map Prod.fst).Nodup) (field : GlobalKey) : lastValue settings field = lastValue settings' field := by
  have same := perm.filter fun e => e.1 = field
  have nodup := once.sublist ((@List.filter_sublist _ (fun e => e.1 = field) settings).map Prod.fst)
  have keys : ∀ e ∈ settings.filter fun e => e.1 = field, e.1 = field := fun e member => by
    simpa using (List.mem_filter.mp member).2
  -- a key that is set at most once leaves nothing to reorder
  rw [lastValue, lastValue]
  generalize settings.filter (fun e => e.1 = field) = chosen at *
  cases chosen with
  | nil => rw [same.nil_eq]
  | cons e others =>
      cases others with
      | nil => rw [List.perm_singleton.mp same.symm]
      | cons e' rest =>
          have first := keys e List.mem_cons_self
          have second := keys e' (List.mem_cons_of_mem _ List.mem_cons_self)
          simp [first, second] at nodup

namespace Accepts

variable {sections : List FileSection} {ps : List PeerConfig}

theorem length (accepts : Accepts sections ps) : (peerMtus sections).length = ps.length := by
  obtain ⟨builders, built, complete⟩ := accepts.built
  exact length_peerMtus built complete accepts.some

theorem unique {ps' : List PeerConfig} (accepts : Accepts sections ps) (again : Accepts sections ps') : ps = ps' := by
  obtain ⟨builders, built, complete⟩ := accepts.built
  obtain ⟨builders', built', complete'⟩ := again.built
  rw [built] at built'
  cases built'
  rw [complete] at complete'
  exact Except.ok.inj complete'

theorem reaches_iff (accepts : Accepts sections ps) :
    (∀ p ∈ (configOf sections ps).peers, p.outerMtu = outerMtuOf (globalEntries sections)) ↔
      ∀ mtu ∈ (mtusAtHeaders [] sections).tail, mtu = outerMtuOf (globalEntries sections) := by
  have mtus : (configOf sections ps).peers.map PeerConfig.outerMtu = peerMtus sections := map_outerMtu accepts.length
  have each : (∀ p ∈ (configOf sections ps).peers, p.outerMtu = outerMtuOf (globalEntries sections)) ↔
      ∀ mtu ∈ (configOf sections ps).peers.map PeerConfig.outerMtu, mtu = outerMtuOf (globalEntries sections) := by simp
  rw [each, mtus, peerMtus, List.forall_mem_append]
  simp

theorem of_rearranged {content content' : List Char} (same : Rearranged content content')
    (accepts : Accepts (sectionsOf content) ps) : Accepts (sectionsOf content') ps where
  spelled e member := accepts.spelled e ((same.sections.flatMap_right _).mem_iff.mpr member)
  built := same.peers ▸ accepts.built
  some := accepts.some
  names := accepts.names
  ports := accepts.ports

end Accepts

theorem Rearranged.symm {content content' : List Char} (same : Rearranged content content') : Rearranged content' content :=
  ⟨same.sections.symm, same.peers.symm, (((same.sections.flatMap_right _).map _).nodup_iff).mp same.once⟩

theorem configOf_rearranged {content content' : List Char} {ps : List PeerConfig} (same : Rearranged content content')
    (accepts : Accepts (sectionsOf content) ps) :
    configOf (sectionsOf content') ps = configOf (sectionsOf content) ps ↔ laterHeaderMtus content = laterHeaderMtus content' := by
  have settings := lastValue_perm (same.sections.flatMap_right FileSection.globalEntries) same.once
  have final : outerMtuOf (globalEntries (sectionsOf content)) = outerMtuOf (globalEntries (sectionsOf content')) := by
    rw [outerMtuOf, outerMtuOf, globalEntries, settings]
    rfl
  have later : peerMtus (sectionsOf content) = peerMtus (sectionsOf content') ↔
      laterHeaderMtus content = laterHeaderMtus content' := by
    rw [peerMtus, peerMtus, final, List.append_left_inj]
    rfl
  rw [← later]
  constructor
  · intro config
    have mtus := congrArg (fun c : Config => c.peers.map PeerConfig.outerMtu) config
    simp only [configOf, map_outerMtu accepts.length, map_outerMtu (accepts.of_rearranged same).length] at mtus
    exact mtus.symm
  · intro mtus
    rw [configOf, configOf, mtus, final, userspaceOnlyOf, userspaceOnlyOf, statsIntervalOf, statsIntervalOf, statFileOf,
      statFileOf, globalEntries, globalEntries, settings, settings, settings]

theorem globalSettings_iff (content : List Char) :
    (∀ c, parseConfig content = .ok c →
      ((∀ p ∈ c.peers, p.outerMtu = c.global.outerMtu) ↔ ∀ mtu ∈ laterHeaderMtus content, mtu = finalMtu content)) ∧
    ∀ content', Rearranged content content' →
      ((∃ c, parseConfig content = .ok c) ↔ ∃ c, parseConfig content' = .ok c) ∧
      ∀ c, parseConfig content = .ok c →
        (parseConfig content' = .ok c ↔ laterHeaderMtus content = laterHeaderMtus content') := by
  refine ⟨fun c accepted => ?_, fun content' same => ⟨⟨?_, ?_⟩, fun c accepted => ?_⟩⟩
  · obtain ⟨ps, accepts, rfl⟩ := parseConfig_eq_ok.mp accepted
    exact accepts.reaches_iff
  · rintro ⟨c, accepted⟩
    obtain ⟨ps, accepts, rfl⟩ := parseConfig_eq_ok.mp accepted
    exact ⟨_, parseConfig_eq_ok.mpr ⟨ps, accepts.of_rearranged same, rfl⟩⟩
  · rintro ⟨c, accepted⟩
    obtain ⟨ps, accepts, rfl⟩ := parseConfig_eq_ok.mp accepted
    exact ⟨_, parseConfig_eq_ok.mpr ⟨ps, accepts.of_rearranged same.symm, rfl⟩⟩
  · obtain ⟨ps, accepts, rfl⟩ := parseConfig_eq_ok.mp accepted
    rw [← configOf_rearranged same accepts]
    constructor
    · intro again
      obtain ⟨ps', accepts', config⟩ := parseConfig_eq_ok.mp again
      cases (accepts.of_rearranged same).unique accepts'
      exact config.symm
    · intro config
      exact parseConfig_eq_ok.mpr ⟨ps, accepts.of_rearranged same, config.symm⟩

def smallMtuSection : List Char := "[global]\n".toList ++ "outer_mtu = 1400\n".toList

def minimalPeer (name port : String) : List Char :=
  "[peer]\nname = ".toList ++ name.toList ++ "\npeer_ip = dynamic".toList ++ "\nports = ".toList ++ port.toList ++
    "\nkey = ".toList ++ List.replicate 64 '0' ++ ['\n']

def firstPeer : List Char := minimalPeer "gut0" "443"

def secondPeer : List Char := minimalPeer "gut1" "444"

theorem globalSettings_above :
    ∃ c, parseConfig (smallMtuSection ++ firstPeer ++ secondPeer) = .ok c ∧ c.peers.length = 2 ∧
      (∀ p ∈ c.peers, p.outerMtu = c.global.outerMtu) ∧
      parseConfig (firstPeer ++ smallMtuSection ++ secondPeer) = .ok c := by
  have two : (parseConfig (smallMtuSection ++ firstPeer ++ secondPeer)).toOption.map (fun c => c.peers.length) = some 2 := by
    decide
  have keys : (globalEntries (sectionsOf (smallMtuSection ++ firstPeer ++ secondPeer))).map Prod.fst = [.outerMtu] := by
    decide
  have same : Rearranged (smallMtuSection ++ firstPeer ++ secondPeer) (firstPeer ++ smallMtuSection ++ secondPeer) :=
    ⟨by decide, by decide, by rw [keys]; decide⟩
  have here : ∀ mtu ∈ laterHeaderMtus (smallMtuSection ++ firstPeer ++ secondPeer),
      mtu = finalMtu (smallMtuSection ++ firstPeer ++ secondPeer) := by decide
  have there : laterHeaderMtus (smallMtuSection ++ firstPeer ++ secondPeer) =
      laterHeaderMtus (firstPeer ++ smallMtuSection ++ secondPeer) := by decide
  obtain ⟨reaches, moved⟩ := globalSettings_iff (smallMtuSection ++ firstPeer ++ secondPeer)
  cases accepted : parseConfig (smallMtuSection ++ firstPeer ++ secondPeer) with
  | error e =>
      rw [accepted] at two
      cases two
  | ok c =>
      rw [accepted] at two
      exact ⟨c, rfl, Option.some.inj two, (reaches c accepted).mpr here, ((moved _ same).2 c accepted).mpr there⟩

-- the first peer is closed before the settings come
theorem globalSettings_below :
    Rearranged (firstPeer ++ secondPeer ++ smallMtuSection) (smallMtuSection ++ firstPeer ++ secondPeer) ∧
      ∃ c, parseConfig (firstPeer ++ secondPeer ++ smallMtuSection) = .ok c ∧
        ¬(∀ p ∈ c.peers, p.outerMtu = c.global.outerMtu) ∧
        parseConfig (smallMtuSection ++ firstPeer ++ secondPeer) ≠ .ok c := by
  have keys : (globalEntries (sectionsOf (firstPeer ++ secondPeer ++ smallMtuSection))).map Prod.fst = [.outerMtu] := by
    decide
  refine ⟨⟨by decide, by decide, by rw [keys]; decide⟩, ?_⟩
  have mtus : (parseConfig (firstPeer ++ secondPeer ++ smallMtuSection)).toOption.map
      (fun c => (c.global.outerMtu, c.peers.map PeerConfig.outerMtu)) = some (1400, [1500, 1400]) := by decide
  have moved : (parseConfig (smallMtuSection ++ firstPeer ++ secondPeer)).toOption.map
      (fun c => (c.global.outerMtu, c.peers.map PeerConfig.outerMtu)) = some (1400, [1400, 1400]) := by decide
  cases accepted : parseConfig (firstPeer ++ secondPeer ++ smallMtuSection) with
  | error e =>
      rw [accepted] at mtus
      cases mtus
  | ok c =>
      rw [accepted] at mtus
      obtain ⟨final, each⟩ := Prod.mk.inj (Option.some.inj mtus)
      refine ⟨c, rfl, fun all => ?_, fun same => ?_⟩
      · have stale : 1500 ∈ c.peers.map PeerConfig.outerMtu := by simp [each]
        obtain ⟨p, member, value⟩ := List.mem_map.mp stale
        have reached := all p member
        rw [value, final] at reached
        exact absurd reached (by decide)
      · rw [same] at moved
        obtain ⟨-, other⟩ := Prod.mk.inj (Option.some.inj moved)
        rw [each] at other
        exact absurd other (by decide)

end Gutd
