import Gutd.Config.Sections
import Gutd.Shared.BlockWords
import Gutd.Tun
import Mathlib.Data.Set.Lattice
import Mathlib.Order.CompletePartialOrder

set_option autoImplicit false

namespace Gutd

open Bytes Checked Net Str Tun

abbrev PeerEntry := PeerKey × List Char

namespace FileSection

def peerEntries (sec : FileSection) : List PeerEntry := sec.entries.filterMap fun e => (PeerKey.ofName e.1).map (·, e.2)

def address (sec : FileSection) : Option (List Char) := lastValue sec.peerEntries .address

end FileSection

theorem setPeer_address {field : PeerKey} {value : List Char} {b b' : PeerBuilder} (set : setPeer field value b = .ok b') :
    b'.address = if field = .address then some (String.ofList value) else b.address := by
  cases field with
  | address =>
      cases set
      rfl
  | peerIp =>
      rw [setPeer] at set
      split_ifs at set
      · cases set
        rfl
      · obtain ⟨_, -, same⟩ := bind_eq_ok.mp set
        cases same
        rfl
  | mtu | defaultPolicy | bindIp | bindPort | ports | peerPorts | key | keepaliveDropPercent | obfs =>
      obtain ⟨_, -, same⟩ := bind_eq_ok.mp set
      cases same
      rfl
  | name | nic | passphrase | wgHost | wgPort | ownHttp3 | responder | sipDomain =>
      cases set
      rfl

theorem builder_address {sec : FileSection} {b : PeerBuilder} (built : sec.builder = .ok b) :
    b.address = sec.address.map String.ofList := by
  obtain ⟨name, entries⟩ := sec
  induction entries using List.reverseRecOn generalizing b with
  | nil =>
      cases built
      rfl
  | append_singleton entries e ih =>
      rw [FileSection.builder, List.foldlM_append] at built
      obtain ⟨before, earlier, last⟩ := bind_eq_ok.mp built
      have known := ih earlier
      simp only [List.foldlM_cons, List.foldlM_nil, bind_pure, peerEntry] at last
      rw [FileSection.address, FileSection.peerEntries] at known ⊢
      rw [List.filterMap_append]
      cases field : PeerKey.ofName e.1 with
      | none =>
          rw [field] at last
          cases last
          simpa [field] using known
      | some field' =>
          rw [field] at last
          rw [setPeer_address last, known]
          simp only [List.filterMap_cons, List.filterMap_nil, field, Option.map_some, lastValue_concat]
          split_ifs <;> rfl

def autoAddress (index last : Nat) : String := "10.47.0." ++ toString (index * 4 + last) ++ "/30"

theorem build_address {b : PeerBuilder} {mtu : UInt16} {index : Nat} {p : PeerConfig} (built : b.build mtu index = .ok p) :
    b.address = some p.address ∨ b.address = none ∧ (p.address = autoAddress index 1 ∨ p.address = autoAddress index 2) := by
  rw [PeerBuilder.build] at built
  obtain ⟨peerIp, -, built⟩ := bind_eq_ok.mp built
  obtain ⟨ports, -, built⟩ := bind_eq_ok.mp built
  obtain ⟨-, built⟩ := rejectIf_bind_eq_ok.mp built
  obtain ⟨key, -, same⟩ := bind_eq_ok.mp built
  cases same
  cases chosen : b.address with
  | some address => exact .inl rfl
  | none =>
      refine .inr ⟨rfl, ?_⟩
      dsimp only [Option.getD_none]
      split_ifs
      · exact .inl rfl
      · exact .inr rfl

def AddressAt (index : Nat) (sec : FileSection) (address : String) : Prop :=
  sec.address = some address.toList ∨
    sec.address = none ∧ (address = autoAddress index 1 ∨ address = autoAddress index 2)

theorem addressAt_of_accepted {content : List Char} {c : Config} (accepted : parseConfig content = .ok c) :
    (peerSections (sectionsOf content)).length = c.peers.length ∧
      ∀ i (inside : i < (peerSections (sectionsOf content)).length) (_ : i < c.peers.length),
        AddressAt i (peerSections (sectionsOf content))[i] c.peers[i].address := by
  have count := length_peers accepted
  obtain ⟨ps, accepts, rfl⟩ := parseConfig_eq_ok.mp accepted
  obtain ⟨length, builds⟩ := builders_iff.mp accepts.built
  refine ⟨count.symm, fun i inside inside' => ?_⟩
  obtain ⟨b, opened, peer⟩ := builds i inside (by omega)
  have opened := builder_address opened
  have address : ((configOf (sectionsOf content) ps).peers[i]).address = ps[i].address := by
    simp [configOf, PeerConfig.withMtu]
  rw [address]
  rcases build_address peer with chosen | ⟨absent, auto⟩
  · rw [chosen] at opened
    obtain ⟨text, found, same⟩ := Option.map_eq_some_iff.mp opened.symm
    exact .inl (by rw [found, ← same, String.toList_ofList])
  · rw [absent] at opened
    exact .inr ⟨Option.map_eq_none_iff.mp opened.symm, auto⟩

theorem toNat_addressOf (octets : Vector UInt8 4) :
    (addressOf octets).toNat =
      (octets.get 3).toNat + 2 ^ 8 * (octets.get 2).toNat + 2 ^ 16 * (octets.get 1).toNat + 2 ^ 24 * (octets.get 0).toNat := by
  have bounds (x : UInt8) := x.toNat_lt
  rw [addressOf, le32, UInt32.toNat_ofNat', Nat.mod_eq_of_lt]
  have b0 := bounds (octets.get 0)
  have b1 := bounds (octets.get 1)
  have b2 := bounds (octets.get 2)
  have b3 := bounds (octets.get 3)
  omega

-- the last number of a generated address must fit into a byte
theorem readCidr_auto {n : Nat} {c : Cidr} :
    readCidr ("10.47.0." ++ toString n ++ "/30").toList = .ok c ↔
      ∃ x : UInt8, n = x.toNat ∧ c = ⟨quadText "10".toList "47".toList "0".toList (toString n).toList, #v[10, 47, 0, x], 30⟩ := by
  have digits {d : Char} (member : d ∈ (toString n).toList) : '0'.toNat ≤ d.toNat ∧ d.toNat ≤ '9'.toNat := by
    rw [Nat.toString_eq_repr, Nat.toList_repr] at member
    exact Char.isDigit_iff_toNat.mp (Nat.isDigit_of_mem_toDigits (by decide) (by decide) member)
  have dot : '.' ∉ (toString n).toList := fun member => absurd (digits member) (by decide)
  have slash : '/' ∉ quadText "10".toList "47".toList "0".toList (toString n).toList := by
    have free : '/' ∉ (toString n).toList := fun member => absurd (digits member) (by decide)
    simp only [quadText, List.mem_append, List.mem_cons, free]
    decide
  have split := @splitOn_quadText "10".toList "47".toList "0".toList _ ⟨by decide, by decide, by decide, dot⟩
  have fixed : parseU8 "10".toList = .ok 10 ∧ parseU8 "47".toList = .ok 47 ∧ parseU8 "0".toList = .ok 0 ∧
      parseU8 "30".toList = .ok 30 := by decide
  have text : ("10.47.0." ++ toString n ++ "/30").toList =
      quadText "10".toList "47".toList "0".toList (toString n).toList ++ '/' :: "30".toList := by
    simp [String.toList_append, quadText]
  rw [text, readCidr_eq_ok]
  constructor
  · rintro ⟨prefixStr, whole, absent, width, ⟨a, b, c', d, parts, first, second, third, fourth⟩⟩
    have cut := splitOnce_append slash "30".toList
    rw [whole, splitOnce_append absent] at cut
    obtain ⟨ipStr, rfl⟩ := Prod.mk.inj (Option.some.inj cut)
    rw [ipStr, split] at parts
    cases parts
    obtain ⟨cText, octets, pfx⟩ := c
    cases ipStr
    have value := parseU8_toString.mp fourth
    rw [fixed.1] at first
    rw [fixed.2.1] at second
    rw [fixed.2.2.1] at third
    rw [fixed.2.2.2] at width
    refine ⟨octets.get 3, value, ?_⟩
    rw [Cidr.mk.injEq]
    refine ⟨rfl, ?_, (Except.ok.inj width).symm⟩
    apply Vector.ext
    intro i inside
    obtain rfl | rfl | rfl | rfl : i = 0 ∨ i = 1 ∨ i = 2 ∨ i = 3 := by omega
    · exact (Except.ok.inj first).symm
    · exact (Except.ok.inj second).symm
    · exact (Except.ok.inj third).symm
    · rfl
  · rintro ⟨x, rfl, rfl⟩
    exact ⟨"30".toList, rfl, slash, fixed.2.2.2, _, _, _, _, split, fixed.1, fixed.2.1, fixed.2.2.1, parseU8_toString.mpr rfl⟩

def network (address : String) : Set UInt32 :=
  {x | ∃ c, readCidr address.toList = .ok c ∧ subnetNumber c.pfx x = subnetNumber c.pfx (addressOf c.octets)}

structure ExplicitSubnet (text : List Char) (c : Cidr) : Prop where
  read : readCidr text = .ok c
  pfx : c.pfx = 30
  host : Usable 30 (addressOf c.octets)
  outside : ¬(c.octets.get 0 = 10 ∧ c.octets.get 1 = 47)

structure ExplicitSubnets (sections : List FileSection) : Prop where
  each : ∀ sec ∈ sections, ∀ text, sec.address = some text → ∃ c, ExplicitSubnet text c
  distinct : sections.Pairwise fun sec sec' => ∀ text text' c c', sec.address = some text → sec'.address = some text' →
    ExplicitSubnet text c → ExplicitSubnet text' c' → subnetNumber 30 (addressOf c.octets) ≠ subnetNumber 30 (addressOf c'.octets)

def autoSubnet (index : Nat) : Nat := 10 * 2 ^ 22 + 47 * 2 ^ 14 + index

structure PeerSubnet (index : Nat) (sec : FileSection) (address : String) (c : Cidr) : Prop where
  read : readCidr address.toList = .ok c
  pfx : c.pfx = 30
  host : Usable 30 (addressOf c.octets)
  place : (∃ text, sec.address = some text ∧ ExplicitSubnet text c) ∨
    sec.address = none ∧ subnetNumber 30 (addressOf c.octets) = autoSubnet index

theorem peerSubnet_auto {index last : Nat} {sec : FileSection} (absent : sec.address = none) (early : index < 64)
    (host : last = 1 ∨ last = 2) : ∃ c, PeerSubnet index sec (autoAddress index last) c := by
  have value : (UInt8.ofNat (index * 4 + last)).toNat = index * 4 + last := by
    rw [UInt8.toNat_ofNat', Nat.mod_eq_of_lt (by omega)]
  have read := readCidr_auto.mpr ⟨UInt8.ofNat (index * 4 + last), value.symm, rfl⟩
  have number := toNat_addressOf #v[10, 47, 0, UInt8.ofNat (index * 4 + last)]
  simp only [vector4_get, value, UInt8.reduceToNat] at number
  refine ⟨_, read, rfl, .inr ?_, .inr ⟨absent, ?_⟩⟩
  · change (addressOf _).toNat % 4 ≠ 0 ∧ (addressOf _).toNat % 4 ≠ 3
    rw [number]
    omega
  · change (addressOf _).toNat / 4 = autoSubnet index
    rw [number, autoSubnet]
    omega

theorem peerSubnet_of_addressAt {sections : List FileSection} {index : Nat} {sec : FileSection} {address : String}
    (explicit : ExplicitSubnets sections) (member : sec ∈ sections) (early : sec.address = none → index < 64)
    (here : AddressAt index sec address) : ∃ c, PeerSubnet index sec address c := by
  rcases here with chosen | ⟨absent, rfl | rfl⟩
  · obtain ⟨c, given⟩ := explicit.each sec member _ chosen
    exact ⟨c, given.read, given.pfx, given.host, .inl ⟨_, chosen, given⟩⟩
  · exact peerSubnet_auto absent (early absent) (.inl rfl)
  · exact peerSubnet_auto absent (early absent) (.inr rfl)

theorem PeerSubnet.link {index : Nat} {sec : FileSection} {address : String} {c : Cidr} (subnet : PeerSubnet index sec address c) :
    ∃ link, computeP2pPeer address.toList = .ok link := by
  have paired : c.Paired := ⟨.inl subnet.pfx, by rw [subnet.pfx]; exact subnet.host⟩
  obtain ⟨peer, hosts⟩ := paired.peer
  exact ⟨_, computeP2pPeer_eq_ok.mpr ⟨c, peer, subnet.read, .inl subnet.pfx, hosts, rfl, rfl, rfl⟩⟩

theorem ExplicitSubnet.ne_auto {text : List Char} {c : Cidr} (subnet : ExplicitSubnet text c) {index : Nat} (early : index < 64) :
    subnetNumber 30 (addressOf c.octets) ≠ autoSubnet index := by
  intro same
  have number := toNat_addressOf c.octets
  have bounds (x : UInt8) := x.toNat_lt
  have b1 := bounds (c.octets.get 1)
  have b2 := bounds (c.octets.get 2)
  have b3 := bounds (c.octets.get 3)
  have same : (addressOf c.octets).toNat / 4 = 10 * 2 ^ 22 + 47 * 2 ^ 14 + index := same
  refine subnet.outside ⟨UInt8.toNat_inj.mp ?_, UInt8.toNat_inj.mp ?_⟩ <;> simp only [UInt8.reduceToNat] <;> omega

theorem PeerSubnet.disjoint {i j : Nat} {sec sec' : FileSection} {address address' : String} {c c' : Cidr}
    (subnet : PeerSubnet i sec address c) (subnet' : PeerSubnet j sec' address' c')
    (apart : subnetNumber 30 (addressOf c.octets) ≠ subnetNumber 30 (addressOf c'.octets)) :
    Disjoint (network address) (network address') := by
  rw [Set.disjoint_left]
  rintro x ⟨d, read, inside⟩ ⟨d', read', inside'⟩
  rw [subnet.read] at read
  rw [subnet'.read] at read'
  cases read
  cases read'
  rw [subnet.pfx] at inside
  rw [subnet'.pfx] at inside'
  exact apart (inside.symm.trans inside')

theorem subnets_iff {content : List Char} {c : Config} (accepted : parseConfig content = .ok c)
    (explicit : ExplicitSubnets (peerSections (sectionsOf content))) :
    ((∀ p ∈ c.peers, ∃ link, computeP2pPeer p.address.toList = .ok link) ∧
      c.peers.Pairwise fun p q => Disjoint (network p.address) (network q.address)) ↔
      ∀ index sec, (peerSections (sectionsOf content))[index]? = some sec → sec.address = none → index < 64 := by
  obtain ⟨length, places⟩ := addressAt_of_accepted accepted
  generalize peerSections (sectionsOf content) = sections at *
  constructor
  · rintro ⟨links, -⟩ index sec found absent
    obtain ⟨inside, rfl⟩ := List.getElem?_eq_some_iff.mp found
    have here := places index inside (by omega)
    obtain ⟨⟨localText, peerText, pfx⟩, link⟩ := links _ (List.getElem_mem (by omega : index < c.peers.length))
    obtain ⟨cidr, peer, read, -⟩ := computeP2pPeer_eq_ok.mp link
    rcases here with chosen | ⟨-, auto | auto⟩
    · rw [absent] at chosen
      cases chosen
    all_goals
      rw [auto] at read
      obtain ⟨x, value, -⟩ := readCidr_auto.mp read
      have small := x.toNat_lt
      omega
  · intro early
    have subnet (i : Nat) (inside : i < c.peers.length) :
        ∃ cidr, PeerSubnet i (sections[i]) (c.peers[i]).address cidr :=
      peerSubnet_of_addressAt explicit (List.getElem_mem _) (early i _ (List.getElem?_eq_getElem (by omega)))
        (places i (by omega) inside)
    refine ⟨fun p member => ?_, List.pairwise_iff_getElem.mpr fun i j inside inside' before => ?_⟩
    · obtain ⟨i, inside, rfl⟩ := List.getElem_of_mem member
      obtain ⟨cidr, here⟩ := subnet i inside
      exact here.link
    · obtain ⟨cidr, here⟩ := subnet i inside
      obtain ⟨cidr', there⟩ := subnet j inside'
      have below (k : Nat) (inside : k < c.peers.length) : (sections[k]).address = none → k < 64 :=
        early k _ (List.getElem?_eq_getElem _)
      refine here.disjoint there ?_
      rcases here.place with ⟨text, chosen, given⟩ | ⟨absent, number⟩
      · rcases there.place with ⟨text', chosen', given'⟩ | ⟨absent', number'⟩
        · exact List.pairwise_iff_getElem.mp explicit.distinct i j _ _ before _ _ _ _ chosen chosen' given given'
        · rw [number']
          exact given.ne_auto (below j inside' absent')
      · rcases there.place with ⟨text', chosen', given'⟩ | ⟨absent', number'⟩
        · rw [number]
          exact (given'.ne_auto (below i inside absent)).symm
        · rw [number, number', autoSubnet, autoSubnet]
          omega

def numberedPeer (number : Nat) (more : List Char) : List Char :=
  "[peer]\nname = ".toList ++ (toString number).toList ++ "\npeer_ip = dynamic".toList ++ "\nports = ".toList ++
    (toString (number + 1)).toList ++ "\nkey = ".toList ++ List.replicate 64 '0' ++ '\n' :: more

def mixedPeers : List Char := numberedPeer 0 "address = 10.0.0.1/30\n".toList ++ numberedPeer 1 []

theorem subnets_mixed :
    ∃ c, parseConfig mixedPeers = .ok c ∧ c.peers.length = 2 ∧
      (∀ p ∈ c.peers, ∃ link, computeP2pPeer p.address.toList = .ok link) ∧
      c.peers.Pairwise fun p q => Disjoint (network p.address) (network q.address) := by
  have two : (parseConfig mixedPeers).toOption.map (fun c => c.peers.length) = some 2 := by decide +kernel
  have addresses : (peerSections (sectionsOf mixedPeers)).map FileSection.address = [some "10.0.0.1/30".toList, none] := by
    decide +kernel
  have read : readCidr "10.0.0.1/30".toList = .ok ⟨"10.0.0.1".toList, #v[10, 0, 0, 1], 30⟩ := by decide +kernel
  have subnet : ExplicitSubnet "10.0.0.1/30".toList ⟨"10.0.0.1".toList, #v[10, 0, 0, 1], 30⟩ :=
    ⟨read, rfl, .inr (by decide +kernel), by decide +kernel⟩
  obtain ⟨first, others, sections, firstAddress, rest⟩ := List.map_eq_cons_iff.mp addresses
  obtain ⟨second, none, others, secondAddress, rest⟩ := List.map_eq_cons_iff.mp rest
  have none := List.map_eq_nil_iff.mp rest
  subst others none
  have explicit : ExplicitSubnets (peerSections (sectionsOf mixedPeers)) := by
    rw [sections]
    refine ⟨fun sec member text chosen => ?_, ?_⟩
    · rcases List.mem_pair.mp member with rfl | rfl
      · rw [firstAddress] at chosen
        cases chosen
        exact ⟨_, subnet⟩
      · rw [secondAddress] at chosen
        cases chosen
    · refine List.pairwise_pair.mpr fun text text' _ _ _ chosen' => ?_
      rw [secondAddress] at chosen'
      cases chosen'
  cases accepted : parseConfig mixedPeers with
  | error e =>
      rw [accepted] at two
      cases two
  | ok c =>
      rw [accepted] at two
      refine ⟨c, rfl, Option.some.inj two, (subnets_iff accepted explicit).mpr fun index sec found _ => ?_⟩
      rw [sections] at found
      have inside := (List.getElem?_eq_some_iff.mp found).1
      simp only [List.length_cons, List.length_nil] at inside
      omega

def manyPeers : List Char := (List.range 65).flatMap fun number => numberedPeer number []

-- the peer at index 64 is given 10.47.0.257/30
theorem subnets_overflow :
    ∃ c, parseConfig manyPeers = .ok c ∧ ExplicitSubnets (peerSections (sectionsOf manyPeers)) ∧
      ¬∀ p ∈ c.peers, ∃ link, computeP2pPeer p.address.toList = .ok link := by
  have last : (parseConfig manyPeers).toOption.bind
      (fun c => c.peers.getLast?.map fun p => (computeP2pPeer p.address.toList).toOption) = some none := by decide +kernel
  have absent : ∀ sec ∈ peerSections (sectionsOf manyPeers), sec.address = none := by decide +kernel
  have explicit : ExplicitSubnets (peerSections (sectionsOf manyPeers)) := by
    refine ⟨fun sec member text chosen => ?_, List.pairwise_of_forall_mem_list fun sec member _ _ _ _ _ _ chosen => ?_⟩
    all_goals
      rw [absent sec member] at chosen
      cases chosen
  cases accepted : parseConfig manyPeers with
  | error e =>
      rw [accepted] at last
      cases last
  | ok c =>
      rw [accepted] at last
      obtain ⟨p, final, rejected⟩ := Option.map_eq_some_iff.mp last
      refine ⟨c, rfl, explicit, fun links => ?_⟩
      obtain ⟨link, accepts⟩ := links p (List.mem_of_getLast? final)
      rw [accepts] at rejected
      cases rejected

end Gutd
