import Gutd.Config.EnvAgreement
import Gutd.Config.HexKey

set_option autoImplicit false

-- `cmd_genkey` prints a key, and for a passphrase two lines for the configuration that should mean the same key.

namespace Gutd

open Bytes Checked Str

structure Printed where
  stdout : List (List Char)
  stderr : List (List Char)

def passphraseArg (passphrase : Option (List Char)) : List (List Char) → Parsed (Option (List Char))
  | [] => pure passphrase
  | arg :: rest =>
      if arg = "--passphrase".toList ∨ arg = "-p".toList then
        match rest with
        | [] => reject "--passphrase requires a value"
        | phrase :: rest => passphraseArg (some phrase) rest
      else passphraseArg passphrase rest

def derivedNote : List Char := "# Derived from passphrase via HKDF-SHA256".toList

def randomNote : List Char := "# Random 256-bit key".toList

def addNote : List Char := "# Add to config:  ".toList

def orNote : List Char := "#   or:           ".toList

def hexLine (key : Vector UInt8 32) : List Char := "key".toList ++ ([' ', '=', ' '] ++ keyToHex key)

def phraseLine (phrase : List Char) : List Char := "passphrase".toList ++ ([' ', '=', ' '] ++ phrase)

def cmdGenkey (getrandom : Except String (Vector UInt8 32)) (args : List (List Char)) : Parsed Printed := do
  match ← passphraseArg none (args.drop 2) with
  | some phrase =>
      let key ← unwrapped (deriveKey phrase)
      pure ⟨[keyToHex key], [derivedNote, addNote ++ hexLine key, orNote ++ phraseLine phrase]⟩
  | none =>
      let key ← orMessage (fun e => "Failed to generate random key: " ++ e) getrandom
      pure ⟨[keyToHex key], [randomNote, addNote ++ hexLine key]⟩

def readBack (phrase : List Char) : List Char := trimMatches '"' (valueOf (trim phrase))

structure Unaltered (phrase : List Char) : Prop where
  trimmed : trim phrase = phrase
  comment : '#' ∉ phrase
  quotes : phrase.head? ≠ some '"' ∧ phrase.getLast? ≠ some '"'

theorem valueOf_sublist (raw : List Char) : (valueOf raw).Sublist raw := by
  unfold valueOf
  split
  · split
    · exact List.take_sublist _ _
    · exact List.Sublist.refl _
  · split
    · exact stripped_sublist.trans (List.take_sublist _ _)
    · exact List.Sublist.refl _

theorem valueOf_unquoted {raw : List Char} (unquoted : raw.head? ≠ some '"') :
    valueOf raw = match raw.idxOf? '#' with
      | some hash => trim (raw.take hash)
      | none => raw := by
  unfold valueOf
  split
  · exact absurd rfl unquoted
  · rfl

-- every step of the reading only takes characters away
theorem readBack_eq_self_iff {phrase : List Char} : readBack phrase = phrase ↔ Unaltered phrase := by
  constructor
  · intro same
    have trims : (trim phrase).Sublist phrase := stripped_sublist
    have cuts := valueOf_sublist (trim phrase)
    have strips : (trimMatches '"' (valueOf (trim phrase))).Sublist (valueOf (trim phrase)) := stripped_sublist
    have length := congrArg List.length same
    have bounds := And.intro trims.length_le (And.intro cuts.length_le strips.length_le)
    rw [readBack] at length
    have trimmed : trim phrase = phrase := trims.eq_of_length (by omega)
    have whole : valueOf (trim phrase) = trim phrase := cuts.eq_of_length (by omega)
    have stripped : trimMatches '"' phrase = phrase := by rwa [readBack, whole, trimmed] at same
    have first : phrase.head? ≠ some '"' := fun quote => head_of_stripped stripped _ quote (decide_eq_true rfl)
    have last : phrase.getLast? ≠ some '"' := fun quote => getLast_of_stripped stripped _ quote (decide_eq_true rfl)
    refine ⟨trimmed, fun comment => ?_, first, last⟩
    rw [trimmed, valueOf_unquoted first] at whole
    obtain ⟨left, right, rfl, absent⟩ := List.eq_append_cons_of_mem comment
    rw [idxOf?_append_cons absent] at whole
    simp only [List.take_left] at whole
    have shorter : (trim left).length ≤ left.length := stripped_sublist.length_le
    rw [whole, List.length_append, List.length_cons] at shorter
    omega
  · rintro ⟨trimmed, comment, first, last⟩
    have whole : valueOf phrase = phrase := by rw [valueOf_unquoted first, List.idxOf?_eq_none_iff.mpr comment]
    rw [readBack, trimmed, whole]
    refine stripped_of_ends (fun c head same => first ?_) fun c tail same => last ?_
    · rwa [of_decide_eq_true same] at head
    · rwa [of_decide_eq_true same] at tail

theorem splitSections_append_loose {above : List (List Char)} (none : (splitSections above).2 = []) (below : List (List Char)) :
    splitSections (above ++ below) = ((splitSections above).1 ++ (splitSections below).1, (splitSections below).2) := by
  induction above with
  | nil => rfl
  | cons line above ih =>
      rw [List.cons_append, splitSections, splitSections] at *
      cases kind : readLine line with
      | skipped =>
          simp only [kind] at none
          simp [ih none]
      | header name => simp [kind] at none
      | entry keyName value =>
          simp only [kind] at none
          simp [ih none]

theorem splitSections_append {above : List (List Char)} {front : List FileSection} {sec : FileSection}
    (last : (splitSections above).2 = front ++ [sec]) (below : List (List Char)) :
    splitSections (above ++ below) = ((splitSections above).1,
      front ++ ⟨sec.name, sec.entries ++ (splitSections below).1⟩ :: (splitSections below).2) := by
  induction above generalizing front with
  | nil => simp [splitSections] at last
  | cons line above ih =>
      rw [splitSections] at last
      rw [List.cons_append, splitSections, splitSections]
      cases kind : readLine line with
      | skipped | entry =>
          simp only [kind] at last
          simp only [ih last]
      | header name =>
          simp only [kind] at last
          cases front with
          | nil =>
              obtain ⟨rfl, none⟩ := List.cons.inj last
              simp only [splitSections_append_loose none, List.nil_append]
          | cons first front =>
              obtain ⟨rfl, later⟩ := List.cons.inj last
              simp only [ih later, List.cons_append]

structure LinePlace where
  above : List Char
  lineEnd : List Char
  below : List Char
  fresh : above = [] ∨ above.getLast? = some '\n'
  ends : lineEnd = ['\n'] ∨ lineEnd = ['\r', '\n'] ∨ lineEnd = [] ∧ below = []

namespace LinePlace

def fill (place : LinePlace) (line : List Char) : List Char := place.above ++ (line ++ (place.lineEnd ++ place.below))

theorem lines_fill (place : LinePlace) {line : List Char} (some : line ≠ []) (whole : '\n' ∉ line) :
    ∃ same, readLine same = readLine line ∧ lines (place.fill line) = lines place.above ++ same :: lines place.below := by
  rw [fill, lines_append place.fresh]
  rcases place.ends with feed | carriage | ⟨noEnd, last⟩
  · refine ⟨stripCarriageReturn line, readLine_stripCarriageReturn line, ?_⟩
    rw [feed, List.singleton_append, lines_cons whole]
  · refine ⟨stripCarriageReturn (line ++ ['\r']), ?_, ?_⟩
    · rw [readLine_stripCarriageReturn]
      simp only [readLine, trim_concat_blank line (by decide : isWhitespace '\r')]
    · have whole : '\n' ∉ line ++ ['\r'] := by simpa using whole
      rw [carriage, ← lines_cons whole]
      simp
  · refine ⟨line, rfl, ?_⟩
    rw [noEnd, last, List.append_nil, List.append_nil, lines_single some whole]
    rfl

structure Keyless (place : LinePlace) (front : List FileSection) (sec : FileSection) : Prop where
  inside : sectionsOf place.above = front ++ [sec]
  isPeer : sec.isPeer = true
  others : ∀ e ∈ sec.entries ++ (splitSections (lines place.below)).1,
    PeerKey.ofName e.1 ≠ some .key ∧ PeerKey.ofName e.1 ≠ some .passphrase

theorem Keyless.named {place : LinePlace} {front : List FileSection} {sec : FileSection} (keyless : place.Keyless front sec)
    (entries : List Entry) : (FileSection.mk sec.name entries).isPeer = true := keyless.isPeer

theorem sectionsOf_fill {place : LinePlace} {front : List FileSection} {sec : FileSection} (keyless : place.Keyless front sec)
    {line keyName value : List Char} (some : line ≠ []) (whole : '\n' ∉ line) (read : readLine line = .entry keyName value) :
    sectionsOf (place.fill line) =
      front ++ ⟨sec.name, sec.entries ++ (keyName, value) :: (splitSections (lines place.below)).1⟩ ::
        (splitSections (lines place.below)).2 := by
  obtain ⟨same, reads, text⟩ := place.lines_fill some whole
  rw [sectionsOf, text, splitSections_append keyless.inside, splitSections, reads, read]

end LinePlace

def PeerBuilder.withSecret (key : Option (Vector UInt8 32)) (passphrase : Option (List Char)) (b : PeerBuilder) : PeerBuilder :=
  { b with key, passphrase }

def PeerConfig.withKey (k : Vector UInt8 32) (p : PeerConfig) : PeerConfig := { p with key := k }

section Secret

variable {key : Option (Vector UInt8 32)} {passphrase : Option (List Char)}

theorem setPeer_withSecret {field : PeerKey} (other : field ≠ .key ∧ field ≠ .passphrase) (value : List Char) (b : PeerBuilder) :
    setPeer field value (b.withSecret key passphrase) = (setPeer field value b).map (PeerBuilder.withSecret key passphrase) := by
  have through {α : Type} (x : Parsed α) (set : α → PeerBuilder) :
      (do let a ← x; pure ((set a).withSecret key passphrase) : Parsed PeerBuilder) =
        (do let a ← x; pure (set a)).map (PeerBuilder.withSecret key passphrase) := by
    cases x <;> rfl
  cases field with
  | key => exact absurd rfl other.1
  | passphrase => exact absurd rfl other.2
  | peerIp =>
      rw [setPeer, setPeer]
      split_ifs
      · rfl
      · exact through _ fun ip => { b with peerIp := some ip }
  | mtu => exact through _ fun n => { b with mtu := n }
  | bindIp => exact through _ fun ip => { b with bindIp := some ip }
  | bindPort => exact through _ fun n => { b with bindPort := some n }
  | ports => exact through _ fun ports => { b with ports := some ports }
  | peerPorts => exact through _ fun ports => { b with peerPorts := some ports }
  | keepaliveDropPercent => exact through _ fun n => { b with keepaliveDropPercent := n }
  | defaultPolicy => exact through _ fun policy => { b with defaultPolicy := policy }
  | obfs => exact through _ fun mode => { b with obfs := mode }
  | name | nic | address | wgHost | wgPort | ownHttp3 | responder | sipDomain => rfl

theorem foldlM_withSecret {entries : List Entry}
    (others : ∀ e ∈ entries, PeerKey.ofName e.1 ≠ some .key ∧ PeerKey.ofName e.1 ≠ some .passphrase) (b : PeerBuilder) :
    entries.foldlM peerEntry (b.withSecret key passphrase) =
      (entries.foldlM peerEntry b).map (PeerBuilder.withSecret key passphrase) := by
  induction entries generalizing b with
  | nil => rfl
  | cons e entries ih =>
      obtain ⟨here, later⟩ := List.forall_mem_cons.mp others
      have step : peerEntry (b.withSecret key passphrase) e = (peerEntry b e).map (PeerBuilder.withSecret key passphrase) := by
        rw [peerEntry, peerEntry]
        cases known : PeerKey.ofName e.1 with
        | none => rfl
        | some field => exact setPeer_withSecret ⟨fun same => here.1 (same ▸ known), fun same => here.2 (same ▸ known)⟩ e.2 b
      rw [List.foldlM_cons, List.foldlM_cons, step]
      cases peerEntry b e with
      | error err => rfl
      | ok next => exact ih later next

theorem builder_secret {before after : List Entry} {e : Entry}
    (others : ∀ e ∈ before ++ after, PeerKey.ofName e.1 ≠ some .key ∧ PeerKey.ofName e.1 ≠ some .passphrase)
    (sets : ∀ b : PeerBuilder, b.key = none → b.passphrase = none → peerEntry b e = .ok (b.withSecret key passphrase))
    (name : List Char) :
    (FileSection.mk name (before ++ e :: after)).builder =
      ((before ++ after).foldlM peerEntry {}).map (PeerBuilder.withSecret key passphrase) := by
  obtain ⟨earlier, later⟩ := List.forall_mem_append.mp others
  have start := @foldlM_withSecret none none _ earlier {}
  rw [FileSection.builder, List.foldlM_append, List.foldlM_append]
  cases opened : before.foldlM peerEntry {} with
  | error err => rfl
  | ok b =>
      -- nothing above the entry has set a key or a passphrase
      have fresh : b = b.withSecret none none := by
        rw [opened] at start
        exact Except.ok.inj (opened.symm.trans start)
      rw [bind_ok, bind_ok, List.foldlM_cons, sets b (by rw [fresh]; rfl) (by rw [fresh]; rfl), bind_ok, foldlM_withSecret later]

theorem build_withSecret {b : PeerBuilder} {key' : Option (Vector UInt8 32)} {passphrase' : Option (List Char)}
    {k k' : Vector UInt8 32} (means : (b.withSecret key passphrase).keyOf = .ok k)
    (means' : (b.withSecret key' passphrase').keyOf = .ok k') {mtu : UInt16} {index : Nat} {p : PeerConfig}
    (built : (b.withSecret key passphrase).build mtu index = .ok p) :
    p.key = k ∧ (b.withSecret key' passphrase').build mtu index = .ok (p.withKey k') := by
  rw [PeerBuilder.build] at built ⊢
  obtain ⟨peerIp, ip, built⟩ := bind_eq_ok.mp built
  obtain ⟨ports, own, built⟩ := bind_eq_ok.mp built
  obtain ⟨media, built⟩ := rejectIf_bind_eq_ok.mp built
  rw [means] at built
  cases built
  refine ⟨rfl, bind_eq_ok.mpr ⟨peerIp, ip, bind_eq_ok.mpr ⟨ports, own, rejectIf_bind_eq_ok.mpr ⟨media, ?_⟩⟩⟩⟩
  rw [means']
  rfl

end Secret

def SecretEntry (e : Entry) (k : Vector UInt8 32) : Prop :=
  ∃ key passphrase,
    (∀ b : PeerBuilder, b.key = none → b.passphrase = none → peerEntry b e = .ok (b.withSecret key passphrase)) ∧
      ∀ b : PeerBuilder, (b.withSecret key passphrase).keyOf = .ok k

section Replace

variable {name : List Char} {before after : List Entry} {e e' : Entry} {k k' : Vector UInt8 32}

theorem FileSection.Builds.withKey {index : Nat} {p : PeerConfig}
    (builds : (FileSection.mk name (before ++ e :: after)).Builds index p)
    (others : ∀ e ∈ before ++ after, PeerKey.ofName e.1 ≠ some .key ∧ PeerKey.ofName e.1 ≠ some .passphrase)
    (secret : SecretEntry e k) (secret' : SecretEntry e' k') :
    p.key = k ∧ (FileSection.mk name (before ++ e' :: after)).Builds index (p.withKey k') := by
  obtain ⟨key, passphrase, sets, means⟩ := secret
  obtain ⟨key', passphrase', sets', means'⟩ := secret'
  obtain ⟨b, opened, built⟩ := builds
  rw [builder_secret others sets] at opened
  cases base : (before ++ after).foldlM peerEntry {} with
  | error err =>
      rw [base] at opened
      cases opened
  | ok start =>
      rw [base] at opened
      cases opened
      obtain ⟨same, rebuilt⟩ := build_withSecret (means start) (means' start) built
      exact ⟨same, start.withSecret key' passphrase', by rw [builder_secret others sets', base]; rfl, rebuilt⟩

end Replace

section Whole

variable {front rest : List FileSection} {sec sec' : FileSection}

theorem peerSections_append_cons (isPeer : sec.isPeer = true) :
    peerSections (front ++ sec :: rest) = peerSections front ++ sec :: peerSections rest := by
  simp [peerSections, isPeer]

theorem globalEntries_append_cons (isPeer : sec.isPeer = true) :
    globalEntries (front ++ sec :: rest) = globalEntries front ++ globalEntries rest := by
  simp [globalEntries, globalEntries_of_isPeer isPeer]

theorem mtusAtHeaders_replace (isPeer : sec.isPeer = true) (isPeer' : sec'.isPeer = true) (settings : List GlobalEntry) :
    mtusAtHeaders settings (front ++ sec' :: rest) = mtusAtHeaders settings (front ++ sec :: rest) := by
  induction front generalizing settings with
  | nil => simp [mtusAtHeaders, isPeer, isPeer', globalEntries_of_isPeer]
  | cons first front ih => simp [mtusAtHeaders, ih]

theorem zipWith_withMtu_modify (mtus : List UInt16) (ps : List PeerConfig) (index : Nat) (k : Vector UInt8 32) :
    mtus.zipWith PeerConfig.withMtu (ps.modify index (PeerConfig.withKey k)) =
      (mtus.zipWith PeerConfig.withMtu ps).modify index (PeerConfig.withKey k) := by
  apply List.ext_getElem
  · simp
  · intro i _ _
    simp only [List.getElem_zipWith, List.getElem_modify]
    split_ifs <;> rfl

def Config.withKey (index : Nat) (k : Vector UInt8 32) (c : Config) : Config :=
  { c with peers := c.peers.modify index (PeerConfig.withKey k) }

theorem configOf_replace (isPeer : sec.isPeer = true) (isPeer' : sec'.isPeer = true) (ps : List PeerConfig) (index : Nat)
    (k : Vector UInt8 32) :
    configOf (front ++ sec' :: rest) (ps.modify index (PeerConfig.withKey k)) =
      (configOf (front ++ sec :: rest) ps).withKey index k := by
  rw [configOf, configOf, Config.withKey, peerMtus, peerMtus, mtusAtHeaders_replace isPeer isPeer',
    globalEntries_append_cons isPeer, globalEntries_append_cons isPeer', zipWith_withMtu_modify]

theorem Accepts.replace {ps : List PeerConfig} (accepts : Accepts (front ++ sec :: rest) ps) (isPeer : sec.isPeer = true)
    (isPeer' : sec'.isPeer = true) {k : Vector UInt8 32}
    (builds : ∀ p, sec.Builds (peerSections front).length p → sec'.Builds (peerSections front).length (p.withKey k)) :
    Accepts (front ++ sec' :: rest) (ps.modify (peerSections front).length (PeerConfig.withKey k)) := by
  have kept {α : Type} {field : PeerConfig → α} (unrelated : ∀ p, field (p.withKey k) = field p) :
      ps.map field = (ps.modify (peerSections front).length (PeerConfig.withKey k)).map field := by
    apply List.ext_getElem
    · simp
    · intro i _ _
      simp only [List.getElem_map, List.getElem_modify]
      split_ifs
      · exact (unrelated _).symm
      · rfl
  obtain ⟨spelled, built, some, names, ports⟩ := accepts
  obtain ⟨length, each⟩ := builders_iff.mp built
  rw [globalEntries_append_cons isPeer] at spelled
  simp only [peerSections_append_cons isPeer, List.length_append, List.length_cons] at length each
  refine ⟨by rwa [globalEntries_append_cons isPeer'], builders_iff.mpr ⟨?_, fun i inside inside' => ?_⟩, ?_, ?_, ?_⟩
  · simpa [peerSections_append_cons isPeer'] using length
  · simp only [peerSections_append_cons isPeer', List.length_append, List.length_cons, List.length_modify] at inside inside' ⊢
    have here := each i inside inside'
    rw [List.getElem_modify]
    rcases Nat.lt_trichotomy i (peerSections front).length with before | rfl | behind
    · rw [if_neg (by omega)]
      rwa [List.getElem_append_left before] at here ⊢
    · rw [if_pos rfl]
      rw [List.getElem_append_right (Nat.le_refl _)] at here ⊢
      simp only [Nat.sub_self, List.getElem_cons_zero] at here ⊢
      exact builds _ here
    · obtain ⟨j, rfl⟩ : ∃ j, i = (peerSections front).length + 1 + j := Nat.exists_eq_add_of_le behind
      rw [if_neg (by omega)]
      rw [List.getElem_append_right (by omega)] at here ⊢
      simpa [Nat.add_assoc, Nat.add_comm 1 j] using here
  · rwa [Ne, List.modify_eq_nil_iff]
  · rwa [← checkNames_congr [] (kept fun _ => rfl)]
  · rwa [← checkPorts_congr [] (kept fun _ => rfl)]

end Whole

structure SecretLine (line : List Char) (k : Vector UInt8 32) : Prop where
  some : line ≠ []
  whole : '\n' ∉ line
  read : ∃ keyName value, readLine line = .entry keyName value ∧ SecretEntry (keyName, value) k

theorem parseConfig_fill {place : LinePlace} {front : List FileSection} {sec : FileSection} (keyless : place.Keyless front sec)
    {line line' : List Char} {k k' : Vector UInt8 32} (secret : SecretLine line k) (secret' : SecretLine line' k') {c : Config}
    (accepted : parseConfig (place.fill line) = .ok c) :
    parseConfig (place.fill line') = .ok (c.withKey (peerSections front).length k') := by
  obtain ⟨some, whole, keyName, value, read, entry⟩ := secret
  obtain ⟨some', whole', keyName', value', read', entry'⟩ := secret'
  obtain ⟨ps, accepts, rfl⟩ := parseConfig_eq_ok.mp accepted
  rw [LinePlace.sectionsOf_fill keyless some whole read] at accepts ⊢
  refine parseConfig_eq_ok.mpr ⟨ps.modify (peerSections front).length (PeerConfig.withKey k'), ?_⟩
  rw [LinePlace.sectionsOf_fill keyless some' whole' read']
  have named := keyless.named
  refine ⟨accepts.replace (named _) (named _) fun p builds => ?_, (configOf_replace (named _) (named _) _ _ _).symm⟩
  exact (builds.withKey keyless.others entry entry').2

theorem keyName_secret : KeyName "key".toList ∧ KeyName "passphrase".toList :=
  ⟨⟨by decide, by decide, by decide, by decide, by decide⟩, ⟨by decide, by decide, by decide, by decide, by decide⟩⟩

theorem keyToHex_plain (k : Vector UInt8 32) : Plain (keyToHex k) := by
  have blanks : ∀ n : Fin 128, IsHexDigit (Char.ofNat n) → ¬isWhitespace (Char.ofNat n) := by decide +kernel
  have solid (c : Char) (member : c ∈ keyToHex k) : ¬isWhitespace c := by
    have digit := (mem_keyToHex k member).1
    have here := blanks ⟨c.toNat, plain_of_isHexDigit digit⟩
    rw [Char.ofNat_toNat] at here
    exact here digit
  have absent {c : Char} (other : ¬IsHexDigit c) : c ∉ keyToHex k := fun member => other (mem_keyToHex k member).1
  refine ⟨stripped_of_ends (fun c first => ?_) fun c last => ?_, absent (by decide), absent (by decide), absent (by decide)⟩
  · exact solid c (List.mem_of_head? first)
  · exact solid c (List.mem_of_getLast? last)

theorem secretLine_hex (k : Vector UInt8 32) : SecretLine (hexLine k) k := by
  have plain := keyToHex_plain k
  have name := keyName_secret.1
  refine ⟨List.cons_ne_nil _ _, name.oneLine plain.line, _, _, readLine_keyLine name, some k, none, fun b _ noPhrase => ?_,
    fun b => rfl⟩
  have known : PeerKey.ofName "key".toList = some .key := by decide
  rw [plain.trimmed, valueOf_plain plain, peerEntry, known]
  dsimp only
  rw [setPeer, plain.trimmed, parseHexKey_keyToHex, PeerBuilder.withSecret, ← noPhrase]
  rfl

-- quotes, blanks and comments of the phrase are lost on the way
theorem secretLine_phrase {phrase : List Char} (whole : '\n' ∉ phrase) {k : Vector UInt8 32}
    (derived : deriveKey (readBack phrase) = .ok k) : SecretLine (phraseLine phrase) k := by
  have name := keyName_secret.2
  refine ⟨List.cons_ne_nil _ _, name.oneLine whole, _, _, readLine_keyLine name, none, some (readBack phrase), fun b noKey _ => ?_,
    fun b => ?_⟩
  · have known : PeerKey.ofName "passphrase".toList = some .passphrase := by decide
    rw [peerEntry, known, PeerBuilder.withSecret, ← noKey]
    rfl
  · change unwrapped (deriveKey (readBack phrase)) = .ok k
    rw [derived]
    rfl

def Collides (phrase phrase' : List Char) : Prop := phrase ≠ phrase' ∧ deriveKey phrase = deriveKey phrase'

theorem readBack_key_iff {phrase : List Char} :
    deriveKey (readBack phrase) = deriveKey phrase ↔ Unaltered phrase ∨ Collides (readBack phrase) phrase := by
  rw [← readBack_eq_self_iff, Collides]
  by_cases same : readBack phrase = phrase
  · simp [same]
  · simp [same]

theorem getElem?_withKey {c : Config} {index : Nat} (inside : index < c.peers.length) (k : Vector UInt8 32) :
    (c.withKey index k).peers[index]? = some ((c.peers[index]).withKey k) := by
  simp [Config.withKey, inside]

theorem cmdGenkey_derived {getrandom : Except String (Vector UInt8 32)} {args : List (List Char)} {phrase : List Char}
    {k : Vector UInt8 32} (given : passphraseArg none (args.drop 2) = .ok (some phrase)) (derived : deriveKey phrase = .ok k) :
    cmdGenkey getrandom args =
      .ok ⟨[keyToHex k], [derivedNote, addNote ++ hexLine k, orNote ++ phraseLine phrase]⟩ := by
  rw [cmdGenkey, given, bind_ok]
  dsimp only
  rw [derived]
  rfl

theorem printedPassphrase_iff {getrandom : Except String (Vector UInt8 32)} {args : List (List Char)} {phrase : List Char}
    (given : passphraseArg none (args.drop 2) = .ok (some phrase)) (oneLine : '\n' ∉ phrase) {place : LinePlace}
    {front : List FileSection} {sec : FileSection} (keyless : place.Keyless front sec)
    (valid : ∃ k c, parseConfig (place.fill (hexLine k)) = .ok c) :
    (∃ out hexText phraseText c p, cmdGenkey getrandom args = .ok out ∧
        out.stderr = [derivedNote, addNote ++ hexText, orNote ++ phraseText] ∧
        parseConfig (place.fill phraseText) = .ok c ∧ c.peers[(peerSections front).length]? = some p ∧
        deriveKey phrase = .ok p.key ∧ parseConfig (place.fill hexText) = .ok c) ↔
      Unaltered phrase ∨ Collides (readBack phrase) phrase := by
  obtain ⟨k₀, c₀, accepted⟩ := valid
  obtain ⟨k, derived⟩ := deriveKey_total phrase
  obtain ⟨back, derivedBack⟩ := deriveKey_total (readBack phrase)
  have hexFile := parseConfig_fill keyless (secretLine_hex k₀) (secretLine_hex k) accepted
  have phraseFile := parseConfig_fill keyless (secretLine_hex k₀) (secretLine_phrase oneLine derivedBack) accepted
  have ran := @cmdGenkey_derived getrandom _ _ _ given derived
  have inside : (peerSections front).length < c₀.peers.length := by
    obtain ⟨some, whole, keyName, value, read, -⟩ := secretLine_hex k₀
    rw [length_peers accepted, LinePlace.sectionsOf_fill keyless some whole read, peerSections_append_cons (keyless.named _)]
    simp
  rw [← readBack_key_iff, derived, derivedBack, Except.ok.injEq]
  constructor
  · rintro ⟨out, hexText, phraseText, c, p, printed, shown, phraseParsed, here, same, -⟩
    rw [ran] at printed
    cases printed
    obtain ⟨-, rfl⟩ : hexLine k = hexText ∧ phraseLine phrase = phraseText := by simpa using shown
    rw [phraseFile] at phraseParsed
    cases phraseParsed
    rw [getElem?_withKey inside] at here
    cases here
    exact (Except.ok.inj same).symm
  · rintro rfl
    exact ⟨_, hexLine back, phraseLine phrase, _, (c₀.peers[(peerSections front).length]).withKey back, ran, rfl, phraseFile,
      getElem?_withKey inside back, rfl, hexFile⟩

def samplePlace : LinePlace where
  above := "[peer]\npeer_ip = dynamic\n".toList ++ "ports = 443\n".toList
  lineEnd := ['\n']
  below := []
  fresh := .inr (by decide +kernel)
  ends := .inl rfl

def sampleSection : FileSection := ⟨"peer".toList, [("peer_ip".toList, "dynamic".toList), ("ports".toList, "443".toList)]⟩

theorem samplePlace_keyless : samplePlace.Keyless [] sampleSection := ⟨by decide +kernel, by decide +kernel, by decide +kernel⟩

theorem samplePlace_valid : ∃ k c, parseConfig (samplePlace.fill (hexLine k)) = .ok c := by
  have accepted : (parseConfig (samplePlace.fill (hexLine (Vector.replicate 32 0)))).toOption.isSome := by decide +kernel
  obtain ⟨c, parsed⟩ := Option.isSome_iff_exists.mp accepted
  exact ⟨_, c, toOption_eq_some.mp parsed⟩

def genkeyArgs (phrase : List Char) : List (List Char) := ["gutd".toList, "genkey".toList, "-p".toList, phrase]

theorem printedPassphrase_plain :
    ∃ out hexText phraseText c p, cmdGenkey (.error "no entropy") (genkeyArgs "two words".toList) = .ok out ∧
      out.stderr = [derivedNote, addNote ++ hexText, orNote ++ phraseText] ∧
      parseConfig (samplePlace.fill phraseText) = .ok c ∧ c.peers[0]? = some p ∧
      deriveKey "two words".toList = .ok p.key ∧ parseConfig (samplePlace.fill hexText) = .ok c :=
  (printedPassphrase_iff rfl (by decide) samplePlace_keyless samplePlace_valid).mpr
    (.inl ⟨by decide, by decide, by decide⟩)

-- the text behind the hash sign is dropped, and the peer gets the key of `a`
theorem printedPassphrase_comment :
    (∃ k, cmdGenkey (.error "no entropy") (genkeyArgs "a#b".toList) =
        .ok ⟨[keyToHex k], [derivedNote, addNote ++ hexLine k, orNote ++ phraseLine "a#b".toList]⟩) ∧
      ∃ c, parseConfig (samplePlace.fill (phraseLine "a#b".toList)) = .ok c ∧
        ∀ p, c.peers[0]? = some p → deriveKey "a#b".toList ≠ .ok p.key := by
  obtain ⟨k, derived⟩ := deriveKey_total "a#b".toList
  obtain ⟨back, derivedBack⟩ := deriveKey_total "a".toList
  have apart : (deriveKey "a#b".toList).toOption ≠ (deriveKey "a".toList).toOption := by decide +kernel
  have read : readBack "a#b".toList = "a".toList := by decide
  obtain ⟨k₀, c, accepted⟩ := samplePlace_valid
  have secret := secretLine_phrase (by decide) (read ▸ derivedBack)
  have parsed := parseConfig_fill samplePlace_keyless (secretLine_hex k₀) secret accepted
  refine ⟨⟨k, cmdGenkey_derived rfl derived⟩, _, parsed, fun p here same => apart ?_⟩
  obtain ⟨p₀, -, rfl⟩ : ∃ p₀, c.peers[0]? = some p₀ ∧ p₀.withKey back = p := by
    simpa [Config.withKey, peerSections] using here
  rw [same, derivedBack]
  rfl

end Gutd
