import Gutd.Config.Validity
import Mathlib.Data.List.Forall2

set_option autoImplicit false

namespace Gutd

open Bytes Checked Net Str

inductive LineKind where
  | skipped
  | header (name : List Char)
  | entry (keyName value : List Char)

def readLine (line : List Char) : LineKind :=
  let line := trim line
  if line = [] ∨ line.head? = some '#' then .skipped
  else if line.head? = some '[' ∧ line.getLast? = some ']' then .header line.tail.dropLast
  else
    match line.idxOf? '=' with
    | some eqPos => .entry (trim (line.take eqPos)) (valueOf (trim (line.drop (eqPos + 1))))
    | none => .skipped

def readStep (s : FileState) : LineKind → Parsed FileState
  | .skipped => pure s
  | .header name => enterSection name s
  | .entry keyName value => assign keyName value s

theorem lineStep_eq_readStep (s : FileState) (line : List Char) : lineStep s line = readStep s (readLine line) := by
  simp only [lineStep, readLine]
  split_ifs with blank header
  · rfl
  · rfl
  · cases (trim line).idxOf? '=' <;> rfl

theorem readLine_stripCarriageReturn (line : List Char) : readLine (stripCarriageReturn line) = readLine line := by
  simp only [readLine, trim_stripCarriageReturn]

structure KeyName (name : List Char) : Prop where
  some : name ≠ []
  trimmed : trim name = name
  equals : '=' ∉ name
  line : '\n' ∉ name
  first : ∀ c ∈ name.head?, c ≠ '#' ∧ c ≠ '['

theorem KeyName.oneLine {keyName raw : List Char} (name : KeyName keyName) (whole : '\n' ∉ raw) :
    '\n' ∉ keyName ++ ([' ', '=', ' '] ++ raw) := by
  simp [name.line, whole]

theorem readLine_keyLine {keyName raw : List Char} (name : KeyName keyName) :
    readLine (keyName ++ ([' ', '=', ' '] ++ raw)) = .entry keyName (valueOf (trim raw)) := by
  have start := name.first _ (List.head?_eq_some_head name.some)
  have blank : '=' ∉ keyName ++ [' '] := by simpa using name.equals
  have first : ∀ b ∈ (keyName ++ [' ']).head?, ¬isWhitespace b := by
    rw [List.head?_append_of_ne_nil _ name.some]
    exact head_of_stripped name.trimmed
  have line : trim (keyName ++ ([' ', '=', ' '] ++ raw)) = keyName ++ [' '] ++ '=' :: (' ' :: raw).rdropWhile isWhitespace := by
    rw [← trim_append_cons first (by decide), List.append_assoc]
    rfl
  have before (rest : List Char) : (keyName ++ [' '] ++ '=' :: rest).take (keyName ++ [' ']).length = keyName ++ [' '] :=
    List.take_left
  have after (rest : List Char) : (keyName ++ [' '] ++ '=' :: rest).drop ((keyName ++ [' ']).length + 1) = rest := by
    rw [← List.drop_drop, List.drop_left]
    rfl
  simp only [readLine, line]
  rw [if_neg (by simp [List.head?_eq_some_head name.some, start.1]),
    if_neg (by simp [List.head?_eq_some_head name.some, start.2]), idxOf?_append_cons blank]
  simp only [before, after, trim_rdropWhile, trim_concat_blank keyName (by decide : isWhitespace ' '), name.trimmed,
    trim_cons_blank (by decide : isWhitespace ' ')]

abbrev Entry := List Char × List Char

structure FileSection where
  name : List Char
  entries : List Entry
  deriving DecidableEq

def splitSections : List (List Char) → List Entry × List FileSection
  | [] => ([], [])
  | line :: rest =>
      let (loose, sections) := splitSections rest
      match readLine line with
      | .skipped => (loose, sections)
      | .header name => ([], ⟨name, loose⟩ :: sections)
      | .entry keyName value => ((keyName, value) :: loose, sections)

def sectionsOf (content : List Char) : List FileSection := (splitSections (lines content)).2

def assignEntry (s : FileState) (e : Entry) : Parsed FileState := assign e.1 e.2 s

def sectionStep (s : FileState) (sec : FileSection) : Parsed FileState := do
  let s ← enterSection sec.name s
  sec.entries.foldlM assignEntry s

theorem run_lines (lines : List (List Char)) (s : FileState) :
    lines.foldlM lineStep s = (do
      let s ← (splitSections lines).1.foldlM assignEntry s
      (splitSections lines).2.foldlM sectionStep s) := by
  induction lines generalizing s with
  | nil => rfl
  | cons line rest ih =>
      rw [List.foldlM_cons, lineStep_eq_readStep, splitSections]
      cases readLine line with
      | skipped => exact ih s
      | header name =>
          change (do let s ← enterSection name s; _) = (do let s ← pure s; List.foldlM sectionStep s (_ :: _))
          rw [pure_bind, List.foldlM_cons, sectionStep, bind_assoc]
          exact bind_congr ih
      | entry keyName value =>
          change (do let s ← assign keyName value s; _) = (do let s ← List.foldlM assignEntry s (_ :: _); _)
          rw [List.foldlM_cons, bind_assoc]
          exact bind_congr ih

-- no section is open above the first header, and entries outside the two known sections are ignored
theorem run_loose {entries : List Entry} {s : FileState} (other : s.currentSection ≠ "global".toList)
    (none : s.currentSection ≠ "peer".toList) : entries.foldlM assignEntry s = .ok s := by
  induction entries with
  | nil => rfl
  | cons e entries ih =>
      rw [List.foldlM_cons, assignEntry, assign, if_neg other, if_neg none]
      exact ih

theorem parseConfig_sections (content : List Char) :
    parseConfig content = (do let s ← (sectionsOf content).foldlM sectionStep {}; finish s) := by
  rw [parseConfig, run_lines, run_loose (by decide) (by decide)]
  rfl

abbrev GlobalEntry := GlobalKey × List Char

namespace FileSection

def isPeer (sec : FileSection) : Bool := sec.name = "peer".toList

def globalEntries (sec : FileSection) : List GlobalEntry :=
  if sec.name = "global".toList then sec.entries.filterMap fun e => (GlobalKey.ofName e.1).map (·, e.2) else []

end FileSection

def globalEntries (sections : List FileSection) : List GlobalEntry := sections.flatMap FileSection.globalEntries

def peerSections (sections : List FileSection) : List FileSection := sections.filter FileSection.isPeer

def lastValue {κ : Type} [DecidableEq κ] (settings : List (κ × List Char)) (field : κ) : Option (List Char) :=
  (settings.filter (·.1 = field)).getLast?.map Prod.snd

section Values

variable (settings : List GlobalEntry)

def outerMtuOf : UInt16 := ((lastValue settings .outerMtu).bind fun v => (parseU16 v).toOption).getD 1500

def userspaceOnlyOf : Bool := ((lastValue settings .userspaceOnly).bind fun v => (parseBool v).toOption).getD false

def statsIntervalOf : UInt32 := ((lastValue settings .statsInterval).bind fun v => (parseU32 v).toOption).getD 5

def statFileOf : String := ((lastValue settings .statFile).map fun v => String.ofList (trimMatches '"' v)).getD "/run/gutd.stat"

end Values

def GlobalSpelled : GlobalEntry → Prop
  | (.outerMtu, v) => ∃ n, parseU16 v = .ok n
  | (.userspaceOnly, v) => ∃ b, parseBool v = .ok b
  | (.statsInterval, v) => ∃ n, parseU32 v = .ok n
  | (.statFile, _) => True

def stateAfter (settings : List GlobalEntry) (peers : List PeerConfig) (builder : Option PeerBuilder) (current : List Char) :
    FileState :=
  { outerMtu := outerMtuOf settings, userspaceOnly := userspaceOnlyOf settings, statsInterval := statsIntervalOf settings
    statFile := statFileOf settings, peers, currentBuilder := builder, currentSection := current }

theorem lastValue_concat {κ : Type} [DecidableEq κ] (settings : List (κ × List Char)) (field other : κ) (value : List Char) :
    lastValue (settings ++ [(field, value)]) other = if field = other then some value else lastValue settings other := by
  by_cases same : field = other <;> simp [lastValue, same]

section Global

variable {settings : List GlobalEntry} {peers : List PeerConfig} {builder : Option PeerBuilder} {current : List Char}

theorem setGlobal_eq_ok {field : GlobalKey} {value : List Char} {s : FileState} :
    setGlobal field value (stateAfter settings peers builder current) = .ok s ↔
      GlobalSpelled (field, value) ∧ s = stateAfter (settings ++ [(field, value)]) peers builder current := by
  cases field with
  | outerMtu =>
      cases parsed : parseU16 value <;>
        simp [setGlobal, parseInt, parsed, orMessage, reject, GlobalSpelled, stateAfter, outerMtuOf, userspaceOnlyOf,
          statsIntervalOf, statFileOf, lastValue_concat, Except.toOption, eq_comm]
  | userspaceOnly =>
      cases parsed : parseBool value <;>
        simp [setGlobal, parsed, GlobalSpelled, stateAfter, outerMtuOf, userspaceOnlyOf,
          statsIntervalOf, statFileOf, lastValue_concat, Except.toOption, eq_comm]
  | statsInterval =>
      cases parsed : parseU32 value <;>
        simp [setGlobal, parseInt, parsed, orMessage, reject, GlobalSpelled, stateAfter, outerMtuOf, userspaceOnlyOf,
          statsIntervalOf, statFileOf, lastValue_concat, Except.toOption, eq_comm]
  | statFile =>
      simp [setGlobal, GlobalSpelled, stateAfter, outerMtuOf, userspaceOnlyOf, statsIntervalOf, statFileOf, lastValue_concat,
        eq_comm]

theorem run_globalEntries {entries : List Entry} {s : FileState} :
    entries.foldlM assignEntry (stateAfter settings peers builder "global".toList) = .ok s ↔
      (∀ e ∈ (FileSection.mk "global".toList entries).globalEntries, GlobalSpelled e) ∧
        s = stateAfter (settings ++ (FileSection.mk "global".toList entries).globalEntries) peers builder "global".toList := by
  induction entries generalizing settings with
  | nil => simp [FileSection.globalEntries, eq_comm]
  | cons e entries ih =>
      have inside : (stateAfter settings peers builder "global".toList).currentSection = "global".toList := rfl
      simp only [FileSection.globalEntries, if_true] at ih ⊢
      rw [List.foldlM_cons, assignEntry, assign, if_pos inside]
      cases known : GlobalKey.ofName e.1 with
      | none => simpa [known] using ih
      | some field =>
          simp only [bind_eq_ok, setGlobal_eq_ok]
          constructor
          · rintro ⟨next, ⟨spelled, rfl⟩, rest⟩
            have later := ih.mp rest
            simpa [known, spelled] using later
          · rintro ⟨spelled, last⟩
            simp only [List.filterMap_cons, known, Option.map_some, List.mem_cons, forall_eq_or_imp] at spelled last
            refine ⟨_, ⟨spelled.1, rfl⟩, ih.mpr ⟨spelled.2, ?_⟩⟩
            simpa using last

end Global

def peerEntry (b : PeerBuilder) (e : Entry) : Parsed PeerBuilder :=
  match PeerKey.ofName e.1 with
  | some known => setPeer known e.2 b
  | none => pure b

def FileSection.builder (sec : FileSection) : Parsed PeerBuilder := sec.entries.foldlM peerEntry {}

def PeerConfig.withMtu (mtu : UInt16) (p : PeerConfig) : PeerConfig := { p with outerMtu := mtu }

def basePeers (builders : List PeerBuilder) : Parsed (List PeerConfig) := builders.zipIdx.mapM fun b => b.1.build 0 b.2

def mtusAtHeaders (settings : List GlobalEntry) : List FileSection → List UInt16
  | [] => []
  | sec :: sections =>
      (if sec.isPeer then [outerMtuOf settings] else []) ++ mtusAtHeaders (settings ++ sec.globalEntries) sections

theorem PeerBuilder.build_eq_map (b : PeerBuilder) (mtu : UInt16) (index : Nat) :
    b.build mtu index = (b.build 0 index).map (PeerConfig.withMtu mtu) := by
  unfold PeerBuilder.build
  cases b.peerIpOf with
  | error e => rfl
  | ok peerIp =>
      cases b.ports with
      | none => rfl
      | some ports =>
          by_cases few : b.obfs = .sip ∧ (b.peerPorts.getD ports).length < 2
          · simp only [bind_ok, orReject_some, rejectIf, if_pos few]
            rfl
          · simp only [bind_ok, orReject_some, rejectIf, if_neg few]
            cases b.keyOf <;> rfl

theorem run_peerEntries {settings : List GlobalEntry} {peers : List PeerConfig} {b : PeerBuilder} (entries : List Entry) :
    entries.foldlM assignEntry (stateAfter settings peers (some b) "peer".toList) = (do
      let b ← entries.foldlM peerEntry b
      pure (stateAfter settings peers (some b) "peer".toList)) := by
  induction entries generalizing b with
  | nil => rfl
  | cons e entries ih =>
      have other : (stateAfter settings peers (some b) "peer".toList).currentSection ≠ "global".toList := by
        change "peer".toList ≠ "global".toList
        decide
      have inside : (stateAfter settings peers (some b) "peer".toList).currentSection = "peer".toList := rfl
      rw [List.foldlM_cons, List.foldlM_cons, assignEntry, assign, if_neg other, if_pos inside, peerEntry]
      cases PeerKey.ofName e.1 with
      | none => exact ih
      | some known =>
          change (do
            let s ← (do
              let b ← setPeer known e.2 b
              pure (stateAfter settings peers (some b) "peer".toList)); _) =
            (do let b ← (do let b ← setPeer known e.2 b; _); _)
          cases setPeer known e.2 b with
          | error err => rfl
          | ok next => exact ih

def closePeer (builder : Option PeerBuilder) (mtu : UInt16) (peers : List PeerConfig) : Parsed (List PeerConfig) :=
  match builder with
  | none => pure peers
  | some b => do
      let p ← b.build mtu peers.length
      pure (peers ++ [p])

theorem finalizePeer_stateAfter (settings : List GlobalEntry) (peers : List PeerConfig) (builder : Option PeerBuilder)
    (current : List Char) :
    finalizePeer (stateAfter settings peers builder current) = (do
      let closed ← closePeer builder (outerMtuOf settings) peers
      pure (stateAfter settings closed none current)) := by
  cases builder with
  | none => rfl
  | some b =>
      rw [closePeer, bind_assoc]
      rfl

theorem sectionStep_peer {sec : FileSection} (settings : List GlobalEntry) (peers : List PeerConfig)
    (builder : Option PeerBuilder) (current : List Char) (named : sec.isPeer = true) :
    sectionStep (stateAfter settings peers builder current) sec = (do
      let closed ← closePeer builder (outerMtuOf settings) peers
      let b ← sec.builder
      pure (stateAfter settings closed (some b) sec.name)) := by
  have named : sec.name = "peer".toList := of_decide_eq_true named
  rw [sectionStep, enterSection, if_pos named, openPeer, finalizePeer_stateAfter, named]
  cases closePeer builder (outerMtuOf settings) peers with
  | error e => rfl
  | ok closed => exact run_peerEntries sec.entries

theorem sectionStep_other {sec : FileSection} {settings : List GlobalEntry} {peers : List PeerConfig}
    {builder : Option PeerBuilder} {current : List Char} {s : FileState} (named : ¬sec.isPeer = true) :
    sectionStep (stateAfter settings peers builder current) sec = .ok s ↔
      (∀ e ∈ sec.globalEntries, GlobalSpelled e) ∧ s = stateAfter (settings ++ sec.globalEntries) peers builder sec.name := by
  have named : sec.name ≠ "peer".toList := fun same => named (decide_eq_true same)
  rw [sectionStep, enterSection, if_neg named]
  change List.foldlM assignEntry (stateAfter settings peers builder sec.name) sec.entries = .ok s ↔ _
  by_cases isGlobal : sec.name = "global".toList
  · obtain ⟨name, entries⟩ := sec
    cases isGlobal
    exact run_globalEntries
  · rw [run_loose isGlobal named, FileSection.globalEntries, if_neg isGlobal]
    simp [eq_comm]

theorem basePeers_concat (builders : List PeerBuilder) (b : PeerBuilder) :
    basePeers (builders ++ [b]) = (do
      let ps ← basePeers builders
      let p ← b.build 0 builders.length
      pure (ps ++ [p])) := by
  simp [basePeers, List.zipIdx_append]

theorem length_basePeers {builders : List PeerBuilder} {ps : List PeerConfig} (built : basePeers builders = .ok ps) :
    ps.length = builders.length := by
  rw [← (mapM_eq_ok.mp built).length_eq, List.length_zipIdx]

theorem basePeers_dropLast {builders : List PeerBuilder} {all : List PeerConfig} (complete : basePeers builders = .ok all) :
    ∃ ps, basePeers builders.dropLast = .ok ps := by
  rcases List.eq_nil_or_concat builders with rfl | ⟨front, b, rfl⟩
  · exact ⟨[], rfl⟩
  · rw [List.concat_eq_append, basePeers_concat] at complete
    obtain ⟨ps, closed, -⟩ := bind_eq_ok.mp complete
    exact ⟨ps, by rwa [List.concat_eq_append, List.dropLast_concat]⟩

theorem closePeer_eq_ok {builders : List PeerBuilder} {ps closed : List PeerConfig} {mtus : List UInt16} {mtu : UInt16}
    (built : basePeers builders.dropLast = .ok ps) (length : mtus.length = ps.length) :
    closePeer builders.getLast? mtu (mtus.zipWith PeerConfig.withMtu ps) = .ok closed ↔
      ∃ all, basePeers builders = .ok all ∧ closed = (mtus ++ [mtu]).zipWith PeerConfig.withMtu all := by
  rcases List.eq_nil_or_concat builders with rfl | ⟨front, b, rfl⟩
  · cases built
    simp [closePeer, basePeers, eq_comm]
  · rw [List.concat_eq_append] at built ⊢
    rw [List.dropLast_concat] at built
    have index : (mtus.zipWith PeerConfig.withMtu ps).length = front.length := by
      rw [List.length_zipWith, length, Nat.min_self, length_basePeers built]
    rw [List.getLast?_concat, closePeer, index, b.build_eq_map, basePeers_concat, built]
    cases b.build 0 front.length with
    | error e => simp [Except.map]
    | ok p => simp [Except.map, List.zipWith_append length, eq_comm]

theorem mtusAtHeaders_concat (settings : List GlobalEntry) (sections : List FileSection) (sec : FileSection) :
    mtusAtHeaders settings (sections ++ [sec]) =
      mtusAtHeaders settings sections ++ if sec.isPeer then [outerMtuOf (settings ++ globalEntries sections)] else [] := by
  induction sections generalizing settings with
  | nil => simp [mtusAtHeaders, globalEntries]
  | cons first sections ih => simp [mtusAtHeaders, ih, globalEntries]

theorem length_mtusAtHeaders (settings : List GlobalEntry) (sections : List FileSection) :
    (mtusAtHeaders settings sections).length = (peerSections sections).length := by
  induction sections generalizing settings with
  | nil => rfl
  | cons sec sections ih => by_cases named : sec.isPeer <;> simp [mtusAtHeaders, ih, peerSections, named]

structure Reached (sections : List FileSection) (s : FileState) : Prop where
  spelled : ∀ e ∈ globalEntries sections, GlobalSpelled e
  peers : ∃ builders ps, (peerSections sections).mapM FileSection.builder = .ok builders ∧
    basePeers builders.dropLast = .ok ps ∧
    s = stateAfter (globalEntries sections) ((mtusAtHeaders [] sections).tail.zipWith PeerConfig.withMtu ps) builders.getLast?
      ((sections.getLast?.map FileSection.name).getD [])

section Snoc

variable {sections : List FileSection} {sec : FileSection}

theorem globalEntries_concat : globalEntries (sections ++ [sec]) = globalEntries sections ++ sec.globalEntries := by
  simp [globalEntries]

theorem globalEntries_of_isPeer (named : sec.isPeer = true) : sec.globalEntries = [] := by
  have other : sec.name ≠ "global".toList := by
    rw [(of_decide_eq_true named : sec.name = "peer".toList)]
    decide
  exact if_neg other

theorem length_of_reached {builders : List PeerBuilder} {ps : List PeerConfig}
    (built : (peerSections sections).mapM FileSection.builder = .ok builders) (closed : basePeers builders.dropLast = .ok ps) :
    (mtusAtHeaders [] sections).tail.length = ps.length := by
  rw [List.length_tail, length_mtusAtHeaders, (mapM_eq_ok.mp built).length_eq, length_basePeers closed, List.length_dropLast]

-- the first header closes nothing
theorem zipWith_tail_concat {mtus : List UInt16} {mtu : UInt16} {ps : List PeerConfig} (length : ps.length = mtus.length) :
    (mtus.tail ++ [mtu]).zipWith PeerConfig.withMtu ps = (mtus ++ [mtu]).tail.zipWith PeerConfig.withMtu ps := by
  cases mtus with
  | nil =>
      cases List.eq_nil_of_length_eq_zero length
      rfl
  | cons first mtus => rfl

theorem reached_concat_peer (named : sec.isPeer = true) {s' : FileState} :
    (∃ s, Reached sections s ∧ sectionStep s sec = .ok s') ↔ Reached (sections ++ [sec]) s' := by
  have entries : globalEntries (sections ++ [sec]) = globalEntries sections := by
    rw [globalEntries_concat, globalEntries_of_isPeer named, List.append_nil]
  have peers : peerSections (sections ++ [sec]) = peerSections sections ++ [sec] := by simp [peerSections, named]
  have mtus : mtusAtHeaders [] (sections ++ [sec]) = mtusAtHeaders [] sections ++ [outerMtuOf (globalEntries sections)] := by
    rw [mtusAtHeaders_concat, if_pos named, List.nil_append]
  have headers {builders : List PeerBuilder} {all : List PeerConfig} (complete : basePeers builders = .ok all)
      (built : (peerSections sections).mapM FileSection.builder = .ok builders) :
      all.length = (mtusAtHeaders [] sections).length := by
    rw [length_basePeers complete, length_mtusAtHeaders, (mapM_eq_ok.mp built).length_eq]
  constructor
  · rintro ⟨s, ⟨spelled, builders, ps, built, closed, rfl⟩, step⟩
    rw [sectionStep_peer _ _ _ _ named] at step
    obtain ⟨peersClosed, last, step⟩ := bind_eq_ok.mp step
    obtain ⟨b, new, same⟩ := bind_eq_ok.mp step
    cases same
    obtain ⟨all, complete, rfl⟩ := (closePeer_eq_ok closed (length_of_reached built closed)).mp last
    refine ⟨entries ▸ spelled, builders ++ [b], all, ?_, by rwa [List.dropLast_concat], ?_⟩
    · simp [peers, built, new]
    · rw [entries, mtus, List.getLast?_concat, List.getLast?_concat, zipWith_tail_concat (headers complete built)]
      rfl
  · rintro ⟨spelled, builders', all, both, complete, rfl⟩
    rw [peers, List.mapM_append] at both
    obtain ⟨builders, built, last⟩ := bind_eq_ok.mp both
    obtain ⟨new, single, same⟩ := bind_eq_ok.mp last
    cases same
    obtain ⟨b, opened, rfl⟩ : ∃ b, sec.builder = .ok b ∧ [b] = new := by simpa [bind_eq_ok] using single
    rw [List.dropLast_concat] at complete
    obtain ⟨ps, closed⟩ := basePeers_dropLast complete
    refine ⟨_, ⟨entries ▸ spelled, builders, ps, built, closed, rfl⟩, ?_⟩
    rw [sectionStep_peer _ _ _ _ named,
      (closePeer_eq_ok closed (length_of_reached built closed)).mpr ⟨all, complete, rfl⟩, bind_ok, opened, bind_ok]
    rw [entries, mtus, List.getLast?_concat, List.getLast?_concat, zipWith_tail_concat (headers complete built)]
    rfl

theorem reached_concat_other (named : ¬sec.isPeer = true) {s' : FileState} :
    (∃ s, Reached sections s ∧ sectionStep s sec = .ok s') ↔ Reached (sections ++ [sec]) s' := by
  have peers : peerSections (sections ++ [sec]) = peerSections sections := by simp [peerSections, named]
  have mtus : mtusAtHeaders [] (sections ++ [sec]) = mtusAtHeaders [] sections := by
    rw [mtusAtHeaders_concat, if_neg named, List.append_nil]
  constructor
  · rintro ⟨s, ⟨spelled, builders, ps, built, closed, rfl⟩, step⟩
    obtain ⟨new, rfl⟩ := (sectionStep_other named).mp step
    refine ⟨?_, builders, ps, by rwa [peers], closed, ?_⟩
    · rw [globalEntries_concat]
      exact fun e member => (List.mem_append.mp member).elim (spelled e) (new e)
    · rw [globalEntries_concat, mtus, List.getLast?_concat]
      rfl
  · rintro ⟨spelled, builders, ps, built, closed, rfl⟩
    rw [globalEntries_concat] at spelled
    refine ⟨_, ⟨fun e member => spelled e (List.mem_append_left _ member), builders, ps, peers ▸ built, closed, rfl⟩, ?_⟩
    refine (sectionStep_other named).mpr ⟨fun e member => spelled e (List.mem_append_right _ member), ?_⟩
    rw [globalEntries_concat, mtus, List.getLast?_concat]
    rfl

end Snoc

theorem run_sections {sections : List FileSection} {s : FileState} :
    sections.foldlM sectionStep {} = .ok s ↔ Reached sections s := by
  induction sections using List.reverseRecOn generalizing s with
  | nil =>
      constructor
      · rintro ⟨⟩
        exact ⟨nofun, [], [], rfl, rfl, rfl⟩
      · rintro ⟨-, builders, ps, built, closed, rfl⟩
        cases built
        cases closed
        rfl
  | append_singleton sections sec ih =>
      rw [List.foldlM_append]
      simp only [List.foldlM_cons, List.foldlM_nil, bind_pure, bind_eq_ok, ih]
      by_cases named : sec.isPeer = true
      · exact reached_concat_peer named
      · exact reached_concat_other named

def peerMtus (sections : List FileSection) : List UInt16 :=
  (mtusAtHeaders [] sections).tail ++ [outerMtuOf (globalEntries sections)]

def configOf (sections : List FileSection) (ps : List PeerConfig) : Config :=
  { global := { outerMtu := outerMtuOf (globalEntries sections), userspaceOnly := userspaceOnlyOf (globalEntries sections) }
    runtime := { statsInterval := statsIntervalOf (globalEntries sections), statFile := statFileOf (globalEntries sections) }
    peers := (peerMtus sections).zipWith PeerConfig.withMtu ps }

structure Accepts (sections : List FileSection) (ps : List PeerConfig) : Prop where
  spelled : ∀ e ∈ globalEntries sections, GlobalSpelled e
  built : ∃ builders, (peerSections sections).mapM FileSection.builder = .ok builders ∧ basePeers builders = .ok ps
  some : ps ≠ []
  names : checkNames [] ps = .ok ()
  ports : checkPorts [] ps = .ok ()

def FileSection.Builds (sec : FileSection) (index : Nat) (p : PeerConfig) : Prop :=
  ∃ b, sec.builder = .ok b ∧ b.build 0 index = .ok p

theorem builders_iff {sections : List FileSection} {ps : List PeerConfig} :
    (∃ builders, sections.mapM FileSection.builder = .ok builders ∧ basePeers builders = .ok ps) ↔
      sections.length = ps.length ∧ ∀ i (inside : i < sections.length) (_ : i < ps.length), sections[i].Builds i ps[i] := by
  simp only [basePeers, mapM_eq_ok, List.forall₂_iff_get, List.length_zipIdx, List.get_eq_getElem, List.getElem_zipIdx,
    Nat.zero_add]
  constructor
  · rintro ⟨builders, ⟨opened, built⟩, closed, peers⟩
    exact ⟨opened.trans closed, fun i inside inside' => ⟨builders[i], built i inside (by omega), peers i (by omega) inside'⟩⟩
  · rintro ⟨length, builds⟩
    choose b built peer using fun (i : Fin sections.length) => builds i i.isLt (by omega)
    refine ⟨List.ofFn b, ⟨by simp, fun i inside _ => ?_⟩, by simpa using length, fun i inside _ => ?_⟩
    · rw [List.getElem_ofFn]
      exact built ⟨i, inside⟩
    · rw [List.getElem_ofFn]
      exact peer ⟨i, by simpa using inside⟩

section Checks

variable {ps ps' : List PeerConfig}

theorem checkNames_congr (seen : List String) (names : ps.map PeerConfig.name = ps'.map PeerConfig.name) :
    checkNames seen ps = checkNames seen ps' := by
  induction ps generalizing ps' seen with
  | nil => rw [List.map_eq_nil_iff.mp names.symm]
  | cons p ps ih =>
      obtain ⟨p', rest, rfl, first, later⟩ := List.map_eq_cons_iff.mp names.symm
      rw [checkNames, checkNames, first, ih _ later.symm]

theorem checkPorts_congr (seen : List UInt16) (ports : ps.map PeerConfig.ports = ps'.map PeerConfig.ports) :
    checkPorts seen ps = checkPorts seen ps' := by
  induction ps generalizing ps' seen with
  | nil => rw [List.map_eq_nil_iff.mp ports.symm]
  | cons p ps ih =>
      obtain ⟨p', rest, rfl, first, later⟩ := List.map_eq_cons_iff.mp ports.symm
      rw [checkPorts, checkPorts, first, ih _ later.symm]

theorem map_withMtu {α : Type} {field : PeerConfig → α} (kept : ∀ mtu p, field (p.withMtu mtu) = field p) {mtus : List UInt16}
    (length : mtus.length = ps.length) : (mtus.zipWith PeerConfig.withMtu ps).map field = ps.map field := by
  apply List.ext_getElem
  · simp [length]
  · intro i _ _
    simp [kept]

end Checks

theorem length_peerMtus {sections : List FileSection} {builders : List PeerBuilder} {ps : List PeerConfig}
    (built : (peerSections sections).mapM FileSection.builder = .ok builders) (complete : basePeers builders = .ok ps)
    (some : ps ≠ []) : (peerMtus sections).length = ps.length := by
  have positive := List.length_pos_iff.mpr some
  have headers : (mtusAtHeaders [] sections).length = ps.length := by
    rw [length_basePeers complete, length_mtusAtHeaders, (mapM_eq_ok.mp built).length_eq]
  rw [peerMtus, List.length_append, List.length_tail, List.length_singleton]
  omega

theorem finish_eq_ok {sections : List FileSection} {s : FileState} {c : Config} (reached : Reached sections s) :
    finish s = .ok c ↔ ∃ ps, Accepts sections ps ∧ c = configOf sections ps := by
  obtain ⟨spelled, builders, closed, built, front, rfl⟩ := reached
  have close {peers : List PeerConfig} := @closePeer_eq_ok builders closed peers _ (outerMtuOf (globalEntries sections)) front
    (length_of_reached built front)
  rw [finish, finalizePeer_stateAfter, bind_assoc]
  constructor
  · intro finished
    obtain ⟨peers, last, finished⟩ := bind_eq_ok.mp finished
    obtain ⟨ps, complete, rfl⟩ := close.mp last
    obtain ⟨some, finished⟩ := rejectIf_bind_eq_ok.mp finished
    obtain ⟨_, names, finished⟩ := bind_eq_ok.mp finished
    obtain ⟨_, ports, same⟩ := bind_eq_ok.mp finished
    cases same
    have some : ps ≠ [] := by
      rintro rfl
      exact some List.zipWith_nil_right
    have length := length_peerMtus built complete some
    have sameNames := checkNames_congr [] (map_withMtu (fun _ _ => rfl) length)
    have samePorts := checkPorts_congr [] (map_withMtu (fun _ _ => rfl) length)
    exact ⟨ps, ⟨spelled, ⟨builders, built, complete⟩, some, sameNames.symm.trans names, samePorts.symm.trans ports⟩, rfl⟩
  · rintro ⟨ps, ⟨-, ⟨builders', built', complete⟩, some, names, ports⟩, rfl⟩
    rw [built] at built'
    cases built'
    have length := length_peerMtus built complete some
    have nonempty : (peerMtus sections).zipWith PeerConfig.withMtu ps ≠ [] := by
      rw [← List.length_pos_iff, List.length_zipWith, length, Nat.min_self]
      exact List.length_pos_iff.mpr some
    rw [close.mpr ⟨ps, complete, rfl⟩, bind_ok, pure_bind]
    refine rejectIf_bind_eq_ok.mpr ⟨nonempty, ?_⟩
    change (do checkNames [] ((peerMtus sections).zipWith PeerConfig.withMtu ps); _) = _
    rw [checkNames_congr [] (map_withMtu (fun _ _ => rfl) length), names, bind_ok]
    change (do checkPorts [] ((peerMtus sections).zipWith PeerConfig.withMtu ps); _) = _
    rw [checkPorts_congr [] (map_withMtu (fun _ _ => rfl) length), ports, bind_ok]
    rfl

theorem parseConfig_eq_ok {content : List Char} {c : Config} :
    parseConfig content = .ok c ↔ ∃ ps, Accepts (sectionsOf content) ps ∧ c = configOf (sectionsOf content) ps := by
  rw [parseConfig_sections, bind_eq_ok]
  constructor
  · rintro ⟨s, run, finished⟩
    exact (finish_eq_ok (run_sections.mp run)).mp finished
  · rintro ⟨ps, accepts, rfl⟩
    obtain ⟨builders, built, complete⟩ := accepts.built
    obtain ⟨front, closed⟩ := basePeers_dropLast complete
    have reached : Reached (sectionsOf content) _ := ⟨accepts.spelled, builders, front, built, closed, rfl⟩
    exact ⟨_, run_sections.mpr reached, (finish_eq_ok reached).mpr ⟨ps, accepts, rfl⟩⟩

theorem length_peers {content : List Char} {c : Config} (accepted : parseConfig content = .ok c) :
    c.peers.length = (peerSections (sectionsOf content)).length := by
  obtain ⟨ps, accepts, rfl⟩ := parseConfig_eq_ok.mp accepted
  obtain ⟨builders, built, complete⟩ := accepts.built
  rw [configOf, List.length_zipWith, length_peerMtus built complete accepts.some, Nat.min_self]
  exact (builders_iff.mp accepts.built).1.symm

end Gutd
