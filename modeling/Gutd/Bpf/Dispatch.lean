import Gutd.Bpf.ReplyLoop
import Gutd.Bpf.WellFormed

set_option autoImplicit false

-- `xdp_dispatcher.bpf.c`, which hands a frame to a registered UDP port on to the program of its peer.

namespace Gutd.Bpf

open Bytes Checked

def dispatchIp (frame : Buf) (proto : UInt16) (ipOff : Nat) : Option Nat :=
  if proto = IpVersion.v4.etherType then
    if ipOff + 20 > frame.length then none
    else if byteAt frame (ipOff + 9) ≠ ipprotoUdp then none
    else some (ipOff + (byteAt frame ipOff &&& 0x0F).toNat * 4)
  else if proto = IpVersion.v6.etherType then
    if ipOff + 40 > frame.length then none
    else if byteAt frame (ipOff + 6) ≠ ipprotoUdp then none
    else some (ipOff + 40)
  else none

def dispatchOffset (frame : Buf) : Option Nat :=
  if 14 > frame.length then none
  else if be16At frame 12 = ethP8021Q then
    if 18 > frame.length then none else dispatchIp frame (be16At frame 16) 18
  else dispatchIp frame (be16At frame 12) 14

def dispatchPort (frame : Buf) : Option UInt16 :=
  match dispatchOffset frame with
  | none => none
  | some udpOff => if udpOff + 8 > frame.length then none else some (be16At frame (udpOff + 2))

structure PeerProg where
  mode : ObfsMode
  cfg : GutConfig
  attached : Attached

structure Dispatcher where
  portMap : UInt16 → Option Nat
  peerProgs : Nat → Option PeerProg

def Dispatcher.target (d : Dispatcher) (frame : Buf) : Option PeerProg :=
  (dispatchPort frame).bind fun port => (d.portMap port).bind d.peerProgs

def xdpDispatch (d : Dispatcher) (x : Xdp) : XdpAction × Xdp :=
  match dispatchPort x.frame with
  | none => (.pass, x)
  | some port =>
      match d.portMap port with
      | none => (.pass, x)
      | some idx =>
          -- a tail call to an empty slot falls through
          match d.peerProgs idx with
          | none => (.pass, x)
          | some peer => xdpGutIngress peer.mode peer.cfg peer.attached x

theorem xdpDispatch_eq (d : Dispatcher) (x : Xdp) :
    xdpDispatch d x = match d.target x.frame with
      | none => (.pass, x)
      | some peer => xdpGutIngress peer.mode peer.cfg peer.attached x := by
  unfold xdpDispatch Dispatcher.target
  cases dispatchPort x.frame with
  | none => rfl
  | some port => cases found : d.portMap port with
    | none => simp [found]
    | some idx => cases d.peerProgs idx <;> simp [found]

inductive IpAt (frame : Buf) (ver : IpVersion) : Nat → Prop
  | untagged (etherType : be16At frame 12 = ver.etherType) : IpAt frame ver 14
  | tagged (tag : be16At frame 12 = ethP8021Q) (etherType : be16At frame 16 = ver.etherType) : IpAt frame ver 18

def udpStart (frame : Buf) (ipOff : Nat) : IpVersion → Nat
  | .v4 => ipOff + (byteAt frame ipOff &&& 0x0F).toNat * 4
  | .v6 => ipOff + 40

-- at most one tag, and no extension header: the other UDP frames have no such port
structure UdpAt (frame : Buf) (port : UInt16) (ver : IpVersion) (ipOff : Nat) : Prop where
  link : IpAt frame ver ipOff
  header : ipOff + ver.headerLen ≤ frame.length
  protocol : byteAt frame (ipOff + ver.protocolOff) = ipprotoUdp
  whole : udpStart frame ipOff ver + 8 ≤ frame.length
  dport : be16At frame (udpStart frame ipOff ver + 2) = port

theorem dispatchIp_eq_some {frame : Buf} {proto : UInt16} {ipOff udpOff : Nat} :
    dispatchIp frame proto ipOff = some udpOff ↔
      ∃ ver : IpVersion, proto = ver.etherType ∧ ipOff + ver.headerLen ≤ frame.length ∧
        byteAt frame (ipOff + ver.protocolOff) = ipprotoUdp ∧ udpStart frame ipOff ver = udpOff := by
  unfold dispatchIp
  constructor
  · intro found
    split_ifs at found with v4 short foreign v6 short foreign <;> cases found
    · exact ⟨.v4, v4, by simp only [IpVersion.headerLen]; omega, not_not.mp foreign, rfl⟩
    · exact ⟨.v6, v6, by simp only [IpVersion.headerLen]; omega, not_not.mp foreign, rfl⟩
  · rintro ⟨ver, rfl, inside, protocol, rfl⟩
    cases ver with
    | v4 =>
        simp only [IpVersion.headerLen, IpVersion.protocolOff] at inside protocol
        rw [if_pos rfl, if_neg (by omega), if_neg (not_not.mpr protocol), udpStart]
    | v6 =>
        simp only [IpVersion.headerLen, IpVersion.protocolOff] at inside protocol
        rw [if_neg (by decide), if_pos rfl, if_neg (by omega), if_neg (not_not.mpr protocol), udpStart]

theorem dispatchOffset_eq_some {frame : Buf} {udpOff : Nat} :
    dispatchOffset frame = some udpOff ↔
      ∃ ver ipOff, IpAt frame ver ipOff ∧ ipOff + ver.headerLen ≤ frame.length ∧
        byteAt frame (ipOff + ver.protocolOff) = ipprotoUdp ∧ udpStart frame ipOff ver = udpOff := by
  unfold dispatchOffset
  constructor
  · intro found
    split_ifs at found with short tagged cut
    · obtain ⟨ver, proto, rest⟩ := dispatchIp_eq_some.mp found
      exact ⟨ver, 18, .tagged tagged proto, rest⟩
    · obtain ⟨ver, proto, rest⟩ := dispatchIp_eq_some.mp found
      exact ⟨ver, 14, .untagged proto, rest⟩
  · rintro ⟨ver, ipOff, link, inside, rest⟩
    cases link with
    | untagged proto =>
        have untagged : be16At frame 12 ≠ ethP8021Q := by rw [proto]; exact etherType_untagged ver
        rw [if_neg (by omega), if_neg untagged]
        exact dispatchIp_eq_some.mpr ⟨ver, proto, inside, rest⟩
    | tagged tag proto =>
        rw [if_neg (by omega), if_pos tag, if_neg (by omega)]
        exact dispatchIp_eq_some.mpr ⟨ver, proto, inside, rest⟩

theorem dispatchPort_eq_some {frame : Buf} {port : UInt16} :
    dispatchPort frame = some port ↔ ∃ ver ipOff, UdpAt frame port ver ipOff := by
  unfold dispatchPort
  constructor
  · intro found
    split at found
    · cases found
    · rename_i udpOff offset
      obtain ⟨ver, ipOff, link, header, protocol, rfl⟩ := dispatchOffset_eq_some.mp offset
      split_ifs at found with cut
      exact ⟨ver, ipOff, link, header, protocol, by omega, Option.some.inj found⟩
  · rintro ⟨ver, ipOff, link, header, protocol, whole, dport⟩
    rw [dispatchOffset_eq_some.mpr ⟨ver, ipOff, link, header, protocol, rfl⟩]
    dsimp only
    rw [if_neg (by omega), dport]

structure Dispatcher.Serves (d : Dispatcher) (peer : PeerProg) : Prop where
  loaded : ∀ port idx, d.portMap port = some idx → d.peerProgs idx = some peer
  probe : peer.attached.probe = true

def Dispatcher.Registered (d : Dispatcher) (frame : Buf) : Prop :=
  ∃ port ver ipOff, UdpAt frame port ver ipOff ∧ (d.portMap port).isSome = true

section Target

variable {d : Dispatcher} {peer peer' : PeerProg} {frame : Buf}

theorem registered_iff : d.Registered frame ↔ ∃ port, dispatchPort frame = some port ∧ (d.portMap port).isSome = true := by
  simp only [Dispatcher.Registered, dispatchPort_eq_some, exists_and_right]

theorem Dispatcher.Serves.target_some (serves : d.Serves peer) (registered : d.Registered frame) :
    d.target frame = some peer := by
  obtain ⟨port, udp, known⟩ := registered_iff.mp registered
  obtain ⟨idx, found⟩ := Option.isSome_iff_exists.mp known
  rw [Dispatcher.target, udp, Option.bind_some, found, Option.bind_some, serves.loaded port idx found]

theorem Dispatcher.registered_of_target (target : d.target frame = some peer') : d.Registered frame := by
  obtain ⟨port, udp, known⟩ := Option.bind_eq_some_iff.mp target
  obtain ⟨idx, found, -⟩ := Option.bind_eq_some_iff.mp known
  exact registered_iff.mpr ⟨port, udp, Option.isSome_iff_exists.mpr ⟨idx, found⟩⟩

theorem Dispatcher.target_none (foreign : ¬d.Registered frame) : d.target frame = none := by
  cases target : d.target frame with
  | none => rfl
  | some peer' => exact absurd (registered_of_target target) foreign

theorem Dispatcher.Serves.target_eq (serves : d.Serves peer) (target : d.target frame = some peer') : peer' = peer :=
  Option.some.inj (target.symm.trans (serves.target_some (registered_of_target target)))

end Target

def Wordless (frame : Buf) : Prop :=
  ∃ pos, parseUdp frame = some pos ∧ pos.payloadOff + 10 ≤ frame.length ∧
    (byteAt frame pos.payloadOff < 0x41 ∨ byteAt frame pos.payloadOff > 0x5A)

theorem handleSipProbe_drop_iff {x : Xdp} : (∃ x₂, handleSipProbe x = (.drop, x₂)) ↔ Wordless x.frame := by
  unfold handleSipProbe
  constructor
  · rintro ⟨x₂, dropped⟩
    split at dropped
    · cases dropped
    · rename_i pos parsed
      dsimp only at dropped
      split_ifs at dropped with short wordless response
      · cases dropped
      · exact ⟨pos, parsed, by omega, wordless⟩
      · cases dropped
      · split at dropped <;> cases dropped
  · rintro ⟨pos, parsed, whole, wordless⟩
    rw [parsed]
    dsimp only
    rw [if_neg (by omega), if_pos wordless]
    exact ⟨x, rfl⟩

structure SameFront (pos : UdpPos) (frame frame' : Buf) : Prop extends KeepsLink pos frame frame' where
  length : frame'.length = frame.length
  first : byteAt frame' pos.payloadOff = byteAt frame pos.payloadOff

section Front

variable {cfg : GutConfig} {pos : UdpPos} {r : Received} {x : Xdp} {frame frame' frame'' : Buf}

theorem SameFront.of_bytes (length : frame'.length = frame.length)
    (same : ∀ i, i ≤ pos.payloadOff → byteAt frame' i = byteAt frame i) : SameFront pos frame frame' := by
  have offsets : pos.payloadOff = pos.ipOff + pos.ver.headerLen + 8 := rfl
  have inner : pos.ver.protocolOff < pos.ver.headerLen := by cases pos.ver <;> decide
  exact ⟨⟨fun i _ below => same i (by omega), same _ (by omega)⟩, length, same _ (Nat.le_refl _)⟩

theorem SameFront.turned (same : SameFront pos frame frame') (turned : Turned pos frame' frame'') :
    SameFront pos frame frame'' where
  link i above below := (turned.link i above below).trans (same.link i above below)
  protocol := turned.protocol.trans same.protocol
  length := turned.length.trans same.length
  first := (turned.payload _ (Nat.le_refl _)).trans same.first

theorem SameFront.wordless_iff (same : SameFront pos frame frame') (parsed : parseUdp frame = some pos) :
    Wordless frame' ↔ Wordless frame := by
  have whole := (parseUdp_some parsed).1
  have parsed' := parseUdp_congr parsed same.toKeepsLink (same.length ▸ whole)
  simp only [Wordless, parsed, parsed', Option.some.injEq, exists_eq_left', same.length, same.first]

theorem sameFront_unmaskedFrame (cfg : GutConfig) (r : Received) (frame : Buf) :
    SameFront r.pos frame (unmaskedFrame cfg r frame 10) := by
  apply SameFront.of_bytes (length_unmaskedFrame frame)
  intro i front
  have start : r.wgOff = r.pos.payloadOff := rfl
  rw [unmaskedFrame, byteAt_unmaskMac2_front _ _ _ _ _ (by omega), byteAt_frontUnmasked _ _ _ (by omega)]

theorem sameFront_frontUnmasked (cfg : GutConfig) (r : Received) (frame : Buf) :
    SameFront r.pos frame (frontUnmasked cfg r frame 10) := by
  apply SameFront.of_bytes (length_frontUnmasked frame)
  intro i front
  have start : r.wgOff = r.pos.payloadOff := rfl
  rw [byteAt_frontUnmasked _ _ _ (by omega)]

theorem not_misannounced (inside : r.Inside frame) : ¬Misannounced .sip cfg r frame 10 := by
  rintro ⟨-, -, sized, -, outside⟩
  obtain ⟨udpLen, small, minimum, whole, -⟩ := inside
  have message := sized.message
  have offsets : r.wgOff = r.pos.udpOff + 8 ∧ wgMinPacket = 32 := ⟨rfl, rfl⟩
  unfold innerUdpLen at outside
  unfold sub32 at outside message
  omega

theorem openDatagram_refused (inside : r.Inside x.frame) (refused : ∀ outer, ¬Opens .sip cfg r x.frame outer) :
    ∃ x', openDatagram .sip cfg r x = .error x' ∧ SameFront r.pos x.frame x'.frame := by
  by_cases readable : ∃ outer, Readable .sip r x.frame outer
  · obtain ⟨outer, readable⟩ := readable
    obtain rfl : outer = 10 := (outer_cases readable).2 (by decide)
    have unmasked := sameFront_unmaskedFrame cfg r x.frame
    by_cases genuine : Genuine .sip cfg r x.frame 10
    · by_cases sized : Sized r x.frame 10
      · by_cases small : r.wgOff ≤ 62
        · have whole : ¬x.frame.length < r.pos.udpOff + max 8 (innerUdpLen r x.frame 10) + 10 + ballastOf r x.frame 10 :=
            fun outside => not_misannounced inside ⟨readable, genuine, sized, small, outside⟩
          exact absurd ⟨readable, genuine, sized, small, by omega⟩ (refused 10)
        · refine ⟨_, openDatagram_large readable genuine sized (by omega), ?_⟩
          exact unmasked.turned (turned_writeLengths r.pos _ _ inside.ethernet cfg)
      · exact ⟨_, openDatagram_unsized readable genuine sized, unmasked⟩
    · exact ⟨_, openDatagram_forged readable genuine, sameFront_frontUnmasked cfg r x.frame⟩
  · exact ⟨x, openDatagram_unreadable (not_exists.mp readable), .of_bytes rfl fun _ _ => rfl⟩

end Front

def bareFrame (cfg : GutConfig) (x : Xdp) : Buf :=
  match (parseWg cfg x.frame).bind fun r => unwrap .sip cfg r x with
  | none => x.frame
  | some (_, frame) => frame

def Accepted (mode : ObfsMode) (cfg : GutConfig) (x : Xdp) : Prop :=
  ∃ r r' frame outer, parseWg cfg x.frame = some r ∧ unwrap mode cfg r x = some (r', frame) ∧ Opens mode cfg r' frame outer

theorem gutXdpCore_ok_iff {mode : ObfsMode} {cfg : GutConfig} {x : Xdp} :
    (∃ x', gutXdpCore mode cfg x = .ok x') ↔ Accepted mode cfg x := by
  constructor
  · rintro ⟨x', done⟩
    obtain ⟨r, r', frame, outer, parsed, opened, opens, -⟩ := gutXdpCore_inv done
    exact ⟨r, r', frame, outer, parsed, opened, opens⟩
  · rintro ⟨r, r', frame, outer, parsed, opened, opens⟩
    have inside := parseWg_inside parsed
    obtain ⟨x'', core, rfl, -⟩ := gutXdpCore_unwrapped parsed opened
    obtain ⟨x', done, -⟩ := openDatagram_opens opens (unwrap_pos inside opened ▸ inside.ethernet)
    exact ⟨x', core.trans done⟩

theorem parseUdp_unwrap {mode : ObfsMode} {cfg : GutConfig} {r r' : Received} {x : Xdp} {frame : Buf}
    (parsed : parseWg cfg x.frame = some r) (opened : unwrap mode cfg r x = some (r', frame)) :
    parseUdp frame = some r'.pos := by
  have inside := parseWg_inside parsed
  have headers := unwrap_headers inside opened
  have whole := (unwrap_inside inside opened).1.whole
  have pos := unwrap_pos inside opened
  have start : r.wgOff = r.pos.ipOff + r.pos.ver.headerLen + 8 ∧ r.wgOff = r.pos.payloadOff ∧ r'.wgOff = r'.pos.payloadOff :=
    ⟨rfl, rfl, rfl⟩
  have inner : r.pos.ver.protocolOff < r.pos.ver.headerLen := by cases r.pos.ver <;> decide
  have front (i : Nat) (before : i < r.wgOff) : byteAt frame i = byteAt x.frame i := by
    have same := congrArg (byteAt · i) headers
    simpa only [byteAt_take, if_pos before] using same
  rw [pos] at start ⊢
  exact parseUdp_congr (parseWg_pos parsed) ⟨fun i _ below => front i (by omega), front _ (by omega)⟩ (by omega)

theorem wordless_rejected {cfg : GutConfig} {x x₁ : Xdp} (rejected : gutXdpCore .sip cfg x = .error x₁) :
    Wordless x₁.frame ↔ Wordless (bareFrame cfg x) := by
  unfold bareFrame
  cases parsed : parseWg cfg x.frame with
  | none =>
      rw [gutXdpCore_foreign parsed] at rejected
      cases rejected
      rfl
  | some r =>
      rw [Option.bind_some]
      cases opened : unwrap .sip cfg r x with
      | none =>
          obtain ⟨x', core, frame, -⟩ := gutXdpCore_wrapped parsed opened
          rw [core] at rejected
          cases rejected
          rw [frame]
      | some result =>
          obtain ⟨r', frame⟩ := result
          have inside := (unwrap_inside (parseWg_inside parsed) opened).1
          obtain ⟨x'', core, rfl, -⟩ := gutXdpCore_unwrapped parsed opened
          have refused (outer : Nat) (opens : Opens .sip cfg r' x''.frame outer) : False := by
            obtain ⟨x', done⟩ := gutXdpCore_ok_iff.mpr ⟨r, r', x''.frame, outer, parsed, opened, opens⟩
            rw [done] at rejected
            cases rejected
          obtain ⟨x', failed, same⟩ := openDatagram_refused inside refused
          rw [core, failed] at rejected
          cases rejected
          exact same.wordless_iff (parseUdp_unwrap parsed opened)

section Verdict

variable {d : Dispatcher} {peer : PeerProg} {x : Xdp}

def Decapsulated (d : Dispatcher) (x : Xdp) : Prop :=
  ∃ peer x', d.target x.frame = some peer ∧ gutXdpCore peer.mode peer.cfg x = .ok x'

def SilentDrop (d : Dispatcher) (x : Xdp) : Prop :=
  ∃ peer x₁ x₂, d.target x.frame = some peer ∧ peer.mode = .sip ∧ peer.cfg.ownHttp3 = 1 ∧
    gutXdpCore .sip peer.cfg x = .error x₁ ∧ handleSipProbe x₁ = (.drop, x₂)

structure VerdictPolicy (d : Dispatcher) (peer : PeerProg) (x : Xdp) : Prop where
  drop : ¬Decapsulated d x → (xdpDispatch d x).1 ≠ .tx → peer.cfg.defaultXdpAction = 1 → (xdpDispatch d x).1 = .drop
  silent : SilentDrop d x → (xdpDispatch d x).1 = .drop
  pass : ¬Decapsulated d x → (xdpDispatch d x).1 = .pass → peer.cfg.defaultXdpAction = 0

theorem silentDrop_iff (serves : d.Serves peer) :
    SilentDrop d x ↔
      d.Registered x.frame ∧ peer.mode = .sip ∧ peer.cfg.ownHttp3 = 1 ∧ ¬Accepted .sip peer.cfg x ∧
        Wordless (bareFrame peer.cfg x) := by
  constructor
  · rintro ⟨peer', x₁, x₂, target, mode, own, rejected, handled⟩
    obtain rfl := serves.target_eq target
    refine ⟨Dispatcher.registered_of_target target, mode, own, ?_, ?_⟩
    · intro accepted
      obtain ⟨x', done⟩ := gutXdpCore_ok_iff.mpr accepted
      rw [done] at rejected
      cases rejected
    · exact (wordless_rejected rejected).mp (handleSipProbe_drop_iff.mp ⟨x₂, handled⟩)
  · rintro ⟨registered, mode, own, refused, wordless⟩
    cases core : gutXdpCore .sip peer.cfg x with
    | ok x' => exact absurd (gutXdpCore_ok_iff.mp ⟨x', core⟩) refused
    | error x₁ =>
        obtain ⟨x₂, handled⟩ := handleSipProbe_drop_iff.mpr ((wordless_rejected core).mpr wordless)
        exact ⟨peer, x₁, x₂, serves.target_some registered, mode, own, core, handled⟩

theorem xdpQuicProbe_verdict {cfg : GutConfig} (own : cfg.ownHttp3 = 1) (x : Xdp) :
    (xdpQuicProbe cfg x).1 = .tx ∨ (xdpQuicProbe cfg x).1 = defaultAction cfg := by
  rw [xdpQuicProbe, if_neg (by simp [own])]
  cases handleQuicProbe x with
  | ok x => exact .inl rfl
  | error x => exact .inr rfl

theorem xdpSipProbe_verdict {cfg : GutConfig} (own : cfg.ownHttp3 = 1) (x : Xdp) :
    (xdpSipProbe cfg x).1 = if (handleSipProbe x).1 = .tx then .tx else defaultAction cfg := by
  rw [xdpSipProbe, if_neg (by simp [own])]
  dsimp only
  split_ifs <;> rfl

theorem xdpGutIngress_rejected {x₁ : Xdp} (rejected : gutXdpCore peer.mode peer.cfg x = .error x₁) :
    (xdpGutIngress peer.mode peer.cfg peer.attached x).1 = .tx ∨
      (xdpGutIngress peer.mode peer.cfg peer.attached x).1 = defaultAction peer.cfg := by
  unfold xdpGutIngress
  rw [rejected]
  dsimp only
  split
  · split_ifs with active
    · exact xdpQuicProbe_verdict active.1 x₁
    · exact .inr rfl
  · split_ifs with active
    · rw [xdpSipProbe_verdict active.1]
      split_ifs
      · exact .inl rfl
      · exact .inr rfl
    · exact .inr rfl
  · exact .inr rfl

theorem xdpDispatch_unregistered (foreign : ¬d.Registered x.frame) : (xdpDispatch d x).1 = .pass := by
  rw [xdpDispatch_eq, Dispatcher.target_none foreign]

theorem xdpDispatch_undelivered (serves : d.Serves peer) (registered : d.Registered x.frame) (nothing : ¬Decapsulated d x) :
    (xdpDispatch d x).1 = .tx ∨ (xdpDispatch d x).1 = defaultAction peer.cfg := by
  have target := serves.target_some registered
  rw [xdpDispatch_eq, target]
  cases core : gutXdpCore peer.mode peer.cfg x with
  | ok x' => exact absurd ⟨peer, x', target, core⟩ nothing
  | error x₁ => exact xdpGutIngress_rejected core

theorem xdpDispatch_silent (serves : d.Serves peer) (silent : SilentDrop d x) :
    (xdpDispatch d x).1 = defaultAction peer.cfg := by
  obtain ⟨peer', x₁, x₂, target, mode, own, rejected, handled⟩ := silent
  obtain rfl := serves.target_eq target
  rw [xdpDispatch_eq, target]
  dsimp only
  rw [mode, xdpGutIngress, rejected]
  dsimp only
  rw [if_pos ⟨own, serves.probe⟩, xdpSipProbe_verdict own, handled, if_neg (by simp)]

theorem verdictPolicy_iff (serves : d.Serves peer) (policy : peer.cfg.defaultXdpAction = 0 ∨ peer.cfg.defaultXdpAction = 1) :
    VerdictPolicy d peer x ↔
      (peer.cfg.defaultXdpAction = 1 → d.Registered x.frame) ∧
        (peer.cfg.defaultXdpAction = 0 →
          ¬(d.Registered x.frame ∧ peer.mode = .sip ∧ peer.cfg.ownHttp3 = 1 ∧ ¬Accepted .sip peer.cfg x ∧
            Wordless (bareFrame peer.cfg x))) := by
  have dropped : peer.cfg.defaultXdpAction = 1 → defaultAction peer.cfg = .drop := fun one => if_pos one
  have passed : peer.cfg.defaultXdpAction = 0 → defaultAction peer.cfg = .pass := fun zero => if_neg (by simp [zero])
  rw [← silentDrop_iff serves]
  constructor
  · intro kept
    refine ⟨fun one => ?_, fun zero silent => ?_⟩
    · by_contra foreign
      have verdict := xdpDispatch_unregistered foreign
      have nothing : ¬Decapsulated d x := by simp [Decapsulated, Dispatcher.target_none foreign]
      simpa [verdict] using kept.drop nothing (by simp [verdict]) one
    · have verdict := kept.silent silent
      rw [xdpDispatch_silent serves silent, passed zero] at verdict
      cases verdict
  · rintro ⟨registered, loud⟩
    refine ⟨fun nothing unanswered one => ?_, fun silent => ?_, fun nothing verdict => ?_⟩
    · rcases xdpDispatch_undelivered serves (registered one) nothing with answered | taken
      · exact absurd answered unanswered
      · rw [taken, dropped one]
    · rcases policy with zero | one
      · exact absurd silent (loud zero)
      · rw [xdpDispatch_silent serves silent, dropped one]
    · rcases policy with zero | one
      · exact zero
      · rcases xdpDispatch_undelivered serves (registered one) nothing with answered | taken
        · rw [answered] at verdict
          cases verdict
        · rw [dropped one, verdict] at taken
          cases taken

def sipPeer (action : UInt8) : PeerProg :=
  { mode := .sip, cfg := { sampleConfig with ownHttp3 := 1, defaultXdpAction := action }
    attached := { probe := true, txDevice := true } }

def sipDispatcher (action : UInt8) : Dispatcher :=
  { portMap := fun port => if port = 41000 then some 0 else none, peerProgs := fun _ => some (sipPeer action) }

def binaryFrame : Buf := foreignFrame.take 42 ++ List.replicate 64 1

def doublyTagged : Buf :=
  binaryFrame.take 12 ++ [0x81, 0, 0, 1, 0x81, 0, 0, 2] ++ binaryFrame.drop 12

theorem sipDispatcher_serves (action : UInt8) : (sipDispatcher action).Serves (sipPeer action) := ⟨fun _ _ _ => rfl, rfl⟩

theorem binaryFrame_registered (action : UInt8) : (sipDispatcher action).Registered binaryFrame :=
  registered_iff.mpr ⟨41000, by decide, rfl⟩

theorem verdictPolicy_dropped : VerdictPolicy (sipDispatcher 1) (sipPeer 1) (delivered binaryFrame) :=
  (verdictPolicy_iff (sipDispatcher_serves 1) (.inr rfl)).mpr
    ⟨fun _ => binaryFrame_registered 1, fun zero => absurd zero (by decide)⟩

theorem doublyTagged_unregistered (action : UInt8) : ¬(sipDispatcher action).Registered doublyTagged := by
  have hidden : dispatchPort doublyTagged = none := by decide
  simp [registered_iff, hidden]

-- no method starts with this byte, so the responder is silent, but the frame goes up the stack; behind two tags it
-- does so whatever the default action is
theorem silent_passed :
    (SilentDrop (sipDispatcher 0) (delivered binaryFrame) ∧
      (xdpDispatch (sipDispatcher 0) (delivered binaryFrame)).1 = .pass) ∧
    ¬Decapsulated (sipDispatcher 1) (delivered doublyTagged) ∧
      (xdpDispatch (sipDispatcher 1) (delivered doublyTagged)).1 = .pass := by
  have foreign := doublyTagged_unregistered 1
  have unwrapped : (parseWg (sipPeer 0).cfg binaryFrame).bind
      (fun r => unwrap .sip (sipPeer 0).cfg r (delivered binaryFrame)) = none := by decide
  have bare : bareFrame (sipPeer 0).cfg (delivered binaryFrame) = binaryFrame := by
    simp only [bareFrame, delivered] at unwrapped ⊢
    rw [unwrapped]
  have refused : ¬Accepted .sip (sipPeer 0).cfg (delivered binaryFrame) := by
    rintro ⟨r, r', frame, outer, parsed, opened, -⟩
    have found : (parseWg (sipPeer 0).cfg binaryFrame).bind
        (fun r => unwrap .sip (sipPeer 0).cfg r (delivered binaryFrame)) = some (r', frame) :=
      Option.bind_eq_some_iff.mpr ⟨r, parsed, opened⟩
    rw [unwrapped] at found
    cases found
  have wordless : Wordless binaryFrame := ⟨{ ver := .v4, ipOff := 14 }, by decide, by decide, by decide⟩
  have silent : SilentDrop (sipDispatcher 0) (delivered binaryFrame) :=
    (silentDrop_iff (sipDispatcher_serves 0)).mpr
      ⟨binaryFrame_registered 0, rfl, rfl, refused, by rw [bare]; exact wordless⟩
  refine ⟨⟨silent, ?_⟩, ?_, xdpDispatch_unregistered foreign⟩
  · rw [xdpDispatch_silent (sipDispatcher_serves 0) silent]
    rfl
  · have hidden := Dispatcher.target_none foreign
    rintro ⟨peer, x', target, -⟩
    exact absurd (target.symm.trans hidden) (by simp)

end Verdict

end Gutd.Bpf
