import Gutd.Bpf.Loader
import Gutd.Bpf.XdpVerdict

set_option autoImplicit false

namespace Gutd.Bpf

open Bytes Checked Wire

variable {mode : ObfsMode} {cfg : GutConfig} {r : Received} {x : Xdp} {outer : Nat}

@[simp] theorem length_messageStream (frame : Buf) : (messageStream cfg r frame outer).length = 64 := by
  simp [messageStream]

theorem frontUnmasked_eq_iff {frame : Buf} (readable : Readable mode r frame outer) :
    frontUnmasked cfg r frame outer = frame ↔ (messageStream cfg r frame outer).take 16 = List.replicate 16 0 := by
  have front := readable.front
  have width : ((messageStream cfg r frame outer).take 16).length = 16 := by simp
  simp only [wgMinPacket] at front
  rw [frontUnmasked, xor16, xorAt_eq_self_iff _ _ _ (by omega), width]

def mac2Window (r : Received) (frame : Buf) (outer : Nat) : Option Nat :=
  (mac2Off (byteAt frame (r.wgOff + outer) &&& 0x1F) (sub32 r.wgLen outer)).filter fun off =>
    r.wgOff + outer + off + 16 ≤ frame.length

theorem unmaskMac2_eq_iff (frame ks : Buf) (block : ks.length = 64) :
    unmaskMac2 frame (r.wgOff + outer) (sub32 r.wgLen outer) ks = frame ↔
      (mac2Window r frame outer ≠ none → slice ks 16 32 = List.replicate 16 0) := by
  have second : (ks.drop 16).take 16 = slice ks 16 32 := rfl
  have width : (slice ks 16 32).length = 16 := by simp [block]
  unfold unmaskMac2 mac2Window
  cases mac2Off (byteAt frame (r.wgOff + outer) &&& 0x1F) (sub32 r.wgLen outer) with
  | none => simp
  | some off =>
      by_cases inside : r.wgOff + outer + off + 16 ≤ frame.length
      · have fits : ¬r.wgOff + outer + off + 16 > frame.length := by omega
        simp only [if_neg fits, xor16, second]
        rw [xorAt_eq_self_iff _ _ _ (by omega), width]
        simp [inside]
      · have outside : r.wgOff + outer + off + 16 > frame.length := by omega
        simp [outside]

theorem byteAt_unmaskMac2_front (frame ks : Buf) (wg wgLen i : Nat) (front : i < wg + 16) :
    byteAt (unmaskMac2 frame wg wgLen ks) i = byteAt frame i := by
  unfold unmaskMac2
  split
  · rename_i off found
    have bounds := mac2Off_bounds found
    split_ifs
    · rfl
    · rw [xor16, byteAt_xorAt, if_neg (by omega)]
  · rfl

theorem unmaskedFrame_eq_iff {frame : Buf} (readable : Readable mode r frame outer) :
    unmaskedFrame cfg r frame outer = frame ↔
      (messageStream cfg r frame outer).take 16 = List.replicate 16 0 ∧
        (mac2Window r frame outer ≠ none → slice (messageStream cfg r frame outer) 16 32 = List.replicate 16 0) := by
  rw [← frontUnmasked_eq_iff readable]
  constructor
  · intro same
    have front : frontUnmasked cfg r frame outer = frame := by
      apply ext_byteAt (by simp)
      intro i bounded
      by_cases before : i < r.wgOff + outer + 16
      · rw [← byteAt_unmaskMac2_front _ (messageStream cfg r frame outer) (r.wgOff + outer) (sub32 r.wgLen outer) i before]
        exact congrArg (byteAt · i) same
      · rw [frontUnmasked, xor16, byteAt_xorAt, if_neg (by simp; omega)]
    refine ⟨front, ?_⟩
    rw [unmaskedFrame, front] at same
    exact (unmaskMac2_eq_iff _ _ (by simp)).mp same
  · rintro ⟨front, second⟩
    rw [unmaskedFrame, front]
    exact (unmaskMac2_eq_iff _ _ (by simp)).mpr second

theorem be16At_writeLengths (cfg : GutConfig) (pos : UdpPos) (n : Nat) (frame : Buf) (ethernet : 14 ≤ pos.ipOff)
    (whole : pos.payloadOff ≤ frame.length) :
    be16At (writeLengths cfg pos n frame) (pos.udpOff + 4) = UInt16.ofNat n := by
  obtain ⟨ver, ipOff⟩ := pos
  unfold UdpPos.payloadOff UdpPos.udpOff at whole
  unfold writeLengths UdpPos.udpOff
  cases ver with
  | v4 =>
      simp only [IpVersion.headerLen] at whole ⊢
      split_ifs <;> simp (disch := (simp; try omega)) only [be16At_overwrite_other] <;>
        exact be16At_overwrite_same _ _ _ (by omega)
  | v6 =>
      simp only [IpVersion.headerLen] at whole ⊢
      split_ifs <;> simp (disch := (simp; try omega)) only [be16At_overwrite_other] <;>
        exact be16At_overwrite_same _ _ _ (by omega)

theorem openDatagram_uncut (readable : Readable mode r x.frame outer) (genuine : Genuine mode cfg r x.frame outer)
    (sized : Sized r x.frame outer) (uncut : ¬Cuttable r x.frame outer) (ethernet : 14 ≤ r.pos.ipOff) :
    ∃ x', openDatagram mode cfg r x = .error x' ∧ x'.frame.length ≤ x.frame.length ∧
      (x'.frame = x.frame → UInt16.ofNat (innerUdpLen r x.frame outer) = be16At x.frame (r.pos.udpOff + 4)) := by
  have front := readable.front
  have constants : wgMinPacket = 32 ∧ r.wgOff = r.pos.payloadOff := ⟨rfl, rfl⟩
  by_cases small : r.wgOff ≤ 62
  · have outside := mt (Cuttable.mk small) uncut
    obtain ⟨x', done, frame⟩ := openDatagram_misannounced ⟨readable, genuine, sized, small, by omega⟩ ethernet
    have cut := length_trimmed_le (cutFrame cfg r.pos (innerUdpLen r x.frame outer) outer
      (unmaskedFrame cfg r x.frame outer)) (ballastOf r x.frame outer)
    have lost : x'.frame.length < x.frame.length := by
      have bounds := readable.outer_bounds
      rw [length_cutFrame _ _ _ _ _ (by simp only [length_unmaskedFrame]; omega), length_unmaskedFrame] at cut
      rw [frame]
      omega
    exact ⟨x', done, Nat.le_of_lt lost, fun same => absurd (congrArg List.length same) (Nat.ne_of_lt lost)⟩
  · refine ⟨_, openDatagram_large readable genuine sized (by omega), by simp, ?_⟩
    intro same
    rw [← be16At_writeLengths cfg r.pos _ (unmaskedFrame cfg r x.frame outer) ethernet (by simp; omega)]
    exact congrArg (be16At · _) same

theorem openDatagram_error (refused : ∀ outer, ¬Opens mode cfg r x.frame outer) (ethernet : 14 ≤ r.pos.ipOff) :
    ∃ x', openDatagram mode cfg r x = .error x' ∧ x'.frame.length ≤ x.frame.length := by
  by_cases readable : ∃ outer, Readable mode r x.frame outer
  · obtain ⟨outer, readable⟩ := readable
    by_cases genuine : Genuine mode cfg r x.frame outer
    · by_cases sized : Sized r x.frame outer
      · obtain ⟨x', done, length, -⟩ := openDatagram_uncut readable genuine sized 
          (fun cut => refused outer ⟨readable, genuine, sized, cut⟩) ethernet
        exact ⟨x', done, length⟩
      · exact ⟨_, openDatagram_unsized readable genuine sized, by simp⟩
    · exact ⟨_, openDatagram_forged readable genuine, by simp⟩
  · exact ⟨x, openDatagram_unreadable (not_exists.mp readable), Nat.le_refl _⟩

def LeftAlone (mode : ObfsMode) (cfg : GutConfig) (r : Received) (x : Xdp) : Prop :=
  ∀ outer, Readable mode r x.frame outer →
    (messageStream cfg r x.frame outer).take 16 = List.replicate 16 0 ∧
      (Genuine mode cfg r x.frame outer →
        ¬Sized r x.frame outer ∧
          (mac2Window r x.frame outer ≠ none → slice (messageStream cfg r x.frame outer) 16 32 = List.replicate 16 0) ∧
          (learn mode cfg r.pos (r.wgOff + outer) x).clientMap = x.clientMap)

theorem innerUdpLen_lt (r : Received) (frame : Buf) (outer : Nat) : innerUdpLen r frame outer < 2 ^ 16 :=
  Nat.mod_lt _ (by decide)

theorem innerUdpLen_ne (readable : Readable mode r x.frame outer) (sized : Sized r x.frame outer)
    (small : r.udpLen < 2 ^ 16) : innerUdpLen r x.frame outer ≠ r.udpLen := by
  have bounds := readable.outer_bounds
  have ballast := sized.ballast
  unfold innerUdpLen sub32
  omega

theorem openDatagram_untouched (inside : r.Inside x.frame)
    (announced : (be16At x.frame (r.pos.udpOff + 4)).toNat = r.udpLen) :
    (∀ x', openDatagram mode cfg r x = .error x' → x'.frame = x.frame ∧ x'.clientMap = x.clientMap) ↔
      (∃ outer, Opens mode cfg r x.frame outer) ∨ LeftAlone mode cfg r x := by
  constructor
  · intro untouched
    by_contra neither
    rw [not_or, not_exists] at neither
    obtain ⟨refused, touched⟩ := neither
    refine touched fun outer readable => ?_
    by_cases genuine : Genuine mode cfg r x.frame outer
    · by_cases sized : Sized r x.frame outer
      · obtain ⟨x', done, -, lengths⟩ := openDatagram_uncut readable genuine sized
          (fun cut => refused outer ⟨readable, genuine, sized, cut⟩) inside.ethernet
        have rewritten := congrArg UInt16.toNat (lengths (untouched x' done).1)
        rw [announced, UInt16.toNat_ofNat', Nat.mod_eq_of_lt (innerUdpLen_lt r x.frame outer)] at rewritten
        exact absurd rewritten (innerUdpLen_ne readable sized inside.small)
      · obtain ⟨frame, map⟩ := untouched _ (openDatagram_unsized readable genuine sized)
        obtain ⟨front, second⟩ := (unmaskedFrame_eq_iff readable).mp frame
        refine ⟨front, fun _ => ⟨sized, second, ?_⟩⟩
        rw [learned, (frontUnmasked_eq_iff readable).mpr front] at map
        exact map
    · have frame := (untouched _ (openDatagram_forged readable genuine)).1
      exact ⟨(frontUnmasked_eq_iff readable).mp frame, fun genuine' => absurd genuine' genuine⟩
  · rintro (⟨outer, opens⟩ | alone) x' failed
    · obtain ⟨x'', done, -⟩ := openDatagram_opens opens inside.ethernet
      rw [done] at failed
      cases failed
    · by_cases readable : ∃ outer, Readable mode r x.frame outer
      · obtain ⟨outer, readable⟩ := readable
        obtain ⟨front, rest⟩ := alone outer readable
        by_cases genuine : Genuine mode cfg r x.frame outer
        · obtain ⟨unsized, second, map⟩ := rest genuine
          rw [openDatagram_unsized readable genuine unsized] at failed
          cases failed
          refine ⟨(unmaskedFrame_eq_iff readable).mpr ⟨front, second⟩, ?_⟩
          rw [learned, (frontUnmasked_eq_iff readable).mpr front]
          exact map
        · rw [openDatagram_forged readable genuine] at failed
          cases failed
          exact ⟨(frontUnmasked_eq_iff readable).mpr front, rfl⟩
      · rw [openDatagram_unreadable (not_exists.mp readable)] at failed
        cases failed
        exact ⟨rfl, rfl⟩

theorem parseWg_announced (parsed : parseWg cfg x.frame = some r) :
    (be16At x.frame (r.pos.udpOff + 4)).toNat = r.udpLen := by
  unfold parseWg at parsed
  split at parsed
  · cases parsed
  · dsimp only at parsed
    split_ifs at parsed
    cases parsed
    rfl

theorem rejection_untouched (mode : ObfsMode) (cfg : GutConfig) (x : Xdp) :
    (∀ x', gutXdpCore mode cfg x = .error x' → x'.frame = x.frame ∧ x'.clientMap = x.clientMap) ↔
      ∀ r r' frame, parseWg cfg x.frame = some r → unwrap mode cfg r x = some (r', frame) →
        (∃ outer, Opens mode cfg r' frame outer) ∨ (mode = .gut ∨ mode = .quic) ∧ LeftAlone mode cfg r x := by
  constructor
  · intro untouched r r' frame parsed opened
    have inside := parseWg_inside parsed
    by_cases plain : mode = .gut ∨ mode = .quic
    · obtain ⟨core, same⟩ := gutXdpCore_plain parsed plain
      rw [same] at opened
      cases opened
      rw [core] at untouched
      exact ((openDatagram_untouched inside (parseWg_announced parsed)).mp untouched).imp_right fun alone => ⟨plain, alone⟩
    · have text : mode = .syslog ∨ mode = .sip := by cases mode <;> simp_all
      obtain ⟨pos, shorter⟩ := unwrap_shorter inside text opened
      obtain ⟨x', core, rfl, -⟩ := gutXdpCore_unwrapped parsed opened
      by_contra neither
      -- the envelope is gone from the frame before the datagram is looked at
      obtain ⟨x'', failed, length⟩ := openDatagram_error (not_exists.mp (not_or.mp neither).1) (pos ▸ inside.ethernet)
      have same := (untouched x'' (core.trans failed)).1
      rw [same] at length
      omega
  · intro condition x' failed
    cases parsed : parseWg cfg x.frame with
    | none =>
        rw [gutXdpCore_foreign parsed] at failed
        cases failed
        exact ⟨rfl, rfl⟩
    | some r =>
        have inside := parseWg_inside parsed
        cases opened : unwrap mode cfg r x with
        | none =>
            obtain ⟨x'', core, frame, map⟩ := gutXdpCore_wrapped parsed opened
            rw [core] at failed
            cases failed
            exact ⟨frame, map⟩
        | some result =>
            obtain ⟨r', frame⟩ := result
            rcases condition r r' frame parsed opened with ⟨outer, opens⟩ | ⟨plain, alone⟩
            · obtain ⟨x'', core, rfl, -⟩ := gutXdpCore_unwrapped parsed opened
              obtain ⟨x₃, done, -⟩ := openDatagram_opens opens (unwrap_pos inside opened ▸ inside.ethernet)
              rw [core, done] at failed
              cases failed
            · obtain ⟨core, -⟩ := gutXdpCore_plain parsed plain
              exact (openDatagram_untouched inside (parseWg_announced parsed)).mpr (.inr alone) x' (core ▸ failed)

end Gutd.Bpf

namespace Gutd

open Bytes Bpf

def sampleKey : Vector UInt8 32 := Vector.replicate 32 7

def sampleConfig : GutConfig :=
  { GutConfig.fromConfig sampleKey [41000] (.v4 #v[192, 0, 2, 1]) with
    keepaliveDropPercent := 0
    quicDcid := quicDcidOf (chachaInit sampleKey) }

theorem sampleConfig_keyed : sampleConfig.Keyed sampleKey := by
  refine ⟨rfl, ?_⟩
  exact toList_quicDcidOf (chachaInit sampleKey)

def noStats : GutStats :=
  { packetsProcessed := 0, packetsDropped := 0, bytesProcessed := 0, packetsOversized := 0, maskCount := 0
    packetsEgress := 0, packetsIngress := 0 }

def delivered (frame : Buf) : Xdp :=
  { frame, tailroom := 0, scan := [], clientMap := fun _ => none, sessionMap := fun _ => none, stats := noStats }

def foreignFrame : Buf :=
  List.replicate 12 0 ++ [0x08, 0x00] ++ [0x45, 0, 0, 92, 0, 0, 0, 0, 64, 17, 0, 0, 10, 0, 0, 2, 10, 0, 0, 1] ++
    [0xCA, 0x6C, 0xA0, 0x28, 0, 72, 0, 0] ++ ([0x40] ++ List.replicate 63 0)

def foreignReceived : Received := { pos := { ver := .v4, ipOff := 14 }, udpLen := 72, wgLen := 64 }

theorem delivered_changed {mode : ObfsMode} {cfg : GutConfig} {r : Received} {frame : Buf} {outer : Nat}
    (parsed : parseWg cfg frame = some r) (plain : mode = .gut ∨ mode = .quic) (readable : Bpf.Readable mode r frame outer)
    (forged : ¬Genuine mode cfg r frame outer)
    (masked : (messageStream cfg r frame outer).take 16 ≠ List.replicate 16 0) :
    ∃ x', gutXdpCore mode cfg (delivered frame) = .error x' ∧ x'.frame ≠ frame := by
  have core : gutXdpCore mode cfg (delivered frame) = _ := (gutXdpCore_plain parsed plain).1
  have failed := openDatagram_forged (x := delivered frame) readable forged
  exact ⟨_, core.trans failed, fun same => masked ((frontUnmasked_eq_iff readable).mp same)⟩

theorem foreign_changed :
    ∃ x', gutXdpCore .quic sampleConfig (delivered foreignFrame) = .error x' ∧ x'.frame ≠ foreignFrame := by
  have parsed : parseWg sampleConfig foreignFrame = some foreignReceived := by decide
  have readable : Bpf.Readable .quic foreignReceived foreignFrame 16 := ⟨by decide, by decide⟩
  have forged : ¬Genuine .quic sampleConfig foreignReceived foreignFrame 16 := by
    unfold Genuine
    decide +kernel
  exact delivered_changed parsed (.inr rfl) readable forged (by decide +kernel)

end Gutd
