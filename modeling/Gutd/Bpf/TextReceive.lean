import Gutd.Bpf.Base64
import Gutd.Bpf.XdpVerdict
import Gutd.Proto.Syslog

set_option autoImplicit false

namespace Gutd.Bpf

open Bytes Checked Wire

variable {mode : ObfsMode} {cfg : GutConfig} {key : Vector UInt8 32} {r : Received} {x : Xdp} {ver : IpVersion}
  {w pad p q d headers trail : Buf} {sport dport sport' dport' : UInt16}

theorem innerDatagram_encode (carries : Carries (channel key) .gut w pad sport dport q) (fits : q.length ≤ gutB64MaxInner) :
    ∃ d, innerDatagram (Base64.encode q) = some d ∧ Carries (channel key) .gut w [] sport dport d := by
  have constants : gutHeaderSize = 10 ∧ wgMinPacket = 32 ∧ gutB64MaxInner = 896 ∧ gutB64MaxOut = 1200 :=
    ⟨rfl, rfl, rfl, rfl⟩
  have message := carries.message
  have length := carries.length
  have ballast : ballastLen (byteAt q 9) = pad.length := carries.header.pad
  have size := Base64.length_encode q
  simp only [Form.headerLen] at length
  obtain ⟨zeros, decoded⟩ := b64Decode_encode (List.ne_nil_of_length_pos (by omega : 0 < q.length))
  have front : byteAt (q ++ zeros) 9 = byteAt q 9 := byteAt_append_left _ _ _ (by omega)
  have net : q.length - pad.length = 10 + w.length := by omega
  refine ⟨(overwrite (q ++ zeros) 9 [0x00]).take (10 + w.length), ?_, ?_⟩
  · unfold innerDatagram
    rw [decoded]
    dsimp only
    rw [front, ballast, if_neg (by omega), if_neg (by omega), if_neg (by omega), net]
  · have taken : (overwrite (q ++ zeros) 9 [0x00]).take (10 + w.length) = q.take 9 ++ ([0x00] ++ mask ((channel key).keystream w) w) := by
      have body : q.drop 10 = mask ((channel key).keystream w) w ++ pad := carries.body
      have kept : 10 + w.length = (q.take 9 ++ [0x00]).length + (mask ((channel key).keystream w) w).length := by
        simp
        omega
      rw [overwrite_append_left _ _ _ _ (by simp; omega), overwrite_eq_append _ _ _ (by simp; omega)]
      simp only [List.length_singleton, Nat.reduceAdd]
      rw [body, kept, List.append_assoc _ _ zeros, List.take_length_add_append, List.append_assoc _ pad,
        List.take_left' rfl, List.append_assoc]
    rw [taken]
    refine ⟨?_, message, Nat.zero_le _, ?_⟩
    · have same (i : Nat) (inside : i < 9) : byteAt (q.take 9 ++ ([0x00] ++ mask ((channel key).keystream w) w)) i = byteAt q i := by
        rw [byteAt_append_left _ _ _ (by simp; omega), byteAt_take, if_pos inside]
      have nine : (q.take 9).length = 9 := by simp; omega
      have flag : byteAt (q.take 9 ++ ([0x00] ++ mask ((channel key).keystream w) w)) 9 = 0x00 := by
        rw [byteAt_append, if_neg (by omega), nine]
        rfl
      refine ⟨by simp [Form.headerLen]; omega, ?_, ?_, ?_, trivial⟩
      · exact (le32At_congr fun n bounded => same (0 + n) (by omega)).trans carries.header.ppn
      · exact (le32At_congr fun n bounded => same (4 + n) (by omega)).trans carries.header.ports
      · exact (congrArg ballastLen flag).trans rfl
    · have ten : (q.take 9 ++ [0x00]).length = Form.gut.headerLen := by simp [Form.headerLen]; omega
      rw [List.append_nil, ← List.append_assoc, ← ten, List.drop_left]

theorem gutXdpCore_enveloped (keyed : cfg.Keyed key) (other : mode ≠ .quic) (port : isGutPort dport' cfg = true)
    (isUdp : UdpFrame ver sport' dport' p x.frame) (enough : 32 ≤ p.length)
    (opened : ∀ r : Received, r.wgOff = payloadOff ver → r.wgLen = p.length →
      unwrap mode cfg r x = some (r.resized d, inPlace r x.frame d))
    (carries : Carries (channel key) .gut w [] sport dport d) (shorter : d.length ≤ p.length) :
    ∃ x', gutXdpCore mode cfg x = .ok x' ∧ UdpFrame ver sport dport w x'.frame := by
  have bound := isUdp.headers.udpLen ▸ (be16At x.frame (14 + ver.headerLen + 4)).toNat_lt
  have parsed := parseWg_ok isUdp port enough
  generalize received : ({ pos := { ver, ipOff := 14 }, udpLen := p.length + 8, wgLen := p.length } : Received) = r at parsed
  have wgOff : r.wgOff = payloadOff ver := by rw [← received]; rfl
  obtain ⟨x', core, frame, -⟩ := gutXdpCore_unwrapped parsed (opened r wgOff (by rw [← received]))
  obtain ⟨headers, trail, split, length, fields⟩ := isUdp.split
  have kept : x.frame.take r.wgOff = headers := by rw [split, wgOff, ← length, List.take_left' rfl]
  rw [inPlace, kept] at frame
  rw [core]
  exact (openDatagram_carried keyed (.inr ⟨other, rfl⟩) carries frame length fields (by rw [← received]; rfl)
    (by simp [Received.resized]; omega) rfl (by omega) (by simp)).1 (Nat.zero_le _)

theorem syslogText_line {text frame : Buf} (line : Syslog.Line text p) (split : frame = headers ++ (p ++ trail))
    (start : headers.length = r.wgOff) (whole : r.wgLen = p.length) (enough : 32 ≤ text.length)
    (small : text.length < 2 ^ 12) : syslogText r frame = some text := by
  obtain ⟨front, name, tag, length, short, word⟩ := line
  have markerLength : Syslog.marker.length = 8 := rfl
  have same : syslogMarker = Syslog.marker := rfl
  simp only [List.length_append, length, markerLength] at whole
  have dropped : frame.drop r.wgOff = front ++ (name ++ (Syslog.marker ++ (text ++ trail))) := by
    rw [split, ← start, List.drop_left]
    simp only [List.append_assoc]
  have total : frame.length = r.wgOff + r.wgLen + trail.length := by
    rw [split, whole, ← start]
    simp only [List.length_append, length, markerLength]
    omega
  have found : syslogHdrLen frame r.wgOff = 36 + name.length := by
    have marked (i : Nat) (behind : 28 ≤ i) (before : i ≤ 28 + name.length) :
        slice frame (r.wgOff + i) (r.wgOff + i + 8) = syslogMarker ↔ i = 28 + name.length := by
      rw [Nat.add_assoc, ← slice_drop, dropped, same]
      exact Syslog.slice_eq_marker length word behind before
    have scanned : ((List.range' 28 32).find? fun i => slice frame (r.wgOff + i) (r.wgOff + i + 8) == syslogMarker) =
        some (28 + name.length) := by
      rw [List.find?_range'_eq_some]
      refine ⟨beq_iff_eq.mpr ((marked _ (by omega) (Nat.le_refl _)).mpr rfl),
        List.mem_range'_1.mpr ⟨by omega, by omega⟩, ?_⟩
      intro j behind before
      have other := mt (marked j behind (by omega)).mp (by omega)
      simpa using other
    unfold syslogHdrLen
    generalize List.find? _ _ = result at scanned ⊢
    subst scanned
    dsimp only
    omega
  have first : byteAt frame r.wgOff = 0x3C := by
    calc byteAt frame r.wgOff = byteAt (frame.drop r.wgOff) 0 := by rw [byteAt_drop, Nat.add_zero]
      _ = byteAt (front.take 7) 0 := by rw [dropped, byteAt_append_left _ _ _ (by omega), byteAt_take, if_pos (by omega)]
      _ = 0x3C := by rw [tag]; decide
  have payload : slice frame (r.wgOff + (36 + name.length)) (r.wgOff + (36 + name.length) + text.length) = text := by
    have header : (front ++ (name ++ Syslog.marker)).length = 36 + name.length := by
      simp only [List.length_append, length, markerLength]
      omega
    rw [Nat.add_assoc, ← slice_drop, dropped, ← List.append_assoc name, ← List.append_assoc front, ← header,
      slice_middle _ _ _ _ rfl]
  have rest : (r.wgLen - (36 + name.length)) % 2 ^ 12 = text.length := by omega
  unfold syslogText
  dsimp only
  rw [found, first, if_neg (by simp; omega), rest, payload]

theorem syslog_opened (keyed : cfg.Keyed key) (port : isGutPort dport' cfg = true)
    (isUdp : UdpFrame ver sport' dport' p x.frame) (carries : Carries (channel key) .gut w pad sport dport q)
    (fits : q.length ≤ gutB64MaxInner) (line : Syslog.Line (Base64.encode q) p) :
    ∃ x', gutXdpCore .syslog cfg x = .ok x' ∧ UdpFrame ver sport dport w x'.frame := by
  have size := Base64.length_encode q
  have length := carries.length
  have message := carries.message
  have longer := line.length_ge
  obtain ⟨d, found, inner⟩ := innerDatagram_encode carries fits
  have bounds := length_innerDatagram found
  obtain ⟨headers, trail, split, start, -⟩ := isUdp.split
  rw [gutB64MaxInner] at fits
  simp only [Form.headerLen] at length
  refine gutXdpCore_enveloped keyed (by decide) port isUdp (by omega) ?_ inner (by omega)
  intro r wgOff wgLen
  have text := syslogText_line line split (start.trans wgOff.symm) wgLen (by omega) (by omega)
  rw [unwrap, text, Option.bind_some, found, Option.map_some]

end Gutd.Bpf
