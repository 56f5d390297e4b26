import Gutd.Shared.Checksum
import Gutd.Shared.Words

set_option autoImplicit false

namespace Gutd.Bpf

open Bytes Checksum

inductive IpVersion where
  | v4
  | v6
  deriving DecidableEq, Repr

namespace IpVersion

def headerLen : IpVersion → Nat
  | v4 => 20
  | v6 => 40

def etherType : IpVersion → UInt16
  | v4 => 0x0800
  | v6 => 0x86DD

def protocolOff : IpVersion → Nat
  | v4 => 9
  | v6 => 6

def saddrOff : IpVersion → Nat
  | v4 => 12
  | v6 => 8

def addrLen : IpVersion → Nat
  | v4 => 4
  | v6 => 16

end IpVersion

def ethP8021Q : UInt16 := 0x8100
def ipprotoUdp : UInt8 := 17

structure UdpPos where
  ver : IpVersion
  ipOff : Nat
  deriving DecidableEq, Repr

namespace UdpPos

def udpOff (pos : UdpPos) : Nat := pos.ipOff + pos.ver.headerLen

def payloadOff (pos : UdpPos) : Nat := pos.udpOff + 8

end UdpPos

def parseIp (frame : Buf) (ethProto : UInt16) (ipOff : Nat) : Option UdpPos :=
  if ethProto = IpVersion.v4.etherType then
    if ipOff + 20 > frame.length then none
    else if byteAt frame (ipOff + 9) ≠ ipprotoUdp ∨ byteAt frame ipOff &&& 0x0F ≠ 5 then none
    else some { ver := .v4, ipOff }
  else if ethProto = IpVersion.v6.etherType then
    if ipOff + 40 > frame.length then none
    else if byteAt frame (ipOff + 6) ≠ ipprotoUdp then none
    else some { ver := .v6, ipOff }
  else none

def parseEth (frame : Buf) : Option UdpPos :=
  if 14 > frame.length then none
  else if be16At frame 12 = ethP8021Q then
    if 18 > frame.length then none else parseIp frame (be16At frame 16) (18)
  else parseIp frame (be16At frame 12) 14

def parseUdp (frame : Buf) : Option UdpPos :=
  match parseEth frame with
  | none => none
  | some pos => if pos.payloadOff > frame.length then none else some pos

def loadBytes (frame : Buf) (off len : Nat) : Option Buf :=
  if off + len > frame.length then none else some (slice frame off (off + len))

def storeBytes (frame : Buf) (off : Nat) (bytes : Buf) : Option Buf :=
  if off + bytes.length > frame.length then none else some (overwrite frame off bytes)

theorem loadBytes_ok {frame : Buf} {off len : Nat} (inside : off + len ≤ frame.length) :
    loadBytes frame off len = some (slice frame off (off + len)) := by
  rw [loadBytes, if_neg (by omega)]

theorem storeBytes_ok {frame bytes : Buf} {off : Nat} (inside : off + bytes.length ≤ frame.length) :
    storeBytes frame off bytes = some (overwrite frame off bytes) := by
  rw [storeBytes, if_neg (by omega)]

theorem loadBytes_some {frame bytes : Buf} {off len : Nat} (loaded : loadBytes frame off len = some bytes) :
    off + len ≤ frame.length ∧ bytes = slice frame off (off + len) := by
  unfold loadBytes at loaded
  split_ifs at loaded with outside
  cases loaded
  exact ⟨by omega, rfl⟩

theorem storeBytes_some {frame frame' bytes : Buf} {off : Nat} (stored : storeBytes frame off bytes = some frame') :
    off + bytes.length ≤ frame.length ∧ frame' = overwrite frame off bytes := by
  unfold storeBytes at stored
  split_ifs at stored with outside
  cases stored
  exact ⟨by omega, rfl⟩

-- `bpf_csum_diff` without a buffer to subtract: the ones' complement sum of the words and the seed
def csumDiff (bytes : Buf) (seed : Nat) : Nat := ones32 (seed + sumLe32 bytes)

def foldCarry (csum : Nat) : Nat := if csum / 2 ^ 16 ≠ 0 then csum % 2 ^ 16 + csum / 2 ^ 16 else csum

def csumFold (csum : Nat) : UInt16 := ~~~UInt16.ofNat (foldCarry (foldCarry (foldCarry (foldCarry csum))))

def toLeBytes16 (x : UInt16) : Buf := [UInt8.ofNat x.toNat, UInt8.ofNat (x.toNat / 2 ^ 8)]

@[simp] theorem length_toLeBytes16 (x : UInt16) : (toLeBytes16 x).length = 2 := by
  simp [toLeBytes16]

def csumChunks (data : Buf) (width : Nat) : Nat → Nat → Nat → Nat → Nat × Nat × Nat
  | 0, off, len, csum => (off, len, csum)
  | count + 1, off, len, csum =>
      if len ≥ width then
        if off + width > data.length then (off, len, csum)
        else csumChunks data width count (off + width) (len - width) (csumDiff (slice data off (off + width)) csum)
      else csumChunks data width count off len csum

def calcPayloadCsum (data : Buf) (off len seed : Nat) : Nat :=
  let (off, len, csum) := csumChunks data 64 24 off len seed
  let (off, len, csum) := csumChunks data 4 15 off len csum
  -- the last bytes are added in 64 bits, of which half are returned
  if len > 0 ∧ len ≤ 3 ∧ off + len ≤ data.length then (csum + leNat (slice data off (off + len))) % 2 ^ 32 else csum

def writeIpChecksum (ipOff : Nat) (frame : Buf) : Buf :=
  let frame := overwrite frame (ipOff + 10) [0, 0]
  overwrite frame (ipOff + 10) (toLeBytes16 (csumFold (csumDiff (slice frame ipOff (ipOff + 20)) 0)))

theorem writeIpChecksum_append (headers rest : Buf) (ipOff : Nat) (inside : ipOff + 20 ≤ headers.length) :
    writeIpChecksum ipOff (headers ++ rest) = writeIpChecksum ipOff headers ++ rest := by
  unfold writeIpChecksum
  dsimp only
  rw [overwrite_append_left _ _ _ _ (by simp; omega), slice_append_left _ _ _ _ (by simpa using inside),
    overwrite_append_left _ _ _ _ (by simp; omega)]

@[simp] theorem length_writeIpChecksum (headers : Buf) (ipOff : Nat) :
    (writeIpChecksum ipOff headers).length = headers.length := by
  simp [writeIpChecksum]

def payloadOff (ver : IpVersion) : Nat := 14 + ver.headerLen + 8

structure UdpHeaders (ver : IpVersion) (sport dport : UInt16) (udpLen : Nat) (frame : Buf) : Prop where
  etherType : be16At frame 12 = ver.etherType
  protocol : byteAt frame (14 + ver.protocolOff) = ipprotoUdp
  options : ver = .v4 → byteAt frame 14 &&& 0x0F = 5
  sport : be16At frame (14 + ver.headerLen) = sport
  dport : be16At frame (14 + ver.headerLen + 2) = dport
  udpLen : (be16At frame (14 + ver.headerLen + 4)).toNat = udpLen

structure UdpFrame (ver : IpVersion) (sport dport : UInt16) (payload frame : Buf) : Prop where
  headers : UdpHeaders ver sport dport (payload.length + 8) frame
  whole : payloadOff ver + payload.length ≤ frame.length
  payload : slice frame (payloadOff ver) (payloadOff ver + payload.length) = payload

variable {ver : IpVersion} {sport dport : UInt16} {payload frame : Buf}

theorem parseIp_eq (ver : IpVersion) (frame : Buf) (ipOff : Nat) (inside : ipOff + ver.headerLen ≤ frame.length)
    (protocol : byteAt frame (ipOff + ver.protocolOff) = ipprotoUdp)
    (options : ver = .v4 → byteAt frame ipOff &&& 0x0F = 5) :
    parseIp frame ver.etherType ipOff = some { ver, ipOff } := by
  unfold parseIp
  cases ver with
  | v4 =>
      simp only [IpVersion.headerLen, IpVersion.protocolOff] at inside protocol
      rw [if_pos rfl, if_neg (by omega), if_neg (by simp [protocol, options])]
  | v6 =>
      simp only [IpVersion.headerLen, IpVersion.protocolOff] at inside protocol
      rw [if_neg (by decide), if_pos rfl, if_neg (by omega), if_neg (by simp [protocol])]

theorem parseIp_some {proto : UInt16} {ipOff : Nat} {pos : UdpPos} (parsed : parseIp frame proto ipOff = some pos) :
    pos.ipOff = ipOff ∧ proto = pos.ver.etherType ∧ byteAt frame (ipOff + pos.ver.protocolOff) = ipprotoUdp ∧
      (pos.ver = .v4 → byteAt frame ipOff &&& 0x0F = 5) := by
  unfold parseIp at parsed
  split_ifs at parsed with v4 short other v6 <;> cases parsed
  · rw [not_or, not_not, not_not] at other
    exact ⟨rfl, v4, other.1, fun _ => other.2⟩
  · rename_i foreign
    exact ⟨rfl, v6, not_not.mp foreign, nofun⟩

theorem parseUdp_some {pos : UdpPos} (parsed : parseUdp frame = some pos) :
    pos.payloadOff ≤ frame.length ∧
      (be16At frame 12 = ethP8021Q ∧ parseIp frame (be16At frame 16) 18 = some pos ∨
        be16At frame 12 ≠ ethP8021Q ∧ parseIp frame (be16At frame 12) 14 = some pos) := by
  unfold parseUdp parseEth at parsed
  split at parsed
  · cases parsed
  · rename_i found eth
    split_ifs at parsed with outside
    cases parsed
    refine ⟨by omega, ?_⟩
    split_ifs at eth with short tagged
    · exact .inl ⟨tagged, eth⟩
    · exact .inr ⟨tagged, eth⟩

theorem parseUdp_ipOff {pos : UdpPos} (parsed : parseUdp frame = some pos) : 14 ≤ pos.ipOff := by
  rcases (parseUdp_some parsed).2 with ⟨-, ip⟩ | ⟨-, ip⟩ <;> simp [(parseIp_some ip).1]

structure KeepsLink (pos : UdpPos) (frame frame' : Buf) : Prop where
  link : ∀ i, 12 ≤ i → i ≤ pos.ipOff → byteAt frame' i = byteAt frame i
  protocol : byteAt frame' (pos.ipOff + pos.ver.protocolOff) = byteAt frame (pos.ipOff + pos.ver.protocolOff)

theorem parseUdp_congr {pos : UdpPos} {frame' : Buf} (parsed : parseUdp frame = some pos)
    (keeps : KeepsLink pos frame frame') (whole : pos.payloadOff ≤ frame'.length) : parseUdp frame' = some pos := by
  have offsets : pos.payloadOff = pos.ipOff + pos.ver.headerLen + 8 := rfl
  have word (i : Nat) (above : 12 ≤ i) (below : i + 2 ≤ pos.ipOff) : be16At frame' i = be16At frame i := by
    apply be16At_congr
    intro k small
    exact keeps.link _ (by omega) (by omega)
  have eth : parseEth frame' = some pos := by
    rcases (parseUdp_some parsed).2 with ⟨tagged, ip⟩ | ⟨untagged, ip⟩
    · obtain ⟨off, proto, udp, options⟩ := parseIp_some ip
      have again := parseIp_eq pos.ver frame' 18 (by omega)
        (by rw [← off] at udp ⊢; exact keeps.protocol.trans udp)
        (fun v4 => by rw [keeps.link 18 (by omega) (by omega)]; exact options v4)
      rw [parseEth, if_neg (by omega), word 12 (by omega) (by omega), if_pos tagged, if_neg (by omega),
        word 16 (by omega) (by omega), proto, again, ← off]
    · obtain ⟨off, proto, udp, options⟩ := parseIp_some ip
      have again := parseIp_eq pos.ver frame' 14 (by omega)
        (by rw [← off] at udp ⊢; exact keeps.protocol.trans udp)
        (fun v4 => by rw [keeps.link 14 (by omega) (by omega)]; exact options v4)
      rw [parseEth, if_neg (by omega), word 12 (by omega) (by omega), if_neg untagged, proto, again, ← off]
  simp only [parseUdp, eth, if_neg (Nat.not_lt.mpr whole)]

theorem parseUdp_plain (link : be16At frame 12 = ver.etherType)
    (protocol : byteAt frame (14 + ver.protocolOff) = ipprotoUdp) (options : ver = .v4 → byteAt frame 14 &&& 0x0F = 5)
    (whole : payloadOff ver ≤ frame.length) : parseUdp frame = some { ver, ipOff := 14 } := by
  have untagged : ver.etherType ≠ ethP8021Q := by cases ver <;> decide
  unfold payloadOff at whole
  have eth : parseEth frame = some { ver, ipOff := 14 } := by
    rw [parseEth, if_neg (by omega), link, if_neg untagged, parseIp_eq ver frame 14 (by omega) protocol options]
  have inside : ¬({ ver, ipOff := 14 } : UdpPos).payloadOff > frame.length := by
    simp only [UdpPos.payloadOff, UdpPos.udpOff]
    omega
  simp only [parseUdp, eth, if_neg inside]

theorem UdpFrame.parseUdp (isUdp : UdpFrame ver sport dport payload frame) :
    parseUdp frame = some { ver, ipOff := 14 } := by
  have whole := isUdp.whole
  exact parseUdp_plain isUdp.headers.etherType isUdp.headers.protocol isUdp.headers.options (by omega)

theorem UdpHeaders.append_iff {headers : Buf} {udpLen : Nat} (length : headers.length = payloadOff ver) (rest : Buf) :
    UdpHeaders ver sport dport udpLen (headers ++ rest) ↔ UdpHeaders ver sport dport udpLen headers := by
  have enough : 42 ≤ payloadOff ver ∧ 14 + ver.headerLen + 8 = payloadOff ver ∧
      14 + ver.protocolOff < payloadOff ver := by
    cases ver <;> decide
  have protocol : byteAt (headers ++ rest) (14 + ver.protocolOff) = byteAt headers (14 + ver.protocolOff) := by
    exact byteAt_append_left _ _ _ (by omega)
  have options : byteAt (headers ++ rest) 14 = byteAt headers 14 := byteAt_append_left _ _ _ (by omega)
  have word (i : Nat) (inside : i + 2 ≤ payloadOff ver) : be16At (headers ++ rest) i = be16At headers i :=
    be16At_append_left headers rest i (by omega)
  constructor
  · rintro ⟨link, proto, opts, source, dest, len⟩
    rw [word _ (by omega)] at link source dest len
    exact ⟨link, protocol ▸ proto, options ▸ opts, source, dest, len⟩
  · rintro ⟨link, proto, opts, source, dest, len⟩
    rw [← word _ (by omega)] at link source dest len
    exact ⟨link, protocol.trans proto, fun v4 => options ▸ opts v4, source, dest, len⟩

theorem UdpFrame.split (isUdp : UdpFrame ver sport dport payload frame) :
    ∃ headers trail, frame = headers ++ (payload ++ trail) ∧ headers.length = payloadOff ver ∧
      UdpHeaders ver sport dport (payload.length + 8) headers := by
  have whole := isUdp.whole
  have length : (frame.take (payloadOff ver)).length = payloadOff ver := by simp; omega
  have split : frame = frame.take (payloadOff ver) ++
      (payload ++ frame.drop (payloadOff ver + payload.length)) := by
    have rest := slice_append_drop frame (payloadOff ver) payload.length
    rw [isUdp.payload] at rest
    rw [rest, List.take_append_drop]
  have headers := isUdp.headers
  rw [split, UdpHeaders.append_iff length] at headers
  exact ⟨_, _, split, length, headers⟩

theorem UdpFrame.of_headers {headers : Buf} (trail : Buf) (length : headers.length = payloadOff ver)
    (fields : UdpHeaders ver sport dport (payload.length + 8) headers) :
    UdpFrame ver sport dport payload (headers ++ (payload ++ trail)) := by
  refine ⟨(UdpHeaders.append_iff length _).mpr fields, by simp; omega, ?_⟩
  rw [← length, slice_middle _ _ _ _ rfl]

theorem UdpFrame.payload_unique {sport' dport' : UInt16} {payload' : Buf}
    (isUdp : UdpFrame ver sport dport payload frame) (isUdp' : UdpFrame ver sport' dport' payload' frame) :
    payload = payload' := by
  have length : payload.length = payload'.length := by
    have same := isUdp.headers.udpLen.symm.trans isUdp'.headers.udpLen
    omega
  rw [← isUdp.payload, ← isUdp'.payload, length]

end Gutd.Bpf
