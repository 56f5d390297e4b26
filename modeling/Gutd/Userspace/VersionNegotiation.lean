import Gutd.Shared.Rfc9000
import Gutd.Userspace.Probe

set_option autoImplicit false

namespace Gutd.Userspace

open Bytes Checked

theorem byteAt_take_inside {buf : Buf} {i n : Nat} (inside : i < n) : byteAt (buf.take n) i = byteAt buf i := by
  rw [byteAt_take, if_pos inside]

theorem generateQuicVersionNegotiation_take {buf : Buf} {size : Nat} (inside : size ≤ buf.length) :
    generateQuicVersionNegotiation buf size = generateQuicVersionNegotiation (buf.take size) size := by
  have width : (buf.take size).length = size := by
    rw [List.length_take]
    omega
  have cut {a b : Nat} (ordered : a ≤ b) (short : b ≤ size) : subslice (buf.take size) a b = subslice buf a b := by
    rw [subslice_ok ordered (by omega), subslice_ok ordered (by omega)]
    congr 1
    apply ext_byteAt (by simp; omega)
    intro i bounded
    rw [length_slice] at bounded
    rw [byteAt_slice, byteAt_slice, if_pos (by omega), if_pos (by omega), byteAt_take_inside (by omega)]
  have one {i : Nat} (short : i < size) : getByte (buf.take size) i = getByte buf i := by
    rw [getByte_ok (by omega), getByte_ok (by omega), byteAt_take_inside short]
  unfold generateQuicVersionNegotiation
  split_ifs with tiny
  · rfl
  rw [one (by omega), getByte_ok (by omega), bind_ok, bind_ok]
  split_ifs with short
  · rfl
  rw [readBe32, readBe32, cut (by omega) (by omega), subslice_ok (by omega) (by omega)]
  simp only [bind_ok, pure_eq_ok]
  split_ifs with known
  · rfl
  rw [one (by omega), getByte_ok (by omega), bind_ok, bind_ok]
  split_ifs with outside
  · rfl
  rw [cut (by omega) (by omega), one (by omega), subslice_ok (by omega) (by omega), getByte_ok (by omega)]
  simp only [bind_ok]
  split_ifs with beyond
  · rfl
  rw [cut (by omega) (by omega)]

structure Answered (buf : Buf) (size d s : Nat) : Prop where
  long : 14 ≤ size
  form : byteAt buf 0 &&& 0x80 ≠ 0
  version : be32At buf 1 ≠ 0 ∧ be32At buf 1 ≠ 0x6b3343cf
  ids : 6 + d + 1 + s ≤ size
  room : d + s ≤ 49

theorem generateQuicVersionNegotiation_answered {buf : Buf} {size d s : Nat} (inside : size ≤ buf.length)
    (dcidLen : (byteAt buf 5).toNat = d) (scidLen : (byteAt buf (6 + d)).toNat = s) (answered : Answered buf size d s) :
    generateQuicVersionNegotiation buf size =
      .ok (some (versionNegotiationPacket (slice buf 6 (6 + d)) (slice buf (6 + d + 1) (6 + d + 1 + s)))) := by
  have ⟨long, form, ⟨fresh, foreign⟩, ids, room⟩ := answered
  rw [generateQuicVersionNegotiation, if_neg (by omega), getByte_ok (by omega), bind_ok, if_neg form,
    readBe32_ok (by omega), bind_ok, if_neg (not_or.mpr ⟨fresh, foreign⟩), getByte_ok (by omega), bind_ok, dcidLen,
    if_neg (by omega), subslice_ok (by omega) (by omega), bind_ok, getByte_ok (by omega), bind_ok, scidLen,
    if_neg (by omega), subslice_ok (by omega) (by omega), bind_ok, if_neg]
  · rfl
  · rw [length_slice, length_slice]
    omega

-- the checks in the order of the source: the first that fails ends the run without an answer
theorem generateQuicVersionNegotiation_unanswered {buf : Buf} {size d s : Nat} (inside : size ≤ buf.length)
    (dcidLen : (byteAt buf 5).toNat = d) (scidLen : (byteAt buf (6 + d)).toNat = s) (silent : ¬ Answered buf size d s) :
    generateQuicVersionNegotiation buf size = .ok none := by
  rw [generateQuicVersionNegotiation]
  by_cases long : size < 14
  · exact if_pos long
  rw [if_neg long, getByte_ok (by omega), bind_ok]
  by_cases form : byteAt buf 0 &&& 0x80 = 0
  · exact if_pos form
  rw [if_neg form, readBe32_ok (by omega), bind_ok]
  by_cases version : be32At buf 1 = 0 ∨ be32At buf 1 = 0x6b3343cf
  · exact if_pos version
  rw [if_neg version, getByte_ok (by omega), bind_ok, dcidLen]
  by_cases dcid : 6 + d ≥ size
  · exact if_pos dcid
  rw [if_neg dcid, subslice_ok (by omega) (by omega), bind_ok, getByte_ok (by omega), bind_ok, scidLen]
  by_cases scid : 6 + d + 1 + s > size
  · exact if_pos scid
  rw [if_neg scid, subslice_ok (by omega) (by omega), bind_ok]
  refine if_pos ?_
  rw [length_slice, length_slice]
  by_contra room
  exact silent ⟨by omega, form, not_or.mp version, by omega, by omega⟩

theorem length_versionNegotiationPacket (dcid scid : Buf) :
    (versionNegotiationPacket dcid scid).length = 15 + (dcid.length + scid.length) := by
  simp only [versionNegotiationPacket, supportedVersions, List.length_append, List.length_cons, List.length_nil]
  omega

theorem versionNegotiationPacket_parses {dcid scid : Buf} (dcidByte : dcid.length < 256) (scidByte : scid.length < 256) :
    Rfc9000.parseVersionNegotiation (versionNegotiationPacket dcid scid) =
      some { dcid := scid, scid := dcid, versions := [0x6b3343cf, 0x00000001] } := by
  have high : ∀ b : UInt8, ((0x80 : UInt8) ||| 0x40 ||| b) &&& 0x80 ≠ 0 := forall_byte (by decide)
  obtain ⟨first, long, written⟩ : ∃ first : UInt8, first &&& 0x80 ≠ 0 ∧ versionNegotiationPacket dcid scid =
      first :: 0 :: 0 :: 0 :: 0 :: UInt8.ofNat scid.length ::
        (scid ++ UInt8.ofNat dcid.length :: (dcid ++ supportedVersions)) :=
    ⟨0x80 ||| 0x40 ||| (if dcid.isEmpty then 0x0A else byteAt dcid 0 &&& 0x3F), high _, by simp [versionNegotiationPacket]⟩
  rw [written, Rfc9000.parseVersionNegotiation, Rfc9000.parseLong_append supportedVersions long
    (UInt8.toNat_ofNat_of_lt' scidByte).symm (UInt8.toNat_ofNat_of_lt' dcidByte).symm]
  rfl

theorem generateQuicVersionNegotiation_iff (buf : Buf) (size d s : Nat) (inside : size ≤ buf.length)
    (dcidLen : (byteAt buf 5).toNat = d) (scidLen : (byteAt buf (6 + d)).toNat = s) :
    (∃ found, generateQuicVersionNegotiation buf size = .ok found) ∧
      ((∃ out, generateQuicVersionNegotiation buf size = .ok (some out)) ↔
        14 ≤ size ∧ byteAt buf 0 &&& 0x80 ≠ 0 ∧ be32At buf 1 ≠ 0 ∧ be32At buf 1 ≠ 0x6b3343cf ∧
          6 + d + 1 + s ≤ size ∧ d + s ≤ 49) ∧
      (∀ out, generateQuicVersionNegotiation buf size = .ok (some out) →
        out.length ≤ 64 ∧
          Rfc9000.parseVersionNegotiation out =
            some
              { dcid := slice buf (6 + d + 1) (6 + d + 1 + s)
                scid := slice buf 6 (6 + d)
                versions := [0x6b3343cf, 0x00000001] }) ∧
      generateQuicVersionNegotiation buf size = generateQuicVersionNegotiation (buf.take size) size := by
  have alone := generateQuicVersionNegotiation_take inside
  by_cases answered : Answered buf size d s
  · have generated := generateQuicVersionNegotiation_answered inside dcidLen scidLen answered
    have ⟨long, form, ⟨fresh, foreign⟩, ids, room⟩ := answered
    refine ⟨⟨_, generated⟩, ⟨fun _ => ⟨long, form, fresh, foreign, ids, room⟩, fun _ => ⟨_, generated⟩⟩, ?_, alone⟩
    intro out written
    rw [generated] at written
    cases written
    constructor
    · rw [length_versionNegotiationPacket, length_slice, length_slice]
      omega
    · refine versionNegotiationPacket_parses ?_ ?_ <;> rw [length_slice] <;> omega
  · have generated := generateQuicVersionNegotiation_unanswered inside dcidLen scidLen answered
    refine ⟨⟨_, generated⟩, ⟨?_, ?_⟩, ?_, alone⟩
    · rintro ⟨out, written⟩
      rw [generated] at written
      cases written
    · rintro ⟨long, form, fresh, foreign, ids, room⟩
      exact absurd ⟨long, form, ⟨fresh, foreign⟩, ids, room⟩ answered
    · intro out written
      rw [generated] at written
      cases written

def quicProbe : Buf := [0xc3, 0, 0, 0, 1, 2, 0xaa, 0xbb, 5, 1, 2, 3, 4, 5, 0xff]

theorem generateQuicVersionNegotiation_iff_sample :
    ∃ out, generateQuicVersionNegotiation quicProbe 14 = .ok (some out) ∧ out.length ≤ 64 ∧
      Rfc9000.parseVersionNegotiation out =
        some { dcid := [1, 2, 3, 4, 5], scid := [0xaa, 0xbb], versions := [0x6b3343cf, 0x00000001] } := by
  obtain ⟨-, accepted, parsed, -⟩ := generateQuicVersionNegotiation_iff quicProbe 14 2 5 (by decide) rfl rfl
  obtain ⟨out, generated⟩ := accepted.mpr (by decide)
  exact ⟨out, generated, parsed out generated⟩

end Gutd.Userspace
