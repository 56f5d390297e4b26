import Gutd.Userspace.Decap

set_option autoImplicit false

namespace Gutd.Userspace

open Bytes Checked Wire

theorem encapForm_gut (obfs : ObfsMode) (wgType : UInt8) (isServer : Bool) :
    encapForm obfs wgType isServer = .gut ↔ obfs ≠ .quic := by
  unfold encapForm
  split_ifs <;> simp_all

theorem obfsEncap_carries (ch : Channel) (buf : Buf) (n : Nat) (isServer : Bool) (sport dport : UInt16)
    (obfs : ObfsMode) (sipDomain : Buf) (nowNs : Nat) (w pad : Buf) (form : Form) (message : 32 ≤ n)
    (payload : w = buf.take n) (chosen : form = encapForm obfs (typeOf w) isServer)
    (padded : pad = encapPad ch obfs form w) (room : form.headerLen + n + pad.length ≤ buf.length) :
    ∃ p, Carries ch form w pad sport dport p ∧
      obfsEncap ch.order buf n ch.key ch.rounds isServer sport dport obfs sipDomain nowNs =
        .ok (p ++ buf.drop p.length, some (p.length, (ch.ks47 w).get 9)) := by
  obtain ⟨header, exact, reads, -, done⟩ := obfsEncap_ok ch buf n isServer sport dport obfs sipDomain nowNs w pad form
    (by omega) payload chosen padded room
  have wLength : w.length = n := by simp [payload]; omega
  have padding : pad.length ≤ 64 := padded ▸ length_encapPad ch obfs form w
  refine ⟨_, Carries.of_header reads exact (by omega) padding, ?_⟩
  have total : (header ++ (mask (ch.keystream w) w ++ pad)).length = form.headerLen + n + pad.length := by
    simp [exact, wLength]
    omega
  rw [total, done]
  simp only [List.append_assoc]

theorem obfsEncap_total (ch : Channel) (buf : Buf) (n : Nat) (isServer : Bool) (sport dport : UInt16) (obfs : ObfsMode)
    (sipDomain : Buf) (nowNs : Nat) (message : 32 ≤ n) (room : 1200 + n + 64 ≤ buf.length) :
    ∃ out len dcid, obfsEncap ch.order buf n ch.key ch.rounds isServer sport dport obfs sipDomain nowNs =
      .ok (out, some (len, dcid)) := by
  have header := Form.headerLen_le (encapForm obfs (typeOf (buf.take n)) isServer)
  have padding := length_encapPad ch obfs (encapForm obfs (typeOf (buf.take n)) isServer) (buf.take n)
  obtain ⟨p, -, done⟩ := obfsEncap_carries ch buf n isServer sport dport obfs sipDomain nowNs (buf.take n) _ _
    message rfl rfl rfl (by omega)
  exact ⟨_, _, _, done⟩

theorem carries_of_obfsEncap (ch : Channel) {buf out : Buf} {n len : Nat} {isServer : Bool} {sport dport : UInt16}
    {obfs : ObfsMode} {sipDomain : Buf} {nowNs : Nat} {dcid : UInt32} (message : 32 ≤ n)
    (done : obfsEncap ch.order buf n ch.key ch.rounds isServer sport dport obfs sipDomain nowNs =
      .ok (out, some (len, dcid))) :
    ∃ p, len = p.length ∧ out = p ++ buf.drop p.length ∧
      Carries ch (encapForm obfs (typeOf (buf.take n)) isServer) (buf.take n)
        (encapPad ch obfs (encapForm obfs (typeOf (buf.take n)) isServer) (buf.take n)) sport dport p := by
  have room := (obfsEncap_room ch rfl rfl done).2
  obtain ⟨p, carries, result⟩ := obfsEncap_carries ch buf n isServer sport dport obfs sipDomain nowNs (buf.take n) _ _
    message rfl rfl rfl room
  rw [done] at result
  obtain ⟨rfl, rfl, -⟩ : out = p ++ buf.drop p.length ∧ len = p.length ∧ dcid = _ := by simpa using result
  exact ⟨p, rfl, rfl, carries⟩

def gutDatagram (ch : Channel) (w : Buf) (sport dport : UInt16) : Buf :=
  gutHeader ((ch.ks47 w).get 10) (packPorts sport dport ^^^ (ch.ks47 w).get 11) (encapPad ch .gut .gut w).length ++
    (mask (ch.keystream w) w ++ encapPad ch .gut .gut w)

theorem obfsEncap_gut (ch : Channel) {buf out : Buf} {n len : Nat} {isServer : Bool} {sport dport : UInt16}
    {sipDomain : Buf} {nowNs : Nat} {dcid : UInt32} (message : 32 ≤ n)
    (done : obfsEncap ch.order buf n ch.key ch.rounds isServer sport dport .gut sipDomain nowNs =
      .ok (out, some (len, dcid))) :
    len = (gutDatagram ch (buf.take n) sport dport).length ∧
      out.take len = gutDatagram ch (buf.take n) sport dport ∧
      Carries ch .gut (buf.take n) (encapPad ch .gut .gut (buf.take n)) sport dport
        (gutDatagram ch (buf.take n) sport dport) := by
  have room := (obfsEncap_room ch rfl rfl done).2
  obtain ⟨header, exact, reads, written, result⟩ := obfsEncap_ok ch buf n isServer sport dport .gut sipDomain nowNs
    (buf.take n) _ .gut (by omega) rfl rfl rfl room
  have carries := Carries.of_header reads exact (by simp; omega) (length_encapPad ch .gut .gut (buf.take n))
  have datagram : header ++ (mask (ch.keystream (buf.take n)) (buf.take n) ++ encapPad ch .gut .gut (buf.take n)) =
      gutDatagram ch (buf.take n) sport dport := by
    rw [written rfl, gutDatagram]
  have length := carries.length
  rw [datagram] at carries length
  rw [done] at result
  obtain ⟨rfl, rfl, -⟩ : out = _ ∧ len = _ ∧ dcid = _ := by simpa using result
  have inside : (buf.take n).length = n := by simp; omega
  rw [inside] at length
  refine ⟨length.symm, ?_, carries⟩
  rw [← List.append_assoc (mask _ _), ← List.append_assoc, datagram, List.take_left' length]

theorem length_encapPad_gut (ch : Channel) (w : Buf) : (encapPad ch .gut .gut w).length ≤ 15 := by
  rw [encapPad, length_padBytes, encapPadLen, if_pos rfl]
  dsimp only
  split_ifs <;> omega

theorem obfs_roundTrip (order : ByteOrder) (key : Vector UInt8 32) (rounds : UInt8) (isServer : Bool)
    (sport dport : UInt16) (obfs verifyMode : ObfsMode) (sipDomain : Buf) (nowNs : Nat) (buf : Buf) (n : Nat)
    (message : 32 ≤ n) (room : 1200 + n + 64 ≤ buf.length) (mode : verifyMode = .quic ↔ obfs = .quic) :
    ∃ out len dcid,
      obfsEncap order buf n (chachaInit key) rounds isServer sport dport obfs sipDomain nowNs =
          .ok (out, some (len, dcid)) ∧
        len ≤ out.length ∧
        ∀ rest, obfsVerify (out.take len ++ rest) len (chachaInit key) rounds verifyMode = .ok true ∧
          ∃ plain, obfsDecap order (out.take len ++ rest) len (chachaInit key) rounds obfs =
              .ok (plain, some (n, sport, dport)) ∧
            plain.take n = buf.take n := by
  let ch : Channel := { order, key := chachaInit key, rounds }
  obtain ⟨out, len, dcid, done⟩ := obfsEncap_total ch buf n isServer sport dport obfs sipDomain nowNs message room
  obtain ⟨p, rfl, rfl, carries⟩ := carries_of_obfsEncap ch message done
  have form := encapForm_gut obfs (typeOf (buf.take n)) isServer
  have wLength : (buf.take n).length = n := by simp; omega
  refine ⟨_, p.length, _, done, by simp, ?_⟩
  intro rest
  have decapped := obfsDecap_carried carries rest form
  rw [wLength] at decapped
  rw [List.take_left' rfl]
  refine ⟨obfsVerify_carried carries rest (form.trans (by simp [mode])), _, decapped, ?_⟩
  have length := carries.length
  rw [overwrite_zero _ _ (by simp; omega), List.take_left' wLength]

theorem obfs_roundTrip_response :
    ∃ out len dcid,
      obfsEncap .little ((2 : UInt8) :: List.replicate 1355 0) 92 (chachaInit (Vector.replicate 32 7)) 4 true 51820
          41000 .sip [] 0 = .ok (out, some (len, dcid)) ∧
        len ≤ out.length ∧
        ∀ rest, obfsVerify (out.take len ++ rest) len (chachaInit (Vector.replicate 32 7)) 4 .gut = .ok true ∧
          ∃ plain, obfsDecap .little (out.take len ++ rest) len (chachaInit (Vector.replicate 32 7)) 4 .sip =
              .ok (plain, some (92, 51820, 41000)) ∧
            plain.take 92 = ((2 : UInt8) :: List.replicate 1355 0).take 92 :=
  obfs_roundTrip .little (Vector.replicate 32 7) 4 true 51820 41000 .sip .gut [] 0 _ 92 (by decide)
    (Nat.le_of_eq (by rw [List.length_cons, List.length_replicate])) (by decide)

end Gutd.Userspace
