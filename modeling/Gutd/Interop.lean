import Gutd.Bpf.TcRedirect
import Gutd.Bpf.TcSend
import Gutd.Bpf.XdpRejection
import Gutd.Userspace.RoundTrip

set_option autoImplicit false

namespace Gutd

open Bytes Checked Wire Bpf

inductive Sent (mode : ObfsMode) (key : Vector UInt8 32) (w : Buf) (sport dport : UInt16) : Buf → Prop where
  | userspace {buf out sipDomain : Buf} {isServer : Bool} {nowNs len : Nat} {dcid : UInt32}
      (message : buf.take w.length = w)
      (encapped : Userspace.obfsEncap .little buf w.length (chachaInit key) chachaRounds isServer sport dport mode
        sipDomain nowNs = .ok (out, some (len, dcid))) :
      Sent mode key w sport dport (out.take len)
  | tc {cfg : GutConfig} {k : Kernel} {tc tc' : Tc} {ifindex : UInt32} {ver : IpVersion} {sport' dport' : UInt16}
      {p : Buf} (keyed : cfg.Keyed key) (untagged : tc.macLen = 14) (input : UdpFrame ver sport dport w tc.skb)
      (ends : tc.skb.length = payloadOff ver + w.length)
      (redirected : gutEgress mode cfg k tc = (.redirect ifindex, tc')) (output : UdpFrame ver sport' dport' p tc'.skb) :
      Sent mode key w sport dport p

variable {mode : ObfsMode} {key : Vector UInt8 32} {w p : Buf} {sport dport : UInt16}

theorem built_encapForm (plain : mode = .gut ∨ mode = .quic) (wgType : UInt8) (isServer : Bool) :
    Built mode (Userspace.encapForm mode wgType isServer) := by
  have gut := Userspace.encapForm_gut mode wgType isServer
  rcases plain with rfl | rfl
  · exact .inl ⟨rfl, gut.mpr nofun⟩
  · exact .inr ⟨rfl, fun other => gut.mp other rfl⟩

theorem built_tcForm (plain : mode = .gut ∨ mode = .quic) (wgType : UInt8) : Built mode (tcForm mode wgType) := by
  rcases plain with rfl | rfl
  · exact .inl ⟨rfl, rfl⟩
  · refine .inr ⟨rfl, ?_⟩
    rw [tcForm, if_neg (by simp)]
    split_ifs <;> decide

theorem exact_split {ver : IpVersion} {skb : Buf} (isUdp : UdpFrame ver sport dport w skb)
    (ends : skb.length = payloadOff ver + w.length) : ∃ headers, skb = headers ++ w ∧ headers.length = payloadOff ver := by
  obtain ⟨headers, trail, rfl, length, -⟩ := isUdp.split
  have none : trail = [] := by
    apply List.eq_nil_of_length_eq_zero
    simp at ends
    omega
  exact ⟨headers, by simp [none], length⟩

theorem Sent.carries (plain : mode = .gut ∨ mode = .quic) (message : WgMessage w) (sent : Sent mode key w sport dport p) :
    ∃ form, Built mode form ∧
      Carries (channel key) form w (Userspace.encapPad (channel key) mode form w) sport dport p := by
  have bounds := message.length
  cases sent with
  | userspace same encapped =>
      obtain ⟨q, rfl, rfl, carries⟩ := Userspace.carries_of_obfsEncap (channel key) bounds.1 encapped
      rw [same] at carries
      rw [List.take_left' rfl]
      exact ⟨_, built_encapForm plain _ _, carries⟩
  | tc keyed untagged input ends redirected output =>
      obtain ⟨headers, skb, length⟩ := exact_split input ends
      obtain ⟨port, route, admits⟩ := gutEgress_admits keyed plain input message skb length untagged redirected
      obtain ⟨tc', header, redirected', reads, frame⟩ := gutEgress_sends keyed plain input message skb length untagged admits
      rw [redirected] at redirected'
      cases redirected'
      rw [output.payload_unique frame]
      exact ⟨_, built_tcForm plain _, Carries.of_header reads.reads reads.length bounds.1 (length_tcPad_le key mode w)⟩

theorem length_quicPad (ch : Channel) (form : Form) (w : Buf) :
    (Userspace.encapPad ch .quic form w).length =
      if 220 ≤ w.length then 0 else (byteAt (ch.padBlock w) 63 &&& 0x3F).toNat + 1 := by
  simp [Userspace.encapPad, Userspace.encapPadLen]

-- the receiver takes at most 63 bytes of padding, the senders append up to 64
theorem quicPad_bounded (ch : Channel) (form : Form) (w : Buf) :
    (Userspace.encapPad ch .quic form w).length ≤ 63 ↔ 220 ≤ w.length ∨ byteAt (ch.padBlock w) 63 &&& 0x3F ≠ 63 := by
  have all : ∀ b : UInt8, (b &&& 0x3F).toNat + 1 ≤ 63 ↔ b &&& 0x3F ≠ 63 := forall_byte (by decide)
  rw [length_quicPad]
  split_ifs with large
  · simp [large]
  · rw [all]
    simp [large]

theorem quic_verdict {cfg : GutConfig} {x : Xdp} {ver : IpVersion} {sport' dport' : UInt16} (message : WgMessage w)
    (sent : Sent .quic key w sport dport p) (keyed : cfg.Keyed key) (port : isGutPort dport' cfg = true)
    (isUdp : UdpFrame ver sport' dport' p x.frame) :
    (220 ≤ w.length ∨ byteAt ((channel key).padBlock w) 63 &&& 0x3F ≠ 63 →
        ∃ x', gutXdpCore .quic cfg x = .ok x' ∧ UdpFrame ver sport dport w x'.frame) ∧
      (¬(220 ≤ w.length ∨ byteAt ((channel key).padBlock w) 63 &&& 0x3F ≠ 63) →
        ∃ x', gutXdpCore .quic cfg x = .error x') := by
  obtain ⟨form, built, carries⟩ := sent.carries (.inr rfl) message
  rw [← quicPad_bounded (channel key) form w, Nat.not_le]
  exact gutXdpCore_carried keyed built port isUdp carries (message.window _)

theorem quic_interop {cfg : GutConfig} {x : Xdp} {ver : IpVersion} {sport' dport' : UInt16} (message : WgMessage w)
    (sent : Sent .quic key w sport dport p) (keyed : cfg.Keyed key) (port : isGutPort dport' cfg = true)
    (isUdp : UdpFrame ver sport' dport' p x.frame) :
    (∃ x', gutXdpCore .quic cfg x = .ok x' ∧ UdpFrame ver sport dport w x'.frame) ↔
      220 ≤ w.length ∨ byteAt ((channel key).padBlock w) 63 &&& 0x3F ≠ 63 := by
  obtain ⟨opened, rejected⟩ := quic_verdict message sent keyed port isUdp
  constructor
  · rintro ⟨x', done, -⟩
    by_contra long
    obtain ⟨x'', failed⟩ := rejected long
    rw [done] at failed
    cases failed
  · exact opened

theorem sampleTc_sends (mode : ObfsMode) (plain : mode = .gut ∨ mode = .quic) (tag : UInt8) :
    ∃ tc' p, gutEgress mode sampleConfig sampleKernel (sampleTc tag) = (.redirect 0, tc') ∧
      Sent mode sampleKey (keepalive tag) 51820 41000 p ∧ UdpFrame .v4 41000 41000 p tc'.skb := by
  have admits : Admits sampleKey mode .v4 (keepalive tag) sampleConfig sampleKernel (sampleTc tag) 41000
      (configuredRoute sampleConfig .v4) := by
    refine ⟨?_, ?_, fun _ => rfl, fun dynamic => absurd rfl dynamic, ⟨rfl, rfl⟩, fun _ => ⟨rfl, rfl⟩, rfl⟩
    · simp [keepaliveDropped, sampleConfig]
    · have first : nextSeq (sampleTc tag) = 1 := rfl
      rw [first]
      rcases plain with rfl | rfl <;> decide
  obtain ⟨tc', header, redirected, -, frame⟩ := gutEgress_sends sampleConfig_keyed plain (sampleTc_input tag)
    (keepalive_message tag) rfl rfl rfl admits
  exact ⟨tc', _, redirected, .tc sampleConfig_keyed rfl (sampleTc_input tag) rfl redirected frame, frame⟩

theorem quic_interop_keepalive :
    ∃ tc', gutEgress .quic sampleConfig sampleKernel (sampleTc 0) = (.redirect 0, tc') ∧
      ((∃ x', gutXdpCore .quic sampleConfig (delivered tc'.skb) = .ok x' ∧
          UdpFrame .v4 51820 41000 (keepalive 0) x'.frame) ↔
        220 ≤ (keepalive 0).length ∨ byteAt ((channel sampleKey).padBlock (keepalive 0)) 63 &&& 0x3F ≠ 63) := by
  obtain ⟨tc', p, redirected, sent, frame⟩ := sampleTc_sends .quic (.inr rfl) 0
  exact ⟨tc', redirected, quic_interop (keepalive_message 0) sent sampleConfig_keyed (by decide) frame⟩

-- the tag is chosen such that the keystream asks for 64 bytes of padding
theorem quic_keepalive_lost :
    ∃ tc', gutEgress .quic sampleConfig sampleKernel (sampleTc 154) = (.redirect 0, tc') ∧
      ∃ x', gutXdpCore .quic sampleConfig (delivered tc'.skb) = .error x' := by
  obtain ⟨tc', p, redirected, sent, frame⟩ := sampleTc_sends .quic (.inr rfl) 154
  refine ⟨tc', redirected, (quic_verdict (keepalive_message 154) sent sampleConfig_keyed (by decide) frame).2 ?_⟩
  decide +kernel

structure Works (k : Kernel) : Prop where
  changeTail : k.changeTail = true
  adjustRoom : k.adjustRoom = true
  pullData : k.pullData = true

structure Routable (cfg : GutConfig) (tc : Tc) (ver : IpVersion) (w : Buf) : Prop where
  port : selectPort (nextSeq tc) cfg ≠ 0
  initiation : cfg.dynamicPeer ≠ 0 → typeOf w ≠ 1
  endpoint : ∃ route, routeOf cfg tc.clientMap (indexOf w) ver = some route

theorem gutEgress_keepalive {cfg : GutConfig} {k : Kernel} {tc : Tc} {ver : IpVersion}
    (input : UdpFrame ver sport dport w tc.skb) (message : WgMessage w)
    (dropped : keepaliveDropped cfg k.prandom (typeOf w) w.length = true) :
    ∃ tc', gutEgress mode cfg k tc = (.stop .shot, tc') := by
  obtain ⟨pkt, found, parsed⟩ := parseEgress_parsed input message
  have stopped : prepare mode cfg k tc = .error tc.shotDropped := by
    unfold prepare
    rw [found, orReject_some, bind_ok, parsed.wgType, parsed.wgLen, rejectIf, if_pos dropped]
    rfl
  unfold gutEgress
  rw [stopped]
  exact ⟨_, rfl⟩

theorem gut_interop {cfg : GutConfig} {k : Kernel} {tc : Tc} {ver : IpVersion} (buf : Buf) (isServer : Bool)
    (sipDomain : Buf) (nowNs : Nat) (message : WgMessage w) (keyed : cfg.Keyed key) (untagged : tc.macLen = 14)
    (input : UdpFrame ver sport dport w tc.skb) (ends : tc.skb.length = payloadOff ver + w.length)
    (same : buf.take w.length = w) (room : w.length + 25 ≤ buf.length) :
    ∃ out len dcid,
      Userspace.obfsEncap .little buf w.length (chachaInit key) chachaRounds isServer sport dport .gut sipDomain nowNs =
          .ok (out, some (len, dcid)) ∧
        -- the two senders agree
        (∀ ifindex tc', gutEgress .gut cfg k tc = (.redirect ifindex, tc') →
          ∃ sport' dport', UdpFrame ver sport' dport' (out.take len) tc'.skb) ∧
        (Works k → Routable cfg tc ver w →
          (∃ tc', gutEgress .gut cfg k tc = (.redirect cfg.egressIfindex, tc')) ∨
            keepaliveDropped cfg k.prandom (typeOf w) w.length = true ∧
              ∃ tc', gutEgress .gut cfg k tc = (.stop .shot, tc')) ∧
        -- and so do the two receivers
        (∀ rest, Userspace.obfsVerify (out.take len ++ rest) len (chachaInit key) chachaRounds .gut = .ok true ∧
          ∃ plain, Userspace.obfsDecap .little (out.take len ++ rest) len (chachaInit key) chachaRounds .gut =
              .ok (plain, some (w.length, sport, dport)) ∧
            plain.take w.length = w) ∧
        ∀ (peer : GutConfig) (x : Xdp) (ver' : IpVersion) (sport' dport' : UInt16), peer.Keyed key →
          isGutPort dport' peer = true → UdpFrame ver' sport' dport' (out.take len) x.frame →
          ∃ x', gutXdpCore .gut peer x = .ok x' ∧ UdpFrame ver' sport dport w x'.frame := by
  have bounds := message.length
  have padding := Userspace.length_encapPad_gut (channel key) w
  obtain ⟨headers, skb, length⟩ := exact_split input ends
  obtain ⟨q, -, encapped⟩ := Userspace.obfsEncap_carries (channel key) buf w.length isServer sport dport .gut sipDomain
    nowNs w _ .gut bounds.1 same.symm rfl rfl (by simp only [Form.headerLen]; omega)
  refine ⟨_, _, _, encapped, ?_⟩
  obtain ⟨len, datagram, carries⟩ := Userspace.obfsEncap_gut (channel key) bounds.1 encapped
  rw [same] at len datagram carries
  rw [datagram, len]
  refine ⟨?_, ?_, ?_, ?_⟩
  · intro ifindex tc' redirected
    obtain ⟨port, route, admits⟩ := gutEgress_admits keyed (.inl rfl) input message skb length untagged redirected
    obtain ⟨tc'', header, redirected', reads, frame⟩ :=
      gutEgress_sends keyed (.inl rfl) input message skb length untagged admits
    rw [redirected] at redirected'
    cases redirected'
    rw [reads.gut rfl] at frame
    exact ⟨_, _, frame⟩
  · intro works routable
    obtain ⟨route, found⟩ := routable.endpoint
    cases kept : keepaliveDropped cfg k.prandom (typeOf w) w.length with
    | true => exact .inr ⟨rfl, gutEgress_keepalive input message kept⟩
    | false =>
        have port : tunnelPort .gut cfg (nextSeq tc) = some (selectPort (nextSeq tc) cfg) := by
          simp [tunnelPort, routable.port]
        obtain ⟨tc', header, redirected, -⟩ := gutEgress_sends keyed (.inl rfl) input message skb length untagged
          ⟨kept, port, fun _ => works.changeTail, routable.initiation, ⟨works.adjustRoom, works.pullData⟩, by simp [tcForm], found⟩
        exact .inl ⟨tc', redirected⟩
  · intro rest
    refine ⟨Userspace.obfsVerify_carried carries rest (by simp), _, Userspace.obfsDecap_carried carries rest (by simp), ?_⟩
    have total := carries.length
    rw [overwrite_zero _ _ (by simp; omega), List.take_left' rfl]
  · intro peer x ver' sport' dport' peerKeyed port isUdp
    exact (gutXdpCore_carried peerKeyed (.inl ⟨rfl, rfl⟩) port isUdp carries (message.window _)).1 (by omega)

theorem gut_interop_keepalive :
    ∃ out len dcid,
      Userspace.obfsEncap .little (keepalive 0 ++ List.replicate 25 0) 32 (chachaInit sampleKey) chachaRounds true 51820
          41000 .gut [] 0 = .ok (out, some (len, dcid)) ∧
        ∃ sport' dport' tc', gutEgress .gut sampleConfig sampleKernel (sampleTc 0) = (.redirect 0, tc') ∧
          UdpFrame .v4 sport' dport' (out.take len) tc'.skb := by
  obtain ⟨tc', p, redirected, -, -⟩ := sampleTc_sends .gut (.inl rfl) 0
  obtain ⟨out, len, dcid, encapped, agree, -⟩ := gut_interop (k := sampleKernel)
    (keepalive 0 ++ List.replicate 25 0) true [] 0 (keepalive_message 0) sampleConfig_keyed rfl (sampleTc_input 0) rfl rfl
    (by simp [keepalive])
  obtain ⟨sport', dport', frame⟩ := agree _ _ redirected
  exact ⟨out, len, dcid, encapped, sport', dport', tc', redirected, frame⟩

end Gutd
