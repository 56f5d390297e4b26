import Gutd.Bpf.SipSend
import Gutd.SyslogInterop

set_option autoImplicit false

namespace Gutd

open Bytes Checked Wire Bpf

variable {key : Vector UInt8 32} {w p : Buf} {sport dport : UInt16}

structure DomainName (limit : Nat) (name : Buf) : Prop where
  short : name.length ≤ limit
  noReturn : 0x0D ∉ name
  noFeed : 0x0A ∉ name

structure SipMessage (w : Buf) : Prop where
  message : WgMessage w
  data : typeOf w = 4 → 33 ≤ w.length

theorem SipMessage.notKeepalive (sip : SipMessage w) : ¬(byteAt w 0 = 4 ∧ w.length = 32) := by
  rintro ⟨type, length⟩
  have data := sip.data (sip.message.typeOf_eq.trans type)
  omega

inductive SipSent (key : Vector UInt8 32) (w : Buf) (sport dport : UInt16) : ByteOrder → Buf → Prop where
  | userspace {rt : Userspace.Runtime} {packet : Userspace.Packet} {dest : Net.SocketAddr} {out : Userspace.Outgoing}
      (input : UserspaceInput key w sport dport rt packet) (domain : DomainName 60 rt.sipDomain)
      (fourDigits : packet.clock.FourDigits) (sent : Userspace.transmit rt packet dest .sip = .ok (some out)) :
      SipSent key w sport dport rt.order out.bytes
  | tc {cfg : GutConfig} {k : Kernel} {tc tc' : Tc} {ifindex : UInt32} {ver : IpVersion} {sport' dport' : UInt16} {p : Buf}
      (input : TcInput key w sport dport ver cfg tc) (domain : DomainName 31 cfg.sni)
      (fourDigits : (civilTime k.taiNs).y < 10000) (redirected : gutEgress .sip cfg k tc = (.redirect ifindex, tc'))
      (output : UdpFrame ver sport' dport' p tc'.skb) : SipSent key w sport dport .little p

section Userspace

variable {rt : Userspace.Runtime} {packet : Userspace.Packet}

theorem UserspaceInput.payload (message : WgMessage w) (input : UserspaceInput key w sport dport rt packet) :
    Userspace.Payload rt packet .sip w (Userspace.encapPad rt.channel .sip .gut w) .gut := by
  have bounds := message.length
  exact ⟨input.message.symm, rfl, rfl, by rw [input.size]; omega⟩

theorem UserspaceInput.first (message : WgMessage w) (input : UserspaceInput key w sport dport rt packet) :
    byteAt packet.buf 0 = byteAt w 0 := by
  have bounds := message.length
  rw [← input.message, byteAt_take, if_pos (by rw [input.size]; omega)]

theorem transmit_sip (dest : Net.SocketAddr) (sip : SipMessage w) (input : UserspaceInput key w sport dport rt packet)
    (domain : DomainName 60 rt.sipDomain) (fourDigits : packet.clock.FourDigits)
    (room : 10 + w.length + (Userspace.encapPad rt.channel .sip .gut w).length ≤ packet.buf.length)
    (ports : ¬(byteAt w 0 = 4 ∧ w.length > 32) → rt.peerPorts ≠ []) :
    ∃ q out, Carries (channelOf rt.order key) .gut w (Userspace.encapPad rt.channel .sip .gut w) sport dport q ∧
      Sip.Enveloped q out.bytes ∧ out.sockIdx < max 1 rt.peerPorts.length ∧
      Userspace.transmit rt packet dest .sip = if out.sockIdx < rt.ports.length then .ok (some out) else .error .outOfBounds := by
  have bounds := sip.message.length
  have ballast := Userspace.length_encapPad_text rt.channel (.inr rfl) .gut w
  obtain ⟨q, carries, framed⟩ := Userspace.transmit_eq dest (input.payload sip.message)
    (by rw [input.size, Form.headerLen]; exact room)
  have length := carries.length
  rw [Form.headerLen] at length
  have first := input.first sip.message
  obtain ⟨out, written, enveloped, socket⟩ := Userspace.frame_sip (q := q) ((rt.channel.ks47 w).get 9) (byteAt packet.buf 0)
    packet.size packet.src dest fourDigits domain.short domain.noReturn (by omega) (by omega)
    (by rw [first, input.size]; exact sip.notKeepalive) (by rw [first, input.size]; exact ports)
  rw [channel_of_key input.keyed, input.source, input.target] at carries
  refine ⟨q, out, by rwa [channel_of_key input.keyed], enveloped, socket, ?_⟩
  rw [framed, written, bind_ok]
  rfl

theorem transmit_sip_ports {dest : Net.SocketAddr} {out : Userspace.Outgoing} (sip : SipMessage w)
    (input : UserspaceInput key w sport dport rt packet) (sent : Userspace.transmit rt packet dest .sip = .ok (some out)) :
    ¬(byteAt w 0 = 4 ∧ w.length > 32) → rt.peerPorts ≠ [] := by
  intro signal
  obtain ⟨q, -, framed⟩ := Userspace.transmit_eq dest (input.payload sip.message)
    (Userspace.transmit_room (input.payload sip.message) sent)
  rw [framed] at sent
  obtain ⟨out', written, -⟩ := bind_eq_ok.mp sent
  rw [Userspace.frame, input.first sip.message, input.size, if_neg signal] at written
  exact Userspace.sipFrame_ports written

end Userspace

def SipCarried (order : ByteOrder) (key : Vector UInt8 32) (w : Buf) (sport dport : UInt16) (p : Buf) : Prop :=
  ∃ q pad, Carries (channelOf order key) .gut w pad sport dport q ∧ Sip.Enveloped q p

theorem SipSent.carried {order : ByteOrder} (sip : SipMessage w) (sent : SipSent key w sport dport order p) :
    SipCarried order key w sport dport p := by
  cases sent with
  | userspace input domain fourDigits sent =>
      have room := Userspace.transmit_room (input.payload sip.message) sent
      rw [input.size, Form.headerLen] at room
      obtain ⟨q, out, carries, enveloped, -, result⟩ := transmit_sip _ sip input domain fourDigits room
        (transmit_sip_ports sip input sent)
      rw [result] at sent
      split_ifs at sent
      · cases sent
        exact ⟨q, _, carries, enveloped⟩
  | tc input domain fourDigits redirected output =>
      obtain ⟨headers, skb, length⟩ := exact_split input.input input.ends
      obtain ⟨needs, port, route, admits⟩ :=
        gutEgress_sip_admits input.keyed input.input sip.message skb length input.untagged redirected
      obtain ⟨tc', p', port', redirected', enveloped, frame⟩ := gutEgress_sip_sends input.keyed input.input sip.message skb
        length input.untagged domain.noReturn fourDigits needs admits
      rw [redirected] at redirected'
      cases redirected'
      rw [output.payload_unique frame]
      exact ⟨_, _, carries_textDatagram key .sip sport dport sip.message.length.1, enveloped⟩

theorem SipCarried.delivers {sender : ByteOrder} {rt : Userspace.Runtime}
    (carried : SipCarried sender key w sport dport p) (keyed : rt.key = key) (client : rt.isServer = false)
    (mode : rt.obfs = .sip) :
    Userspace.Delivers rt p (Userspace.unmaskedBy rt.order (channelOf sender key) w) sport dport := by
  obtain ⟨q, pad, carries, enveloped⟩ := carried
  have read := Userspace.carries_unmaskedBy rt.order carries
  change Carries (channelOf rt.order key) .gut _ _ _ _ _ at read
  rw [← channel_of_key keyed] at read
  exact Userspace.enveloped_delivers client (by simp [mode]) read enveloped

structure SipRoutable (cfg : GutConfig) (tc : Tc) (ver : IpVersion) (w : Buf) : Prop where
  ports : 2 ≤ cfg.numPorts
  port : cfg.ports.get 0 ≠ 0
  initiation : cfg.dynamicPeer ≠ 0 → typeOf w ≠ 1
  endpoint : ∃ route, routeOf cfg tc.clientMap (indexOf w) ver = some route

theorem keepaliveDropped_sip (sip : SipMessage w) (cfg : GutConfig) (prandom : UInt32) :
    keepaliveDropped cfg prandom (typeOf w) w.length = false := by
  have minimum : wgMinPacket = 32 := rfl
  rw [keepaliveDropped, minimum]
  by_contra dropped
  simp only [Bool.not_eq_false, Bool.and_eq_true, beq_iff_eq] at dropped
  have data := sip.data dropped.1.1.1
  omega

theorem sip_delivery (key : Vector UInt8 32) (sport dport : UInt16) (sip : SipMessage w) :
    (∀ sender p, SipSent key w sport dport sender p → ∀ rt : Userspace.Runtime, rt.key = key → rt.isServer = false →
      rt.obfs = .sip → (Userspace.Delivers rt p w sport dport ↔ ReadsAlike sender rt.order key w)) ∧
    -- the senders do send
    (∀ (rt : Userspace.Runtime) (packet : Userspace.Packet) (dest : Net.SocketAddr),
      UserspaceInput key w sport dport rt packet → DomainName 60 rt.sipDomain → packet.clock.FourDigits →
      w.length + 42 ≤ packet.buf.length → rt.peerPorts ≠ [] → rt.peerPorts.length ≤ rt.ports.length →
      ∃ out, Userspace.transmit rt packet dest .sip = .ok (some out)) ∧
    ∀ (cfg : GutConfig) (k : Kernel) (tc : Tc) (ver : IpVersion), TcInput key w sport dport ver cfg tc →
      DomainName 31 cfg.sni → (civilTime k.taiNs).y < 10000 → Works k → k.tailCall = true → SipRoutable cfg tc ver w →
      ∃ tc' sport' dport' p, gutEgress .sip cfg k tc = (.redirect cfg.egressIfindex, tc') ∧
        UdpFrame ver sport' dport' p tc'.skb := by
  refine ⟨?_, ?_, ?_⟩
  · intro sender p sent rt keyed client mode
    exact delivers_iff_readsAlike sip.message ((sent.carried sip).delivers keyed client mode)
  · intro rt packet dest input domain fourDigits room peers sockets
    have ballast := Userspace.length_encapPad_text rt.channel (.inr rfl) .gut w
    have some := List.length_pos_iff.mpr peers
    obtain ⟨q, out, -, -, socket, result⟩ := transmit_sip dest sip input domain fourDigits (by omega) fun _ => peers
    exact ⟨out, by rw [result, if_pos (by omega)]⟩
  · intro cfg k tc ver input domain fourDigits works called routable
    obtain ⟨headers, skb, length⟩ := exact_split input.input input.ends
    obtain ⟨route, found⟩ := routable.endpoint
    have configured := routable.ports
    have port : tunnelPort .sip cfg (nextSeq tc) = some (cfg.ports.get 0) := by
      rw [tunnelPort, if_neg]
      simp only [routable.port, or_false]
      omega
    have needs : SipNeeds cfg k w := by
      unfold SipNeeds
      split_ifs
      · exact configured
      · exact called
    obtain ⟨tc', p, port', redirected, -, frame⟩ := gutEgress_sip_sends input.keyed input.input sip.message skb length
      input.untagged domain.noReturn fourDigits needs
      ⟨keepaliveDropped_sip sip cfg k.prandom, port, fun _ => works.changeTail, routable.initiation,
        ⟨works.adjustRoom, works.pullData⟩, by simp [tcForm], found⟩
    exact ⟨tc', _, _, p, redirected, frame⟩

def sipInitiation : Buf := (1 : UInt8) :: List.replicate 147 0

def sipPacket : Userspace.Packet :=
  { buf := sipInitiation ++ List.replicate 42 0, size := 148, src := Userspace.localhost 41000, clock := ⟨0, 0⟩, nowNs := 0 }

theorem length_sipInitiation : sipInitiation.length = 148 := by
  rw [sipInitiation, List.length_cons, List.length_replicate]

theorem sipInitiation_message : SipMessage sipInitiation :=
  ⟨⟨⟨rfl, rfl, rfl⟩, .inl ⟨rfl, length_sipInitiation⟩⟩, fun data => absurd data (by decide)⟩

theorem sipPacket_input (isServer : Bool) (obfs : ObfsMode) :
    UserspaceInput sampleKey sipInitiation 41000 51820 (Userspace.sampleRuntime isServer obfs) sipPacket :=
  ⟨rfl, length_sipInitiation.symm, List.take_left' length_sipInitiation, rfl, rfl⟩

theorem sipPacket_clock : sipPacket.clock.FourDigits := ⟨by decide, by decide⟩

theorem sipPacket_domain : DomainName 60 (Userspace.sampleRuntime true .sip).sipDomain := ⟨by decide, by decide, by decide⟩

theorem length_sipPacket : sipPacket.buf.length = 190 := by
  rw [sipPacket, List.length_append, length_sipInitiation, List.length_replicate]

theorem sip_delivery_initiation :
    ∃ out, Userspace.transmit (Userspace.sampleRuntime true .sip) sipPacket (Userspace.localhost 5060) .sip = .ok (some out) ∧
      Userspace.Delivers (Userspace.sampleRuntime false .sip) out.bytes sipInitiation 41000 51820 := by
  obtain ⟨delivered, sends, -⟩ := sip_delivery sampleKey 41000 51820 sipInitiation_message
  obtain ⟨out, sent⟩ := sends (Userspace.sampleRuntime true .sip) sipPacket (Userspace.localhost 5060)
    (sipPacket_input true .sip) sipPacket_domain sipPacket_clock (by rw [length_sipPacket, length_sipInitiation]) (by decide)
    (by decide)
  have received := delivered _ _ (.userspace (sipPacket_input true .sip) sipPacket_domain sipPacket_clock sent)
    (Userspace.sampleRuntime false .sip) rfl rfl rfl
  exact ⟨out, sent, received.mpr (.inl rfl)⟩

-- a little-endian server and a big-endian client
theorem sip_garbled :
    ∃ out w', Userspace.transmit (Userspace.sampleRuntime true .sip) sipPacket (Userspace.localhost 5060) .sip = .ok (some out) ∧
      Userspace.Delivers { Userspace.sampleRuntime false .sip with order := .big } out.bytes w' 41000 51820 ∧
      w' ≠ sipInitiation := by
  have ballast := Userspace.length_encapPad_text (Userspace.sampleRuntime true .sip).channel (.inr rfl) .gut sipInitiation
  have length := length_sipPacket
  have size := length_sipInitiation
  obtain ⟨q, out, carries, enveloped, socket, sent⟩ := transmit_sip (Userspace.localhost 5060) sipInitiation_message
    (sipPacket_input true .sip) sipPacket_domain sipPacket_clock (by omega) (by decide)
  have carried : SipCarried .little sampleKey sipInitiation 41000 51820 out.bytes := ⟨q, _, carries, enveloped⟩
  have delivered := @SipCarried.delivers _ _ _ _ _ _ { Userspace.sampleRuntime false .sip with order := .big } carried rfl rfl rfl
  refine ⟨out, _, sent.trans (if_pos socket), delivered, ?_⟩
  rw [Ne, unmaskedBy_channelOf_iff .little .big sipInitiation_message.message]
  decide +kernel

end Gutd
