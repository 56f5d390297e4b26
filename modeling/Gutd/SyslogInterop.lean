import Gutd.Bpf.TextReceive
import Gutd.Bpf.TextSend
import Gutd.Interop
import Gutd.Userspace.HostOrder
import Gutd.Userspace.TextDelivery
import Gutd.Userspace.TextSend

set_option autoImplicit false

namespace Gutd

open Bytes Checked Wire Bpf

variable {key : Vector UInt8 32} {w p : Buf} {sport dport : UInt16}

structure UserspaceInput (key : Vector UInt8 32) (w : Buf) (sport dport : UInt16) (rt : Userspace.Runtime)
    (packet : Userspace.Packet) : Prop where
  keyed : rt.key = key
  size : packet.size = w.length
  message : packet.buf.take packet.size = w
  source : packet.src.port = sport
  target : rt.wgAddr.port = dport

structure TcInput (key : Vector UInt8 32) (w : Buf) (sport dport : UInt16) (ver : IpVersion) (cfg : GutConfig)
    (tc : Tc) : Prop where
  keyed : cfg.Keyed key
  untagged : tc.macLen = 14
  input : UdpFrame ver sport dport w tc.skb
  ends : tc.skb.length = payloadOff ver + w.length

structure ServiceName (name : Buf) : Prop where
  short : name.length ≤ 31
  word : 0x20 ∉ name

inductive SyslogSent (key : Vector UInt8 32) (w : Buf) (sport dport : UInt16) : ByteOrder → Buf → Prop where
  | userspace {rt : Userspace.Runtime} {packet : Userspace.Packet} {dest : Net.SocketAddr} {out : Userspace.Outgoing}
      (input : UserspaceInput key w sport dport rt packet) (name : ServiceName rt.sipDomain)
      (fourDigits : Calendar.year (packet.clock.secs / 86400) < 10000)
      (sent : Userspace.transmit rt packet dest .syslog = .ok (some out)) : SyslogSent key w sport dport rt.order out.bytes
  | tc {cfg : GutConfig} {k : Kernel} {tc tc' : Tc} {ifindex : UInt32} {ver : IpVersion} {sport' dport' : UInt16} {p : Buf}
      (input : TcInput key w sport dport ver cfg tc) (name : ServiceName cfg.sni) (short : cfg.sniDomainLen.toNat ≤ 31)
      (redirected : gutEgress .syslog cfg k tc = (.redirect ifindex, tc')) (output : UdpFrame ver sport' dport' p tc'.skb) :
      SyslogSent key w sport dport .little p

def channelOf (order : ByteOrder) (key : Vector UInt8 32) : Channel := { channel key with order }

def ReadsAlike (sender receiver : ByteOrder) (key : Vector UInt8 32) (w : Buf) : Prop :=
  sender = receiver ∨ ∀ x ∈ Userspace.maskWords ((channel key).ks47 w) w, Userspace.Palindromic x

instance (sender receiver : ByteOrder) (key : Vector UInt8 32) (w : Buf) : Decidable (ReadsAlike sender receiver key w) :=
  inferInstanceAs (Decidable (_ ∨ ∀ x ∈ _, Userspace.Palindromic x))

theorem channel_of_key {rt : Userspace.Runtime} (keyed : rt.key = key) : rt.channel = channelOf rt.order key := by
  rw [Userspace.Runtime.channel, Userspace.Runtime.keyInit, keyed]
  rfl

theorem unmaskedBy_channelOf_iff (sender receiver : ByteOrder) (message : WgMessage w) :
    Userspace.unmaskedBy receiver (channelOf sender key) w = w ↔ ReadsAlike sender receiver key w :=
  Userspace.unmaskedBy_eq_iff receiver (channelOf sender key) w (by have := message.length; omega)

theorem delivers_iff_readsAlike {rt : Userspace.Runtime} {sender : ByteOrder} (message : WgMessage w)
    (delivered : Userspace.Delivers rt p (Userspace.unmaskedBy rt.order (channelOf sender key) w) sport dport) :
    Userspace.Delivers rt p w sport dport ↔ ReadsAlike sender rt.order key w := by
  rw [← unmaskedBy_channelOf_iff sender rt.order message]
  constructor
  · exact fun exact => delivered.unique exact (Userspace.length_unmaskedBy _ _ _)
  · intro same
    rwa [same] at delivered

theorem transmit_syslog {rt : Userspace.Runtime} {packet : Userspace.Packet} (dest : Net.SocketAddr)
    (message : WgMessage w) (input : UserspaceInput key w sport dport rt packet) (name : ServiceName rt.sipDomain)
    (fourDigits : Calendar.year (packet.clock.secs / 86400) < 10000)
    (room : 10 + w.length + (Userspace.encapPad rt.channel .syslog .gut w).length ≤ packet.buf.length) :
    ∃ q out, Carries (channelOf rt.order key) .gut w (Userspace.encapPad rt.channel .syslog .gut w) sport dport q ∧
      Syslog.Line (Base64.encode q) out.bytes ∧
      Userspace.transmit rt packet dest .syslog = if 0 < rt.ports.length then .ok (some out) else .error .outOfBounds := by
  have bounds := message.length
  have ballast := Userspace.length_encapPad_text rt.channel (.inl rfl) .gut w
  have payload : Userspace.Payload rt packet .syslog w (Userspace.encapPad rt.channel .syslog .gut w) .gut :=
    ⟨input.message.symm, rfl, rfl, by rw [input.size]; omega⟩
  obtain ⟨q, carries, framed⟩ := Userspace.transmit_eq dest payload (by rw [input.size, Form.headerLen]; exact room)
  have length := carries.length
  rw [Form.headerLen] at length
  obtain ⟨out, written, socket, line⟩ := @Userspace.frame_syslog rt q ((rt.channel.ks47 w).get 9)
    (byteAt packet.buf 0) packet.size packet.src dest packet.clock fourDigits name.short name.word (by omega)
  rw [channel_of_key input.keyed, input.source, input.target] at carries
  refine ⟨q, out, ?_, line, ?_⟩
  · rwa [channel_of_key input.keyed]
  · rw [framed, written, bind_ok, socket]
    rfl

def SyslogCarried (order : ByteOrder) (key : Vector UInt8 32) (w : Buf) (sport dport : UInt16) (p : Buf) : Prop :=
  ∃ q pad, Carries (channelOf order key) .gut w pad sport dport q ∧ q.length ≤ gutB64MaxInner ∧ Syslog.Line (Base64.encode q) p

theorem syslogCarried {q : Buf} {order : ByteOrder} {mode : ObfsMode} {ch : Channel} (text : mode = .syslog ∨ mode = .sip) (fits : w.length ≤ 871)
    (carries : Carries (channelOf order key) .gut w (Userspace.encapPad ch mode .gut w) sport dport q)
    (line : Syslog.Line (Base64.encode q) p) : SyslogCarried order key w sport dport p := by
  have ballast := Userspace.length_encapPad_text ch text .gut w
  have length := carries.length
  rw [Form.headerLen] at length
  exact ⟨q, _, carries, by rw [gutB64MaxInner]; omega, line⟩

theorem SyslogSent.carried {order : ByteOrder} (message : WgMessage w) (fits : w.length ≤ 871)
    (sent : SyslogSent key w sport dport order p) : SyslogCarried order key w sport dport p := by
  have bounds := message.length
  cases sent with
  | @userspace rt packet dest out input name fourDigits sent =>
      have payload : Userspace.Payload rt packet .syslog w (Userspace.encapPad rt.channel .syslog .gut w) .gut :=
        ⟨input.message.symm, rfl, rfl, by rw [input.size]; omega⟩
      have room := Userspace.transmit_room payload sent
      rw [input.size, Form.headerLen] at room
      obtain ⟨q, out', carries, line, result⟩ := transmit_syslog dest message input name fourDigits room
      rw [result] at sent
      split_ifs at sent
      · cases sent
        exact syslogCarried (.inl rfl) fits carries line
  | tc input name short redirected output =>
      obtain ⟨headers, skb, length⟩ := exact_split input.input input.ends
      obtain ⟨port, route, admits⟩ :=
        gutEgress_syslog_admits input.keyed input.input message skb length input.untagged redirected
      obtain ⟨tc', p', redirected', line, frame⟩ :=
        gutEgress_syslog_sends input.keyed input.input message skb length input.untagged fits short name.word admits
      rw [redirected] at redirected'
      cases redirected'
      rw [output.payload_unique frame]
      exact syslogCarried (.inl rfl) fits (carries_textDatagram key .syslog sport dport bounds.1) line

section Receivers

variable {sender : ByteOrder}

theorem SyslogCarried.delivers {rt : Userspace.Runtime} (carried : SyslogCarried sender key w sport dport p)
    (keyed : rt.key = key) (client : rt.isServer = false) (mode : rt.obfs = .syslog) :
    Userspace.Delivers rt p (Userspace.unmaskedBy rt.order (channelOf sender key) w) sport dport := by
  obtain ⟨q, pad, carries, -, line⟩ := carried
  have read := Userspace.carries_unmaskedBy rt.order carries
  change Carries (channelOf rt.order key) .gut _ _ _ _ _ at read
  rw [← channel_of_key keyed] at read
  exact Userspace.line_delivers client (by simp [mode]) read line

theorem SyslogCarried.opens_iff {cfg : GutConfig} {x : Xdp} {ver : IpVersion} {sport' dport' : UInt16} (message : WgMessage w)
    (carried : SyslogCarried sender key w sport dport p) (keyed : cfg.Keyed key) (port : isGutPort dport' cfg = true)
    (isUdp : UdpFrame ver sport' dport' p x.frame) :
    (∃ x', gutXdpCore .syslog cfg x = .ok x' ∧ UdpFrame ver sport dport w x'.frame) ↔ ReadsAlike sender .little key w := by
  obtain ⟨q, pad, carries, small, line⟩ := carried
  have read := Userspace.carries_unmaskedBy .little carries
  change Carries (channel key) .gut _ _ _ _ _ at read
  obtain ⟨x', opened, frame⟩ := syslog_opened keyed port isUdp read small line
  rw [← unmaskedBy_channelOf_iff sender .little message]
  constructor
  · rintro ⟨x'', opened', frame'⟩
    cases opened.symm.trans opened'
    exact frame.payload_unique frame'
  · intro same
    rw [same] at frame
    exact ⟨x', opened, frame⟩

end Receivers

theorem syslog_interop (key : Vector UInt8 32) (sport dport : UInt16) (message : WgMessage w) (fits : w.length ≤ 871) :
    (∀ sender p, SyslogSent key w sport dport sender p →
      (∀ rt : Userspace.Runtime, rt.key = key → rt.isServer = false → rt.obfs = .syslog →
        (Userspace.Delivers rt p w sport dport ↔ ReadsAlike sender rt.order key w)) ∧
      ∀ (cfg : GutConfig) (x : Xdp) (ver : IpVersion) (sport' dport' : UInt16), cfg.Keyed key →
        isGutPort dport' cfg = true → UdpFrame ver sport' dport' p x.frame →
        ((∃ x', gutXdpCore .syslog cfg x = .ok x' ∧ UdpFrame ver sport dport w x'.frame) ↔
          ReadsAlike sender .little key w)) ∧
    -- the senders do send
    (∀ (rt : Userspace.Runtime) (packet : Userspace.Packet) (dest : Net.SocketAddr),
      UserspaceInput key w sport dport rt packet → ServiceName rt.sipDomain → Calendar.year (packet.clock.secs / 86400) < 10000 →
      w.length + 42 ≤ packet.buf.length → rt.ports ≠ [] →
      ∃ out, Userspace.transmit rt packet dest .syslog = .ok (some out)) ∧
    ∀ (cfg : GutConfig) (k : Kernel) (tc : Tc) (ver : IpVersion), TcInput key w sport dport ver cfg tc →
      ServiceName cfg.sni → cfg.sniDomainLen.toNat ≤ 31 → Works k → Routable cfg tc ver w →
      (∃ tc' route p, routeOf cfg tc.clientMap (indexOf w) ver = some route ∧
          gutEgress .syslog cfg k tc = (.redirect cfg.egressIfindex, tc') ∧
          UdpFrame ver (route.source.getD (selectPort (nextSeq tc) cfg)) (route.dest.getD (selectPort (nextSeq tc) cfg)) p
            tc'.skb) ∨
        keepaliveDropped cfg k.prandom (typeOf w) w.length = true ∧
          ∃ tc', gutEgress .syslog cfg k tc = (.stop .shot, tc') := by
  refine ⟨?_, ?_, ?_⟩
  · intro sender p sent
    have carried := sent.carried message fits
    exact ⟨fun rt keyed client mode => delivers_iff_readsAlike message (carried.delivers keyed client mode),
      fun cfg x ver sport' dport' keyed port isUdp => carried.opens_iff message keyed port isUdp⟩
  · intro rt packet dest input name fourDigits room sockets
    have ballast := Userspace.length_encapPad_text rt.channel (.inl rfl) .gut w
    obtain ⟨q, out, -, -, result⟩ := transmit_syslog dest message input name fourDigits (by omega)
    exact ⟨out, by rw [result, if_pos (List.length_pos_iff.mpr sockets)]⟩
  · intro cfg k tc ver input name short works routable
    obtain ⟨headers, skb, length⟩ := exact_split input.input input.ends
    obtain ⟨route, found⟩ := routable.endpoint
    cases kept : keepaliveDropped cfg k.prandom (typeOf w) w.length with
    | true => exact .inr ⟨rfl, gutEgress_keepalive input.input message kept⟩
    | false =>
        have port : tunnelPort .syslog cfg (nextSeq tc) = some (selectPort (nextSeq tc) cfg) := by
          simp [tunnelPort, routable.port]
        obtain ⟨tc', p, redirected, -, frame⟩ := gutEgress_syslog_sends input.keyed input.input message skb length
          input.untagged fits short name.word
          ⟨kept, port, fun _ => works.changeTail, routable.initiation, ⟨works.adjustRoom, works.pullData⟩, by simp [tcForm], found⟩
        exact .inl ⟨tc', route, p, found, redirected, frame⟩

theorem syslog_interop_keepalive :
    ∃ tc', gutEgress .syslog sampleConfig sampleKernel (sampleTc 0) = (.redirect 0, tc') ∧
      ∃ x', gutXdpCore .syslog sampleConfig (delivered tc'.skb) = .ok x' ∧
        UdpFrame .v4 51820 41000 (keepalive 0) x'.frame := by
  obtain ⟨received, -, sends⟩ := syslog_interop sampleKey 51820 41000 (keepalive_message 0) (by simp [keepalive])
  have input : TcInput sampleKey (keepalive 0) 51820 41000 .v4 sampleConfig (sampleTc 0) :=
    ⟨sampleConfig_keyed, rfl, sampleTc_input 0, rfl⟩
  have name : ServiceName sampleConfig.sni := ⟨by decide, by decide⟩
  rcases sends sampleConfig sampleKernel (sampleTc 0) .v4 input name (by decide) ⟨rfl, rfl, rfl⟩
    ⟨by decide, fun dynamic => absurd rfl dynamic, _, rfl⟩ with ⟨tc', route, p, routed, redirected, frame⟩ | ⟨dropped, -⟩
  · cases routed
    have opened := (received _ p (.tc input name (by decide) redirected frame)).2 sampleConfig (delivered tc'.skb) .v4 41000 41000
      sampleConfig_keyed (by decide) frame
    exact ⟨tc', redirected, opened.mpr (.inl rfl)⟩
  · simp [keepaliveDropped, sampleConfig] at dropped

def syslogPacket : Userspace.Packet :=
  { buf := keepalive 0 ++ List.replicate 42 0, size := 32, src := Userspace.localhost 41000, clock := ⟨0, 0⟩, nowNs := 0 }

-- a little-endian server and a big-endian client: the client takes the datagram for another message
theorem syslog_garbled :
    ∃ out w', Userspace.transmit (Userspace.sampleRuntime true .syslog) syslogPacket (Userspace.localhost 514) .syslog =
        .ok (some out) ∧
      Userspace.Delivers { Userspace.sampleRuntime false .syslog with order := .big } out.bytes w' 41000 51820 ∧
      w' ≠ keepalive 0 := by
  have input : UserspaceInput sampleKey (keepalive 0) 41000 51820 (Userspace.sampleRuntime true .syslog) syslogPacket :=
    ⟨rfl, rfl, rfl, rfl, rfl⟩
  have name : ServiceName (Userspace.sampleRuntime true .syslog).sipDomain := ⟨by decide, by decide⟩
  have year : Calendar.year (syslogPacket.clock.secs / 86400) < 10000 := by decide
  have ballast := Userspace.length_encapPad_text (Userspace.sampleRuntime true .syslog).channel (.inl rfl) .gut (keepalive 0)
  have length : (keepalive 0).length = 32 ∧ syslogPacket.buf.length = 74 := ⟨rfl, rfl⟩
  obtain ⟨q, out, carries, line, sent⟩ := transmit_syslog (Userspace.localhost 514) (keepalive_message 0) input name year
    (by omega)
  have carried : SyslogCarried .little sampleKey (keepalive 0) 41000 51820 out.bytes :=
    syslogCarried (.inl rfl) (by omega) carries line
  have delivered := @SyslogCarried.delivers _ _ _ _ _ _ { Userspace.sampleRuntime false .syslog with order := .big } carried rfl rfl
    rfl
  refine ⟨out, _, sent.trans (if_pos (by decide)), delivered, ?_⟩
  rw [Ne, unmaskedBy_channelOf_iff .little .big (keepalive_message 0)]
  decide +kernel

end Gutd
