import Gutd.Bpf.TcSend

set_option autoImplicit false

namespace Gutd.Bpf

open Bytes Checked Wire

section Prepare

variable (mode : ObfsMode) (cfg : GutConfig) (pkt : WgPacket)

def WgPacket.nonce : UInt32 := wgNonce32 pkt.head

def streamOf : Buf := blockBytes .little (chachaBlock cfg.chachaInit 47 pkt.nonce)

def padBlockOf : Buf := blockBytes .little (chachaBlock cfg.chachaInit 69 pkt.nonce)

def padLenOf : Nat := egressPadLen mode (egressHdrLen mode pkt.wgType) pkt.wgLen (padBlockOf cfg pkt)

def padOf : Buf := (padBlockOf cfg pkt).take (padLenOf mode cfg pkt)

def maskedIn (skb : Buf) : Buf :=
  maskMac2In (overwrite skb pkt.wgOff ((xorAt pkt.head 0 (slice (streamOf cfg pkt) 0 16)).take 16)) pkt.wgOff pkt.wgLen
    pkt.wgType (streamOf cfg pkt)

def preparedOf (seq : UInt32) (port : UInt16) : Prepared :=
  { ver := pkt.ver, wgOff := pkt.wgOff, wgLen := pkt.wgLen, wgType := pkt.wgType, wgIdx := wgIndex pkt, nonce := pkt.nonce
    seq, ks47 := chachaBlock cfg.chachaInit 47 pkt.nonce
    encPorts := pkt.plainPorts ^^^ (chachaBlock cfg.chachaInit 47 pkt.nonce).get 11
    outer := egressHdrLen mode pkt.wgType, padLen := padLenOf mode cfg pkt, port }

def bridgedMap (tc : Tc) : UInt32 → Option UInt32 :=
  if cfg.dynamicPeer ≠ 0 ∧ pkt.wgType = 2 then updateElem tc.sessionMap (le32At pkt.head 4) (wgIndex pkt)
  else tc.sessionMap

end Prepare

-- What the parser knows of the message. A UDP length below eight wraps around.
structure WgPacket.Inside (pkt : WgPacket) (skb : Buf) : Prop where
  front : 22 ≤ pkt.wgOff ∧ pkt.wgOff ≤ 86
  first : pkt.wgOff + 32 ≤ skb.length
  lengths : 32 ≤ pkt.wgLen ∧ (pkt.wgLen < 2 ^ 16 ∨ 2 ^ 32 - 8 ≤ pkt.wgLen) ∧ pkt.wgLen < 2 ^ 32
  whole : pkt.wgLen < 2 ^ 16 → pkt.wgOff + pkt.wgLen ≤ skb.length
  head : pkt.head = slice skb pkt.wgOff (pkt.wgOff + 32)
  type : 1 ≤ pkt.wgType ∧ pkt.wgType ≤ 4

theorem locateUdp_off {skb : Buf} {ver : IpVersion} {udpOff : Nat} (found : locateUdp skb = some (ver, udpOff)) :
    14 ≤ udpOff ∧ udpOff ≤ 78 := by
  have nibble (b : UInt8) : (b &&& 0x0F).toNat < 16 := by
    rw [UInt8.toNat_and]
    exact Nat.lt_of_le_of_lt Nat.and_le_right (by decide)
  have tagged := nibble (byteAt skb 18)
  have untagged := nibble (byteAt skb 14)
  unfold locateUdp at found
  dsimp only at found
  split_ifs at found <;> cases found <;> omega

variable {mode : ObfsMode} {cfg : GutConfig} {k : Kernel} {tc : Tc} {pkt : WgPacket}

theorem parseMessage_inside {skb : Buf} {ver : IpVersion} {udpOff : Nat} (bounds : 14 ≤ udpOff ∧ udpOff ≤ 78)
    (found : parseMessage skb ver udpOff = some pkt) : pkt.ver = ver ∧ pkt.wgOff = udpOff + 8 ∧ pkt.Inside skb := by
  have small := (be16At skb (udpOff + 4)).toNat_lt
  have constant : wgMinPacket = 32 := rfl
  unfold parseMessage at found
  dsimp only at found
  split_ifs at found with headers lengths
  cases loaded : loadBytes skb (udpOff + 8) wgMinPacket with
  | none => simp [loaded] at found
  | some head =>
      rw [loaded] at found
      dsimp only at found
      split_ifs at found with type
      obtain ⟨inside, rfl⟩ := loadBytes_some loaded
      cases found
      unfold sub32 at lengths
      refine ⟨rfl, rfl, by dsimp only; omega, by dsimp only; omega, ?_, ?_, rfl, ?_⟩
      · dsimp only [sub32]
        omega
      · dsimp only [sub32]
        omega
      · simp only [not_or, UInt8.not_lt] at type
        exact ⟨type.1, type.2.1⟩

theorem parseEgress_inside {skb : Buf} (found : parseEgress skb = some pkt) : pkt.Inside skb := by
  unfold parseEgress at found
  split_ifs at found
  cases located : locateUdp skb with
  | none => simp [located] at found
  | some result =>
      obtain ⟨ver, udpOff⟩ := result
      rw [located] at found
      exact (parseMessage_inside (locateUdp_off located) found).2.2

theorem padLenOf_le (mode : ObfsMode) (cfg : GutConfig) (pkt : WgPacket) : padLenOf mode cfg pkt ≤ 64 := by
  rw [padLenOf, egressPadLen_eq]
  exact Userspace.encapPadLen_le _ _ _ _

@[simp] theorem length_padOf (mode : ObfsMode) (cfg : GutConfig) (pkt : WgPacket) :
    (padOf mode cfg pkt).length = padLenOf mode cfg pkt := by
  have bounded := padLenOf_le mode cfg pkt
  have block : (padBlockOf cfg pkt).length = 64 := by simp [padBlockOf]
  rw [padOf, List.length_take]
  omega

@[simp] theorem length_streamOf (cfg : GutConfig) (pkt : WgPacket) : (streamOf cfg pkt).length = 64 := by
  simp [streamOf]

theorem bridgeSession_eq (cfg : GutConfig) (pkt : WgPacket) (tc : Tc) :
    bridgeSession cfg pkt tc =
      if cfg.dynamicPeer ≠ 0 ∧ pkt.wgType = 1 then .error tc.pass
      else .ok { tc with sessionMap := bridgedMap cfg pkt tc } := by
  unfold bridgeSession bridgedMap
  by_cases fixed : cfg.dynamicPeer = 0
  · simp [fixed]
  · by_cases first : pkt.wgType = 1
    · simp [fixed, first, rejectIf]
    · by_cases second : pkt.wgType = 2 <;> simp [fixed, first, second, rejectIf]

theorem maskMessage_eq (tc : Tc) (inside : pkt.wgOff + 16 ≤ tc.skb.length) (head : 16 ≤ pkt.head.length) :
    maskMessage pkt (streamOf cfg pkt) tc = .ok { tc with skb := maskedIn cfg pkt tc.skb } := by
  unfold maskMessage maskedIn
  dsimp only
  rw [storeBytes_ok (by simp only [List.length_take, length_xorAt]; omega), orReject_some, bind_ok]
  rfl

theorem prepare_eq (mode : ObfsMode) (k : Kernel) (found : parseEgress tc.skb = some pkt) :
    prepare mode cfg k tc =
      if keepaliveDropped cfg k.prandom pkt.wgType pkt.wgLen = true then .error tc.shotDropped
      else if mode = .syslog ∧ pkt.wgLen > gutB64WgMtuMax then .error tc.shotOversized
      else
        match tunnelPort mode cfg (nextSeq tc) with
        | none => .error { tc with seq := nextSeq tc + 1 }.pass
        | some port =>
            if 0 < padLenOf mode cfg pkt ∧ k.changeTail = false then .error { tc with seq := nextSeq tc + 1 }.pass
            else if cfg.dynamicPeer ≠ 0 ∧ pkt.wgType = 1 then
              .error { tc with skb := tc.skb ++ padOf mode cfg pkt, seq := nextSeq tc + 1 }.pass
            else
              .ok (preparedOf mode cfg pkt (nextSeq tc) port,
                { tc with skb := maskedIn cfg pkt (tc.skb ++ padOf mode cfg pkt), seq := nextSeq tc + 1
                          sessionMap := bridgedMap cfg pkt tc }) := by
  have inside := parseEgress_inside found
  have first := inside.first
  have block : (padBlockOf cfg pkt).length = 64 := by simp [padBlockOf]
  have head : pkt.head.length = 32 := by
    rw [inside.head, length_slice]
    omega
  unfold prepare
  rw [found, orReject_some, bind_ok]
  by_cases dropped : keepaliveDropped cfg k.prandom pkt.wgType pkt.wgLen = true
  · rw [if_pos dropped, rejectIf, if_pos dropped]
    rfl
  rw [if_neg dropped, rejectIf_ok dropped, bind_ok]
  by_cases oversized : mode = .syslog ∧ pkt.wgLen > gutB64WgMtuMax
  · rw [if_pos oversized, rejectIf, if_pos oversized]
    rfl
  rw [if_neg oversized, rejectIf_ok oversized, bind_ok]
  dsimp only
  cases tunnelPort mode cfg (nextSeq tc) with
  | none => rfl
  | some port =>
      rw [orReject_some, bind_ok]
      dsimp only
      by_cases refused : 0 < padLenOf mode cfg pkt ∧ k.changeTail = false
      · rw [if_pos refused]
        change (padTail k (padLenOf mode cfg pkt) (padBlockOf cfg pkt) _ >>= _) = _
        rw [padTail, if_pos refused.1, rejectIf, if_pos refused.2]
        rfl
      rw [if_neg refused]
      have grown : padTail k (padLenOf mode cfg pkt) (padBlockOf cfg pkt) { tc with seq := nextSeq tc + 1 } =
          .ok { tc with skb := tc.skb ++ padOf mode cfg pkt, seq := nextSeq tc + 1 } := by
        rw [padTail_eq_ok (padLenOf_le mode cfg pkt) block]
        exact ⟨fun some => by simpa using fun off => refused ⟨some, off⟩, rfl⟩
      change (padTail k (padLenOf mode cfg pkt) (padBlockOf cfg pkt) _ >>= _) = _
      rw [grown, bind_ok, bridgeSession_eq]
      by_cases initiation : cfg.dynamicPeer ≠ 0 ∧ pkt.wgType = 1
      · rw [if_pos initiation, if_pos initiation]
        rfl
      rw [if_neg initiation, if_neg initiation, bind_ok]
      change (maskMessage pkt (streamOf cfg pkt) _ >>= _) = _
      rw [maskMessage_eq _ (by rw [List.length_append]; omega) (by omega), bind_ok]
      rfl

section Room

variable (tc : Tc) (room : Nat) (ver : IpVersion)

def Tc.inserted : Buf := tc.skb.take tc.macLen ++ (List.replicate room 0 ++ tc.skb.drop tc.macLen)

def Tc.shifted : Buf :=
  overwrite (tc.inserted room) 14 (slice (tc.inserted room) (14 + room) (14 + room + shiftLen ver))

@[simp] theorem length_inserted : (tc.inserted room).length = tc.skb.length + room := by
  simp only [Tc.inserted, List.length_append, List.length_take, List.length_replicate, List.length_drop]
  omega

@[simp] theorem length_shifted : (tc.shifted room ver).length = tc.skb.length + room := by
  simp [Tc.shifted]

theorem makeRoom_eq (k : Kernel) :
    makeRoom k ver room tc =
      if k.adjustRoom = false then .error tc.pass
      else if k.pullData = false ∨ tc.skb.length < payloadOff ver then .error { tc with skb := tc.inserted room }.pass
      else .ok { tc with skb := tc.shifted room ver } := by
  have offsets : 14 + shiftLen ver = payloadOff ver := by
    unfold shiftLen payloadOff
    omega
  have length := length_inserted tc room
  unfold makeRoom
  by_cases refused : k.adjustRoom = false
  · rw [if_pos refused, rejectIf, if_pos refused]
    rfl
  rw [if_neg refused, rejectIf_ok refused, bind_ok]
  by_cases pulled : k.pullData = false
  · dsimp only
    rw [if_pos (.inl pulled), rejectIf, if_pos pulled]
    rfl
  change (rejectIf _ _ >>= fun _ => orReject _ (loadBytes (tc.inserted room) (14 + room) (shiftLen ver)) >>= _) = _
  rw [rejectIf_ok pulled, bind_ok]
  by_cases short : tc.skb.length < payloadOff ver
  · rw [if_pos (.inr short), loadBytes, if_pos (by omega)]
    rfl
  · rw [if_neg (by simp [pulled, short]), loadBytes_ok (by omega), orReject_some, bind_ok]
    change (orReject _ (storeBytes (tc.inserted room) 14 _) >>= _) = _
    rw [storeBytes_ok (by rw [length_slice]; omega), orReject_some, bind_ok]
    rfl

variable {tc}

theorem take_shifted_link (ethernet : 14 ≤ tc.macLen) (inside : 14 ≤ tc.skb.length) :
    (tc.shifted room ver).take 14 = tc.skb.take 14 := by
  have length := length_inserted tc room
  apply ext_byteAt (by simp; omega)
  intro i bounded
  have small : i < 14 := by
    rw [List.length_take] at bounded
    omega
  rw [byteAt_take, byteAt_take, if_pos small, if_pos small, Tc.shifted, byteAt_overwrite_other _ _ _ _ (.inl small),
    Tc.inserted, byteAt_append_left _ _ _ (by rw [List.length_take]; omega), byteAt_take, if_pos (by omega)]

theorem shifted_eq (untagged : tc.macLen = 14) (inside : payloadOff ver ≤ tc.skb.length) :
    ∃ junk : Buf, junk.length = room ∧
      tc.shifted room ver = tc.skb.take (payloadOff ver) ++ (junk ++ tc.skb.drop (payloadOff ver)) := by
  have split : tc.skb = tc.skb.take (payloadOff ver) ++ tc.skb.drop (payloadOff ver) := (List.take_append_drop _ _).symm
  have length : (tc.skb.take (payloadOff ver)).length = payloadOff ver := by
    rw [List.length_take]
    omega
  obtain ⟨junk, junkLength, made⟩ := @makeRoom_eq_ok tc _ _ _ ⟨true, true, true, true, true, 0, 0, 0⟩ room split length untagged
  have roomed := (made _).mpr ⟨rfl, rfl, rfl⟩
  rw [makeRoom_eq, if_neg (by simp), if_neg (by simp; omega)] at roomed
  exact ⟨junk, junkLength, congrArg Tc.skb (Except.ok.inj roomed)⟩

end Room

structure Plan where
  room : Nat
  -- a helper fails once there is room
  stuck : Bool
  -- what is stored behind the headers
  head : Buf
  port : UInt16
  udpLen : Nat

def textPlan (p : Prepared) (hdr text : Buf) (hdrLimit : Nat) : Except TcStop Plan := do
  let total := hdr.length + text.length
  let room := sub32 total ((p.wgLen + p.padLen) % 2 ^ 32) % 2 ^ 11
  rejectIf .ok (room < 1 ∨ room > hdrLimit + gutB64MaxOut)
  pure { room, stuck := false, head := hdr ++ text, port := p.port, udpLen := total + 8 }

def gutPlan (p : Prepared) : Plan :=
  { room := p.outer, stuck := false, head := gutHeader p.ppn p.encPorts p.padLen, port := p.port, udpLen := p.udpLen }

def shortPlan (p : Prepared) : Plan :=
  { room := p.outer, stuck := false, head := quicShortHeader (p.ks47.get 9) p.ppn p.encPorts p.padLen, port := p.port
    udpLen := p.udpLen }

def longPlan (cfg : GutConfig) (k : Kernel) (p : Prepared) : Plan :=
  { room := p.outer, stuck := !k.tailCall || !k.pullAgain
    head := writeQuicLongHeader (List.replicate 1200 0) p.wgType p.wgIdx p.ppn p.encPorts p.padLen cfg
      (blockBytes .little (chachaBlock cfg.chachaInit 69 p.nonce)) k.ktimeNs
    port := p.port, udpLen := p.udpLen }

def rtpPlan (cfg : GutConfig) (p : Prepared) : Plan :=
  { room := 22, stuck := false, head := rtpGut p, port := rtpPort cfg p.seq, udpLen := 12 + p.udpLen }

def plan (mode : ObfsMode) (cfg : GutConfig) (k : Kernel) (p : Prepared) (tc : Tc) : Except TcStop Plan :=
  match mode with
  | .gut => pure (gutPlan p)
  | .quic => pure (if p.outer = 16 then shortPlan p else longPlan cfg k p)
  | .syslog => do
      let text ← orReject .ok (encodeInner p tc).toOption
      textPlan p (writeSyslogAscii cfg k.taiNs) text 68
  | .sip =>
      if p.wgType = 4 ∧ p.wgLen > 32 then do
        rejectIf .shot (cfg.numPorts < 2)
        pure (rtpPlan cfg p)
      else do
        rejectIf .ok (k.tailCall = false)
        let text ← orReject .ok (encodeInner p tc).toOption
        let hdr := writeSipHeader cfg p.wgType p.wgLen k.taiNs
        rejectIf .ok (hdr.length % 2 ^ 9 < 40 ∨ hdr.length % 2 ^ 9 > 256)
        textPlan p hdr text 256

structure Plan.Fits (pl : Plan) (k : Kernel) (ver : IpVersion) (skb : Buf) : Prop where
  pulled : k.pullData = true
  going : pl.stuck = false
  headers : payloadOff ver ≤ skb.length
  stored : payloadOff ver + pl.head.length ≤ skb.length + pl.room

theorem writeGutHeader_eq {skb : Buf} {quic : Nat} (ppn encPorts : UInt32) (padLen : Nat) (inside : quic + 10 ≤ skb.length) :
    writeGutHeader skb quic ppn encPorts padLen = overwrite skb quic (gutHeader ppn encPorts padLen) := by
  unfold writeGutHeader
  rw [if_neg (by rw [gutHeaderSize]; omega)]
  simp (disch := simp) only [overwrite_next]
  rfl

theorem writeQuicShortHeader_eq {skb : Buf} {quic : Nat} (dcid ppn encPorts : UInt32) (padLen : Nat)
    (inside : quic + 16 ≤ skb.length) :
    writeQuicShortHeader skb quic dcid ppn encPorts padLen = overwrite skb quic (quicShortHeader dcid ppn encPorts padLen) := by
  unfold writeQuicShortHeader
  rw [if_neg (by omega)]
  simp (disch := simp) only [overwrite_next]
  rfl

theorem encodeInner_eq (p : Prepared) (tc : Tc) : encodeInner p tc = orReject tc.pass (encodeInner p tc).toOption := by
  cases done : encodeInner p tc with
  | ok text => rfl
  | error e =>
      have same : e = tc.pass := by
        unfold encodeInner at done
        rcases bind_eq_error.mp done with early | ⟨u, -, done⟩
        · exact (rejectIf_eq_error.mp early).2
        rcases bind_eq_error.mp done with early | ⟨u, -, done⟩
        · exact (rejectIf_eq_error.mp early).2
        rcases bind_eq_error.mp done with early | ⟨u, -, done⟩
        · exact (orReject_eq_error.mp early).2
        rcases bind_eq_error.mp done with early | ⟨u, -, done⟩
        · exact (rejectIf_eq_error.mp early).2
        · cases done
      rw [same]
      rfl

section Emit

variable {p : Prepared} {pl : Plan} {hdr text : Buf} {hdrLimit : Nat} {v : TcStop}

theorem textPlan_stops (stopped : textPlan p hdr text hdrLimit = .error v) :
    replaceByText cfg k p hdr text hdr.length hdrLimit tc = .error (v, tc) := by
  unfold textPlan at stopped
  unfold replaceByText
  rcases bind_eq_error.mp stopped with early | ⟨u, -, done⟩
  · obtain ⟨bad, rfl⟩ := rejectIf_eq_error.mp early
    dsimp only
    rw [rejectIf, if_pos bad]
    rfl
  · cases done

theorem textPlan_planned (planned : textPlan p hdr text hdrLimit = .ok pl) :
    pl.head = hdr ++ text ∧ pl.udpLen = hdr.length + text.length + 8 ∧ pl.port = p.port ∧
      replaceByText cfg k p hdr text hdr.length hdrLimit tc = (do
        let tc ← makeRoom k p.ver pl.room tc
        let skb ← orReject tc.pass (storeBytes tc.skb (payloadOff p.ver) hdr)
        let tc := { tc with skb }
        let skb ← orReject tc.pass (storeBytes tc.skb (payloadOff p.ver + hdr.length) text)
        finish cfg p (hdr.length + text.length + 8) { tc with skb }) := by
  obtain ⟨u, fine, done⟩ := bind_eq_ok.mp planned
  cases done
  refine ⟨rfl, rfl, rfl, ?_⟩
  unfold replaceByText
  dsimp only
  rw [rejectIf_ok (rejectIf_eq_ok.mp fine), bind_ok]

theorem emitSyslog_eq (cfg : GutConfig) (k : Kernel) (p : Prepared) (tc : Tc) :
    emitSyslog cfg k p tc = (do
      let text ← orReject tc.pass (encodeInner p tc).toOption
      replaceByText cfg k p (writeSyslogAscii cfg k.taiNs) text (writeSyslogAscii cfg k.taiNs).length 68 tc) := by
  rw [← encodeInner_eq, length_writeSyslogAscii]
  rfl

theorem gutEgressSipSignal_eq (cfg : GutConfig) (k : Kernel) (p : Prepared) (tc : Tc) :
    gutEgressSipSignal cfg k p tc = (do
      let text ← orReject tc.pass (encodeInner p tc).toOption
      let hdr := writeSipHeader cfg p.wgType p.wgLen k.taiNs
      rejectIf tc.pass (hdr.length % 2 ^ 9 < 40 ∨ hdr.length % 2 ^ 9 > 256)
      replaceByText cfg k p hdr text hdr.length 256 tc) := by
  rw [← encodeInner_eq]
  rfl

theorem emit_stops (stopped : plan mode cfg k p tc = .error v) : emit mode cfg k p tc = .error (v, tc) := by
  cases mode with
  | gut => cases stopped
  | quic => cases stopped
  | syslog =>
      change emitSyslog cfg k p tc = _
      rw [emitSyslog_eq]
      rcases bind_eq_error.mp stopped with early | ⟨text, found, rest⟩
      · obtain ⟨none, rfl⟩ := orReject_eq_error.mp early
        rw [none]
        rfl
      · rw [orReject_eq_ok.mp found, orReject_some, bind_ok, textPlan_stops rest]
  | sip =>
      unfold plan at stopped
      unfold emit
      dsimp only at stopped ⊢
      split_ifs at stopped ⊢ with data
      · unfold emitRtp
        rcases bind_eq_error.mp stopped with early | ⟨u, -, rest⟩
        · obtain ⟨few, rfl⟩ := rejectIf_eq_error.mp early
          rw [rejectIf, if_pos few]
          rfl
        · cases rest
      · rw [gutEgressSipSignal_eq]
        rcases bind_eq_error.mp stopped with early | ⟨u, called, rest⟩
        · obtain ⟨failed, rfl⟩ := rejectIf_eq_error.mp early
          rw [rejectIf, if_pos failed]
          rfl
        rw [rejectIf_ok (rejectIf_eq_ok.mp called), bind_ok]
        rcases bind_eq_error.mp rest with early | ⟨text, found, rest⟩
        · obtain ⟨none, rfl⟩ := orReject_eq_error.mp early
          rw [none]
          rfl
        rw [orReject_eq_ok.mp found, orReject_some, bind_ok]
        rcases bind_eq_error.mp rest with early | ⟨u, fine, rest⟩
        · obtain ⟨bad, rfl⟩ := rejectIf_eq_error.mp early
          dsimp only
          rw [rejectIf, if_pos bad]
          rfl
        · dsimp only
          rw [rejectIf_ok (rejectIf_eq_ok.mp fine), bind_ok, textPlan_stops rest]

def carryOut (cfg : GutConfig) (k : Kernel) (p : Prepared) (tc : Tc) (pl : Plan) : TcRun Tc :=
  if k.adjustRoom = false then .error tc.pass
  else finish cfg { p with port := pl.port } pl.udpLen
    { tc with skb := overwrite (tc.shifted pl.room p.ver) (payloadOff p.ver) pl.head }

def BreaksOff (tc : Tc) (room : Nat) (run : TcRun Tc) : Prop :=
  ∃ skb : Buf, run = .error (.ok, { tc with skb }) ∧ skb.length = tc.skb.length + room

theorem breaksOff_inserted (tc : Tc) (room : Nat) : BreaksOff tc room (.error { tc with skb := tc.inserted room }.pass) :=
  ⟨_, rfl, length_inserted tc room⟩

theorem replaceByText_carriesOut (planned : textPlan p hdr text hdrLimit = .ok pl) :
    (k.adjustRoom = false ∨ pl.Fits k p.ver tc.skb →
      replaceByText cfg k p hdr text hdr.length hdrLimit tc = carryOut cfg k p tc pl) ∧
    (k.adjustRoom = true → ¬pl.Fits k p.ver tc.skb →
      BreaksOff tc pl.room (replaceByText cfg k p hdr text hdr.length hdrLimit tc)) := by
  obtain ⟨head, udpLen, port, done⟩ := @textPlan_planned cfg k tc _ _ _ _ _ planned
  have going : pl.stuck = false := by
    obtain ⟨u, fine, done⟩ := bind_eq_ok.mp planned
    cases done
    rfl
  have size : pl.head.length = hdr.length + text.length := by rw [head, List.length_append]
  have length := length_shifted tc pl.room p.ver
  rw [done, makeRoom_eq]
  constructor
  · intro works
    unfold carryOut
    by_cases refused : k.adjustRoom = false
    · rw [if_pos refused, if_pos refused]
      rfl
    obtain ⟨pulled, -, headers, stored⟩ := works.resolve_left refused
    rw [if_neg refused, if_neg refused, if_neg (by simp [pulled]; omega), bind_ok]
    dsimp only
    rw [storeBytes_ok (by omega), orReject_some, bind_ok, storeBytes_ok (by rw [length_overwrite]; omega), orReject_some,
      bind_ok, overwrite_next _ _ _ _ _ rfl, ← head, udpLen, port]
  · intro adjusted misfit
    rw [if_neg (by simp [adjusted])]
    by_cases unpulled : k.pullData = false ∨ tc.skb.length < payloadOff p.ver
    · rw [if_pos unpulled]
      exact breaksOff_inserted tc pl.room
    rw [if_neg unpulled, bind_ok]
    have outside : tc.skb.length + pl.room < payloadOff p.ver + pl.head.length := by
      by_contra inside
      exact misfit ⟨by simpa using (not_or.mp unpulled).1, going, by omega, by omega⟩
    dsimp only
    by_cases first : payloadOff p.ver + hdr.length ≤ tc.skb.length + pl.room
    · rw [storeBytes_ok (by omega), orReject_some, bind_ok, storeBytes, if_pos (by rw [length_overwrite]; omega)]
      exact ⟨_, rfl, by rw [length_overwrite, length]⟩
    · rw [storeBytes, if_pos (by omega)]
      exact ⟨_, rfl, length⟩

def storeHead (cfg : GutConfig) (k : Kernel) (p : Prepared) (tc : Tc) (pl : Plan) : TcRun Tc := do
  let tc ← makeRoom k p.ver pl.room tc
  rejectIf tc.pass (pl.stuck = true)
  let skb ← orReject tc.pass (storeBytes tc.skb (payloadOff p.ver) pl.head)
  finish cfg { p with port := pl.port } pl.udpLen { tc with skb }

theorem storeHead_carriesOut (cfg : GutConfig) (k : Kernel) (p : Prepared) (tc : Tc) (pl : Plan) :
    (k.adjustRoom = false ∨ pl.Fits k p.ver tc.skb → storeHead cfg k p tc pl = carryOut cfg k p tc pl) ∧
    (k.adjustRoom = true → ¬pl.Fits k p.ver tc.skb → BreaksOff tc pl.room (storeHead cfg k p tc pl)) := by
  have length := length_shifted tc pl.room p.ver
  unfold storeHead
  rw [makeRoom_eq]
  constructor
  · intro works
    unfold carryOut
    by_cases refused : k.adjustRoom = false
    · rw [if_pos refused, if_pos refused]
      rfl
    obtain ⟨pulled, going, headers, stored⟩ := works.resolve_left refused
    rw [if_neg refused, if_neg refused, if_neg (by simp [pulled]; omega), bind_ok, rejectIf_ok (by simp [going]), bind_ok]
    dsimp only
    rw [storeBytes_ok (by omega), orReject_some, bind_ok]
  · intro adjusted misfit
    rw [if_neg (by simp [adjusted])]
    by_cases unpulled : k.pullData = false ∨ tc.skb.length < payloadOff p.ver
    · rw [if_pos unpulled]
      exact breaksOff_inserted tc pl.room
    rw [if_neg unpulled, bind_ok]
    by_cases stuck : pl.stuck = true
    · rw [rejectIf, if_pos stuck]
      exact ⟨_, rfl, length⟩
    have outside : tc.skb.length + pl.room < payloadOff p.ver + pl.head.length := by
      by_contra inside
      exact misfit ⟨by simpa using (not_or.mp unpulled).1, by simpa using stuck, by omega, by omega⟩
    rw [rejectIf_ok stuck, bind_ok]
    dsimp only
    rw [storeBytes, if_pos (by omega)]
    exact ⟨_, rfl, length⟩

theorem storeHead_written {write : Buf → Buf} (room : pl.head.length = pl.room) (going : pl.stuck = false)
    (written : ∀ skb : Buf, payloadOff p.ver + pl.room ≤ skb.length → write skb = overwrite skb (payloadOff p.ver) pl.head) :
    storeHead cfg k p tc pl = (do
      let tc ← makeRoom k p.ver pl.room tc
      finish cfg { p with port := pl.port } pl.udpLen { tc with skb := write tc.skb }) := by
  have length := length_shifted tc pl.room p.ver
  unfold storeHead
  rw [makeRoom_eq]
  split_ifs with refused unpulled
  · rfl
  · rfl
  · rw [bind_ok, bind_ok, rejectIf_ok (by simp [going]), bind_ok]
    dsimp only
    rw [storeBytes_ok (by omega), orReject_some, bind_ok, written _ (by omega)]

theorem rejectIf_either {α : Type} (e : TcStop × Tc) (a b : Bool) (f : Unit → TcRun α) :
    (rejectIf e (a = false) >>= fun _ => rejectIf e (b = false) >>= f) = (rejectIf e ((!a || !b) = true) >>= f) := by
  cases a <;> cases b <;> rfl

theorem emit_carriesOut (sized : p.outer = egressHdrLen mode p.wgType) (planned : plan mode cfg k p tc = .ok pl) :
    (k.adjustRoom = false ∨ pl.Fits k p.ver tc.skb → emit mode cfg k p tc = carryOut cfg k p tc pl) ∧
    (k.adjustRoom = true → ¬pl.Fits k p.ver tc.skb → BreaksOff tc pl.room (emit mode cfg k p tc)) := by
  cases mode with
  | gut =>
      have outer : p.outer = 10 := sized
      cases planned
      have stored := @storeHead_written cfg k tc p (gutPlan p) (fun skb => writeGutHeader skb (payloadOff p.ver) p.ppn p.encPorts p.padLen) outer.symm rfl
        fun skb inside => writeGutHeader_eq _ _ _ (by simp only [gutPlan, outer] at inside; omega)
      rw [show emit .gut cfg k p tc = storeHead cfg k p tc (gutPlan p) from stored.symm]
      exact storeHead_carriesOut cfg k p tc _
  | quic =>
      cases planned
      by_cases short : p.outer = 16
      · have stored := @storeHead_written cfg k tc p (shortPlan p) (fun skb => writeQuicShortHeader skb (payloadOff p.ver) (p.ks47.get 9) p.ppn p.encPorts p.padLen) short.symm rfl
          fun skb inside => writeQuicShortHeader_eq _ _ _ _ (by simp only [shortPlan, short] at inside; omega)
        have same : emit .quic cfg k p tc = storeHead cfg k p tc (shortPlan p) := by
          rw [stored, emit, if_pos short]
          rfl
        rw [same, if_pos short]
        exact storeHead_carriesOut cfg k p tc _
      · have same : emit .quic cfg k p tc = storeHead cfg k p tc (longPlan cfg k p) := by
          unfold emit emitLong gutEgressQuicLong storeHead longPlan
          rw [if_neg short]
          dsimp only
          generalize writeQuicLongHeader (List.replicate 1200 0) p.wgType p.wgIdx p.ppn p.encPorts p.padLen cfg
            (blockBytes .little (chachaBlock cfg.chachaInit 69 p.nonce)) k.ktimeNs = head
          exact congrArg (makeRoom k p.ver p.outer tc >>= ·) (funext fun tc => rejectIf_either _ _ _ _)
        rw [same, if_neg short]
        exact storeHead_carriesOut cfg k p tc _
  | syslog =>
      obtain ⟨text, found, rest⟩ := bind_eq_ok.mp planned
      have same : emit .syslog cfg k p tc = _ := emitSyslog_eq cfg k p tc
      rw [same, orReject_eq_ok.mp found, orReject_some, bind_ok]
      exact replaceByText_carriesOut rest
  | sip =>
      unfold plan at planned
      dsimp only at planned
      split_ifs at planned with data
      · obtain ⟨u, enough, rest⟩ := bind_eq_ok.mp planned
        cases rest
        have same : emit .sip cfg k p tc = storeHead cfg k p tc (rtpPlan cfg p) := by
          unfold emit emitRtp storeHead rtpPlan
          rw [if_pos data, rejectIf_ok (rejectIf_eq_ok.mp enough), bind_ok]
          simp only [rejectIf, Bool.false_eq_true, if_false, pure_eq_ok, bind_ok]
          rfl
        rw [same]
        exact storeHead_carriesOut cfg k p tc _
      · obtain ⟨u, called, rest⟩ := bind_eq_ok.mp planned
        obtain ⟨text, found, rest⟩ := bind_eq_ok.mp rest
        obtain ⟨u, fine, rest⟩ := bind_eq_ok.mp rest
        unfold emit
        dsimp only
        rw [if_neg data, rejectIf_ok (rejectIf_eq_ok.mp called), bind_ok, gutEgressSipSignal_eq, orReject_eq_ok.mp found,
          orReject_some, bind_ok]
        dsimp only
        rw [rejectIf_ok (rejectIf_eq_ok.mp fine), bind_ok]
        exact replaceByText_carriesOut rest

theorem finish_eq {n : Nat} (inside : payloadOff p.ver ≤ tc.skb.length) :
    finish cfg p n tc =
      match routeOf cfg tc.clientMap p.wgIdx p.ver with
      | none => .error { tc with skb := writeOuterLengths p.ver p.port n tc.skb }.pass
      | some route =>
          .ok { tc with
            skb := writeOuterHeaders cfg p.ver route (writeOuterLengths p.ver p.port n tc.skb)
            stats.packetsProcessed := tc.stats.packetsProcessed + 1
            stats.packetsEgress := tc.stats.packetsEgress + 1
            stats.bytesProcessed := tc.stats.bytesProcessed + tc.skb.length } := by
  unfold finish
  rw [rejectIf_ok (by omega), bind_ok]
  dsimp only
  cases routeOf cfg tc.clientMap p.wgIdx p.ver with
  | none => rfl
  | some route =>
      simp only [orReject_some, bind_ok, length_writeOuterLengths]
      rfl

end Emit

section Program

variable (mode : ObfsMode) (cfg : GutConfig) (k : Kernel) (tc : Tc) (pkt : WgPacket)

def preparedTc : Tc :=
  { tc with skb := maskedIn cfg pkt (tc.skb ++ padOf mode cfg pkt), seq := nextSeq tc + 1
            sessionMap := bridgedMap cfg pkt tc }

def storedSkb (pl : Plan) : Buf :=
  overwrite ((preparedTc mode cfg tc pkt).shifted pl.room pkt.ver) (payloadOff pkt.ver) pl.head

def sentSkb (pl : Plan) (route : Route) : Buf :=
  writeOuterHeaders cfg pkt.ver route (writeOuterLengths pkt.ver pl.port pl.udpLen (storedSkb mode cfg tc pkt pl))

structure Prepares (port : UInt16) : Prop where
  kept : keepaliveDropped cfg k.prandom pkt.wgType pkt.wgLen = false
  sized : mode = .syslog → pkt.wgLen ≤ gutB64WgMtuMax
  selected : tunnelPort mode cfg (nextSeq tc) = some port
  grown : 0 < padLenOf mode cfg pkt → k.changeTail = true
  responder : cfg.dynamicPeer ≠ 0 → pkt.wgType ≠ 1

structure Sends (port : UInt16) (pl : Plan) (route : Route) : Prop extends Prepares mode cfg k tc pkt port where
  planned : plan mode cfg k (preparedOf mode cfg pkt (nextSeq tc) port) (preparedTc mode cfg tc pkt) = .ok pl
  adjusted : k.adjustRoom = true
  fits : pl.Fits k pkt.ver (preparedTc mode cfg tc pkt).skb
  routed : routeOf cfg tc.clientMap (wgIndex pkt) pkt.ver = some route

variable {mode cfg k tc pkt} {port : UInt16} {pl : Plan} {route : Route}

theorem prepare_prepares (found : parseEgress tc.skb = some pkt) (prepares : Prepares mode cfg k tc pkt port) :
    prepare mode cfg k tc = .ok (preparedOf mode cfg pkt (nextSeq tc) port, preparedTc mode cfg tc pkt) := by
  obtain ⟨kept, sized, selected, grown, responder⟩ := prepares
  have refused : ¬(0 < padLenOf mode cfg pkt ∧ k.changeTail = false) := fun ⟨padded, off⟩ => by simp [grown padded] at off
  have oversized : ¬(mode = .syslog ∧ pkt.wgLen > gutB64WgMtuMax) := fun ⟨text, large⟩ => Nat.not_le.mpr large (sized text)
  rw [prepare_eq mode k found, if_neg (by simp [kept]), if_neg oversized, selected]
  dsimp only
  rw [if_neg refused, if_neg fun ⟨dynamic, first⟩ => responder dynamic first]
  rfl

theorem prepares_of_prepare {result : Prepared × Tc} (found : parseEgress tc.skb = some pkt)
    (done : prepare mode cfg k tc = .ok result) : ∃ port, Prepares mode cfg k tc pkt port := by
  rw [prepare_eq mode k found] at done
  cases selected : tunnelPort mode cfg (nextSeq tc) with
  | none =>
      rw [selected] at done
      split_ifs at done
  | some port =>
      rw [selected] at done
      split_ifs at done with dropped oversized refused initiation
      exact ⟨port, by simpa using dropped, fun text => Nat.not_lt.mp fun large => oversized ⟨text, large⟩, selected,
        fun padded => by simpa using fun off => refused ⟨padded, off⟩, fun dynamic first => initiation ⟨dynamic, first⟩⟩

theorem carryOut_fits {p : Prepared} (adjusted : k.adjustRoom = true) (fits : pl.Fits k p.ver tc.skb) :
    carryOut cfg k p tc pl = finish cfg { p with port := pl.port } pl.udpLen
      { tc with skb := overwrite (tc.shifted pl.room p.ver) (payloadOff p.ver) pl.head } ∧
      payloadOff p.ver ≤ (overwrite (tc.shifted pl.room p.ver) (payloadOff p.ver) pl.head).length := by
  have headers := fits.headers
  refine ⟨by rw [carryOut, if_neg (by simp [adjusted])], ?_⟩
  rw [length_overwrite, length_shifted]
  omega

theorem gutEgress_sent (found : parseEgress tc.skb = some pkt) (sends : Sends mode cfg k tc pkt port pl route) :
    ∃ tc', gutEgress mode cfg k tc = (.redirect cfg.egressIfindex, tc') ∧ tc'.skb = sentSkb mode cfg tc pkt pl route := by
  have emitted := (emit_carriesOut (p := preparedOf mode cfg pkt (nextSeq tc) port) rfl sends.planned).1 (.inr sends.fits)
  obtain ⟨carried, inside⟩ := @carryOut_fits cfg _ _ _ (preparedOf mode cfg pkt (nextSeq tc) port) sends.adjusted sends.fits
  have routed : routeOf cfg (preparedTc mode cfg tc pkt).clientMap (wgIndex pkt) pkt.ver = some route := sends.routed
  unfold gutEgress
  rw [prepare_prepares found sends.toPrepares, bind_ok]
  dsimp only
  rw [emitted, carried, finish_eq inside]
  simp only [preparedOf, routed]
  exact ⟨_, rfl, rfl⟩

theorem gutEgress_redirect {ifindex : UInt32} {tc' : Tc} (done : gutEgress mode cfg k tc = (.redirect ifindex, tc')) :
    ∃ pkt port pl route, parseEgress tc.skb = some pkt ∧ Sends mode cfg k tc pkt port pl route ∧
      tc'.skb = sentSkb mode cfg tc pkt pl route := by
  cases found : parseEgress tc.skb with
  | none => simp [gutEgress, prepare, found, orReject] at done
  | some pkt =>
      have run : ∃ sent, (prepare mode cfg k tc >>= fun sent => emit mode cfg k sent.1 sent.2) = .ok sent := by
        unfold gutEgress at done
        dsimp only at done
        split at done
        · exact ⟨_, by assumption⟩
        · cases done
      obtain ⟨sent, run⟩ := run
      obtain ⟨⟨p, tc₁⟩, prepared, emitted⟩ := bind_eq_ok.mp run
      obtain ⟨port, prepares⟩ := prepares_of_prepare found prepared
      rw [prepare_prepares found prepares] at prepared
      cases prepared
      dsimp only at emitted
      cases planned : plan mode cfg k (preparedOf mode cfg pkt (nextSeq tc) port) (preparedTc mode cfg tc pkt) with
      | error v =>
          rw [emit_stops planned] at emitted
          cases emitted
      | ok pl =>
          obtain ⟨carries, breaks⟩ := emit_carriesOut (p := preparedOf mode cfg pkt (nextSeq tc) port) rfl planned
          have adjusted : k.adjustRoom = true := by
            by_contra refused
            rw [carries (.inl (by simpa using refused)), carryOut, if_pos (by simpa using refused)] at emitted
            cases emitted
          have fits : pl.Fits k pkt.ver (preparedTc mode cfg tc pkt).skb := by
            by_contra misfit
            obtain ⟨skb, failed, -⟩ := breaks adjusted misfit
            rw [failed] at emitted
            cases emitted
          obtain ⟨carried, inside⟩ := @carryOut_fits cfg _ _ _ (preparedOf mode cfg pkt (nextSeq tc) port) adjusted fits
          rw [carries (.inr fits), carried, finish_eq inside] at emitted
          cases routed : routeOf cfg tc.clientMap (wgIndex pkt) pkt.ver with
          | none =>
              have unrouted : routeOf cfg (preparedTc mode cfg tc pkt).clientMap (wgIndex pkt) pkt.ver = none := routed
              simp only [preparedOf, unrouted] at emitted
              cases emitted
          | some route =>
              have sends : Sends mode cfg k tc pkt port pl route := ⟨prepares, planned, adjusted, fits, routed⟩
              obtain ⟨tc₂, sent', skb⟩ := gutEgress_sent found sends
              rw [done] at sent'
              cases sent'
              exact ⟨pkt, port, pl, route, rfl, sends, skb⟩

end Program

end Gutd.Bpf
