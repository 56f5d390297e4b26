import Gutd.Netlink.Message
import Gutd.Shared.Hexadecimal

set_option autoImplicit false

-- `lookup_arp_cache` of `netlink.rs`.

namespace Gutd.Netlink

open Attributes Bytes Checked Str

def nlmsgDone : UInt16 := 3

def rtmNewneigh : UInt16 := 28

inductive Scan where
  | done
  | answered (message : Buf) (mac : Mac)
  | exhausted

def macFrom (order : ByteOrder) (ip : Vector UInt8 4) (ifindex : UInt32) (nlmsgType : UInt16) (message : Buf) :
    Result (Option Mac) :=
  if nlmsgType = rtmNewneigh then parseNeighNlmsgV4 order message ip ifindex else pure none

def scanMessages (order : ByteOrder) (ip : Vector UInt8 4) (ifindex : UInt32) (datagram : Buf) (offset : Nat) : Result Scan :=
  if _more : offset + nlhSize ≤ datagram.length then do
    let nlmsgLen ← readNe32 order datagram offset
    let nlmsgType ← readNe16 order datagram (offset + 4)
    let msgLen := nlmsgLen.toNat
    if _bad : msgLen < nlhSize ∨ datagram.length < offset + msgLen then pure .exhausted
    else if nlmsgType = nlmsgDone then pure .done
    else do
      let message ← subslice datagram offset (offset + msgLen)
      match ← macFrom order ip ifindex nlmsgType message with
      | some mac => pure (.answered message mac)
      | none => scanMessages order ip ifindex datagram (offset + Attributes.align4 msgLen)
  else pure .exhausted
termination_by datagram.length - offset
decreasing_by
  have grows := le_align4 nlmsgLen.toNat
  simp only [nlhSize] at *
  omega

-- `recv` fills a buffer of 8192 bytes; it reports no byte, or an error, where the list ends
def scanDatagrams (order : ByteOrder) (ip : Vector UInt8 4) (ifindex : UInt32) : List Buf → Result (Option (Buf × Mac))
  | [] => pure none
  | datagram :: rest =>
      if datagram = [] then pure none
      else do
        match ← scanMessages order ip ifindex (datagram.take 8192) 0 with
        | .done => pure none
        | .answered message mac => pure (some (message, mac))
        | .exhausted => scanDatagrams order ip ifindex rest

-- no reply where the socket cannot be opened, bound or written to
def nlGetNeighV4 (order : ByteOrder) (ip : Vector UInt8 4) (ifindex : UInt32) (reply : Option (List Buf)) :
    Result (Option (Buf × Mac)) :=
  match reply with
  | none => pure none
  | some datagrams => scanDatagrams order ip ifindex datagrams

def ipText (ip : Vector UInt8 4) : List Char :=
  (toString (ip.get 0).toNat).toList ++ '.' :: ((toString (ip.get 1).toNat).toList ++ '.' :: ((toString (ip.get 2).toNat).toList ++
    '.' :: (toString (ip.get 3).toNat).toList))

-- `trim_start_matches("0x")`
def trimStart0x : List Char → List Char
  | '0' :: 'x' :: rest => trimStart0x rest
  | s => s

def parseMac (mac : List Char) : Except String Mac := do
  let parts := mac.splitOn ':'
  if parts.length ≠ 6 then throw ("Invalid MAC format: " ++ String.ofList mac)
  let bytes ← parts.mapM fun p =>
    orReject ("Invalid MAC byte '" ++ String.ofList p ++ "' in '" ++ String.ofList mac ++ "'") (hexU8 p)
  pure (macOf bytes)

def arpFlags (flags : List Char) : UInt32 := (hexU32 (trimStart0x flags)).getD 0

-- the columns are address, hardware type, flags, link-layer address, mask and device
def arpLines (ip : Vector UInt8 4) (ifname : List Char) : List (List Char) → Option Mac
  | [] => none
  | line :: rest =>
      match splitWhitespace line with
      | address :: _ :: flags :: mac :: _ :: dev :: _ =>
          if address = ipText ip ∧ dev = ifname ∧ arpFlags flags ≠ 0 then (parseMac mac).toOption
          else arpLines ip ifname rest
      | _ => arpLines ip ifname rest

structure Host where
  ifNametoindex : List Char → UInt32
  dump : Option (List Buf)
  fullDump : Option (List Buf)
  procNetArp : Option (List Char)

section Lookup

variable (order : ByteOrder) (host : Host) (ip : Vector UInt8 4) (ifname : List Char)

def getIfindex : Option UInt32 :=
  if '\x00' ∈ ifname then none
  else if host.ifNametoindex ifname = 0 then none
  else some (host.ifNametoindex ifname)

def lookupNetlink : Result (Option (Buf × Mac)) :=
  match getIfindex host ifname with
  | none => pure none
  | some ifindex => do
      match ← nlGetNeighV4 order ip ifindex host.dump with
      | some answer => pure (some answer)
      | none => nlGetNeighV4 order ip 0 host.fullDump

def lookupArpCache : Result (Option Mac) := do
  match ← lookupNetlink order host ip ifname with
  | some (_, mac) => pure (some mac)
  | none => pure (host.procNetArp.bind fun content => arpLines ip ifname ((lines content).drop 1))

end Lookup

section Messages

variable (order : ByteOrder)

def messagesFrom (datagram : Buf) (offset : Nat) : List Buf :=
  if _more : offset + nlhSize ≤ datagram.length then
    let msgLen := (ne32At order datagram offset).toNat
    if _bad : msgLen < nlhSize ∨ datagram.length < offset + msgLen then []
    else slice datagram offset (offset + msgLen) :: messagesFrom datagram (offset + Attributes.align4 msgLen)
  else []
termination_by datagram.length - offset
decreasing_by
  have grows := le_align4 (ne32At order datagram offset).toNat
  simp only [nlhSize] at *
  omega

def isDone (message : Buf) : Bool := ne16At order message 4 = nlmsgDone

def dumpMessages : List Buf → List Buf
  | [] => []
  | datagram :: rest =>
      if datagram = [] then []
      else
        let messages := messagesFrom order (datagram.take 8192) 0
        if messages.any (isDone order) then messages.takeWhile fun message => !isDone order message
        else messages ++ dumpMessages rest

def replyMessages (reply : Option (List Buf)) : List Buf := (reply.map (dumpMessages order)).getD []

def answerOf (ip : Vector UInt8 4) (ifindex : UInt32) (message : Buf) : Option Mac :=
  if ne16At order message 4 = rtmNewneigh ∧ 28 ≤ message.length ∧ (ifindex = 0 ∨ ne32At order message 20 = ifindex) ∧
      ne16At order message 24 &&& nudValid ≠ 0 then
    neighOf ip (attrsFrom order message 28)
  else none

def answerFrom (ip : Vector UInt8 4) (ifindex : UInt32) (messages : List Buf) : Option (Buf × Mac) :=
  messages.findSome? fun message => (answerOf order ip ifindex message).map fun mac => (message, mac)

def scanList (ip : Vector UInt8 4) (ifindex : UInt32) : List Buf → Scan
  | [] => .exhausted
  | message :: rest =>
      if isDone order message then .done
      else
        match answerOf order ip ifindex message with
        | some mac => .answered message mac
        | none => scanList ip ifindex rest

variable {order} {ip : Vector UInt8 4} {ifindex : UInt32}

theorem macFrom_eq (message : Buf) :
    macFrom order ip ifindex (ne16At order message 4) message = .ok (answerOf order ip ifindex message) := by
  rw [macFrom, answerOf]
  by_cases kind : ne16At order message 4 = rtmNewneigh
  · rw [if_pos kind]
    by_cases short : message.length < 28
    · rw [parseNeighNlmsgV4_short short, if_neg fun all => absurd all.2.1 (Nat.not_le.mpr short)]
    · have long := Nat.le_of_not_lt short
      rw [parseNeighNlmsgV4_eq long]
      simp only [kind, long, true_and]
  · rw [if_neg kind, if_neg fun all => kind all.1]
    rfl

theorem scanMessages_eq (datagram : Buf) (offset : Nat) :
    scanMessages order ip ifindex datagram offset = .ok (scanList order ip ifindex (messagesFrom order datagram offset)) := by
  have header : nlhSize = 16 := rfl
  fun_induction messagesFrom order datagram offset with
  | case1 offset more msgLen bad =>
      rw [scanMessages, dif_pos more, readNe32_ok (by omega), readNe16_ok (by omega), bind_ok, bind_ok]
      exact dif_pos bad
  | case2 offset more msgLen fine ih =>
      have kind : ne16At order datagram (offset + 4) = ne16At order (slice datagram offset (offset + msgLen)) 4 :=
        ne16At_congr fun k inside => by rw [byteAt_slice, if_pos (by omega), Nat.add_assoc]
      rw [scanMessages, dif_pos more, readNe32_ok (by omega), readNe16_ok (by omega), bind_ok, bind_ok, kind, scanList]
      dsimp only
      rw [dif_neg fine, subslice_ok (by omega) (by omega), bind_ok, macFrom_eq, bind_ok]
      by_cases done : ne16At order (slice datagram offset (offset + msgLen)) 4 = nlmsgDone
      · rw [if_pos done, isDone, decide_eq_true done]
        rfl
      · rw [if_neg done, isDone, decide_eq_false done]
        cases answer : answerOf order ip ifindex (slice datagram offset (offset + msgLen)) with
        | none => exact ih
        | some mac => rfl
  | case3 offset more =>
      rw [scanMessages, dif_neg more]
      rfl

theorem scanList_eq (messages : List Buf) :
    scanList order ip ifindex messages =
      match answerFrom order ip ifindex (messages.takeWhile fun message => !isDone order message) with
      | some (message, mac) => .answered message mac
      | none => if messages.any (isDone order) then .done else .exhausted := by
  induction messages with
  | nil => rfl
  | cons message rest ih =>
      by_cases done : isDone order message = true
      · simp [scanList, answerFrom, done]
      · cases answer : answerOf order ip ifindex message with
        | none =>
            rw [scanList, if_neg done, answer]
            simp only [answerFrom] at ih ⊢
            simp [done, answer, ih]
        | some mac => simp [scanList, answerFrom, done, answer]

theorem scanDatagrams_eq (datagrams : List Buf) :
    scanDatagrams order ip ifindex datagrams = .ok (answerFrom order ip ifindex (dumpMessages order datagrams)) := by
  induction datagrams with
  | nil => rfl
  | cons datagram rest ih =>
      rw [scanDatagrams, dumpMessages]
      by_cases empty : datagram = []
      · rw [if_pos empty, if_pos empty]
        rfl
      · rw [if_neg empty, if_neg empty, scanMessages_eq, bind_ok, scanList_eq]
        generalize messagesFrom order (datagram.take 8192) 0 = messages
        dsimp only
        by_cases ends : messages.any (isDone order) = true
        · rw [if_pos ends, if_pos ends]
          cases answerFrom order ip ifindex (messages.takeWhile fun message => !isDone order message) <;> rfl
        · have all : (messages.takeWhile fun message => !isDone order message) = messages := by
            refine List.takeWhile_eq_self_iff.mpr fun message member => ?_
            rw [Bool.not_eq_true', ← Bool.not_eq_true]
            exact fun done => ends (List.any_eq_true.mpr ⟨message, member, done⟩)
          have joined : answerFrom order ip ifindex (messages ++ dumpMessages order rest) =
              (answerFrom order ip ifindex messages).or (answerFrom order ip ifindex (dumpMessages order rest)) :=
            List.findSome?_append
          rw [if_neg ends, if_neg ends, all, joined]
          cases answerFrom order ip ifindex messages with
          | none => exact ih
          | some answer => rfl

theorem nlGetNeighV4_eq (reply : Option (List Buf)) :
    nlGetNeighV4 order ip ifindex reply = .ok (answerFrom order ip ifindex (replyMessages order reply)) := by
  cases reply with
  | none => rfl
  | some datagrams => exact scanDatagrams_eq datagrams

end Messages

structure StatesNeighbour (order : ByteOrder) (message : Buf) (ifindex : UInt32) (ip : Vector UInt8 4) (mac : Mac) : Prop where
  kind : ne16At order message 4 = rtmNewneigh
  long : nlhSize + ndmSize ≤ message.length
  interface : ne32At order message 20 = ifindex
  resolved : ne16At order message 24 &&& nudValid ≠ 0
  address : ∃ a ∈ attrsFrom order message 28, a.type = 1 ∧ a.data = ip.toList
  lladdr : ∃ a ∈ attrsFrom order message 28, a.type = 2 ∧ a.data = mac.toList

def ArpEntry (ip : Vector UInt8 4) (ifname line flags mac : List Char) : Prop :=
  ∃ hwType mask rest, splitWhitespace line = ipText ip :: hwType :: flags :: mac :: mask :: ifname :: rest

def without0x : List Char → List Char
  | '0' :: 'x' :: rest => rest
  | s => s

def hexMac (s : List Char) : Option Mac :=
  if (s.splitOn ':').length = 6 then
    ((s.splitOn ':').mapM fun byte => (hexNumber 255 byte).map UInt8.ofNat).map macOf
  else none

-- `ATF_COM`: the other flags say nothing about the address being known
def atfCom : Nat := 0x2

def StatesArp (line ifname : List Char) (ip : Vector UInt8 4) (mac : Mac) : Prop :=
  ∃ flags text n, ArpEntry ip ifname line flags text ∧ hexNumber 4294967295 (without0x flags) = some n ∧ n &&& atfCom ≠ 0 ∧
    hexMac text = some mac

section Entries

variable {order : ByteOrder} {ip : Vector UInt8 4} {ifindex : UInt32} {message : Buf} {mac : Mac}

theorem toList_macOf {bytes : Buf} (six : bytes.length = 6) : (macOf bytes).toList = bytes := by
  refine ext_byteAt (by simp [six]) fun i inside => ?_
  have inside : i < 6 := by simpa using inside
  rw [byteAt_eq_getElem _ _ (by simpa using inside), Vector.getElem_toList, macOf, Vector.getElem_ofFn]

theorem lastLladdr_eq_some {attrs : List Attr} (last : lastLladdr attrs = some mac) :
    ∃ a ∈ attrs, a.type = 2 ∧ a.data = mac.toList := by
  obtain ⟨a, here, rfl⟩ := Option.map_eq_some_iff.mp last
  obtain ⟨member, kind⟩ := List.mem_filter.mp (List.mem_of_getLast? here)
  have kind : a.type = 2 ∧ a.data.length = 6 := of_decide_eq_true kind
  exact ⟨a, member, kind.1, (toList_macOf kind.2).symm⟩

theorem exists_lastLladdr {attrs : List Attr} {a : Attr} (member : a ∈ attrs) (kind : a.type = 2 ∧ a.data = mac.toList) :
    ∃ mac', lastLladdr attrs = some mac' := by
  have six : a.data.length = 6 := by rw [kind.2, Vector.length_toList]
  have inside : a ∈ attrs.filter isLladdr := List.mem_filter.mpr ⟨member, decide_eq_true ⟨kind.1, six⟩⟩
  obtain ⟨last, here⟩ : ∃ last, (attrs.filter isLladdr).getLast? = some last :=
    Option.isSome_iff_exists.mp (List.getLast?_isSome.mpr (List.ne_nil_of_mem inside))
  exact ⟨_, by rw [lastLladdr, here]; rfl⟩

theorem states_of_answerOf (answer : answerOf order ip ifindex message = some mac) :
    StatesNeighbour order message (ne32At order message 20) ip mac ∧ (ifindex = 0 ∨ ne32At order message 20 = ifindex) := by
  obtain ⟨⟨kind, long, interface, resolved⟩, answer⟩ := (Option.ite_none_right_eq_some ..).mp answer
  obtain ⟨address, last⟩ := (Option.ite_none_right_eq_some ..).mp answer
  obtain ⟨a, member, dst⟩ := List.any_eq_true.mp address
  exact ⟨⟨kind, long, rfl, resolved, ⟨a, member, of_decide_eq_true dst⟩, lastLladdr_eq_some last⟩, interface⟩

theorem answerOf_of_states {index : UInt32} (states : StatesNeighbour order message index ip mac)
    (interface : ifindex = 0 ∨ index = ifindex) : ∃ mac', answerOf order ip ifindex message = some mac' := by
  obtain ⟨a, member, dst⟩ := states.address
  obtain ⟨b, member', lladdr⟩ := states.lladdr
  obtain ⟨mac', last⟩ := exists_lastLladdr member' lladdr
  refine ⟨mac', ?_⟩
  rw [answerOf, if_pos ⟨states.kind, states.long, states.interface ▸ interface, states.resolved⟩, neighOf,
    if_pos (List.any_eq_true.mpr ⟨a, member, decide_eq_true dst⟩), last]

theorem answerFrom_eq_none {messages : List Buf} :
    answerFrom order ip ifindex messages = none ↔
      ∀ message ∈ messages, ∀ index mac, (ifindex = 0 ∨ index = ifindex) → ¬StatesNeighbour order message index ip mac := by
  simp only [answerFrom, List.findSome?_eq_none_iff, Option.map_eq_none_iff]
  constructor
  · intro none message member index mac interface states
    obtain ⟨mac', answer⟩ := answerOf_of_states states interface
    rw [none message member] at answer
    cases answer
  · intro none message member
    cases answer : answerOf order ip ifindex message with
    | none => rfl
    | some mac =>
        obtain ⟨states, interface⟩ := states_of_answerOf answer
        exact absurd states (none message member _ mac interface)

theorem answerFrom_own_eq_none {messages : List Buf} (named : ifindex ≠ 0) :
    answerFrom order ip ifindex messages = none ↔
      ∀ message ∈ messages, ∀ mac, ¬StatesNeighbour order message ifindex ip mac := by
  rw [answerFrom_eq_none]
  constructor
  · intro none message member mac
    exact none message member ifindex mac (.inr rfl)
  · intro none message member index mac interface
    rw [interface.resolve_left named]
    exact none message member mac

theorem answerFrom_any_eq_none {messages : List Buf} :
    answerFrom order ip 0 messages = none ↔
      ∀ message ∈ messages, ∀ index mac, ¬StatesNeighbour order message index ip mac := by
  simp [answerFrom_eq_none]

theorem exists_of_answerFrom {messages : List Buf} (answer : answerFrom order ip ifindex messages = some (message, mac)) :
    ∃ before after, messages = before ++ message :: after ∧ answerFrom order ip ifindex before = none ∧
      answerOf order ip ifindex message = some mac := by
  obtain ⟨before, found, after, rfl, here, earlier⟩ := List.findSome?_eq_some_iff.mp answer
  obtain ⟨mac', value, same⟩ := Option.map_eq_some_iff.mp here
  cases same
  exact ⟨before, after, rfl, List.findSome?_eq_none_iff.mpr earlier, value⟩

theorem answerFrom_split {before after : List Buf} (none : answerFrom order ip ifindex before = none)
    (answer : answerOf order ip ifindex message = some mac) :
    answerFrom order ip ifindex (before ++ message :: after) = some (message, mac) := by
  rw [answerFrom] at none
  rw [answerFrom, List.findSome?_append, none, Option.none_or, List.findSome?_cons, answer]
  rfl

theorem arpLines_cons (line : List Char) (rest : List (List Char)) (ifname : List Char) :
    (∃ flags text, ArpEntry ip ifname line flags text ∧ arpFlags flags ≠ 0 ∧
        arpLines ip ifname (line :: rest) = (parseMac text).toOption) ∨
      (∀ flags text, ArpEntry ip ifname line flags text → arpFlags flags = 0) ∧
        arpLines ip ifname (line :: rest) = arpLines ip ifname rest := by
  rw [arpLines]
  split
  · rename_i address hwType flags text mask dev tail columns
    split_ifs with here
    · obtain ⟨rfl, rfl, set⟩ := here
      exact .inl ⟨flags, text, ⟨hwType, mask, tail, columns⟩, set, rfl⟩
    · refine .inr ⟨?_, rfl⟩
      rintro flags' text' ⟨hwType', mask', tail', columns'⟩
      rw [columns] at columns'
      cases columns'
      by_contra set
      exact here ⟨rfl, rfl, set⟩
  · rename_i other
    refine .inr ⟨?_, rfl⟩
    rintro flags text ⟨hwType, mask, tail, columns⟩
    exact absurd columns (other _ _ _ _ _ _ _)

theorem ArpEntry.unique {ifname line flags text flags' text' : List Char} (entry : ArpEntry ip ifname line flags text)
    (entry' : ArpEntry ip ifname line flags' text') : flags' = flags ∧ text' = text := by
  obtain ⟨hwType, mask, tail, columns⟩ := entry
  obtain ⟨hwType', mask', tail', columns'⟩ := entry'
  rw [columns] at columns'
  cases columns'
  exact ⟨rfl, rfl⟩

theorem arpLines_eq_some {ifname : List Char} {table : List (List Char)} :
    arpLines ip ifname table = some mac ↔
      ∃ before line after, table = before ++ line :: after ∧
        (∀ earlier ∈ before, ∀ flags text, ArpEntry ip ifname earlier flags text → arpFlags flags = 0) ∧
        ∃ flags text, ArpEntry ip ifname line flags text ∧ arpFlags flags ≠ 0 ∧ parseMac text = .ok mac := by
  induction table with
  | nil => simp [arpLines]
  | cons line rest ih =>
      rcases @arpLines_cons ip line rest ifname with ⟨flags, text, entry, set, first⟩ | ⟨unset, later⟩
      · have value : arpLines ip ifname (line :: rest) = some mac ↔ parseMac text = .ok mac := by
          rw [first]
          cases parseMac text <;> simp [Except.toOption]
        rw [value]
        constructor
        · intro read
          exact ⟨[], line, rest, rfl, nofun, flags, text, entry, set, read⟩
        · rintro ⟨before, found, after, split, skipped, flags', text', entry', -, read⟩
          cases before with
          | nil =>
              cases split
              obtain ⟨rfl, rfl⟩ := entry.unique entry'
              exact read
          | cons earlier before =>
              cases split
              exact absurd (skipped line List.mem_cons_self flags text entry) set
      · rw [later, ih]
        constructor
        · rintro ⟨before, found, after, rfl, skipped, taken⟩
          refine ⟨line :: before, found, after, rfl, ?_, taken⟩
          exact List.forall_mem_cons.mpr ⟨unset, skipped⟩
        · rintro ⟨before, found, after, split, skipped, flags, text, entry, set, read⟩
          cases before with
          | nil =>
              cases split
              exact absurd (unset flags text entry) set
          | cons earlier before =>
              cases split
              exact ⟨before, found, after, rfl, (List.forall_mem_cons.mp skipped).2, flags, text, entry, set, read⟩

end Entries

section Interface

variable (order : ByteOrder) (host : Host) (ip : Vector UInt8 4) (ifname : List Char)

inductive Stated (mac : Mac) : Prop
  | message {ifindex : UInt32} {message : Buf} (known : getIfindex host ifname = some ifindex)
      (member : message ∈ replyMessages order host.dump ∨ message ∈ replyMessages order host.fullDump)
      (states : StatesNeighbour order message ifindex ip mac)
  | line {content line : List Char} (file : host.procNetArp = some content) (member : line ∈ (lines content).drop 1)
      (states : StatesArp line ifname ip mac)

structure InterfaceSpecific : Prop where
  returns : ∃ found, lookupArpCache order host ip ifname = .ok found
  stated : ∀ mac, lookupArpCache order host ip ifname = .ok (some mac) → Stated order host ip ifname mac
  own : ∀ message mac ifindex, lookupNetlink order host ip ifname = .ok (some (message, mac)) →
    getIfindex host ifname = some ifindex → ne32At order message 20 = ifindex

def OwnFirst : Prop :=
  ∀ ifindex, getIfindex host ifname = some ifindex →
    (∀ message ∈ replyMessages order host.dump, ∀ mac, ¬StatesNeighbour order message ifindex ip mac) →
    ∀ before message after, replyMessages order host.fullDump = before ++ message :: after →
      (∀ earlier ∈ before, ∀ index mac, ¬StatesNeighbour order earlier index ip mac) →
      ∀ index mac, StatesNeighbour order message index ip mac → index = ifindex

def Unanswered : Prop :=
  ∀ ifindex, getIfindex host ifname = some ifindex →
    (∀ message ∈ replyMessages order host.dump, ∀ mac, ¬StatesNeighbour order message ifindex ip mac) ∧
      ∀ message ∈ replyMessages order host.fullDump, ∀ index mac, ¬StatesNeighbour order message index ip mac

def ResolvedFirst : Prop :=
  ∀ content, host.procNetArp = some content → ∀ before line after, (lines content).drop 1 = before ++ line :: after →
    (∀ earlier ∈ before, ∀ flags text, ArpEntry ip ifname earlier flags text → arpFlags flags = 0) →
    ∀ flags text mac, ArpEntry ip ifname line flags text → arpFlags flags ≠ 0 → parseMac text = .ok mac →
      ∃ other ∈ (lines content).drop 1, StatesArp other ifname ip mac

variable {order host ip ifname}

theorem getIfindex_ne_zero {ifindex : UInt32} (known : getIfindex host ifname = some ifindex) : ifindex ≠ 0 := by
  unfold getIfindex at known
  split_ifs at known with _ found
  cases known
  exact found

theorem lookupNetlink_unknown (unknown : getIfindex host ifname = none) : lookupNetlink order host ip ifname = .ok none := by
  rw [lookupNetlink, unknown]
  rfl

theorem lookupNetlink_known {ifindex : UInt32} (known : getIfindex host ifname = some ifindex) :
    lookupNetlink order host ip ifname = .ok ((answerFrom order ip ifindex (replyMessages order host.dump)).or
      (answerFrom order ip 0 (replyMessages order host.fullDump))) := by
  rw [lookupNetlink, known]
  dsimp only
  rw [nlGetNeighV4_eq, nlGetNeighV4_eq, bind_ok]
  cases answerFrom order ip ifindex (replyMessages order host.dump) <;> rfl

theorem lookupArpCache_of_some {message : Buf} {mac : Mac}
    (answer : lookupNetlink order host ip ifname = .ok (some (message, mac))) :
    lookupArpCache order host ip ifname = .ok (some mac) := by
  rw [lookupArpCache, answer]
  rfl

theorem lookupArpCache_of_none (none : lookupNetlink order host ip ifname = .ok none) :
    lookupArpCache order host ip ifname =
      .ok (host.procNetArp.bind fun content => arpLines ip ifname ((lines content).drop 1)) := by
  rw [lookupArpCache, none]
  rfl

theorem lookupNetlink_total : ∃ answer, lookupNetlink order host ip ifname = .ok answer := by
  cases known : getIfindex host ifname with
  | none => exact ⟨_, lookupNetlink_unknown known⟩
  | some ifindex => exact ⟨_, lookupNetlink_known known⟩

theorem lookupNetlink_eq_none : lookupNetlink order host ip ifname = .ok none ↔ Unanswered order host ip ifname := by
  cases known : getIfindex host ifname with
  | none => simp [lookupNetlink_unknown known, Unanswered, known]
  | some ifindex =>
      simp [lookupNetlink_known known, Unanswered, known, answerFrom_own_eq_none (getIfindex_ne_zero known),
        answerFrom_any_eq_none]

theorem own_answer (first : OwnFirst order host ip ifname) {ifindex : UInt32} (known : getIfindex host ifname = some ifindex)
    {message : Buf} {mac : Mac} (answer : lookupNetlink order host ip ifname = .ok (some (message, mac))) :
    (message ∈ replyMessages order host.dump ∨ message ∈ replyMessages order host.fullDump) ∧
      StatesNeighbour order message ifindex ip mac := by
  rw [lookupNetlink_known known, Except.ok.injEq] at answer
  cases direct : answerFrom order ip ifindex (replyMessages order host.dump) with
  | some found =>
      rw [direct, Option.some_or] at answer
      cases answer
      obtain ⟨before, after, split, -, value⟩ := exists_of_answerFrom direct
      obtain ⟨states, interface⟩ := states_of_answerOf value
      have same := interface.resolve_left (getIfindex_ne_zero known)
      rw [same] at states
      exact ⟨.inl (split ▸ List.mem_append_right _ List.mem_cons_self), states⟩
  | none =>
      rw [direct, Option.none_or] at answer
      obtain ⟨before, after, split, earlier, value⟩ := exists_of_answerFrom answer
      obtain ⟨states, -⟩ := states_of_answerOf value
      have silent := (answerFrom_own_eq_none (getIfindex_ne_zero known)).mp direct
      have same := first ifindex known silent before message after split (answerFrom_any_eq_none.mp earlier) _ mac states
      rw [same] at states
      exact ⟨.inr (split ▸ List.mem_append_right _ List.mem_cons_self), states⟩

theorem ownFirst_of_specific (specific : InterfaceSpecific order host ip ifname) : OwnFirst order host ip ifname := by
  intro ifindex known silent before message after split alone index mac states
  have direct := (answerFrom_own_eq_none (getIfindex_ne_zero known)).mpr silent
  obtain ⟨mac', value⟩ := answerOf_of_states states (.inl rfl)
  have answer : lookupNetlink order host ip ifname = .ok (some (message, mac')) := by
    rw [lookupNetlink_known known, direct, Option.none_or, split, answerFrom_split (answerFrom_any_eq_none.mpr alone) value]
  exact states.interface.symm.trans (specific.own message mac' ifindex answer known)

theorem resolvedFirst_of_specific (specific : InterfaceSpecific order host ip ifname)
    (unanswered : Unanswered order host ip ifname) : ResolvedFirst host ip ifname := by
  intro content file before line after split skipped flags text mac entry set read
  have answer : lookupArpCache order host ip ifname = .ok (some mac) := by
    rw [lookupArpCache_of_none (lookupNetlink_eq_none.mpr unanswered), file, Option.bind_some,
      arpLines_eq_some.mpr ⟨before, line, after, split, skipped, flags, text, entry, set, read⟩]
  cases specific.stated mac answer with
  | message known member states =>
      obtain ⟨silent, alone⟩ := unanswered _ known
      rcases member with member | member
      · exact absurd states (silent _ member mac)
      · exact absurd states (alone _ member _ mac)
  | line file' member states =>
      rw [file] at file'
      cases file'
      exact ⟨_, member, states⟩

theorem specific_of_unanswered (searched : lookupNetlink order host ip ifname = .ok none) (resolved : ResolvedFirst host ip ifname) :
    InterfaceSpecific order host ip ifname := by
  have file := lookupArpCache_of_none searched
  refine ⟨⟨_, file⟩, fun mac found => ?_, fun message mac ifindex answer _ => ?_⟩
  · rw [file, Except.ok.injEq] at found
    obtain ⟨content, here, answer⟩ := Option.bind_eq_some_iff.mp found
    obtain ⟨before, line, after, split, skipped, flags, text, entry, set, read⟩ := arpLines_eq_some.mp answer
    obtain ⟨other, member, states⟩ := resolved content here before line after split skipped flags text mac entry set read
    exact .line here member states
  · rw [searched] at answer
    cases answer

theorem specific_of_answer (first : OwnFirst order host ip ifname) {message : Buf} {mac : Mac}
    (searched : lookupNetlink order host ip ifname = .ok (some (message, mac))) : InterfaceSpecific order host ip ifname := by
  have found := lookupArpCache_of_some searched
  cases known : getIfindex host ifname with
  | none =>
      rw [lookupNetlink_unknown known] at searched
      cases searched
  | some ifindex =>
      obtain ⟨member, states⟩ := own_answer first known searched
      refine ⟨⟨_, found⟩, fun mac' found' => ?_, fun message' mac' ifindex' answer known' => ?_⟩
      · rw [found] at found'
        cases found'
        exact .message known member states
      · rw [searched] at answer
        cases answer
        cases known.symm.trans known'
        exact states.interface

theorem interfaceSpecific_iff :
    InterfaceSpecific order host ip ifname ↔
      OwnFirst order host ip ifname ∧ (Unanswered order host ip ifname → ResolvedFirst host ip ifname) := by
  constructor
  · exact fun specific => ⟨ownFirst_of_specific specific, resolvedFirst_of_specific specific⟩
  · rintro ⟨first, resolved⟩
    obtain ⟨answer, searched⟩ := @lookupNetlink_total order host ip ifname
    cases answer with
    | none => exact specific_of_unanswered searched (resolved (lookupNetlink_eq_none.mp searched))
    | some answer => exact specific_of_answer first searched

end Interface

theorem messagesFrom_single {order : ByteOrder} {message : Buf} (long : 16 ≤ message.length)
    (size : (ne32At order message 0).toNat = message.length) : messagesFrom order message 0 = [message] := by
  have grows := le_align4 message.length
  have header : nlhSize = 16 := rfl
  rw [messagesFrom, dif_pos (by omega)]
  dsimp only
  rw [dif_neg (by omega), size, messagesFrom, dif_neg (by omega), slice, List.drop_zero, Nat.zero_add, Nat.sub_zero,
    List.take_length]

def foreignFront : Buf :=
  [48, 0, 0, 0, 28, 0, 0, 0, 0, 0, 0, 0, 0, 0, 0, 0] ++ [2, 0, 0, 0, 3, 0, 0, 0, 0x80, 0, 0, 1]

def foreignMessage : Buf := foreignFront ++ encodeAll .little sampleAttrs

def foreignHost : Host :=
  { ifNametoindex := fun _ => 2, dump := some [], fullDump := some [foreignMessage], procNetArp := none }

theorem foreignHost_answers : lookupArpCache .little foreignHost #v[10, 0, 0, 1] ['e', 't', 'h', '0'] =
      .ok (some #v[2, 0, 0, 0, 0, 1]) ∧
    ¬Stated .little foreignHost #v[10, 0, 0, 1] ['e', 't', 'h', '0'] #v[2, 0, 0, 0, 0, 1] := by
  have attrs : attrsFrom .little foreignMessage 28 = sampleAttrs := attrsFrom_encodeAll foreignFront (by decide)
  have interface : ne32At .little foreignMessage 20 = 3 := by decide
  have single := @messagesFrom_single .little foreignMessage (by decide) (by decide)
  have full : replyMessages .little foreignHost.fullDump = [foreignMessage] := by
    have whole : foreignMessage.take 8192 = foreignMessage := List.take_of_length_le (by decide)
    change dumpMessages .little [foreignMessage] = _
    rw [dumpMessages, whole, single, if_neg (by decide)]
    dsimp only
    rw [if_neg (by decide)]
    rfl
  have value : answerOf .little #v[10, 0, 0, 1] 0 foreignMessage = some #v[2, 0, 0, 0, 0, 1] := by
    rw [answerOf, attrs]
    decide
  have known : getIfindex foreignHost ['e', 't', 'h', '0'] = some 2 := by decide
  have answer : lookupNetlink .little foreignHost #v[10, 0, 0, 1] ['e', 't', 'h', '0'] =
      .ok (some (foreignMessage, #v[2, 0, 0, 0, 0, 1])) := by
    rw [lookupNetlink_known known, full]
    exact congrArg Except.ok (@answerFrom_split .little _ 0 _ _ [] [] rfl value)
  refine ⟨lookupArpCache_of_some answer, ?_⟩
  intro stated
  cases stated with
  | @message ifindex message here member states =>
      have same : message = foreignMessage := by
        rw [full] at member
        exact member.elim nofun List.mem_singleton.mp
      cases known.symm.trans here
      have index := states.interface
      rw [same, interface] at index
      exact absurd index (by decide)
  | line file => cases file

-- a published entry: its flags are not zero, but they do not say that an address is known
def proxyLine : List Char := "10.0.0.1 0x1 0xc 00:00:00:00:00:00 * eth0".toList

def proxyHost : Host :=
  { ifNametoindex := fun _ => 2, dump := some [], fullDump := some [], procNetArp := some ('\n' :: proxyLine) }

theorem proxyHost_answers : lookupArpCache .little proxyHost #v[10, 0, 0, 1] ['e', 't', 'h', '0'] =
      .ok (some #v[0, 0, 0, 0, 0, 0]) ∧
    ¬Stated .little proxyHost #v[10, 0, 0, 1] ['e', 't', 'h', '0'] #v[0, 0, 0, 0, 0, 0] := by
  have table : (lines ('\n' :: proxyLine)).drop 1 = [proxyLine] := by decide
  have columns : splitWhitespace proxyLine = ["10.0.0.1".toList, "0x1".toList, "0xc".toList, "00:00:00:00:00:00".toList,
      "*".toList, "eth0".toList] := by decide
  refine ⟨by decide, ?_⟩
  intro stated
  cases stated with
  | message known member states => rcases member with member | member <;> cases member
  | line file member states =>
      cases file
      rw [table, List.mem_singleton] at member
      subst member
      obtain ⟨flags, text, n, ⟨hwType, mask, rest, entry⟩, value, known, -⟩ := states
      rw [columns] at entry
      cases entry
      have twelve : hexNumber 4294967295 (without0x "0xc".toList) = some 12 := by decide
      rw [twelve] at value
      cases value
      exact absurd known (by decide)

theorem foreign_answer :
    (lookupArpCache .little foreignHost #v[10, 0, 0, 1] ['e', 't', 'h', '0'] = .ok (some #v[2, 0, 0, 0, 0, 1]) ∧
      ¬Stated .little foreignHost #v[10, 0, 0, 1] ['e', 't', 'h', '0'] #v[2, 0, 0, 0, 0, 1]) ∧
    lookupArpCache .little proxyHost #v[10, 0, 0, 1] ['e', 't', 'h', '0'] = .ok (some #v[0, 0, 0, 0, 0, 0]) ∧
      ¬Stated .little proxyHost #v[10, 0, 0, 1] ['e', 't', 'h', '0'] #v[0, 0, 0, 0, 0, 0] :=
  ⟨foreignHost_answers, proxyHost_answers⟩

end Gutd.Netlink
