import Gutd.Shared.BlockWords
import Gutd.Userspace.Egress
import Mathlib.Data.List.Induction

set_option autoImplicit false

-- `SharedAddr` of `userspace.rs` compares folded forms first and leaves its fields alone when these agree.

namespace Gutd.Userspace

open Bytes Net

structure SharedAddr where
  family : UInt32
  ip : Vector UInt32 4
  port : UInt32
  deriving DecidableEq

namespace SharedAddr

theorem size_unset : #[(0 : UInt32), 0, 0, 0].size = 4 := rfl

def new : SharedAddr := { family := 0, ip := ⟨#[0, 0, 0, 0], size_unset⟩, port := 0 }

def wordOf (high low : UInt16) : UInt32 := high.toUInt32 <<< 16 ||| low.toUInt32

def store (addr : SocketAddr) : SharedAddr :=
  match addr.ip with
  | .v4 o => { family := 4, ip := #v[le32 (o.get 3) (o.get 2) (o.get 1) (o.get 0), 0, 0, 0], port := addr.port.toUInt32 }
  | .v6 s =>
      { family := 6, ip := #v[wordOf (s.get 0) (s.get 1), wordOf (s.get 2) (s.get 3), wordOf (s.get 4) (s.get 5), wordOf (s.get 6) (s.get 7)]
        port := addr.port.toUInt32 }

def load (s : SharedAddr) : Option SocketAddr :=
  let octet := fun (w : UInt32) (i : Nat) => byteAt (toBeBytes w) i
  let segments := fun (w : UInt32) => ((w >>> 16).toUInt16, w.toUInt16)
  if s.family = 0 then none
  else if s.family = 4 then
    let w := s.ip.get 0
    some { ip := .v4 #v[octet w 0, octet w 1, octet w 2, octet w 3], port := s.port.toUInt16 }
  else
    let (s0, s1) := segments (s.ip.get 0)
    let (s2, s3) := segments (s.ip.get 1)
    let (s4, s5) := segments (s.ip.get 2)
    let (s6, s7) := segments (s.ip.get 3)
    some { ip := .v6 #v[s0, s1, s2, s3, s4, s5, s6, s7], port := s.port.toUInt16 }

def loadRaw (s : SharedAddr) : UInt64 :=
  ((((s.ip.get 0).toUInt64 ^^^ (s.ip.get 2).toUInt64) <<< 32) ||| ((s.ip.get 1).toUInt64 ^^^ (s.ip.get 3).toUInt64)) ^^^ s.port.toUInt64

def track (s : SharedAddr) (src : SocketAddr) : SharedAddr :=
  if s.loadRaw ≠ addrFingerprint src then store src else s

theorem toNat_wordOf (high low : UInt16) : (wordOf high low).toNat = high.toNat * 2 ^ 16 + low.toNat := by
  have hh := high.toNat_lt
  have hl := low.toNat_lt
  have shifted : (high.toUInt32 <<< 16).toNat = high.toNat <<< 16 := by
    have amount : (16 : UInt32).toNat % 32 = 16 := rfl
    rw [UInt32.toNat_shiftLeft, UInt16.toNat_toUInt32, amount, Nat.shiftLeft_eq]
    omega
  rw [wordOf, UInt32.toNat_or, shifted, UInt16.toNat_toUInt32, ← Nat.shiftLeft_add_eq_or_of_lt (by omega), Nat.shiftLeft_eq]

theorem segments_wordOf (high low : UInt16) :
    (wordOf high low >>> 16).toUInt16 = high ∧ (wordOf high low).toUInt16 = low := by
  have hh := high.toNat_lt
  have hl := low.toNat_lt
  have value := toNat_wordOf high low
  constructor <;> apply UInt16.toNat_inj.mp
  · have amount : (16 : UInt32).toNat % 32 = 16 := rfl
    rw [UInt32.toNat_toUInt16, UInt32.toNat_shiftRight, value, amount, Nat.shiftRight_eq_div_pow]
    omega
  · rw [UInt32.toNat_toUInt16, value]
    omega

theorem load_store (addr : SocketAddr) : (store addr).load = some addr := by
  obtain ⟨ip, port⟩ := addr
  have back : port.toUInt32.toUInt16 = port := by
    apply UInt16.toNat_inj.mp
    rw [UInt32.toNat_toUInt16, UInt16.toNat_toUInt32]
    exact Nat.mod_eq_of_lt port.toNat_lt
  cases ip with
  | v4 o =>
      unfold store load
      dsimp only
      rw [if_neg (by decide), if_pos rfl]
      simp only [vector4_get, toBeBytes_le32, back]
      exact congrArg (fun o => some (SocketAddr.mk (.v4 o) port)) (vector4_eta o).symm
  | v6 s =>
      have segments : #v[s.get 0, s.get 1, s.get 2, s.get 3, s.get 4, s.get 5, s.get 6, s.get 7] = s := by
        ext i inside
        obtain rfl | rfl | rfl | rfl | rfl | rfl | rfl | rfl :
            i = 0 ∨ i = 1 ∨ i = 2 ∨ i = 3 ∨ i = 4 ∨ i = 5 ∨ i = 6 ∨ i = 7 := by omega
        all_goals rfl
      unfold store load
      dsimp only
      rw [if_neg (by decide), if_neg (by decide)]
      simp only [vector4_get, segments_wordOf, back]
      exact congrArg (fun s => some (SocketAddr.mk (.v6 s) port)) segments

theorem loadRaw_store (addr : SocketAddr) : (store addr).loadRaw = addrFingerprint addr := by
  obtain ⟨ip, port⟩ := addr
  have wide : port.toUInt32.toUInt64 = port.toUInt64 := by
    apply UInt64.toNat_inj.mp
    simp
  cases ip with
  | v4 o =>
      unfold store loadRaw addrFingerprint
      simp only [vector4_get]
      simp [wide]
  | v6 s =>
      unfold store loadRaw addrFingerprint
      simp only [vector4_get, wide]
      rfl

theorem loadRaw_new : new.loadRaw = 0 := by
  decide

structure Holds (s : SharedAddr) (stored : Option SocketAddr) : Prop where
  addr : s.load = stored
  folded : s.loadRaw = Userspace.loadRaw stored

theorem holds_store (addr : SocketAddr) : Holds (store addr) (some addr) := ⟨load_store addr, loadRaw_store addr⟩

theorem Holds.track {s : SharedAddr} {shared : Shared} (holds : Holds s shared.wgPeer) {rt : Runtime}
    (client : rt.isServer = false) (src : SocketAddr) : Holds (s.track src) (trackWgPeer rt src shared).wgPeer := by
  unfold SharedAddr.track trackWgPeer
  rw [holds.folded, client]
  by_cases changed : Userspace.loadRaw shared.wgPeer ≠ addrFingerprint src
  · rw [if_pos changed, if_pos ⟨rfl, changed⟩]
    exact holds_store src
  · rw [if_neg changed, if_neg fun both => changed both.2]
    exact holds

def run (seen : List SocketAddr) : SharedAddr := seen.foldl track new

theorem run_append (seen : List SocketAddr) (src : SocketAddr) : run (seen ++ [src]) = (run seen).track src := by
  rw [run, List.foldl_append]
  rfl

def lastFolded (seen : List SocketAddr) : UInt64 := (seen.getLast?.map addrFingerprint).getD 0

theorem lastFolded_append (seen : List SocketAddr) (src : SocketAddr) : lastFolded (seen ++ [src]) = addrFingerprint src := by
  simp [lastFolded]

-- stored or not, the folded form is that of the last packet
theorem loadRaw_run (seen : List SocketAddr) : (run seen).loadRaw = lastFolded seen := by
  induction seen using List.reverseRecOn with
  | nil => exact loadRaw_new
  | append_singleton seen src ih =>
      rw [run_append, lastFolded_append, track]
      split_ifs with changed
      · exact loadRaw_store src
      · exact not_not.mp changed

def Entered (seen : List SocketAddr) (addr : SocketAddr) : Prop :=
  ∃ before since, seen = before ++ addr :: since ∧ lastFolded before ≠ addrFingerprint addr ∧
    ∀ other ∈ since, addrFingerprint other = addrFingerprint addr

theorem Entered.folded {seen : List SocketAddr} {addr : SocketAddr} (entered : Entered seen addr) :
    lastFolded seen = addrFingerprint addr := by
  obtain ⟨before, since, rfl, -, alike⟩ := entered
  induction since using List.reverseRecOn with
  | nil => exact lastFolded_append before addr
  | append_singleton since other _ =>
      rw [← List.cons_append, ← List.append_assoc, lastFolded_append]
      exact alike other (by simp)

theorem entered_append_iff {seen : List SocketAddr} {addr src : SocketAddr} :
    Entered (seen ++ [src]) addr ↔
      lastFolded seen ≠ addrFingerprint src ∧ addr = src ∨ Entered seen addr ∧ addrFingerprint src = addrFingerprint addr := by
  constructor
  · rintro ⟨before, since, split, changed, alike⟩
    cases since using List.reverseRecOn with
    | nil =>
        obtain ⟨rfl, last⟩ := List.append_inj' split rfl
        cases last
        exact .inl ⟨changed, rfl⟩
    | append_singleton since last _ =>
        rw [← List.cons_append, ← List.append_assoc] at split
        obtain ⟨rfl, same⟩ := List.append_inj' split rfl
        cases same
        have earlier : Entered (before ++ addr :: since) addr :=
          ⟨before, since, rfl, changed, fun other member => alike other (List.mem_append_left _ member)⟩
        exact .inr ⟨earlier, alike src (by simp)⟩
  · rintro (⟨changed, rfl⟩ | ⟨⟨before, since, rfl, changed, alike⟩, same⟩)
    · exact ⟨seen, [], rfl, changed, nofun⟩
    · refine ⟨before, since ++ [src], by simp, changed, fun other member => ?_⟩
      rcases List.mem_append.mp member with earlier | last
      · exact alike other earlier
      · rw [List.mem_singleton.mp last, same]

theorem load_run (seen : List SocketAddr) (addr : SocketAddr) : (run seen).load = some addr ↔ Entered seen addr := by
  induction seen using List.reverseRecOn with
  | nil =>
      refine iff_of_false nofun ?_
      rintro ⟨before, since, split, -⟩
      simp at split
  | append_singleton seen src ih =>
      rw [run_append, track, loadRaw_run, entered_append_iff]
      split_ifs with changed
      · rw [load_store, Option.some_inj]
        constructor
        · intro same
          exact .inl ⟨changed, same.symm⟩
        · rintro (⟨-, same⟩ | ⟨entered, same⟩)
          · exact same.symm
          · exact absurd (entered.folded.trans same.symm) changed
      · rw [ih]
        have unchanged := not_not.mp changed
        constructor
        · intro entered
          exact .inr ⟨entered, unchanged.symm.trans entered.folded⟩
        · rintro (⟨other, -⟩ | ⟨entered, -⟩)
          · exact absurd unchanged other
          · exact entered

theorem run_load_last_iff (seen : List SocketAddr) (last : SocketAddr) :
    (run (seen ++ [last])).load = some last ↔
      ∃ before since, seen ++ [last] = before ++ last :: since ∧ lastFolded before ≠ addrFingerprint last ∧
        ∀ other ∈ since, addrFingerprint other = addrFingerprint last :=
  load_run (seen ++ [last]) last

-- two addresses that fold to the same word: the second is never stored
theorem run_keeps_first :
    (run [⟨.v6 #v[0, 0, 0, 0, 0, 0, 0, 2], 3⟩, ⟨.v6 #v[0, 0, 0, 0, 0, 0, 0, 3], 2⟩]).load =
      some ⟨.v6 #v[0, 0, 0, 0, 0, 0, 0, 2], 3⟩ := by
  decide

end SharedAddr

end Gutd.Userspace
