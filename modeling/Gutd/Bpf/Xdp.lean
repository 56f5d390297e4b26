import Gutd.Bpf.Maps
import Gutd.Shared.Checked

set_option autoImplicit false

-- A program that gives up returns at once and leaves behind what it has changed so far, so its early exits carry the
-- state.

namespace Gutd.Bpf

open Bytes Checked

inductive XdpAction where
  | drop
  | pass
  | tx
  | redirect
  deriving DecidableEq, Repr

structure Xdp where
  frame : Buf
  -- bytes by which the buffer can grow behind the frame
  tailroom : Nat
  -- the scratch bytes from `SIP_SCAN_OFF` on, the only ones read before this run writes them
  scan : Buf
  clientMap : UInt32 → Option PeerEndpoint
  sessionMap : UInt32 → Option UInt32
  stats : GutStats

-- a stage of a program; an error is the state left behind by `return`
abbrev Run := Except Xdp

namespace Xdp

def adjustHead (x : Xdp) (delta : Nat) : Option Xdp :=
  if delta + 14 > x.frame.length then none else some { x with frame := x.frame.drop delta }

-- `bpf_xdp_adjust_tail`: a frame that grows is filled with zeros
def adjustTail (x : Xdp) (delta : Int) : Option Xdp :=
  let len := x.frame.length + delta
  if delta > x.tailroom ∨ len < 14 then none
  else some { x with
    frame := x.frame.take len.toNat ++ List.replicate (len.toNat - x.frame.length) 0
    tailroom := (x.tailroom - delta).toNat }

def dropped (x : Xdp) : Xdp := { x with stats.packetsDropped := x.stats.packetsDropped + 1 }

end Xdp

-- `bpf_loop`: the callback stops the loop by returning `true`
def bpfLoopFrom {σ : Type} (callback : Nat → σ → σ × Bool) : Nat → Nat → σ → σ
  | 0, _, ctx => ctx
  | n + 1, idx, ctx =>
      let (ctx, stop) := callback idx ctx
      if stop then ctx else bpfLoopFrom callback n (idx + 1) ctx

def bpfLoop {σ : Type} (n : Nat) (callback : Nat → σ → σ × Bool) (ctx : σ) : σ := bpfLoopFrom callback n 0 ctx

section Lemmas

variable {x : Xdp}

theorem adjustHead_ok {delta : Nat} (inside : delta + 14 ≤ x.frame.length) :
    x.adjustHead delta = some { x with frame := x.frame.drop delta } := by
  rw [Xdp.adjustHead, if_neg (by omega)]

theorem adjustTail_trim {n : Nat} (inside : n + 14 ≤ x.frame.length) :
    x.adjustTail (-n) = some { x with frame := x.frame.take (x.frame.length - n), tailroom := x.tailroom + n } := by
  have len : (x.frame.length + -(n : Int)).toNat = x.frame.length - n := by omega
  have room : ((x.tailroom : Int) - -(n : Int)).toNat = x.tailroom + n := by omega
  have none : x.frame.length - n - x.frame.length = 0 := by omega
  simp only [Xdp.adjustTail, len, room, none, List.replicate_zero, List.append_nil]
  rw [if_neg (by omega)]

end Lemmas

section Loop

variable {σ : Type} {callback : Nat → σ → σ × Bool} {ctx ctx' : σ}

theorem bpfLoopFrom_stops (n idx k : Nat) (before : ∀ i, i < k → callback (idx + i) ctx = (ctx, false))
    (here : callback (idx + k) ctx = (ctx', true)) (inside : k < n) : bpfLoopFrom callback n idx ctx = ctx' := by
  induction n generalizing idx k with
  | zero => omega
  | succ n ih =>
      unfold bpfLoopFrom
      cases k with
      | zero =>
          rw [Nat.add_zero] at here
          rw [here]
          rfl
      | succ k =>
          have first := before 0 (by omega)
          rw [Nat.add_zero] at first
          rw [first]
          refine ih (idx + 1) k (fun i bounded => ?_) ?_ (by omega)
          · rw [Nat.add_assoc, Nat.add_comm 1]
            exact before (i + 1) (by omega)
          · rw [Nat.add_assoc, Nat.add_comm 1]
            exact here

theorem bpfLoop_stops {n k : Nat} (before : ∀ i, i < k → callback i ctx = (ctx, false))
    (here : callback k ctx = (ctx', true)) (inside : k < n) : bpfLoop n callback ctx = ctx' :=
  bpfLoopFrom_stops n 0 k (by simpa using before) (by simpa using here) inside

theorem bpfLoopFrom_invariant {P : σ → Prop} (step : ∀ i ctx, P ctx → P (callback i ctx).1) (n idx : Nat) {ctx : σ}
    (start : P ctx) : P (bpfLoopFrom callback n idx ctx) := by
  induction n generalizing idx ctx with
  | zero => exact start
  | succ n ih =>
      have next := step idx ctx start
      unfold bpfLoopFrom
      rcases h : callback idx ctx with ⟨ctx', stop⟩
      rw [h] at next
      cases stop with
      | true => exact next
      | false => exact ih (idx + 1) next

theorem bpfLoop_invariant {P : σ → Prop} (step : ∀ i ctx, P ctx → P (callback i ctx).1) (n : Nat) (start : P ctx) :
    P (bpfLoop n callback ctx) :=
  bpfLoopFrom_invariant step n 0 start

end Loop

end Gutd.Bpf
