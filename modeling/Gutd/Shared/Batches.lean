import Mathlib.Data.List.Basic
import Mathlib.Data.List.TakeDrop

set_option autoImplicit false

namespace Batches

variable {δ : Type}

inductive Event (δ : Type) where
  | fetched (batch : List δ)
  | taken (item : δ)
  | failed

def Event.batch? : Event δ → Option (List δ)
  | .fetched batch => some batch
  | .taken _ => none
  | .failed => none

def Event.result? : Event δ → Option (Option δ)
  | .fetched _ => none
  | .taken item => some (some item)
  | .failed => some none

-- What `calls` reads show. A fetch that nothing answers waits for ever.
def reads : List (List δ) → List δ → Nat → List (Event δ)
  | _, _, 0 => []
  | batches, item :: kept, calls + 1 => .taken item :: reads batches kept calls
  | [], [], _ + 1 => []
  | [] :: batches, [], calls + 1 => .fetched [] :: .failed :: reads batches [] calls
  | (item :: rest) :: batches, [], calls + 1 => .fetched (item :: rest) :: .taken item :: reads batches rest calls

theorem batches_reads (batches : List (List δ)) (kept : List δ) (calls : Nat) :
    (reads batches kept calls).filterMap Event.batch? <+: batches := by
  induction calls generalizing batches kept with
  | zero => simp [reads]
  | succ calls ih =>
      cases kept with
      | cons item kept => simpa [reads, Event.batch?, List.filterMap_cons] using ih batches kept
      | nil =>
          match batches with
          | [] => simp [reads]
          | [] :: batches => simpa [reads, Event.batch?, List.filterMap_cons] using ih batches []
          | (item :: rest) :: batches => simpa [reads, Event.batch?, List.filterMap_cons] using ih batches rest

section Full

variable {batches : List (List δ)} {kept : List δ} {calls : Nat}

theorem results_reads (full : ∀ batch ∈ batches, batch ≠ []) :
    (reads batches kept calls).filterMap Event.result? = ((kept ++ batches.flatten).take calls).map some := by
  induction calls generalizing batches kept with
  | zero => simp [reads]
  | succ calls ih =>
      cases kept with
      | cons item kept => simp [reads, Event.result?, ih full]
      | nil =>
          cases batches with
          | nil => simp [reads]
          | cons batch batches =>
              obtain ⟨here, later⟩ := List.forall_mem_cons.mp full
              cases batch with
              | nil => exact absurd rfl here
              | cons item rest => simp [reads, Event.result?, List.filterMap_cons, ih later]

theorem reads_drained (full : ∀ batch ∈ batches, batch ≠ []) {before after : List (Event δ)} {batch : List δ}
    (split : reads batches kept calls = before ++ .fetched batch :: after) :
    before.filterMap Event.result? = (kept ++ (before.filterMap Event.batch?).flatten).map some := by
  induction calls generalizing batches kept before with
  | zero => simp [reads] at split
  | succ calls ih =>
      cases kept with
      | cons item kept =>
          cases before with
          | nil => cases split
          | cons first before =>
              rw [reads, List.cons_append, List.cons.injEq] at split
              obtain ⟨rfl, later⟩ := split
              simpa [Event.result?, Event.batch?, List.filterMap_cons] using ih full later
      | nil =>
          match batches, before with
          | [], before => simp [reads] at split
          | _ :: _, [] => rfl
          | [] :: batches, _ :: _ => exact absurd rfl (full [] List.mem_cons_self)
          | (item :: rest) :: batches, [first] => simp [reads] at split
          | (item :: rest) :: batches, first :: second :: before =>
              simp only [reads, List.cons_append, List.cons.injEq] at split
              obtain ⟨rfl, rfl, later⟩ := split
              simpa [Event.result?, Event.batch?, List.filterMap_cons] using ih (List.forall_mem_cons.mp full).2 later

end Full

end Batches
