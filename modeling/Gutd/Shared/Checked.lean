import Gutd.Shared.Words

set_option autoImplicit false

namespace Checked

open Bytes

inductive Panic where
  | outOfBounds
  | lengthMismatch
  | assertFailed
  deriving DecidableEq, Repr

abbrev Result := Except Panic

def getByte (buf : Buf) (i : Nat) : Result UInt8 :=
  if i < buf.length then pure (byteAt buf i) else throw .outOfBounds

def entryAt {α : Type} (entries : List α) (i : Nat) : Result α :=
  match entries[i]? with
  | some entry => pure entry
  | none => throw .outOfBounds

def setEntry {α : Type} (entries : List α) (i : Nat) (entry : α) : Result (List α) :=
  if i < entries.length then pure (entries.set i entry) else throw .outOfBounds

def subslice (buf : Buf) (a b : Nat) : Result Buf :=
  if a ≤ b ∧ b ≤ buf.length then pure (slice buf a b) else throw .outOfBounds

def setByte (buf : Buf) (i : Nat) (value : UInt8) : Result Buf :=
  if i < buf.length then pure (overwrite buf i [value]) else throw .outOfBounds

def copyFromSlice (buf : Buf) (a b : Nat) (new : Buf) : Result Buf :=
  if a ≤ b ∧ b ≤ buf.length then
    if new.length = b - a then pure (overwrite buf a new) else throw .lengthMismatch
  else throw .outOfBounds

def copyWithin (buf : Buf) (a b dst : Nat) : Result Buf :=
  if a ≤ b ∧ b ≤ buf.length ∧ dst + (b - a) ≤ buf.length then pure (overwrite buf dst (slice buf a b))
  else throw .outOfBounds

def readLe32 (buf : Buf) (off : Nat) : Result UInt32 := do
  let word ← subslice buf off (off + 4)
  pure (le32At word 0)

def readBe32 (buf : Buf) (off : Nat) : Result UInt32 := do
  let word ← subslice buf off (off + 4)
  pure (be32At word 0)

def fillBytes (buf : Buf) (off : Nat) (f : Nat → UInt8) : Nat → Result Buf
  | 0 => pure buf
  | n + 1 => do
      let buf ← fillBytes buf off f n
      setByte buf (off + n) (f n)

def rejectIf {ε : Type} (e : ε) (bad : Prop) [Decidable bad] : Except ε Unit := if bad then throw e else pure ()

def orReject {ε α : Type} (e : ε) : Option α → Except ε α
  | some a => pure a
  | none => throw e

section Except

variable {ε α β : Type}

@[simp] theorem bind_ok (a : α) (f : α → Except ε β) : ((Except.ok a : Except ε α) >>= f) = f a := rfl

@[simp] theorem bind_error (e : ε) (f : α → Except ε β) : ((Except.error e : Except ε α) >>= f) = .error e := rfl

@[simp] theorem pure_eq_ok (a : α) : (pure a : Except ε α) = .ok a := rfl

@[simp] theorem throw_eq_error (e : ε) : (throw e : Except ε α) = .error e := rfl

theorem bind_eq_ok {x : Except ε α} {f : α → Except ε β} {b : β} :
    x >>= f = .ok b ↔ ∃ a, x = .ok a ∧ f a = .ok b := by
  cases x <;> simp

theorem bind_eq_error {x : Except ε α} {f : α → Except ε β} {e : ε} :
    x >>= f = .error e ↔ x = .error e ∨ ∃ a, x = .ok a ∧ f a = .error e := by
  cases x <;> simp

theorem mapM_eq_ok {f : α → Except ε β} {l : List α} {ys : List β} :
    l.mapM f = .ok ys ↔ List.Forall₂ (fun x y => f x = .ok y) l ys := by
  induction l generalizing ys with
  | nil =>
      constructor
      · rintro ⟨⟩
        exact .nil
      · rintro ⟨⟩
        rfl
  | cons x l ih =>
      rw [List.mapM_cons]
      simp only [bind_eq_ok, pure_eq_ok, Except.ok.injEq]
      constructor
      · rintro ⟨y, first, rest, later, rfl⟩
        exact .cons first (ih.mp later)
      · rintro (_ | ⟨first, later⟩)
        exact ⟨_, first, _, ih.mpr later, rfl⟩

theorem mapM_eq_error {f : α → Except ε β} {l : List α} {e : ε} :
    l.mapM f = .error e ↔
      ∃ before x after, l = before ++ x :: after ∧ (∀ y ∈ before, ∃ z, f y = .ok z) ∧ f x = .error e := by
  induction l with
  | nil => simp
  | cons x l ih =>
      rw [List.mapM_cons, bind_eq_error]
      simp only [bind_eq_error, pure_eq_ok, reduceCtorEq, and_false, exists_false, or_false]
      constructor
      · rintro (here | ⟨y, first, later⟩)
        · exact ⟨[], x, l, rfl, nofun, here⟩
        · obtain ⟨before, x', after, rfl, fine, failed⟩ := ih.mp later
          exact ⟨x :: before, x', after, rfl, List.forall_mem_cons.mpr ⟨⟨y, first⟩, fine⟩, failed⟩
      · rintro ⟨before, x', after, split, fine, failed⟩
        cases before with
        | nil =>
            cases split
            exact .inl failed
        | cons y before =>
            cases split
            obtain ⟨⟨z, first⟩, fine⟩ := List.forall_mem_cons.mp fine
            exact .inr ⟨z, first, ih.mpr ⟨before, x', after, rfl, fine, failed⟩⟩

theorem mapM_range_eq_error {f : Nat → Except ε β} {n : Nat} {e : ε} :
    (List.range n).mapM f = .error e ↔ ∃ i < n, (∀ j < i, ∃ z, f j = .ok z) ∧ f i = .error e := by
  rw [mapM_eq_error]
  constructor
  · rintro ⟨before, i, after, split, fine, failed⟩
    have width := congrArg List.length split
    have here := congrArg (·[before.length]?) split
    have front := congrArg (List.take before.length) split
    simp only [List.length_range, List.length_append, List.length_cons] at width
    simp only [List.getElem?_append_right (Nat.le_refl _), Nat.sub_self, List.getElem?_cons_zero] at here
    rw [List.getElem?_range (by omega)] at here
    cases here
    rw [List.take_left, List.take_range, Nat.min_eq_left (by omega)] at front
    refine ⟨before.length, by omega, fun j earlier => fine j ?_, failed⟩
    rw [← front]
    exact List.mem_range.mpr earlier
  · rintro ⟨i, inside, fine, failed⟩
    refine ⟨List.range i, i, (List.range n).drop (i + 1), ?_, fun j member => fine j (List.mem_range.mp member), failed⟩
    have split := (List.take_append_drop i (List.range n)).symm
    rwa [List.take_range, Nat.min_eq_left (by omega), List.drop_eq_getElem_cons (by simpa using inside), List.getElem_range]
      at split

variable {e e' : ε} {bad : Prop} [Decidable bad]

theorem rejectIf_ok (fine : ¬bad) : rejectIf e bad = .ok () := by
  simp [rejectIf, fine]

theorem rejectIf_eq_ok {u : Unit} : rejectIf e bad = .ok u ↔ ¬bad := by
  by_cases c : bad <;> simp [rejectIf, c]

theorem rejectIf_eq_error : rejectIf e bad = .error e' ↔ bad ∧ e' = e := by
  by_cases c : bad <;> simp [rejectIf, c, eq_comm]

@[simp] theorem orReject_some (a : α) : orReject e (some a) = .ok a := rfl

theorem orReject_eq_ok {found : Option α} {a : α} : orReject e found = .ok a ↔ found = some a := by
  cases found <;> simp [orReject]

theorem orReject_eq_error {found : Option α} : orReject e found = .error e' ↔ found = none ∧ e' = e := by
  cases found <;> simp [orReject, eq_comm]

end Except

theorem getByte_ok {buf : Buf} {i : Nat} (inside : i < buf.length) : getByte buf i = .ok (byteAt buf i) := by
  simp [getByte, inside]

theorem entryAt_some {α : Type} {entries : List α} {i : Nat} {entry : α} (here : entries[i]? = some entry) :
    entryAt entries i = .ok entry := by
  simp [entryAt, here]

theorem setEntry_ok {α : Type} {entries : List α} {i : Nat} (entry : α) (inside : i < entries.length) :
    setEntry entries i entry = .ok (entries.set i entry) := by
  simp [setEntry, inside]

theorem subslice_ok {buf : Buf} {a b : Nat} (ordered : a ≤ b) (inside : b ≤ buf.length) :
    subslice buf a b = .ok (slice buf a b) := by
  simp [subslice, ordered, inside]

theorem setByte_ok {buf : Buf} {i : Nat} (value : UInt8) (inside : i < buf.length) :
    setByte buf i value = .ok (overwrite buf i [value]) := by
  simp [setByte, inside]

theorem copyFromSlice_ok {buf : Buf} {a b : Nat} {new : Buf} (length : a + new.length = b)
    (inside : b ≤ buf.length) : copyFromSlice buf a b new = .ok (overwrite buf a new) := by
  have ordered : a ≤ b := by omega
  have same : new.length = b - a := by omega
  simp [copyFromSlice, ordered, inside, same]

theorem copyWithin_ok {buf : Buf} {a b dst : Nat} (ordered : a ≤ b) (inside : b ≤ buf.length)
    (fits : dst + (b - a) ≤ buf.length) :
    copyWithin buf a b dst = .ok (overwrite buf dst (slice buf a b)) := by
  simp [copyWithin, ordered, inside, fits]

theorem readLe32_ok {buf : Buf} {off : Nat} (inside : off + 4 ≤ buf.length) :
    readLe32 buf off = .ok (le32At buf off) := by
  simp [readLe32, subslice_ok (Nat.le_add_right off 4) inside, le32At, byteAt_slice]

theorem readBe32_ok {buf : Buf} {off : Nat} (inside : off + 4 ≤ buf.length) :
    readBe32 buf off = .ok (be32At buf off) := by
  simp [readBe32, subslice_ok (Nat.le_add_right off 4) inside, be32At, byteAt_slice]

theorem fillBytes_ok (buf : Buf) (off : Nat) (f : Nat → UInt8) (n : Nat) (inside : off + n ≤ buf.length) :
    fillBytes buf off f n = .ok (overwrite buf off ((List.range n).map f)) := by
  induction n with
  | zero => simp [fillBytes]
  | succ n ih =>
      simp only [fillBytes, ih (by omega), bind_ok]
      rw [setByte_ok _ (by simp; omega), overwrite_next _ _ _ _ _ (by simp), List.range_succ, List.map_append,
        List.map_singleton]

theorem length_setByte {buf out : Buf} {i : Nat} {value : UInt8} (done : setByte buf i value = .ok out) :
    i < buf.length ∧ out.length = buf.length := by
  unfold setByte at done
  split_ifs at done with inside
  · cases done
    exact ⟨inside, by simp⟩

theorem subslice_inside {buf out : Buf} {a b : Nat} (done : subslice buf a b = .ok out) :
    a ≤ b ∧ b ≤ buf.length ∧ out = slice buf a b := by
  unfold subslice at done
  split_ifs at done with inside
  · cases done
    exact ⟨inside.1, inside.2, rfl⟩

theorem copyFromSlice_inside {buf out new : Buf} {a b : Nat} (done : copyFromSlice buf a b new = .ok out) :
    b ≤ buf.length ∧ out.length = buf.length := by
  unfold copyFromSlice at done
  split_ifs at done with inside width
  · cases done
    exact ⟨inside.2, by simp⟩

theorem copyWithin_inside {buf out : Buf} {a b dst : Nat} (done : copyWithin buf a b dst = .ok out) :
    b ≤ buf.length ∧ dst + (b - a) ≤ buf.length ∧ out.length = buf.length := by
  unfold copyWithin at done
  split_ifs at done with inside
  · cases done
    exact ⟨inside.2.1, inside.2.2, by simp⟩

theorem fillBytes_inside {buf out : Buf} {off n : Nat} {f : Nat → UInt8} (done : fillBytes buf off f n = .ok out) :
    (n = 0 ∨ off + n ≤ buf.length) ∧ out.length = buf.length := by
  induction n generalizing out with
  | zero =>
      cases done
      exact ⟨.inl rfl, rfl⟩
  | succ n ih =>
      obtain ⟨middle, before, last⟩ := bind_eq_ok.mp done
      have length := (ih before).2
      have inside := length_setByte last
      exact ⟨.inr (by omega), by omega⟩

end Checked
