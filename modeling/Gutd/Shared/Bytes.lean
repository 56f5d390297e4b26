import Mathlib.Algebra.GroupWithZero.Nat
import Mathlib.Data.List.GetD
import Mathlib.Data.List.TakeDrop
import Mathlib.Tactic.SplitIfs

set_option autoImplicit false

-- A write past the end only changes the bytes that exist, so a caller that must fail there checks the range first.

namespace Bytes

-- a statement about the entries of a list is decided on the list, not on all values of their type
instance (priority := 2000) decidableForallMem {α : Type} {p : α → Prop} [DecidablePred p] (l : List α) :
    Decidable (∀ a, a ∈ l → p a) :=
  List.decidableBAll p l

instance (priority := 2000) decidableExistsMem {α : Type} {p : α → Prop} [DecidablePred p] (l : List α) :
    Decidable (∃ a, a ∈ l ∧ p a) :=
  List.decidableBEx p l

instance (priority := 2000) decidableForallMemOption {α : Type} {p : α → Prop} [DecidablePred p] (o : Option α) :
    Decidable (∀ a, a ∈ o → p a) :=
  Option.decidableForallMem o

-- the lengths of the vectors that are read at fixed places
instance fourNeZero : NeZero 4 := ⟨Nat.succ_ne_zero 3⟩

instance eightNeZero : NeZero 8 := ⟨Nat.succ_ne_zero 7⟩

instance twelveNeZero : NeZero 12 := ⟨Nat.succ_ne_zero 11⟩

instance sixteenNeZero : NeZero 16 := ⟨Nat.succ_ne_zero 15⟩

abbrev Buf := List UInt8

def byteAt (buf : Buf) (i : Nat) : UInt8 := buf.getD i 0

def slice (buf : Buf) (a b : Nat) : Buf := (buf.drop a).take (b - a)

def overwrite (buf : Buf) (off : Nat) (new : Buf) : Buf :=
  buf.mapIdx fun i b => if off ≤ i then new.getD (i - off) b else b

def xorAt (buf : Buf) (off : Nat) (mask : Buf) : Buf :=
  buf.mapIdx fun i b => if off ≤ i then b ^^^ mask.getD (i - off) 0 else b

@[simp] theorem length_overwrite (buf : Buf) (off : Nat) (new : Buf) :
    (overwrite buf off new).length = buf.length := by
  simp [overwrite]

@[simp] theorem length_xorAt (buf : Buf) (off : Nat) (mask : Buf) :
    (xorAt buf off mask).length = buf.length := by
  simp [xorAt]

@[simp] theorem length_slice (buf : Buf) (a b : Nat) :
    (slice buf a b).length = min (b - a) (buf.length - a) := by
  simp [slice]

theorem byteAt_eq_getElem (buf : Buf) (i : Nat) (inside : i < buf.length) :
    byteAt buf i = buf[i] := by
  simp [byteAt, inside]

theorem byteAt_of_length_le (buf : Buf) (i : Nat) (outside : buf.length ≤ i) :
    byteAt buf i = 0 := by
  simp [byteAt, outside]

theorem ext_byteAt {a b : Buf} (length : a.length = b.length)
    (bytes : ∀ i, i < a.length → byteAt a i = byteAt b i) : a = b := by
  apply List.ext_getElem length
  intro i ha hb
  have h := bytes i ha
  rwa [byteAt_eq_getElem a i ha, byteAt_eq_getElem b i hb] at h

theorem byteAt_overwrite (buf : Buf) (off : Nat) (new : Buf) (i : Nat) :
    byteAt (overwrite buf off new) i =
      if off ≤ i ∧ i < off + new.length ∧ i < buf.length then byteAt new (i - off)
      else byteAt buf i := by
  by_cases inside : i < buf.length
  · rw [byteAt_eq_getElem _ _ (by simpa using inside), byteAt_eq_getElem buf i inside]
    simp only [overwrite, List.getElem_mapIdx, byteAt, inside, and_true]
    by_cases before : off ≤ i
    · by_cases within : i < off + new.length
      · have index : i - off < new.length := by omega
        simp [before, within, index]
      · have index : new.length ≤ i - off := by omega
        simp [before, within, index]
    · simp [before]
  · have outside := Nat.le_of_not_lt inside
    simp [byteAt_of_length_le, outside, inside]

theorem byteAt_xorAt (buf : Buf) (off : Nat) (mask : Buf) (i : Nat) :
    byteAt (xorAt buf off mask) i =
      if off ≤ i ∧ i < off + mask.length ∧ i < buf.length then byteAt buf i ^^^ byteAt mask (i - off)
      else byteAt buf i := by
  by_cases inside : i < buf.length
  · rw [byteAt_eq_getElem _ _ (by simpa using inside), byteAt_eq_getElem buf i inside]
    simp only [xorAt, List.getElem_mapIdx, byteAt, inside, and_true]
    by_cases before : off ≤ i
    · by_cases within : i < off + mask.length
      · simp [before, within]
      · have index : mask.length ≤ i - off := by omega
        simp [before, within, index]
    · simp [before]
  · have outside := Nat.le_of_not_lt inside
    simp [byteAt_of_length_le, outside, inside]

theorem byteAt_append (a b : Buf) (i : Nat) :
    byteAt (a ++ b) i = if i < a.length then byteAt a i else byteAt b (i - a.length) := by
  simp only [byteAt, List.getD_eq_getElem?_getD, List.getElem?_append]
  split_ifs <;> rfl

theorem byteAt_append_left (a b : Buf) (i : Nat) (inside : i < a.length) : byteAt (a ++ b) i = byteAt a i := by
  rw [byteAt_append, if_pos inside]

theorem byteAt_middle (before middle rest : Buf) (i : Nat) (inside : i < middle.length) :
    byteAt (before ++ (middle ++ rest)) (before.length + i) = middle[i] := by
  rw [byteAt_append, if_neg (by omega), Nat.add_sub_cancel_left, byteAt_append_left _ _ _ inside, byteAt_eq_getElem]

theorem byteAt_take (buf : Buf) (n i : Nat) :
    byteAt (buf.take n) i = if i < n then byteAt buf i else 0 := by
  simp only [byteAt, List.getD_eq_getElem?_getD, List.getElem?_take]
  split_ifs <;> rfl

@[simp] theorem byteAt_drop (buf : Buf) (n i : Nat) :
    byteAt (buf.drop n) i = byteAt buf (n + i) := by
  simp [byteAt, List.getD_eq_getElem?_getD, List.getElem?_drop]

theorem byteAt_slice (buf : Buf) (a b i : Nat) :
    byteAt (slice buf a b) i = if i < b - a then byteAt buf (a + i) else 0 := by
  simp [slice, byteAt_take]

@[simp] theorem overwrite_nil (buf : Buf) (off : Nat) : overwrite buf off [] = buf := by
  apply ext_byteAt (by simp)
  intro i inside
  rw [byteAt_overwrite, if_neg (by simp; omega)]

theorem overwrite_next (buf : Buf) (off next : Nat) (a b : Buf) (adjacent : next = off + a.length) :
    overwrite (overwrite buf off a) next b = overwrite buf off (a ++ b) := by
  subst adjacent
  apply ext_byteAt (by simp)
  intro i inside
  simp only [byteAt_overwrite, length_overwrite, List.length_append, byteAt_append]
  split_ifs <;> first | rfl | omega | (congr 1; omega)

theorem overwrite_comm (buf : Buf) (off off' : Nat) (a b : Buf) (disjoint : off + a.length ≤ off') :
    overwrite (overwrite buf off' b) off a = overwrite (overwrite buf off a) off' b := by
  apply ext_byteAt (by simp)
  intro i inside
  simp only [byteAt_overwrite, length_overwrite]
  split_ifs <;> first | rfl | omega

theorem overwrite_cover (buf : Buf) (off off' : Nat) (a b : Buf) (starts : off ≤ off')
    (ends : off' + b.length ≤ off + a.length) : overwrite (overwrite buf off' b) off a = overwrite buf off a := by
  apply ext_byteAt (by simp)
  intro i inside
  simp only [byteAt_overwrite, length_overwrite]
  split_ifs <;> first | rfl | omega

theorem overwrite_front (buf : Buf) (off : Nat) (a b : Buf) (overlap : off ≤ a.length) :
    overwrite (overwrite buf off b) 0 a = overwrite buf 0 (a ++ b.drop (a.length - off)) := by
  apply ext_byteAt (by simp)
  intro i inside
  simp only [byteAt_overwrite, length_overwrite, List.length_append, List.length_drop, byteAt_append, byteAt_drop]
  split_ifs <;> first | rfl | omega | (congr 1; omega)

theorem overwrite_within (buf : Buf) (off : Nat) (a b : Buf) (inner : off + b.length ≤ a.length) :
    overwrite (overwrite buf 0 a) off b = overwrite buf 0 (overwrite a off b) := by
  apply ext_byteAt (by simp)
  intro i inside
  simp only [byteAt_overwrite, length_overwrite]
  split_ifs <;> first | rfl | omega

theorem slice_overwrite_same (buf : Buf) (off : Nat) (new : Buf) (fits : off + new.length ≤ buf.length) :
    slice (overwrite buf off new) off (off + new.length) = new := by
  apply ext_byteAt (by simp; omega)
  intro i inside
  simp only [length_slice, length_overwrite] at inside
  rw [byteAt_slice, byteAt_overwrite, if_pos (by omega), if_pos (by omega)]
  congr 1
  omega

theorem overwrite_append_left (a b : Buf) (off : Nat) (new : Buf) (fits : off + new.length ≤ a.length) :
    overwrite (a ++ b) off new = overwrite a off new ++ b := by
  apply ext_byteAt (by simp)
  intro i inside
  simp only [byteAt_overwrite, byteAt_append, length_overwrite]
  simp only [length_overwrite, List.length_append] at inside ⊢
  split_ifs <;> first | rfl | omega

theorem overwrite_append_right (a b : Buf) (off : Nat) (new : Buf) :
    overwrite (a ++ b) (a.length + off) new = a ++ overwrite b off new := by
  apply ext_byteAt (by simp)
  intro i inside
  simp only [byteAt_overwrite, byteAt_append]
  simp only [length_overwrite, List.length_append] at inside ⊢
  split_ifs <;> first | rfl | omega | (congr 1; omega)

theorem overwrite_zero (buf new : Buf) (fits : new.length ≤ buf.length) :
    overwrite buf 0 new = new ++ buf.drop new.length := by
  apply ext_byteAt (by simp; omega)
  intro i inside
  simp only [byteAt_overwrite, byteAt_append, byteAt_drop]
  simp only [length_overwrite] at inside
  split_ifs <;> first | rfl | omega | (congr 1; omega)

theorem overwrite_eq_append (buf : Buf) (off : Nat) (new : Buf) (fits : off + new.length ≤ buf.length) :
    overwrite buf off new = buf.take off ++ new ++ buf.drop (off + new.length) := by
  have length : (buf.take off).length = off := by simp; omega
  have split := overwrite_append_right (buf.take off) (buf.drop off) 0 new
  rw [List.take_append_drop, length, Nat.add_zero] at split
  rw [split, overwrite_zero _ _ (by simp; omega), List.drop_drop, List.append_assoc]

theorem overwrite_append_next (a b new : Buf) (fits : new.length ≤ b.length) :
    overwrite (a ++ b) a.length new = a ++ new ++ b.drop new.length := by
  have right := overwrite_append_right a b 0 new
  rw [Nat.add_zero] at right
  rw [right, overwrite_zero b new fits, List.append_assoc]

theorem overwrite_whole (a b new : Buf) (same : new.length = a.length) :
    overwrite (a ++ b) 0 new = new ++ b := by
  rw [overwrite_append_left _ _ _ _ (by omega), overwrite_zero _ _ (by omega), List.drop_eq_nil_of_le (by omega),
    List.append_nil]

theorem xorAt_append_left (a b : Buf) (off : Nat) (mask : Buf) (fits : off + mask.length ≤ a.length) :
    xorAt (a ++ b) off mask = xorAt a off mask ++ b := by
  apply ext_byteAt (by simp)
  intro i inside
  simp only [byteAt_xorAt, byteAt_append, length_xorAt]
  simp only [length_xorAt, List.length_append] at inside ⊢
  split_ifs <;> first | rfl | omega

theorem xorAt_append_right (a b : Buf) (off : Nat) (mask : Buf) :
    xorAt (a ++ b) (a.length + off) mask = a ++ xorAt b off mask := by
  apply ext_byteAt (by simp)
  intro i inside
  simp only [byteAt_xorAt, byteAt_append]
  simp only [length_xorAt, List.length_append] at inside ⊢
  split_ifs <;> first | rfl | omega | (congr 2; omega)

theorem xorAt_middle (front w rest k : Buf) (off : Nat) (inside : off + k.length ≤ w.length) :
    xorAt (front ++ (w ++ rest)) (front.length + off) k = front ++ (xorAt w off k ++ rest) := by
  rw [xorAt_append_right, xorAt_append_left _ _ _ _ inside]

theorem xorAt_xorAt (buf : Buf) (off : Nat) (mask : Buf) : xorAt (xorAt buf off mask) off mask = buf := by
  apply ext_byteAt (by simp)
  intro i inside
  simp only [length_xorAt] at inside
  simp only [byteAt_xorAt, length_xorAt]
  split_ifs
  · rw [UInt8.xor_assoc, UInt8.xor_self, UInt8.xor_zero]
  · rfl

theorem xorAt_comm (buf : Buf) (off off' : Nat) (mask mask' : Buf) :
    xorAt (xorAt buf off mask) off' mask' = xorAt (xorAt buf off' mask') off mask := by
  apply ext_byteAt (by simp)
  intro i inside
  simp only [byteAt_xorAt, length_xorAt]
  split_ifs
  · rw [UInt8.xor_assoc, UInt8.xor_assoc, UInt8.xor_comm (byteAt mask _)]
  all_goals rfl

theorem xorAt_eq_self_iff (buf : Buf) (off : Nat) (mask : Buf) (inside : off + mask.length ≤ buf.length) :
    xorAt buf off mask = buf ↔ mask = List.replicate mask.length 0 := by
  constructor
  · intro same
    apply ext_byteAt (by simp)
    intro i bounded
    have masked : byteAt (xorAt buf off mask) (off + i) = byteAt buf (off + i) := by rw [same]
    rw [byteAt_xorAt, if_pos (by omega), Nat.add_sub_cancel_left] at masked
    rw [byteAt_eq_getElem (List.replicate _ _) i (by simpa using bounded), List.getElem_replicate]
    calc byteAt mask i = byteAt buf (off + i) ^^^ (byteAt buf (off + i) ^^^ byteAt mask i) := by
          rw [← UInt8.xor_assoc, UInt8.xor_self, UInt8.zero_xor]
      _ = 0 := by rw [masked, UInt8.xor_self]
  · intro zero
    apply ext_byteAt (by simp)
    intro i bounded
    rw [byteAt_xorAt]
    split_ifs with within
    · have masked : i - off < (List.replicate mask.length (0 : UInt8)).length := by simp; omega
      rw [zero, byteAt_eq_getElem _ _ masked, List.getElem_replicate, UInt8.xor_zero]
    · rfl

theorem xorAt_inj (buf : Buf) (off : Nat) {mask mask' : Buf} (same : mask.length = mask'.length)
    (inside : off + mask.length ≤ buf.length) : xorAt buf off mask = xorAt buf off mask' ↔ mask = mask' := by
  constructor
  · intro equal
    apply ext_byteAt same
    intro i bounded
    have masked : byteAt (xorAt buf off mask) (off + i) = byteAt (xorAt buf off mask') (off + i) := by rw [equal]
    rw [byteAt_xorAt, if_pos (by omega), byteAt_xorAt, if_pos (by omega), Nat.add_sub_cancel_left] at masked
    exact (UInt8.xor_right_inj _).mp masked
  · intro equal
    rw [equal]

@[simp] theorem slice_zero_length (buf : Buf) : slice buf 0 buf.length = buf := by
  simp [slice]

theorem slice_zero (buf : Buf) (n : Nat) : slice buf 0 n = buf.take n := by
  simp [slice]

theorem slice_drop (buf : Buf) (n a b : Nat) : slice (buf.drop n) a b = slice buf (n + a) (n + b) := by
  rw [slice, slice, List.drop_drop]
  congr 1
  omega

theorem slice_append_drop (buf : Buf) (a n : Nat) : slice buf a (a + n) ++ buf.drop (a + n) = buf.drop a := by
  rw [slice, Nat.add_sub_cancel_left, ← List.drop_drop, List.take_append_drop]

theorem slice_append_left (a b : Buf) (i j : Nat) (inside : j ≤ a.length) : slice (a ++ b) i j = slice a i j := by
  apply ext_byteAt (by simp; omega)
  intro k bounded
  simp only [length_slice, List.length_append] at bounded
  rw [byteAt_slice, byteAt_slice, byteAt_append, if_pos (by omega), if_pos (by omega), if_pos (by omega)]

theorem take_xorAt (buf mask : Buf) (n : Nat) :
    (xorAt buf 0 mask).take n = xorAt (buf.take n) 0 mask := by
  apply ext_byteAt (by simp)
  intro i bounded
  simp only [List.length_take, length_xorAt] at bounded
  have before : i < n := by omega
  simp only [byteAt_take, byteAt_xorAt, List.length_take, before, if_true]
  by_cases masked : i < mask.length
  · rw [if_pos (by omega), if_pos (by omega)]
  · rw [if_neg (by omega), if_neg (by omega)]

theorem overwrite_xorAt_slice (buf mask : Buf) (off : Nat) {n : Nat} (width : mask.length = n)
    (inside : off + n ≤ buf.length) :
    overwrite buf off (xorAt (slice buf off (off + n)) 0 mask) = xorAt buf off mask := by
  apply ext_byteAt (by simp)
  intro i bounded
  simp only [length_overwrite] at bounded
  rw [byteAt_overwrite, byteAt_xorAt, byteAt_xorAt, byteAt_slice]
  by_cases masked : off ≤ i ∧ i < off + n
  · rw [if_pos (by simp; omega), if_pos (by simp; omega), if_pos (by omega), if_pos (by omega),
      show off + (i - off) = i by omega, Nat.sub_zero]
  · rw [if_neg (by simp; omega), if_neg (by omega)]

theorem slice_middle (a b c : Buf) (n : Nat) (width : b.length = n) :
    slice (a ++ (b ++ c)) a.length (a.length + n) = b := by
  simp [slice, ← width]

theorem slice_overwrite_width (buf : Buf) {new : Buf} {off n : Nat} (width : new.length = n) (fits : off + n ≤ buf.length) :
    slice (overwrite buf off new) off (off + n) = new := by
  rw [← width]
  exact slice_overwrite_same buf off new (by omega)

theorem slice_append_slice (buf : Buf) {a b c : Nat} (first : a ≤ b) (second : b ≤ c) :
    slice buf a b ++ slice buf b c = slice buf a c := by
  have split : c - a = b - a + (c - b) := by omega
  have start : b = a + (b - a) := by omega
  rw [slice, slice, slice, split, List.take_add, List.drop_drop, ← start]

theorem slice_overwrite_inside (buf new : Buf) {a off b : Nat} (starts : a ≤ off) (ends : off + new.length ≤ b)
    (inside : b ≤ buf.length) :
    slice (overwrite buf off new) a b = slice buf a off ++ (new ++ slice buf (off + new.length) b) := by
  apply ext_byteAt
  · simp only [length_slice, length_overwrite, List.length_append]
    omega
  · intro i bounded
    simp only [length_slice, length_overwrite] at bounded
    rw [byteAt_slice, if_pos (by omega), byteAt_overwrite, byteAt_append]
    simp only [length_slice]
    split_ifs with written before before
    · omega
    · rw [byteAt_append_left _ _ _ (by omega)]
      congr 1
      omega
    · rw [byteAt_slice, if_pos (by omega)]
    · rw [byteAt_append, if_neg (by omega), byteAt_slice, if_pos (by omega)]
      congr 1
      omega

theorem slice_overwrite_other (buf new : Buf) {a off b : Nat} (disjoint : b ≤ off ∨ off + new.length ≤ a) :
    slice (overwrite buf off new) a b = slice buf a b := by
  apply ext_byteAt (by simp)
  intro i bounded
  simp only [length_slice, length_overwrite] at bounded
  rw [byteAt_slice, byteAt_slice, if_pos (by omega), if_pos (by omega), byteAt_overwrite, if_neg (by omega)]

theorem map_byteAt (buf : Buf) (off n : Nat) (inside : off + n ≤ buf.length) :
    ((List.range n).map fun j => byteAt buf (off + j)) = slice buf off (off + n) := by
  apply ext_byteAt (by simp; omega)
  intro i bounded
  have within : i < n := by simpa using bounded
  rw [byteAt_slice, if_pos (by omega), byteAt_eq_getElem _ _ bounded]
  simp

theorem byteAt_eq_iff (buf : Buf) (i : Nat) {c : UInt8} (visible : c ≠ 0) : byteAt buf i = c ↔ buf[i]? = some c := by
  rw [byteAt, List.getD_eq_getElem?_getD]
  cases buf[i]? with
  | none => simp [visible.symm]
  | some b => simp

theorem not_mem_take_append {c : UInt8} {a b : Buf} {k : Nat} (inside : k ≤ a.length) (absent : c ∉ a) :
    c ∉ (a ++ b).take k := by
  rw [List.take_append_of_le_length inside]
  exact fun member => absent (List.mem_of_mem_take member)

end Bytes
