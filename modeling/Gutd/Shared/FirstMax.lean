import Mathlib.Data.List.MinMax

set_option autoImplicit false

namespace FirstMax

variable {α β γ : Type}

section Scan

variable (read : α → Option β) (key : β → Nat)

def keep (best : Option β) (next : Option β) : Option β :=
  match next, best with
  | none, best => best
  | some b, none => some b
  | some b, some c => if key c < key b then some b else some c

def scan (l : List α) : Option β := l.foldl (fun best a => keep key best (read a)) none

def IsFirstMax (l : List α) (a : α) (b : β) : Prop :=
  ∃ before after, l = before ++ a :: after ∧ read a = some b ∧
    (∀ x ∈ before, ∀ y, read x = some y → key y < key b) ∧ ∀ x ∈ after, ∀ y, read x = some y → key y ≤ key b

def Outranked (l : List α) (i : Nat) (b : β) : Prop :=
  ∃ j x y, l[j]? = some x ∧ read x = some y ∧ (key b < key y ∨ key b = key y ∧ j < i)

variable {read key}

theorem scan_concat (l : List α) (a : α) : scan read key (l ++ [a]) = keep key (scan read key l) (read a) := by
  simp [scan]

theorem scan_eq_argmax (l : List α) : scan read key l = (l.filterMap read).argmax key := by
  induction l using List.reverseRecOn with
  | nil => rfl
  | append_singleton l a ih =>
      rw [scan_concat, ih, List.filterMap_append]
      cases value : read a with
      | none => simp [keep, value]
      | some b =>
          rw [show [a].filterMap read = [b] by simp [value], List.argmax_concat]
          cases (l.filterMap read).argmax key <;> rfl

theorem scan_eq_none {l : List α} : scan read key l = none ↔ ∀ a ∈ l, read a = none := by
  rw [scan_eq_argmax, List.argmax_eq_none, List.filterMap_eq_nil_iff]

theorem IsFirstMax.concat {l : List α} {a : α} {b : β} (first : IsFirstMax read key l a b) {x : α}
    (larger : ∀ y, read x = some y → key y ≤ key b) : IsFirstMax read key (l ++ [x]) a b := by
  obtain ⟨before, after, rfl, value, below, atMost⟩ := first
  refine ⟨before, after ++ [x], by simp, value, below, fun z member => ?_⟩
  rcases List.mem_append.mp member with inside | last
  · exact atMost z inside
  · rw [List.mem_singleton.mp last]
    exact larger

theorem isFirstMax_of_unread {l : List α} {x : α} {y : β} (unread : ∀ a ∈ l, read a = none) (value : read x = some y) :
    IsFirstMax read key (l ++ [x]) x y := by
  refine ⟨l, [], rfl, value, fun z member w read => ?_, nofun⟩
  rw [unread z member] at read
  cases read

theorem IsFirstMax.overtaken {l : List α} {a x : α} {c y : β} (first : IsFirstMax read key l a c) (value : read x = some y)
    (larger : key c < key y) : IsFirstMax read key (l ++ [x]) x y := by
  obtain ⟨before, after, rfl, chosen, below, atMost⟩ := first
  refine ⟨before ++ a :: after, [], rfl, value, fun z member w read => ?_, nofun⟩
  rcases List.mem_append.mp member with inside | inside
  · exact Nat.lt_trans (below z inside w read) larger
  · rcases List.mem_cons.mp inside with rfl | inside
    · rw [chosen] at read
      cases read
      exact larger
    · exact Nat.lt_of_le_of_lt (atMost z inside w read) larger

theorem exists_of_scan_eq_some {l : List α} {b : β} (kept : scan read key l = some b) : ∃ a, IsFirstMax read key l a b := by
  induction l using List.reverseRecOn generalizing b with
  | nil => cases kept
  | append_singleton l x ih =>
      rw [scan_concat] at kept
      cases value : read x with
      | none =>
          rw [value] at kept
          obtain ⟨a, first⟩ := ih kept
          exact ⟨a, first.concat (by simp [value])⟩
      | some y =>
          cases best : scan read key l with
          | none =>
              rw [value, best] at kept
              cases kept
              exact ⟨x, isFirstMax_of_unread (scan_eq_none.mp best) value⟩
          | some c =>
              rw [value, best, keep] at kept
              obtain ⟨a, first⟩ := ih best
              split_ifs at kept with larger
              · cases kept
                exact ⟨x, first.overtaken value larger⟩
              · cases kept
                refine ⟨a, first.concat fun w read => ?_⟩
                rw [value] at read
                cases read
                exact Nat.le_of_not_lt larger

theorem IsFirstMax.mem {l : List α} {a : α} {b : β} (first : IsFirstMax read key l a b) : a ∈ l := by
  obtain ⟨before, after, rfl, -⟩ := first
  simp

theorem isFirstMax_iff {l : List α} {a : α} {b : β} :
    IsFirstMax read key l a b ↔ ∃ i, l[i]? = some a ∧ read a = some b ∧ ¬Outranked read key l i b := by
  constructor
  · rintro ⟨before, after, rfl, value, below, atMost⟩
    refine ⟨before.length, by simp, value, ?_⟩
    rintro ⟨j, x, y, here, read, ranked⟩
    rcases Nat.lt_trichotomy j before.length with earlier | rfl | later
    · rw [List.getElem?_append_left earlier] at here
      have smaller := below x (List.mem_of_getElem? here) y read
      omega
    · rw [List.getElem?_append_right (Nat.le_refl _), Nat.sub_self, List.getElem?_cons_zero] at here
      cases here
      rw [value] at read
      cases read
      omega
    · obtain ⟨k, rfl⟩ := Nat.exists_eq_add_of_lt later
      rw [List.getElem?_append_right (by omega), show before.length + k + 1 - before.length = k + 1 by omega,
        List.getElem?_cons_succ] at here
      have smaller := atMost x (List.mem_of_getElem? here) y read
      omega
  · rintro ⟨i, here, value, top⟩
    obtain ⟨inside, rfl⟩ := List.getElem?_eq_some_iff.mp here
    refine ⟨l.take i, l.drop (i + 1), by rw [List.getElem_cons_drop, List.take_append_drop], value, ?_, ?_⟩
    · intro x member y read
      obtain ⟨j, earlier, rfl⟩ := List.mem_take_iff_getElem.mp member
      by_contra larger
      exact top ⟨j, _, y, List.getElem?_eq_getElem (by omega), read, by omega⟩
    · intro x member y read
      obtain ⟨j, known⟩ := List.mem_iff_getElem?.mp (List.mem_of_mem_drop member)
      by_contra larger
      exact top ⟨j, x, y, known, read, by omega⟩

theorem IsFirstMax.unique {l : List α} {a a' : α} {b b' : β} (first : IsFirstMax read key l a b)
    (first' : IsFirstMax read key l a' b') : b = b' := by
  obtain ⟨i, here, value, top⟩ := isFirstMax_iff.mp first
  obtain ⟨i', here', value', top'⟩ := isFirstMax_iff.mp first'
  -- of two different places one would outrank the other
  have same : i = i' := by
    by_contra different
    by_cases ahead : key b < key b' ∨ key b = key b' ∧ i' < i
    · exact top ⟨i', a', b', here', value', ahead⟩
    · exact top' ⟨i, a, b, here, value, by omega⟩
  subst same
  rw [here] at here'
  cases here'
  exact Option.some.inj (value.symm.trans value')

theorem scan_eq_some {l : List α} {b : β} : scan read key l = some b ↔ ∃ a, IsFirstMax read key l a b := by
  constructor
  · exact exists_of_scan_eq_some
  · rintro ⟨a, first⟩
    cases kept : scan read key l with
    | none =>
        obtain ⟨_, _, _, value, -⟩ := id first
        rw [scan_eq_none.mp kept a first.mem] at value
        cases value
    | some c =>
        obtain ⟨a', first'⟩ := exists_of_scan_eq_some kept
        rw [first'.unique first]

end Scan

inductive Inserted (extra : α → Prop) : List α → List α → Prop
  | nil : Inserted extra [] []
  | keep (a : α) {l l' : List α} : Inserted extra l l' → Inserted extra (a :: l) (a :: l')
  | insert {a : α} {l l' : List α} : extra a → Inserted extra l l' → Inserted extra l (a :: l')

theorem Inserted.filterMap_eq {extra : α → Prop} {read : α → Option β} (unread : ∀ a, extra a → read a = none) {l l' : List α}
    (inserted : Inserted extra l l') : l'.filterMap read = l.filterMap read := by
  induction inserted with
  | nil => rfl
  | keep a _ ih => rw [List.filterMap_cons, List.filterMap_cons, ih]
  | insert more _ ih => rw [List.filterMap_cons, unread _ more, ih]

section Readings

variable {strict loose : α → Option β} {key : β → Nat} {view : β → γ} {l l' : List α}

variable (strict loose key view l) in
def Settled : Prop :=
  ∀ i a b, l[i]? = some a → loose a = some b → strict a ≠ some b →
    Outranked loose key l i b ∨
      ∃ j a' b', l[j]? = some a' ∧ strict a' = some b' ∧ ¬Outranked strict key l j b' ∧ view b' = view b

variable (reads : ∀ a b, strict a = some b → ∃ b', loose a = some b' ∧ key b' = key b)

include reads in
theorem IsFirstMax.of_strict {a : α} {b : β} (first : IsFirstMax loose key l a b) (value : strict a = some b) :
    IsFirstMax strict key l a b := by
  obtain ⟨before, after, rfl, -, below, atMost⟩ := first
  refine ⟨before, after, rfl, value, fun x member y read => ?_, fun x member y read => ?_⟩
  · obtain ⟨y', read', same⟩ := reads x y read
    exact same ▸ below x member y' read'
  · obtain ⟨y', read', same⟩ := reads x y read
    exact same ▸ atMost x member y' read'

theorem settled_of_forall (same : ∀ a ∈ l, strict a = loose a) : Settled strict loose key view l := by
  intro i a b here value deviant
  exact absurd ((same a (List.mem_of_getElem? here)).trans value) deviant

include reads in
theorem scan_view_iff : (scan loose key l).map view = (scan strict key l).map view ↔ Settled strict loose key view l := by
  constructor
  · intro same i a b here value deviant
    by_cases outranked : Outranked loose key l i b
    · exact .inl outranked
    · rw [scan_eq_some.mpr ⟨a, isFirstMax_iff.mpr ⟨i, here, value, outranked⟩⟩, Option.map_some] at same
      obtain ⟨b', kept, shown⟩ := Option.map_eq_some_iff.mp same.symm
      obtain ⟨a', first⟩ := scan_eq_some.mp kept
      obtain ⟨j, there, value', top⟩ := isFirstMax_iff.mp first
      exact .inr ⟨j, a', b', there, value', top, shown⟩
  · intro settled
    cases kept : scan loose key l with
    | none =>
        have unread : scan strict key l = none := by
          refine scan_eq_none.mpr fun a member => Option.eq_none_iff_forall_not_mem.mpr fun b value => ?_
          obtain ⟨b', value', -⟩ := reads a b value
          rw [scan_eq_none.mp kept a member] at value'
          cases value'
        rw [unread]
    | some b =>
        obtain ⟨a, first⟩ := scan_eq_some.mp kept
        by_cases agreed : strict a = some b
        · rw [scan_eq_some.mpr ⟨a, first.of_strict reads agreed⟩]
        · obtain ⟨i, here, value, top⟩ := isFirstMax_iff.mp first
          rcases settled i a b here value agreed with outranked | ⟨j, a', b', there, value', top', same⟩
          · exact absurd outranked top
          · rw [scan_eq_some.mpr ⟨a', isFirstMax_iff.mpr ⟨j, there, value', top'⟩⟩, Option.map_some, Option.map_some, same]

include reads in
theorem scan_inserted_iff {extra : α → Prop} (unread : ∀ a, extra a → strict a = none) (inserted : Inserted extra l l') :
    ((scan loose key l).map view = (scan strict key l).map view ∧
      (scan loose key l').map view = (scan loose key l).map view) ↔
      Settled strict loose key view l ∧ Settled strict loose key view l' := by
  have same : scan strict key l' = scan strict key l := by
    rw [scan_eq_argmax, scan_eq_argmax, inserted.filterMap_eq unread]
  rw [← scan_view_iff reads, ← scan_view_iff reads, same]
  exact and_congr_right fun equal => by rw [equal]

end Readings

end FirstMax
