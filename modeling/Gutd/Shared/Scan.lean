import Gutd.Shared.Text

set_option autoImplicit false

namespace Scan

open Bytes

abbrev Pattern := List (Option UInt8)

def literal (text : Buf) : Pattern := text.map some

def MatchesAt (p : Pattern) (text : Buf) (i : Nat) : Prop := ∀ k c, p[k]? = some (some c) → text[i + k]? = some c

def Quiet (p : Pattern) (front rest : Buf) : Prop := ∀ i, i < front.length → ¬MatchesAt p (front ++ rest) i

variable {p : Pattern} {a b front rest text : Buf} {i k : Nat} {c : UInt8}

theorem matchesAt_append_right : MatchesAt p (a ++ b) (a.length + i) ↔ MatchesAt p b i := by
  have shift (k : Nat) : (a ++ b)[a.length + i + k]? = b[i + k]? := by
    rw [Nat.add_assoc, List.getElem?_append_right (by omega), Nat.add_sub_cancel_left]
  simp only [MatchesAt, shift]

theorem MatchesAt.append (found : MatchesAt p a i) (b : Buf) : MatchesAt p (a ++ b) i := by
  intro k c expected
  have here := found k c expected
  obtain ⟨inside, -⟩ := List.getElem?_eq_some_iff.mp here
  rw [List.getElem?_append_left inside, here]

theorem MatchesAt.left (found : MatchesAt p (a ++ b) i) (ends : i + p.length ≤ a.length) : MatchesAt p a i := by
  intro k c expected
  obtain ⟨inside, -⟩ := List.getElem?_eq_some_iff.mp expected
  rw [← found k c expected, List.getElem?_append_left (by omega)]

theorem matchesAt_literal_zero {pattern : Buf} : MatchesAt (literal pattern) text 0 ↔ pattern <+: text := by
  rw [List.prefix_iff_getElem?]
  constructor
  · intro found k inside
    rw [← found k pattern[k] (by simp [literal, inside]), Nat.zero_add]
  · intro starts k c expected
    simp only [literal, List.getElem?_map, Option.map_eq_some_iff, Option.some.injEq] at expected
    obtain ⟨_, here, rfl⟩ := expected
    obtain ⟨inside, same⟩ := List.getElem?_eq_some_iff.mp here
    rw [Nat.zero_add, starts k inside, same]

theorem matchesAt_next (front pattern rest : Buf) : MatchesAt (literal pattern) (front ++ (pattern ++ rest)) front.length := by
  have here : MatchesAt (literal pattern) (pattern ++ rest) 0 := matchesAt_literal_zero.mpr (List.prefix_append _ _)
  simpa using matchesAt_append_right (a := front).mpr here

theorem matchesAt_literal {pattern : Buf} (inside : i ≤ text.length) :
    MatchesAt (literal pattern) text i ↔ pattern <+: text.drop i := by
  have width : (text.take i).length = i := by simp; omega
  have split := matchesAt_append_right (p := literal pattern) (a := text.take i) (b := text.drop i) (i := 0)
  rw [List.take_append_drop, width, Nat.add_zero] at split
  rw [split, matchesAt_literal_zero]

theorem slice_eq_iff (pattern : Buf) (nonempty : pattern ≠ []) :
    slice text i (i + pattern.length) = pattern ↔ MatchesAt (literal pattern) text i := by
  rw [slice, Nat.add_sub_cancel_left]
  by_cases inside : i ≤ text.length
  · rw [matchesAt_literal inside, List.prefix_iff_eq_take, eq_comm]
  · obtain ⟨first, others, rfl⟩ := List.exists_cons_of_ne_nil nonempty
    constructor
    · intro same
      rw [List.drop_eq_nil_of_le (by omega)] at same
      cases same
    · intro found
      have here := found 0 first (by simp [literal])
      rw [List.getElem?_eq_none (by omega)] at here
      cases here

namespace Quiet

theorem nil : Quiet p [] rest := nofun

theorem append_iff : Quiet p (a ++ b) rest ↔ Quiet p a (b ++ rest) ∧ Quiet p b rest := by
  simp only [Quiet, List.append_assoc, List.length_append]
  constructor
  · intro quiet
    refine ⟨fun i inside => quiet i (by omega), fun i inside found => ?_⟩
    exact quiet (a.length + i) (by omega) (matchesAt_append_right.mpr found)
  · rintro ⟨first, second⟩ i inside found
    by_cases early : i < a.length
    · exact first i early found
    · have split : i = a.length + (i - a.length) := by omega
      rw [split, matchesAt_append_right] at found
      exact second _ (by omega) found

theorem append (first : Quiet p a (b ++ rest)) (second : Quiet p b rest) : Quiet p (a ++ b) rest :=
  append_iff.mpr ⟨first, second⟩

theorem of_absent (k : Nat) (c : UInt8) (expected : p[k]? = some (some c)) (here : c ∉ front) (behind : c ∉ rest.take k) :
    Quiet p front rest := by
  intro i inside found
  have member := found k c expected
  by_cases within : i + k < front.length
  · rw [List.getElem?_append_left within] at member
    exact here (List.mem_of_getElem? member)
  · rw [List.getElem?_append_right (by omega)] at member
    apply behind
    have early : i + k - front.length < k := by omega
    rw [← List.getElem?_take_of_lt early] at member
    exact List.mem_of_getElem? member

theorem extend (k : Nat) (c : UInt8) (alone : Quiet p front []) (last : p[k]? = some (some c)) (ends : p.length ≤ k + 1)
    (behind : c ∉ rest.take k) : Quiet p front rest := by
  intro i inside found
  by_cases within : i + k < front.length
  · have there : MatchesAt p (front ++ []) i := by
      rw [List.append_nil]
      exact found.left (by omega)
    exact alone i inside there
  · have member := found k c last
    rw [List.getElem?_append_right (by omega)] at member
    apply behind
    have early : i + k - front.length < k := by omega
    rw [← List.getElem?_take_of_lt early] at member
    exact List.mem_of_getElem? member

theorem alone (quiet : Quiet p front rest) : Quiet p front [] := by
  intro i inside found
  rw [List.append_nil] at found
  exact quiet i inside (found.append rest)

def differsAt (p : Pattern) (front : Buf) (i : Nat) : Bool :=
  (List.range p.length).any fun k =>
    match p[k]?, front[i + k]? with
    | some (some c), some b => b != c
    | _, _ => false

def differs (p : Pattern) (front : Buf) : Bool := (List.range front.length).all (differsAt p front)

theorem of_differs (fixed : differs p front = true) : Quiet p front rest := by
  intro i inside found
  have somewhere := List.all_eq_true.mp fixed i (List.mem_range.mpr inside)
  obtain ⟨k, -, other⟩ := List.any_eq_true.mp somewhere
  split at other
  · rename_i c b expected here
    have byte := found k c expected
    obtain ⟨bounded, -⟩ := List.getElem?_eq_some_iff.mp here
    rw [List.getElem?_append_left bounded, here] at byte
    cases byte
    simp at other
  · cases other

end Quiet

theorem findWindow_eq_some {pattern : Buf} (nonempty : pattern ≠ []) (quiet : Quiet (literal pattern) front (pattern ++ rest)) :
    findWindow pattern (front ++ (pattern ++ rest)) = some front.length := by
  induction front with
  | nil =>
      obtain ⟨first, others, rfl⟩ := List.exists_cons_of_ne_nil nonempty
      simp [findWindow]
  | cons b front ih =>
      have here : ¬(pattern.isPrefixOf (b :: front ++ (pattern ++ rest)) = true) := by
        intro starts
        exact quiet 0 (by simp) (matchesAt_literal_zero.mpr (List.isPrefixOf_iff_prefix.mp starts))
      have later : Quiet (literal pattern) front (pattern ++ rest) := by
        have split : Quiet (literal pattern) ([b] ++ front) (pattern ++ rest) := quiet
        exact (Quiet.append_iff.mp split).2
      rw [List.cons_append] at here ⊢
      rw [findWindow, if_neg here, ih later, Option.map_some, List.length_cons]

theorem findWindow_quiet {pattern : Buf} (quiet : Quiet (literal pattern) front rest) :
    findWindow pattern (front ++ rest) = (findWindow pattern rest).map (front.length + ·) := by
  induction front with
  | nil => simp
  | cons b front ih =>
      have here : ¬(pattern.isPrefixOf (b :: front ++ rest) = true) := by
        intro starts
        exact quiet 0 (by simp) (matchesAt_literal_zero.mpr (List.isPrefixOf_iff_prefix.mp starts))
      have split : Quiet (literal pattern) ([b] ++ front) rest := quiet
      rw [List.cons_append] at here ⊢
      rw [findWindow, if_neg here, ih (Quiet.append_iff.mp split).2, Option.map_map]
      congr 1
      funext i
      simp only [Function.comp_apply, List.length_cons]
      omega

theorem findWindow_append {pattern : Buf} (found : findWindow pattern a = some i) (b : Buf) :
    findWindow pattern (a ++ b) = some i := by
  induction a generalizing i with
  | nil => cases found
  | cons c a ih =>
      have bound := findWindow_bound found
      rw [findWindow] at found
      rw [List.cons_append, findWindow]
      split_ifs at found with here
      · cases found
        have starts : pattern <+: c :: (a ++ b) :=
          (List.isPrefixOf_iff_prefix.mp here).trans (List.prefix_append (c :: a) b)
        rw [if_pos (List.isPrefixOf_iff_prefix.mpr starts)]
      · obtain ⟨j, later, rfl⟩ := Option.map_eq_some_iff.mp found
        have elsewhere : ¬(pattern.isPrefixOf (c :: (a ++ b)) = true) := by
          intro starts
          have shorter : pattern.length ≤ (c :: a).length := by omega
          exact here (List.isPrefixOf_iff_prefix.mpr
            (List.prefix_of_prefix_length_le (List.isPrefixOf_iff_prefix.mp starts) (List.prefix_append (c :: a) b) shorter))
        rw [if_neg elsewhere, ih later, Option.map_some]

theorem quiet_of_findWindow_none {pattern : Buf} (missing : findWindow pattern a = none) :
    Quiet (literal pattern) a [] := by
  induction a with
  | nil => exact .nil
  | cons c a ih =>
      rw [findWindow] at missing
      split_ifs at missing with here
      have later := ih (Option.map_eq_none_iff.mp missing)
      have first : Quiet (literal pattern) [c] (a ++ []) := by
        intro i inside found
        have zero : i = 0 := by
          rw [List.length_singleton] at inside
          omega
        subst zero
        rw [List.append_nil] at found
        exact here (List.isPrefixOf_iff_prefix.mpr (matchesAt_literal_zero.mp found))
      exact Quiet.append (a := [c]) first later

end Scan
