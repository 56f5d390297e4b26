import Gutd.Shared.Checked
import Mathlib.Data.List.Induction

set_option autoImplicit false

namespace Folds

open Checked

variable {α σ ε : Type} {P : List α → σ → Prop}

theorem getElem?_concat_eq_some {items : List α} {a b : α} {i : Nat} :
    (items ++ [a])[i]? = some b ↔ items[i]? = some b ∨ i = items.length ∧ a = b := by
  rw [List.getElem?_append]
  by_cases inside : i < items.length
  · rw [if_pos inside]
    exact ⟨.inl, fun either => either.resolve_right fun last => by omega⟩
  · rw [if_neg inside, List.getElem?_eq_none (by omega : items.length ≤ i), List.getElem?_singleton]
    by_cases last : i = items.length
    · simp [last]
    · simp [last, show i - items.length ≠ 0 by omega]

theorem mapM_ok {β : Type} {f : α → Except ε β} {g : α → β} (all : ∀ a, f a = .ok (g a)) (items : List α) :
    items.mapM f = .ok (items.map g) := by
  induction items with
  | nil => rfl
  | cons a items ih => rw [List.mapM_cons, all, bind_ok, ih, bind_ok, List.map_cons, pure_eq_ok]

theorem foldlM_invariant {f : σ → α → Except ε σ} (step : ∀ done a s s', P done s → f s a = .ok s' → P (done ++ [a]) s')
    {s s' : σ} {items : List α} (start : P [] s) (done : items.foldlM f s = .ok s') : P items s' := by
  induction items using List.reverseRecOn generalizing s' with
  | nil =>
      cases done
      exact start
  | append_singleton items a ih =>
      rw [List.foldlM_append] at done
      obtain ⟨middle, before, last⟩ := bind_eq_ok.mp done
      rw [List.foldlM_cons] at last
      obtain ⟨final, stepped, same⟩ := bind_eq_ok.mp last
      cases same
      exact step items a middle _ (ih before) stepped

theorem foldlM_reaches {f : σ → α → Except ε σ} {Q : α → Prop}
    (step : ∀ done a s, Q a → P done s → ∃ s', f s a = .ok s' ∧ P (done ++ [a]) s') {s : σ} (start : P [] s) {items : List α}
    (all : ∀ a ∈ items, Q a) : ∃ s', items.foldlM f s = .ok s' ∧ P items s' := by
  induction items using List.reverseRecOn with
  | nil => exact ⟨s, rfl, start⟩
  | append_singleton items a ih =>
      obtain ⟨middle, before, held⟩ := ih fun b member => all b (List.mem_append_left _ member)
      obtain ⟨final, stepped, held⟩ := step items a middle (all a (by simp)) held
      refine ⟨final, ?_, held⟩
      rw [List.foldlM_append, before, bind_ok, List.foldlM_cons, stepped, bind_ok, List.foldlM_nil, pure_eq_ok]

theorem foldlM_stops {f : σ → α → Except ε σ} (step : ∀ done a s s', P done s → f s a = .ok s' → P (done ++ [a]) s') {s : σ}
    (start : P [] s) (items : List α) :
    (∃ s', items.foldlM f s = .ok s' ∧ P items s') ∨
      ∃ done a rest s' e, items = done ++ a :: rest ∧ done.foldlM f s = .ok s' ∧ P done s' ∧ f s' a = .error e ∧
        items.foldlM f s = .error e := by
  induction items using List.reverseRecOn with
  | nil => exact .inl ⟨s, rfl, start⟩
  | append_singleton items a ih =>
      rw [List.foldlM_append]
      rcases ih with ⟨middle, before, held⟩ | ⟨done, b, rest, s', e, rfl, before, held, failed, outcome⟩
      · rw [before, bind_ok, List.foldlM_cons]
        cases stepped : f middle a with
        | ok final => exact .inl ⟨final, rfl, step items a middle final held stepped⟩
        | error e => exact .inr ⟨items, a, [], middle, e, rfl, before, held, stepped, rfl⟩
      · rw [outcome]
        exact .inr ⟨done, b, rest ++ [a], s', e, by simp, before, held, failed, rfl⟩

end Folds
