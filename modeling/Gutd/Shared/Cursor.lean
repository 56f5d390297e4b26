import Gutd.Shared.Checked

set_option autoImplicit false

namespace Checked

open Bytes

structure Cursor where
  buf : Buf
  pos : Nat

namespace Cursor

def write (c : Cursor) (text : Buf) : Result Cursor :=
  if c.pos + text.length ≤ c.buf.length then
    pure { buf := overwrite c.buf c.pos text, pos := c.pos + text.length }
  else throw .assertFailed

def patch (c : Cursor) (n : Nat) (f : Nat → UInt8) : Result Cursor := do
  let part ← subslice c.buf c.pos (c.pos + n)
  let part ← fillBytes part 0 f n
  pure { buf := overwrite c.buf c.pos part, pos := c.pos + n }

end Cursor

structure Emits (writer : Cursor → Result Cursor) (text : Buf) : Prop where
  fits : ∀ c, c.pos + text.length ≤ c.buf.length →
    writer c = .ok { buf := overwrite c.buf c.pos text, pos := c.pos + text.length }
  full : ∀ c, c.buf.length < c.pos + text.length → ∃ panic, writer c = .error panic

namespace Emits

theorem write (text : Buf) : Emits (fun c => c.write text) text := by
  constructor
  · intro c room
    simp [Cursor.write, room]
  · intro c full
    simp [Cursor.write, Nat.not_le.mpr full]

theorem patch (n : Nat) (f : Nat → UInt8) : Emits (fun c => c.patch n f) ((List.range n).map f) := by
  constructor
  · intro c room
    rw [List.length_map, List.length_range] at room ⊢
    have width : (slice c.buf c.pos (c.pos + n)).length = n := by
      rw [length_slice]
      omega
    have count : ((List.range n).map f).length = n := by rw [List.length_map, List.length_range]
    simp only [Cursor.patch]
    rw [subslice_ok (Nat.le_add_right _ _) room, bind_ok, fillBytes_ok _ _ _ _ (by omega), bind_ok,
      overwrite_zero _ _ (by omega), List.drop_eq_nil_of_le (by omega), List.append_nil]
    rfl
  · intro c full
    rw [List.length_map, List.length_range] at full
    have outside : ¬(c.pos ≤ c.pos + n ∧ c.pos + n ≤ c.buf.length) := by omega
    refine ⟨.outOfBounds, ?_⟩
    simp only [Cursor.patch]
    rw [subslice, if_neg outside]
    rfl

theorem bind {first second : Cursor → Result Cursor} {a b : Buf} (front : Emits first a) (back : Emits second b) :
    Emits (fun c => first c >>= second) (a ++ b) := by
  constructor
  · intro c room
    rw [List.length_append] at room
    rw [front.fits c (by omega), bind_ok, back.fits _ (by rw [length_overwrite]; dsimp only; omega),
      overwrite_next _ _ _ _ _ rfl, List.length_append, Nat.add_assoc]
  · intro c full
    rw [List.length_append] at full
    by_cases room : c.pos + a.length ≤ c.buf.length
    · rw [front.fits c room, bind_ok]
      exact back.full _ (by rw [length_overwrite]; dsimp only; omega)
    · obtain ⟨panic, failed⟩ := front.full c (by omega)
      exact ⟨panic, by rw [failed, bind_error]⟩

theorem congr {writer : Cursor → Result Cursor} {a b : Buf} (emits : Emits writer a) (same : a = b) : Emits writer b :=
  same ▸ emits

variable {writer : Cursor → Result Cursor} {text buf : Buf}

theorem whole (emits : Emits writer text) (room : text.length ≤ buf.length) :
    writer { buf, pos := 0 } = .ok { buf := text ++ buf.drop text.length, pos := text.length } := by
  rw [emits.fits _ (by rw [Nat.zero_add]; exact room), overwrite_zero _ _ room, Nat.zero_add]

theorem panics (emits : Emits writer text) (full : buf.length < text.length) :
    ∃ panic, writer { buf, pos := 0 } = .error panic :=
  emits.full _ (by rw [Nat.zero_add]; exact full)

end Emits

end Checked
