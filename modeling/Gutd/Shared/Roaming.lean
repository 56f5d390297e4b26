import Mathlib.Data.List.Basic

set_option autoImplicit false

-- A client says hello under an index of its own, the server answers with an index for the session, and the client
-- sends data under that. Notes are kept newest first.

namespace Roaming

variable {ι ε : Type} [DecidableEq ι]

inductive Note (ι ε : Type) where
  | hello (client : ι) (source : ε)
  | answer (session client : ι)
  | data (session : ι) (source : ε)
  deriving DecidableEq

def clientOf : List (Note ι ε) → ι → Option ι
  | [], _ => none
  | .answer session client :: earlier, i => if session = i then some client else clientOf earlier i
  | .hello _ _ :: earlier, i => clientOf earlier i
  | .data _ _ :: earlier, i => clientOf earlier i

def sourceOf : List (Note ι ε) → ι → Option ε
  | [], _ => none
  | .hello client source :: earlier, i => if client = i then some source else sourceOf earlier i
  | .data session source :: earlier, i => if clientOf earlier session = some i then some source else sourceOf earlier i
  | .answer _ _ :: earlier, i => sourceOf earlier i

theorem mem_of_sourceOf {notes : List (Note ι ε)} {i : ι} {source : ε} (known : sourceOf notes i = some source) :
    Note.hello i source ∈ notes ∨ ∃ session, Note.data session source ∈ notes := by
  induction notes with
  | nil => cases known
  | cons note earlier ih =>
      have older (known : sourceOf earlier i = some source) :
          Note.hello i source ∈ note :: earlier ∨ ∃ session, Note.data session source ∈ note :: earlier := by
        rcases ih known with hello | ⟨session, data⟩
        · exact .inl (List.mem_cons_of_mem _ hello)
        · exact .inr ⟨session, List.mem_cons_of_mem _ data⟩
      cases note with
      | hello client last =>
          rw [sourceOf] at known
          split_ifs at known with same
          · cases known
            cases same
            exact .inl List.mem_cons_self
          · exact older known
      | answer session client => exact older known
      | data session last =>
          rw [sourceOf] at known
          split_ifs at known
          · cases known
            exact .inr ⟨session, List.mem_cons_self⟩
          · exact older known

end Roaming
