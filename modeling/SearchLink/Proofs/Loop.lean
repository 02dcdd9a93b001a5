import Mathlib.Logic.Relation

/-!
# `SearchLink.Proofs.Loop`: loops that end

A loop is given by one turn: from a state it goes on with another state, ends with a result, or
faults, as it does when it looks at a place that its text does not have. A loop is sound when its
turns keep an invariant, have less and less left, do not change the value that the loop is after,
and never fault (`Sound`). The inductions over turns are done here, once for all loops:

* `Sound.inv_of_reaches`: every state that a sound loop comes to is as the invariant says.
* `Sound.ends`: a sound loop ends with the value, after no more turns than are left and one.
-/

set_option autoImplicit false

namespace SearchLink

/-- What one turn of a loop comes to. -/
inductive Turn (σ ρ : Type) where
  /-- The loop goes on with a state. -/
  | next (s : σ)
  /-- The loop ends with a result. -/
  | done (r : ρ)
  /-- The turn has looked at a place that is not there. -/
  | fault
  deriving Repr, DecidableEq

namespace Loop

variable {σ ρ : Type} {turn : σ → Turn σ ρ}

/-- From one state a loop comes to another one, by any number of turns. -/
def Reaches (turn : σ → Turn σ ρ) : σ → σ → Prop :=
  Relation.ReflTransGen fun s s' => turn s = .next s'

/-- From a state a loop ends with a result, and that takes it a number of turns. -/
inductive Ends (turn : σ → Turn σ ρ) : σ → Nat → ρ → Prop
  | done {s : σ} {r : ρ} : turn s = .done r → Ends turn s 1 r
  | next {s s' : σ} {n : Nat} {r : ρ} :
      turn s = .next s' → Ends turn s' n r → Ends turn s (n + 1) r

/-- What a turn from a state may come to: a next state, with the invariant, less left and the
same value; the value itself; but no fault. -/
def SoundTurn (inv : σ → Prop) (left : σ → Nat) (value : σ → ρ) (s : σ) : Turn σ ρ → Prop
  | .next s' => inv s' ∧ left s' < left s ∧ value s' = value s
  | .done r => r = value s
  | .fault => False

/-- From every state with the invariant a loop takes such a turn. -/
def Sound (turn : σ → Turn σ ρ) (inv : σ → Prop) (left : σ → Nat) (value : σ → ρ) : Prop :=
  ∀ s, inv s → SoundTurn inv left value s (turn s)

section
variable {inv : σ → Prop} {left : σ → Nat} {value : σ → ρ} {s s' : σ}

/-- No turn of a sound loop faults. -/
theorem Sound.ne_fault (h : Sound turn inv left value) (hs : inv s) : turn s ≠ .fault := by
  intro hfault
  have hturn := h s hs
  rw [hfault] at hturn
  exact hturn

/-- A turn of a sound loop keeps the invariant. -/
theorem Sound.inv_of_next (h : Sound turn inv left value) (hs : inv s) (hnext : turn s = .next s') :
    inv s' := by
  have hturn := h s hs
  rw [hnext] at hturn
  exact hturn.1

/-- It leaves less than there was. -/
theorem Sound.left_lt_of_next (h : Sound turn inv left value) (hs : inv s)
    (hnext : turn s = .next s') : left s' < left s := by
  have hturn := h s hs
  rw [hnext] at hturn
  exact hturn.2.1

/-- Any number of turns keep the invariant. -/
theorem Sound.inv_of_reaches (h : Sound turn inv left value) (hs : inv s)
    (hreaches : Reaches turn s s') : inv s' := by
  induction hreaches with
  | refl => exact hs
  | tail _ hnext ih => exact h.inv_of_next ih hnext

/-- A sound loop ends with its value. Each turn but the last one pays for itself out of what is
left. -/
theorem Sound.ends (h : Sound turn inv left value) (hs : inv s) :
    ∃ n ≤ left s + 1, Ends turn s n (value s) := by
  induction hn : left s using Nat.strongRecOn generalizing s with
  | _ n ih =>
    subst hn
    have hturn := h s hs
    cases hstep : turn s with
    | next s' =>
      rw [hstep] at hturn
      obtain ⟨hinv, hleft, hvalue⟩ := hturn
      obtain ⟨n, hle, hends⟩ := ih (left s') hleft hinv rfl
      rw [hvalue] at hends
      exact ⟨n + 1, by omega, .next hstep hends⟩
    | done r =>
      rw [hstep] at hturn
      obtain rfl := hturn
      exact ⟨1, by omega, .done hstep⟩
    | fault =>
      rw [hstep] at hturn
      exact hturn.elim

end

end Loop

end SearchLink
