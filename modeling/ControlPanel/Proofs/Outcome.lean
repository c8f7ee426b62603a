import Mathlib

namespace ControlPanel.Outcome

variable {ε α β : Type} {x : Except ε α}

@[simp] theorem bind_eq_ok_iff {f : α → Except ε β} {b : β} :
    (x >>= f) = .ok b ↔ ∃ a, x = .ok a ∧ f a = .ok b := by
  cases x with
  | error e => simp [bind, Except.bind]
  | ok a => simp [bind, Except.bind]

@[simp] theorem pure_eq_ok_iff {a b : α} : (pure a : Except ε α) = .ok b ↔ a = b := by
  simp [pure, Except.pure]

theorem ok_bind (a : α) (f : α → Except ε β) : (Except.ok a >>= f) = f a :=
  rfl

theorem map_eq_ok_iff {f : α → β} {b : β} : x.map f = .ok b ↔ ∃ a, x = .ok a ∧ f a = b := by
  cases x <;> simp [Except.map]

theorem exists_ok (h : x.toOption.isSome = true) : ∃ a, x = .ok a := by
  cases x with
  | error e => cases h
  | ok a => exact ⟨a, rfl⟩

theorem exists_error_iff : (∃ e, x = .error e) ↔ ¬ ∃ a, x = .ok a := by
  cases x <;> simp

section InPlace

variable {σ : Type} {x : EStateM ε σ α} {s s' : σ}

/-- What a computation gives. -/
def answer : EStateM.Result ε σ α → Except ε α
  | .ok a _ => .ok a
  | .error e _ => .error e

/-- The state that a computation leaves, also when it fails. -/
def left : EStateM.Result ε σ α → σ
  | .ok _ s => s
  | .error _ s => s

/-- The end of a computation that changes its state as a whole or not at all. -/
def wholly (s : σ) : Except ε (α × σ) → EStateM.Result ε σ α
  | .ok (a, s') => .ok a s'
  | .error e => .error e s

/-- A computation that changes its state as a whole or not at all. -/
def AllOrNothing (x : EStateM ε σ α) : Prop :=
  ∀ s, ∃ r, x s = wholly s r

theorem get_eq (s : σ) : (get : EStateM ε σ σ) s = .ok s s :=
  rfl

theorem bind_of_ok {f : α → EStateM ε σ β} {a : α} (h : x s = .ok a s') :
    (x >>= f) s = f a s' := by
  simp only [bind, EStateM.bind, h]

theorem bind_of_error {f : α → EStateM ε σ β} {e : ε} (h : x s = .error e s') :
    (x >>= f) s = .error e s' := by
  simp only [bind, EStateM.bind, h]

theorem map_of_wholly (f : α → β) {r : Except ε (α × σ)} (h : x s = wholly s r) :
    (f <$> x) s = wholly s (r.map fun p => (f p.1, p.2)) := by
  cases r <;> simp only [Functor.map, EStateM.map, h, wholly, Except.map]

theorem wholly_eq_ok_iff {r : Except ε (α × σ)} {a : α} :
    wholly s r = .ok a s' ↔ r = .ok (a, s') := by
  cases r with
  | error e => simp [wholly]
  | ok p => simp [wholly, Prod.ext_iff]

theorem exists_of_map_wholly {f : α → β} {r : Except ε (α × σ)} {b : β} (h : x s = wholly s r)
    (hb : (f <$> x) s = .ok b s') : ∃ a, r = .ok (a, s') ∧ f a = b := by
  rw [map_of_wholly f h, wholly_eq_ok_iff] at hb
  obtain ⟨⟨a, t⟩, hr, hp⟩ := map_eq_ok_iff.mp hb
  cases hp
  exact ⟨a, hr, rfl⟩

theorem answer_wholly (r : Except ε (α × σ)) : answer (wholly s r) = r.map Prod.fst := by
  cases r <;> rfl

theorem left_map (f : α → β) (x : EStateM ε σ α) (s : σ) : left ((f <$> x) s) = left (x s) := by
  cases h : x s <;> simp only [Functor.map, EStateM.map, h, left]

/-- What holds of the state before a computation and of the one after it if it succeeds. -/
theorem left_wholly {P : σ → Prop} {r : Except ε (α × σ)} (hs : P s)
    (hr : ∀ a s', r = .ok (a, s') → P s') : P (left (wholly s r)) := by
  cases r with
  | error e => exact hs
  | ok p => exact hr p.1 p.2 rfl

theorem AllOrNothing.map (h : AllOrNothing x) (f : α → β) : AllOrNothing (f <$> x) := by
  intro s
  obtain ⟨r, hr⟩ := h s
  exact ⟨_, map_of_wholly f hr⟩

theorem AllOrNothing.left_eq (h : AllOrNothing x) {e : ε} (he : x s = .error e s') : s' = s := by
  obtain ⟨r, hr⟩ := h s
  rw [hr] at he
  cases r with
  | error e => cases he; rfl
  | ok p => cases he

end InPlace

end ControlPanel.Outcome
