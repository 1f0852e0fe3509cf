import Mathlib.Algebra.Group.Nat.Defs
import Mathlib.Logic.Relation

/-! # Programs that await

A program asks its surroundings for one thing after the other and goes on with each reply.
Between two calls the state is not its own: others may change it. What a program ensures is
therefore stated under their interference, and composed along its calls. -/

namespace RustyCore

/-- A program with calls `C`, the replies `R`, and a result in `α`. -/
inductive Await (C : Type) (R : C → Type) (α : Type) where
  | done (a : α)
  | call (c : C) (next : R c → Await C R α)

namespace Await

variable {C : Type} {R : C → Type} {α β ε σ : Type}

/-- Go on with the result. -/
def andThen : Await C R α → (α → Await C R β) → Await C R β
  | done a, f => f a
  | call c next, f => call c fun r => (next r).andThen f

instance : Monad (Await C R) where
  pure := done
  bind := andThen

/-- One call, whose reply is the result. -/
def ask (c : C) : Await C R (R c) := call c done

/-- Repeat a step that fails, as long as `again` says so, at most `n` more times. -/
def retry (again : ε → Bool) (step : Await C R (Except ε α)) : ℕ → Await C R (Except ε α)
  | 0 => step
  | n + 1 => do
      match ← step with
      | .ok a => pure (.ok a)
      | .error e => if again e then retry again step n else pure (.error e)

end Await

/-! ## What a program ensures -/

/-- The surroundings of a program: what a call does, given what decides it, what others may
do in between, the invariant, and when a call may be made. A call without a result waits. -/
structure Surroundings (C : Type) (R : C → Type) (ω σ : Type) where
  perform : (c : C) → ω → σ → Option (R c × σ)
  interferes : σ → σ → Prop
  invariant : σ → Prop
  allowed : σ → C → Prop

namespace Surroundings

variable {C : Type} {R : C → Type} {ω σ α β ε : Type} (m : Surroundings C R ω σ)
variable {s : σ} {P : σ → Prop} {Q : α → σ → Prop} {p : Await C R α}

/-- Others take any number of steps, and the invariant holds after them. -/
def Later (s s' : σ) : Prop := Relation.ReflTransGen m.interferes s s' ∧ m.invariant s'

/-- Whatever others do, every call keeps the invariant, and the result satisfies `Q`. -/
def Ensures : Await C R α → (α → σ → Prop) → σ → Prop
  | .done a, Q, s => ∀ s', m.Later s s' → Q a s'
  | .call c next, Q, s => ∀ s₁, m.Later s s₁ → m.allowed s₁ c →
      ∀ w r s₂, m.perform c w s₁ = some (r, s₂) → m.invariant s₂ ∧ Ensures (next r) Q s₂

/-- A fact that others do not take away. -/
def Stable (P : σ → Prop) : Prop :=
  ∀ s s', P s → m.interferes s s' → P s'

variable {m}

theorem Stable.later (hP : m.Stable P) {s' : σ} (h : P s) (hl : m.Later s s') : P s' := by
  obtain ⟨hsteps, -⟩ := hl
  induction hsteps with
  | refl => exact h
  | tail _ hstep ih => exact hP _ _ ih hstep

theorem Ensures.interfere {s' : σ} (h : m.Ensures p Q s) (hstep : m.interferes s s') :
    m.Ensures p Q s' := by
  cases p with
  | done a => exact fun s₁ hl => h s₁ ⟨hl.1.head hstep, hl.2⟩
  | call c next => exact fun s₁ hl => h s₁ ⟨hl.1.head hstep, hl.2⟩

theorem Ensures.mono {Q' : α → σ → Prop} (h : m.Ensures p Q s)
    (hQ : ∀ a s, m.invariant s → Q a s → Q' a s) : m.Ensures p Q' s := by
  induction p generalizing s with
  | done a => exact fun s' hl => hQ a s' hl.2 (h s' hl)
  | call c next ih =>
    intro s₁ hl hallowed w r s₂ hperform
    obtain ⟨hinv, hnext⟩ := h s₁ hl hallowed w r s₂ hperform
    exact ⟨hinv, ih r hnext⟩

theorem Ensures.pure (hP : m.Stable P) {a : α} (hQ : ∀ s, m.invariant s → P s → Q a s) (h : P s) :
    m.Ensures (Pure.pure a : Await C R α) Q s :=
  fun s' hl => hQ s' hl.2 (hP.later h hl)

theorem Ensures.call (hP : m.Stable P) {c : C} {next : R c → Await C R α}
    (hcall : ∀ s, m.invariant s → P s → m.allowed s c → ∀ w r s', m.perform c w s = some (r, s') →
      m.invariant s' ∧ m.Ensures (next r) Q s')
    (h : P s) : m.Ensures (.call c next) Q s :=
  fun s₁ hl hallowed => hcall s₁ hl.2 (hP.later h hl) hallowed

theorem Ensures.bind {f : α → Await C R β} {Q : β → σ → Prop}
    (h : m.Ensures p (fun a s' => m.Ensures (f a) Q s') s) : m.Ensures (p >>= f) Q s := by
  change m.Ensures (p.andThen f) Q s
  induction p generalizing s with
  | done a =>
    -- What `f` ensures after all interference, it ensures before.
    change ∀ s', m.Later s s' → m.Ensures (f a) Q s' at h
    change m.Ensures (f a) Q s
    generalize f a = p at h
    cases p with
    | done b => exact fun s' hl => h s' hl s' ⟨.refl, hl.2⟩
    | call c next => exact fun s₁ hl => h s₁ hl s₁ ⟨.refl, hl.2⟩
  | call c next ih =>
    intro s₁ hl hallowed w r s₂ hperform
    obtain ⟨hinv, hnext⟩ := h s₁ hl hallowed w r s₂ hperform
    exact ⟨hinv, ih r hnext⟩

/-- What comes next may rely on what was ensured. -/
theorem Ensures.andThen {f : α → Await C R β} {Q' : β → σ → Prop} (h : m.Ensures p Q s)
    (hf : ∀ a s, m.invariant s → Q a s → m.Ensures (f a) Q' s) : m.Ensures (p >>= f) Q' s :=
  .bind (h.mono hf)

/-- A step that keeps `P` where it fails keeps it through its repetitions. -/
theorem Ensures.retry {again : ε → Bool} {step : Await C R (Except ε α)}
    {Q : Except ε α → σ → Prop}
    (hstep : ∀ s, P s → m.Ensures step (fun r s' => Q r s' ∧ ∀ e, r = .error e → P s') s)
    (hQ : ∀ r, m.Stable (Q r)) (n : ℕ) (h : P s) : m.Ensures (Await.retry again step n) Q s := by
  induction n generalizing s with
  | zero => exact (hstep s h).mono fun _ _ _ hres => hres.1
  | succ n ih =>
    refine Ensures.bind ((hstep s h).mono fun r s' hinv hres => ?_)
    cases r with
    | ok a => exact Ensures.pure (hQ _) (fun _ _ hres => hres) hres.1
    | error e =>
      dsimp only
      split
      · exact ih (hres.2 e rfl)
      · exact Ensures.pure (hQ _) (fun _ _ hres => hres) hres.1

end Surroundings

end RustyCore
