import Mathlib.Data.List.Basic
import Mathlib.Order.Nat

/-! # Runs of a step function

A run applies the operations of a list from left to right. Each invariant rule
turns a fact about one step into a fact about every run. -/

namespace RustyCore

variable {σ ο : Type*} (step : σ → ο → σ)
variable {ops : List ο} {good : σ → ο → Prop} {s : σ}

/-- The state reached from `s` by the operations `ops`, in order. -/
def run (s : σ) (ops : List ο) : σ := ops.foldl step s

@[simp] theorem run_nil (s : σ) : run step s [] = s := rfl

@[simp] theorem run_cons (s : σ) (op : ο) (ops : List ο) :
    run step s (op :: ops) = run step (step s op) ops := rfl

theorem run_append (s : σ) (ops ops' : List ο) :
    run step s (ops ++ ops') = run step (run step s ops) ops' :=
  List.foldl_append

theorem run_concat (s : σ) (ops : List ο) (op : ο) :
    run step s (ops ++ [op]) = step (run step s ops) op := by
  rw [run_append]
  rfl

/-- The condition `good` holds of every operation in the state where it is applied. -/
def EachStep (good : σ → ο → Prop) : σ → List ο → Prop
  | _, [] => True
  | s, op :: ops => good s op ∧ EachStep good (step s op) ops

instance EachStep.decidable (good : σ → ο → Prop) [∀ s op, Decidable (good s op)] :
    ∀ s ops, Decidable (EachStep step good s ops)
  | _, [] => isTrue trivial
  | s, op :: ops =>
    have := EachStep.decidable good (step s op) ops
    inferInstanceAs (Decidable (good s op ∧ EachStep step good (step s op) ops))

theorem eachStep_append (good : σ → ο → Prop) (s : σ) (ops ops' : List ο) :
    EachStep step good s (ops ++ ops') ↔
      EachStep step good s ops ∧ EachStep step good (run step s ops) ops' := by
  induction ops generalizing s with
  | nil => simp [EachStep]
  | cons op ops ih => simp [EachStep, ih, and_assoc]

variable {step}

theorem EachStep.of_forall (h : ∀ op ∈ ops, ∀ s, good s op) (s : σ) : EachStep step good s ops := by
  induction ops generalizing s with
  | nil => trivial
  | cons op ops ih =>
    exact ⟨h op (by simp) s, ih (fun op' hop => h op' (by simp [hop])) _⟩

theorem EachStep.of_initial {ops' : List ο} (h : EachStep step good s ops) (hinit : ops' <+: ops) :
    EachStep step good s ops' := by
  obtain ⟨rest, rfl⟩ := hinit
  exact ((eachStep_append step good s ops' rest).mp h).1

theorem EachStep.and {good' : σ → ο → Prop} (h : EachStep step good s ops)
    (h' : EachStep step good' s ops) :
    EachStep step (fun s op => good s op ∧ good' s op) s ops := by
  induction ops generalizing s with
  | nil => trivial
  | cons op ops ih => exact ⟨⟨h.1, h'.1⟩, ih h.2 h'.2⟩

/-- Two conditions that agree on the states of an invariant, which they keep, agree on runs. -/
theorem EachStep.iff_of_invariant {good' : σ → ο → Prop} (P : σ → Prop)
    (hiff : ∀ s op, P s → (good s op ↔ good' s op))
    (hstep : ∀ s op, P s → good' s op → P (step s op)) (hs : P s) (ops : List ο) :
    EachStep step good s ops ↔ EachStep step good' s ops := by
  induction ops generalizing s with
  | nil => exact Iff.rfl
  | cons op ops ih =>
    constructor
    · rintro ⟨hop, hops⟩
      have hop' := (hiff s op hs).mp hop
      exact ⟨hop', (ih (hstep s op hs hop')).mp hops⟩
    · rintro ⟨hop', hops⟩
      exact ⟨(hiff s op hs).mpr hop', (ih (hstep s op hs hop')).mpr hops⟩

/-- Along a run whose steps keep `P`, each step starts where `P` holds. -/
theorem EachStep.with_invariant (P : σ → Prop) (hstep : ∀ s op, P s → good s op → P (step s op))
    (hs : P s) (hops : EachStep step good s ops) :
    EachStep step (fun s op => P s ∧ good s op) s ops := by
  induction ops generalizing s with
  | nil => trivial
  | cons op ops ih => exact ⟨⟨hs, hops.1⟩, ih (hstep s op hs hops.1) hops.2⟩

/-- What only a part `π s` of the states is about can be followed on that part. -/
theorem eachStep_map_iff {τ : Type*} {step' : τ → ο → τ} {good' : τ → ο → Prop} (π : σ → τ)
    (hstep : ∀ s op, π (step s op) = step' (π s) op) (hgood : ∀ s op, good s op ↔ good' (π s) op)
    (s : σ) (ops : List ο) : EachStep step good s ops ↔ EachStep step' good' (π s) ops := by
  induction ops generalizing s with
  | nil => exact Iff.rfl
  | cons op ops ih => rw [EachStep, EachStep, hgood, ih, hstep]

/-- A condition without which a step loses `P` holds along every run that never loses it. -/
theorem EachStep.of_prefixes (P : σ → Prop) (hstep : ∀ s op, P (step s op) → good s op)
    (h : ∀ ops', ops' <+: ops → P (run step s ops')) : EachStep step good s ops := by
  induction ops generalizing s with
  | nil => trivial
  | cons op ops ih =>
    refine ⟨hstep s op (h [op] ⟨ops, rfl⟩), ih fun ops' hinit => ?_⟩
    exact h (op :: ops') (List.cons_prefix_cons.mpr ⟨rfl, hinit⟩)

/-- An invariant kept by every step that meets its condition holds after the run. -/
theorem run_invariant (P : σ → Prop) (hstep : ∀ s op, P s → good s op → P (step s op)) (hs : P s)
    (hops : EachStep step good s ops) : P (run step s ops) := by
  induction ops generalizing s with
  | nil => exact hs
  | cons op ops ih => exact ih (hstep s op hs hops.1) hops.2

theorem run_invariant_of_all (P : σ → Prop) (hstep : ∀ s op, P s → P (step s op)) (hs : P s)
    (ops : List ο) : P (run step s ops) := by
  have hops : EachStep step (fun _ _ => True) s ops := EachStep.of_forall (fun _ _ _ => trivial) s
  exact run_invariant P (fun s op h _ => hstep s op h) hs hops

/-- On legal runs, `P` holds after every initial part exactly when every step meets the
condition without which it loses `P`; the invariant `K` holds as long as they do. -/
theorem forall_prefixes_iff {legal : σ → ο → Prop} (K P : σ → Prop) (hP : ∀ s, K s → P s)
    (hstep : ∀ s op, K s → legal s op → good s op → K (step s op))
    (hgood : ∀ s op, K s → legal s op → P (step s op) → good s op) (hs : K s)
    (hlegal : EachStep step legal s ops) :
    (∀ ops', ops' <+: ops → P (run step s ops')) ↔ EachStep step good s ops := by
  induction ops generalizing s with
  | nil =>
    refine iff_of_true ?_ trivial
    rintro ops' hinit
    rw [List.prefix_nil.mp hinit]
    exact hP s hs
  | cons op ops ih =>
    constructor
    · intro h
      have hop := hgood s op hs hlegal.1 (h [op] ⟨ops, rfl⟩)
      refine ⟨hop, (ih (hstep s op hs hlegal.1 hop) hlegal.2).mp fun ops' hinit => ?_⟩
      exact h (op :: ops') (List.cons_prefix_cons.mpr ⟨rfl, hinit⟩)
    · rintro ⟨hop, hops⟩ ops' hinit
      have hrest := (ih (hstep s op hs hlegal.1 hop) hlegal.2).mpr hops
      rcases List.prefix_cons_iff.mp hinit with rfl | ⟨t, rfl, ht⟩
      · exact hP s hs
      · exact hrest t ht

/-- A measure that no step lowers, on the states of an invariant, is not lowered by a run. -/
theorem le_run_of_monotone (Q : σ → Prop) (hQ : ∀ s op, Q s → Q (step s op)) (m : σ → ℕ)
    (hm : ∀ s op, Q s → m s ≤ m (step s op)) (hs : Q s) (ops : List ο) :
    m s ≤ m (run step s ops) := by
  induction ops generalizing s with
  | nil => exact le_rfl
  | cons op ops ih => exact (hm s op hs).trans (ih (hQ s op hs))

/-- A property that each step keeps while a growing measure stays below a bound holds
of every run whose final measure is below that bound. -/
theorem run_invariant_below (Q P : σ → Prop) (hQ : ∀ s op, Q s → Q (step s op)) (m : σ → ℕ)
    (bound : ℕ) (hm : ∀ s op, Q s → m s ≤ m (step s op))
    (hstep : ∀ s op, Q s → P s → good s op → m (step s op) < bound → P (step s op)) (hs : Q s)
    (hp : P s) (hops : EachStep step good s ops) (hbound : m (run step s ops) < bound) :
    P (run step s ops) := by
  induction ops generalizing s with
  | nil => exact hp
  | cons op ops ih =>
    refine ih (hQ s op hs) (hstep s op hs hp hops.1 ?_) hops.2 hbound
    exact lt_of_le_of_lt (le_run_of_monotone Q hQ m hm (hQ s op hs) ops) hbound

/-! ## Sums over runs -/

variable (step) in
/-- The sum of `n` over the steps of a run. -/
def runSum (n : σ → ο → ℕ) : σ → List ο → ℕ
  | _, [] => 0
  | s, op :: ops => n s op + runSum n (step s op) ops

@[simp] theorem runSum_cons (n : σ → ο → ℕ) (s : σ) (op : ο) (ops : List ο) :
    runSum step n s (op :: ops) = n s op + runSum step n (step s op) ops := rfl

/-- What is gained in a run was there before or paid for, if that holds of each step. -/
theorem runSum_add_le {gain cost : σ → ο → ℕ} (potential : σ → ℕ) (s : σ)
    (hstep : ∀ op ∈ ops, ∀ s, gain s op + potential (step s op) ≤ cost s op + potential s) :
    runSum step gain s ops + potential (run step s ops) ≤
      runSum step cost s ops + potential s := by
  induction ops generalizing s with
  | nil => exact le_rfl
  | cons op ops ih =>
    have hfirst := hstep op (by simp) s
    have hrest := ih (step s op) fun op' hop => hstep op' (by simp [hop])
    simp only [runSum_cons, run_cons]
    omega

theorem runSum_congr {n n' : σ → ο → ℕ} (s : σ) (h : ∀ op ∈ ops, ∀ s, n s op = n' s op) :
    runSum step n s ops = runSum step n' s ops := by
  induction ops generalizing s with
  | nil => rfl
  | cons op ops ih =>
    have hrest := ih (step s op) fun op' hop => h op' (by simp [hop])
    simp only [runSum_cons, h op (by simp) s, hrest]

theorem runSum_eq_zero {n : σ → ο → ℕ} (s : σ) (h : ∀ op ∈ ops, ∀ s, n s op = 0) :
    runSum step n s ops = 0 := by
  induction ops generalizing s with
  | nil => rfl
  | cons op ops ih =>
    rw [runSum_cons, h op (by simp) s, ih (step s op) fun op' hop => h op' (by simp [hop])]

theorem runSum_eq_countP (p : ο → Bool) (s : σ) (ops : List ο) :
    runSum step (fun _ op => if p op then 1 else 0) s ops = ops.countP p := by
  induction ops generalizing s with
  | nil => rfl
  | cons op ops ih => rw [runSum_cons, ih, List.countP_cons, Nat.add_comm]

theorem runSum_append (n : σ → ο → ℕ) (s : σ) (ops ops' : List ο) :
    runSum step n s (ops ++ ops') = runSum step n s ops + runSum step n (run step s ops) ops' := by
  induction ops generalizing s with
  | nil => simp [runSum]
  | cons op ops ih => simp only [List.cons_append, runSum_cons, run_cons, ih, Nat.add_assoc]

/-! ## Refinement -/

/-- Runs of a step relation: each operation leads to one of the states it allows. -/
inductive RelRun {α : Type*} (allowed : α → ο → α → Prop) : α → List ο → α → Prop
  | nil (a : α) : RelRun allowed a [] a
  | cons {a b c : α} {op : ο} {ops : List ο} (first : allowed a op b)
      (rest : RelRun allowed b ops c) : RelRun allowed a (op :: ops) c

/-- Where each step of the code is allowed by an abstract step, so is each run. -/
theorem run_refines {α : Type*} {allowed : α → ο → α → Prop} (Represents : σ → α → Prop)
    (hstep : ∀ s a op, Represents s a → good s op →
      ∃ a', allowed a op a' ∧ Represents (step s op) a')
    {a : α} (hs : Represents s a) (hops : EachStep step good s ops) :
    ∃ a', RelRun allowed a ops a' ∧ Represents (run step s ops) a' := by
  induction ops generalizing s a with
  | nil => exact ⟨a, .nil a, hs⟩
  | cons op ops ih =>
    obtain ⟨b, first, hb⟩ := hstep s a op hs hops.1
    obtain ⟨c, rest, hc⟩ := ih hb hops.2
    exact ⟨c, .cons first rest, hc⟩

end RustyCore

/-! ## Deferred saves

A component keeps its dirty state until a save is confirmed. A save is captured at one
moment and committed or rolled back at a later one; the component is edited meanwhile,
and a confirmation has to be reconciled with these edits. -/

namespace RustyCore

/-- A component `μ` with edits `ε`, and the store `τ` it is saved to. -/
structure DeferredSave (μ τ ε : Type*) where
  edit : μ → ε → μ
  /-- The transaction of a captured component, if it succeeds. -/
  save : τ → μ → Option τ
  /-- The current component after a confirmed save of the captured one. -/
  acknowledge : μ → μ → μ

/-- What can happen, in any order. -/
inductive SaveOp (ε : Type*) where
  | edit (e : ε)
  | capture
  | commit
  | rollback

structure SaveState (μ τ : Type*) where
  memory : μ
  tables : τ
  /-- The captured component, while its save is in flight. -/
  inFlight : Option μ

namespace DeferredSave

variable {μ τ ε : Type*} (d : DeferredSave μ τ ε)

/-- One save is in flight at a time, and a commit whose transaction fails is a rollback. -/
def step (s : SaveState μ τ) : SaveOp ε → SaveState μ τ
  | .edit e => { s with memory := d.edit s.memory e }
  | .capture => { s with inFlight := some (s.inFlight.getD s.memory) }
  | .commit =>
    match s.inFlight with
    | none => s
    | some saved =>
      match d.save s.tables saved with
      | none => { s with inFlight := none }
      | some tables => ⟨d.acknowledge s.memory saved, tables, none⟩
  | .rollback => { s with inFlight := none }

/-- `Consistent` holds while nothing is in flight and `InFlight`, of the tables, the
captured component and the current one, while a save is. -/
def Kept (Consistent : μ → τ → Prop) (InFlight : τ → μ → μ → Prop) (s : SaveState μ τ) : Prop :=
  match s.inFlight with
  | none => Consistent s.memory s.tables
  | some saved => InFlight s.tables saved s.memory

/-- What has to be shown of each operation, when edits meet `good`. -/
structure Rules (Consistent : μ → τ → Prop) (InFlight : τ → μ → μ → Prop)
    (good : SaveState μ τ → SaveOp ε → Prop) : Prop where
  edit : ∀ memory tables e, Consistent memory tables → good ⟨memory, tables, none⟩ (.edit e) →
    Consistent (d.edit memory e) tables
  editInFlight : ∀ memory tables saved e, InFlight tables saved memory →
    good ⟨memory, tables, some saved⟩ (.edit e) → InFlight tables saved (d.edit memory e)
  capture : ∀ memory tables, Consistent memory tables → good ⟨memory, tables, none⟩ .capture →
    InFlight tables memory memory
  commit : ∀ memory tables saved, InFlight tables saved memory →
    good ⟨memory, tables, some saved⟩ .commit →
    ∃ tables', d.save tables saved = some tables' ∧
      Consistent (d.acknowledge memory saved) tables'
  rollback : ∀ memory tables saved, InFlight tables saved memory → Consistent memory tables

variable {d} {Consistent : μ → τ → Prop} {InFlight : τ → μ → μ → Prop}
  {good : SaveState μ τ → SaveOp ε → Prop}

/-- One operation keeps the component in step with its tables. -/
theorem Rules.step (h : d.Rules Consistent InFlight good) (s : SaveState μ τ) (op : SaveOp ε)
    (hs : Kept Consistent InFlight s) (hop : good s op) :
    Kept Consistent InFlight (d.step s op) := by
  obtain ⟨memory, tables, inFlight⟩ := s
  cases inFlight with
  | none =>
    cases op with
    | edit e => exact h.edit memory tables e hs hop
    | capture => exact h.capture memory tables hs hop
    | commit => exact hs
    | rollback => exact hs
  | some saved =>
    cases op with
    | edit e => exact h.editInFlight memory tables saved e hs hop
    | capture => exact hs
    | commit =>
      obtain ⟨tables', hsave, hconsistent⟩ := h.commit memory tables saved hs hop
      simp only [DeferredSave.step, hsave]
      exact hconsistent
    | rollback => exact h.rollback memory tables saved hs

end DeferredSave

end RustyCore
