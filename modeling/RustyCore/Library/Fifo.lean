import Mathlib.Data.List.Induction
import Mathlib.Data.List.TakeDrop
import RustyCore.Library.Run

/-! # Queues along a run

What is put into a queue and taken from it by the steps of a run, and the places in a list
that its first and its last element of a kind mark. -/

namespace RustyCore

variable {σ ο α : Type*} {step : σ → ο → σ}

/-! ## Outputs of a run -/

variable (step) in
/-- What the steps of a run put out, in order. -/
def runOutput (out : σ → ο → List α) : σ → List ο → List α
  | _, [] => []
  | s, op :: ops => out s op ++ runOutput out (step s op) ops

theorem runOutput_congr {out out' : σ → ο → List α} {good : σ → ο → Prop}
    (h : ∀ s op, good s op → out s op = out' s op) {s : σ} {ops : List ο}
    (hops : EachStep step good s ops) :
    runOutput step out s ops = runOutput step out' s ops := by
  induction ops generalizing s with
  | nil => rfl
  | cons op ops ih => rw [runOutput, runOutput, h s op hops.1, ih hops.2]

theorem runOutput_eq_flatMap (out : ο → List α) (s : σ) (ops : List ο) :
    runOutput step (fun _ op => out op) s ops = ops.flatMap out := by
  induction ops generalizing s with
  | nil => rfl
  | cons op ops ih => rw [runOutput, ih, List.flatMap_cons]

/-- What a run takes from a queue and what it leaves there is what was there and what came in. -/
theorem append_runOutput (content : σ → List α) (puts takes : σ → ο → List α)
    {good : σ → ο → Prop}
    (hstep : ∀ s op, good s op →
      content s ++ puts s op = takes s op ++ content (step s op))
    {s : σ} {ops : List ο} (hops : EachStep step good s ops) :
    content s ++ runOutput step puts s ops =
      runOutput step takes s ops ++ content (run step s ops) := by
  induction ops generalizing s with
  | nil => simp [runOutput]
  | cons op ops ih =>
    calc
      content s ++ runOutput step puts s (op :: ops)
          = (content s ++ puts s op) ++ runOutput step puts (step s op) ops := by
            simp [runOutput]
      _ = takes s op ++ (content (step s op) ++ runOutput step puts (step s op) ops) := by
            rw [hstep s op hops.1, List.append_assoc]
      _ = runOutput step takes s (op :: ops) ++ content (run step s (op :: ops)) := by
            rw [ih hops.2]
            simp [runOutput]

theorem eachStep_iff_forall {good : ο → Prop} (s : σ) (ops : List ο) :
    EachStep step (fun _ op => good op) s ops ↔ ∀ op ∈ ops, good op := by
  induction ops generalizing s with
  | nil => simp [EachStep]
  | cons op ops ih => simp [EachStep, ih]

/-- A flag that some steps raise, and that some lower, is up after a run exactly when it was
raised last. -/
theorem flag_run_iff (flag : σ → Prop) (raises lowers : σ → ο → Prop)
    (hstep : ∀ s op, flag (step s op) ↔ raises s op ∨ flag s ∧ ¬ lowers s op)
    {s : σ} (hs : ¬ flag s) (ops : List ο) :
    flag (run step s ops) ↔ ∃ before op after, ops = before ++ op :: after ∧
      raises (run step s before) op ∧
      EachStep step (fun s op => ¬ lowers s op) (run step s (before ++ [op])) after := by
  induction ops using List.reverseRecOn with
  | nil => simp [hs]
  | append_singleton ops last ih =>
    rw [run_concat, hstep, ih]
    constructor
    · rintro (hraise | ⟨⟨before, op, after, rfl, hop, hafter⟩, hlast⟩)
      · exact ⟨ops, last, [], rfl, hraise, trivial⟩
      · refine ⟨before, op, after ++ [last], by simp, hop, ?_⟩
        refine (eachStep_append step _ _ _ _).mpr ⟨hafter, ?_, trivial⟩
        rwa [← run_append, List.append_assoc]
    · rintro ⟨before, op, after, heq, hop, hafter⟩
      rcases List.eq_nil_or_concat after with rfl | ⟨after, last', rfl⟩
      · obtain ⟨rfl, hlast⟩ := List.append_inj' heq rfl
        exact .inl (List.singleton_inj.mp hlast ▸ hop)
      · have heq' : ops ++ [last] = (before ++ op :: after) ++ [last'] := by simp [heq]
        obtain ⟨rfl, hlast⟩ := List.append_inj' heq' rfl
        obtain rfl := List.singleton_inj.mp hlast
        rw [List.concat_eq_append] at hafter
        obtain ⟨hafter, hlast, -⟩ := (eachStep_append step _ _ _ _).mp hafter
        rw [← run_append, List.append_assoc] at hlast
        exact .inr ⟨⟨before, op, after, rfl, hop, hafter⟩, hlast⟩

/-! ## Marked places -/

/-- The place after the last element that satisfies `p`, or 0. -/
def afterLast (p : α → Bool) (xs : List α) : ℕ := xs.length - xs.reverse.findIdx p

theorem head?_drop_findIdx (p : α → Bool) (xs : List α) :
    ∀ x ∈ (xs.drop (xs.findIdx p)).head?, p x = true := by
  induction xs with
  | nil => simp
  | cons x xs ih =>
    cases hx : p x with
    | true => simp [List.findIdx_cons, hx]
    | false => simpa [List.findIdx_cons, hx] using ih

theorem afterLast_concat (p : α → Bool) (xs : List α) (x : α) :
    afterLast p (xs ++ [x]) = if p x then xs.length + 1 else afterLast p xs := by
  cases hx : p x with
  | true => simp [afterLast, List.findIdx_cons, hx]
  | false => simp [afterLast, List.findIdx_cons, hx]

theorem afterLast_le (p : α → Bool) (xs : List α) : afterLast p xs ≤ xs.length :=
  Nat.sub_le _ _

theorem forall_mem_drop_afterLast (p : α → Bool) (xs : List α) {n : ℕ}
    (hn : afterLast p xs ≤ n) : ∀ x ∈ xs.drop n, p x = false := by
  induction xs using List.reverseRecOn generalizing n with
  | nil => simp
  | append_singleton xs y ih =>
    rw [afterLast_concat] at hn
    intro x hx
    cases hy : p y with
    | true =>
      have hdrop : (xs ++ [y]).drop n = [] := by
        apply List.drop_eq_nil_of_le
        simpa [hy] using hn
      rw [hdrop] at hx
      exact absurd hx List.not_mem_nil
    | false =>
      rw [List.drop_append, List.mem_append] at hx
      rcases hx with hx | hx
      · exact ih (by simpa [hy] using hn) x hx
      · rw [List.mem_singleton.mp (List.mem_of_mem_drop hx)]
        exact hy

theorem getLast?_take_afterLast (p : α → Bool) (xs : List α) :
    ∀ x ∈ (xs.take (afterLast p xs)).getLast?, p x = true := by
  induction xs using List.reverseRecOn with
  | nil => simp [afterLast]
  | append_singleton xs y ih =>
    rw [afterLast_concat]
    cases hy : p y with
    | true =>
      rw [if_pos rfl, List.take_of_length_le (by simp)]
      simpa using hy
    | false => simpa [List.take_append_of_le_length (afterLast_le p xs)] using ih

theorem insertIdx_eq_take_drop (x : α) {n : ℕ} {xs : List α} (hn : n ≤ xs.length) :
    xs.insertIdx n x = xs.take n ++ x :: xs.drop n := by
  induction xs generalizing n with
  | nil => simp_all
  | cons y xs ih =>
    cases n with
    | zero => rfl
    | succ n => simp [ih (Nat.le_of_succ_le_succ hn)]

end RustyCore
