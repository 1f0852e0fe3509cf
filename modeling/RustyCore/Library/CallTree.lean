import Mathlib.Order.WellFounded

/-! # Programs that call themselves

The body of a recursive procedure is a tree of calls: it returns a value, or asks for the value
of another call and goes on with the answer. A call returns if and only if no chain of calls
from it goes on for ever. -/

namespace RustyCore

universe u v w

/-- A computation that asks for the values `A` of calls `Q`. A computation is `stuck` when its
own loops run out of the steps they are given. -/
inductive CallTree (Q : Type u) (A : Type v) (α : Type w) : Type (max u v w) where
  | done (a : α)
  | stuck
  | call (q : Q) (next : A → CallTree Q A α)

namespace CallTree

variable {Q Q' : Type u} {A A' : Type v} {α β γ : Type w}

protected def bind : CallTree Q A α → (α → CallTree Q A β) → CallTree Q A β
  | done a, f => f a
  | stuck, _ => stuck
  | call q next, f => call q fun a => (next a).bind f

instance : Monad (CallTree Q A) where
  pure := done
  bind := CallTree.bind

/-- The value of a call. -/
def ask (q : Q) : CallTree Q A A := call q done

@[simp] theorem pure_eq (a : α) : (pure a : CallTree Q A α) = done a := rfl

@[simp] theorem done_bind (a : α) (f : α → CallTree Q A β) : (done a >>= f) = f a := rfl

@[simp] theorem stuck_bind (f : α → CallTree Q A β) : (stuck >>= f) = stuck := rfl

@[simp] theorem call_bind (q : Q) (next : A → CallTree Q A α) (f : α → CallTree Q A β) :
    (call q next >>= f) = call q fun a => next a >>= f := rfl

theorem bind_done (t : CallTree Q A α) : (t >>= done) = t := by
  induction t with
  | done a => rfl
  | stuck => rfl
  | call q next ih => simp only [call_bind, ih]

theorem bind_assoc' (t : CallTree Q A α) (f : α → CallTree Q A β) (g : β → CallTree Q A γ) :
    (t >>= f >>= g) = t >>= fun a => f a >>= g := by
  induction t with
  | done a => rfl
  | stuck => rfl
  | call q next ih => simp only [call_bind, ih]

instance : LawfulMonad (CallTree Q A) :=
  LawfulMonad.mk' _ bind_done (fun _ _ => rfl) bind_assoc'

/-! ## Evaluation -/

/-- The value of a computation whose calls are answered by `answer`. -/
def run (answer : Q → Option A) : CallTree Q A α → Option α
  | done a => some a
  | stuck => none
  | call q next => (answer q).bind fun a => (next a).run answer

theorem run_mono {answer answer' : Q → Option A}
    (h : ∀ q a, answer q = some a → answer' q = some a) {t : CallTree Q A α} {x : α}
    (hrun : t.run answer = some x) : t.run answer' = some x := by
  induction t with
  | done a => exact hrun
  | stuck => exact hrun
  | call q next ih =>
    obtain ⟨a, ha, hnext⟩ := Option.bind_eq_some_iff.mp hrun
    exact Option.bind_eq_some_iff.mpr ⟨a, h q a ha, ih a hnext⟩

end CallTree

open CallTree

section Recursion

variable {Q : Type u} {A : Type v} (body : Q → CallTree Q A A)
variable {q : Q} {allowed : Q → Prop} {depth : ℕ} {post : A → Prop}

/-- The value of a call whose own calls nest less than `depth` deep. -/
def recurse : ℕ → Q → Option A
  | 0, _ => none
  | depth + 1, q => (body q).run (recurse depth)

def Returns (q : Q) (a : A) : Prop := ∃ depth, recurse body depth q = some a

def Terminates (q : Q) : Prop := ∃ depth, (recurse body depth q).isSome

variable {body}

theorem recurse_mono {a : A} {depth' : ℕ} (hle : depth ≤ depth')
    (h : recurse body depth q = some a) : recurse body depth' q = some a := by
  induction depth generalizing depth' q a with
  | zero => cases h
  | succ depth ih =>
    obtain ⟨depth', rfl⟩ := Nat.exists_eq_add_of_le' (Nat.one_le_of_lt hle)
    exact run_mono (fun q a => ih (Nat.le_of_succ_le_succ hle)) h

theorem recurse_isSome_mono {depth' : ℕ} (hle : depth ≤ depth')
    (h : (recurse body depth q).isSome) : (recurse body depth' q).isSome := by
  obtain ⟨a, ha⟩ := Option.isSome_iff_exists.mp h
  exact Option.isSome_iff_exists.mpr ⟨a, recurse_mono hle ha⟩

theorem terminates_iff : Terminates body q ↔ ∃ a, Returns body q a := by
  simp only [Terminates, Returns, Option.isSome_iff_exists]
  exact exists_comm

theorem Returns.unique {a a' : A} (h : Returns body q a) (h' : Returns body q a') : a = a' := by
  obtain ⟨depth, h⟩ := h
  obtain ⟨depth', h'⟩ := h'
  have hmax := recurse_mono (Nat.le_max_left depth depth') h
  have hmax' := recurse_mono (Nat.le_max_right depth depth') h'
  exact Option.some.inj (hmax.symm.trans hmax')

/-! ## Chains of calls -/

variable (body) in
/-- The calls that a computation makes, each after those before it have returned. -/
inductive Reaches : {α : Type w} → CallTree Q A α → Q → Prop where
  | here {α : Type w} {q : Q} {next : A → CallTree Q A α} : Reaches (.call q next) q
  | later {α : Type w} {q q' : Q} {next : A → CallTree Q A α} {a : A} :
      Returns body q a → Reaches (next a) q' → Reaches (.call q next) q'

variable (body) in
/-- The evaluation of `q` calls `q'`. -/
def Calls (q' q : Q) : Prop := Reaches body (body q) q'

/-- The loops of a computation have enough steps, whatever its calls return, and `post` holds
of what it returns. -/
inductive CallTree.Always {α : Type w} (post : α → Prop) : CallTree Q A α → Prop where
  | done {a : α} : post a → Always post (.done a)
  | call {q : Q} {next : A → CallTree Q A α} :
      (∀ a, Always post (next a)) → Always post (.call q next)

theorem CallTree.Always.bind {α β : Type w} {post : α → Prop} {post' : β → Prop}
    {t : CallTree Q A α} {f : α → CallTree Q A β} (ht : Always post t)
    (hf : ∀ a, post a → Always post' (f a)) : Always post' (t >>= f) := by
  induction ht with
  | done ha => exact hf _ ha
  | call _ ih => exact .call ih

theorem CallTree.Always.mono {α : Type w} {post post' : α → Prop} {t : CallTree Q A α}
    (ht : Always post t) (h : ∀ a, post a → post' a) : Always post' t := by
  induction ht with
  | done ha => exact .done (h _ ha)
  | call _ ih => exact .call ih

/-- What a computation that returns has called returns as well. -/
theorem exists_recurse_of_reaches {α : Type w} {t : CallTree Q A α} {q' : Q}
    (hreach : Reaches body t q') (hrun : (t.run (recurse body depth)).isSome) :
    (recurse body depth q').isSome := by
  induction hreach with
  | here =>
    obtain ⟨x, hx⟩ := Option.isSome_iff_exists.mp hrun
    obtain ⟨a, ha, -⟩ := Option.bind_eq_some_iff.mp hx
    exact Option.isSome_iff_exists.mpr ⟨a, ha⟩
  | later hreturns _ ih =>
    obtain ⟨x, hx⟩ := Option.isSome_iff_exists.mp hrun
    obtain ⟨a, ha, hnext⟩ := Option.bind_eq_some_iff.mp hx
    refine ih (Option.isSome_iff_exists.mpr ⟨x, ?_⟩)
    rwa [← Returns.unique hreturns ⟨depth, ha⟩] at hnext

/-- A computation returns once all it calls does. -/
theorem exists_run_of_reaches {α : Type w} {post : α → Prop} {t : CallTree Q A α}
    (hsteps : Always post t) (hcalls : ∀ q', Reaches body t q' → Terminates body q') :
    ∃ depth, (t.run (recurse body depth)).isSome := by
  induction hsteps with
  | done _ => exact ⟨0, rfl⟩
  | @call q next _ ih =>
    obtain ⟨a, depth, ha⟩ := terminates_iff.mp (hcalls q .here)
    obtain ⟨depth', hnext⟩ := ih a fun q' hq' => hcalls q' (.later ⟨depth, ha⟩ hq')
    obtain ⟨x, hx⟩ := Option.isSome_iff_exists.mp hnext
    refine ⟨max depth depth', Option.isSome_iff_exists.mpr ⟨x, ?_⟩⟩
    refine Option.bind_eq_some_iff.mpr ⟨a, recurse_mono (Nat.le_max_left _ _) ha, ?_⟩
    exact run_mono (fun q a => recurse_mono (Nat.le_max_right _ _)) hx

variable (body) in
/-- The calls made directly or indirectly by `q`, itself included. -/
def CallsFrom : Q → Q → Prop := Relation.ReflTransGen fun q q' => Calls body q' q

theorem acc_of_terminates (h : Terminates body q) : Acc (Calls body) q := by
  obtain ⟨depth, h⟩ := h
  induction depth generalizing q with
  | zero => cases h
  | succ depth ih => exact ⟨q, fun q' hcall => ih (exists_recurse_of_reaches hcall h)⟩

theorem terminates_of_acc (hacc : Acc (Calls body) q)
    (hsteps : ∀ q', CallsFrom body q q' → Always post (body q')) : Terminates body q := by
  induction hacc with
  | intro q _ ih =>
    have hcalls : ∀ q', Calls body q' q → Terminates body q' := fun q' hcall =>
      ih q' hcall fun q'' hfrom => hsteps q'' (.head hcall hfrom)
    obtain ⟨depth, h⟩ := exists_run_of_reaches (hsteps q .refl) hcalls
    exact ⟨depth + 1, h⟩

/-- A call returns if and only if no chain of calls from it goes on for ever. -/
theorem terminates_iff_acc (hsteps : ∀ q, Always post (body q)) (q : Q) :
    Terminates body q ↔ Acc (Calls body) q :=
  ⟨acc_of_terminates, fun hacc => terminates_of_acc hacc fun q' _ => hsteps q'⟩

variable (body) in
/-- A chain of calls from `q`, each made by the one before, that goes on for ever. -/
def EndlessCalls (q : Q) : Prop :=
  ∃ chain : ℕ → Q, chain 0 = q ∧ ∀ n, Calls body (chain (n + 1)) (chain n)

theorem not_endlessCalls_iff_acc : ¬ EndlessCalls body q ↔ Acc (Calls body) q := by
  rw [EndlessCalls, ← not_acc_iff_exists_descending_chain, not_not]

theorem terminates_iff_not_endlessCalls (hsteps : ∀ q, Always post (body q)) (q : Q) :
    Terminates body q ↔ ¬ EndlessCalls body q := by
  rw [terminates_iff_acc hsteps, not_endlessCalls_iff_acc]

theorem endlessCalls_of_calls_self (h : Calls body q q) : EndlessCalls body q :=
  ⟨fun _ => q, rfl, fun _ => h⟩

/-! ## What is called -/

/-- The loops of a computation have enough steps, and all it ever calls lies in `allowed`. -/
inductive CallTree.Within {α : Type w} (allowed : Q → Prop) : CallTree Q A α → Prop where
  | done {a : α} : Within allowed (.done a)
  | call {q : Q} {next : A → CallTree Q A α} :
      allowed q → (∀ a, Within allowed (next a)) → Within allowed (.call q next)

theorem CallTree.Within.ask (h : allowed q) :
    Within allowed (CallTree.ask q : CallTree Q A A) := .call h fun _ => .done

theorem CallTree.Within.bind {α β : Type w} {t : CallTree Q A α} {f : α → CallTree Q A β}
    (ht : Within allowed t) (hf : ∀ a, Within allowed (f a)) : Within allowed (t >>= f) := by
  induction ht with
  | done => exact hf _
  | call hq _ ih => exact .call hq ih

theorem CallTree.Within.always {α : Type w} {t : CallTree Q A α} (ht : Within allowed t) :
    Always (fun _ => True) t := by
  induction ht with
  | done => exact .done trivial
  | call _ _ ih => exact .call ih

theorem CallTree.Within.of_reaches {α : Type w} {t : CallTree Q A α} (hreach : Reaches body t q)
    (ht : Within allowed t) : allowed q := by
  induction hreach with
  | here =>
    cases ht with
    | call hq _ => exact hq
  | later _ _ ih =>
    cases ht with
    | call _ hnext => exact ih (hnext _)

/-- A call returns if the calls that its body may make at all are well-founded. -/
theorem terminates_of_within {r : Q → Q → Prop} (hbody : ∀ q, Within (fun q' => r q' q) (body q))
    (hacc : Acc r q) : Terminates body q := by
  have hcalls : Acc (Calls body) q :=
    Subrelation.accessible (fun hcall => Within.of_reaches hcall (hbody _)) hacc
  exact terminates_of_acc hcalls fun q' _ => (hbody q').always

theorem CallTree.Within.isSome {α : Type w} {answer : Q → Option A} {t : CallTree Q A α}
    (ht : Within allowed t) (h : ∀ q, allowed q → (answer q).isSome) : (t.run answer).isSome := by
  induction ht with
  | done => rfl
  | call hq _ ih =>
    obtain ⟨a, ha⟩ := Option.isSome_iff_exists.mp (h _ hq)
    simp only [run, ha, Option.bind_some]
    exact ih a

/-- If what the calls are about branches finitely and is well-founded, one depth is enough for
all calls, whatever else they carry along. -/
theorem exists_depth {P ι : Type w} {r : P → P → Prop} {f : Q → P}
    {bodies : ι → Q → CallTree Q A A}
    (hbody : ∀ i q, Within (fun q' => r (f q') (f q)) (bodies i q))
    {successors : P → List P} (hsuccessors : ∀ p' p, r p' p → p' ∈ successors p) {p : P}
    (hacc : Acc r p) : ∃ depth, ∀ i q, Relation.ReflTransGen r (f q) p →
      (recurse (bodies i) depth q).isSome := by
  induction hacc with
  | intro p _ ih =>
    have hbound : ∀ ps : List P, ∃ bound, ∀ p' ∈ ps, r p' p → ∀ i q,
        Relation.ReflTransGen r (f q) p' → (recurse (bodies i) bound q).isSome := by
      intro ps
      induction ps with
      | nil => exact ⟨0, fun p' hmem => (List.not_mem_nil hmem).elim⟩
      | cons first ps ihps =>
        obtain ⟨bound, hbound⟩ := ihps
        by_cases hfirst : r first p
        · obtain ⟨depth, hdepth⟩ := ih first hfirst
          refine ⟨max depth bound, List.forall_mem_cons.mpr ⟨fun _ i q hfrom => ?_,
            fun p' hmem hp' i q hfrom => ?_⟩⟩
          · exact recurse_isSome_mono (le_max_left _ _) (hdepth i q hfrom)
          · exact recurse_isSome_mono (le_max_right _ _) (hbound p' hmem hp' i q hfrom)
        · exact ⟨bound, List.forall_mem_cons.mpr ⟨fun h => absurd h hfirst, hbound⟩⟩
    obtain ⟨bound, hbound⟩ := hbound (successors p)
    refine ⟨bound + 1, fun i q hfrom => ?_⟩
    rcases hfrom.cases_tail with heq | ⟨p', hfrom, hp'⟩
    · exact (hbody i q).isSome fun q' hq' =>
        hbound (f q') (hsuccessors _ _ (heq ▸ hq')) (heq ▸ hq') i q' .refl
    · exact recurse_isSome_mono (Nat.le_succ _)
        (hbound p' (hsuccessors _ _ hp') hp' i q hfrom)

/-- A computation that calls `q`, whatever its other calls return, if it returns at all. -/
inductive CallTree.Must {α : Type w} (q : Q) : CallTree Q A α → Prop where
  | stuck : Must q .stuck
  | here {next : A → CallTree Q A α} : Must q (.call q next)
  | later {q' : Q} {next : A → CallTree Q A α} :
      (∀ a, Must q (next a)) → Must q (.call q' next)

theorem CallTree.Must.bind_left {α β : Type w} {t : CallTree Q A α} {f : α → CallTree Q A β}
    (ht : Must q t) : Must q (t >>= f) := by
  induction ht with
  | stuck => exact .stuck
  | here => exact .here
  | later _ ih => exact .later ih

theorem CallTree.Must.bind_right {α β : Type w} (t : CallTree Q A α) {f : α → CallTree Q A β}
    (hf : ∀ a, Must q (f a)) : Must q (t >>= f) := by
  induction t with
  | done a => exact hf a
  | stuck => exact .stuck
  | call q' next ih => exact .later ih

theorem CallTree.Must.isSome {α : Type w} {t : CallTree Q A α} {answer : Q → Option A}
    (ht : Must q t) (hrun : (t.run answer).isSome) : (answer q).isSome := by
  induction ht with
  | stuck => cases hrun
  | here =>
    obtain ⟨x, hx⟩ := Option.isSome_iff_exists.mp hrun
    obtain ⟨a, ha, -⟩ := Option.bind_eq_some_iff.mp hx
    exact Option.isSome_iff_exists.mpr ⟨a, ha⟩
  | later _ ih =>
    obtain ⟨x, hx⟩ := Option.isSome_iff_exists.mp hrun
    obtain ⟨a, -, hnext⟩ := Option.bind_eq_some_iff.mp hx
    exact ih a (Option.isSome_iff_exists.mpr ⟨x, hnext⟩)

/-- A call returns only if the calls that its body must make are well-founded. -/
theorem acc_of_must {r : Q → Q → Prop} (hbody : ∀ q q', r q' q → Must q' (body q))
    (h : Terminates body q) : Acc r q := by
  obtain ⟨depth, h⟩ := h
  induction depth generalizing q with
  | zero => cases h
  | succ depth ih => exact ⟨q, fun q' hcall => ih ((hbody q q' hcall).isSome h)⟩

end Recursion

/-! ## Contracts -/

section Contracts

variable {Q : Type u} {A : Type v}

/-- A computation that calls only what satisfies `pre`, and whose value satisfies `post` as
long as every call keeps to `value`. -/
inductive CallTree.Meets {α : Type w} (pre : Q → Prop) (value : Q → A → Prop)
    (post : α → Prop) : CallTree Q A α → Prop where
  | done {a : α} : post a → Meets pre value post (.done a)
  | stuck : Meets pre value post .stuck
  | call {q : Q} {next : A → CallTree Q A α} :
      pre q → (∀ a, value q a → Meets pre value post (next a)) →
      Meets pre value post (.call q next)

variable {pre : Q → Prop} {value : Q → A → Prop}

theorem CallTree.Meets.bind {α β : Type w} {post : α → Prop} {post' : β → Prop}
    {t : CallTree Q A α} {f : α → CallTree Q A β} (ht : Meets pre value post t)
    (hf : ∀ a, post a → Meets pre value post' (f a)) : Meets pre value post' (t >>= f) := by
  induction ht with
  | done ha => exact hf _ ha
  | stuck => exact .stuck
  | call hq _ ih => exact .call hq ih

theorem CallTree.Meets.mono {α : Type w} {post post' : α → Prop} {t : CallTree Q A α}
    (ht : Meets pre value post t) (h : ∀ a, post a → post' a) : Meets pre value post' t := by
  induction ht with
  | done ha => exact .done (h _ ha)
  | stuck => exact .stuck
  | call hq _ ih => exact .call hq ih

theorem CallTree.Meets.run {α : Type w} {post : α → Prop} {answer : Q → Option A}
    (hanswer : ∀ q a, pre q → answer q = some a → value q a) {t : CallTree Q A α}
    (ht : Meets pre value post t) {x : α} (hrun : t.run answer = some x) : post x := by
  induction ht with
  | done ha =>
    cases hrun
    exact ha
  | stuck => cases hrun
  | call hq _ ih =>
    obtain ⟨a, ha, hnext⟩ := Option.bind_eq_some_iff.mp hrun
    exact ih a (hanswer _ a hq ha) hnext

/-- If every body keeps to the contract, so does every call. -/
theorem recurse_meets {body : Q → CallTree Q A A}
    (hbody : ∀ q, pre q → Meets pre value (value q) (body q)) {depth : ℕ} {q : Q} {a : A}
    (hq : pre q) (h : recurse body depth q = some a) : value q a := by
  induction depth generalizing q a with
  | zero => cases h
  | succ depth ih => exact (hbody q hq).run (fun q a => ih) h

end Contracts

/-! ## Runs -/

section Runs

variable {Q : Type u} {A : Type v} {answer : Q → Option A}

/-- The calls that a computation makes when `answer` answers them. -/
inductive CallTree.Asks {α : Type w} (answer : Q → Option A) : CallTree Q A α → Q → Prop where
  | here {q : Q} {next : A → CallTree Q A α} : Asks answer (.call q next) q
  | later {q q' : Q} {next : A → CallTree Q A α} {a : A} :
      answer q = some a → Asks answer (next a) q' → Asks answer (.call q next) q'

theorem CallTree.run_bind {α β : Type w} (t : CallTree Q A α) (f : α → CallTree Q A β) :
    (t >>= f).run answer = (t.run answer).bind fun a => (f a).run answer := by
  induction t with
  | done a => rfl
  | stuck => rfl
  | call q next ih =>
    simp only [call_bind, run, ih]
    cases answer q with
    | none => rfl
    | some a => rfl

theorem CallTree.run_ask (q : Q) : (CallTree.ask q : CallTree Q A A).run answer = answer q := by
  cases h : answer q with
  | none => simp only [CallTree.ask, run, h, Option.bind_none]
  | some a => simp only [CallTree.ask, run, h, Option.bind_some]

theorem CallTree.not_asks_done {α : Type w} {a : α} {q : Q} :
    ¬ Asks answer (.done a : CallTree Q A α) q := fun h => by cases h

/-- What a computation that returns goes on to ask. -/
theorem CallTree.asks_bind_iff {α β : Type w} {t : CallTree Q A α} {f : α → CallTree Q A β}
    {q : Q} {a : α} (hrun : t.run answer = some a) :
    Asks answer (t >>= f) q ↔ Asks answer t q ∨ Asks answer (f a) q := by
  induction t with
  | done b =>
    cases hrun
    simp only [done_bind, not_asks_done, false_or]
  | stuck => cases hrun
  | call q' next ih =>
    obtain ⟨b, hb, hnext⟩ := Option.bind_eq_some_iff.mp hrun
    constructor
    · intro h
      cases h with
      | here => exact .inl .here
      | later hb' hlater =>
        cases Option.some.inj (hb.symm.trans hb')
        exact ((ih b hnext).mp hlater).imp (.later hb) id
    · rintro (h | h)
      · cases h with
        | here => exact .here
        | later hb' hlater =>
          cases Option.some.inj (hb.symm.trans hb')
          exact .later hb ((ih b hnext).mpr (.inl hlater))
      · exact .later hb ((ih b hnext).mpr (.inr h))

end Runs

/-! ## Simulation -/

section Simulation

variable {Q Q' : Type u} {A A' : Type v}
variable {rel : Q → Q' → Prop} {value : Q' → A → A' → Prop}

/-- Two computations make related calls in the same order and return related values, as long
as related calls have related values; the first may get stuck. -/
inductive CallTree.Simulates {α β : Type w} (rel : Q → Q' → Prop) (value : Q' → A → A' → Prop)
    (result : α → β → Prop) : CallTree Q A α → CallTree Q' A' β → Prop where
  | done {a : α} {b : β} : result a b → Simulates rel value result (.done a) (.done b)
  | stuck {t' : CallTree Q' A' β} : Simulates rel value result .stuck t'
  | call {q : Q} {q' : Q'} {next : A → CallTree Q A α} {next' : A' → CallTree Q' A' β} :
      rel q q' → (∀ a a', value q' a a' → Simulates rel value result (next a) (next' a')) →
      Simulates rel value result (.call q next) (.call q' next')

theorem CallTree.Simulates.bind {α β α' β' : Type w} {result : α → β → Prop}
    {result' : α' → β' → Prop} {t : CallTree Q A α} {t' : CallTree Q' A' β}
    {f : α → CallTree Q A α'} {f' : β → CallTree Q' A' β'} (ht : Simulates rel value result t t')
    (hf : ∀ a b, result a b → Simulates rel value result' (f a) (f' b)) :
    Simulates rel value result' (t >>= f) (t' >>= f') := by
  induction ht with
  | done h => exact hf _ _ h
  | stuck => exact .stuck
  | call hrel _ ih => exact .call hrel ih

theorem CallTree.Simulates.run {α β : Type w} {result : α → β → Prop} {answer : Q → Option A}
    {answer' : Q' → Option A'}
    (hanswer : ∀ q q' a, rel q q' → answer q = some a → ∃ a', answer' q' = some a' ∧ value q' a a')
    {t : CallTree Q A α} {t' : CallTree Q' A' β} (ht : Simulates rel value result t t') {x : α}
    (hrun : t.run answer = some x) : ∃ y, t'.run answer' = some y ∧ result x y := by
  induction ht with
  | done h =>
    cases hrun
    exact ⟨_, rfl, h⟩
  | stuck => cases hrun
  | call hrel _ ih =>
    obtain ⟨a, ha, hnext⟩ := Option.bind_eq_some_iff.mp hrun
    obtain ⟨a', ha', hvalue⟩ := hanswer _ _ a hrel ha
    obtain ⟨y, hy, hresult⟩ := ih a a' hvalue hnext
    exact ⟨y, Option.bind_eq_some_iff.mpr ⟨a', ha', hy⟩, hresult⟩

/-- If each body simulates the body of the call it stands for, a call and what stands for it
return related values. -/
theorem recurse_simulates {body : Q → CallTree Q A A} {body' : Q' → CallTree Q' A' A'}
    (hbody : ∀ q q', rel q q' → Simulates rel value (value q') (body q) (body' q')) {depth : ℕ}
    {q : Q} {q' : Q'} {a : A} (hrel : rel q q') (h : recurse body depth q = some a) :
    ∃ a', recurse body' depth q' = some a' ∧ value q' a a' := by
  induction depth generalizing q q' a with
  | zero => cases h
  | succ depth ih =>
    have hanswer : ∀ q q' a, rel q q' → recurse body depth q = some a →
        ∃ a', recurse body' depth q' = some a' ∧ value q' a a' := fun _ _ _ hrel h => ih hrel h
    exact (hbody q q' hrel).run hanswer h

end Simulation

end RustyCore
