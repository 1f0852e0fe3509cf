import Mathlib.Data.Finset.Card
import RustyCore.Library.Run
import RustyCore.Model.Loot.Persistence

/-! # The save fence

The counters of the tracker count the handles its callers hold. Admission stays closed under
a fence, so that nothing new appears under a fence that has seen the tracker idle. -/

namespace RustyCore.Loot

open PersistenceTracker

variable {rail : PersistenceRail}

def Unapplied (applied : Finset ℕ) (completion : MoneyCompletion) : Bool :=
  decide (completion.applied ∉ applied)

/-- The counters agree with the handles, and the tracker holds every completion that is not
applied, each as often as it was committed. -/
structure RailSound (rail : PersistenceRail) : Prop where
  inFlight : rail.tracker.inFlight = rail.unresolved.card
  activeSaveFences : rail.tracker.activeSaveFences = rail.fences.card
  closed : rail.tracker.admissionClosed = true ↔
    rail.fences.Nonempty ∨ rail.tracker.permanentlyClosed = true
  fresh : ∀ handle, handle ∈ rail.unresolved ∨ handle ∈ rail.fences → handle < rail.nextHandle
  retained : (rail.committed.filter (Unapplied rail.applied)).Sublist rail.tracker.completions
  committed : rail.tracker.completions.Sublist rail.committed

theorem railSound_start : RailSound .start := by
  refine ⟨rfl, rfl, ?_, ?_, List.Sublist.refl _, List.Sublist.refl _⟩ <;>
    simp [PersistenceRail.start, PersistenceTracker.default]

/-! ## Pending completions -/

theorem subset_retainUnapplied (meanwhile : List (List ℕ)) (completions : List MoneyCompletion)
    (applied : Finset ℕ) : applied ⊆ (retainUnapplied meanwhile completions applied).2 := by
  induction completions generalizing meanwhile applied with
  | nil => exact Finset.Subset.refl _
  | cons completion rest ih => exact Finset.subset_union_left.trans (ih _ _)

theorem retainUnapplied_sublist (meanwhile : List (List ℕ)) (completions : List MoneyCompletion)
    (applied : Finset ℕ) :
    (retainUnapplied meanwhile completions applied).1.Sublist
      (completions.filter (Unapplied applied)) := by
  induction completions generalizing meanwhile applied with
  | nil => exact List.Sublist.refl _
  | cons completion rest ih =>
    simp only [retainUnapplied]
    generalize happlied : applied ∪ (meanwhile.headD []).toFinset = applied'
    have hsubset : applied ⊆ applied' := happlied ▸ Finset.subset_union_left
    have hrest : (retainUnapplied meanwhile.tail rest applied').1.Sublist
        (rest.filter (Unapplied applied)) := by
      refine (ih meanwhile.tail applied').trans (List.monotone_filter_right rest ?_)
      intro c hc
      rw [Unapplied, decide_eq_true_eq] at hc ⊢
      exact fun hmem => hc (hsubset hmem)
    split
    · exact hrest.trans ((List.sublist_cons_self _ _).filter _)
    · rename_i hnot
      have hhead : Unapplied applied completion = true :=
        decide_eq_true fun hmem => hnot (hsubset hmem)
      rw [List.filter_cons_of_pos hhead]
      exact hrest.cons_cons completion

theorem sublist_retainUnapplied (meanwhile : List (List ℕ)) (completions : List MoneyCompletion)
    (applied : Finset ℕ) :
    (completions.filter (Unapplied (retainUnapplied meanwhile completions applied).2)).Sublist
      (retainUnapplied meanwhile completions applied).1 := by
  induction completions generalizing meanwhile applied with
  | nil => exact List.Sublist.refl _
  | cons completion rest ih =>
    simp only [retainUnapplied]
    generalize happlied : applied ∪ (meanwhile.headD []).toFinset = applied'
    have hrest := ih meanwhile.tail applied'
    split
    · rename_i hmem
      have hlater := subset_retainUnapplied meanwhile.tail rest applied' hmem
      rw [List.filter_cons_of_neg (by simp [Unapplied, hlater])]
      exact hrest
    · by_cases hkept : Unapplied (retainUnapplied meanwhile.tail rest applied').2 completion = true
      · rw [List.filter_cons_of_pos hkept]
        exact hrest.cons_cons completion
      · rw [List.filter_cons_of_neg hkept]
        exact hrest.cons completion

/-- A call returns what is unapplied when it ends, and nothing that was applied before. -/
theorem RailSound.pending (h : RailSound rail) (meanwhile : List (List ℕ)) :
    (rail.committed.filter (Unapplied (rail.pendingCompletions meanwhile).2)).Sublist
      (rail.pendingCompletions meanwhile).1 ∧
    (rail.pendingCompletions meanwhile).1.Sublist
      (rail.committed.filter (Unapplied rail.applied)) := by
  have hsubset := subset_retainUnapplied meanwhile rail.tracker.completions rail.applied
  constructor
  · -- What is unapplied at the end was unapplied at the start, and so among the completions.
    have hlater : (rail.committed.filter (Unapplied (rail.pendingCompletions meanwhile).2)).Sublist
        (rail.tracker.completions.filter (Unapplied (rail.pendingCompletions meanwhile).2)) := by
      have hfilter : rail.committed.filter (Unapplied (rail.pendingCompletions meanwhile).2) =
          (rail.committed.filter (Unapplied rail.applied)).filter
            (Unapplied (rail.pendingCompletions meanwhile).2) := by
        rw [List.filter_filter]
        refine List.filter_congr fun c _ => ?_
        rw [Bool.eq_iff_iff, Bool.and_eq_true]
        refine ⟨fun hc => ⟨hc, ?_⟩, fun hc => hc.1⟩
        rw [Unapplied, decide_eq_true_eq] at hc ⊢
        exact fun hmem => hc (hsubset hmem)
      rw [hfilter]
      exact h.retained.filter _
    exact hlater.trans (sublist_retainUnapplied _ _ _)
  · exact (retainUnapplied_sublist _ _ _).trans (h.committed.filter _)

/-! ## Steps -/

theorem RailSound.finishGuard (h : RailSound rail) (handle : ℕ)
    (completion : Option MoneyCompletion) (indeterminate : Bool) :
    RailSound (rail.finishGuard handle completion indeterminate) := by
  rw [PersistenceRail.finishGuard]
  split
  · rename_i hmem
    refine ⟨?_, h.activeSaveFences, ?_, ?_, ?_, h.committed.append (List.Sublist.refl _)⟩
    · rw [Finset.card_erase_of_mem hmem, ← h.inFlight]
      rfl
    · simp only [finish, Bool.or_eq_true]
      rw [h.closed, or_assoc]
    · intro other hother
      exact h.fresh other (hother.imp_left Finset.mem_of_mem_erase)
    · rw [List.filter_append]
      exact h.retained.append List.filter_sublist
  · exact h

theorem RailSound.step (h : RailSound rail) (call : PersistenceCall) :
    RailSound (persistenceStep rail call) := by
  cases call with
  | begin =>
    simp only [persistenceStep, PersistenceTracker.begin]
    cases hclosed : rail.tracker.admissionClosed with
    | true => exact h
    | false =>
      have hnew : rail.nextHandle ∉ rail.unresolved := fun hmem =>
        lt_irrefl _ (h.fresh _ (.inl hmem))
      simp only [Bool.false_eq_true, if_false]
      refine ⟨?_, h.activeSaveFences, ?_, ?_, h.retained, h.committed⟩
      · rw [Finset.card_insert_of_notMem hnew, ← h.inFlight]
      · rw [← hclosed]
        exact h.closed
      · intro handle hhandle
        rcases hhandle with hmem | hmem
        · rcases Finset.mem_insert.mp hmem with rfl | hmem
          · exact Nat.lt_succ_self _
          · exact Nat.lt_succ_of_lt (h.fresh handle (.inl hmem))
        · exact Nat.lt_succ_of_lt (h.fresh handle (.inr hmem))
  | commit handle completion => exact h.finishGuard handle (some completion) false
  | markGuardIndeterminate handle => exact h.finishGuard handle none true
  | dropGuard handle =>
    have h' := h.finishGuard handle none false
    exact ⟨h'.inFlight, h'.activeSaveFences, h'.closed, h'.fresh, h'.retained, h'.committed⟩
  | closeAdmissionForSave =>
    have hnew : rail.nextHandle ∉ rail.fences := fun hmem =>
      lt_irrefl _ (h.fresh _ (.inr hmem))
    refine ⟨h.inFlight, ?_, ?_, ?_, h.retained, h.committed⟩
    · simp only [persistenceStep, closeAdmissionForSave]
      rw [Finset.card_insert_of_notMem hnew, h.activeSaveFences]
    · exact iff_of_true rfl (.inl (Finset.insert_nonempty _ _))
    · intro handle hhandle
      rcases hhandle with hmem | hmem
      · exact Nat.lt_succ_of_lt (h.fresh handle (.inl hmem))
      · rcases Finset.mem_insert.mp hmem with rfl | hmem
        · exact Nat.lt_succ_self _
        · exact Nat.lt_succ_of_lt (h.fresh handle (.inr hmem))
  | dropFence handle =>
    simp only [persistenceStep]
    split
    · rename_i hmem
      have hcard := Finset.card_erase_of_mem hmem
      refine ⟨h.inFlight, ?_, ?_, ?_, h.retained, h.committed⟩
      · rw [hcard, ← h.activeSaveFences]
        rfl
      · have hclosed : rail.tracker.admissionClosed = true := h.closed.mpr (.inl ⟨handle, hmem⟩)
        have hleft : (rail.fences.erase handle).Nonempty ↔
            ¬ rail.tracker.activeSaveFences - 1 = 0 := by
          rw [← Finset.card_pos, hcard, ← h.activeSaveFences]
          omega
        simp only [dropSaveFence, hleft]
        cases rail.tracker.permanentlyClosed <;> simp [hclosed]
      · intro other hother
        exact h.fresh other (hother.imp_right Finset.mem_of_mem_erase)
    · exact h
  | closeAdmissionPermanently =>
    exact ⟨h.inFlight, h.activeSaveFences, iff_of_true rfl (.inr rfl), h.fresh, h.retained,
      h.committed⟩
  | markIndeterminate =>
    exact ⟨h.inFlight, h.activeSaveFences, iff_of_true rfl (.inr rfl), h.fresh, h.retained,
      h.committed⟩
  | setApplied flag =>
    refine ⟨h.inFlight, h.activeSaveFences, h.closed, h.fresh, ?_, h.committed⟩
    refine (List.monotone_filter_right _ fun c hc => ?_).trans h.retained
    rw [Unapplied, decide_eq_true_eq] at hc ⊢
    exact fun hmem => hc (Finset.mem_insert_of_mem hmem)
  | pendingCompletions meanwhile =>
    obtain ⟨hretained, hcommitted⟩ := h.pending meanwhile
    exact ⟨h.inFlight, h.activeSaveFences, h.closed, h.fresh, hretained,
      hcommitted.trans List.filter_sublist⟩

theorem railSound_run (calls : List PersistenceCall) :
    RailSound (run persistenceStep .start calls) :=
  run_invariant_of_all RailSound (fun _ call h => h.step call) railSound_start calls

/-! ## Permanent closure -/

/-- The call closes the tracker for good. -/
def Seals (rail : PersistenceRail) : PersistenceCall → Prop
  | .closeAdmissionPermanently | .markIndeterminate => True
  | .markGuardIndeterminate handle => handle ∈ rail.unresolved
  | _ => False

/-- Some call of the run has closed the tracker for good. -/
def Sealed (calls : List PersistenceCall) : Prop :=
  ∃ before call after, calls = before ++ call :: after ∧
    Seals (run persistenceStep .start before) call

theorem permanentlyClosed_step (rail : PersistenceRail) (call : PersistenceCall) :
    (persistenceStep rail call).tracker.permanentlyClosed = true ↔
      rail.tracker.permanentlyClosed = true ∨ Seals rail call := by
  cases call with
  | begin =>
    simp only [persistenceStep, Seals, PersistenceTracker.begin, or_false]
    cases rail.tracker.admissionClosed <;> rfl
  | commit handle completion =>
    simp only [persistenceStep, Seals, PersistenceRail.finishGuard, or_false]
    split <;> simp [finish]
  | markGuardIndeterminate handle =>
    simp only [persistenceStep, Seals, PersistenceRail.finishGuard]
    split <;> simp [finish, *]
  | dropGuard handle =>
    simp only [persistenceStep, Seals, PersistenceRail.finishGuard, or_false]
    split <;> simp [finish]
  | closeAdmissionForSave => simp [persistenceStep, Seals, closeAdmissionForSave]
  | dropFence handle =>
    simp only [persistenceStep, Seals, or_false]
    split <;> rfl
  | closeAdmissionPermanently => simp [persistenceStep, Seals, closeAdmissionPermanently]
  | markIndeterminate => simp [persistenceStep, Seals, PersistenceTracker.markIndeterminate]
  | setApplied flag => simp [persistenceStep, Seals]
  | pendingCompletions meanwhile => simp [persistenceStep, Seals]

theorem permanentlyClosed_iff_sealed (calls : List PersistenceCall) :
    (run persistenceStep .start calls).tracker.permanentlyClosed = true ↔ Sealed calls := by
  induction calls using List.reverseRecOn with
  | nil =>
    refine iff_of_false Bool.false_ne_true ?_
    rintro ⟨before, call, after, hcalls, -⟩
    simp at hcalls
  | append_singleton calls call ih =>
    rw [run_concat, permanentlyClosed_step, ih]
    constructor
    · rintro (⟨before, call', after, rfl, hseals⟩ | hseals)
      · exact ⟨before, call', after ++ [call], by simp, hseals⟩
      · exact ⟨calls, call, [], rfl, hseals⟩
    · rintro ⟨before, call', after, hcalls, hseals⟩
      rcases List.eq_nil_or_concat after with rfl | ⟨after', last, rfl⟩
      · obtain ⟨rfl, hcall⟩ := List.append_inj' hcalls rfl
        cases hcall
        exact .inr hseals
      · have hsplit : calls ++ [call] = (before ++ call' :: after') ++ [last] := by
          rw [hcalls]
          simp
        obtain ⟨rfl, -⟩ := List.append_inj' hsplit rfl
        exact .inl ⟨before, call', after', rfl, hseals⟩

/-! ## Under a fence -/

/-- The rail is idle under the fence `handle`, with nothing that was not there in `rail`. -/
structure IdleUnder (rail : PersistenceRail) (handle : ℕ) (rail' : PersistenceRail) : Prop where
  sound : RailSound rail'
  fence : handle ∈ rail'.fences
  unresolved : rail'.unresolved = ∅
  resolved : rail'.resolved ⊆ rail.resolved
  committed : rail'.committed = rail.committed

theorem IdleUnder.step {rail' : PersistenceRail} {handle : ℕ} (h : IdleUnder rail handle rail')
    {call : PersistenceCall} (hcall : call ≠ .dropFence handle) :
    IdleUnder rail handle (persistenceStep rail' call) := by
  have hsound := h.sound.step call
  have hclosed : rail'.tracker.admissionClosed = true := h.sound.closed.mpr (.inl ⟨handle, h.fence⟩)
  -- Nothing is left to resolve, so that the calls of registrations do nothing.
  have hfinish : ∀ other completion indeterminate,
      rail'.finishGuard other completion indeterminate = rail' := by
    intro other completion indeterminate
    rw [PersistenceRail.finishGuard, h.unresolved, if_neg (Finset.notMem_empty other)]
  cases call with
  | begin =>
    simp only [persistenceStep, PersistenceTracker.begin, hclosed, if_true]
    exact h
  | commit other completion =>
    simp only [persistenceStep, hfinish]
    exact h
  | markGuardIndeterminate other =>
    simp only [persistenceStep, hfinish]
    exact h
  | dropGuard other =>
    refine ⟨hsound, ?_, ?_, ?_, ?_⟩ <;> simp only [persistenceStep, hfinish]
    · exact h.fence
    · exact h.unresolved
    · exact (Finset.erase_subset _ _).trans h.resolved
    · exact h.committed
  | closeAdmissionForSave =>
    exact ⟨hsound, Finset.mem_insert_of_mem h.fence, h.unresolved, h.resolved, h.committed⟩
  | dropFence other =>
    have hne : handle ≠ other := by
      rintro rfl
      exact hcall rfl
    refine ⟨hsound, ?_, ?_, ?_, ?_⟩ <;> simp only [persistenceStep] <;> split
    · exact Finset.mem_erase_of_ne_of_mem hne h.fence
    · exact h.fence
    · exact h.unresolved
    · exact h.unresolved
    · exact h.resolved
    · exact h.resolved
    · exact h.committed
    · exact h.committed
  | closeAdmissionPermanently =>
    exact ⟨hsound, h.fence, h.unresolved, h.resolved, h.committed⟩
  | markIndeterminate => exact ⟨hsound, h.fence, h.unresolved, h.resolved, h.committed⟩
  | setApplied flag => exact ⟨hsound, h.fence, h.unresolved, h.resolved, h.committed⟩
  | pendingCompletions meanwhile =>
    exact ⟨hsound, h.fence, h.unresolved, h.resolved, h.committed⟩

theorem idleUnder_run (hsound : RailSound rail) {handle : ℕ} (hfence : handle ∈ rail.fences)
    (hidle : rail.tracker.inFlight = 0) {later : List PersistenceCall}
    (hlater : .dropFence handle ∉ later) :
    IdleUnder rail handle (run persistenceStep rail later) := by
  have hunresolved : rail.unresolved = ∅ := by
    rw [← Finset.card_eq_zero, ← hsound.inFlight, hidle]
  have hlegal : EachStep persistenceStep (fun _ call => call ≠ .dropFence handle) rail later :=
    .of_forall (fun call hmem _ => ne_of_mem_of_not_mem hmem hlater) rail
  exact run_invariant (IdleUnder rail handle) (fun _ _ h hcall => h.step hcall)
    ⟨hsound, hfence, hunresolved, Finset.Subset.refl _, rfl⟩ hlegal

/-- In every run, the registrations in flight are the unresolved ones; admission is closed by
a live fence or for good; under a fence that has seen the tracker idle no registration and
no completion appears; and a call for the pending completions returns those that are
committed and not applied, each once. -/
theorem save_fence_sound (calls : List PersistenceCall) :
    (run persistenceStep .start calls).tracker.inFlight =
      (run persistenceStep .start calls).unresolved.card ∧
    ((run persistenceStep .start calls).tracker.admissionClosed = true ↔
      (run persistenceStep .start calls).fences.Nonempty ∨ Sealed calls) ∧
    (∀ handle ∈ (run persistenceStep .start calls).fences,
      (run persistenceStep .start calls).tracker.inFlight = 0 →
      ∀ later, .dropFence handle ∉ later →
        (run persistenceStep .start (calls ++ later)).unresolved = ∅ ∧
        (run persistenceStep .start (calls ++ later)).resolved ⊆
          (run persistenceStep .start calls).resolved ∧
        (run persistenceStep .start (calls ++ later)).committed =
          (run persistenceStep .start calls).committed) ∧
    ∀ meanwhile,
      ((run persistenceStep .start calls).committed.filter
        (Unapplied ((run persistenceStep .start calls).pendingCompletions meanwhile).2)).Sublist
        ((run persistenceStep .start calls).pendingCompletions meanwhile).1 ∧
      ((run persistenceStep .start calls).pendingCompletions meanwhile).1.Sublist
        ((run persistenceStep .start calls).committed.filter
          (Unapplied (run persistenceStep .start calls).applied)) := by
  have hsound := railSound_run calls
  refine ⟨hsound.inFlight, ?_, ?_, hsound.pending⟩
  · rw [hsound.closed, permanentlyClosed_iff_sealed]
  · intro handle hfence hidle later hlater
    rw [run_append]
    have h := idleUnder_run hsound hfence hidle hlater
    exact ⟨h.unresolved, h.resolved, h.committed⟩

/-- A fence keeps a late registration out; the earlier one commits under it. -/
example : (run persistenceStep .start [.begin, .closeAdmissionForSave, .begin,
    .commit 0 ⟨40, 47, 7, 0⟩, .dropGuard 0, .dropFence 1, .begin]).unresolved = {2} := by
  decide

end RustyCore.Loot
