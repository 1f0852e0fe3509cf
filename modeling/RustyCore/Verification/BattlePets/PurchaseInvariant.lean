import RustyCore.Verification.BattlePets.PurchaseFacts

/-! # The invariant of the purchases

A refund is committed for a request that no pet can be created for any more. Each statement
of a session keeps the invariant under what the session knows when it sends it. -/

namespace RustyCore.BattlePets

/-- The amounts that were charged for a request. -/
def charges (requestKey : RequestKey) (transfers : List MoneyTransfer) : List ℕ :=
  transfers.filterMap fun
    | .charge key amount => if key = requestKey then some amount else none
    | .refund _ _ => none

/-- The amounts that were refunded for a request. -/
def refunds (requestKey : RequestKey) (transfers : List MoneyTransfer) : List ℕ :=
  transfers.filterMap fun
    | .charge _ _ => none
    | .refund key amount => if key = requestKey then some amount else none

section Transfers

variable (requestKey key : RequestKey) (amount : ℕ) (transfers : List MoneyTransfer)

theorem charges_charge : charges requestKey (.charge key amount :: transfers) =
    if key = requestKey then amount :: charges requestKey transfers
    else charges requestKey transfers := by
  by_cases h : key = requestKey <;> simp [charges, h]

theorem charges_refund : charges requestKey (.refund key amount :: transfers) =
    charges requestKey transfers := by
  simp [charges]

theorem refunds_charge : refunds requestKey (.charge key amount :: transfers) =
    refunds requestKey transfers := by
  simp [refunds]

theorem refunds_refund : refunds requestKey (.refund key amount :: transfers) =
    if key = requestKey then amount :: refunds requestKey transfers
    else refunds requestKey transfers := by
  by_cases h : key = requestKey <;> simp [refunds, h]

end Transfers

namespace PurchaseState

variable {s : PurchaseState}

/-- The refund that a command has had: its price, once it is compensated. -/
def refundDue (command : PurchaseCommand) : Option ℕ :=
  if command.status = .compensated then some command.price else none

structure Sound (s : PurchaseState) : Prop where
  charged : ∀ requestKey, charges requestKey s.character.transfers =
    ((s.character.commands.find requestKey).map (·.price)).toList
  refunded : ∀ requestKey, refunds requestKey s.character.transfers =
    ((s.character.commands.find requestKey).bind refundDue).toList
  created : ∀ requestKey, s.createdPets.count requestKey =
    if (s.receipts.find requestKey).isSome then 1 else 0
  completed : ∀ requestKey, s.status requestKey = some .completed →
    s.receipts.find requestKey ≠ none
  compensated : ∀ requestKey, s.status requestKey = some .compensated → s.Clear requestKey
  adds : ∀ account requestKey durable, s.findCompleted account requestKey = some durable →
    s.receipts.find requestKey ≠ none
  reports : ∀ worker ∈ s.workers, AddWorker.ReportsReceipt s worker
  /-- A worker is of a command of its own account. -/
  owned : ∀ worker ∈ s.workers, ∃ command,
    s.character.commands.find worker.request.requestKey = some command ∧
      command.accountId = worker.account
  fences : ∀ worker ∈ s.workers, worker.fence ≤ s.generation worker.account
  leases : ∀ account fence, s.processLease account = some fence → fence ≤ s.generation account

theorem reportsReceipt_of_onward {s' : PurchaseState} (honward : Onward s s') {worker : AddWorker}
    (h : AddWorker.ReportsReceipt s worker) : AddWorker.ReportsReceipt s' worker := by
  obtain ⟨account, request, fence, stage⟩ := worker
  cases stage with
  | finishing result =>
    cases result with
    | error error => trivial
    | ok persisted => exact honward.hasReceipt h
  | finished result =>
    cases result with
    | error failure => trivial
    | ok outcome => exact honward.hasReceipt h
  | allocating | finding row | inserting row | reconciling row => trivial

theorem Sound.of_workers {s' : PurchaseState} (h : Sound s) (honward : Onward s s')
    (hreceipts : s'.receipts = s.receipts) (hcreated : s'.createdPets = s.createdPets)
    (hworkers : s'.workers = s.workers)
    (hadds : ∀ account requestKey durable, s'.findCompleted account requestKey = some durable →
      s.receipts.find requestKey ≠ none)
    (hgeneration : ∀ account, s.generation account ≤ s'.generation account)
    (hleases : ∀ account fence, s'.processLease account = some fence →
      fence ≤ s'.generation account) :
    Sound s' where
  charged requestKey := by
    rw [honward.transfers, honward.commands]
    exact h.charged requestKey
  refunded requestKey := by
    rw [honward.transfers, honward.commands]
    exact h.refunded requestKey
  created := by
    rw [hreceipts, hcreated]
    exact h.created
  completed requestKey hstatus := by
    rw [honward.status] at hstatus
    exact honward.hasReceipt (h.completed requestKey hstatus)
  compensated requestKey hstatus := by
    rw [honward.status] at hstatus
    exact honward.clear (h.compensated requestKey hstatus)
  adds := by
    rw [hreceipts]
    exact hadds
  reports worker hworker := by
    rw [hworkers] at hworker
    exact reportsReceipt_of_onward honward (h.reports worker hworker)
  owned worker hworker := by
    rw [hworkers] at hworker
    rw [honward.commands]
    exact h.owned worker hworker
  fences worker hworker := by
    rw [hworkers] at hworker
    exact (h.fences worker hworker).trans (hgeneration _)
  leases := hleases

theorem Sound.advanceFence (h : Sound s) (account : ℕ) : Sound (s.advanceFence account) := by
  have hgeneration := s.generation_advanceFence account
  exact h.of_workers (s.onward_advanceFence account) rfl rfl rfl h.adds hgeneration
    fun account' fence hlease => (h.leases account' fence hlease).trans (hgeneration account')

theorem Sound.loseLease (h : Sound s) (account : ℕ) : Sound (s.loseLease account) := by
  refine h.of_workers (s.onward_loseLease account) rfl rfl rfl h.adds (fun _ => le_rfl) ?_
  intro account' fence hlease
  change Function.update s.processLease account none account' = some fence at hlease
  by_cases haccount : account' = account
  · subst haccount
    rw [Function.update_self] at hlease
    cases hlease
  · rw [Function.update_of_ne haccount] at hlease
    exact h.leases account' fence hlease

theorem Sound.reacquire (h : Sound s) (account : ℕ) : Sound (s.reacquire account) := by
  have hadvanced := h.advanceFence account
  unfold PurchaseState.reacquire
  dsimp only
  split
  · exact hadvanced
  · refine hadvanced.of_workers (onward_of_workers rfl rfl rfl (fun _ => le_rfl) rfl) rfl rfl rfl
      (fun account' requestKey durable hfind => ?_) (fun _ => le_rfl) ?_
    · -- The reload forgets the completed adds of the account.
      unfold findCompleted at hfind
      by_cases haccount : account' = account
      · subst haccount
        simp at hfind
      · refine hadvanced.adds account' requestKey durable ?_
        simpa [findCompleted, Function.update_of_ne haccount] using hfind
    · intro account' fence hlease
      by_cases haccount : account' = account
      · subst haccount
        simp only [Function.update_self, Option.some.injEq] at hlease
        exact hlease.ge
      · simp only [Function.update_of_ne haccount] at hlease
        exact hadvanced.leases account' fence hlease

theorem Sound.stepWorker (h : Sound s) (catalog : Catalog) (i : ℕ) (w : Circumstance) :
    Sound (s.stepWorker catalog i w) := by
  have honward := s.onward_stepWorker catalog i w
  unfold PurchaseState.stepWorker at honward ⊢
  split
  · exact h
  case h_2 worker hworker =>
    rw [hworker] at honward
    have hstepped := AddWorker.stepped catalog worker w s
    have hmem : worker ∈ s.workers := List.mem_of_getElem? hworker
    have hreports := h.reports worker hmem
    -- Every worker is an old one, apart from the stage of this one.
    have hworkers : ∀ worker' ∈ (worker.step catalog w s).2.workers.set i
        { worker with stage := (worker.step catalog w s).1 },
        worker' ∈ s.workers ∨ worker' = { worker with stage := (worker.step catalog w s).1 } := by
      intro worker' hworker'
      rw [hstepped.workers] at hworker'
      exact List.mem_or_eq_of_mem_set hworker'
    refine {
      charged := fun requestKey => ?_
      refunded := fun requestKey => ?_
      created := fun requestKey => ?_
      completed := fun requestKey hstatus => ?_
      compensated := fun requestKey hstatus => ?_
      adds := fun account requestKey durable hfind => ?_
      reports := fun worker' hworker' => ?_
      owned := fun worker' hworker' => ?_
      fences := fun worker' hworker' => ?_
      leases := fun account fence hlease => ?_ }
    · rw [honward.transfers, honward.commands]
      exact h.charged requestKey
    · rw [honward.transfers, honward.commands]
      exact h.refunded requestKey
    · change (worker.step catalog w s).2.createdPets.count requestKey =
        if ((worker.step catalog w s).2.receipts.find requestKey).isSome then 1 else 0
      rcases hstepped.receipts with ⟨hsame, hcreated⟩ | ⟨-, -, ⟨row, hinsert⟩, hcreated⟩
      · rw [hsame, hcreated]
        exact h.created requestKey
      · have hnone := (KeyedTable.insert_eq_some hinsert).1
        have hcount := h.created requestKey
        rw [hcreated, KeyedTable.find_insert hinsert, List.count_cons, hcount]
        by_cases hkey : requestKey = worker.request.requestKey
        · subst hkey
          simp [hnone]
        · simp [hkey, Ne.symm hkey]
    · rw [honward.status] at hstatus
      exact honward.hasReceipt (h.completed requestKey hstatus)
    · rw [honward.status] at hstatus
      exact honward.clear (h.compensated requestKey hstatus)
    · rcases hstepped.adds hreports account requestKey durable hfind with hold | hnew
      · exact honward.hasReceipt (h.adds account requestKey durable hold)
      · exact hnew
    · rcases hworkers worker' hworker' with hworker' | rfl
      · exact reportsReceipt_of_onward honward (h.reports worker' hworker')
      · exact hstepped.reports hreports
    · rw [honward.commands]
      rcases hworkers worker' hworker' with hworker' | rfl
      · exact h.owned worker' hworker'
      · exact h.owned worker hmem
    · change worker'.fence ≤ (worker.step catalog w s).2.generation worker'.account
      rw [hstepped.generation]
      rcases hworkers worker' hworker' with hworker' | rfl
      · exact h.fences worker' hworker'
      · exact h.fences worker hmem
    · change (worker.step catalog w s).2.processLease account = some fence at hlease
      change fence ≤ (worker.step catalog w s).2.generation account
      rw [hstepped.processLease] at hlease
      rw [hstepped.generation]
      exact h.leases account fence hlease

theorem Sound.interfere (h : Sound s) (catalog : Catalog) (event : PurchaseEvent) :
    Sound (s.interfere catalog event) := by
  cases event with
  | work i w => exact h.stepWorker catalog i w
  | loseLease account => exact h.loseLease account
  | reacquire account =>
    rw [PurchaseState.interfere]
    split
    · exact h
    · exact h.reacquire account
  | otherProcess account => exact h.advanceFence account
  | changeMoney money =>
    exact h.of_workers (onward_of_workers rfl rfl rfl (fun _ => le_rfl) rfl) rfl rfl rfl h.adds
      (fun _ => le_rfl) h.leases
  | login | purchase | reply | stop | crash => exact h

theorem Sound.crash (h : Sound s) :
    Sound { s with processLease := fun _ => none, completedAdds := fun _ => [], workers := [] } where
  charged := h.charged
  refunded := h.refunded
  created := h.created
  completed := h.completed
  compensated requestKey hstatus :=
    ⟨(h.compensated requestKey hstatus).1, fun ⟨_, hworker, _⟩ => List.not_mem_nil hworker⟩
  adds _ _ _ hfind := by cases hfind
  reports _ hworker := absurd hworker List.not_mem_nil
  owned _ hworker := absurd hworker List.not_mem_nil
  fences _ hworker := absurd hworker List.not_mem_nil
  leases _ _ hlease := by cases hlease

theorem sound_initial (money : Option ℕ) (generation : ℕ → ℕ) :
    Sound (.initial money generation) where
  charged _ := rfl
  refunded _ := rfl
  created _ := rfl
  completed _ h := by cases h
  compensated _ h := by cases h
  adds _ _ _ h := by cases h
  reports _ h := absurd h List.not_mem_nil
  owned _ h := absurd h List.not_mem_nil
  fences _ h := absurd h List.not_mem_nil
  leases _ _ h := by cases h

end PurchaseState

end RustyCore.BattlePets
