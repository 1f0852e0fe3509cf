import RustyCore.Model.BattlePets.PurchaseRuns

/-! # What stays true while a session waits

The commands of the character change only through its own session. The rest of the server
adds receipts and advances fences; it never takes a receipt away, and it never makes a
request insertable that was not. -/

namespace RustyCore.BattlePets

variable {requestKey : RequestKey}

namespace PurchaseState

variable {s s' : PurchaseState}

def status (s : PurchaseState) (requestKey : RequestKey) : Option PurchaseStatus :=
  (s.character.commands.find requestKey).map (·.status)

/-- A worker of the request may still commit its pet: its transaction is not decided, and no
later generation has superseded its fence. -/
def InFlight (s : PurchaseState) (requestKey : RequestKey) : Prop :=
  ∃ worker ∈ s.workers, worker.request.requestKey = requestKey ∧ worker.mayInsert = true ∧
    s.generation worker.account ≤ worker.fence

/-- The request has no receipt, and no worker will write one. -/
def Clear (s : PurchaseState) (requestKey : RequestKey) : Prop :=
  s.receipts.find requestKey = none ∧ ¬s.InFlight requestKey

/-- What the session may rely on, whatever the rest of the server does. -/
structure Onward (s s' : PurchaseState) : Prop where
  commands : s'.character.commands = s.character.commands
  transfers : s'.character.transfers = s.character.transfers
  receipts : ∀ requestKey receipt, s.receipts.find requestKey = some receipt →
    s'.receipts.find requestKey = some receipt
  written : ∀ requestKey, s.receipts.find requestKey = none →
    s'.receipts.find requestKey ≠ none → s.InFlight requestKey
  inFlight : ∀ requestKey, s'.InFlight requestKey → s.InFlight requestKey

theorem Onward.refl (s : PurchaseState) : Onward s s :=
  ⟨rfl, rfl, fun _ _ h => h, fun _ h h' => absurd h h', fun _ h => h⟩

theorem Onward.status (h : Onward s s') (requestKey : RequestKey) :
    s'.status requestKey = s.status requestKey := by
  rw [PurchaseState.status, PurchaseState.status, h.commands]

theorem Onward.hasReceipt (h : Onward s s') (hreceipt : s.receipts.find requestKey ≠ none) :
    s'.receipts.find requestKey ≠ none := by
  obtain ⟨receipt, hfind⟩ := Option.ne_none_iff_exists'.mp hreceipt
  rw [h.receipts requestKey receipt hfind]
  exact Option.some_ne_none receipt

theorem Onward.clear (h : Onward s s') (hclear : s.Clear requestKey) : s'.Clear requestKey := by
  obtain ⟨hnone, hflight⟩ := hclear
  refine ⟨?_, fun hflight' => hflight (h.inFlight requestKey hflight')⟩
  by_contra hreceipt
  exact hflight (h.written requestKey hnone hreceipt)

theorem onward_of_workers (hcommands : s'.character.commands = s.character.commands)
    (htransfers : s'.character.transfers = s.character.transfers)
    (hreceipts : s'.receipts = s.receipts)
    (hgeneration : ∀ account, s.generation account ≤ s'.generation account)
    (hworkers : s'.workers = s.workers) : Onward s s' := by
  refine ⟨hcommands, htransfers, fun _ _ h => by rw [hreceipts]; exact h, fun _ h h' => ?_, ?_⟩
  · rw [hreceipts] at h'
    exact absurd h h'
  · rintro requestKey ⟨worker, hworker, hkey, hmay, hfence⟩
    rw [hworkers] at hworker
    exact ⟨worker, hworker, hkey, hmay, (hgeneration _).trans hfence⟩

theorem generation_advanceFence (s : PurchaseState) (account account' : ℕ) :
    s.generation account' ≤ (s.advanceFence account).generation account' := by
  change s.generation account' ≤
    Function.update s.generation account (s.generation account + 1) account'
  by_cases h : account' = account
  · subst h
    rw [Function.update_self]
    exact Nat.le_succ _
  · rw [Function.update_of_ne h]

theorem onward_advanceFence (s : PurchaseState) (account : ℕ) :
    Onward s (s.advanceFence account) :=
  onward_of_workers rfl rfl rfl (s.generation_advanceFence account) rfl

theorem onward_reacquire (s : PurchaseState) (account : ℕ) : Onward s (s.reacquire account) := by
  rw [reacquire]
  split
  · exact s.onward_advanceFence account
  · exact onward_of_workers rfl rfl rfl (s.generation_advanceFence account) rfl

theorem onward_loseLease (s : PurchaseState) (account : ℕ) : Onward s (s.loseLease account) :=
  onward_of_workers rfl rfl rfl (fun _ => le_rfl) rfl

end PurchaseState

/-! ## Workers -/

namespace AddWorker

open PurchaseState

variable {catalog : Catalog} {worker : AddWorker} {w : Circumstance} {s s' : PurchaseState}

theorem insertPet_eq_ok {row : DurablePetRow} (h : worker.insertPet row s w = .ok s') :
    worker.fence = s.generation worker.account ∧
      s.receipts.find worker.request.requestKey = none ∧
      ∃ receipts, s.receipts.insert ⟨worker.request.requestKey, worker.account, row⟩ =
          some receipts ∧
        s' = { s with receipts, createdPets := worker.request.requestKey :: s.createdPets } := by
  unfold insertPet at h
  split at h
  · cases h
  case isFalse hfence =>
    split at h
    · cases h
    case h_2 hfind =>
      split at h
      · cases h
      · split at h
        · cases h
        case h_2 receipts hinsert =>
          cases h
          refine ⟨(not_not.mp hfence).symm, ?_, receipts, hinsert, rfl⟩
          rw [findRequest, Option.map_eq_none_iff] at hfind
          exact hfind

/-- A worker that reports success has seen the receipt of its request. -/
def ReportsReceipt (s : PurchaseState) (worker : AddWorker) : Prop :=
  match worker.stage with
  | .finishing (.ok _) | .finished (.ok _) => s.receipts.find worker.request.requestKey ≠ none
  | _ => True

/-- All that a step of a worker does. -/
structure Stepped (worker : AddWorker) (s : PurchaseState) (stage : WorkerStage)
    (s' : PurchaseState) : Prop where
  character : s'.character = s.character
  generation : s'.generation = s.generation
  processLease : s'.processLease = s.processLease
  workers : s'.workers = s.workers
  receipts : (s'.receipts = s.receipts ∧ s'.createdPets = s.createdPets) ∨
    (worker.mayInsert = true ∧ worker.fence = s.generation worker.account ∧
      (∃ row, s.receipts.insert ⟨worker.request.requestKey, worker.account, row⟩ =
        some s'.receipts) ∧ s'.createdPets = worker.request.requestKey :: s.createdPets)
  mayInsert : ({ worker with stage } : AddWorker).mayInsert = true → worker.mayInsert = true
  reports : ReportsReceipt s worker → ReportsReceipt s' { worker with stage }
  adds : ReportsReceipt s worker → ∀ account requestKey durable,
    s'.findCompleted account requestKey = some durable →
      s.findCompleted account requestKey = some durable ∨ s'.receipts.find requestKey ≠ none

theorem Stepped.quiet {stage : WorkerStage}
    (hmay : ({ worker with stage } : AddWorker).mayInsert = true → worker.mayInsert = true)
    (hreports : ReportsReceipt s worker → ReportsReceipt s { worker with stage }) :
    Stepped worker s stage s :=
  ⟨rfl, rfl, rfl, rfl, .inl ⟨rfl, rfl⟩, hmay, hreports, fun _ _ _ _ h => .inl h⟩

theorem findRequest_eq_some {found : ℕ × FoundReceipt}
    (h : s.findRequest requestKey w = some found) : s.receipts.find requestKey ≠ none := by
  rw [findRequest, Option.map_eq_some_iff] at h
  obtain ⟨receipt, hfind, -⟩ := h
  rw [hfind]
  exact Option.some_ne_none receipt

theorem insertPet_eq_error {row : DurablePetRow}
    {result : Except PersistenceError (DurablePetRow × PersistOutcome)}
    (h : worker.insertPet row s w = .error result) (hok : ∃ persisted, result = .ok persisted) :
    s.receipts.find worker.request.requestKey ≠ none := by
  obtain ⟨persisted, rfl⟩ := hok
  unfold insertPet at h
  split at h
  · cases h
  split at h
  case h_1 found hfind => exact findRequest_eq_some hfind
  case h_2 =>
    split at h
    · cases h
    · split at h <;> cases h

theorem findCompleted_addCompleted (s : PurchaseState) (account account' : ℕ)
    (requestKey requestKey' : RequestKey) (durable : DurablePetRow) :
    (s.addCompleted account requestKey durable).findCompleted account' requestKey' =
      if account' = account ∧ requestKey' = requestKey then some durable
      else s.findCompleted account' requestKey' := by
  unfold findCompleted addCompleted
  dsimp only
  by_cases haccount : account' = account
  · subst haccount
    rw [Function.update_self, List.lookup_cons]
    by_cases hkey : requestKey' = requestKey
    · simp [hkey]
    · rw [beq_eq_false_iff_ne.mpr hkey]
      simp [hkey]
  · rw [Function.update_of_ne haccount, if_neg fun h => haccount h.1]

theorem Stepped.publish {durable : DurablePetRow} {result : Except AddFailure AddOutcome}
    (hreceipt : ReportsReceipt s worker → s.receipts.find worker.request.requestKey ≠ none) :
    Stepped worker s (.finished result)
      (s.addCompleted worker.account worker.request.requestKey durable) := by
  refine ⟨rfl, rfl, rfl, rfl, .inl ⟨rfl, rfl⟩, fun h => (by cases h), fun h => ?_, ?_⟩
  · cases result with
    | error failure => trivial
    | ok outcome => exact hreceipt h
  · intro h account requestKey durable' hfind
    rw [findCompleted_addCompleted] at hfind
    split at hfind
    case isTrue heq =>
      rw [heq.2]
      exact .inr (hreceipt h)
    case isFalse => exact .inl hfind

theorem stepped_finish (result : Except PersistenceError (DurablePetRow × PersistOutcome))
    (hstage : worker.stage = .finishing result) :
    Stepped worker s (.finished (worker.finish s result).1) (worker.finish s result).2 := by
  have hquiet : ∀ failure, Stepped worker s (.finished (.error failure)) s :=
    fun failure => Stepped.quiet (fun h => by cases h) fun _ => trivial
  cases result with
  | error error => exact hquiet _
  | ok persisted =>
    have hreceipt : ReportsReceipt s worker →
        s.receipts.find worker.request.requestKey ≠ none := by
      unfold ReportsReceipt
      rw [hstage]
      exact id
    obtain ⟨row, outcome⟩ := persisted
    unfold finish
    dsimp only
    split
    · exact hquiet _
    · cases outcome with
      | inserted => exact Stepped.publish hreceipt
      | replayed pet present =>
        cases present with
        | true => exact Stepped.publish hreceipt
        | false => exact hquiet _

theorem stepped (catalog : Catalog) (worker : AddWorker) (w : Circumstance) (s : PurchaseState) :
    Stepped worker s (worker.step catalog w s).1 (worker.step catalog w s).2 := by
  obtain ⟨account, request, fence, stage⟩ := worker
  -- A worker that does not report success leaves the state alone, unless it inserts.
  have hfail : ∀ stage error, Stepped ⟨account, request, fence, stage⟩ s
      (.finishing (.error error)) s :=
    fun stage error => Stepped.quiet (fun h => by cases h) fun _ => trivial
  have hfound : ∀ stage result, ((∃ persisted, result = .ok persisted) →
      s.receipts.find request.requestKey ≠ none) →
      Stepped ⟨account, request, fence, stage⟩ s (.finishing result) s := by
    intro stage result hreceipt
    cases result with
    | error error => exact hfail stage error
    | ok persisted =>
      exact Stepped.quiet (fun h => by cases h) fun _ => hreceipt ⟨persisted, rfl⟩
  cases stage with
  | allocating =>
    unfold step
    dsimp only
    split
    · exact hfail _ _
    · exact hfail _ _
    · exact hfail _ _
    · exact Stepped.quiet (fun _ => rfl) fun _ => trivial
  | finding row =>
    unfold step
    dsimp only
    split
    · exact hfail _ _
    · split
      case h_1 found hfind => exact hfound _ _ fun _ => findRequest_eq_some hfind
      case h_2 => exact Stepped.quiet (fun _ => rfl) fun _ => trivial
  | inserting row =>
    unfold step
    dsimp only
    split
    case h_1 result hresult => exact hfound _ _ (insertPet_eq_error hresult)
    case h_2 s' hinserted =>
      obtain ⟨hfence, hnone, receipts, hinsert, rfl⟩ := insertPet_eq_ok hinserted
      have hreceipt : receipts.find request.requestKey ≠ none := by
        rw [KeyedTable.find_insert hinsert, if_pos rfl]
        exact Option.some_ne_none _
      split
      · exact ⟨rfl, rfl, rfl, rfl, .inr ⟨rfl, hfence, ⟨row, hinsert⟩, rfl⟩, (fun h => by cases h),
          fun _ => hreceipt, fun _ _ _ _ h => .inl h⟩
      · split
        · exact ⟨rfl, rfl, rfl, rfl, .inr ⟨rfl, hfence, ⟨row, hinsert⟩, rfl⟩,
            (fun h => by cases h), fun _ => trivial, fun _ _ _ _ h => .inl h⟩
        · exact Stepped.quiet (fun h => by cases h) fun _ => trivial
  | reconciling row =>
    unfold step
    dsimp only
    split
    · exact hfail _ _
    · split
      case h_1 => exact hfail _ _
      case h_2 found hfind =>
        split
        · exact hfound _ _ fun _ => findRequest_eq_some hfind
        · exact hfail _ _
  | finishing result => exact stepped_finish result rfl
  | finished result => exact Stepped.quiet id id

/-- What the session relies on, after the worker in place `i` has moved. -/
theorem Stepped.onward {i : ℕ} {stage : WorkerStage} (h : Stepped worker s stage s')
    (hworker : s.workers[i]? = some worker) :
    Onward s { s' with workers := s'.workers.set i { worker with stage } } := by
  have hmem : worker ∈ s.workers := List.mem_of_getElem? hworker
  refine ⟨congrArg _ h.character, congrArg _ h.character, fun requestKey receipt hfind => ?_,
    fun requestKey hnone hreceipt => ?_, ?_⟩
  · change s'.receipts.find requestKey = some receipt
    rcases h.receipts with ⟨hsame, -⟩ | ⟨-, -, ⟨row, hinsert⟩, -⟩
    · rw [hsame]
      exact hfind
    · rw [KeyedTable.find_insert hinsert, if_neg, hfind]
      rintro rfl
      rw [(KeyedTable.insert_eq_some hinsert).1] at hfind
      cases hfind
  · change s'.receipts.find requestKey ≠ none at hreceipt
    rcases h.receipts with ⟨hsame, -⟩ | ⟨hmay, hfence, ⟨row, hinsert⟩, -⟩
    · rw [hsame] at hreceipt
      exact absurd hnone hreceipt
    · rw [KeyedTable.find_insert hinsert] at hreceipt
      split at hreceipt
      case isTrue hkey => exact ⟨worker, hmem, hkey.symm, hmay, hfence.ge⟩
      case isFalse => exact absurd hnone hreceipt
  · rintro requestKey ⟨worker', hworker', hkey, hmay, hfence⟩
    change s'.generation worker'.account ≤ worker'.fence at hfence
    rw [h.generation] at hfence
    rcases List.mem_or_eq_of_mem_set hworker' with hworker' | rfl
    · rw [h.workers] at hworker'
      exact ⟨worker', hworker', hkey, hmay, hfence⟩
    · exact ⟨worker, hmem, hkey, h.mayInsert hmay, hfence⟩

end AddWorker

theorem PurchaseState.onward_stepWorker (catalog : Catalog) (s : PurchaseState) (i : ℕ)
    (w : Circumstance) : Onward s (s.stepWorker catalog i w) := by
  unfold stepWorker
  split
  · exact Onward.refl s
  case h_2 worker hworker => exact (AddWorker.stepped catalog worker w s).onward hworker

theorem PurchaseState.onward_interfere (catalog : Catalog) (s : PurchaseState)
    (event : PurchaseEvent) : Onward s (s.interfere catalog event) := by
  cases event with
  | work i w => exact s.onward_stepWorker catalog i w
  | loseLease account => exact s.onward_loseLease account
  | reacquire account =>
    rw [interfere]
    split
    · exact Onward.refl s
    · exact s.onward_reacquire account
  | otherProcess account => exact s.onward_advanceFence account
  | changeMoney money => exact onward_of_workers rfl rfl rfl (fun _ => le_rfl) rfl
  | login | purchase | reply | stop | crash => exact Onward.refl s

end RustyCore.BattlePets
