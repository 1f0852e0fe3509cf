import RustyCore.Library.Run
import RustyCore.Verification.BattlePets.PurchaseSteps

/-! # Purchases end with the pet or the refund

What the account owner answers to a session, what the saga ensures from each of its entries,
and what holds in every run. -/

namespace RustyCore.BattlePets

open PurchaseState Surroundings

/-! ## The account owner -/

section Owner

variable {catalog : Catalog} {P : PurchaseState → Prop} {s : PurchaseState} {account : ℕ}
  {requestKey : RequestKey}

/-- The reply to an add that succeeds when the receipt is there. -/
def Added {α : Type} (requestKey : RequestKey) (P : PurchaseState → Prop)
    (reply : Except AddFailure α) (s : PurchaseState) : Prop :=
  P s ∧ ∀ outcome, reply = .ok outcome → s.receipts.find requestKey ≠ none

theorem ensures_beginAdd (hP : Lasting P) (h : P s) :
    (surroundings catalog).Ensures (beginAdd account requestKey) (fun reply s' => P s' ∧
      ∀ durable, reply = .ok (some durable) → s'.receipts.find requestKey ≠ none) s := by
  refine ensures_quiet (.beginAdd account requestKey) trivial hP (fun _ _ _ => trivial)
    (fun reply => .forall fun durable => (lasting_receipt requestKey).imp) ?_ h
  rintro s hsound - - w reply s' hperform durable rfl
  obtain ⟨hreply, rfl⟩ := Prod.ext_iff.mp (Option.some.inj hperform)
  cases hlease : s.validateProcessAddLease account w with
  | error failure =>
    dsimp only at hreply
    rw [hlease] at hreply
    cases hreply
  | ok fence =>
    dsimp only at hreply
    rw [hlease] at hreply
    exact hsound.adds account requestKey durable (Except.ok.inj hreply)

theorem ensures_completedAdd (hP : Lasting P) (h : P s) :
    (surroundings catalog).Ensures (completedAdd account requestKey) (fun reply s' => P s' ∧
      ∀ durable, reply = some durable → s'.receipts.find requestKey ≠ none) s := by
  refine ensures_quiet (.completedAdd account requestKey) trivial hP
    (fun _ _ _ => trivial) (fun reply => .forall fun durable => (lasting_receipt requestKey).imp)
    ?_ h
  rintro s hsound - - w reply s' hperform durable rfl
  obtain ⟨hreply, rfl⟩ := Prod.ext_iff.mp (Option.some.inj hperform)
  exact hsound.adds account requestKey durable hreply

theorem ensures_replayAdd {receipt : FoundReceipt} (hP : Lasting P) (h : P s)
    (hreceipt : s.receipts.find requestKey ≠ none) :
    (surroundings catalog).Ensures (replayAdd account requestKey receipt)
      (fun _ s' => P s' ∧ s'.receipts.find requestKey ≠ none) s :=
  ensures_ask (.replayAdd account requestKey receipt) (hP.and (lasting_receipt requestKey))
    (fun _ => hP.and (lasting_receipt requestKey)) (fun _ _ hs => hs.2)
    (fun s _ hs _ _ _ s' hperform =>
      (hP.and (lasting_receipt requestKey)) s s' (onward_perform (by trivial) hperform) hs)
    ⟨h, hreceipt⟩

/-- A worker is only started for a command that is not compensated. -/
theorem ensures_reserveAdd {request : AddRequest} (hP : Lasting P) (hadds : KeptByAdds P)
    (hopen : ∀ s, Sound s → P s → s.Knows (.reserveAdd account request)) (h : P s) :
    (surroundings catalog).Ensures (reserveAdd account request) (fun reply s' => P s' ∧
      (reply = .ok .replayed → s'.receipts.find request.requestKey ≠ none)) s := by
  refine ensures_ask (.reserveAdd account request) hP
    (fun reply => hP.and (lasting_receipt request.requestKey).imp) hopen ?_ h
  intro s hsound hs _ w reply s' hperform
  refine ⟨?_, ?_⟩
  · rcases reserveReply_cases hperform with rfl | ⟨fence, -, rfl⟩
    · exact hs
    · exact hadds s _ hs
  · rintro rfl
    obtain ⟨durable, hfind, rfl⟩ := reserveReply_replayed hperform
    exact hsound.adds account request.requestKey durable hfind

theorem ensures_joinAdd (hP : Lasting P) (h : P s) :
    (surroundings catalog).Ensures (joinAdd account requestKey) (Added requestKey P) s := by
  refine ensures_quiet (.joinAdd account requestKey) trivial hP (fun _ _ _ => trivial)
    (fun reply => .forall fun outcome => (lasting_receipt requestKey).imp) ?_ h
  rintro s hsound - - w reply s' hperform outcome rfl
  obtain ⟨worker, hworker, hkey, hstage⟩ := joinReply_ok hperform
  obtain rfl := joinReply_state hperform
  have hreports := hsound.reports worker hworker
  rw [AddWorker.ReportsReceipt, hstage, hkey] at hreports
  exact hreports

theorem ensures_tryAddPet {request : AddRequest} (hP : Lasting P) (hadds : KeptByAdds P)
    (hopen : ∀ s, Sound s → P s → s.Knows (.reserveAdd account request)) (h : P s) :
    (surroundings catalog).Ensures (tryAddPet catalog account request)
      (Added request.requestKey P) s := by
  have hfail : ∀ {s} failure, P s → (surroundings catalog).Ensures
      (pure (.error failure) : Task (Except AddFailure AddOutcome)) (Added request.requestKey P) s :=
    fun failure hs => Ensures.pure hP.stable (fun _ _ hs => ⟨hs, fun _ h => by cases h⟩) hs
  have hdone : ∀ {s} outcome, P s → s.receipts.find request.requestKey ≠ none →
      (surroundings catalog).Ensures (pure (.ok outcome) : Task (Except AddFailure AddOutcome))
        (Added request.requestKey P) s :=
    fun outcome hs hreceipt => Ensures.pure (hP.and (lasting_receipt request.requestKey)).stable
      (fun _ _ hs => ⟨hs.1, fun _ _ => hs.2⟩) ⟨hs, hreceipt⟩
  refine (ensures_beginAdd hP h).andThen fun reply s _ ⟨hs, hcompleted⟩ => ?_
  split
  · exact hfail _ hs
  · split
    · exact hdone _ hs (hcompleted _ rfl)
    · exact hfail _ hs
  · refine (ensures_lookup hP .add account request.requestKey hs).andThen
      fun reply s _ ⟨hs, hfound⟩ => ?_
    split
    · exact hfail _ hs
    case h_2 receipt =>
      split
      · exact hfail _ hs
      · split
        · exact hfail _ hs
        · refine (ensures_replayAdd hP hs (hfound _ rfl)).andThen fun reply s _ ⟨hs, hreceipt⟩ => ?_
          split
          · exact hfail _ hs
          · exact hdone _ hs hreceipt
    · refine (ensures_reserveAdd hP hadds hopen hs).andThen fun reply s _ ⟨hs, hreplayed⟩ => ?_
      split
      · exact hfail _ hs
      · exact hdone _ hs (hreplayed rfl)
      · exact ensures_joinAdd hP hs

end Owner

/-! ## The saga -/

theorem KeptByAdds.and {P P' : PurchaseState → Prop} (hP : KeptByAdds P) (hP' : KeptByAdds P') :
    KeptByAdds fun s => P s ∧ P' s :=
  fun s worker h => ⟨hP s worker h.1, hP' s worker h.2⟩

section Saga

variable {catalog : Catalog} {playerGuid : ObjectGuid} {P : PurchaseState → Prop}
  {s : PurchaseState} {account : ℕ} {command : PurchaseCommand} {requestKey : RequestKey}

theorem ensures_recordPublication (hP : Kept requestKey P) (h : P s) :
    (surroundings catalog).Ensures (recordPublication requestKey) (fun _ => P) s := by
  refine (ensures_retryStore hP.lasting (fun s => ensures_markPublished hP) h).andThen
    fun reply s _ hs => ?_
  split <;> exact ensures_pure hP.lasting _ hs

theorem ensures_completePurchase (hP : Kept requestKey P)
    (hreceipt : ∀ s, P s → s.receipts.find requestKey ≠ none) (h : P s) :
    (surroundings catalog).Ensures (completePurchase requestKey) (fun _ => P) s := by
  refine (ensures_retryStore hP.lasting (fun s => ensures_commitMark (.completed requestKey) trivial
    rfl hP hreceipt) h).andThen fun reply s _ hs => ?_
  split <;> exact ensures_pure hP.lasting _ hs

theorem ensures_publishPurchase (hP : Kept requestKey P) (h : P s) :
    (surroundings catalog).Ensures (publishPurchase requestKey) (fun _ => P) s := by
  refine (ensures_keeps .publish trivial (fun _ => trivial) hP.lasting h).andThen
    fun reply s _ hs => ?_
  split
  · exact ensures_recordPublication hP hs
  · exact ensures_pure hP.lasting _ hs

/-- The answer to a probe, where it has one, is conclusive. -/
def Probed (requestKey : RequestKey) (P : PurchaseState → Prop) (reply : Except AddFailure Bool)
    (s : PurchaseState) : Prop :=
  P s ∧ ∀ found, reply = .ok found → Concluded s requestKey found

theorem ensures_unanswered (hP : Lasting P) (failure : AddFailure) (h : P s) :
    (surroundings catalog).Ensures (pure (.error failure)) (Probed requestKey P) s :=
  Ensures.pure hP.stable (fun _ _ hs => ⟨hs, fun _ h => by cases h⟩) h

theorem ensures_answered (hP : Lasting P) {found : Bool} (h : P s)
    (hfound : Concluded s requestKey found) :
    (surroundings catalog).Ensures (pure (.ok found)) (Probed requestKey P) s := by
  refine Ensures.pure (hP.and (lasting_concluded requestKey found)).stable
    (fun s _ hs => ⟨hs.1, ?_⟩) ⟨h, hfound⟩
  rintro found' heq
  cases heq
  exact hs.2

theorem ensures_addRequestCommitted (hP : Lasting P) (h : P s) :
    (surroundings catalog).Ensures (addRequestCommitted account requestKey)
      (Probed requestKey P) s := by
  refine (ensures_completedAdd hP h).andThen fun reply s _ ⟨hs, hcompleted⟩ => ?_
  split
  · exact ensures_answered hP hs (hcompleted _ rfl)
  · refine (ensures_probe .probe account requestKey hP (fun s _ hconclusive => hconclusive)
      hs).andThen fun reply s _ ⟨hs, hfound⟩ => ?_
    split
    · exact ensures_answered hP hs (hfound _ rfl)
    · exact ensures_unanswered hP _ hs

/-- The fence is taken before the receipt is looked up. -/
theorem ensures_receiptProbeForAccountFenced (hP : Lasting P)
    (hcommand : ∀ s, P s → s.HasCommand requestKey account) (h : P s) :
    (surroundings catalog).Ensures (receiptProbeForAccountFenced account requestKey)
      (fun reply s' => P s' ∧ (reply = .ok .committed → Concluded s' requestKey true) ∧
        (reply = .ok .absent → Concluded s' requestKey false)) s := by
  have hfail : ∀ {s} reply, reply ≠ .ok .committed → reply ≠ .ok .absent → P s →
      (surroundings catalog).Ensures (pure reply : Task (Except AddFailure FencedReceiptProbe))
        (fun reply s' => P s' ∧ (reply = .ok .committed → Concluded s' requestKey true) ∧
          (reply = .ok .absent → Concluded s' requestKey false)) s :=
    fun reply hcommitted habsent hs => Ensures.pure hP.stable (fun _ _ hs =>
      ⟨hs, fun h => absurd h hcommitted, fun h => absurd h habsent⟩) hs
  refine (ensures_acquire hP hcommand h).andThen fun reply s _ ⟨hs, hfenced⟩ => ?_
  split
  · exact hfail _ (by simp) (by simp) hs
  · exact hfail _ (by simp) (by simp) hs
  · have hflight : ∀ s, P s ∧ ¬s.InFlight requestKey →
        s.Conclusive (.lookupAddRequest .fencedProbe account requestKey) →
        s.receipts.find requestKey = none → ¬s.InFlight requestKey := fun s hs _ _ => hs.2
    refine (ensures_probe .fencedProbe account requestKey (hP.and (lasting_not_inFlight requestKey))
      hflight ⟨hs, hfenced rfl⟩).andThen fun reply s _ hprobed => ?_
    obtain ⟨⟨hs, -⟩, hfound⟩ := hprobed
    cases reply with
    | error error => exact hfail _ (by simp) (by simp) hs
    | ok receipt =>
      have hconcluded := hfound receipt rfl
      cases receipt with
      | some receipt =>
        exact Ensures.pure (hP.and (lasting_concluded requestKey true)).stable (fun _ _ hs =>
          ⟨hs.1, fun _ => hs.2, fun h => by cases h⟩) ⟨hs, hconcluded⟩
      | none =>
        exact Ensures.pure (hP.and (lasting_concluded requestKey false)).stable (fun _ _ hs =>
          ⟨hs.1, (fun h => by cases h), fun _ => hs.2⟩) ⟨hs, hconcluded⟩

theorem ensures_probeReceipt (hP : Lasting P)
    (hcommand : ∀ s, P s → s.HasCommand command.requestKey command.accountId) (h : P s) :
    (surroundings catalog).Ensures (probeReceipt account command)
      (Probed command.requestKey P) s := by
  unfold probeReceipt
  split
  · refine (ensures_receiptProbeForAccountFenced hP hcommand h).andThen
      fun reply s _ ⟨hs, hcommitted, habsent⟩ => ?_
    split
    · exact ensures_answered hP hs (hcommitted rfl)
    · exact ensures_answered hP hs (habsent rfl)
    · exact ensures_unanswered hP _ hs
    · exact ensures_unanswered hP _ hs
  · exact ensures_addRequestCommitted hP h

/-- A command with a receipt is not compensated, so that an add may be tried again. -/
theorem knows_reserveAdd_of_receipt (hsound : Sound s)
    (hcommand : s.HasCommand command.requestKey command.accountId)
    (hreceipt : s.receipts.find command.requestKey ≠ none) (haccount : command.accountId = account) :
    s.Knows (.reserveAdd account (command.addRequest playerGuid)) := by
  obtain ⟨row, hfind, howner⟩ := hcommand
  refine ⟨row, hfind, howner.trans haccount, fun hcompensated => ?_⟩
  exact hreceipt ((hsound.status_of_find hfind).2 hcompensated).1

theorem ensures_completeElsewhere (hP : Kept command.requestKey P) (hadds : KeptByAdds P)
    (hcommand : ∀ s, P s → s.HasCommand command.requestKey command.accountId)
    (hreceipt : ∀ s, P s → s.receipts.find command.requestKey ≠ none) (h : P s) :
    (surroundings catalog).Ensures (completeElsewhere catalog playerGuid account command)
      (fun _ => P) s := by
  have hcomplete : ∀ s, P s → (surroundings catalog).Ensures (do
      let _ ← completePurchase command.requestKey
      return PurchaseExecution.completedElsewhere) (fun _ => P) s :=
    fun s hs => (ensures_completePurchase hP hreceipt hs).andThen
      fun _ s _ hs => ensures_pure hP.lasting _ hs
  unfold completeElsewhere
  cases hpublished : command.published with
  | true => exact hcomplete s h
  | false =>
    by_cases haccount : command.accountId = account
    · simp only [haccount, ne_eq, not_true_eq_false, decide_false, Bool.and_false,
        Bool.false_eq_true, if_false, Bool.not_false, decide_true, Bool.and_self, if_true]
      refine (ensures_keeps (.acquireJournalLease account) trivial (fun _ => trivial) hP.lasting
        h).andThen fun granted s _ hs => ?_
      split
      · refine (ensures_tryAddPet hP.lasting hadds (fun s hsound hs => knows_reserveAdd_of_receipt
          hsound (hcommand s hs) (hreceipt s hs) haccount) hs).andThen fun reply s _ ⟨hs, _⟩ => ?_
        split
        · exact (ensures_publishPurchase hP hs).andThen fun _ s _ hs => hcomplete s hs
        · exact hcomplete s hs
      · exact hcomplete s hs
    · simp only [haccount, ne_eq, not_false_eq_true, decide_true, Bool.not_false, Bool.and_self,
        if_true, decide_false, Bool.and_false, Bool.false_eq_true, if_false]
      exact (ensures_recordPublication hP h).andThen fun _ s _ hs => hcomplete s hs

theorem ensures_refundPurchase (hP : Kept command.requestKey P)
    (hclear : ∀ s, P s → s.Clear command.requestKey) (h : P s) :
    (surroundings catalog).Ensures (refundPurchase command) (fun _ => P) s := by
  have hdone : ∀ {s} execution, P s → (surroundings catalog).Ensures
      (pure execution : Task PurchaseExecution) (fun _ => P) s :=
    fun execution hs => ensures_pure hP.lasting execution hs
  refine (ensures_keeps .beginExclusiveMoney trivial (fun _ => trivial) hP.lasting h).andThen
    fun granted s _ hs => ?_
  split
  · exact hdone _ hs
  · refine (ensures_retryStore hP.lasting (fun s => ensures_compensate hP hclear) hs).andThen
      fun reply s _ hs => ?_
    split
    · exact hdone _ hs
    · exact hdone _ hs
    · exact hdone _ hs
    · refine (ensures_retryStore hP.lasting (fun s => ensures_markTerminalFailure hP) hs).andThen
        fun reply s _ hs => ?_
      split <;> exact hdone _ hs
    · exact hdone _ hs

theorem ensures_markCompensationPending {reason : String} (hP : Kept requestKey P) (h : P s) :
    (surroundings catalog).Ensures (markCompensationPending requestKey reason) (fun _ => P) s :=
  ensures_commitMark (.compensationPending requestKey reason) trivial rfl hP
    (fun _ _ => trivial) h

/-- The compensation completes the command or refunds it, as the receipt is there or not. -/
theorem ensures_compensatePurchase (hP : Kept command.requestKey P) (hadds : KeptByAdds P)
    (hcommand : ∀ s, P s → s.HasCommand command.requestKey command.accountId) (h : P s) :
    (surroundings catalog).Ensures (compensatePurchase catalog playerGuid account command)
      (fun _ => P) s := by
  refine (ensures_retryStore hP.lasting (fun s => ensures_markCompensationPending hP) h).andThen
    fun reply s _ hs => ?_
  split
  · exact ensures_pure hP.lasting _ hs
  · exact ensures_pure hP.lasting _ hs
  · exact ensures_pure hP.lasting _ hs
  all_goals
    refine (ensures_probeReceipt hP.lasting hcommand hs).andThen fun reply s _ ⟨hs, hfound⟩ => ?_
    split
    · exact ensures_pure hP.lasting _ hs
    · have hadds' : KeptByAdds fun s => P s ∧ s.receipts.find command.requestKey ≠ none :=
        hadds.and fun _ _ hs => hs
      exact (ensures_completeElsewhere (hP.and (kept_receipt command.requestKey)) hadds'
        (fun s hs => hcommand s hs.1) (fun s hs => hs.2) ⟨hs, hfound true rfl⟩).mono
        fun _ _ _ hs => hs.1
    · exact (ensures_refundPurchase (hP.and (kept_clear command.requestKey)) (fun s hs => hs.2)
        ⟨hs, hfound false rfl⟩).mono fun _ _ _ hs => hs.1

end Saga

/-! ## Recovery -/

section Recovery

variable {catalog : Catalog} {playerGuid : ObjectGuid} {P : PurchaseState → Prop}
  {s : PurchaseState} {account : ℕ} {command : PurchaseCommand} {summary : PurchaseRecovery}

theorem keptByAdds_find (k : RequestKey) (row : Option PurchaseCommand) :
    KeptByAdds fun s => s.character.commands.find k = row := fun _ _ h => h

theorem hasCommand_of_find (hfind : s.character.commands.find command.requestKey = some command) :
    s.HasCommand command.requestKey command.accountId := ⟨command, hfind, rfl⟩

theorem ensures_compensate_of_find (hP : Kept command.requestKey P) (hadds : KeptByAdds P)
    (hfind : s.HasCommand command.requestKey command.accountId) (h : P s) :
    (surroundings catalog).Ensures (do
      return summary.addCompensation (← compensatePurchase catalog playerGuid account command))
      (fun _ => P) s := by
  have hboth := hP.and (kept_hasCommand command.requestKey command.accountId)
  have hadds' : KeptByAdds fun s => P s ∧ s.HasCommand command.requestKey command.accountId :=
    hadds.and fun _ _ hs => hs
  exact (ensures_compensatePurchase hboth hadds' (fun s hs => hs.2) ⟨h, hfind⟩).andThen
    fun _ s _ hs => ensures_pure hP.lasting _ hs.1

theorem ensures_recoverMismatched (hP : Kept command.requestKey P) (hadds : KeptByAdds P)
    (hfind : s.character.commands.find command.requestKey = some command) (h : P s) :
    (surroundings catalog).Ensures (recoverMismatched catalog playerGuid account summary command)
      (fun _ => P) s := by
  have hboth := hP.and (kept_hasCommand command.requestKey command.accountId)
  refine (ensures_retryStore hboth.lasting (fun s => ensures_markCompensationPending hboth) ⟨h,
    hasCommand_of_find hfind⟩).andThen fun reply s _ hs => ?_
  split
  · exact ensures_compensate_of_find hP hadds hs.2 hs.1
  · exact ensures_compensate_of_find hP hadds hs.2 hs.1
  · exact ensures_pure hP.lasting _ hs.1
  · exact ensures_pure hP.lasting _ hs.1

/-- The pet of a command whose row is known and not compensated. -/
theorem ensures_applyOnce (hP : Lasting P) (hadds : KeptByAdds P)
    (hfind : s.character.commands.find command.requestKey = some command)
    (hopen : command.status ≠ .compensated) (haccount : command.accountId = account) (h : P s) :
    (surroundings catalog).Ensures (tryAddPet catalog account (command.addRequest playerGuid))
      (Added command.requestKey fun s => P s ∧
        s.character.commands.find command.requestKey = some command) s :=
  ensures_tryAddPet (hP.and (lasting_find command.requestKey (some command)))
    (hadds.and (keptByAdds_find command.requestKey (some command)))
    (fun _ _ hs => ⟨command, hs.2, haccount, hopen⟩) ⟨h, hfind⟩

theorem ensures_recoverPending (hP : Kept command.requestKey P) (hadds : KeptByAdds P)
    (hopen : command.status ≠ .compensated) (haccount : command.accountId = account)
    (hfind : s.character.commands.find command.requestKey = some command) (h : P s) :
    (surroundings catalog).Ensures (recoverPending catalog playerGuid account summary command)
      (fun _ => P) s := by
  have hknown := hP.lasting.and (lasting_find command.requestKey (some command))
  refine (ensures_keeps (.acquireJournalLease account) trivial (fun _ => trivial) hknown ⟨h,
    hfind⟩).andThen fun granted s _ hs => ?_
  split
  · exact ensures_pure hP.lasting _ hs.1
  · refine (ensures_applyOnce hP.lasting hadds hs.2 hopen haccount hs.1).andThen
      fun reply s _ hadded => ?_
    obtain ⟨⟨hs, hfind⟩, hreceipt⟩ := hadded
    cases reply with
    | error failure =>
      dsimp only
      split
      · exact ensures_compensate_of_find hP hadds (hasCommand_of_find hfind) hs
      · exact ensures_pure hP.lasting _ hs
    | ok outcome =>
      have hboth := hP.and (kept_receipt command.requestKey)
      have hcomplete : ∀ s, P s ∧ s.receipts.find command.requestKey ≠ none →
          (surroundings catalog).Ensures (do
            if ← completePurchase command.requestKey then return (summary.addApplied, true)
            else return (summary.addDeferred, true)) (fun _ => P) s := by
        intro s hs
        refine (ensures_completePurchase hboth (fun _ hs => hs.2) hs).andThen
          fun completed s _ hs => ?_
        split <;> exact ensures_pure hP.lasting _ hs.1
      dsimp only
      split
      · exact (ensures_publishPurchase hboth ⟨hs, hreceipt _ rfl⟩).andThen
          fun _ s _ hs => hcomplete s hs
      · exact hcomplete s ⟨hs, hreceipt _ rfl⟩

theorem ensures_recoverUnpublished (hP : Kept command.requestKey P) (hadds : KeptByAdds P)
    (hopen : command.status ≠ .compensated) (haccount : command.accountId = account)
    (hfind : s.character.commands.find command.requestKey = some command) (h : P s) :
    (surroundings catalog).Ensures (recoverUnpublished catalog playerGuid account summary command)
      (fun _ => P) s := by
  have hknown := hP.lasting.and (lasting_find command.requestKey (some command))
  unfold recoverUnpublished
  split
  · exact ensures_pure hP.lasting _ h
  · refine (ensures_keeps (.acquireJournalLease account) trivial (fun _ => trivial) hknown ⟨h,
      hfind⟩).andThen fun granted s _ hs => ?_
    split
    · exact ensures_pure hP.lasting _ hs.1
    · refine (ensures_applyOnce hP.lasting hadds hs.2 hopen haccount hs.1).andThen
        fun reply s _ hadded => ?_
      obtain ⟨⟨hs, -⟩, -⟩ := hadded
      split
      · exact (ensures_publishPurchase hP hs).andThen fun _ s _ hs => ensures_pure hP.lasting _ hs
      · exact (ensures_recordPublication hP hs).andThen fun _ s _ hs => ensures_pure hP.lasting _ hs
      · exact ensures_pure hP.lasting _ hs

theorem ensures_recoverCommand (hP : Kept command.requestKey P) (hadds : KeptByAdds P)
    (hfind : s.character.commands.find command.requestKey = some command) (h : P s) :
    (surroundings catalog).Ensures (recoverCommand catalog playerGuid account summary command)
      (fun _ => P) s := by
  unfold recoverCommand
  split
  · split
    · exact (ensures_recordPublication hP h).andThen fun _ s _ hs => ensures_pure hP.lasting _ hs
    · exact ensures_pure hP.lasting _ h
  case isFalse hcompleted =>
    split
    · exact ensures_recoverMismatched hP hadds hfind h
    case isFalse hpending =>
      split
      · exact ensures_compensate_of_find hP hadds (hasCommand_of_find hfind) h
      case h_2 hstatus =>
        have haccount : command.accountId = account := by
          by_contra hne
          exact hpending ⟨hne, hstatus⟩
        exact ensures_recoverPending hP hadds (by rw [hstatus]; simp) haccount hfind h
      case h_3 hstatus =>
        have haccount : command.accountId = account := by
          by_contra hne
          exact hcompleted ⟨hne, hstatus⟩
        exact ensures_recoverUnpublished hP hadds (by rw [hstatus]; simp) haccount hfind h
      · exact ensures_pure hP.lasting _ h
      · exact ensures_pure hP.lasting _ h

/-- The commands of a batch are different, so that each is as it was loaded when its turn
comes. -/
theorem ensures_recoverCommands {commands : List PurchaseCommand}
    (hnodup : (commands.map PurchaseCommand.requestKey).Nodup)
    (h : ∀ command ∈ commands, s.character.commands.find command.requestKey = some command) :
    (surroundings catalog).Ensures (recoverCommands catalog playerGuid account summary commands)
      (fun _ _ => True) s := by
  induction commands generalizing s summary with
  | nil => exact ensures_pure lasting_true _ trivial
  | cons command commands ih =>
    rw [List.map_cons, List.nodup_cons] at hnodup
    have hother : ∀ command' ∈ commands, command'.requestKey ≠ command.requestKey := by
      intro command' hcommand' heq
      exact hnodup.1 (heq ▸ List.mem_map_of_mem hcommand')
    refine (ensures_recoverCommand (kept_rows hother) (fun _ _ hs => hs)
      (h command List.mem_cons_self) fun command' hcommand' => h command'
      (List.mem_cons_of_mem _ hcommand')).andThen fun result s _ hs => ?_
    obtain ⟨summary, proceed⟩ := result
    dsimp only
    split
    · exact ih hnodup.2 hs
    · exact ensures_pure lasting_true _ trivial

theorem pendingCommands_nodup (db : CharacterDb) (limit : ℕ) :
    ((db.pendingCommands limit).map PurchaseCommand.requestKey).Nodup :=
  db.commands.nodup.sublist
    (((List.take_sublist _ _).trans List.filter_sublist).map PurchaseCommand.requestKey)

theorem find_of_mem_pendingCommands {db : CharacterDb} {limit : ℕ}
    (h : command ∈ db.pendingCommands limit) :
    db.commands.find command.requestKey = some command :=
  KeyedTable.find_of_mem (List.mem_of_mem_filter (List.mem_of_mem_take h))

theorem ensures_loadPendingCommands (limit : ℕ) :
    (surroundings catalog).Ensures (loadPendingCommands limit) (fun reply s' => True ∧
      ∀ commands, reply = .ok commands → (commands.map PurchaseCommand.requestKey).Nodup ∧
        ∀ command ∈ commands,
          s'.character.commands.find command.requestKey = some command) s := by
  refine ensures_quiet (.loadPending limit) trivial lasting_true (fun _ _ _ => trivial)
    (fun reply => .forall fun commands s s' honward h heq => ?_) ?_ trivial
  · rw [honward.commands]
    exact h heq
  · rintro s - - - w reply s' hperform commands rfl
    cases hanswered : w.answered <;> simp only [perform, hanswered] at hperform <;> cases hperform
    exact ⟨pendingCommands_nodup s.character limit, fun _ h => find_of_mem_pendingCommands h⟩

theorem ensures_recoverPurchases :
    (surroundings catalog).Ensures (recoverPurchases catalog playerGuid account)
      (fun _ _ => True) s := by
  refine (ensures_loadPendingCommands _).andThen fun reply s _ ⟨_, hcommands⟩ => ?_
  cases reply with
  | error error => exact ensures_pure lasting_true _ trivial
  | ok commands =>
    obtain ⟨hnodup, hfind⟩ := hcommands commands rfl
    exact (ensures_recoverCommands hnodup hfind).andThen
      fun _ _ _ _ => ensures_pure lasting_true _ trivial

end Recovery

/-! ## The live purchase -/

section Execution

variable {catalog : Catalog} {playerGuid : ObjectGuid} {s : PurchaseState} {account : ℕ}
  {command : PurchaseCommand}

/-- The row of a command that is being charged: not there yet, or as it is inserted. -/
def Charging (command : PurchaseCommand) (s : PurchaseState) : Prop :=
  s.character.commands.find command.requestKey = none ∨
    s.character.commands.find command.requestKey = some command

theorem lasting_charging (command : PurchaseCommand) : Lasting (Charging command) := by
  intro s s' honward h
  unfold Charging at h ⊢
  rw [honward.commands]
  exact h

/-- The reply to a charge that says so when the row is there. -/
def Charged (command : PurchaseCommand) (charged : Prop) (s : PurchaseState) : Prop :=
  Charging command s ∧ (charged → s.character.commands.find command.requestKey = some command)

theorem lasting_charged (charged : Prop) : Lasting (Charged command charged) :=
  (lasting_charging command).and (lasting_find command.requestKey (some command)).imp

variable (hnew : command =
  { command with status := .pendingApplication, published := false, failureReason := none })
include hnew

theorem ensures_commitCharge
    (hjustified : ∀ s : PurchaseState, s.Justified (.charge command)) (h : Charging command s) :
    (surroundings catalog).Ensures (commit (.charge command))
      (fun reply => Charged command (reply = .ok)) s := by
  refine ensures_ask (.commit (.charge command)) (lasting_charging command)
    (fun reply => lasting_charged _) (fun s _ _ => hjustified s) ?_ h
  intro s _ hs _ w reply s' hperform
  obtain ⟨hreply, rfl⟩ := Prod.ext_iff.mp (Option.some.inj hperform)
  dsimp only at hreply ⊢
  rcases s.commitReply_cases (.charge command) w with ⟨heq, hrefused⟩ | ⟨character, happly, heq⟩ <;>
    rw [heq]
  · exact ⟨hs, fun hok => absurd (hreply.trans hok) hrefused⟩
  · have hfind : character.commands.find command.requestKey = some command := by
      simp only [CharacterTransaction.apply, Option.bind_eq_bind, Option.pure_def,
        Option.bind_eq_some_iff] at happly
      obtain ⟨charged, -, commands, hinsert, hcharacter⟩ := happly
      cases hcharacter
      rw [← hnew] at hinsert
      exact (KeyedTable.find_insert hinsert command.requestKey).trans (if_pos rfl)
    exact ⟨.inr hfind, fun _ => hfind⟩

theorem ensures_chargeAndInsertCommand
    (hjustified : ∀ s : PurchaseState, s.Justified (.charge command)) (h : Charging command s) :
    (surroundings catalog).Ensures (chargeAndInsertCommand command)
      (fun reply => Charged command (reply = .ok .charged)) s := by
  refine (ensures_commitCharge hnew hjustified h).andThen fun reply s _ ⟨hs, hok⟩ => ?_
  cases reply with
  | ok =>
    exact Ensures.pure (lasting_find command.requestKey (some command)).stable
      (fun _ _ hfind => ⟨.inr hfind, fun _ => hfind⟩) (hok rfl)
  | definitelyRolledBack | outcomeUnknown =>
    refine (ensures_loadCommand (lasting_charging command) command.requestKey hs).andThen
      fun reply s _ hloaded => ?_
    obtain ⟨hs, hrow⟩ := hloaded
    cases reply with
    | error error =>
      exact Ensures.pure (lasting_charging command).stable
        (fun _ _ hs => ⟨hs, fun h => by cases h⟩) hs
    | ok row =>
      -- A row under this key is the row of this command.
      refine Ensures.pure ((lasting_charging command).and
        (lasting_find command.requestKey row)).stable (fun s _ hs => ⟨hs.1, fun hcharged => ?_⟩)
        ⟨hs, hrow row rfl⟩
      rcases hs.1 with hnone | hfind
      · rw [hs.2] at hnone
        subst hnone
        cases hcharged
      · exact hfind

omit hnew in
theorem ensures_applyPurchase (hopen : command.status ≠ .compensated)
    (haccount : command.accountId = account)
    (hfind : s.character.commands.find command.requestKey = some command) :
    (surroundings catalog).Ensures (applyPurchase catalog playerGuid account command)
      (fun _ _ => True) s := by
  have hadded : Lasting fun s => True ∧
      s.character.commands.find command.requestKey = some command :=
    lasting_true.and (lasting_find command.requestKey (some command))
  refine (Ensures.retry
    (P := fun s => True ∧ s.character.commands.find command.requestKey = some command)
    (fun s hs => (ensures_applyOnce lasting_true (fun _ _ _ => trivial) hs.2 hopen haccount
      trivial).mono fun reply s _ hs => ⟨hs, fun _ _ => hs.1⟩)
    (fun reply => (hadded.and
      (.forall fun outcome => (lasting_receipt command.requestKey).imp)).stable)
    _ ⟨trivial, hfind⟩).andThen fun reply s _ hreply => ?_
  obtain ⟨⟨-, hfind⟩, hreceipt⟩ := hreply
  cases reply with
  | error failure =>
    dsimp only
    split
    · exact (ensures_compensatePurchase
        (kept_hasCommand command.requestKey command.accountId) (fun _ _ hs => hs) (fun _ hs => hs)
        (hasCommand_of_find hfind)).mono fun _ _ _ _ => trivial
    · exact ensures_pure lasting_true _ trivial
  | ok outcome =>
    have hkept : Kept command.requestKey _ := kept_receipt command.requestKey
    refine (ensures_publishPurchase hkept (hreceipt outcome rfl)).andThen
      fun published s _ hs => ?_
    refine (ensures_completePurchase hkept (fun _ hs => hs) hs).andThen fun completed s _ hs => ?_
    split <;> exact ensures_pure lasting_true _ trivial

end Execution

theorem ensures_executePurchase {catalog : Catalog} {playerGuid : ObjectGuid} {account : ℕ}
    {offer : PurchaseOffer} {requestKey : RequestKey} {s : PurchaseState}
    (hnone : s.character.commands.find requestKey = none) :
    (surroundings catalog).Ensures (executePurchase catalog playerGuid account offer requestKey)
      (fun _ _ => True) s := by
  have hdone : ∀ {s} execution, (surroundings catalog).Ensures
      (pure execution : Task PurchaseExecution) (fun _ _ => True) s :=
    fun execution => ensures_pure lasting_true execution trivial
  unfold executePurchase
  split
  · exact hdone _
  · refine (ensures_keeps (.acquireJournalLease account) trivial (fun _ => trivial)
      (lasting_find requestKey none) hnone).andThen fun granted s _ hnone => ?_
    split
    · exact hdone _
    split
    · exact hdone _
    split
    · exact hdone _
    case h_2 money _ =>
      split
      · exact hdone _
      case isFalse hmoney =>
        have hjustified : ∀ s : PurchaseState,
            s.Justified (.charge (offer.command account requestKey money)) :=
          fun _ => ⟨not_lt.mp hmoney, rfl⟩
        refine (Ensures.retry (fun s hs => (ensures_chargeAndInsertCommand rfl hjustified hs).mono
          fun reply s _ hreply => ⟨hreply, fun _ _ => hreply.1⟩)
          (fun reply => (lasting_charged _).stable) _ (.inl hnone)).andThen
          fun reply s _ hreply => ?_
        obtain ⟨-, hfind⟩ := hreply
        split
        · refine (ensures_keeps .stageMoney trivial (fun _ => trivial) (lasting_find requestKey _)
            (hfind rfl)).andThen fun staged s _ hfind => ?_
          split
          · exact hdone _
          · exact ensures_applyPurchase (by simp [PurchaseOffer.command]) rfl hfind
        · exact hdone _
        · exact hdone _
        · exact hdone _

/-! ## Runs -/

namespace PurchaseSystem

/-- The reply to a probe without a fence is conclusive. -/
def Conclusive (system : PurchaseSystem) : PurchaseEvent → Prop
  | .reply _ =>
    match system.session with
    | some ⟨_, .call call _⟩ => system.state.Conclusive call
    | _ => True
  | _ => True

section Step

variable {catalog : Catalog} {playerGuid : ObjectGuid} {system : PurchaseSystem}

/-- The state is sound, and the session goes on with what its task ensures. -/
structure Sound (catalog : Catalog) (system : PurchaseSystem) : Prop where
  state : system.state.Sound
  session : ∀ session, system.session = some session →
    (surroundings catalog).Ensures session.task (fun _ _ => True) system.state

theorem Sound.interfere (h : Sound catalog system) (event : PurchaseEvent) :
    Sound catalog { system with state := system.state.interfere catalog event } :=
  ⟨h.state.interfere catalog event, fun session hsession =>
    (h.session session hsession).interfere ⟨event, rfl⟩⟩

theorem ensures_discard {α : Type} {task : Task α} {s : PurchaseState}
    (h : (surroundings catalog).Ensures task (fun _ _ => True) s) :
    (surroundings catalog).Ensures (do let _ ← task) (fun _ _ => True) s :=
  Ensures.bind (h.mono fun _ _ _ _ => ensures_pure lasting_true _ trivial)

theorem Sound.reply (h : Sound catalog system) {w : Circumstance}
    (hconclusive : system.Conclusive (.reply w)) :
    Sound catalog (system.step catalog playerGuid (.reply w)) := by
  obtain ⟨s, session⟩ := system
  cases session with
  | none => exact h
  | some session =>
    obtain ⟨account, task⟩ := session
    cases task with
    | done a => exact h
    | call call next =>
      unfold step
      dsimp only
      cases hperform : perform catalog call w s with
      | none => exact h
      | some result =>
        obtain ⟨reply, s'⟩ := result
        obtain ⟨hsound, hnext⟩ := h.session _ rfl s ⟨.refl, h.state⟩ hconclusive w reply s'
          hperform
        refine ⟨hsound, fun session hsession => ?_⟩
        cases hsession
        exact hnext

theorem Sound.step (h : Sound catalog system) (event : PurchaseEvent)
    (hconclusive : system.Conclusive event) :
    Sound catalog (system.step catalog playerGuid event) := by
  cases event with
  | login account =>
    unfold PurchaseSystem.step
    dsimp only
    split
    · exact h
    · refine ⟨h.state, fun session hsession => ?_⟩
      cases hsession
      exact ensures_discard ensures_recoverPurchases
  | purchase offer requestKey =>
    unfold PurchaseSystem.step
    dsimp only
    split
    · split
      case isTrue hfresh =>
        refine ⟨h.state, fun session hsession => ?_⟩
        cases hsession
        simp only [isFresh, Bool.and_eq_true, Option.isNone_iff_eq_none] at hfresh
        exact ensures_discard (ensures_executePurchase hfresh.1.1)
      · exact h
    · exact h
  | reply w => exact h.reply hconclusive
  | stop => exact ⟨h.state, fun session hsession => by cases hsession⟩
  | crash => exact ⟨h.state.crash, fun session hsession => by cases hsession⟩
  | work i w => exact h.interfere (.work i w)
  | loseLease account => exact h.interfere (.loseLease account)
  | reacquire account => exact h.interfere (.reacquire account)
  | otherProcess account => exact h.interfere (.otherProcess account)
  | changeMoney money => exact h.interfere (.changeMoney money)

theorem sound_initial (catalog : Catalog) (money : Option ℕ) (generation : ℕ → ℕ) :
    Sound catalog (.initial money generation) :=
  ⟨PurchaseState.sound_initial money generation, fun session hsession => by cases hsession⟩

end Step

end PurchaseSystem

/-- Every purchase has the pet or the refund, and never both. -/
structure PurchaseState.Settled (s : PurchaseState) : Prop where
  charged : ∀ requestKey, charges requestKey s.character.transfers =
    ((s.character.commands.find requestKey).map (·.price)).toList
  refunded : ∀ requestKey, refunds requestKey s.character.transfers =
    ((s.character.commands.find requestKey).bind refundDue).toList
  created : ∀ requestKey, s.createdPets.count requestKey ≤ 1
  completed : ∀ requestKey, s.status requestKey = some .completed →
    s.receipts.find requestKey ≠ none
  compensated : ∀ requestKey, s.status requestKey = some .compensated →
    s.receipts.find requestKey = none ∧ requestKey ∉ s.createdPets

theorem PurchaseState.Sound.settled {s : PurchaseState} (h : Sound s) : s.Settled where
  charged := h.charged
  refunded := h.refunded
  created requestKey := by
    rw [h.created]
    split <;> simp
  completed := h.completed
  compensated requestKey hstatus := by
    have hnone := (h.compensated requestKey hstatus).1
    have hcount := h.created requestKey
    rw [hnone] at hcount
    exact ⟨hnone, List.count_eq_zero.mp hcount⟩

/-- As long as every probe without a fence is conclusive, every purchase is settled. -/
theorem purchases_settled (catalog : Catalog) (playerGuid : ObjectGuid) (money : Option ℕ)
    (generation : ℕ → ℕ) (events : List PurchaseEvent)
    (hconclusive : EachStep (PurchaseSystem.step catalog playerGuid) PurchaseSystem.Conclusive
      (.initial money generation) events) :
    (run (PurchaseSystem.step catalog playerGuid) (.initial money generation)
      events).state.Settled := by
  refine (run_invariant (PurchaseSystem.Sound catalog) (fun system event h hevent => ?_)
    (PurchaseSystem.sound_initial catalog money generation) hconclusive).state.settled
  exact h.step event hevent

/-! ## Two runs -/

instance (s : PurchaseState) (requestKey : RequestKey) : Decidable (s.InFlight requestKey) :=
  inferInstanceAs (Decidable (∃ worker ∈ s.workers, worker.request.requestKey = requestKey ∧
    worker.mayInsert = true ∧ s.generation worker.account ≤ worker.fence))

instance (s : PurchaseState) (call : Call) : Decidable (s.Conclusive call) :=
  match call with
  | .lookupAddRequest .probe _ requestKey =>
    inferInstanceAs (Decidable (s.receipts.find requestKey = none → ¬s.InFlight requestKey))
  | .lookupAddRequest .add _ _ | .lookupAddRequest .fencedProbe _ _ | .commit _ | .loadCommand _
  | .loadMoney | .loadPending _ | .beginExclusiveMoney | .stageMoney | .publish
  | .acquireJournalLease _ | .beginAdd _ _ | .completedAdd _ _ | .replayAdd _ _ _
  | .reserveAdd _ _ | .joinAdd _ _ | .acquireProcessLease _ => isTrue trivial

instance (system : PurchaseSystem) (event : PurchaseEvent) :
    Decidable (system.Conclusive event) :=
  match system, event with
  | ⟨s, some ⟨_, .call call _⟩⟩, .reply _ => inferInstanceAs (Decidable (s.Conclusive call))
  | ⟨_, some ⟨_, .done _⟩⟩, .reply _ | ⟨_, none⟩, .reply _ => isTrue trivial
  | _, .login _ | _, .purchase _ _ | _, .stop | _, .work _ _ | _, .loseLease _ | _, .reacquire _
  | _, .otherProcess _ | _, .changeMoney _ | _, .crash => isTrue trivial

/-- Everything answers, and nothing is refused. -/
def fairCircumstance : Circumstance :=
  ⟨true, true, true, .retryable, none, none, none, 7⟩

def sampleCatalog : Catalog := ⟨fun _ => some ⟨0⟩, fun _ _ _ _ => 100⟩

def sampleOffer : PurchaseOffer :=
  ⟨none, true, some 100, 1, 2, 3, 4, 5, 6, 1, 30⟩

/-- A purchase whose pet is created before the session goes on. -/
def soldRun : List PurchaseEvent :=
  [.login 1, .reply fairCircumstance, .purchase sampleOffer 9] ++
    List.replicate 6 (.reply fairCircumstance) ++
    List.replicate 5 (.work 0 fairCircumstance) ++ List.replicate 4 (.reply fairCircumstance)

theorem purchases_settled_soldRun :
    (run (PurchaseSystem.step sampleCatalog .empty) (.initial (some 100) fun _ => 0)
      soldRun).state.Settled :=
  purchases_settled sampleCatalog .empty (some 100) (fun _ => 0) soldRun (by decide +kernel)

example : (run (PurchaseSystem.step sampleCatalog .empty) (.initial (some 100) fun _ => 0)
    soldRun).state.status 9 = some .completed := by decide +kernel

/-- A purchase is stopped while its add worker begins. A login under another account leaves
the command to be compensated, and a login under the first one refunds it. Then the worker
creates the pet. -/
def refundedRun : List PurchaseEvent :=
  [.login 1, .reply fairCircumstance, .purchase sampleOffer 9] ++
    List.replicate 6 (.reply fairCircumstance) ++ [.stop, .login 2] ++
    List.replicate 5 (.reply fairCircumstance) ++ [.stop, .login 1] ++
    List.replicate 9 (.reply fairCircumstance) ++ List.replicate 3 (.work 0 fairCircumstance)

/-- The purchase of the run has both the refund and the pet. -/
theorem refundedRun_not_settled :
    ¬(run (PurchaseSystem.step sampleCatalog .empty) (.initial (some 100) fun _ => 0)
      refundedRun).state.Settled := by
  intro h
  have hcompensated : (run (PurchaseSystem.step sampleCatalog .empty)
      (.initial (some 100) fun _ => 0) refundedRun).state.status 9 = some .compensated := by
    decide +kernel
  have hcreated : 9 ∈ (run (PurchaseSystem.step sampleCatalog .empty)
      (.initial (some 100) fun _ => 0) refundedRun).state.createdPets := by
    decide +kernel
  exact (h.compensated 9 hcompensated).2 hcreated

end RustyCore.BattlePets
