import RustyCore.Verification.BattlePets.PurchaseCalls

/-! # The steps of a purchase

What the single calls, the marks of the store and the questions to the account owner ensure
while the rest of the server moves. -/

namespace RustyCore.BattlePets

open PurchaseState Surroundings

/-- A probe without a fence finds no receipt only where none can be written any more. -/
def PurchaseState.Conclusive (s : PurchaseState) : Call → Prop
  | .lookupAddRequest .probe _ requestKey =>
    s.receipts.find requestKey = none → ¬s.InFlight requestKey
  | _ => True

/-- A session among its add workers, the other sessions and the other processes. -/
def surroundings (catalog : Catalog) : Surroundings Call Reply Circumstance PurchaseState where
  perform := perform catalog
  interferes s s' := ∃ event, s' = s.interfere catalog event
  invariant := Sound
  allowed := Conclusive

/-! ## Facts of a session -/

/-- A fact that no one but the session takes away. -/
def Lasting (P : PurchaseState → Prop) : Prop := ∀ s s', Onward s s' → P s → P s'

/-- A lasting fact that the marks of a command keep. -/
structure Kept (requestKey : RequestKey) (P : PurchaseState → Prop) : Prop where
  lasting : Lasting P
  marks : ∀ s (transaction : CharacterTransaction) character, transaction.IsMark → transaction.requestKey = requestKey →
    transaction.apply s.character = some character → P s → P { s with character }

/-- A fact that a new worker does not take away. -/
def KeptByAdds (P : PurchaseState → Prop) : Prop :=
  ∀ s worker, P s → P { s with workers := s.workers ++ [worker] }

section Facts

variable {P P' : PurchaseState → Prop} {requestKey k : RequestKey}

theorem Lasting.stable {catalog : Catalog} (hP : Lasting P) : (surroundings catalog).Stable P := by
  rintro s _ h ⟨event, rfl⟩
  exact hP s _ (s.onward_interfere catalog event) h

theorem Lasting.and (hP : Lasting P) (hP' : Lasting P') : Lasting fun s => P s ∧ P' s :=
  fun s s' honward h => ⟨hP s s' honward h.1, hP' s s' honward h.2⟩

theorem Lasting.imp {p : Prop} (hP : Lasting P) : Lasting fun s => p → P s :=
  fun s s' honward h hp => hP s s' honward (h hp)

theorem Lasting.forall {ι : Sort*} {P : ι → PurchaseState → Prop} (hP : ∀ i, Lasting (P i)) :
    Lasting fun s => ∀ i, P i s :=
  fun s s' honward h i => hP i s s' honward (h i)

theorem lasting_true : Lasting fun _ => True := fun _ _ _ _ => trivial

theorem lasting_find (k : RequestKey) (row : Option PurchaseCommand) :
    Lasting fun s => s.character.commands.find k = row := by
  intro s s' honward h
  rw [honward.commands]
  exact h

theorem lasting_receipt (k : RequestKey) : Lasting fun s => s.receipts.find k ≠ none :=
  fun _ _ honward h => honward.hasReceipt h

theorem lasting_clear (k : RequestKey) : Lasting fun s => s.Clear k :=
  fun _ _ honward h => honward.clear h

theorem lasting_not_inFlight (k : RequestKey) : Lasting fun s => ¬s.InFlight k :=
  fun _ _ honward h hflight => h (honward.inFlight k hflight)

theorem Kept.and (hP : Kept requestKey P) (hP' : Kept requestKey P') :
    Kept requestKey fun s => P s ∧ P' s where
  lasting := hP.lasting.and hP'.lasting
  marks s transaction character hmark hkey happly h :=
    ⟨hP.marks s transaction character hmark hkey happly h.1,
      hP'.marks s transaction character hmark hkey happly h.2⟩

theorem kept_receipt (k : RequestKey) : Kept requestKey fun s => s.receipts.find k ≠ none :=
  ⟨lasting_receipt k, fun _ _ _ _ _ _ h => h⟩

theorem kept_clear (k : RequestKey) : Kept requestKey fun s => s.Clear k :=
  ⟨lasting_clear k, fun _ _ _ _ _ _ h => h⟩

def PurchaseState.HasCommand (s : PurchaseState) (requestKey : RequestKey) (account : ℕ) : Prop :=
  ∃ command, s.character.commands.find requestKey = some command ∧ command.accountId = account

theorem kept_hasCommand (k : RequestKey) (account : ℕ) :
    Kept requestKey fun s => s.HasCommand k account where
  lasting s s' honward h := by
    obtain ⟨command, hfind, haccount⟩ := h
    exact ⟨command, by rw [honward.commands]; exact hfind, haccount⟩
  marks s transaction character _ _ happly h := by
    obtain ⟨command, hfind, haccount⟩ := h
    obtain ⟨command', hfind', haccount'⟩ := CharacterTransaction.keeps_account happly hfind
    exact ⟨command', hfind', haccount'.trans haccount⟩

theorem kept_rows {commands : List PurchaseCommand}
    (hother : ∀ command ∈ commands, command.requestKey ≠ requestKey) :
    Kept requestKey fun s => ∀ command ∈ commands,
      s.character.commands.find command.requestKey = some command where
  lasting s s' honward h command hcommand := by
    rw [honward.commands]
    exact h command hcommand
  marks s transaction character _ hkey happly h command hcommand := by
    refine (CharacterTransaction.find_of_ne happly ?_).trans (h command hcommand)
    rw [hkey]
    exact hother command hcommand

end Facts

/-! ## Calls -/

section Calls

variable {catalog : Catalog} {P : PurchaseState → Prop} {s : PurchaseState}
variable {requestKey : RequestKey}

theorem ensures_ask (call : Call) (hP : Lasting P) {Q : Reply call → PurchaseState → Prop}
    (hQ : ∀ reply, Lasting (Q reply)) (hknows : ∀ s, Sound s → P s → s.Knows call)
    (hcall : ∀ s, Sound s → P s → s.Conclusive call → ∀ w reply s',
      perform catalog call w s = some (reply, s') → Q reply s') (h : P s) :
    (surroundings catalog).Ensures (Await.ask call) Q s := by
  refine Ensures.call hP.stable (fun s hsound hs hallowed w reply s' hperform => ?_) h
  exact ⟨hsound.perform (hknows s hsound hs) hperform,
    Ensures.pure (hQ reply).stable (fun _ _ h => h) (hcall s hsound hs hallowed w reply s' hperform)⟩

theorem ensures_quiet (call : Call) (hquiet : IsQuiet call) (hP : Lasting P)
    (hknows : ∀ s, Sound s → P s → s.Knows call) {X : Reply call → PurchaseState → Prop}
    (hX : ∀ reply, Lasting (X reply))
    (hreply : ∀ s, Sound s → P s → s.Conclusive call → ∀ w reply s',
      perform catalog call w s = some (reply, s') → X reply s') (h : P s) :
    (surroundings catalog).Ensures (Await.ask call) (fun reply s' => P s' ∧ X reply s') s :=
  ensures_ask call hP (fun reply => hP.and (hX reply)) hknows
    (fun s hsound hs hallowed w reply s' hperform =>
      ⟨hP s s' (onward_perform hquiet hperform) hs,
        hreply s hsound hs hallowed w reply s' hperform⟩) h

theorem ensures_keeps (call : Call) (hquiet : IsQuiet call)
    (hknows : ∀ s : PurchaseState, s.Knows call) (hP : Lasting P) (h : P s) :
    (surroundings catalog).Ensures (Await.ask call) (fun _ => P) s :=
  ensures_ask call hP (fun _ => hP) (fun s _ _ => hknows s)
    (fun s _ hs _ _ _ s' hperform => hP s s' (onward_perform hquiet hperform) hs) h

/-- A mark that is justified by a fact `X`, which it may end. -/
theorem ensures_mark_of {X : PurchaseState → Prop} (transaction : CharacterTransaction)
    (hmark : transaction.IsMark) (hkey : transaction.requestKey = requestKey)
    (hP : Kept requestKey P) (hX : Lasting X)
    (hjustified : ∀ s, P s → X s → s.Justified transaction) (h : P s) (hx : X s) :
    (surroundings catalog).Ensures (commit transaction) (fun _ => P) s := by
  refine ensures_ask (.commit transaction) (hP.lasting.and hX) (fun _ => hP.lasting)
    (fun s _ hs => hjustified s hs.1 hs.2) ?_ ⟨h, hx⟩
  intro s _ hs _ w reply s' hperform
  obtain rfl : (s.commitReply transaction w).2 = s' :=
    congrArg Prod.snd (Option.some.inj hperform)
  rcases s.commitReply_cases transaction w with ⟨heq, -⟩ | ⟨character, happly, heq⟩ <;> rw [heq]
  · exact hs.1
  · exact hP.marks s transaction character hmark hkey happly hs.1

theorem ensures_mark (transaction : CharacterTransaction) (hmark : transaction.IsMark)
    (hkey : transaction.requestKey = requestKey) (hP : Kept requestKey P)
    (hjustified : ∀ s, P s → s.Justified transaction) (h : P s) :
    (surroundings catalog).Ensures (commit transaction) (fun _ => P) s :=
  ensures_mark_of transaction hmark hkey hP lasting_true (fun s hs _ => hjustified s hs) h trivial

theorem ensures_loadCommand (hP : Lasting P) (requestKey : RequestKey) (h : P s) :
    (surroundings catalog).Ensures (loadCommand requestKey) (fun reply s' => P s' ∧
      ∀ row, reply = .ok row → s'.character.commands.find requestKey = row) s := by
  refine ensures_quiet (.loadCommand requestKey) trivial hP (fun _ _ _ => trivial)
    (fun reply => .forall fun row => (lasting_find requestKey row).imp) ?_ h
  rintro s - - - w reply s' hperform row rfl
  cases hanswered : w.answered <;> simp only [perform, hanswered] at hperform <;> cases hperform
  rfl

theorem lookupReply_eq_ok {account : ℕ} {w : Circumstance} {receipt : Option FoundReceipt}
    (h : s.lookupReply account requestKey w = .ok receipt) :
    receipt.isSome = (s.receipts.find requestKey).isSome := by
  unfold lookupReply at h
  split at h
  · cases h
  · split at h
    case h_1 hfind =>
      cases h
      rw [findRequest, Option.map_eq_none_iff] at hfind
      rw [hfind]
      rfl
    case h_2 receiptAccount found hfind =>
      split at h
      · cases h
      · cases h
        exact (Option.isSome_iff_ne_none.mpr (AddWorker.findRequest_eq_some hfind)).symm

theorem ensures_lookup (hP : Lasting P) (reader : ReceiptReader) (account : ℕ)
    (requestKey : RequestKey) (h : P s) :
    (surroundings catalog).Ensures (lookupAddRequest reader account requestKey)
      (fun reply s' => P s' ∧ ∀ receipt, reply = .ok (some receipt) →
        s'.receipts.find requestKey ≠ none) s := by
  refine ensures_quiet (.lookupAddRequest reader account requestKey) trivial hP
    (fun _ _ _ => trivial) (fun reply => .forall fun receipt => (lasting_receipt requestKey).imp)
    ?_ h
  rintro s - - - w reply s' hperform receipt rfl
  obtain ⟨hreply, rfl⟩ := Prod.ext_iff.mp (Option.some.inj hperform)
  have hfound := lookupReply_eq_ok hreply
  rw [Option.isSome_some] at hfound
  exact Option.isSome_iff_ne_none.mp hfound.symm

/-- What a probe concludes: the receipt is there, or no one will write it. -/
def Concluded (s : PurchaseState) (requestKey : RequestKey) (found : Bool) : Prop :=
  if found then s.receipts.find requestKey ≠ none else s.Clear requestKey

theorem lasting_concluded (requestKey : RequestKey) (found : Bool) :
    Lasting fun s => Concluded s requestKey found := by
  cases found with
  | true => exact lasting_receipt requestKey
  | false => exact lasting_clear requestKey

/-- A lookup where no receipt can be written unnoticed. -/
theorem ensures_probe (reader : ReceiptReader) (account : ℕ) (requestKey : RequestKey)
    (hP : Lasting P) (hflight : ∀ s, P s →
      s.Conclusive (.lookupAddRequest reader account requestKey) →
      s.receipts.find requestKey = none → ¬s.InFlight requestKey) (h : P s) :
    (surroundings catalog).Ensures (lookupAddRequest reader account requestKey)
      (fun reply s' => P s' ∧ ∀ receipt, reply = .ok receipt →
        Concluded s' requestKey receipt.isSome) s := by
  refine ensures_quiet (.lookupAddRequest reader account requestKey) trivial hP
    (fun _ _ _ => trivial)
    (fun reply => .forall fun receipt => (lasting_concluded requestKey _).imp) ?_ h
  rintro s - hs hallowed w reply s' hperform receipt rfl
  obtain ⟨hreply, rfl⟩ := Prod.ext_iff.mp (Option.some.inj hperform)
  rw [lookupReply_eq_ok hreply]
  cases hfind : s.receipts.find requestKey with
  | none => exact ⟨hfind, hflight s hs hallowed hfind⟩
  | some found =>
    change s.receipts.find requestKey ≠ none
    rw [hfind]
    exact Option.some_ne_none found

/-- The fence of a probe stops every worker of the command. -/
theorem ensures_acquire {account : ℕ} (hP : Lasting P)
    (hcommand : ∀ s, P s → s.HasCommand requestKey account) (h : P s) :
    (surroundings catalog).Ensures (tryAcquireProcessLease account)
      (fun reply s' => P s' ∧ (reply = .ok true → ¬s'.InFlight requestKey)) s := by
  refine ensures_quiet (.acquireProcessLease account) trivial hP (fun _ _ _ => trivial)
    (fun reply => (lasting_not_inFlight requestKey).imp) ?_ h
  rintro s hsound hs - w reply s' hperform rfl
  obtain ⟨hreply, rfl⟩ := Prod.ext_iff.mp (Option.some.inj hperform)
  obtain ⟨command, hfind, haccount⟩ := hcommand s hs
  have hadvanced : (s.acquireReply account w).2 = s.advanceFence account := by
    revert hreply
    unfold acquireReply
    split
    · simp
    · split <;> simp
  rintro ⟨worker, hworker, rfl, -, hfence⟩
  rw [hadvanced] at hworker hfence
  -- The worker belongs to the account, and its fence is older.
  obtain ⟨command', hfind', howner⟩ := hsound.owned worker hworker
  obtain rfl : command = command' := Option.some.inj (hfind.symm.trans hfind')
  rw [haccount] at howner
  have hold := hsound.fences worker hworker
  rw [← howner] at hold hfence
  have hnew : (s.advanceFence account).generation account = s.generation account + 1 :=
    Function.update_self _ _ _
  omega

end Calls

/-! ## The store -/

section Store

variable {catalog : Catalog} {P : PurchaseState → Prop} {s : PurchaseState}
  {requestKey : RequestKey}

theorem ensures_pure {α : Type} (hP : Lasting P) (a : α) (h : P s) :
    (surroundings catalog).Ensures (pure a) (fun _ => P) s :=
  Ensures.pure hP.stable (fun _ _ h => h) h

theorem ensures_load (hP : Lasting P) (requestKey : RequestKey) (h : P s) :
    (surroundings catalog).Ensures (loadCommand requestKey) (fun _ => P) s :=
  ensures_keeps (.loadCommand requestKey) trivial (fun _ => trivial) hP h

theorem ensures_retryStore {α : Type} {step : Task (Except StoreError α)} (hP : Lasting P)
    (hstep : ∀ s, P s → (surroundings catalog).Ensures step (fun _ => P) s) (h : P s) :
    (surroundings catalog).Ensures (retryStore step) (fun _ => P) s :=
  Ensures.retry (fun s hs => (hstep s hs).mono fun _ _ _ h => ⟨h, fun _ _ => h⟩)
    (fun _ => hP.stable) _ h

/-- A mark, and a load where it is not acknowledged: the load only decides the result. -/
theorem ensures_settledMark {α : Type} (transaction : CharacterTransaction)
    (hmark : transaction.IsMark) (hkey : transaction.requestKey = requestKey)
    (hP : Kept requestKey P) (hjustified : ∀ s, P s → s.Justified transaction) {done : α}
    {settle : Except StoreError (Option PurchaseCommand) → Task α}
    (hsettle : ∀ reply, ∃ result, settle reply = pure result) (h : P s) :
    (surroundings catalog).Ensures (commit transaction >>= fun reply =>
      match reply with
      | .ok => pure done
      | .definitelyRolledBack => loadCommand requestKey >>= settle
      | .outcomeUnknown => loadCommand requestKey >>= settle) (fun _ => P) s := by
  refine (ensures_mark transaction hmark hkey hP hjustified h).andThen fun reply s _ hs => ?_
  cases reply with
  | ok => exact ensures_pure hP.lasting _ hs
  | definitelyRolledBack | outcomeUnknown =>
    refine (ensures_load hP.lasting requestKey hs).andThen fun row s _ hs => ?_
    obtain ⟨result, hresult⟩ := hsettle row
    rw [hresult]
    exact ensures_pure hP.lasting result hs

theorem ensures_markPublished (hP : Kept requestKey P) (h : P s) :
    (surroundings catalog).Ensures (markPublished requestKey) (fun _ => P) s := by
  refine ensures_settledMark (.published requestKey) trivial rfl hP (fun _ _ => trivial)
    (fun reply => ?_) h
  rcases reply with error | (_ | row)
  · exact ⟨_, rfl⟩
  · exact ⟨_, rfl⟩
  · dsimp only
    split_ifs <;> exact ⟨_, rfl⟩

theorem ensures_commitMark (transaction : CharacterTransaction) {target : PurchaseStatus}
    (hmark : transaction.IsMark) (hkey : transaction.requestKey = requestKey)
    (hP : Kept requestKey P) (hjustified : ∀ s, P s → s.Justified transaction) (h : P s) :
    (surroundings catalog).Ensures (commitMark transaction requestKey target) (fun _ => P) s :=
  ensures_settledMark transaction hmark hkey hP hjustified
    (fun reply => by cases reply <;> exact ⟨_, rfl⟩) h

theorem ensures_markTerminalFailure {reason : String} (hP : Kept requestKey P) (h : P s) :
    (surroundings catalog).Ensures (markTerminalFailure requestKey reason) (fun _ => P) s := by
  refine ensures_settledMark (.terminalFailure requestKey reason) trivial rfl hP
    (fun _ _ => trivial) (fun reply => ?_) h
  rcases reply with error | (_ | row)
  · exact ⟨_, rfl⟩
  · exact ⟨_, rfl⟩
  · dsimp only
    split_ifs <;> exact ⟨_, rfl⟩

theorem ensures_loadMoney {α : Type} (hP : Lasting P)
    {next : Except StoreError (Option ℕ) → Task α}
    (hnext : ∀ reply s, P s → (surroundings catalog).Ensures (next reply) (fun _ => P) s)
    (h : P s) :
    (surroundings catalog).Ensures (loadCharacterMoney >>= next) (fun _ => P) s :=
  (ensures_keeps .loadMoney trivial (fun _ => trivial) hP h).andThen fun reply s _ hs => hnext reply
    s hs

theorem ensures_refundedMoney {outcome : ℕ → CompensationOutcome} (hP : Lasting P) (h : P s) :
    (surroundings catalog).Ensures (refundedMoney outcome) (fun _ => P) s := by
  refine ensures_loadMoney hP (fun reply s hs => ?_) h
  split
  · exact ensures_pure hP _ hs
  · exact ensures_pure hP _ hs
  · exact ensures_pure hP _ hs

theorem ensures_commitRefund {command : PurchaseCommand} {maxMoney : ℕ} (hP : Kept requestKey P)
    (hclear : ∀ s, P s → s.Clear requestKey) (h : P s)
    (hfind : s.character.commands.find requestKey = some command) :
    (surroundings catalog).Ensures (commit (.compensated requestKey command.price maxMoney))
      (fun _ => P) s := by
  refine ensures_mark_of (.compensated requestKey command.price maxMoney) trivial rfl
    hP (lasting_find requestKey (some command)) (fun s hs hfind => ⟨hclear s hs, ?_⟩) h hfind
  intro command' hfind'
  obtain rfl : command = command' := Option.some.inj (hfind.symm.trans hfind')
  rfl

/-- The refund is sent where no pet can be created any more, at the price of the row. -/
theorem ensures_compensate {maxMoney : ℕ} (hP : Kept requestKey P)
    (hclear : ∀ s, P s → s.Clear requestKey) (h : P s) :
    (surroundings catalog).Ensures (compensate requestKey maxMoney) (fun _ => P) s := by
  refine (ensures_loadCommand hP.lasting requestKey h).andThen fun reply s _ ⟨hs, hrow⟩ => ?_
  have hdone : ∀ {s} result, P s → (surroundings catalog).Ensures
      (pure result : Task (Except StoreError CompensationOutcome)) (fun _ => P) s :=
    fun result hs => ensures_pure hP.lasting result hs
  cases reply with
  | error error => exact hdone _ hs
  | ok row =>
    cases row with
    | none => exact hdone _ hs
    | some command =>
      have hfind := hrow _ rfl
      dsimp only
      split
      · refine ensures_loadMoney hP.lasting (fun reply s hs => ?_) hs
        split <;> exact hdone _ hs
      · exact hdone _ hs
      · exact hdone _ hs
      · exact hdone _ hs
      · refine (ensures_commitRefund hP hclear hs hfind).andThen fun reply s _ hs => ?_
        cases reply with
        | ok => exact ensures_refundedMoney hP.lasting hs
        | definitelyRolledBack | outcomeUnknown =>
          refine (ensures_load hP.lasting requestKey hs).andThen fun reply s _ hs => ?_
          split
          · split
            · exact ensures_refundedMoney hP.lasting hs
            · exact hdone _ hs
            · refine ensures_loadMoney hP.lasting (fun reply s hs => ?_) hs
              split <;> exact hdone _ hs
            · exact hdone _ hs
            · exact hdone _ hs
          · exact hdone _ hs
          · exact hdone _ hs

end Store

end RustyCore.BattlePets
