import RustyCore.Verification.BattlePets.PurchaseInvariant

/-! # The calls of a session

What a transaction does to the command it names, and what every call leaves alone. -/

namespace RustyCore.BattlePets

variable {db db' : CharacterDb} {command : PurchaseCommand} {transaction : CharacterTransaction}

/-! ## Transactions -/

/-- The command that a transaction is about. -/
def CharacterTransaction.requestKey : CharacterTransaction → RequestKey
  | .charge command => command.requestKey
  | .published requestKey | .completed requestKey | .compensationPending requestKey _
  | .compensated requestKey _ _ | .terminalFailure requestKey _ => requestKey

/-- All but a charge: a change of a row that is there. -/
def CharacterTransaction.IsMark : CharacterTransaction → Prop
  | .charge _ => False
  | _ => True

theorem CharacterDb.mark_eq_some {requestKey : RequestKey} {guard : PurchaseCommand → Bool}
    {change : PurchaseCommand → PurchaseCommand}
    {hchange : ∀ command, (change command).requestKey = command.requestKey}
    (h : db.mark requestKey guard change hchange = some db') :
    db'.money = db.money ∧ db'.transfers = db.transfers ∧
      ∃ command, db.commands.find requestKey = some command ∧ guard command = true ∧
        ∀ k, db'.commands.find k =
          if k = requestKey then some (change command) else db.commands.find k := by
  unfold mark at h
  split at h
  · cases h
  case h_2 command hfind =>
    split at h
    case isTrue hguard =>
      cases h
      refine ⟨rfl, rfl, command, hfind, hguard, fun k => ?_⟩
      rw [KeyedTable.find_update]
      split
      case isTrue hk =>
        rw [hk, hfind]
        rfl
      case isFalse => rfl
    · cases h

theorem CharacterDb.chargeMoney_eq_some (h : db.chargeMoney command = some db') :
    db'.commands = db.commands ∧
      db'.transfers = .charge command.requestKey (command.moneyBefore - command.moneyAfter) ::
        db.transfers := by
  unfold chargeMoney at h
  split at h
  case isTrue hmoney =>
    cases h
    rw [hmoney, Nat.sub_self]
    exact ⟨rfl, rfl⟩
  · split at h
    · cases h
      exact ⟨rfl, rfl⟩
    · cases h

theorem CharacterDb.refundMoney_eq_some {requestKey : RequestKey} {price maxMoney : ℕ}
    (h : db.refundMoney requestKey price maxMoney = some db') :
    db'.commands = db.commands ∧ db'.transfers = .refund requestKey price :: db.transfers := by
  unfold refundMoney at h
  split at h
  case isTrue hprice =>
    cases h
    rw [hprice]
    exact ⟨rfl, rfl⟩
  · split at h
    · cases h
    · cases h
      exact ⟨rfl, rfl⟩

theorem CharacterTransaction.find_of_ne (h : transaction.apply db = some db')
    {requestKey : RequestKey} (hkey : requestKey ≠ transaction.requestKey) :
    db'.commands.find requestKey = db.commands.find requestKey := by
  cases transaction with
  | charge command =>
    simp only [apply, Option.bind_eq_bind, Option.pure_def, Option.bind_eq_some_iff] at h
    obtain ⟨charged, hcharged, commands, hinsert, hdb⟩ := h
    cases hdb
    rw [← (CharacterDb.chargeMoney_eq_some hcharged).1]
    exact (KeyedTable.find_insert hinsert requestKey).trans (if_neg hkey)
  | compensated key price maxMoney =>
    simp only [apply, Option.bind_eq_bind, Option.bind_eq_some_iff] at h
    obtain ⟨refunded, hrefunded, hmark⟩ := h
    obtain ⟨-, -, command, -, -, hfind⟩ := CharacterDb.mark_eq_some hmark
    rw [← (CharacterDb.refundMoney_eq_some hrefunded).1]
    exact (hfind requestKey).trans (if_neg hkey)
  | published key | completed key | compensationPending key reason | terminalFailure key reason =>
    obtain ⟨-, -, command, -, -, hfind⟩ := CharacterDb.mark_eq_some h
    exact (hfind requestKey).trans (if_neg hkey)

theorem CharacterTransaction.keeps_account (h : transaction.apply db = some db')
    {requestKey : RequestKey} (hfind : db.commands.find requestKey = some command) :
    ∃ command', db'.commands.find requestKey = some command' ∧
      command'.accountId = command.accountId := by
  by_cases hkey : requestKey = transaction.requestKey
  · subst hkey
    cases transaction with
    | charge charged =>
      -- The key of a charge is a new one.
      simp only [apply, Option.bind_eq_bind, Option.pure_def, Option.bind_eq_some_iff] at h
      obtain ⟨db₁, hcharged, commands, hinsert, -⟩ := h
      rw [← (CharacterDb.chargeMoney_eq_some hcharged).1] at hfind
      cases hfind.symm.trans (KeyedTable.insert_eq_some hinsert).1
    | compensated key price maxMoney =>
      simp only [apply, Option.bind_eq_bind, Option.bind_eq_some_iff] at h
      obtain ⟨refunded, hrefunded, hmark⟩ := h
      obtain ⟨-, -, command', hfind', -, hmarked⟩ := CharacterDb.mark_eq_some hmark
      rw [(CharacterDb.refundMoney_eq_some hrefunded).1] at hfind'
      obtain rfl : command = command' := Option.some.inj (hfind.symm.trans hfind')
      exact ⟨_, (hmarked key).trans (if_pos rfl), rfl⟩
    | published key | completed key | compensationPending key reason
    | terminalFailure key reason =>
      obtain ⟨-, -, command', hfind', -, hmarked⟩ := CharacterDb.mark_eq_some h
      obtain rfl : command = command' := Option.some.inj (hfind.symm.trans hfind')
      exact ⟨_, (hmarked key).trans (if_pos rfl), rfl⟩
  · exact ⟨command, (find_of_ne h hkey).trans hfind, rfl⟩

namespace PurchaseState

variable {s s' : PurchaseState} {character : CharacterDb} {account : ℕ} {requestKey : RequestKey}
  {w : Circumstance}

/-- What a session has to know when it sends a transaction. -/
def Justified (s : PurchaseState) : CharacterTransaction → Prop
  | .charge command =>
    command.price ≤ command.moneyBefore ∧ command.moneyAfter = command.moneyBefore - command.price
  | .completed requestKey => s.receipts.find requestKey ≠ none
  | .compensated requestKey price _ =>
    s.Clear requestKey ∧
      ∀ command, s.character.commands.find requestKey = some command → command.price = price
  | .published _ | .compensationPending _ _ | .terminalFailure _ _ => True

/-- A change of the commands and the money alone, which keeps the accounts of the commands. -/
theorem Sound.of_character (h : Sound s)
    (hrows : ∀ k command, s.character.commands.find k = some command →
      ∃ command', character.commands.find k = some command' ∧
        command'.accountId = command.accountId)
    (hcharged : ∀ k, charges k character.transfers =
      ((character.commands.find k).map (·.price)).toList)
    (hrefunded : ∀ k, refunds k character.transfers =
      ((character.commands.find k).bind refundDue).toList)
    (hstatus : ∀ k command, character.commands.find k = some command →
      (command.status = .completed → s.receipts.find k ≠ none) ∧
        (command.status = .compensated → s.Clear k)) :
    Sound { s with character } where
  charged := hcharged
  refunded := hrefunded
  created := h.created
  completed k hk := by
    obtain ⟨command, hfind, hcommand⟩ := Option.map_eq_some_iff.mp hk
    exact (hstatus k command hfind).1 hcommand
  compensated k hk := by
    obtain ⟨command, hfind, hcommand⟩ := Option.map_eq_some_iff.mp hk
    exact (hstatus k command hfind).2 hcommand
  adds := h.adds
  reports := h.reports
  owned worker hworker := by
    obtain ⟨command, hfind, haccount⟩ := h.owned worker hworker
    obtain ⟨command', hfind', haccount'⟩ := hrows _ command hfind
    exact ⟨command', hfind', haccount'.trans haccount⟩
  fences := h.fences
  leases := h.leases

theorem Sound.status_of_find (h : Sound s) {k : RequestKey}
    (hfind : s.character.commands.find k = some command) :
    (command.status = .completed → s.receipts.find k ≠ none) ∧
      (command.status = .compensated → s.Clear k) := by
  have hstatus : s.status k = some command.status := by
    rw [status, hfind]
    rfl
  exact ⟨fun hc => h.completed k (hc ▸ hstatus), fun hc => h.compensated k (hc ▸ hstatus)⟩

theorem Sound.mark (h : Sound s) {guard : PurchaseCommand → Bool}
    {change : PurchaseCommand → PurchaseCommand}
    {hchange : ∀ command, (change command).requestKey = command.requestKey}
    (hmark : s.character.mark requestKey guard change hchange = some character)
    (hrows : ∀ k command, s.character.commands.find k = some command →
      ∃ command', character.commands.find k = some command' ∧
        command'.accountId = command.accountId)
    (hprice : ∀ command, (change command).price = command.price)
    (hdue : ∀ command, guard command = true → refundDue (change command) = refundDue command)
    (hstatus : ∀ command, s.character.commands.find requestKey = some command →
      guard command = true → ((change command).status = .completed →
        s.receipts.find requestKey ≠ none) ∧
      ((change command).status = .compensated → s.Clear requestKey)) :
    Sound { s with character } := by
  obtain ⟨-, htransfers, command, hfind, hguard, hfind'⟩ := CharacterDb.mark_eq_some hmark
  refine h.of_character hrows (fun k => ?_) (fun k => ?_) fun k command' hk => ?_
  · rw [htransfers, h.charged, hfind']
    split
    case isTrue heq =>
      subst heq
      rw [hfind, Option.map_some, Option.map_some, hprice]
    case isFalse => rfl
  · rw [htransfers, h.refunded, hfind']
    split
    case isTrue heq =>
      subst heq
      rw [hfind, Option.bind_some, Option.bind_some, hdue command hguard]
    case isFalse => rfl
  · rw [hfind'] at hk
    split at hk
    case isTrue heq =>
      cases hk
      subst heq
      exact hstatus command hfind hguard
    case isFalse => exact h.status_of_find hk

theorem Sound.charge (h : Sound s) (hjustified : s.Justified (.charge command))
    (hcommit : (CharacterTransaction.charge command).apply s.character = some character) :
    Sound { s with character } := by
  have hrows := fun k command (hk : s.character.commands.find k = some command) =>
    CharacterTransaction.keeps_account hcommit hk
  simp only [CharacterTransaction.apply, Option.bind_eq_bind, Option.pure_def,
    Option.bind_eq_some_iff] at hcommit
  obtain ⟨charged, hcharged, commands, hinsert, hcharacter⟩ := hcommit
  cases hcharacter
  obtain ⟨hcommands, htransfers⟩ := CharacterDb.chargeMoney_eq_some hcharged
  have hamount : command.moneyBefore - command.moneyAfter = command.price := by
    rw [hjustified.2]
    exact Nat.sub_sub_self hjustified.1
  rw [hamount] at htransfers
  have hfind := KeyedTable.find_insert hinsert
  rw [hcommands] at hfind
  have hnone : s.character.commands.find command.requestKey = none := by
    rw [← hcommands]
    exact (KeyedTable.insert_eq_some hinsert).1
  refine h.of_character hrows (fun k => ?_) (fun k => ?_) fun k command' hk => ?_
  · dsimp only
    rw [htransfers, hfind, charges_charge, h.charged]
    by_cases hk : k = command.requestKey
    · subst hk
      rw [if_pos rfl, if_pos rfl, hnone]
      rfl
    · rw [if_neg hk, if_neg (Ne.symm hk)]
  · dsimp only
    rw [htransfers, hfind, refunds_charge, h.refunded]
    by_cases hk : k = command.requestKey
    · subst hk
      rw [if_pos rfl, hnone]
      rfl
    · rw [if_neg hk]
  · dsimp only at hk
    rw [hfind] at hk
    split at hk
    · cases hk
      exact ⟨(fun hc => by cases hc), (fun hc => by cases hc)⟩
    · exact h.status_of_find hk

theorem Sound.compensate (h : Sound s) {price maxMoney : ℕ}
    (hjustified : s.Justified (.compensated requestKey price maxMoney))
    (hcommit : (CharacterTransaction.compensated requestKey price maxMoney).apply s.character =
      some character) :
    Sound { s with character } := by
  have hrows := fun k command (hk : s.character.commands.find k = some command) =>
    CharacterTransaction.keeps_account hcommit hk
  simp only [CharacterTransaction.apply, Option.bind_eq_bind, Option.bind_eq_some_iff] at hcommit
  obtain ⟨refunded, hrefunded, hmark⟩ := hcommit
  obtain ⟨hcommands, htransfers⟩ := CharacterDb.refundMoney_eq_some hrefunded
  obtain ⟨-, htransfers', command, hfind, hguard, hfind'⟩ := CharacterDb.mark_eq_some hmark
  rw [hcommands] at hfind hfind'
  rw [htransfers] at htransfers'
  have hpending : command.status = .compensationPending := by simpa using hguard
  obtain ⟨hclear, hprice⟩ := hjustified
  refine h.of_character hrows (fun k => ?_) (fun k => ?_) fun k command' hk => ?_
  · rw [htransfers', hfind', charges_refund, h.charged]
    split
    case isTrue heq =>
      subst heq
      rw [hfind]
      rfl
    case isFalse => rfl
  · rw [htransfers', hfind', refunds_refund, h.refunded]
    by_cases hk : k = requestKey
    · -- Nothing was refunded before, as the command was not compensated.
      subst hk
      rw [if_pos rfl, if_pos rfl, hfind, Option.bind_some, Option.bind_some, refundDue, refundDue,
        hpending, ← hprice command hfind]
      rfl
    · rw [if_neg hk, if_neg (Ne.symm hk)]
  · rw [hfind'] at hk
    split at hk
    case isTrue heq =>
      cases hk
      subst heq
      exact ⟨(fun hc => by cases hc), fun _ => hclear⟩
    case isFalse => exact h.status_of_find hk

theorem Sound.commit (h : Sound s) (hjustified : s.Justified transaction)
    (hcommit : transaction.apply s.character = some character) : Sound { s with character } := by
  have hrows := fun k command (hk : s.character.commands.find k = some command) =>
    CharacterTransaction.keeps_account hcommit hk
  cases transaction with
  | charge command => exact h.charge hjustified hcommit
  | published requestKey =>
    refine h.mark hcommit hrows (fun _ => rfl) (fun _ _ => rfl) fun command hfind _ => ?_
    have hcommand := h.status_of_find hfind
    exact hcommand
  | completed requestKey =>
    refine h.mark hcommit hrows (fun _ => rfl) (fun command hguard => ?_) fun _ _ _ =>
      ⟨(fun _ => hjustified), (fun hc => by cases hc)⟩
    have hopen : command.status ≠ .compensated := by
      rintro hc
      rw [hc] at hguard
      cases hguard
    rw [refundDue, refundDue, if_neg hopen]
    rfl
  | compensationPending requestKey reason =>
    refine h.mark hcommit hrows (fun _ => rfl) (fun command hguard => ?_) fun _ _ _ =>
      ⟨(fun hc => by cases hc), (fun hc => by cases hc)⟩
    have hopen : command.status = .pendingApplication := by simpa using hguard
    rw [refundDue, refundDue, hopen]
    rfl
  | compensated requestKey price maxMoney => exact h.compensate hjustified hcommit
  | terminalFailure requestKey reason =>
    refine h.mark hcommit hrows (fun _ => rfl) (fun command hguard => ?_) fun _ _ _ =>
      ⟨(fun hc => by cases hc), (fun hc => by cases hc)⟩
    have hopen : command.status = .compensationPending := by simpa using hguard
    rw [refundDue, refundDue, hopen]
    rfl

/-! ## Calls -/

/-- What a session has to know when it makes a call. -/
def Knows (s : PurchaseState) : Call → Prop
  | .commit transaction => s.Justified transaction
  | .replayAdd _ requestKey _ => s.receipts.find requestKey ≠ none
  | .reserveAdd account request => ∃ command,
      s.character.commands.find request.requestKey = some command ∧
        command.accountId = account ∧ command.status ≠ .compensated
  | _ => True

/-- A call that neither writes to the character database nor starts a worker. -/
def IsQuiet : Call → Prop
  | .commit _ | .reserveAdd _ _ => False
  | _ => True

theorem onward_addCompleted (s : PurchaseState) (account : ℕ) (requestKey : RequestKey)
    (durable : DurablePetRow) : Onward s (s.addCompleted account requestKey durable) :=
  onward_of_workers rfl rfl rfl (fun _ => le_rfl) rfl

theorem replayReply_cases (s : PurchaseState) (account : ℕ) (requestKey : RequestKey)
    (receipt : FoundReceipt) (w : Circumstance) :
    (s.replayReply account requestKey receipt w).2 = s ∨
      (s.replayReply account requestKey receipt w).2 =
        s.addCompleted account requestKey receipt.requestedPet := by
  unfold replayReply
  split
  · exact .inl rfl
  · split
    · exact .inl rfl
    · exact .inl rfl
    · exact .inr rfl

theorem acquireReply_cases (s : PurchaseState) (account : ℕ) (w : Circumstance) :
    (s.acquireReply account w).2 = s ∨ (s.acquireReply account w).2 = s.advanceFence account := by
  unfold acquireReply
  split
  · dsimp only
    split
    · exact .inr rfl
    · exact .inl rfl
  · split
    · exact .inl rfl
    · exact .inr rfl

theorem journalLeaseReply_cases (s : PurchaseState) (account : ℕ) (w : Circumstance) :
    (s.journalLeaseReply account w).2 = s ∨
      (s.journalLeaseReply account w).2 = s.advanceFence account ∨
      (s.journalLeaseReply account w).2 = s.reacquire account := by
  unfold journalLeaseReply
  split
  · exact .inl rfl
  · split
    · exact .inr (.inr rfl)
    · dsimp only
      split
      · exact .inr (.inl rfl)
      · exact .inl rfl

theorem validateProcessAddLease_eq_ok {fence : ℕ}
    (h : s.validateProcessAddLease account w = .ok fence) :
    s.processLease account = some fence := by
  unfold validateProcessAddLease at h
  split at h
  · cases h
  case h_2 fence' hlease =>
    split at h
    · cases h
      exact hlease
    · cases h

/-- The state after a reservation, with the worker that it started or without. -/
theorem reserveReply_cases {catalog : Catalog} {request : AddRequest}
    {reply : Except AddFailure Reservation}
    (h : s.reserveReply catalog account request w = some (reply, s')) :
    s' = s ∨ ∃ fence, s.processLease account = some fence ∧
      s' = { s with workers := s.workers ++ [⟨account, request, fence, .allocating⟩] } := by
  unfold reserveReply at h
  split at h
  · cases h
    exact .inl rfl
  case h_2 fence hlease =>
    split at h
    · split at h
      · cases h
        exact .inl rfl
      · cases h
        exact .inl rfl
    · split at h
      · split at h
        · cases h
          exact .inl rfl
        · cases h
      · split at h
        · cases h
          exact .inl rfl
        · cases h
          exact .inl rfl
        · cases h
          exact .inl rfl
        · cases h
          exact .inr ⟨fence, validateProcessAddLease_eq_ok hlease, rfl⟩

theorem reserveReply_replayed {catalog : Catalog} {request : AddRequest}
    (h : s.reserveReply catalog account request w = some (.ok .replayed, s')) :
    ∃ durable, s.findCompleted account request.requestKey = some durable ∧ s' = s := by
  unfold reserveReply at h
  split at h
  · cases h
  · split at h
    case h_1 durable hfind =>
      split at h
      · cases h
        exact ⟨durable, hfind, rfl⟩
      · cases h
    · split at h
      · split at h <;> cases h
      · split at h <;> cases h

theorem joinReply_ok {outcome : AddOutcome}
    (h : s.joinReply account requestKey = some (.ok outcome, s')) :
    ∃ worker ∈ s.workers, worker.request.requestKey = requestKey ∧
      worker.stage = .finished (.ok outcome) := by
  unfold joinReply at h
  split at h
  · cases h
  case h_2 worker hfind =>
    have hworker := List.mem_reverse.mp (List.mem_of_find?_eq_some hfind)
    have hkey := List.find?_some hfind
    rw [Bool.and_eq_true, decide_eq_true_eq, decide_eq_true_eq] at hkey
    split at h
    case h_1 result hstage =>
      cases h
      exact ⟨worker, hworker, hkey.2, hstage⟩
    · cases h

theorem joinReply_state {reply : Except AddFailure AddOutcome}
    (h : s.joinReply account requestKey = some (reply, s')) : s' = s := by
  unfold joinReply at h
  split at h
  · cases h
    rfl
  · split at h
    · cases h
      rfl
    · cases h

theorem commitReply_cases (s : PurchaseState) (transaction : CharacterTransaction)
    (w : Circumstance) :
    (s.commitReply transaction w).2 = s ∧ (s.commitReply transaction w).1 ≠ .ok ∨
      ∃ character, transaction.apply s.character = some character ∧
        (s.commitReply transaction w).2 = { s with character } := by
  unfold commitReply
  split
  · refine .inl ⟨rfl, ?_⟩
    dsimp only
    split <;> simp
  case h_2 character happly =>
    split
    · split
      · exact .inr ⟨character, happly, rfl⟩
      · exact .inl ⟨rfl, by simp⟩
    · dsimp only
      split
      · exact .inr ⟨character, happly, rfl⟩
      · exact .inl ⟨rfl, by simp⟩

section Perform

variable {catalog : Catalog} {call : Call} {w : Circumstance} {s s' : PurchaseState}
  {reply : Reply call}

theorem onward_perform (hquiet : IsQuiet call) (h : perform catalog call w s = some (reply, s')) :
    Onward s s' := by
  cases call with
  | commit | reserveAdd => exact hquiet.elim
  | replayAdd account requestKey receipt =>
    obtain rfl : (s.replayReply account requestKey receipt w).2 = s' :=
      congrArg Prod.snd (Option.some.inj h)
    rcases s.replayReply_cases account requestKey receipt w with heq | heq <;> rw [heq]
    · exact Onward.refl s
    · exact s.onward_addCompleted account requestKey receipt.requestedPet
  | acquireProcessLease account =>
    obtain rfl : (s.acquireReply account w).2 = s' := congrArg Prod.snd (Option.some.inj h)
    rcases s.acquireReply_cases account w with heq | heq <;> rw [heq]
    · exact Onward.refl s
    · exact s.onward_advanceFence account
  | acquireJournalLease account =>
    obtain rfl : (s.journalLeaseReply account w).2 = s' := congrArg Prod.snd (Option.some.inj h)
    rcases s.journalLeaseReply_cases account w with heq | heq | heq <;> rw [heq]
    · exact Onward.refl s
    · exact s.onward_advanceFence account
    · exact s.onward_reacquire account
  | joinAdd account requestKey =>
    rw [joinReply_state h]
    exact Onward.refl s
  | loadCommand | loadMoney | loadPending | beginExclusiveMoney | stageMoney | publish | beginAdd
  | completedAdd | lookupAddRequest =>
    cases h
    exact Onward.refl s

theorem Sound.perform (hsound : Sound s) (hknows : s.Knows call)
    (h : BattlePets.perform catalog call w s = some (reply, s')) : Sound s' := by
  cases call with
  | commit transaction =>
    obtain rfl : (s.commitReply transaction w).2 = s' := congrArg Prod.snd (Option.some.inj h)
    rcases s.commitReply_cases transaction w with ⟨heq, -⟩ | ⟨character, happly, heq⟩ <;> rw [heq]
    · exact hsound
    · exact hsound.commit hknows happly
  | reserveAdd account request =>
    rcases reserveReply_cases h with rfl | ⟨fence, hlease, rfl⟩
    · exact hsound
    · obtain ⟨command, hfind, haccount, hopen⟩ := hknows
      refine { hsound with
        compensated := fun requestKey hstatus => ?_
        reports := fun worker hworker => ?_
        owned := fun worker hworker => ?_
        fences := fun worker hworker => ?_ }
      · obtain ⟨hnone, hflight⟩ := hsound.compensated requestKey hstatus
        refine ⟨hnone, ?_⟩
        rintro ⟨worker, hworker, hkey, hmay, hfence⟩
        rcases List.mem_append.mp hworker with hworker | hworker
        · exact hflight ⟨worker, hworker, hkey, hmay, hfence⟩
        · rw [List.mem_singleton.mp hworker] at hkey
          dsimp only at hkey
          subst hkey
          obtain ⟨command', hfind', hcompensated⟩ := Option.map_eq_some_iff.mp hstatus
          obtain rfl : command = command' := Option.some.inj (hfind.symm.trans hfind')
          exact hopen hcompensated
      · rcases List.mem_append.mp hworker with hworker | hworker
        · exact hsound.reports worker hworker
        · rw [List.mem_singleton.mp hworker]
          trivial
      · rcases List.mem_append.mp hworker with hworker | hworker
        · exact hsound.owned worker hworker
        · rw [List.mem_singleton.mp hworker]
          exact ⟨command, hfind, haccount⟩
      · rcases List.mem_append.mp hworker with hworker | hworker
        · exact hsound.fences worker hworker
        · rw [List.mem_singleton.mp hworker]
          exact hsound.leases account fence hlease
  | replayAdd account requestKey receipt =>
    obtain rfl : (s.replayReply account requestKey receipt w).2 = s' :=
      congrArg Prod.snd (Option.some.inj h)
    rcases s.replayReply_cases account requestKey receipt w with heq | heq <;> rw [heq]
    · exact hsound
    · refine hsound.of_workers (s.onward_addCompleted _ _ _) rfl rfl rfl
        (fun account' requestKey' durable hfind => ?_) (fun _ => le_rfl) hsound.leases
      rw [AddWorker.findCompleted_addCompleted] at hfind
      split at hfind
      case isTrue heq =>
        rw [heq.2]
        exact hknows
      case isFalse => exact hsound.adds account' requestKey' durable hfind
  | acquireProcessLease account =>
    obtain rfl : (s.acquireReply account w).2 = s' := congrArg Prod.snd (Option.some.inj h)
    rcases s.acquireReply_cases account w with heq | heq <;> rw [heq]
    · exact hsound
    · exact hsound.advanceFence account
  | acquireJournalLease account =>
    obtain rfl : (s.journalLeaseReply account w).2 = s' := congrArg Prod.snd (Option.some.inj h)
    rcases s.journalLeaseReply_cases account w with heq | heq | heq <;> rw [heq]
    · exact hsound
    · exact hsound.advanceFence account
    · exact hsound.reacquire account
  | joinAdd account requestKey =>
    rw [joinReply_state h]
    exact hsound
  | loadCommand | loadMoney | loadPending | beginExclusiveMoney | stageMoney | publish | beginAdd
  | completedAdd | lookupAddRequest =>
    cases h
    exact hsound

end Perform

end PurchaseState

end RustyCore.BattlePets
