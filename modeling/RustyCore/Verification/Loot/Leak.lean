import RustyCore.Verification.Loot.Durable

/-! # No reservation is leaked

Every reservation of an open authority has a living owner, so a key whose leases are
all settled can be reserved again. The owner is the only one while the 64-bit token
counter has not wrapped; after a wrap two leases may stand for the same entry. -/

namespace RustyCore.Loot

variable {w w' : World} {named : ObjectGuid → Prop} {state : AuthorityState}
variable {leases leases' : List LeaseCell} {guards guards' : List GuardCell} {key : ReservationKey}
  {player : ObjectGuid}

/-! ## One owner -/

/-- Tokens count the reservations. -/
structure TokensFresh (w : World) : Prop where
  tokens : ∀ (i : ℕ) (cell : LeaseCell), w.leases[i]? = some cell → cell.inner.token = i + 1
  next : w.leases.length + 1 < 2 ^ 64 → w.state.nextToken = w.leases.length + 1

theorem Held.length (h : Held leases leases' guards guards') : leases'.length = leases.length := by
  have hmap : leases'.map LeaseCell.inner = leases.map LeaseCell.inner := by
    apply List.ext_getElem?
    intro i
    rw [List.getElem?_map, List.getElem?_map, h.inner]
  simpa using congrArg List.length hmap

theorem Move.leases_le (h : Move named w w') : w.leases.length ≤ w'.leases.length := by
  cases h with
  | reserve =>
    simp only [World.addLease, World.setState, List.length_append]
    omega
  | hold hh => exact hh.length.ge
  | fail settled => exact settled.length.ge
  | release settled => exact settled.length.ge
  | pay settled => exact settled.length.ge
  | _ => exact le_rfl

theorem Moves.leases_le (h : Moves named w w') : w.leases.length ≤ w'.leases.length := by
  induction h with
  | refl => exact le_rfl
  | tail _ hmove ih => exact ih.trans hmove.leases_le

theorem TokensFresh.of_same (h : TokensFresh w) (hlength : w'.leases.length = w.leases.length)
    (hnext : w'.state.nextToken = w.state.nextToken)
    (htoken : ∀ (i : ℕ) (cell' : LeaseCell), w'.leases[i]? = some cell' →
      ∃ cell, w.leases[i]? = some cell ∧ cell'.inner.token = cell.inner.token) :
    TokensFresh w' where
  tokens := fun i cell' hcell' => by
    obtain ⟨cell, hcell, hsame⟩ := htoken i cell' hcell'
    rw [hsame]
    exact h.tokens i cell hcell
  next := fun hlt => by
    rw [hlength] at hlt ⊢
    rw [hnext]
    exact h.next hlt

theorem Settled.token {lease : ℕ} {cell cell' : LeaseCell}
    (h : Settled leases leases' guards guards' lease cell cell') (i : ℕ) (other : LeaseCell)
    (hother : leases'[i]? = some other) :
    ∃ before, leases[i]? = some before ∧ other.inner.token = before.inner.token := by
  by_cases hi : i = lease
  · subst hi
    obtain rfl : cell' = other := Option.some.inj (h.after.symm.trans hother)
    exact ⟨cell, h.before, by rw [h.same]⟩
  · exact ⟨other, (h.other i hi).symm.trans hother, rfl⟩

theorem nextToken_finalize (state : AuthorityState) :
    (finalizeClosedStateIfDrained state).nextToken = state.nextToken := by
  rcases finalizeClosedStateIfDrained_cases state with heq | ⟨-, -, heq⟩
  · rw [heq]
  · rw [heq]

theorem nextToken_paidState (state : AuthorityState) (lease : LootClaimLeaseInner)
    (loot : CreatureLoot) : (paidState state lease loot).nextToken = state.nextToken := by
  rw [paidState_eq]
  cases reservationScope lease.key <;> rfl

theorem Move.tokensFresh (hmove : Move named w w') (h : TokensFresh w)
    (hbound : w'.leases.length < 2 ^ 64) : TokensFresh w' := by
  have hself : ∀ (i : ℕ) (cell : LeaseCell), w.leases[i]? = some cell →
      ∃ before, w.leases[i]? = some before ∧ cell.inner.token = before.inner.token :=
    fun i cell hcell => ⟨cell, hcell, rfl⟩
  cases hmove with
  | edit he => exact h.of_same rfl (by rw [he.aside]; rfl) hself
  | close hc => exact h.of_same rfl hc.nextToken hself
  | quarantine => exact h.of_same rfl rfl hself
  | drain => exact h.of_same rfl (nextToken_finalize w.state) hself
  | install hi => exact h.of_same rfl hi.nextToken hself
  | persist => exact h.of_same rfl rfl hself
  | hold hh =>
    refine h.of_same hh.length rfl fun i cell' hcell' => ?_
    have hinner := hh.inner i
    rw [show _ = some cell' from hcell', Option.map_some, eq_comm, Option.map_eq_some_iff] at hinner
    obtain ⟨cell, hcell, hsame⟩ := hinner
    exact ⟨cell, hcell, by rw [hsame]⟩
  | fail settled => exact h.of_same settled.length rfl settled.token
  | release settled _ _ _ _ _ _ nextToken =>
    exact h.of_same settled.length nextToken settled.token
  | pay settled => exact h.of_same settled.length (nextToken_paidState _ _ _) settled.token
  | reserve _ hr =>
    obtain ⟨-, -, -, -, -, hfresh, rfl⟩ := hr
    have hlt : w.leases.length + 1 < 2 ^ 64 := by
      simpa [World.addLease, World.setState] using hbound
    have htoken := hfresh.trans (h.next hlt)
    refine ⟨fun i cell hcell => ?_, fun hlt' => ?_⟩
    · rcases Nat.lt_or_ge i w.leases.length with hi | hi
      · exact h.tokens i cell (List.getElem?_append_left hi ▸ hcell)
      · have hlen := (List.getElem?_eq_some_iff.mp hcell).1
        simp only [World.addLease, World.setState, List.length_append,
          List.length_singleton] at hlen
        obtain rfl : i = w.leases.length := by omega
        have hcell' := Option.some.inj (List.getElem?_concat_length.symm.trans hcell)
        rw [← hcell', ← htoken]
        rfl
    · simp only [World.addLease, World.setState, List.length_append,
        List.length_singleton] at hlt' ⊢
      rw [h.next hlt]
      exact nextNonzero_of_lt hlt'

theorem Moves.tokensFresh (hmoves : Moves named w w') (h : TokensFresh w)
    (hbound : w'.leases.length < 2 ^ 64) : TokensFresh w' := by
  induction hmoves with
  | refl => exact h
  | tail _ hmove ih =>
    exact hmove.tokensFresh (ih (lt_of_le_of_lt hmove.leases_le hbound)) hbound

theorem tokensFresh_run (hfresh : Fresh state) (ops : List Op)
    (hbound : (run World.step (World.init state) ops).leases.length < 2 ^ 64) :
    TokensFresh (run World.step (World.init state) ops) := by
  have hstart : TokensFresh (World.init state) :=
    ⟨fun i cell hcell => by simp [World.init] at hcell, fun _ => by cases hfresh <;> rfl⟩
  have hops : EachStep World.step (fun _ _ => True) (World.init state) ops :=
    EachStep.of_forall (fun _ _ _ => trivial) _
  exact run_invariant_below World.Consistent TokensFresh (fun _ op hcons => hcons.step op)
    (fun w => w.leases.length) (2 ^ 64)
    (fun _ op hcons => (hcons.moves_step_of_any op).leases_le)
    (fun _ op hcons h _ hlt => (hcons.moves_step_of_any op).tokensFresh h hlt)
    hfresh.consistent hstart hops hbound

/-! ## Attempts -/

def itemAttemptKey (state : AuthorityState) (player : ObjectGuid) (lootListId : ℕ) :
    Option ReservationKey := do
  let scope ← selectedScopeLikeCpp state player
  let loot ← lootForScope state scope
  let entry ← loot.itemLikeCpp lootListId
  return itemReservationKey scope lootListId entry player

def moneyAttemptKey (state : AuthorityState) (player : ObjectGuid) : Option ReservationKey :=
  (selectedScopeLikeCpp state player).map .money

theorem reserveKey_wait {generation : ℕ} {payload : LootClaimPayload}
    (h : (reserveKey state generation key payload).1 = .wait) :
    ∃ token, state.reservations.lookup key = some token := by
  unfold reserveKey at h
  split at h
  · rename_i hkey
    exact Option.isSome_iff_exists.mp hkey
  · cases h

theorem reserveItemOnce_wait {lootListId : ℕ} {mode : LootItemClaimMode} {expected : Option ℕ}
    (h : (reserveItemOnce state player lootListId mode expected).1 = .wait) :
    state.retired = false ∧ ∃ key token, itemAttemptKey state player lootListId = some key ∧
      state.reservations.lookup key = some token := by
  unfold reserveItemOnce at h
  split at h
  · cases h
  rename_i hactive
  cases hscope : selectedScopeLikeCpp state player with
  | none => simp [hscope] at h
  | some scope =>
  cases hepoch : scopeEpoch state scope with
  | none => simp [hscope, hepoch] at h
  | some generation =>
  simp only [hscope, hepoch] at h
  split at h
  · cases h
  cases hloot : lootForScope state scope with
  | none => simp [hloot] at h
  | some loot =>
  cases hitem : loot.itemLikeCpp lootListId with
  | none => simp [hloot, hitem] at h
  | some entry =>
  simp only [hloot, hitem] at h
  split at h
  · cases h
  split at h
  · cases h
  split at h
  · cases h
  split at h
  · cases h
  obtain ⟨token, htoken⟩ := reserveKey_wait h
  exact ⟨by simpa using hactive, _, token, by simp [itemAttemptKey, hscope, hloot, hitem], htoken⟩

theorem reserveMoneyOnce_wait {expected : Option ℕ}
    (h : (reserveMoneyOnce state player expected).1 = .wait) :
    state.retired = false ∧ ∃ key token, moneyAttemptKey state player = some key ∧
      state.reservations.lookup key = some token := by
  unfold reserveMoneyOnce at h
  split at h
  · cases h
  rename_i hactive
  cases hscope : selectedScopeLikeCpp state player with
  | none => simp [hscope] at h
  | some scope =>
  cases hepoch : scopeEpoch state scope with
  | none => simp [hscope, hepoch] at h
  | some generation =>
  simp only [hscope, hepoch] at h
  split at h
  · cases h
  cases hloot : lootForScope state scope with
  | none => simp [hloot] at h
  | some loot =>
  simp only [hloot] at h
  split at h
  · cases h
  obtain ⟨token, htoken⟩ := reserveKey_wait h
  exact ⟨by simpa using hactive, _, token, by simp [moneyAttemptKey, hscope], htoken⟩

/-- Every lease ever issued for the key has been committed, rolled back or dropped. -/
def AllSettled (w : World) (key : ReservationKey) : Prop :=
  ∀ (i : ℕ) (cell : LeaseCell), w.leases[i]? = some cell → cell.inner.key = key →
    cell.inner.status ≠ .active ∨ strongCount w.leases w.guards i = 0

theorem Consistent.not_reserved_of_settled (h : w.Consistent) (hactive : w.state.retired = false)
    (hsettled : AllSettled w key) {token : ℕ} : w.state.reservations.lookup key ≠ some token := by
  intro hkey
  obtain ⟨i, ⟨cell, hcell, hmatch⟩, halive⟩ := h.owned hactive key token hkey
  rcases hsettled i cell hcell hmatch.sameKey with hstatus | hdropped
  · exact hstatus hmatch.active
  · omega

/-- No reservation is leaked: on an open authority each one has a living owner, which is
the only one before the token counter wraps; each persisting claim is reserved and has an
unresolved guard; and a key whose leases are settled is never waited for. -/
theorem no_reservation_leaked {state : AuthorityState} (hfresh : Fresh state) (ops : List Op)
    {w : World} (hw : w = run World.step (World.init state) ops)
    (hactive : w.state.retired = false) :
    (∀ key token, w.state.reservations.lookup key = some token →
      (∃ i, Owner w.state w.leases w.guards key token i) ∧
        (w.leases.length < 2 ^ 64 →
          ∃! i : ℕ, ∃ cell : LeaseCell,
            w.leases[i]? = some cell ∧ Matches w.state cell.inner key token)) ∧
      (∀ key token, w.state.persisting.lookup key = some token →
        w.state.reservations.lookup key = some token ∧
          ∃ g i inner, Guarding w.leases w.guards g i inner ∧
            Matches w.state inner key token) ∧
      (∀ player lootListId mode expected,
        (∀ key ∈ itemAttemptKey w.state player lootListId, AllSettled w key) →
          (reserveItemOnce w.state player lootListId mode expected).1 ≠ .wait) ∧
      ∀ player expected, (∀ key ∈ moneyAttemptKey w.state player, AllSettled w key) →
        (reserveMoneyOnce w.state player expected).1 ≠ .wait := by
  subst hw
  have h := consistent_run hfresh ops
  refine ⟨fun key token hkey => ⟨h.owned hactive key token hkey, fun hbound => ?_⟩,
    fun key token hkey => ?_, fun player lootListId mode expected hsettled hwait => ?_,
    fun player expected hsettled hwait => ?_⟩
  · obtain ⟨i, ⟨cell, hcell, hmatch⟩, -⟩ := h.owned hactive key token hkey
    refine ⟨i, ⟨cell, hcell, hmatch⟩, ?_⟩
    rintro j ⟨cell', hcell', hmatch'⟩
    have htokens := (tokensFresh_run hfresh ops hbound).tokens
    have hi := htokens i cell hcell
    have hj := htokens j cell' hcell'
    rw [hmatch.sameToken] at hi
    rw [hmatch'.sameToken] at hj
    omega
  · obtain ⟨g, i, inner, hg, rfl, rfl⟩ := h.guarded key token hkey
    exact ⟨h.sound.persisting _ _ hkey, g, i, inner, hg, (h.guarding g i inner hg).1⟩
  · obtain ⟨-, key, token, hkey, hlookup⟩ := reserveItemOnce_wait hwait
    exact h.not_reserved_of_settled hactive (hsettled key hkey) hlookup
  · obtain ⟨-, key, token, hkey, hlookup⟩ := reserveMoneyOnce_wait hwait
    exact h.not_reserved_of_settled hactive (hsettled key hkey) hlookup

theorem no_reservation_leaked_sample :
    (∃ i, Owner sampleReserved.state sampleReserved.leases sampleReserved.guards
      (.item { scope := .shared, lootListId := 3, claimant := none }) 1 i) :=
  ((no_reservation_leaked .default _ rfl (show sampleReserved.state.retired = false by decide)).1 _ _
    (by decide)).1

/-! ## After the counters wrap -/

/-- A session replaces the player's pool and reserves its money. -/
def wrapCycle : List Op := [.upsertPersonal samplePlayer samplePool true, .reserveMoney samplePlayer none]

def wrapKey : ReservationKey := .money (.personal samplePlayer)

/-- The lease that the cycle with this number hands out. -/
def wrapLease (n : ℕ) : LeaseCell where
  inner := .new (counterAt n) (counterAt n) wrapKey samplePlayer (.money samplePool.coins)
  handles := 1

/-- What the next cycle starts from after `n` cycles. -/
structure WrapReady (n : ℕ) (w : World) : Prop where
  consistent : w.Consistent
  detached : w.state.detached = false
  quarantined : w.state.quarantined = false
  retired : w.state.retired = true → w.state.generation = 0
  persisting : ∀ key, w.state.persisting.lookup key = none
  nextScopeEpoch : w.state.nextScopeEpoch = counterAt n
  nextToken : w.state.nextToken = counterAt n
  leases : w.leases = (List.range n).map wrapLease

theorem clearForPersonal_detached (state : AuthorityState) (player : ObjectGuid) :
    (clearForPersonal state player).detached = state.detached ∧
      (clearForPersonal state player).quarantined = state.quarantined := by
  unfold clearForPersonal
  split
  · exact ⟨rfl, rfl⟩
  split
  · exact ⟨rfl, rfl⟩
  split <;> exact ⟨rfl, rfl⟩

theorem wrapReady_cycle {n : ℕ} (h : WrapReady n w) :
    WrapReady (n + 1) (run World.step w wrapCycle) ∧
      (run World.step w wrapCycle).state.retired = false ∧
      scopeEpoch (run World.step w wrapCycle).state (.personal samplePlayer) =
        some (counterAt n) ∧
      (run World.step w wrapCycle).state.reservations.lookup wrapKey = some (counterAt n) := by
  have hcons : (run World.step w wrapCycle).Consistent :=
    run_invariant_of_all World.Consistent (fun _ op hc => hc.step op) h.consistent wrapCycle
  have hempty := Dict.isEmpty_iff.mpr h.persisting
  have hplayer : scopeHasPersistingClaim w.state (.personal samplePlayer) = false :=
    Dict.anyEntry_eq_false_iff.mpr fun key token hkey => by
      rw [h.persisting key] at hkey
      cases hkey
  have hguard : (w.state.detached || w.state.quarantined ||
      (w.state.retired && w.state.generation != 0)) = false := by
    rw [h.detached, h.quarantined]
    cases hr : w.state.retired with
    | false => rfl
    | true => simp [h.retired hr]
  have hcleared := clearedForPersonal h.consistent.sound h.retired hplayer
    (fun _ _ => h.persisting)
  obtain ⟨hdetached, hquarantined⟩ := clearForPersonal_detached w.state samplePlayer
  have hupsert : upsertPersonalLikeCpp w.state samplePlayer samplePool true =
      (.installed (counterAt n), bumpLifecycleRevision
        { clearForPersonal w.state samplePlayer with
          nextScopeEpoch := counterAt (n + 1)
          personal := AList.insert samplePlayer samplePool
            (clearForPersonal w.state samplePlayer).personal
          scopeEpochs := AList.insert (.personal samplePlayer) (counterAt n)
            (clearForPersonal w.state samplePlayer).scopeEpochs }) := by
    unfold upsertPersonalLikeCpp takeNextScopeEpoch
    simp only [hguard, hplayer, hempty, Bool.not_true, Bool.and_false, Bool.or_false,
      Bool.false_eq_true, if_false, hcleared.nextScopeEpoch, h.nextScopeEpoch, counterAt_succ]
  generalize clearForPersonal w.state samplePlayer = cleared at hupsert hcleared hdetached hquarantined
  set opened := bumpLifecycleRevision
    { cleared with
      nextScopeEpoch := counterAt (n + 1)
      personal := AList.insert samplePlayer samplePool cleared.personal
      scopeEpochs := AList.insert (.personal samplePlayer) (counterAt n) cleared.scopeEpochs }
    with hopened
  have hactive : opened.retired = false := hcleared.active
  have hpool : opened.personal.lookup samplePlayer = some samplePool := by
    simp [hopened, bumpLifecycleRevision]
  have hepoch : scopeEpoch opened (.personal samplePlayer) = some (counterAt n) := by
    simp [hopened, bumpLifecycleRevision, scopeEpoch]
  have hscope : selectedScopeLikeCpp opened samplePlayer = some (.personal samplePlayer) := by
    simp [selectedScopeLikeCpp, hactive, Dict.isEmpty_eq_false_of_lookup hpool, hpool]
  have hfree : opened.reservations.lookup wrapKey = none := (hcleared.free wrapKey rfl).1
  have htoken : opened.nextToken = counterAt n := hcleared.nextToken.trans h.nextToken
  have hreserve : reserveMoneyOnce opened samplePlayer none =
      (.acquired (counterAt n) (counterAt n) wrapKey (.money samplePool.coins),
        { opened with
          nextToken := counterAt (n + 1)
          reservations := AList.insert wrapKey (counterAt n) opened.reservations }) := by
    have hallowed : samplePool.allowedLooters.contains samplePlayer = true := by decide
    unfold reserveMoneyOnce
    simp only [hactive, Bool.false_eq_true, if_false, hscope, hepoch, Option.any_none,
      lootForScope, hpool, hallowed, Bool.not_true, reserveKey]
    rw [show opened.reservations.lookup (.money (.personal samplePlayer)) = none from hfree]
    simp [takeNextToken, htoken, counterAt_succ, wrapKey, hactive]
  have hrun : run World.step w wrapCycle =
      { w with
        state := { opened with
          nextToken := counterAt (n + 1)
          reservations := AList.insert wrapKey (counterAt n) opened.reservations }
        leases := w.leases ++ [wrapLease n]
        installs := w.installs ++
          [{ epoch := counterAt n, shared := none
             personal := AList.insert samplePlayer samplePool ∅ }] } := by
    have hfirst : w.step (.upsertPersonal samplePlayer samplePool true) =
        (w.setState opened).addInstall (counterAt n) none (AList.insert samplePlayer samplePool ∅) := by
      simp only [World.step, hupsert, World.install]
    have hsecond : reserveMoneyOnce ((w.setState opened).addInstall (counterAt n) none
        (AList.insert samplePlayer samplePool ∅)).state samplePlayer none = _ := hreserve
    simp only [wrapCycle, run_cons, run_nil, hfirst]
    simp only [World.step, hsecond]
    rfl
  rw [hrun] at hcons ⊢
  refine ⟨?_, hactive, hepoch, AList.lookup_insert _⟩
  exact
    { consistent := hcons
      detached := hdetached.trans h.detached
      quarantined := hquarantined.trans h.quarantined
      retired := fun hr => by
        rw [show opened.retired = true from hr] at hactive
        cases hactive
      persisting := fun key => (hcleared.persisting key).trans (h.persisting key)
      nextScopeEpoch := rfl
      nextToken := rfl
      leases := by rw [h.leases, List.range_succ, List.map_append]; rfl }

theorem wrapReady_cycles (n : ℕ) :
    WrapReady n (run World.step (World.init .default) (List.replicate n wrapCycle).flatten) := by
  induction n with
  | zero =>
    exact
      { consistent := Fresh.default.consistent, detached := rfl, quarantined := rfl
        retired := fun _ => rfl, persisting := fun _ => rfl, nextScopeEpoch := rfl
        nextToken := rfl, leases := rfl }
  | succ n ih =>
    rw [List.replicate_succ', List.flatten_append, run_append]
    exact (wrapReady_cycle ih).1

/-- Both counters wrap after `2 ^ 64 - 1` cycles: the next reservation has two owners. -/
theorem reservation_owner_not_unique :
    ¬ ∀ (state : AuthorityState), Fresh state → ∀ ops : List Op,
      (run World.step (World.init state) ops).state.retired = false →
      ∀ key token,
        (run World.step (World.init state) ops).state.reservations.lookup key = some token →
        ∃! i : ℕ, ∃ cell : LeaseCell,
          (run World.step (World.init state) ops).leases[i]? = some cell ∧
            Matches (run World.step (World.init state) ops).state cell.inner key token := by
  intro h
  have hready := wrapReady_cycle (wrapReady_cycles (2 ^ 64 - 1))
  have hunique := h .default .default
    ((List.replicate (2 ^ 64 - 1) wrapCycle).flatten ++ wrapCycle)
  rw [run_append] at hunique
  generalize run World.step (run World.step (World.init .default)
    (List.replicate (2 ^ 64 - 1) wrapCycle).flatten) wrapCycle = w at hready hunique
  obtain ⟨hready, hactive, hepoch, hkey⟩ := hready
  obtain ⟨i, -, honly⟩ := hunique hactive wrapKey _ hkey
  have hlease : ∀ n ≤ 2 ^ 64 - 1, w.leases[n]? = some (wrapLease n) := by
    intro n hn
    rw [hready.leases, List.getElem?_map, List.getElem?_range (by omega)]
    rfl
  have hmatch : ∀ n, counterAt n = counterAt (2 ^ 64 - 1) →
      Matches w.state (wrapLease n).inner wrapKey (counterAt (2 ^ 64 - 1)) :=
    fun n hn => ⟨rfl, rfl, hn, hepoch.trans (congrArg some hn.symm)⟩
  have hfirst := honly 0 ⟨_, hlease 0 (by omega), hmatch 0 (counterAt_period.symm)⟩
  have hlast := honly (2 ^ 64 - 1) ⟨_, hlease _ le_rfl, hmatch _ rfl⟩
  omega

end RustyCore.Loot
