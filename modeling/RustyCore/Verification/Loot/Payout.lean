import RustyCore.Verification.Loot.Durable

/-! # Nothing is paid out twice

The ledger of first commits is compared with what was installed. Epochs identify
installs as long as the 64-bit counter has not wrapped, so the accounting is kept
below that bound. -/

namespace RustyCore.Loot

variable {lease : LootClaimLeaseInner} {state : AuthorityState} {w w' : World} {player : ObjectGuid}
  {cell' : LeaseCell}
variable {loot : CreatureLoot} {key : ReservationKey} {leases leases' : List LeaseCell}
  {guards guards' : List GuardCell} {named : ObjectGuid → Prop}

def FirstCommit.coins (commit : FirstCommit) : ℕ :=
  match commit.payload with
  | .money coins => coins
  | .item _ => 0

/-- Coins paid so far out of one pool lifetime. -/
def moneyPaid (commits : List FirstCommit) (scope : OwnedLootScope) (epoch : ℕ) : ℕ :=
  (commits.map fun commit =>
    if commit.scope = scope ∧ commit.epoch = epoch then commit.coins else 0).sum

/-- Two payouts that may both happen: for one list id of one pool lifetime, only a
free-for-all item is paid twice, to two players. -/
def PaidApart (commit commit' : FirstCommit) : Prop :=
  commit.scope = commit'.scope → commit.epoch = commit'.epoch →
    ∀ entry entry', commit.payload = .item entry → commit'.payload = .item entry' →
      entry.lootListId = entry'.lootListId →
      entry.flags.freeforall = true ∧ entry'.flags.freeforall = true ∧
        commit.player ≠ commit'.player

theorem moneyPaid_concat (commits : List FirstCommit) (commit : FirstCommit)
    (scope : OwnedLootScope) (epoch : ℕ) :
    moneyPaid (commits ++ [commit]) scope epoch =
      moneyPaid commits scope epoch +
        if commit.scope = scope ∧ commit.epoch = epoch then commit.coins else 0 := by
  simp [moneyPaid]

theorem moneyPaid_eq_zero {commits : List FirstCommit} {scope : OwnedLootScope} {epoch : ℕ}
    (h : ∀ commit ∈ commits, commit.epoch ≠ epoch) : moneyPaid commits scope epoch = 0 := by
  unfold moneyPaid
  rw [List.sum_eq_zero_iff_forall_eq_nat]
  intro n hn
  obtain ⟨commit, hcommit, rfl⟩ := List.mem_map.mp hn
  rw [if_neg]
  rintro ⟨-, hepoch⟩
  exact h commit hcommit hepoch

/-- The lease is active under the current epoch of its scope. -/
def Current (state : AuthorityState) (lease : LootClaimLeaseInner) : Prop :=
  lease.status = .active ∧ scopeEpoch state (reservationScope lease.key) = some lease.generation

/-- The ledger agrees with the pools, the leases and the installs. -/
structure Accounted (w : World) : Prop where
  epochs : ∀ (i : ℕ) (install : LootInstall), w.installs[i]? = some install → install.epoch = i + 1
  nextEpoch : w.installs.length + 1 < 2 ^ 64 → w.state.nextScopeEpoch = w.installs.length + 1
  generations : ∀ (i : ℕ) (cell : LeaseCell), w.leases[i]? = some cell →
    cell.inner.generation ≤ w.installs.length
  players : ∀ (i : ℕ) (cell : LeaseCell), w.leases[i]? = some cell →
    cell.inner.player ≠ ObjectGuid.empty
  current : ∀ scope epoch, scopeEpoch w.state scope = some epoch → ∃ install ∈ w.installs,
    install.epoch = epoch ∧ ∃ installed view, install.loot scope = some installed ∧
      poolView w.state scope = some view ∧
        view.coins + moneyPaid w.commits scope epoch ≤ installed.coins
  past : ∀ install ∈ w.installs, ∀ scope,
    moneyPaid w.commits scope install.epoch ≤ (install.loot scope).elim 0 CreatureLoot.coins
  known : ∀ commit ∈ w.commits, ∃ install ∈ w.installs,
    install.epoch = commit.epoch ∧ (install.loot commit.scope).isSome
  once : w.commits.Pairwise PaidApart
  marked : ∀ commit ∈ w.commits, ∀ entry, commit.payload = .item entry →
    scopeEpoch w.state commit.scope = some commit.epoch →
    ∃ view item, poolView w.state commit.scope = some view ∧
      view.item entry.lootListId = some item ∧ item.freeforall = entry.flags.freeforall ∧
        item.IsLooted commit.player
  owns : w.state.retired = false → ∀ (i : ℕ) (cell : LeaseCell), w.leases[i]? = some cell →
    Current w.state cell.inner →
    w.state.reservations.lookup cell.inner.key = some cell.inner.token
  unique : w.state.retired = false → ∀ (i j : ℕ) (cell cell' : LeaseCell),
    w.leases[i]? = some cell → w.leases[j]? = some cell' → Current w.state cell.inner →
    Current w.state cell'.inner → cell.inner.key = cell'.inner.key → i = j
  coins : ∀ (i : ℕ) (cell : LeaseCell), w.leases[i]? = some cell → Current w.state cell.inner →
    w.state.reservations.lookup cell.inner.key = some cell.inner.token →
    ∀ coins, cell.inner.payload = .money coins →
      ∀ view, poolView w.state (reservationScope cell.inner.key) = some view → coins = view.coins

/-! ## What a payment changes -/

/-- The entry of a paid item claim, with the marks that made it payable. -/
theorem claimable_of_payable {entry : LootEntry}
    (hclaim : ClaimOf lease.player lease.key lease.payload) (hpay : Payable state lease loot)
    (hpayload : lease.payload = .item entry) :
    ∃ key item, lease.key = .item key ∧ entry.lootListId = key.lootListId ∧
      loot.view.item entry.lootListId = some item ∧
        item.freeforall = entry.flags.freeforall ∧ ¬ item.IsLooted lease.player := by
  have hready := hpay.ready
  have hwf := hclaim.claimantAgrees
  rw [hpayload] at hclaim
  cases hkey : lease.key with
  | money scope =>
    rw [hkey] at hclaim
    cases hclaim
  | item key =>
    rw [hkey] at hclaim hready
    cases hclaim with
    | item id claimant =>
      obtain ⟨item, hitem, hitemClaim⟩ := hready
      refine ⟨key, item, rfl, id, by rw [id]; exact hitem, ?_,
        hitemClaim.not_isLooted fun p hp => hwf key p hkey hp⟩
      rw [hitemClaim.freeforall_eq, claimant]
      cases entry.flags.freeforall <;> rfl

theorem view_paidState (hclaim : ClaimOf lease.player lease.key lease.payload)
    (hpay : Payable state lease loot) (scope : OwnedLootScope) :
    poolView (paidState state lease loot) scope =
      if scope = reservationScope lease.key then some (loot.view.apply lease)
      else poolView state scope := by
  rw [poolView, lootForScope_paidState]
  split_ifs
  · rw [Option.map_some, view_applyClaim (applyClaim_fst_of_ready hclaim.claimantAgrees hpay.ready)]
  · rfl

theorem ClaimOf.key_of_money {coins : ℕ} (h : ClaimOf player key (.money coins)) :
    key = .money (reservationScope key) := by
  cases h
  rfl

theorem poolView_releaseKey (state : AuthorityState) (key : ReservationKey)
    (scope : OwnedLootScope) : poolView (releaseKey state key) scope = poolView state scope := by
  cases scope <;> rfl

theorem coins_apply_of_item {view : PoolView} (h : ∀ scope, lease.key ≠ .money scope) :
    (view.apply lease).coins = view.coins := by
  unfold PoolView.apply
  cases hkey : lease.key with
  | money scope => exact absurd hkey (h scope)
  | item key => rfl

theorem ItemView.IsLooted.apply {view : PoolView} {id : ℕ} {item : ItemView}
    (hitem : view.item id = some item) (hlooted : item.IsLooted player) :
    ∃ item', (view.apply lease).item id = some item' ∧ item'.freeforall = item.freeforall ∧
      item'.IsLooted player := by
  unfold PoolView.apply
  cases lease.key with
  | money scope => exact ⟨item, hitem, rfl, hlooted⟩
  | item key =>
    by_cases hid : id = key.lootListId
    · exact ⟨item.mark lease.player, by simp [PoolView.mark, hitem, ← hid],
        item.mark_freeforall lease.player, hlooted.mark lease.player⟩
    · exact ⟨item, by simpa [PoolView.mark, hid] using hitem, rfl, hlooted⟩

/-! ## The ledger -/

/-- Every lease of the new list is an old one, and active only if the old one was. -/
def LeasesFollow (leases leases' : List LeaseCell) : Prop :=
  ∀ (i : ℕ) (cell' : LeaseCell), leases'[i]? = some cell' → ∃ cell, leases[i]? = some cell ∧
    cell'.inner = { cell.inner with status := cell'.inner.status } ∧
      (cell'.inner.status = .active → cell'.inner = cell.inner)

theorem LeasesFollow.refl (leases : List LeaseCell) : LeasesFollow leases leases :=
  fun _ cell hcell => ⟨cell, hcell, rfl, fun _ => rfl⟩

theorem Held.follow (h : Held leases leases' guards guards') : LeasesFollow leases leases' := by
  intro i cell' hcell'
  obtain ⟨cell, hcell, hsame⟩ := h.cell hcell'
  exact ⟨cell, hcell, by rw [hsame], fun _ => hsame.symm⟩

theorem Settled.follow {lease : ℕ} {cell : LeaseCell}
    (h : Settled leases leases' guards guards' lease cell cell') : LeasesFollow leases leases' := by
  intro i other hother
  by_cases hi : i = lease
  · subst hi
    obtain rfl : cell' = other := Option.some.inj (h.after.symm.trans hother)
    exact ⟨cell, h.before, h.same, fun hactive => absurd hactive h.inactive⟩
  · exact ⟨other, (h.other i hi).symm.trans hother, rfl, fun _ => rfl⟩

namespace Accounted

variable {w : World}
variable {state' : AuthorityState} {leases' : List LeaseCell} {guards' : List GuardCell}
  {cell : LeaseCell} {loot : CreatureLoot}
variable {commit : FirstCommit}

theorem install_epoch (h : Accounted w) {install : LootInstall} (hmem : install ∈ w.installs) :
    1 ≤ install.epoch ∧ install.epoch ≤ w.installs.length := by
  obtain ⟨i, hi⟩ := List.mem_iff_getElem?.mp hmem
  have hlt := (List.getElem?_eq_some_iff.mp hi).1
  rw [h.epochs i install hi]
  omega

theorem install_injective (h : Accounted w) {install install' : LootInstall}
    (hmem : install ∈ w.installs) (hmem' : install' ∈ w.installs)
    (heq : install.epoch = install'.epoch) : install = install' := by
  obtain ⟨i, hi⟩ := List.mem_iff_getElem?.mp hmem
  obtain ⟨j, hj⟩ := List.mem_iff_getElem?.mp hmem'
  have : i = j := by
    rw [h.epochs i _ hi, h.epochs j _ hj] at heq
    omega
  subst this
  exact Option.some.inj (hi.symm.trans hj)

theorem epochs_nodup (h : Accounted w) : (w.installs.map LootInstall.epoch).Nodup := by
  have hrange : w.installs.map LootInstall.epoch = List.range' 1 w.installs.length := by
    apply List.ext_getElem
    · simp
    · intro i hi hi'
      rw [List.length_map] at hi
      rw [List.getElem_map, List.getElem_range',
        h.epochs i w.installs[i] (List.getElem?_eq_getElem hi)]
      omega
  rw [hrange]
  exact List.nodup_range'

theorem commit_epoch (h : Accounted w) (hmem : commit ∈ w.commits) :
    commit.epoch ≤ w.installs.length := by
  obtain ⟨install, hinstall, hepoch, -⟩ := h.known commit hmem
  rw [← hepoch]
  exact (h.install_epoch hinstall).2

/-- A move that pays nothing: it may forget pools and reservations, and it keeps what
it does not forget. -/
theorem of_quiet (h : Accounted w) (hfollow : LeasesFollow w.leases leases')
    (hretired : state'.retired = false → w.state.retired = false)
    (hnext : state'.nextScopeEpoch = w.state.nextScopeEpoch)
    (hepoch : ∀ scope epoch, scopeEpoch state' scope = some epoch →
      scopeEpoch w.state scope = some epoch ∧ poolView state' scope = poolView w.state scope)
    (hres : ∀ key token, state'.reservations.lookup key = some token →
      w.state.reservations.lookup key = some token)
    (howns : state'.retired = false → ∀ (i : ℕ) (cell : LeaseCell), w.leases[i]? = some cell →
      (∃ cell', leases'[i]? = some cell' ∧ cell'.inner = cell.inner) →
      Current w.state cell.inner →
      state'.reservations.lookup cell.inner.key = w.state.reservations.lookup cell.inner.key) :
    Accounted { w with state := state', leases := leases', guards := guards' } := by
  have hcurrent : ∀ lease, Current state' lease → Current w.state lease :=
    fun lease hc => ⟨hc.1, (hepoch _ _ hc.2).1⟩
  have hold : ∀ (i : ℕ) (cell' : LeaseCell), leases'[i]? = some cell' →
      cell'.inner.status = .active → ∃ cell, w.leases[i]? = some cell ∧ cell'.inner = cell.inner :=
    fun i cell' hcell' hactive =>
      let ⟨cell, hcell, _, hsame⟩ := hfollow i cell' hcell'
      ⟨cell, hcell, hsame hactive⟩
  refine
    { epochs := h.epochs
      nextEpoch := fun hlt => hnext.trans (h.nextEpoch hlt)
      generations := fun i cell' hcell' => ?_
      players := fun i cell' hcell' => ?_
      current := fun scope epoch he => ?_
      past := h.past
      known := h.known
      once := h.once
      marked := fun commit hmem entry hpayload he => ?_
      owns := fun hactive i cell' hcell' hc => ?_
      unique := fun hactive i j cell cell' hi hj hc hc' hkey => ?_
      coins := fun i cell' hcell' hc hkey coins hpayload view hview => ?_ }
  · obtain ⟨cell, hcell, hsame, -⟩ := hfollow i cell' hcell'
    rw [hsame]
    exact h.generations i cell hcell
  · obtain ⟨cell, hcell, hsame, -⟩ := hfollow i cell' hcell'
    rw [hsame]
    exact h.players i cell hcell
  · obtain ⟨he, hview⟩ := hepoch scope epoch he
    rw [hview]
    exact h.current scope epoch he
  · obtain ⟨he, hview⟩ := hepoch _ _ he
    rw [hview]
    exact h.marked commit hmem entry hpayload he
  · obtain ⟨cell, hcell, hsame⟩ := hold i cell' hcell' hc.1
    have hc' : Current w.state cell.inner := hsame ▸ hcurrent _ hc
    have hkept := howns hactive i cell hcell ⟨cell', hcell', hsame⟩ hc'
    rw [hsame]
    exact hkept.trans (h.owns (hretired hactive) i cell hcell hc')
  · obtain ⟨before, hbefore, hsame⟩ := hold i cell hi hc.1
    obtain ⟨before', hbefore', hsame'⟩ := hold j cell' hj hc'.1
    exact h.unique (hretired hactive) i j before before' hbefore hbefore'
      (hsame ▸ hcurrent _ hc) (hsame' ▸ hcurrent _ hc') (hsame ▸ hsame' ▸ hkey)
  · obtain ⟨cell, hcell, hsame⟩ := hold i cell' hcell' hc.1
    rw [hsame] at hpayload hkey hview hc
    rw [(hepoch _ _ hc.2).2] at hview
    exact h.coins i cell hcell (hcurrent _ hc) (hres _ _ hkey) coins hpayload view hview

theorem of_state (h : Accounted w) (hretired : state'.retired = false → w.state.retired = false)
    (hnext : state'.nextScopeEpoch = w.state.nextScopeEpoch)
    (hepoch : ∀ scope epoch, scopeEpoch state' scope = some epoch →
      scopeEpoch w.state scope = some epoch ∧ poolView state' scope = poolView w.state scope)
    (hres : ∀ key token, state'.reservations.lookup key = some token →
      w.state.reservations.lookup key = some token)
    (howns : state'.retired = false → ∀ key,
      state'.reservations.lookup key = w.state.reservations.lookup key) :
    Accounted (w.setState state') :=
  h.of_quiet (.refl _) hretired hnext hepoch hres fun hactive _ _ _ _ _ => howns hactive _

theorem edit (h : Accounted w) (he : Edited w.state state') : Accounted (w.setState state') := by
  obtain ⟨haside, hview⟩ := he
  apply h.of_state <;> rw [haside]
  · exact id
  · exact fun scope epoch hepoch => ⟨hepoch, haside ▸ hview scope⟩
  · exact fun _ _ => id
  · exact fun _ _ => rfl

theorem close (h : Accounted w) (hc : Closed w.state state') : Accounted (w.setState state') := by
  have hretired : state'.retired ≠ false := by
    rw [hc.retired]
    nofun
  refine h.of_state (fun hf => absurd hf hretired) hc.nextScopeEpoch ?_ hc.reservations
    (fun hf => absurd hf hretired)
  intro scope epoch hepoch
  rcases hc.pools with ⟨hnone, -⟩ | hsame
  · rw [(hnone scope).2] at hepoch
    cases hepoch
  · exact ⟨(hsame scope).2 ▸ hepoch, by rw [poolView, (hsame scope).1, poolView]⟩

theorem quarantine (h : Accounted w) :
    Accounted (w.setState { w.state with retired := true, quarantined := true }) :=
  h.of_state (fun hf => by cases hf) rfl (fun _ _ hepoch => ⟨hepoch, rfl⟩) (fun _ _ => id)
    (fun hf => by cases hf)

theorem drain (h : Accounted w) :
    Accounted (w.setState (finalizeClosedStateIfDrained w.state)) := by
  rcases finalizeClosedStateIfDrained_cases w.state with heq | ⟨hretired, -, heq⟩
  · rw [heq]
    exact h
  · rw [heq]
    refine h.of_state id rfl ?_ ?_ ?_
    · intro scope epoch hepoch
      simp [scopeEpoch] at hepoch
    · intro key token hkey
      simp at hkey
    · intro hf
      rw [show w.state.retired = false from hf] at hretired
      cases hretired

theorem release (h : Accounted w) {lease : ℕ}
    (hs : Settled w.leases leases' w.guards guards' lease cell cell')
    (hactive : Current w.state cell.inner)
    (hpools : ∀ scope, poolView state' scope = poolView w.state scope)
    (hnext : state'.nextScopeEpoch = w.state.nextScopeEpoch)
    (hrel : Released w.state state' cell.inner.key) :
    Accounted { w with state := state', leases := leases', guards := guards' } := by
  refine h.of_quiet hs.follow (fun hf => hrel.retired ▸ hf) hnext
    (fun scope epoch hepoch => ⟨hrel.epoch scope ▸ hepoch, hpools scope⟩) ?_ ?_
  · intro key token hkey
    rw [hrel.reservations] at hkey
    split_ifs at hkey
    exact hkey
  · -- No other active lease has this key, so every other lease keeps its reservation.
    rintro hopen i other hother ⟨after, hafter, hsame⟩ hcurrent
    rw [hrel.reservations, if_neg]
    intro hkey
    have hi := h.unique (hrel.retired ▸ hopen) i lease other cell hother hs.before hcurrent hactive
      hkey
    subst hi
    obtain rfl : cell' = after := Option.some.inj (hs.after.symm.trans hafter)
    exact hs.inactive (hsame ▸ hcurrent.1)

/-! ## Installs and reservations -/

theorem install (h : Accounted w) {install : LootInstall} (hi : Installed w.state state' install)
    (hbound : w.installs.length + 1 < 2 ^ 64) :
    Accounted { w with state := state', installs := w.installs ++ [install] } := by
  have hepoch : install.epoch = w.installs.length + 1 := hi.epoch.trans (h.nextEpoch hbound)
  have hnone : ∀ scope, moneyPaid w.commits scope install.epoch = 0 := fun scope =>
    moneyPaid_eq_zero fun commit hcommit heq => by
      have := h.commit_epoch hcommit
      omega
  have hmem : ∀ {other}, other ∈ w.installs → other ∈ w.installs ++ [install] :=
    fun hother => List.mem_append_left _ hother
  -- A lease or a commit that is still current belongs to a scope that was kept.
  have hkept : ∀ scope epoch, scopeEpoch state' scope = some epoch →
      epoch ≤ w.installs.length → w.state.retired = false ∧
        scopeEpoch w.state scope = some epoch ∧ poolView state' scope = poolView w.state scope ∧
        ∀ key, reservationScope key = scope →
          state'.reservations.lookup key = w.state.reservations.lookup key := by
    intro scope epoch he hle
    cases hi.scope scope with
    | fresh _ _ hfresh _ _ =>
      rw [hfresh] at he
      have := Option.some.inj he
      omega
    | gone hgone _ =>
      rw [hgone] at he
      cases he
    | kept active hsame pool hres =>
      exact ⟨active, hsame ▸ he, by rw [poolView, pool, poolView], hres⟩
  refine
    { epochs := fun i other hother => ?_
      nextEpoch := fun hlt => ?_
      generations := fun i cell hcell => ?_
      players := h.players
      current := fun scope epoch he => ?_
      past := fun other hother scope => ?_
      known := fun commit hcommit => ?_
      once := h.once
      marked := fun commit hcommit entry hpayload he => ?_
      owns := fun _ i cell hcell hc => ?_
      unique := fun _ i j cell cell' hcell hcell' hc hc' hkey => ?_
      coins := fun i cell hcell hc hkey coins hpayload view hview => ?_ }
  · rcases Nat.lt_or_ge i w.installs.length with hlt | hge
    · rw [List.getElem?_append_left hlt] at hother
      exact h.epochs i other hother
    · have hlen := (List.getElem?_eq_some_iff.mp hother).1
      rw [List.length_append, List.length_singleton] at hlen
      obtain rfl : i = w.installs.length := by omega
      rw [List.getElem?_concat_length] at hother
      rw [← Option.some.inj hother, hepoch]
  · rw [hi.nextScopeEpoch, h.nextEpoch hbound, List.length_append, List.length_singleton]
    rw [List.length_append, List.length_singleton] at hlt
    exact nextNonzero_of_lt hlt
  · have := h.generations i cell hcell
    rw [List.length_append]
    omega
  · cases hi.scope scope with
    | fresh loot installed hfresh pool _ =>
      rw [hfresh] at he
      obtain rfl := Option.some.inj he
      refine ⟨install, by simp, rfl, loot, loot.view, installed,
        poolView_eq_some.mpr ⟨loot, pool, rfl⟩, ?_⟩
      rw [hnone]
      exact le_rfl
    | gone hgone _ =>
      rw [hgone] at he
      cases he
    | kept _ hsame pool _ =>
      rw [hsame] at he
      obtain ⟨other, hother, heq, installed, view, hloot, hview, hle⟩ := h.current scope epoch he
      exact ⟨other, hmem hother, heq, installed, view, hloot,
        by rw [poolView, pool]; exact hview, hle⟩
  · rcases List.mem_append.mp hother with hother | hother
    · exact h.past other hother scope
    · rw [List.mem_singleton.mp hother, hnone]
      exact Nat.zero_le _
  · obtain ⟨other, hother, hknown⟩ := h.known commit hcommit
    exact ⟨other, hmem hother, hknown⟩
  · obtain ⟨-, he', hview, -⟩ := hkept _ _ he (h.commit_epoch hcommit)
    rw [hview]
    exact h.marked commit hcommit entry hpayload he'
  · obtain ⟨hopen, he, -, hres⟩ := hkept _ _ hc.2 (h.generations i cell hcell)
    exact (hres _ rfl).trans (h.owns hopen i cell hcell ⟨hc.1, he⟩)
  · obtain ⟨hopen, he, -, -⟩ := hkept _ _ hc.2 (h.generations i cell hcell)
    obtain ⟨-, he', -, -⟩ := hkept _ _ hc'.2 (h.generations j cell' hcell')
    exact h.unique hopen i j cell cell' hcell hcell' ⟨hc.1, he⟩ ⟨hc'.1, he'⟩ hkey
  · obtain ⟨-, he, hsame, hres⟩ := hkept _ _ hc.2 (h.generations i cell hcell)
    rw [hsame] at hview
    exact h.coins i cell hcell ⟨hc.1, he⟩ (hres _ rfl ▸ hkey) coins hpayload view hview

theorem reserve (h : Accounted w) {generation token : ℕ} {payload : LootClaimPayload}
    (hplayer : player ≠ ObjectGuid.empty)
    (hr : Reserved w.state player generation token key payload state') :
    Accounted ((w.setState state').addLease generation token key player payload) := by
  obtain ⟨hopen, hepoch, hfree, ⟨view, hview, -, hcoins⟩, -, -, rfl⟩ := hr
  set cell : LeaseCell := { inner := .new generation token key player payload, handles := 1 }
    with hcell
  have hcases : ∀ (i : ℕ) (other : LeaseCell), (w.leases ++ [cell])[i]? = some other →
      w.leases[i]? = some other ∨ i = w.leases.length ∧ other = cell := by
    intro i other hother
    rcases Nat.lt_or_ge i w.leases.length with hlt | hge
    · exact Or.inl (List.getElem?_append_left hlt ▸ hother)
    · have hlen := (List.getElem?_eq_some_iff.mp hother).1
      rw [List.length_append, List.length_singleton] at hlen
      obtain rfl : i = w.leases.length := by omega
      rw [List.getElem?_concat_length] at hother
      exact Or.inr ⟨rfl, (Option.some.inj hother).symm⟩
  -- A free key has no active lease under the current epoch.
  have hnone : ∀ (i : ℕ) (other : LeaseCell), w.leases[i]? = some other →
      Current w.state other.inner → other.inner.key ≠ key := by
    intro i other hother hc heq
    have hkey := h.owns hopen i other hother hc
    rw [heq, hfree] at hkey
    cases hkey
  refine
    { epochs := h.epochs
      nextEpoch := h.nextEpoch
      generations := fun i other hother => ?_
      players := fun i other hother => ?_
      current := h.current
      past := h.past
      known := h.known
      once := h.once
      marked := h.marked
      owns := fun _ i other hother hc => ?_
      unique := fun _ i j other other' hi hj hc hc' hkey => ?_
      coins := fun i other hother hc hkey coins hpayload view' hview' => ?_ }
  · rcases hcases i other hother with hother | ⟨-, rfl⟩
    · exact h.generations i other hother
    · obtain ⟨install, hmem, heq, -⟩ := h.current _ _ hepoch
      have hle := (h.install_epoch hmem).2
      rw [heq] at hle
      exact hle
  · rcases hcases i other hother with hother | ⟨-, rfl⟩
    · exact h.players i other hother
    · exact hplayer
  · rcases hcases i other hother with hother | ⟨-, rfl⟩
    · exact (AList.lookup_insert_ne (hnone i other hother hc)).trans (h.owns hopen i other hother hc)
    · exact AList.lookup_insert _
  · rcases hcases i other hi with hi | ⟨rfl, rfl⟩ <;>
      rcases hcases j other' hj with hj | ⟨rfl, rfl⟩
    · exact h.unique hopen i j other other' hi hj hc hc' hkey
    · exact absurd hkey (hnone i other hi hc)
    · exact absurd hkey.symm (hnone j other' hj hc')
    · rfl
  · rcases hcases i other hother with hother | ⟨-, rfl⟩
    · refine h.coins i other hother hc ?_ coins hpayload view' hview'
      exact h.owns hopen i other hother hc
    · have hsame : view = view' := Option.some.inj (hview.symm.trans hview')
      exact hsame ▸ hcoins coins hpayload

/-! ## Payments -/

theorem paidApart_of_payable (h : Accounted w)
    (hclaim : ClaimOf lease.player lease.key lease.payload) (hpay : Payable w.state lease loot)
    (hmem : commit ∈ w.commits) : PaidApart commit lease.firstCommit := by
  intro hscope hepoch entry entry' hentry hentry' hid
  obtain ⟨key, item, -, -, hitem, hffa, hfree⟩ := claimable_of_payable hclaim hpay hentry'
  have hcurrent : scopeEpoch w.state commit.scope = some commit.epoch := by
    rw [hscope, hepoch]
    exact hpay.holds.epoch
  obtain ⟨view, item', hview, hitem', hffa', hlooted⟩ := h.marked commit hmem entry hentry hcurrent
  rw [hscope, poolView, show lease.firstCommit.scope = reservationScope lease.key from rfl,
    hpay.pool] at hview
  obtain rfl : loot.view = view := Option.some.inj hview
  rw [hid, hitem] at hitem'
  obtain rfl : item = item' := Option.some.inj hitem'
  have hboth : entry.flags.freeforall = entry'.flags.freeforall := hffa'.symm.trans hffa
  cases hf : item.freeforall with
  | true =>
    refine ⟨hffa' ▸ hf, hffa ▸ hf, fun hplayer => hfree ?_⟩
    rw [show lease.player = commit.player from hplayer.symm]
    exact hlooted
  | false =>
    -- The item was taken when the first of the two was paid.
    unfold ItemView.IsLooted at hlooted hfree
    rw [hf] at hlooted hfree
    exact absurd hlooted hfree

theorem coins_apply (h : Accounted w) {i : ℕ} (hcell : w.leases[i]? = some cell)
    (hclaim : ClaimOf cell.inner.player cell.inner.key cell.inner.payload)
    (hpay : Payable w.state cell.inner loot) :
    (loot.view.apply cell.inner).coins + cell.inner.firstCommit.coins = loot.view.coins := by
  have hview : poolView w.state (reservationScope cell.inner.key) = some loot.view :=
    poolView_eq_some.mpr ⟨loot, hpay.pool, rfl⟩
  have hcoins := h.coins i cell hcell ⟨hpay.active, hpay.holds.epoch⟩ hpay.holds.key
  cases hpayload : cell.inner.payload with
  | item entry =>
    obtain ⟨key, -, hkey, -⟩ := claimable_of_payable hclaim hpay hpayload
    simp [PoolView.apply, hkey, PoolView.mark, LootClaimLeaseInner.firstCommit,
      FirstCommit.coins, hpayload]
  | money coins =>
    have hsame := hcoins coins hpayload loot.view hview
    rw [hpayload] at hclaim
    cases hkey : cell.inner.key with
    | item key =>
      rw [hkey] at hclaim
      cases hclaim
    | money scope =>
      simp [PoolView.apply, hkey, PoolView.takeCoins, LootClaimLeaseInner.firstCommit,
        FirstCommit.coins, hpayload, hsame]

theorem pay (h : Accounted w) (hcons : w.Consistent) {lease : ℕ}
    (hs : Settled w.leases leases' w.guards guards' lease cell cell')
    (hpay : Payable w.state cell.inner loot) :
    Accounted
      { w with
        state := paidState w.state cell.inner loot
        leases := leases'
        guards := guards'
        commits := w.commits ++ [cell.inner.firstCommit] } := by
  have hclaim := hcons.claims lease cell hs.before
  have hcurrent : Current w.state cell.inner := ⟨hpay.active, hpay.holds.epoch⟩
  -- The lease is settled and its key released first; the pool and the ledger follow.
  have hreleased : Accounted { w with
      state := releaseKey w.state cell.inner.key, leases := leases', guards := guards' } :=
    h.release hs hcurrent (poolView_releaseKey _ _) rfl (released_releaseKey _ _)
  have hsame : paidState w.state cell.inner loot =
      { releaseKey w.state cell.inner.key with
        shared := (paidState w.state cell.inner loot).shared
        personal := (paidState w.state cell.inner loot).personal } := by
    rw [paidState_eq]
    exact samePoolsAside_setLootForScope _ _ _
  have hview := view_paidState hclaim hpay
  have hcoins := h.coins_apply hs.before hclaim hpay
  have hpool : poolView w.state (reservationScope cell.inner.key) = some loot.view :=
    poolView_eq_some.mpr ⟨loot, hpay.pool, rfl⟩
  obtain ⟨install, hinstall, hepoch, installed, view, hloot, hview0, hle⟩ :=
    h.current _ _ hpay.holds.epoch
  obtain rfl : loot.view = view := Option.some.inj (hpool.symm.trans hview0)
  have hledger : ∀ scope epoch, moneyPaid (w.commits ++ [cell.inner.firstCommit]) scope epoch =
      moneyPaid w.commits scope epoch +
        if reservationScope cell.inner.key = scope ∧ cell.inner.generation = epoch then
          cell.inner.firstCommit.coins else 0 :=
    fun scope epoch => moneyPaid_concat w.commits cell.inner.firstCommit scope epoch
  rw [hsame] at hview ⊢
  refine
    { epochs := h.epochs
      nextEpoch := h.nextEpoch
      generations := hreleased.generations
      players := hreleased.players
      current := fun scope epoch he => ?_
      past := fun other hother scope => ?_
      known := fun commit hcommit => ?_
      once := ?_
      marked := fun commit hcommit entry hpayload he => ?_
      owns := hreleased.owns
      unique := hreleased.unique
      coins := fun i other hother hc hkey coins hpayload view hother' => ?_ }
  · rw [hview, hledger]
    by_cases hscope : scope = reservationScope cell.inner.key
    · subst hscope
      obtain rfl : cell.inner.generation = epoch :=
        Option.some.inj (hpay.holds.epoch.symm.trans he)
      refine ⟨install, hinstall, hepoch, installed, _, hloot, if_pos rfl, ?_⟩
      rw [if_pos ⟨rfl, rfl⟩]
      omega
    · obtain ⟨other, hother, heq, otherLoot, view, hl, hv, hle'⟩ := h.current scope epoch he
      refine ⟨other, hother, heq, otherLoot, view, hl, (if_neg hscope).trans hv, ?_⟩
      rw [if_neg fun hc => hscope hc.1.symm]
      exact hle'
  · rw [hledger]
    by_cases hpaid : reservationScope cell.inner.key = scope ∧ cell.inner.generation = other.epoch
    · obtain ⟨rfl, heq⟩ := hpaid
      obtain rfl := h.install_injective hinstall hother (hepoch.trans heq)
      rw [if_pos ⟨rfl, heq⟩, hloot, hepoch]
      simp only [Option.elim_some]
      omega
    · rw [if_neg hpaid]
      exact h.past other hother scope
  · rcases List.mem_append.mp hcommit with hcommit | hcommit
    · exact h.known commit hcommit
    · rw [List.mem_singleton.mp hcommit]
      exact ⟨install, hinstall, hepoch, Option.isSome_iff_exists.mpr ⟨installed, hloot⟩⟩
  · refine List.pairwise_append.mpr ⟨h.once, List.pairwise_singleton _ _, ?_⟩
    intro commit hcommit other hother
    rw [List.mem_singleton.mp hother]
    exact h.paidApart_of_payable hclaim hpay hcommit
  · rw [hview]
    rcases List.mem_append.mp hcommit with hcommit | hcommit
    · obtain ⟨view, item, hv, hitem, hffa, hlooted⟩ := h.marked commit hcommit entry hpayload he
      by_cases hscope : commit.scope = reservationScope cell.inner.key
      · rw [hscope, hpool] at hv
        obtain rfl : loot.view = view := Option.some.inj hv
        obtain ⟨item', hitem', hffa', hlooted'⟩ := ItemView.IsLooted.apply hitem hlooted
        exact ⟨_, item', if_pos hscope, hitem', hffa'.trans hffa, hlooted'⟩
      · exact ⟨view, item, (if_neg hscope).trans hv, hitem, hffa, hlooted⟩
    · rw [List.mem_singleton.mp hcommit] at hpayload ⊢
      obtain ⟨key, item, hkey, hid, hitem, hffa, -⟩ := claimable_of_payable hclaim hpay hpayload
      refine ⟨_, item.mark cell.inner.player, if_pos rfl, ?_,
        (item.mark_freeforall _).trans hffa,
        item.isLooted_mark fun _ => h.players lease cell hs.before⟩
      simp [PoolView.apply, hkey, PoolView.mark, ← hid, hitem]
  · have hbefore := hreleased.coins i other hother hc hkey coins hpayload
    rw [poolView_releaseKey] at hbefore
    rw [hview] at hother'
    split_ifs at hother' with hscope
    · rw [← Option.some.inj hother', hbefore loot.view (hscope ▸ hpool)]
      refine (coins_apply_of_item fun scope hmoney => ?_).symm
      -- Two money claims of one scope share their key, which is free by now.
      obtain ⟨before, hbefore, hinner, -⟩ := hs.follow i other hother
      have hclaim' := hcons.claims i before hbefore
      rw [hinner] at hpayload hscope hkey
      rw [show before.inner.payload = .money coins from hpayload] at hclaim'
      have hfree : (releaseKey w.state cell.inner.key).reservations.lookup cell.inner.key = none :=
        AList.lookup_erase _ _
      have hsame : before.inner.key = cell.inner.key := by
        rw [hclaim'.key_of_money, show reservationScope before.inner.key = _ from hscope, hmoney]
        rfl
      have hkey' : (releaseKey w.state cell.inner.key).reservations.lookup before.inner.key =
          some _ := hkey
      rw [hsame, hfree] at hkey'
      cases hkey'
    · exact hbefore view hother'

theorem init (h : Fresh state) : Accounted (World.init state) where
  epochs := fun i install hinstall => by simp [World.init] at hinstall
  nextEpoch := fun _ => by cases h <;> rfl
  generations := fun i cell hcell => by simp [World.init] at hcell
  players := fun i cell hcell => by simp [World.init] at hcell
  current := fun scope epoch he => by cases h <;> cases he
  past := fun install hinstall => by simp [World.init] at hinstall
  known := fun commit hcommit => by simp [World.init] at hcommit
  once := List.Pairwise.nil
  marked := fun commit hcommit => by simp [World.init] at hcommit
  owns := fun _ i cell hcell => by simp [World.init] at hcell
  unique := fun _ i j cell cell' hcell => by simp [World.init] at hcell
  coins := fun i cell hcell => by simp [World.init] at hcell

end Accounted

/-! ## Runs -/

theorem Move.installs_le (h : Move named w w') : w.installs.length ≤ w'.installs.length := by
  cases h with
  | install => simp
  | _ => exact le_rfl

theorem Moves.installs_le (h : Moves named w w') : w.installs.length ≤ w'.installs.length := by
  induction h with
  | refl => exact le_rfl
  | tail _ hmove ih => exact ih.trans hmove.installs_le

theorem Move.accounted (hmove : Move (· ≠ ObjectGuid.empty) w w') (hcons : w.Consistent)
    (h : Accounted w) (hbound : w'.installs.length < 2 ^ 64) : Accounted w' := by
  cases hmove with
  | edit he => exact h.edit he
  | close hc => exact h.close hc
  | quarantine => exact h.quarantine
  | drain => exact h.drain
  | install hi => exact h.install hi (by simpa using hbound)
  | reserve hplayer hr => exact h.reserve hplayer hr
  | persist =>
    exact h.of_quiet (.refl _) id rfl (fun _ _ he => ⟨he, rfl⟩) (fun _ _ => id)
      (fun _ _ _ _ _ _ => rfl)
  | hold hh =>
    exact h.of_quiet hh.follow id rfl (fun _ _ he => ⟨he, rfl⟩) (fun _ _ => id)
      (fun _ _ _ _ _ _ => rfl)
  | fail settled =>
    exact h.of_quiet settled.follow id rfl (fun _ _ he => ⟨he, rfl⟩) (fun _ _ => id)
      (fun _ _ _ _ _ _ => rfl)
  | release settled active holds _ _ pools next _ released =>
    exact h.release settled ⟨active, holds.epoch⟩ (fun scope => by rw [poolView, pools, poolView])
      next released
  | pay settled payable => exact h.pay hcons settled payable

theorem Moves.accounted (hmoves : Moves (· ≠ ObjectGuid.empty) w w') (hcons : w.Consistent)
    (h : Accounted w) (hbound : w'.installs.length < 2 ^ 64) : Accounted w' := by
  induction hmoves with
  | refl => exact h
  | tail hmoves hmove ih =>
    exact hmove.accounted (Moves.consistent hmoves hcons)
      (ih (lt_of_le_of_lt hmove.installs_le hbound)) hbound

/-- The operation does not reserve for the empty identifier. -/
def Op.Named (op : Op) : Prop := ∀ player ∈ op.claimant, player ≠ ObjectGuid.empty

/-- The books are kept by every interleaving with fewer installs than epochs. -/
theorem accounted_run (hfresh : Fresh state) {ops : List Op} (hnamed : ∀ op ∈ ops, op.Named)
    (hbound : (run World.step (World.init state) ops).installs.length < 2 ^ 64) :
    Accounted (run World.step (World.init state) ops) := by
  refine run_invariant_below World.Consistent Accounted (fun _ op hcons => hcons.step op)
    (fun w => w.installs.length) (2 ^ 64)
    (fun _ op hcons => (hcons.moves_step_of_any op).installs_le)
    (fun _ op hcons h hop hlt => (hcons.moves_step hop).accounted hcons h hlt)
    hfresh.consistent (Accounted.init hfresh)
    (EachStep.of_forall (fun op hop _ => hnamed op hop) _) hbound

/-- Loot is never paid out twice, whatever the sessions do: no pool lifetime pays an item
twice, except a free-for-all item to different players, nor more coins than it was
installed with; and every payment belongs to an install. -/
theorem loot_paid_at_most_once {state : AuthorityState} (hfresh : Fresh state) {ops : List Op}
    (hnamed : ∀ op ∈ ops, op.Named) {w : World} (hw : w = run World.step (World.init state) ops)
    (hbound : w.installs.length < 2 ^ 64) :
    w.commits.Pairwise PaidApart ∧
      (w.installs.map LootInstall.epoch).Nodup ∧
      (∀ commit ∈ w.commits, ∃ install ∈ w.installs,
        install.epoch = commit.epoch ∧ (install.loot commit.scope).isSome) ∧
      ∀ install ∈ w.installs, ∀ scope,
        moneyPaid w.commits scope install.epoch ≤
          (install.loot scope).elim 0 CreatureLoot.coins := by
  subst hw
  have h := accounted_run hfresh hnamed hbound
  exact ⟨h.once, h.epochs_nodup, h.known, h.past⟩

/-- One reservation of the sample pool is committed twice; only the first commit pays. -/
theorem loot_paid_at_most_once_sample :
    (run World.step sampleReserved [.commitLease 0, .commitLease 0]).commits.length = 1 ∧
      (run World.step sampleReserved [.commitLease 0, .commitLease 0]).commits.Pairwise PaidApart :=
  have hnamed : ∀ op ∈ [Op.initializePristine (some samplePool) ∅,
      .reserveItem samplePlayer 3 .direct none, .commitLease 0, .commitLease 0], op.Named := by
    simp [Op.Named, Op.claimant, samplePlayer, ObjectGuid.createPlayer, ObjectGuid.empty]
  ⟨by decide, (loot_paid_at_most_once .default hnamed rfl (by decide)).1⟩

end RustyCore.Loot
