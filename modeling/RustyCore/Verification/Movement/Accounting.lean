import RustyCore.Library.Ledger
import RustyCore.Verification.Movement.Moves
import RustyCore.Verification.Movement.Observation

/-! # Every generator is accounted for

The log of an observed run is replayed against the generators that the master holds: what
was made is still held, or it was finalized once and left alone since. -/

namespace RustyCore.Movement

open Ledger

variable {γ ω : Type} {gen : MovementGenerator γ ω}

def Event.entry : Event → Entry ℕ
  | created id => .created id
  | init id => .used id
  | reset id => .used id
  | update id _ => .used id
  | deactivate id => .used id
  | finalize id _ _ => .retired id

def Event.id (e : Event) : ℕ := e.entry.thing

/-- The events of callbacks other than `update`. -/
def Event.quiet : Event → Bool
  | created _ => false
  | update _ _ => false
  | init _ => true
  | reset _ => true
  | deactivate _ => true
  | finalize _ _ _ => true

/-- The numbers of the generators that a master holds. -/
def held (m : MotionMaster (Tagged γ)) : List ℕ :=
  (m.defaultGenerator.toList ++ m.activeGenerators).map Tagged.id

theorem MovementGenerator.KeepsRank.observed (h : gen.KeepsRank) :
    (observed gen).KeepsRank where
  init g w := h.init g.generator w.1
  reset g w := h.reset g.generator w.1
  update g diffMs w := h.update g.generator diffMs w.1
  deactivate g w := h.deactivate g.generator w.1
  finalize g active movementInform w := h.finalize g.generator active movementInform w.1

/-! ## Traces -/

/-- What was written between two stages, and what it did to the generators held. -/
structure Trace (s : Stage (Tagged γ) (ω × List Event)) (events : List Event)
    (s' : Stage (Tagged γ) (ω × List Event)) : Prop where
  log : s'.world.2 = s.world.2 ++ events
  replays : Replays Event.entry (held s.master) events (held s'.master)

namespace Trace

variable {s s' s'' : Stage (Tagged γ) (ω × List Event)} {events events' : List Event}

theorem refl (s : Stage (Tagged γ) (ω × List Event)) : Trace s [] s :=
  ⟨(List.append_nil _).symm, .nil _⟩

theorem trans (h : Trace s events s') (h' : Trace s' events' s'') :
    Trace s (events ++ events') s'' :=
  ⟨by rw [h'.log, h.log, List.append_assoc], h.replays.append h'.replays⟩

theorem congr {t t' : Stage (Tagged γ) (ω × List Event)} (h : Trace s events s')
    (hheld : held t.master = held s.master) (hlog : t.world.2 = s.world.2)
    (hheld' : held t'.master = held s'.master) (hlog' : t'.world.2 = s'.world.2) :
    Trace t events t' := by
  refine ⟨by rw [hlog', hlog, h.log], ?_⟩
  rw [hheld, hheld']
  exact h.replays

end Trace

section Held

variable {m : MotionMaster (Tagged γ)}

theorem held_clearBaseUnitState (baseUnitState : BitVec 32) :
    held (m.clearBaseUnitState baseUnitState) = held m := by
  unfold MotionMaster.clearBaseUnitState
  split_ifs <;> rfl

theorem held_middle {before after : List (Tagged γ)} {g : Tagged γ}
    (h : m.activeGenerators = before ++ g :: after) :
    (held m).Perm (g.id :: held { m with activeGenerators := before ++ after }) := by
  unfold held
  rw [h, ← List.append_assoc, ← List.append_assoc, ← List.map_cons]
  exact List.perm_middle.map Tagged.id

theorem mem_held_of_active {g : Tagged γ} (h : g ∈ m.activeGenerators) : g.id ∈ held m :=
  List.mem_map_of_mem (List.mem_append_right _ h)

theorem mem_held_of_default {g : Tagged γ} (h : m.defaultGenerator = some g) : g.id ∈ held m := by
  unfold held
  rw [h]
  exact List.mem_cons_self

theorem mem_held_of_current {g : Tagged γ} (h : m.currentGenerator = some g) : g.id ∈ held m := by
  obtain ⟨default, actives, _, _, _, _⟩ := m
  cases actives with
  | nil => exact mem_held_of_default h
  | cons top rest =>
    obtain rfl := Option.some.inj h
    exact mem_held_of_active List.mem_cons_self

theorem held_setCurrentGenerator {g g' : Tagged γ} (h : m.currentGenerator = some g)
    (hid : g'.id = g.id) : held (m.setCurrentGenerator g') = held m := by
  obtain ⟨default, actives, _, _, _, _⟩ := m
  cases actives with
  | nil =>
    obtain rfl : default = some g := h
    exact congrArg (· :: []) hid
  | cons top rest =>
    obtain rfl := Option.some.inj h
    simp [held, MotionMaster.setCurrentGenerator, hid]

end Held

/-! ## Moves and insertions -/

section Moves

variable {s s' : Stage (Tagged γ) (ω × List Event)}

def Callback.event (id : ℕ) : Callback → Event
  | init => .init id
  | reset => .reset id
  | deactivate => .deactivate id

theorem Callback.entry_event (c : Callback) (id : ℕ) : (c.event id).entry = .used id := by
  cases c <;> rfl

theorem Callback.quiet_event (c : Callback) (id : ℕ) : (c.event id).quiet := by
  cases c <;> rfl

variable (gen) in
theorem callback_observed (c : Callback) (g : Tagged γ) (w : ω × List Event) :
    ((observed gen).callback c g w).1.id = g.id ∧
      ((observed gen).callback c g w).2.2 = w.2 ++ [c.event g.id] := by
  cases c <;> exact ⟨rfl, rfl⟩

theorem Move.trace (h : Move (observed gen) s s') :
    ∃ events, Trace s events s' ∧ ∀ e ∈ events, e.quiet := by
  cases h with
  | @remove before after movement active movementInform hactive =>
    refine ⟨[.finalize movement.id active movementInform], ⟨rfl, ?_⟩, ?_⟩
    · rw [held_clearBaseUnitState, Multiset.coe_eq_coe.mpr (held_middle hactive),
        ← Multiset.cons_coe]
      exact .singleton_retired rfl
    · exact List.forall_mem_singleton.mpr rfl
  | @removeDefault generator active movementInform hdefault =>
    refine ⟨[.finalize generator.id active movementInform], ⟨rfl, ?_⟩, ?_⟩
    · have hheld : held s.master =
          generator.id :: held { s.master with defaultGenerator := none } := by
        simp [held, hdefault]
      rw [hheld, ← Multiset.cons_coe]
      exact .singleton_retired rfl
    · exact List.forall_mem_singleton.mpr rfl
  | @callActive before after generator c hactive =>
    obtain ⟨hid, hlog⟩ := callback_observed gen c generator s.world
    refine ⟨[c.event generator.id], ⟨hlog, ?_⟩,
      List.forall_mem_singleton.mpr (c.quiet_event _)⟩
    have hheld : held { s.master with activeGenerators :=
        before ++ ((observed gen).callback c generator s.world).1 :: after } = held s.master := by
      simp [held, hactive, hid]
    rw [hheld]
    refine .singleton_used (c.entry_event _) (mem_held_of_active ?_)
    rw [hactive]
    exact List.mem_append_right _ List.mem_cons_self
  | @callDefault generator c hdefault =>
    obtain ⟨hid, hlog⟩ := callback_observed gen c generator s.world
    refine ⟨[c.event generator.id], ⟨hlog, ?_⟩,
      List.forall_mem_singleton.mpr (c.quiet_event _)⟩
    have hheld : ∀ g : Tagged γ, g.id = generator.id →
        held { s.master with defaultGenerator := some g } = held s.master := by
      intro g hg
      simp [held, hdefault, hg]
    rw [hheld _ hid]
    exact .singleton_used (c.entry_event _) (mem_held_of_default hdefault)
  | dropRefs hactive => exact ⟨[], ⟨(List.append_nil _).symm, .nil _⟩, fun e he => nomatch he⟩

theorem Moves.trace (h : Moves (observed gen) s s') :
    ∃ events, Trace s events s' ∧ ∀ e ∈ events, e.quiet := by
  induction h with
  | refl => exact ⟨[], Trace.refl s, fun e he => nomatch he⟩
  | tail _ hmove ih =>
    obtain ⟨events, htrace, hquiet⟩ := ih
    obtain ⟨events', htrace', hquiet'⟩ := hmove.trace
    exact ⟨events ++ events', htrace.trans htrace', List.forall_mem_append.mpr ⟨hquiet, hquiet'⟩⟩

theorem defaultGenerator_insertActive (movement : Tagged γ) :
    (s.insertActive (observed gen) movement).master.defaultGenerator =
      s.master.defaultGenerator := by
  unfold Stage.insertActive MotionMaster.addBaseUnitState
  dsimp only
  split_ifs <;> rfl

theorem Put.held {movement : Tagged γ} (h : Put (observed gen) movement s s') :
    (held s'.master : Multiset ℕ) = movement.id ::ₘ held s.master ∧ s'.world = s.world := by
  cases h with
  | default flags hnone hflags =>
    refine ⟨?_, rfl⟩
    unfold Movement.held
    rw [hnone]
    rfl
  | active hne =>
    refine ⟨?_, rfl⟩
    rw [Multiset.cons_coe, Multiset.coe_eq_coe]
    refine (held_middle (activeGenerators_insertActive _ s movement)).trans ?_
    unfold Movement.held
    dsimp only
    rw [List.takeWhile_append_dropWhile, defaultGenerator_insertActive]

end Moves

/-! ## Calls -/

section Calls

variable {s : Stage (Tagged γ) (ω × List Event)}

/-- The new generator is made first; it is held in the end. -/
theorem add_trace (hgen : gen.KeepsRank) (hs : Sound (observed gen) s.master) (id : ℕ)
    (make : ω → γ × ω) (slot : MovementSlot) :
    ∃ events, Trace s (.created id :: events)
      ({ s with world := (observedMake id make s.world).2 }.add (observed gen)
        (observedMake id make s.world).1 slot) ∧ ∀ e ∈ events, e.quiet := by
  obtain ⟨s₁, hmoves, hput⟩ := add_moves
    (s := { s with world := (observedMake id make s.world).2 }) hgen.observed hs.settled
    hs.ordered (observedMake id make s.world).1 slot
  obtain ⟨events, htrace, hquiet⟩ := hmoves.trace
  obtain ⟨hheld, hworld⟩ := hput.held
  refine ⟨events, ⟨?_, ?_⟩, hquiet⟩
  · rw [hworld, htrace.log]
    exact List.append_assoc _ [_] events
  · rw [hheld]
    exact .created rfl (htrace.replays.cons_held id)

variable (gen) in
theorem update_trace (hs : Settled s.master) (diffMs : ℕ) :
    ∃ events, Trace s events (s.update (observed gen) diffMs) ∧
      (∀ id, .created id ∉ events) ∧
      ∀ id diffMs', .update id diffMs' ∈ events →
        s.master.currentGenerator.map Tagged.id = some id := by
  rcases update_cases (observed gen) hs diffMs with heq |
    ⟨top, htop, top', w, s', hbefore, hsame, hafter, heq⟩
  · rw [heq]
    exact ⟨[], Trace.refl s, by simp, by simp⟩
  · have hid : top'.id = top.id :=
      hsame ℕ Tagged.id fun c g w => (callback_observed gen c g w).1
    obtain ⟨events, htrace, hquiet⟩ := hbefore.trace
    obtain ⟨events', htrace', hquiet'⟩ := hafter.trace
    have hheld : ∀ g : Tagged γ, g.id = top.id →
        held ((updating s).master.setCurrentGenerator g) = held (updating s).master :=
      fun g hg => held_setCurrentGenerator htop hg
    have hupdate : Trace { master := (updating s).master.setCurrentGenerator top', world := w }
        [.update top'.id diffMs]
        { master := (updating s).master.setCurrentGenerator
            ((observed gen).update top' diffMs w).2.1
          world := ((observed gen).update top' diffMs w).2.2 } := by
      refine ⟨rfl, ?_⟩
      rw [hheld top' hid, hheld ((observed gen).update top' diffMs w).2.1 hid, hid]
      exact .singleton_used rfl (mem_held_of_current htop)
    refine ⟨events ++ [.update top'.id diffMs] ++ events', ?_, fun id hmem => ?_,
      fun id diffMs' hmem => ?_⟩
    · rw [heq]
      exact ((htrace.trans hupdate).trans htrace').congr rfl rfl rfl rfl
    · simp only [List.mem_append, List.mem_singleton, reduceCtorEq, or_false] at hmem
      rcases hmem with hmem | hmem
      · exact nomatch hquiet _ hmem
      · exact nomatch hquiet' _ hmem
    · simp only [List.mem_append, List.mem_singleton] at hmem
      rcases hmem with (hmem | hmem) | hmem
      · exact nomatch hquiet _ hmem
      · rw [htop, Option.map_some, (Event.update.inj hmem).1, hid]
      · exact nomatch hquiet' _ hmem

/-- What one call writes: it makes its own generator only, and updates only the one on top. -/
structure CallTrace (s : Stage (Tagged γ) (ω × List Event)) (c : Call γ ω) (id : ℕ)
    (events : List Event) (s' : Stage (Tagged γ) (ω × List Event)) : Prop where
  trace : Trace s events s'
  creations : creations Event.entry events = [] ∨ creations Event.entry events = [id]
  updates : ∀ i diffMs, .update i diffMs ∈ events →
    s.master.currentGenerator.map Tagged.id = some i
  add : ∀ make slot, c = .add make slot → .created id ∈ events

theorem creations_quiet {events : List Event} (h : ∀ e ∈ events, e.quiet) :
    creations Event.entry events = [] := by
  refine creations_eq_nil fun e he i hentry => ?_
  have hquiet := h e he
  cases e <;> cases hentry
  exact nomatch hquiet

theorem Moves.callTrace {s' : Stage (Tagged γ) (ω × List Event)} {c : Call γ ω} {id : ℕ}
    (h : Moves (observed gen) s s') (hc : ∀ make slot, c ≠ .add make slot) :
    ∃ events, CallTrace s c id events s' := by
  obtain ⟨events, htrace, hquiet⟩ := h.trace
  exact ⟨events, htrace, .inl (creations_quiet hquiet),
    fun i diffMs hmem => absurd (hquiet _ hmem) Bool.false_ne_true,
    fun make slot heq => absurd heq (hc make slot)⟩

/-- The events of making one generator and putting it into its place. -/
theorem created_callTrace {s' : Stage (Tagged γ) (ω × List Event)} {c : Call γ ω} {id : ℕ}
    {events events' : List Event} (htrace : Trace s (events ++ .created id :: events') s')
    (hquiet : ∀ e ∈ events, e.quiet) (hquiet' : ∀ e ∈ events', e.quiet) :
    CallTrace s c id (events ++ .created id :: events') s' := by
  have hentry : (Event.created id).entry = .created id := rfl
  refine ⟨htrace, .inr ?_, fun i diffMs hmem => ?_, fun _ _ _ => by simp⟩
  · rw [creations_append, creations_quiet hquiet, creations_cons_created hentry,
      creations_quiet hquiet', List.nil_append]
  · rcases List.mem_append.mp hmem with hmem | hmem
    · exact absurd (hquiet _ hmem) Bool.false_ne_true
    · exact absurd (hquiet' _ ((List.mem_cons.mp hmem).resolve_left nofun)) Bool.false_ne_true

theorem call_trace (hgen : gen.KeepsRank) (hs : Sound (observed gen) s.master) (c : Call γ ω)
    (id : ℕ) : ∃ events, CallTrace s c id events (s.call (observed gen) (c.observed id)) := by
  cases c with
  | add make slot =>
    obtain ⟨events, htrace, hquiet⟩ := add_trace hgen hs id make slot
    have hnil : ∀ e ∈ ([] : List Event), e.quiet := fun _ he => nomatch he
    exact ⟨[] ++ .created id :: events, created_callTrace htrace hnil hquiet⟩
  | removeKind kind slot => exact (removeKind_moves hs.settled kind slot).callTrace nofun
  | clear => exact (clear_moves (observed gen) hs.settled).callTrace nofun
  | clearSlot slot => exact (clearSlot_moves hs.settled slot).callTrace nofun
  | clearMode mode => exact (clearMode_moves hs.settled mode).callTrace nofun
  | clearPriority priority => exact (clearPriority_moves hs.settled priority).callTrace nofun
  | update diffMs =>
    obtain ⟨events, htrace, hcreated, hupdates⟩ := update_trace gen hs.settled diffMs
    refine ⟨events, htrace, .inl (creations_eq_nil fun e he i hentry => ?_), hupdates, nofun⟩
    cases e <;> cases hentry
    exact hcreated i he
  | stopOnDeath ownerInWorld idleFactory =>
    obtain ⟨events, hclear, hquiet⟩ := (clear_moves (observed gen) hs.settled).trace
    have hsound := hs.moves hgen.observed (clear_moves (observed gen) hs.settled)
    obtain ⟨events', hadd, hquiet'⟩ := add_trace hgen hsound id idleFactory .default
    change ∃ events, CallTrace s _ id events
      (s.stopOnDeath (observed gen) ownerInWorld (observedMake id idleFactory)).2
    have hrefl : Moves (observed gen) s s := .refl
    unfold Stage.stopOnDeath
    split_ifs
    · exact hrefl.callTrace nofun
    · exact ⟨_, created_callTrace (hclear.trans hadd) hquiet hquiet'⟩
    · exact hrefl.callTrace nofun

end Calls

/-! ## Runs -/

/-- The books after a number of calls. -/
structure Accounted (gen : MovementGenerator γ ω) (n : ℕ)
    (s : Stage (Tagged γ) (ω × List Event)) : Prop where
  sound : Sound (observed gen) s.master
  replays : Replays Event.entry 0 s.world.2 (held s.master)
  nodup : (creations Event.entry s.world.2).Nodup
  lt : ∀ i ∈ creations Event.entry s.world.2, i < n

theorem Accounted.start (make : ω → γ × ω) (world : ω) :
    Accounted gen 1 (Stage.start (observedMake 0 make) (world, [])) where
  sound := Sound.new _
  replays := .created rfl (.nil _)
  nodup := List.nodup_singleton 0
  lt i hi := by
    obtain rfl := List.mem_singleton.mp hi
    exact Nat.one_pos

theorem Accounted.step {n : ℕ} {s s' : Stage (Tagged γ) (ω × List Event)} {c : Call γ ω}
    {events : List Event} (hgen : gen.KeepsRank) (h : Accounted gen n s)
    (hs' : s' = s.call (observed gen) (c.observed n)) (htrace : CallTrace s c n events s') :
    Accounted gen (n + 1) s' := by
  refine ⟨hs' ▸ h.sound.call hgen.observed _, ?_, ?_, ?_⟩
  · rw [htrace.trace.log]
    exact h.replays.append htrace.trace.replays
  · rw [htrace.trace.log, creations_append]
    rcases htrace.creations with hnone | hone
    · rw [hnone, List.append_nil]
      exact h.nodup
    · rw [hone]
      exact h.nodup.append (List.nodup_singleton n) (List.disjoint_singleton.mpr fun hn =>
        Nat.lt_irrefl n (h.lt n hn))
  · rw [htrace.trace.log, creations_append]
    intro i hi
    rcases List.mem_append.mp hi with hi | hi
    · exact Nat.lt_succ_of_lt (h.lt i hi)
    · rcases htrace.creations with hnone | hone
      · rw [hnone] at hi
        exact nomatch hi
      · rw [hone, List.mem_singleton] at hi
        exact hi ▸ Nat.lt_succ_self n

section Runs

variable (gen) (make : ω → γ × ω) (world : ω)

theorem observe_concat (calls : List (Call γ ω)) (c : Call γ ω) :
    observe gen make world (calls ++ [c]) =
      (observe gen make world calls).call (observed gen) (c.observed (calls.length + 1)) := by
  unfold observe Stage.calls
  rw [List.zipIdx_append, List.map_append, List.foldl_append, Nat.add_comm 1]
  rfl

variable {gen}

theorem observe_accounted (hgen : gen.KeepsRank) (calls : List (Call γ ω)) :
    Accounted gen (calls.length + 1) (observe gen make world calls) := by
  induction calls using List.reverseRecOn with
  | nil => exact Accounted.start make world
  | append_singleton calls c ih =>
    obtain ⟨events, htrace⟩ := call_trace hgen ih.sound c (calls.length + 1)
    rw [observe_concat, List.length_append]
    exact ih.step hgen rfl htrace

theorem created_of_add (hgen : gen.KeepsRank) (calls : List (Call γ ω)) :
    .created 0 ∈ (observe gen make world calls).world.2 ∧
      ∀ (i : ℕ) (make' : ω → γ × ω) (slot : MovementSlot),
        calls[i]? = some (.add make' slot) →
          .created (i + 1) ∈ (observe gen make world calls).world.2 := by
  induction calls using List.reverseRecOn with
  | nil => exact ⟨List.mem_cons_self, fun i make' slot h => by simp at h⟩
  | append_singleton calls c ih =>
    obtain ⟨events, htrace⟩ :=
      call_trace hgen (observe_accounted make world hgen calls).sound c (calls.length + 1)
    rw [observe_concat, htrace.trace.log]
    refine ⟨List.mem_append_left _ ih.1, fun i make' slot h => ?_⟩
    rcases Nat.lt_trichotomy i calls.length with hi | rfl | hi
    · rw [List.getElem?_append_left hi] at h
      exact List.mem_append_left _ (ih.2 i make' slot h)
    · rw [List.getElem?_concat_length] at h
      exact List.mem_append_right _ (htrace.add make' slot (Option.some.inj h))
    · rw [List.getElem?_eq_none (by rw [List.length_append]; exact hi)] at h
      cases h

end Runs

/-! ## The result -/

/-- The generator is held in one place, and it was never finalized. -/
def HeldOnce (s : Stage (Tagged γ) (ω × List Event)) (id : ℕ) : Prop :=
  (held s.master).count id = 1 ∧
    ∀ active movementInform, .finalize id active movementInform ∉ s.world.2

/-- The generator is not held, it was finalized once, and no callback of it ran afterwards. -/
def FinalizedOnce (s : Stage (Tagged γ) (ω × List Event)) (id : ℕ) : Prop :=
  id ∉ held s.master ∧ ∃ before active movementInform after,
    s.world.2 = before ++ .finalize id active movementInform :: after ∧
      (∀ active' movementInform', .finalize id active' movementInform' ∉ before) ∧
      ∀ e ∈ after, e.id ≠ id

theorem Event.entry_eq_retired_iff {e : Event} {id : ℕ} :
    e.entry = .retired id ↔ ∃ active movementInform, e = .finalize id active movementInform := by
  cases e <;> simp [Event.entry]

theorem Accounted.held_or_finalized {n id : ℕ} {s : Stage (Tagged γ) (ω × List Event)}
    (h : Accounted gen n s) (hid : .created id ∈ s.world.2) :
    HeldOnce s id ∨ FinalizedOnce s id := by
  have hcreated : id ∈ creations Event.entry s.world.2 :=
    List.mem_filterMap.mpr ⟨.created id, hid, rfl⟩
  rcases h.replays.held_or_retired (by simpa using h.nodup) (by simpa using hcreated) with
    ⟨hcount, hkept⟩ | ⟨hmem, before, e, after, hlog, he, hbefore, hafter⟩
  · refine .inl ⟨by simpa using hcount, fun active movementInform hmem => ?_⟩
    exact hkept _ hmem rfl
  · obtain ⟨active, movementInform, rfl⟩ := Event.entry_eq_retired_iff.mp he
    refine .inr ⟨by simpa using hmem, before, active, movementInform, after, hlog,
      fun active' movementInform' hmem' => ?_, hafter⟩
    exact hbefore _ hmem' rfl

/-- After any calls the priorities of the active generators fall strictly, the references are
those of the active generators, every generator that was made is held once or was finalized
once and left alone since, and a further call updates none but the one on top. -/
theorem generators_ordered_and_accounted (hgen : gen.KeepsRank) (make : ω → γ × ω) (world : ω)
    (calls : List (Call γ ω)) :
    Ordered gen ((Stage.start make world).calls gen calls).master ∧
      (observe gen make world calls).erase = (Stage.start make world).calls gen calls ∧
      (.created 0 ∈ (observe gen make world calls).world.2 ∧
        ∀ (i : ℕ) (make' : ω → γ × ω) (slot : MovementSlot),
          calls[i]? = some (.add make' slot) →
            .created (i + 1) ∈ (observe gen make world calls).world.2) ∧
      (∀ id, .created id ∈ (observe gen make world calls).world.2 →
        HeldOnce (observe gen make world calls) id ∨
          FinalizedOnce (observe gen make world calls) id) ∧
      ∀ c : Call γ ω, ∃ events,
        (observe gen make world (calls ++ [c])).world.2 =
          (observe gen make world calls).world.2 ++ events ∧
        ∀ id diffMs, .update id diffMs ∈ events →
          (observe gen make world calls).master.currentGenerator.map Tagged.id = some id := by
  have haccounted := observe_accounted make world hgen calls
  refine ⟨?_, erase_observe gen make world calls, created_of_add make world hgen calls,
    fun id hid => haccounted.held_or_finalized hid, fun c => ?_⟩
  · exact (Sound.calls hgen (Sound.new (make world).1) calls).ordered
  · obtain ⟨events, htrace⟩ := call_trace hgen haccounted.sound c (calls.length + 1)
    refine ⟨events, ?_, htrace.updates⟩
    rw [observe_concat]
    exact htrace.trace.log

/-- Generators that are no more than their states and stop at their first update. -/
def stateFamily : MovementGenerator MovementGeneratorState Unit where
  state g := g
  kind _ := .rotate
  init g w := (g, w)
  reset g w := (g, w)
  update g _ w := (false, g, w)
  deactivate g w := (g, w)
  finalize g _ _ w := (g, w)

/-- A distraction over a rotation is finalized when it stops, and the rotation stays. -/
theorem generators_ordered_and_accounted_distract :
    HeldOnce (observe stateFamily (fun w => (⟨.default, .none, 0, 0⟩, w)) ()
      [.add (fun w => (⟨.default, .normal, 0, 4⟩, w)) .active,
        .add (fun w => (⟨.default, .highest, 0, 8⟩, w)) .active, .update 5]) 1 ∧
    FinalizedOnce (observe stateFamily (fun w => (⟨.default, .none, 0, 0⟩, w)) ()
      [.add (fun w => (⟨.default, .normal, 0, 4⟩, w)) .active,
        .add (fun w => (⟨.default, .highest, 0, 8⟩, w)) .active, .update 5]) 2 := by
  have hgen : stateFamily.KeepsRank := by constructor <;> intros <;> rfl
  obtain ⟨-, -, ⟨-, hcreated⟩, haccounted, -⟩ := generators_ordered_and_accounted hgen
    (fun w => (⟨.default, .none, 0, 0⟩, w)) ()
    [.add (fun w => (⟨.default, .normal, 0, 4⟩, w)) .active,
      .add (fun w => (⟨.default, .highest, 0, 8⟩, w)) .active, .update 5]
  constructor
  · refine (haccounted 1 (hcreated 0 _ _ rfl)).resolve_right fun h => h.1 ?_
    decide +kernel
  · refine (haccounted 2 (hcreated 1 _ _ rfl)).resolve_left fun h => ?_
    exact h.2 true true (by decide +kernel)

end RustyCore.Movement
