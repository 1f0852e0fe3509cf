import RustyCore.Library.Fifo
import RustyCore.Model.Session.DurableRail

/-! # The durable rail delivers in order or reports an overflow

Along a run of publishes, retained intents, overflow checks and drains, what is taken from the
rail is what was published, in order. -/

namespace RustyCore.Session

open Maps (MapKey PlayerHandle)
open DurableCreatureRuntimeCommands hiding default

variable {π : Type*}

/-! ## Operations -/

inductive Publication (π : Type*) where
  | playerSpellIfVisible (command : π)
  | attackStart (command : π)
  | attackStop (command : π)
  | pvpCombatExpiry (command : π)
  | meleeDamage (command : π)
  | playerMeleeResult (command : π)
  | sendIfVisible (command : π)
  | destroyVisibleObject (command : π)
  | creatureSpellCastIfVisible (command : π)
deriving DecidableEq

namespace Publication

def perform : Publication π → DurableCreatureRuntimeCommands π →
    Bool × DurableCreatureRuntimeCommands π
  | playerSpellIfVisible command => publishPlayerSpellIfVisible command
  | attackStart command => publishAttackStart command
  | attackStop command => publishAttackStop command
  | pvpCombatExpiry command => publishPvpCombatExpiry command
  | meleeDamage command => publishMeleeDamage command
  | playerMeleeResult command => publishPlayerMeleeResult command
  | sendIfVisible command => publishSendIfVisible command
  | destroyVisibleObject command => publishDestroyVisibleObject command
  | creatureSpellCastIfVisible command => publishCreatureSpellCastIfVisible command

def command : Publication π → SessionCommand π
  | playerSpellIfVisible command => .sendPlayerSpellIfVisible command
  | attackStart command => .creatureAttackStart command
  | attackStop command => .creatureAttackStop command
  | pvpCombatExpiry command => .reconcilePvpCombatExpiry command
  | meleeDamage command => .applyCreatureMeleeDamage command
  | playerMeleeResult command => .applyPlayerMeleeResult command
  | sendIfVisible command => .sendIfVisible command
  | destroyVisibleObject command => .destroyVisibleObject command
  | creatureSpellCastIfVisible command => .sendCreatureSpellCastIfVisible command

theorem perform_eq (publication : Publication π) :
    publication.perform = publish publication.command := by
  cases publication <;> rfl

theorem isRefresh_command (publication : Publication π) :
    publication.command.isRefresh = false := by
  cases publication <;> rfl

end Publication

/-- The calls on the rail; the two locks of a pump pass are calls of their own. -/
inductive RailOp (π : Type*) where
  | publish (publication : Publication π)
  | retainDeferredVisibility (intent : PlayerVisibilityRefreshIntent)
  | takeOverflowedAndDiscard
  | drain
deriving DecidableEq

abbrev Rail (π : Type*) := DurableCreatureRuntimeCommands π

def railStep (rail : Rail π) : RailOp π → Rail π
  | .publish publication => (publication.perform rail).2
  | .retainDeferredVisibility intent => rail.retainDeferredVisibility intent
  | .takeOverflowedAndDiscard => rail.takeOverflowedAndDiscard.2
  | .drain => rail.drain.2

/-- The rail turns a command away. -/
def Rejects (rail : Rail π) : RailOp π → Prop
  | .publish publication => (publication.perform rail).1 = false
  | _ => False

instance (rail : Rail π) : ∀ op, Decidable (Rejects rail op)
  | .publish publication => inferInstanceAs (Decidable ((publication.perform rail).1 = false))
  | .retainDeferredVisibility _ => inferInstanceAs (Decidable False)
  | .takeOverflowedAndDiscard => inferInstanceAs (Decidable False)
  | .drain => inferInstanceAs (Decidable False)

def published : RailOp π → List (SessionCommand π)
  | .publish publication => [publication.command]
  | _ => []

def accepted (rail : Rail π) : RailOp π → List (SessionCommand π)
  | .publish publication => if (publication.perform rail).1 then [publication.command] else []
  | _ => []

/-- What a drain hands out, less the refresh. -/
def delivered (rail : Rail π) : RailOp π → List (SessionCommand π)
  | .drain => rail.drain.1.filter fun command => !command.isRefresh
  | _ => []

def discarded (rail : Rail π) : RailOp π → List (SessionCommand π)
  | .takeOverflowedAndDiscard => if rail.takeOverflowedAndDiscard.1 then rail.commands else []
  | _ => []

/-! ## One step -/

theorem publish_of_full {rail : Rail π} (command : SessionCommand π)
    (hfull : rail.commands.length ≥ maxDurableCreatureRuntimeCommands) :
    rail.publish command = (false, { rail with overflowed := true }) := if_pos hfull

theorem publish_of_room {rail : Rail π} (command : SessionCommand π)
    (hroom : ¬ rail.commands.length ≥ maxDurableCreatureRuntimeCommands) :
    rail.publish command = (true, { rail with commands := rail.commands ++ [command] }) :=
  if_neg hroom

@[simp] theorem retain_commands (rail : Rail π) (intent : PlayerVisibilityRefreshIntent) :
    (rail.retainDeferredVisibility intent).commands = rail.commands := by
  unfold retainDeferredVisibility
  grind

@[simp] theorem retain_overflowed (rail : Rail π) (intent : PlayerVisibilityRefreshIntent) :
    (rail.retainDeferredVisibility intent).overflowed = rail.overflowed := by
  unfold retainDeferredVisibility
  grind

@[simp] theorem drain_snd (rail : Rail π) :
    rail.drain.2 = { rail with commands := [], deferredVisibility := none } := by
  unfold drain
  cases rail.deferredVisibility <;> rfl

theorem take_of_overflowed {rail : Rail π} (h : rail.overflowed = true) :
    rail.takeOverflowedAndDiscard = (true, .default) := by
  simp only [takeOverflowedAndDiscard, h, if_true]
  rfl

theorem take_of_not_overflowed {rail : Rail π} (h : rail.overflowed = false) :
    rail.takeOverflowedAndDiscard = (false, rail) := by
  cases rail
  simp_all [takeOverflowedAndDiscard]

theorem take_fst (rail : Rail π) : rail.takeOverflowedAndDiscard.1 = rail.overflowed := by
  cases h : rail.overflowed with
  | true => rw [take_of_overflowed h]
  | false => rw [take_of_not_overflowed h]

/-- The flag is up after a step that turns a command away, and stays up until it is taken. -/
theorem overflowed_step (rail : Rail π) (op : RailOp π) :
    (railStep rail op).overflowed = true ↔
      Rejects rail op ∨ rail.overflowed = true ∧ ¬ op = .takeOverflowedAndDiscard := by
  cases op with
  | publish publication =>
    by_cases hfull : rail.commands.length ≥ maxDurableCreatureRuntimeCommands
    · simp [railStep, Rejects, publication.perform_eq, publish_of_full _ hfull]
    · simp [railStep, Rejects, publication.perform_eq, publish_of_room _ hfull]
  | retainDeferredVisibility intent => simp [railStep, Rejects]
  | takeOverflowedAndDiscard =>
    cases h : rail.overflowed with
    | true => simp [railStep, Rejects, take_of_overflowed h]
    | false => simp [railStep, Rejects, take_of_not_overflowed h, h]
  | drain => simp [railStep, Rejects]

/-! ## Draining -/

/-- Where a refresh stands between the commands of the rail: before the first gated command, or
after the last directed destroy if a gated command is queued before that. -/
structure Placed (front back : List (SessionCommand π)) : Prop where
  noLaterDestroy : ∀ command ∈ back, command.isDirectedObjectDestroy = false
  position :
    (∀ command ∈ front, command.isVisibilityGated = false) ∧
        (∀ command ∈ back.head?, command.isVisibilityGated = true) ∨
      (∀ command ∈ front.getLast?, command.isDirectedObjectDestroy = true) ∧
        ∃ command ∈ front, command.isVisibilityGated = true

theorem placed_insertion (commands : List (SessionCommand π)) {n : ℕ}
    (hn : n = max (firstVisible commands) (afterDirectedDestroy commands)) :
    Placed (commands.take n) (commands.drop n) := by
  have hlast : afterLast SessionCommand.isDirectedObjectDestroy commands ≤ n :=
    (le_max_right _ _).trans hn.ge
  refine ⟨forall_mem_drop_afterLast _ _ hlast, ?_⟩
  rcases le_or_gt (afterDirectedDestroy commands) (firstVisible commands) with h | h
  · rw [max_eq_left h] at hn
    subst hn
    exact .inl ⟨fun _ hmem => List.false_of_mem_take_findIdx hmem, head?_drop_findIdx _ _⟩
  · rw [max_eq_right h.le] at hn
    subst hn
    have hbound : firstVisible commands < commands.length := h.trans_le (afterLast_le _ _)
    refine .inr ⟨getLast?_take_afterLast _ _, commands[firstVisible commands], ?_, ?_⟩
    · exact List.mem_take_iff_getElem.mpr ⟨firstVisible commands, by omega, rfl⟩
    · exact List.findIdx_getElem

def refreshes (rail : Rail π) : List (SessionCommand π) :=
  (rail.deferredVisibility.map .refreshDeferredPlayerVisibility).toList

/-- A drain hands out the queue with the pending refresh, if there is one, at its place. -/
theorem drain_fst (rail : Rail π) : ∃ front back, rail.commands = front ++ back ∧
    rail.drain.1 = front ++ refreshes rail ++ back ∧
    (rail.deferredVisibility.isSome → Placed front back) := by
  unfold drain refreshes
  cases rail.deferredVisibility with
  | none => exact ⟨rail.commands, [], by simp, by simp, by simp⟩
  | some intent =>
    have hn : max (firstVisible rail.commands) (afterDirectedDestroy rail.commands) ≤
        rail.commands.length := max_le List.findIdx_le_length (afterLast_le _ _)
    refine ⟨_, _, (List.take_append_drop _ _).symm, ?_, fun _ => placed_insertion _ rfl⟩
    calc
      rail.commands.insertIdx _ _ = _ := insertIdx_eq_take_drop _ hn
      _ = _ := by simp

def NoRefresh (rail : Rail π) : Prop := ∀ command ∈ rail.commands, command.isRefresh = false

theorem NoRefresh.step {rail : Rail π} (h : NoRefresh rail) (op : RailOp π) :
    NoRefresh (railStep rail op) := by
  cases op with
  | publish publication =>
    by_cases hfull : rail.commands.length ≥ maxDurableCreatureRuntimeCommands
    · simpa [NoRefresh, railStep, publication.perform_eq, publish_of_full _ hfull] using h
    · intro command hmem
      simp only [railStep, publication.perform_eq, publish_of_room _ hfull, List.mem_append,
        List.mem_singleton] at hmem
      rcases hmem with hmem | rfl
      · exact h command hmem
      · exact publication.isRefresh_command
  | retainDeferredVisibility intent => simpa [NoRefresh, railStep] using h
  | takeOverflowedAndDiscard =>
    cases hflag : rail.overflowed with
    | true => simp [NoRefresh, railStep, take_of_overflowed hflag]
    | false => simpa [railStep, take_of_not_overflowed hflag] using h
  | drain => simp [NoRefresh, railStep]

theorem NoRefresh.delivered_drain {rail : Rail π} (h : NoRefresh rail) :
    delivered rail .drain = rail.commands := by
  obtain ⟨front, back, hcommands, hdrain, -⟩ := drain_fst rail
  have hkeep : ∀ command ∈ front ++ back, command.isRefresh = false := by
    rw [← hcommands]
    exact h
  have hdrop : (refreshes rail).filter (fun command => !command.isRefresh) = [] := by
    unfold refreshes
    cases rail.deferredVisibility <;> rfl
  rw [delivered, hdrain, List.filter_append, List.filter_append, hdrop, List.append_nil,
    ← List.filter_append, hcommands]
  exact List.filter_eq_self.mpr fun command hmem => by simp [hkeep command hmem]

/-! ## The queue along a run -/

theorem conserved_step {rail : Rail π} (h : NoRefresh rail) (op : RailOp π) :
    rail.commands ++ accepted rail op =
      (delivered rail op ++ discarded rail op) ++ (railStep rail op).commands := by
  cases op with
  | publish publication =>
    by_cases hfull : rail.commands.length ≥ maxDurableCreatureRuntimeCommands
    · simp [accepted, delivered, discarded, railStep, publication.perform_eq,
        publish_of_full _ hfull]
    · simp [accepted, delivered, discarded, railStep, publication.perform_eq,
        publish_of_room _ hfull]
  | retainDeferredVisibility intent => simp [accepted, delivered, discarded, railStep]
  | takeOverflowedAndDiscard =>
    cases hflag : rail.overflowed with
    | true =>
      simp [accepted, delivered, discarded, railStep, take_of_overflowed hflag]
    | false => simp [accepted, delivered, discarded, railStep, take_of_not_overflowed hflag]
  | drain =>
    rw [h.delivered_drain]
    simp [accepted, discarded, railStep]

/-- Every command that the rail takes is delivered or discarded, in order, or still queued. -/
theorem conserved_run (ops : List (RailOp π)) :
    runOutput railStep accepted .default ops =
      runOutput railStep (fun rail op => delivered rail op ++ discarded rail op) .default ops ++
        (run railStep .default ops).commands := by
  have hinit : NoRefresh (.default : Rail π) := by simp [NoRefresh]
  have hops : EachStep railStep (fun rail _ => NoRefresh rail ∧ True) .default ops :=
    EachStep.with_invariant NoRefresh (fun rail op h _ => h.step op) hinit
      (EachStep.of_forall (fun _ _ _ => trivial) _)
  have hlaw := append_runOutput DurableCreatureRuntimeCommands.commands accepted
    (fun rail op => delivered rail op ++ discarded rail op)
    (fun rail op h => conserved_step h.1 op) hops
  simpa using hlaw

theorem accepted_of_not_rejects {rail : Rail π} {op : RailOp π} (h : ¬ Rejects rail op) :
    accepted rail op = published op := by
  cases op with
  | publish publication => simpa [accepted, published, Rejects] using h
  | _ => rfl

theorem discarded_of_not_overflowed {rail : Rail π} (op : RailOp π)
    (h : rail.overflowed = false) : discarded rail op = [] := by
  cases op with
  | takeOverflowedAndDiscard => simp [discarded, take_fst, h]
  | _ => rfl

theorem delivered_run {ops : List (RailOp π)}
    (hops : EachStep railStep (fun rail op => ¬ Rejects rail op) .default ops) :
    ops.flatMap published =
      runOutput railStep delivered .default ops ++ (run railStep .default ops).commands := by
  have hstep : ∀ (rail : Rail π) op, rail.overflowed = false → ¬ Rejects rail op →
      (railStep rail op).overflowed = false := by
    intro rail op hflag hop
    rw [← Bool.not_eq_true, overflowed_step]
    simp [hflag, hop]
  have hboth := EachStep.with_invariant (fun rail : Rail π => rail.overflowed = false) hstep
    (s := .default) rfl hops
  have htaken :
      runOutput railStep (fun rail op => delivered rail op ++ discarded rail op) .default ops =
        runOutput railStep delivered .default ops :=
    runOutput_congr (fun rail op h => by
      rw [discarded_of_not_overflowed op h.1, List.append_nil]) hboth
  have hall := conserved_run ops
  rw [htaken, runOutput_congr (fun _ _ h => accepted_of_not_rejects h) hops,
    runOutput_eq_flatMap] at hall
  exact hall

/-! ## The pump -/

/-- The durable commands stay in order around those of the general rail, which come in before
the first gated one. -/
theorem drainSessionCommands_fst (received : List (SessionCommand π)) (rail : Rail π) :
    ∃ presented suffix, rail.drain.1 = presented ++ suffix ∧
      (drainSessionCommands received rail).1 = presented ++ received ++ suffix ∧
      (∀ command ∈ presented, command.isVisibilityGated = false) ∧
      ∀ command ∈ suffix.head?, command.isVisibilityGated = true := by
  refine ⟨_, _, (List.take_append_drop (firstVisible rail.drain.1) _).symm, ?_, ?_, ?_⟩
  · simp [drainSessionCommands, List.splitAt_eq]
  · exact fun _ hmem => List.false_of_mem_take_findIdx hmem
  · exact head?_drop_findIdx _ _

/-- A pump pass with `between` between its two locks, as calls on the rail. -/
def pumpOps (rail : Rail π) (between : List (RailOp π)) : List (RailOp π) :=
  .takeOverflowedAndDiscard :: if rail.overflowed then [] else between ++ [.drain]

/-- What one pass of the pump does to a rail. -/
structure PumpLaw (rail : Rail π) : Prop where
  drained : ∃ front back, rail.commands = front ++ back ∧
    rail.drain.1 = front ++ refreshes rail ++ back ∧
    (rail.deferredVisibility.isSome → Placed front back)
  merged : ∀ received, ∃ presented suffix, rail.drain.1 = presented ++ suffix ∧
    (drainSessionCommands received rail).1 = presented ++ received ++ suffix ∧
    (∀ command ∈ presented, command.isVisibilityGated = false) ∧
    ∀ command ∈ suffix.head?, command.isVisibilityGated = true
  reported : rail.overflowed = true → ∀ meanwhile received,
    processSessionCommands meanwhile received rail = (none, .default)
  passed : rail.overflowed = false → ∀ meanwhile received,
    (processSessionCommands meanwhile received rail).1 =
      some (drainSessionCommands received (meanwhile rail)).1
  isRun : ∀ between received,
    (processSessionCommands (run railStep · between) received rail).2 =
      run railStep rail (pumpOps rail between)

theorem pumpLaw (rail : Rail π) : PumpLaw rail := by
  refine ⟨drain_fst rail, fun received => drainSessionCommands_fst received rail, ?_, ?_, ?_⟩
  · intro h meanwhile received
    rw [processSessionCommands, take_of_overflowed h]
  · intro h meanwhile received
    rw [processSessionCommands, take_of_not_overflowed h]
  · intro between received
    cases h : rail.overflowed with
    | true => simp [processSessionCommands, pumpOps, railStep, take_of_overflowed h, h]
    | false =>
      simp [processSessionCommands, pumpOps, railStep, take_of_not_overflowed h, h, run_append,
        drainSessionCommands]

/-- The rail after any run of its calls: what it was given is delivered once and in order as
long as it turns nothing away, and a command turned away raises the flag that the next pump
pass reports. -/
theorem durable_rail_delivers (ops : List (RailOp π)) :
    (EachStep railStep (fun rail op => ¬ Rejects rail op) .default ops →
      ops.flatMap published =
        runOutput railStep delivered .default ops ++ (run railStep .default ops).commands) ∧
    runOutput railStep accepted .default ops =
      runOutput railStep (fun rail op => delivered rail op ++ discarded rail op) .default ops ++
        (run railStep .default ops).commands ∧
    ((run railStep .default ops).overflowed = true ↔
      ∃ before op after, ops = before ++ op :: after ∧
        Rejects (run railStep .default before) op ∧ .takeOverflowedAndDiscard ∉ after) ∧
    PumpLaw (run railStep .default ops) := by
  refine ⟨delivered_run, conserved_run ops, ?_, pumpLaw _⟩
  have hstart : ¬ (.default : Rail π).overflowed = true := nofun
  have hflag := flag_run_iff (fun rail : Rail π => rail.overflowed = true) Rejects
    (fun _ op => op = .takeOverflowedAndDiscard) overflowed_step hstart ops
  rw [hflag]
  refine exists_congr fun before => exists_congr fun op => exists_congr fun after => ?_
  refine and_congr_right fun _ => and_congr_right fun _ => ?_
  have hnone := @eachStep_iff_forall _ _ railStep
    (fun op : RailOp π => ¬ op = .takeOverflowedAndDiscard)
    (run railStep .default (before ++ [op])) after
  exact hnone.trans ⟨fun h hmem => h _ hmem rfl, fun h op hmem heq => h (heq ▸ hmem)⟩

/-- A gated packet, the destroy of an object and a deferred refresh. -/
def gatedDestroyRefresh : List (RailOp Unit) :=
  [.publish (.sendIfVisible ()), .publish (.destroyVisibleObject ()),
    .retainDeferredVisibility ⟨⟨.empty, 0⟩, ⟨0, 0⟩, 0, .empty⟩]

/-- The refresh stays behind the destroy, and so behind the gated packet. -/
theorem refresh_behind_gated_packet :
    EachStep railStep (fun rail op => ¬ Rejects rail op) .default gatedDestroyRefresh ∧
      ∃ front intent back,
        (run railStep .default gatedDestroyRefresh).drain.1 =
          front ++ .refreshDeferredPlayerVisibility intent :: back ∧
        ∃ command ∈ front, command.isVisibilityGated = true := by
  refine ⟨by decide, [.sendIfVisible (), .destroyVisibleObject ()],
    ⟨⟨.empty, 0⟩, ⟨0, 0⟩, 0, .empty⟩, [], by decide, .sendIfVisible (), by simp, rfl⟩

end RustyCore.Session
