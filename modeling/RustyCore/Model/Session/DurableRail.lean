import RustyCore.Model.Maps.PlayerOwner

/-! # The durable creature rail of a session

The bounded queue of committed creature transitions, the pending visibility refresh that is
inserted when the queue is drained, and the merge with the general rail. -/

namespace RustyCore.Session

open Maps (MapKey PlayerHandle)

structure PlayerVisibilityRefreshIntent where
  handle : PlayerHandle
  mapKey : MapKey
  residenceRevision : ℕ
  viewpointGuid : ObjectGuid
deriving DecidableEq

/-- The commands that the rails tell apart. The other ones only travel on the general rail, and
no rail reads what a command carries. -/
inductive SessionCommand (π : Type*) where
  | sendPlayerSpellIfVisible (command : π)
  | creatureAttackStart (command : π)
  | creatureAttackStop (command : π)
  | reconcilePvpCombatExpiry (command : π)
  | applyCreatureMeleeDamage (command : π)
  | applyPlayerMeleeResult (command : π)
  | sendIfVisible (command : π)
  | destroyVisibleObject (command : π)
  | sendCreatureSpellCastIfVisible (command : π)
  | sendRealmIfVisible (command : π)
  | sendRealmIfVisibleFromLegacySource (command : π)
  | refreshDeferredPlayerVisibility (intent : PlayerVisibilityRefreshIntent)
  | other (command : π)
deriving DecidableEq

variable {π : Type*}

namespace SessionCommand

def isVisibilityGated : SessionCommand π → Bool
  | sendIfVisible _ => true
  | sendCreatureSpellCastIfVisible _ => true
  | sendPlayerSpellIfVisible _ => true
  | sendRealmIfVisible _ => true
  | sendRealmIfVisibleFromLegacySource _ => true
  | _ => false

def isDirectedObjectDestroy : SessionCommand π → Bool
  | destroyVisibleObject _ => true
  | _ => false

def isRefresh : SessionCommand π → Bool
  | refreshDeferredPlayerVisibility _ => true
  | _ => false

end SessionCommand

def maxDurableCreatureRuntimeCommands : ℕ := 4096

structure DurableCreatureRuntimeCommands (π : Type*) where
  commands : List (SessionCommand π)
  overflowed : Bool
  deferredVisibility : Option PlayerVisibilityRefreshIntent
deriving DecidableEq

namespace DurableCreatureRuntimeCommands

def default : DurableCreatureRuntimeCommands π := ⟨[], false, none⟩

@[simp] theorem default_commands : (default : DurableCreatureRuntimeCommands π).commands = [] := rfl

@[simp] theorem default_overflowed :
    (default : DurableCreatureRuntimeCommands π).overflowed = false := rfl

/-! ## Publishing -/

/-- The answer, and the rail afterwards. -/
def publish (command : SessionCommand π) (rail : DurableCreatureRuntimeCommands π) :
    Bool × DurableCreatureRuntimeCommands π :=
  if rail.commands.length ≥ maxDurableCreatureRuntimeCommands then
    (false, { rail with overflowed := true })
  else (true, { rail with commands := rail.commands ++ [command] })

def publishPlayerSpellIfVisible (command : π) :=
  publish (.sendPlayerSpellIfVisible command)

def publishAttackStart (command : π) := publish (.creatureAttackStart command)

def publishAttackStop (command : π) := publish (.creatureAttackStop command)

def publishPvpCombatExpiry (command : π) := publish (.reconcilePvpCombatExpiry command)

def publishMeleeDamage (command : π) := publish (.applyCreatureMeleeDamage command)

def publishPlayerMeleeResult (command : π) := publish (.applyPlayerMeleeResult command)

def publishSendIfVisible (command : π) := publish (.sendIfVisible command)

def publishDestroyVisibleObject (command : π) := publish (.destroyVisibleObject command)

def publishCreatureSpellCastIfVisible (command : π) :=
  publish (.sendCreatureSpellCastIfVisible command)

/-! ## The pending refresh -/

/-- A pending intent of the same player stays if it belongs to a later residence. -/
def retainDeferredVisibility (intent : PlayerVisibilityRefreshIntent)
    (rail : DurableCreatureRuntimeCommands π) : DurableCreatureRuntimeCommands π :=
  match rail.deferredVisibility with
  | some pending =>
    if pending.handle = intent.handle ∧ pending.residenceRevision > intent.residenceRevision then
      rail
    else { rail with deferredVisibility := some intent }
  | none => { rail with deferredVisibility := some intent }

/-! ## Draining -/

def firstVisible (commands : List (SessionCommand π)) : ℕ :=
  commands.findIdx SessionCommand.isVisibilityGated

/-- The position after the last directed destroy, or 0. -/
def afterDirectedDestroy (commands : List (SessionCommand π)) : ℕ :=
  commands.length - commands.reverse.findIdx SessionCommand.isDirectedObjectDestroy

def drain (rail : DurableCreatureRuntimeCommands π) :
    List (SessionCommand π) × DurableCreatureRuntimeCommands π :=
  let commands := rail.commands
  let drained := { rail with commands := [], deferredVisibility := none }
  match rail.deferredVisibility with
  | some intent =>
    (commands.insertIdx (max (firstVisible commands) (afterDirectedDestroy commands))
      (.refreshDeferredPlayerVisibility intent), drained)
  | none => (commands, drained)

def takeOverflowedAndDiscard (rail : DurableCreatureRuntimeCommands π) :
    Bool × DurableCreatureRuntimeCommands π :=
  if rail.overflowed then
    (true, { rail with overflowed := false, commands := [], deferredVisibility := none })
  else (false, { rail with overflowed := false })

end DurableCreatureRuntimeCommands

/-! ## The pump -/

open DurableCreatureRuntimeCommands

/-- The commands of both rails, where `received` is what the general rail holds. -/
def drainSessionCommands (received : List (SessionCommand π))
    (rail : DurableCreatureRuntimeCommands π) :
    List (SessionCommand π) × DurableCreatureRuntimeCommands π :=
  let (durableCommands, rail) := rail.drain
  let (commands, deferredDurableSuffix) := durableCommands.splitAt (firstVisible durableCommands)
  (commands ++ received ++ deferredDurableSuffix, rail)

/-- One pass of the pump: the session is kicked on an overflow, and is given the commands of
both rails otherwise. `meanwhile` is what other tasks do between the two locks of the rail. -/
def processSessionCommands (meanwhile : DurableCreatureRuntimeCommands π →
      DurableCreatureRuntimeCommands π)
    (received : List (SessionCommand π)) (rail : DurableCreatureRuntimeCommands π) :
    Option (List (SessionCommand π)) × DurableCreatureRuntimeCommands π :=
  match rail.takeOverflowedAndDiscard with
  | (true, rail) => (none, rail)
  | (false, rail) =>
    let (commands, rail) := drainSessionCommands received (meanwhile rail)
    (some commands, rail)

end RustyCore.Session
