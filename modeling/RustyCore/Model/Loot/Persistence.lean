import Mathlib.Data.Finset.Insert
import Mathlib.Data.Finset.Erase
import Mathlib.Data.Finset.Lattice.Basic

/-! # Durable loot-money persistence

The tracker of one character's detached money transactions: the registrations in flight,
the committed completions that are not applied yet, and the fences that keep new
transactions out while the character is saved. Every method is one critical section.
Counters are unbounded, as each registration and fence keeps a reference to the tracker. -/

namespace RustyCore.Loot

/-- `applied` names the flag that all copies of the completion share. -/
structure MoneyCompletion where
  durableMoneyBefore : ℕ
  durableMoneyAfter : ℕ
  durableAppliedAmount : ℕ
  applied : ℕ
deriving DecidableEq

structure PersistenceTracker where
  inFlight : ℕ
  completions : List MoneyCompletion
  indeterminate : Bool
  admissionClosed : Bool
  permanentlyClosed : Bool
  activeSaveFences : ℕ
deriving DecidableEq

namespace PersistenceTracker

def default : PersistenceTracker := ⟨0, [], false, false, false, 0⟩

/-- `none` when admission is closed. -/
def begin (tracker : PersistenceTracker) : Option PersistenceTracker :=
  if tracker.admissionClosed then none
  else some { tracker with inFlight := tracker.inFlight + 1 }

def closeAdmissionForSave (tracker : PersistenceTracker) : PersistenceTracker :=
  { tracker with activeSaveFences := tracker.activeSaveFences + 1, admissionClosed := true }

def closeAdmissionPermanently (tracker : PersistenceTracker) : PersistenceTracker :=
  { tracker with admissionClosed := true, permanentlyClosed := true }

def markIndeterminate (tracker : PersistenceTracker) : PersistenceTracker :=
  { tracker with indeterminate := true, admissionClosed := true, permanentlyClosed := true }

def finish (tracker : PersistenceTracker) (completion : Option MoneyCompletion)
    (indeterminate : Bool) : PersistenceTracker where
  inFlight := tracker.inFlight - 1
  completions := tracker.completions ++ completion.toList
  indeterminate := tracker.indeterminate || indeterminate
  admissionClosed := tracker.admissionClosed || indeterminate
  permanentlyClosed := tracker.permanentlyClosed || indeterminate
  activeSaveFences := tracker.activeSaveFences

def dropSaveFence (tracker : PersistenceTracker) : PersistenceTracker :=
  let activeSaveFences := tracker.activeSaveFences - 1
  { tracker with
    activeSaveFences
    admissionClosed :=
      if activeSaveFences = 0 ∧ tracker.permanentlyClosed = false then false
      else tracker.admissionClosed }

/-- Keep the completions whose flag is not set yet. The flags are not under the lock: those of
`meanwhile` are set before the load they stand beside. -/
def retainUnapplied : List (List ℕ) → List MoneyCompletion → Finset ℕ →
    List MoneyCompletion × Finset ℕ
  | _, [], applied => ([], applied)
  | meanwhile, completion :: rest, applied =>
    let applied := applied ∪ (meanwhile.headD []).toFinset
    let retained := retainUnapplied meanwhile.tail rest applied
    (if completion.applied ∈ applied then retained.1 else completion :: retained.1, retained.2)

end PersistenceTracker

/-! ## Registrations and fences -/

/-- The tracker with the handles its callers hold: registrations, by their `resolved` field,
and fences. `committed` is the history of the completions that were committed. -/
structure PersistenceRail where
  tracker : PersistenceTracker
  unresolved : Finset ℕ
  resolved : Finset ℕ
  fences : Finset ℕ
  applied : Finset ℕ
  nextHandle : ℕ
  committed : List MoneyCompletion
deriving DecidableEq

inductive PersistenceCall where
  | begin
  | commit (handle : ℕ) (completion : MoneyCompletion)
  | markGuardIndeterminate (handle : ℕ)
  | dropGuard (handle : ℕ)
  | closeAdmissionForSave
  | dropFence (handle : ℕ)
  | closeAdmissionPermanently
  | markIndeterminate
  | setApplied (flag : ℕ)
  | pendingCompletions (meanwhile : List (List ℕ))
deriving DecidableEq

namespace PersistenceRail

def start : PersistenceRail := ⟨.default, ∅, ∅, ∅, ∅, 0, []⟩

/-- `resolved` is set before the tracker is told. -/
def finishGuard (rail : PersistenceRail) (handle : ℕ) (completion : Option MoneyCompletion)
    (indeterminate : Bool) : PersistenceRail :=
  if handle ∈ rail.unresolved then
    { rail with
      tracker := rail.tracker.finish completion indeterminate
      unresolved := rail.unresolved.erase handle
      resolved := insert handle rail.resolved
      committed := rail.committed ++ completion.toList }
  else rail

/-- The completions that a call returns, and the flags at its end. -/
def pendingCompletions (rail : PersistenceRail) (meanwhile : List (List ℕ)) :
    List MoneyCompletion × Finset ℕ :=
  PersistenceTracker.retainUnapplied meanwhile rail.tracker.completions rail.applied

end PersistenceRail

def persistenceStep (rail : PersistenceRail) : PersistenceCall → PersistenceRail
  | .begin =>
    match rail.tracker.begin with
    | none => rail
    | some tracker =>
      { rail with
        tracker
        unresolved := insert rail.nextHandle rail.unresolved
        nextHandle := rail.nextHandle + 1 }
  | .commit handle completion => rail.finishGuard handle (some completion) false
  | .markGuardIndeterminate handle => rail.finishGuard handle none true
  | .dropGuard handle =>
    let rail := rail.finishGuard handle none false
    { rail with resolved := rail.resolved.erase handle }
  | .closeAdmissionForSave =>
    { rail with
      tracker := rail.tracker.closeAdmissionForSave
      fences := insert rail.nextHandle rail.fences
      nextHandle := rail.nextHandle + 1 }
  | .dropFence handle =>
    if handle ∈ rail.fences then
      { rail with
        tracker := rail.tracker.dropSaveFence
        fences := rail.fences.erase handle }
    else rail
  | .closeAdmissionPermanently =>
    { rail with tracker := rail.tracker.closeAdmissionPermanently }
  | .markIndeterminate => { rail with tracker := rail.tracker.markIndeterminate }
  | .setApplied flag => { rail with applied := insert flag rail.applied }
  | .pendingCompletions meanwhile =>
    let pending := rail.pendingCompletions meanwhile
    { rail with
      tracker := { rail.tracker with completions := pending.1 }
      applied := pending.2 }

end RustyCore.Loot
