import Mathlib.Algebra.Group.Nat.Defs
import RustyCore.Library.Dict

/-! # Spell cooldowns

The cooldowns of a unit: one for each spell, and for each spell category the spell that put it
on cooldown last. The charges, the school lockouts and the global cooldowns of the history are
left out, since no operation on cooldowns reads them. -/

namespace RustyCore.Units

def infinityCooldownDelayMs : ℕ := 30 * 24 * 60 * 60 * 1000

structure SpellCooldown where
  spellId : ℕ
  itemId : ℕ
  cooldownEndMs : ℕ
  categoryId : ℕ
  categoryEndMs : ℕ
  onHold : Bool
deriving DecidableEq

abbrev Cooldowns := KeyedMap SpellCooldown.spellId

structure SpellHistory where
  cooldowns : Cooldowns
  cooldownsBeforeDuel : Cooldowns
  categoryCooldowns : Dict ℕ ℕ

def applyMsDelta (value : ℕ) (delta : ℤ) : ℕ :=
  if delta < 0 then value - delta.natAbs else value + delta.natAbs

namespace SpellHistory

def empty : SpellHistory := ⟨KeyedMap.empty, KeyedMap.empty, ∅⟩

/-! ## Queries -/

def hasCooldown (h : SpellHistory) (spellId categoryId nowMs : ℕ) : Bool :=
  (h.cooldowns.get spellId).any (fun cooldown =>
    cooldown.onHold || nowMs < cooldown.cooldownEndMs) ||
  categoryId != 0 &&
    ((h.categoryCooldowns.lookup categoryId).bind h.cooldowns.get).any fun cooldown =>
      cooldown.onHold || nowMs < cooldown.categoryEndMs

/-! ## Cooldowns -/

/-- A cooldown is replaced by one that ends later in some way, or by one on hold. -/
def shouldReplace (h : SpellHistory) (cooldown : SpellCooldown) : Bool :=
  match h.cooldowns.get cooldown.spellId with
  | none => true
  | some current =>
    current.cooldownEndMs < cooldown.cooldownEndMs ||
      current.categoryEndMs < cooldown.categoryEndMs || cooldown.onHold

def addCooldown (h : SpellHistory) (cooldown : SpellCooldown) : SpellHistory × Bool :=
  if h.shouldReplace cooldown then
    ({ h with
      cooldowns := h.cooldowns.insert cooldown
      categoryCooldowns :=
        if cooldown.categoryId ≠ 0 then
          AList.insert cooldown.categoryId cooldown.spellId h.categoryCooldowns
        else h.categoryCooldowns }, true)
  else (h, false)

/-- The cooldown that a start adds, if it has any delay. -/
def startedCooldown (nowMs spellId itemId cooldownMs categoryId categoryCooldownMs : ℕ)
    (onHold : Bool) : Option SpellCooldown :=
  let spellDelay := if onHold then infinityCooldownDelayMs else cooldownMs
  let categoryDelay := if onHold then infinityCooldownDelayMs else categoryCooldownMs
  let cooldownEndMs :=
    if 0 < cooldownMs then nowMs + spellDelay
    else if 0 < categoryCooldownMs then nowMs + categoryDelay
    else nowMs
  let categoryEndMs := if 0 < categoryCooldownMs then nowMs + categoryDelay else nowMs
  if cooldownEndMs = nowMs ∧ categoryEndMs = nowMs then none
  else some ⟨spellId, itemId, cooldownEndMs, categoryId, categoryEndMs, onHold⟩

def startCooldown (h : SpellHistory) (nowMs spellId itemId cooldownMs categoryId
    categoryCooldownMs : ℕ) (onHold : Bool) : SpellHistory × Bool :=
  match startedCooldown nowMs spellId itemId cooldownMs categoryId categoryCooldownMs onHold with
  | none => (h, false)
  | some cooldown => h.addCooldown cooldown

def clearCooldown (h : SpellHistory) (spellId : ℕ) : SpellHistory × Bool :=
  match h.cooldowns.get spellId with
  | none => (h, false)
  | some cooldown =>
    ({ h with
      cooldowns := h.cooldowns.remove spellId
      categoryCooldowns :=
        if cooldown.categoryId ≠ 0 then AList.erase cooldown.categoryId h.categoryCooldowns
        else h.categoryCooldowns }, true)

/-- A spell stays on cooldown at least as long as its category. -/
def modifiedCooldown (cooldown : SpellCooldown) (cooldownDeltaMs : ℤ)
    (withoutCategoryCooldown : Bool) : SpellCooldown :=
  let cooldownEndMs := applyMsDelta cooldown.cooldownEndMs cooldownDeltaMs
  if cooldown.categoryId ≠ 0 then
    let categoryEndMs :=
      if withoutCategoryCooldown then cooldown.categoryEndMs
      else applyMsDelta cooldown.categoryEndMs cooldownDeltaMs
    { cooldown with
      cooldownEndMs := if cooldownEndMs < categoryEndMs then categoryEndMs else cooldownEndMs
      categoryEndMs := categoryEndMs }
  else { cooldown with cooldownEndMs := cooldownEndMs }

def modifyCooldown (h : SpellHistory) (spellId : ℕ) (cooldownDeltaMs : ℤ)
    (withoutCategoryCooldown : Bool) (nowMs : ℕ) : SpellHistory × Bool :=
  if cooldownDeltaMs = 0 then (h, false)
  else match h.cooldowns.get spellId with
    | none => (h, false)
    | some cooldown =>
      let modified := modifiedCooldown cooldown cooldownDeltaMs withoutCategoryCooldown
      let history := { h with cooldowns := h.cooldowns.insert modified }
      if modified.cooldownEndMs ≤ nowMs ∧ modified.onHold = false then
        ((history.clearCooldown spellId).1, true)
      else (history, true)

/-! ## Duels and time -/

def saveCooldownStateBeforeDuel (h : SpellHistory) : SpellHistory :=
  { h with cooldownsBeforeDuel := h.cooldowns }

/-- The saved cooldowns in the order of `rank`: the map promises none. -/
def restoreOrder (h : SpellHistory) (rank : ℕ → ℕ) : List SpellCooldown :=
  h.cooldownsBeforeDuel.values.insertionSort fun a b => rank a.spellId ≤ rank b.spellId

def indexCooldown (index : Dict ℕ ℕ) (cooldown : SpellCooldown) : Dict ℕ ℕ :=
  if cooldown.categoryId ≠ 0 then AList.insert cooldown.categoryId cooldown.spellId index
  else index

def restoreCooldownStateAfterDuel (h : SpellHistory) (rank : ℕ → ℕ) : SpellHistory :=
  { h with
    cooldowns := h.cooldownsBeforeDuel
    categoryCooldowns := (h.restoreOrder rank).foldl indexCooldown ∅ }

def expired (nowMs : ℕ) (cooldown : SpellCooldown) : Bool :=
  !cooldown.onHold && cooldown.cooldownEndMs < nowMs

/-- The categories whose cooldown has ended are dropped from the index. -/
def dropEndedCategories (h : SpellHistory) (nowMs : ℕ) : SpellHistory :=
  { h with
    categoryCooldowns := h.categoryCooldowns.retain fun _ spellId =>
      (h.cooldowns.get spellId).any fun cooldown =>
        cooldown.onHold || nowMs ≤ cooldown.categoryEndMs }

def update (h : SpellHistory) (nowMs : ℕ) : SpellHistory :=
  ((h.cooldowns.values.filter (expired nowMs)).map (·.spellId)).foldl
    (fun h spellId => (h.clearCooldown spellId).1) (h.dropEndedCategories nowMs)

end SpellHistory

/-! ## Operations -/

inductive CooldownOp where
  | start (nowMs spellId itemId cooldownMs categoryId categoryCooldownMs : ℕ) (onHold : Bool)
  | add (cooldown : SpellCooldown)
  | modify (spellId : ℕ) (cooldownDeltaMs : ℤ) (withoutCategoryCooldown : Bool) (nowMs : ℕ)
  | clear (spellId : ℕ)
  | saveBeforeDuel
  | restoreAfterDuel (rank : ℕ → ℕ)
  | update (nowMs : ℕ)

def CooldownOp.apply (h : SpellHistory) : CooldownOp → SpellHistory
  | start nowMs spellId itemId cooldownMs categoryId categoryCooldownMs onHold =>
    (h.startCooldown nowMs spellId itemId cooldownMs categoryId categoryCooldownMs onHold).1
  | add cooldown => (h.addCooldown cooldown).1
  | modify spellId cooldownDeltaMs withoutCategoryCooldown nowMs =>
    (h.modifyCooldown spellId cooldownDeltaMs withoutCategoryCooldown nowMs).1
  | clear spellId => (h.clearCooldown spellId).1
  | saveBeforeDuel => h.saveCooldownStateBeforeDuel
  | restoreAfterDuel rank => h.restoreCooldownStateAfterDuel rank
  | update nowMs => h.update nowMs

end RustyCore.Units
