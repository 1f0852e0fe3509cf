import Mathlib.Algebra.Group.Nat.Defs
import Mathlib.Algebra.Ring.Int.Defs
import RustyCore.Library.Dict

/-! # Reputation catalogs

The factions and the stores beside them, and what the reputation rules compute from these:
base values, bounds and ranks. Standings are unbounded integers: no rule depends on an
overflow. -/

namespace RustyCore.Player

/-- `as i32`, of a 32-bit word. -/
def asI32 (n : ℕ) : ℤ := (BitVec.ofNat 32 n).toInt

/-! ## Flags and ranks -/

abbrev ReputationFlags := BitVec 16

namespace ReputationFlags

def visible : ReputationFlags := 0x0001
def atWar : ReputationFlags := 0x0002
def hidden : ReputationFlags := 0x0004
def header : ReputationFlags := 0x0008
def peaceful : ReputationFlags := 0x0010
def inactive : ReputationFlags := 0x0020
def showPropagated : ReputationFlags := 0x0040
def headerShowsBar : ReputationFlags := 0x0080
def all : ReputationFlags := 0x07FF

def fromBitsTruncate (bits : BitVec 16) : ReputationFlags := bits &&& all

def contains (flags flag : ReputationFlags) : Bool := flags &&& flag == flag

def intersects (flags flag : ReputationFlags) : Bool := flags &&& flag != 0

/-- `flags &= !flag`, where the complement has the known bits only. -/
def remove (flags flag : ReputationFlags) : ReputationFlags := flags &&& (~~~flag &&& all)

end ReputationFlags

inductive ReputationRank where
  | hated
  | hostile
  | unfriendly
  | neutral
  | friendly
  | honored
  | revered
  | exalted
deriving DecidableEq

namespace ReputationRank

def asU8 : ReputationRank → ℕ
  | hated => 0
  | hostile => 1
  | unfriendly => 2
  | neutral => 3
  | friendly => 4
  | honored => 5
  | revered => 6
  | exalted => 7

def fromU8 : ℕ → Option ReputationRank
  | 0 => some hated
  | 1 => some hostile
  | 2 => some unfriendly
  | 3 => some neutral
  | 4 => some friendly
  | 5 => some honored
  | 6 => some revered
  | 7 => some exalted
  | _ => none

end ReputationRank

def reputationCap : ℤ := 42000

def reputationBottom : ℤ := -42000

def reputationRankThresholds : List ℤ := [-42000, -6000, -3000, 0, 3000, 9000, 21000, 42000]

def reputationRankFromStanding (standing : ℤ) : ReputationRank :=
  let rank :=
    match reputationRankThresholds.findIdx? (standing < ·) with
    | some index => index - 1
    | none => reputationRankThresholds.length - 1
  (ReputationRank.fromU8 rank).getD .exalted

/-- The last threshold that `standing` reaches, among the ranks. -/
def rankFromThresholds (thresholds : List ℤ) (standing : ℤ) : ℕ :=
  min ((thresholds.takeWhile (· ≤ standing)).length - 1) ReputationRank.exalted.asU8

/-! ## The stores -/

structure FactionEntry where
  id : ℕ
  reputationRaceMask : Fin 4 → BitVec 64
  reputationIndex : ℤ
  parentFactionId : ℕ
  friendshipRepId : ℕ
  paragonFactionId : ℕ
  renownCurrencyId : ℤ
  reputationClassMask : Fin 4 → BitVec 16
  reputationFlags : Fin 4 → BitVec 16
  reputationBase : Fin 4 → ℤ
  reputationMax : Fin 4 → ℤ
  parentFactionMod : Fin 2 → Float32
  parentFactionCap : Fin 2 → ℕ

namespace FactionEntry

def canHaveReputation (entry : FactionEntry) : Bool := 0 ≤ entry.reputationIndex

/-- `reputation_index as RepListId` -/
def repListId (entry : FactionEntry) : ℕ := (entry.reputationIndex % 2 ^ 32).toNat

end FactionEntry

abbrev FactionStore := KeyedMap FactionEntry.id

/-- The factions under a parent, in the order of their ids. -/
def FactionStore.factionTeamList (store : FactionStore) (factionId : ℕ) : List ℕ :=
  ((store.values.filter (·.parentFactionId == factionId)).map FactionEntry.id).insertionSort (· ≤ ·)

structure FriendshipRepReactionEntry where
  id : ℕ
  friendshipRepId : ℕ
  reactionThreshold : ℕ

abbrev FriendshipRepReactionStore := KeyedMap FriendshipRepReactionEntry.id

def FriendshipRepReactionStore.reactionThresholds (store : FriendshipRepReactionStore)
    (friendshipRepId : ℕ) : List ℤ :=
  ((store.values.filter (·.friendshipRepId == friendshipRepId)).map
    fun entry => (entry.reactionThreshold : ℤ)).insertionSort (· ≤ ·)

structure ParagonReputationEntry where
  id : ℕ
  factionId : ℤ
  levelThreshold : ℤ
  questId : ℤ

abbrev ParagonReputationStore := KeyedMap ParagonReputationEntry.id

def ParagonReputationStore.getByFactionId (store : ParagonReputationStore) (factionId : ℕ) :
    Option ParagonReputationEntry :=
  store.values.find? fun entry => entry.factionId == asI32 factionId

structure CurrencyTypesEntry where
  id : ℕ
  maxQty : ℕ
  dynamicMaximum : Bool

abbrev CurrencyTypesStore := KeyedMap CurrencyTypesEntry.id

/-- `has_max_quantity(false, false)` -/
def CurrencyTypesEntry.hasMaxQuantity (entry : CurrencyTypesEntry) : Bool :=
  entry.maxQty != 0 || entry.dynamicMaximum

structure RepSpilloverTemplate where
  faction : Fin 5 → ℕ
  factionRate : Fin 5 → Float32
  factionRank : Fin 5 → ℕ

/-- The stores that the rules read; all but the factions may be missing. -/
structure ReputationCatalogs where
  factionStore : FactionStore
  friendshipRepReactionStore : Option FriendshipRepReactionStore
  paragonReputationStore : Option ParagonReputationStore
  currencyTypesStore : Option CurrencyTypesStore

def ReputationCatalogs.paragonReputation (catalogs : ReputationCatalogs) (factionId : ℕ) :
    Option ParagonReputationEntry :=
  catalogs.paragonReputationStore.bind fun store => store.getByFactionId factionId

/-! ## Race and class -/

structure RaceAndClass where
  playerRace : ℕ
  playerClass : ℕ
deriving DecidableEq

def playerClassMask (classId : ℕ) : Option (BitVec 32) :=
  if 1 ≤ classId ∧ classId ≤ 13 then some (1 <<< (classId - 1)) else none

def playerRaceMask (raceId : ℕ) : Option (BitVec 64) :=
  if 1 ≤ raceId ∧ raceId ≤ 11 then some (1 <<< (raceId - 1))
  else if raceId = 22 then some (1 <<< 21)
  else if 24 ≤ raceId ∧ raceId ≤ 32 then some (1 <<< (raceId - 1))
  else if raceId = 34 then some (1 <<< 11)
  else if raceId = 35 then some (1 <<< 12)
  else if raceId = 36 then some (1 <<< 13)
  else if raceId = 37 then some (1 <<< 14)
  else if raceId = 52 then some (1 <<< 16)
  else if raceId = 70 then some (1 <<< 15)
  else none

def raceMaskHasRace (mask : BitVec 64) (raceId : ℕ) : Bool :=
  (playerRaceMask raceId).any fun raceMask => mask &&& raceMask != 0

/-- The first slot of the entry that is meant for the race and the class. -/
def factionDataIndex (entry : FactionEntry) (player : RaceAndClass) : Option (Fin 4) :=
  (playerClassMask player.playerClass).bind fun classMask =>
    (List.finRange 4).find? fun index =>
      let raceMask := entry.reputationRaceMask index
      let classSlotMask : BitVec 32 :=
        if (entry.reputationClassMask index).msb then 0
        else (entry.reputationClassMask index).setWidth 32
      let raceMatches := raceMaskHasRace raceMask player.playerRace ||
        (raceMask == 0 && classSlotMask != 0)
      let classMatches := classSlotMask &&& classMask != 0 || classSlotMask == 0
      raceMatches && classMatches

/-! ## Base values, bounds and ranks -/

def baseReputation (entry : FactionEntry) (player : RaceAndClass) : ℤ :=
  ((factionDataIndex entry player).map entry.reputationBase).getD 0

def reputationToRank (catalogs : ReputationCatalogs) (entry : FactionEntry) (standing : ℤ) :
    ReputationRank :=
  if entry.friendshipRepId = 0 then reputationRankFromStanding standing
  else
    match catalogs.friendshipRepReactionStore with
    | none => reputationRankFromStanding standing
    | some store =>
      (ReputationRank.fromU8
        (rankFromThresholds (store.reactionThresholds entry.friendshipRepId) standing)).getD
        (reputationRankFromStanding standing)

def ReputationCatalogs.withoutFriendships (catalogs : ReputationCatalogs) : ReputationCatalogs :=
  { catalogs with friendshipRepReactionStore := none }

def baseRank (catalogs : ReputationCatalogs) (entry : FactionEntry) (player : RaceAndClass) :
    ReputationRank :=
  reputationToRank catalogs.withoutFriendships entry (baseReputation entry player)

def defaultStateFlags (catalogs : ReputationCatalogs) (entry : FactionEntry)
    (player : RaceAndClass) : ReputationFlags :=
  let flags : ReputationFlags :=
    ((factionDataIndex entry player).map fun index =>
      ReputationFlags.fromBitsTruncate (entry.reputationFlags index)).getD 0
  if (catalogs.paragonReputation entry.id).isSome then flags ||| ReputationFlags.showPropagated
  else flags

def friendshipThresholds (catalogs : ReputationCatalogs) (entry : FactionEntry) : List ℤ :=
  if entry.friendshipRepId = 0 then []
  else
    match catalogs.friendshipRepReactionStore with
    | none => []
    | some store => store.reactionThresholds entry.friendshipRepId

def minReputation (catalogs : ReputationCatalogs) (entry : FactionEntry) : ℤ :=
  (friendshipThresholds catalogs entry).head?.getD reputationBottom

def renownLevelThreshold (entry : FactionEntry) (player : RaceAndClass) : ℤ :=
  if entry.renownCurrencyId ≤ 0 then 0
  else ((factionDataIndex entry player).map entry.reputationMax).getD 0

def renownCurrency (catalogs : ReputationCatalogs) (entry : FactionEntry) :
    Option CurrencyTypesEntry :=
  catalogs.currencyTypesStore.bind fun store => store.get entry.renownCurrencyId.toNat

def renownMaxLevel (catalogs : ReputationCatalogs) (entry : FactionEntry)
    (increasedCapQuantity : ℕ) : ℤ :=
  if entry.renownCurrencyId ≤ 0 then 0
  else
    (((renownCurrency catalogs entry).filter CurrencyTypesEntry.hasMaxQuantity).map
      fun currency => asI32 (min (currency.maxQty + increasedCapQuantity) (2 ^ 32 - 1))).getD 0

def maxReputation (catalogs : ReputationCatalogs) (entry : FactionEntry) (currentReputation : ℤ)
    (paragonRewardQuestStatusNone : Bool) (increasedCapQuantity : ℕ) (player : RaceAndClass) : ℤ :=
  match (catalogs.paragonReputation entry.id).filter fun paragon => 0 < paragon.levelThreshold with
  | some paragon =>
    let threshold := paragon.levelThreshold
    let cap := currentReputation + threshold - currentReputation.tmod threshold - 1
    if paragonRewardQuestStatusNone then cap + threshold else cap
  | none =>
    if 0 < entry.renownCurrencyId then
      renownMaxLevel catalogs entry increasedCapQuantity * renownLevelThreshold entry player
    else
      match (friendshipThresholds catalogs entry).getLast? with
      | some max => max
      | none => ((factionDataIndex entry player).map entry.reputationMax).getD reputationCap

end RustyCore.Player
