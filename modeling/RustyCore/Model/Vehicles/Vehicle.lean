import RustyCore.Library.Dict
import RustyCore.Library.FixedWidth
import RustyCore.Model.ObjectGuid

/-! # Vehicles

The seats of a vehicle, the passengers in them, the joins that are scheduled but not yet
executed, and the counter of seats that can still be entered. -/

namespace RustyCore.Vehicles

inductive TypeId where
  | object | item | container | azeriteEmpoweredItem | azeriteItem | unit | player
  | activePlayer | gameObject | dynamicObject | corpse | areaTrigger | sceneObject
  | conversation | max
deriving DecidableEq

/-- Coordinates are only copied here, whatever type `φ` they have. -/
structure Position (φ : Type*) where
  x : φ
  y : φ
  z : φ
  orientation : φ
deriving DecidableEq

structure PassengerInfo where
  guid : ObjectGuid
  isUninteractible : Bool
  isGravityDisabled : Bool
deriving DecidableEq

namespace PassengerInfo

def empty : PassengerInfo := ⟨.empty, false, false⟩

def isEmpty (passenger : PassengerInfo) : Bool := passenger.guid.isEmpty

end PassengerInfo

/-! ## Seats -/

def maxVehicleSeats : ℕ := 8

structure VehicleSeatAddon (φ : Type*) where
  seatOrientationOffset : φ
deriving DecidableEq

structure VehicleSeatInfo (φ : Type*) where
  attachmentOffset : Position φ
  canEnterOrExit : Bool
  usableByOverride : Bool
  canControl : Bool
  disablesGravity : Bool
  passengerNotSelectable : Bool
  keepPet : Bool
deriving DecidableEq

structure VehicleSeat (φ : Type*) where
  seatInfo : VehicleSeatInfo φ
  seatAddon : VehicleSeatAddon φ
  passenger : PassengerInfo
deriving DecidableEq

variable {φ : Type*}

namespace VehicleSeat

def new (seatInfo : VehicleSeatInfo φ) (seatAddon : VehicleSeatAddon φ) : VehicleSeat φ :=
  ⟨seatInfo, seatAddon, .empty⟩

def isEmpty (seat : VehicleSeat φ) : Bool := seat.passenger.isEmpty

/-- `seat.passenger.reset()`. -/
def reset (seat : VehicleSeat φ) : VehicleSeat φ := { seat with passenger := .empty }

/-- The guid of the passenger, if there is one. -/
def occupant (seat : VehicleSeat φ) : Option ObjectGuid :=
  if seat.passenger.guid.isEmpty then none else some seat.passenger.guid

end VehicleSeat

structure VehicleAccessory where
  accessoryEntry : ℕ
  isMinion : Bool
  summonTimeMs : ℕ
  seatId : ℤ
  summonedType : ℕ
deriving DecidableEq

/-! ## Immunities -/

inductive VehicleSpellImmunityKind where
  | effect
  | state
  | mechanic
deriving DecidableEq

structure VehicleSpellImmunity where
  kind : VehicleSpellImmunityKind
  spellOrMechanic : ℤ
  apply : Bool
deriving DecidableEq

structure VehicleImmunityPlan where
  immunities : List VehicleSpellImmunity
  root : Bool
deriving DecidableEq

def spellEffectHeal : ℤ := 10

def spellEffectDispel : ℤ := 38

def spellEffectKnockBack : ℤ := 98

def spellEffectHealPct : ℤ := 136

def spellEffectKnockBackDest : ℤ := 144

def spellAuraPeriodicHeal : ℤ := 8

def spellAuraDamageShield : ℤ := 15

def spellAuraModResistance : ℤ := 22

def spellAuraModStat : ℤ := 29

def spellAuraModDecreaseSpeed : ℤ := 33

def spellAuraSchoolImmunity : ℤ := 39

def spellAuraSchoolAbsorb : ℤ := 69

def spellAuraSplitDamagePct : ℤ := 81

def spellAuraModDamagePercentTaken : ℤ := 87

def spellAuraModUnattackable : ℤ := 93

def mechanicBanish : ℤ := 18

def mechanicShield : ℤ := 19

def mechanicImmuneShield : ℤ := 29

def vehicleImmunityPlan (vehicleId : ℕ) (isMechanicalCreature isWorldBoss : Bool) :
    VehicleImmunityPlan :=
  let immunities : List VehicleSpellImmunity :=
    [⟨.effect, spellEffectKnockBack, true⟩, ⟨.effect, spellEffectKnockBackDest, true⟩]
  let immunities :=
    if isMechanicalCreature && !isWorldBoss then
      immunities ++
        [⟨.effect, spellEffectHeal, true⟩, ⟨.effect, spellEffectHealPct, true⟩,
          ⟨.effect, spellEffectDispel, true⟩, ⟨.state, spellAuraPeriodicHeal, true⟩,
          ⟨.state, spellAuraSchoolImmunity, true⟩, ⟨.state, spellAuraModUnattackable, true⟩,
          ⟨.state, spellAuraSchoolAbsorb, true⟩, ⟨.mechanic, mechanicBanish, true⟩,
          ⟨.mechanic, mechanicShield, true⟩, ⟨.mechanic, mechanicImmuneShield, true⟩,
          ⟨.state, spellAuraDamageShield, true⟩, ⟨.state, spellAuraSplitDamagePct, true⟩,
          ⟨.state, spellAuraModResistance, true⟩, ⟨.state, spellAuraModStat, true⟩,
          ⟨.state, spellAuraModDamagePercentTaken, true⟩]
    else immunities
  if vehicleId ∈ [160, 244, 510, 452, 543] then
    ⟨immunities ++ [⟨.state, spellAuraModDecreaseSpeed, true⟩], true⟩
  else if vehicleId ∈ [335, 336, 338] then
    ⟨immunities ++ [⟨.state, spellAuraModDamagePercentTaken, false⟩], false⟩
  else ⟨immunities, false⟩

/-! ## Plans -/

structure VehicleAccessoryInstallPlan where
  removeAllPassengers : Bool
  accessories : List VehicleAccessory
deriving DecidableEq

structure VehiclePendingJoinAbort where
  passenger : ObjectGuid
  seatId : ℤ
  targetVehicleAvailable : Bool
deriving DecidableEq

structure VehiclePendingEventRemovalPlan where
  scheduledAborts : List VehiclePendingJoinAbort
deriving DecidableEq

structure VehicleRemoveAllPassengersPlan where
  pendingJoinAborts : List VehiclePendingJoinAbort
  removeControlVehicleAuras : Bool
  forcedExitPassengers : List ObjectGuid
deriving DecidableEq

structure VehiclePassengerAddPlan where
  accepted : Bool
  seatId : Option ℤ
  scheduledAbort : Bool
  displacedPassenger : Option ObjectGuid
deriving DecidableEq

inductive VehiclePassengerTransportReset where
  | none
  | reset
  | inheritBaseTransport
deriving DecidableEq

structure VehiclePassengerRemovePlan where
  seatId : ℤ
  setVehicleNone : Bool
  restoreGravity : Bool
  restoreInteractible : Bool
  restoreNpcFlag : Bool
  removeCharm : Bool
  transportReset : VehiclePassengerTransportReset
  castParachute : Bool
  callAiPassengerBoarded : Bool
  callOnRemovePassengerScript : Bool
deriving DecidableEq

structure VehicleJoinAbortPlan where
  removePendingEvent : Bool
  removeControlVehicleAura : Bool
  despawnAccessory : Bool
deriving DecidableEq

structure VehicleJoinExecutePlan (φ : Type*) where
  passenger : ObjectGuid
  seatId : ℤ
  abort : Option VehicleJoinAbortPlan
  pendingSeatAborts : VehiclePendingEventRemovalPlan
  pendingPassengerAborts : VehiclePendingEventRemovalPlan
  exitExistingVehicle : Bool
  passengerInfo : Option PassengerInfo
  removeNpcFlag : Bool
  interruptGenericSpell : Bool
  interruptAutorepeatSpell : Bool
  removeMountInterruptAuras : Bool
  removeMountedAuras : Bool
  playerDropBattlegroundFlag : Bool
  playerStopCastingCharm : Bool
  playerStopCastingBindSight : Bool
  playerCancelExpectedVehicleRideAura : Bool
  playerUnsummonTemporaryPet : Bool
  setDisableGravity : Bool
  transportPosition : Option (Position φ)
  setVehicleCharm : Bool
  sendClearTarget : Bool
  setRootControlled : Bool
  launchTransportEnterSpline : Bool
  transferThreatToVehicle : Bool
  callAiPassengerBoarded : Bool
  callOnAddPassengerScript : Bool
  callOnInstallAccessoryScript : Bool
deriving DecidableEq

structure VehicleResetPlan where
  immunityPlan : VehicleImmunityPlan
  accessoryInstallPlan : Option VehicleAccessoryInstallPlan
  callOnResetScript : Bool
deriving DecidableEq

def vehicleAccessoryInstallPlan (baseTypeId : TypeId) (evading : Bool)
    (accessories : List VehicleAccessory) : VehicleAccessoryInstallPlan where
  removeAllPassengers := baseTypeId = .player || !evading
  accessories := accessories.filter fun accessory => !evading || accessory.isMinion

/-! ## The vehicle -/

inductive VehicleStatus where
  | none
  | installed
  | uninstalling
deriving DecidableEq

structure Vehicle (φ : Type*) where
  baseTypeId : TypeId
  vehicleId : ℕ
  usableSeatNum : ℕ
  seats : Dict ℤ (VehicleSeat φ)
  status : VehicleStatus
  pendingJoinEvents : Dict ObjectGuid ℤ

/-- A definition of a seat: its id, its info and its addon. -/
abbrev SeatDef (φ : Type*) := ℤ × VehicleSeatInfo φ × VehicleSeatAddon φ

namespace Vehicle

/-- One round of the loop of `new`, on the seats and the counter. -/
def newSeat (acc : Dict ℤ (VehicleSeat φ) × ℕ) (seatDef : SeatDef φ) :
    Dict ℤ (VehicleSeat φ) × ℕ :=
  (acc.1.insert seatDef.1 (.new seatDef.2.1 seatDef.2.2),
    if seatDef.2.1.canEnterOrExit then acc.2 + 1 else acc.2)

def new (baseTypeId : TypeId) (vehicleId : ℕ) (seatDefs : List (SeatDef φ)) : Vehicle φ :=
  let (seats, usableSeatNum) := (seatDefs.take maxVehicleSeats).foldl newSeat (∅, 0)
  ⟨baseTypeId, vehicleId, usableSeatNum, seats, .none, ∅⟩

def install (vehicle : Vehicle φ) : Vehicle φ := { vehicle with status := .installed }

/-! ### Pending joins -/

def addPendingEvent (passenger : ObjectGuid) (seatId : ℤ) (vehicle : Vehicle φ) : Vehicle φ :=
  { vehicle with pendingJoinEvents := vehicle.pendingJoinEvents.insert passenger seatId }

def removePendingEventsForPassengerPlan (passenger : ObjectGuid) (vehicle : Vehicle φ) :
    VehiclePendingEventRemovalPlan × Vehicle φ :=
  match vehicle.pendingJoinEvents.lookup passenger with
  | none => (⟨[]⟩, vehicle)
  | some seatId =>
    (⟨[⟨passenger, seatId, true⟩]⟩,
      { vehicle with pendingJoinEvents := vehicle.pendingJoinEvents.erase passenger })

def removePendingEventsForSeatPlan (seatId : ℤ) (vehicle : Vehicle φ) :
    VehiclePendingEventRemovalPlan × Vehicle φ :=
  (⟨(vehicle.pendingJoinEvents.ascending.filter fun event => event.2 = seatId).map
      fun event => ⟨event.1, event.2, true⟩⟩,
    { vehicle with pendingJoinEvents :=
        vehicle.pendingJoinEvents.retain fun _ pendingSeat => pendingSeat ≠ seatId })

def hasPendingEventForSeat (seatId : ℤ) (vehicle : Vehicle φ) : Bool :=
  vehicle.pendingJoinEvents.values.any fun pendingSeat => pendingSeat = seatId

/-! ### Leaving -/

def removeAllPassengersPlan (vehicle : Vehicle φ) :
    VehicleRemoveAllPassengersPlan × Vehicle φ :=
  let targetVehicleAvailable : Bool := vehicle.status ≠ .uninstalling
  (⟨vehicle.pendingJoinEvents.ascending.map fun event =>
        ⟨event.1, event.2, targetVehicleAvailable⟩,
      true,
      vehicle.seats.ascending.filterMap fun seat => seat.2.occupant⟩,
    { vehicle with
      pendingJoinEvents := ∅
      seats := vehicle.seats.mapValues fun _ seat => seat.reset })

def removeAllPassengers (vehicle : Vehicle φ) : Vehicle φ := vehicle.removeAllPassengersPlan.2

def uninstall (vehicle : Vehicle φ) : Vehicle φ :=
  removeAllPassengers { vehicle with status := .uninstalling }

/-- The first seat, by ascending id, whose passenger has this guid. -/
def seatOf (passenger : ObjectGuid) (vehicle : Vehicle φ) : Option (ℤ × VehicleSeat φ) :=
  (vehicle.seats.ascending.find? fun seat => seat.2.passenger.guid = passenger).map
    fun seat => (seat.1, seat.2)

def removePassengerPlan (passenger : ObjectGuid) (passengerTypeId : TypeId)
    (baseIsInWorld baseHasTransport passengerIsFlying baseAiEnabled : Bool)
    (vehicle : Vehicle φ) : Option VehiclePassengerRemovePlan × Vehicle φ :=
  match vehicle.seatOf passenger with
  | none => (none, vehicle)
  | some (seatId, seat) =>
    let (restoreNpcFlag, usableSeatNum) : Bool × ℕ :=
      if seat.seatInfo.canEnterOrExit then
        let usableSeatNum := saturatingAdd 32 vehicle.usableSeatNum 1
        (usableSeatNum ≠ 0, usableSeatNum)
      else (false, vehicle.usableSeatNum)
    (some
      { seatId := seatId
        setVehicleNone := true
        restoreGravity := seat.seatInfo.disablesGravity && !seat.passenger.isGravityDisabled
        restoreInteractible :=
          seat.seatInfo.passengerNotSelectable && !seat.passenger.isUninteractible
        restoreNpcFlag := restoreNpcFlag
        removeCharm := vehicle.baseTypeId = .unit && passengerTypeId = .player &&
          seat.seatInfo.canControl
        transportReset :=
          if baseIsInWorld then
            if baseHasTransport then .inheritBaseTransport else .reset
          else .none
        castParachute := passengerIsFlying
        callAiPassengerBoarded := vehicle.baseTypeId = .unit && baseAiEnabled
        callOnRemovePassengerScript := vehicle.baseTypeId = .unit },
      { vehicle with
        usableSeatNum := usableSeatNum
        seats := vehicle.seats.insert seatId seat.reset })

/-! ### Accessories -/

def installAllAccessoriesPlan (evading : Bool) (accessories : List VehicleAccessory)
    (vehicle : Vehicle φ) : VehicleAccessoryInstallPlan × Vehicle φ :=
  let plan := vehicleAccessoryInstallPlan vehicle.baseTypeId evading accessories
  (plan, if plan.removeAllPassengers then vehicle.removeAllPassengers else vehicle)

def resetPlan (evading baseIsAlive isMechanicalCreature isWorldBoss : Bool)
    (accessories : List VehicleAccessory) (vehicle : Vehicle φ) :
    Option VehicleResetPlan × Vehicle φ :=
  if vehicle.baseTypeId ≠ .unit then (none, vehicle)
  else
    let immunityPlan := vehicleImmunityPlan vehicle.vehicleId isMechanicalCreature isWorldBoss
    if baseIsAlive then
      let (accessoryInstallPlan, vehicle) :=
        vehicle.installAllAccessoriesPlan evading accessories
      (some ⟨immunityPlan, some accessoryInstallPlan, true⟩, vehicle)
    else (some ⟨immunityPlan, none, true⟩, vehicle)

/-! ### Joining -/

def addVehiclePassenger (passenger : ObjectGuid) (seatId : ℤ) (vehicle : Vehicle φ) :
    Bool × Vehicle φ :=
  if vehicle.hasPendingEventForSeat seatId then (false, vehicle)
  else
    match vehicle.seats.lookup seatId with
    | none => (false, vehicle)
    | some seat =>
      if !seat.isEmpty then (false, vehicle)
      else
        let seat := { seat with passenger := { seat.passenger with guid := passenger } }
        (true, { vehicle with seats := vehicle.seats.insert seatId seat })

/-- The seat that a join asks for: the one named, or the first free one for a negative id. -/
def selectSeat (seatId : ℤ) (vehicle : Vehicle φ) : Option ℤ :=
  if seatId < 0 then
    (vehicle.seats.ascending.find? fun seat =>
      seat.2.isEmpty && !vehicle.hasPendingEventForSeat seat.1 &&
        (seat.2.seatInfo.canEnterOrExit || seat.2.seatInfo.usableByOverride)).map fun seat => seat.1
  else if (vehicle.seats.lookup seatId).isSome then some seatId
  else none

/-- The passenger that a join with a seat id puts out of the seat. -/
def displace (seatId : ℤ) (vehicle : Vehicle φ) : Option ObjectGuid × Vehicle φ :=
  match vehicle.seats.lookup seatId with
  | none => (none, vehicle)
  | some seat =>
    match seat.occupant with
    | none => (none, vehicle)
    | some passenger =>
      (some passenger, { vehicle with seats := vehicle.seats.insert seatId seat.reset })

def addVehiclePassengerPlan (passenger : ObjectGuid) (seatId : ℤ) (vehicle : Vehicle φ) :
    VehiclePassengerAddPlan × Vehicle φ :=
  if vehicle.status = .uninstalling then (⟨false, none, false, none⟩, vehicle)
  else
    match vehicle.selectSeat seatId with
    | none => (⟨false, none, true, none⟩, vehicle)
    | some selectedSeatId =>
      let (displacedPassenger, vehicle) :=
        if seatId ≥ 0 then vehicle.displace selectedSeatId else (none, vehicle)
      (⟨true, some selectedSeatId, false, displacedPassenger⟩,
        vehicle.addPendingEvent passenger selectedSeatId)

/-- What `vehicle_join_execute_plan` is told about the passenger and the base. -/
structure JoinFacts where
  passengerIsAlive : Bool
  passengerHadVehicle : Bool
  passengerTypeId : TypeId
  passengerIsUninteractible : Bool
  passengerIsGravityDisabled : Bool
  passengerInBattleground : Bool
  passengerIsAccessory : Bool
  baseAiEnabled : Bool
deriving DecidableEq

/-- The plan for a dead passenger. -/
def joinAborted (passenger : ObjectGuid) (seatId : ℤ) (facts : JoinFacts)
    (pendingSeatAborts pendingPassengerAborts : VehiclePendingEventRemovalPlan) :
    VehicleJoinExecutePlan φ where
  passenger := passenger
  seatId := seatId
  abort := some ⟨true, true, facts.passengerIsAccessory⟩
  pendingSeatAborts := pendingSeatAborts
  pendingPassengerAborts := pendingPassengerAborts
  exitExistingVehicle := false
  passengerInfo := none
  removeNpcFlag := false
  interruptGenericSpell := false
  interruptAutorepeatSpell := false
  removeMountInterruptAuras := false
  removeMountedAuras := false
  playerDropBattlegroundFlag := false
  playerStopCastingCharm := false
  playerStopCastingBindSight := false
  playerCancelExpectedVehicleRideAura := false
  playerUnsummonTemporaryPet := false
  setDisableGravity := false
  transportPosition := none
  setVehicleCharm := false
  sendClearTarget := false
  setRootControlled := false
  launchTransportEnterSpline := false
  transferThreatToVehicle := false
  callAiPassengerBoarded := false
  callOnAddPassengerScript := false
  callOnInstallAccessoryScript := false

/-- The seat is taken over whether or not somebody sits in it. The subtraction stops at 0, as
it does in a build without debug assertions. -/
def vehicleJoinExecutePlan (passenger : ObjectGuid) (seatId : ℤ) (facts : JoinFacts)
    (vehicle : Vehicle φ) : Option (VehicleJoinExecutePlan φ) × Vehicle φ :=
  match vehicle.seats.lookup seatId with
  | none => (none, vehicle)
  | some seat =>
    let (pendingSeatAborts, vehicle) := vehicle.removePendingEventsForSeatPlan seatId
    let (pendingPassengerAborts, vehicle) :=
      vehicle.removePendingEventsForPassengerPlan passenger
    if !facts.passengerIsAlive then
      (some (joinAborted passenger seatId facts pendingSeatAborts pendingPassengerAborts), vehicle)
    else
      let passengerInfo : PassengerInfo :=
        ⟨passenger, facts.passengerIsUninteractible, facts.passengerIsGravityDisabled⟩
      let (removeNpcFlag, usableSeatNum) : Bool × ℕ :=
        if seat.seatInfo.canEnterOrExit then
          (vehicle.usableSeatNum - 1 = 0, vehicle.usableSeatNum - 1)
        else (false, vehicle.usableSeatNum)
      let passengerIsPlayer : Bool := facts.passengerTypeId = .player
      let baseIsUnit : Bool := vehicle.baseTypeId = .unit
      (some
        { passenger := passenger
          seatId := seatId
          abort := none
          pendingSeatAborts := pendingSeatAborts
          pendingPassengerAborts := pendingPassengerAborts
          exitExistingVehicle := facts.passengerHadVehicle
          passengerInfo := some passengerInfo
          removeNpcFlag := removeNpcFlag
          interruptGenericSpell := true
          interruptAutorepeatSpell := true
          removeMountInterruptAuras := true
          removeMountedAuras := true
          playerDropBattlegroundFlag := passengerIsPlayer && facts.passengerInBattleground
          playerStopCastingCharm := passengerIsPlayer
          playerStopCastingBindSight := passengerIsPlayer
          playerCancelExpectedVehicleRideAura := passengerIsPlayer
          playerUnsummonTemporaryPet := passengerIsPlayer && !seat.seatInfo.keepPet
          setDisableGravity := seat.seatInfo.disablesGravity
          transportPosition := some
            ⟨seat.seatInfo.attachmentOffset.x, seat.seatInfo.attachmentOffset.y,
              seat.seatInfo.attachmentOffset.z, seat.seatAddon.seatOrientationOffset⟩
          setVehicleCharm := baseIsUnit && passengerIsPlayer && seat.seatInfo.canControl
          sendClearTarget := true
          setRootControlled := true
          launchTransportEnterSpline := true
          transferThreatToVehicle := true
          callAiPassengerBoarded := baseIsUnit && facts.baseAiEnabled
          callOnAddPassengerScript := baseIsUnit
          callOnInstallAccessoryScript := baseIsUnit && facts.passengerIsAccessory },
        { vehicle with
          usableSeatNum := usableSeatNum
          seats := vehicle.seats.insert seatId ({ seat with passenger := passengerInfo }) })

end Vehicle

end RustyCore.Vehicles
