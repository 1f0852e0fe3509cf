import Mathlib.Algebra.Group.Nat.Defs
import RustyCore.Library.Dict

/-! # Scripted events

The event map of a script: a queue of events by deadline, and series of delays from which the
next event is queued when one is executed. An event is its id, with a bit for its group and a
bit for its phase above it. -/

namespace RustyCore.Scripts

def eventIdMask : ℕ := 0x0000FFFF

def eventPhaseMask : ℕ := 0xFF000000

def maxEventGroupOrPhase : ℕ := 8

def validGroup (group : ℕ) : Bool := group != 0 && group ≤ maxEventGroupOrPhase

def validPhase (phase : ℕ) : Bool := phase != 0 && phase ≤ maxEventGroupOrPhase

def encodeEventData (eventId group phase : ℕ) : ℕ :=
  let withGroup := if validGroup group then eventId ||| 1 <<< (group + 15) else eventId
  if validPhase phase then withGroup ||| 1 <<< (phase + 23) else withGroup

/-- The id of an encoded event. -/
def eventId (eventData : ℕ) : ℕ := eventData &&& eventIdMask

def eventHasGroup (eventData group : ℕ) : Bool :=
  validGroup group && eventData &&& 1 <<< (group + 15) != 0

/-- The deadlines in ascending order, each with the events that wait for it in their order. -/
abbrev EventQueue := List (ℤ × ℕ)

structure EventMap where
  timeMs : ℤ
  phaseMask : ℕ
  lastEventData : ℕ
  events : EventQueue
  timerSeries : Dict ℕ (List ℤ)

/-- An event waits behind those of its deadline. -/
def EventQueue.pushBack (deadline : ℤ) (eventData : ℕ) : EventQueue → EventQueue
  | [] => [(deadline, eventData)]
  | event :: queue =>
    if event.1 ≤ deadline then event :: pushBack deadline eventData queue
    else (deadline, eventData) :: event :: queue

namespace EventMap

def empty : EventMap := ⟨0, 0, 0, [], ∅⟩

def update (m : EventMap) (diffMs : ℕ) : EventMap := { m with timeMs := m.timeMs + diffMs }

/-! ## Phases -/

def setPhase (m : EventMap) (phase : ℕ) : EventMap :=
  if phase = 0 then { m with phaseMask := 0 }
  else if phase ≤ maxEventGroupOrPhase then { m with phaseMask := 1 <<< (phase - 1) }
  else m

def addPhase (m : EventMap) (phase : ℕ) : EventMap :=
  if validPhase phase then { m with phaseMask := m.phaseMask ||| 1 <<< (phase - 1) } else m

def removePhase (m : EventMap) (phase : ℕ) : EventMap :=
  if validPhase phase then
    { m with phaseMask := m.phaseMask &&& (255 - 1 <<< (phase - 1)) }
  else m

/-- An event that has phases is skipped while the map is in others. -/
def skips (phaseMask eventData : ℕ) : Bool :=
  phaseMask != 0 && eventData &&& eventPhaseMask != 0 &&
    (eventData >>> 24) % 2 ^ 8 &&& phaseMask == 0

/-! ## Scheduling -/

def push (m : EventMap) (delayMs : ℤ) (eventData : ℕ) : EventMap :=
  { m with events := EventQueue.pushBack (m.timeMs + delayMs) eventData m.events }

def scheduleEvent (m : EventMap) (eventId : ℕ) (delayMs : ℤ) (group phase : ℕ) : EventMap :=
  m.push delayMs (encodeEventData eventId group phase)

/-- The last executed event again, under the group and phase it had. -/
def repeatEvent (m : EventMap) (delayMs : ℤ) : EventMap := m.push delayMs m.lastEventData

def scheduleNextFromSeries (m : EventMap) (eventData : ℕ) : EventMap :=
  match m.timerSeries.lookup eventData with
  | none => m
  | some [] => m
  | some (delayMs :: series) =>
    { m with timerSeries := AList.insert eventData series m.timerSeries }.scheduleEvent
      eventData delayMs 0 0

def scheduleEventSeries (m : EventMap) (eventId group phase : ℕ) (timeSeriesMs : List ℤ) :
    EventMap :=
  let eventData := encodeEventData eventId group phase
  let series := (m.timerSeries.lookup eventData).getD [] ++ timeSeriesMs
  { m with timerSeries := AList.insert eventData series m.timerSeries }.scheduleNextFromSeries
    eventData

/-! ## Execution -/

/-- The first event that is due and not skipped, and the queue behind it. -/
def popReady (timeMs : ℤ) (phaseMask : ℕ) : EventQueue → Option ℕ × EventQueue
  | [] => (none, [])
  | (deadline, eventData) :: queue =>
    if timeMs < deadline then (none, (deadline, eventData) :: queue)
    else if skips phaseMask eventData then popReady timeMs phaseMask queue
    else (some eventData, queue)

/-- The event that the next `executeEvent` executes, if there is one. -/
def nextEvent (m : EventMap) : Option ℕ := (popReady m.timeMs m.phaseMask m.events).1

/-- The id of the event that is executed, or 0 if there is none. -/
def executeEvent (m : EventMap) : ℕ × EventMap :=
  match popReady m.timeMs m.phaseMask m.events with
  | (none, queue) => (0, { m with events := queue })
  | (some eventData, queue) =>
    (eventId eventData, { m with
      events := queue, lastEventData := eventData }.scheduleNextFromSeries eventData)

/-! ## Delays and cancellation -/

def delayEvents (m : EventMap) (delayMs : ℤ) : EventMap :=
  { m with events := m.events.map fun event => (event.1 + delayMs, event.2) }

def delayEventsGroup (m : EventMap) (delayMs : ℤ) (group : ℕ) : EventMap :=
  if !validGroup group || m.events.isEmpty then m
  else { m with
    events := m.events.foldl (fun queue event =>
      EventQueue.pushBack
        (if eventHasGroup event.2 group then event.1 + delayMs else event.1) event.2 queue) [] }

/-- The events and the series that `keep` does not keep are dropped. -/
def retainEvents (m : EventMap) (keep : ℕ → Bool) : EventMap :=
  { m with
    events := m.events.filter fun event => keep event.2
    timerSeries := m.timerSeries.retain fun eventData _ => keep eventData }

def cancelEvent (m : EventMap) (id : ℕ) : EventMap :=
  if m.events.isEmpty then m else m.retainEvents fun eventData => eventId eventData != id

def cancelEventGroup (m : EventMap) (group : ℕ) : EventMap :=
  if !validGroup group || m.events.isEmpty then m
  else m.retainEvents fun eventData => !eventHasGroup eventData group

def rescheduleEvent (m : EventMap) (eventId : ℕ) (delayMs : ℤ) (group phase : ℕ) : EventMap :=
  (m.cancelEvent eventId).scheduleEvent eventId delayMs group phase

end EventMap

/-! ## Operations -/

/-- The operations of the map. A delay that is drawn from a range is the drawn one here. -/
inductive EventOp where
  | reset
  | update (diffMs : ℕ)
  | setPhase (phase : ℕ)
  | addPhase (phase : ℕ)
  | removePhase (phase : ℕ)
  | schedule (eventId : ℕ) (delayMs : ℤ) (group phase : ℕ)
  | reschedule (eventId : ℕ) (delayMs : ℤ) (group phase : ℕ)
  | repeatLast (delayMs : ℤ)
  | scheduleSeries (eventId group phase : ℕ) (timeSeriesMs : List ℤ)
  | scheduleNext (eventData : ℕ)
  | execute
  | delay (delayMs : ℤ)
  | delayGroup (delayMs : ℤ) (group : ℕ)
  | cancel (eventId : ℕ)
  | cancelGroup (group : ℕ)

namespace EventOp

def apply (m : EventMap) : EventOp → EventMap
  | reset => .empty
  | update diffMs => m.update diffMs
  | setPhase phase => m.setPhase phase
  | addPhase phase => m.addPhase phase
  | removePhase phase => m.removePhase phase
  | schedule eventId delayMs group phase => m.scheduleEvent eventId delayMs group phase
  | reschedule eventId delayMs group phase => m.rescheduleEvent eventId delayMs group phase
  | repeatLast delayMs => m.repeatEvent delayMs
  | scheduleSeries eventId group phase timeSeriesMs =>
    m.scheduleEventSeries eventId group phase timeSeriesMs
  | scheduleNext eventData => m.scheduleNextFromSeries eventData
  | execute => m.executeEvent.2
  | delay delayMs => m.delayEvents delayMs
  | delayGroup delayMs group => m.delayEventsGroup delayMs group
  | cancel eventId => m.cancelEvent eventId
  | cancelGroup group => m.cancelEventGroup group

/-- Event ids fit into 16 bits, delays are not negative, and the columns fit their types. -/
def Valid : EventOp → Prop
  | update diffMs => diffMs < 2 ^ 32
  | schedule eventId delayMs _ _ => eventId < 2 ^ 16 ∧ 0 ≤ delayMs
  | reschedule eventId delayMs _ _ => eventId < 2 ^ 16 ∧ 0 ≤ delayMs
  | repeatLast delayMs => 0 ≤ delayMs
  | scheduleSeries eventId _ _ timeSeriesMs =>
    eventId < 2 ^ 16 ∧ ∀ delayMs ∈ timeSeriesMs, 0 ≤ delayMs
  | delay delayMs => 0 ≤ delayMs
  | delayGroup delayMs _ => 0 ≤ delayMs
  | _ => True

end EventOp

end RustyCore.Scripts
