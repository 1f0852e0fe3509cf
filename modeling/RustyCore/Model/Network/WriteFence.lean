import RustyCore.Library.Dict
import RustyCore.Library.FixedWidth
import RustyCore.Library.Run

/-! # World sockets and write fences

The encryption of one connection: a plain handshake, then packets sent and read by the
socket itself or, after `split_for_io`, by its two halves. Every operation succeeds; what
goes over the wire is kept with the call of the cipher behind it. -/

namespace RustyCore.Network

abbrev AesKey := Vector Byte 16

/-- `SERVER_SUFFIX`, "SRVR". -/
def serverSuffix : BitVec 32 := 0x52565253

/-- `CLIENT_SUFFIX`, "CLNT". -/
def clientSuffix : BitVec 32 := 0x544E4C43

/-- What the cipher is called with. -/
structure CipherCall where
  key : AesKey
  nonce : List Byte
  data : List Byte
deriving DecidableEq

structure WorldCrypt where
  key : AesKey
  serverCounter : BitVec 64
  clientCounter : BitVec 64
deriving DecidableEq

namespace WorldCrypt

def new (key : AesKey) : WorldCrypt := ⟨key, 0, 0⟩

def newWithServerCounter (key : AesKey) (serverCounter : BitVec 64) : WorldCrypt :=
  ⟨key, serverCounter, 0⟩

def newWithClientCounter (key : AesKey) (clientCounter : BitVec 64) : WorldCrypt :=
  ⟨key, 0, clientCounter⟩

def makeNonce (counter : BitVec 64) (suffix : BitVec 32) : List Byte :=
  leBytes 8 counter.toNat ++ leBytes 4 suffix.toNat

def encrypt (crypt : WorldCrypt) (plaintext : List Byte) : CipherCall × WorldCrypt :=
  (⟨crypt.key, makeNonce crypt.serverCounter serverSuffix, plaintext⟩,
    { crypt with serverCounter := crypt.serverCounter + 1 })

/-- `plaintext` is what the cipher finds in the packet of the client. -/
def decrypt (crypt : WorldCrypt) (plaintext : List Byte) : CipherCall × WorldCrypt :=
  (⟨crypt.key, makeNonce crypt.clientCounter clientSuffix, plaintext⟩,
    { crypt with clientCounter := crypt.clientCounter + 1 })

end WorldCrypt

/-- A packet on the wire. -/
inductive WirePacket where
  | plain (data : List Byte)
  | encrypted (call : CipherCall)
deriving DecidableEq

/-- The fields of `WorldSocket` that its encryption uses. -/
structure WorldSocket where
  crypt : Option WorldCrypt
  encryptKey : Option AesKey
  unencryptedPacketsSent : BitVec 64
  unencryptedPacketsReceived : BitVec 64
deriving DecidableEq

namespace WorldSocket

def new : WorldSocket := ⟨none, none, 0, 0⟩

def setEncryptKey (s : WorldSocket) (key : AesKey) : WorldSocket :=
  { s with encryptKey := some key }

/-- Without a key this is an error, and the socket stays. -/
def handleEnterEncryptedModeAck (s : WorldSocket) : WorldSocket :=
  match s.encryptKey with
  | none => s
  | some key => { s with crypt := some (WorldCrypt.new key) }

def sendUnencryptedPacket (s : WorldSocket) (data : List Byte) : WorldSocket × WirePacket :=
  ({ s with unencryptedPacketsSent := s.unencryptedPacketsSent + 1 }, .plain data)

/-- `data` is the packet as it is encrypted, after any compression. -/
def sendPacket (s : WorldSocket) (data : List Byte) : WorldSocket × WirePacket :=
  match s.crypt with
  | none => s.sendUnencryptedPacket data
  | some crypt =>
    let sealed := crypt.encrypt data
    ({ s with crypt := some sealed.2 }, .encrypted sealed.1)

def readUnencryptedPacket (s : WorldSocket) (data : List Byte) : WorldSocket × WirePacket :=
  ({ s with unencryptedPacketsReceived := s.unencryptedPacketsReceived + 1 }, .plain data)

/-- "encryption not enabled" comes before anything is read. -/
def readEncryptedPacket (s : WorldSocket) (data : List Byte) : Option (WorldSocket × WirePacket) :=
  match s.crypt with
  | none => none
  | some crypt =>
    let opened := crypt.decrypt data
    some ({ s with crypt := some opened.2 }, .encrypted opened.1)

end WorldSocket

/-- The crypt of `SocketReader` and that of `SocketWriter`. -/
structure SocketHalves where
  reader : WorldCrypt
  writer : WorldCrypt
deriving DecidableEq

/-- Without a key this panics. -/
def WorldSocket.splitForIo (s : WorldSocket) : Option SocketHalves :=
  s.encryptKey.map fun key =>
    ⟨WorldCrypt.newWithClientCounter key s.unencryptedPacketsReceived,
      WorldCrypt.newWithServerCounter key s.unencryptedPacketsSent⟩

def SocketHalves.writeEncrypted (h : SocketHalves) (data : List Byte) :
    SocketHalves × WirePacket :=
  let sealed := h.writer.encrypt data
  ({ h with writer := sealed.2 }, .encrypted sealed.1)

/-- One packet of `SocketReader::run`. -/
def SocketHalves.read (h : SocketHalves) (data : List Byte) : SocketHalves × WirePacket :=
  let opened := h.reader.decrypt data
  ({ h with reader := opened.2 }, .encrypted opened.1)

/-! ## Connections -/

/-- The packets of both directions, each in order. -/
structure Wire where
  server : List WirePacket
  client : List WirePacket
deriving DecidableEq

def Wire.sent (w : Wire) (packet : WirePacket) : Wire :=
  { w with server := w.server ++ [packet] }

def Wire.received (w : Wire) (packet : WirePacket) : Wire :=
  { w with client := w.client ++ [packet] }

/-- The I/O of a socket that is not split. -/
inductive SocketAction where
  | sendUnencryptedPacket (data : List Byte)
  | readUnencryptedPacket (data : List Byte)
  | sendPacket (data : List Byte)
  | readEncryptedPacket (data : List Byte)
deriving DecidableEq

def socketStep : WorldSocket × Wire → SocketAction → WorldSocket × Wire
  | (s, w), .sendUnencryptedPacket data =>
    ((s.sendUnencryptedPacket data).1, w.sent (s.sendUnencryptedPacket data).2)
  | (s, w), .readUnencryptedPacket data =>
    ((s.readUnencryptedPacket data).1, w.received (s.readUnencryptedPacket data).2)
  | (s, w), .sendPacket data => ((s.sendPacket data).1, w.sent (s.sendPacket data).2)
  | (s, w), .readEncryptedPacket data =>
    match s.readEncryptedPacket data with
    | none => (s, w)
    | some (s', packet) => (s', w.received packet)

inductive HalfAction where
  | writeEncrypted (data : List Byte)
  | read (data : List Byte)
deriving DecidableEq

def halfStep : SocketHalves × Wire → HalfAction → SocketHalves × Wire
  | (h, w), .writeEncrypted data => ((h.writeEncrypted data).1, w.sent (h.writeEncrypted data).2)
  | (h, w), .read data => ((h.read data).1, w.received (h.read data).2)

inductive ConnectionType where
  | realmConnection
  | instanceConnection
deriving DecidableEq

/-- The key that a handshake derives, and its three packets. -/
structure Handshake where
  connectionType : ConnectionType
  key : AesKey
  authSession : List Byte
  enterEncryptedMode : List Byte
  enterEncryptedModeAck : List Byte
deriving DecidableEq

def authenticate (h : Handshake) (c : WorldSocket × Wire) : WorldSocket × Wire :=
  let c := socketStep c (.readUnencryptedPacket h.authSession)
  let c := (c.1.setEncryptKey h.key, c.2)
  let c := socketStep c (.sendUnencryptedPacket h.enterEncryptedMode)
  let c := socketStep c (.readUnencryptedPacket h.enterEncryptedModeAck)
  (c.1.handleEnterEncryptedModeAck, c.2)

/-- The handshake in `handle_instance_connection`. -/
def authenticateInstance (h : Handshake) (c : WorldSocket × Wire) : WorldSocket × Wire :=
  let c := socketStep c (.readUnencryptedPacket h.authSession)
  let c := socketStep c (.sendUnencryptedPacket h.enterEncryptedMode)
  let c := socketStep c (.readUnencryptedPacket h.enterEncryptedModeAck)
  ((c.1.setEncryptKey h.key).handleEnterEncryptedModeAck, c.2)

def handshake (h : Handshake) (c : WorldSocket × Wire) : WorldSocket × Wire :=
  match h.connectionType with
  | .realmConnection => authenticate h c
  | .instanceConnection => authenticateInstance h c

/-- What goes over the wire when the socket is split, or kept whole, after `between`. -/
def connection (before : List SocketAction) (h : Handshake) (between : List SocketAction)
    (after : Option (List HalfAction)) : Wire :=
  let c := run socketStep (handshake h (run socketStep (.new, ⟨[], []⟩) before)) between
  match after, c.1.splitForIo with
  | some actions, some halves => (run halfStep (halves, c.2) actions).2
  | _, _ => c.2

end RustyCore.Network

/-! ## Write fences

One socket: callers that queue packets and wait for fences, the FIFO channel, and the
writer task. Every step is one action that no other task can interrupt; the fences are
shared through a map under a lock and a flag. -/

namespace RustyCore.Network

/-- `WRITE_FENCE_PREFIX`, "\0\0RCFENC". -/
def writeFencePrefix : List Byte := [0, 0, 0x52, 0x43, 0x46, 0x45, 0x4E, 0x43]

/-- The bytes that stand for a fence in the channel. -/
def marker (id : BitVec 64) : List Byte := writeFencePrefix ++ leBytes 8 id.toNat

def markerId (data : List Byte) : Option (BitVec 64) :=
  if data.length ≠ 16 ∨ data.take 8 ≠ writeFencePrefix then none
  else some (BitVec.ofNat 64 (ofLeBytes (data.drop 8)))

inductive SocketWriteFenceWaitResult where
  | written
  | timedOut
  | writerClosed
deriving DecidableEq

/-- What the receiver of a oneshot channel can find. -/
inductive Oneshot where
  | empty
  | acknowledged
  | senderDropped
deriving DecidableEq

/-- Where a call of `wait_for_prior_packets_written` is. -/
inductive WaitPhase where
  | allocated
  | sending
  | waiting
  | finished (result : SocketWriteFenceWaitResult)
  | cancelled
deriving DecidableEq

structure FenceWait where
  id : BitVec 64
  phase : WaitPhase
  acknowledgement : Oneshot
deriving DecidableEq

/-- Whether the call holds a `PendingSocketWriteFence` guard. -/
def FenceWait.running (wait : FenceWait) : Bool :=
  wait.phase == .sending || wait.phase == .waiting

/-- The fields of `SocketWriteFenceState`; the senders are named by the index of their wait. -/
structure SocketWriteFenceState where
  nextId : BitVec 64
  writerClosed : Bool
  pending : Dict (BitVec 64) ℕ

/-- Where `SocketWriter::run` is. After it ends, `Drop` sets the flag, clears the map, and
then the receiver of the channel goes. -/
inductive WriterPhase where
  | receiving
  | holding (data : List Byte)
  | writing (data : List Byte)
  | ended
  | flagSet
  | cleared
  | gone
deriving DecidableEq

/-- What was put into the channel. -/
inductive Enqueued where
  | packet (data : List Byte)
  | fence (wait : ℕ)
deriving DecidableEq

/-- The socket. The last three fields are its history: what was queued, what was passed to
`write_encrypted`, and for what it returned `Ok`, each in order. -/
structure FenceSystem where
  fence : SocketWriteFenceState
  waits : List FenceWait
  queue : List (List Byte)
  writer : WriterPhase
  enqueued : List Enqueued
  passed : List (List Byte)
  written : List (List Byte)

namespace FenceSystem

def initial : FenceSystem where
  fence := ⟨0, false, ∅⟩
  waits := []
  queue := []
  writer := .receiving
  enqueued := []
  passed := []
  written := []

def modifyWait (s : FenceSystem) (wait : ℕ) (f : FenceWait → FenceWait) : FenceSystem :=
  { s with waits := s.waits.modify wait f }

def setPhase (s : FenceSystem) (wait : ℕ) (phase : WaitPhase) : FenceSystem :=
  s.modifyWait wait fun w => { w with phase := phase }

/-- `pending.remove(&id)`; what becomes of the sender that was there is `outcome`. -/
def removePending (s : FenceSystem) (id : BitVec 64) (outcome : Oneshot) : FenceSystem :=
  match s.fence.pending.lookup id with
  | none => s
  | some sender =>
    { s with fence := { s.fence with pending := AList.erase id s.fence.pending } }.modifyWait
      sender fun w => { w with acknowledgement := outcome }

/-! ## Calls of `wait_for_prior_packets_written` -/

/-- `next_id.fetch_add(1)` and the new oneshot channel. -/
def startWait (s : FenceSystem) : FenceSystem :=
  { s with
    fence := { s.fence with nextId := s.fence.nextId + 1 }
    waits := s.waits ++ [⟨s.fence.nextId, .allocated, .empty⟩] }

/-- The critical section that reads the flag and registers the sender. -/
def register (s : FenceSystem) (wait : ℕ) (w : FenceWait) : FenceSystem :=
  if s.fence.writerClosed then s.setPhase wait (.finished .writerClosed)
  else
    let replaced := s.removePending w.id .senderDropped
    { replaced with
      fence := { replaced.fence with
        pending := AList.insert w.id wait replaced.fence.pending } }.setPhase wait .sending

/-- The end of a call; dropping its guard removes the entry of its id. -/
def finish (s : FenceSystem) (wait : ℕ) (w : FenceWait) (phase : WaitPhase) : FenceSystem :=
  (s.removePending w.id .senderDropped).setPhase wait phase

/-- The steps of one call; `returnWait` is the end of the inner future. -/
inductive WaitAction where
  | register
  | sendMarker
  | returnWait
  | timeOut
  | cancel
deriving DecidableEq

/-- One step of a call, if it is at the right place. -/
def waitStep (s : FenceSystem) (wait : ℕ) (w : FenceWait) : WaitAction → FenceSystem
  | .register => if w.phase = .allocated then s.register wait w else s
  | .sendMarker =>
    if w.phase = .sending then
      if s.writer = .gone then s.finish wait w (.finished .writerClosed)
      else { s with
        queue := s.queue ++ [marker w.id]
        enqueued := s.enqueued ++ [Enqueued.fence wait] }.setPhase wait .waiting
    else s
  | .returnWait =>
    if w.phase = .waiting then
      match w.acknowledgement with
      | .acknowledged => s.finish wait w (.finished .written)
      | .senderDropped => s.finish wait w (.finished .writerClosed)
      | .empty => s
    else s
  | .timeOut => if w.running then s.finish wait w (.finished .timedOut) else s
  | .cancel => if w.running then s.finish wait w .cancelled else s

/-! ## The writer -/

/-- `acknowledge_marker` on the data the writer holds. -/
def acknowledgeMarker (s : FenceSystem) (data : List Byte) : FenceSystem × Bool :=
  match markerId data with
  | none => (s, false)
  | some id => (s.removePending id .acknowledged, true)

/-- `pending.clear()`: every sender in the map is dropped. -/
def clearPending (s : FenceSystem) : FenceSystem :=
  { s with
    fence := { s.fence with pending := ∅ }
    waits := s.waits.mapIdx fun wait w =>
      if s.fence.pending.anyEntry (fun _ sender => sender == wait) then
        { w with acknowledgement := .senderDropped }
      else w }

/-- The steps of `SocketWriter::run` and of its end; `stopWriter` ends the task from outside
or because every sender is gone. -/
inductive WriterAction where
  | receive
  | acknowledge
  | beginWrite
  | writeOk
  | writeErr
  | stopWriter
  | setClosed
  | clearPending
  | dropReceiver
deriving DecidableEq

def writerStep (s : FenceSystem) : WriterAction → FenceSystem
  | .receive =>
    match s.writer, s.queue with
    | .receiving, data :: rest => { s with queue := rest, writer := .holding data }
    | _, _ => s
  | .acknowledge =>
    match s.writer with
    | .holding data =>
      let acknowledged := s.acknowledgeMarker data
      if acknowledged.2 then { acknowledged.1 with writer := .receiving } else s
    | _ => s
  | .beginWrite =>
    match s.writer with
    | .holding data =>
      if (s.acknowledgeMarker data).2 then s
      else { s with writer := .writing data, passed := s.passed ++ [data] }
    | _ => s
  | .writeOk =>
    match s.writer with
    | .writing data => { s with writer := .receiving, written := s.written ++ [data] }
    | _ => s
  | .writeErr =>
    match s.writer with
    | .writing _ => { s with writer := .ended }
    | _ => s
  | .stopWriter =>
    match s.writer with
    | .receiving | .holding _ | .writing _ => { s with writer := .ended }
    | _ => s
  | .setClosed =>
    if s.writer = .ended then
      { s with writer := .flagSet, fence := { s.fence with writerClosed := true } }
    else s
  | .clearPending => if s.writer = .flagSet then { s.clearPending with writer := .cleared } else s
  | .dropReceiver => if s.writer = .cleared then { s with writer := .gone, queue := [] } else s

/-! ## All tasks -/

inductive FenceAction where
  | sendPacket (data : List Byte)
  | startWait
  | wait (index : ℕ) (action : WaitAction)
  | writer (action : WriterAction)
deriving DecidableEq

def step (s : FenceSystem) : FenceAction → FenceSystem
  | .sendPacket data =>
    if s.writer = .gone then s
    else { s with
      queue := s.queue ++ [data]
      enqueued := s.enqueued ++ [Enqueued.packet data] }
  | .startWait => s.startWait
  | .wait index action =>
    match s.waits[index]? with
    | none => s
    | some w => s.waitStep index w action
  | .writer action => s.writerStep action

end FenceSystem

end RustyCore.Network
