import Mathlib.Data.String.Basic
import RustyCore.Library.FixedWidth
import RustyCore.Model.ObjectGuid

/-! # World packets

The buffer of a packet with its typed writes and reads. Bits are packed from the highest bit of a
byte to the lowest; the writer and the reader each keep the byte that they are in the middle of.
Signed and unsigned words of one width are the same bits. -/

namespace RustyCore.Packet

inductive PacketError
  | readPastEnd (wanted available : ℕ)
  /-- The text is what the standard library says about these bytes. -/
  | stringError (bytes : List Byte)
deriving DecidableEq

structure WorldPacket where
  data : List Byte
  readPos : ℕ
  bitBuf : Byte
  /-- The bits that remain in `bitBuf`. -/
  bitPos : ℕ
  wbitBuf : Byte
  /-- The pending bits in `wbitBuf`. -/
  wbitPos : ℕ
deriving DecidableEq

/-- A read; when it fails, the packet stays as far as it was read. -/
abbrev PacketReader (α : Type) := EStateM PacketError WorldPacket α

/-- `str::as_bytes`. -/
def utf8Bytes (s : String) : List Byte := s.toUTF8.data.toList.map UInt8.toBitVec

def fromUtf8 (bytes : List Byte) : Option String :=
  String.fromUTF8? ⟨(bytes.map UInt8.ofBitVec).toArray⟩

namespace WorldPacket

def newEmpty : WorldPacket := ⟨[], 0, 0, 0, 0, 0⟩

def fromBytes (data : List Byte) : WorldPacket := ⟨data, 0, 0, 0, 0, 0⟩

def remaining (packet : WorldPacket) : ℕ := packet.data.length - packet.readPos

/-! ## Bits -/

def resetBitReader : PacketReader Unit :=
  modify fun packet => { packet with bitBuf := 0, bitPos := 0 }

def resetBits : PacketReader Unit := resetBitReader

def ensureReadable (n : ℕ) : PacketReader Unit := do
  let packet ← get
  if packet.remaining < n then throw (.readPastEnd n packet.remaining)

def readBit : PacketReader Bool := do
  let packet ← get
  if packet.bitPos = 0 then
    ensureReadable 1
    set { packet with
      bitBuf := packet.data.getD packet.readPos 0
      readPos := packet.readPos + 1
      bitPos := 8 }
  modifyGet fun packet =>
    let bitPos := packet.bitPos - 1
    (packet.bitBuf >>> bitPos &&& 1#8 == 1#8, { packet with bitPos := bitPos })

def readBits (n : ℕ) : PacketReader (BitVec 32) :=
  (List.range n).foldlM (fun value _ => do
    let bit ← readBit
    return (value <<< 1) ||| if bit then 1 else 0) 0

/-- Bytes appended as they are. -/
def put (bytes : List Byte) (packet : WorldPacket) : WorldPacket :=
  { packet with data := packet.data ++ bytes }

def flushBits (packet : WorldPacket) : WorldPacket :=
  if packet.wbitPos > 0 then
    { packet.put [packet.wbitBuf] with wbitBuf := 0, wbitPos := 0 }
  else packet

def writeBit (v : Bool) (packet : WorldPacket) : WorldPacket :=
  let wbitPos := packet.wbitPos + 1
  let wbitBuf := if v then packet.wbitBuf ||| 1#8 <<< (8 - wbitPos) else packet.wbitBuf
  if wbitPos = 8 then { packet.put [wbitBuf] with wbitBuf := 0, wbitPos := 0 }
  else { packet with wbitBuf := wbitBuf, wbitPos := wbitPos }

def writeBits (value : BitVec 32) (n : ℕ) (packet : WorldPacket) : WorldPacket :=
  (List.range n).reverse.foldl
    (fun packet i => packet.writeBit (value >>> i &&& 1#32 == 1#32)) packet

/-! ## Bytes and words -/

/-- The bytes at the read position; all reads of bytes and words take them this way. -/
def takeBytes (count : ℕ) : PacketReader (List Byte) := do
  ensureReadable count
  modifyGet fun packet =>
    ((packet.data.drop packet.readPos).take count,
      { packet with readPos := packet.readPos + count })

def readBytes (count : ℕ) : PacketReader (List Byte) := do
  resetBitReader
  takeBytes count

/-- A word of `count` bytes, the lowest first. -/
def readWord (count : ℕ) : PacketReader ℕ := ofLeBytes <$> readBytes count

def readUint8 : PacketReader (BitVec 8) := BitVec.ofNat 8 <$> readWord 1

def readInt8 : PacketReader (BitVec 8) := readUint8

def readUint16 : PacketReader (BitVec 16) := BitVec.ofNat 16 <$> readWord 2

def readInt16 : PacketReader (BitVec 16) := readUint16

def readUint32 : PacketReader (BitVec 32) := BitVec.ofNat 32 <$> readWord 4

def readInt32 : PacketReader (BitVec 32) := readUint32

def readUint64 : PacketReader (BitVec 64) := BitVec.ofNat 64 <$> readWord 8

def readInt64 : PacketReader (BitVec 64) := readUint64

def readGuid : PacketReader ObjectGuid := do
  let low ← readInt64
  let high ← readInt64
  return ⟨high, low⟩

/-- The loop goes up to the first NUL byte or to the end. -/
def takeCstring : PacketReader String := do
  let packet ← get
  let bytes := (packet.data.drop packet.readPos).takeWhile fun byte => byte ≠ 0
  let stop := packet.readPos + bytes.length
  set { packet with readPos := stop }
  match fromUtf8 bytes with
  | none => throw (.stringError bytes)
  | some s =>
    if stop < packet.data.length then set { packet with readPos := stop + 1 }
    return s

def readCstring : PacketReader String := do
  resetBitReader
  takeCstring

def writeBytes (data : List Byte) (packet : WorldPacket) : WorldPacket :=
  packet.flushBits.put data

/-- A word of `count` bytes, the lowest first. -/
def writeWord (count value : ℕ) : WorldPacket → WorldPacket := writeBytes (leBytes count value)

def writeUint8 (v : BitVec 8) : WorldPacket → WorldPacket := writeWord 1 v.toNat

def writeInt8 (v : BitVec 8) : WorldPacket → WorldPacket := writeUint8 v

def writeUint16 (v : BitVec 16) : WorldPacket → WorldPacket := writeWord 2 v.toNat

def writeInt16 (v : BitVec 16) : WorldPacket → WorldPacket := writeUint16 v

def writeUint32 (v : BitVec 32) : WorldPacket → WorldPacket := writeWord 4 v.toNat

def writeInt32 (v : BitVec 32) : WorldPacket → WorldPacket := writeUint32 v

def writeUint64 (v : BitVec 64) : WorldPacket → WorldPacket := writeWord 8 v.toNat

def writeInt64 (v : BitVec 64) : WorldPacket → WorldPacket := writeUint64 v

def writeGuid (guid : ObjectGuid) (packet : WorldPacket) : WorldPacket :=
  (packet.writeInt64 guid.low).writeInt64 guid.high

def writeCstring (s : String) (packet : WorldPacket) : WorldPacket :=
  (packet.writeBytes (utf8Bytes s)).writeUint8 0

/-! ## Packed identifiers -/

/-- One bit for each byte that is not zero. -/
def nonZeroMask (bytes : List Byte) : Byte :=
  (List.range 8).foldl
    (fun mask i => if bytes.getD i 0 ≠ 0 then mask ||| 1#8 <<< i else mask) 0

def putNonZero (bytes : List Byte) (packet : WorldPacket) : WorldPacket :=
  (List.range 8).foldl
    (fun packet i => if bytes.getD i 0 ≠ 0 then packet.put [bytes.getD i 0] else packet) packet

def writePackedGuidUnflushed (guid : ObjectGuid) (packet : WorldPacket) : WorldPacket :=
  let lowBytes := leBytes 8 guid.low.toNat
  let highBytes := leBytes 8 guid.high.toNat
  ((packet.put [nonZeroMask lowBytes]).put [nonZeroMask highBytes])
    |>.putNonZero lowBytes |>.putNonZero highBytes

def writePackedGuid (guid : ObjectGuid) (packet : WorldPacket) : WorldPacket :=
  packet.flushBits.writePackedGuidUnflushed guid

def readNonZero (mask : Byte) : PacketReader (List Byte) :=
  (List.range 8).mapM fun i => if mask &&& 1#8 <<< i ≠ 0 then readUint8 else return 0

def readPackedGuid : PacketReader ObjectGuid := do
  resetBitReader
  let lowMask ← readUint8
  let highMask ← readUint8
  let lowBytes ← readNonZero lowMask
  let highBytes ← readNonZero highMask
  let low := BitVec.ofNat 64 (ofLeBytes lowBytes)
  let high := BitVec.ofNat 64 (ofLeBytes highBytes)
  return ⟨high, low⟩

end WorldPacket

end RustyCore.Packet
