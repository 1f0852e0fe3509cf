import RustyCore.Library.StreamEncoder

/-! # Packet compression

One deflate stream for all packets of a connection, flushed after each of them. The encoder
itself is a parameter. -/

namespace RustyCore.Packet

def adler32Init : BitVec 32 := 0x9827D8F1

def adler32Mod : ℕ := 65521

def adler32WithInit (data : List Byte) (init : BitVec 32) : BitVec 32 :=
  let sums := data.foldl
    (fun (s : ℕ × ℕ) byte =>
      let a := (s.1 + byte.toNat) % adler32Mod
      (a, (s.2 + a) % adler32Mod))
    (init.toNat % 0x10000, init.toNat / 0x10000 % 0x10000)
  BitVec.ofNat 32 (sums.2 * 0x10000 + sums.1)

def adler32 (data : List Byte) : BitVec 32 := adler32WithInit data adler32Init

/-- An encoder with the totals that it keeps. -/
structure Compress (σ : Type) where
  inner : σ
  totalIn : ℕ
  totalOut : ℕ
deriving DecidableEq

def Compress.new {σ : Type} (start : σ) : Compress σ where
  inner := start
  totalIn := 0
  totalOut := 0

/-- The totals count what each call has read and written. -/
def Compress.after {σ : Type} (c : Compress σ) (answer : StreamAnswer σ) : Compress σ where
  inner := answer.next
  totalIn := c.totalIn + answer.consumed
  totalOut := c.totalOut + answer.output.length

structure OutgoingPacket where
  opcodeBytes : Byte × Byte
  payload : List Byte
deriving DecidableEq

/-- The opcode and the payload. -/
def OutgoingPacket.input (p : OutgoingPacket) : List Byte :=
  p.opcodeBytes.1 :: p.opcodeBytes.2 :: p.payload

def outBound (inputLen : ℕ) : ℕ := inputLen + (inputLen >>> 9) + 256

/-- What a call writes into the output buffer. -/
def writeAt (output : List Byte) (produced : ℕ) (bytes : List Byte) : List Byte :=
  output.take produced ++ bytes ++ output.drop (produced + bytes.length)

variable {σ : Type} (z : StreamEncoder σ)

/-- The loop, with the totals of the stream before this packet. -/
def compressLoop (input : List Byte) (baseIn baseOut : ℕ) :
    ℕ → Compress σ → List Byte → Option (Compress σ × List Byte)
  | 0, _, _ => none
  | fuel + 1, compressor, output =>
    let consumed := compressor.totalIn - baseIn
    let produced := compressor.totalOut - baseOut
    let answer := z compressor.inner (input.drop consumed) (output.length - produced)
    let compressor := compressor.after answer
    let output := writeAt output produced answer.output
    let newConsumed := compressor.totalIn - baseIn
    let newProduced := compressor.totalOut - baseOut
    let stuck := newConsumed = consumed ∧ newProduced = produced
    match answer.status with
    | .ok =>
      if input.length ≤ newConsumed ∨ stuck then some (compressor, output)
      else compressLoop input baseIn baseOut fuel compressor output
    | .bufError =>
      -- the buffer has grown, but a call that was refused has made no progress
      let output := output ++ List.replicate output.length 0
      if stuck then some (compressor, output)
      else compressLoop input baseIn baseOut fuel compressor output
    | .streamEnd => some (compressor, output)

/-- No result means that the loop did not end in as many rounds as there are bytes. -/
def compressPacketImpl (compressor : Compress σ) (p : OutgoingPacket) :
    Option (List Byte × Compress σ) := do
  let uncompressedSize : BitVec 32 := BitVec.ofNat 32 (2 + p.payload.length)
  let uncompressedAdler :=
    adler32WithInit p.payload (adler32WithInit [p.opcodeBytes.1, p.opcodeBytes.2] adler32Init)
  let inputLen := 2 + p.payload.length
  let output := List.replicate (outBound inputLen) 0
  let baseIn := compressor.totalIn
  let baseOut := compressor.totalOut
  let (compressor, output) ←
    compressLoop z p.input baseIn baseOut (inputLen + output.length + 1) compressor output
  let totalProduced := compressor.totalOut - baseOut
  let output := output.take totalProduced
  let compressedAdler := adler32 output
  some (leBytes 4 uncompressedSize.toNat ++ leBytes 4 uncompressedAdler.toNat ++
    leBytes 4 compressedAdler.toNat ++ output, compressor)

end RustyCore.Packet
