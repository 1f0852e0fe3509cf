import RustyCore.Verification.Packet.BitsAndBytes

/-! # Reading stays inside the packet

Whatever bytes a client sends, and however a handler goes on after each value that it reads, no
read leaves the buffer, and a read that fails says how much was missing. -/

namespace RustyCore.Packet

open WorldPacket

/-- The parsers of the handlers: reads, chosen by what was read before. -/
inductive Parser : {α : Type} → PacketReader α → Prop
  | pure {α : Type} (a : α) : Parser (pure a : PacketReader α)
  | bind {α β : Type} {read : PacketReader α} {next : α → PacketReader β} :
      Parser read → (∀ a, Parser (next a)) → Parser (read >>= next)
  | bit : Parser readBit
  | bytes (count : ℕ) : Parser (takeBytes count)
  | cstring : Parser takeCstring
  | reset : Parser resetBitReader

namespace Parser

theorem map {α β : Type} {read : PacketReader α} (f : α → β) (h : Parser read) :
    Parser (f <$> read) :=
  h.bind fun a => .pure (f a)

theorem readUint8 : Parser readUint8 := ((reset.bind fun _ => bytes 1).map _).map _

theorem readBits (n : ℕ) : Parser (readBits n) := by
  have hloop (l : List ℕ) (value : BitVec 32) :
      Parser (l.foldlM (fun (value : BitVec 32) (_ : ℕ) => do
        let bit ← readBit
        return (value <<< 1) ||| if bit then 1 else 0) value) := by
    induction l generalizing value with
    | nil => exact .pure value
    | cons i l ih => exact (bit.bind fun _ => .pure _).bind ih
  exact hloop _ 0

theorem readNonZero (mask : Byte) : Parser (readNonZero mask) := by
  unfold WorldPacket.readNonZero
  induction List.range 8 with
  | nil => exact .pure []
  | cons i l ih =>
    rw [List.mapM_cons]
    refine Parser.bind ?_ fun byte => ih.map (byte :: ·)
    split
    exacts [readUint8, .pure 0]

theorem readPackedGuid : Parser readPackedGuid :=
  reset.bind fun _ => readUint8.bind fun low => readUint8.bind fun high =>
    (readNonZero low).bind fun _ => (readNonZero high).bind fun _ => .pure _

end Parser

/-- The same bytes at a later position among them. -/
def Onward (packet packet' : WorldPacket) : Prop :=
  packet'.data = packet.data ∧ packet.readPos ≤ packet'.readPos ∧
    packet'.readPos ≤ packet.data.length

/-- A read stays inside the packet, and its error says how many bytes are missing there, or
which of them are no text. -/
def StaysInside {α : Type} (packet : WorldPacket) :
    EStateM.Result PacketError WorldPacket α → Prop
  | .ok _ packet' => Onward packet packet'
  | .error (.readPastEnd wanted available) packet' =>
    Onward packet packet' ∧ available = packet'.remaining ∧ available < wanted
  | .error (.stringError bytes) packet' =>
    Onward packet packet' ∧ bytes <:+: packet'.data ∧ fromUtf8 bytes = none

theorem StaysInside.from {α : Type} {packet packet' : WorldPacket}
    {result : EStateM.Result PacketError WorldPacket α} (h : Onward packet packet')
    (hresult : StaysInside packet' result) : StaysInside packet result := by
  have htrans {packet'' : WorldPacket} : Onward packet' packet'' → Onward packet packet'' :=
    fun ⟨hdata, hlater, hinside⟩ => ⟨hdata.trans h.1, h.2.1.trans hlater, h.1 ▸ hinside⟩
  match result with
  | .ok _ _ => exact htrans hresult
  | .error (.readPastEnd _ _) _ => exact ⟨htrans hresult.1, hresult.2⟩
  | .error (.stringError _) _ => exact ⟨htrans hresult.1, hresult.2⟩

end RustyCore.Packet
