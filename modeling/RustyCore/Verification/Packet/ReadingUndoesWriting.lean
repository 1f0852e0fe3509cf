import RustyCore.Verification.Packet.BitsAndBytes

/-! # Reading a packet undoes writing it

Any sequence of typed writes is read back by the matching reads, whatever mixture of bits and
whole bytes it is. -/

namespace RustyCore.Packet

open WorldPacket

/-! ## Words and strings -/

theorem readsBack_writeBytes (data : List Byte) :
    ReadsBack packetCoupling (writeBytes data) (readBytes data.length) data := by
  have h := readsBack_flushed (readsBack_takeBytes data)
  exact h

theorem readsBack_writeWord (count : ℕ) {value : ℕ} (h : value < 256 ^ count) :
    ReadsBack packetCoupling (writeWord count value) (readWord count) value := by
  have hbytes := (readsBack_writeBytes (leBytes count value)).map ofLeBytes
  rw [length_leBytes, ofLeBytes_leBytes_of_lt h] at hbytes
  exact hbytes

theorem readsBack_writeUint8 (v : BitVec 8) :
    ReadsBack packetCoupling (writeUint8 v) WorldPacket.readUint8 v := by
  have h := (readsBack_writeWord 1 v.isLt).map (BitVec.ofNat 8)
  rwa [BitVec.ofNat_toNat, BitVec.setWidth_eq] at h

theorem readsBack_writeUint16 (v : BitVec 16) :
    ReadsBack packetCoupling (writeUint16 v) readUint16 v := by
  have h := (readsBack_writeWord 2 v.isLt).map (BitVec.ofNat 16)
  rwa [BitVec.ofNat_toNat, BitVec.setWidth_eq] at h

theorem readsBack_writeUint32 (v : BitVec 32) :
    ReadsBack packetCoupling (writeUint32 v) readUint32 v := by
  have h := (readsBack_writeWord 4 v.isLt).map (BitVec.ofNat 32)
  rwa [BitVec.ofNat_toNat, BitVec.setWidth_eq] at h

theorem readsBack_writeUint64 (v : BitVec 64) :
    ReadsBack packetCoupling (writeUint64 v) readUint64 v := by
  have h := (readsBack_writeWord 8 v.isLt).map (BitVec.ofNat 64)
  rwa [BitVec.ofNat_toNat, BitVec.setWidth_eq] at h

theorem readsBack_writeGuid (guid : ObjectGuid) :
    ReadsBack packetCoupling (writeGuid guid) readGuid guid := by
  have hwrite : writeGuid guid = (id ∘ writeUint64 guid.high) ∘ writeUint64 guid.low := rfl
  rw [hwrite, readGuid]
  refine (readsBack_writeUint64 guid.low).bind ?_
  exact (readsBack_writeUint64 guid.high).bind (.pure guid)

theorem fromUtf8_utf8Bytes (s : String) : fromUtf8 (utf8Bytes s) = some s := by
  have hbytes : (⟨((utf8Bytes s).map UInt8.ofBitVec).toArray⟩ : ByteArray) = s.toByteArray := by
    simp [utf8Bytes, Function.comp_def]
  rw [fromUtf8, hbytes, String.fromUTF8?, dif_pos s.isValidUTF8]
  rfl

theorem readsBack_takeCstring {s : String} (hs : (0 : Byte) ∉ utf8Bytes s) :
    ReadsBack bytesCoupling (put (utf8Bytes s ++ [0])) takeCstring s where
  ready _ h := h
  agrees w _ _ h := (List.prefix_append w.data _).trans h
  reads w out r _ hout hr := by
    obtain ⟨rest, hrest⟩ := hout
    obtain ⟨hdata, hpos, hbit⟩ := hr
    have hdrop : r.data.drop r.readPos = utf8Bytes s ++ 0 :: rest := by
      rw [hdata, hpos, ← hrest, put]
      simp
    have hscan : (r.data.drop r.readPos).takeWhile (fun byte => byte ≠ 0) = utf8Bytes s := by
      have hall : ∀ byte ∈ utf8Bytes s, decide (byte ≠ 0) = true := fun byte hmem =>
        decide_eq_true fun heq => hs (heq ▸ hmem)
      rw [hdrop, List.takeWhile_append_of_pos hall, List.takeWhile_cons_of_neg (by simp),
        List.append_nil]
    have hscan' : (r.data.drop r.readPos).takeWhile (fun byte => !decide (byte = 0#8)) =
        utf8Bytes s := by
      simpa using hscan
    have hroom : r.readPos + (utf8Bytes s).length < r.data.length := by
      have hlength := congrArg List.length hdrop
      simp only [List.length_drop, List.length_append, List.length_cons] at hlength
      omega
    refine ⟨s, { r with readPos := r.readPos + (utf8Bytes s).length + 1 }, ?_, rfl, hdata, ?_,
      hbit⟩
    · change takeCstring.run r = _
      simp only [takeCstring, BitVec.ofNat_eq_ofNat, ne_eq, decide_not, bind_pure_comp,
        EStateM.run_bind, EStateM.run_get, hscan', fromUtf8_utf8Bytes, hroom, if_true,
        LawfulMonadStateOf.set_bind_map_set]
      rfl
    · simp [put, hpos, Nat.add_assoc]

theorem readsBack_writeCstring {s : String} (hs : (0 : Byte) ∉ utf8Bytes s) :
    ReadsBack packetCoupling (writeCstring s) readCstring s := by
  refine (readsBack_flushed (readsBack_takeCstring hs)).congr fun w => ?_
  have hflushed : (w.writeBytes (utf8Bytes s)).flushBits = w.writeBytes (utf8Bytes s) :=
    if_neg (by simp [writeBytes, put])
  rw [writeCstring, writeUint8, writeWord, writeBytes, hflushed]
  simp [writeBytes, put, leBytes]

/-! ## Packed identifiers -/

theorem getLsbD_maskOf (p : ℕ → Prop) [DecidablePred p] (n : ℕ) {i : ℕ} (hi : i < 8) :
    ((List.range n).foldl (fun mask i => if p i then mask ||| 1#8 <<< i else mask) 0).getLsbD i =
      (decide (i < n) && decide (p i)) := by
  induction n with
  | zero => simp
  | succ n ih =>
    have hbit : (1#8 <<< n).getLsbD i = decide (i = n) := by
      rw [BitVec.getLsbD_shiftLeft, BitVec.getLsbD_one, Bool.eq_iff_iff]
      simp only [Bool.and_eq_true, decide_eq_true_eq, Bool.not_eq_true', decide_eq_false_iff_not]
      omega
    rw [List.range_succ, List.foldl_append, List.foldl_cons, List.foldl_nil]
    by_cases heq : i = n
    · subst heq
      split <;> simp_all
    · have hiff : i < n + 1 ↔ i < n := by omega
      split <;> simp_all

theorem getLsbD_nonZeroMask (bytes : List Byte) {i : ℕ} (hi : i < 8) :
    (nonZeroMask bytes).getLsbD i = decide (bytes.getD i 0 ≠ 0) := by
  rw [nonZeroMask, getLsbD_maskOf _ 8 hi, decide_eq_true hi, Bool.true_and]

theorem and_shiftLeft_ne_zero (mask : Byte) {i : ℕ} (hi : i < 8) :
    mask &&& 1#8 <<< i ≠ 0 ↔ mask.getLsbD i = true := by
  rw [← BitVec.twoPow_eq, BitVec.and_twoPow]
  cases mask.getLsbD i with
  | false => simp
  | true =>
    have hbit : (BitVec.twoPow 8 i).getLsbD i = true := by simp [hi]
    refine iff_of_true (fun h => ?_) rfl
    rw [if_pos rfl] at h
    simp [h] at hbit

theorem readsBack_putNonZero {bytes : List Byte} (hlength : bytes.length = 8) :
    ReadsBack bytesCoupling (putNonZero bytes) (readNonZero (nonZeroMask bytes)) bytes := by
  have hvalues : (List.range 8).map (fun i => bytes.getD i 0) = bytes := by
    refine List.ext_getElem (by simp [hlength]) fun i _ hi => ?_
    simp [hi]
  have hbyte (i : ℕ) (hi : i ∈ List.range 8) : ReadsBack bytesCoupling
      (fun packet => if bytes.getD i 0 ≠ 0 then packet.put [bytes.getD i 0] else packet)
      (if nonZeroMask bytes &&& 1#8 <<< i ≠ 0 then readUint8 else return 0)
      (bytes.getD i 0) := by
    have hlt := List.mem_range.mp hi
    have hmask := (and_shiftLeft_ne_zero (nonZeroMask bytes) hlt).trans
      (by rw [getLsbD_nonZeroMask bytes hlt, decide_eq_true_eq])
    by_cases hzero : bytes.getD i 0 = 0
    · simp only [hmask, hzero, ne_eq, not_true_eq_false, if_false]
      exact .pure 0
    · simp only [hmask, hzero, ne_eq, not_false_eq_true, if_true]
      exact readsBack_readUint8 _
  have h := ReadsBack.mapM hbyte
  rw [hvalues] at h
  exact h

theorem readsBack_writePackedGuid (guid : ObjectGuid) :
    ReadsBack packetCoupling (writePackedGuid guid) readPackedGuid guid := by
  have hlow := readsBack_putNonZero (length_leBytes 8 guid.low.toNat)
  have hhigh := readsBack_putNonZero (length_leBytes 8 guid.high.toNat)
  change ReadsBack packetCoupling (writePackedGuidUnflushed guid ∘ flushBits) _ guid
  refine readsBack_flushed ?_
  have hwrite : writePackedGuidUnflushed guid =
      (((id ∘ putNonZero (leBytes 8 guid.high.toNat)) ∘ putNonZero (leBytes 8 guid.low.toNat)) ∘
        put [nonZeroMask (leBytes 8 guid.high.toNat)]) ∘
        put [nonZeroMask (leBytes 8 guid.low.toNat)] := rfl
  rw [hwrite]
  refine (readsBack_readUint8 _).bind ?_
  refine (readsBack_readUint8 _).bind ?_
  refine hlow.bind ?_
  refine hhigh.bind ?_
  have hguid : (⟨BitVec.ofNat 64 (ofLeBytes (leBytes 8 guid.high.toNat)),
      BitVec.ofNat 64 (ofLeBytes (leBytes 8 guid.low.toNat))⟩ : ObjectGuid) = guid := by
    rw [ofLeBytes_leBytes_of_lt guid.high.isLt, ofLeBytes_leBytes_of_lt guid.low.isLt]
    simp
  simp only [hguid]
  exact .pure guid

/-! ## Sequences of writes -/

/-- A typed write with its value; `bits` takes the low `n` bits. -/
inductive Field
  | bit (v : Bool)
  | bits (v : BitVec 32) (n : ℕ)
  | uint8 (v : BitVec 8)
  | int8 (v : BitVec 8)
  | uint16 (v : BitVec 16)
  | int16 (v : BitVec 16)
  | uint32 (v : BitVec 32)
  | int32 (v : BitVec 32)
  | uint64 (v : BitVec 64)
  | int64 (v : BitVec 64)
  | guid (v : ObjectGuid)
  | packedGuid (v : ObjectGuid)
  | bytes (data : List Byte)
  | cstring (s : String)
  | flushBits

/-- What a reader has to know of a field before it reads it. -/
inductive FieldKind
  | bit
  | bits (n : ℕ)
  | uint8
  | int8
  | uint16
  | int16
  | uint32
  | int32
  | uint64
  | int64
  | guid
  | packedGuid
  | bytes (count : ℕ)
  | cstring
  | flushBits

namespace Field

def kind : Field → FieldKind
  | bit _ => .bit
  | bits _ n => .bits n
  | uint8 _ => .uint8
  | int8 _ => .int8
  | uint16 _ => .uint16
  | int16 _ => .int16
  | uint32 _ => .uint32
  | int32 _ => .int32
  | uint64 _ => .uint64
  | int64 _ => .int64
  | guid _ => .guid
  | packedGuid _ => .packedGuid
  | bytes data => .bytes data.length
  | cstring _ => .cstring
  | flushBits => .flushBits

def write : Field → WorldPacket → WorldPacket
  | bit v => writeBit v
  | bits v n => writeBits v n
  | uint8 v => writeUint8 v
  | int8 v => writeInt8 v
  | uint16 v => writeUint16 v
  | int16 v => writeInt16 v
  | uint32 v => writeUint32 v
  | int32 v => writeInt32 v
  | uint64 v => writeUint64 v
  | int64 v => writeInt64 v
  | guid v => writeGuid v
  | packedGuid v => writePackedGuid v
  | bytes data => writeBytes data
  | cstring s => writeCstring s
  | flushBits => WorldPacket.flushBits

/-- Bits fit their number, and strings have no NUL byte inside. -/
def Legal : Field → Prop
  | bits v n => n ≤ 32 ∧ v.toNat < 2 ^ n
  | cstring s => (0 : Byte) ∉ utf8Bytes s
  | _ => True

end Field

def FieldKind.read : FieldKind → PacketReader Field
  | bit => .bit <$> readBit
  | bits n => (Field.bits · n) <$> readBits n
  | uint8 => .uint8 <$> readUint8
  | int8 => .int8 <$> readInt8
  | uint16 => .uint16 <$> readUint16
  | int16 => .int16 <$> readInt16
  | uint32 => .uint32 <$> readUint32
  | int32 => .int32 <$> readInt32
  | uint64 => .uint64 <$> readUint64
  | int64 => .int64 <$> readInt64
  | guid => .guid <$> readGuid
  | packedGuid => .packedGuid <$> readPackedGuid
  | bytes count => .bytes <$> readBytes count
  | cstring => .cstring <$> readCstring
  | flushBits => (fun _ => Field.flushBits) <$> resetBits

theorem readsBack_field {field : Field} (h : field.Legal) :
    ReadsBack packetCoupling field.write field.kind.read field := by
  cases field with
  | bit v => exact (readsBack_writeBit v).map Field.bit
  | bits v n =>
    have hbits := readsBack_writeBits_loop v n (List.range n) List.length_range 0
    rw [shiftIn_zero h.2] at hbits
    exact hbits.map (Field.bits · n)
  | uint8 v => exact (readsBack_writeUint8 v).map Field.uint8
  | int8 v => exact (readsBack_writeUint8 v).map Field.int8
  | uint16 v => exact (readsBack_writeUint16 v).map Field.uint16
  | int16 v => exact (readsBack_writeUint16 v).map Field.int16
  | uint32 v => exact (readsBack_writeUint32 v).map Field.uint32
  | int32 v => exact (readsBack_writeUint32 v).map Field.int32
  | uint64 v => exact (readsBack_writeUint64 v).map Field.uint64
  | int64 v => exact (readsBack_writeUint64 v).map Field.int64
  | guid v => exact (readsBack_writeGuid v).map Field.guid
  | packedGuid v => exact (readsBack_writePackedGuid v).map Field.packedGuid
  | bytes data => exact (readsBack_writeBytes data).map Field.bytes
  | cstring s => exact (readsBack_writeCstring h).map Field.cstring
  | flushBits => exact readsBack_flushBits.map fun _ => Field.flushBits

/-- The packet with the fields in it, and all bits flushed. -/
def written (fields : List Field) : WorldPacket :=
  (fields.foldl (fun packet field => field.write packet) newEmpty).flushBits

def readFields (kinds : List FieldKind) : PacketReader (List Field) := do
  let fields ← kinds.mapM FieldKind.read
  resetBits
  return fields

theorem readsBack_fields {fields : List Field} (h : ∀ field ∈ fields, field.Legal) :
    ReadsBack packetCoupling
      (WorldPacket.flushBits ∘ fun packet => fields.foldl (fun packet field => field.write packet)
        packet)
      (readFields (fields.map Field.kind)) fields := by
  have hfields := ReadsBack.mapM fun field hfield => readsBack_field (h field hfield)
  rw [List.map_id'] at hfields
  rw [readFields, List.mapM_map]
  refine hfields.bind ?_
  have hflush := readsBack_flushBits.seq (.pure (c := packetCoupling) (ε := PacketError) fields)
  exact hflush

/-- The matching reads give back the fields, in order, and nothing is left. -/
theorem reading_undoes_writing (fields : List Field) (h : ∀ field ∈ fields, field.Legal) :
    ∃ packet, readFields (fields.map Field.kind) (fromBytes (written fields).data) =
        .ok fields packet ∧ packet.remaining = 0 := by
  have hback := readsBack_fields h
  have hready : packetCoupling.Ready newEmpty := ⟨by decide, fun i _ => by simp [newEmpty]⟩
  have hpos : (written fields).wbitPos = 0 := wbitPos_flushBits _
  have hagrees : packetCoupling.Agrees (written fields) (written fields).data :=
    ⟨List.prefix_rfl, fun hpending => absurd hpos (Nat.pos_iff_ne_zero.mp hpending)⟩
  have hcoupled : packetCoupling.Coupled newEmpty (written fields).data
      (fromBytes (written fields).data) :=
    ⟨rfl, fun _ => ⟨rfl, rfl⟩, fun hpending => absurd hpending (Nat.lt_irrefl 0)⟩
  obtain ⟨values, packet, hrun, rfl, hdata, hend, -⟩ :=
    hback.reads newEmpty _ _ hready hagrees hcoupled
  refine ⟨packet, hrun, ?_⟩
  rw [remaining, hdata, (hend hpos).1]
  exact Nat.sub_self _

theorem reading_undoes_writing_mixed :
    ∃ packet, readFields [.bit, .bits 3, .uint16, .packedGuid, .cstring]
        (fromBytes (written [.bit true, .bits 5 3, .uint16 7, .packedGuid ⟨0, 1⟩,
          .cstring "ok"]).data) =
      .ok [.bit true, .bits 5 3, .uint16 7, .packedGuid ⟨0, 1⟩, .cstring "ok"] packet ∧
        packet.remaining = 0 :=
  reading_undoes_writing [.bit true, .bits 5 3, .uint16 7, .packedGuid ⟨0, 1⟩, .cstring "ok"]
    (by simp [Field.Legal]; decide)

end RustyCore.Packet
