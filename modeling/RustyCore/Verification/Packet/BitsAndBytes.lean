import RustyCore.Library.Fallible
import RustyCore.Model.Packet.WorldPacket

/-! # Bits and bytes of a packet are read back

The reader stands where the writer stood: at the same byte as long as the writer has no pending
bits, and else inside the byte that the pending bits will become. -/

namespace RustyCore.Packet

open WorldPacket

variable {w r : WorldPacket} {out : List Byte}

/-! ## Whole bytes -/

/-- Writer and reader at the boundary of a byte. -/
def bytesCoupling : Coupling WorldPacket (List Byte) WorldPacket where
  Ready w := w.wbitPos = 0 ∧ w.wbitBuf = 0
  Agrees w out := w.data <+: out
  Coupled w out r := r.data = out ∧ r.readPos = w.data.length ∧ r.bitPos = 0

theorem readsBack_takeBytes (bytes : List Byte) :
    ReadsBack bytesCoupling (put bytes) (takeBytes bytes.length) bytes where
  ready _ h := h
  agrees w _ _ h := (List.prefix_append w.data bytes).trans h
  reads w out r _ hout hr := by
    obtain ⟨rest, hrest⟩ := hout
    obtain ⟨hdata, hpos, hbit⟩ := hr
    have hsplit : r.data = w.data ++ (bytes ++ rest) := by
      rw [hdata, ← hrest, put, List.append_assoc]
    have hroom : ¬ r.remaining < bytes.length := by
      rw [remaining, hsplit, hpos]
      simp only [List.length_append]
      omega
    refine ⟨bytes, { r with readPos := r.readPos + bytes.length }, ?_, rfl, hdata, ?_, hbit⟩
    · have htake : (r.data.drop r.readPos).take bytes.length = bytes := by
        rw [hsplit, hpos, List.drop_left, List.take_left]
      change (takeBytes bytes.length).run r = _
      simp [takeBytes, ensureReadable, hroom, htake]
    · simp [hpos, put]

theorem readsBack_resetBitReader : ReadsBack bytesCoupling id resetBitReader () where
  ready _ h := h
  agrees _ _ _ h := h
  reads _ _ r _ _ hr :=
    ⟨(), { r with bitBuf := 0, bitPos := 0 }, rfl, rfl, hr.1, hr.2.1, rfl⟩

theorem readsBack_readBytes (bytes : List Byte) :
    ReadsBack bytesCoupling (put bytes) (readBytes bytes.length) bytes := by
  have h := readsBack_resetBitReader.seq (readsBack_takeBytes bytes)
  exact h

theorem readsBack_readUint8 (v : BitVec 8) : ReadsBack bytesCoupling (put [v]) readUint8 v := by
  have h := ((readsBack_readBytes [v]).map ofLeBytes).map (BitVec.ofNat 8)
  have hv : BitVec.ofNat 8 (ofLeBytes [v]) = v := by simp [ofLeBytes]
  rw [hv] at h
  exact h

/-! ## Pending bits -/

/-- The byte behind the whole ones agrees with the bits that the writer has set so far. -/
def PendingByte (w : WorldPacket) (out : List Byte) : Prop :=
  ∃ byte, out[w.data.length]? = some byte ∧
    ∀ i, 8 - w.wbitPos ≤ i → i < 8 → byte.getLsbD i = w.wbitBuf.getLsbD i

/-- Writer and reader anywhere. -/
def packetCoupling : Coupling WorldPacket (List Byte) WorldPacket where
  Ready w := w.wbitPos < 8 ∧ ∀ i, i < 8 - w.wbitPos → w.wbitBuf.getLsbD i = false
  Agrees w out := w.data <+: out ∧ (0 < w.wbitPos → PendingByte w out)
  Coupled w out r := r.data = out ∧
    (w.wbitPos = 0 → r.readPos = w.data.length ∧ r.bitPos = 0) ∧
    (0 < w.wbitPos → r.readPos = w.data.length + 1 ∧ r.bitPos = 8 - w.wbitPos ∧
      out[w.data.length]? = some r.bitBuf)

theorem getElem?_of_append_prefix {w : List Byte} {byte : Byte} (h : w ++ [byte] <+: out) :
    out[w.length]? = some byte := by
  obtain ⟨rest, hrest⟩ := h
  simp [← hrest]

@[simp] theorem wbitPos_flushBits (w : WorldPacket) : w.flushBits.wbitPos = 0 := by
  unfold flushBits
  split
  · rfl
  · omega

theorem ready_flushBits (h : packetCoupling.Ready w) : bytesCoupling.Ready w.flushBits := by
  unfold flushBits
  split
  case isTrue => exact ⟨rfl, rfl⟩
  case isFalse hzero =>
    have hpos : w.wbitPos = 0 := by omega
    refine ⟨hpos, BitVec.eq_of_getLsbD_eq fun i hi => ?_⟩
    rw [h.2 i (by omega)]
    simp

theorem agrees_of_flushBits (h : bytesCoupling.Agrees w.flushBits out) :
    packetCoupling.Agrees w out := by
  have hout : w.flushBits.data <+: out := h
  unfold flushBits at hout
  split at hout
  case isTrue hpos =>
    have hbyte : w.data ++ [w.wbitBuf] <+: out := hout
    exact ⟨(List.prefix_append _ _).trans hbyte, fun _ =>
      ⟨w.wbitBuf, getElem?_of_append_prefix hbyte, fun _ _ _ => rfl⟩⟩
  case isFalse hzero => exact ⟨hout, fun hpos => absurd hpos hzero⟩

theorem coupled_flushBits (h : packetCoupling.Coupled w out r) :
    bytesCoupling.Coupled w.flushBits out { r with bitBuf := 0, bitPos := 0 } := by
  obtain ⟨hdata, hzero, hpending⟩ := h
  refine ⟨hdata, ?_, rfl⟩
  unfold flushBits
  split
  case isTrue hpos => simpa [put] using (hpending hpos).1
  case isFalse hnot => exact (hzero (by omega)).1

/-- Writes of whole bytes flush the pending bits first, and reads of whole bytes drop what is left
of the bits. -/
theorem readsBack_flushed {α : Type} {write : WorldPacket → WorldPacket} {read : PacketReader α}
    {v : α} (h : ReadsBack bytesCoupling write read v) :
    ReadsBack packetCoupling (write ∘ flushBits) (resetBitReader >>= fun _ => read) v where
  ready w hw := by
    obtain ⟨hpos, hbuf⟩ := h.ready _ (ready_flushBits hw)
    have hpos' : ((write ∘ flushBits) w).wbitPos = 0 := hpos
    refine ⟨by omega, fun i _ => ?_⟩
    change (write w.flushBits).wbitBuf.getLsbD i = false
    rw [hbuf]
    simp
  agrees w out hw hout := agrees_of_flushBits (h.agrees _ out (ready_flushBits hw) hout.1)
  reads w out r hw hout hr := by
    have hflushed := coupled_flushBits hr
    obtain ⟨a, r', hrun, ha, hcoupled⟩ := h.reads _ out _ (ready_flushBits hw) hout.1 hflushed
    have hpos : (write w.flushBits).wbitPos = 0 := (h.ready _ (ready_flushBits hw)).1
    refine ⟨a, r', hrun, ha, hcoupled.1, fun _ => hcoupled.2, fun hpos' => ?_⟩
    exact absurd hpos (Nat.pos_iff_ne_zero.mp hpos')

theorem readsBack_flushBits : ReadsBack packetCoupling flushBits resetBits () := by
  have h := readsBack_flushed (ReadsBack.pure (c := bytesCoupling) (ε := PacketError) ())
  exact h

/-! ## Single bits -/

theorem shiftRight_and_one {k : ℕ} (hk : 0 < k) (x : BitVec k) (n : ℕ) :
    (x >>> n &&& 1#k == 1#k) = x.getLsbD n := by
  rw [Bool.eq_iff_iff, beq_iff_eq]
  constructor
  · intro h
    have hbit := congrArg (fun y => BitVec.getLsbD y 0) h
    simpa [hk] using hbit
  · intro h
    apply BitVec.eq_of_getLsbD_eq
    intro i _
    by_cases hi : i = 0
    · subst hi
      simp [h, hk]
    · simp [hi]

theorem getLsbD_setBit (buf : Byte) (v : Bool) {i pos : ℕ} (hi : i < 8) (hpos : pos < 8) :
    (if v then buf ||| 1#8 <<< (8 - (pos + 1)) else buf).getLsbD i =
      (buf.getLsbD i || v && decide (i = 7 - pos)) := by
  cases v with
  | false => simp
  | true =>
    have hbit : (1#8 <<< (8 - (pos + 1))).getLsbD i = decide (i = 7 - pos) := by
      rw [BitVec.getLsbD_shiftLeft, BitVec.getLsbD_one, Bool.eq_iff_iff]
      simp only [Bool.and_eq_true, decide_eq_true_eq, Bool.not_eq_true', decide_eq_false_iff_not]
      omega
    rw [if_pos rfl, BitVec.getLsbD_or, hbit, Bool.true_and]

/-- Whether it completes its byte or not, a written bit ends up in the output. -/
theorem byte_of_writeBit {v : Bool} (hw : packetCoupling.Ready w)
    (h : packetCoupling.Agrees (w.writeBit v) out) :
    w.data <+: out ∧ ∃ byte, out[w.data.length]? = some byte ∧
      ∀ i, 7 - w.wbitPos ≤ i → i < 8 →
        byte.getLsbD i = (w.wbitBuf.getLsbD i || v && decide (i = 7 - w.wbitPos)) := by
  obtain ⟨hinitial, hpending⟩ := h
  unfold writeBit at hinitial hpending
  by_cases hfull : w.wbitPos + 1 = 8
  · simp only [if_pos hfull] at hinitial
    refine ⟨(List.prefix_append _ _).trans hinitial, _, getElem?_of_append_prefix hinitial, ?_⟩
    exact fun i _ hi => getLsbD_setBit w.wbitBuf v hi hw.1
  · simp only [if_neg hfull] at hinitial hpending
    obtain ⟨byte, hbyte, hbits⟩ := hpending (Nat.succ_pos _)
    refine ⟨hinitial, byte, hbyte, fun i hle hi => ?_⟩
    rw [hbits i (by simpa using hle) hi]
    exact getLsbD_setBit w.wbitBuf v hi hw.1

theorem ready_writeBit (v : Bool) (hw : packetCoupling.Ready w) :
    packetCoupling.Ready (w.writeBit v) := by
  have hlt := hw.1
  unfold writeBit
  by_cases hfull : w.wbitPos + 1 = 8
  · simp only [if_pos hfull]
    exact ⟨Nat.zero_lt_succ 7, fun i _ => by simp⟩
  · simp only [if_neg hfull]
    refine ⟨by simp only; omega, fun i hi => ?_⟩
    simp only at hi ⊢
    rw [getLsbD_setBit w.wbitBuf v (by omega) hlt, hw.2 i (by omega)]
    simp
    omega

theorem readBit_of_pending (h : 0 < r.bitPos) :
    readBit r = .ok (r.bitBuf.getLsbD (r.bitPos - 1)) { r with bitPos := r.bitPos - 1 } := by
  have hne : r.bitPos ≠ 0 := by omega
  change readBit.run r = _
  simp [readBit, hne, shiftRight_and_one]

theorem readBit_of_boundary {byte : Byte} (h : r.bitPos = 0)
    (hbyte : r.data[r.readPos]? = some byte) :
    readBit r =
      .ok (byte.getLsbD 7) { r with bitBuf := byte, readPos := r.readPos + 1, bitPos := 7 } := by
  obtain ⟨hlt, hget⟩ := List.getElem?_eq_some_iff.mp hbyte
  have hroom : r.remaining ≠ 0 := by
    rw [remaining]
    omega
  change readBit.run r = _
  simp only [readBit, ensureReadable, Nat.lt_one_iff, BitVec.ofNat_eq_ofNat, Nat.zero_lt_succ,
    List.getD_eq_getElem?_getD, shiftRight_and_one, LawfulMonadStateOf.set_bind_modifyGet,
    Nat.add_one_sub_one, Nat.lt_add_one, BitVec.getLsbD_eq_getElem, bind_pure_comp, bind_assoc,
    EStateM.run_bind, EStateM.run_get, h, if_true, hbyte, Option.getD_some, hroom, pure_bind]
  rfl

theorem coupled_writeBit (v : Bool) (hlt : w.wbitPos < 8) (hdata : r.data = out)
    (hread : r.readPos = w.data.length + 1) (hbit : r.bitPos = 7 - w.wbitPos)
    (hbyte : out[w.data.length]? = some r.bitBuf) :
    packetCoupling.Coupled (w.writeBit v) out r := by
  refine ⟨hdata, ?_⟩
  unfold writeBit
  by_cases hfull : w.wbitPos + 1 = 8
  · simp only [if_pos hfull]
    refine ⟨fun _ => ⟨by simpa [put] using hread, by omega⟩, fun hpos => ?_⟩
    exact absurd hpos (Nat.lt_irrefl 0)
  · simp only [if_neg hfull]
    exact ⟨fun hzero => absurd hzero (Nat.succ_ne_zero _), fun _ => ⟨hread, by omega, hbyte⟩⟩

theorem readsBack_writeBit (v : Bool) : ReadsBack packetCoupling (writeBit v) readBit v where
  ready w hw := ready_writeBit v hw
  agrees w out hw hout := by
    obtain ⟨hinitial, byte, hbyte, hbits⟩ := byte_of_writeBit hw hout
    have hlt : w.wbitPos < 8 := hw.1
    have hpending (hpos : 0 < w.wbitPos) : PendingByte w out := by
      refine ⟨byte, hbyte, fun i hle hi => ?_⟩
      have hne : i ≠ 7 - w.wbitPos := by omega
      simp [hbits i (by omega) hi, hne]
    exact ⟨hinitial, hpending⟩
  reads w out r hw hout hr := by
    obtain ⟨-, byte, hbyte, hbits⟩ := byte_of_writeBit hw hout
    obtain ⟨hdata, hzero, hpending⟩ := hr
    have hlt : w.wbitPos < 8 := hw.1
    have hold : w.wbitBuf.getLsbD (7 - w.wbitPos) = false := hw.2 (7 - w.wbitPos) (by omega)
    have hv : byte.getLsbD (7 - w.wbitPos) = v := by
      simp [hbits _ le_rfl (by omega), hold]
    by_cases hpos : w.wbitPos = 0
    · obtain ⟨hread, hbit⟩ := hzero hpos
      have hnext : r.data[r.readPos]? = some byte := by rw [hdata, hread, hbyte]
      refine ⟨_, _, readBit_of_boundary hbit hnext, by simpa [hpos] using hv, ?_⟩
      exact coupled_writeBit v hlt hdata (congrArg (· + 1) hread) (by simp [hpos]) hbyte
    · obtain ⟨hread, hbit, hbuf⟩ := hpending (by omega)
      have hsame : r.bitBuf = byte := Option.some.inj (hbuf.symm.trans hbyte)
      have hat : r.bitPos - 1 = 7 - w.wbitPos := by omega
      refine ⟨_, _, readBit_of_pending (by omega), by rw [hat, hsame, hv], ?_⟩
      exact coupled_writeBit v hlt hdata hread hat hbuf

/-- The value whose bits below `n` are those of `value`, and above them those of `read`. -/
def shiftIn (value : BitVec 32) : ℕ → BitVec 32 → BitVec 32
  | 0, read => read
  | n + 1, read => shiftIn value n ((read <<< 1) ||| if value.getLsbD n then 1 else 0)

theorem getLsbD_shiftIn (value : BitVec 32) (n : ℕ) (read : BitVec 32) {i : ℕ} (hi : i < 32) :
    (shiftIn value n read).getLsbD i =
      if i < n then value.getLsbD i else read.getLsbD (i - n) := by
  induction n generalizing read with
  | zero => rfl
  | succ n ih =>
    rw [shiftIn, ih]
    by_cases hlt : i < n
    · simp [hlt, Nat.lt_succ_of_lt hlt]
    · have hbit : (if value.getLsbD n then 1 else 0 : BitVec 32).getLsbD (i - n) =
          (value.getLsbD n && decide (i - n = 0)) := by
        cases value.getLsbD n <;> simp
      rw [if_neg hlt, BitVec.getLsbD_or, hbit, BitVec.getLsbD_shiftLeft]
      by_cases heq : i = n
      · simp [heq]
      · have hge : ¬ i < n + 1 := by omega
        have hpos : i - n ≠ 0 := by omega
        have hin : i - n < 32 := by omega
        have hsub : i - n - 1 = i - (n + 1) := by omega
        simp [hge, hpos, hin, hsub]

theorem shiftIn_zero {value : BitVec 32} {n : ℕ} (h : value.toNat < 2 ^ n) :
    shiftIn value n 0 = value := by
  apply BitVec.eq_of_getLsbD_eq
  intro i hi
  rw [getLsbD_shiftIn value n 0 hi]
  split
  case isTrue => rfl
  case isFalse hle =>
    have hbit : value.getLsbD i = false :=
      Nat.testBit_lt_two_pow (h.trans_le (Nat.pow_le_pow_right (by omega) (by omega)))
    simp [hbit]

theorem readsBack_writeBits_loop (value : BitVec 32) (n : ℕ) (l : List ℕ) (hl : l.length = n)
    (read : BitVec 32) :
    ReadsBack packetCoupling (writeBits value n)
      (l.foldlM (fun (value : BitVec 32) _ => do
        let bit ← readBit
        return (value <<< 1) ||| if bit then 1 else 0) read)
      (shiftIn value n read) := by
  induction n generalizing l read with
  | zero =>
    rw [List.length_eq_zero_iff.mp hl]
    exact ReadsBack.pure read
  | succ n ih =>
    cases l with
    | nil => cases hl
    | cons i l =>
      have hlength : l.length = n := Nat.succ.inj hl
      have hwrite (w : WorldPacket) :
          w.writeBits value (n + 1) = (writeBits value n ∘ writeBit (value.getLsbD n)) w := by
        simp [writeBits, List.range_succ, shiftRight_and_one]
      have hrest := ih l hlength ((read <<< 1) ||| if value.getLsbD n then 1 else 0)
      refine ReadsBack.congr ?_ hwrite
      rw [List.foldlM_cons, bind_assoc]
      refine (readsBack_writeBit (value.getLsbD n)).bind ?_
      simpa [shiftIn] using hrest

end RustyCore.Packet
