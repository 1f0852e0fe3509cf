import RustyCore.Model.Packet.Compression

/-! # When compressed packets are complete

The loop stops at the first call that makes no progress and at the first one that has read
the last byte. The packet is complete if the output space that it starts with is enough. -/

namespace RustyCore.Packet

open StreamEncoder

/-! ## Checksums -/

/-- One byte into both sums. -/
def adlerStep (s : ℕ × ℕ) (byte : Byte) : ℕ × ℕ :=
  ((s.1 + byte.toNat) % adler32Mod, (s.2 + (s.1 + byte.toNat) % adler32Mod) % adler32Mod)

theorem adlerSums_lt (data : List Byte) {s : ℕ × ℕ} (h : s.1 < 0x10000 ∧ s.2 < 0x10000) :
    (data.foldl adlerStep s).1 < 0x10000 ∧ (data.foldl adlerStep s).2 < 0x10000 := by
  induction data generalizing s with
  | nil => exact h
  | cons byte data ih =>
    refine ih ⟨?_, ?_⟩
    · exact (Nat.mod_lt _ (by decide)).trans (by decide)
    · exact (Nat.mod_lt _ (by decide)).trans (by decide)

/-- The sums after the bytes, from the two halves of a checksum on. -/
def adlerSums (data : List Byte) (init : BitVec 32) : ℕ × ℕ :=
  data.foldl adlerStep (init.toNat % 0x10000, init.toNat / 0x10000 % 0x10000)

theorem adler32WithInit_eq (data : List Byte) (init : BitVec 32) :
    adler32WithInit data init =
      BitVec.ofNat 32 ((adlerSums data init).2 * 0x10000 + (adlerSums data init).1) := rfl

theorem adler32WithInit_append (left right : List Byte) (init : BitVec 32) :
    adler32WithInit (left ++ right) init =
      adler32WithInit right (adler32WithInit left init) := by
  have hstart : init.toNat % 0x10000 < 0x10000 ∧ init.toNat / 0x10000 % 0x10000 < 0x10000 :=
    ⟨Nat.mod_lt _ (by decide), Nat.mod_lt _ (by decide)⟩
  obtain ⟨hfst, hsnd⟩ := adlerSums_lt left
    (s := (init.toNat % 0x10000, init.toNat / 0x10000 % 0x10000)) hstart
  have htoNat : (adler32WithInit left init).toNat =
      (adlerSums left init).2 * 0x10000 + (adlerSums left init).1 := by
    rw [adler32WithInit_eq, BitVec.toNat_ofNat]
    refine Nat.mod_eq_of_lt ?_
    unfold adlerSums
    omega
  have hhalves : ((adler32WithInit left init).toNat % 0x10000,
      (adler32WithInit left init).toNat / 0x10000 % 0x10000) = adlerSums left init := by
    rw [htoNat]
    unfold adlerSums
    refine Prod.ext ?_ ?_
    · dsimp only
      omega
    · dsimp only
      omega
  have hsums : adlerSums (left ++ right) init =
      adlerSums right (adler32WithInit left init) := by
    rw [adlerSums, List.foldl_append]
    exact congrArg (right.foldl adlerStep ·) hhalves.symm
  rw [adler32WithInit_eq, hsums, ← adler32WithInit_eq]

/-! ## The loop -/

section Loop

variable {σ : Type} {z : StreamEncoder σ} {start : σ} {Flushed : σ → Prop}
  {decode : List Byte → List Byte}

theorem length_writeAt {output bytes : List Byte} {n : ℕ} (h : n + bytes.length ≤ output.length) :
    (writeAt output n bytes).length = output.length := by
  unfold writeAt
  simp only [List.length_append, List.length_take, List.length_drop]
  omega

theorem take_writeAt {output bytes : List Byte} {n : ℕ} (h : n + bytes.length ≤ output.length) :
    (writeAt output n bytes).take (n + bytes.length) = output.take n ++ bytes := by
  have hlength : (output.take n ++ bytes).length = n + bytes.length := by
    rw [List.length_append, List.length_take]
    omega
  unfold writeAt
  rw [← hlength, List.take_left]

/-- The loop inside one packet: `k` bytes of the input are read, `w` is written. `read` and
`written` are what the stream had read and written before. -/
structure LoopAt (z : StreamEncoder σ) (start : σ) (read written input : List Byte)
    (baseIn baseOut : ℕ) (c : Compress σ) (output : List Byte) (k : ℕ) (w : List Byte) : Prop where
  reached : Reached z start c.inner (read ++ input.take k) (written ++ w)
  totalIn : c.totalIn = baseIn + k
  totalOut : c.totalOut = baseOut + w.length
  kept : output.take w.length = w
  fits : w.length ≤ output.length
  le : k ≤ input.length

variable {read written input output w : List Byte} {baseIn baseOut k : ℕ} {c : Compress σ}

theorem LoopAt.call (hz : z.Contract start Flushed decode)
    (h : LoopAt z start read written input baseIn baseOut c output k w) {answer : StreamAnswer σ}
    (hanswer : answer = z c.inner (input.drop k) (output.length - w.length)) :
    LoopAt z start read written input baseIn baseOut (c.after answer)
      (writeAt output w.length answer.output) (k + answer.consumed) (w ++ answer.output) := by
  subst hanswer
  have hconsumed := hz.consumed_le h.reached (input.drop k) (output.length - w.length)
  have houtput := hz.output_le h.reached (input.drop k) (output.length - w.length)
  have hfits := h.fits
  have hle := h.le
  rw [List.length_drop] at hconsumed
  generalize hanswer : z c.inner (input.drop k) (output.length - w.length) = answer at *
  have hroom : w.length + answer.output.length ≤ output.length := by omega
  refine ⟨?_, ?_, ?_, ?_, ?_, by omega⟩
  · have hcall := h.reached.call (input.drop k) (output.length - w.length)
    rw [hanswer] at hcall
    rwa [List.take_add, ← List.append_assoc, ← List.append_assoc]
  · rw [Compress.after, h.totalIn, Nat.add_assoc]
  · rw [Compress.after, h.totalOut, List.length_append, Nat.add_assoc]
  · rw [List.length_append, take_writeAt hroom, h.kept]
  · rw [List.length_append, length_writeAt hroom]
    exact hroom

theorem LoopAt.grow (h : LoopAt z start read written input baseIn baseOut c output k w)
    (more : List Byte) :
    LoopAt z start read written input baseIn baseOut c (output ++ more) k w := by
  refine ⟨h.reached, h.totalIn, h.totalOut, ?_, ?_, h.le⟩
  · rw [List.take_append_of_le_length h.fits, h.kept]
  · rw [List.length_append]
    exact h.fits.trans (Nat.le_add_right _ _)

section Round

variable {answer : StreamAnswer σ} {fuel : ℕ}

theorem LoopAt.totals_after (h : LoopAt z start read written input baseIn baseOut c output k w)
    (answer : StreamAnswer σ) :
    c.totalIn - baseIn = k ∧ c.totalOut - baseOut = w.length ∧
      (c.after answer).totalIn - baseIn = k + answer.consumed ∧
      (c.after answer).totalOut - baseOut = w.length + answer.output.length := by
  unfold Compress.after
  dsimp only
  rw [h.totalIn, h.totalOut]
  omega

/-- A round that ends the loop, or goes into the next one. -/
theorem compressLoop_ok (h : LoopAt z start read written input baseIn baseOut c output k w)
    (hanswer : z c.inner (input.drop k) (output.length - w.length) = answer)
    (hstatus : answer.status = .ok) :
    compressLoop z input baseIn baseOut (fuel + 1) c output =
      if input.length ≤ k + answer.consumed ∨
          (k + answer.consumed = k ∧ w.length + answer.output.length = w.length) then
        some (c.after answer, writeAt output w.length answer.output)
      else
        compressLoop z input baseIn baseOut fuel (c.after answer)
          (writeAt output w.length answer.output) := by
  obtain ⟨hin, hout, hin', hout'⟩ := h.totals_after answer
  rw [compressLoop]
  simp only [hin, hout, hanswer, hin', hout', hstatus]

theorem compressLoop_bufError
    (h : LoopAt z start read written input baseIn baseOut c output k w)
    (hanswer : z c.inner (input.drop k) (output.length - w.length) = answer)
    (hstatus : answer.status = .bufError)
    (hstuck : k + answer.consumed = k ∧ w.length + answer.output.length = w.length) :
    ∃ more, compressLoop z input baseIn baseOut (fuel + 1) c output =
      some (c.after answer, writeAt output w.length answer.output ++ more) := by
  obtain ⟨hin, hout, hin', hout'⟩ := h.totals_after answer
  rw [compressLoop]
  simp only [hin, hout, hanswer, hin', hout', hstatus]
  exact ⟨_, if_pos hstuck⟩

theorem compressLoop_streamEnd
    (h : LoopAt z start read written input baseIn baseOut c output k w)
    (hanswer : z c.inner (input.drop k) (output.length - w.length) = answer)
    (hstatus : answer.status = .streamEnd) :
    compressLoop z input baseIn baseOut (fuel + 1) c output =
      some (c.after answer, writeAt output w.length answer.output) := by
  obtain ⟨hin, hout, -, -⟩ := h.totals_after answer
  rw [compressLoop]
  simp only [hin, hout, hanswer, hstatus]

end Round

/-- The loop ends, and it has read everything and left nothing to write if and only if the
encoder gets by with the space. -/
theorem compressLoop_eq (hz : z.Contract start Flushed decode) {fuel : ℕ}
    (h : LoopAt z start read written input baseIn baseOut c output k w) (hk : k < input.length)
    (hfuel : (input.length - k) + (output.length - w.length) < fuel) :
    ∃ c' output' k' w', compressLoop z input baseIn baseOut fuel c output = some (c', output') ∧
      LoopAt z start read written input baseIn baseOut c' output' k' w' ∧
      ∀ s, Drains z Flushed c.inner (input.drop k) (output.length - w.length) s ↔
        k' = input.length ∧ Flushed c'.inner ∧ s = c'.inner := by
  induction fuel generalizing c output k w with
  | zero => omega
  | succ fuel ih =>
    obtain ⟨answer, hanswer⟩ : ∃ answer,
        z c.inner (input.drop k) (output.length - w.length) = answer := ⟨_, rfl⟩
    have hcall := h.call hz hanswer.symm
    have hconsumed := hz.consumed_le h.reached (input.drop k) (output.length - w.length)
    have houtput := hz.output_le h.reached (input.drop k) (output.length - w.length)
    have hfits := h.fits
    rw [hanswer] at hconsumed houtput
    rw [List.length_drop] at hconsumed
    -- a round in vain leaves input unread, and the encoder does not get by
    have hstop : k + answer.consumed = k ∧ w.length + answer.output.length = w.length →
        ∀ s, Drains z Flushed c.inner (input.drop k) (output.length - w.length) s ↔
          k + answer.consumed = input.length ∧ Flushed (c.after answer).inner ∧
            s = (c.after answer).inner := by
      rintro ⟨hsameIn, hsameOut⟩ s
      have hinput : input.drop k ≠ [] := by
        rw [ne_eq, List.drop_eq_nil_iff]
        omega
      have hnothing : answer.output = [] := List.length_eq_zero_iff.mp (by omega)
      refine iff_of_false (not_drains_of_stuck hinput ?_ ?_) fun hall => by omega
      · rw [hanswer]
        omega
      · rw [hanswer, hnothing]
    have hdone : k + answer.consumed = input.length →
        ∀ s, Drains z Flushed c.inner (input.drop k) (output.length - w.length) s ↔
          k + answer.consumed = input.length ∧ Flushed (c.after answer).inner ∧
            s = (c.after answer).inner := by
      intro hall s
      rw [drains_iff_of_read (by rw [hanswer, List.length_drop]; omega), hanswer]
      exact (and_iff_right hall).symm
    cases hstatus : answer.status with
    | ok =>
      rw [compressLoop_ok h hanswer hstatus]
      split_ifs with hend
      · refine ⟨_, _, _, _, rfl, hcall, ?_⟩
        rcases hend with hall | hsame
        · exact hdone (by omega)
        · exact hstop hsame
      · rw [not_or] at hend
        have hlength : (writeAt output w.length answer.output).length = output.length :=
          length_writeAt (by omega)
        have hprogress : answer.consumed ≠ 0 ∨ answer.output ≠ [] := by
          rw [← List.length_pos_iff]
          omega
        obtain ⟨c', output', k', w', hrun, hat, hiff⟩ := ih hcall (by omega) (by
          rw [hlength, List.length_append]
          omega)
        have hmore : ∀ s, Drains z Flushed c.inner (input.drop k) (output.length - w.length) s ↔
            Drains z Flushed answer.next (input.drop (k + answer.consumed))
              (output.length - (w.length + answer.output.length)) s := by
          intro s
          rw [drains_iff_of_more (by rw [hanswer, List.length_drop]; omega)
            (by rw [hanswer]; exact hprogress), hanswer, List.drop_drop, Nat.sub_sub]
        refine ⟨c', output', k', w', hrun, hat, fun s => (hmore s).trans ?_⟩
        rw [← hiff s, hlength, List.length_append]
        rfl
    | bufError =>
      have hrefused := hz.bufError h.reached (input.drop k) (output.length - w.length)
      rw [hanswer] at hrefused
      obtain ⟨hnone, hnothing⟩ := hrefused hstatus
      have hsame : k + answer.consumed = k ∧ w.length + answer.output.length = w.length := by
        rw [hnone, hnothing]
        exact ⟨rfl, rfl⟩
      obtain ⟨more, hrun⟩ := compressLoop_bufError h hanswer hstatus hsame
      exact ⟨_, _, _, _, hrun, hcall.grow more, hstop hsame⟩
    | streamEnd =>
      have hended := hz.streamEnd h.reached (input.drop k) (output.length - w.length)
      rw [hanswer, List.length_drop] at hended
      exact ⟨_, _, _, _, compressLoop_streamEnd h hanswer hstatus, hcall,
        hdone (by have := (hended hstatus).1; omega)⟩

end Loop

/-! ## One packet -/

/-- A packet with the fields before its data. -/
def packetBytes (p : OutgoingPacket) (data : List Byte) : List Byte :=
  leBytes 4 (BitVec.ofNat 32 p.input.length).toNat ++ leBytes 4 (adler32 p.input).toNat ++
    leBytes 4 (adler32 data).toNat ++ data

section Fields

variable (p : OutgoingPacket) (data : List Byte)

theorem drop_packetBytes : (packetBytes p data).drop 12 = data := by
  have hlength : (leBytes 4 (BitVec.ofNat 32 p.input.length).toNat ++
      leBytes 4 (adler32 p.input).toNat ++ leBytes 4 (adler32 data).toNat).length = 12 := by
    simp
  rw [packetBytes, ← hlength, List.drop_left]

theorem ofLeBytes_leBytes_bitVec (value : BitVec 32) :
    ofLeBytes (leBytes 4 value.toNat) = value.toNat := by
  have hlt := value.isLt
  exact ofLeBytes_leBytes_of_lt (by omega)

theorem size_packetBytes :
    ofLeBytes ((packetBytes p data).take 4) = (BitVec.ofNat 32 p.input.length).toNat := by
  rw [packetBytes, List.append_assoc, List.append_assoc, List.take_append_of_le_length (by simp),
    List.take_of_length_le (by simp), ofLeBytes_leBytes_bitVec]

theorem uncompressedAdler_packetBytes :
    ofLeBytes (((packetBytes p data).drop 4).take 4) = (adler32 p.input).toNat := by
  have hlength := length_leBytes 4 (BitVec.ofNat 32 p.input.length).toNat
  rw [packetBytes, List.append_assoc, List.append_assoc, List.drop_left' hlength,
    List.take_append_of_le_length (by simp), List.take_of_length_le (by simp),
    ofLeBytes_leBytes_bitVec]

theorem compressedAdler_packetBytes :
    ofLeBytes (((packetBytes p data).drop 8).take 4) = (adler32 data).toNat := by
  have hlength : (leBytes 4 (BitVec.ofNat 32 p.input.length).toNat ++
      leBytes 4 (adler32 p.input).toNat).length = 8 := by
    simp
  rw [packetBytes, List.append_assoc (leBytes 4 _ ++ leBytes 4 _), List.drop_left' hlength,
    List.take_append_of_le_length (by simp), List.take_of_length_le (by simp),
    ofLeBytes_leBytes_bitVec]

theorem toInt_size_iff (n : ℕ) : (BitVec.ofNat 32 n).toInt = n ↔ n < 0x80000000 := by
  rw [BitVec.toInt_eq_toNat_cond, BitVec.toNat_ofNat]
  split_ifs <;> omega

end Fields

section Packets

variable {σ : Type} {z : StreamEncoder σ} {start : σ} {Flushed : σ → Prop}
  {decode : List Byte → List Byte} {read written : List Byte} {c : Compress σ}

theorem compressPacketImpl_eq (hz : z.Contract start Flushed decode)
    (h : Reached z start c.inner read written) (p : OutgoingPacket) :
    ∃ c' k data, compressPacketImpl z c p = some (packetBytes p data, c') ∧
      Reached z start c'.inner (read ++ p.input.take k) (written ++ data) ∧
      c'.totalIn = c.totalIn + k ∧ k ≤ p.input.length ∧
      ∀ s, Drains z Flushed c.inner p.input (outBound p.input.length) s ↔
        k = p.input.length ∧ Flushed c'.inner ∧ s = c'.inner := by
  have hlength : p.input.length = 2 + p.payload.length := Nat.add_comm _ 2
  have hstart : LoopAt z start read written p.input c.totalIn c.totalOut c
      (List.replicate (outBound p.input.length) 0) 0 [] :=
    ⟨by simpa using h, rfl, rfl, rfl, Nat.zero_le _, Nat.zero_le _⟩
  have hfuel : (p.input.length - 0) +
      ((List.replicate (outBound p.input.length) (0 : Byte)).length - ([] : List Byte).length) <
      p.input.length + (List.replicate (outBound p.input.length) (0 : Byte)).length + 1 :=
    Nat.lt_succ_self _
  obtain ⟨c', output, k, data, hrun, hat, hiff⟩ := compressLoop_eq hz hstart (by omega) hfuel
  have hadler : adler32WithInit p.payload
      (adler32WithInit [p.opcodeBytes.1, p.opcodeBytes.2] adler32Init) = adler32 p.input :=
    (adler32WithInit_append [p.opcodeBytes.1, p.opcodeBytes.2] p.payload adler32Init).symm
  have hproduced : c'.totalOut - c.totalOut = data.length := by
    rw [hat.totalOut, Nat.add_sub_cancel_left]
  refine ⟨c', k, data, ?_, hat.reached, hat.totalIn, hat.le, ?_⟩
  · unfold compressPacketImpl
    dsimp only
    rw [← hlength, hrun, hadler]
    dsimp only [Option.bind_eq_bind, Option.bind_some]
    rw [hproduced, hat.kept]
    rfl
  · simpa using hiff

end Packets

/-! ## All packets of a connection -/

/-- A client that has inflated the packets before gets this one, and the fields match. -/
structure Delivered (decode : List Byte → List Byte) (sent : List Byte) (p : OutgoingPacket)
    (bytes : List Byte) : Prop where
  size : (BitVec.ofNat 32 (ofLeBytes (bytes.take 4))).toInt = p.input.length
  uncompressedAdler : ofLeBytes ((bytes.drop 4).take 4) = (adler32 p.input).toNat
  compressedAdler : ofLeBytes ((bytes.drop 8).take 4) = (adler32 (bytes.drop 12)).toNat
  inflated : decode (sent ++ bytes.drop 12) = decode sent ++ p.input

section Runs

variable {σ : Type} (z : StreamEncoder σ) (Flushed : σ → Prop)

/-- Every packet is delivered, and neither unread input nor pending output is left behind. `sent`
is the data of the packets before. -/
def AllDelivered (decode : List Byte → List Byte) :
    Compress σ → List Byte → List OutgoingPacket → Prop
  | _, _, [] => True
  | c, sent, p :: packets => ∃ bytes c', compressPacketImpl z c p = some (bytes, c') ∧
      Delivered decode sent p bytes ∧ c'.totalIn = c.totalIn + p.input.length ∧
      Flushed c'.inner ∧ AllDelivered decode c' (sent ++ bytes.drop 12) packets

/-- Every packet has a size that is an `i32`, and the encoder gets by with its space. -/
def AllFit : σ → List OutgoingPacket → Prop
  | _, [] => True
  | s, p :: packets => p.input.length < 0x80000000 ∧
      ∃ s', Drains z Flushed s p.input (outBound p.input.length) s' ∧ AllFit s' packets

variable {z Flushed} {start : σ} {decode : List Byte → List Byte}

theorem delivered_iff {sent data : List Byte} {p : OutgoingPacket} :
    Delivered decode sent p (packetBytes p data) ↔
      p.input.length < 0x80000000 ∧ decode (sent ++ data) = decode sent ++ p.input := by
  constructor
  · intro h
    have hsize := h.size
    have hinflated := h.inflated
    rw [size_packetBytes, BitVec.ofNat_toNat, BitVec.setWidth_eq, toInt_size_iff] at hsize
    rw [drop_packetBytes] at hinflated
    exact ⟨hsize, hinflated⟩
  · rintro ⟨hsize, hinflated⟩
    refine ⟨?_, uncompressedAdler_packetBytes p data, ?_, ?_⟩
    · rw [size_packetBytes, BitVec.ofNat_toNat, BitVec.setWidth_eq, toInt_size_iff]
      exact hsize
    · rw [drop_packetBytes, compressedAdler_packetBytes]
    · rw [drop_packetBytes]
      exact hinflated

theorem allDelivered_iff (hz : z.Contract start Flushed decode) {c : Compress σ}
    {read written : List Byte} (h : Reached z start c.inner read written)
    (hflushed : Flushed c.inner) (packets : List OutgoingPacket) :
    AllDelivered z Flushed decode c written packets ↔ AllFit z Flushed c.inner packets := by
  induction packets generalizing c read written with
  | nil => exact iff_of_true trivial trivial
  | cons p packets ih =>
    obtain ⟨c', k, data, hrun, hreached, hin, hk, hiff⟩ := compressPacketImpl_eq hz h p
    constructor
    · rintro ⟨bytes, c'', hrun', hdelivered, hread, hflushed', hrest⟩
      obtain ⟨rfl, rfl⟩ := Prod.mk.inj (Option.some.inj (hrun.symm.trans hrun'))
      rw [delivered_iff] at hdelivered
      rw [drop_packetBytes] at hrest
      exact ⟨hdelivered.1, c'.inner, (hiff _).mpr ⟨by omega, hflushed', rfl⟩,
        (ih hreached hflushed').mp hrest⟩
    · rintro ⟨hsize, s', hdrains, hrest⟩
      obtain ⟨rfl, hflushed', rfl⟩ := (hiff s').mp hdrains
      refine ⟨_, c', hrun, delivered_iff.mpr ⟨hsize, ?_⟩, hin, hflushed', ?_⟩
      · rw [hz.decode_of_flushed hreached hflushed', hz.decode_of_flushed h hflushed,
          List.take_length]
      · rw [drop_packetBytes]
        exact (ih hreached hflushed').mpr hrest

/-- The packets of a connection are all delivered if and only if their sizes fit and the encoder
gets by with the space for each of them. -/
theorem packets_delivered_iff (hz : z.Contract start Flushed decode)
    (packets : List OutgoingPacket) :
    AllDelivered z Flushed decode (Compress.new start) [] packets ↔
      AllFit z Flushed start packets :=
  allDelivered_iff hz .start hz.flushed_start packets

end Runs

/-- Bytes that do not get shorter: stored blocks have room enough. -/
theorem packets_delivered_iff_stored :
    AllDelivered (StoredBlocks.encode 0xFFFF) (· = []) StoredBlocks.decode (Compress.new []) []
      [⟨(0x34, 0x12), (List.range 20).map fun i => BitVec.ofNat 8 (144 + i * 37 % 112)⟩] := by
  refine (packets_delivered_iff (StoredBlocks.contract (by decide)) _).mpr ⟨by decide, _,
    .last ?_ ?_, trivial⟩
  · decide +kernel
  · decide +kernel

/-- Blocks of one byte each fill the space, the next call is refused, and the grown buffer is
not used: the last bytes of the packet stay unread. -/
theorem one_byte_blocks_unread :
    StreamEncoder.Contract (StoredBlocks.encode 1) [] (· = []) StoredBlocks.decode ∧
      ¬ AllDelivered (StoredBlocks.encode 1) (· = []) StoredBlocks.decode (Compress.new []) []
        [⟨(0x34, 0x12), List.replicate 30 0⟩] := by
  refine ⟨StoredBlocks.contract (by decide), ?_⟩
  rintro ⟨bytes, c', hrun, -, hread, -⟩
  have htotal : (compressPacketImpl (StoredBlocks.encode 1) (Compress.new [])
      ⟨(0x34, 0x12), List.replicate 30 0⟩).map (·.2.totalIn) = some 27 := by decide +kernel
  rw [hrun] at htotal
  have hunread : c'.totalIn = 27 := Option.some.inj htotal
  exact absurd (hunread.symm.trans hread) (by decide)

end RustyCore.Packet
