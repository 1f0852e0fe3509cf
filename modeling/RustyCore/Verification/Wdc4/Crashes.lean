import RustyCore.Model.Wdc4.Reader

/-! # When the WDC4 reader crashes -/

namespace RustyCore.Wdc4

variable {count : ℕ}

/-! ## Words and headers -/

section Words

variable {data : Bytes} {off : ℕ}

@[simp] theorem noCrash_readU16Le : NoCrash (readU16Le data off) ↔ off + 2 ≤ data.length := by
  simp only [readU16Le, noCrash_bind_iff, noCrash_checkedGet, noCrash_pure, Bytes.length]
  constructor
  · rintro ⟨h₀, h⟩
    have := (h _ (checkedGet_eq_ok_iff.mpr (List.getElem?_eq_getElem h₀))).1
    omega
  · intro h
    exact ⟨by omega, fun _ _ => ⟨by omega, fun _ _ => trivial⟩⟩

@[simp] theorem noCrash_readU32Le : NoCrash (readU32Le data off) ↔ off + 4 ≤ data.length := by
  simp only [readU32Le, noCrash_bind_iff, noCrash_checkedGet, noCrash_pure, Bytes.length]
  constructor
  · rintro ⟨h₀, h⟩
    obtain ⟨h₁, h⟩ := h _ (checkedGet_eq_ok_iff.mpr (List.getElem?_eq_getElem h₀))
    obtain ⟨h₂, h⟩ := h _ (checkedGet_eq_ok_iff.mpr (List.getElem?_eq_getElem h₁))
    have := (h _ (checkedGet_eq_ok_iff.mpr (List.getElem?_eq_getElem h₂))).1
    omega
  · intro h
    exact ⟨by omega, fun _ _ => ⟨by omega, fun _ _ => ⟨by omega, fun _ _ => ⟨by omega,
      fun _ _ => trivial⟩⟩⟩⟩

theorem readU32Le_ok (h : off + 4 ≤ data.length) : ∃ v, readU32Le data off = .ok v := by
  have hget : ∀ k < 4, ∃ b, checkedGet data.list (off + k) = (.ok b : Read Byte) := fun k hk =>
    ⟨_, checkedGet_eq_ok_iff.mpr (List.getElem?_eq_getElem (by
      change off + k < data.length
      omega))⟩
  obtain ⟨b₀, h₀⟩ := hget 0 (by omega)
  obtain ⟨b₁, h₁⟩ := hget 1 (by omega)
  obtain ⟨b₂, h₂⟩ := hget 2 (by omega)
  obtain ⟨b₃, h₃⟩ := hget 3 (by omega)
  refine ⟨b₃ ++ b₂ ++ b₁ ++ b₀, ?_⟩
  simp only [readU32Le, bind_eq_ok_iff]
  exact ⟨b₀, h₀, b₁, h₁, b₂, h₂, b₃, h₃, rfl⟩

@[simp] theorem noCrash_readU64Le : NoCrash (readU64Le data off) ↔ off + 8 ≤ data.length := by
  simp only [readU64Le, noCrash_bind_iff, noCrash_readU32Le, noCrash_pure]
  constructor
  · rintro ⟨hlow, h⟩
    obtain ⟨low, hrun⟩ := readU32Le_ok hlow
    exact (h low hrun).1
  · intro h
    exact ⟨by omega, fun _ _ => ⟨by omega, fun _ _ => trivial⟩⟩

theorem noCrash_parseHeader (h : headerSize ≤ data.length) : NoCrash (parseHeader data) := by
  have hle : ∀ n ≤ 72, n ≤ data.length := fun n hn => hn.trans h
  simp [parseHeader, noCrash_bind_iff, noCrash_map_iff, hle]

theorem noCrash_parseSectionHeader (h : sectionHeaderSize ≤ data.length) :
    NoCrash (parseSectionHeader data) := by
  have hle : ∀ n ≤ 40, n ≤ data.length := fun n hn => hn.trans h
  simp [parseSectionHeader, noCrash_bind_iff, noCrash_map_iff, hle]

@[simp] theorem noCrash_fromU32 (v : BitVec 32) : NoCrash (CompressionType.fromU32 v) := by
  rw [CompressionType.fromU32]
  split <;> simp

theorem noCrash_parseFieldStorageInfo (h : fieldStorageInfoSize ≤ data.length) :
    NoCrash (parseFieldStorageInfo data) := by
  have hle : ∀ n ≤ 24, n ≤ data.length := fun n hn => hn.trans h
  simp [parseFieldStorageInfo, noCrash_bind_iff, noCrash_map_iff, hle]

theorem noCrash_parseMany {α : Type} {size : ℕ} {error : ReadError} {parse : Bytes → Read α}
    (hsize : size < 2 ^ 32) (hoff : off < 2 ^ 63 + 2 ^ 35)
    (hparse : ∀ part : Bytes, size ≤ part.length → NoCrash (parse part)) :
    NoCrash (parseMany data size error parse count off) := by
  refine noCrash_foldlM (fun _ parsed => parsed.2 < 2 ^ 63 + 2 ^ 35) ?_ hoff
  rintro _ _ ⟨parsed, offset⟩ hoffset
  simp only [noCrash_bind_iff, bind_eq_ok_iff, checkedAdd_eq_ok_iff, ensure_eq_ok_iff,
    noCrash_checkedAdd, noCrash_ensure, Bytes.noCrash_slice, noCrash_pure, pure_eq_ok_iff]
  have hlength := data.length_lt'
  refine ⟨⟨by omega, ?_⟩, ?_⟩
  · rintro _ ⟨-, rfl⟩
    refine ⟨trivial, fun _ hstop => ⟨⟨by omega, le_rfl⟩, fun part hpart => ⟨hparse part ?_, ?_⟩⟩⟩
    · have := (Bytes.length_of_slice hpart).2.2
      omega
    · exact fun _ _ => trivial
  · rintro s' ⟨_, ⟨-, rfl⟩, _, hstop, _, -, _, -, rfl⟩
    dsimp only
    omega

theorem parseMany_ok {α : Type} {size : ℕ} {error : ReadError} {parse : Bytes → Read α}
    {parsed : List α × ℕ} (h : parseMany data size error parse count off = .ok parsed) :
    parsed.1.length = count ∧ parsed.2 ≤ max off data.length := by
  have hrun := foldlM_ok (fun rest parsed => parsed.1.length + rest.length = count ∧
    parsed.2 ≤ max off data.length) ?_ ⟨by simp, le_max_left _ _⟩ h
  · exact hrun
  · intro _ rest start next hstart hround
    simp only [bind_eq_ok_iff, checkedAdd_eq_ok_iff, ensure_eq_ok_iff, pure_eq_ok_iff] at hround
    obtain ⟨_, ⟨-, rfl⟩, _, hstop, _, -, a, -, rfl⟩ := hround
    refine ⟨?_, le_max_of_le_right hstop⟩
    have hlength := hstart.1
    simp only [List.length_append, List.length_cons, List.length_nil] at hlength ⊢
    omega

end Words

/-! ## Bits -/

/-- The position of the bits is a `usize`, if they are read at all. -/
def BitsInRange (recordStart bitOffset bitCount : ℕ) : Prop :=
  bitCount = 0 ∨ 32 < bitCount ∨ recordStart * 8 + bitOffset < 2 ^ 64

theorem noCrash_readBits {recordData : Bytes} {recordStart bitOffset bitCount : ℕ} :
    NoCrash (readBits recordData recordStart bitOffset bitCount) ↔
      BitsInRange recordStart bitOffset bitCount := by
  rw [readBits, BitsInRange]
  split
  case isTrue h => exact iff_of_true (noCrash_pure _) (or_assoc.mp (Or.inl h))
  case isFalse h =>
    simp only [noCrash_bind_iff, noCrash_checkedMul, checkedMul_eq_ok_iff, noCrash_checkedAdd,
      noCrash_pure]
    constructor
    · rintro ⟨hmul, hadd⟩
      exact Or.inr (Or.inr (hadd _ ⟨hmul, rfl⟩).1)
    · intro hbits
      have hlt : recordStart * 8 + bitOffset < 2 ^ 64 := by omega
      refine ⟨by omega, ?_⟩
      rintro _ ⟨-, rfl⟩
      exact ⟨hlt, fun _ _ => trivial⟩

/-! ## The tables of the fields -/

section FieldTables

variable {raw : Bytes}
variable {offset : ℕ} {fields : List FieldStorageInfo}

/-- A loop over entries of `size` bytes each, as far as they lie within the blob. -/
theorem noCrash_foldlM_entries {τ : Type} {size : ℕ} {read : τ → ℕ → Read τ}
    (h : offset + count * size < 2 ^ 64)
    (hread : ∀ values o, o + size ≤ raw.length → NoCrash (read values o)) (values : τ) :
    NoCrash ((List.range count).foldlM (fun values i => do
      let o ← checkedAdd 64 offset (← checkedMul 64 i size)
      if (← checkedAdd 64 o size) ≤ raw.length then read values o else return values) values) := by
  refine noCrash_foldlM (fun is _ => ∀ i ∈ is, i < count) ?_ fun i hi => List.mem_range.mp hi
  intro i rest values his
  refine ⟨?_, fun _ _ j hj => his j (List.mem_cons_of_mem i hj)⟩
  have hend : (i + 1) * size ≤ count * size :=
    Nat.mul_le_mul_right size (his i List.mem_cons_self)
  rw [Nat.succ_mul] at hend
  simp only [noCrash_bind_iff, noCrash_checkedMul, checkedMul_eq_ok_iff, noCrash_checkedAdd,
    checkedAdd_eq_ok_iff]
  refine ⟨by omega, ?_⟩
  rintro _ ⟨-, rfl⟩
  refine ⟨by omega, ?_⟩
  rintro _ ⟨-, rfl⟩
  refine ⟨by omega, ?_⟩
  rintro _ ⟨-, rfl⟩
  split
  case isTrue hfits => exact hread values _ hfits
  · exact noCrash_pure _

theorem noCrash_palletValues (h : offset + count * 4 < 2 ^ 64) :
    NoCrash (palletValues raw offset count) := by
  refine noCrash_foldlM_entries h (fun values o hfits => ?_) []
  rw [noCrash_bind_iff, noCrash_readU32Le]
  exact ⟨hfits, fun _ _ => noCrash_pure _⟩

theorem noCrash_commonValues (h : offset + count * 8 < 2 ^ 64) :
    NoCrash (commonValues raw offset count) := by
  refine noCrash_foldlM_entries h (fun values o hfits => ?_) ∅
  simp only [noCrash_bind_iff, noCrash_readU32Le, noCrash_pure]
  exact ⟨by omega, fun _ _ => ⟨by omega, fun _ _ => trivial⟩⟩

/-- The offset of the fields still to come stays a `usize`: no more than `2 ^ 32` fields have
fewer than `2 ^ 32` bytes each. -/
def OffsetFits (fields : List FieldStorageInfo) (offset : ℕ) : Prop :=
  offset + fields.length * 2 ^ 32 ≤ 2 ^ 64

theorem OffsetFits.next {info : FieldStorageInfo} (h : OffsetFits (info :: fields) offset) :
    offset + info.additionalDataSize.toNat < 2 ^ 64 ∧ OffsetFits fields offset ∧
      OffsetFits fields (offset + info.additionalDataSize.toNat) := by
  have hsize := info.additionalDataSize.isLt
  simp only [OffsetFits, List.length_cons] at h ⊢
  omega

/-- A loop over the fields that takes the bytes of the selected ones from a running offset. -/
theorem noCrash_foldlM_fields {τ : Type} (selected : FieldStorageInfo → Prop)
    [DecidablePred selected] (read : ℕ → ℕ → Read τ) (absent : τ)
    (hfields : fields.length < 2 ^ 32)
    (hread : ∀ offset size, offset + size < 2 ^ 64 → NoCrash (read offset size)) :
    NoCrash (fields.foldlM (fun (split : List τ × ℕ) info => do
      if selected info then
        let values ← read split.2 info.additionalDataSize.toNat
        return (split.1 ++ [values], ← checkedAdd 64 split.2 info.additionalDataSize.toNat)
      else return (split.1 ++ [absent], split.2)) ([], 0)) := by
  refine noCrash_foldlM (fun fields split => OffsetFits fields split.2) ?_
    (by simp only [OffsetFits]; omega)
  rintro info fields ⟨result, offset⟩ hfits
  obtain ⟨hlt, hrest, hnext⟩ := hfits.next
  dsimp only
  split
  · simp only [noCrash_bind_iff, noCrash_checkedAdd, noCrash_pure, bind_eq_ok_iff,
      checkedAdd_eq_ok_iff, pure_eq_ok_iff]
    refine ⟨⟨hread _ _ hlt, fun _ _ => ⟨hlt, fun _ _ => trivial⟩⟩, ?_⟩
    rintro _ ⟨_, -, _, ⟨-, rfl⟩, rfl⟩
    exact hnext
  · simp only [noCrash_pure, pure_eq_ok_iff, true_and]
    rintro _ rfl
    exact hrest

theorem noCrash_splitPalletData (hfields : fields.length < 2 ^ 32) :
    NoCrash (splitPalletData raw fields) := by
  rw [splitPalletData, noCrash_bind_iff]
  exact ⟨noCrash_foldlM_fields
    (fun info => info.compression = .pallet ∨ info.compression = .palletArray)
    (fun offset size => palletValues raw offset (size / 4)) [] hfields
    fun offset size hlt => noCrash_palletValues (by omega), fun _ _ => noCrash_pure _⟩

theorem noCrash_splitCommonData (hfields : fields.length < 2 ^ 32) :
    NoCrash (splitCommonData raw fields) := by
  rw [splitCommonData, noCrash_bind_iff]
  exact ⟨noCrash_foldlM_fields (fun info => info.compression = .common)
    (fun offset size => commonValues raw offset (size / 8)) ∅ hfields
    fun offset size hlt => noCrash_commonValues (by omega), fun _ _ => noCrash_pure _⟩

end FieldTables

/-! ## The parts of a section -/

/-- The section has nothing to read. -/
def SectionHeader.IsEmpty (sec : SectionHeader) : Prop :=
  sec.recordCount = 0 ∧ sec.copyTableCount = 0

def SectionHeader.ListsIds (sec : SectionHeader) (header : Wdc4Header) : Prop :=
  header.hasIdList ∧ 0 < sec.idListSize.toNat

/-- The end of the string table behind records of a fixed size. -/
def SectionHeader.stringsEnd (sec : SectionHeader) (header : Wdc4Header) : ℕ :=
  sec.fileOffset.toNat + sec.recordCount.toNat * header.recordSize.toNat +
    sec.stringTableSize.toNat

/-- The end of the relationships behind the strings, the ids and the copies. -/
def SectionHeader.relationshipsEnd (sec : SectionHeader) (header : Wdc4Header) : ℕ :=
  sec.stringsEnd header + sec.idListSize.toNat + sec.copyTableCount.toNat * 8 +
    sec.relationshipDataSize.toNat

section Parts

variable {header : Wdc4Header} {data : Bytes} {si : ℕ} {sec : SectionHeader}
  {tables : SectionTables}
variable {before cursor start stop : ℕ} {stringTableIndex : Option ℕ} {tables' : SectionTables}
  {records : SectionRecords}
variable {info : OffsetMapInfo} {entries : List (BitVec 32 × BitVec 32 × BitVec 16)}

theorem pushStringTable_ok {pushed : SectionTables × Option ℕ}
    (h : pushStringTable data sec tables start stop = .ok pushed) :
    pushed.1.recordData = tables.recordData ∧ pushed.1.recordOffsets = tables.recordOffsets := by
  rw [pushStringTable] at h
  split at h
  · simp only [bind_eq_ok_iff, pure_eq_ok_iff] at h
    obtain ⟨_, -, rfl⟩ := h
    exact ⟨rfl, rfl⟩
  · obtain rfl := pure_eq_ok_iff.mp h
    exact ⟨rfl, rfl⟩

theorem noCrash_pushStringTable (h : start ≤ stop ∧ stop ≤ data.length) :
    NoCrash (pushStringTable data sec tables start stop) := by
  rw [pushStringTable]
  split
  · rw [noCrash_bind_iff, Bytes.noCrash_slice]
    exact ⟨h, fun _ _ => noCrash_pure _⟩
  · exact noCrash_pure _

/-- Records up to `offset_records_end` are sliced, whatever their section starts with. -/
theorem noCrash_readVariableRecords :
    NoCrash (readVariableRecords data si sec tables) ↔
      (sec.offsetRecordsEnd.toNat ≤ data.length →
        sec.fileOffset.toNat ≤ sec.offsetRecordsEnd.toNat) := by
  have hdata := data.length_lt'
  have hstrings := sec.stringTableSize.isLt
  simp only [readVariableRecords, noCrash_bind_iff, noCrash_ensure, ensure_eq_ok_iff,
    Bytes.noCrash_slice, Bytes.noCrash_extend, true_and, forall_const]
  constructor
  · exact fun h hend => (h hend).1.1
  · intro h hend
    refine ⟨⟨h hend, hend⟩, fun records _ recordData _ => ?_⟩
    split
    · simp only [noCrash_bind_iff, noCrash_checkedAdd, checkedAdd_eq_ok_iff, noCrash_ensure,
        ensure_eq_ok_iff, noCrash_pure]
      refine ⟨by omega, ?_⟩
      rintro _ ⟨-, rfl⟩
      refine ⟨trivial, fun _ hstop => ⟨noCrash_pushStringTable ⟨by omega, hstop⟩, ?_⟩⟩
      exact fun _ _ => trivial
    · exact noCrash_pure _

theorem readVariableRecords_ok (h : readVariableRecords data si sec tables = .ok records) :
    records.afterRecords ≤ data.length ∧ records.tables.recordData.length =
      tables.recordData.length + (sec.offsetRecordsEnd.toNat - sec.fileOffset.toNat) := by
  simp only [readVariableRecords, bind_eq_ok_iff, ensure_eq_ok_iff] at h
  obtain ⟨_, hend, part, hpart, recordData, hextend, h⟩ := h
  have hlength := Bytes.length_of_extend hextend
  rw [(Bytes.length_of_slice hpart).2.2] at hlength
  split at h
  · simp only [bind_eq_ok_iff, pure_eq_ok_iff] at h
    obtain ⟨_, -, _, -, pushed, hpushed, rfl⟩ := h
    exact ⟨hend, by rw [(pushStringTable_ok hpushed).1]; exact hlength⟩
  · obtain rfl := pure_eq_ok_iff.mp h
    exact ⟨hend, hlength⟩

theorem fixedRecords_lt (header : Wdc4Header) (sec : SectionHeader) :
    sec.recordCount.toNat * header.recordSize.toNat + (2 ^ 33 - 1) ≤ 2 ^ 64 := by
  have hcount : sec.recordCount.toNat ≤ 2 ^ 32 - 1 := Nat.le_sub_one_of_lt sec.recordCount.isLt
  have hsize : header.recordSize.toNat ≤ 2 ^ 32 - 1 := Nat.le_sub_one_of_lt header.recordSize.isLt
  have := Nat.mul_le_mul hcount hsize
  omega

theorem noCrash_readFixedRecords : NoCrash (readFixedRecords header data si sec tables) := by
  have hdata := data.length_lt'
  have hstrings := sec.stringTableSize.isLt
  have hoffset := sec.fileOffset.isLt
  have hrecords := fixedRecords_lt header sec
  simp only [readFixedRecords, noCrash_bind_iff, noCrash_checkedMul, checkedMul_eq_ok_iff,
    noCrash_checkedAdd, checkedAdd_eq_ok_iff, noCrash_ensure, ensure_eq_ok_iff,
    Bytes.noCrash_slice, Bytes.noCrash_extend, noCrash_pure, true_and]
  refine ⟨by omega, ?_⟩
  rintro _ ⟨-, rfl⟩
  refine ⟨by omega, ?_⟩
  rintro _ ⟨-, rfl⟩ _ hend
  refine ⟨⟨by omega, hend⟩, fun records _ recordData _ => ⟨by omega, ?_⟩⟩
  rintro _ ⟨-, rfl⟩ _ hstop
  exact ⟨noCrash_pushStringTable ⟨by omega, hstop⟩, fun _ _ => trivial⟩

theorem readFixedRecords_ok (h : readFixedRecords header data si sec tables = .ok records) :
    records.afterRecords = sec.stringsEnd header ∧ sec.stringsEnd header ≤ data.length ∧
      records.tables.recordData.length =
        tables.recordData.length + sec.recordCount.toNat * header.recordSize.toNat := by
  simp only [readFixedRecords, bind_eq_ok_iff, checkedMul_eq_ok_iff, checkedAdd_eq_ok_iff,
    ensure_eq_ok_iff, pure_eq_ok_iff] at h
  obtain ⟨_, ⟨-, rfl⟩, _, ⟨-, rfl⟩, _, -, part, hpart, recordData, hextend, _, ⟨-, rfl⟩, _, hstop,
    pushed, hpushed, rfl⟩ := h
  refine ⟨rfl, hstop, ?_⟩
  rw [(pushStringTable_ok hpushed).1]
  have hlength := Bytes.length_of_extend hextend
  rw [(Bytes.length_of_slice hpart).2.2, Nat.add_sub_cancel_left] at hlength
  exact hlength

theorem pushStringTable_exists (h : start ≤ stop ∧ stop ≤ data.length) :
    ∃ pushed, pushStringTable data sec tables start stop = .ok pushed := by
  rw [pushStringTable]
  split
  · obtain ⟨part, hpart⟩ := Bytes.slice_ok h
    exact ⟨_, bind_eq_ok_iff.mpr ⟨part, hpart, rfl⟩⟩
  · exact ⟨_, rfl⟩

theorem readFixedRecords_offsets (h : readFixedRecords header data si sec tables = .ok records) :
    records.tables.recordOffsets = tables.recordOffsets := by
  simp only [readFixedRecords, bind_eq_ok_iff, pure_eq_ok_iff] at h
  obtain ⟨_, -, _, -, _, -, _, -, _, -, _, -, _, -, pushed, hpushed, rfl⟩ := h
  exact (pushStringTable_ok hpushed).2

theorem readFixedRecords_exists (hstrings : sec.stringsEnd header ≤ data.length)
    (hroom : tables.recordData.length + sec.recordCount.toNat * header.recordSize.toNat < 2 ^ 63) :
    ∃ records, readFixedRecords header data si sec tables = .ok records := by
  have hdata := data.length_lt'
  rw [SectionHeader.stringsEnd] at hstrings
  have hslice : ∃ part, data.slice sec.fileOffset.toNat
      (sec.fileOffset.toNat + sec.recordCount.toNat * header.recordSize.toNat) =
        (.ok part : Read Bytes) := Bytes.slice_ok ⟨by omega, by omega⟩
  obtain ⟨part, hpart⟩ := hslice
  have hextend : ∃ recordData, tables.recordData.extend part = (.ok recordData : Read Bytes) :=
    Bytes.extend_ok (by
      rw [(Bytes.length_of_slice hpart).2.2, Nat.add_sub_cancel_left]
      exact hroom)
  obtain ⟨recordData, hrecordData⟩ := hextend
  have hpush : ∃ pushed, pushStringTable data sec { tables with recordData }
      (sec.fileOffset.toNat + sec.recordCount.toNat * header.recordSize.toNat)
      (sec.fileOffset.toNat + sec.recordCount.toNat * header.recordSize.toNat +
        sec.stringTableSize.toNat) = .ok pushed :=
    pushStringTable_exists ⟨by omega, hstrings⟩
  obtain ⟨pushed, hpushed⟩ := hpush
  refine ⟨⟨pushed.1, sec.stringsEnd header, pushed.2⟩, ?_⟩
  simp only [readFixedRecords, bind_eq_ok_iff, checkedMul_eq_ok_iff, checkedAdd_eq_ok_iff,
    ensure_eq_ok_iff, pure_eq_ok_iff]
  exact ⟨_, ⟨by omega, rfl⟩, _, ⟨by omega, rfl⟩, (), by omega, part, hpart, recordData, hrecordData,
    _, ⟨by omega, rfl⟩, (), hstrings, pushed, hpushed, rfl⟩

theorem noCrash_readIds {afterRecords : ℕ} (hafter : afterRecords ≤ data.length) :
    NoCrash (readIds header data si sec before afterRecords) ↔
      (¬ sec.ListsIds header → ¬ header.hasOffsetMap → header.recordSize.toNat ≠ 0 ∧
        (header.hasInlineIds ∨ sec.recordCount.toNat = 0 ∨ header.minId.toNat +
          before / header.recordSize.toNat % 2 ^ 32 + sec.recordCount.toNat ≤ 2 ^ 32)) := by
  have hdata := data.length_lt'
  have hlist := sec.idListSize.isLt
  simp only [readIds, noCrash_bind_iff, noCrash_checkedAdd, checkedAdd_eq_ok_iff]
  rw [and_iff_right (by omega)]
  constructor
  · intro h hlists hmap
    have hids := h _ ⟨by omega, rfl⟩
    rw [SectionHeader.ListsIds] at hlists
    rw [if_neg hlists, if_pos hmap] at hids
    simp only [noCrash_bind_iff, noCrash_checkedDiv, checkedDiv_eq_ok_iff] at hids
    refine ⟨hids.1, ?_⟩
    have hloop := hids.2 _ ⟨hids.1, rfl⟩
    by_cases hinline : header.hasInlineIds
    · exact Or.inl hinline
    simp only [if_neg hinline] at hloop
    rw [noCrash_mapM_iff] at hloop
    · by_cases hcount : sec.recordCount.toNat = 0
      · exact Or.inr (Or.inl hcount)
      have hlast := hloop (sec.recordCount.toNat - 1) (List.mem_range.mpr (by omega))
      simp only [noCrash_bind_iff, noCrash_checkedAdd, checkedAdd_eq_ok_iff] at hlast
      have := (hlast.2 _ ⟨hlast.1, rfl⟩).1
      omega
    · intro i _ hi
      simp only [noCrash_bind_iff, noCrash_checkedAdd, checkedAdd_eq_ok_iff] at hi
      refine ⟨_, bind_eq_ok_iff.mpr ⟨_, checkedAdd_eq_ok_iff.mpr ⟨hi.1, rfl⟩,
        bind_eq_ok_iff.mpr ⟨_, checkedAdd_eq_ok_iff.mpr ⟨(hi.2 _ ⟨hi.1, rfl⟩).1, rfl⟩, rfl⟩⟩⟩
  · rintro h _ ⟨-, rfl⟩
    split
    · simp only [noCrash_bind_iff, noCrash_ensure, ensure_eq_ok_iff, true_and]
      intro _ hend
      refine noCrash_mapM fun i hi => ?_
      have hi := List.mem_range.mp hi
      simp only [noCrash_bind_iff, noCrash_checkedMul, checkedMul_eq_ok_iff, noCrash_checkedAdd,
        checkedAdd_eq_ok_iff]
      refine ⟨by omega, ?_⟩
      rintro _ ⟨-, rfl⟩
      refine ⟨by omega, ?_⟩
      rintro _ ⟨-, rfl⟩
      rw [noCrash_readU32Le]
      omega
    case isFalse hlists =>
      split
      case isTrue hmap =>
        obtain ⟨hsize, hids⟩ := h hlists hmap
        simp only [noCrash_bind_iff, noCrash_checkedDiv, checkedDiv_eq_ok_iff]
        refine ⟨hsize, ?_⟩
        rintro _ ⟨-, rfl⟩
        refine noCrash_mapM fun i hi => ?_
        have hi := List.mem_range.mp hi
        split
        · exact noCrash_pure _
        case isFalse hinline =>
          simp only [noCrash_bind_iff, noCrash_checkedAdd, checkedAdd_eq_ok_iff, noCrash_pure]
          have hfits := (hids.resolve_left hinline).resolve_left (by omega)
          refine ⟨by omega, ?_⟩
          rintro _ ⟨-, rfl⟩
          exact ⟨by omega, fun _ _ => trivial⟩
      case isFalse => exact noCrash_pure _

theorem readIds_exists {afterRecords : ℕ} (hlists : sec.ListsIds header)
    (hend : afterRecords + sec.idListSize.toNat ≤ data.length) :
    ∃ ids, readIds header data si sec before afterRecords = .ok ids := by
  have hdata := data.length_lt'
  have hread : ∃ ids, (List.range (sec.idListSize.toNat / 4)).mapM (fun i => do
      let idOff ← checkedAdd 64 afterRecords (← checkedMul 64 i 4)
      readU32Le data idOff) = .ok ids := by
    refine mapM_ok fun i hi => ?_
    have hi := List.mem_range.mp hi
    have hword : afterRecords + i * 4 + 4 ≤ data.length := by omega
    obtain ⟨v, hv⟩ := readU32Le_ok hword
    refine ⟨v, ?_⟩
    simp only [bind_eq_ok_iff, checkedMul_eq_ok_iff, checkedAdd_eq_ok_iff]
    exact ⟨_, ⟨by omega, rfl⟩, _, ⟨by omega, rfl⟩, hv⟩
  obtain ⟨ids, hids⟩ := hread
  refine ⟨ids, ?_⟩
  rw [readIds, bind_eq_ok_iff]
  refine ⟨_, checkedAdd_eq_ok_iff.mpr ⟨by omega, rfl⟩, ?_⟩
  rw [SectionHeader.ListsIds] at hlists
  rw [if_pos hlists, bind_eq_ok_iff]
  exact ⟨(), ensure_eq_ok_iff.mpr hend, hids⟩

theorem noCrash_readCopyTable (hcursor : cursor < 2 ^ 63 + 2 ^ 32) :
    NoCrash (readCopyTable data si sec cursor) := by
  have hcount := sec.copyTableCount.isLt
  rw [readCopyTable]
  split
  · simp only [noCrash_bind_iff, noCrash_checkedMul, checkedMul_eq_ok_iff, noCrash_checkedAdd,
      checkedAdd_eq_ok_iff, noCrash_ensure, ensure_eq_ok_iff, noCrash_pure, true_and]
    refine ⟨by omega, ?_⟩
    rintro _ ⟨-, rfl⟩
    refine ⟨by omega, ?_⟩
    rintro _ ⟨-, rfl⟩ _ hend
    refine ⟨noCrash_mapM fun i hi => ?_, fun _ _ => trivial⟩
    have hi := List.mem_range.mp hi
    simp only [noCrash_bind_iff, noCrash_checkedMul, checkedMul_eq_ok_iff, noCrash_checkedAdd,
      checkedAdd_eq_ok_iff, noCrash_readU32Le, noCrash_pure]
    refine ⟨by omega, ?_⟩
    rintro _ ⟨-, rfl⟩
    refine ⟨by omega, ?_⟩
    rintro _ ⟨-, rfl⟩
    exact ⟨by omega, fun _ _ => ⟨by omega, fun _ _ => trivial⟩⟩
  · exact noCrash_pure _

theorem readCopyTable_exists (hend : cursor + sec.copyTableCount.toNat * 8 ≤ data.length) :
    ∃ copies, readCopyTable data si sec cursor = .ok copies := by
  have hdata := data.length_lt'
  rw [readCopyTable]
  split
  · have hread : ∃ copies, (List.range sec.copyTableCount.toNat).mapM (fun i => do
        let co ← checkedAdd 64 cursor (← checkedMul 64 i 8)
        let newId ← readU32Le data co
        let sourceId ← readU32Le data (co + 4)
        return (newId, sourceId)) = .ok copies := by
      refine mapM_ok fun i hi => ?_
      have hi := List.mem_range.mp hi
      have hwords : cursor + i * 8 + 4 ≤ data.length ∧ cursor + i * 8 + 4 + 4 ≤ data.length := by
        omega
      obtain ⟨newId, hnew⟩ := readU32Le_ok hwords.1
      obtain ⟨sourceId, hsource⟩ := readU32Le_ok hwords.2
      refine ⟨(newId, sourceId), ?_⟩
      simp only [bind_eq_ok_iff, checkedMul_eq_ok_iff, checkedAdd_eq_ok_iff, pure_eq_ok_iff]
      exact ⟨_, ⟨by omega, rfl⟩, _, ⟨by omega, rfl⟩, newId, hnew, sourceId, hsource, rfl⟩
    obtain ⟨copies, hcopies⟩ := hread
    refine ⟨(copies, cursor + sec.copyTableCount.toNat * 8), ?_⟩
    simp only [bind_eq_ok_iff, checkedMul_eq_ok_iff, checkedAdd_eq_ok_iff, ensure_eq_ok_iff,
      pure_eq_ok_iff]
    exact ⟨_, ⟨by omega, rfl⟩, _, ⟨by omega, rfl⟩, (), hend, copies, hcopies, rfl⟩
  · exact ⟨_, rfl⟩

theorem readCopyTable_ok {copies : List (BitVec 32 × BitVec 32) × ℕ}
    (h : readCopyTable data si sec cursor = .ok copies) :
    copies.2 = cursor + sec.copyTableCount.toNat * 8 := by
  rw [readCopyTable] at h
  split at h
  · simp only [bind_eq_ok_iff, checkedMul_eq_ok_iff, checkedAdd_eq_ok_iff, ensure_eq_ok_iff,
      pure_eq_ok_iff] at h
    obtain ⟨_, ⟨-, rfl⟩, _, ⟨-, rfl⟩, _, -, _, -, rfl⟩ := h
    rfl
  case isFalse hcount =>
    obtain rfl := pure_eq_ok_iff.mp h
    omega

theorem length_resizeRelationships (ids : List (Option (BitVec 32))) (n : ℕ) :
    n ≤ (resizeRelationships ids n).length := by
  rw [resizeRelationships, List.length_append, List.length_replicate]
  omega

theorem noCrash_mergeRelationshipData {raw : Bytes} {base : ℕ} (hbase : base < 2 ^ 63)
    (ids : List (Option (BitVec 32))) : NoCrash (mergeRelationshipData raw base ids) := by
  rw [mergeRelationshipData]
  split
  · exact noCrash_pure _
  simp only [noCrash_bind_iff, noCrash_ensure, ensure_eq_ok_iff, noCrash_readU32Le,
    noCrash_checkedMul, checkedMul_eq_ok_iff, noCrash_checkedAdd, checkedAdd_eq_ok_iff, true_and]
  intro _ hlength
  refine ⟨by omega, fun count _ => ?_⟩
  have hcount := count.isLt
  refine ⟨by omega, ?_⟩
  rintro _ ⟨-, rfl⟩
  refine ⟨by omega, ?_⟩
  rintro _ ⟨-, rfl⟩ _ hend
  refine noCrash_foldlM (fun is _ => ∀ i ∈ is, i < count.toNat) ?_ fun i hi => List.mem_range.mp hi
  intro i rest ids his
  have hi := his i List.mem_cons_self
  refine ⟨?_, fun _ _ j hj => his j (List.mem_cons_of_mem i hj)⟩
  simp only [noCrash_bind_iff, noCrash_checkedMul, checkedMul_eq_ok_iff, noCrash_checkedAdd,
    checkedAdd_eq_ok_iff, noCrash_readU32Le, noCrash_checkedGet, noCrash_pure]
  refine ⟨by omega, ?_⟩
  rintro _ ⟨-, rfl⟩
  refine ⟨by omega, ?_⟩
  rintro _ ⟨-, rfl⟩
  refine ⟨by omega, fun id _ => ⟨by omega, fun index _ => ?_⟩⟩
  have hindex := index.isLt
  refine ⟨by omega, ?_⟩
  rintro _ ⟨-, rfl⟩
  refine ⟨?_, fun _ _ => trivial⟩
  split
  · exact length_resizeRelationships _ _
  · omega

theorem noCrash_readRelationships {base : Read ℕ} (hcursor : cursor < 2 ^ 63 + 2 ^ 36)
    (hbase : ∀ b, base = .ok b → b < 2 ^ 63) (ids : List (Option (BitVec 32))) :
    NoCrash (readRelationships data si sec cursor base ids) ↔
      (0 < sec.relationshipDataSize.toNat →
        cursor + sec.relationshipDataSize.toNat ≤ data.length → NoCrash base) := by
  have hsize := sec.relationshipDataSize.isLt
  rw [readRelationships]
  split
  case isTrue hpos =>
    simp only [noCrash_bind_iff, noCrash_checkedAdd, checkedAdd_eq_ok_iff, noCrash_ensure,
      ensure_eq_ok_iff, Bytes.noCrash_slice, noCrash_pure, true_and]
    constructor
    · intro h _ hend
      obtain ⟨hslice, hrest⟩ := h.2 _ ⟨h.1, rfl⟩ () hend
      obtain ⟨raw, hraw⟩ := Bytes.slice_ok hslice
      exact (hrest raw hraw).1
    · intro h
      refine ⟨by omega, ?_⟩
      rintro _ ⟨-, rfl⟩ _ hend
      refine ⟨⟨by omega, hend⟩, fun raw _ => ⟨h hpos hend, fun b hb => ?_⟩⟩
      exact ⟨noCrash_mergeRelationshipData (hbase b hb) ids, fun _ _ => trivial⟩
  case isFalse hpos => exact iff_of_true (noCrash_pure _) fun h => absurd h hpos

theorem noCrash_sequentialOffsets
    (hroom : before + sec.recordCount.toNat * header.recordSize.toNat < 2 ^ 63) :
    NoCrash (sequentialOffsets header sec before stringTableIndex tables) := by
  refine noCrash_foldlM (fun is _ => ∀ i ∈ is, i < sec.recordCount.toNat) ?_
    fun i hi => List.mem_range.mp hi
  intro i rest tables his
  refine ⟨?_, fun _ _ j hj => his j (List.mem_cons_of_mem i hj)⟩
  have hi : i * header.recordSize.toNat ≤ sec.recordCount.toNat * header.recordSize.toNat :=
    Nat.mul_le_mul_right _ (his i List.mem_cons_self).le
  simp only [noCrash_bind_iff, noCrash_checkedMul, checkedMul_eq_ok_iff, noCrash_checkedAdd,
    checkedAdd_eq_ok_iff, noCrash_pure]
  refine ⟨by omega, ?_⟩
  rintro _ ⟨-, rfl⟩
  exact ⟨by omega, fun _ _ => trivial⟩

theorem sequentialOffsets_ok
    (h : sequentialOffsets header sec before stringTableIndex tables = .ok tables') :
    tables'.recordData = tables.recordData ∧ tables'.recordOffsets.length =
      tables.recordOffsets.length + sec.recordCount.toNat := by
  have hrun := foldlM_ok (fun rest t => t.recordData = tables.recordData ∧
    t.recordOffsets.length + rest.length = tables.recordOffsets.length + sec.recordCount.toNat)
    ?_ ⟨rfl, by rw [List.length_range]⟩ h
  · exact hrun
  · intro i rest t t' ht hround
    simp only [bind_eq_ok_iff, pure_eq_ok_iff] at hround
    obtain ⟨_, -, _, -, rfl⟩ := hround
    refine ⟨ht.1, ?_⟩
    simp only [List.length_append, List.length_cons, List.length_nil] at ht ⊢
    omega

theorem noCrash_dataRelative (hbefore : before < 2 ^ 63) (fileOff : BitVec 32) :
    NoCrash (dataRelative sec before fileOff) := by
  have hfile := fileOff.isLt
  rw [dataRelative, noCrash_checkedAdd]
  omega

theorem noCrash_offsetsByIds (hbefore : before < 2 ^ 63) :
    NoCrash (offsetsByIds sec before stringTableIndex info tables) := by
  refine noCrash_foldlM (fun _ _ => True) (fun id _ tables _ => ⟨?_, fun _ _ => trivial⟩) trivial
  split
  · rw [noCrash_bind_iff]
    exact ⟨noCrash_dataRelative hbefore _, fun _ _ => noCrash_pure _⟩
  · exact noCrash_pure _

theorem noCrash_offsetsByMap (hbefore : before < 2 ^ 63) :
    NoCrash (offsetsByMap sec before stringTableIndex entries tables) := by
  refine noCrash_foldlM (fun _ _ => True) (fun entry _ tables _ => ⟨?_, fun _ _ => trivial⟩) trivial
  dsimp only
  split
  · rw [noCrash_bind_iff]
    exact ⟨noCrash_dataRelative hbefore _, fun _ _ => noCrash_pure _⟩
  · exact noCrash_pure _

theorem offsetsByIds_ok (h : offsetsByIds sec before stringTableIndex info tables = .ok tables') :
    tables'.recordData = tables.recordData := by
  refine foldlM_ok (fun _ t => t.recordData = tables.recordData) ?_ rfl h
  intro _ _ t t' ht hstep
  split at hstep
  · obtain ⟨_, -, hstep⟩ := bind_eq_ok_iff.mp hstep
    obtain rfl := pure_eq_ok_iff.mp hstep
    exact ht
  · obtain rfl := pure_eq_ok_iff.mp hstep
    exact ht

theorem offsetsByMap_ok
    (h : offsetsByMap sec before stringTableIndex entries tables = .ok tables') :
    tables'.recordData = tables.recordData := by
  refine foldlM_ok (fun _ t => t.recordData = tables.recordData) ?_ rfl h
  intro _ _ t t' ht hstep
  dsimp only at hstep
  split at hstep
  · obtain ⟨_, -, hstep⟩ := bind_eq_ok_iff.mp hstep
    obtain rfl := pure_eq_ok_iff.mp hstep
    exact ht
  · obtain rfl := pure_eq_ok_iff.mp hstep
    exact ht

theorem readRelationships_ok {base : Read ℕ} {ids : List (Option (BitVec 32))}
    {read : List (Option (BitVec 32)) × ℕ}
    (h : readRelationships data si sec cursor base ids = .ok read) :
    read.2 = cursor + sec.relationshipDataSize.toNat := by
  rw [readRelationships] at h
  split at h
  · simp only [bind_eq_ok_iff, checkedAdd_eq_ok_iff, pure_eq_ok_iff] at h
    obtain ⟨_, ⟨-, rfl⟩, _, -, _, -, _, -, _, -, rfl⟩ := h
    rfl
  case isFalse hsize =>
    obtain rfl := pure_eq_ok_iff.mp h
    omega

theorem noCrash_readOffsetMap (hbefore : before < 2 ^ 63) (hcursor : cursor < 2 ^ 63 + 2 ^ 36) :
    NoCrash (readOffsetMap header data si sec before cursor stringTableIndex tables) := by
  have hdata := data.length_lt'
  have hcount := sec.offsetMapIdCount.isLt
  have hrel := sec.relationshipDataSize.isLt
  simp only [readOffsetMap, noCrash_bind_iff, noCrash_checkedMul, checkedMul_eq_ok_iff,
    noCrash_checkedAdd, checkedAdd_eq_ok_iff, noCrash_ensure, ensure_eq_ok_iff, true_and]
  refine ⟨by omega, ?_⟩
  rintro _ ⟨-, rfl⟩
  refine ⟨by omega, ?_⟩
  rintro _ ⟨-, rfl⟩ _ hend
  refine ⟨noCrash_mapM fun i hi => ?_, fun omEntries hentries => ⟨?_, fun read hread => ?_⟩⟩
  · have hi := List.mem_range.mp hi
    simp only [noCrash_bind_iff, noCrash_checkedMul, checkedMul_eq_ok_iff, noCrash_checkedAdd,
      checkedAdd_eq_ok_iff, noCrash_readU32Le, noCrash_readU16Le, noCrash_pure]
    refine ⟨by omega, ?_⟩
    rintro _ ⟨-, rfl⟩
    refine ⟨by omega, ?_⟩
    rintro _ ⟨-, rfl⟩
    exact ⟨by omega, fun _ _ => ⟨by omega, fun _ _ => trivial⟩⟩
  · refine (noCrash_readRelationships (by omega) (fun b hb => ?_) _).mpr fun _ _ => ?_
    · obtain ⟨-, rfl⟩ := checkedDiv_eq_ok_iff.mp hb
      exact lt_of_le_of_lt (Nat.div_le_self _ _) hbefore
    · exact noCrash_checkedDiv.mpr (by omega)
  · rw [readRelationships_ok hread]
    refine ⟨by omega, ?_⟩
    rintro _ ⟨-, rfl⟩
    refine ⟨by omega, ?_⟩
    rintro _ ⟨-, rfl⟩ _ hidsEnd
    have hlength : omEntries.length = sec.offsetMapIdCount.toNat :=
      (mapM_ok_length hentries).trans List.length_range
    refine ⟨noCrash_mapM fun entry hentry => ?_, fun entries _ => ?_⟩
    · have hi := List.snd_lt_of_mem_zipIdx hentry
      simp only [noCrash_bind_iff, noCrash_checkedMul, checkedMul_eq_ok_iff, noCrash_checkedAdd,
        checkedAdd_eq_ok_iff, noCrash_readU32Le, noCrash_pure]
      refine ⟨by omega, ?_⟩
      rintro _ ⟨-, rfl⟩
      refine ⟨by omega, ?_⟩
      rintro _ ⟨-, rfl⟩
      exact ⟨by omega, fun _ _ => trivial⟩
    · split
      · exact noCrash_offsetsByIds hbefore
      · exact noCrash_offsetsByMap hbefore

theorem readOffsetMap_ok
    (h : readOffsetMap header data si sec before cursor stringTableIndex tables = .ok tables') :
    tables'.recordData = tables.recordData := by
  simp only [readOffsetMap, bind_eq_ok_iff] at h
  obtain ⟨_, -, _, -, _, -, _, -, _, -, _, -, _, -, _, -, _, -, h⟩ := h
  split at h
  · have hrecordData := offsetsByIds_ok h
    exact hrecordData
  · have hrecordData := offsetsByMap_ok h
    exact hrecordData

end Parts

/-! ## A section -/

def SectionHeader.recordBytes (sec : SectionHeader) (header : Wdc4Header) : ℕ :=
  if sec.recordCount = 0 ∧ sec.copyTableCount = 0 then 0
  else if header.hasOffsetMap then sec.offsetRecordsEnd.toNat - sec.fileOffset.toNat
  else sec.recordCount.toNat * header.recordSize.toNat

/-- Records of a fixed size and their strings are in the file, and there is room for them behind
the records of the sections before. -/
def SectionHeader.FixedFits (sec : SectionHeader) (header : Wdc4Header) (data : Bytes)
    (before : ℕ) : Prop :=
  ¬ header.hasOffsetMap ∧ sec.stringsEnd header ≤ data.length ∧
    before + sec.recordCount.toNat * header.recordSize.toNat < 2 ^ 63

/-- The section does not lead the reader into a crash, behind `before` bytes of records. -/
structure SectionReadable (header : Wdc4Header) (data : Bytes) (before : ℕ)
    (sec : SectionHeader) : Prop where
  /-- Records of variable length do not end before the section starts. -/
  ordered : header.hasOffsetMap → sec.offsetRecordsEnd.toNat ≤ data.length →
    sec.fileOffset.toNat ≤ sec.offsetRecordsEnd.toNat
  /-- Records have a size where their number is taken from the bytes before, for the ids -/
  sizedForIds : sec.FixedFits header data before → ¬ sec.ListsIds header →
    header.recordSize.toNat ≠ 0
  /-- Implicit ids are 32-bit numbers. -/
  implicitIds : sec.FixedFits header data before → ¬ sec.ListsIds header →
    ¬ header.hasInlineIds → 0 < sec.recordCount.toNat →
    header.minId.toNat + before / header.recordSize.toNat % 2 ^ 32 + sec.recordCount.toNat ≤ 2 ^ 32
  /-- or for the relationships. -/
  sizedForRelationships : sec.FixedFits header data before → 0 < sec.relationshipDataSize.toNat →
    sec.relationshipsEnd header ≤ data.length → header.recordSize.toNat ≠ 0

section Section

variable {header : Wdc4Header} {data : Bytes} {si : ℕ} {sec : SectionHeader}
  {tables : SectionTables}

theorem noCrash_readSection :
    NoCrash (readSection header data si sec tables) ↔
      sec.IsEmpty ∨ SectionReadable header data tables.recordData.length sec := by
  have hdata := data.length_lt'
  have hids := sec.idListSize.isLt
  have hcopies := sec.copyTableCount.isLt
  have hbefore := tables.recordData.length_lt'
  rw [readSection]
  split
  case isTrue hempty => exact iff_of_true (noCrash_pure _) (Or.inl hempty)
  case isFalse hempty =>
    rw [or_iff_right (show ¬ sec.IsEmpty from hempty)]
    by_cases hmap : header.hasOffsetMap
    · have hbytes : readRecordBytes header data si sec tables =
          readVariableRecords data si sec tables := if_pos hmap
      simp only [hbytes, hmap, not_true_eq_false, if_false, noCrash_bind_iff,
        noCrash_readVariableRecords]
      constructor
      · intro h
        exact ⟨fun _ => h.1, fun hfits => absurd hmap hfits.1, fun hfits => absurd hmap hfits.1,
          fun hfits => absurd hmap hfits.1⟩
      · intro h
        refine ⟨h.ordered hmap, fun records hrecords => ?_⟩
        have hafter := (readVariableRecords_ok hrecords).1
        refine ⟨?_, fun ids _ => ⟨noCrash_readCopyTable (by omega), fun copies hcopies => ?_⟩⟩
        · exact (noCrash_readIds hafter).mpr fun _ hnot => absurd hmap hnot
        · split
          · refine noCrash_readOffsetMap hbefore ?_
            rw [readCopyTable_ok hcopies]
            omega
          · exact noCrash_pure _
    · have hbytes : readRecordBytes header data si sec tables =
          readFixedRecords header data si sec tables := if_neg hmap
      simp only [hbytes, hmap, not_false_eq_true, if_true, noCrash_bind_iff,
        noCrash_readFixedRecords, true_and]
      constructor
      · intro h
        have hids : sec.FixedFits header data tables.recordData.length → NoCrash
            (readIds header data si sec tables.recordData.length (sec.stringsEnd header)) := by
          intro hfits
          obtain ⟨records, hrecords⟩ := readFixedRecords_exists hfits.2.1 hfits.2.2
          have hread := (h records hrecords).1
          rwa [(readFixedRecords_ok hrecords).1] at hread
        have hdivides : sec.FixedFits header data tables.recordData.length → ¬ sec.ListsIds header →
            header.recordSize.toNat ≠ 0 := fun hfits hlists =>
          ((noCrash_readIds hfits.2.1).mp (hids hfits) hlists hmap).1
        refine ⟨fun hmap' => absurd hmap' hmap, hdivides, ?_, ?_⟩
        · intro hfits hlists hinline hcount
          exact ((((noCrash_readIds hfits.2.1).mp (hids hfits) hlists hmap).2).resolve_left
            hinline).resolve_left (by omega)
        · intro hfits hsize hend
          by_cases hlists : sec.ListsIds header
          · obtain ⟨records, hrecords⟩ := readFixedRecords_exists hfits.2.1 hfits.2.2
            have hafter := (readFixedRecords_ok hrecords).1
            rw [SectionHeader.relationshipsEnd] at hend
            have hread : ∃ ids, readIds header data si sec tables.recordData.length
                records.afterRecords = .ok ids := readIds_exists hlists (by omega)
            obtain ⟨ids, hids⟩ := hread
            have hread : ∃ copies, readCopyTable data si sec
                (records.afterRecords + sec.idListSize.toNat) = .ok copies :=
              readCopyTable_exists (by omega)
            obtain ⟨copies, hcopies⟩ := hread
            have hrel := (((h records hrecords).2 ids hids).2 copies hcopies).1
            rw [noCrash_readRelationships] at hrel
            · refine noCrash_checkedDiv.mp (hrel hsize ?_)
              rw [readCopyTable_ok hcopies, hafter]
              exact hend
            · rw [readCopyTable_ok hcopies, hafter]
              omega
            · intro b hb
              obtain ⟨-, rfl⟩ := checkedDiv_eq_ok_iff.mp hb
              exact lt_of_le_of_lt (Nat.div_le_self _ _) hbefore
          · exact hdivides hfits hlists
      · intro h records hrecords
        obtain ⟨hafter, hstrings, hlength⟩ := readFixedRecords_ok hrecords
        have hroom := records.tables.recordData.length_lt'
        have hfits : sec.FixedFits header data tables.recordData.length := ⟨hmap, hstrings, by omega⟩
        rw [hafter]
        refine ⟨(noCrash_readIds hstrings).mpr fun hlists _ => ⟨h.sizedForIds hfits hlists, ?_⟩,
          fun ids _ => ⟨noCrash_readCopyTable (by omega), fun copies hcopies => ⟨?_, ?_⟩⟩⟩
        · by_cases hinline : header.hasInlineIds
          · exact Or.inl hinline
          · refine Or.inr (or_iff_not_imp_left.mpr fun hcount => ?_)
            exact h.implicitIds hfits hlists hinline (by omega)
        · refine (noCrash_readRelationships ?_ (fun b hb => ?_) _).mpr fun hsize hend => ?_
          · rw [readCopyTable_ok hcopies]
            omega
          · obtain ⟨-, rfl⟩ := checkedDiv_eq_ok_iff.mp hb
            exact lt_of_le_of_lt (Nat.div_le_self _ _) hbefore
          · rw [readCopyTable_ok hcopies] at hend
            exact noCrash_checkedDiv.mpr (h.sizedForRelationships hfits hsize hend)
        · intro _ _
          exact noCrash_sequentialOffsets hfits.2.2

theorem readSection_ok {tables' : SectionTables}
    (h : readSection header data si sec tables = .ok tables') :
    tables'.recordData.length = tables.recordData.length + sec.recordBytes header := by
  rw [readSection] at h
  rw [SectionHeader.recordBytes]
  split at h
  case isTrue hempty =>
    obtain rfl := pure_eq_ok_iff.mp h
    rw [if_pos hempty, Nat.add_zero]
  case isFalse hempty =>
    rw [if_neg hempty]
    simp only [readRecordBytes, bind_eq_ok_iff] at h
    obtain ⟨records, hrecords, ids, -, copies, -, h⟩ := h
    have hlength : records.tables.recordData.length = tables.recordData.length +
        if header.hasOffsetMap then sec.offsetRecordsEnd.toNat - sec.fileOffset.toNat
        else sec.recordCount.toNat * header.recordSize.toNat := by
      split at hrecords
      case isTrue hmap => rw [if_pos hmap, (readVariableRecords_ok hrecords).2]
      case isFalse hmap => rw [if_neg hmap, (readFixedRecords_ok hrecords).2.2]
    rw [← hlength]
    split at h
    · obtain ⟨_, -, h⟩ := bind_eq_ok_iff.mp h
      have hrecordData := (sequentialOffsets_ok h).1
      exact congrArg Bytes.length hrecordData
    · split at h
      · have hrecordData := readOffsetMap_ok h
        exact congrArg Bytes.length hrecordData
      · obtain rfl := pure_eq_ok_iff.mp h
        rfl

end Section

end RustyCore.Wdc4
