import RustyCore.Verification.Wdc4.Crashes

/-! # The files that do not crash the reader -/

namespace RustyCore.Wdc4

variable {tables : SectionTables} {recordIdx : ℕ} {data : Bytes}

/-! ## All sections -/

def recordsLength (header : Wdc4Header) : List SectionHeader → ℕ
  | [] => 0
  | sec :: rest => sec.recordBytes header + recordsLength header rest

/-- No section that the reader gets to leads it into a crash. -/
def SectionsReadable (header : Wdc4Header) (data : Bytes) (sections : List SectionHeader) : Prop :=
  ∀ before sec after, sections = before ++ sec :: after →
    (∃ tables, readSections header data before = .ok tables) →
      sec.IsEmpty ∨ SectionReadable header data (recordsLength header before) sec

section Sections

variable {header : Wdc4Header} {data : Bytes} {sections : List SectionHeader}

theorem readSections_length (h : readSections header data sections = .ok tables) :
    tables.recordData.length = recordsLength header sections := by
  have hrun := foldlM_ok (fun rest t => t.recordData.length +
    recordsLength header (rest.map Prod.fst) = recordsLength header sections) ?_ ?_ h
  · simpa [recordsLength] using hrun
  · rintro ⟨sec, si⟩ rest t t' ht hround
    rw [readSection_ok hround, ← ht, List.map_cons, recordsLength, Nat.add_assoc]
  · rw [List.zipIdx_map_fst]
    exact Nat.zero_add _

theorem noCrash_readSections :
    NoCrash (readSections header data sections) ↔ SectionsReadable header data sections := by
  rw [readSections, SectionsReadable]
  refine (noCrash_foldlM_zipIdx_iff
    (f := fun si tables sec => readSection header data si sec tables)).trans ?_
  refine forall_congr' fun before => forall_congr' fun sec => forall_congr' fun after =>
    imp_congr_right fun _ => ?_
  constructor
  · rintro h ⟨tables, hrun⟩
    have hsec := noCrash_readSection.mp (h tables hrun)
    rwa [readSections_length hrun] at hsec
  · intro h tables hrun
    refine noCrash_readSection.mpr ?_
    rw [readSections_length hrun]
    exact h ⟨tables, hrun⟩

theorem fixedOffsets_length (hmap : ¬ header.hasOffsetMap)
    (h : readSections header data sections = .ok tables) :
    tables.recordOffsets.length * header.recordSize.toNat = tables.recordData.length := by
  refine foldlM_ok (fun _ t =>
    t.recordOffsets.length * header.recordSize.toNat = t.recordData.length) ?_ ?_ h
  · rintro ⟨sec, si⟩ _ t t' ht hround
    change readSection header data si sec t = .ok t' at hround
    have hlength := readSection_ok hround
    rw [SectionHeader.recordBytes] at hlength
    rw [readSection] at hround
    split at hround
    case isTrue hempty =>
      obtain rfl := pure_eq_ok_iff.mp hround
      exact ht
    case isFalse hempty =>
      simp only [if_neg hempty, if_neg hmap] at hlength
      simp only [readRecordBytes, if_neg hmap, bind_eq_ok_iff] at hround
      obtain ⟨records, hrecords, ids, -, copies, -, _, -, hround⟩ := hround
      have hoffsets := (sequentialOffsets_ok hround).2
      dsimp only at hoffsets
      rw [hlength, hoffsets, readFixedRecords_offsets hrecords, Nat.add_mul, ht]
  · exact Nat.zero_mul _

end Sections

/-! ## Inline ids -/

theorem cardinality_lt {index val3 : BitVec 32} : index.toNat * max val3.toNat 1 < 2 ^ 64 := by
  have hindex := index.isLt
  have hcardinality : max val3.toNat 1 ≤ 2 ^ 32 := by
    have := val3.isLt
    omega
  calc index.toNat * max val3.toNat 1 ≤ index.toNat * 2 ^ 32 := Nat.mul_le_mul_left _ hcardinality
    _ < 2 ^ 64 := by omega

theorem noCrash_readInlineRecordId {recordData : Bytes} {recordOffsets : List ℕ}
    {recordSize field offset : ℕ} {fieldInfo : List FieldStorageInfo}
    {palletData : List (List (BitVec 32))} {info : FieldStorageInfo}
    (hinfo : fieldInfo[field]? = some info) (hsize : recordIdx * recordSize < 2 ^ 64)
    (hoffset : recordOffsets[recordIdx]? = some offset) :
    NoCrash (readInlineRecordId recordData recordOffsets recordSize fieldInfo palletData recordIdx
      field) ↔ (info.compression ≠ .common →
        BitsInRange offset info.fieldOffsetBits.toNat info.fieldSizeBits.toNat) := by
  have hfield : checkedGet fieldInfo field = (.ok info : Read FieldStorageInfo) :=
    checkedGet_eq_ok_iff.mpr hinfo
  have hmul : checkedMul 64 recordIdx recordSize = (.ok (recordIdx * recordSize) : Read ℕ) :=
    checkedMul_eq_ok_iff.mpr ⟨hsize, rfl⟩
  simp only [readInlineRecordId, hfield, hmul, hoffset, Option.getD_some, noCrash_bind_iff,
    noCrash_ok, Except.ok.injEq, forall_eq', true_and]
  cases info.compression with
  | none => simp [noCrash_readBits]
  | bitpacked => simp [noCrash_readBits]
  | bitpackedSigned => simp [noCrash_readBits]
  | common => simp
  | pallet =>
    simp only [noCrash_bind_iff, noCrash_readBits, ne_eq, reduceCtorEq, not_false_eq_true,
      forall_const, and_iff_left_iff_imp]
    intro _ index _
    split <;> simp
  | palletArray =>
    simp only [noCrash_bind_iff, noCrash_readBits, ne_eq, reduceCtorEq, not_false_eq_true,
      forall_const, and_iff_left_iff_imp, noCrash_checkedMul, cardinality_lt, true_and]
    intro _ index _ position _
    split <;> simp

/-- No inline id that the reader gets to leads it into a crash: its bits are within a `usize`. -/
def InlineIdsReadable (header : Wdc4Header) (data : Bytes) (sections : List SectionHeader)
    (fields : FieldTables) : Prop :=
  ¬ header.hasIdList → ¬ header.hasOffsetMap → header.hasInlineIds →
    ∀ tables, readSections header data sections = .ok tables →
      tables.recordIds.length = tables.recordOffsets.length →
        ∀ info, fields.fieldInfo[header.idIndex.toNat]? = some info → info.compression ≠ .common →
          ∀ idx offset, tables.recordOffsets[idx]? = some offset →
            (∃ ids, (List.range idx).mapM (fun recordIdx =>
              readInlineRecordId tables.recordData tables.recordOffsets header.recordSize.toNat
                fields.fieldInfo fields.palletData recordIdx header.idIndex.toNat) = .ok ids) →
              BitsInRange offset info.fieldOffsetBits.toNat info.fieldSizeBits.toNat

section Records

variable {header : Wdc4Header} {data : Bytes} {sections : List SectionHeader} {fields : FieldTables}

theorem noCrash_readInlineRecordIds (hmap : ¬ header.hasOffsetMap)
    (htables : readSections header data sections = .ok tables) :
    NoCrash (readInlineRecordIds header fields.fieldInfo fields.palletData tables) ↔
      (tables.recordIds.length = tables.recordOffsets.length →
        ∀ info, fields.fieldInfo[header.idIndex.toNat]? = some info → info.compression ≠ .common →
          ∀ idx offset, tables.recordOffsets[idx]? = some offset →
            (∃ ids, (List.range idx).mapM (fun recordIdx =>
              readInlineRecordId tables.recordData tables.recordOffsets header.recordSize.toNat
                fields.fieldInfo fields.palletData recordIdx header.idIndex.toNat) = .ok ids) →
              BitsInRange offset info.fieldOffsetBits.toNat info.fieldSizeBits.toNat) := by
  have hroom : ∀ idx < tables.recordOffsets.length, idx * header.recordSize.toNat < 2 ^ 64 := by
    intro idx hidx
    have hle := Nat.mul_le_mul_right header.recordSize.toNat hidx.le
    rw [fixedOffsets_length hmap htables] at hle
    have := tables.recordData.length_lt'
    omega
  simp only [readInlineRecordIds, noCrash_bind_iff, noCrash_ensure, ensure_eq_ok_iff, true_and,
    forall_const, noCrash_mapM_range_iff]
  constructor
  · intro h hlengths info hinfo hcommon idx offset hoffset hids
    have hidx := (List.getElem?_eq_some_iff.mp hoffset).1
    have hround := h (List.getElem?_eq_some_iff.mp hinfo).1 hlengths idx (hlengths ▸ hidx) hids
    exact (noCrash_readInlineRecordId hinfo (hroom idx hidx) hoffset).mp hround hcommon
  · intro h hfield hlengths idx hidx hids
    have hoffset := List.getElem?_eq_getElem (hlengths ▸ hidx : idx < tables.recordOffsets.length)
    have hinfo := List.getElem?_eq_getElem hfield
    refine (noCrash_readInlineRecordId hinfo (hroom idx (hlengths ▸ hidx)) hoffset).mpr
      fun hcommon => ?_
    exact h hlengths _ hinfo hcommon idx _ hoffset hids

theorem noCrash_readRecords :
    NoCrash (readRecords header data sections fields) ↔
      SectionsReadable header data sections ∧ InlineIdsReadable header data sections fields := by
  simp only [readRecords, noCrash_bind_iff, noCrash_readSections, noCrash_pure]
  refine and_congr_right fun _ => ?_
  constructor
  · intro h hlist hmap hinline tables htables
    have hids := (h tables htables).1
    rw [completeRecordIds, if_pos ⟨hlist, hmap, hinline⟩] at hids
    exact (noCrash_readInlineRecordIds hmap htables).mp hids
  · intro h tables htables
    refine ⟨?_, fun _ _ => trivial⟩
    rw [completeRecordIds]
    split
    case isTrue hids =>
      exact (noCrash_readInlineRecordIds hids.2.1 htables).mpr
        (h hids.1 hids.2.1 hids.2.2 tables htables)
    case isFalse => exact noCrash_ok _

theorem noCrash_parseFields {offset : ℕ} (hoffset : offset < 2 ^ 63) :
    NoCrash (parseFields header data offset) := by
  have hdata := data.length_lt'
  have htotal := header.totalFieldCount.isLt
  have hfields := header.fieldCount.isLt
  have hsize := header.fieldStorageInfoSize.isLt
  have hpallet := header.palletDataSize.isLt
  have hcommon := header.commonDataSize.isLt
  simp only [parseFields, noCrash_bind_iff, noCrash_checkedMul, checkedMul_eq_ok_iff,
    noCrash_checkedAdd, checkedAdd_eq_ok_iff, noCrash_ensure, ensure_eq_ok_iff,
    Bytes.noCrash_slice, noCrash_pure, fieldMetaSize, true_and]
  refine ⟨by omega, ?_⟩
  rintro _ ⟨-, rfl⟩
  refine ⟨by omega, ?_⟩
  rintro _ ⟨-, rfl⟩ _ hcount
  refine ⟨noCrash_parseMany (by decide) (by omega) fun part => noCrash_parseFieldStorageInfo, ?_⟩
  rintro ⟨fieldInfo, offset'⟩ hfieldInfo
  obtain ⟨hlength, hoffset'⟩ := parseMany_ok hfieldInfo
  have hfew : fieldInfo.length < 2 ^ 32 := by
    dsimp only at hlength
    omega
  dsimp only at hoffset' ⊢
  refine ⟨by omega, ?_⟩
  rintro _ ⟨-, rfl⟩ _ hpalletEnd
  refine ⟨⟨by omega, hpalletEnd⟩, fun raw _ => ⟨noCrash_splitPalletData hfew, fun _ _ =>
    ⟨by omega, ?_⟩⟩⟩
  rintro _ ⟨-, rfl⟩ _ hcommonEnd
  exact ⟨⟨by omega, hcommonEnd⟩, fun raw _ => ⟨noCrash_splitCommonData hfew, fun _ _ => trivial⟩⟩

end Records

/-! ## The whole file -/

/-- The headers and fields that the reader takes from the data before it reads any record. -/
def Opens (data : Bytes) (header : Wdc4Header) (sections : List SectionHeader)
    (fields : FieldTables) : Prop :=
  headerSize ≤ data.length ∧ parseHeader data = .ok header ∧
    ∃ offset, parseMany data sectionHeaderSize .truncatedSectionHeader parseSectionHeader
        header.sectionCount.toNat headerSize = .ok (sections, offset) ∧
      ¬ (hasNoRecords header sections ∧ header.fieldStorageInfoSize = 0) ∧
        parseFields header data offset = .ok fields

/-- No section and no inline id of the file leads the reader into a crash. -/
def FileReadable (data : Bytes) : Prop :=
  ∀ header sections fields, Opens data header sections fields →
    SectionsReadable header data sections ∧ InlineIdsReadable header data sections fields

theorem noCrash_fromBytes : NoCrash (Wdc4Reader.fromBytes data) ↔ FileReadable data := by
  simp only [Wdc4Reader.fromBytes, noCrash_bind_iff, noCrash_ensure, ensure_eq_ok_iff, true_and]
  constructor
  · rintro h header sections fields ⟨hsize, hheader, offset, hsections, hrecords, hfields⟩
    have hread := (((h () hsize).2 header hheader).2 _ hsections)
    rw [if_neg hrecords, noCrash_bind_iff] at hread
    exact noCrash_readRecords.mp (hread.2 fields hfields)
  · intro h _ hsize
    refine ⟨noCrash_parseHeader hsize, fun header hheader => ⟨?_, ?_⟩⟩
    · exact noCrash_parseMany (by decide) (by decide) fun part => noCrash_parseSectionHeader
    · rintro ⟨sections, offset⟩ hsections
      dsimp only
      split
      · exact noCrash_pure _
      case isFalse hrecords =>
        rw [noCrash_bind_iff]
        have hoffset := (parseMany_ok hsections).2
        have hdata := data.length_lt'
        rw [max_eq_right hsize] at hoffset
        refine ⟨noCrash_parseFields (lt_of_le_of_lt hoffset hdata), fun fields hfields => ?_⟩
        exact noCrash_readRecords.mpr
          (h header sections fields ⟨hsize, hheader, offset, hsections, hrecords, hfields⟩)


/-! ## The accessors -/

namespace Wdc4Reader

variable {id : BitVec 32} {reader : Wdc4Reader}

/-- The reader knows where the record starts: it has as many offsets, or none and counts. -/
def HasStart (reader : Wdc4Reader) (recordIdx : ℕ) : Prop :=
  if reader.recordOffsets ≠ [] then recordIdx < reader.recordOffsets.length
  else recordIdx * reader.header.recordSize.toNat < 2 ^ 64

def startOf (reader : Wdc4Reader) (recordIdx : ℕ) : ℕ :=
  if reader.recordOffsets ≠ [] then (reader.recordOffsets[recordIdx]?).getD 0
  else recordIdx * reader.header.recordSize.toNat

/-- The bits of the field are within a `usize`, and so are those of the element of an array. -/
structure FieldReadable (reader : Wdc4Reader) (recordIdx : ℕ) (info : FieldStorageInfo)
    (arrayIndex elementBits : ℕ) : Prop where
  start : reader.HasStart recordIdx
  bits : info.compression ≠ .common → BitsInRange (reader.startOf recordIdx)
    info.fieldOffsetBits.toNat info.fieldSizeBits.toNat
  element : info.compression = .none ∨ info.compression = .bitpacked ∨
      info.compression = .bitpackedSigned →
    info.fieldOffsetBits.toNat + arrayIndex * elementBits < 2 ^ 64 ∧
      BitsInRange (reader.startOf recordIdx)
        (info.fieldOffsetBits.toNat + arrayIndex * elementBits) elementBits
  palletElement : info.compression = .palletArray → ∀ index,
    readBits reader.recordData (reader.startOf recordIdx) info.fieldOffsetBits.toNat
      info.fieldSizeBits.toNat = .ok index →
    index.toNat * max info.val3.toNat 1 + arrayIndex < 2 ^ 64

/-- The end of the record is within a `usize`. -/
structure BytesReadable (reader : Wdc4Reader) (recordIdx : ℕ) : Prop where
  start : reader.recordOffsets[recordIdx]? = none →
    recordIdx * reader.header.recordSize.toNat < 2 ^ 64
  stop : (reader.recordSizes[recordIdx]?).getD reader.header.recordSize.toNat ≠ 0 →
    (reader.recordOffsets[recordIdx]?).getD (recordIdx * reader.header.recordSize.toNat) +
      (reader.recordSizes[recordIdx]?).getD reader.header.recordSize.toNat < 2 ^ 64

section Accessors

variable {reader : Wdc4Reader} {recordIdx field arrayIndex elementBits : ℕ}
  {info : FieldStorageInfo}

theorem noCrash_recordStart :
    NoCrash (reader.recordStart recordIdx) ↔ reader.HasStart recordIdx := by
  rw [recordStart, HasStart]
  split
  · exact noCrash_checkedGet
  · exact noCrash_checkedMul

theorem recordStart_eq_ok_iff {start : ℕ} :
    reader.recordStart recordIdx = .ok start ↔
      reader.HasStart recordIdx ∧ reader.startOf recordIdx = start := by
  rw [recordStart, HasStart, startOf]
  split
  · rw [checkedGet_eq_ok_iff, List.getElem?_eq_some_iff]
    constructor
    · rintro ⟨hlt, rfl⟩
      exact ⟨hlt, by rw [List.getElem?_eq_getElem hlt]; rfl⟩
    · rintro ⟨hlt, rfl⟩
      exact ⟨hlt, by rw [List.getElem?_eq_getElem hlt]; rfl⟩
  · exact checkedMul_eq_ok_iff

theorem noCrash_readField (hinfo : reader.fieldInfo[field]? = some info) :
    NoCrash (reader.readField recordIdx field) ↔ reader.HasStart recordIdx ∧
      (info.compression ≠ .common → BitsInRange (reader.startOf recordIdx)
        info.fieldOffsetBits.toNat info.fieldSizeBits.toNat) := by
  have hfield : checkedGet reader.fieldInfo field = (.ok info : Read FieldStorageInfo) :=
    checkedGet_eq_ok_iff.mpr hinfo
  simp only [readField, noCrash_bind_iff, hfield, noCrash_ok, Except.ok.injEq, forall_eq', true_and,
    noCrash_recordStart, recordStart_eq_ok_iff, and_imp]
  refine and_congr_right fun hstart => ?_
  simp only [hstart, forall_const, forall_eq']
  cases info.compression with
  | none => simp [noCrash_readBits]
  | bitpacked => simp [noCrash_readBits]
  | bitpackedSigned => simp [noCrash_readBits]
  | common => simp
  | pallet => simp [noCrash_map_iff, noCrash_readBits]
  | palletArray =>
    simp only [noCrash_bind_iff, noCrash_readBits, noCrash_checkedMul, noCrash_pure, ne_eq,
      reduceCtorEq, not_false_eq_true, forall_const, and_iff_left_iff_imp, implies_true, and_true]
    exact fun _ _ _ => cardinality_lt

theorem noCrash_getFieldI32 (hinfo : reader.fieldInfo[field]? = some info) :
    NoCrash (reader.getFieldI32 recordIdx field) ↔ NoCrash (reader.readField recordIdx field) := by
  have hfield : checkedGet reader.fieldInfo field = (.ok info : Read FieldStorageInfo) :=
    checkedGet_eq_ok_iff.mpr hinfo
  simp only [getFieldI32, noCrash_bind_iff, hfield, noCrash_ok, Except.ok.injEq, forall_eq',
    true_and, and_iff_left_iff_imp]
  intro _ raw _
  split <;> exact noCrash_pure _

theorem noCrash_getFieldString :
    NoCrash (reader.getFieldString recordIdx field) ↔
      NoCrash (reader.readField recordIdx field) := by
  simp only [getFieldString, getFieldU32, noCrash_bind_iff, and_iff_left_iff_imp]
  intro _ offset _
  split
  · split
    · split
      · exact noCrash_pure _
      case isFalse table _ hoffset =>
        simp only [noCrash_bind_iff, Bytes.noCrash_slice, noCrash_pure]
        refine ⟨⟨by omega, le_rfl⟩, fun rest hrest => ⟨?_, fun _ _ => trivial⟩⟩
        have hlength := (Bytes.length_of_slice hrest).2.2
        split
        case h_1 pos hpos =>
          have hlt := (List.findIdx?_eq_some_iff_findIdx_eq.mp hpos).1
          change pos < rest.length at hlt
          have hstop : offset.toNat + pos ≤ table.length := by omega
          exact ⟨Nat.le_add_right _ _, hstop⟩
        · omega
    · exact noCrash_pure _
  · exact noCrash_pure _

theorem noCrash_getArrayElement (hinfo : reader.fieldInfo[field]? = some info)
    (hread : NoCrash (reader.readField recordIdx field)) :
    NoCrash (reader.getArrayElement recordIdx field arrayIndex elementBits) ↔
      reader.FieldReadable recordIdx info arrayIndex elementBits := by
  have hfield : checkedGet reader.fieldInfo field = (.ok info : Read FieldStorageInfo) :=
    checkedGet_eq_ok_iff.mpr hinfo
  obtain ⟨hstart, hbits⟩ := (noCrash_readField hinfo).mp hread
  have hrecord : reader.recordStart recordIdx = .ok (reader.startOf recordIdx) :=
    recordStart_eq_ok_iff.mpr ⟨hstart, rfl⟩
  simp only [getArrayElement, noCrash_bind_iff, hfield, hrecord, noCrash_ok, Except.ok.injEq,
    forall_eq', true_and]
  have hplain : NoCrash (do
      let bitOffset ← checkedAdd 64 info.fieldOffsetBits.toNat
        (← checkedMul 64 arrayIndex elementBits)
      readBits reader.recordData (reader.startOf recordIdx) bitOffset elementBits) ↔
      info.fieldOffsetBits.toNat + arrayIndex * elementBits < 2 ^ 64 ∧
        BitsInRange (reader.startOf recordIdx)
          (info.fieldOffsetBits.toNat + arrayIndex * elementBits) elementBits := by
    simp only [noCrash_bind_iff, noCrash_checkedMul, checkedMul_eq_ok_iff, noCrash_checkedAdd,
      checkedAdd_eq_ok_iff, noCrash_readBits]
    constructor
    · rintro ⟨hmul, hadd⟩
      obtain ⟨hadd, hrange⟩ := hadd _ ⟨hmul, rfl⟩
      exact ⟨hadd, hrange _ ⟨hadd, rfl⟩⟩
    · rintro ⟨hadd, hrange⟩
      refine ⟨by omega, ?_⟩
      rintro _ ⟨-, rfl⟩
      refine ⟨hadd, ?_⟩
      rintro _ ⟨-, rfl⟩
      exact hrange
  have hplainIff (h : info.compression = .none ∨ info.compression = .bitpacked ∨
      info.compression = .bitpackedSigned) (hnot : info.compression ≠ .palletArray) :
      (info.fieldOffsetBits.toNat + arrayIndex * elementBits < 2 ^ 64 ∧
        BitsInRange (reader.startOf recordIdx)
          (info.fieldOffsetBits.toNat + arrayIndex * elementBits) elementBits) ↔
        reader.FieldReadable recordIdx info arrayIndex elementBits :=
    ⟨fun helement => ⟨hstart, hbits, fun _ => helement, fun harray => absurd harray hnot⟩,
      fun hfield => hfield.element h⟩
  cases hcompression : info.compression with
  | none => exact hplain.trans (hplainIff (by simp [hcompression]) (by simp [hcompression]))
  | bitpacked => exact hplain.trans (hplainIff (by simp [hcompression]) (by simp [hcompression]))
  | bitpackedSigned =>
    exact hplain.trans (hplainIff (by simp [hcompression]) (by simp [hcompression]))
  | common =>
    refine iff_of_true hread ⟨hstart, hbits, ?_, ?_⟩ <;> simp [hcompression]
  | pallet =>
    refine iff_of_true hread ⟨hstart, hbits, ?_, ?_⟩ <;> simp [hcompression]
  | palletArray =>
    simp only [noCrash_bind_iff, noCrash_readBits, noCrash_checkedMul, checkedMul_eq_ok_iff,
      noCrash_checkedAdd, noCrash_pure]
    constructor
    · rintro ⟨-, h⟩
      refine ⟨hstart, hbits, by simp [hcompression], fun _ index hindex => ?_⟩
      exact ((h index hindex).2 _ ⟨cardinality_lt, rfl⟩).1
    · intro h
      refine ⟨h.bits (by simp [hcompression]), fun index hindex => ⟨cardinality_lt, ?_⟩⟩
      rintro _ ⟨-, rfl⟩
      exact ⟨h.palletElement hcompression index hindex, fun _ _ => trivial⟩

theorem noCrash_recordBytes (hidx : recordIdx < reader.recordIds.length) :
    NoCrash (reader.recordBytes recordIdx) ↔ reader.BytesReadable recordIdx := by
  have hend : ∀ start : ℕ, NoCrash (do
      let size := (reader.recordSizes[recordIdx]?).getD reader.header.recordSize.toNat
      if size = 0 then
        return none
      let stop ← checkedAdd 64 start size
      if reader.recordData.length < stop then
        return none
      return some (← reader.recordData.slice start stop) : Read (Option Bytes)) ↔
      ((reader.recordSizes[recordIdx]?).getD reader.header.recordSize.toNat ≠ 0 →
        start + (reader.recordSizes[recordIdx]?).getD reader.header.recordSize.toNat < 2 ^ 64) := by
    intro start
    dsimp only
    split
    case isTrue hzero => exact iff_of_true (noCrash_pure _) fun h => absurd hzero h
    case isFalse hsize =>
      simp only [noCrash_bind_iff, noCrash_checkedAdd, checkedAdd_eq_ok_iff, ne_eq, hsize,
        not_false_eq_true, forall_const, and_iff_left_iff_imp]
      rintro - _ ⟨-, rfl⟩
      split
      · exact noCrash_pure _
      case isFalse hfits =>
        rw [noCrash_bind_iff, Bytes.noCrash_slice]
        exact ⟨⟨Nat.le_add_right _ _, not_lt.mp hfits⟩, fun _ _ => noCrash_pure _⟩
  rw [recordBytes, if_neg (by omega)]
  cases hoffset : reader.recordOffsets[recordIdx]? with
  | some offset =>
    refine (hend offset).trans ⟨fun h => ⟨fun hnone => ?_, fun hsize => ?_⟩, fun h hsize => ?_⟩
    · rw [hoffset] at hnone
      cases hnone
    · rw [hoffset]
      exact h hsize
    · have hstop := h.stop hsize
      rwa [hoffset] at hstop
  | none =>
    refine noCrash_bind_iff.trans ?_
    simp only [noCrash_checkedMul, checkedMul_eq_ok_iff]
    constructor
    · rintro ⟨hmul, h⟩
      refine ⟨fun _ => hmul, fun hsize => ?_⟩
      rw [hoffset]
      exact (hend _).mp (h _ ⟨hmul, rfl⟩) hsize
    · intro h
      refine ⟨h.start hoffset, ?_⟩
      rintro _ ⟨-, rfl⟩
      refine (hend _).mpr fun hsize => ?_
      have hstop := h.stop hsize
      rwa [hoffset] at hstop

end Accessors

theorem lookup_idToIndex_lt {n : ℕ} {ids : List (BitVec 32 × ℕ)} (hids : ∀ id ∈ ids, id.2 < n)
    {map : AList fun _ : BitVec 32 => ℕ} (hmap : ∀ id idx, map.lookup id = some idx → idx < n)
    {idx : ℕ} (h : (ids.foldl (fun map id => map.insert id.1 id.2) map).lookup id = some idx) :
    idx < n := by
  induction ids generalizing map with
  | nil => exact hmap id idx h
  | cons head ids ih =>
    refine ih (fun id hid => hids id (List.mem_cons_of_mem head hid)) (fun id idx hlookup => ?_) h
    by_cases hid : id = head.1
    · rw [hid, AList.lookup_insert] at hlookup
      rw [← Option.some.inj hlookup]
      exact hids head List.mem_cons_self
    · rw [AList.lookup_insert_ne hid] at hlookup
      exact hmap id idx hlookup

theorem idToIndex_lt (h : fromBytes data = .ok reader) {idx : ℕ}
    (hidx : reader.idToIndex.lookup id = some idx) : idx < reader.recordIds.length := by
  simp only [fromBytes, bind_eq_ok_iff] at h
  obtain ⟨_, -, header, -, parsed, -, h⟩ := h
  split at h
  · obtain rfl := pure_eq_ok_iff.mp h
    exact absurd hidx (by simp [Wdc4Reader.empty])
  · simp only [readRecords, bind_eq_ok_iff, pure_eq_ok_iff] at h
    obtain ⟨fields, -, tables, -, ids, -, rfl⟩ := h
    refine lookup_idToIndex_lt (fun id hid => ?_) (fun _ _ hlookup => ?_) hidx
    · simpa using List.snd_lt_of_mem_zipIdx hid
    · exact absurd hlookup (by simp)

theorem lt_of_mem_iterRecords (h : fromBytes data = .ok reader)
    (hmem : (id, recordIdx) ∈ reader.iterRecords) : recordIdx < reader.recordIds.length := by
  rcases List.mem_append.mp hmem with hdirect | hcopy
  · have hlt := List.snd_lt_of_mem_zipIdx hdirect
    simpa using hlt
  · obtain ⟨⟨newId, sourceId⟩, -, hcopy⟩ := List.mem_filterMap.mp hcopy
    obtain ⟨idx, hidx, heq⟩ := Option.map_eq_some_iff.mp hcopy
    obtain ⟨-, rfl⟩ := Prod.mk.inj heq
    exact idToIndex_lt h hidx

/-- Neither reading the file nor any access to its records crashes. -/
def NeverCrashes (data : Bytes) (arrayIndex elementBits : ℕ) : Prop :=
  NoCrash (fromBytes data) ∧ ∀ reader, fromBytes data = .ok reader →
    ∀ record ∈ reader.iterRecords, NoCrash (reader.recordBytes record.2) ∧
      ∀ field < reader.fieldCount,
        NoCrash (reader.getFieldU32 record.2 field) ∧
          NoCrash (reader.getFieldI32 record.2 field) ∧
            NoCrash (reader.getFieldString record.2 field) ∧
              NoCrash (reader.getArrayElement record.2 field arrayIndex elementBits)

theorem noCrash_accessors {field arrayIndex elementBits : ℕ} {info : FieldStorageInfo}
    (hinfo : reader.fieldInfo[field]? = some info) :
    (NoCrash (reader.getFieldU32 recordIdx field) ∧ NoCrash (reader.getFieldI32 recordIdx field) ∧
      NoCrash (reader.getFieldString recordIdx field) ∧
        NoCrash (reader.getArrayElement recordIdx field arrayIndex elementBits)) ↔
      reader.FieldReadable recordIdx info arrayIndex elementBits := by
  rw [noCrash_getFieldI32 hinfo, noCrash_getFieldString]
  constructor
  · rintro ⟨hread, -, -, helement⟩
    exact (noCrash_getArrayElement hinfo hread).mp helement
  · intro h
    have hread : NoCrash (reader.readField recordIdx field) :=
      (noCrash_readField hinfo).mpr ⟨h.start, h.bits⟩
    exact ⟨hread, hread, hread, (noCrash_getArrayElement hinfo hread).mpr h⟩

/-- No crash, exactly if the file is readable and the tables of the reader match. -/
theorem never_crashes_iff (data : Bytes) (arrayIndex elementBits : ℕ) :
    NeverCrashes data arrayIndex elementBits ↔
      FileReadable data ∧ ∀ reader, fromBytes data = .ok reader →
        ∀ recordIdx < reader.recordIds.length, reader.BytesReadable recordIdx ∧
          ∀ info ∈ reader.fieldInfo,
            reader.FieldReadable recordIdx info arrayIndex elementBits := by
  rw [NeverCrashes, noCrash_fromBytes]
  refine and_congr_right fun _ => forall_congr' fun reader => forall_congr' fun hreader => ?_
  constructor
  · intro h recordIdx hidx
    have hmem : (reader.recordIds[recordIdx], recordIdx) ∈ reader.iterRecords :=
      List.mem_append_left _ (List.mem_zipIdx_iff_getElem?.mpr (List.getElem?_eq_getElem hidx))
    refine ⟨(noCrash_recordBytes hidx).mp (h _ hmem).1, fun info hinfo => ?_⟩
    obtain ⟨field, hfield, rfl⟩ := List.getElem_of_mem hinfo
    exact (noCrash_accessors (List.getElem?_eq_getElem hfield)).mp ((h _ hmem).2 field hfield)
  · rintro h ⟨id, recordIdx⟩ hmem
    have hidx := lt_of_mem_iterRecords hreader hmem
    refine ⟨(noCrash_recordBytes hidx).mpr (h recordIdx hidx).1, fun field hfield => ?_⟩
    exact (noCrash_accessors (List.getElem?_eq_getElem hfield)).mpr
      ((h recordIdx hidx).2 _ (List.getElem_mem hfield))

/-- One section with one record, in a file whose records have no size. -/
def zeroSizeFile : Bytes :=
  ⟨[0x57, 0x44, 0x43, 0x34, 1, 0, 0, 0] ++ List.replicate 60 0 ++ [1, 0, 0, 0] ++
    List.replicate 12 0 ++ [1, 0, 0, 0] ++ List.replicate 24 0, by decide⟩

/-- Without an id list, the number of the first record is divided by zero. -/
theorem zero_size_crashes : ¬ NeverCrashes zeroSizeFile 0 32 := fun h =>
  h.1 .divisionByZero rfl

end Wdc4Reader

end RustyCore.Wdc4
