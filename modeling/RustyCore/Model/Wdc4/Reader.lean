import RustyCore.Model.Wdc4.Format

/-! # Reading a WDC4 file -/

namespace RustyCore.Wdc4

/-- A parsed file. -/
structure Wdc4Reader where
  header : Wdc4Header
  fieldInfo : List FieldStorageInfo
  palletData : List (List (BitVec 32))
  commonData : List CommonValues
  recordData : Bytes
  recordIds : List (BitVec 32)
  /-- New id and source id of each copy. -/
  copyTable : List (BitVec 32 × BitVec 32)
  idToIndex : AList fun _ : BitVec 32 => ℕ
  relationshipIds : List (Option (BitVec 32))
  /-- Where each record starts in `recordData`. -/
  recordOffsets : List ℕ
  recordSizes : List ℕ
  stringTables : List Bytes
  recordStringTableIndices : List (Option ℕ)

/-- What the sections read so far hold. -/
structure SectionTables where
  recordData : Bytes
  recordIds : List (BitVec 32)
  copyTable : List (BitVec 32 × BitVec 32)
  recordOffsets : List ℕ
  recordSizes : List ℕ
  relationshipIds : List (Option (BitVec 32))
  stringTables : List Bytes
  recordStringTableIndices : List (Option ℕ)

def SectionTables.empty : SectionTables := ⟨.empty, [], [], [], [], [], [], []⟩

/-- A reader for a file without records. -/
def Wdc4Reader.empty (header : Wdc4Header) : Wdc4Reader :=
  ⟨header, [], [], [], .empty, [], [], ∅, [], [], [], [], []⟩

namespace Wdc4Header

def hasIdList (header : Wdc4Header) : Prop := header.flags &&& 0x04 ≠ 0

def hasOffsetMap (header : Wdc4Header) : Prop := header.flags &&& 0x01 ≠ 0

instance (header : Wdc4Header) : Decidable header.hasIdList :=
  inferInstanceAs (Decidable (header.flags &&& 0x04 ≠ 0))

instance (header : Wdc4Header) : Decidable header.hasOffsetMap :=
  inferInstanceAs (Decidable (header.flags &&& 0x01 ≠ 0))

/-- `id_index != u16::MAX` -/
def hasInlineIds (header : Wdc4Header) : Prop := header.idIndex ≠ BitVec.allOnes 16

instance (header : Wdc4Header) : Decidable header.hasInlineIds :=
  inferInstanceAs (Decidable (header.idIndex ≠ BitVec.allOnes 16))

end Wdc4Header

/-- Records of a section and the string table behind them. -/
structure SectionRecords where
  tables : SectionTables
  afterRecords : ℕ
  stringTableIndex : Option ℕ

section Sections

variable (header : Wdc4Header) (data : Bytes) (si : ℕ) (sec : SectionHeader)

/-- The string table `data[start..stop]`, if there is one. -/
def pushStringTable (tables : SectionTables) (start stop : ℕ) : Read (SectionTables × Option ℕ) := do
  if 0 < sec.stringTableSize.toNat then
    let table ← data.slice start stop
    return ({ tables with stringTables := tables.stringTables ++ [table] },
      some tables.stringTables.length)
  else return (tables, none)

/-- Records of variable length, up to `offset_records_end`. -/
def readVariableRecords (tables : SectionTables) : Read SectionRecords := do
  let recEnd := sec.offsetRecordsEnd.toNat
  ensure (recEnd ≤ data.length) (.recordDataTruncatedOffsetMap si)
  let records ← data.slice sec.fileOffset.toNat recEnd
  let recordData ← tables.recordData.extend records
  let tables := { tables with recordData }
  if 0 < sec.stringTableSize.toNat then
    let stringEnd ← checkedAdd 64 recEnd sec.stringTableSize.toNat
    ensure (stringEnd ≤ data.length) (.stringTableTruncatedOffsetMap si)
    let (tables, index) ← pushStringTable data sec tables recEnd stringEnd
    return ⟨tables, recEnd, index⟩
  else return ⟨tables, recEnd, none⟩

/-- Records of a fixed size. -/
def readFixedRecords (tables : SectionTables) : Read SectionRecords := do
  let recBytes ← checkedMul 64 sec.recordCount.toNat header.recordSize.toNat
  let recEnd ← checkedAdd 64 sec.fileOffset.toNat recBytes
  ensure (recEnd ≤ data.length) (.recordDataTruncated si)
  let records ← data.slice sec.fileOffset.toNat recEnd
  let recordData ← tables.recordData.extend records
  let tables := { tables with recordData }
  let stringEnd ← checkedAdd 64 recEnd sec.stringTableSize.toNat
  ensure (stringEnd ≤ data.length) (.stringTableTruncated si)
  let (tables, index) ← pushStringTable data sec tables recEnd stringEnd
  return ⟨tables, stringEnd, index⟩

/-- The records of a section, of either kind. -/
def readRecordBytes (tables : SectionTables) : Read SectionRecords :=
  if header.hasOffsetMap then readVariableRecords data si sec tables
  else readFixedRecords header data si sec tables

/-- The ids of the section's records. A file with inline ids gets placeholders here. -/
def readIds (baseDataLen afterRecords : ℕ) : Read (List (BitVec 32)) := do
  let idListEnd ← checkedAdd 64 afterRecords sec.idListSize.toNat
  if header.hasIdList ∧ 0 < sec.idListSize.toNat then
    ensure (idListEnd ≤ data.length) (.idListTruncated si)
    (List.range (sec.idListSize.toNat / 4)).mapM fun i => do
      let idOff ← checkedAdd 64 afterRecords (← checkedMul 64 i 4)
      readU32Le data idOff
  else if ¬ header.hasOffsetMap then
    let baseIdx ← checkedDiv baseDataLen header.recordSize.toNat
    (List.range sec.recordCount.toNat).mapM fun i => do
      if header.hasInlineIds then
        return 0
      else
        let first ← checkedAdd 32 header.minId.toNat (baseIdx % 2 ^ 32)
        return BitVec.ofNat 32 (← checkedAdd 32 first i)
  else return []

/-- The copies at the cursor, and the cursor behind them. -/
def readCopyTable (cursor : ℕ) : Read (List (BitVec 32 × BitVec 32) × ℕ) := do
  if 0 < sec.copyTableCount.toNat then
    let copyBytes ← checkedMul 64 sec.copyTableCount.toNat 8
    let copyEnd ← checkedAdd 64 cursor copyBytes
    ensure (copyEnd ≤ data.length) (.copyTableTruncated si)
    let copies ← (List.range sec.copyTableCount.toNat).mapM fun i => do
      let co ← checkedAdd 64 cursor (← checkedMul 64 i 8)
      let newId ← readU32Le data co
      let sourceId ← readU32Le data (co + 4)
      return (newId, sourceId)
    return (copies, copyEnd)
  else return ([], cursor)

/-- The relationships at the cursor, and the cursor behind them. -/
def readRelationships (cursor : ℕ) (baseRecordIndex : Read ℕ)
    (relationshipIds : List (Option (BitVec 32))) : Read (List (Option (BitVec 32)) × ℕ) := do
  if 0 < sec.relationshipDataSize.toNat then
    let relEnd ← checkedAdd 64 cursor sec.relationshipDataSize.toNat
    ensure (relEnd ≤ data.length) (.relationshipDataTruncated si)
    let raw ← data.slice cursor relEnd
    return (← mergeRelationshipData raw (← baseRecordIndex) relationshipIds, relEnd)
  else return (relationshipIds, cursor)

abbrev OffsetMapInfo := AList fun _ : BitVec 32 => BitVec 32 × BitVec 16

/-- The start of a record within the record data read so far. -/
def dataRelative (baseDataLen : ℕ) (fileOff : BitVec 32) : Read ℕ :=
  checkedAdd 64 (fileOff.toNat - sec.fileOffset.toNat) baseDataLen

/-- The records of the id list from `tables.record_offsets.len()` on, each found by its id. -/
def offsetsByIds (baseDataLen : ℕ) (stringTableIndex : Option ℕ) (info : OffsetMapInfo)
    (tables : SectionTables) : Read SectionTables :=
  (tables.recordIds.drop tables.recordOffsets.length).foldlM (fun tables id => do
    match info.lookup id with
    | some (fileOff, recSz) =>
      let offset ← dataRelative sec baseDataLen fileOff
      return { tables with
        recordOffsets := tables.recordOffsets ++ [offset]
        recordSizes := tables.recordSizes ++ [recSz.toNat]
        recordStringTableIndices := tables.recordStringTableIndices ++ [stringTableIndex] }
    | none => return { tables with
        recordOffsets := tables.recordOffsets ++ [0]
        recordSizes := tables.recordSizes ++ [0]
        recordStringTableIndices := tables.recordStringTableIndices ++ [stringTableIndex] }) tables

/-- The records of the offset map itself, for a section without an id list. -/
def offsetsByMap (baseDataLen : ℕ) (stringTableIndex : Option ℕ)
    (entries : List (BitVec 32 × BitVec 32 × BitVec 16)) (tables : SectionTables) :
    Read SectionTables :=
  entries.foldlM (fun tables (omId, fileOff, recSz) => do
    if 0 < recSz.toNat then
      let offset ← dataRelative sec baseDataLen fileOff
      return { tables with
        recordIds := tables.recordIds ++ [omId]
        recordOffsets := tables.recordOffsets ++ [offset]
        recordSizes := tables.recordSizes ++ [recSz.toNat]
        recordStringTableIndices := tables.recordStringTableIndices ++ [stringTableIndex] }
    else return tables) tables

/-- The offset map at the cursor, with the relationships and the id list behind it. -/
def readOffsetMap (baseDataLen cursor : ℕ) (stringTableIndex : Option ℕ)
    (tables : SectionTables) : Read SectionTables := do
  let omCount := sec.offsetMapIdCount.toNat
  let omBytes ← checkedMul 64 omCount 6
  let omEnd ← checkedAdd 64 cursor omBytes
  ensure (omEnd ≤ data.length) (.offsetMapTruncated si)
  let omEntries ← (List.range omCount).mapM fun i => do
    let omOff ← checkedAdd 64 cursor (← checkedMul 64 i 6)
    let fileOff ← readU32Le data omOff
    let recSz ← readU16Le data (omOff + 4)
    return (fileOff, recSz)
  let (relationshipIds, cursor) ← readRelationships data si sec omEnd
    (checkedDiv baseDataLen (max header.recordSize.toNat 1)) tables.relationshipIds
  let tables := { tables with relationshipIds }
  let omIdBytes ← checkedMul 64 omCount 4
  let omIdEnd ← checkedAdd 64 cursor omIdBytes
  ensure (omIdEnd ≤ data.length) (.offsetMapIdListTruncated si)
  let entries ← omEntries.zipIdx.mapM fun (entry, i) => do
    let omId ← readU32Le data (← checkedAdd 64 cursor (← checkedMul 64 i 4))
    return (omId, entry)
  -- The last entry of an id that exists wins.
  let info : OffsetMapInfo := entries.foldl (fun info (omId, fileOff, recSz) =>
    if 0 < recSz.toNat then info.insert omId (fileOff, recSz) else info) ∅
  if tables.recordOffsets.length < tables.recordIds.length then
    offsetsByIds sec baseDataLen stringTableIndex info tables
  else offsetsByMap sec baseDataLen stringTableIndex entries tables

/-- Fixed-size records stand one after the other. -/
def sequentialOffsets (baseDataLen : ℕ) (stringTableIndex : Option ℕ) (tables : SectionTables) :
    Read SectionTables :=
  (List.range sec.recordCount.toNat).foldlM (fun tables i => do
    let offset ← checkedAdd 64 baseDataLen (← checkedMul 64 i header.recordSize.toNat)
    return { tables with
      recordOffsets := tables.recordOffsets ++ [offset]
      recordSizes := tables.recordSizes ++ [header.recordSize.toNat]
      recordStringTableIndices := tables.recordStringTableIndices ++ [stringTableIndex] }) tables

/-- One section, read behind the tables of the sections before it. -/
def readSection (tables : SectionTables) : Read SectionTables := do
  if sec.recordCount = 0 ∧ sec.copyTableCount = 0 then
    return tables
  let baseDataLen := tables.recordData.length
  let ⟨tables, afterRecords, stringTableIndex⟩ ← readRecordBytes header data si sec tables
  let ids ← readIds header data si sec baseDataLen afterRecords
  let tables := { tables with recordIds := tables.recordIds ++ ids }
  -- `read_ids` has checked this sum.
  let (copies, cursor) ← readCopyTable data si sec (afterRecords + sec.idListSize.toNat)
  let tables := { tables with copyTable := tables.copyTable ++ copies }
  if ¬ header.hasOffsetMap then
    let (relationshipIds, _) ← readRelationships data si sec cursor
      (checkedDiv baseDataLen header.recordSize.toNat) tables.relationshipIds
    sequentialOffsets header sec baseDataLen stringTableIndex { tables with relationshipIds }
  else if 0 < sec.offsetMapIdCount.toNat then
    readOffsetMap header data si sec baseDataLen cursor stringTableIndex tables
  else return tables

end Sections

/-- All sections in file order. -/
def readSections (header : Wdc4Header) (data : Bytes) (sections : List SectionHeader) :
    Read SectionTables :=
  sections.zipIdx.foldlM (fun tables (sec, si) => readSection header data si sec tables) .empty

/-- `count` values of `size` bytes each, from `offset` on, and the offset behind them. -/
def parseMany {α : Type} (data : Bytes) (size : ℕ) (error : ReadError) (parse : Bytes → Read α)
    (count offset : ℕ) : Read (List α × ℕ) :=
  (List.range count).foldlM (fun (parsed, offset) _ => do
    let stop ← checkedAdd 64 offset size
    ensure (stop ≤ data.length) error
    return (parsed ++ [← parse (← data.slice offset data.length)], stop)) ([], offset)

/-- Replace the placeholders by the ids that the records hold. -/
def readInlineRecordIds (header : Wdc4Header) (fieldInfo : List FieldStorageInfo)
    (palletData : List (List (BitVec 32))) (tables : SectionTables) : Read (List (BitVec 32)) := do
  let idField := header.idIndex.toNat
  ensure (idField < fieldInfo.length) (.inlineIdFieldOutside idField fieldInfo.length)
  ensure (tables.recordIds.length = tables.recordOffsets.length)
    (.inlineIdCountMismatch tables.recordIds.length tables.recordOffsets.length)
  (List.range tables.recordIds.length).mapM fun recordIdx =>
    readInlineRecordId tables.recordData tables.recordOffsets header.recordSize.toNat fieldInfo
      palletData recordIdx idField

/-- The ids of all records, inline ones included. -/
def completeRecordIds (header : Wdc4Header) (fieldInfo : List FieldStorageInfo)
    (palletData : List (List (BitVec 32))) (tables : SectionTables) : Read (List (BitVec 32)) :=
  if ¬ header.hasIdList ∧ ¬ header.hasOffsetMap ∧ header.hasInlineIds then
    readInlineRecordIds header fieldInfo palletData tables
  else .ok tables.recordIds

/-- The storage of the fields with their values outside the records. -/
structure FieldTables where
  fieldInfo : List FieldStorageInfo
  palletData : List (List (BitVec 32))
  commonData : List CommonValues

/-- The fields, which are described behind the section headers. -/
def parseFields (header : Wdc4Header) (data : Bytes) (offset : ℕ) : Read FieldTables := do
  let fieldCount := max header.totalFieldCount.toNat header.fieldCount.toNat
  let offset ← checkedAdd 64 offset (← checkedMul 64 fieldCount fieldMetaSize)
  let fsiCount := header.fieldStorageInfoSize.toNat / fieldStorageInfoSize
  ensure (fsiCount = fieldCount) (.fieldStorageInfoCount fsiCount fieldCount)
  let (fieldInfo, offset) ← parseMany data fieldStorageInfoSize .truncatedFieldStorageInfo
    parseFieldStorageInfo fsiCount offset
  let palletEnd ← checkedAdd 64 offset header.palletDataSize.toNat
  ensure (palletEnd ≤ data.length) .truncatedPalletData
  let palletData ← splitPalletData (← data.slice offset palletEnd) fieldInfo
  let commonEnd ← checkedAdd 64 palletEnd header.commonDataSize.toNat
  ensure (commonEnd ≤ data.length) .truncatedCommonData
  let commonData ← splitCommonData (← data.slice palletEnd commonEnd) fieldInfo
  return ⟨fieldInfo, palletData, commonData⟩

/-- The sections, and the reader over all that has been read. -/
def readRecords (header : Wdc4Header) (data : Bytes) (sections : List SectionHeader)
    (fields : FieldTables) : Read Wdc4Reader := do
  let tables ← readSections header data sections
  let recordIds ← completeRecordIds header fields.fieldInfo fields.palletData tables
  return {
    header
    fieldInfo := fields.fieldInfo
    palletData := fields.palletData
    commonData := fields.commonData
    recordData := tables.recordData
    recordIds
    copyTable := tables.copyTable
    idToIndex := recordIds.zipIdx.foldl (fun map (id, idx) => map.insert id idx) ∅
    relationshipIds := tables.relationshipIds
    recordOffsets := tables.recordOffsets
    recordSizes := tables.recordSizes
    stringTables := tables.stringTables
    recordStringTableIndices := tables.recordStringTableIndices }

/-- No records, and none in any section. -/
def hasNoRecords (header : Wdc4Header) (sections : List SectionHeader) : Prop :=
  header.recordCount = 0 ∧ ∀ sec ∈ sections, sec.recordCount = 0 ∧ sec.copyTableCount = 0

instance (header : Wdc4Header) (sections : List SectionHeader) :
    Decidable (hasNoRecords header sections) :=
  inferInstanceAs (Decidable (_ ∧ _))

namespace Wdc4Reader

/-- Parse a file held in memory. -/
def fromBytes (data : Bytes) : Read Wdc4Reader := do
  ensure (headerSize ≤ data.length) .tooSmall
  let header ← parseHeader data
  let (sections, offset) ← parseMany data sectionHeaderSize .truncatedSectionHeader
    parseSectionHeader header.sectionCount.toNat headerSize
  if hasNoRecords header sections ∧ header.fieldStorageInfoSize = 0 then
    return .empty header
  let fields ← parseFields header data offset
  readRecords header data sections fields

section Accessors

variable (reader : Wdc4Reader) (recordIdx field : ℕ)

def fieldCount : ℕ := reader.fieldInfo.length

/-- All records with their ids, the copies behind the direct ones. -/
def iterRecords : List (BitVec 32 × ℕ) :=
  reader.recordIds.zipIdx ++ reader.copyTable.filterMap fun (newId, sourceId) =>
    (reader.idToIndex.lookup sourceId).map fun idx => (newId, idx)

/-- Where the record starts. -/
def recordStart : Read ℕ :=
  if reader.recordOffsets ≠ [] then checkedGet reader.recordOffsets recordIdx
  else checkedMul 64 recordIdx reader.header.recordSize.toNat

def readField : Read (BitVec 32) := do
  let info ← checkedGet reader.fieldInfo field
  let recordStart ← reader.recordStart recordIdx
  let bits := readBits reader.recordData recordStart info.fieldOffsetBits.toNat
    info.fieldSizeBits.toNat
  match info.compression with
  | .none | .bitpacked | .bitpackedSigned => bits
  | .pallet =>
    let index := (← bits).toNat
    return ((reader.palletData[field]?).bind (·[index]?)).getD 0
  | .palletArray =>
    let index := (← bits).toNat
    let cardinality := max info.val3.toNat 1
    let position ← checkedMul 64 index cardinality
    return ((reader.palletData[field]?).bind (·[position]?)).getD 0
  | .common =>
    let recordId := (reader.recordIds[recordIdx]?).getD 0
    return ((reader.commonData[field]?).bind (·.lookup recordId)).getD info.val1

def getFieldU32 : Read (BitVec 32) := reader.readField recordIdx field

def getFieldI32 : Read (BitVec 32) := do
  let info ← checkedGet reader.fieldInfo field
  let raw ← reader.readField recordIdx field
  if info.compression = .bitpackedSigned then
    return signExtend raw info.fieldSizeBits.toNat
  else return raw

/-- The bytes of a string field, up to the first zero byte. -/
def getFieldString : Read (List Byte) := do
  let offset := (← reader.getFieldU32 recordIdx field).toNat
  match reader.recordStringTableIndices[recordIdx]? with
  | some (some tableIdx) =>
    match reader.stringTables[tableIdx]? with
    | some table =>
      if table.length ≤ offset then
        return []
      else
        let rest ← table.slice offset table.length
        let stop := match rest.list.findIdx? (· = 0) with
          | some pos => offset + pos
          | none => table.length
        return (← table.slice offset stop).list
    | none => return []
  | _ => return []

/-- An element of an array field. -/
def getArrayElement (arrayIndex elementBits : ℕ) : Read (BitVec 32) := do
  let info ← checkedGet reader.fieldInfo field
  let recordStart ← reader.recordStart recordIdx
  match info.compression with
  | .none | .bitpacked | .bitpackedSigned =>
    let bitOffset ← checkedAdd 64 info.fieldOffsetBits.toNat
      (← checkedMul 64 arrayIndex elementBits)
    readBits reader.recordData recordStart bitOffset elementBits
  | .palletArray =>
    let index := (← readBits reader.recordData recordStart info.fieldOffsetBits.toNat
      info.fieldSizeBits.toNat).toNat
    let cardinality := max info.val3.toNat 1
    let position ← checkedAdd 64 (← checkedMul 64 index cardinality) arrayIndex
    return ((reader.palletData[field]?).bind (·[position]?)).getD 0
  | .pallet | .common => reader.readField recordIdx field

def recordBytes : Read (Option Bytes) := do
  if reader.recordIds.length ≤ recordIdx then
    return none
  let start ← match reader.recordOffsets[recordIdx]? with
    | some offset => pure offset
    | none => checkedMul 64 recordIdx reader.header.recordSize.toNat
  let size := (reader.recordSizes[recordIdx]?).getD reader.header.recordSize.toNat
  if size = 0 then
    return none
  let stop ← checkedAdd 64 start size
  if reader.recordData.length < stop then
    return none
  return some (← reader.recordData.slice start stop)

end Accessors

end Wdc4Reader

end RustyCore.Wdc4
