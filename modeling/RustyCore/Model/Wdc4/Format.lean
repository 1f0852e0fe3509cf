import Mathlib.Data.List.AList
import RustyCore.Library.Checked

/-! # The parts of a WDC4 file

Headers, the storage of the fields and the bits of the records. Machine words that the
reader uses as sizes are natural numbers, with every check of a `usize` operation. -/

namespace RustyCore.Wdc4

inductive CompressionType
  | none
  | bitpacked
  | common
  | pallet
  | palletArray
  | bitpackedSigned
  deriving DecidableEq

/-- The errors of the reader, in the order of the source. -/
inductive ReadError
  | tooSmall
  | notWdc4 (magic : BitVec 32)
  | truncatedSectionHeader
  | fieldStorageInfoCount (fsiCount fieldCount : ℕ)
  | truncatedFieldStorageInfo
  | unknownCompression (v : BitVec 32)
  | truncatedPalletData
  | truncatedCommonData
  | recordDataTruncatedOffsetMap (si : ℕ)
  | stringTableTruncatedOffsetMap (si : ℕ)
  | recordDataTruncated (si : ℕ)
  | stringTableTruncated (si : ℕ)
  | idListTruncated (si : ℕ)
  | copyTableTruncated (si : ℕ)
  | relationshipDataTruncated (si : ℕ)
  | relationshipTooSmall
  | relationshipTruncated
  | offsetMapTruncated (si : ℕ)
  | offsetMapIdListTruncated (si : ℕ)
  | inlineIdFieldOutside (idField fields : ℕ)
  | inlineIdCountMismatch (ids offsets : ℕ)
  | inlineIdPallet (field index : ℕ)
  | inlineIdPalletArray (field index : ℕ)
  | inlineIdCommon (field : ℕ)
  deriving DecidableEq

/-- `{v:08X}` -/
def upperHex (v : BitVec 32) : String :=
  let digits := ((Nat.toDigits 16 v.toNat).map Char.toUpper)
  String.ofList (List.replicate (8 - digits.length) '0' ++ digits)

def ReadError.message : ReadError → String
  | tooSmall => "file too small for WDC4 header"
  | notWdc4 magic => "not a WDC4 file (magic=0x" ++ upperHex magic ++ ")"
  | truncatedSectionHeader => "truncated section header"
  | fieldStorageInfoCount fsiCount fieldCount =>
    "field_storage_info count (" ++ toString fsiCount ++ ") != field_count (" ++
      toString fieldCount ++ ")"
  | truncatedFieldStorageInfo => "truncated field_storage_info"
  | unknownCompression v => "unknown compression type " ++ toString v.toNat
  | truncatedPalletData => "truncated pallet data"
  | truncatedCommonData => "truncated common data"
  | recordDataTruncatedOffsetMap si =>
    "section " ++ toString si ++ " record data truncated (offset_map)"
  | stringTableTruncatedOffsetMap si =>
    "section " ++ toString si ++ " string table truncated (offset_map)"
  | recordDataTruncated si => "section " ++ toString si ++ " record data truncated"
  | stringTableTruncated si => "section " ++ toString si ++ " string table truncated"
  | idListTruncated si => "section " ++ toString si ++ " id_list truncated"
  | copyTableTruncated si => "section " ++ toString si ++ " copy_table truncated"
  | relationshipDataTruncated si => "section " ++ toString si ++ " relationship_data truncated"
  | relationshipTooSmall => "relationship_data too small"
  | relationshipTruncated => "relationship_data truncated"
  | offsetMapTruncated si => "section " ++ toString si ++ " offset_map truncated"
  | offsetMapIdListTruncated si => "section " ++ toString si ++ " offset_map_id_list truncated"
  | inlineIdFieldOutside idField fields =>
    "inline id field " ++ toString idField ++ " is outside " ++ toString fields ++ " WDC4 fields"
  | inlineIdCountMismatch ids offsets =>
    "inline id record/offset count mismatch (" ++ toString ids ++ " != " ++ toString offsets ++ ")"
  | inlineIdPallet field index =>
    "inline id field " ++ toString field ++ " pallet index " ++ toString index ++
      " is outside its value table"
  | inlineIdPalletArray field index =>
    "inline id field " ++ toString field ++ " pallet-array index " ++ toString index ++
      " is outside its value table"
  | inlineIdCommon field =>
    "inline WDC4 id field " ++ toString field ++ " cannot use Common compression"

abbrev Read (α : Type) := Checked ReadError α

/-! ## Words -/

-- Where `data[off]` is in range, `off` is below `2 ^ 63` and the sums cannot overflow.
def readU16Le (data : Bytes) (off : ℕ) : Read (BitVec 16) := do
  let b₀ ← checkedGet data.list off
  let b₁ ← checkedGet data.list (off + 1)
  return b₁ ++ b₀

def readU32Le (data : Bytes) (off : ℕ) : Read (BitVec 32) := do
  let b₀ ← checkedGet data.list off
  let b₁ ← checkedGet data.list (off + 1)
  let b₂ ← checkedGet data.list (off + 2)
  let b₃ ← checkedGet data.list (off + 3)
  return b₃ ++ b₂ ++ b₁ ++ b₀

def readU64Le (data : Bytes) (off : ℕ) : Read (BitVec 64) := do
  let low ← readU32Le data off
  let high ← readU32Le data (off + 4)
  return high ++ low

/-! ## Headers -/

structure Wdc4Header where
  recordCount : BitVec 32
  fieldCount : BitVec 32
  recordSize : BitVec 32
  stringTableSize : BitVec 32
  tableHash : BitVec 32
  layoutHash : BitVec 32
  minId : BitVec 32
  maxId : BitVec 32
  locale : BitVec 32
  flags : BitVec 16
  idIndex : BitVec 16
  totalFieldCount : BitVec 32
  packedDataOffset : BitVec 32
  lookupColumnCount : BitVec 32
  fieldStorageInfoSize : BitVec 32
  commonDataSize : BitVec 32
  palletDataSize : BitVec 32
  sectionCount : BitVec 32
  deriving DecidableEq

structure SectionHeader where
  tactKeyHash : BitVec 64
  fileOffset : BitVec 32
  recordCount : BitVec 32
  stringTableSize : BitVec 32
  offsetRecordsEnd : BitVec 32
  idListSize : BitVec 32
  relationshipDataSize : BitVec 32
  offsetMapIdCount : BitVec 32
  copyTableCount : BitVec 32
  deriving DecidableEq

/-- How a field is stored. For `common` fields `val1` is the default value. -/
structure FieldStorageInfo where
  fieldOffsetBits : BitVec 16
  fieldSizeBits : BitVec 16
  additionalDataSize : BitVec 32
  compression : CompressionType
  val1 : BitVec 32
  val2 : BitVec 32
  val3 : BitVec 32
  deriving DecidableEq

/-- `"WDC4"` in little-endian -/
def wdc4Magic : BitVec 32 := 0x34434457

def headerSize : ℕ := 72

def sectionHeaderSize : ℕ := 40

def fieldMetaSize : ℕ := 4

def fieldStorageInfoSize : ℕ := 24

def CompressionType.fromU32 (v : BitVec 32) : Read CompressionType :=
  match v.toNat with
  | 0 => .ok .none
  | 1 => .ok .bitpacked
  | 2 => .ok .common
  | 3 => .ok .pallet
  | 4 => .ok .palletArray
  | 5 => .ok .bitpackedSigned
  | _ => .error (.error (.unknownCompression v))

def parseHeader (data : Bytes) : Read Wdc4Header := do
  let magic ← readU32Le data 0
  ensure (magic = wdc4Magic) (.notWdc4 magic)
  return {
    recordCount := ← readU32Le data 4
    fieldCount := ← readU32Le data 8
    recordSize := ← readU32Le data 12
    stringTableSize := ← readU32Le data 16
    tableHash := ← readU32Le data 20
    layoutHash := ← readU32Le data 24
    minId := ← readU32Le data 28
    maxId := ← readU32Le data 32
    locale := ← readU32Le data 36
    flags := ← readU16Le data 40
    idIndex := ← readU16Le data 42
    totalFieldCount := ← readU32Le data 44
    packedDataOffset := ← readU32Le data 48
    lookupColumnCount := ← readU32Le data 52
    fieldStorageInfoSize := ← readU32Le data 56
    commonDataSize := ← readU32Le data 60
    palletDataSize := ← readU32Le data 64
    sectionCount := ← readU32Le data 68 }

def parseSectionHeader (data : Bytes) : Read SectionHeader := do
  return {
    tactKeyHash := ← readU64Le data 0
    fileOffset := ← readU32Le data 8
    recordCount := ← readU32Le data 12
    stringTableSize := ← readU32Le data 16
    offsetRecordsEnd := ← readU32Le data 20
    idListSize := ← readU32Le data 24
    relationshipDataSize := ← readU32Le data 28
    offsetMapIdCount := ← readU32Le data 32
    copyTableCount := ← readU32Le data 36 }

def parseFieldStorageInfo (data : Bytes) : Read FieldStorageInfo := do
  return {
    fieldOffsetBits := ← readU16Le data 0
    fieldSizeBits := ← readU16Le data 2
    additionalDataSize := ← readU32Le data 4
    compression := ← CompressionType.fromU32 (← readU32Le data 8)
    val1 := ← readU32Le data 12
    val2 := ← readU32Le data 16
    val3 := ← readU32Le data 20 }

/-! ## Bits -/

/-- `bitCount` bits of the record that starts at byte `recordStart`, from `bitOffset` on. -/
def readBits (recordData : Bytes) (recordStart bitOffset bitCount : ℕ) : Read (BitVec 32) := do
  if bitCount = 0 ∨ 32 < bitCount then
    return 0
  let absBit ← checkedAdd 64 (← checkedMul 64 recordStart 8) bitOffset
  let byteStart := absBit / 8
  let bitStart := absBit % 8
  let bytesNeeded := (bitStart + bitCount + 7) / 8
  let val : BitVec 64 := (List.range (min bytesNeeded 8)).foldl
    (fun val i => match recordData.list[byteStart + i]? with
      | some b => val ||| (b.setWidth 64 <<< (i * 8))
      | none => val) 0
  let shifted := val >>> bitStart
  let mask : BitVec 32 :=
    if 32 ≤ bitCount then BitVec.allOnes 32 else (1 <<< bitCount : BitVec 32) - 1
  return shifted.setWidth 32 &&& mask

/-- Sign-extend a value of `bits` bits to an `i32`. -/
def signExtend (value : BitVec 32) (bits : ℕ) : BitVec 32 :=
  if bits = 0 ∨ 32 ≤ bits then value
  else
    let signBit : BitVec 32 := 1 <<< (bits - 1)
    if value &&& signBit ≠ 0 then
      let mask : BitVec 32 := ~~~((1 <<< bits : BitVec 32) - 1)
      value ||| mask
    else value

/-! ## The tables of the fields -/

def palletValues (raw : Bytes) (offset : ℕ) (count : ℕ) : Read (List (BitVec 32)) :=
  (List.range count).foldlM (fun values i => do
    let o ← checkedAdd 64 offset (← checkedMul 64 i 4)
    if (← checkedAdd 64 o 4) ≤ raw.length then
      return values ++ [← readU32Le raw o]
    else return values) []

/-- The pallet values of each field, from the concatenated blob. -/
def splitPalletData (raw : Bytes) (fields : List FieldStorageInfo) :
    Read (List (List (BitVec 32))) := do
  let (result, _) ← fields.foldlM (fun (result, offset) info => do
    if info.compression = .pallet ∨ info.compression = .palletArray then
      let size := info.additionalDataSize.toNat
      let values ← palletValues raw offset (size / 4)
      return (result ++ [values], ← checkedAdd 64 offset size)
    else return (result ++ [[]], offset)) (([], 0) : List (List (BitVec 32)) × ℕ)
  return result

abbrev CommonValues := AList fun _ : BitVec 32 => BitVec 32

def commonValues (raw : Bytes) (offset : ℕ) (count : ℕ) : Read CommonValues :=
  (List.range count).foldlM (fun map i => do
    let o ← checkedAdd 64 offset (← checkedMul 64 i 8)
    if (← checkedAdd 64 o 8) ≤ raw.length then
      let recordId ← readU32Le raw o
      let value ← readU32Le raw (o + 4)
      return map.insert recordId value
    else return map) ∅

/-- The common values of each field by record id, from the concatenated blob. -/
def splitCommonData (raw : Bytes) (fields : List FieldStorageInfo) : Read (List CommonValues) := do
  let (result, _) ← fields.foldlM (fun (result, offset) info => do
    if info.compression = .common then
      let size := info.additionalDataSize.toNat
      let map ← commonValues raw offset (size / 8)
      return (result ++ [map], ← checkedAdd 64 offset size)
    else return (result ++ [∅], offset)) (([], 0) : List CommonValues × ℕ)
  return result

/-- `relationship_ids.resize(n, None)`, which only makes the list longer here. -/
def resizeRelationships (relationshipIds : List (Option (BitVec 32))) (n : ℕ) :
    List (Option (BitVec 32)) :=
  relationshipIds ++ List.replicate (n - relationshipIds.length) none

def mergeRelationshipData (raw : Bytes) (baseRecordIndex : ℕ)
    (relationshipIds : List (Option (BitVec 32))) : Read (List (Option (BitVec 32))) := do
  if raw.length = 0 then
    return relationshipIds
  ensure (12 ≤ raw.length) .relationshipTooSmall
  let count := (← readU32Le raw 0).toNat
  let entriesStart := 12
  let entriesEnd ← checkedAdd 64 entriesStart (← checkedMul 64 count 8)
  ensure (entriesEnd ≤ raw.length) .relationshipTruncated
  (List.range count).foldlM (fun relationshipIds i => do
    let entryOffset ← checkedAdd 64 entriesStart (← checkedMul 64 i 8)
    let relationshipId ← readU32Le raw entryOffset
    let index ← readU32Le raw (entryOffset + 4)
    let recordIndex ← checkedAdd 64 baseRecordIndex index.toNat
    let relationshipIds := if relationshipIds.length ≤ recordIndex then
      resizeRelationships relationshipIds (recordIndex + 1) else relationshipIds
    let _ ← checkedGet relationshipIds recordIndex
    return relationshipIds.set recordIndex (some relationshipId)) relationshipIds

def readInlineRecordId (recordData : Bytes) (recordOffsets : List ℕ) (recordSize : ℕ)
    (fieldInfo : List FieldStorageInfo) (palletData : List (List (BitVec 32)))
    (recordIdx field : ℕ) : Read (BitVec 32) := do
  let info ← checkedGet fieldInfo field
  -- The default is evaluated also when the offset is there.
  let fallback ← checkedMul 64 recordIdx recordSize
  let recordStart := recordOffsets[recordIdx]?.getD fallback
  let bits := readBits recordData recordStart info.fieldOffsetBits.toNat info.fieldSizeBits.toNat
  match info.compression with
  | .none | .bitpacked | .bitpackedSigned => bits
  | .pallet =>
    let index := (← bits).toNat
    match (palletData[field]?).bind (·[index]?) with
    | some id => return id
    | none => .error (.error (.inlineIdPallet field index))
  | .palletArray =>
    let index := (← bits).toNat
    let cardinality := max info.val3.toNat 1
    let position ← checkedMul 64 index cardinality
    match (palletData[field]?).bind (·[position]?) with
    | some id => return id
    | none => .error (.error (.inlineIdPalletArray field index))
  | .common => .error (.error (.inlineIdCommon field))

end RustyCore.Wdc4
