import RustyCore.Library.BigUint
import RustyCore.Model.Packet.WorldPacket

/-! # The SRP-6 logins

The login of the Battle.net server and the one of the game client. -/

/-! ## The Battle.net server

The server side of the login in its two versions, each with either of two hash functions.
Big integers are numbers; a subtraction below zero, a division by zero and a failed assertion
crash. -/

namespace RustyCore.Crypto

open BigUint
open Packet (utf8Bytes)

/-- The digests and the key derivation that the server calls. -/
structure Hashes where
  sha256 : List Byte → Vector Byte 32
  sha512 : List Byte → Vector Byte 64
  /-- By password, salt and number of rounds. -/
  pbkdf2HmacSha512 : List Byte → List Byte → ℕ → Vector Byte 64

inductive SrpVersion where
  | v1
  | v2
deriving DecidableEq

inductive SrpHashFunction where
  | sha256
  | sha512
deriving DecidableEq

/-- `N_V1_HEX`. -/
def nV1 : ℕ := 0x86A7F6DEEB306CE519770FE37D556F29944132554DED0BD68205E27F3231FEF5A10108238A3150C59CAF7B0B6478691C13A6ACF5E1B5ADAFD4A943D4A21A142B800E8A55F8BFBAC700EB77A7235EE5A609E350EA9FC19F10D921C2FA832E4461B7125D38D254A0BE873DFC27858ACB3F8B9F258461E4373BC3A6C2A9634324AB

/-- `N_V2_HEX`. -/
def nV2 : ℕ := 0xAC6BDB41324A9A9BF166DE5E1389582FAF72B6651987EE07FC3192943DB56050A37329CBB4A099ED8193E0757767A13DD52312AB4B03310DCD7F48A9DA04FD50E8083969EDB767B0CF6095179A163AB3661A05FBD5FAAAE82918A9962F0B93B855F97993EC975EEAA80D740ADBF4FF747359D041D5C33EA71D281E446B14773BCA97B43A23FB801676BD207A436C6481F1D2B9078717461A5B9D32E688F87748544523B524B0D57D5EA77A2775D2ECFA032CFBDBF52FB3786160279004E57AE6AF874E7303CE53299CCC041C7BC308D82A5698F3A8D0C38271AE35F8E9DBFBB694B5C803D89F7AE435DE236D525F54759B65E372FCD68EF20FA7111F9E4AFF73

def bnetG : ℕ := 2

def pbkdf2Iterations : ℕ := 15000

def parseModulus : SrpVersion → ℕ
  | .v1 => nV1
  | .v2 => nV2

def srpFixedOperandLen : SrpVersion → ℕ
  | .v1 => 128
  | .v2 => 256

def biguintToFixedBe (value len : ℕ) : Checked Empty (List Byte) := do
  let bytes := toBytesBe value
  assertThat (bytes.length ≤ len)
  return List.replicate (len - bytes.length) 0 ++ bytes

/-- Big-endian bytes, with a zero byte in front when the highest bit is set. -/
def brokenEvidenceVector (bn : ℕ) : List Byte :=
  let targetLen := (bits bn + 8) >>> 3
  let bytes := toBytesBe bn
  if targetLen ≤ bytes.length then bytes
  else List.replicate (targetLen - bytes.length) 0 ++ bytes

section Hashing

variable (hashes : Hashes)

/-- The digest of the chosen hash function, as a number. -/
def hashNumber (hashFn : SrpHashFunction) (data : List Byte) : ℕ :=
  match hashFn with
  | .sha256 => fromBytesBe (hashes.sha256 data).toList
  | .sha512 => fromBytesBe (hashes.sha512 data).toList

def computeK (version : SrpVersion) (hashFn : SrpHashFunction) (n g : ℕ) : Checked Empty ℕ := do
  let operandLen := srpFixedOperandLen version
  let nBytes ← biguintToFixedBe n operandLen
  let gBytes ← biguintToFixedBe g operandLen
  return hashNumber hashes hashFn (nBytes ++ gBytes)

def computeX (version : SrpVersion) (username password : String) (salt : List Byte) :
    Checked Empty ℕ :=
  match version with
  | .v1 =>
    let inner := hashes.sha256 (utf8Bytes (username ++ ":" ++ password))
    return fromBytesLe (hashes.sha256 (salt ++ inner.toList)).toList
  | .v2 => do
      let input := username ++ ":" ++ password
      let xBytes := hashes.pbkdf2HmacSha512 (utf8Bytes input) salt pbkdf2Iterations
      let xUnsigned := fromBytesBe xBytes.toList
      let nMinus1 ← checkedSub (parseModulus .v2) 1
      if xBytes[0] &&& 0x80 ≠ 0 then
        -- The bytes stand for `xUnsigned - 2 ^ 512`, reduced to a remainder that is not negative.
        let negAbs ← checkedSub (1 <<< 512) xUnsigned
        let negRem ← checkedMod negAbs nMinus1
        if negRem = 0 then return 0
        else checkedSub nMinus1 negRem
      else checkedMod xUnsigned nMinus1

def computeU (version : SrpVersion) (hashFn : SrpHashFunction) (a b : ℕ) : Checked Empty ℕ := do
  let operandLen := srpFixedOperandLen version
  let aBytes ← biguintToFixedBe a operandLen
  let bBytes ← biguintToFixedBe b operandLen
  return hashNumber hashes hashFn (aBytes ++ bBytes)

def computeEvidence (hashFn : SrpHashFunction) (values : List ℕ) : ℕ :=
  hashNumber hashes hashFn (values.flatMap brokenEvidenceVector)

/-- The verifier that is stored at registration. -/
def computeBnetVerifier (version : SrpVersion) (username password : String) (salt : List Byte) :
    Checked Empty (List Byte) := do
  let x ← computeX hashes version username password salt
  let v ← checkedModpow bnetG x (parseModulus version)
  return toBytesLe v

end Hashing

/-- The server secret from the bytes the generator fills in. -/
def generatePrivateB (n : ℕ) (random : List Byte) : Checked Empty ℕ := do
  let nMinus1 ← checkedSub n 1
  checkedMod (fromBytesBe random) nMinus1

def computePublicB (n g k v b : ℕ) : Checked Empty ℕ := do
  let gb ← checkedModpow g b n
  let kv ← checkedMod (k * v) n
  checkedMod (gb + kv) n

structure BnetSrpProof where
  serverEvidence : ℕ
  sessionKey : ℕ
deriving DecidableEq

structure BnetSrp6 where
  version : SrpVersion
  hashFn : SrpHashFunction
  n : ℕ
  g : ℕ
  k : ℕ
  v : ℕ
  salt : List Byte
  b : ℕ
  bigB : ℕ
deriving DecidableEq

namespace BnetSrp6

variable (hashes : Hashes)

/-- `new` with the bytes it draws. -/
def new (version : SrpVersion) (hashFn : SrpHashFunction) (salt verifier random : List Byte) :
    Checked Empty BnetSrp6 := do
  let n := parseModulus version
  let g := bnetG
  let v := fromBytesLe verifier
  let k ← computeK hashes version hashFn n g
  let b ← generatePrivateB n random
  let bigB ← computePublicB n g k v b
  return { version, hashFn, n, g, k, v, salt, b, bigB }

def verifyClientEvidence (srp : BnetSrp6) (clientA clientM1 : List Byte) :
    Checked Empty (Option BnetSrpProof) := do
  let a := fromBytesBe clientA
  let m1 := fromBytesBe clientM1
  let aMod ← checkedMod a srp.n
  if aMod = 0 then return none
  else
    let u ← computeU hashes srp.version srp.hashFn a srp.bigB
    let uMod ← checkedMod u srp.n
    if uMod = 0 then return none
    else
      let vu ← checkedModpow srp.v u srp.n
      let avu ← checkedMod (a * vu) srp.n
      let s ← checkedModpow avu srp.b srp.n
      let expectedM1 := computeEvidence hashes srp.hashFn [a, srp.bigB, s]
      if expectedM1 ≠ m1 then return none
      else
        let m2 := computeEvidence hashes srp.hashFn [a, m1, s]
        return some { serverEvidence := m2, sessionKey := s }

/-- Check a password without the exchange of evidence. -/
def checkCredentials (srp : BnetSrp6) (username password : String) : Checked Empty Bool := do
  let x ← computeX hashes srp.version username password srp.salt
  let computedV ← checkedModpow srp.g x srp.n
  return computedV == srp.v

end BnetSrp6

end RustyCore.Crypto

/-! ## The game client

The functions of the handshake, with SHA-1 as a parameter. Numbers are written in
little-endian order, with 32 bytes each. -/

namespace RustyCore.Crypto

open BigUint
open Packet (utf8Bytes)

def primeN : ℕ := 0x894B645E89E1535BBDAD5B8B290650530801B18EBFBF5E8FAB3C82872A3E9BB7

def generatorG : ℕ := 7

def multiplierK : ℕ := 3

/-- `Vec::resize` of the bytes: cut off at `len`, or filled up with zeros. -/
def biguintToLeFixed (val len : ℕ) : List Byte :=
  let bytes := toBytesLe val
  bytes.take len ++ List.replicate (len - bytes.length) 0

/-- Uppercase the letters `a` to `z` and no others. -/
def utf8ToUpperOnlyLatinLikeCpp (input : String) : String :=
  input.map fun ch => if 97 ≤ ch.toNat ∧ ch.toNat ≤ 122 then Char.ofNat (ch.toNat - 32) else ch

/-- The position behind the leading zeros, moved on by one if an odd number of bytes is left. -/
def sessionKeyStart (bytes : List Byte) : ℕ :=
  let start := (bytes.takeWhile fun byte => byte = 0).length
  if (bytes.length - start) % 2 = 1 then start + 1 else start

/-- The bytes at the positions with this remainder modulo 2. -/
def everySecond (parity : ℕ) (bytes : List Byte) : List Byte :=
  (bytes.zipIdx.filter fun (_, i) => i % 2 = parity).map Prod.fst

section Hashing

variable (sha1 : List Byte → Vector Byte 20)

/-- The SHA-1 of the concatenation of some slices. -/
def sha1Multi (parts : List (List Byte)) : Vector Byte 20 := sha1 parts.flatten

namespace Srp6

def computeX (username password : String) (salt : List Byte) : ℕ :=
  let identity := utf8ToUpperOnlyLatinLikeCpp username ++ ":" ++ utf8ToUpperOnlyLatinLikeCpp password
  let identityHash := sha1 (utf8Bytes identity)
  fromBytesLe (sha1 (salt ++ identityHash.toList)).toList

def computeVerifier (username password : String) (salt : List Byte) : ℕ :=
  modpow generatorG (computeX sha1 username password salt) primeN

/-- The public ephemeral that `generate_server_ephemeral` computes from one drawn secret. -/
def serverEphemeral (v b : ℕ) : ℕ :=
  let gb := modpow generatorG b primeN
  let kv := multiplierK * v % primeN
  (kv + gb) % primeN

def computeU (a b : ℕ) : ℕ :=
  fromBytesLe (sha1Multi sha1 [biguintToLeFixed a 32, biguintToLeFixed b 32]).toList

def computeServerS (a v u b : ℕ) : ℕ :=
  let vu := modpow v u primeN
  let avu := a * vu % primeN
  modpow avu b primeN

def computeSessionKey (s : ℕ) : Vector Byte 40 :=
  let sBytes := biguintToLeFixed s 32
  let buf := sBytes.drop (sessionKeyStart sBytes)
  let hash1 := sha1 (everySecond 0 buf)
  let hash2 := sha1 (everySecond 1 buf)
  Vector.ofFn fun i : Fin 40 =>
    if i.val % 2 = 0 then hash1[i.val / 2] else hash2[i.val / 2]

def computeClientEvidence (username : String) (salt : List Byte) (a b : ℕ) (k : Vector Byte 40) :
    Vector Byte 20 :=
  let hn := sha1 (biguintToLeFixed primeN 32)
  let hg := sha1 (biguintToLeFixed generatorG 32)
  let hnXorHg := Vector.zipWith (fun x y => x ^^^ y) hn hg
  let hUsername := sha1 (utf8Bytes (utf8ToUpperOnlyLatinLikeCpp username))
  sha1Multi sha1 [hnXorHg.toList, hUsername.toList, salt, biguintToLeFixed a 32,
    biguintToLeFixed b 32, k.toList]

def computeServerEvidence (a : ℕ) (m1 : Vector Byte 20) (k : Vector Byte 40) : Vector Byte 20 :=
  sha1Multi sha1 [biguintToLeFixed a 32, m1.toList, k.toList]

end Srp6

end Hashing

end RustyCore.Crypto
