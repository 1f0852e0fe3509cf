import RustyCore.Library.BigUint

/-! # SHA-256

The digest as the standard defines it, on words of 32 bits with the highest byte first. -/

namespace RustyCore.Sha256

open BigUint

abbrev Word := BitVec 32

/-- The round constants: the first bits behind the point of the cube roots of the first
64 primes. -/
def constants : List Word :=
  [0x428a2f98, 0x71374491, 0xb5c0fbcf, 0xe9b5dba5, 0x3956c25b, 0x59f111f1, 0x923f82a4, 0xab1c5ed5,
   0xd807aa98, 0x12835b01, 0x243185be, 0x550c7dc3, 0x72be5d74, 0x80deb1fe, 0x9bdc06a7, 0xc19bf174,
   0xe49b69c1, 0xefbe4786, 0x0fc19dc6, 0x240ca1cc, 0x2de92c6f, 0x4a7484aa, 0x5cb0a9dc, 0x76f988da,
   0x983e5152, 0xa831c66d, 0xb00327c8, 0xbf597fc7, 0xc6e00bf3, 0xd5a79147, 0x06ca6351, 0x14292967,
   0x27b70a85, 0x2e1b2138, 0x4d2c6dfc, 0x53380d13, 0x650a7354, 0x766a0abb, 0x81c2c92e, 0x92722c85,
   0xa2bfe8a1, 0xa81a664b, 0xc24b8b70, 0xc76c51a3, 0xd192e819, 0xd6990624, 0xf40e3585, 0x106aa070,
   0x19a4c116, 0x1e376c08, 0x2748774c, 0x34b0bcb5, 0x391c0cb3, 0x4ed8aa4a, 0x5b9cca4f, 0x682e6ff3,
   0x748f82ee, 0x78a5636f, 0x84c87814, 0x8cc70208, 0x90befffa, 0xa4506ceb, 0xbef9a3f7, 0xc67178f2]

/-- The eight words of the hash value. -/
structure State where
  (a b c d e f g h : Word)

/-- The first bits behind the point of the square roots of the first eight primes. -/
def State.initial : State :=
  ⟨0x6a09e667, 0xbb67ae85, 0x3c6ef372, 0xa54ff53a, 0x510e527f, 0x9b05688c, 0x1f83d9ab, 0x5be0cd19⟩

/-- One round, with a word of the schedule and a constant. -/
def State.round (s : State) (word constant : Word) : State :=
  let sum1 := s.e.rotateRight 6 ^^^ s.e.rotateRight 11 ^^^ s.e.rotateRight 25
  let choice := (s.e &&& s.f) ^^^ (~~~s.e &&& s.g)
  let t1 := s.h + sum1 + choice + constant + word
  let sum0 := s.a.rotateRight 2 ^^^ s.a.rotateRight 13 ^^^ s.a.rotateRight 22
  let majority := (s.a &&& s.b) ^^^ (s.a &&& s.c) ^^^ (s.b &&& s.c)
  ⟨t1 + (sum0 + majority), s.a, s.b, s.c, s.d + t1, s.e, s.f, s.g⟩

/-- The schedule, its last word first, continued by this many words. -/
def schedule : ℕ → List Word → List Word
  | 0, words => words
  | count + 1, words =>
    let w2 := words.getD 1 0
    let w15 := words.getD 14 0
    let sigma1 := w2.rotateRight 17 ^^^ w2.rotateRight 19 ^^^ w2 >>> 10
    let sigma0 := w15.rotateRight 7 ^^^ w15.rotateRight 18 ^^^ w15 >>> 3
    schedule count ((sigma1 + words.getD 6 0 + sigma0 + words.getD 15 0) :: words)

def State.compress (s : State) (block : List Word) : State :=
  let words := (schedule 48 block.reverse).reverse
  let r := (words.zip constants).foldl (fun s wk => s.round wk.1 wk.2) s
  ⟨s.a + r.a, s.b + r.b, s.c + r.c, s.d + r.d, s.e + r.e, s.f + r.f, s.g + r.g, s.h + r.h⟩

def wordsBe : ℕ → List Byte → List Word
  | 0, _ => []
  | count + 1, bytes => BitVec.ofNat 32 (fromBytesBe (bytes.take 4)) :: wordsBe count (bytes.drop 4)

def blocks : ℕ → List Byte → List (List Word)
  | 0, _ => []
  | count + 1, bytes => wordsBe 16 (bytes.take 64) :: blocks count (bytes.drop 64)

/-- The message with the bit, the zeros and the length that fill its last block. -/
def pad (data : List Byte) : List Byte :=
  data ++ 0x80 :: List.replicate ((119 - data.length % 64) % 64) 0 ++
    (leBytes 8 (8 * data.length)).reverse

def digest (data : List Byte) : Vector Byte 32 :=
  let s := (blocks ((pad data).length / 64) (pad data)).foldl State.compress State.initial
  let number := [s.a, s.b, s.c, s.d, s.e, s.f, s.g, s.h].foldl
    (fun number word => number <<< 32 + word.toNat) 0
  ⟨(leBytes 32 number).reverse.toArray, by simp⟩

example : (digest [0x61, 0x62, 0x63]).toList = toBytesBe
    0xba7816bf8f01cfea414140de5dae2223b00361a396177a9cb410ff61f20015ad := by decide +kernel

end RustyCore.Sha256
