import Animacharacter.Library.BigEndian

set_option autoImplicit false

namespace Sha256

open BigEndian

def roundConstants : List UInt32 :=
  [0x428a2f98, 0x71374491, 0xb5c0fbcf, 0xe9b5dba5, 0x3956c25b, 0x59f111f1, 0x923f82a4, 0xab1c5ed5,
    0xd807aa98, 0x12835b01, 0x243185be, 0x550c7dc3, 0x72be5d74, 0x80deb1fe, 0x9bdc06a7, 0xc19bf174,
    0xe49b69c1, 0xefbe4786, 0x0fc19dc6, 0x240ca1cc, 0x2de92c6f, 0x4a7484aa, 0x5cb0a9dc, 0x76f988da,
    0x983e5152, 0xa831c66d, 0xb00327c8, 0xbf597fc7, 0xc6e00bf3, 0xd5a79147, 0x06ca6351, 0x14292967,
    0x27b70a85, 0x2e1b2138, 0x4d2c6dfc, 0x53380d13, 0x650a7354, 0x766a0abb, 0x81c2c92e, 0x92722c85,
    0xa2bfe8a1, 0xa81a664b, 0xc24b8b70, 0xc76c51a3, 0xd192e819, 0xd6990624, 0xf40e3585, 0x106aa070,
    0x19a4c116, 0x1e376c08, 0x2748774c, 0x34b0bcb5, 0x391c0cb3, 0x4ed8aa4a, 0x5b9cca4f, 0x682e6ff3,
    0x748f82ee, 0x78a5636f, 0x84c87814, 0x8cc70208, 0x90befffa, 0xa4506ceb, 0xbef9a3f7, 0xc67178f2]

structure Chain where
  a : UInt32
  b : UInt32
  c : UInt32
  d : UInt32
  e : UInt32
  f : UInt32
  g : UInt32
  h : UInt32

def startChain : Chain :=
  ⟨0x6a09e667, 0xbb67ae85, 0x3c6ef372, 0xa54ff53a, 0x510e527f, 0x9b05688c, 0x1f83d9ab, 0x5be0cd19⟩

def rotateRight (word count : UInt32) : UInt32 := (word >>> count) ||| (word <<< (32 - count))

def bigSigma0 (word : UInt32) : UInt32 := rotateRight word 2 ^^^ rotateRight word 13 ^^^ rotateRight word 22
def bigSigma1 (word : UInt32) : UInt32 := rotateRight word 6 ^^^ rotateRight word 11 ^^^ rotateRight word 25
def smallSigma0 (word : UInt32) : UInt32 := rotateRight word 7 ^^^ rotateRight word 18 ^^^ (word >>> 3)
def smallSigma1 (word : UInt32) : UInt32 := rotateRight word 17 ^^^ rotateRight word 19 ^^^ (word >>> 10)

def wordAt (block : List UInt8) (index : Nat) : UInt32 := UInt32.ofNat (fromBytes ((block.drop (4 * index)).take 4))

def extendSchedule : Nat → List UInt32 → List UInt32
  | 0, words => words
  | count + 1, words =>
      let back (distance : Nat) : UInt32 := words.getD (words.length - distance) 0
      extendSchedule count (words ++ [smallSigma1 (back 2) + back 7 + smallSigma0 (back 15) + back 16])

def schedule (block : List UInt8) : List UInt32 := extendSchedule 48 ((List.range 16).map (wordAt block))

def round (chain : Chain) (constant word : UInt32) : Chain :=
  let choice := (chain.e &&& chain.f) ^^^ (~~~chain.e &&& chain.g)
  let majority := (chain.a &&& chain.b) ^^^ (chain.a &&& chain.c) ^^^ (chain.b &&& chain.c)
  let first := chain.h + bigSigma1 chain.e + choice + constant + word
  let second := bigSigma0 chain.a + majority
  ⟨first + second, chain.a, chain.b, chain.c, chain.d + first, chain.e, chain.f, chain.g⟩

def compress (chain : Chain) (block : List UInt8) : Chain :=
  let mixed := (roundConstants.zip (schedule block)).foldl (fun mixed next => round mixed next.1 next.2) chain
  ⟨chain.a + mixed.a, chain.b + mixed.b, chain.c + mixed.c, chain.d + mixed.d,
    chain.e + mixed.e, chain.f + mixed.f, chain.g + mixed.g, chain.h + mixed.h⟩

-- A one bit, zeros up to a whole block, and the length in bits.
def pad (message : List UInt8) : List UInt8 :=
  message ++ [0x80] ++ List.replicate ((119 - message.length % 64) % 64) 0 ++ toBytes 8 (8 * message.length)

def compressBlocks : Nat → Chain → List UInt8 → Chain
  | 0, chain, _ => chain
  | count + 1, chain, message => compressBlocks count (compress chain (message.take 64)) (message.drop 64)

def serialize (chain : Chain) : List UInt8 :=
  [chain.a, chain.b, chain.c, chain.d, chain.e, chain.f, chain.g, chain.h].flatMap fun word => toBytes 4 word.toNat

def digest (message : List UInt8) : List UInt8 :=
  let padded := pad message
  serialize (compressBlocks (padded.length / 64) startChain padded)

theorem digest_length (message : List UInt8) : (digest message).length = 32 := by
  simp only [digest, serialize, List.flatMap_cons, List.flatMap_nil, List.length_append, to_bytes_length, List.length_nil]

-- The message "abc".
example : digest [97, 98, 99] =
    toBytes 32 0xba7816bf8f01cfea414140de5dae2223b00361a396177a9cb410ff61f20015ad := by decide +kernel

def blockKey (key : List UInt8) : List UInt8 :=
  let short := if key.length > 64 then digest key else key
  short ++ List.replicate (64 - short.length) 0

def hmac (key data : List UInt8) : List UInt8 :=
  let inner := (blockKey key).map (· ^^^ 0x36)
  let outer := (blockKey key).map (· ^^^ 0x5c)
  digest (outer ++ digest (inner ++ data))

theorem hmac_length (key data : List UInt8) : (hmac key data).length = 32 := digest_length _

end Sha256
