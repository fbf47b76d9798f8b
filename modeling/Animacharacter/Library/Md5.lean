import Animacharacter.Library.BigEndian

set_option autoImplicit false

namespace Md5

open BigEndian

-- Words are numbers below 2 ^ 32.
def constants : List Nat :=
  [0xd76aa478, 0xe8c7b756, 0x242070db, 0xc1bdceee, 0xf57c0faf, 0x4787c62a, 0xa8304613, 0xfd469501,
    0x698098d8, 0x8b44f7af, 0xffff5bb1, 0x895cd7be, 0x6b901122, 0xfd987193, 0xa679438e, 0x49b40821,
    0xf61e2562, 0xc040b340, 0x265e5a51, 0xe9b6c7aa, 0xd62f105d, 0x02441453, 0xd8a1e681, 0xe7d3fbc8,
    0x21e1cde6, 0xc33707d6, 0xf4d50d87, 0x455a14ed, 0xa9e3e905, 0xfcefa3f8, 0x676f02d9, 0x8d2a4c8a,
    0xfffa3942, 0x8771f681, 0x6d9d6122, 0xfde5380c, 0xa4beea44, 0x4bdecfa9, 0xf6bb4b60, 0xbebfbc70,
    0x289b7ec6, 0xeaa127fa, 0xd4ef3085, 0x04881d05, 0xd9d4d039, 0xe6db99e5, 0x1fa27cf8, 0xc4ac5665,
    0xf4292244, 0x432aff97, 0xab9423a7, 0xfc93a039, 0x655b59c3, 0x8f0ccc92, 0xffeff47d, 0x85845dd1,
    0x6fa87e4f, 0xfe2ce6e0, 0xa3014314, 0x4e0811a1, 0xf7537e82, 0xbd3af235, 0x2ad7d2bb, 0xeb86d391]

def rotations : List (List Nat) := [[7, 12, 17, 22], [5, 9, 14, 20], [4, 11, 16, 23], [6, 10, 15, 21]]

structure Chain where
  a : Nat
  b : Nat
  c : Nat
  d : Nat

def startChain : Chain := ⟨0x67452301, 0xefcdab89, 0x98badcfe, 0x10325476⟩

def add (left right : Nat) : Nat := (left + right) % 2 ^ 32

def invert (word : Nat) : Nat := 2 ^ 32 - 1 - word

def rotateLeft (word count : Nat) : Nat := word * 2 ^ count % 2 ^ 32 + word / 2 ^ (32 - count)

-- The mixing function of a step and the word of the block that it reads.
def select (chain : Chain) (index : Nat) : Nat × Nat :=
  match index / 16 with
  | 0 => ((chain.b &&& chain.c) ||| (invert chain.b &&& chain.d), index)
  | 1 => ((chain.d &&& chain.b) ||| (invert chain.d &&& chain.c), (5 * index + 1) % 16)
  | 2 => (chain.b ^^^ chain.c ^^^ chain.d, (3 * index + 5) % 16)
  | _ => (chain.c ^^^ (chain.b ||| invert chain.d), 7 * index % 16)

def step (block : List Nat) (chain : Chain) (index : Nat) : Chain :=
  let selected := select chain index
  let sum := add (add chain.a selected.1) (add (constants.getD index 0) (block.getD selected.2 0))
  let count := (rotations.getD (index / 16) []).getD (index % 4) 0
  ⟨chain.d, add chain.b (rotateLeft sum count), chain.b, chain.c⟩

def compress (chain : Chain) (block : List Nat) : Chain :=
  let mixed := (List.range 64).foldl (step block) chain
  ⟨add chain.a mixed.a, add chain.b mixed.b, add chain.c mixed.c, add chain.d mixed.d⟩

def words : List UInt8 → List Nat
  | first :: second :: third :: fourth :: rest =>
      (first.toNat + 256 * (second.toNat + 256 * (third.toNat + 256 * fourth.toNat))) :: words rest
  | _ => []

-- A one bit, zeros up to a whole block, and the length in bits.
def pad (message : List UInt8) : List UInt8 :=
  message ++ [0x80] ++ List.replicate ((119 - message.length % 64) % 64) 0 ++ (toBytes 8 (8 * message.length)).reverse

def compressBlocks : Nat → Chain → List Nat → Chain
  | 0, chain, _ => chain
  | count + 1, chain, message => compressBlocks count (compress chain (message.take 16)) (message.drop 16)

def digest (message : List UInt8) : List UInt8 :=
  let padded := pad message
  let chain := compressBlocks (padded.length / 64) startChain (words padded)
  [chain.a, chain.b, chain.c, chain.d].flatMap fun word => (toBytes 4 word).reverse

-- The message "abc".
example : digest [97, 98, 99] = toBytes 16 0x900150983cd24fb0d6963f7d28e17f72 := by decide +kernel

end Md5
