import Animacharacter.Library.BigEndian
import Animacharacter.Library.Bytes

set_option autoImplicit false

namespace Blake2s

open Bytes BigEndian

-- Words are numbers below 2 ^ 32.
def startVector : List Nat :=
  [0x6a09e667, 0xbb67ae85, 0x3c6ef372, 0xa54ff53a, 0x510e527f, 0x9b05688c, 0x1f83d9ab, 0x5be0cd19]

def permutations : List (List Nat) :=
  [[0, 1, 2, 3, 4, 5, 6, 7, 8, 9, 10, 11, 12, 13, 14, 15],
    [14, 10, 4, 8, 9, 15, 13, 6, 1, 12, 0, 2, 11, 7, 5, 3],
    [11, 8, 12, 0, 5, 2, 15, 13, 10, 14, 3, 6, 7, 1, 9, 4],
    [7, 9, 3, 1, 13, 12, 11, 14, 2, 6, 5, 10, 4, 0, 15, 8],
    [9, 0, 5, 7, 2, 4, 10, 15, 14, 1, 11, 12, 6, 8, 3, 13],
    [2, 12, 6, 10, 0, 11, 8, 3, 4, 13, 7, 5, 15, 14, 1, 9],
    [12, 5, 1, 15, 14, 13, 4, 10, 0, 7, 6, 3, 9, 2, 8, 11],
    [13, 11, 7, 14, 12, 1, 3, 9, 5, 0, 15, 4, 8, 6, 2, 10],
    [6, 15, 14, 9, 11, 3, 0, 8, 12, 2, 13, 7, 1, 4, 10, 5],
    [10, 2, 8, 4, 7, 6, 1, 5, 15, 11, 9, 14, 3, 12, 13, 0]]

-- The places that the eight mixings of a round work on: columns, then diagonals.
def lanes : List (Nat × Nat × Nat × Nat) :=
  [(0, 4, 8, 12), (1, 5, 9, 13), (2, 6, 10, 14), (3, 7, 11, 15),
    (0, 5, 10, 15), (1, 6, 11, 12), (2, 7, 8, 13), (3, 4, 9, 14)]

def rotateRight (word count : Nat) : Nat := word / 2 ^ count + word % 2 ^ count * 2 ^ (32 - count)

def add (left right : Nat) : Nat := (left + right) % 2 ^ 32

def mix (work : List Nat) (lane : Nat × Nat × Nat × Nat) (first second : Nat) : List Nat :=
  let word (place : Nat) : Nat := work.getD place 0
  let a := add (add (word lane.1) (word lane.2.1)) first
  let d := rotateRight (word lane.2.2.2 ^^^ a) 16
  let c := add (word lane.2.2.1) d
  let b := rotateRight (word lane.2.1 ^^^ c) 12
  let a := add (add a b) second
  let d := rotateRight (d ^^^ a) 8
  let c := add c d
  let b := rotateRight (b ^^^ c) 7
  (((work.set lane.1 a).set lane.2.1 b).set lane.2.2.1 c).set lane.2.2.2 d

def round (words work permutation : List Nat) : List Nat :=
  let word (place : Nat) : Nat := words.getD (permutation.getD place 0) 0
  (lanes.zip (List.range 8)).foldl
    (fun work next => mix work next.1 (word (2 * next.2)) (word (2 * next.2 + 1))) work

-- The last word is read as if zeros followed the message.
def words : List UInt8 → List Nat
  | first :: second :: third :: fourth :: rest =>
      (first.toNat + 256 * (second.toNat + 256 * (third.toNat + 256 * fourth.toNat))) :: words rest
  | [] => []
  | short => [rd32 short]

def compress (chain block : List Nat) (count : Nat) (final : Bool) : List Nat :=
  let counted := startVector.zipWith (· ^^^ ·)
    [0, 0, 0, 0, count % 2 ^ 32, count / 2 ^ 32 % 2 ^ 32, if final then 0xffffffff else 0, 0]
  let mixed := permutations.foldl (round block) (chain ++ counted)
  chain.zipWith (· ^^^ ·) ((mixed.take 8).zipWith (· ^^^ ·) (mixed.drop 8))

-- `done` bytes have been compressed; the last of the blocks may be short.
def compressBlocks (total : Nat) : Nat → List Nat → List Nat → Nat → List Nat
  | 0, chain, block, _ => compress chain block total true
  | more + 1, chain, message, done =>
      compressBlocks total more (compress chain (message.take 16) (done + 64) false) (message.drop 16) (done + 64)

-- Without a key, and with a digest of 32 bytes.
def startChain : List Nat := startVector.zipWith (· ^^^ ·) [0x01010020, 0, 0, 0, 0, 0, 0, 0]

def digest (message : List UInt8) : List UInt8 :=
  (compressBlocks message.length ((message.length - 1) / 64) startChain (words message) 0).flatMap le32

-- The message "abc".
example : digest [97, 98, 99] =
    toBytes 32 0x508c5e8c327c14e2e1a72ba34eeb452f37458b209ed63a294d999b4c86675982 := by decide +kernel

def blockKey (key : List UInt8) : List UInt8 :=
  let short := if key.length > 64 then digest key else key
  short ++ List.replicate (64 - short.length) 0

def hmac (key data : List UInt8) : List UInt8 :=
  let inner := (blockKey key).map (· ^^^ 0x36)
  let outer := (blockKey key).map (· ^^^ 0x5c)
  digest (outer ++ digest (inner ++ data))

end Blake2s
