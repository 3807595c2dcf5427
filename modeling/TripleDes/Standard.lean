import TripleDes.Library.Wiring

/-!
# The published cipher

The Data Encryption Standard and its triple form, written from the published
description and independently of the circuit: tables number the bits of a
word from one at the most significant end, the S-boxes are given by rows and
columns, and the key halves are rotated step by step from round to round.
-/

namespace TripleDes

namespace Standard

open Wiring

def initialPermutation : Vector Nat 64 :=
  #v[58, 50, 42, 34, 26, 18, 10, 2,
    60, 52, 44, 36, 28, 20, 12, 4,
    62, 54, 46, 38, 30, 22, 14, 6,
    64, 56, 48, 40, 32, 24, 16, 8,
    57, 49, 41, 33, 25, 17, 9, 1,
    59, 51, 43, 35, 27, 19, 11, 3,
    61, 53, 45, 37, 29, 21, 13, 5,
    63, 55, 47, 39, 31, 23, 15, 7]

def finalPermutation : Vector Nat 64 :=
  #v[40, 8, 48, 16, 56, 24, 64, 32,
    39, 7, 47, 15, 55, 23, 63, 31,
    38, 6, 46, 14, 54, 22, 62, 30,
    37, 5, 45, 13, 53, 21, 61, 29,
    36, 4, 44, 12, 52, 20, 60, 28,
    35, 3, 43, 11, 51, 19, 59, 27,
    34, 2, 42, 10, 50, 18, 58, 26,
    33, 1, 41, 9, 49, 17, 57, 25]

def expansion : Vector Nat 48 :=
  #v[32, 1, 2, 3, 4, 5,
    4, 5, 6, 7, 8, 9,
    8, 9, 10, 11, 12, 13,
    12, 13, 14, 15, 16, 17,
    16, 17, 18, 19, 20, 21,
    20, 21, 22, 23, 24, 25,
    24, 25, 26, 27, 28, 29,
    28, 29, 30, 31, 32, 1]

def permutation : Vector Nat 32 :=
  #v[16, 7, 20, 21,
    29, 12, 28, 17,
    1, 15, 23, 26,
    5, 18, 31, 10,
    2, 8, 24, 14,
    32, 27, 3, 9,
    19, 13, 30, 6,
    22, 11, 4, 25]

/-- The upper half of permuted choice 1. -/
def permutedChoice1C : Vector Nat 28 :=
  #v[57, 49, 41, 33, 25, 17, 9,
    1, 58, 50, 42, 34, 26, 18,
    10, 2, 59, 51, 43, 35, 27,
    19, 11, 3, 60, 52, 44, 36]

def permutedChoice1D : Vector Nat 28 :=
  #v[63, 55, 47, 39, 31, 23, 15,
    7, 62, 54, 46, 38, 30, 22,
    14, 6, 61, 53, 45, 37, 29,
    21, 13, 5, 28, 20, 12, 4]

def permutedChoice2 : Vector Nat 48 :=
  #v[14, 17, 11, 24, 1, 5,
    3, 28, 15, 6, 21, 10,
    23, 19, 12, 4, 26, 8,
    16, 7, 27, 20, 13, 2,
    41, 52, 31, 37, 47, 55,
    30, 40, 51, 45, 33, 48,
    44, 49, 39, 56, 34, 53,
    46, 42, 50, 36, 29, 32]

/-- Left rotations of the key halves, round by round. -/
def leftRotations : List Nat :=
  [1, 1, 2, 2, 2, 2, 2, 2, 1, 2, 2, 2, 2, 2, 2, 1]

/-- The selection functions, each as four rows of sixteen entries. -/
def selection : Vector (Vector (Vector (BitVec 4) 16) 4) 8 :=
  #v[#v[#v[14, 4, 13, 1, 2, 15, 11, 8, 3, 10, 6, 12, 5, 9, 0, 7],
      #v[0, 15, 7, 4, 14, 2, 13, 1, 10, 6, 12, 11, 9, 5, 3, 8],
      #v[4, 1, 14, 8, 13, 6, 2, 11, 15, 12, 9, 7, 3, 10, 5, 0],
      #v[15, 12, 8, 2, 4, 9, 1, 7, 5, 11, 3, 14, 10, 0, 6, 13]],
    #v[#v[15, 1, 8, 14, 6, 11, 3, 4, 9, 7, 2, 13, 12, 0, 5, 10],
      #v[3, 13, 4, 7, 15, 2, 8, 14, 12, 0, 1, 10, 6, 9, 11, 5],
      #v[0, 14, 7, 11, 10, 4, 13, 1, 5, 8, 12, 6, 9, 3, 2, 15],
      #v[13, 8, 10, 1, 3, 15, 4, 2, 11, 6, 7, 12, 0, 5, 14, 9]],
    #v[#v[10, 0, 9, 14, 6, 3, 15, 5, 1, 13, 12, 7, 11, 4, 2, 8],
      #v[13, 7, 0, 9, 3, 4, 6, 10, 2, 8, 5, 14, 12, 11, 15, 1],
      #v[13, 6, 4, 9, 8, 15, 3, 0, 11, 1, 2, 12, 5, 10, 14, 7],
      #v[1, 10, 13, 0, 6, 9, 8, 7, 4, 15, 14, 3, 11, 5, 2, 12]],
    #v[#v[7, 13, 14, 3, 0, 6, 9, 10, 1, 2, 8, 5, 11, 12, 4, 15],
      #v[13, 8, 11, 5, 6, 15, 0, 3, 4, 7, 2, 12, 1, 10, 14, 9],
      #v[10, 6, 9, 0, 12, 11, 7, 13, 15, 1, 3, 14, 5, 2, 8, 4],
      #v[3, 15, 0, 6, 10, 1, 13, 8, 9, 4, 5, 11, 12, 7, 2, 14]],
    #v[#v[2, 12, 4, 1, 7, 10, 11, 6, 8, 5, 3, 15, 13, 0, 14, 9],
      #v[14, 11, 2, 12, 4, 7, 13, 1, 5, 0, 15, 10, 3, 9, 8, 6],
      #v[4, 2, 1, 11, 10, 13, 7, 8, 15, 9, 12, 5, 6, 3, 0, 14],
      #v[11, 8, 12, 7, 1, 14, 2, 13, 6, 15, 0, 9, 10, 4, 5, 3]],
    #v[#v[12, 1, 10, 15, 9, 2, 6, 8, 0, 13, 3, 4, 14, 7, 5, 11],
      #v[10, 15, 4, 2, 7, 12, 9, 5, 6, 1, 13, 14, 0, 11, 3, 8],
      #v[9, 14, 15, 5, 2, 8, 12, 3, 7, 0, 4, 10, 1, 13, 11, 6],
      #v[4, 3, 2, 12, 9, 5, 15, 10, 11, 14, 1, 7, 6, 0, 8, 13]],
    #v[#v[4, 11, 2, 14, 15, 0, 8, 13, 3, 12, 9, 7, 5, 10, 6, 1],
      #v[13, 0, 11, 7, 4, 9, 1, 10, 14, 3, 5, 12, 2, 15, 8, 6],
      #v[1, 4, 11, 13, 12, 3, 7, 14, 10, 15, 6, 8, 0, 5, 9, 2],
      #v[6, 11, 13, 8, 1, 4, 10, 7, 9, 5, 0, 15, 14, 2, 3, 12]],
    #v[#v[13, 2, 8, 4, 6, 15, 11, 1, 10, 9, 3, 14, 5, 0, 12, 7],
      #v[1, 15, 13, 8, 10, 3, 7, 4, 12, 5, 6, 11, 0, 14, 9, 2],
      #v[7, 11, 4, 1, 9, 12, 14, 2, 0, 6, 10, 13, 15, 3, 5, 8],
      #v[2, 1, 14, 7, 4, 10, 8, 13, 15, 12, 9, 0, 3, 5, 6, 11]]]

/-- A selection function: the first and the last input bit name the row, the
four bits between them the column. -/
def select6 (box : Fin 8) (input : BitVec 6) : BitVec 4 :=
  let row := input.extractLsb' 5 1 ++ input.extractLsb' 0 1
  let column := input.extractLsb' 1 4
  ((selection.get box).get row.toFin).get column.toFin

/-- The cipher function: eight selections of the expanded half mixed with the
round key, leftmost block first. -/
def cipherFunction (half : BitVec 32) (roundKey : BitVec 48) : BitVec 32 :=
  let mixed := select expansion half ^^^ roundKey
  let block := fun box : Fin 8 => mixed.extractLsb' (42 - 6 * box) 6
  select permutation
    (select6 0 (block 0) ++ select6 1 (block 1) ++ select6 2 (block 2) ++
      select6 3 (block 3) ++ select6 4 (block 4) ++ select6 5 (block 5) ++
      select6 6 (block 6) ++ select6 7 (block 7))

/-- `(L, R)` becomes `(R, L xor f(R, K))`. -/
def round (halves : BitVec 32 × BitVec 32) (roundKey : BitVec 48) :
    BitVec 32 × BitVec 32 :=
  (halves.2, halves.1 ^^^ cipherFunction halves.2 roundKey)

/-- Sixteen rounds between the initial permutation and its inverse; the
halves of the preoutput are exchanged. -/
def des (roundKeys : List (BitVec 48)) (block : BitVec 64) : BitVec 64 :=
  let permuted := select initialPermutation block
  let last := roundKeys.foldl round
    (permuted.extractLsb' 32 32, permuted.extractLsb' 0 32)
  select finalPermutation (last.2 ++ last.1)

/-- Round keys from the key halves of the previous round. -/
def keysFrom (c d : BitVec 28) : List Nat → List (BitVec 48)
  | [] => []
  | amount :: amounts =>
      select permutedChoice2 (c.rotateLeft amount ++ d.rotateLeft amount) ::
        keysFrom (c.rotateLeft amount) (d.rotateLeft amount) amounts

def roundKeys (key : BitVec 64) : List (BitVec 48) :=
  keysFrom (select permutedChoice1C key) (select permutedChoice1D key)
    leftRotations

def encrypt (key block : BitVec 64) : BitVec 64 :=
  des (roundKeys key) block

/-- Deciphering applies the round keys in the reverse order. -/
def decrypt (key block : BitVec 64) : BitVec 64 :=
  des (roundKeys key).reverse block

/-- Triple encryption `E(k3, D(k2, E(k1, x)))` for mode `false` and triple
decryption `D(k1, E(k2, D(k3, x)))` for mode `true`. -/
def tdes (mode : Bool) (key1 key2 key3 block : BitVec 64) : BitVec 64 :=
  if mode then decrypt key1 (encrypt key2 (decrypt key3 block))
  else encrypt key3 (decrypt key2 (encrypt key1 block))

end Standard

end TripleDes
