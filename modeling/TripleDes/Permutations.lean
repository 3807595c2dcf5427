import TripleDes.Library.Wiring

/-!
# Permutation modules

The combinational wiring modules of the cipher: `IP.v`, `IP_inv.v`, `E.v`,
`P.v`, `PC1.v` and `PC2.v`.  Entry `i` of each table is the input bit that the
module assigns to `out[i]`.  The two selections that `key_scheduler.v` inlines
stand next to those of the modules, as the concatenations that it writes.
-/

namespace TripleDes

/-- The initial permutation, `IP.v`. -/
def ipWiring : Wiring 64 64 :=
  .ofAssigns #v[57, 49, 41, 33, 25, 17, 9, 1,
    59, 51, 43, 35, 27, 19, 11, 3,
    61, 53, 45, 37, 29, 21, 13, 5,
    63, 55, 47, 39, 31, 23, 15, 7,
    56, 48, 40, 32, 24, 16, 8, 0,
    58, 50, 42, 34, 26, 18, 10, 2,
    60, 52, 44, 36, 28, 20, 12, 4,
    62, 54, 46, 38, 30, 22, 14, 6]

def ip (word : BitVec 64) : BitVec 64 :=
  ipWiring.route word

/-- The final permutation, `IP_inv.v`. -/
def ipInvWiring : Wiring 64 64 :=
  .ofAssigns #v[39, 7, 47, 15, 55, 23, 63, 31,
    38, 6, 46, 14, 54, 22, 62, 30,
    37, 5, 45, 13, 53, 21, 61, 29,
    36, 4, 44, 12, 52, 20, 60, 28,
    35, 3, 43, 11, 51, 19, 59, 27,
    34, 2, 42, 10, 50, 18, 58, 26,
    33, 1, 41, 9, 49, 17, 57, 25,
    32, 0, 40, 8, 48, 16, 56, 24]

def ipInv (word : BitVec 64) : BitVec 64 :=
  ipInvWiring.route word

/-- The expansion of a half block, `E.v`. -/
def eWiring : Wiring 32 48 :=
  .ofAssigns #v[31, 0, 1, 2, 3, 4,
    3, 4, 5, 6, 7, 8,
    7, 8, 9, 10, 11, 12,
    11, 12, 13, 14, 15, 16,
    15, 16, 17, 18, 19, 20,
    19, 20, 21, 22, 23, 24,
    23, 24, 25, 26, 27, 28,
    27, 28, 29, 30, 31, 0]

def e (word : BitVec 32) : BitVec 48 :=
  eWiring.route word

/-- The permutation of the S-box outputs, `P.v`. -/
def pWiring : Wiring 32 32 :=
  .ofAssigns #v[7, 28, 21, 10, 26, 2, 19, 13,
    23, 29, 5, 0, 18, 8, 24, 30,
    22, 1, 14, 27, 6, 9, 17, 31,
    15, 4, 20, 3, 11, 12, 25, 16]

def p (word : BitVec 32) : BitVec 32 :=
  pWiring.route word

/-- The key selection of `PC1.v`. -/
def pc1Wiring : Wiring 64 56 :=
  .ofAssigns #v[60, 52, 44, 36, 59, 51, 43,
    35, 27, 19, 11, 3, 58, 50,
    42, 34, 26, 18, 10, 2, 57,
    49, 41, 33, 25, 17, 9, 1,
    28, 20, 12, 4, 61, 53, 45,
    37, 29, 21, 13, 5, 62, 54,
    46, 38, 30, 22, 14, 6, 63,
    55, 47, 39, 31, 23, 15, 7]

def pc1 (word : BitVec 64) : BitVec 56 :=
  pc1Wiring.route word

/-- The round key selection of `PC2.v`. -/
def pc2Wiring : Wiring 56 48 :=
  .ofAssigns #v[24, 27, 20, 6, 14, 10,
    3, 22, 0, 17, 7, 12,
    8, 23, 11, 5, 16, 26,
    1, 9, 19, 25, 4, 15,
    54, 43, 36, 29, 49, 40,
    48, 30, 52, 44, 37, 33,
    46, 35, 50, 41, 28, 53,
    51, 55, 32, 45, 39, 42]

def pc2 (word : BitVec 56) : BitVec 48 :=
  pc2Wiring.route word

/-- The upper half `C0` of the key that `key_scheduler.v` selects. -/
def c0 : Wiring 64 28 :=
  .ofConcat #v[
    7, 15, 23, 31, 39, 47, 55,
    63, 6, 14, 22, 30, 38, 46,
    54, 62, 5, 13, 21, 29, 37,
    45, 53, 61, 4, 12, 20, 28]

/-- The lower half `D0` of that key. -/
def d0 : Wiring 64 28 :=
  .ofConcat #v[
    1, 9, 17, 25, 33, 41, 49,
    57, 2, 10, 18, 26, 34, 42,
    50, 58, 3, 11, 19, 27, 35,
    43, 51, 59, 36, 44, 52, 60]

/-- The selection of the round key from the rotated halves `CD`. -/
def kOut : Wiring 56 48 :=
  .ofConcat #v[
    42, 39, 45, 32, 55, 51,
    53, 28, 41, 50, 35, 46,
    33, 37, 44, 52, 30, 48,
    40, 49, 29, 36, 43, 54,
    15, 4, 25, 19, 9, 1,
    26, 16, 5, 11, 23, 8,
    12, 7, 17, 0, 22, 3,
    10, 14, 6, 20, 27, 24]

@[simp]
theorem ipInv_ip (word : BitVec 64) : ipInv (ip word) = word :=
  Wiring.route_route_of_inverse (by decide) word

@[simp]
theorem ip_ipInv (word : BitVec 64) : ip (ipInv word) = word :=
  Wiring.route_route_of_inverse (by decide) word

end TripleDes
