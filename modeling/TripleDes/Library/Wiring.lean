import Mathlib.Algebra.Group.Fin.Basic
import Mathlib.Algebra.Group.Units.Equiv
import Mathlib.Data.BitVec
import Mathlib.Data.Nat.Bitwise

/-!
# Wirings between fixed-width ports

A wiring drives every bit of an output port from one bit of an input port.
Permutations, expansions and selections of bits are all wirings, so each of
them is given by its table and inherits the same few facts: routing commutes
with the bitwise operations, wirings compose, and a wiring read back through
its inverse table returns the original word.
-/

namespace Wiring

/-- The word whose bit `i` is `bits i`. -/
def ofBits {width : Nat} (bits : Fin width → Bool) : BitVec width :=
  BitVec.ofNatLT (Nat.ofBits bits) (Nat.ofBits_lt_two_pow bits)

@[simp]
theorem getLsbD_ofBits {width : Nat} (bits : Fin width → Bool)
    (index : Fin width) :
    (ofBits bits).getLsbD index = bits index := by
  simp [ofBits, BitVec.getLsbD]

@[simp]
theorem getElem_ofBits {width : Nat} (bits : Fin width → Bool)
    (index : Nat) (bound : index < width) :
    (ofBits bits)[index] = bits ⟨index, bound⟩ := by
  rw [← BitVec.getLsbD_eq_getElem]
  exact getLsbD_ofBits bits ⟨index, bound⟩

theorem eq_of_getLsbD_fin {width : Nat} {first second : BitVec width}
    (agree : ∀ index : Fin width,
      first.getLsbD index = second.getLsbD index) :
    first = second :=
  BitVec.eq_of_getLsbD_eq fun index bound => agree ⟨index, bound⟩

/-- A word is its upper part followed by its lower part. -/
def split (upper lower : Nat) :
    BitVec (upper + lower) ≃ BitVec upper × BitVec lower where
  toFun word := (word.extractLsb' lower upper, word.extractLsb' 0 lower)
  invFun parts := parts.1 ++ parts.2
  left_inv word := by
    change word.extractLsb' lower upper ++ word.extractLsb' 0 lower = word
    rw [BitVec.extractLsb'_append_extractLsb'_eq_extractLsb' (by omega),
      BitVec.extractLsb'_eq_self]
  right_inv parts := by
    change ((parts.1 ++ parts.2).extractLsb' lower upper,
      (parts.1 ++ parts.2).extractLsb' 0 lower) = parts
    rw [BitVec.extractLsb'_append_eq_left, BitVec.extractLsb'_append_eq_right]

theorem split_not (upper lower : Nat) (word : BitVec (upper + lower)) :
    split upper lower (~~~word) = (split upper lower word).map
      (fun part => ~~~part) fun part => ~~~part := by
  have whole := (split upper lower).symm_apply_apply word
  rw [← Equiv.eq_symm_apply]
  change ~~~word = ~~~(split upper lower word).1 ++
    ~~~(split upper lower word).2
  rw [← BitVec.not_append]
  exact congrArg _ whole.symm

end Wiring

/-- A wiring from an `inputs`-bit port to an `outputs`-bit port: output bit
`i` is driven by the input bit that `i` is mapped to, counted from the least
significant bit. -/
abbrev Wiring (inputs outputs : Nat) := Fin outputs → Fin inputs

namespace Wiring

section Routing

variable {inputs middle outputs : Nat}

/-- Drive the output port from `word`. -/
def route (wiring : Wiring inputs outputs) (word : BitVec inputs) :
    BitVec outputs :=
  ofBits fun index => word.getLsbD (wiring index)

@[simp]
theorem getLsbD_route (wiring : Wiring inputs outputs)
    (word : BitVec inputs) (index : Fin outputs) :
    (wiring.route word).getLsbD index = word.getLsbD (wiring index) := by
  simp [route]

/-- The wiring whose sources are assigned bit by bit, from the least
significant output bit up. -/
def ofAssigns (sources : Vector (Fin inputs) outputs) :
    Wiring inputs outputs :=
  sources.get

/-- The wiring written by a concatenation: its sources are listed from the
most significant output bit down. -/
def ofConcat (sources : Vector (Fin inputs) outputs) :
    Wiring inputs outputs :=
  fun index => sources.get index.rev

/-- Reading a wiring back through a table that undoes it returns the word. -/
theorem route_route_of_inverse {back : Wiring middle inputs}
    {forth : Wiring inputs middle}
    (undoes : ∀ index : Fin inputs, forth (back index) = index)
    (word : BitVec inputs) :
    back.route (forth.route word) = word := by
  apply eq_of_getLsbD_fin
  intro index
  rw [getLsbD_route, getLsbD_route, undoes]

theorem route_injective {wiring : Wiring inputs outputs}
    (onto : Function.Surjective wiring) :
    Function.Injective wiring.route := by
  obtain ⟨back, undoes⟩ := onto.hasRightInverse
  intro first second equal
  rw [← route_route_of_inverse undoes first, equal,
    route_route_of_inverse undoes second]

theorem route_surjective [NeZero outputs] {wiring : Wiring inputs outputs}
    (oneToOne : Function.Injective wiring) :
    Function.Surjective wiring.route := by
  obtain ⟨back, undoes⟩ := oneToOne.hasLeftInverse
  exact fun word =>
    ⟨route back word, route_route_of_inverse undoes word⟩

theorem route_comp (outer : Wiring middle outputs)
    (inner : Wiring inputs middle) (word : BitVec inputs) :
    route (inner ∘ outer) word = outer.route (inner.route word) := by
  apply eq_of_getLsbD_fin
  intro index
  simp only [getLsbD_route, Function.comp_apply]

theorem route_not (wiring : Wiring inputs outputs) (word : BitVec inputs) :
    wiring.route (~~~word) = ~~~wiring.route word := by
  apply eq_of_getLsbD_fin
  intro index
  simp only [getLsbD_route, BitVec.getLsbD_not, Fin.is_lt, decide_true]

/-- A family of wirings gives two words the same outputs exactly if the words
agree at every position that one of the wirings reads. -/
theorem routes_eq_iff {Index : Type*} (wirings : Index → Wiring inputs outputs)
    (first second : BitVec inputs) :
    (∀ index, (wirings index).route first = (wirings index).route second) ↔
      ∀ position : Fin inputs,
        (∃ index output, wirings index output = position) →
          first.getLsbD position = second.getLsbD position := by
  constructor
  · rintro equal position ⟨index, output, rfl⟩
    rw [← getLsbD_route, equal, getLsbD_route]
  · intro agree index
    apply eq_of_getLsbD_fin
    intro output
    rw [getLsbD_route, getLsbD_route, agree _ ⟨index, output, rfl⟩]

/-- Two ports side by side, driven from the same input. -/
def beside {upper lower : Nat} (left : Wiring inputs upper)
    (right : Wiring inputs lower) : Wiring inputs (upper + lower) :=
  fun index =>
    if inside : index < lower then right ⟨index, inside⟩
    else left ⟨index - lower, by omega⟩

theorem route_beside {upper lower : Nat} (left : Wiring inputs upper)
    (right : Wiring inputs lower) (word : BitVec inputs) :
    (left.beside right).route word = left.route word ++ right.route word := by
  apply eq_of_getLsbD_fin
  intro index
  rw [getLsbD_route, BitVec.getLsbD_append, beside]
  split
  · next inside => exact (getLsbD_route right word ⟨index, inside⟩).symm
  · next outside =>
      exact (getLsbD_route left word ⟨index - lower, by omega⟩).symm

end Routing

section Rotations

theorem rotateLeft_zero {width : Nat} (word : BitVec width) :
    word.rotateLeft 0 = word := by
  simp [BitVec.rotateLeft_def,
    BitVec.ushiftRight_eq_zero (Nat.le_refl width)]

theorem rotateLeft_rotateLeft {width : Nat} (word : BitVec width)
    (first second : Nat) :
    (word.rotateLeft first).rotateLeft second =
      word.rotateLeft (first + second) := by
  apply BitVec.eq_of_getMsbD_eq
  intro index bound
  have inRange : (second + index) % width < width :=
    Nat.mod_lt _ (by omega)
  simp only [BitVec.getMsbD_rotateLeft, bound, inRange, decide_true,
    Bool.true_and, Nat.add_mod_mod, Nat.add_assoc]

theorem foldl_rotateLeft {width : Nat} (word : BitVec width) (amounts : List Nat) :
    amounts.foldl BitVec.rotateLeft word = word.rotateLeft amounts.sum := by
  induction amounts generalizing word with
  | nil => exact (rotateLeft_zero word).symm
  | cons amount amounts ih =>
      rw [List.foldl_cons, ih, rotateLeft_rotateLeft, List.sum_cons]

/-- The positions from which a left rotation drives each bit. -/
def rotation (width : Nat) [NeZero width] (shift : Nat) :
    Equiv.Perm (Fin width) :=
  Equiv.subRight (Fin.ofNat width shift)

theorem rotateLeft_eq_route {width : Nat} [NeZero width]
    (word : BitVec width) (shift : Nat) :
    word.rotateLeft shift = route (rotation width shift) word := by
  apply eq_of_getLsbD_fin
  intro index
  have source : (rotation width shift index : Nat) =
      (width - shift % width + index) % width :=
    rfl
  have small : shift % width < width := Nat.mod_lt _ (by omega)
  rw [getLsbD_route, source, BitVec.getLsbD_rotateLeft]
  rcases Nat.lt_or_ge index (shift % width) with wrapped | moved
  · have inside : width - shift % width + index < width := by omega
    rw [decide_eq_true wrapped, cond_true, Nat.mod_eq_of_lt inside]
  · have lower : width - shift % width + index =
        index - shift % width + width := by
      omega
    have inside : index - shift % width < width := by omega
    rw [decide_eq_false (by omega), cond_false, decide_eq_true index.isLt,
      Bool.true_and, lower, Nat.add_mod_right, Nat.mod_eq_of_lt inside]

end Rotations

section PublishedTables

variable {inputs outputs : Nat}

/-- Selection by a table in the published convention: bits are numbered from
one, bit one is the most significant, and the table lists the output bits
from the most significant down. -/
def select (table : Vector Nat outputs) (word : BitVec inputs) :
    BitVec outputs :=
  ofBits fun index => word.getMsbD (table.get index.rev - 1)

/-- A published table and a wiring describe the same routing when their
entries correspond. -/
theorem select_eq_route {table : Vector Nat outputs}
    {wiring : Wiring inputs outputs}
    (corresponds : ∀ index : Fin outputs,
      (wiring index).val + table.get index.rev = inputs ∧
        0 < table.get index.rev)
    (word : BitVec inputs) :
    select table word = wiring.route word := by
  apply eq_of_getLsbD_fin
  intro index
  obtain ⟨entry, positive⟩ := corresponds index
  have inRange : table.get index.rev - 1 < inputs := by omega
  have mirrored : inputs - 1 - (table.get index.rev - 1) =
      (wiring index).val := by omega
  rw [getLsbD_route, select, getLsbD_ofBits, BitVec.getMsbD, mirrored,
    decide_eq_true inRange, Bool.true_and]

end PublishedTables

end Wiring
