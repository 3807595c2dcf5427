import Mathlib.Data.Prod.Basic
import Mathlib.Logic.Equiv.Basic

/-!
# Feistel networks

A Feistel round replaces the pair of halves `(l, r)` by `(r, mix l (f k r))`.
The round function is arbitrary: a network is undone by running it on the
swapped halves with the round keys reversed, provided mixing the same mask
in twice restores a half.
-/

/-- A keyed round function together with a way of mixing masks into a half
that undoes itself. -/
structure Feistel (Half Key : Type*) where
  round : Key → Half → Half
  mix : Half → Half → Half
  mix_mix : ∀ half mask, mix (mix half mask) mask = half

namespace Feistel

variable {Half Key Block : Type*} (scheme : Feistel Half Key)

/-- One round. -/
def step (key : Key) (halves : Half × Half) : Half × Half :=
  (halves.2, scheme.mix halves.1 (scheme.round key halves.2))

/-- Rounds under a list of keys, the head first. -/
def run (keys : List Key) (halves : Half × Half) : Half × Half :=
  keys.foldl (fun current key => scheme.step key current) halves

/-- The first `count` rounds under an indexed family of keys. -/
def rounds (keys : Nat → Key) : Nat → Half × Half → Half × Half
  | 0, halves => halves
  | count + 1, halves => scheme.step (keys count) (rounds keys count halves)

@[simp]
theorem run_nil (halves : Half × Half) : scheme.run [] halves = halves :=
  rfl

@[simp]
theorem run_cons (key : Key) (keys : List Key) (halves : Half × Half) :
    scheme.run (key :: keys) halves =
      scheme.run keys (scheme.step key halves) :=
  rfl

theorem run_append (first second : List Key) (halves : Half × Half) :
    scheme.run (first ++ second) halves =
      scheme.run second (scheme.run first halves) := by
  simp [run, List.foldl_append]

theorem step_swap_step (key : Key) (halves : Half × Half) :
    scheme.step key (scheme.step key halves).swap = halves.swap := by
  obtain ⟨left, right⟩ := halves
  simp [step, scheme.mix_mix]

/-- Running the keys backwards on the swapped halves undoes a network. -/
theorem run_reverse_swap_run (keys : List Key) (halves : Half × Half) :
    scheme.run keys.reverse (scheme.run keys halves).swap = halves.swap := by
  induction keys generalizing halves with
  | nil => rfl
  | cons key keys ih =>
      rw [List.reverse_cons, run_append, run_cons _ key keys, ih, run_cons,
        run_nil, step_swap_step]

theorem run_map_range (keys : Nat → Key) (count : Nat)
    (halves : Half × Half) :
    scheme.run ((List.range count).map keys) halves =
      scheme.rounds keys count halves := by
  induction count with
  | zero => rfl
  | succ count ih =>
      rw [List.range_succ, List.map_append, run_append, ih]
      rfl

theorem rounds_congr {first second : Nat → Key} {count : Nat}
    (agree : ∀ index < count, first index = second index)
    (halves : Half × Half) :
    scheme.rounds first count halves = scheme.rounds second count halves := by
  induction count with
  | zero => rfl
  | succ count ih =>
      have earlier := ih fun index below => agree index (by omega)
      rw [rounds, rounds, earlier, agree count (by omega)]

/-- Networks that differ in the last round alone differ on every pair of
halves that the last round functions tell apart. -/
theorem rounds_succ_ne {first second : Nat → Key} {count : Nat}
    (agree : ∀ index < count, first index = second index)
    (mixes : ∀ half, Function.Injective (scheme.mix half))
    (differ : ∀ half,
      scheme.round (first count) half ≠ scheme.round (second count) half)
    (halves : Half × Half) :
    scheme.rounds first (count + 1) halves ≠
      scheme.rounds second (count + 1) halves := by
  intro equal
  rw [rounds, rounds, scheme.rounds_congr agree] at equal
  exact differ _ (mixes _ (congrArg Prod.snd equal))

theorem reverse_ofFn {count : Nat} (keys : Fin count → Key) :
    (List.ofFn keys).reverse = List.ofFn fun index => keys index.rev := by
  apply List.ext_getElem
  · simp
  · intro index bound _
    simp [Fin.rev, Nat.sub_sub, Nat.add_comm]

section Cipher

variable (port : Block ≃ Half × Half)

/-- The block cipher of a network: the block enters through `port`, and the
halves leave swapped. -/
def cipher (keys : List Key) (block : Block) : Block :=
  port.symm (scheme.run keys (port block)).swap

/-- Deciphering is enciphering under the reversed round keys. -/
theorem cipher_reverse_cipher (keys : List Key) (block : Block) :
    scheme.cipher port keys.reverse (scheme.cipher port keys block) =
      block := by
  simp [cipher, run_reverse_swap_run]

theorem cipher_cipher_reverse (keys : List Key) (block : Block) :
    scheme.cipher port keys (scheme.cipher port keys.reverse block) =
      block := by
  simpa using scheme.cipher_reverse_cipher port keys.reverse block

theorem cipher_injective (keys : List Key) :
    Function.Injective (scheme.cipher port keys) := by
  intro first second equal
  rw [← scheme.cipher_reverse_cipher port keys first, equal,
    cipher_reverse_cipher]

end Cipher

section Symmetry

-- A change of keys that a change of both halves makes up for.

variable {changeKey : Key → Key} {change : Half → Half}
  (absorbs : ∀ key half,
    scheme.round (changeKey key) (change half) = scheme.round key half)
  (passes : ∀ half mask,
    scheme.mix (change half) mask = change (scheme.mix half mask))
include absorbs passes

theorem step_map (key : Key) (halves : Half × Half) :
    scheme.step (changeKey key) (halves.map change change) =
      (scheme.step key halves).map change change := by
  simp only [step, Prod.map, absorbs, passes]

theorem run_map (keys : List Key) (halves : Half × Half) :
    scheme.run (keys.map changeKey) (halves.map change change) =
      (scheme.run keys halves).map change change := by
  induction keys generalizing halves with
  | nil => rfl
  | cons key keys ih =>
      rw [List.map_cons, run_cons, run_cons,
        scheme.step_map absorbs passes, ih]

/-- A symmetry of the round function is one of the block cipher. -/
theorem cipher_map {port : Block ≃ Half × Half} {changeBlock : Block → Block}
    (enters : ∀ block,
      port (changeBlock block) = (port block).map change change)
    (keys : List Key) (block : Block) :
    scheme.cipher port (keys.map changeKey) (changeBlock block) =
      changeBlock (scheme.cipher port keys block) := by
  rw [cipher, cipher, Equiv.symm_apply_eq, enters, enters,
    Equiv.apply_symm_apply, scheme.run_map absorbs passes]
  rfl

end Symmetry

end Feistel
