import TripleDes.Library.Events
import Mathlib.Algebra.Group.Fin.Basic
import Mathlib.Data.BitVec
import Mathlib.Tactic.MkIffOfInductiveProp

/-!
# Taking turns

Several parties stand around a circle.  In each round the first one that asks,
from a given place on, is chosen, and the next round starts behind it.  So a
party that keeps asking waits for each of the others at most once.  On words
the first one is found by an addition, whose carry runs up to it.
-/

namespace RoundRobin

section Turns

variable {count : Nat} [NeZero count]

/-- The first that asks, from a place on and around the circle. -/
structure Chosen (asks : Fin count → Bool) (first chosen : Fin count) :
    Prop where
  asking : asks chosen = true
  nearest : ∀ other, asks other = true → chosen - first ≤ other - first

omit [NeZero count] in
theorem exists_chosen {asks : Fin count → Bool} (first : Fin count)
    (asking : ∃ index, asks index = true) :
    ∃ chosen, Chosen asks first chosen := by
  classical
  obtain ⟨index, asking⟩ := asking
  have found : ∃ distance, ∃ index, asks index = true ∧
      ((index - first : Fin count) : Nat) = distance :=
    ⟨_, index, asking, rfl⟩
  obtain ⟨chosen, asking, distance⟩ := Nat.find_spec found
  refine ⟨chosen, asking, fun other asking => ?_⟩
  rw [Fin.le_def, distance]
  exact Nat.find_min' found ⟨other, asking, rfl⟩

theorem Chosen.unique {asks : Fin count → Bool} {first chosen other : Fin count}
    (isChosen : Chosen asks first chosen) (isOther : Chosen asks first other) :
    chosen = other :=
  sub_left_injective (le_antisymm (isChosen.nearest other isOther.asking)
    (isOther.nearest chosen isChosen.asking))

/-- Those that ask and are not chosen are nearer in the next round. -/
theorem Chosen.nearer {asks : Fin count → Bool}
    {first chosen other : Fin count} (isChosen : Chosen asks first chosen)
    (asking : asks other = true) (different : chosen ≠ other) :
    ((other - (chosen + 1) : Fin count) : Nat) + 1 ≤
      ((other - first : Fin count) : Nat) := by
  have before : chosen - first ≤ other - first := isChosen.nearest other asking
  have apart : other - chosen ≠ 0 := sub_ne_zero_of_ne (Ne.symm different)
  have across : other - chosen = (other - first) - (chosen - first) :=
    (sub_sub_sub_cancel_right other chosen first).symm
  have length : ((other - chosen : Fin count) : Nat) =
      ((other - first : Fin count) : Nat) -
        ((chosen - first : Fin count) : Nat) := by
    rw [across, Fin.sub_val_of_le before]
  have positive : 0 < ((other - chosen : Fin count) : Nat) :=
    Fin.pos_iff_ne_zero.mpr apart
  rw [← sub_sub, Fin.val_sub_one_of_ne_zero apart, length]
  omega

/-- In a round the place moves behind the one that is chosen, and between two
rounds it stays. -/
def Moves (round : Nat → Bool) (asks : Nat → Fin count → Bool)
    (first : Nat → Fin count) (start finish : Nat) : Prop :=
  ∀ cycle, start ≤ cycle → cycle < finish →
    (round cycle = false → first (cycle + 1) = first cycle) ∧
      (round cycle = true → ∃ chosen,
        Chosen (asks cycle) (first cycle) chosen ∧
          first (cycle + 1) = chosen + 1)

/-- Each round in which a party asks in vain brings it nearer. -/
theorem Moves.count_add_le {round : Nat → Bool}
    {asks : Nat → Fin count → Bool} {first : Nat → Fin count}
    {start offset : Nat} {index : Fin count}
    (moves : Moves round asks first start (start + offset))
    (waits : ∀ cycle, start ≤ cycle → cycle < start + offset →
      round cycle = true → asks cycle index = true ∧
        ¬ Chosen (asks cycle) (first cycle) index) :
    Nat.count (fun earlier => round (start + earlier) = true) offset +
        ((index - first (start + offset) : Fin count) : Nat) ≤
      ((index - first start : Fin count) : Nat) := by
  refine Events.count_add_rank_le
    (fun cycle => ((index - first cycle : Fin count) : Nat))
    fun cycle from_ upTo => ?_
  obtain ⟨stays, advances⟩ := moves cycle from_ upTo
  cases now : round cycle with
  | false => rw [stays now, Bool.toNat_false, Nat.zero_add]
  | true =>
      obtain ⟨chosen, isChosen, place⟩ := advances now
      obtain ⟨asking, passed⟩ := waits cycle from_ upTo now
      have different : chosen ≠ index := by
        rintro rfl
        exact passed isChosen
      rw [place, Bool.toNat_true, Nat.add_comm]
      exact isChosen.nearer asking different

end Turns

section FirstBit

variable {width : Nat}

theorem getLsbD_twoPow_of_lt (place : Nat) {position : Nat}
    (inside : position < width) :
    (BitVec.twoPow width place).getLsbD position =
      decide (place = position) := by
  rw [BitVec.getLsbD_twoPow]
  grind

/-- The carry of the complement and a single bit runs on while the word is
clear. -/
theorem carry_not_twoPow (word : BitVec width) (place : Nat) {position : Nat}
    (inside : position ≤ width) :
    BitVec.carry position (~~~word) (BitVec.twoPow width place) false = true ↔
      place < position ∧ ∀ between, place ≤ between → between < position →
        word.getLsbD between = false := by
  induction position with
  | zero => simp
  | succ position ih =>
      have below : position < width := inside
      specialize ih (Nat.le_of_lt below)
      rw [BitVec.carry_succ, BitVec.getLsbD_not, getLsbD_twoPow_of_lt place below,
        decide_eq_true below, Bool.true_and]
      by_cases same : place = position
      · subst same
        have clear : BitVec.carry place (~~~word) (BitVec.twoPow width place)
            false = false := by
          rw [Bool.eq_false_iff, ne_eq, ih]
          exact fun carries => Nat.lt_irrefl place carries.1
        rw [clear, decide_eq_true rfl, Bool.atLeastTwo_true_mid, Bool.or_false,
          Bool.not_eq_true']
        constructor
        · intro clear
          refine ⟨Nat.lt_succ_self place, fun between after before => ?_⟩
          rw [show between = place by omega, clear]
        · exact fun run => run.2 place (Nat.le_refl place)
            (Nat.lt_succ_self place)
      · rw [decide_eq_false same, Bool.atLeastTwo_false_mid, Bool.and_eq_true,
          Bool.not_eq_true', ih]
        constructor
        · rintro ⟨clear, after, run⟩
          refine ⟨by omega, fun between from_ upTo => ?_⟩
          rcases Nat.lt_or_eq_of_le (Nat.le_of_lt_succ upTo) with less | rfl
          · exact run between from_ less
          · exact clear
        · rintro ⟨after, run⟩
          exact ⟨run position (by omega) (Nat.lt_succ_self position), by omega,
            fun between from_ upTo => run between from_ (by omega)⟩

/-- The first bit of a word from a place on. -/
@[mk_iff]
structure IsFirst (word : BitVec width) (place position : Nat) : Prop where
  set : word.getLsbD position = true
  behind : place ≤ position
  clear : ∀ between, place ≤ between → between < position →
    word.getLsbD between = false

/-- Adding a bit to the complement of a word leaves, of the word, its first bit
from there on. -/
theorem getLsbD_and_not_add (word : BitVec width) {place position : Nat}
    (inside : position < width) :
    (word &&& (~~~word + BitVec.twoPow width place)).getLsbD position = true ↔
      IsFirst word place position := by
  have carries := carry_not_twoPow word place (Nat.le_of_lt inside)
  rw [isFirst_iff, BitVec.getLsbD_and, BitVec.getLsbD_add inside,
    BitVec.getLsbD_not, getLsbD_twoPow_of_lt place inside, decide_eq_true inside,
    Bool.true_and, Bool.and_eq_true]
  refine and_congr_right fun set => ?_
  rw [set, Bool.not_true, Bool.false_xor]
  by_cases same : place = position
  · have clear : BitVec.carry position (~~~word) (BitVec.twoPow width place)
        false = false := by
      rw [Bool.eq_false_iff, ne_eq, carries]
      omega
    rw [clear, Bool.xor_false, decide_eq_true_eq]
    exact ⟨fun _ => ⟨by omega, fun between _ _ => by omega⟩, fun _ => same⟩
  · rw [decide_eq_false same, Bool.false_xor, carries]
    exact and_congr_left fun _ => by omega

end FirstBit

end RoundRobin
