import TripleDes.Library.Clocked
import TripleDes.Library.RoundRobin
import TripleDes.Library.Wiring

/-!
# The arbitrator

`altera_merlin_arbitrator.sv`, for every number of requesters.  The grant is
found with an adder over the doubled request vector, and the register holds the
place from which the next search begins.  Pipelined and with the round-robin
scheme, as the command multiplexers use it, it serves the requesters in turn.
-/

namespace TripleDes

open Clocked RoundRobin

-- `altera_merlin_arb_adder`: a full adder up to eight bits, the carry chain
-- beyond.

namespace ArbAdder

variable {width : Nat} (a b : BitVec width)

def cout : Nat → Bool
  | 0 => a.getLsbD 0 && b.getLsbD 0
  | i + 1 =>
      a.getLsbD (i + 1) && b.getLsbD (i + 1) ||
        cout i && (a.getLsbD (i + 1) ^^ b.getLsbD (i + 1))

def fullAdder : BitVec width :=
  Wiring.ofBits fun position => match (position : Nat) with
    | 0 => a.getLsbD 0 ^^ b.getLsbD 0
    | i + 1 => a.getLsbD (i + 1) ^^ b.getLsbD (i + 1) ^^ cout a b i

def sum : BitVec width :=
  if width ≤ 8 then fullAdder a b else a + b

theorem cout_eq_carry (position : Nat) :
    cout a b position = BitVec.carry (position + 1) a b false := by
  induction position with
  | zero => rw [cout, BitVec.carry_succ, BitVec.carry_zero,
      Bool.atLeastTwo_false_right]
  | succ position ih =>
      rw [cout, ih, BitVec.carry_succ (position + 1)]
      cases a.getLsbD (position + 1) <;> cases b.getLsbD (position + 1) <;> simp

theorem fullAdder_eq_add : fullAdder a b = a + b := by
  apply Wiring.eq_of_getLsbD_fin
  intro position
  rw [fullAdder, Wiring.getLsbD_ofBits, BitVec.getLsbD_add position.isLt]
  obtain ⟨position, inside⟩ := position
  cases position with
  | zero => simp
  | succ position => simp [cout_eq_carry]

theorem sum_eq_add : sum a b = a + b := by
  rw [sum, fullAdder_eq_add, ite_self]

end ArbAdder

namespace Arbitrator

inductive Scheme where
  | roundRobin
  | fixedPriority
  | noArb
  deriving DecidableEq

variable {count : Nat}

structure Input (count : Nat) where
  reset : Bool
  request : BitVec count
  incrementTopPriority : Bool
  saveTopPriority : Bool

structure State (count : Nat) where
  topPriorityReg : BitVec count

section Decision

variable (scheme : Scheme) (request : BitVec count) (state : State count)

def topPriority : BitVec count :=
  if scheme = .roundRobin ∧ 1 < count then state.topPriorityReg else 1

/-- The sum of `{~request, ~request}` and the top priority. -/
def result : BitVec (count + count) :=
  ArbAdder.sum (~~~request ++ ~~~request)
    ((0 : BitVec count) ++ topPriority scheme state)

def grantDoubleVector : BitVec (count + count) :=
  (request ++ request) &&& result scheme request state

def grant : BitVec count :=
  match scheme with
  | .noArb => request
  | _ =>
      (grantDoubleVector scheme request state).extractLsb' 0 count |||
        (grantDoubleVector scheme request state).extractLsb' count count

end Decision

/-- One clock edge.  A later assignment of the source overrides an earlier
one. -/
def step (scheme : Scheme) (pipeline : Bool) (input : Input count)
    (state : State count) : State count :=
  let granted := grant scheme input.request state
  if input.reset then ⟨1⟩
  else if pipeline then
    if input.incrementTopPriority then
      ⟨if input.request ≠ 0 then granted.rotateLeft 1
        else state.topPriorityReg⟩
    else state
  else if input.incrementTopPriority then
    ⟨if input.request ≠ 0 then granted.rotateLeft 1
      else state.topPriorityReg.rotateLeft 1⟩
  else if input.saveTopPriority then ⟨granted⟩
  else state

/-- The word with the bit of one requester. -/
def oneHot (index : Fin count) : BitVec count :=
  BitVec.twoPow count index

/-- Who requests. -/
def requests (request : BitVec count) (index : Fin count) : Bool :=
  request.getLsbD index

theorem getLsbD_oneHot (first index : Fin count) :
    (oneHot first).getLsbD index = decide (first = index) := by
  rw [oneHot, BitVec.getLsbD_twoPow, decide_eq_true first.isLt, Bool.true_and]
  exact decide_eq_decide.mpr Fin.val_inj

theorem oneHot_and_bne_zero (index : Fin count) (word : BitVec count) :
    (oneHot index &&& word != 0) = word.getLsbD index := by
  cases set : word.getLsbD index with
  | true =>
      rw [bne_iff_ne]
      intro none
      have clear : (oneHot index &&& word).getLsbD index = false := by
        rw [none]
        exact BitVec.getLsbD_zero
      rw [BitVec.getLsbD_and, getLsbD_oneHot, set, decide_eq_true rfl] at clear
      contradiction
  | false =>
      rw [bne_eq_false_iff_eq]
      apply Wiring.eq_of_getLsbD_fin
      intro other
      rw [BitVec.getLsbD_and, getLsbD_oneHot]
      by_cases same : index = other
      · rw [← same, set]
        simp
      · simp [same]

theorem getLsbD_doubled_lower (request : BitVec count) {position : Nat}
    (inside : position < count) :
    (request ++ request).getLsbD position = request.getLsbD position := by
  rw [BitVec.getLsbD_append, if_pos inside]

theorem getLsbD_doubled_upper (request : BitVec count) (position : Nat) :
    (request ++ request).getLsbD (count + position) =
      request.getLsbD position := by
  rw [BitVec.getLsbD_append, if_neg (by omega), Nat.add_sub_cancel_left]

theorem zero_append_oneHot (first : Fin count) :
    (0 : BitVec count) ++ oneHot first =
      BitVec.twoPow (count + count) first := by
  apply BitVec.eq_of_getLsbD_eq
  intro position inside
  rw [BitVec.getLsbD_append, oneHot, BitVec.getLsbD_twoPow,
    BitVec.getLsbD_twoPow, BitVec.ofNat_eq_ofNat, BitVec.getLsbD_zero]
  grind

section Grant

variable {request : BitVec count} {state : State count}
  {first : Fin count}

theorem rotateLeft_oneHot [NeZero count] (first : Fin count) :
    (oneHot first).rotateLeft 1 = oneHot (first + 1) := by
  rw [Wiring.rotateLeft_eq_route]
  apply Wiring.eq_of_getLsbD_fin
  intro index
  have one : (Fin.ofNat count 1) = 1 := rfl
  rw [Wiring.getLsbD_route, getLsbD_oneHot, getLsbD_oneHot, decide_eq_decide,
    Wiring.rotation, Equiv.subRight_apply, one, eq_sub_iff_add_eq]

theorem distance (first index : Fin count) :
    ((index - first : Fin count) : Nat) =
      if (first : Nat) ≤ index then (index : Nat) - first
      else count + index - first := by
  have inside := index.isLt
  have bound := first.isLt
  change (count - (first : Nat) + index) % count = _
  split
  · next behind =>
      rw [show count - (first : Nat) + index = index - first + count by omega,
        Nat.add_mod_right, Nat.mod_eq_of_lt (by omega)]
  · next wrapped => rw [Nat.mod_eq_of_lt (by omega)]; omega

/-- The first bit of the doubled vector, in either half, is that of the first
requester. -/
theorem chosen_of_isFirst {index : Fin count} {position : Nat}
    (half : position = index ∨ position = count + index)
    (isFirst : IsFirst (request ++ request) first position) :
    Chosen (requests request) first index where
  asking := by
    have set := isFirst.set
    rw [requests]
    rcases half with rfl | rfl
    · rwa [getLsbD_doubled_lower request index.isLt] at set
    · rwa [getLsbD_doubled_upper] at set
  nearest := by
    intro other asking
    rw [requests] at asking
    rw [Fin.le_def, distance, distance]
    by_contra nearer
    -- the other one would have been found first, in one half or the other
    have lower := isFirst.clear other
    have upper := isFirst.clear (count + other)
    rw [getLsbD_doubled_lower request other.isLt, asking] at lower
    rw [getLsbD_doubled_upper, asking] at upper
    simp only [Bool.true_eq_false, imp_false] at lower upper
    have behind := isFirst.behind
    have inside := index.isLt
    have otherInside := other.isLt
    have bound := first.isLt
    split at nearer <;> split at nearer <;> omega

theorem clear_of_nearer {index : Fin count}
    (isChosen : Chosen (requests request) first index) (other : Fin count)
    (nearer : ((other - first : Fin count) : Nat) < (index - first : Fin count)) :
    request.getLsbD other = false := by
  rw [Bool.eq_false_iff]
  intro asks
  exact absurd (isChosen.nearest other asks) (Nat.not_le.mpr nearer)

/-- The bit of a requester behind the place is found in the lower half, any
other in the upper one. -/
theorem isFirst_of_chosen {index : Fin count}
    (isChosen : Chosen (requests request) first index) :
    IsFirst (request ++ request) first index ∨
      IsFirst (request ++ request) first (count + index) := by
  have inside := index.isLt
  have bound := first.isLt
  have asking : request.getLsbD index = true := isChosen.asking
  have clear := clear_of_nearer isChosen
  rw [distance first index] at clear
  by_cases behind : (first : Nat) ≤ index
  · left
    rw [if_pos behind] at clear
    refine ⟨?_, behind, fun between after before => ?_⟩
    · rw [getLsbD_doubled_lower request inside, asking]
    · have within : between < count := by omega
      rw [getLsbD_doubled_lower request within]
      refine clear ⟨between, within⟩ ?_
      rw [distance, if_pos after]
      exact Nat.sub_lt_sub_right after before
  · right
    rw [if_neg behind] at clear
    refine ⟨?_, by omega, fun between after before => ?_⟩
    · rw [getLsbD_doubled_upper, asking]
    · rcases Nat.lt_or_ge between count with within | beyond
      · rw [getLsbD_doubled_lower request within]
        refine clear ⟨between, within⟩ ?_
        rw [distance, if_pos after]
        exact Nat.sub_lt_sub_right after before
      · obtain ⟨wrapped, rfl⟩ := Nat.exists_eq_add_of_le beyond
        have within : wrapped < count := by omega
        rw [getLsbD_doubled_upper]
        refine clear ⟨wrapped, within⟩ ?_
        rw [distance, if_neg (by change ¬ (first : Nat) ≤ wrapped; omega)]
        change count + wrapped - (first : Nat) < _
        omega

/-- With the round-robin scheme the grant is the bit of the first requester
from the top priority on. -/
theorem getLsbD_grant (top : topPriority .roundRobin state = oneHot first)
    (index : Fin count) :
    (grant .roundRobin request state).getLsbD index = true ↔
      Chosen (requests request) first index := by
  have inside := index.isLt
  have doubled : grantDoubleVector .roundRobin request state =
      (request ++ request) &&&
        (~~~(request ++ request) + BitVec.twoPow (count + count) first) := by
    rw [grantDoubleVector, result, ArbAdder.sum_eq_add, top, zero_append_oneHot,
      BitVec.not_append]
  have halves : grant .roundRobin request state =
      (grantDoubleVector .roundRobin request state).extractLsb' 0 count |||
        (grantDoubleVector .roundRobin request state).extractLsb' count count :=
    rfl
  rw [halves, BitVec.getLsbD_or, BitVec.getLsbD_extractLsb',
    BitVec.getLsbD_extractLsb', decide_eq_true inside, Bool.true_and,
    Bool.true_and, Bool.or_eq_true, Nat.zero_add, doubled,
    getLsbD_and_not_add _ (by omega), getLsbD_and_not_add _ (by omega)]
  constructor
  · rintro (lower | upper)
    · exact chosen_of_isFirst (.inl rfl) lower
    · exact chosen_of_isFirst (.inr rfl) upper
  · exact isFirst_of_chosen

theorem grant_of_chosen (top : topPriority .roundRobin state = oneHot first)
    {chosen : Fin count} (isChosen : Chosen (requests request) first chosen)
    [NeZero count] : grant .roundRobin request state = oneHot chosen := by
  apply Wiring.eq_of_getLsbD_fin
  intro index
  rw [getLsbD_oneHot, Bool.eq_iff_iff, getLsbD_grant top, decide_eq_true_eq]
  constructor
  · exact fun found => isChosen.unique found
  · rintro rfl
    exact isChosen

theorem grant_of_none (top : topPriority .roundRobin state = oneHot first)
    (none : request = 0) : grant .roundRobin request state = 0 := by
  apply Wiring.eq_of_getLsbD_fin
  intro index
  rw [BitVec.ofNat_eq_ofNat, BitVec.getLsbD_zero, Bool.eq_false_iff, ne_eq,
    getLsbD_grant top]
  rintro ⟨asking, -⟩
  rw [requests, none] at asking
  exact absurd asking (by simp)

theorem exists_requests (some : request ≠ 0) :
    ∃ index, requests request index = true := by
  by_contra none
  apply some
  apply Wiring.eq_of_getLsbD_fin
  intro index
  rw [BitVec.ofNat_eq_ofNat, BitVec.getLsbD_zero, Bool.eq_false_iff]
  exact fun asking => none ⟨index, asking⟩

end Grant

theorem oneHot_injective : Function.Injective (@oneHot count) := by
  intro first second same
  have bit := congrArg (fun word => word.getLsbD first) same
  simp only [getLsbD_oneHot, decide_true] at bit
  exact (of_decide_eq_true bit.symm).symm

theorem oneHot_ne_zero (index : Fin count) : oneHot index ≠ 0 := by
  intro none
  have bit := getLsbD_oneHot index index
  rw [none, BitVec.ofNat_eq_ofNat, BitVec.getLsbD_zero, decide_eq_true rfl] at bit
  contradiction

section Runs

variable [NeZero count] {inputs : Nat → Input count} {trace : Nat → State count}
  (follows : Follows (step .roundRobin true) inputs trace)

theorem topPriority_eq {state : State count} {first : Fin count}
    (placed : state.topPriorityReg = oneHot first) :
    topPriority .roundRobin state = oneHot first := by
  rw [topPriority]
  split
  · exact placed
  · next single =>
      obtain rfl : count = 1 := by
        have positive := Nat.pos_of_neZero count
        simp only [true_and] at single
        omega
      rw [Subsingleton.elim first 0]
      rfl

/-- What one clock edge does to the place. -/
theorem placed_step {input : Input count} {state : State count}
    {first : Fin count} (low : input.reset = false)
    (placed : state.topPriorityReg = oneHot first) :
    (input.incrementTopPriority = false ∨ input.request = 0 →
        (step .roundRobin true input state).topPriorityReg = oneHot first) ∧
      ∀ chosen, input.incrementTopPriority = true →
        Chosen (requests input.request) first chosen →
          (step .roundRobin true input state).topPriorityReg =
            oneHot (chosen + 1) := by
  have stepped : (step .roundRobin true input state).topPriorityReg =
      if input.incrementTopPriority = true ∧ input.request ≠ 0 then
        (grant .roundRobin input.request state).rotateLeft 1
      else state.topPriorityReg := by
    unfold step
    grind
  rw [stepped]
  constructor
  · rintro (keeps | none)
    · rw [if_neg fun moves => by simp [keeps] at moves, placed]
    · rw [if_neg fun moves => moves.2 none, placed]
  · intro chosen moves isChosen
    have some : input.request ≠ 0 := by
      intro none
      have asking := isChosen.asking
      rw [requests, none] at asking
      exact absurd asking (by simp)
    rw [if_pos ⟨moves, some⟩, grant_of_chosen (topPriority_eq placed) isChosen,
      rotateLeft_oneHot]

include follows

theorem exists_place (begins : (inputs 0).reset = true) {cycle : Nat}
    (later : 0 < cycle) :
    ∃ first, (trace cycle).topPriorityReg = oneHot first := by
  have reset {now : Nat} (high : (inputs now).reset = true) :
      ∃ first, (trace (now + 1)).topPriorityReg = oneHot first := by
    refine ⟨0, ?_⟩
    rw [follows, step, if_pos high, oneHot, Fin.val_zero, BitVec.twoPow_zero]
    rfl
  induction cycle, later using Nat.le_induction with
  | base => exact reset begins
  | succ cycle later ih =>
      cases high : (inputs cycle).reset with
      | true => exact reset high
      | false =>
          obtain ⟨first, placed⟩ := ih
          obtain ⟨stays, moves⟩ := placed_step high placed
          rw [follows]
          by_cases none : (inputs cycle).request = 0
          · exact ⟨first, stays (.inr none)⟩
          · cases now : (inputs cycle).incrementTopPriority with
            | false => exact ⟨first, stays (.inl now)⟩
            | true =>
                obtain ⟨chosen, isChosen⟩ :=
                  exists_chosen first (exists_requests none)
                exact ⟨chosen + 1, moves chosen now isChosen⟩

theorem grant_cases (begins : (inputs 0).reset = true) {cycle : Nat}
    (later : 0 < cycle) :
    (inputs cycle).request = 0 ∧
        grant .roundRobin (inputs cycle).request (trace cycle) = 0 ∨
      ∃ chosen, requests (inputs cycle).request chosen = true ∧
        grant .roundRobin (inputs cycle).request (trace cycle) =
          oneHot chosen := by
  obtain ⟨first, placed⟩ := exists_place follows begins later
  have top := topPriority_eq placed
  by_cases none : (inputs cycle).request = 0
  · exact .inl ⟨none, grant_of_none top none⟩
  · obtain ⟨chosen, isChosen⟩ := exists_chosen first (exists_requests none)
    exact .inr ⟨chosen, isChosen.asking, grant_of_chosen top isChosen⟩

/-- A requester that keeps requesting and is not granted sees the place move
fewer times than there are requesters. -/
theorem count_moves_lt (begins : (inputs 0).reset = true)
    (index : Fin count) {start offset : Nat} (after : 0 < start)
    (waits : ∀ cycle, start ≤ cycle → cycle < start + offset →
      (inputs cycle).reset = false ∧
        requests (inputs cycle).request index = true ∧
        ((inputs cycle).incrementTopPriority = true →
          grant .roundRobin (inputs cycle).request (trace cycle) ≠
            oneHot index)) :
    Nat.count (fun earlier =>
      (inputs (start + earlier)).incrementTopPriority = true) offset < count := by
  have places (cycle : Nat) : ∃ first, 0 < cycle →
      (trace cycle).topPriorityReg = oneHot first := by
    rcases Nat.eq_zero_or_pos cycle with none | later
    · exact ⟨0, fun later => absurd none (Nat.ne_of_gt later)⟩
    · obtain ⟨first, placed⟩ := exists_place follows begins later
      exact ⟨first, fun _ => placed⟩
  choose first placed using places
  have moves : Moves (fun cycle => (inputs cycle).incrementTopPriority)
      (fun cycle => requests (inputs cycle).request) first start
      (start + offset) := by
    intro cycle from_ upTo
    obtain ⟨low, asking, -⟩ := waits cycle from_ upTo
    have next := placed (cycle + 1) (Nat.succ_pos cycle)
    rw [follows] at next
    obtain ⟨stays, moves⟩ := placed_step low (placed cycle (by omega))
    refine ⟨fun keeps => ?_, fun increments => ?_⟩
    · exact oneHot_injective (next.symm.trans (stays (.inl keeps)))
    · obtain ⟨chosen, isChosen⟩ := exists_chosen (first cycle) ⟨index, asking⟩
      exact ⟨chosen, isChosen, oneHot_injective
        (next.symm.trans (moves chosen increments isChosen))⟩
  have bound := moves.count_add_le fun cycle from_ upTo now => by
    obtain ⟨-, asking, passed⟩ := waits cycle from_ upTo
    refine ⟨asking, fun isChosen => passed now ?_⟩
    exact grant_of_chosen (topPriority_eq (placed cycle (by omega))) isChosen
  have inside := (index - first start).isLt
  omega

end Runs

variable [NeZero count]

/-- In every run that begins with a reset, exactly one of the requesters is
granted when there are any, and a requester that keeps requesting is granted
before the place has moved once for each of them. -/
theorem grants_in_turn (initial : State count) (inputs : Nat → Input count)
    (begins : (inputs 0).reset = true) :
    (∀ cycle, 0 < cycle →
      (inputs cycle).request = 0 ∧
          grant .roundRobin (inputs cycle).request
            (run (step .roundRobin true) inputs initial cycle) = 0 ∨
        ∃ chosen, requests (inputs cycle).request chosen = true ∧
          grant .roundRobin (inputs cycle).request
            (run (step .roundRobin true) inputs initial cycle) =
            oneHot chosen) ∧
    ∀ (index : Fin count) (start offset : Nat), 0 < start →
      (∀ cycle, start ≤ cycle → cycle < start + offset →
        (inputs cycle).reset = false ∧
          requests (inputs cycle).request index = true ∧
          ((inputs cycle).incrementTopPriority = true →
            grant .roundRobin (inputs cycle).request
              (run (step .roundRobin true) inputs initial cycle) ≠
              oneHot index)) →
      Nat.count (fun earlier =>
        (inputs (start + earlier)).incrementTopPriority = true) offset <
          count := by
  have follows := run_follows (step .roundRobin true) inputs initial
  exact ⟨fun cycle later => grant_cases follows begins later,
    fun index start offset after waits =>
      count_moves_lt follows begins index after waits⟩

/-- Three requesters that never stop requesting. -/
def insistent (cycle : Nat) : Input 3 where
  reset := cycle == 0
  request := 0b111
  incrementTopPriority := true
  saveTopPriority := false

theorem grants_in_turn_insistent :
    Nat.count (fun earlier =>
      (insistent (1 + earlier)).incrementTopPriority = true) 2 < 3 := by
  refine (grants_in_turn ⟨0⟩ insistent rfl).2 2 1 2 Nat.one_pos ?_
  intro cycle from_ upTo
  obtain rfl | rfl : cycle = 1 ∨ cycle = 2 := by omega
  · exact ⟨rfl, rfl, fun _ => by decide⟩
  · exact ⟨rfl, rfl, fun _ => by decide⟩

end Arbitrator

end TripleDes
