import Mathlib.Data.Nat.Count
import Mathlib.Order.Interval.Finset.Nat

/-!
# Events in time

Cycles are numbered from zero.  This file collects what is needed about events
that happen in some cycles: the last one before a cycle, the log of all of
them, and a register that latches a value at each of them.
-/

namespace Events

theorem exists_last_before (property : Nat → Bool) {first cycle : Nat}
    (holds : property first = true) (later : first < cycle) :
    ∃ last, first ≤ last ∧ last < cycle ∧ property last = true ∧
      ∀ between, last < between → between < cycle →
        property between = false := by
  induction cycle, later using Nat.le_induction with
  | base =>
      exact ⟨first, Nat.le_refl first, Nat.lt_succ_self first, holds,
        fun between after before => by omega⟩
  | succ cycle later ih =>
      cases now : property cycle with
      | true =>
          exact ⟨cycle, by omega, Nat.lt_succ_self cycle, now,
            fun between after before => by omega⟩
      | false =>
          obtain ⟨last, notBefore, isBefore, held, none⟩ := ih
          refine ⟨last, notBefore, by omega, held, ?_⟩
          intro between after before
          rcases Nat.lt_or_eq_of_le (Nat.le_of_lt_succ before) with less | same
          · exact none between after less
          · rw [same, now]

theorem exists_count_eq {event : Nat → Bool} {index cycle : Nat}
    (reached : index < Nat.count (fun earlier => event earlier = true) cycle) :
    ∃ happened < cycle, event happened = true ∧
      Nat.count (fun earlier => event earlier = true) happened = index := by
  induction cycle with
  | zero => simp at reached
  | succ cycle ih =>
      by_cases already :
          index < Nat.count (fun earlier => event earlier = true) cycle
      · obtain ⟨happened, before, event, count⟩ := ih already
        exact ⟨happened, by omega, event, count⟩
      · rw [Nat.count_succ] at reached
        split at reached
        · next now => exact ⟨cycle, Nat.lt_succ_self cycle, now, by omega⟩
        · omega

/-- Events each of which uses up one of a rank are no more than the rank
allows. -/
theorem count_add_rank_le {event : Nat → Bool} (rank : Nat → Nat)
    {start offset : Nat}
    (falls : ∀ cycle, start ≤ cycle → cycle < start + offset →
      (event cycle).toNat + rank (cycle + 1) ≤ rank cycle) :
    Nat.count (fun earlier => event (start + earlier) = true) offset +
      rank (start + offset) ≤ rank start := by
  induction offset with
  | zero => simp
  | succ offset ih =>
      have earlier := ih fun cycle from_ upTo => falls cycle from_ (by omega)
      have now := falls (start + offset) (by omega) (by omega)
      rw [Nat.count_succ, ← Nat.add_assoc]
      cases happens : event (start + offset) with
      | false =>
          rw [happens, Bool.toNat_false] at now
          rw [if_neg Bool.false_ne_true]
          omega
      | true =>
          rw [happens, Bool.toNat_true] at now
          rw [if_pos rfl]
          omega

section Log

variable {Value : Type*}

/-- The values of the events before a cycle, the earliest first. -/
def before (event : Nat → Option Value) : Nat → List Value
  | 0 => []
  | cycle + 1 => before event cycle ++ (event cycle).toList

theorem before_eq_nil {event : Nat → Option Value} {cycle : Nat}
    (none : ∀ earlier < cycle, event earlier = none) :
    before event cycle = [] := by
  induction cycle with
  | zero => rfl
  | succ cycle ih =>
      rw [before, none cycle (Nat.lt_succ_self cycle),
        ih fun earlier less => none earlier (by omega)]
      rfl

theorem before_congr {first second : Nat → Option Value} {cycle : Nat}
    (same : ∀ earlier < cycle, first earlier = second earlier) :
    before first cycle = before second cycle := by
  induction cycle with
  | zero => rfl
  | succ cycle ih =>
      rw [before, before, same cycle (Nat.lt_succ_self cycle),
        ih fun earlier less => same earlier (by omega)]

/-- Events that repeat others after a fixed delay have the same log, later. -/
theorem before_delayed {source target : Nat → Option Value} {delay : Nat}
    (silent : ∀ cycle < delay, target cycle = none)
    (repeats : ∀ cycle, target (cycle + delay) = source cycle)
    (cycle : Nat) :
    before target (cycle + delay) = before source cycle := by
  induction cycle with
  | zero =>
      rw [Nat.zero_add]
      exact before_eq_nil silent
  | succ cycle ih =>
      rw [Nat.add_right_comm, before, repeats, ih, before]

/-- The log of the values that some of the events make of theirs. -/
theorem before_bind {Other : Type*} (event : Nat → Option Value)
    (change : Value → Option Other) (cycle : Nat) :
    before (fun earlier => (event earlier).bind change) cycle =
      (before event cycle).filterMap change := by
  induction cycle with
  | zero => rfl
  | succ cycle ih =>
      rw [before, before, ih, List.filterMap_append]
      cases event cycle with
      | none => rfl
      | some value => cases made : change value <;> simp [made]

end Log

section Latches

variable {Value : Type*}

/-- A register that takes a new value at each event and holds it otherwise,
in the cycles from `first` to `last`. -/
def Latches (first last : Nat) (event : Nat → Bool)
    (value register : Nat → Value) : Prop :=
  ∀ cycle, first ≤ cycle → cycle < last →
    register (cycle + 1) = if event cycle then value cycle else register cycle

variable {first last : Nat} {event : Nat → Bool}
  {value register : Nat → Value}

theorem Latches.hold (latches : Latches first last event value register)
    {start cycle : Nat} (from_ : first ≤ start) (later : start ≤ cycle)
    (upTo : cycle ≤ last)
    (none : ∀ between, start ≤ between → between < cycle →
      event between = false) :
    register cycle = register start := by
  induction cycle, later using Nat.le_induction with
  | base => rfl
  | succ cycle later ih =>
      rw [latches cycle (by omega) (by omega),
        none cycle later (Nat.lt_succ_self cycle)]
      exact ih (by omega) fun between after less =>
        none between after (by omega)

theorem Latches.shows (latches : Latches first last event value register)
    {start cycle : Nat} (from_ : first ≤ start) (later : start < cycle)
    (upTo : cycle ≤ last) (happens : event start = true)
    (none : ∀ between, start < between → between < cycle →
      event between = false) :
    register cycle = value start := by
  rw [latches.hold (by omega : first ≤ start + 1) later upTo none,
    latches start from_ (by omega), happens]
  rfl

/-- A flag that each event sets and nothing clears tells whether an event has
happened. -/
theorem flag_iff (flag : Nat → Bool) {cycle : Nat}
    (clear : flag first = false)
    (sticky : ∀ between, first ≤ between → between < cycle →
      flag (between + 1) = (event between || flag between))
    (later : first ≤ cycle) :
    flag cycle = true ↔
      ∃ happened, first ≤ happened ∧ happened < cycle ∧
        event happened = true := by
  induction cycle, later using Nat.le_induction with
  | base =>
      rw [clear]
      constructor
      · intro never
        contradiction
      · rintro ⟨happened, after, before, -⟩
        omega
  | succ cycle later ih =>
      have already := ih fun between after less =>
        sticky between after (by omega)
      rw [sticky cycle later (Nat.lt_succ_self cycle), Bool.or_eq_true,
        already]
      constructor
      · rintro (now | ⟨happened, after, before, event⟩)
        · exact ⟨cycle, later, Nat.lt_succ_self cycle, now⟩
        · exact ⟨happened, after, by omega, event⟩
      · rintro ⟨happened, after, before, event⟩
        rcases Nat.lt_or_eq_of_le (Nat.le_of_lt_succ before) with less | same
        · exact .inr ⟨happened, after, less, event⟩
        · exact .inl (same ▸ event)

end Latches

end Events
