import Mathlib.Order.Interval.Finset.Nat

/-!
# Clocked machines

A synchronous circuit is a step function from its inputs and register contents
in one cycle to its register contents in the next.  `Follows` says that a
sequence of register contents, one for each cycle, obeys a step function under
a stream of inputs.  A run of a circuit contains a run of each of its
subcircuits, fed from the registers around it.
-/

namespace Clocked

variable {Input State : Type*}

/-- Register contents in each cycle, from the contents in cycle zero. -/
def run (step : Input → State → State) (inputs : Nat → Input)
    (initial : State) : Nat → State
  | 0 => initial
  | cycle + 1 => step (inputs cycle) (run step inputs initial cycle)

/-- `trace` lists the register contents cycle by cycle under `inputs`. -/
def Follows (step : Input → State → State) (inputs : Nat → Input)
    (trace : Nat → State) : Prop :=
  ∀ cycle, trace (cycle + 1) = step (inputs cycle) (trace cycle)

/-- A property of cycles that holds from `first` to `last`, both included. -/
def Throughout (first last : Nat) (property : Nat → Prop) : Prop :=
  ∀ cycle, first ≤ cycle → cycle ≤ last → property cycle

theorem Throughout.mono {first last earlier later : Nat}
    {property : Nat → Prop} (holds : Throughout first last property)
    (lower : first ≤ earlier) (upper : later ≤ last) :
    Throughout earlier later property :=
  fun cycle after before =>
    holds cycle (Nat.le_trans lower after) (Nat.le_trans before upper)

variable {step : Input → State → State} {inputs : Nat → Input}
  {trace : Nat → State}

theorem run_follows (step : Input → State → State) (inputs : Nat → Input)
    (initial : State) : Follows step inputs (run step inputs initial) :=
  fun _ => rfl

theorem Follows.eq_of_inputs {inputs' : Nat → Input} {trace' : Nat → State}
    (follows : Follows step inputs trace)
    (follows' : Follows step inputs' trace') (same : trace 0 = trace' 0)
    {cycle : Nat} (agree : ∀ earlier < cycle, inputs earlier = inputs' earlier) :
    trace cycle = trace' cycle := by
  induction cycle with
  | zero => exact same
  | succ cycle ih =>
      rw [follows, follows', agree cycle (Nat.lt_succ_self cycle),
        ih fun earlier before => agree earlier (by omega)]

theorem Follows.shift (follows : Follows step inputs trace) (start : Nat) :
    Follows step (fun cycle => inputs (start + cycle))
      (fun cycle => trace (start + cycle)) :=
  fun cycle => follows (start + cycle)

/-- A subcircuit runs inside its parent: `view` reads its registers and
`feed` computes its inputs from the parent's. -/
theorem Follows.component {SubInput Sub : Type*}
    {subStep : SubInput → Sub → Sub}
    (follows : Follows step inputs trace) (view : State → Sub)
    (feed : Input → State → SubInput)
    (steps : ∀ input state,
      view (step input state) = subStep (feed input state) (view state)) :
    Follows subStep (fun cycle => feed (inputs cycle) (trace cycle))
      (fun cycle => view (trace cycle)) := by
  intro cycle
  change view (trace (cycle + 1)) = _
  rw [follows, steps]

/-- Two runs look the same through a view that every step respects, if they
begin and are driven alike as far as the view shows. -/
theorem Follows.eq_of_views {SubInput Sub : Type*}
    {subStep : SubInput → Sub → Sub} {inputs' : Nat → Input}
    {trace' : Nat → State} (follows : Follows step inputs trace)
    (follows' : Follows step inputs' trace') (view : State → Sub)
    (viewInput : Input → SubInput)
    (steps : ∀ input state,
      view (step input state) = subStep (viewInput input) (view state))
    (same : view (trace 0) = view (trace' 0)) {cycle : Nat}
    (agree : ∀ earlier < cycle,
      viewInput (inputs earlier) = viewInput (inputs' earlier)) :
    view (trace cycle) = view (trace' cycle) :=
  (follows.component view (fun input _ => viewInput input) steps).eq_of_inputs
    (follows'.component view (fun input _ => viewInput input) steps) same agree

theorem Follows.invariant {start : Nat}
    (follows : Follows step inputs trace) (invariant : State → Prop)
    (initially : invariant (trace start))
    (preserved : ∀ cycle, start ≤ cycle → invariant (trace cycle) →
      invariant (step (inputs cycle) (trace cycle))) :
    ∀ cycle, start ≤ cycle → invariant (trace cycle) := by
  intro cycle reached
  induction cycle, reached using Nat.le_induction with
  | base => exact initially
  | succ cycle reached ih =>
      rw [follows]
      exact preserved cycle reached ih

/-- A relation between two runs that every pair of steps keeps. -/
theorem Follows.related {Input' State' : Type*}
    {step' : Input' → State' → State'} {inputs' : Nat → Input'}
    {trace' : Nat → State'} {related : State → State' → Prop}
    (follows : Follows step inputs trace)
    (follows' : Follows step' inputs' trace')
    (initially : related (trace 0) (trace' 0))
    (preserved : ∀ cycle, related (trace cycle) (trace' cycle) →
      related (step (inputs cycle) (trace cycle))
        (step' (inputs' cycle) (trace' cycle))) (cycle : Nat) :
    related (trace cycle) (trace' cycle) := by
  induction cycle with
  | zero => exact initially
  | succ cycle ih =>
      rw [follows, follows']
      exact preserved cycle ih

end Clocked
