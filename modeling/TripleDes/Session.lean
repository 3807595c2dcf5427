import TripleDes.Delivery

/-!
# Sessions

A session is a run of the bridge that begins with a reset in a moment when no
block is in flight.  At its end the reset has cleared every register that the
bus can read, and the pipeline is still drained.
-/

namespace TripleDes

open Clocked

theorem FeistelAlgo.State.Drained.cleared {state : FeistelAlgo.State}
    (drained : state.Drained) : (FeistelAlgo.cleared state).Drained where
  vBuf := drained.vBuf
  V := fun _ => rfl
  validOut := rfl

theorem Des3.State.Drained.step_of_reset {input : Des3.Input}
    {state : Des3.State} (drained : state.Drained)
    (high : input.reset = true) : (Des3.step input state).Drained := by
  intro stage
  match stage with
  | 0 =>
      change (FeistelAlgo.step (Des3.encrypt1Input input) _).Drained
      rw [FeistelAlgo.step_of_reset high]
      exact (drained 0).cleared
  | 1 =>
      change (FeistelAlgo.step (Des3.decrypt2Input input state) _).Drained
      rw [FeistelAlgo.step_of_reset high]
      exact (drained 1).cleared
  | 2 =>
      change (FeistelAlgo.step (Des3.encrypt3Input input state) _).Drained
      rw [FeistelAlgo.step_of_reset high]
      exact (drained 2).cleared

namespace Des3Avalon

/-- The bridge as a reset leaves it when it found no block in flight. -/
structure State.Released (state : State) : Prop where
  drained : state.Drained
  settings : state.settings = ⟨0, 0, 0, 0, false⟩
  regOdata : state.regOdata = 0
  regValidOut : state.regValidOut = false

/-- The reset is high for the first `held` cycles, which find the bridge
drained, and low afterwards. -/
structure Session (held : Nat) (initial : State) (inputs : Nat → Input) :
    Prop where
  drained : initial.Drained
  positive : 0 < held
  high : ∀ cycle < held, (inputs cycle).reset = true
  low : ∀ cycle, held ≤ cycle → (inputs cycle).reset = false

theorem released_step_of_reset {input : Input} (high : input.reset = true)
    {state : State} (drained : state.uDes3.Drained) :
    (step input state).Released := by
  rw [step_of_reset high]
  exact ⟨⟨rfl, drained.step_of_reset high⟩, rfl, rfl, rfl⟩

/-- A session whose reset takes the first cycle alone. -/
theorem Session.of_first {initial : State} {inputs : Nat → Input}
    (drained : initial.Drained)
    (reset : ∀ cycle, (inputs cycle).reset = (cycle == 0)) :
    Session 1 initial inputs where
  drained := drained
  positive := Nat.one_pos
  high cycle before := by
    obtain rfl : cycle = 0 := by omega
    exact reset 0
  low cycle after := by
    rw [reset, beq_eq_false_iff_ne]
    omega

namespace Session

variable {held : Nat} {initial : State} {inputs : Nat → Input}
  {trace : Nat → State}

/-- The state in which the reset is released. -/
theorem released (session : Session held initial inputs)
    (follows : Follows step inputs trace) (begins : trace 0 = initial) :
    (trace held).Released := by
  have drained : ∀ cycle ≤ held, (trace cycle).uDes3.Drained := by
    intro cycle before
    induction cycle with
    | zero =>
        rw [begins]
        exact session.drained.uDes3
    | succ cycle ih =>
        rw [follows]
        exact (released_step_of_reset (session.high cycle (by omega))
          (ih (by omega))).drained.uDes3
  obtain ⟨last, rfl⟩ : ∃ last, held = last + 1 :=
    ⟨held - 1, by have := session.positive; omega⟩
  rw [follows]
  exact released_step_of_reset (session.high last (by omega))
    (drained last (by omega))

theorem low_after (session : Session held initial inputs) (cycle : Nat) :
    (inputs (held + cycle)).reset = false :=
  session.low (held + cycle) (by omega)

theorem loads_iff (session : Session held initial inputs)
    (follows : Follows step inputs trace) (begins : trace 0 = initial)
    (cycle : Nat) :
    loads (inputs cycle) (trace cycle) = true ↔
      ∃ start, start + 58 = cycle ∧ held ≤ start ∧
        (inputs start).starts = true := by
  rcases Nat.lt_or_ge cycle held with before | after
  · simp only [loads, session.high cycle before, Bool.not_true,
      Bool.false_and, Bool.false_eq_true, false_iff]
    rintro ⟨start, reaches, released, -⟩
    omega
  · obtain ⟨cycle, rfl⟩ : ∃ later, cycle = held + later :=
      ⟨cycle - held, by omega⟩
    refine (Des3Avalon.loads_iff (follows.shift held) session.low_after
      (session.released follows begins).drained cycle).trans ?_
    constructor
    · rintro ⟨start, rfl, starts⟩
      exact ⟨held + start, by omega, by omega, starts⟩
    · rintro ⟨start, reaches, released, starts⟩
      obtain ⟨start, rfl⟩ : ∃ later, start = held + later :=
        ⟨start - held, by omega⟩
      exact ⟨start, by omega, starts⟩

theorem loaded_eq_submitted (session : Session held initial inputs)
    (follows : Follows step inputs trace) {start : Nat}
    (released : held ≤ start) :
    loaded inputs trace (start + 58) = submitted inputs trace start :=
  Des3Avalon.loaded_eq_submitted follows fun cycle after _ =>
    session.low cycle (by omega)

/-- When no control write comes in the reset, the loads of a session are its
submissions, in the same order. -/
theorem before_loaded (session : Session held initial inputs)
    (follows : Follows step inputs trace) (begins : trace 0 = initial)
    (quiet : ∀ cycle < held, (inputs cycle).starts = false) (cycle : Nat) :
    Events.before (loaded inputs trace) (cycle + 58) =
      Events.before (submitted inputs trace) cycle := by
  have none {early : Nat} (unstarted : ∀ start, start + 58 = early →
      held ≤ start → (inputs start).starts = false) :
      loaded inputs trace early = none := by
    have idle : ¬ loads (inputs early) (trace early) = true := by
      rw [session.loads_iff follows begins]
      rintro ⟨start, reaches, released, starts⟩
      rw [unstarted start reaches released] at starts
      contradiction
    simp [loaded, idle]
  refine Events.before_delayed ?_ ?_ cycle
  · intro early less
    exact none fun start reaches => by omega
  · intro start
    rcases Nat.lt_or_ge start held with before | after
    · have idle : (inputs start).starts = false := quiet start before
      rw [none fun again same released => by omega]
      simp [submitted, idle]
    · exact session.loaded_eq_submitted follows after

end Session

end Des3Avalon

end TripleDes
