import TripleDes.RoundTrace

/-!
# The wrapper with a start pulse

`des3_fsm.v` puts one register in front of the cascade.  It remembers whether a
start pulse has come since the last reset, but gates nothing: the pulse itself
is the valid input of the cascade, and `done` its valid output.  A bit that a
reset has found in an input buffer is therefore reported while the wrapper is
still idle.
-/

namespace TripleDes

open Clocked

namespace Des3Fsm

/-- The state encoding. -/
inductive Mode
  | idle
  | running
  deriving DecidableEq, Inhabited

/-- Values at the input ports in one cycle. -/
structure Input where
  reset : Bool
  idata : BitVec 64
  key1 : BitVec 64
  key2 : BitVec 64
  key3 : BitVec 64
  decrypt : Bool
  start : Bool

/-- The register `state` and the registers of the instance `u_des3`. -/
structure State where
  state : Mode
  uDes3 : Des3.State
  deriving Inhabited

/-- The start pulse goes through in either state. -/
def coreValidIn (input : Input) : Bool :=
  input.start

/-- Ports of the instance `u_des3`. -/
def uDes3Input (input : Input) : Des3.Input where
  reset := input.reset
  idata := input.idata
  key1 := input.key1
  key2 := input.key2
  key3 := input.key3
  decrypt := input.decrypt
  validIn := coreValidIn input

/-- One cycle of the wrapper. -/
def step (input : Input) (state : State) : State where
  state :=
    if input.reset then .idle
    else if input.start then .running
    else state.state
  uDes3 := Des3.step (uDes3Input input) state.uDes3

def State.odata (state : State) : BitVec 64 :=
  state.uDes3.odata

def State.done (state : State) : Bool :=
  state.uDes3.validOut

variable {inputs : Nat → Input} {trace : Nat → State}

theorem uDes3_follows (follows : Follows step inputs trace) :
    Follows Des3.step (fun cycle => uDes3Input (inputs cycle))
      (fun cycle => (trace cycle).uDes3) :=
  follows.component State.uDes3 (fun input _ => uDes3Input input)
    fun _ _ => rfl

/-- A start pulse has come since the last reset. -/
def Started (inputs : Nat → Input) (cycle : Nat) : Prop :=
  ∃ start, start < cycle ∧ (inputs start).start = true ∧
    ∀ between, start ≤ between → between < cycle →
      (inputs between).reset = false

theorem started_succ (inputs : Nat → Input) (cycle : Nat) :
    Started inputs (cycle + 1) ↔ (inputs cycle).reset = false ∧
      ((inputs cycle).start = true ∨ Started inputs cycle) := by
  constructor
  · rintro ⟨start, before, pulse, quiet⟩
    refine ⟨quiet cycle (by omega) (Nat.lt_succ_self cycle), ?_⟩
    rcases Nat.lt_or_eq_of_le (Nat.le_of_lt_succ before) with earlier | now
    · exact .inr ⟨start, earlier, pulse,
        fun between after upTo => quiet between after (by omega)⟩
    · exact .inl (now ▸ pulse)
  · rintro ⟨low, pulse | ⟨start, before, pulse, quiet⟩⟩
    · refine ⟨cycle, Nat.lt_succ_self cycle, pulse, ?_⟩
      intro between after upTo
      rwa [show between = cycle by omega]
    · refine ⟨start, by omega, pulse, ?_⟩
      intro between after upTo
      rcases Nat.lt_or_eq_of_le (Nat.le_of_lt_succ upTo) with earlier | now
      · exact quiet between after earlier
      · rwa [now]

theorem running_iff (follows : Follows step inputs trace) {first : Nat}
    (begins : (inputs first).reset = true) {cycle : Nat}
    (later : first < cycle) :
    (trace cycle).state = .running ↔ Started inputs cycle := by
  induction cycle, later using Nat.le_induction with
  | base =>
      rw [started_succ, follows, step]
      simp [begins]
  | succ cycle later ih =>
      rw [started_succ, ← ih, follows]
      cases high : (inputs cycle).reset <;>
        cases pulse : (inputs cycle).start <;>
        simp [step, high, pulse]

theorem done_iff (follows : Follows step inputs trace) {first : Nat}
    (begins : (inputs first).reset = true) {cycle : Nat}
    (later : first < cycle) :
    (trace cycle).done = true ↔
      (∃ start, start + 57 = cycle ∧ (inputs start).start = true ∧
        ∀ between, start ≤ between → between < cycle →
          (inputs between).reset = false) ∨
      Des3.Stranded (fun cycle => uDes3Input (inputs cycle))
        (fun cycle => (trace cycle).uDes3) 57 cycle := by
  have shown := Des3.validCell_iff (uDes3_follows follows) begins later
    (by omega : 56 < 57)
  rwa [Des3.validCell_last] at shown

/-- No input buffer holds a bit. -/
def Unbuffered (state : State) : Prop :=
  ∀ stage, (state.uDes3.stage stage).vBuf = false

/-- A reset keeps the input buffers as they are. -/
theorem unbuffered_of_reset {state : State} {input : Input}
    (unbuffered : Unbuffered state) (high : input.reset = true) :
    Unbuffered (step input state) := by
  intro stage
  have kept (port : FeistelAlgo.Input) (core : FeistelAlgo.State)
      (resets : port.reset = true) :
      (FeistelAlgo.step port core).vBuf = core.vBuf := by
    rw [FeistelAlgo.step_of_reset resets]
    rfl
  match stage with
  | 0 => exact (kept _ _ high).trans (unbuffered 0)
  | 1 => exact (kept _ _ high).trans (unbuffered 1)
  | 2 => exact (kept _ _ high).trans (unbuffered 2)

/-- A run that begins with a reset of a wrapper whose input buffers hold no bit
and is not reset again completes exactly its own blocks. -/
theorem done_iff_start (follows : Follows step inputs trace)
    (unbuffered : Unbuffered (trace 0)) {resets : Nat} (begins : 0 < resets)
    (reset : ∀ cycle, (inputs cycle).reset = decide (cycle < resets))
    (quiet : ∀ cycle < resets, (inputs cycle).start = false) {cycle : Nat}
    (later : 0 < cycle) :
    (trace cycle).done = true ↔
      ∃ start, start + 57 = cycle ∧ (inputs start).start = true := by
  have empty (cycle : Nat) (within : cycle ≤ resets) :
      Unbuffered (trace cycle) := by
    induction cycle with
    | zero => exact unbuffered
    | succ cycle ih =>
        rw [follows]
        exact unbuffered_of_reset (ih (by omega))
          ((reset cycle).trans (decide_eq_true within))
  rw [done_iff follows ((reset 0).trans (decide_eq_true begins)) later]
  constructor
  · rintro (⟨start, reaches, pulse, -⟩ | ⟨stage, start, -, -, high, -, set⟩)
    · exact ⟨start, reaches, pulse⟩
    · have within : start < resets :=
        of_decide_eq_true ((reset start).symm.trans high)
      rw [empty start (Nat.le_of_lt within) stage] at set
      contradiction
  · rintro ⟨start, reaches, pulse⟩
    refine .inl ⟨start, reaches, pulse, ?_⟩
    intro between after _
    rw [reset, decide_eq_false_iff_not]
    intro within
    rw [quiet start (by omega)] at pulse
    contradiction

/-- The register is RUNNING exactly from a start pulse to the next reset.  While
it is IDLE, `done` shows the bits that the last reset stranded in an input
buffer, and nothing else. -/
theorem done_while_idle_iff (initial : State) (inputs : Nat → Input)
    (begins : (inputs 0).reset = true) (cycle : Nat) (later : 0 < cycle) :
    ((run step inputs initial cycle).state = .running ↔
      Started inputs cycle) ∧
    ((run step inputs initial cycle).state = .idle ∧
        (run step inputs initial cycle).done = true ↔
      ¬ Started inputs cycle ∧
        Des3.Stranded (fun cycle => uDes3Input (inputs cycle))
          (fun cycle => (run step inputs initial cycle).uDes3) 57 cycle) := by
  have follows := run_follows step inputs initial
  have running := running_iff follows begins later
  have idle : (run step inputs initial cycle).state = .idle ↔
      ¬ Started inputs cycle := by
    rw [← running]
    cases (run step inputs initial cycle).state <;> simp
  refine ⟨running, ?_⟩
  rw [idle, done_iff follows begins later]
  refine and_congr_right fun unstarted => or_iff_right ?_
  -- an accepted block has set the register
  rintro ⟨start, rfl, pulse, quiet⟩
  exact unstarted ⟨start, by omega, pulse, quiet⟩

/-- A start pulse in the cycle before a second reset. -/
def resetBehindStart (cycle : Nat) : Input where
  reset := cycle == 0 || cycle == 2
  idata := 0
  key1 := 0
  key2 := 0
  key3 := 0
  decrypt := false
  start := cycle == 1

theorem done_while_idle_iff_resetBehindStart :
    (run step resetBehindStart default 59).state = .idle ∧
      (run step resetBehindStart default 59).done = true := by
  refine (done_while_idle_iff default resetBehindStart rfl 59
    (by decide)).2.mpr ⟨?_, ?_⟩
  · rintro ⟨start, -, pulse, quiet⟩
    have first : start = 1 := by simpa [resetBehindStart] using pulse
    have second := quiet 2 (by omega) (by omega)
    simp [resetBehindStart] at second
  · refine ⟨0, 2, by decide, rfl, rfl, ?_, rfl⟩
    intro between after before
    have notFirst : between ≠ 0 := by omega
    have notSecond : between ≠ 2 := by omega
    simp [uDes3Input, resetBehindStart, notFirst, notSecond]

end Des3Fsm

end TripleDes
