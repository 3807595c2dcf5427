import TripleDes.Des3Fsm

/-!
# The pipeline bench

`des3_pipeline_tb.v` resets the wrapper, submits a list of blocks in consecutive
cycles and compares every reported output with the next entry of a table.  The
numbers of resetting and idle edges are parameters here: the bench lowers its
reset at a clock edge, so that the third edge may count as either.
-/

namespace TripleDes

open Clocked

namespace Des3PipelineTb

/-- The test data with the expected outputs, the keys, and the clock edges
before the first block. -/
structure Bench where
  resetEdges : Nat
  idleEdges : Nat
  tests : List (BitVec 64 × BitVec 64)
  key1 : BitVec 64
  key2 : BitVec 64
  key3 : BitVec 64

/-- A line printed by the scoreboard. -/
inductive Line
  | pass (clkCount index : Nat) (got expected : BitVec 64)
  | fail (clkCount index : Nat) (got expected : BitVec 64)
  | unexpected (clkCount : Nat) (got : BitVec 64)
  deriving DecidableEq

/-- The counters of the bench and what it has printed. -/
structure Board where
  clkCount : Nat
  outputCount : Nat
  passCount : Nat
  failCount : Nat
  printed : List Line
  deriving DecidableEq

structure State where
  fsm : Des3Fsm.State
  board : Board

/-- The edge before which the first block is submitted. -/
def Bench.first (bench : Bench) : Nat :=
  bench.resetEdges + bench.idleEdges

def Bench.submits (bench : Bench) (cycle : Nat) : Bool :=
  decide (bench.first ≤ cycle) &&
    decide (cycle < bench.first + bench.tests.length)

/-- What the bench drives in each cycle. -/
def Bench.stimulus (bench : Bench) (cycle : Nat) : Des3Fsm.Input where
  reset := decide (cycle < bench.resetEdges)
  idata := if bench.submits cycle then
      ((bench.tests[cycle - bench.first]?).map Prod.fst).getD 0
    else 0
  key1 := bench.key1
  key2 := bench.key2
  key3 := bench.key3
  decrypt := false
  start := bench.submits cycle

/-- The comparison made at a clock edge that finds `done` set. -/
def Board.compare (tests : List (BitVec 64 × BitVec 64)) (got : BitVec 64)
    (board : Board) : Board :=
  let compared :=
    match tests[board.outputCount]? with
    | some (_, expected) =>
        if got = expected then
          { board with
            printed := board.printed ++
              [Line.pass board.clkCount board.outputCount got expected]
            passCount := board.passCount + 1 }
        else
          { board with
            printed := board.printed ++
              [Line.fail board.clkCount board.outputCount got expected]
            failCount := board.failCount + 1 }
    | none =>
        { board with
          printed := board.printed ++ [Line.unexpected board.clkCount got] }
  { compared with outputCount := compared.outputCount + 1 }

/-- A clock edge as the scoreboard sees it. -/
def Board.sample (tests : List (BitVec 64 × BitVec 64))
    (input : Des3Fsm.Input) (state : Des3Fsm.State) (board : Board) : Board :=
  let compared :=
    if !input.reset && state.done then board.compare tests state.odata
    else board
  { compared with
    clkCount := if input.reset then 0 else board.clkCount + 1 }

/-- A clock edge of the whole bench. -/
def Bench.step (bench : Bench) (input : Des3Fsm.Input) (state : State) :
    State where
  fsm := Des3Fsm.step input state.fsm
  board := state.board.sample bench.tests input state.fsm

def Bench.start (fsm : Des3Fsm.State) : State where
  fsm := fsm
  board :=
    { clkCount := 0, outputCount := 0, passCount := 0, failCount := 0,
      printed := [] }

/-- The bench after a number of clock edges. -/
def Bench.after (bench : Bench) (fsm : Des3Fsm.State) : Nat → State :=
  run bench.step bench.stimulus (Bench.start fsm)

/-- The result line of the summary. -/
def Bench.allPass (bench : Bench) (board : Board) : Bool :=
  board.failCount == 0 && board.outputCount == bench.tests.length

/-- What the cipher makes of a block of the test data. -/
def Bench.cipher (bench : Bench) (test : BitVec 64 × BitVec 64) : BitVec 64 :=
  Standard.tdes false bench.key1 bench.key2 bench.key3 test.1

/-- The line that belongs to a test. -/
def Bench.line (bench : Bench) (index : Nat) (test : BitVec 64 × BitVec 64) :
    Line :=
  if bench.cipher test = test.2 then
    .pass (bench.idleEdges + 57 + index) index (bench.cipher test) test.2
  else .fail (bench.idleEdges + 57 + index) index (bench.cipher test) test.2

/-- The scoreboard when the given tests have been compared. -/
def Bench.compared (bench : Bench) (clkCount : Nat)
    (tests : List (BitVec 64 × BitVec 64)) : Board where
  clkCount := clkCount
  outputCount := tests.length
  passCount := tests.countP fun test => bench.cipher test = test.2
  failCount := tests.countP fun test => bench.cipher test ≠ test.2
  printed := tests.mapIdx bench.line

variable {bench : Bench} {fsm : Des3Fsm.State}

/-- Comparing one more test. -/
theorem compare_next {compared rest : List (BitVec 64 × BitVec 64)}
    {test : BitVec 64 × BitVec 64}
    (whole : bench.tests = compared ++ test :: rest) :
    Board.compare bench.tests (bench.cipher test)
        (bench.compared (bench.idleEdges + 57 + compared.length) compared) =
      bench.compared (bench.idleEdges + 57 + compared.length)
        (compared ++ [test]) := by
  have next : bench.tests[compared.length]? = some test := by
    rw [whole, List.getElem?_append_right (Nat.le_refl _), Nat.sub_self]
    rfl
  simp only [Board.compare, Bench.compared, next]
  by_cases same : bench.cipher test = test.2
  · simp [same, Bench.line]
  · simp [same, Bench.line]

theorem fsm_follows (bench : Bench) (fsm : Des3Fsm.State) :
    Follows Des3Fsm.step bench.stimulus
      (fun cycle => (bench.after fsm cycle).fsm) :=
  (run_follows bench.step bench.stimulus (Bench.start fsm)).component State.fsm
    (fun input _ => input) fun _ _ => rfl

theorem done_iff (unbuffered : Des3Fsm.Unbuffered fsm)
    (resets : 0 < bench.resetEdges) {cycle : Nat} (later : 0 < cycle) :
    (bench.after fsm cycle).fsm.done = true ↔
      ∃ start, start + 57 = cycle ∧ bench.submits start = true := by
  refine Des3Fsm.done_iff_start (fsm_follows bench fsm) unbuffered resets
    (fun _ => rfl) (fun cycle before => ?_) later
  change bench.submits cycle = false
  rw [Bench.submits, Bench.first, decide_eq_false (by omega), Bool.false_and]

/-- The output that belongs to a test. -/
theorem odata_of_test (bench : Bench) (fsm : Des3Fsm.State) {index : Nat}
    {test : BitVec 64 × BitVec 64} (entry : bench.tests[index]? = some test) :
    (bench.after fsm (bench.first + index + 57)).fsm.odata =
      bench.cipher test := by
  have inside : index < bench.tests.length :=
    (List.getElem?_eq_some_iff.mp entry).1
  have follows := Des3Fsm.uDes3_follows (fsm_follows bench fsm)
  have low : Throughout (bench.first + index) (bench.first + index + 56)
      fun cycle => (Des3Fsm.uDes3Input (bench.stimulus cycle)).reset = false := by
    intro cycle after _
    rw [Bench.first] at after
    exact decide_eq_false (by omega)
  have held : Des3.Held (fun cycle => Des3Fsm.uDes3Input (bench.stimulus cycle))
      (bench.first + index) false bench.key1 bench.key2 bench.key3 :=
    fun _ _ _ => ⟨rfl, rfl, rfl, rfl⟩
  have block : (Des3Fsm.uDes3Input
      (bench.stimulus (bench.first + index))).idata = test.1 := by
    have submits : bench.submits (bench.first + index) = true := by
      simp [Bench.submits, inside]
    simp only [Des3Fsm.uDes3Input, Bench.stimulus, submits, if_true,
      Nat.add_sub_cancel_left, entry]
    rfl
  have output := Des3.odata_of_sampled follows low held.sampled
  rw [block] at output
  exact output

/-- The number of tests whose output has been seen before a clock edge. -/
def Bench.seen (bench : Bench) (cycle : Nat) : Nat :=
  cycle - (bench.first + 57)

theorem seen_succ_of_quiet {cycle : Nat}
    (quiet : ¬ ∃ start, start + 57 = cycle ∧ bench.submits start = true) :
    bench.tests.take (bench.seen (cycle + 1)) =
      bench.tests.take (bench.seen cycle) := by
  unfold Bench.seen
  rcases Nat.lt_or_ge cycle (bench.first + 57) with early | reached
  · rw [show cycle + 1 - (bench.first + 57) = cycle - (bench.first + 57) by omega]
  · have late : bench.tests.length ≤ cycle - (bench.first + 57) := by
      by_contra inside
      refine quiet ⟨cycle - 57, by omega, ?_⟩
      rw [Bench.submits, Bool.and_eq_true, decide_eq_true_eq,
        decide_eq_true_eq]
      omega
    rw [List.take_of_length_le late, List.take_of_length_le (by omega)]

theorem compare_of_test {index : Nat} (inside : index < bench.tests.length) :
    Board.compare bench.tests (bench.cipher bench.tests[index])
        (bench.compared (bench.idleEdges + 57 + index)
          (bench.tests.take index)) =
      bench.compared (bench.idleEdges + 57 + index)
        (bench.tests.take (index + 1)) := by
  have whole : bench.tests = bench.tests.take index ++
      bench.tests[index] :: bench.tests.drop (index + 1) := by
    rw [List.getElem_cons_drop, List.take_append_drop]
  have compares := compare_next whole
  rw [List.length_take_of_le (Nat.le_of_lt inside)] at compares
  rw [compares, List.take_succ_eq_append_getElem inside]

/-- A clock edge at which no output comes out. -/
theorem sample_of_quiet {board : Board} {input : Des3Fsm.Input}
    {state : Des3Fsm.State} {clkCount : Nat}
    {tests compared : List (BitVec 64 × BitVec 64)}
    (before : board = bench.compared clkCount compared)
    (quiet : (!input.reset && state.done) = false) :
    board.sample tests input state =
      bench.compared (if input.reset then 0 else clkCount + 1) compared := by
  rw [Board.sample, quiet, if_neg Bool.false_ne_true, before]
  rfl

/-- A clock edge at which the output of a test comes out. -/
theorem sample_of_test (fsm : Des3Fsm.State) {index : Nat}
    (inside : index < bench.tests.length) {board : Board}
    (before : board = bench.compared (bench.idleEdges + 57 + index)
      (bench.tests.take index))
    (done : (bench.after fsm (bench.first + index + 57)).fsm.done = true) :
    board.sample bench.tests (bench.stimulus (bench.first + index + 57))
        (bench.after fsm (bench.first + index + 57)).fsm =
      bench.compared (bench.idleEdges + 57 + index + 1)
        (bench.tests.take (index + 1)) := by
  have running : (bench.stimulus (bench.first + index + 57)).reset = false := by
    refine decide_eq_false ?_
    rw [Bench.first]
    omega
  rw [Board.sample, running, done,
    odata_of_test bench fsm (List.getElem?_eq_getElem inside), before,
    Bool.not_false, Bool.true_and, if_pos rfl, compare_of_test inside]
  rfl

/-- The scoreboard before every clock edge: exactly the tests whose outputs have
come out are compared, in order, each in its own cycle. -/
theorem board_eq (unbuffered : Des3Fsm.Unbuffered fsm)
    (resets : 0 < bench.resetEdges) (cycle : Nat) :
    (bench.after fsm cycle).board =
      bench.compared (cycle - bench.resetEdges)
        (bench.tests.take (bench.seen cycle)) := by
  induction cycle with
  | zero =>
      rw [Bench.seen, Nat.zero_sub, Nat.zero_sub]
      rfl
  | succ cycle ih =>
      change (bench.after fsm cycle).board.sample bench.tests
        (bench.stimulus cycle) (bench.after fsm cycle).fsm = _
      by_cases high : cycle < bench.resetEdges
      · have resetting : (bench.stimulus cycle).reset = true :=
          decide_eq_true high
        have early : bench.seen (cycle + 1) = bench.seen cycle := by
          rw [Bench.seen, Bench.seen, Bench.first]
          omega
        have clock : cycle + 1 - bench.resetEdges = 0 := by omega
        rw [sample_of_quiet ih (by rw [resetting]; rfl), resetting, if_pos rfl,
          early, clock]
      have running : (bench.stimulus cycle).reset = false :=
        decide_eq_false high
      have clock : cycle + 1 - bench.resetEdges =
          cycle - bench.resetEdges + 1 := by
        omega
      by_cases shown : ∃ start, start + 57 = cycle ∧ bench.submits start = true
      · have done : (bench.after fsm cycle).fsm.done = true :=
          (done_iff unbuffered resets (by omega)).mpr shown
        obtain ⟨start, rfl, submits⟩ := shown
        rw [Bench.submits, Bool.and_eq_true, decide_eq_true_eq,
          decide_eq_true_eq] at submits
        obtain ⟨index, rfl⟩ : ∃ index, start = bench.first + index :=
          ⟨start - bench.first, by omega⟩
        have inside : index < bench.tests.length := by omega
        have seen : bench.seen (bench.first + index + 57) = index := by
          rw [Bench.seen]
          omega
        have seenNext : bench.seen (bench.first + index + 57 + 1) = index + 1 := by
          rw [Bench.seen]
          omega
        have time : bench.first + index + 57 - bench.resetEdges =
            bench.idleEdges + 57 + index := by
          rw [Bench.first]
          omega
        rw [seen, time] at ih
        rw [sample_of_test fsm inside ih done, seenNext, clock, time]
      · have notDone : (bench.after fsm cycle).fsm.done = false :=
          Bool.eq_false_iff.mpr fun done => shown
            ((done_iff unbuffered resets (by omega)).mp done)
        rw [sample_of_quiet ih (by rw [notDone, Bool.and_false]), running,
          if_neg Bool.false_ne_true, seen_succ_of_quiet shown, clock]

theorem allPass_compared_iff (clkCount seen : Nat) :
    bench.allPass (bench.compared clkCount (bench.tests.take seen)) = true ↔
      bench.tests.length ≤ seen ∧
        ∀ test ∈ bench.tests, bench.cipher test = test.2 := by
  simp only [Bench.allPass, Bench.compared, Bool.and_eq_true, beq_iff_eq,
    List.countP_eq_zero, decide_eq_true_eq, not_not, List.length_take,
    inf_eq_right, ne_eq]
  constructor
  · rintro ⟨matched, whole⟩
    rw [List.take_of_length_le whole] at matched
    exact ⟨whole, matched⟩
  · rintro ⟨whole, matched⟩
    rw [List.take_of_length_le whole]
    exact ⟨matched, whole⟩

/-- From a wrapper whose input buffers hold no bit, the bench compares exactly
its own blocks, in order and each in its own cycle, prints one line for each of
them and no other, and reports that all pass if and only if it has waited for the
last block and every expected output is the published cipher of its block. -/
theorem summary_allPass_iff (bench : Bench) (fsm : Des3Fsm.State)
    (unbuffered : Des3Fsm.Unbuffered fsm) (resets : 0 < bench.resetEdges)
    (waitCycles : Nat) :
    (∀ cycle, (bench.after fsm cycle).board =
      bench.compared (cycle - bench.resetEdges)
        (bench.tests.take (cycle - (bench.first + 57)))) ∧
    (bench.allPass (bench.after fsm
        (bench.first + bench.tests.length + waitCycles)).board = true ↔
      bench.tests.length ≤ bench.tests.length + waitCycles - 57 ∧
        ∀ test ∈ bench.tests, bench.cipher test = test.2) := by
  refine ⟨board_eq unbuffered resets, ?_⟩
  rw [board_eq unbuffered resets, allPass_compared_iff, Bench.seen,
    show bench.first + bench.tests.length + waitCycles - (bench.first + 57) =
      bench.tests.length + waitCycles - 57 by omega]

/-- The bench of the file. -/
def des3PipelineTb : Bench where
  resetEdges := 3
  idleEdges := 0
  tests :=
    [(0x35A2F80F51564C52, 0xAE32960F482A7362),
      (0x0123456789ABCDEF, 0x8D09591CBDEC06BE),
      (0xFEDCBA9876543210, 0xC2C29F8A82D0C084),
      (0xAABBCCDDEEFF0011, 0xEC5E2747D7594392)]
  key1 := 0x576D5A24D0E7493A
  key2 := 0x4F3FC2A81707AC64
  key3 := 0x6F295595C05ED7FB

theorem summary_allPass_iff_des3PipelineTb :
    des3PipelineTb.allPass (des3PipelineTb.after default 97).board = true := by
  have expected : (des3PipelineTb.tests.all fun test =>
      des3PipelineTb.cipher test == test.2) = true := by
    decide +kernel
  refine (summary_allPass_iff des3PipelineTb default (fun stage => ?_)
    (by decide) 90).2.mpr ⟨by decide, fun test member =>
      beq_iff_eq.mp (List.all_eq_true.mp expected test member)⟩
  match stage with
  | 0 | 1 | 2 => rfl

end Des3PipelineTb

end TripleDes
