import TripleDes.Streaming

/-!
# The rounds one by one

`des3_tb.v` prints the register pair behind a round whenever the valid bit next
to it is set.  In each cycle that is the block accepted a fixed number of cycles
earlier, after as many rounds of the published cipher, or a bit that a reset
stranded in an input buffer further up.
-/

namespace TripleDes

open Clocked

namespace Standard

/-- The pair of halves behind the first `count` rounds. -/
def intermediate (roundKeys : List (BitVec 48)) (count : Nat)
    (block : BitVec 64) : BitVec 32 × BitVec 32 :=
  let permuted := Wiring.select initialPermutation block
  (roundKeys.take count).foldl round
    (permuted.extractLsb' 32 32, permuted.extractLsb' 0 32)

/-- The round keys of a stage of triple enciphering, for mode `true` of triple
deciphering. -/
def stageRoundKeys (mode : Bool) (key1 key2 key3 : BitVec 64) :
    Fin 3 → List (BitVec 48)
  | Stage.encrypt1 => if mode then (roundKeys key3).reverse else roundKeys key1
  | Stage.decrypt2 => if mode then roundKeys key2 else (roundKeys key2).reverse
  | Stage.encrypt3 => if mode then (roundKeys key1).reverse else roundKeys key3

/-- The block that enters a stage. -/
def stageBlock (roundKeys : Fin 3 → List (BitVec 48)) (block : BitVec 64) :
    Fin 3 → BitVec 64
  | Stage.encrypt1 => block
  | Stage.decrypt2 => des (roundKeys Stage.encrypt1) block
  | Stage.encrypt3 =>
      des (roundKeys Stage.decrypt2) (des (roundKeys Stage.encrypt1) block)

theorem intermediate_eq_rounds (roundKeys : Fin 16 → BitVec 48)
    {count : Nat} (within : count ≤ 16) (block : BitVec 64) :
    intermediate (List.ofFn roundKeys) count block =
      network.rounds (fun round => roundKeys (.ofNat 16 round)) count
        (blockPort block) := by
  have keys : (List.ofFn roundKeys).take count =
      (List.range count).map fun round => roundKeys (.ofNat 16 round) := by
    change ((List.range 16).map fun round => roundKeys (.ofNat 16 round)).take
      count = _
    rw [← List.map_take, List.take_range, Nat.min_eq_left within]
  have rounds : round = fun halves roundKey => network.step roundKey halves := by
    funext halves roundKey
    exact round_eq_step halves roundKey
  rw [← Feistel.run_map_range, ← keys, intermediate, rounds,
    select_initialPermutation]
  rfl

end Standard

namespace FeistelAlgo

/-- The halves behind a round, for the block sampled in cycle `start`. -/
theorem halves_of_idata {inputs : Nat → Input} {trace : Nat → State}
    (follows : Follows step inputs trace) {start : Nat} (row : Fin 17)
    (low : Throughout start (start + row + 1) fun cycle =>
      (inputs cycle).reset = false) :
    halves (trace (start + row + 2)) row =
      network.rounds
        (fun round => sampledKeys inputs (start + 1) (.ofNat 16 round)) row
        (blockPort (inputs start).idata) := by
  have entered := clocked_at follows (low start (Nat.le_refl start) (by omega))
  have rest : Throughout (start + 1) (start + 1 + row) fun cycle =>
      (inputs cycle).reset = false :=
    low.mono (by omega) (by omega)
  have passed := halves_of_buffered follows row rest
  rw [entered, buffered_clocked] at passed
  rwa [show start + row + 2 = start + 1 + 1 + row by omega]

end FeistelAlgo

namespace Des3

/-- The round keys that a mode and a key triple give to a stage. -/
def heldKeys (mode : Bool) (key1 key2 key3 : BitVec 64) (stage : Fin 3)
    (round : Fin 16) : BitVec 48 :=
  match stage with
  | Stage.encrypt1 => keyScheduler round (if mode then key3 else key1) mode
  | Stage.decrypt2 => keyScheduler round key2 (!mode)
  | Stage.encrypt3 => keyScheduler round (if mode then key1 else key3) mode

theorem stageRoundKeys_eq (mode : Bool) (key1 key2 key3 : BitVec 64)
    (stage : Fin 3) :
    Standard.stageRoundKeys mode key1 key2 key3 stage =
      List.ofFn (heldKeys mode key1 key2 key3 stage) := by
  have forwards (key : BitVec 64) : Standard.roundKeys key =
      List.ofFn fun round => keyScheduler round key false :=
    roundKeys_eq_keyScheduler key
  have backwards (key : BitVec 64) : (Standard.roundKeys key).reverse =
      List.ofFn fun round => keyScheduler round key true := by
    rw [forwards, Feistel.reverse_ofFn]
    exact congrArg List.ofFn
      (funext fun round => (keyScheduler_decrypt round key).symm)
  match stage, mode with
  | 0, false => exact forwards key1
  | 0, true => exact backwards key3
  | 1, false => exact backwards key2
  | 1, true => exact forwards key2
  | 2, false => exact forwards key3
  | 2, true => exact backwards key1

/-- The block that enters a stage after the stages in front of it. -/
def stageBlock (roundKeys : Fin 3 → Fin 16 → BitVec 48) (block : BitVec 64) :
    Fin 3 → BitVec 64
  | Stage.encrypt1 => block
  | Stage.decrypt2 => core (roundKeys Stage.encrypt1) block
  | Stage.encrypt3 =>
      core (roundKeys Stage.decrypt2) (core (roundKeys Stage.encrypt1) block)

theorem stageBlock_heldKeys (mode : Bool) (key1 key2 key3 block : BitVec 64)
    (stage : Fin 3) :
    stageBlock (heldKeys mode key1 key2 key3) block stage =
      Standard.stageBlock (Standard.stageRoundKeys mode key1 key2 key3) block
        stage := by
  have cipher (roundKeys : Fin 16 → BitVec 48) (block : BitVec 64) :
      Standard.des (List.ofFn roundKeys) block = core roundKeys block :=
    des_eq_cipher (List.ofFn roundKeys) block
  match stage with
  | 0 => rfl
  | 1 | 2 => simp only [Standard.stageBlock, stageBlock, stageRoundKeys_eq, cipher]

/-- A reset found a bit in one of the input buffers in front of the given number
of cells, and the bit reaches the last of these cells in this cycle. -/
def Stranded (inputs : Nat → Input) (trace : Nat → State)
    (cells cycle : Nat) : Prop :=
  ∃ (stage : Fin 3) (start : Nat), 19 * stage < cells ∧
    start + (cells - 19 * stage) = cycle ∧ (inputs start).reset = true ∧
    (∀ between, start < between → between < cycle →
      (inputs between).reset = false) ∧
    ((trace start).stage stage).vBuf = true

section Runs

variable {inputs : Nat → Input} {trace : Nat → State}

/-- What the valid bit behind a number of cells shows. -/
theorem validCell_iff (follows : Follows step inputs trace) {first : Nat}
    (begins : (inputs first).reset = true) {cycle : Nat}
    (later : first < cycle) {position : Nat} (bound : position < 57) :
    (trace cycle).validCell position = true ↔
      (∃ start, start + (position + 1) = cycle ∧
        (inputs start).validIn = true ∧
        ∀ between, start ≤ between → between < cycle →
          (inputs between).reset = false) ∨
      Stranded inputs trace (position + 1) cycle := by
  have line := (validLine follows).take (show position + 1 ≤ 57 from bound)
  refine (line.output_iff (Nat.succ_pos position) begins later).trans
    (or_congr Iff.rfl ?_)
  constructor
  · rintro ⟨buffer, start, inside, reaches, high, low, kept, set⟩
    obtain ⟨stage, rfl⟩ := (bufferCell_iff (by omega)).mp kept
    exact ⟨stage, start, inside, reaches, high, low,
      (validCell_stage (trace start) stage (by omega : 0 < 19)).symm.trans set⟩
  · rintro ⟨stage, start, inside, reaches, high, low, set⟩
    exact ⟨19 * stage, start, inside, reaches, high, low,
      (bufferCell_iff (by omega)).mpr ⟨stage, rfl⟩,
      (validCell_stage (trace start) stage (by omega : 0 < 19)).trans set⟩

/-- The halves behind a round of a stage, for the block sampled in cycle
`start`. -/
theorem halves_of_idata (follows : Follows step inputs trace) {start : Nat}
    (stage : Fin 3) (row : Fin 17)
    (low : Throughout start (start + 19 * stage + row + 1) fun cycle =>
      (inputs cycle).reset = false) :
    FeistelAlgo.halves ((trace (start + 19 * stage + row + 2)).stage stage)
        row =
      network.rounds
        (fun round => sampledKeys inputs start stage (.ofNat 16 round)) row
        (blockPort (stageBlock (sampledKeys inputs start)
          (inputs start).idata stage)) := by
  match stage with
  | 0 => exact FeistelAlgo.halves_of_idata (encrypt1_follows follows) row low
  | 1 =>
      have first := FeistelAlgo.odata_of_idata (encrypt1_follows follows)
        (low.mono (Nat.le_refl start) (by omega))
      have second := FeistelAlgo.halves_of_idata (decrypt2_follows follows)
        row (low.mono (by omega : start ≤ start + 19) (Nat.le_refl _))
      refine second.trans ?_
      exact congrArg (fun block => network.rounds _ _ (blockPort block)) first
  | 2 =>
      have first := FeistelAlgo.odata_of_idata (encrypt1_follows follows)
        (low.mono (Nat.le_refl start) (by omega))
      have second := FeistelAlgo.odata_of_idata (decrypt2_follows follows)
        (low.mono (by omega : start ≤ start + 19) (by omega))
      have third := FeistelAlgo.halves_of_idata (encrypt3_follows follows)
        row (low.mono (by omega : start ≤ start + 38) (Nat.le_refl _))
      refine third.trans ?_
      have entering := second.trans (congrArg (core _) first)
      exact congrArg (fun block => network.rounds _ _ (blockPort block)) entering

/-- The mode and the keys have been held since the cycle after `start`. -/
def HeldUntil (inputs : Nat → Input) (start cycle : Nat) (mode : Bool)
    (key1 key2 key3 : BitVec 64) : Prop :=
  ∀ between, start < between → between < cycle →
    (inputs between).decrypt = mode ∧ (inputs between).key1 = key1 ∧
      (inputs between).key2 = key2 ∧ (inputs between).key3 = key3

theorem HeldUntil.sampledKeys_eq {start cycle : Nat} {mode : Bool}
    {key1 key2 key3 : BitVec 64}
    (held : HeldUntil inputs start cycle mode key1 key2 key3)
    (stage : Fin 3) (round : Fin 16)
    (before : sampleCycle start stage round < cycle) :
    sampledKeys inputs start stage round =
      heldKeys mode key1 key2 key3 stage round := by
  obtain ⟨direction, first, second, third⟩ := held
    (sampleCycle start stage round) (by unfold sampleCycle; omega) before
  match stage with
  | 0 =>
    simp only [sampledKeys, roundKey, stageKey, stage1Key, heldKeys, direction,
      first, third]
  | 1 => simp only [sampledKeys, roundKey, stageKey, heldKeys, direction, second]
  | 2 =>
    simp only [sampledKeys, roundKey, stageKey, stage3Key, heldKeys, direction,
      first, third]

/-- Under a held mode and held keys the halves are those of the published
cipher. -/
theorem halves_of_held (follows : Follows step inputs trace) {start : Nat}
    (stage : Fin 3) (row : Fin 17) {mode : Bool} {key1 key2 key3 : BitVec 64}
    (low : Throughout start (start + 19 * stage + row + 1) fun cycle =>
      (inputs cycle).reset = false)
    (held : HeldUntil inputs start (start + 19 * stage + row + 2) mode key1
      key2 key3) :
    FeistelAlgo.halves ((trace (start + 19 * stage + row + 2)).stage stage)
        row =
      Standard.intermediate (Standard.stageRoundKeys mode key1 key2 key3 stage)
        row (Standard.stageBlock
          (Standard.stageRoundKeys mode key1 key2 key3) (inputs start).idata
          stage) := by
  have entering : stageBlock (sampledKeys inputs start) (inputs start).idata
        stage =
      stageBlock (heldKeys mode key1 key2 key3) (inputs start).idata stage := by
    have earlier (previous : Fin 3) (before : previous < stage) :
        sampledKeys inputs start previous =
          heldKeys mode key1 key2 key3 previous :=
      funext fun round => held.sampledKeys_eq previous round (by
        unfold sampleCycle
        omega)
    match stage with
    | 0 => rfl
    | 1 =>
        change core (sampledKeys inputs start 0) _ = _
        rw [earlier 0 (by decide)]
        rfl
    | 2 =>
        change core (sampledKeys inputs start 1)
          (core (sampledKeys inputs start 0) _) = _
        rw [earlier 0 (by decide), earlier 1 (by decide)]
        rfl
  have rounds (index : Nat) (below : index < row) :
      sampledKeys inputs start stage (.ofNat 16 index) =
        heldKeys mode key1 key2 key3 stage (.ofNat 16 index) := by
    refine held.sampledKeys_eq stage _ ?_
    have inside : ((Fin.ofNat 16 index : Fin 16) : Nat) = index :=
      Nat.mod_eq_of_lt (by omega)
    unfold sampleCycle
    omega
  rw [halves_of_idata follows stage row low, entering, stageBlock_heldKeys,
    network.rounds_congr rounds, stageRoundKeys_eq,
    Standard.intermediate_eq_rounds _ (Nat.le_of_lt_succ row.isLt)]

end Runs

/-- The valid bits up to the one next to the register pair behind `row` rounds
of a stage. -/
def rowDepth (stage : Fin 3) (row : Fin 17) : Nat :=
  19 * stage + row + 2

/-- What the bench prints of a stage and a round in a cycle: the valid bit is
set exactly for the block accepted as many cycles earlier as the round is deep
in the cascade, if no reset came since, and for stranded bits.  Whatever the
valid bit is, the halves are that block after as many rounds of the published
cipher, if no reset came since and the mode and the keys have been held. -/
theorem displayed_rounds (initial : State) (inputs : Nat → Input)
    (begins : (inputs 0).reset = true) (cycle : Nat) (later : 0 < cycle)
    (stage : Fin 3) (row : Fin 17) :
    (((run step inputs initial cycle).stage stage).V row = true ↔
      (∃ start, start + rowDepth stage row = cycle ∧
        (inputs start).validIn = true ∧
        ∀ between, start ≤ between → between < cycle →
          (inputs between).reset = false) ∨
      Stranded inputs (run step inputs initial) (rowDepth stage row) cycle) ∧
    ∀ (start : Nat) (mode : Bool) (key1 key2 key3 : BitVec 64),
      start + rowDepth stage row = cycle →
      (∀ between, start ≤ between → between < cycle →
        (inputs between).reset = false) →
      HeldUntil inputs start cycle mode key1 key2 key3 →
      FeistelAlgo.halves ((run step inputs initial cycle).stage stage) row =
        Standard.intermediate
          (Standard.stageRoundKeys mode key1 key2 key3 stage) row
          (Standard.stageBlock
            (Standard.stageRoundKeys mode key1 key2 key3) (inputs start).idata
            stage) := by
  have follows := run_follows step inputs initial
  constructor
  · have shown := validCell_iff follows begins later
      (by omega : 19 * (stage : Nat) + (row + 1) < 57)
    rw [validCell_stage _ stage (by omega), FeistelAlgo.validCell_stage] at shown
    exact shown
  · intro start mode key1 key2 key3 reaches quiet held
    have depth : start + 19 * stage + row + 2 = cycle := by
      rw [← reaches, rowDepth]
      omega
    subst depth
    exact halves_of_held follows stage row
      (fun between after upTo => quiet between after (by omega)) held

/-- In the first core of `des3_pipeline_tb.v`, behind a reset, the second block
has passed the initial permutation three cycles after its start. -/
theorem displayed_rounds_bench :
    FeistelAlgo.halves ((run step (fun cycle => { pipelineBench (cycle - 1) with
        reset := cycle == 0 }) default 4).stage 0) 0 =
      (0xCC00CCFF, 0xF0AAF0AA) :=
  (displayed_rounds default (fun cycle => { pipelineBench (cycle - 1) with
      reset := cycle == 0 }) rfl 4 (by decide) 0 0).2 2 false
    0x576D5A24D0E7493A 0x4F3FC2A81707AC64 0x6F295595C05ED7FB rfl
    (by intro between after _; simp; omega)
    fun _ _ _ => ⟨rfl, rfl, rfl, rfl⟩

end Des3

end TripleDes
