import TripleDes.ResultReads

/-!
# The register map

What the bus reads at each of the sixteen addresses, told from the history of
the bus alone, through any number of resets.  The first eight words are plain
memory; the control word shows the mode and the start pulse; the result and
the status tell of the blocks that have completed since the last reset.  A cycle
shows what is read right after the edge that begins it, so that the first cycle
of a reset still shows the old contents.
-/

namespace TripleDes

open Clocked

namespace Des3Avalon

section Memory

/-- The word at an address that works as memory: the last one written there
since the last reset. -/
def storedWord (inputs : Nat → Input) (address : BitVec 4)
    (initial : BitVec 32) : Nat → BitVec 32
  | 0 => initial
  | cycle + 1 =>
      if (inputs cycle).reset then 0
      else if (inputs cycle).writes address then (inputs cycle).avsWritedata
      else storedWord inputs address initial cycle

/-- The mode set by the last control write since the last reset. -/
def storedMode (inputs : Nat → Input) (initial : Bool) : Nat → Bool
  | 0 => initial
  | cycle + 1 =>
      if (inputs cycle).reset then false
      else if (inputs cycle).writes 0x8 then
        (inputs cycle).avsWritedata.getLsbD 1
      else storedMode inputs initial cycle

/-- The cycle before a cycle was a control write with bit 0 set. -/
def pulsed (inputs : Nat → Input) (initial : Bool) : Nat → Bool
  | 0 => initial
  | cycle + 1 => !(inputs cycle).reset && (inputs cycle).starts

theorem words_written {input : Input} {lowAddress highAddress : BitVec 4}
    (distinct : lowAddress ≠ highAddress) (register : BitVec 64) :
    lowWord (written input lowAddress highAddress register) =
        (if input.writes lowAddress then input.avsWritedata
          else lowWord register) ∧
      highWord (written input lowAddress highAddress register) =
        if input.writes highAddress then input.avsWritedata
        else highWord register := by
  have halves := @written_append input lowAddress highAddress distinct
    (highWord register) (lowWord register)
  rw [highWord_append_lowWord] at halves
  rw [halves, lowWord_append, highWord_append]
  exact ⟨rfl, rfl⟩

/-- The addresses of the block and the keys. -/
def wordAddress (word : Fin 8) : BitVec 4 :=
  .ofNat 4 word

theorem avsReaddata_step (input : Input) (state : State) (word : Fin 8) :
    avsReaddata (wordAddress word) (step input state) =
      if input.reset then 0
      else if input.writes (wordAddress word) then input.avsWritedata
      else avsReaddata (wordAddress word) state := by
  cases reset : input.reset with
  | true =>
      rw [step_of_reset reset, if_pos rfl]
      match word with
      | 0 | 2 | 4 | 6 => exact (by decide : lowWord 0 = 0)
      | 1 | 3 | 5 | 7 => exact (by decide : highWord 0 = 0)
  | false =>
      rw [step_of_low reset]
      match word with
      | 0 => exact (words_written (by decide) state.regIdata).1
      | 1 => exact (words_written (by decide) state.regIdata).2
      | 2 => exact (words_written (by decide) state.regKey1).1
      | 3 => exact (words_written (by decide) state.regKey1).2
      | 4 => exact (words_written (by decide) state.regKey2).1
      | 5 => exact (words_written (by decide) state.regKey2).2
      | 6 => exact (words_written (by decide) state.regKey3).1
      | 7 => exact (words_written (by decide) state.regKey3).2

variable {inputs : Nat → Input} {trace : Nat → State}

theorem avsReaddata_word (follows : Follows step inputs trace) (word : Fin 8)
    (cycle : Nat) :
    avsReaddata (wordAddress word) (trace cycle) =
      storedWord inputs (wordAddress word)
        (avsReaddata (wordAddress word) (trace 0)) cycle := by
  induction cycle with
  | zero => rfl
  | succ cycle ih => rw [follows, avsReaddata_step, ih, storedWord]

theorem regDecrypt_eq (follows : Follows step inputs trace) (cycle : Nat) :
    (trace cycle).regDecrypt =
      storedMode inputs (trace 0).regDecrypt cycle := by
  induction cycle with
  | zero => rfl
  | succ cycle ih =>
      rw [follows, storedMode, ← ih]
      unfold step
      split <;> rfl

theorem regValidIn_eq (follows : Follows step inputs trace) (cycle : Nat) :
    (trace cycle).regValidIn = pulsed inputs (trace 0).regValidIn cycle := by
  cases cycle with
  | zero => rfl
  | succ cycle =>
      rw [follows, pulsed]
      cases reset : (inputs cycle).reset with
      | true =>
          rw [step_of_reset reset]
          rfl
      | false =>
          rw [step_of_low reset, regValidIn_clocked]
          rfl

/-- In every run the block and the keys read back as they were last written,
the control word as its mode and its pulse, and the addresses without a
register as zero, whatever was started, completed or reset. -/
theorem reads_registers (initial : State) (inputs : Nat → Input)
    (cycle : Nat) :
    (∀ word : Fin 8,
        avsReaddata (wordAddress word) (run step inputs initial cycle) =
          storedWord inputs (wordAddress word)
            (avsReaddata (wordAddress word) initial) cycle) ∧
      avsReaddata 0x8 (run step inputs initial cycle) =
        0#30 ++ BitVec.ofBool (storedMode inputs initial.regDecrypt cycle) ++
          BitVec.ofBool (pulsed inputs initial.regValidIn cycle) ∧
      ∀ beyond : Fin 4,
        avsReaddata (.ofNat 4 (12 + beyond)) (run step inputs initial cycle) =
          0 := by
  have follows := run_follows step inputs initial
  refine ⟨fun word => avsReaddata_word follows word cycle, ?_, ?_⟩
  · change 0#30 ++ BitVec.ofBool (run step inputs initial cycle).regDecrypt ++
      BitVec.ofBool (run step inputs initial cycle).regValidIn = _
    rw [regDecrypt_eq follows, regValidIn_eq follows]
    rfl
  · intro beyond
    match beyond with
    | 0 | 1 | 2 | 3 => rfl

end Memory

section Completions

/-- A start that no reset has met for 58 cycles. -/
def CompletesStart (inputs : Nat → Input) (cycle : Nat) : Prop :=
  DelayLine.Accepted 58 (fun cycle => (inputs cycle).reset)
    (fun cycle => (inputs cycle).starts) cycle

/-- A bit that the last reset found in the input buffer of a stage and that
has passed the rest of the pipeline since. -/
def CompletesGhost (initial : State) (inputs : Nat → Input) (cycle : Nat) :
    Prop :=
  ∃ (stage : Fin 3) (found : Nat), found + (57 - 19 * stage) = cycle ∧
    (inputs found).reset = true ∧
    (∀ between, found < between → between < cycle →
      (inputs between).reset = false) ∧
    ((run step inputs initial found).uDes3.stage stage).vBuf = true

/-- The completions that the bridge reports. -/
def Completes (initial : State) (inputs : Nat → Input) (cycle : Nat) : Prop :=
  CompletesStart inputs cycle ∨ CompletesGhost initial inputs cycle

/-- No reset comes from a cycle on up to another one. -/
def Quiet (inputs : Nat → Input) (first cycle : Nat) : Prop :=
  ∀ between, first ≤ between → between < cycle →
    (inputs between).reset = false

theorem stranded_iff_ghost (initial : State) (inputs : Nat → Input)
    (cycle : Nat) :
    DelayLine.Stranded 58
        (fun position =>
          if position < 1 then false else Des3.bufferCell (position - 1))
        (fun cycle => (inputs cycle).reset)
        (fun cycle => (run step inputs initial cycle).validCell) cycle ↔
      CompletesGhost initial inputs cycle := by
  have buffer (stage : Fin 3) (found : Nat) :
      (run step inputs initial found).validCell (19 * stage + 1) =
        ((run step inputs initial found).uDes3.stage stage).vBuf :=
    Des3.validCell_stage (run step inputs initial found).uDes3 stage
      (by omega : 0 < 19)
  constructor
  · rintro ⟨position, found, bound, reaches, high, low, kept, set⟩
    cases position with
    | zero => contradiction
    | succ position =>
        obtain ⟨stage, rfl⟩ :=
          (Des3.bufferCell_iff (by omega : position < 57)).mp kept
        exact ⟨stage, found, by omega, high, low,
          (buffer stage found).symm.trans set⟩
  · rintro ⟨stage, found, reaches, high, low, set⟩
    have bound : 19 * (stage : Nat) < 57 := by omega
    exact ⟨19 * stage + 1, found, by omega, by omega, high, low,
      (Des3.bufferCell_iff bound).mpr ⟨stage, rfl⟩,
      (buffer stage found).trans set⟩

section Runs

variable {initial : State} {inputs : Nat → Input}
  (begins : (inputs 0).reset = true)
include begins

theorem loads_iff_completes {cycle : Nat} (later : 0 < cycle)
    (low : (inputs cycle).reset = false) :
    loads (inputs cycle) (run step inputs initial cycle) = true ↔
      Completes initial inputs cycle := by
  have shown := (validLine (run_follows step inputs initial)).output_iff
    (by omega) begins later
  simp only [show 58 - 1 = 57 from rfl, validCell_last] at shown
  rw [loads, low, Bool.not_false, Bool.true_and, shown, stranded_iff_ghost]
  rfl

theorem exists_lastReset {cycle : Nat} (later : 0 < cycle) :
    ∃ last < cycle, (inputs last).reset = true ∧
      Quiet inputs (last + 1) cycle := by
  obtain ⟨last, -, before, high, low⟩ :=
    Events.exists_last_before (fun cycle => (inputs cycle).reset) begins later
  exact ⟨last, before, high, fun between after upTo =>
    low between after upTo⟩

omit begins in
theorem lt_of_quiet {last cycle completed : Nat} (before : last < cycle)
    (high : (inputs last).reset = true) (quiet : Quiet inputs completed cycle) :
    last < completed := by
  by_contra early
  rw [quiet last (by omega) before] at high
  contradiction

theorem status_iff {cycle : Nat} (later : 0 < cycle) :
    avsReaddata 0xB (run step inputs initial cycle) = 1 ↔
      ∃ completed < cycle, Quiet inputs completed cycle ∧
        Completes initial inputs completed := by
  have flag : avsReaddata 0xB (run step inputs initial cycle) = 1 ↔
      (run step inputs initial cycle).regValidOut = true := by
    cases set : (run step inputs initial cycle).regValidOut <;>
      simp [avsReaddata, set]
  obtain ⟨last, before, high, low⟩ := exists_lastReset begins later
  have clear : (run step inputs initial (last + 1)).regValidOut = false := by
    rw [run, step_of_reset high]
    rfl
  rw [flag, regValidOut_iff (run_follows step inputs initial) low clear before]
  constructor
  · rintro ⟨completed, after, isBefore, loading⟩
    refine ⟨completed, isBefore, fun between from_ upTo =>
      low between (by omega) upTo, ?_⟩
    exact (loads_iff_completes begins (by omega)
      (low completed after isBefore)).mp loading
  · rintro ⟨completed, isBefore, quiet, completes⟩
    have after := lt_of_quiet before high quiet
    exact ⟨completed, after, isBefore,
      (loads_iff_completes begins (by omega)
        (quiet completed (Nat.le_refl completed) isBefore)).mpr completes⟩

/-- The result register holds the block that completed last, and zero before
any has completed. -/
theorem regOdata_of_completes {completed cycle : Nat}
    (before : completed < cycle) (quiet : Quiet inputs completed cycle)
    (completes : Completes initial inputs completed)
    (none : ∀ between, completed < between → between < cycle →
      ¬ Completes initial inputs between) :
    (run step inputs initial cycle).regOdata =
      (run step inputs initial completed).uDes3.odata := by
  obtain ⟨last, lastBefore, high, low⟩ :=
    exists_lastReset begins (by omega : 0 < cycle)
  have after := lt_of_quiet lastBefore high quiet
  refine regOdata_of_lastLoad (run_follows step inputs initial) low after
    ⟨before, ?_, ?_⟩
  · exact (loads_iff_completes begins (by omega)
      (quiet completed (Nat.le_refl completed) before)).mpr completes
  · intro between later upTo
    rw [Bool.eq_false_iff]
    intro loading
    exact none between later upTo ((loads_iff_completes begins (by omega)
      (quiet between (by omega) upTo)).mp loading)

theorem regOdata_of_status {cycle : Nat} (later : 0 < cycle)
    (unset : avsReaddata 0xB (run step inputs initial cycle) ≠ 1) :
    (run step inputs initial cycle).regOdata = 0 := by
  obtain ⟨last, before, high, low⟩ := exists_lastReset begins later
  have clear : (run step inputs initial (last + 1)).regOdata = 0 := by
    rw [run, step_of_reset high]
    rfl
  have latches : Events.Latches (last + 1) cycle
      (fun cycle => loads (inputs cycle) (run step inputs initial cycle))
      (fun cycle => (run step inputs initial cycle).uDes3.odata)
      (fun cycle => (run step inputs initial cycle).regOdata) :=
    fun cycle after before =>
      regOdata_succ (run_follows step inputs initial) (low cycle after before)
  refine (latches.hold (Nat.le_refl _) before (Nat.le_refl cycle) ?_).trans
    clear
  intro between after upTo
  rw [Bool.eq_false_iff]
  intro loading
  refine unset ((status_iff begins later).mpr ⟨between, upTo,
    fun again from_ upTo => low again (by omega) upTo, ?_⟩)
  exact (loads_iff_completes begins (by omega) (low between after upTo)).mp
    loading

end Runs

/-- What the bus reads of results, told from the history of the bus. -/
structure ReportsCompletions (initial : State) (inputs : Nat → Input) :
    Prop where
  status : ∀ cycle, 0 < cycle →
    (avsReaddata 0xB (run step inputs initial cycle) = 1 ↔
      ∃ completed < cycle, Quiet inputs completed cycle ∧
        Completes initial inputs completed)
  empty : ∀ cycle, 0 < cycle →
    avsReaddata 0xB (run step inputs initial cycle) ≠ 1 →
      (run step inputs initial cycle).regOdata = 0
  result : ∀ completed cycle, completed < cycle →
    Quiet inputs completed cycle → Completes initial inputs completed →
    (∀ between, completed < between → between < cycle →
      ¬ Completes initial inputs between) →
    (run step inputs initial cycle).regOdata =
      (run step inputs initial completed).uDes3.odata
  value : ∀ start, (inputs start).starts = true →
    Quiet inputs start (start + 58) →
    (run step inputs initial (start + 58)).uDes3.odata =
      Des3.cascade
        (Des3.sampledKeys (ports inputs (run step inputs initial))
          (start + 1))
        (storedWord inputs 0x1 (highWord initial.regIdata) start ++
          storedWord inputs 0x0 (lowWord initial.regIdata) start)

/-- In every run that begins with a reset, and whatever further resets come,
status and result tell of the last completion since the last reset: of a start
that met no reset for 58 cycles, or of a bit that the last reset left in one of
the three input buffers. -/
theorem reportsCompletions (initial : State) (inputs : Nat → Input)
    (begins : (inputs 0).reset = true) :
    ReportsCompletions initial inputs where
  status _ later := status_iff begins later
  empty _ later unset := regOdata_of_status begins later unset
  result _ _ before quiet completes none :=
    regOdata_of_completes begins before quiet completes none
  value start starts quiet := by
    have follows := run_follows step inputs initial
    have block : (run step inputs initial start).regIdata =
        storedWord inputs 0x1 (highWord initial.regIdata) start ++
          storedWord inputs 0x0 (lowWord initial.regIdata) start := by
      rw [← highWord_append_lowWord (run step inputs initial start).regIdata]
      exact congrArg₂ (fun (upper lower : BitVec 32) => upper ++ lower)
        (avsReaddata_word follows 1 start) (avsReaddata_word follows 0 start)
    rw [odata_of_starts follows (fun cycle after before =>
        quiet cycle after (by omega)),
      ports_idata_of_starts follows
        (quiet start (Nat.le_refl start) (by omega)) starts, block]

theorem reportsCompletions_overlappingRead :
    ReportsCompletions default overlappingRead :=
  reportsCompletions default overlappingRead rfl

end Completions

end Des3Avalon

end TripleDes
