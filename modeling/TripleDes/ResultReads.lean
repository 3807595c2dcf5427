import TripleDes.InFlight

/-!
# Reading the result

The bus reads the 64-bit result register in two accesses, while the pipeline
goes on loading it.  Each of the two words belongs to the last block that was
completed before its own access.
-/

namespace TripleDes

open Clocked

namespace Des3Avalon

/-- A read access to the given address takes place. -/
def Input.reads (input : Input) (address : BitVec 4) : Bool :=
  !input.avsWrite && input.avsAddress == address

/-- The word on `avs_readdata` in a cycle. -/
def readdata (inputs : Nat → Input) (trace : Nat → State) (cycle : Nat) :
    BitVec 32 :=
  avsReaddata (inputs cycle).avsAddress (trace cycle)

/-- The read order of `main.c`: the status reads as one, then the low and then
the high word of the result are read. -/
structure ResultRead (inputs : Nat → Input) (trace : Nat → State)
    (status low high : Nat) : Prop where
  status_reads : (inputs status).reads 0xB = true
  low_reads : (inputs low).reads 0x9 = true
  high_reads : (inputs high).reads 0xA = true
  set : readdata inputs trace status = 1
  low_later : status < low
  high_later : low < high

/-- The two words that a client reads are the halves of one block's
output. -/
def ReadsWholeResults (inputs : Nat → Input) (trace : Nat → State) : Prop :=
  ∀ status low high, ResultRead inputs trace status low high →
    ∃ completed, completed < high ∧
      loads (inputs completed) (trace completed) = true ∧
      readdata inputs trace low = lowWord (trace completed).uDes3.odata ∧
      readdata inputs trace high = highWord (trace completed).uDes3.odata

/-- `completed` is the last load before a cycle. -/
def LastLoad (inputs : Nat → Input) (trace : Nat → State)
    (completed cycle : Nat) : Prop :=
  completed < cycle ∧ loads (inputs completed) (trace completed) = true ∧
    ∀ between, completed < between → between < cycle →
      loads (inputs between) (trace between) = false

theorem LastLoad.eq {inputs : Nat → Input} {trace : Nat → State}
    {first second cycle : Nat} (isFirst : LastLoad inputs trace first cycle)
    (isSecond : LastLoad inputs trace second cycle) : first = second := by
  obtain ⟨firstBefore, firstLoads, firstLast⟩ := isFirst
  obtain ⟨secondBefore, secondLoads, secondLast⟩ := isSecond
  rcases Nat.lt_trichotomy first second with less | same | more
  · rw [firstLast second less secondBefore] at secondLoads
    contradiction
  · exact same
  · rw [secondLast first more firstBefore] at firstLoads
    contradiction

theorem exists_lastLoad {inputs : Nat → Input} {trace : Nat → State}
    {completed cycle : Nat} (before : completed < cycle)
    (loading : loads (inputs completed) (trace completed) = true) :
    ∃ latest, completed ≤ latest ∧ LastLoad inputs trace latest cycle := by
  obtain ⟨latest, after, isBefore, loading, none⟩ :=
    Events.exists_last_before
      (fun cycle => loads (inputs cycle) (trace cycle)) loading before
  exact ⟨latest, after, isBefore, loading, none⟩

theorem readdata_low {inputs : Nat → Input} {cycle : Nat}
    (reads : (inputs cycle).reads 0x9 = true) (trace : Nat → State) :
    readdata inputs trace cycle = lowWord (trace cycle).regOdata := by
  simp only [Input.reads, Bool.and_eq_true, beq_iff_eq] at reads
  rw [readdata, reads.2]
  rfl

theorem readdata_high {inputs : Nat → Input} {cycle : Nat}
    (reads : (inputs cycle).reads 0xA = true) (trace : Nat → State) :
    readdata inputs trace cycle = highWord (trace cycle).regOdata := by
  simp only [Input.reads, Bool.and_eq_true, beq_iff_eq] at reads
  rw [readdata, reads.2]
  rfl

theorem readdata_status {inputs : Nat → Input} {cycle : Nat}
    (reads : (inputs cycle).reads 0xB = true) (trace : Nat → State) :
    readdata inputs trace cycle = 1 ↔ (trace cycle).regValidOut = true := by
  simp only [Input.reads, Bool.and_eq_true, beq_iff_eq] at reads
  rw [readdata, reads.2]
  cases set : (trace cycle).regValidOut <;> simp [avsReaddata, set]

section Runs

variable {inputs : Nat → Input} {trace : Nat → State} {first last : Nat}
  (follows : Follows step inputs trace)
  (low : ∀ cycle, first ≤ cycle → cycle < last →
    (inputs cycle).reset = false)
include follows low

theorem regValidOut_iff (clear : (trace first).regValidOut = false)
    (later : first ≤ last) :
    (trace last).regValidOut = true ↔
      ∃ completed, first ≤ completed ∧ completed < last ∧
        loads (inputs completed) (trace completed) = true :=
  Events.flag_iff (fun cycle => (trace cycle).regValidOut) clear
    (fun between after before =>
      regValidOut_succ follows (low between after before)) later

/-- The result register shows the last completed block. -/
theorem regOdata_of_lastLoad {completed : Nat} (after : first ≤ completed)
    (isLast : LastLoad inputs trace completed last) :
    (trace last).regOdata = (trace completed).uDes3.odata := by
  obtain ⟨before, loading, none⟩ := isLast
  have latches : Events.Latches first last
      (fun cycle => loads (inputs cycle) (trace cycle))
      (fun cycle => (trace cycle).uDes3.odata)
      (fun cycle => (trace cycle).regOdata) :=
    fun cycle after before => regOdata_succ follows (low cycle after before)
  exact latches.shows after before (Nat.le_refl last) loading none

end Runs

namespace Session

variable {held : Nat} {initial : State} {inputs : Nat → Input}
  {trace : Nat → State} (session : Session held initial inputs)
  (follows : Follows step inputs trace) (begins : trace 0 = initial)
include session follows begins

theorem regValidOut_iff {cycle : Nat} (after : held ≤ cycle) :
    (trace cycle).regValidOut = true ↔
      ∃ start, held ≤ start ∧ start + 58 < cycle ∧
        (inputs start).starts = true := by
  rw [Des3Avalon.regValidOut_iff follows
    (fun between from_ _ => session.low between from_)
    (session.released follows begins).regValidOut after]
  constructor
  · rintro ⟨completed, -, before, loading⟩
    obtain ⟨start, rfl, released, starts⟩ :=
      (session.loads_iff follows begins completed).mp loading
    exact ⟨start, released, before, starts⟩
  · rintro ⟨start, released, before, starts⟩
    exact ⟨start + 58, by omega, before,
      (session.loads_iff follows begins _).mpr ⟨start, rfl, released, starts⟩⟩

theorem lastLoad_of_starts {start cycle : Nat} (released : held ≤ start)
    (starts : (inputs start).starts = true) (before : start + 58 < cycle)
    (last : ∀ later, start < later → later + 58 < cycle →
      (inputs later).starts = false) :
    LastLoad inputs trace (start + 58) cycle := by
  refine ⟨before, (session.loads_iff follows begins _).mpr
    ⟨start, rfl, released, starts⟩, ?_⟩
  intro between after isBefore
  rw [Bool.eq_false_iff]
  intro loading
  obtain ⟨later, rfl, -, again⟩ :=
    (session.loads_iff follows begins between).mp loading
  rw [last later (by omega) isBefore] at again
  contradiction

/-- The result register shows the block of the last start that has
completed. -/
theorem regOdata_of_lastStart {start cycle : Nat} (released : held ≤ start)
    (starts : (inputs start).starts = true) (before : start + 58 < cycle)
    (last : ∀ later, start < later → later + 58 < cycle →
      (inputs later).starts = false) :
    (trace cycle).regOdata = (trace (start + 58)).uDes3.odata :=
  regOdata_of_lastLoad follows (fun between after _ => session.low between after)
    (by omega : held ≤ start + 58)
    (session.lastLoad_of_starts follows begins released starts before last)

end Session

/-- After a reset, the two words that a client reads are the low half of the
output of the last block completed before the first of the two reads and the
high half of the output of the last one completed before the second.  They
are halves of one output if no block completes in between. -/
theorem readdata_of_resultRead (initial : State) (inputs : Nat → Input)
    (first status low high : Nat)
    (reset : (inputs first).reset = true)
    (released : ∀ cycle, first < cycle → cycle < high →
      (inputs cycle).reset = false)
    (later : first < status)
    (read : ResultRead inputs (run step inputs initial) status low high) :
    ∃ lowBlock highBlock,
      LastLoad inputs (run step inputs initial) lowBlock low ∧
      LastLoad inputs (run step inputs initial) highBlock high ∧
      readdata inputs (run step inputs initial) low =
        lowWord (run step inputs initial lowBlock).uDes3.odata ∧
      readdata inputs (run step inputs initial) high =
        highWord (run step inputs initial highBlock).uDes3.odata ∧
      ((∀ cycle, low ≤ cycle → cycle < high →
          loads (inputs cycle) (run step inputs initial cycle) = false) →
        lowBlock = highBlock) := by
  have follows := run_follows step inputs initial
  have statusBefore := read.low_later
  have lowBefore := read.high_later
  have clear : (run step inputs initial (first + 1)).regValidOut = false := by
    rw [follows, step_of_reset reset]
    rfl
  obtain ⟨completed, after, before, loading⟩ :=
    (regValidOut_iff follows
      (fun cycle _ _ => released cycle (by omega) (by omega)) clear later).mp
      ((readdata_status read.status_reads _).mp read.set)
  obtain ⟨lowBlock, lowAfter, lowLast⟩ :=
    exists_lastLoad (by omega : completed < low) loading
  obtain ⟨highBlock, highAfter, highLast⟩ :=
    exists_lastLoad (by omega : completed < high) loading
  refine ⟨lowBlock, highBlock, lowLast, highLast, ?_, ?_, ?_⟩
  · rw [readdata_low read.low_reads, regOdata_of_lastLoad follows
      (fun cycle _ _ => released cycle (by omega) (by omega))
      (by omega : first + 1 ≤ lowBlock) lowLast]
  · rw [readdata_high read.high_reads, regOdata_of_lastLoad follows
      (fun cycle _ _ => released cycle (by omega) (by omega))
      (by omega : first + 1 ≤ highBlock) highLast]
  · intro quiet
    -- the last load before the first read is still the last one at the second
    refine LastLoad.eq ⟨?_, lowLast.2.1, ?_⟩ highLast
    · exact Nat.lt_trans lowLast.1 lowBefore
    · intro between after before
      rcases Nat.lt_or_ge between low with early | late
      · exact lowLast.2.2 between after early
      · exact quiet between late before

/-- Two blocks are started in cycles 1 and 3, the second in a changed block
register, and the result is read from cycle 60 on. -/
def overlappingRead (cycle : Nat) : Input where
  reset := cycle == 0
  avsAddress :=
    match cycle with
    | 1 | 3 => 0x8
    | 61 => 0x9
    | 62 => 0xA
    | 60 => 0xB
    | _ => 0x0
  avsWrite := cycle == 1 || cycle == 2 || cycle == 3
  avsWritedata := 1

theorem session_overlappingRead : Session 1 default overlappingRead :=
  .of_first drained_default fun _ => rfl

theorem settings_overlappingRead {cycle : Nat} (after : 1 ≤ cycle) :
    (run step overlappingRead default cycle).settings =
      { idata := if cycle < 3 then 0 else 1
        key1 := 0
        key2 := 0
        key3 := 0
        decrypt := false } := by
  induction cycle, after using Nat.le_induction with
  | base => rfl
  | succ cycle after ih =>
      rw [run_follows, step_of_low (session_overlappingRead.low cycle after),
        settings_clocked, ih]
      rcases Nat.lt_or_ge cycle 4 with early | late
      · obtain rfl | rfl | rfl : cycle = 1 ∨ cycle = 2 ∨ cycle = 3 := by omega
        all_goals rfl
      · have idle : (overlappingRead cycle).avsWrite = false := by
          simp [overlappingRead]
          omega
        rw [Settings.after_of_no_write idle]
        simp [show ¬ cycle < 3 by omega, show ¬ cycle + 1 < 3 by omega]

theorem loads_overlappingRead (cycle : Nat) :
    loads (overlappingRead cycle) (run step overlappingRead default cycle) =
        true ↔ cycle = 59 ∨ cycle = 61 := by
  rw [session_overlappingRead.loads_iff (run_follows _ _ _) rfl]
  constructor
  · rintro ⟨start, rfl, released, starts⟩
    by_contra other
    have first : start ≠ 1 := by omega
    have third : start ≠ 3 := by omega
    by_cases second : start = 2
    · subst second
      contradiction
    · simp [Input.starts, Input.writes, overlappingRead, first, second,
        third] at starts
  · rintro (rfl | rfl)
    · exact ⟨1, rfl, by omega, rfl⟩
    · exact ⟨3, rfl, by omega, rfl⟩

theorem resultRead_overlappingRead :
    ResultRead overlappingRead (run step overlappingRead default) 60 61
      62 where
  status_reads := rfl
  low_reads := rfl
  high_reads := rfl
  set := by
    refine (readdata_status rfl _).mpr ?_
    rw [regValidOut_succ (run_follows step overlappingRead default)
        (session_overlappingRead.low 59 (by omega)),
      (loads_overlappingRead 59).mpr (.inl rfl)]
    rfl
  low_later := by omega
  high_later := by omega

theorem readdata_of_resultRead_overlapping :
    ∃ lowBlock highBlock,
      LastLoad overlappingRead (run step overlappingRead default) lowBlock
        61 ∧
      LastLoad overlappingRead (run step overlappingRead default) highBlock
        62 ∧
      readdata overlappingRead (run step overlappingRead default) 61 =
        lowWord (run step overlappingRead default lowBlock).uDes3.odata ∧
      readdata overlappingRead (run step overlappingRead default) 62 =
        highWord (run step overlappingRead default highBlock).uDes3.odata := by
  obtain ⟨lowBlock, highBlock, lowLast, highLast, lower, upper, -⟩ :=
    readdata_of_resultRead default overlappingRead 0 60 61 62 rfl
      (fun cycle after _ => session_overlappingRead.low cycle after)
      (by omega) resultRead_overlappingRead
  exact ⟨lowBlock, highBlock, lowLast, highLast, lower, upper⟩

theorem odata_overlappingRead {start : Nat} (after : 1 ≤ start)
    (starts : (overlappingRead start).starts = true) :
    (run step overlappingRead default (start + 58)).uDes3.odata =
      Standard.tdes false 0 0 0 (if start < 3 then 0 else 1) := by
  have held : Des3.Held
      (ports overlappingRead (run step overlappingRead default)) (start + 1)
      false 0 0 0 := fun cycle _ _ => by
    have now := settings_overlappingRead (by omega : 1 ≤ cycle)
    exact ⟨congrArg Settings.decrypt now, congrArg Settings.key1 now,
      congrArg Settings.key2 now, congrArg Settings.key3 now⟩
  rw [odata_of_sampled (run_follows step overlappingRead default)
    (fun cycle _ _ => session_overlappingRead.low cycle (by omega)) starts
    held.sampled]
  exact congrArg _ (congrArg Settings.idata (settings_overlappingRead after))

/-- The second block is loaded between the two reads, which therefore return
halves of different results. -/
theorem not_readsWholeResults_overlappingRead :
    Session 1 default overlappingRead ∧
      ¬ ReadsWholeResults overlappingRead
        (run step overlappingRead default) := by
  refine ⟨session_overlappingRead, fun whole => ?_⟩
  have follows := run_follows step overlappingRead default
  have loads_at := loads_overlappingRead
  have quiet {cycle : Nat} (other : cycle ≠ 59 ∧ cycle ≠ 61) :
      loads (overlappingRead cycle)
        (run step overlappingRead default cycle) = false := by
    rw [Bool.eq_false_iff]
    intro loading
    rcases (loads_at cycle).mp loading with same | same
    · exact other.1 same
    · exact other.2 same
  have low (last cycle : Nat) (after : 1 ≤ cycle) (_ : cycle < last) :
      (overlappingRead cycle).reset = false :=
    session_overlappingRead.low cycle after
  obtain ⟨completed, before, loading, lower, upper⟩ :=
    whole 60 61 62 resultRead_overlappingRead
  have lowBlock : LastLoad overlappingRead
      (run step overlappingRead default) 59 61 :=
    ⟨by omega, (loads_at 59).mpr (.inl rfl), fun between _ _ =>
      quiet ⟨by omega, by omega⟩⟩
  have highBlock : LastLoad overlappingRead
      (run step overlappingRead default) 61 62 :=
    ⟨by omega, (loads_at 61).mpr (.inr rfl), fun between _ _ =>
      quiet ⟨by omega, by omega⟩⟩
  rw [readdata_low rfl, regOdata_of_lastLoad follows (low 61) (by omega)
    lowBlock] at lower
  rw [readdata_high rfl, regOdata_of_lastLoad follows (low 62) (by omega)
    highBlock] at upper
  have first : (run step overlappingRead default 59).uDes3.odata =
      Standard.tdes false 0 0 0 0 :=
    odata_overlappingRead (Nat.le_refl 1) rfl
  have second : (run step overlappingRead default 61).uDes3.odata =
      Standard.tdes false 0 0 0 1 :=
    odata_overlappingRead (by omega : 1 ≤ 3) rfl
  have differ : lowWord (Standard.tdes false 0 0 0 0) ≠
        lowWord (Standard.tdes false 0 0 0 1) ∧
      highWord (Standard.tdes false 0 0 0 1) ≠
        highWord (Standard.tdes false 0 0 0 0) := by
    decide +kernel
  rcases (loads_at completed).mp loading with rfl | rfl
  · exact differ.2 (by rw [← second, upper, ← first])
  · exact differ.1 (by rw [← second, ← lower, ← first])

end Des3Avalon

end TripleDes
