import TripleDes.Agreement
import TripleDes.ValidChain

/-!
# Streaming through the cascade

One block enters the cascade in every cycle and leaves it 57 cycles later.
What it has become depends on forty-eight samples of the key and mode ports,
and on nothing else; when these samples agree with one key triple and one
mode, it is the published cipher of the block.
-/

namespace TripleDes

open Clocked

namespace Des3

theorem cascade_eq_tdes {mode : Bool} {key1 key2 key3 : BitVec 64}
    {roundKeys : Fin 3 → Fin 16 → BitVec 48}
    (first : ∀ round, roundKeys 0 round =
      keyScheduler round (if mode then key3 else key1) mode)
    (second : ∀ round, roundKeys 1 round =
      keyScheduler round key2 (!mode))
    (third : ∀ round, roundKeys 2 round =
      keyScheduler round (if mode then key1 else key3) mode)
    (block : BitVec 64) :
    cascade roundKeys block = Standard.tdes mode key1 key2 key3 block := by
  rw [cascade, funext first, funext second, funext third, core_eq_keyed,
    core_eq_keyed, core_eq_keyed, tdes_eq_keyed]

/-- The stimulus of `des3_pipeline_tb.v` after its reset: four blocks in four
consecutive cycles under fixed keys. -/
def pipelineBench (cycle : Nat) : Input where
  reset := false
  idata :=
    match cycle with
    | 0 => 0x35A2F80F51564C52
    | 1 => 0x0123456789ABCDEF
    | 2 => 0xFEDCBA9876543210
    | 3 => 0xAABBCCDDEEFF0011
    | _ => 0
  key1 := 0x576D5A24D0E7493A
  key2 := 0x4F3FC2A81707AC64
  key3 := 0x6F295595C05ED7FB
  decrypt := false
  validIn := cycle < 4

/-- The output of the cascade is its three-stage, sixteen-round computation
on one sampled block under forty-eight samples of the keys and the mode; runs
that agree on these agree on the output. -/
theorem odata_depends_on_samples (initial : State) (inputs : Nat → Input)
    (start : Nat)
    (low : Throughout start (start + 56) fun cycle =>
      (inputs cycle).reset = false) :
    (run step inputs initial (start + 57)).odata =
        cascade
          (fun stage round => roundKey round
            (stageKey stage (inputs (start + 19 * stage + 1 + round))))
          (inputs start).idata ∧
      ∀ (initial' : State) (inputs' : Nat → Input) (start' : Nat),
        (Throughout start' (start' + 56) fun cycle =>
          (inputs' cycle).reset = false) →
        (inputs' start').idata = (inputs start).idata →
        (∀ (stage : Fin 3) (round : Fin 16),
          stageKey stage (inputs' (start' + 19 * stage + 1 + round)) =
            stageKey stage (inputs (start + 19 * stage + 1 + round))) →
        (run step inputs' initial' (start' + 57)).odata =
          (run step inputs initial (start + 57)).odata := by
  have output := odata_of_idata (run_follows step inputs initial) low
  refine ⟨output, ?_⟩
  intro initial' inputs' start' low' sameBlock sameSamples
  have keys : sampledKeys inputs' start' = sampledKeys inputs start := by
    funext stage round
    exact congrArg (roundKey round) (sameSamples stage round)
  rw [odata_of_idata (run_follows step inputs' initial') low', output,
    sameBlock, keys]

theorem odata_depends_on_samples_bench :
    (run step (fun cycle => pipelineBench (cycle - 1)) default 58).odata =
      (run step pipelineBench default 57).odata :=
  (odata_depends_on_samples default pipelineBench 0 fun _ _ _ => rfl).2
    default (fun cycle => pipelineBench (cycle - 1)) 1 (fun _ _ _ => rfl) rfl
    fun stage _ => by match stage with | 0 | 1 | 2 => rfl

/-- The samples taken by a block agree with a mode and with the keys that the
mode selects for each stage. -/
structure Sampled (inputs : Nat → Input) (start : Nat) (mode : Bool)
    (key1 key2 key3 : BitVec 64) : Prop where
  first : Throughout (start + 1) (start + 16) fun cycle =>
    (inputs cycle).decrypt = mode ∧
      if mode then (inputs cycle).key3 = key3 else (inputs cycle).key1 = key1
  second : Throughout (start + 20) (start + 35) fun cycle =>
    (inputs cycle).decrypt = mode ∧ (inputs cycle).key2 = key2
  third : Throughout (start + 39) (start + 54) fun cycle =>
    (inputs cycle).decrypt = mode ∧
      if mode then (inputs cycle).key1 = key1 else (inputs cycle).key3 = key3

/-- A block whose samples agree with one mode and one key triple leaves the
cascade as the published cipher of that mode. -/
theorem odata_of_sampled {inputs : Nat → Input} {trace : Nat → State}
    {start : Nat} {mode : Bool} {key1 key2 key3 : BitVec 64}
    (follows : Follows step inputs trace)
    (low : Throughout start (start + 56) fun cycle =>
      (inputs cycle).reset = false)
    (sampled : Sampled inputs start mode key1 key2 key3) :
    (trace (start + 57)).odata =
      Standard.tdes mode key1 key2 key3 (inputs start).idata := by
  have position (stage : Fin 3) (round : Fin 16) :
      sampleCycle start stage round = start + 19 * stage + 1 + round := rfl
  rw [odata_of_idata follows low]
  apply cascade_eq_tdes
  · intro round
    obtain ⟨direction, key⟩ := sampled.first (sampleCycle start 0 round)
      (by simp [position]) (by simp [position]; omega)
    cases mode <;> simp_all [sampledKeys, roundKey, stageKey, stage1Key]
  · intro round
    obtain ⟨direction, key⟩ := sampled.second (sampleCycle start 1 round)
      (by simp [position]) (by simp [position]; omega)
    simp [sampledKeys, roundKey, stageKey, direction, key]
  · intro round
    obtain ⟨direction, key⟩ := sampled.third (sampleCycle start 2 round)
      (by simp [position]) (by simp [position]; omega)
    cases mode <;> simp_all [sampledKeys, roundKey, stageKey, stage3Key]

theorem validOut_of_low {inputs : Nat → Input} {trace : Nat → State}
    {start : Nat} (follows : Follows step inputs trace)
    (low : Throughout start (start + 56) fun cycle =>
      (inputs cycle).reset = false) :
    (trace (start + 57)).validOut = (inputs start).validIn := by
  rw [← validCell_last]
  exact (validLine follows).arrival start 56
    (fun cycle after before => low cycle after (by omega)) (by omega)

/-- Streaming correctness: whatever the neighbouring blocks are, the block
sampled in cycle `start` and its valid bit come out 57 cycles later, the block
as the published cipher of the sampled mode. -/
theorem streaming_correct (initial : State) (inputs : Nat → Input)
    (start : Nat) (mode : Bool) (key1 key2 key3 : BitVec 64)
    (low : Throughout start (start + 56) fun cycle =>
      (inputs cycle).reset = false)
    (sampled : Sampled inputs start mode key1 key2 key3) :
    (run step inputs initial (start + 57)).odata =
        Standard.tdes mode key1 key2 key3 (inputs start).idata ∧
      (run step inputs initial (start + 57)).validOut =
        (inputs start).validIn :=
  ⟨odata_of_sampled (run_follows step inputs initial) low sampled,
    validOut_of_low (run_follows step inputs initial) low⟩

theorem streaming_correct_bench :
    (run step pipelineBench default 57).odata = 0xAE32960F482A7362 ∧
      (run step pipelineBench default 57).validOut = true := by
  have encrypted : Standard.tdes false 0x576D5A24D0E7493A 0x4F3FC2A81707AC64
      0x6F295595C05ED7FB 0x35A2F80F51564C52 = 0xAE32960F482A7362 := by
    decide +kernel
  obtain ⟨output, valid⟩ := streaming_correct default pipelineBench 0 false
    0x576D5A24D0E7493A 0x4F3FC2A81707AC64 0x6F295595C05ED7FB
    (fun _ _ _ => rfl)
    ⟨fun _ _ _ => ⟨rfl, rfl⟩, fun _ _ _ => ⟨rfl, rfl⟩,
      fun _ _ _ => ⟨rfl, rfl⟩⟩
  exact ⟨output.trans encrypted, valid⟩

/-- Mode and keys are held while a block is in the cascade. -/
def Held (inputs : Nat → Input) (start : Nat) (mode : Bool)
    (key1 key2 key3 : BitVec 64) : Prop :=
  Throughout (start + 1) (start + 54) fun cycle =>
    (inputs cycle).decrypt = mode ∧ (inputs cycle).key1 = key1 ∧
      (inputs cycle).key2 = key2 ∧ (inputs cycle).key3 = key3

theorem Held.sampled {inputs : Nat → Input} {start : Nat} {mode : Bool}
    {key1 key2 key3 : BitVec 64}
    (held : Held inputs start mode key1 key2 key3) :
    Sampled inputs start mode key1 key2 key3 where
  first cycle after before := by
    obtain ⟨direction, first, -, third⟩ :=
      held cycle (by omega) (by omega)
    exact ⟨direction, by cases mode <;> simp [first, third]⟩
  second cycle after before := by
    obtain ⟨direction, -, second, -⟩ := held cycle (by omega) (by omega)
    exact ⟨direction, second⟩
  third cycle after before := by
    obtain ⟨direction, first, -, third⟩ :=
      held cycle (by omega) (by omega)
    exact ⟨direction, by cases mode <;> simp [first, third]⟩

/-- A block that has passed the cascade in one mode and is sent through it
again in the other comes back, in the same run or in another. -/
theorem round_trip (initial initial' : State) (inputs inputs' : Nat → Input)
    (start start' : Nat) (mode : Bool) (key1 key2 key3 : BitVec 64)
    (low : Throughout start (start + 56) fun cycle =>
      (inputs cycle).reset = false)
    (low' : Throughout start' (start' + 56) fun cycle =>
      (inputs' cycle).reset = false)
    (held : Held inputs start mode key1 key2 key3)
    (held' : Held inputs' start' (!mode) key1 key2 key3)
    (returned : (inputs' start').idata =
      (run step inputs initial (start + 57)).odata) :
    (run step inputs' initial' (start' + 57)).odata =
      (inputs start).idata := by
  rw [odata_of_sampled (run_follows step inputs' initial') low' held'.sampled,
    returned,
    odata_of_sampled (run_follows step inputs initial) low held.sampled,
    tdes_not_tdes]

theorem round_trip_bench :
    (run step (fun cycle => { pipelineBench cycle with
        idata := (run step pipelineBench default 57).odata
        decrypt := true }) default 57).odata = 0x35A2F80F51564C52 :=
  round_trip default default pipelineBench _ 0 0 false 0x576D5A24D0E7493A
    0x4F3FC2A81707AC64 0x6F295595C05ED7FB (fun _ _ _ => rfl)
    (fun _ _ _ => rfl) (fun _ _ _ => ⟨rfl, rfl, rfl, rfl⟩)
    (fun _ _ _ => ⟨rfl, rfl, rfl, rfl⟩) rfl

end Des3

end TripleDes
