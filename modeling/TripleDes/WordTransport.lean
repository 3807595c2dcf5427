import TripleDes.Main

/-!
# Words between the driver and the bridge

`main.c` hands a 64-bit value to the bridge in two words and joins a result
from two words.  The written values arrive as they are.  The words read are
widened as the signed numbers that `IORD` returns, so that a set bit 31 of the
low word fills the upper half of the joined value with ones.
-/

namespace TripleDes

open Clocked BusMaster

namespace Main

section Join

-- What the conversions in the assignment to `odata` make of a result.

/-- `odata` after it has been joined from the two words of a result. -/
def joined (low high : BitVec 32) : BitVec 64 :=
  widened low ||| (widened high <<< 32)

theorem lowWord_widened (word : BitVec 32) : lowWord (widened word) = word := by
  apply BitVec.eq_of_getLsbD_eq
  intro position inside
  simp [lowWord, widened, BitVec.getElem_signExtend, inside,
    show position < 64 by omega]

/-- The upper half of a widened word repeats its sign. -/
theorem highWord_widened (word : BitVec 32) :
    highWord (widened word) =
      if word.msb then BitVec.allOnes 32 else 0 := by
  apply BitVec.eq_of_getLsbD_eq
  intro position inside
  have repeated : (highWord (widened word)).getLsbD position = word.msb := by
    simp [highWord, widened, BitVec.getElem_signExtend, inside,
      show 32 + position < 64 by omega, show ¬ 32 + position < 32 by omega]
  rw [repeated]
  cases word.msb with
  | false => rw [if_neg Bool.false_ne_true, BitVec.ofNat_eq_ofNat,
      BitVec.getLsbD_zero]
  | true => rw [if_pos rfl, BitVec.getLsbD_allOnes, decide_eq_true inside]

theorem lowWord_shifted (value : BitVec 64) : lowWord (value <<< 32) = 0 := by
  apply BitVec.eq_of_getLsbD_eq
  intro position inside
  simp [lowWord, inside]

theorem highWord_shifted (value : BitVec 64) :
    highWord (value <<< 32) = lowWord value := by
  apply BitVec.eq_of_getLsbD_eq
  intro position inside
  simp [highWord, lowWord, inside, show 32 + position < 64 by omega,
    show ¬ 32 + position < 32 by omega, show position < 64 by omega]

theorem lowWord_joined (low high : BitVec 32) :
    lowWord (joined low high) = low := by
  have words : lowWord (joined low high) =
      lowWord (widened low) ||| lowWord (widened high <<< 32) :=
    BitVec.extractLsb'_or
  rw [words, lowWord_widened, lowWord_shifted, BitVec.ofNat_eq_ofNat,
    BitVec.or_zero]

theorem highWord_joined (low high : BitVec 32) :
    highWord (joined low high) =
      (if low.msb then BitVec.allOnes 32 else 0) ||| high := by
  have words : highWord (joined low high) =
      highWord (widened low) ||| highWord (widened high <<< 32) :=
    BitVec.extractLsb'_or
  rw [words, highWord_widened, highWord_shifted, lowWord_widened]

/-- The join restores a result unless the sign of its low word spoils the high
word. -/
theorem joined_eq_iff (result : BitVec 64) :
    joined (lowWord result) (highWord result) = result ↔
      (result.getLsbD 31 = true → highWord result = BitVec.allOnes 32) := by
  have sign : (lowWord result).msb = result.getLsbD 31 := by
    simp [lowWord, BitVec.msb_eq_getLsbD_last]
  have words : joined (lowWord result) (highWord result) = result ↔
      highWord (joined (lowWord result) (highWord result)) =
        highWord result :=
    ⟨fun same => congrArg highWord same,
      eq_of_words (lowWord_joined _ _)⟩
  rw [words, highWord_joined, sign]
  cases set : result.getLsbD 31 with
  | false => simp
  | true =>
      rw [if_pos rfl, BitVec.allOnes_or]
      exact ⟨fun same _ => same.symm, fun ones => (ones rfl).symm⟩

end Join

open Des3Avalon (Settings)

/-- At a line the loop writes the low word of a value to the even address of a
register, and at the next line the high word to the odd address. -/
inductive Splits (constants : Constants) :
    Line → (Settings → BitVec 64) → BitVec 64 → Prop where
  | idata1 : Splits constants .idata1Lo Settings.idata constants.idata1
  | key1 : Splits constants .key1Lo Settings.key1 constants.key1
  | key2 : Splits constants .key2Lo Settings.key2 constants.key2
  | key3 : Splits constants .key3Lo Settings.key3 constants.key3
  | idata2 : Splits constants .idata2Lo Settings.idata constants.idata2

/-- No block completes between two accesses. -/
def Quiet (constants : Constants) (ticks : Nat → Tick)
    (trace : Nat → State Point) (first second : Nat) : Prop :=
  ∀ cycle, first ≤ cycle → cycle < second →
    Des3Avalon.loads (inputs (program constants) ticks trace cycle)
      (bridges trace cycle) = false

/-- Two accesses transport 64-bit words as they are: what they write is then
in the register, and what they read from the result register is handed to
`printf`. -/
structure Lossless (constants : Constants) (ticks : Nat → Tick)
    (trace : Nat → State Point) (first second : Nat) : Prop where
  writes : ∀ register value,
    Splits constants (trace first).point.line register value →
    register (bridges trace (second + 1)).settings = value
  hands : (trace first).point.line = .odataLo →
    Quiet constants ticks trace first second →
    (trace (second + 1)).point.handed =
      (trace first).point.handed ++ [(bridges trace first).regOdata]

/-- Writing the low half of a value and then its high half leaves the
value. -/
theorem written_halves {lowAddress highAddress : BitVec 4}
    (differ : lowAddress ≠ highAddress) (value old : BitVec 64) :
    Des3Avalon.written ⟨false, highAddress, true, highHalf value⟩ lowAddress
        highAddress
        (Des3Avalon.written ⟨false, lowAddress, true, lowHalf value⟩ lowAddress
          highAddress old) = value := by
  have missed : (highAddress == lowAddress) = false :=
    beq_false_of_ne differ.symm
  simp [Des3Avalon.written, Des3Avalon.Input.writes, missed]

theorem register_apply {constants : Constants} {point : Point}
    {register : Settings → BitVec 64} {value : BitVec 64}
    (splits : Splits constants point.line register value)
    (word : BitVec 32) (settings : Settings) :
    register ((access constants (next point word).line).apply
      ((access constants point.line).apply settings)) = value := by
  obtain ⟨line, validOut, odata, handed⟩ := point
  cases splits with
  | idata1 | idata2 =>
      exact written_halves (by decide : (0 : BitVec 4) ≠ 1) _ _
  | key1 => exact written_halves (by decide : (2 : BitVec 4) ≠ 3) _ _
  | key2 => exact written_halves (by decide : (4 : BitVec 4) ≠ 5) _ _
  | key3 => exact written_halves (by decide : (6 : BitVec 4) ≠ 7) _ _

section Accesses

variable {constants : Constants} {ticks : Nat → Tick}
  {trace : Nat → State Point} {first second : Nat}
  (consecutive : Consecutive ticks first second)
  (follows : Follows (step (program constants)) ticks trace)
include consecutive follows

theorem register_of_splits {register : Settings → BitVec 64}
    {value : BitVec 64}
    (splits : Splits constants (trace first).point.line register value) :
    register (bridges trace (second + 1)).settings = value := by
  obtain ⟨point, settings⟩ :=
    consecutive.kept follows consecutive.later (Nat.le_refl second)
  rw [consecutive.settings_succ follows, point, settings]
  exact register_apply splits _ _

theorem handed_of_odataLo (line : (trace first).point.line = .odataLo)
    (quiet : Quiet constants ticks trace first second) :
    (trace (second + 1)).point.handed = (trace first).point.handed ++
      [joined (lowWord (bridges trace first).regOdata)
        (highWord (bridges trace first).regOdata)] := by
  obtain ⟨point, -⟩ :=
    consecutive.kept follows consecutive.later (Nat.le_refl second)
  have lowReads : (inputs (program constants) ticks trace first).reads 0x9 =
      true :=
    reads_busInput consecutive.first_active (by simp [program, access, line])
  have next : (trace second).point = { (trace first).point with
      odata := widened (lowWord (bridges trace first).regOdata)
      line := .odataHi } := by
    rw [point, Des3Avalon.readdata_low lowReads, program]
    simp only [Main.next, line]
  have highReads : (inputs (program constants) ticks trace second).reads 0xA =
      true :=
    reads_busInput consecutive.second_active (by simp [program, access, next])
  rw [consecutive.point_succ follows, Des3Avalon.readdata_high highReads,
    consecutive.regOdata_eq follows quiet, next]
  rfl

end Accesses

/-- Two consecutive accesses of the loop lose nothing, except that a result
with bit 31 set is handed on with all upper bits set. -/
theorem lossless_iff (constants : Constants) (ticks : Nat → Tick)
    (trace : Nat → State Point) (first second : Nat)
    (follows : Follows (step (program constants)) ticks trace)
    (consecutive : Consecutive ticks first second) :
    Lossless constants ticks trace first second ↔
      ((trace first).point.line = .odataLo →
        Quiet constants ticks trace first second →
        (bridges trace first).regOdata.getLsbD 31 = true →
        highWord (bridges trace first).regOdata = BitVec.allOnes 32) := by
  constructor
  · intro lossless line quiet
    have handed := lossless.hands line quiet
    rw [handed_of_odataLo consecutive follows line quiet] at handed
    rw [← joined_eq_iff]
    simpa using handed
  · intro joins
    refine ⟨fun register value => register_of_splits consecutive follows,
      fun line quiet => ?_⟩
    rw [handed_of_odataLo consecutive follows line quiet,
      (joined_eq_iff _).mpr (joins line quiet)]

/-- The loop reads a result whose bit 31 is clear. -/
def clearResult : Nat → State Point :=
  run (step (program constants)) (fun _ => ⟨false, true, 0, 0⟩)
    ⟨{ entry 1 0 with line := .odataLo },
      { (default : Des3Avalon.State) with regOdata := 0x5F66AF24602A6201 }⟩

theorem lossless_iff_clearResult :
    (clearResult 2).point.handed = [0x5F66AF24602A6201] := by
  have consecutive : Consecutive (fun _ => ⟨false, true, 0, 0⟩) 0 1 :=
    ⟨rfl, rfl, Nat.one_pos, fun cycle after before => by omega⟩
  refine ((lossless_iff constants _ clearResult 0 1 (run_follows _ _ _)
    consecutive).mpr fun _ _ set => ?_).hands rfl fun cycle _ before => ?_
  · exact absurd set (by decide)
  · obtain rfl : cycle = 0 := by omega
    rfl

/-- In the loop with the values of `main.c` the second block is the first
result to be read; its bit 31 is set. -/
theorem not_lossless_fastRun :
    Consecutive fastBus 79 80 ∧
      (bridges fastRun 79).regOdata = 0x5F66AF24E02A6201 ∧
      (fastRun 81).point.handed = [0xFFFFFFFFE02A6201] ∧
      ¬ Lossless constants fastBus fastRun 79 80 := by
  have consecutive : Consecutive fastBus 79 80 :=
    ⟨rfl, rfl, Nat.lt_succ_self 79, fun cycle after before => by omega⟩
  have line : (fastRun 79).point.line = .odataLo := by
    decide +kernel
  have starts : (inputs (program constants) fastBus fastRun 12).starts = true := by
    decide +kernel
  have noLaterStart : ∀ later < 21, 12 < later →
      (inputs (program constants) fastBus fastRun later).starts = false := by
    decide +kernel
  have second : unpaired (fastRun 12).point.line = 1 := by
    decide +kernel
  have result : (bridges fastRun 79).regOdata = 0x5F66AF24E02A6201 := by
    rw [session_fastRun.bridge.regOdata_of_lastStart
        session_fastRun.bridge_follows rfl (by omega : 1 ≤ 12) starts (by omega)
        fun later after before => noLaterStart later (by omega) after,
      odata_of_starts session_fastRun (by omega : 1 ≤ 12) starts, second]
    exact encipher_constants.2
  have before : (fastRun 79).point.handed = [] := by
    decide +kernel
  have quiet : Quiet constants fastBus fastRun 79 80 := by
    intro cycle after less
    obtain rfl : cycle = 79 := by omega
    decide +kernel
  have handed : (fastRun 81).point.handed = [0xFFFFFFFFE02A6201] := by
    rw [handed_of_odataLo consecutive session_fastRun.follows line quiet,
      before, result]
    decide +kernel
  refine ⟨consecutive, result, handed, fun lossless => ?_⟩
  have asRead := lossless.hands line quiet
  rw [handed, before, result] at asRead
  exact absurd asRead (by decide)

end Main

end TripleDes
