import TripleDes.BusMaster

/-!
# The driver loop

`main.c` writes a first block, the keys and a control word, then a second
block and another control word, and polls the status once before it starts
over.  It does not wait for its blocks to complete.
-/

namespace TripleDes

open Clocked BusMaster

namespace Main

/-- The blocks and keys of `main`, with arbitrary values. -/
structure Constants extends Keys where
  idata1 : BitVec 64
  idata2 : BitVec 64

/-- The bus accesses in the body of the loop. -/
inductive Line where
  | idata1Lo
  | idata1Hi
  | key1Lo
  | key1Hi
  | key2Lo
  | key2Hi
  | key3Lo
  | key3Hi
  | control1
  | idata2Lo
  | idata2Hi
  | control2
  | status
  | odataLo
  | odataHi
  deriving DecidableEq

/-- The next access, the variables that the loop assigns and the values it
has handed to `printf`. -/
structure Point where
  line : Line
  validOut : BitVec 32
  odata : BitVec 64
  handed : List (BitVec 64)

/-- `(uint32_t)(value & 0xFFFFFFFF)`. -/
def lowHalf (value : BitVec 64) : BitVec 32 :=
  (value &&& 0xFFFFFFFF#64).setWidth 32

/-- `(uint32_t)(value >> 32)`. -/
def highHalf (value : BitVec 64) : BitVec 32 :=
  (value >>> 32).setWidth 32

/-- `(uint64_t)IORD(...)`, where `IORD` returns a signed `int`. -/
def widened (word : BitVec 32) : BitVec 64 :=
  word.signExtend 64

def entry (validOut : BitVec 32) (odata : BitVec 64) : Point where
  line := .idata1Lo
  validOut := validOut
  odata := odata
  handed := []

/-- The access at each line of the loop. -/
def access (constants : Constants) : Line → Access
  | .idata1Lo => .write 0 (lowHalf constants.idata1)
  | .idata1Hi => .write 1 (highHalf constants.idata1)
  | .key1Lo => .write 2 (lowHalf constants.key1)
  | .key1Hi => .write 3 (highHalf constants.key1)
  | .key2Lo => .write 4 (lowHalf constants.key2)
  | .key2Hi => .write 5 (highHalf constants.key2)
  | .key3Lo => .write 6 (lowHalf constants.key3)
  | .key3Hi => .write 7 (highHalf constants.key3)
  | .control1 => .write 8 1
  | .idata2Lo => .write 0 (lowHalf constants.idata2)
  | .idata2Hi => .write 1 (highHalf constants.idata2)
  | .control2 => .write 8 1
  | .status => .read 11
  | .odataLo => .read 9
  | .odataHi => .read 10

/-- What the loop does with the word it has read, and where it continues. -/
def next (point : Point) (word : BitVec 32) : Point :=
  match point.line with
  | .idata1Lo => { point with line := .idata1Hi }
  | .idata1Hi => { point with line := .key1Lo }
  | .key1Lo => { point with line := .key1Hi }
  | .key1Hi => { point with line := .key2Lo }
  | .key2Lo => { point with line := .key2Hi }
  | .key2Hi => { point with line := .key3Lo }
  | .key3Lo => { point with line := .key3Hi }
  | .key3Hi => { point with line := .control1 }
  | .control1 => { point with line := .idata2Lo }
  | .idata2Lo => { point with line := .idata2Hi }
  | .idata2Hi => { point with line := .control2 }
  | .control2 => { point with line := .status }
  | .status =>
      { point with
        validOut := word
        line := if word ≠ 0 then .odataLo else .idata1Lo }
  | .odataLo =>
      { point with
        odata := widened word
        line := .odataHi }
  | .odataHi =>
      let odata := point.odata ||| (widened word <<< 32)
      { point with
        odata := odata
        handed := point.handed ++ [odata]
        line := .idata1Lo }

def program (constants : Constants) : Program Point where
  access point := access constants point.line
  next := next

@[simp]
theorem lowHalf_eq_lowWord (value : BitVec 64) :
    lowHalf value = lowWord value := by
  have mask : ∀ (position : Nat) (inside : position < 32),
      (0xFFFFFFFF#32)[position] = true := by
    decide
  apply BitVec.eq_of_getLsbD_eq
  intro position inside
  simp [lowHalf, lowWord, inside, mask]

@[simp]
theorem highHalf_eq_highWord (value : BitVec 64) :
    highHalf value = highWord value := by
  apply BitVec.eq_of_getLsbD_eq
  intro position inside
  simp [highHalf, highWord, inside]

/-- Rewriting the keys with the values they hold disturbs nothing. -/
theorem settled_apply {constants : Constants}
    {settings : Des3Avalon.Settings} (settled : constants.Settled settings)
    (line : Line) :
    constants.Settled ((access constants line).apply settings) := by
  obtain ⟨key1, key2, key3, decrypt⟩ := settled
  cases line <;> constructor <;>
    simp [access, Access.apply, Des3Avalon.Settings.after,
      Des3Avalon.written, Des3Avalon.Input.writes, key1, key2, key3, decrypt]

/-- What the block register holds of the block that is being written. -/
def BlockWritten (constants : Constants) (line : Line)
    (settings : Des3Avalon.Settings) : Prop :=
  match line with
  | .idata1Hi => lowWord settings.idata = lowWord constants.idata1
  | .key1Lo | .key1Hi | .key2Lo | .key2Hi | .key3Lo | .key3Hi | .control1 =>
      settings.idata = constants.idata1
  | .idata2Hi => lowWord settings.idata = lowWord constants.idata2
  | .control2 => settings.idata = constants.idata2
  | _ => True

/-- Halves of the keys that an iteration has written before a line. -/
def keyHalves : Line → Nat
  | .idata1Lo | .idata1Hi | .key1Lo => 0
  | .key1Hi => 1
  | .key2Lo => 2
  | .key2Hi => 3
  | .key3Lo => 4
  | .key3Hi => 5
  | _ => 6

/-- The bridge is set as the position in the loop demands: the keys are
either all there, from an earlier iteration, or being written for the first
time. -/
structure Consistent (constants : Constants) (point : Point)
    (settings : Des3Avalon.Settings) : Prop where
  decrypt : settings.decrypt = false
  block : BlockWritten constants point.line settings
  keys : constants.Settled settings ∨
    constants.Written (keyHalves point.line) settings

theorem decrypt_apply {constants : Constants}
    {settings : Des3Avalon.Settings} (direction : settings.decrypt = false)
    (line : Line) :
    ((access constants line).apply settings).decrypt = false := by
  cases line <;>
    simp [access, Access.apply, Des3Avalon.Settings.after,
      Des3Avalon.Input.writes, direction]

theorem blockWritten_next {constants : Constants} {point : Point}
    {settings : Des3Avalon.Settings}
    (block : BlockWritten constants point.line settings)
    (word : BitVec 32) :
    BlockWritten constants (next point word).line
      ((access constants point.line).apply settings) := by
  obtain ⟨line, validOut, odata, handed⟩ := point
  cases line with
  | idata1Hi | idata2Hi =>
      simp only [BlockWritten] at block
      simp [next, BlockWritten, access, Access.apply,
        Des3Avalon.Settings.after, Des3Avalon.written,
        Des3Avalon.Input.writes, block]
  | status =>
      simp only [next]
      split <;> trivial
  | _ =>
      simp_all [next, BlockWritten, access, Access.apply,
        Des3Avalon.Settings.after, Des3Avalon.written,
        Des3Avalon.Input.writes]

theorem written_next {constants : Constants} {point : Point}
    {settings : Des3Avalon.Settings}
    (keys : constants.Written (keyHalves point.line) settings)
    (word : BitVec 32) :
    constants.Written (keyHalves (next point word).line)
      ((access constants point.line).apply settings) := by
  obtain ⟨line, validOut, odata, handed⟩ := point
  cases line with
  | status =>
      simp only [next]
      split
      · exact keys
      · trivial
  | _ =>
      simp_all [next, keyHalves, Keys.Written, access, Access.apply,
        Des3Avalon.Settings.after, Des3Avalon.written,
        Des3Avalon.Input.writes]

theorem Consistent.next {constants : Constants} {point : Point}
    {settings : Des3Avalon.Settings}
    (consistent : Consistent constants point settings) (word : BitVec 32) :
    Consistent constants (next point word)
      ((access constants point.line).apply settings) where
  decrypt := decrypt_apply consistent.decrypt point.line
  block := blockWritten_next consistent.block word
  keys := consistent.keys.imp (fun settled => settled_apply settled point.line)
    fun keys => written_next keys word

/-- Starts are missing their pair between the two control writes of an
iteration. -/
def unpaired : Line → Nat
  | .idata2Lo | .idata2Hi | .control2 => 1
  | _ => 0

/-- Two values by turns. -/
def alternating {Value : Type*} (first second : Value) (count : Nat) :
    List Value :=
  (List.range count).map fun index => if index % 2 = 0 then first else second

theorem alternating_succ {Value : Type*} (first second : Value)
    (count : Nat) :
    alternating first second (count + 1) =
      alternating first second count ++
        [if count % 2 = 0 then first else second] := by
  simp [alternating, List.range_succ]

theorem unpaired_next (constants : Constants) (point : Point)
    (word : BitVec 32) :
    unpaired (next point word).line =
      if (access constants point.line).starts then 1 - unpaired point.line
      else unpaired point.line := by
  obtain ⟨line, validOut, odata, handed⟩ := point
  cases line with
  | status =>
      simp only [next]
      split <;> rfl
  | _ => rfl

theorem block_of_starts {constants : Constants} {line : Line}
    {settings : Des3Avalon.Settings}
    (starts : (access constants line).starts = true)
    (block : BlockWritten constants line settings) :
    settings.idata =
      if unpaired line = 0 then constants.idata1 else constants.idata2 := by
  cases line with
  | control1 => exact block
  | control2 => exact block
  | _ => simp [access, Access.starts] at starts

theorem unpaired_lt_two (line : Line) : unpaired line < 2 := by
  cases line <;> simp [unpaired]

section Runs

variable {constants : Constants} {validOut : BitVec 32} {odata : BitVec 64}
  {held : Nat} {ticks : Nat → Tick} {trace : Nat → State Point}
  (session : Session (program constants) (entry validOut odata) held ticks
    trace)
include session

theorem consistent {cycle : Nat} (after : held ≤ cycle) :
    Consistent constants (trace cycle).point
      (bridges trace cycle).settings := by
  refine session.invariant (Consistent constants)
    (fun point settings word consistent => consistent.next word)
    (Nat.le_refl held) ?_ after
  rw [session.point_of_held (Nat.le_refl held), session.released.settings]
  exact ⟨rfl, trivial, .inr trivial⟩

/-- Keys that have been written once stay in place, although every iteration
writes them again. -/
theorem settled_from {start cycle : Nat} (after : held ≤ start)
    (settled : constants.Settled (bridges trace start).settings)
    (later : start ≤ cycle) :
    constants.Settled (bridges trace cycle).settings :=
  session.invariant (fun _ settings => constants.Settled settings)
    (fun point _ _ settled => settled_apply settled point.line) after settled later

theorem settled_of_starts {start : Nat} (after : held ≤ start)
    (starts : (access constants (trace start).point.line).starts = true) :
    constants.Settled (bridges trace start).settings := by
  have now := consistent session after
  rcases now.keys with settled | keys
  · exact settled
  · cases line : (trace start).point.line with
    | control1 | control2 =>
        rw [line] at keys
        exact Keys.Written.settled keys now.decrypt
    | _ => simp [line, access, Access.starts] at starts

/-- What the loop submits is enciphered under its keys, whatever it writes
while the block is in flight. -/
theorem odata_of_starts {start : Nat} (after : held ≤ start)
    (starts : (inputs (program constants) ticks trace start).starts = true) :
    (bridges trace (start + 58)).uDes3.odata =
      constants.encipher (if unpaired (trace start).point.line = 0
        then constants.idata1 else constants.idata2) := by
  have control : (access constants (trace start).point.line).starts =
      true := by
    rw [inputs, starts_busInput, Bool.and_eq_true] at starts
    exact starts.2
  have block := block_of_starts control (consistent session after).block
  change (bridges trace start).regIdata = _ at block
  have settled := settled_of_starts session after control
  rw [session.odata_of_settled after starts fun cycle later =>
      settled_from session after settled later, block]

theorem submitted_of_starts {start : Nat} (after : held ≤ start)
    (starts : (inputs (program constants) ticks trace start).starts = true) :
    Des3Avalon.submitted (inputs (program constants) ticks trace)
        (bridges trace) start =
      some (constants.encipher (if unpaired (trace start).point.line = 0
        then constants.idata1 else constants.idata2)) := by
  rw [← session.bridge.loaded_eq_submitted session.bridge_follows after,
    Des3Avalon.loaded_of_starts session.bridge_follows
      (fun cycle from_ _ => session.bridge.low cycle (by omega)) starts,
    odata_of_starts session after starts]

theorem unpaired_succ (cycle : Nat) :
    unpaired (trace (cycle + 1)).point.line =
      if (inputs (program constants) ticks trace cycle).starts then
        1 - unpaired (trace cycle).point.line
      else unpaired (trace cycle).point.line := by
  rw [session.point_succ, inputs, starts_busInput]
  cases (ticks cycle).active with
  | false => rfl
  | true => exact unpaired_next constants _ _

theorem count_starts_mod_two (cycle : Nat) :
    Nat.count (fun earlier =>
        (inputs (program constants) ticks trace earlier).starts = true)
        cycle % 2 =
      unpaired (trace cycle).point.line := by
  induction cycle with
  | zero =>
      rw [session.entry]
      rfl
  | succ cycle ih =>
      have small := unpaired_lt_two (trace cycle).point.line
      rw [unpaired_succ session, Nat.count_succ]
      split <;> omega

theorem before_submitted (cycle : Nat) :
    Events.before (Des3Avalon.submitted
        (inputs (program constants) ticks trace) (bridges trace)) cycle =
      alternating (constants.encipher constants.idata1)
        (constants.encipher constants.idata2)
        (Nat.count (fun earlier =>
          (inputs (program constants) ticks trace earlier).starts = true)
          cycle) := by
  induction cycle with
  | zero => rfl
  | succ cycle ih =>
      rw [Events.before, ih, Nat.count_succ]
      cases starts : (inputs (program constants) ticks trace cycle).starts with
      | false => simp [Des3Avalon.submitted, starts]
      | true =>
          have after : held ≤ cycle := by
            by_contra before
            rw [session.starts_of_held (by omega)] at starts
            contradiction
          rw [submitted_of_starts session after starts, if_pos rfl,
            alternating_succ, count_starts_mod_two session]
          split <;> rfl

end Runs

/-- The driver loop never corrupts a block it has in flight: for any pace of
the bus, the values loaded into the result register are the enciphered blocks
by turns, one for each start. -/
theorem loads_blocks_by_turns (constants : Constants) (validOut : BitVec 32)
    (odata : BitVec 64) (held : Nat) (ticks : Nat → Tick)
    (trace : Nat → State Point)
    (session : Session (program constants) (entry validOut odata) held ticks
      trace) (cycle : Nat) :
    Events.before (Des3Avalon.loaded (inputs (program constants) ticks trace)
        (bridges trace)) (cycle + 58) =
      alternating (constants.encipher constants.idata1)
        (constants.encipher constants.idata2)
        (Nat.count (fun earlier =>
          (inputs (program constants) ticks trace earlier).starts = true)
          cycle) := by
  rw [session.bridge.before_loaded session.bridge_follows rfl
    (fun _ before => session.starts_of_held before)]
  exact before_submitted session cycle

/-- The values in `main.c`. -/
def constants : Constants where
  idata1 := 0x0123456789ABCDEF
  idata2 := 0x23456789ABCDEF01
  key1 := 0x0123456789ABCDEF
  key2 := 0x23456789ABCDEF01
  key3 := 0x456789ABCDEF0123

/-- An access in every cycle after a reset of one cycle. -/
def fastBus (cycle : Nat) : Tick where
  reset := cycle == 0
  accesses := true
  idleAddress := 0
  idleWritedata := 0

/-- The loop with the values of `main.c` on the fast bus. -/
def fastRun : Nat → State Point :=
  run (step (program constants)) fastBus ⟨entry 0 0, default⟩

theorem session_fastRun :
    Session (program constants) (entry 0 0) 1 fastBus fastRun :=
  .of_first _ _ Des3Avalon.drained_default fun _ => rfl

theorem encipher_constants :
    constants.encipher constants.idata1 = 0xF2AFD84EE809E2B5 ∧
      constants.encipher constants.idata2 = 0x5F66AF24E02A6201 := by
  decide +kernel

theorem loads_blocks_by_turns_fastRun :
    Events.before (Des3Avalon.loaded
        (inputs (program constants) fastBus fastRun) (bridges fastRun)) 71 =
      [0xF2AFD84EE809E2B5, 0x5F66AF24E02A6201] := by
  have twoStarts : Nat.count (fun cycle =>
      (inputs (program constants) fastBus fastRun cycle).starts = true) 13 =
      2 := by
    decide +kernel
  have turns (first second : BitVec 64) :
      alternating first second 2 = [first, second] :=
    rfl
  have log := loads_blocks_by_turns constants 0 0 1 fastBus fastRun
    session_fastRun 13
  rwa [twoStarts, turns, encipher_constants.1, encipher_constants.2] at log

end Main

end TripleDes
