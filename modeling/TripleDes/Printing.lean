import TripleDes.SmallPrintf
import TripleDes.WordTransport

/-!
# What the loop prints

The loop prints only after the status has shown a result, and the value that it
hands to `printf` is joined from the words of two results.  The low words of
both results of `main.c` have their sign bit set, so that every such value has
all upper bits set, and none is a result.  The `printf` that the program is
linked with writes the low word of the value only.
-/

namespace TripleDes

open Clocked BusMaster

namespace Main

/-- A result of the loop. -/
def Constants.IsResult (constants : Constants) (value : BitVec 64) : Prop :=
  value = constants.encipher constants.idata1 ∨
    value = constants.encipher constants.idata2

/-- A value joined from the words of two results. -/
def Constants.IsJoin (constants : Constants) (value : BitVec 64) : Prop :=
  ∃ first second, constants.IsResult first ∧ constants.IsResult second ∧
    value = joined (lowWord first) (highWord second)

/-- The result register holds a result once the status says so. -/
def Announced (constants : Constants) (bridge : Des3Avalon.State) : Prop :=
  bridge.regValidOut = true → constants.IsResult bridge.regOdata

/-- The loop reads results only, and has handed on nothing but joins. -/
structure Honest (constants : Constants) (point : Point)
    (bridge : Des3Avalon.State) : Prop where
  announced : point.line = .odataLo ∨ point.line = .odataHi →
    bridge.regValidOut = true
  odata : point.line = .odataHi →
    ∃ result, constants.IsResult result ∧ point.odata = widened (lowWord result)
  handed : ∀ value ∈ point.handed, constants.IsJoin value

/-- The loop takes back no value. -/
theorem handed_next {point : Point} {value : BitVec 64}
    (handed : value ∈ point.handed) (word : BitVec 32) :
    value ∈ (next point word).handed := by
  obtain ⟨line, validOut, odata, values⟩ := point
  cases line with
  | odataHi => exact List.mem_append_left _ handed
  | _ => exact handed

theorem Honest.of_other {constants : Constants} {point : Point}
    {bridge : Des3Avalon.State} (notLow : point.line ≠ .odataLo)
    (notHigh : point.line ≠ .odataHi)
    (handed : ∀ value ∈ point.handed, constants.IsJoin value) :
    Honest constants point bridge where
  announced reading := (reading.elim notLow notHigh).elim
  odata high := (notHigh high).elim
  handed := handed

theorem Honest.mono {constants : Constants} {point : Point}
    {bridge later : Des3Avalon.State} (honest : Honest constants point bridge)
    (kept : bridge.regValidOut = true → later.regValidOut = true) :
    Honest constants point later where
  announced reading := kept (honest.announced reading)
  odata := honest.odata
  handed := honest.handed

/-- An access of the loop, with the word that the bridge shows it. -/
theorem Honest.next {constants : Constants} {point : Point}
    {bridge : Des3Avalon.State} (honest : Honest constants point bridge)
    (announced : Announced constants bridge) {register : BitVec 4}
    (reads : ∀ address, access constants point.line = .read address →
      register = address) :
    Honest constants (Main.next point (Des3Avalon.avsReaddata register bridge))
      bridge := by
  obtain ⟨line, validOut, odata, values⟩ := point
  have handed := honest.handed
  cases line with
  | status =>
      obtain rfl : register = 11 := reads 11 rfl
      refine ⟨fun reading => ?_, ?_, handed⟩
      · by_contra clear
        have zero : Des3Avalon.avsReaddata 11 bridge = 0 := by
          change 0#31 ++ BitVec.ofBool bridge.regValidOut = 0
          rw [Bool.eq_false_of_not_eq_true clear]
          rfl
        rw [zero] at reading
        rcases reading with reading | reading <;> cases reading
      · intro line
        simp only [Main.next] at line
        split at line <;> cases line
  | odataLo =>
      obtain rfl : register = 9 := reads 9 rfl
      have shown := honest.announced (.inl rfl)
      exact ⟨fun _ => shown, fun _ => ⟨bridge.regOdata, announced shown, rfl⟩,
        handed⟩
  | odataHi =>
      obtain rfl : register = 10 := reads 10 rfl
      have shown := honest.announced (.inr rfl)
      obtain ⟨result, isResult, low⟩ := honest.odata rfl
      refine .of_other (by rintro ⟨⟩) (by rintro ⟨⟩) fun value member => ?_
      rcases List.mem_append.mp member with earlier | last
      · exact handed value earlier
      · refine ⟨result, bridge.regOdata, isResult, announced shown, ?_⟩
        rw [List.mem_singleton.mp last, joined, ← low]
        rfl
  | _ => exact .of_other (by rintro ⟨⟩) (by rintro ⟨⟩) handed

section Runs

variable {constants : Constants} {validOut : BitVec 32} {odata : BitVec 64}
  {held : Nat} {ticks : Nat → Tick} {trace : Nat → State Point}
  (session : Session (program constants) (entry validOut odata) held ticks
    trace)
include session

theorem isResult_of_loads {cycle : Nat} (loads : Des3Avalon.loads
      (inputs (program constants) ticks trace cycle) (bridges trace cycle) =
      true) :
    constants.IsResult (bridges trace cycle).uDes3.odata := by
  obtain ⟨start, rfl, after, starts⟩ :=
    (session.bridge.loads_iff session.bridge_follows rfl cycle).mp loads
  rw [odata_of_starts session after starts]
  by_cases first : unpaired (trace start).point.line = 0
  · exact .inl (by rw [if_pos first])
  · exact .inr (by rw [if_neg first])

theorem announced {cycle : Nat} (after : held ≤ cycle) :
    Announced constants (bridges trace cycle) := by
  induction cycle, after using Nat.le_induction with
  | base =>
      intro shown
      rw [session.released.regValidOut] at shown
      contradiction
  | succ cycle after ih =>
      have low := session.bridge.low cycle after
      intro shown
      rw [Des3Avalon.regOdata_succ session.bridge_follows low]
      rw [Des3Avalon.regValidOut_succ session.bridge_follows low,
        Bool.or_eq_true] at shown
      cases loads : Des3Avalon.loads
        (inputs (program constants) ticks trace cycle) (bridges trace cycle) with
      | true =>
          rw [if_pos rfl]
          exact isResult_of_loads session loads
      | false =>
          rw [if_neg Bool.false_ne_true]
          exact ih (shown.resolve_left (by simp [loads]))

theorem honest {cycle : Nat} (after : held ≤ cycle) :
    Honest constants (trace cycle).point (bridges trace cycle) := by
  induction cycle, after using Nat.le_induction with
  | base =>
      rw [session.point_of_held (Nat.le_refl held)]
      exact .of_other nofun nofun nofun
  | succ cycle after ih =>
      have low := session.bridge.low cycle after
      have stepped : Honest constants (trace (cycle + 1)).point
          (bridges trace cycle) := by
        rw [session.point_succ]
        split
        · rename_i active
          refine ih.next (announced session after) fun address read => ?_
          rw [inputs, busInput, active, if_pos rfl]
          change (Access.signals (ticks cycle)
            (access constants (trace cycle).point.line)).avsAddress = address
          rw [read]
          rfl
        · exact ih
      refine stepped.mono fun shown => ?_
      rw [Des3Avalon.regValidOut_succ session.bridge_follows low, shown,
        Bool.or_true]

end Runs

/-- Both results of `main.c` have bit 31 set, so a join has no other upper
half than ones. -/
theorem Constants.IsJoin.spoiled {value : BitVec 64}
    (join : constants.IsJoin value) :
    value = 0xFFFFFFFFE809E2B5 ∨ value = 0xFFFFFFFFE02A6201 := by
  obtain ⟨first, second, low, high, rfl⟩ := join
  rw [Constants.IsResult, encipher_constants.1, encipher_constants.2] at low high
  rcases low with rfl | rfl <;> rcases high with rfl | rfl <;> decide

section Lines

/-- The words behind the format: a 64-bit value, and what the registers and the
stack hold behind it. -/
def arguments (odata : BitVec 64) (beyond : Nat → BitVec 32) : Nat → BitVec 32
  | 0 => lowWord odata
  | 1 => highWord odata
  | index + 2 => beyond index

variable (beyond : Nat → BitVec 32) (strings : BitVec 32 → List Char)

/-- `printf("Output: %016llX\n", odata)`. -/
def outputLine (odata : BitVec 64) : List Char :=
  SmallPrintf.printf (arguments odata beyond) strings
    "Output: %016llX\n".toList

/-- The line that shows a value. -/
def lineOf (value : BitVec 64) : List Char :=
  "Output: ".toList ++ SmallPrintf.numeral 16 value.toNat ++ ['\n']

/-- The line that is printed shows the low word behind a zero. -/
theorem outputLine_eq_lineOf (odata : BitVec 64) :
    outputLine beyond strings odata =
      lineOf ((0 : BitVec 32) ++ lowWord odata) := by
  have value : ((0 : BitVec 32) ++ lowWord odata).toNat =
      (lowWord odata).toNat := by
    rw [BitVec.toNat_append, BitVec.ofNat_eq_ofNat, BitVec.toNat_zero,
      Nat.zero_shiftLeft, Nat.zero_or]
  unfold lineOf
  rw [value]
  exact SmallPrintf.printf_output (arguments odata beyond) strings

theorem lineOf_injective : Function.Injective lineOf := by
  intro first second same
  have numerals := List.append_cancel_left (List.append_cancel_right same)
  exact BitVec.eq_of_toNat_eq (SmallPrintf.numeral_injective 16 numerals)

/-- Whatever else is in memory, the program prints the line of a value exactly
for the values whose high word is zero, and prints the same line for all values
with the same low word. -/
theorem prints_low_word (beyond beyond' : Nat → BitVec 32)
    (strings strings' : BitVec 32 → List Char) (odata odata' : BitVec 64) :
    (outputLine beyond strings odata = lineOf odata ↔ highWord odata = 0) ∧
      (outputLine beyond strings odata = outputLine beyond' strings' odata' ↔
        lowWord odata = lowWord odata') := by
  rw [outputLine_eq_lineOf, outputLine_eq_lineOf, lineOf_injective.eq_iff,
    lineOf_injective.eq_iff]
  constructor
  · nth_rewrite 2 [← highWord_append_lowWord odata]
    rw [BitVec.append_left_inj, eq_comm]
  · exact BitVec.append_right_inj 0

theorem Constants.IsJoin.line {value : BitVec 64}
    (join : constants.IsJoin value) :
    outputLine beyond strings value = "Output: 00000000E809E2B5\n".toList ∨
      outputLine beyond strings value = "Output: 00000000E02A6201\n".toList := by
  rw [outputLine_eq_lineOf]
  rcases join.spoiled with rfl | rfl
  · left
    decide
  · right
    decide

/-- The high word of a result is not zero. -/
theorem Constants.IsJoin.line_ne {value result : BitVec 64}
    (join : constants.IsJoin value) (isResult : constants.IsResult result) :
    outputLine beyond strings value ≠ lineOf result := by
  rw [outputLine_eq_lineOf, lineOf_injective.ne_iff]
  rw [Constants.IsResult, encipher_constants.1, encipher_constants.2] at isResult
  rcases join.spoiled with rfl | rfl <;> rcases isResult with rfl | rfl <;>
    decide

end Lines

end Main

end TripleDes
