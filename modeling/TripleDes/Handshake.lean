import TripleDes.BusMaster

/-!
# Polling for results

A client that waits for each result, as the register map invites it to: it
writes the keys once and then, round by round, submits a block, polls the
status until it reads one and reads the two words of the result.  The status
flag is not cleared by being read, so from the second round on the client does
not wait at all.
-/

namespace TripleDes

open Clocked BusMaster

namespace Handshake

/-- The keys and the block of each round. -/
structure Constants extends Keys where
  blocks : Nat → BitVec 64

/-- The accesses of the client: the keys, and then those of a round. -/
inductive Line where
  | key1Lo
  | key1Hi
  | key2Lo
  | key2Hi
  | key3Lo
  | key3Hi
  | idataLo
  | idataHi
  | control
  | status
  | odataLo
  | odataHi
  deriving DecidableEq

structure Point where
  line : Line
  round : Nat

def entry : Point where
  line := .key1Lo
  round := 0

def access (constants : Constants) (point : Point) : Access :=
  match point.line with
  | .key1Lo => .write 2 (lowWord constants.key1)
  | .key1Hi => .write 3 (highWord constants.key1)
  | .key2Lo => .write 4 (lowWord constants.key2)
  | .key2Hi => .write 5 (highWord constants.key2)
  | .key3Lo => .write 6 (lowWord constants.key3)
  | .key3Hi => .write 7 (highWord constants.key3)
  | .idataLo => .write 0 (lowWord (constants.blocks point.round))
  | .idataHi => .write 1 (highWord (constants.blocks point.round))
  | .control => .write 8 1
  | .status => .read 11
  | .odataLo => .read 9
  | .odataHi => .read 10

def next (point : Point) (word : BitVec 32) : Point :=
  match point.line with
  | .key1Lo => { point with line := .key1Hi }
  | .key1Hi => { point with line := .key2Lo }
  | .key2Lo => { point with line := .key2Hi }
  | .key2Hi => { point with line := .key3Lo }
  | .key3Lo => { point with line := .key3Hi }
  | .key3Hi => { point with line := .idataLo }
  | .idataLo => { point with line := .idataHi }
  | .idataHi => { point with line := .control }
  | .control => { point with line := .status }
  | .status =>
      { point with line := if word = 1 then .odataLo else .status }
  | .odataLo => { point with line := .odataHi }
  | .odataHi =>
      { line := .idataLo
        round := point.round + 1 }

def program (constants : Constants) : Program Point where
  access := access constants
  next := next

/-- The client makes the access of a point in a cycle. -/
def Performs (ticks : Nat → Tick) (trace : Nat → State Point) (cycle : Nat)
    (point : Point) : Prop :=
  (ticks cycle).active = true ∧ (trace cycle).point = point

/-- The client reads the two words of a round. -/
structure ReadsPair (ticks : Nat → Tick) (trace : Nat → State Point)
    (round low high : Nat) : Prop where
  low_reads : Performs ticks trace low ⟨.odataLo, round⟩
  high_reads : Performs ticks trace high ⟨.odataHi, round⟩
  high_later : low < high

/-- The word that the client sees in a cycle. -/
def seen (constants : Constants) (ticks : Nat → Tick)
    (trace : Nat → State Point) (cycle : Nat) : BitVec 32 :=
  Des3Avalon.readdata (inputs (program constants) ticks trace)
    (bridges trace) cycle

/-- In every round the client reads the enciphered block of that round. -/
def ReadsOwnResults (constants : Constants) (ticks : Nat → Tick)
    (trace : Nat → State Point) : Prop :=
  ∀ round low high, ReadsPair ticks trace round low high →
    seen constants ticks trace low =
        lowWord (constants.encipher (constants.blocks round)) ∧
      seen constants ticks trace high =
        highWord (constants.encipher (constants.blocks round))

/-- No round reads its result before it can be there: the first word is read
at least 59 cycles after the control write of its round. -/
def Timely (ticks : Nat → Tick) (trace : Nat → State Point) : Prop :=
  ∀ round start low high, Performs ticks trace start ⟨.control, round⟩ →
    ReadsPair ticks trace round low high → start + 59 ≤ low

/-- Halves of the keys that have been written before a line. -/
def keyHalves : Line → Nat
  | .key1Lo => 0
  | .key1Hi => 1
  | .key2Lo => 2
  | .key2Hi => 3
  | .key3Lo => 4
  | .key3Hi => 5
  | _ => 6

/-- What the block register holds of the block of the round. -/
def BlockWritten (constants : Constants) (point : Point)
    (settings : Des3Avalon.Settings) : Prop :=
  match point.line with
  | .idataHi =>
      lowWord settings.idata = lowWord (constants.blocks point.round)
  | .control => settings.idata = constants.blocks point.round
  | _ => True

/-- The bridge is set as the position of the client demands. -/
structure Consistent (constants : Constants) (point : Point)
    (settings : Des3Avalon.Settings) : Prop where
  decrypt : settings.decrypt = false
  block : BlockWritten constants point settings
  keys : constants.Written (keyHalves point.line) settings

theorem Consistent.next {constants : Constants} {point : Point}
    {settings : Des3Avalon.Settings}
    (consistent : Consistent constants point settings) (word : BitVec 32) :
    Consistent constants (next point word)
      ((access constants point).apply settings) := by
  obtain ⟨decrypt, block, keys⟩ := consistent
  obtain ⟨line, round⟩ := point
  cases line with
  | status =>
      refine ⟨decrypt, ?_, ?_⟩
      · simp only [Handshake.next]
        split <;> trivial
      · simp only [Handshake.next]
        split <;> exact keys
  | _ =>
      constructor <;>
        simp_all [Handshake.next, BlockWritten, keyHalves, Keys.Written,
          access, Access.apply, Des3Avalon.Settings.after,
          Des3Avalon.written, Des3Avalon.Input.writes]

def started (point : Point) : Nat :=
  match point.line with
  | .status | .odataLo | .odataHi => point.round + 1
  | _ => point.round

theorem starts_access (constants : Constants) (point : Point) :
    (access constants point).starts = decide (point.line = .control) := by
  obtain ⟨line, round⟩ := point
  cases line <;> simp [access, Access.starts]

theorem started_next (constants : Constants) (point : Point)
    (word : BitVec 32) :
    started (next point word) =
      started point + if (access constants point).starts then 1 else 0 := by
  rw [starts_access]
  obtain ⟨line, round⟩ := point
  cases line with
  | status =>
      simp only [next]
      split <;> rfl
  | _ => rfl

theorem eq_of_started {point : Point} {round : Nat}
    (control : point.line = .control) (count : started point = round) :
    point = ⟨.control, round⟩ := by
  obtain ⟨line, other⟩ := point
  obtain rfl : line = .control := control
  obtain rfl : other = round := count
  rfl

theorem keyHalves_next {point : Point} (keys : keyHalves point.line = 6)
    (word : BitVec 32) : keyHalves (next point word).line = 6 := by
  obtain ⟨line, round⟩ := point
  cases line with
  | status =>
      simp only [next]
      split <;> rfl
  | key1Lo | key1Hi | key2Lo | key2Hi | key3Lo | key3Hi =>
      simp [keyHalves] at keys
  | _ => rfl

theorem status_of_next {point : Point} {word : BitVec 32}
    (low : (next point word).line = .odataLo) :
    point.line = .status ∧ word = 1 := by
  obtain ⟨line, round⟩ := point
  cases line with
  | status =>
      simp only [next] at low
      split at low
      · next set => exact ⟨rfl, set⟩
      · contradiction
  | _ => contradiction

theorem next_congr {point : Point} {word word' : BitVec 32}
    (status : point.line = .status → (word = 1 ↔ word' = 1)) :
    next point word = next point word' := by
  obtain ⟨line, round⟩ := point
  cases line with
  | status => simp only [next, status rfl]
  | _ => rfl

end Handshake

end TripleDes
