import TripleDes.Handshake

/-!
# When polling delivers the right results

The client starts one block in each round and no other before it has read the
two words.  So a round reads its own result if it reads late enough, and the
result of an earlier round otherwise.
-/

namespace TripleDes

open Clocked BusMaster

namespace Handshake

section Runs

variable {constants : Constants} {held : Nat} {ticks : Nat → Tick}
  {trace : Nat → State Point}

/-- The number of blocks started before a cycle. -/
def startsBefore (constants : Constants) (ticks : Nat → Tick)
    (trace : Nat → State Point) (cycle : Nat) : Nat :=
  Nat.count (fun earlier =>
    (inputs (program constants) ticks trace earlier).starts = true) cycle

theorem starts_iff {cycle : Nat} :
    (inputs (program constants) ticks trace cycle).starts = true ↔
      (ticks cycle).active = true ∧ (trace cycle).point.line = .control := by
  rw [inputs, starts_busInput, Bool.and_eq_true]
  change _ ∧ (access constants (trace cycle).point).starts = true ↔ _
  rw [starts_access, decide_eq_true_eq]

theorem starts_of_performs (constants : Constants) {start round : Nat}
    (performs : Performs ticks trace start ⟨.control, round⟩) :
    (inputs (program constants) ticks trace start).starts = true :=
  starts_iff.mpr ⟨performs.1, congrArg Point.line performs.2⟩

theorem startsBefore_lt {start later : Nat}
    (happens : (inputs (program constants) ticks trace start).starts = true)
    (after : start < later) :
    startsBefore constants ticks trace start < startsBefore constants ticks trace later :=
  Nat.count_strict_mono happens after

theorem seen_low {cycle round : Nat}
    (performs : Performs ticks trace cycle ⟨.odataLo, round⟩) :
    seen constants ticks trace cycle =
      lowWord (bridges trace cycle).regOdata := by
  have read : (program constants).access (trace cycle).point = .read 9 := by
    rw [performs.2]
    rfl
  exact Des3Avalon.readdata_low (reads_busInput performs.1 read) _

theorem seen_high {cycle round : Nat}
    (performs : Performs ticks trace cycle ⟨.odataHi, round⟩) :
    seen constants ticks trace cycle =
      highWord (bridges trace cycle).regOdata := by
  have read : (program constants).access (trace cycle).point = .read 10 := by
    rw [performs.2]
    rfl
  exact Des3Avalon.readdata_high (reads_busInput performs.1 read) _

variable (session : Session (program constants) entry held ticks trace)
include session

theorem consistent {cycle : Nat} (after : held ≤ cycle) :
    Consistent constants (trace cycle).point
      (bridges trace cycle).settings := by
  refine session.invariant (Consistent constants)
    (fun point settings word consistent => consistent.next word)
    (Nat.le_refl held) ?_ after
  rw [session.point_of_held (Nat.le_refl held), session.released.settings]
  exact ⟨rfl, trivial, trivial⟩

theorem startsBefore_eq (cycle : Nat) :
    startsBefore constants ticks trace cycle = started (trace cycle).point := by
  induction cycle with
  | zero =>
      rw [session.entry]
      rfl
  | succ cycle ih =>
      rw [startsBefore] at ih ⊢
      rw [Nat.count_succ, ih, session.point_succ, inputs, starts_busInput]
      cases (ticks cycle).active with
      | false => rfl
      | true => exact (started_next constants _ _).symm

theorem startsBefore_of_point {cycle round : Nat} {line : Line}
    (point : (trace cycle).point = ⟨line, round⟩) :
    startsBefore constants ticks trace cycle = started ⟨line, round⟩ := by
  rw [startsBefore_eq session, point]

theorem exists_performs {cycle round : Nat} {line : Line}
    (point : (trace cycle).point = ⟨line, round⟩)
    (awaits : started ⟨line, round⟩ = round + 1) :
    ∃ start < cycle, Performs ticks trace start ⟨.control, round⟩ := by
  have counted := startsBefore_of_point session point
  have reached : round < startsBefore constants ticks trace cycle := by omega
  obtain ⟨start, before, happens, count⟩ := Events.exists_count_eq reached
  change startsBefore constants ticks trace start = round at count
  obtain ⟨active, control⟩ := starts_iff.mp happens
  rw [startsBefore_eq session] at count
  exact ⟨start, before, active, eq_of_started control count⟩

/-- While a client awaits the result of a round it starts no other block. -/
theorem no_later_starts {start cycle round : Nat} {line : Line}
    (performs : Performs ticks trace start ⟨.control, round⟩)
    (point : (trace cycle).point = ⟨line, round⟩)
    (awaits : started ⟨line, round⟩ = round + 1) {later : Nat}
    (after : start < later) (before : later < cycle) :
    (inputs (program constants) ticks trace later).starts = false := by
  rw [Bool.eq_false_iff]
  intro again
  have first := startsBefore_lt (starts_of_performs constants performs) after
  have second := startsBefore_lt again before
  have atStart : startsBefore constants ticks trace start = round :=
    startsBefore_of_point session performs.2
  have atCycle := startsBefore_of_point session point
  omega

theorem lt_of_performs {start cycle round : Nat} {line : Line}
    (performs : Performs ticks trace start ⟨.control, round⟩)
    (point : (trace cycle).point = ⟨line, round⟩)
    (awaits : started ⟨line, round⟩ = round + 1) : start < cycle := by
  by_contra later
  have counts : startsBefore constants ticks trace cycle ≤
      startsBefore constants ticks trace start :=
    Nat.count_monotone _ (by omega)
  rw [startsBefore_of_point session point, startsBefore_of_point session performs.2,
    awaits] at counts
  exact Nat.not_succ_le_self round counts

theorem odata_of_performs {start round : Nat}
    (performs : Performs ticks trace start ⟨.control, round⟩) :
    (bridges trace (start + 58)).uDes3.odata =
      constants.encipher (constants.blocks round) := by
  have after := session.held_le_of_active performs.1
  have happens := starts_of_performs constants performs
  have settled (cycle : Nat) (later : start ≤ cycle) :
      constants.Settled (bridges trace cycle).settings := by
    have keys : keyHalves (trace cycle).point.line = 6 :=
      session.invariant (fun point _ => keyHalves point.line = 6)
        (fun _ _ word keys => keyHalves_next keys word) after
        (by rw [performs.2]; rfl) later
    have now := consistent session (by omega : held ≤ cycle)
    exact Keys.Written.settled (keys ▸ now.keys) now.decrypt
  have now := (consistent session after).block
  rw [performs.2] at now
  have block : (bridges trace start).regIdata = constants.blocks round := now
  rw [session.odata_of_settled after happens settled, block]

theorem regOdata_of_awaits {start cycle round : Nat} {line : Line}
    (performs : Performs ticks trace start ⟨.control, round⟩)
    (point : (trace cycle).point = ⟨line, round⟩)
    (awaits : started ⟨line, round⟩ = round + 1)
    (completed : start + 59 ≤ cycle) :
    (bridges trace cycle).regOdata =
      constants.encipher (constants.blocks round) := by
  rw [session.bridge.regOdata_of_lastStart session.bridge_follows rfl
      (session.held_le_of_active performs.1)
      (starts_of_performs constants performs) completed
      fun later less before =>
        no_later_starts session performs point awaits less (by omega),
    odata_of_performs session performs]

theorem seen_status {cycle : Nat} (active : (ticks cycle).active = true)
    (status : (trace cycle).point.line = .status) :
    seen constants ticks trace cycle = 1 ↔
      ∃ start, held ≤ start ∧ start + 58 < cycle ∧
        (inputs (program constants) ticks trace start).starts = true := by
  have read : (program constants).access (trace cycle).point = .read 11 := by
    change access constants _ = _
    rw [access, status]
  rw [seen, Des3Avalon.readdata_status (reads_busInput active read),
    session.bridge.regValidOut_iff session.bridge_follows rfl
      (session.held_le_of_active active)]

theorem exists_starts_of_low {cycle : Nat} (after : held ≤ cycle)
    (low : (trace cycle).point.line = .odataLo) :
    ∃ start, held ≤ start ∧ start + 58 < cycle ∧
      (inputs (program constants) ticks trace start).starts = true := by
  induction cycle, after using Nat.le_induction with
  | base =>
      rw [session.point_of_held (Nat.le_refl held)] at low
      contradiction
  | succ cycle after ih =>
      rw [session.point_succ] at low
      split at low
      · next active =>
          obtain ⟨status, set⟩ := status_of_next low
          obtain ⟨start, released, before, starts⟩ :=
            (seen_status session active status).mp set
          exact ⟨start, released, by omega, starts⟩
      · obtain ⟨start, released, before, starts⟩ := ih low
        exact ⟨start, released, by omega, starts⟩

/-- A client that reads late enough in every round reads its own results. -/
theorem readsOwnResults_of_timely (timely : Timely ticks trace) :
    ReadsOwnResults constants ticks trace := by
  intro round low high pair
  obtain ⟨start, -, performs⟩ := exists_performs session
    pair.low_reads.2 rfl
  have completed := timely round start low high performs pair
  have later := pair.high_later
  rw [seen_low pair.low_reads, seen_high pair.high_reads,
    regOdata_of_awaits session performs pair.low_reads.2 rfl completed,
    regOdata_of_awaits session performs pair.high_reads.2 rfl (by omega)]
  exact ⟨rfl, rfl⟩

/-- A word that is read too early belongs to the block of an earlier
round. -/
theorem seen_of_early {round start low high : Nat}
    (performs : Performs ticks trace start ⟨.control, round⟩)
    (pair : ReadsPair ticks trace round low high)
    (early : low < start + 59) :
    ∃ other < round, seen constants ticks trace low =
      lowWord (constants.encipher (constants.blocks other)) := by
  have after := session.held_le_of_active pair.low_reads.1
  obtain ⟨first, released, before, happens⟩ := exists_starts_of_low session
    after (congrArg Point.line pair.low_reads.2)
  have loading := (session.bridge.loads_iff session.bridge_follows rfl
    (first + 58)).mpr ⟨first, rfl, released, happens⟩
  obtain ⟨latest, firstBefore, isLast⟩ :=
    Des3Avalon.exists_lastLoad before loading
  obtain ⟨other, rfl, otherReleased, otherHappens⟩ :=
    (session.bridge.loads_iff session.bridge_follows rfl latest).mp
      isLast.2.1
  have otherBefore : other < start := by
    have := isLast.1
    omega
  obtain ⟨active, control⟩ := starts_iff.mp otherHappens
  have earlier := startsBefore_lt otherHappens otherBefore
  rw [startsBefore_of_point session performs.2, startsBefore_eq session] at earlier
  have otherPerforms : Performs ticks trace other
      ⟨.control, started (trace other).point⟩ :=
    ⟨active, eq_of_started control rfl⟩
  refine ⟨started (trace other).point, earlier, ?_⟩
  rw [seen_low pair.low_reads, Des3Avalon.regOdata_of_lastLoad
      session.bridge_follows
      (fun between from_ _ => session.bridge.low between from_)
      (by omega : held ≤ other + 58) isLast,
    odata_of_performs session otherPerforms]

end Runs

/-- The blocks do not influence where the client stands. -/
theorem point_eq {constants constants' : Constants} {held : Nat}
    {ticks : Nat → Tick} {trace trace' : Nat → State Point}
    (session : Session (program constants) entry held ticks trace)
    (session' : Session (program constants') entry held ticks trace')
    (cycle : Nat) : (trace cycle).point = (trace' cycle).point := by
  induction cycle using Nat.strong_induction_on with
  | _ cycle ih =>
      rcases Nat.lt_or_ge held cycle with after | before
      · obtain ⟨cycle, rfl⟩ : ∃ last, cycle = last + 1 :=
          ⟨cycle - 1, by omega⟩
        rw [session.point_succ, session'.point_succ,
          ih cycle (Nat.lt_succ_self cycle)]
        split
        · next active =>
            refine next_congr fun status => ?_
            change seen constants ticks trace cycle = 1 ↔
              seen constants' ticks trace' cycle = 1
            rw [seen_status session active
                (by rw [ih cycle (Nat.lt_succ_self cycle), status]),
              seen_status session' active status]
            refine exists_congr fun start => ?_
            refine and_congr_right fun _ => and_congr_right fun less => ?_
            rw [starts_iff, starts_iff, ih start (by omega)]
        · rfl
      · rw [session.point_of_held before, session'.point_of_held before]

theorem exists_encipher_eq (keys : Keys) (value : BitVec 64) :
    ∃ block, keys.encipher block = value :=
  ⟨Standard.tdes true keys.key1 keys.key2 keys.key3 value,
    tdes_not_tdes true keys.key1 keys.key2 keys.key3 value⟩

/-- The run of the client with given blocks. -/
def runWith (keys : Keys) (ticks : Nat → Tick) (bridge : Des3Avalon.State)
    (blocks : Nat → BitVec 64) : Nat → State Point :=
  run (step (program ⟨keys, blocks⟩)) ticks ⟨entry, bridge⟩

/-- For any pace of the bus, the client reads its own results whatever its
blocks are if and only if every round reads at least 59 cycles after its
control write.  A run in which all rounds do so is right by itself. -/
theorem readsOwnResults_iff_timely (keys : Keys) (ticks : Nat → Tick)
    (bridge : Des3Avalon.State) (held : Nat) (drained : bridge.Drained)
    (positive : 0 < held)
    (high : ∀ cycle < held, (ticks cycle).reset = true)
    (low : ∀ cycle, held ≤ cycle → (ticks cycle).reset = false) :
    ((∀ blocks, ReadsOwnResults ⟨keys, blocks⟩ ticks
          (runWith keys ticks bridge blocks)) ↔
        ∀ blocks, Timely ticks (runWith keys ticks bridge blocks)) ∧
      ∀ blocks, Timely ticks (runWith keys ticks bridge blocks) →
        ReadsOwnResults ⟨keys, blocks⟩ ticks
          (runWith keys ticks bridge blocks) := by
  have session (blocks : Nat → BitVec 64) :
      Session (program ⟨keys, blocks⟩) entry held ticks
        (runWith keys ticks bridge blocks) :=
    ⟨run_follows _ _ _, rfl, drained, positive, high, low⟩
  have sufficient (blocks : Nat → BitVec 64) :=
    readsOwnResults_of_timely (session blocks)
  refine ⟨⟨fun right blocks round start low high performs pair => ?_,
    fun timely blocks => sufficient blocks (timely blocks)⟩, sufficient⟩
  by_contra early
  -- blocks whose results differ in the low word between this round and others
  obtain ⟨zeros, zerosResult⟩ := exists_encipher_eq keys 0
  obtain ⟨ones, onesResult⟩ := exists_encipher_eq keys (-1)
  have same := point_eq (session blocks)
    (session fun other => if other = round then ones else zeros)
  have performs' : Performs ticks
      (runWith keys ticks bridge fun other =>
        if other = round then ones else zeros) start ⟨.control, round⟩ :=
    ⟨performs.1, (same start).symm.trans performs.2⟩
  have pair' : ReadsPair ticks
      (runWith keys ticks bridge fun other =>
        if other = round then ones else zeros) round low high :=
    ⟨⟨pair.low_reads.1, (same low).symm.trans pair.low_reads.2⟩,
      ⟨pair.high_reads.1, (same high).symm.trans pair.high_reads.2⟩,
      pair.high_later⟩
  obtain ⟨other, less, stale⟩ := seen_of_early (session _) performs' pair'
    (by omega)
  have own := (right _ round low high pair').1
  rw [stale] at own
  simp only [Nat.ne_of_lt less, if_false, if_true] at own
  change lowWord (keys.encipher zeros) = lowWord (keys.encipher ones) at own
  rw [zerosResult, onesResult] at own
  contradiction

/-- One access in every 64 cycles. -/
def slowBus (cycle : Nat) : Tick where
  reset := cycle == 0
  accesses := cycle % 64 == 0
  idleAddress := 0
  idleWritedata := 0

theorem readsOwnResults_iff_timely_slowBus :
    ReadsOwnResults ⟨⟨0, 0, 0⟩, fun round => BitVec.ofNat 64 round⟩ slowBus
      (runWith ⟨0, 0, 0⟩ slowBus default fun round =>
        BitVec.ofNat 64 round) := by
  have session : Session
      (program ⟨⟨0, 0, 0⟩, fun round => BitVec.ofNat 64 round⟩) entry 1
      slowBus (runWith ⟨0, 0, 0⟩ slowBus default fun round =>
        BitVec.ofNat 64 round) :=
    .of_first _ _ Des3Avalon.drained_default fun _ => rfl
  refine (readsOwnResults_iff_timely ⟨0, 0, 0⟩ slowBus default 1
    session.drained session.positive session.high session.low).2 _ ?_
  intro round start low high performs pair
  have before := lt_of_performs session performs pair.low_reads.2 rfl
  have first := performs.1
  have second := pair.low_reads.1
  simp [Tick.active, slowBus] at first second
  omega

/-- The bus waits for the first result and makes an access in every cycle
from then on. -/
def fastBus (cycle : Nat) : Tick where
  reset := cycle == 0
  accesses := cycle < 10 || 68 ≤ cycle
  idleAddress := 0
  idleWritedata := 0

/-- In the second round the client reads the result of the first. -/
theorem not_readsOwnResults_fastBus :
    ¬ ReadsOwnResults ⟨⟨0, 0, 0⟩, fun round => BitVec.ofNat 64 round⟩ fastBus
      (runWith ⟨0, 0, 0⟩ fastBus default fun round =>
        BitVec.ofNat 64 round) := by
  intro right
  have session : Session
      (program ⟨⟨0, 0, 0⟩, fun round => BitVec.ofNat 64 round⟩) entry 1
      fastBus (runWith ⟨0, 0, 0⟩ fastBus default fun round =>
        BitVec.ofNat 64 round) :=
    .of_first _ _ Des3Avalon.drained_default fun _ => rfl
  have pair : ReadsPair fastBus (runWith ⟨0, 0, 0⟩ fastBus default
      fun round => BitVec.ofNat 64 round) 1 75 76 :=
    ⟨⟨rfl, rfl⟩, ⟨rfl, rfl⟩, by omega⟩
  obtain ⟨other, less, stale⟩ := seen_of_early session
    (⟨rfl, rfl⟩ : Performs fastBus _ 73 ⟨.control, 1⟩) pair (by omega)
  obtain rfl : other = 0 := by omega
  have differ : lowWord (Keys.encipher ⟨0, 0, 0⟩ 0) ≠
      lowWord (Keys.encipher ⟨0, 0, 0⟩ 1) := by
    decide +kernel
  exact differ (stale.symm.trans (right 1 75 76 pair).1)

end Handshake

end TripleDes
