import TripleDes.ResultReads

/-!
# Programs on the bus

A program on the processor drives the bridge by one bus access after another;
where it goes next may depend on the word it read.  The bus decides in which
cycles the accesses happen, at most one in a cycle and with any number of idle
cycles in between.
-/

namespace TripleDes

open Clocked

namespace BusMaster

/-- One access to a register of the bridge. -/
inductive Access where
  | write (address : BitVec 4) (writedata : BitVec 32)
  | read (address : BitVec 4)

/-- The access that a program makes at each of its points, and the point at
which it continues with the word on the read bus. -/
structure Program (Point : Type*) where
  access : Point → Access
  next : Point → BitVec 32 → Point

/-- What happens in one cycle besides the program and the bridge: the reset,
the pace of the bus, and the signals on the lines that no access drives. -/
structure Tick where
  reset : Bool
  accesses : Bool
  idleAddress : BitVec 4
  idleWritedata : BitVec 32

/-- A program and the bridge. -/
structure State (Point : Type*) where
  point : Point
  bridge : Des3Avalon.State

variable {Point : Type*}

/-- The program makes its next access in this cycle. -/
def Tick.active (tick : Tick) : Bool :=
  !tick.reset && tick.accesses

def Access.signals (tick : Tick) : Access → Des3Avalon.Input
  | .write address writedata =>
      { reset := tick.reset
        avsAddress := address
        avsWrite := true
        avsWritedata := writedata }
  | .read address =>
      { reset := tick.reset
        avsAddress := address
        avsWrite := false
        avsWritedata := tick.idleWritedata }

def Tick.signals (tick : Tick) : Des3Avalon.Input where
  reset := tick.reset
  avsAddress := tick.idleAddress
  avsWrite := false
  avsWritedata := tick.idleWritedata

/-- The ports of the bridge in one cycle. -/
def busInput (program : Program Point) (tick : Tick) (state : State Point) :
    Des3Avalon.Input :=
  if tick.active then (program.access state.point).signals tick
  else tick.signals

/-- One cycle of the program and the bridge. -/
def step (program : Program Point) (tick : Tick) (state : State Point) :
    State Point where
  point :=
    if tick.active then
      program.next state.point (Des3Avalon.avsReaddata
        (busInput program tick state).avsAddress state.bridge)
    else state.point
  bridge := Des3Avalon.step (busInput program tick state) state.bridge

/-- The ports of the bridge in each cycle of a run. -/
def inputs (program : Program Point) (ticks : Nat → Tick)
    (trace : Nat → State Point) (cycle : Nat) : Des3Avalon.Input :=
  busInput program (ticks cycle) (trace cycle)

def bridges (trace : Nat → State Point) (cycle : Nat) : Des3Avalon.State :=
  (trace cycle).bridge

/-- What an access does to the settings of the bridge. -/
def Access.apply (access : Access) (settings : Des3Avalon.Settings) :
    Des3Avalon.Settings :=
  match access with
  | .write address writedata =>
      settings.after
        { reset := false
          avsAddress := address
          avsWrite := true
          avsWritedata := writedata }
  | .read _ => settings

/-- The access starts a block. -/
def Access.starts : Access → Bool
  | .write address writedata => address == 0x8 && writedata.getLsbD 0
  | .read _ => false

@[simp]
theorem reset_busInput (program : Program Point) (tick : Tick)
    (state : State Point) :
    (busInput program tick state).reset = tick.reset := by
  unfold busInput
  split
  · cases program.access state.point <;> rfl
  · rfl

theorem starts_busInput (program : Program Point) (tick : Tick)
    (state : State Point) :
    (busInput program tick state).starts =
      (tick.active && (program.access state.point).starts) := by
  unfold busInput
  cases active : tick.active with
  | false => rfl
  | true =>
      cases program.access state.point with
      | write address writedata =>
          simp [Access.signals, Des3Avalon.Input.starts,
            Des3Avalon.Input.writes, Access.starts]
      | read address => rfl

theorem reads_busInput {program : Program Point} {tick : Tick}
    {state : State Point} {address : BitVec 4} (active : tick.active = true)
    (read : program.access state.point = .read address) :
    (busInput program tick state).reads address = true := by
  simp [busInput, active, read, Access.signals, Des3Avalon.Input.reads]

theorem settings_busInput (program : Program Point) {tick : Tick}
    (state : State Point) (settings : Des3Avalon.Settings) :
    settings.after (busInput program tick state) =
      if tick.active then (program.access state.point).apply settings
      else settings := by
  unfold busInput
  split
  · cases program.access state.point with
    | write address writedata => rfl
    | read address => exact Des3Avalon.Settings.after_of_no_write rfl settings
  · exact Des3Avalon.Settings.after_of_no_write rfl settings

theorem settings_step (program : Program Point) {tick : Tick}
    (low : tick.reset = false) (state : State Point) :
    (step program tick state).bridge.settings =
      if tick.active then
        (program.access state.point).apply state.bridge.settings
      else state.bridge.settings := by
  change (Des3Avalon.step _ _).settings = _
  rw [Des3Avalon.step_of_low (by rw [reset_busInput, low]),
    Des3Avalon.settings_clocked, settings_busInput]

/-- The bridge runs inside a run of the program. -/
theorem bridges_follows {program : Program Point} {ticks : Nat → Tick}
    {trace : Nat → State Point} (follows : Follows (step program) ticks trace) :
    Follows Des3Avalon.step (inputs program ticks trace) (bridges trace) :=
  follows.component State.bridge (busInput program) fun _ _ => rfl

/-- The keys that a program puts into the bridge. -/
structure Keys where
  key1 : BitVec 64
  key2 : BitVec 64
  key3 : BitVec 64

/-- The published cipher in the enciphering mode. -/
def Keys.encipher (keys : Keys) (block : BitVec 64) : BitVec 64 :=
  Standard.tdes false keys.key1 keys.key2 keys.key3 block

/-- The settings hold the keys and the enciphering mode. -/
structure Keys.Settled (keys : Keys) (settings : Des3Avalon.Settings) :
    Prop where
  key1 : settings.key1 = keys.key1
  key2 : settings.key2 = keys.key2
  key3 : settings.key3 = keys.key3
  decrypt : settings.decrypt = false

/-- The first few of the six halves of the keys have been written, each key
beginning with its low half. -/
def Keys.Written (keys : Keys) (halves : Nat)
    (settings : Des3Avalon.Settings) : Prop :=
  match halves with
  | 0 => True
  | 1 => lowWord settings.key1 = lowWord keys.key1
  | 2 => settings.key1 = keys.key1
  | 3 =>
      settings.key1 = keys.key1 ∧
        lowWord settings.key2 = lowWord keys.key2
  | 4 => settings.key1 = keys.key1 ∧ settings.key2 = keys.key2
  | 5 =>
      settings.key1 = keys.key1 ∧ settings.key2 = keys.key2 ∧
        lowWord settings.key3 = lowWord keys.key3
  | _ =>
      settings.key1 = keys.key1 ∧ settings.key2 = keys.key2 ∧
        settings.key3 = keys.key3

theorem Keys.Written.settled {keys : Keys} {settings : Des3Avalon.Settings}
    (written : keys.Written 6 settings)
    (direction : settings.decrypt = false) : keys.Settled settings :=
  ⟨written.1, written.2.1, written.2.2, direction⟩

/-- A run of a program that begins with a reset in a moment when no block is
in flight. -/
structure Session (program : Program Point) (entry : Point) (held : Nat)
    (ticks : Nat → Tick) (trace : Nat → State Point) : Prop where
  follows : Follows (step program) ticks trace
  entry : (trace 0).point = entry
  drained : (trace 0).bridge.Drained
  positive : 0 < held
  high : ∀ cycle < held, (ticks cycle).reset = true
  low : ∀ cycle, held ≤ cycle → (ticks cycle).reset = false

/-- A session whose reset takes the first cycle alone. -/
theorem Session.of_first (program : Program Point) (entry : Point)
    {bridge : Des3Avalon.State} (drained : bridge.Drained)
    {ticks : Nat → Tick}
    (reset : ∀ cycle, (ticks cycle).reset = (cycle == 0)) :
    Session program entry 1 ticks (run (step program) ticks ⟨entry, bridge⟩)
    where
  follows := run_follows _ _ _
  entry := rfl
  drained := drained
  positive := Nat.one_pos
  high cycle before := by
    obtain rfl : cycle = 0 := by omega
    exact reset 0
  low cycle after := by
    rw [reset, beq_eq_false_iff_ne]
    omega

namespace Session

variable {program : Program Point} {entry : Point} {held : Nat}
  {ticks : Nat → Tick} {trace : Nat → State Point}

section Bridge

variable (session : Session program entry held ticks trace)
include session

theorem bridge_follows :
    Follows Des3Avalon.step (inputs program ticks trace) (bridges trace) :=
  bridges_follows session.follows

theorem bridge :
    Des3Avalon.Session held (trace 0).bridge (inputs program ticks trace) where
  drained := session.drained
  positive := session.positive
  high cycle before := by
    rw [inputs, reset_busInput, session.high cycle before]
  low cycle after := by
    rw [inputs, reset_busInput, session.low cycle after]

theorem point_of_held {cycle : Nat} (before : cycle ≤ held) :
    (trace cycle).point = entry := by
  induction cycle with
  | zero => exact session.entry
  | succ cycle ih =>
      rw [session.follows]
      simp [step, Tick.active, session.high cycle (by omega), ih (by omega)]

theorem starts_of_held {cycle : Nat} (before : cycle < held) :
    (inputs program ticks trace cycle).starts = false := by
  rw [inputs, starts_busInput, Tick.active, session.high cycle before]
  rfl

/-- The state in which the reset is released. -/
theorem released : (bridges trace held).Released :=
  session.bridge.released session.bridge_follows rfl

theorem held_le_of_active {cycle : Nat}
    (active : (ticks cycle).active = true) : held ≤ cycle := by
  by_contra before
  simp [Tick.active, session.high cycle (by omega)] at active

theorem point_succ (cycle : Nat) :
    (trace (cycle + 1)).point =
      if (ticks cycle).active then
        program.next (trace cycle).point (Des3Avalon.readdata
          (inputs program ticks trace) (bridges trace) cycle)
      else (trace cycle).point := by
  rw [session.follows]
  rfl

/-- What every access preserves between the program and the settings of the
bridge holds from the cycle on in which it is established. -/
theorem invariant (invariant : Point → Des3Avalon.Settings → Prop)
    (preserved : ∀ point settings word, invariant point settings →
      invariant (program.next point word)
        ((program.access point).apply settings))
    {first : Nat} (after : held ≤ first)
    (initially : invariant (trace first).point (bridges trace first).settings)
    {cycle : Nat} (later : first ≤ cycle) :
    invariant (trace cycle).point (bridges trace cycle).settings := by
  refine session.follows.invariant
    (fun state => invariant state.point state.bridge.settings) initially ?_
    cycle later
  intro cycle later holds
  rw [settings_step program (session.low cycle (by omega)), step]
  dsimp only
  split
  · exact preserved _ _ _ holds
  · exact holds

/-- A block that is started in settings that stay as they are leaves the
cascade as the published cipher. -/
theorem odata_of_settled {keys : Keys} {start : Nat} (after : held ≤ start)
    (starts : (inputs program ticks trace start).starts = true)
    (settled : ∀ cycle, start ≤ cycle →
      keys.Settled (bridges trace cycle).settings) :
    (bridges trace (start + 58)).uDes3.odata =
      keys.encipher (bridges trace start).regIdata := by
  have low : Throughout start (start + 58) fun cycle =>
      (inputs program ticks trace cycle).reset = false :=
    fun cycle from_ _ => session.bridge.low cycle (by omega)
  have samples : Des3.Held
      (Des3Avalon.ports (inputs program ticks trace) (bridges trace))
      (start + 1) false keys.key1 keys.key2 keys.key3 :=
    fun cycle from_ _ => by
      have now := settled cycle (by omega)
      exact ⟨now.decrypt, now.key1, now.key2, now.key3⟩
  exact Des3Avalon.odata_of_sampled session.bridge_follows low starts
    samples.sampled

end Bridge

end Session

/-- The accesses in these cycles follow each other with no reset in
between. -/
structure Consecutive (ticks : Nat → Tick) (first second : Nat) : Prop where
  first_active : (ticks first).active = true
  second_active : (ticks second).active = true
  later : first < second
  idle : ∀ cycle, first < cycle → cycle < second →
    (ticks cycle).reset = false ∧ (ticks cycle).accesses = false

theorem Tick.low_of_active {tick : Tick} (active : tick.active = true) :
    tick.reset = false := by
  rw [Tick.active, Bool.and_eq_true, Bool.not_eq_true'] at active
  exact active.1

namespace Consecutive

variable {Point : Type*} {program : Program Point} {ticks : Nat → Tick}
  {trace : Nat → State Point} {first second : Nat}
  (consecutive : Consecutive ticks first second)
include consecutive

theorem low {cycle : Nat} (after : first ≤ cycle) (before : cycle ≤ second) :
    (ticks cycle).reset = false := by
  rcases Nat.lt_or_eq_of_le after with later | rfl
  · rcases Nat.lt_or_eq_of_le before with earlier | rfl
    · exact (consecutive.idle cycle later earlier).1
    · exact Tick.low_of_active consecutive.second_active
  · exact Tick.low_of_active consecutive.first_active

variable (follows : Follows (step program) ticks trace)
include follows

/-- Between the accesses the program and the settings stay as the first one
left them. -/
theorem kept {cycle : Nat} (after : first < cycle) (before : cycle ≤ second) :
    (trace cycle).point = program.next (trace first).point
        (Des3Avalon.readdata (inputs program ticks trace) (bridges trace)
          first) ∧
      (bridges trace cycle).settings =
        (program.access (trace first).point).apply
          (bridges trace first).settings := by
  induction cycle, Nat.succ_le_of_lt after using Nat.le_induction with
  | base =>
      have low := consecutive.low (Nat.le_refl first) consecutive.later.le
      rw [bridges, follows, settings_step program low,
        if_pos consecutive.first_active]
      refine ⟨?_, rfl⟩
      rw [step, if_pos consecutive.first_active]
      rfl
  | succ cycle reached ih =>
      obtain ⟨low, quiet⟩ :=
        consecutive.idle cycle reached (Nat.lt_of_succ_le before)
      have idle : ¬ (ticks cycle).active = true := by
        simp [Tick.active, quiet]
      obtain ⟨samePoint, sameSettings⟩ := ih reached (by omega)
      rw [bridges, follows, settings_step program low, if_neg idle]
      refine ⟨?_, sameSettings⟩
      rw [step, if_neg idle]
      exact samePoint

theorem point_succ :
    (trace (second + 1)).point = program.next (trace second).point
      (Des3Avalon.readdata (inputs program ticks trace) (bridges trace)
        second) := by
  rw [follows, step, if_pos consecutive.second_active]
  rfl

theorem settings_succ :
    (bridges trace (second + 1)).settings =
      (program.access (trace second).point).apply
        (bridges trace second).settings := by
  rw [bridges, follows, settings_step program
    (consecutive.low consecutive.later.le (Nat.le_refl second)),
    if_pos consecutive.second_active]
  rfl

/-- Without a completion in between, both accesses find the same result. -/
theorem regOdata_eq
    (quiet : ∀ cycle, first ≤ cycle → cycle < second →
      Des3Avalon.loads (inputs program ticks trace cycle)
        (bridges trace cycle) = false) :
    (bridges trace second).regOdata = (bridges trace first).regOdata := by
  have latches : Events.Latches first second
      (fun cycle => Des3Avalon.loads (inputs program ticks trace cycle)
        (bridges trace cycle))
      (fun cycle => (bridges trace cycle).uDes3.odata)
      (fun cycle => (bridges trace cycle).regOdata) :=
    fun cycle after before => Des3Avalon.regOdata_succ (bridges_follows follows) (by
      rw [inputs, reset_busInput, consecutive.low after before.le])
  exact latches.hold (Nat.le_refl first) consecutive.later.le
    (Nat.le_refl second) quiet

end Consecutive

end BusMaster

end TripleDes
