import TripleDes.Interconnect.Arbitrator
import TripleDes.Library.Events
import Mathlib.Data.List.Chain

/-!
# The command multiplexer

`system_cmd_xbar_mux.sv` stands in front of each of the slaves that the
instruction master and the data master of the processor share.  It forwards the
packets of both, one after the other and each as a whole, and a master waits
for at most one packet of the other.
-/

namespace TripleDes

open Clocked

namespace CmdXbarMux

/-- The ports of a sink. -/
structure Sink where
  valid : Bool
  data : BitVec 87
  channel : BitVec 4
  startofpacket : Bool
  endofpacket : Bool

structure Input where
  reset : Bool
  sink0 : Sink
  sink1 : Sink
  srcReady : Bool

def Input.sink (input : Input) : Fin 2 → Sink
  | 0 => input.sink0
  | 1 => input.sink1

structure State where
  locked : BitVec 2
  packetInProgress : Bool
  shareCount : BitVec 1
  shareCountZeroFlag : Bool
  savedGrant : BitVec 2
  arb : Arbitrator.State 2

/-- `{sink_channel, sink_data, sink_startofpacket, sink_endofpacket}`. -/
def Sink.payload (sink : Sink) : BitVec 93 :=
  sink.channel ++ sink.data ++ BitVec.ofBool sink.startofpacket ++
    BitVec.ofBool sink.endofpacket

section Signals

variable (input : Input) (state : State)

def valid : BitVec 2 :=
  Wiring.ofBits fun sink => (input.sink sink).valid

def lock : BitVec 2 :=
  Wiring.ofBits fun sink => (input.sink sink).data.getLsbD 56

/-- The arbitration is pipelined. -/
def request : BitVec 2 :=
  valid input ||| state.locked

def srcValid : Bool :=
  state.savedGrant &&& valid input != 0

def srcPayload : BitVec 93 :=
  input.sink0.payload &&& BitVec.fill 93 (state.savedGrant.getLsbD 0) |||
    input.sink1.payload &&& BitVec.fill 93 (state.savedGrant.getLsbD 1)

def srcEndofpacket : Bool :=
  (srcPayload input state).getLsbD 0

def sinkReady (sink : Fin 2) : Bool :=
  input.srcReady && state.savedGrant.getLsbD sink

def lastCycle : Bool :=
  srcValid input state && input.srcReady && srcEndofpacket input state &&
    !(lock input &&& state.savedGrant != 0)

def nextGrant : BitVec 2 :=
  Arbitrator.grant .roundRobin (request input state) state.arb

/-- The share of either input. -/
def share : BitVec 1 :=
  0

def nextGrantShare : BitVec 1 :=
  share &&& BitVec.fill 1 ((nextGrant input state).getLsbD 0) |||
    share &&& BitVec.fill 1 ((nextGrant input state).getLsbD 1)

def p1ShareCount : BitVec 1 :=
  if state.shareCountZeroFlag then 0 else state.shareCount - 1

def updateGrant : Bool :=
  !state.packetInProgress && !srcValid input state ||
    lastCycle input state && state.shareCountZeroFlag

def arbInput : Arbitrator.Input 2 where
  reset := input.reset
  request := request input state
  incrementTopPriority := updateGrant input state
  saveTopPriority := srcValid input state

end Signals

/-- One clock edge. -/
def step (input : Input) (state : State) : State :=
  let arb := Arbitrator.step .roundRobin true (arbInput input state) state.arb
  if input.reset then
    { locked := 0
      packetInProgress := false
      shareCount := 0
      shareCountZeroFlag := true
      savedGrant := 0
      arb := arb }
  else
    { locked := nextGrant input state &&& lock input
      packetInProgress :=
        if lastCycle input state then false
        else if srcValid input state then true
        else state.packetInProgress
      shareCount :=
        if updateGrant input state then nextGrantShare input state
        else if lastCycle input state then p1ShareCount state
        else state.shareCount
      shareCountZeroFlag :=
        if updateGrant input state then nextGrantShare input state == 0
        else if lastCycle input state then p1ShareCount state == 0
        else state.shareCountZeroFlag
      savedGrant :=
        if updateGrant input state then nextGrant input state
        else state.savedGrant
      arb := arb }

/-- What a sink hands over. -/
def accepted (sink : Fin 2) (input : Input) (state : State) :
    Option (BitVec 93) :=
  if sinkReady input state sink && (input.sink sink).valid then
    some (input.sink sink).payload
  else none

/-- What the source hands on. -/
def forwarded (input : Input) (state : State) : Option (BitVec 93) :=
  if srcValid input state && input.srcReady then some (srcPayload input state)
  else none

/-- What is handed over, and by whom. -/
def taken (input : Input) (state : State) : Option (Fin 2 × BitVec 93) :=
  (List.finRange 2).findSome? fun sink =>
    (accepted sink input state).map fun payload => (sink, payload)

/-- The last word of a packet, unless the master locks the slave. -/
def endsPacket (payload : BitVec 93) : Bool :=
  payload.getLsbD 0 && !payload.getLsbD 58

theorem taken_eq (input : Input) (state : State) :
    taken input state =
      ((accepted 0 input state).map fun payload => (0, payload)).or
        ((accepted 1 input state).map fun payload => (1, payload)) := by
  have both : List.finRange 2 = [0, 1] := rfl
  rw [taken, both, List.findSome?_cons, List.findSome?_cons, List.findSome?_nil]
  cases accepted 0 input state <;> cases accepted 1 input state <;> rfl

section Granted

variable {input : Input} {state : State} {sink : Fin 2}

theorem sinkReady_of_granted
    (granted : state.savedGrant = Arbitrator.oneHot sink) (other : Fin 2) :
    sinkReady input state other = (input.srcReady && decide (sink = other)) := by
  rw [sinkReady, granted, Arbitrator.getLsbD_oneHot]

theorem srcValid_of_granted
    (granted : state.savedGrant = Arbitrator.oneHot sink) :
    srcValid input state = (input.sink sink).valid := by
  rw [srcValid, granted, Arbitrator.oneHot_and_bne_zero, valid,
    Wiring.getLsbD_ofBits]

theorem and_fill {width : Nat} (word : BitVec width) (bit : Bool) :
    word &&& BitVec.fill width bit = if bit then word else 0 := by
  cases bit with
  | false => simp [BitVec.fill]
  | true => simp [BitVec.fill, BitVec.neg_one_eq_allOnes]

theorem srcPayload_of_granted
    (granted : state.savedGrant = Arbitrator.oneHot sink) :
    srcPayload input state = (input.sink sink).payload := by
  have first : state.savedGrant.getLsbD 0 = decide (sink = 0) := by
    rw [granted]
    exact Arbitrator.getLsbD_oneHot sink 0
  have second : state.savedGrant.getLsbD 1 = decide (sink = 1) := by
    rw [granted]
    exact Arbitrator.getLsbD_oneHot sink 1
  rw [srcPayload, and_fill, and_fill, first, second]
  match sink with
  | 0 => exact BitVec.or_zero
  | 1 => exact BitVec.zero_or

theorem getLsbD_payload (sink : Sink) :
    sink.payload.getLsbD 0 = sink.endofpacket ∧
      sink.payload.getLsbD 58 = sink.data.getLsbD 56 := by
  constructor
  · rw [Sink.payload, BitVec.getLsbD_append, if_pos (by decide)]
    cases sink.endofpacket <;> rfl
  · rw [Sink.payload, BitVec.getLsbD_append, if_neg (by decide),
      BitVec.getLsbD_append, if_neg (by decide), BitVec.getLsbD_append,
      if_pos (by decide)]

theorem lastCycle_of_granted
    (granted : state.savedGrant = Arbitrator.oneHot sink) :
    lastCycle input state = ((input.sink sink).valid && input.srcReady &&
      endsPacket (input.sink sink).payload) := by
  have locks : (lock input &&& state.savedGrant != 0) =
      (input.sink sink).payload.getLsbD 58 := by
    rw [granted, BitVec.and_comm, Arbitrator.oneHot_and_bne_zero, lock,
      Wiring.getLsbD_ofBits, (getLsbD_payload _).2]
  rw [lastCycle, locks, srcValid_of_granted granted, srcEndofpacket,
    srcPayload_of_granted granted, endsPacket, Bool.and_assoc _ _ (!_)]

/-- What the granted sink hands over is what is taken, and what is handed
on. -/
theorem taken_of_granted
    (granted : state.savedGrant = Arbitrator.oneHot sink) :
    taken input state =
      if (input.sink sink).valid && input.srcReady then
        some (sink, (input.sink sink).payload)
      else none := by
  rw [taken_eq, accepted, accepted, sinkReady_of_granted granted,
    sinkReady_of_granted granted]
  match sink with
  | 0 => cases (input.sink 0).valid <;> cases input.srcReady <;> rfl
  | 1 => cases (input.sink 1).valid <;> cases input.srcReady <;> rfl

theorem forwarded_of_granted
    (granted : state.savedGrant = Arbitrator.oneHot sink) :
    forwarded input state = (taken input state).map Prod.snd := by
  rw [forwarded, taken_of_granted granted, srcValid_of_granted granted,
    srcPayload_of_granted granted]
  split <;> rfl

theorem accepted_of_granted
    (granted : state.savedGrant = Arbitrator.oneHot sink) (other : Fin 2) :
    accepted other input state = (taken input state).bind fun word =>
      if word.1 = other then some word.2 else none := by
  rw [accepted, taken_of_granted granted, sinkReady_of_granted granted]
  by_cases same : sink = other
  · subst same
    cases (input.sink sink).valid <;> cases input.srcReady <;> simp
  · cases (input.sink sink).valid <;> cases input.srcReady <;> simp [same]

end Granted

section NotGranted

variable {input : Input} {state : State} (idle : state.savedGrant = 0)
include idle

theorem srcValid_of_idle : srcValid input state = false := by
  rw [srcValid, idle, BitVec.ofNat_eq_ofNat, BitVec.zero_and]
  rfl

theorem accepted_of_idle (sink : Fin 2) : accepted sink input state = none := by
  rw [accepted, sinkReady, idle, BitVec.ofNat_eq_ofNat, BitVec.getLsbD_zero,
    Bool.and_false, Bool.false_and]
  rfl

theorem taken_of_idle : taken input state = none := by
  rw [taken_eq, accepted_of_idle idle, accepted_of_idle idle]
  rfl

theorem forwarded_of_idle : forwarded input state = none := by
  rw [forwarded, srcValid_of_idle idle]
  rfl

end NotGranted

theorem nextGrantShare_eq (input : Input) (state : State) :
    nextGrantShare input state = 0 := by
  rw [nextGrantShare, share, and_fill, and_fill, ite_self, ite_self]
  rfl

/-- At most one sink is granted, and the share counter rests at zero. -/
structure Sound (state : State) : Prop where
  granted : state.savedGrant = 0 ∨
    ∃ sink, state.savedGrant = Arbitrator.oneHot sink
  zeroFlag : state.shareCountZeroFlag = true

/-- The packet of a word goes on. -/
structure GoesOn (state : State) (word : Fin 2 × BitVec 93) : Prop where
  packetInProgress : state.packetInProgress = true
  granted : state.savedGrant = Arbitrator.oneHot word.1

theorem granted_of_taken {input : Input} {state : State}
    {word : Fin 2 × BitVec 93} (sound : Sound state)
    (now : taken input state = some word) :
    state.savedGrant = Arbitrator.oneHot word.1 := by
  rcases sound.granted with idle | ⟨sink, granted⟩
  · rw [taken_of_idle idle] at now
    contradiction
  · rw [taken_of_granted granted] at now
    split at now
    · obtain rfl := Option.some.inj now
      exact granted
    · contradiction

theorem granted_of_srcValid {input : Input} {state : State} (sound : Sound state)
    (offered : srcValid input state = true) :
    ∃ sink, state.savedGrant = Arbitrator.oneHot sink := by
  refine sound.granted.resolve_left fun idle => ?_
  rw [srcValid_of_idle idle] at offered
  contradiction

section Step

variable {input : Input} {state : State} (low : input.reset = false)
include low

theorem savedGrant_step :
    (step input state).savedGrant =
      if updateGrant input state then nextGrant input state
      else state.savedGrant := by
  rw [step, if_neg (by simp [low])]

theorem Sound.step (sound : Sound state)
    (next : nextGrant input state = 0 ∨
      ∃ sink, nextGrant input state = Arbitrator.oneHot sink) :
    Sound (step input state) where
  granted := by
    rw [savedGrant_step low]
    split
    · exact next
    · exact sound.granted
  zeroFlag := by
    rw [CmdXbarMux.step, if_neg (by simp [low])]
    simp [nextGrantShare_eq, p1ShareCount, sound.zeroFlag]

theorem packetInProgress_step
    (busy : (step input state).packetInProgress = true) :
    lastCycle input state = false ∧
      (srcValid input state = true ∨ state.packetInProgress = true) := by
  rw [step, if_neg (by simp [low])] at busy
  grind

/-- The grant stays until the last word of the packet. -/
theorem goesOn_step {word : Fin 2 × BitVec 93}
    (granted : state.savedGrant = Arbitrator.oneHot word.1)
    (busy : state.packetInProgress = true ∨ srcValid input state = true)
    (notLast : lastCycle input state = false) :
    GoesOn (step input state) word where
  packetInProgress := by
    rw [step, if_neg (by simp [low])]
    rcases busy with busy | busy <;> simp [notLast, busy]
  granted := by
    have keeps : updateGrant input state = false := by
      rcases busy with busy | busy <;> simp [updateGrant, notLast, busy]
    rw [savedGrant_step low, keeps, if_neg Bool.false_ne_true, granted]

/-- While no word is taken the packet goes on. -/
theorem GoesOn.kept {word : Fin 2 × BitVec 93} (goesOn : GoesOn state word)
    (now : taken input state = none) : GoesOn (step input state) word := by
  have notLast : lastCycle input state = false := by
    rw [lastCycle_of_granted goesOn.granted]
    rw [taken_of_granted goesOn.granted] at now
    split at now
    · contradiction
    · next idle => rw [Bool.eq_false_iff.mpr idle, Bool.false_and]
  exact goesOn_step low goesOn.granted (.inl goesOn.packetInProgress) notLast

/-- A word that is taken ends its packet, or the packet goes on. -/
theorem goesOn_of_taken {word : Fin 2 × BitVec 93}
    (granted : state.savedGrant = Arbitrator.oneHot word.1)
    (now : taken input state = some word) :
    endsPacket word.2 = true ∨ GoesOn (step input state) word := by
  rw [taken_of_granted granted] at now
  split at now
  · next busy =>
      have payload : (input.sink word.1).payload = word.2 :=
        congrArg Prod.snd (Option.some.inj now)
      cases ends : endsPacket word.2 with
      | true => exact .inl rfl
      | false =>
          right
          refine goesOn_step low granted (.inr ?_) ?_
          · rw [srcValid_of_granted granted]
            exact (Bool.and_eq_true _ _ ▸ busy).1
          · rw [lastCycle_of_granted granted, payload, ends, Bool.and_false]
  · contradiction

end Step

/-- The masters lock nothing, send packets of one word and hold each word until
it is taken. -/
structure Orderly (inputs : Nat → Input) (trace : Nat → State) : Prop where
  ends {cycle : Nat} {sink : Fin 2} :
    ((inputs cycle).sink sink).valid = true →
      endsPacket ((inputs cycle).sink sink).payload = true
  holds {cycle : Nat} {sink : Fin 2} :
    ((inputs cycle).sink sink).valid = true →
      accepted sink (inputs cycle) (trace cycle) = none →
        (inputs cycle).reset = false →
          ((inputs (cycle + 1)).sink sink).valid = true

/-- A sink shows a word and is not granted. -/
structure Waits (sink : Fin 2) (input : Input) (state : State) : Prop where
  low : input.reset = false
  valid : (input.sink sink).valid = true
  passed : state.savedGrant ≠ Arbitrator.oneHot sink

theorem Waits.requests {sink : Fin 2} {input : Input} {state : State}
    (waits : Waits sink input state) :
    Arbitrator.requests (request input state) sink = true := by
  rw [Arbitrator.requests, request, BitVec.getLsbD_or, CmdXbarMux.valid,
    Wiring.getLsbD_ofBits, waits.valid, Bool.true_or]

/-- The words taken from the first cycle behind the reset on. -/
def words (inputs : Nat → Input) (trace : Nat → State) :
    Nat → List (Fin 2 × BitVec 93) :=
  Events.before fun offset => taken (inputs (offset + 1)) (trace (offset + 1))

section Runs

variable {inputs : Nat → Input} {trace : Nat → State}
  (follows : Follows step inputs trace) (begins : (inputs 0).reset = true)
include follows

theorem arb_follows : Follows (Arbitrator.step .roundRobin true)
    (fun cycle => arbInput (inputs cycle) (trace cycle))
    (fun cycle => (trace cycle).arb) :=
  follows.component State.arb arbInput fun input state => by
    unfold step
    split <;> rfl

include begins

theorem sound {cycle : Nat} (later : 0 < cycle) : Sound (trace cycle) := by
  have reset {now : Nat} (high : (inputs now).reset = true) :
      Sound (trace (now + 1)) := by
    rw [follows, step, if_pos high]
    exact ⟨.inl rfl, rfl⟩
  induction cycle, later using Nat.le_induction with
  | base => exact reset begins
  | succ cycle later ih =>
      cases high : (inputs cycle).reset with
      | true => exact reset high
      | false =>
          rw [follows]
          refine ih.step high ?_
          rcases Arbitrator.grant_cases (arb_follows follows) begins later with
            ⟨-, none⟩ | ⟨sink, -, some⟩
          · exact .inl none
          · exact .inr ⟨sink, some⟩

/-- Behind a word that does not end its packet comes a word of the same sink,
and the packet of the last word goes on if that does not end it. -/
theorem whole_packets {offset : Nat}
    (low : ∀ cycle, 0 < cycle → cycle ≤ offset → (inputs cycle).reset = false) :
    (words inputs trace offset).IsChain
        (fun first second => endsPacket first.2 = true ∨ first.1 = second.1) ∧
      ∀ last ∈ (words inputs trace offset).getLast?,
        endsPacket last.2 = true ∨ GoesOn (trace (offset + 1)) last := by
  induction offset with
  | zero =>
      refine ⟨List.IsChain.nil, fun last member => ?_⟩
      exact absurd member (by simp [words, Events.before])
  | succ offset ih =>
      obtain ⟨chain, last⟩ := ih fun cycle later upTo => low cycle later (by omega)
      have lowNow := low (offset + 1) (Nat.succ_pos offset) (Nat.le_refl _)
      have log : words inputs trace (offset + 1) = words inputs trace offset ++
          (taken (inputs (offset + 1)) (trace (offset + 1))).toList := rfl
      rw [log, follows (offset + 1)]
      cases now : taken (inputs (offset + 1)) (trace (offset + 1)) with
      | none =>
          rw [Option.toList_none, List.append_nil]
          exact ⟨chain, fun word member =>
            (last word member).imp_right fun goesOn => goesOn.kept lowNow now⟩
      | some word =>
          have granted := granted_of_taken
            (sound follows begins (Nat.succ_pos offset)) now
          refine ⟨chain.append (List.isChain_singleton _) ?_, ?_⟩
          · intro earlier member next same
            obtain rfl := Option.some.inj same
            refine (last earlier member).imp_right fun goesOn => ?_
            exact Arbitrator.oneHot_injective (goesOn.granted.symm.trans granted)
          · intro next member
            rw [Option.toList_some, List.getLast?_concat] at member
            obtain rfl := Option.some.inj member
            exact goesOn_of_taken lowNow granted now

/-- The next search begins behind the sink that is granted. -/
theorem place_of_granted {cycle : Nat} (later : 0 < cycle) {sink : Fin 2}
    (granted : (trace cycle).savedGrant = Arbitrator.oneHot sink) :
    (trace cycle).arb.topPriorityReg = Arbitrator.oneHot (sink + 1) := by
  have reset {now : Nat} (high : (inputs now).reset = true) :
      (trace (now + 1)).savedGrant ≠ Arbitrator.oneHot sink := by
    rw [follows, step, if_pos high]
    exact (Arbitrator.oneHot_ne_zero sink).symm
  induction cycle, later using Nat.le_induction with
  | base => exact absurd granted (reset begins)
  | succ cycle later ih =>
      cases high : (inputs cycle).reset with
      | true => exact absurd granted (reset high)
      | false =>
          rw [follows, savedGrant_step high] at granted
          have next : (trace (cycle + 1)).arb = Arbitrator.step .roundRobin true
              (arbInput (inputs cycle) (trace cycle)) (trace cycle).arb :=
            arb_follows follows cycle
          rw [next]
          cases update : updateGrant (inputs cycle) (trace cycle) with
          | false =>
              rw [update, if_neg Bool.false_ne_true] at granted
              exact (Arbitrator.placed_step high (ih granted)).1 (.inl update)
          | true =>
              rw [if_pos update] at granted
              obtain ⟨first, placed⟩ :=
                Arbitrator.exists_place (arb_follows follows) begins later
              have top := Arbitrator.topPriority_eq placed
              by_cases none : request (inputs cycle) (trace cycle) = 0
              · rw [nextGrant, Arbitrator.grant_of_none top none] at granted
                exact absurd granted.symm (Arbitrator.oneHot_ne_zero sink)
              · obtain ⟨chosen, isChosen⟩ := RoundRobin.exists_chosen first
                  (Arbitrator.exists_requests none)
                rw [nextGrant, Arbitrator.grant_of_chosen top isChosen] at granted
                rw [← Arbitrator.oneHot_injective granted]
                exact (Arbitrator.placed_step high placed).2 chosen update isChosen

theorem updateGrant_of_lastCycle {cycle : Nat} (later : 0 < cycle)
    (last : lastCycle (inputs cycle) (trace cycle) = true) :
    updateGrant (inputs cycle) (trace cycle) = true := by
  have zeroFlag := (sound follows begins later).zeroFlag
  rw [updateGrant, last, zeroFlag, Bool.and_self, Bool.or_true]

/-- With orderly masters a packet in progress has its word at the source. -/
theorem srcValid_of_packetInProgress (orderly : Orderly inputs trace)
    {cycle : Nat} (later : 0 < cycle)
    (busy : (trace cycle).packetInProgress = true) :
    srcValid (inputs cycle) (trace cycle) = true := by
  have reset {now : Nat} (high : (inputs now).reset = true) :
      (trace (now + 1)).packetInProgress = false := by
    rw [follows, step, if_pos high]
  induction cycle, later using Nat.le_induction with
  | base =>
      rw [reset begins] at busy
      contradiction
  | succ cycle later ih =>
      cases high : (inputs cycle).reset with
      | true =>
          rw [reset high] at busy
          contradiction
      | false =>
          rw [follows] at busy
          obtain ⟨notLast, earlier⟩ := packetInProgress_step high busy
          have offered : srcValid (inputs cycle) (trace cycle) = true :=
            earlier.elim id ih
          obtain ⟨sink, granted⟩ :=
            granted_of_srcValid (sound follows begins later) offered
          -- the word ends its packet, so it is the slave that is not ready
          have asking := offered
          rw [srcValid_of_granted granted] at asking
          have stalled : (inputs cycle).srcReady = false := by
            rw [lastCycle_of_granted granted, asking, orderly.ends asking,
              Bool.true_and, Bool.and_true] at notLast
            exact notLast
          have kept : GoesOn (trace (cycle + 1)) (sink, 0) := by
            rw [follows]
            exact goesOn_step high granted (.inr offered) notLast
          rw [srcValid_of_granted kept.granted]
          refine orderly.holds asking ?_ high
          rw [accepted, sinkReady, stalled, Bool.false_and, Bool.false_and]
          rfl

/-- With orderly masters the grant is updated whenever the slave is ready. -/
theorem updateGrant_of_srcReady (orderly : Orderly inputs trace) {cycle : Nat}
    (later : 0 < cycle) (ready : (inputs cycle).srcReady = true) :
    updateGrant (inputs cycle) (trace cycle) = true := by
  cases offered : srcValid (inputs cycle) (trace cycle) with
  | false =>
      have idle : (trace cycle).packetInProgress = false := by
        rw [Bool.eq_false_iff]
        intro busy
        rw [srcValid_of_packetInProgress follows begins orderly later busy]
          at offered
        contradiction
      rw [updateGrant, offered, idle]
      rfl
  | true =>
      obtain ⟨sink, granted⟩ :=
        granted_of_srcValid (sound follows begins later) offered
      rw [srcValid_of_granted granted] at offered
      apply updateGrant_of_lastCycle follows begins later
      rw [lastCycle_of_granted granted, offered, ready, orderly.ends offered]
      rfl

/-- Behind the grant of the other sink the one that waits is next. -/
theorem nextGrant_of_waits {cycle : Nat} (later : 0 < cycle) {sink other : Fin 2}
    (waits : Waits sink (inputs cycle) (trace cycle))
    (granted : (trace cycle).savedGrant = Arbitrator.oneHot other) :
    nextGrant (inputs cycle) (trace cycle) = Arbitrator.oneHot sink := by
  have different : other ≠ sink := by
    rintro rfl
    exact waits.passed granted
  have adjacent : ∀ first second : Fin 2, first ≠ second → first + 1 = second := by
    decide
  have placed := place_of_granted follows begins later granted
  rw [adjacent other sink different] at placed
  refine Arbitrator.grant_of_chosen (Arbitrator.topPriority_eq placed)
    ⟨waits.requests, fun index _ => ?_⟩
  rw [sub_self]
  exact Fin.zero_le _

/-- How many updates of the grant a sink that keeps asking waits for. -/
def updatesLeft (sink : Fin 2) (state : State) : Nat :=
  if state.savedGrant = 0 then 2
  else if state.savedGrant = Arbitrator.oneHot sink then 0 else 1

theorem updateGrant_add_updatesLeft_le {cycle : Nat} (later : 0 < cycle)
    {sink : Fin 2} (waits : Waits sink (inputs cycle) (trace cycle)) :
    (updateGrant (inputs cycle) (trace cycle)).toNat +
        updatesLeft sink (trace (cycle + 1)) ≤
      updatesLeft sink (trace cycle) := by
  have next : (trace (cycle + 1)).savedGrant =
      if updateGrant (inputs cycle) (trace cycle) then
        nextGrant (inputs cycle) (trace cycle)
      else (trace cycle).savedGrant := by
    rw [follows, savedGrant_step waits.low]
  cases update : updateGrant (inputs cycle) (trace cycle) with
  | false =>
      rw [update, if_neg Bool.false_ne_true] at next
      rw [updatesLeft, updatesLeft, next, Bool.toNat_false, Nat.zero_add]
  | true =>
      rw [if_pos update] at next
      rw [Bool.toNat_true, updatesLeft, updatesLeft, next, if_neg waits.passed]
      rcases (sound follows begins later).granted with idle | ⟨other, granted⟩
      · -- the sink asks, so some sink is granted
        have some : nextGrant (inputs cycle) (trace cycle) ≠ 0 := by
          rcases Arbitrator.grant_cases (arb_follows follows) begins later with
            ⟨none, -⟩ | ⟨chosen, -, granted⟩
          · have asks := waits.requests
            rw [show request (inputs cycle) (trace cycle) = 0 from none] at asks
            exact absurd asks (by simp [Arbitrator.requests])
          · exact fun none =>
              Arbitrator.oneHot_ne_zero chosen (granted.symm.trans none)
        rw [if_pos idle, if_neg some]
        split <;> omega
      · rw [nextGrant_of_waits follows begins later waits granted, if_pos rfl,
          if_neg (Arbitrator.oneHot_ne_zero sink), granted,
          if_neg (Arbitrator.oneHot_ne_zero other)]

end Runs

/-- In every run that begins with a reset and has no other, the words handed on
are those taken from the sinks, each sink's in the order in which it hands them
over, and the words of two packets are never mixed. -/
theorem forwards_whole_packets (initial : State) (inputs : Nat → Input)
    (begins : (inputs 0).reset = true) (offset : Nat)
    (low : ∀ cycle, 0 < cycle → cycle ≤ offset → (inputs cycle).reset = false) :
    Events.before (fun earlier => forwarded (inputs (earlier + 1))
        (run step inputs initial (earlier + 1))) offset =
      (words inputs (run step inputs initial) offset).map Prod.snd ∧
    (∀ sink, Events.before (fun earlier => accepted sink (inputs (earlier + 1))
        (run step inputs initial (earlier + 1))) offset =
      (words inputs (run step inputs initial) offset).filterMap fun word =>
        if word.1 = sink then some word.2 else none) ∧
    (words inputs (run step inputs initial) offset).IsChain
      fun first second => endsPacket first.2 = true ∨ first.1 = second.1 := by
  have follows := run_follows step inputs initial
  have granted (earlier : Nat) :=
    (sound follows begins (Nat.succ_pos earlier)).granted
  refine ⟨?_, fun sink => ?_, (whole_packets follows begins low).1⟩
  · rw [← List.filterMap_eq_map, words, ← Events.before_bind]
    refine Events.before_congr fun earlier _ => ?_
    rcases granted earlier with idle | ⟨sink, granted⟩
    · rw [forwarded_of_idle idle, taken_of_idle idle]
      rfl
    · rw [forwarded_of_granted granted, Option.map_eq_bind]
  · rw [words, ← Events.before_bind]
    refine Events.before_congr fun earlier _ => ?_
    rcases granted earlier with idle | ⟨other, granted⟩
    · rw [accepted_of_idle idle, taken_of_idle idle]
      rfl
    · exact accepted_of_granted granted sink

/-- Two masters that never stop sending packets of two words. -/
def pairing (cycle : Nat) : Input where
  reset := cycle == 0
  sink0 :=
    { valid := true
      data := BitVec.ofNat 87 cycle
      channel := 1
      startofpacket := cycle != 3
      endofpacket := cycle == 3 }
  sink1 :=
    { valid := true
      data := BitVec.ofNat 87 cycle
      channel := 1
      startofpacket := cycle != 5
      endofpacket := cycle == 5 }
  srcReady := true

theorem forwards_whole_packets_pairing :
    Events.before (fun earlier => forwarded (pairing (earlier + 1))
        (run step pairing ⟨0, false, 0, false, 0, ⟨0⟩⟩ (earlier + 1))) 5 =
      (words pairing (run step pairing ⟨0, false, 0, false, 0, ⟨0⟩⟩)
        5).map Prod.snd ∧
    (words pairing (run step pairing ⟨0, false, 0, false, 0, ⟨0⟩⟩) 5).map
      Prod.fst = [0, 0, 1, 1] ∧
    (words pairing (run step pairing ⟨0, false, 0, false, 0, ⟨0⟩⟩) 5).IsChain
      fun first second => endsPacket first.2 = true ∨ first.1 = second.1 := by
  obtain ⟨handedOn, -, whole⟩ :=
    forwards_whole_packets ⟨0, false, 0, false, 0, ⟨0⟩⟩ pairing rfl 5
      fun _ later _ => beq_false_of_ne (Nat.ne_of_gt later)
  exact ⟨handedOn, by decide, whole⟩

/-- Two masters that never stop sending packets of one word. -/
def contending (cycle : Nat) : Input where
  reset := cycle == 0
  sink0 := ⟨true, 0, 1, true, true⟩
  sink1 := ⟨true, 1, 1, true, true⟩
  srcReady := true

theorem waits_contending {cycle : Nat} (from_ : 1 ≤ cycle) (upTo : cycle < 1 + 2) :
    Waits 1 (contending cycle)
      (run step contending ⟨0, false, 0, false, 0, ⟨0⟩⟩ cycle) := by
  obtain rfl | rfl : cycle = 1 ∨ cycle = 2 := by omega
  · exact ⟨rfl, rfl, by decide⟩
  · exact ⟨rfl, rfl, by decide⟩

/-- When the masters are orderly, the slave is ready in at most two of the cycles
in which a word is not granted, and in at most one of them if another sink is
granted in the first. -/
theorem waits_for_two_readies (initial : State) (inputs : Nat → Input)
    (begins : (inputs 0).reset = true)
    (orderly : Orderly inputs (run step inputs initial)) (sink : Fin 2)
    (start offset : Nat) (after : 0 < start)
    (waits : ∀ cycle, start ≤ cycle → cycle < start + offset →
      Waits sink (inputs cycle) (run step inputs initial cycle)) :
    Nat.count (fun earlier => (inputs (start + earlier)).srcReady = true)
        offset ≤ 2 ∧
      ((run step inputs initial start).savedGrant ≠ 0 →
        Nat.count (fun earlier => (inputs (start + earlier)).srcReady = true)
          offset ≤ 1) := by
  have follows := run_follows step inputs initial
  have updates := Events.count_add_rank_le
    (fun cycle => updatesLeft sink (run step inputs initial cycle))
    fun cycle from_ upTo => updateGrant_add_updatesLeft_le follows begins
      (by omega) (waits cycle from_ upTo)
  have ready : Nat.count (fun earlier => (inputs (start + earlier)).srcReady =
      true) offset ≤ updatesLeft sink (run step inputs initial start) := by
    refine (Nat.count_mono_left fun earlier _ ready => ?_).trans
      ((Nat.le_add_right _ _).trans updates)
    exact updateGrant_of_srcReady follows begins orderly (by omega) ready
  constructor
  · refine ready.trans ?_
    rw [updatesLeft]
    split
    · exact Nat.le_refl 2
    · split <;> omega
  · intro busy
    refine ready.trans ?_
    rw [updatesLeft, if_neg busy]
    split <;> omega

theorem waits_for_two_readies_contending :
    Nat.count (fun earlier => (contending (1 + earlier)).srcReady = true)
        2 ≤ 2 := by
  refine (waits_for_two_readies ⟨0, false, 0, false, 0, ⟨0⟩⟩ contending rfl
    ⟨fun {_ sink} _ => ?_, fun {_ sink} _ _ _ => ?_⟩ 1 1 2 Nat.one_pos fun _ =>
      waits_contending).1
  · rw [endsPacket, (getLsbD_payload _).1, (getLsbD_payload _).2]
    match sink with
    | 0 => exact (by decide : (true && !(0 : BitVec 87).getLsbD 56) = true)
    | 1 => exact (by decide : (true && !(1 : BitVec 87).getLsbD 56) = true)
  · match sink with
    | 0 => rfl
    | 1 => rfl

end CmdXbarMux

end TripleDes
