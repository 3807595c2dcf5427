import TripleDes.Des3Fsm

/-!
# The round trip bench

`des3_tb.v` reacts to the wrapper: it submits a block, waits for `done`, keeps
the output, waits until `done` has fallen, and submits what it has kept in the
other mode.  Here it is one machine together with the wrapper, and for every
block and all keys it ends with the block it began with.
-/

namespace TripleDes

open Clocked

namespace Des3Tb

/-- Where the `initial` block stands behind a clock edge, when it has done all
that it does at that edge. -/
inductive Point
  | resetting (passed : Nat)
  | idling (passed : Nat)
  | submit
  | waitDone
  | waitNotDone
  | submitDecrypt
  | waitDecrypted
  | finished
  deriving DecidableEq

/-- The contents of the two memory files, and the clock edges before the first
block. -/
structure Bench where
  resetEdges : Nat
  idleEdges : Nat
  plaintext : BitVec 64
  key1 : BitVec 64
  key2 : BitVec 64
  key3 : BitVec 64

@[ext]
structure State where
  fsm : Des3Fsm.State
  point : Point
  ciphertext : BitVec 64
  decryptedText : BitVec 64

/-- What the bench drives at the next clock edge.  It changes its signals at the
falling edge before. -/
def Bench.drive (bench : Bench) (state : State) : Des3Fsm.Input :=
  let ports (reset decrypt start : Bool) (idata : BitVec 64) : Des3Fsm.Input :=
    { reset := reset, idata := idata, key1 := bench.key1, key2 := bench.key2,
      key3 := bench.key3, decrypt := decrypt, start := start }
  match state.point with
  | .resetting _ => ports true false false bench.plaintext
  | .idling _ => ports false false false bench.plaintext
  | .submit => ports false false true bench.plaintext
  | .waitDone => ports false false false bench.plaintext
  | .waitNotDone => ports false false false bench.plaintext
  | .submitDecrypt => ports false true true state.ciphertext
  | .waitDecrypted => ports false true false state.ciphertext
  | .finished => ports false true false state.ciphertext

/-- The next point.  A `wait` ends at the edge at which `done` has the value for
which it waits. -/
def Bench.next (bench : Bench) (done : Bool) : Point → Point
  | .resetting passed =>
      if passed + 1 < bench.resetEdges then .resetting (passed + 1)
      else if bench.idleEdges = 0 then .submit
      else .idling 0
  | .idling passed =>
      if passed + 1 < bench.idleEdges then .idling (passed + 1) else .submit
  | .submit | .waitDone => if done then .waitNotDone else .waitDone
  | .waitNotDone => if done then .waitNotDone else .submitDecrypt
  | .submitDecrypt | .waitDecrypted =>
      if done then .finished else .waitDecrypted
  | .finished => .finished

/-- One clock edge of the wrapper, and what the bench does at it. -/
def Bench.step (bench : Bench) (state : State) : State :=
  let fsm := Des3Fsm.step (bench.drive state) state.fsm
  { fsm := fsm
    point := bench.next fsm.done state.point
    ciphertext :=
      if (state.point = .submit ∨ state.point = .waitDone) ∧
          fsm.done = true then fsm.odata
      else state.ciphertext
    decryptedText :=
      if (state.point = .submitDecrypt ∨ state.point = .waitDecrypted) ∧
          fsm.done = true then fsm.odata
      else state.decryptedText }

/-- The bench after a number of clock edges. -/
def Bench.after (bench : Bench) (initial : State) (cycles : Nat) : State :=
  bench.step^[cycles] initial

/-- The comparison that decides between the two last lines. -/
def Bench.passes (bench : Bench) (state : State) : Bool :=
  state.decryptedText == bench.plaintext

section Schedule

variable (bench : Bench)

/-- The edge that submits the block. -/
def Bench.first : Nat :=
  bench.resetEdges + bench.idleEdges

def Bench.cipher : BitVec 64 :=
  Standard.tdes false bench.key1 bench.key2 bench.key3 bench.plaintext

/-- Where the bench will stand behind each clock edge. -/
def Bench.pointAt (cycle : Nat) : Point :=
  if cycle < bench.resetEdges then .resetting cycle
  else if cycle < bench.first then .idling (cycle - bench.resetEdges)
  else if cycle = bench.first then .submit
  else if cycle ≤ bench.first + 56 then .waitDone
  else if cycle = bench.first + 57 then .waitNotDone
  else if cycle = bench.first + 58 then .submitDecrypt
  else if cycle ≤ bench.first + 114 then .waitDecrypted
  else .finished

/-- What the bench will drive in each cycle. -/
def Bench.stimulus (cycle : Nat) : Des3Fsm.Input where
  reset := decide (cycle < bench.resetEdges)
  idata := if cycle < bench.first + 58 then bench.plaintext else bench.cipher
  key1 := bench.key1
  key2 := bench.key2
  key3 := bench.key3
  decrypt := decide (bench.first + 58 ≤ cycle)
  start := decide (cycle = bench.first) || decide (cycle = bench.first + 58)

/-- The wrapper under that stimulus. -/
def Bench.fsmAt (fsm : Des3Fsm.State) : Nat → Des3Fsm.State :=
  run Des3Fsm.step bench.stimulus fsm

/-- The bench and the wrapper behind each clock edge. -/
def Bench.stateAt (initial : State) (cycle : Nat) : State where
  fsm := bench.fsmAt initial.fsm cycle
  point := bench.pointAt cycle
  ciphertext :=
    if cycle < bench.first + 57 then initial.ciphertext else bench.cipher
  decryptedText :=
    if cycle < bench.first + 115 then initial.decryptedText
    else bench.plaintext

end Schedule

variable {bench : Bench} {fsm : Des3Fsm.State}

theorem done_fsmAt_iff (unbuffered : Des3Fsm.Unbuffered fsm)
    (resets : 0 < bench.resetEdges) {cycle : Nat} (later : 0 < cycle) :
    (bench.fsmAt fsm cycle).done = true ↔
      cycle = bench.first + 57 ∨ cycle = bench.first + 115 := by
  have shown := Des3Fsm.done_iff_start
    (run_follows Des3Fsm.step bench.stimulus fsm) unbuffered resets
    (fun _ => rfl) (fun cycle before => by
      change (decide _ || decide _) = false
      rw [Bench.first, decide_eq_false (by omega), decide_eq_false (by omega),
        Bool.false_or]) later
  rw [Bench.fsmAt, shown]
  simp only [Bench.stimulus, Bool.or_eq_true, decide_eq_true_eq]
  constructor
  · rintro ⟨start, rfl, rfl | rfl⟩ <;> omega
  · rintro (rfl | rfl)
    · exact ⟨bench.first, rfl, .inl rfl⟩
    · exact ⟨bench.first + 58, rfl, .inr rfl⟩

theorem low_stimulus {start last : Nat} (after : bench.first ≤ start) :
    Throughout start last fun cycle =>
      (Des3Fsm.uDes3Input (bench.stimulus cycle)).reset = false := by
  intro cycle reached _
  rw [Bench.first] at after
  exact decide_eq_false (by omega)

theorem odata_encrypted (bench : Bench) (fsm : Des3Fsm.State) :
    (bench.fsmAt fsm (bench.first + 57)).odata = bench.cipher := by
  have held : Des3.Held
      (fun cycle => Des3Fsm.uDes3Input (bench.stimulus cycle)) bench.first false
      bench.key1 bench.key2 bench.key3 := by
    intro cycle _ before
    exact ⟨decide_eq_false (by omega), rfl, rfl, rfl⟩
  have block : (Des3Fsm.uDes3Input (bench.stimulus bench.first)).idata =
      bench.plaintext :=
    if_pos (by omega)
  have output := Des3.odata_of_sampled
    (Des3Fsm.uDes3_follows (run_follows Des3Fsm.step bench.stimulus fsm))
    (low_stimulus (Nat.le_refl bench.first)) held.sampled
  rw [block] at output
  exact output

theorem odata_decrypted (bench : Bench) (fsm : Des3Fsm.State) :
    (bench.fsmAt fsm (bench.first + 115)).odata = bench.plaintext := by
  have held : Des3.Held
      (fun cycle => Des3Fsm.uDes3Input (bench.stimulus cycle))
      (bench.first + 58) true bench.key1 bench.key2 bench.key3 := by
    intro cycle after _
    exact ⟨decide_eq_true (by omega), rfl, rfl, rfl⟩
  have block : (Des3Fsm.uDes3Input
      (bench.stimulus (bench.first + 58))).idata = bench.cipher :=
    if_neg (by omega)
  have output := Des3.odata_of_sampled
    (Des3Fsm.uDes3_follows (run_follows Des3Fsm.step bench.stimulus fsm))
    (low_stimulus (Nat.le_add_right bench.first 58)) held.sampled
  rw [block, Bench.cipher] at output
  exact output.trans (tdes_not_tdes false _ _ _ _)

section Regions

variable {cycle : Nat}

theorem resetEdges_le_first (bench : Bench) :
    bench.resetEdges ≤ bench.first :=
  Nat.le_add_right bench.resetEdges bench.idleEdges

theorem pointAt_resetting (before : cycle < bench.resetEdges) :
    bench.pointAt cycle = .resetting cycle :=
  if_pos before

theorem pointAt_idling (after : bench.resetEdges ≤ cycle)
    (before : cycle < bench.first) :
    bench.pointAt cycle = .idling (cycle - bench.resetEdges) := by
  rw [Bench.pointAt, if_neg (by omega), if_pos before]

theorem pointAt_first : bench.pointAt bench.first = .submit := by
  have order := resetEdges_le_first bench
  rw [Bench.pointAt, if_neg (by omega), if_neg (by omega), if_pos rfl]

theorem pointAt_waitDone (after : bench.first < cycle)
    (before : cycle ≤ bench.first + 56) :
    bench.pointAt cycle = .waitDone := by
  have order := resetEdges_le_first bench
  rw [Bench.pointAt, if_neg (by omega), if_neg (by omega), if_neg (by omega),
    if_pos before]

theorem pointAt_waitNotDone :
    bench.pointAt (bench.first + 57) = .waitNotDone := by
  have order := resetEdges_le_first bench
  rw [Bench.pointAt, if_neg (by omega), if_neg (by omega), if_neg (by omega),
    if_neg (by omega), if_pos rfl]

theorem pointAt_submitDecrypt :
    bench.pointAt (bench.first + 58) = .submitDecrypt := by
  have order := resetEdges_le_first bench
  rw [Bench.pointAt, if_neg (by omega), if_neg (by omega), if_neg (by omega),
    if_neg (by omega), if_neg (by omega), if_pos rfl]

theorem pointAt_waitDecrypted (after : bench.first + 58 < cycle)
    (before : cycle ≤ bench.first + 114) :
    bench.pointAt cycle = .waitDecrypted := by
  have order := resetEdges_le_first bench
  rw [Bench.pointAt, if_neg (by omega), if_neg (by omega), if_neg (by omega),
    if_neg (by omega), if_neg (by omega), if_neg (by omega), if_pos before]

theorem pointAt_finished (after : bench.first + 115 ≤ cycle) :
    bench.pointAt cycle = .finished := by
  have order := resetEdges_le_first bench
  rw [Bench.pointAt, if_neg (by omega), if_neg (by omega), if_neg (by omega),
    if_neg (by omega), if_neg (by omega), if_neg (by omega), if_neg (by omega)]

/-- The ciphertext is taken from the submission on. -/
theorem pointAt_awaits_iff :
    bench.pointAt cycle = .submit ∨ bench.pointAt cycle = .waitDone ↔
      bench.first ≤ cycle ∧ cycle ≤ bench.first + 56 := by
  have order := resetEdges_le_first bench
  unfold Bench.pointAt
  split_ifs <;> simp <;> omega

theorem pointAt_awaitsDecrypted_iff :
    bench.pointAt cycle = .submitDecrypt ∨
        bench.pointAt cycle = .waitDecrypted ↔
      bench.first + 58 ≤ cycle ∧ cycle ≤ bench.first + 114 := by
  have order := resetEdges_le_first bench
  unfold Bench.pointAt
  split_ifs <;> simp <;> omega

theorem pointAt_eq_finished_iff : bench.pointAt cycle = .finished ↔
    bench.first + 115 ≤ cycle := by
  have order := resetEdges_le_first bench
  unfold Bench.pointAt
  split_ifs <;> simp <;> omega

/-- The parts of the schedule. -/
theorem regions (bench : Bench) (cycle : Nat) :
    cycle < bench.resetEdges ∨
    (bench.resetEdges ≤ cycle ∧ cycle < bench.first) ∨
    cycle = bench.first ∨
    (bench.first < cycle ∧ cycle ≤ bench.first + 56) ∨
    cycle = bench.first + 57 ∨
    cycle = bench.first + 58 ∨
    (bench.first + 58 < cycle ∧ cycle ≤ bench.first + 114) ∨
    bench.first + 115 ≤ cycle := by
  omega

variable {initial : State} (unbuffered : Des3Fsm.Unbuffered initial.fsm)
  (resets : 0 < bench.resetEdges)
include unbuffered resets

omit unbuffered resets in
theorem drive_stateAt (cycle : Nat) :
    bench.drive (bench.stateAt initial cycle) = bench.stimulus cycle := by
  have order := resetEdges_le_first bench
  rcases regions bench cycle with before | ⟨after, before⟩ | rfl |
    ⟨after, before⟩ | rfl | rfl | ⟨after, before⟩ | after
  · simp [Bench.drive, Bench.stateAt, pointAt_resetting before, Bench.stimulus]
    omega
  · simp [Bench.drive, Bench.stateAt, pointAt_idling after before,
      Bench.stimulus]
    omega
  · simp [Bench.drive, Bench.stateAt, pointAt_first, Bench.stimulus]
    omega
  · simp [Bench.drive, Bench.stateAt, pointAt_waitDone after before,
      Bench.stimulus]
    omega
  · simp [Bench.drive, Bench.stateAt, pointAt_waitNotDone, Bench.stimulus]
    omega
  · simp [Bench.drive, Bench.stateAt, pointAt_submitDecrypt, Bench.stimulus]
    omega
  · have late : ¬ cycle < bench.first + 57 := by omega
    have later : ¬ cycle < bench.first + 58 := by omega
    simp [Bench.drive, Bench.stateAt, pointAt_waitDecrypted after before,
      Bench.stimulus, late, later]
    omega
  · have late : ¬ cycle < bench.first + 57 := by omega
    have later : ¬ cycle < bench.first + 58 := by omega
    simp [Bench.drive, Bench.stateAt, pointAt_finished after, Bench.stimulus,
      late, later]
    omega

theorem next_stateAt (cycle : Nat) :
    bench.next (bench.fsmAt initial.fsm (cycle + 1)).done
      (bench.pointAt cycle) = bench.pointAt (cycle + 1) := by
  have order := resetEdges_le_first bench
  have done := done_fsmAt_iff unbuffered resets (Nat.succ_pos cycle)
  rcases regions bench cycle with before | ⟨after, before⟩ | rfl |
    ⟨after, before⟩ | rfl | rfl | ⟨after, before⟩ | after
  · rw [pointAt_resetting before, Bench.next]
    by_cases again : cycle + 1 < bench.resetEdges
    · rw [if_pos again, pointAt_resetting again]
    · rw [if_neg again]
      have whole : cycle + 1 = bench.resetEdges := by omega
      by_cases none : bench.idleEdges = 0
      · rw [if_pos none, whole, show bench.resetEdges = bench.first by
          rw [Bench.first, none, Nat.add_zero], pointAt_first]
      · have idles : bench.resetEdges < bench.first := by
          rw [Bench.first]
          omega
        rw [if_neg none, whole, pointAt_idling (Nat.le_refl _) idles,
          Nat.sub_self]
  · rw [pointAt_idling after before, Bench.next]
    by_cases again : cycle + 1 < bench.first
    · rw [if_pos (by rw [Bench.first] at again; omega),
        pointAt_idling (by omega) again, Nat.sub_add_comm after]
    · rw [if_neg (by rw [Bench.first] at again; omega),
        show cycle + 1 = bench.first by omega, pointAt_first]
  · rw [pointAt_first, Bench.next,
      if_neg fun set => by have shown := done.mp set; omega,
      pointAt_waitDone (by omega) (by omega)]
  · rw [pointAt_waitDone after before, Bench.next]
    by_cases last : cycle = bench.first + 56
    · rw [if_pos (done.mpr (.inl (by omega))), last]
      exact pointAt_waitNotDone.symm
    · rw [if_neg fun set => by have shown := done.mp set; omega,
        pointAt_waitDone (by omega) (by omega)]
  · rw [pointAt_waitNotDone, Bench.next,
      if_neg fun set => by have shown := done.mp set; omega]
    exact pointAt_submitDecrypt.symm
  · rw [pointAt_submitDecrypt, Bench.next,
      if_neg fun set => by have shown := done.mp set; omega,
      pointAt_waitDecrypted (by omega) (by omega)]
  · rw [pointAt_waitDecrypted after before, Bench.next]
    by_cases last : cycle = bench.first + 114
    · rw [if_pos (done.mpr (.inr (by omega))), pointAt_finished (by omega)]
    · rw [if_neg fun set => by have shown := done.mp set; omega,
        pointAt_waitDecrypted (by omega) (by omega)]
  · rw [pointAt_finished after, Bench.next, pointAt_finished (by omega)]

/-- The edge at which the ciphertext is taken. -/
theorem takes_ciphertext_iff (cycle : Nat) :
    (bench.pointAt cycle = .submit ∨ bench.pointAt cycle = .waitDone) ∧
        (bench.fsmAt initial.fsm (cycle + 1)).done = true ↔
      cycle = bench.first + 56 := by
  rw [pointAt_awaits_iff, done_fsmAt_iff unbuffered resets (Nat.succ_pos cycle)]
  omega

/-- The edge at which the decrypted text is taken. -/
theorem takes_decryptedText_iff (cycle : Nat) :
    (bench.pointAt cycle = .submitDecrypt ∨
          bench.pointAt cycle = .waitDecrypted) ∧
        (bench.fsmAt initial.fsm (cycle + 1)).done = true ↔
      cycle = bench.first + 114 := by
  rw [pointAt_awaitsDecrypted_iff,
    done_fsmAt_iff unbuffered resets (Nat.succ_pos cycle)]
  omega

/-- The bench and the wrapper keep to their schedule. -/
theorem step_stateAt (cycle : Nat) :
    bench.step (bench.stateAt initial cycle) =
      bench.stateAt initial (cycle + 1) := by
  have driven : Des3Fsm.step (bench.drive (bench.stateAt initial cycle))
      (bench.stateAt initial cycle).fsm =
      bench.fsmAt initial.fsm (cycle + 1) := by
    rw [drive_stateAt]
    rfl
  have point := next_stateAt unbuffered resets cycle
  rw [Bench.step, driven]
  apply State.ext
  · rfl
  · exact point
  · simp only [Bench.stateAt, takes_ciphertext_iff unbuffered resets]
    by_cases taken : cycle = bench.first + 56
    · rw [if_pos taken, taken]
      exact (odata_encrypted bench initial.fsm).trans (if_neg (by omega)).symm
    · rw [if_neg taken]
      exact if_congr (by omega) rfl rfl
  · simp only [Bench.stateAt, takes_decryptedText_iff unbuffered resets]
    by_cases taken : cycle = bench.first + 114
    · rw [if_pos taken, taken]
      exact (odata_decrypted bench initial.fsm).trans (if_neg (by omega)).symm
    · rw [if_neg taken]
      exact if_congr (by omega) rfl rfl

end Regions

/-- Any number of cycles of the bench and the wrapper. -/
theorem after_eq (bench : Bench) (initial : State)
    (begins : initial.point = .resetting 0)
    (unbuffered : Des3Fsm.Unbuffered initial.fsm)
    (resets : 0 < bench.resetEdges) (cycles : Nat) :
    bench.after initial cycles = bench.stateAt initial cycles := by
  induction cycles with
  | zero =>
      apply State.ext
      · rfl
      · exact begins.trans (pointAt_resetting resets).symm
      · simp [Bench.after, Bench.stateAt]
      · simp [Bench.after, Bench.stateAt]
  | succ cycles ih =>
      rw [Bench.after, Function.iterate_succ_apply', ← Bench.after, ih,
        step_stateAt unbuffered resets]

/-- From a wrapper whose input buffers hold no bit, the bench ends at the 115th
edge behind its reset and its idle edges, and whatever the block and the keys
are it then has the published cipher of the block and the block again. -/
theorem finishes (bench : Bench) (initial : State)
    (begins : initial.point = .resetting 0)
    (unbuffered : Des3Fsm.Unbuffered initial.fsm)
    (resets : 0 < bench.resetEdges) (cycles : Nat) :
    ((bench.after initial cycles).point = .finished ↔
      bench.resetEdges + bench.idleEdges + 115 ≤ cycles) ∧
    ((bench.after initial cycles).point = .finished →
      (bench.after initial cycles).ciphertext =
          Standard.tdes false bench.key1 bench.key2 bench.key3
            bench.plaintext ∧
        bench.passes (bench.after initial cycles) = true) := by
  rw [after_eq bench initial begins unbuffered resets]
  refine ⟨pointAt_eq_finished_iff, fun finished => ?_⟩
  have late := pointAt_eq_finished_iff.mp finished
  exact ⟨if_neg (by omega), beq_iff_eq.mpr (if_neg (by omega))⟩

/-- The bench with the block and the keys of `des3_pipeline_tb.v`. -/
def roundTrip : Bench where
  resetEdges := 3
  idleEdges := 0
  plaintext := 0x35A2F80F51564C52
  key1 := 0x576D5A24D0E7493A
  key2 := 0x4F3FC2A81707AC64
  key3 := 0x6F295595C05ED7FB

/-- The bench before its first edge. -/
def untouched : State where
  fsm := default
  point := .resetting 0
  ciphertext := 0
  decryptedText := 0

theorem finishes_roundTrip :
    (roundTrip.after untouched 118).ciphertext = 0xAE32960F482A7362 ∧
      roundTrip.passes (roundTrip.after untouched 118) = true := by
  have encrypted : Standard.tdes false 0x576D5A24D0E7493A 0x4F3FC2A81707AC64
      0x6F295595C05ED7FB 0x35A2F80F51564C52 = 0xAE32960F482A7362 := by
    decide +kernel
  have ended := finishes roundTrip untouched rfl
    (fun stage => by match stage with | 0 | 1 | 2 => rfl) (by decide) 118
  obtain ⟨ciphertext, passes⟩ := ended.2 (ended.1.mpr (by decide))
  exact ⟨ciphertext.trans encrypted, passes⟩

end Des3Tb

end TripleDes
