import TripleDes.KeySpace

/-!
# Dual keys

Two keys are dual if the scheduler gives the one, enciphering, the round keys
that it gives the other, deciphering.  This happens for very few keys: those
whose two selected halves repeat with period two.  Four of them are dual to
themselves and twelve to one of the others.
-/

namespace TripleDes

open Clocked

/-- Enciphering under the first key uses the round keys of deciphering under
the second. -/
def Dual (first second : BitVec 64) : Prop :=
  ∀ round, keyScheduler round first false = keyScheduler round second true

/-- The dual pairs, with all parity bits odd: first the keys that are dual to
themselves. -/
def dualKeys : List (BitVec 64 × BitVec 64) :=
  [(0x0101010101010101, 0x0101010101010101),
    (0xFEFEFEFEFEFEFEFE, 0xFEFEFEFEFEFEFEFE),
    (0x1F1F1F1F0E0E0E0E, 0x1F1F1F1F0E0E0E0E),
    (0xE0E0E0E0F1F1F1F1, 0xE0E0E0E0F1F1F1F1),
    (0x01FE01FE01FE01FE, 0xFE01FE01FE01FE01),
    (0xFE01FE01FE01FE01, 0x01FE01FE01FE01FE),
    (0x1FE01FE00EF10EF1, 0xE01FE01FF10EF10E),
    (0xE01FE01FF10EF10E, 0x1FE01FE00EF10EF1),
    (0x01E001E001F101F1, 0xE001E001F101F101),
    (0xE001E001F101F101, 0x01E001E001F101F1),
    (0x1FFE1FFE0EFE0EFE, 0xFE1FFE1FFE0EFE0E),
    (0xFE1FFE1FFE0EFE0E, 0x1FFE1FFE0EFE0EFE),
    (0x011F011F010E010E, 0x1F011F010E010E01),
    (0x1F011F010E010E01, 0x011F011F010E010E),
    (0xE0FEE0FEF1FEF1FE, 0xFEE0FEE0FEF1FEF1),
    (0xFEE0FEE0FEF1FEF1, 0xE0FEE0FEF1FEF1FE)]

section Halves

/-- A half that repeats two bits, the first of them at the even positions. -/
def repeated (even odd : Bool) : BitVec 28 :=
  Wiring.ofBits fun index => if (index : Nat) % 2 = 0 then even else odd

/-- The positions of a half that the round key reads. -/
def readsC (position : Fin 28) : Bool :=
  decide (∃ output, kOut output = Fin.natAdd 28 position)

def readsD (position : Fin 28) : Bool :=
  decide (∃ output, kOut output = Fin.castAdd 28 position)

variable {width : Nat} [NeZero width]

/-- The round keys read the same from two halves, rotated for enciphering and
for deciphering. -/
def Linked (reads : Fin width → Bool) (half half' : BitVec width) : Prop :=
  ∀ (round : Fin 16) (position : Fin width), reads position = true →
    half.getLsbD (Wiring.rotation width (shift false round) position) =
      half'.getLsbD (Wiring.rotation width (shift true round) position)

/-- In some two rounds one position of the second half is read together with
neighbours of next neighbours in the first half. -/
def Bridged (reads : Fin width → Bool) : Prop :=
  ∀ index : Fin width, ∃ round round' : Fin 16,
    reads (index + .ofNat width (shift false round)) = true ∧
      reads (index + 2 + .ofNat width (shift false round')) = true ∧
      index + .ofNat width (shift false round) -
          .ofNat width (shift true round) =
        index + 2 + .ofNat width (shift false round') -
          .ofNat width (shift true round')

/-- Each position of the second half is read together with one of the other
parity in the first half. -/
def Crossed (reads : Fin width → Bool) : Prop :=
  ∀ index : Fin width, ∃ round : Fin 16,
    reads (index + .ofNat width (shift true round)) = true ∧
      ((index + .ofNat width (shift true round) -
        .ofNat width (shift false round) : Fin width) : Nat) % 2 ≠ index % 2

instance (reads : Fin width → Bool) : Decidable (Bridged reads) :=
  inferInstanceAs (Decidable (∀ _, _))

instance (reads : Fin width → Bool) : Decidable (Crossed reads) :=
  inferInstanceAs (Decidable (∀ _, _))

variable {reads : Fin 28 → Bool} {half half' : BitVec 28}

theorem Linked.at_index (linked : Linked reads half half') (round : Fin 16)
    {index : Fin 28}
    (read : reads (index + .ofNat 28 (shift false round)) = true) :
    half.getLsbD index =
      half'.getLsbD (index + .ofNat 28 (shift false round) -
        .ofNat 28 (shift true round) : Fin 28) := by
  have link := linked round _ read
  simp only [Wiring.rotation, Equiv.subRight_apply, add_sub_cancel_right] at link
  exact link

/-- The first half repeats with period two. -/
theorem Linked.getLsbD_add_two (linked : Linked reads half half')
    (bridged : Bridged reads) (index : Fin 28) :
    half.getLsbD (index + 2 : Fin 28) = half.getLsbD index := by
  obtain ⟨round, round', read, read', meet⟩ := bridged index
  rw [linked.at_index round read, linked.at_index round' read', meet]

theorem Linked.getLsbD_mod (linked : Linked reads half half')
    (bridged : Bridged reads) (index : Nat) (inside : index < 28) :
    half.getLsbD index = half.getLsbD (index % 2) := by
  induction index using Nat.strongRecOn with
  | _ index ih =>
      rcases Nat.lt_or_ge index 2 with small | large
      · rw [Nat.mod_eq_of_lt small]
      · obtain ⟨earlier, rfl⟩ : ∃ earlier, index = earlier + 2 :=
          ⟨index - 2, by omega⟩
        have next : (⟨earlier, by omega⟩ + 2 : Fin 28) =
            ⟨earlier + 2, inside⟩ := by
          apply Fin.ext
          rw [Fin.val_add]
          exact Nat.mod_eq_of_lt inside
        have same := linked.getLsbD_add_two bridged ⟨earlier, by omega⟩
        rw [next] at same
        rw [Nat.add_mod_right]
        exact same.trans (ih earlier (by omega) (by omega))

theorem Linked.eq_repeated (linked : Linked reads half half')
    (bridged : Bridged reads) (crossed : Crossed reads) :
    half = repeated (half.getLsbD 0) (half.getLsbD 1) ∧
      half' = repeated (half.getLsbD 1) (half.getLsbD 0) := by
  constructor
  · apply Wiring.eq_of_getLsbD_fin
    intro index
    rw [repeated, Wiring.getLsbD_ofBits,
      linked.getLsbD_mod bridged index index.isLt]
    rcases Nat.mod_two_eq_zero_or_one index with even | odd
    · simp [even]
    · simp [odd]
  · apply Wiring.eq_of_getLsbD_fin
    intro index
    obtain ⟨round, read, parity⟩ := crossed index
    have link := linked round _ read
    simp only [Wiring.rotation, Equiv.subRight_apply, add_sub_cancel_right] at link
    generalize index + Fin.ofNat 28 (shift true round) -
      Fin.ofNat 28 (shift false round) = across at parity link
    rw [← link, linked.getLsbD_mod bridged _ across.isLt, repeated,
      Wiring.getLsbD_ofBits]
    rcases Nat.mod_two_eq_zero_or_one index with even | odd
    · rw [if_pos even, show (across : Nat) % 2 = 1 by omega]
    · rw [if_neg (by omega), show (across : Nat) % 2 = 0 by omega]

end Halves

section Keys

theorem getLsbD_keyScheduler_c {position : Fin 28} {output : Fin 48}
    (reads : kOut output = Fin.natAdd 28 position) (round : Fin 16)
    (key : BitVec 64) (mode : Bool) :
    (keyScheduler round key mode).getLsbD output =
      (c0.route key).getLsbD
        (Wiring.rotation 28 (shift mode round) position) := by
  have wired : keyWiring mode round output =
      c0 (Wiring.rotation 28 (shift mode round) position) := by
    simp [keyWiring, Wiring.beside, reads]
  rw [keyScheduler_eq_route, Wiring.getLsbD_route, Wiring.getLsbD_route, wired]

theorem getLsbD_keyScheduler_d {position : Fin 28} {output : Fin 48}
    (reads : kOut output = Fin.castAdd 28 position) (round : Fin 16)
    (key : BitVec 64) (mode : Bool) :
    (keyScheduler round key mode).getLsbD output =
      (d0.route key).getLsbD
        (Wiring.rotation 28 (shift mode round) position) := by
  have wired : keyWiring mode round output =
      d0 (Wiring.rotation 28 (shift mode round) position) := by
    simp [keyWiring, Wiring.beside, reads]
  rw [keyScheduler_eq_route, Wiring.getLsbD_route, Wiring.getLsbD_route, wired]

theorem Dual.linked {first second : BitVec 64} (dual : Dual first second) :
    Linked readsC (c0.route first) (c0.route second) ∧
      Linked readsD (d0.route first) (d0.route second) := by
  constructor
  · intro round position read
    obtain ⟨output, reads⟩ := of_decide_eq_true read
    rw [← getLsbD_keyScheduler_c reads, ← getLsbD_keyScheduler_c reads,
      dual round]
  · intro round position read
    obtain ⟨output, reads⟩ := of_decide_eq_true read
    rw [← getLsbD_keyScheduler_d reads, ← getLsbD_keyScheduler_d reads,
      dual round]

theorem sameKey_of_halves {first second : BitVec 64}
    (upper : c0.route first = c0.route second)
    (lower : d0.route first = d0.route second) : SameKey first second := by
  rw [← pc1_eq_iff]
  apply (Wiring.split 28 28).injective
  rw [split_pc1, split_pc1, upper, lower]

/-- In every round the two schedules read a position of a half from positions
of different parity. -/
theorem rotations_cross : ∀ (round : Fin 16) (position : Fin 28),
    (Wiring.rotation 28 (shift false round) position : Nat) % 2 ≠
      (Wiring.rotation 28 (shift true round) position : Nat) % 2 := by
  decide +kernel

theorem repeated_cross (even odd : Bool) (round : Fin 16)
    (position : Fin 28) :
    (repeated even odd).getLsbD
        (Wiring.rotation 28 (shift false round) position) =
      (repeated odd even).getLsbD
        (Wiring.rotation 28 (shift true round) position) := by
  have cross := rotations_cross round position
  rw [repeated, repeated, Wiring.getLsbD_ofBits, Wiring.getLsbD_ofBits]
  split <;> split <;> first | rfl | omega

theorem kOut_reads (output : Fin 48) :
    (∃ position : Fin 28, kOut output = Fin.natAdd 28 position) ∨
      ∃ position : Fin 28, kOut output = Fin.castAdd 28 position :=
  Fin.addCases
    (motive := fun read => (∃ position : Fin 28, read = Fin.natAdd 28 position) ∨
      ∃ position : Fin 28, read = Fin.castAdd 28 position)
    (fun position => .inr ⟨position, rfl⟩)
    (fun position => .inl ⟨position, rfl⟩) (kOut output)

theorem dual_of_repeated {first second : BitVec 64}
    {evenC oddC evenD oddD : Bool}
    (firstC : c0.route first = repeated evenC oddC)
    (firstD : d0.route first = repeated evenD oddD)
    (secondC : c0.route second = repeated oddC evenC)
    (secondD : d0.route second = repeated oddD evenD) : Dual first second := by
  intro round
  apply Wiring.eq_of_getLsbD_fin
  intro output
  -- The output reads a position of the one half or of the other.
  obtain ⟨position, reads⟩ | ⟨position, reads⟩ := kOut_reads output
  · rw [getLsbD_keyScheduler_c reads, getLsbD_keyScheduler_c reads, firstC,
      secondC]
    exact repeated_cross evenC oddC round position
  · rw [getLsbD_keyScheduler_d reads, getLsbD_keyScheduler_d reads, firstD,
      secondD]
    exact repeated_cross evenD oddD round position

/-- Exactly sixteen pairs of keys are dual, apart from parity. -/
theorem dual_iff (first second : BitVec 64) :
    Dual first second ↔
      ∃ pair ∈ dualKeys, SameKey first pair.1 ∧ SameKey second pair.2 := by
  have listed : ∀ evenC oddC evenD oddD : Bool, ∃ pair ∈ dualKeys,
      c0.route pair.1 = repeated evenC oddC ∧
        d0.route pair.1 = repeated evenD oddD ∧
        c0.route pair.2 = repeated oddC evenC ∧
        d0.route pair.2 = repeated oddD evenD := by
    decide +kernel
  have repeats : dualKeys.all (fun pair => decide <|
      ∃ evenC oddC evenD oddD : Bool,
        c0.route pair.1 = repeated evenC oddC ∧
          d0.route pair.1 = repeated evenD oddD ∧
          c0.route pair.2 = repeated oddC evenC ∧
          d0.route pair.2 = repeated oddD evenD) = true := by
    decide +kernel
  constructor
  · intro isDual
    obtain ⟨upper, lower⟩ := isDual.linked
    obtain ⟨firstC, secondC⟩ :=
      upper.eq_repeated (by decide +kernel) (by decide +kernel)
    obtain ⟨firstD, secondD⟩ :=
      lower.eq_repeated (by decide +kernel) (by decide +kernel)
    obtain ⟨pair, member, upper1, lower1, upper2, lower2⟩ := listed
      ((c0.route first).getLsbD 0) ((c0.route first).getLsbD 1)
      ((d0.route first).getLsbD 0) ((d0.route first).getLsbD 1)
    exact ⟨pair, member,
      sameKey_of_halves (firstC.trans upper1.symm) (firstD.trans lower1.symm),
      sameKey_of_halves (secondC.trans upper2.symm)
        (secondD.trans lower2.symm)⟩
  · rintro ⟨pair, member, sameFirst, sameSecond⟩ round
    rw [(keyScheduler_eq_iff false _ _).mpr sameFirst round,
      (keyScheduler_eq_iff true _ _).mpr sameSecond round]
    obtain ⟨_, _, _, _, firstC, firstD, secondC, secondD⟩ :=
      of_decide_eq_true (List.all_eq_true.mp repeats pair member)
    exact dual_of_repeated firstC firstD secondC secondD round

end Keys

end TripleDes
