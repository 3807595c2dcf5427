import TripleDes.Library.Events

/-!
# Queues

In one cycle the oldest value of a queue may leave and a new one may arrive at
its end.  Over any run the values that have left, followed by those still there,
are the ones that were there and those that have arrived.
-/

namespace Queue

variable {Value : Type*}

/-- The contents after a cycle, the oldest value first. -/
def step (arriving : Option Value) (leaves : Bool) (contents : List Value) :
    List Value :=
  (if leaves then contents.tail else contents) ++ arriving.toList

theorem getElem?_step (arriving : Option Value) (leaves : Bool)
    (contents : List Value) (nonempty : leaves = true → contents ≠ [])
    (index : Nat) :
    (step arriving leaves contents)[index]? =
      if index + leaves.toNat < contents.length then
        contents[index + leaves.toNat]?
      else if index + leaves.toNat = contents.length then arriving
      else none := by
  have last (slot : Nat) : arriving.toList[slot]? =
      if slot = 0 then arriving else none := by
    cases arriving <;> cases slot <;> simp
  cases leaves with
  | false =>
      rw [step, if_neg Bool.false_ne_true, List.getElem?_append, last]
      simp only [Bool.toNat_false, Nat.add_zero]
      grind
  | true =>
      have filled : 0 < contents.length :=
        List.length_pos_of_ne_nil (nonempty rfl)
      rw [step, if_pos rfl, List.getElem?_append, last, List.getElem?_tail,
        List.length_tail]
      simp only [Bool.toNat_true]
      grind

theorem length_step (arriving : Option Value) (leaves : Bool)
    (contents : List Value) (nonempty : leaves = true → contents ≠ []) :
    (step arriving leaves contents).length + leaves.toNat =
      contents.length + arriving.toList.length := by
  cases leaves with
  | false => simp [step]
  | true =>
      have filled : 0 < contents.length :=
        List.length_pos_of_ne_nil (nonempty rfl)
      simp only [step, if_true, List.length_append, List.length_tail,
        Bool.toNat_true]
      omega

/-- Nothing is lost, duplicated or overtaken. -/
theorem before_append {arriving : Nat → Option Value} {leaves : Nat → Bool}
    {contents : Nat → List Value}
    (steps : ∀ cycle, contents (cycle + 1) =
      step (arriving cycle) (leaves cycle) (contents cycle)) (cycle : Nat) :
    Events.before (fun cycle =>
        if leaves cycle then (contents cycle).head? else none) cycle ++
        contents cycle =
      contents 0 ++ Events.before arriving cycle := by
  induction cycle with
  | zero => simp [Events.before]
  | succ cycle ih =>
      have split : (if leaves cycle then (contents cycle).head?
            else none).toList ++
          (if leaves cycle then (contents cycle).tail else contents cycle) =
          contents cycle := by
        cases leaves cycle <;> cases contents cycle <;> rfl
      rw [Events.before, Events.before, steps, step, List.append_assoc,
        ← List.append_assoc _ _ (arriving cycle).toList, split,
        ← List.append_assoc, ih, List.append_assoc]

end Queue
