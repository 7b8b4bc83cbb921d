/-!
# Loops without a bound

A step leads to the next state or to a result, and steps are taken until there is a result. Whether
one is ever reached depends on the steps; a loop that never reaches one never comes back.

## Main definitions

* `untilResult` — takes steps until there is a result

## Main results

* `untilResult_of_inl`, `untilResult_of_inr` — what the first step comes to
-/

namespace EventCamera

variable {α β : Type}

/-- Takes steps until there is a result. -/
@[inline] def untilResult [Nonempty β] (step : α → α ⊕ β) (a : α) : β :=
  Id.run (repeatM (fun a => pure (step a)) a)

private theorem untilResult_eq [Nonempty β] (step : α → α ⊕ β) (a : α) :
    untilResult step a =
      match step a with
      | .inl a => untilResult step a
      | .inr b => b := by
  rw [untilResult, repeatM_eq_of_monadTail, repeatM.body, Id.run_bind, Id.run_pure]
  cases step a <;> rfl

-- That there may be a result is often known from the first state alone.
variable {_ : Nonempty β} {step : α → α ⊕ β} {a a' : α} {b : β}

theorem untilResult_of_inl (h : step a = .inl a') : untilResult step a = untilResult step a' := by
  rw [untilResult_eq, h]

theorem untilResult_of_inr (h : step a = .inr b) : untilResult step a = b := by
  rw [untilResult_eq, h]

end EventCamera
