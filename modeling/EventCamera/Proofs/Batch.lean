import EventCamera.Event

/-!
# Batches one after the other

## Main definitions

* `Batch.append` — the events and triggers of two batches
* `Batch.flatten` — those of a list of batches
-/

namespace EventCamera.Batch

attribute [ext] Batch

/-- The events and triggers of one batch, and then those of another. -/
protected def append (a b : Batch) : Batch := ⟨a.events ++ b.events, a.triggers ++ b.triggers⟩

instance : Append Batch := ⟨Batch.append⟩

@[simp] theorem events_append (a b : Batch) : (a ++ b).events = a.events ++ b.events := rfl

@[simp] theorem triggers_append (a b : Batch) : (a ++ b).triggers = a.triggers ++ b.triggers := rfl

@[simp] theorem append_empty (a : Batch) : a ++ ({} : Batch) = a := by
  ext1 <;> simp

@[simp] theorem empty_append (a : Batch) : ({} : Batch) ++ a = a := rfl

theorem append_cancel_left {a b c : Batch} (h : a ++ b = a ++ c) : b = c := by
  ext1
  · exact List.append_cancel_left (congrArg Batch.events h)
  · exact List.append_cancel_left (congrArg Batch.triggers h)

theorem append_assoc (a b c : Batch) : a ++ b ++ c = a ++ (b ++ c) := by
  ext1 <;> simp

theorem eq_empty_of_append {a b c : Batch} (h : a ++ b ++ c = a) : c = {} := by
  rw [append_assoc] at h
  have hrest : b ++ c = {} := append_cancel_left (h.trans (append_empty a).symm)
  ext1
  · exact (List.append_eq_nil_iff.1 (congrArg Batch.events hrest)).2
  · exact (List.append_eq_nil_iff.1 (congrArg Batch.triggers hrest)).2

/-- The events and triggers of a list of batches. -/
def flatten : List Batch → Batch
  | [] => {}
  | b :: bs => b ++ flatten bs

@[simp] theorem flatten_nil : flatten [] = {} := rfl

@[simp] theorem flatten_cons (b : Batch) (bs : List Batch) : flatten (b :: bs) = b ++ flatten bs :=
  rfl

theorem events_flatten (bs : List Batch) : (flatten bs).events = bs.flatMap (·.events) := by
  induction bs with
  | nil => rfl
  | cons b bs ih => simp [ih]

theorem triggers_flatten (bs : List Batch) : (flatten bs).triggers = bs.flatMap (·.triggers) := by
  induction bs with
  | nil => rfl
  | cons b bs ih => simp [ih]

end EventCamera.Batch
