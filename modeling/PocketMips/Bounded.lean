/-!
# Bounded repetition

Repeating a step until a state is reached that needs no more of them, or until a limit is reached.
-/

namespace PocketMips

variable {σ τ : Type}

/-- Repeats `step` until `done` holds, at most `limit` times, and adds the number of times to `taken`. -/
@[specialize] def repeatFrom (done : σ → Bool) (step : σ → σ) :
    (limit : Nat) → σ → (taken : Nat) → σ × Nat
  | 0, s, taken => (s, taken)
  | limit + 1, s, taken =>
    if done s then (s, taken) else repeatFrom done step limit (step s) (taken + 1)

/-- Repeats `step` until `done` holds, at most `limit` times: the state reached and the number of times. -/
@[inline] def repeatUntil (done : σ → Bool) (step : σ → σ) (limit : Nat) (s : σ) : σ × Nat :=
  repeatFrom done step limit s 0

/-- Nothing is repeated in a state that needs no more steps. -/
theorem repeatFrom_of_done {done : σ → Bool} {s : σ} (h : done s) (step : σ → σ) (limit taken : Nat) :
    repeatFrom done step limit s taken = (s, taken) := by
  cases limit <;> simp [repeatFrom, h]

/-- What was taken before is added to what is taken now. -/
theorem repeatFrom_eq (done : σ → Bool) (step : σ → σ) (limit : Nat) (s : σ) (taken : Nat) :
    repeatFrom done step limit s taken =
      ((repeatUntil done step limit s).1, taken + (repeatUntil done step limit s).2) := by
  unfold repeatUntil
  induction limit generalizing s taken with
  | zero => simp [repeatFrom]
  | succ limit ih =>
    by_cases h : done s
    · simp [repeatFrom, h]
    · simp only [repeatFrom, h]
      rw [ih _ (taken + 1), ih _ (0 + 1)]
      simp [Nat.add_assoc]

/-- A state that needs more steps takes one, and then as many as it takes from there. -/
theorem repeatUntil_succ {done : σ → Bool} {s : σ} (h : done s = false) (step : σ → σ) (limit : Nat) :
    repeatUntil done step (limit + 1) s =
      ((repeatUntil done step limit (step s)).1, (repeatUntil done step limit (step s)).2 + 1) := by
  rw [repeatUntil, repeatFrom, if_neg (by simp [h]), repeatFrom_eq, Nat.add_comm]

/-- Repeating up to one limit and then up to another is repeating up to both together. -/
theorem repeatUntil_add (done : σ → Bool) (step : σ → σ) (a b : Nat) (s : σ) :
    repeatUntil done step (a + b) s =
      ((repeatUntil done step b (repeatUntil done step a s).1).1,
        (repeatUntil done step a s).2 + (repeatUntil done step b (repeatUntil done step a s).1).2) := by
  induction a generalizing s with
  | zero => simp [repeatUntil, repeatFrom]
  | succ a ih =>
    cases h : done s with
    | true => simp [repeatUntil, repeatFrom_of_done h]
    | false =>
      rw [Nat.succ_add, repeatUntil_succ h, repeatUntil_succ h, ih]
      simp [Nat.add_right_comm]

/-- A view that keeps both the steps and the test can be taken before or after the repetition. -/
theorem repeatFrom_view (view : σ → τ) {done : σ → Bool} {step : σ → σ} {done' : τ → Bool}
    {step' : τ → τ} (done_view : ∀ s, done' (view s) = done s)
    (step_view : ∀ s, step' (view s) = view (step s)) (limit : Nat) (s : σ) (taken : Nat) :
    repeatFrom done' step' limit (view s) taken =
      (view (repeatFrom done step limit s taken).1, (repeatFrom done step limit s taken).2) := by
  induction limit generalizing s taken with
  | zero => rfl
  | succ limit ih =>
    by_cases h : done s
    · simp [repeatFrom, done_view, h]
    · simp [repeatFrom, done_view, h, step_view, ih]

end PocketMips
