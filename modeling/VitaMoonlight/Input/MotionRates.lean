import VitaMoonlight.Input.Motion

/-! The divisor of the motion reports. A thread tests its rate, reports, and then reads the rate again
to divide by it: the division is by zero exactly when what was stored last in between is zero.
-/

namespace VitaMoonlight

open Library

-----------------------------------------------------------------------------------------
-- What the labels tell
-----------------------------------------------------------------------------------------

/-- What the labels before tell: for each sensor, whether the rate that was stored last, since its
thread has tested it, is zero.
-/
structure MotionHistory where
  cleared : Sensor → Bool := fun _ => false

def MotionHistory.observe (past : MotionHistory) : MotionLabel → MotionHistory
  | .stored sensor rate => { cleared := Function.update past.cleared sensor (rate == 0) }
  | .tested sensor => { cleared := Function.update past.cleared sensor false }
  | .divided _ _ => past

/-- The history of a trace. -/
def motionHistory (trace : List MotionLabel) : MotionHistory :=
  trace.foldl MotionHistory.observe {}

/-- Every division has a divisor that is not zero. -/
def DivisorsNonzero (trace : List MotionLabel) : Prop :=
  ∀ sensor rate, .divided sensor rate ∈ trace → rate ≠ 0

/-- No thread divides while the last store since its test has left its rate at zero. -/
def RatesKept (trace : List MotionLabel) : Prop :=
  ∀ before sensor rate after,
    trace = before ++ .divided sensor rate :: after → (motionHistory before).cleared sensor = false

/-- What a label tells of the history before it: a divisor is zero just where the rate was left at
zero.
-/
def MotionHistory.Exact (past : MotionHistory) : MotionLabel → Prop
  | .divided sensor rate => rate = 0 ↔ past.cleared sensor = true
  | .stored _ _ | .tested _ => True

-----------------------------------------------------------------------------------------
-- One step
-----------------------------------------------------------------------------------------

/-- A thread that reports sees the rate that the history knows. -/
def RateKnown (past : MotionHistory) (motion : MotionState) : Prop :=
  ∀ sensor,
    motion.threads sensor = some .reporting → (motion.rate sensor = 0 ↔ past.cleared sensor = true)

/-- An access of a call brings no thread to its report, and a store tells the history what it
stored.
-/
theorem RateKnown.access {past : MotionHistory} {motion : MotionState} (known : RateKnown past motion)
    (starts : Bool) (rest : List MotionAccess) (next : MotionAccess)
    : AllPermitted MotionHistory.observe MotionHistory.Exact past
          (motion.access starts rest next).2.2
      ∧ RateKnown ((motion.access starts rest next).2.2.foldl MotionHistory.observe past)
          (motion.access starts rest next).1 := by
  cases next with
  | storeRate stored rate =>
      refine ⟨⟨trivial, trivial⟩, fun sensor reporting => ?_⟩
      by_cases same : sensor = stored
      · simp [MotionState.access, MotionHistory.observe, same]
      · simpa [MotionState.access, MotionHistory.observe, same] using known sensor reporting
  | createThread created =>
      simp only [MotionState.access]
      split
      · exact ⟨trivial, known⟩
      · refine ⟨trivial, fun sensor reporting => ?_⟩
        by_cases same : sensor = created
        · simp [same] at reporting
        · exact known sensor (by simpa [same] using reporting)
  | storeActive _ => exact ⟨trivial, known⟩
  | storeEnabled _ => exact ⟨trivial, known⟩
  | testEnabled => exact ⟨trivial, known⟩
  | testReporting _ _ => exact ⟨trivial, known⟩
  | testInitialized => exact ⟨trivial, known⟩
  | storeInitialized => exact ⟨trivial, known⟩

/-- A thread comes to its report by a test that the history sees, and leaves it by its division. -/
theorem RateKnown.report {past : MotionHistory} {motion : MotionState} (known : RateKnown past motion)
    {sensor : Sensor} {place next : ReportPlace} {labels : List MotionLabel}
    (here : motion.threads sensor = some place)
    (taken : motion.report sensor place = some (next, labels))
    : AllPermitted MotionHistory.observe MotionHistory.Exact past labels
      ∧ RateKnown (labels.foldl MotionHistory.observe past)
          { motion with threads := Function.update motion.threads sensor (some next) } := by
  have elsewhere (left : next ≠ .reporting)
      : RateKnown past
          { motion with threads := Function.update motion.threads sensor (some next) } := by
    intro other reporting
    by_cases same : other = sensor
    · simp [same, left] at reporting
    · exact known other (by simpa [same] using reporting)
  cases place with
  | top =>
      obtain ⟨rfl, rfl⟩ := Prod.mk.inj (Option.some.inj taken)
      exact ⟨trivial, elsewhere (by split <;> decide)⟩
  | active =>
      obtain ⟨rfl, rfl⟩ := Prod.mk.inj (Option.some.inj taken)
      exact ⟨trivial, elsewhere (by split <;> decide)⟩
  | enabled =>
      rw [MotionState.report] at taken
      split at taken
      · rename_i tested
        obtain ⟨rfl, rfl⟩ := Prod.mk.inj (Option.some.inj taken)
        refine ⟨⟨trivial, trivial⟩, fun other reporting => ?_⟩
        by_cases same : other = sensor
        · simp [MotionHistory.observe, same, tested]
        · simpa [MotionHistory.observe, same] using
            known other (by simpa [same] using reporting)
      · obtain ⟨rfl, rfl⟩ := Prod.mk.inj (Option.some.inj taken)
        exact ⟨trivial, elsewhere (by decide)⟩
  | reporting =>
      obtain ⟨rfl, rfl⟩ := Prod.mk.inj (Option.some.inj taken)
      exact ⟨⟨known sensor here, trivial⟩, elsewhere (by split <;> decide)⟩
  | delaying =>
      obtain ⟨rfl, rfl⟩ := Prod.mk.inj (Option.some.inj taken)
      exact ⟨trivial, elsewhere (by decide)⟩
  | faulted => exact absurd taken.symm (Option.some_ne_none _)

/-- One step keeps the history and the rates together. -/
theorem RateKnown.step {past : MotionHistory} {motion after : MotionState} {choice : MotionChoice}
    {labels : List MotionLabel} (known : RateKnown past motion)
    (taken : motionStep motion choice = some (after, labels))
    : AllPermitted MotionHistory.observe MotionHistory.Exact past labels
      ∧ RateKnown (labels.foldl MotionHistory.observe past) after := by
  cases choice with
  | call call =>
      obtain ⟨rfl, rfl⟩ := Prod.mk.inj (Option.some.inj taken)
      exact ⟨trivial, known⟩
  | access index starts =>
      rw [motionStep] at taken
      split at taken
      · rename_i next rest _
        obtain ⟨rfl, rfl⟩ := Prod.mk.inj (Option.some.inj taken)
        exact known.access starts rest next
      · exact absurd taken.symm (Option.some_ne_none _)
  | report sensor =>
      rw [motionStep] at taken
      split at taken
      · exact absurd taken.symm (Option.some_ne_none _)
      · rename_i place here
        split at taken
        · exact absurd taken.symm (Option.some_ne_none _)
        · rename_i next shown moved
          obtain ⟨rfl, rfl⟩ := Prod.mk.inj (Option.some.inj taken)
          exact known.report here moved

-----------------------------------------------------------------------------------------
-- Runs
-----------------------------------------------------------------------------------------

/-- In every run the divisors are as the history tells. -/
theorem guarded_exact {trace : List MotionLabel} {motion : MotionState}
    (reached : motionMachine.Reaches trace motion)
    : Guarded (fun before label => (motionHistory before).Exact label) trace := by
  refine (reached.invariant
    (fun trace motion =>
      Guarded (fun before label => (motionHistory before).Exact label) trace
      ∧ RateKnown (motionHistory trace) motion)
    (fun motion initial => ⟨Guarded.nil _, ?_⟩) fun trace motion choice after emitted past taken => ?_).1
  · subst initial
    exact fun sensor reporting => absurd reporting.symm (Option.some_ne_none _)
  · obtain ⟨exact, known⟩ := past.2.step taken
    rw [motionHistory, List.foldl_append]
    exact ⟨past.1.append exact.allowedAfter, known⟩

/-- In every run all divisors are non-zero exactly when no rate was left at zero between a thread's
test and its division.
-/
theorem divisors_nonzero_iff {trace : List MotionLabel} {motion : MotionState}
    (reached : motionMachine.Reaches trace motion)
    : DivisorsNonzero trace ↔ RatesKept trace := by
  have exact := guarded_exact reached
  constructor
  · intro nonzero before sensor rate after split
    have divisor : rate = 0 ↔ (motionHistory before).cleared sensor = true :=
      exact before _ after split
    rw [← Bool.not_eq_true, ← divisor]
    exact nonzero sensor rate (split ▸ by simp)
  · intro kept sensor rate member zero
    obtain ⟨before, after, split⟩ := List.append_of_mem member
    have divisor : rate = 0 ↔ (motionHistory before).cleared sensor = true :=
      exact before _ after split
    exact Bool.false_ne_true ((kept before sensor rate after split).symm.trans (divisor.1 zero))

/-- A report that is divided by a rate of 60. -/
theorem divisors_nonzero_iff_report
    : DivisorsNonzero [.stored .gyro 60, .tested .gyro, .divided .gyro 60]
      ↔ RatesKept [.stored .gyro 60, .tested .gyro, .divided .gyro 60] :=
  divisors_nonzero_iff
    (motionMachine.reaches_run rfl
      ([.call (.start true)] ++ List.replicate 7 (.access 0 true)
        ++ [.call (.setState 0 .gyro 60), .access 1 true, .access 1 true]
        ++ List.replicate 4 (.report .gyro))
      rfl)

/-- A stop while the report is sent clears the rate that the thread divides by. -/
theorem stop_during_report_divides_by_zero
    : ¬ ∀ trace motion, motionMachine.Reaches trace motion → DivisorsNonzero trace := by
  intro nonzero
  have reached :=
    motionMachine.reaches_run rfl
      ([.call (.start true)] ++ List.replicate 7 (.access 0 true)
        ++ [.call (.setState 0 .gyro 60), .access 1 true, .access 1 true]
        ++ List.replicate 3 (.report .gyro)
        ++ [.call .stop, .access 2 true, .access 2 true, .report .gyro])
      rfl
  exact nonzero _ _ reached .gyro 0 (by decide) rfl

end VitaMoonlight
