import Mathlib.Data.List.Basic

/-! Two buckets over running time. Whoever reads the clock next turns them over, however many
widths have passed, and they still hold what an up-to-date pair would.
-/

namespace Library

universe u v

variable {Bucket : Type u} {Entry : Type v}

/-- The entries of a log from `lower` on and before `upper`. -/
def between (log : List (Nat × Entry)) (lower upper : Nat) : List Entry :=
  (log.filter fun entry => lower ≤ entry.1 ∧ entry.1 < upper).map Prod.snd

/-- Bounds that no logged time tells apart select the same entries. -/
theorem between_congr {log : List (Nat × Entry)} {lower upper lower' upper' : Nat}
    (same
      : ∀ entry ∈ log,
          (lower ≤ entry.1 ∧ entry.1 < upper) ↔ (lower' ≤ entry.1 ∧ entry.1 < upper'))
    : between log lower upper = between log lower' upper' := by
  unfold between
  rw [List.filter_congr fun entry member => decide_eq_decide.2 (same entry member)]

/-- Bounds that no logged time meets select nothing. -/
theorem between_eq_nil {log : List (Nat × Entry)} {lower upper : Nat}
    (outside : ∀ entry ∈ log, ¬ (lower ≤ entry.1 ∧ entry.1 < upper))
    : between log lower upper = [] := by
  unfold between
  rw [List.map_eq_nil_iff, List.filter_eq_nil_iff]
  intro entry member
  rw [decide_eq_true_eq]
  exact outside entry member

theorem between_append (first second : List (Nat × Entry)) (lower upper : Nat)
    : between (first ++ second) lower upper
      = between first lower upper ++ between second lower upper := by
  unfold between
  rw [List.filter_append, List.map_append]

theorem between_inside {time lower upper : Nat} (entry : Entry) (after : lower ≤ time)
    (before : time < upper)
    : between [(time, entry)] lower upper = [entry] := by
  simp [between, after, before]

theorem between_outside {time lower upper : Nat} (entry : Entry) (late : upper ≤ time)
    : between [(time, entry)] lower upper = [] := by
  simp [between, late]

-----------------------------------------------------------------------------------------
-- The window
-----------------------------------------------------------------------------------------

/-- The bucket that fills, the one before it, and the time the first one began. -/
structure RollingWindow (Bucket : Type u) where
  bucketStart : Nat
  current : Bucket
  previous : Bucket

namespace RollingWindow

/-- The buckets turn over once for each width that has passed. -/
def advance (width : Nat) (empty : Bucket) (window : RollingWindow Bucket) (now : Nat)
    : RollingWindow Bucket :=
  let steps := (now - window.bucketStart) / width
  if steps = 0 then window
  else
    { bucketStart := window.bucketStart + steps * width
      current := empty
      previous := if steps = 1 then window.current else empty }

/-- An entry goes into the bucket that fills. -/
def record (add : Bucket → Entry → Bucket) (window : RollingWindow Bucket) (entry : Entry)
    : RollingWindow Bucket :=
  { window with current := add window.current entry }

end RollingWindow

/-- The latest whole width after the start that is not later than now. -/
def bucketStartAt (width start now : Nat) : Nat := start + (now - start) / width * width

theorem bucketStartAt_le (width : Nat) {start now : Nat} (started : start ≤ now)
    : bucketStartAt width start now ≤ now := by
  have whole := Nat.div_mul_le_self (now - start) width
  unfold bucketStartAt
  omega

theorem lt_bucketStartAt_add {width start now : Nat} (positive : 0 < width)
    (started : start ≤ now)
    : now < bucketStartAt width start now + width := by
  have parts := Nat.div_add_mod (now - start) width
  have rest := Nat.mod_lt (now - start) positive
  rw [Nat.mul_comm] at parts
  unfold bucketStartAt
  omega

/-- Counting whole widths on from a bucket's start counts them from the first start. -/
theorem bucketStartAt_advance {width start now later : Nat} (started : start ≤ now)
    (ordered : now ≤ later) (positive : 0 < width)
    : bucketStartAt width start now
        + (later - bucketStartAt width start now) / width * width
      = bucketStartAt width start later := by
  have begun := bucketStartAt_le width started
  have split
      : later - start
        = later - bucketStartAt width start now + (now - start) / width * width := by
    unfold bucketStartAt at begun ⊢
    omega
  have whole : (later - start) / width
      = (later - bucketStartAt width start now) / width + (now - start) / width := by
    rw [split, Nat.add_mul_div_right _ _ positive]
  conv_rhs => rw [bucketStartAt, whole, Nat.add_mul]
  rw [bucketStartAt]
  omega

namespace RollingWindow

/-- The window at `now` holds exactly the logged entries of the running width and of the width
before it, each bucket built up from an empty one in the order of the log.
-/
structure Describes (width start : Nat) (empty : Bucket) (add : Bucket → Entry → Bucket)
    (window : RollingWindow Bucket) (now : Nat) (log : List (Nat × Entry)) : Prop where
  started : start ≤ now
  elapsed : ∀ entry ∈ log, start ≤ entry.1 ∧ entry.1 ≤ now
  bucketStart : window.bucketStart = bucketStartAt width start now
  current : window.current = (between log window.bucketStart (now + 1)).foldl add empty
  previous
    : window.previous
      = (between log (window.bucketStart - width) window.bucketStart).foldl add empty

variable {width start : Nat} {empty : Bucket} {add : Bucket → Entry → Bucket}
    {window : RollingWindow Bucket} {now : Nat} {log : List (Nat × Entry)}

/-- Two empty buckets describe an empty log. -/
theorem describes_start (width start : Nat) (empty : Bucket) (add : Bucket → Entry → Bucket)
    : Describes width start empty add ⟨start, empty, empty⟩ start [] where
  started := Nat.le_refl start
  elapsed := by simp
  bucketStart := by simp [bucketStartAt]
  current := rfl
  previous := rfl

/-- A window stays exact while the clock runs, whichever number of widths it skips. -/
theorem Describes.advance (describes : Describes width start empty add window now log)
    (positive : 0 < width) {later : Nat} (ordered : now ≤ later)
    : Describes width start empty add (window.advance width empty later) later log := by
  have begun := bucketStartAt_le width describes.started
  have running := lt_bucketStartAt_add positive describes.started
  have turned := bucketStartAt_advance describes.started ordered positive
  rw [← describes.bucketStart] at begun running turned
  have elapsed : ∀ entry ∈ log, start ≤ entry.1 ∧ entry.1 ≤ later := by
    intro entry member
    have early := describes.elapsed entry member
    omega
  unfold RollingWindow.advance
  dsimp only
  split_ifs with still single
  · rw [still] at turned
    refine ⟨by have := describes.started; omega, elapsed, by omega, ?_, describes.previous⟩
    rw [describes.current]
    congr 1
    apply between_congr
    intro entry member
    have early := describes.elapsed entry member
    omega
  · rw [single] at turned ⊢
    refine ⟨by have := describes.started; omega, elapsed, turned, ?_, ?_⟩
    · rw [between_eq_nil]
      · rfl
      · intro entry member
        have early := describes.elapsed entry member
        dsimp only
        omega
    · rw [describes.current]
      dsimp only
      congr 1
      apply between_congr
      intro entry member
      have early := describes.elapsed entry member
      omega
  · have many : 2 * width ≤ (later - window.bucketStart) / width * width :=
      Nat.mul_le_mul_right width
        (Nat.lt_of_le_of_ne (Nat.pos_of_ne_zero still) (Ne.symm single))
    refine ⟨by have := describes.started; omega, elapsed, turned, ?_, ?_⟩
    · rw [between_eq_nil]
      · rfl
      · intro entry member
        have early := describes.elapsed entry member
        dsimp only
        omega
    · rw [between_eq_nil]
      · rfl
      · intro entry member
        have early := describes.elapsed entry member
        dsimp only
        omega

/-- Recording an entry at the time the window describes extends the log by it. -/
theorem Describes.record (describes : Describes width start empty add window now log)
    (entry : Entry)
    : Describes width start empty add (window.record add entry) now (log ++ [(now, entry)]) := by
  have begun := bucketStartAt_le width describes.started
  rw [← describes.bucketStart] at begun
  refine ⟨describes.started, ?_, describes.bucketStart, ?_, ?_⟩
  · intro other member
    rcases List.mem_append.1 member with old | new
    · exact describes.elapsed other old
    · rw [List.mem_singleton.1 new]
      exact ⟨describes.started, Nat.le_refl now⟩
  · dsimp only [RollingWindow.record]
    rw [between_append, between_inside entry begun (Nat.lt_succ_self now), List.foldl_append,
      ← describes.current, List.foldl_cons, List.foldl_nil]
  · dsimp only [RollingWindow.record]
    rw [between_append, between_outside entry begun, List.append_nil]
    exact describes.previous

end RollingWindow

end Library
