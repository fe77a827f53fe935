import Mathlib.Data.Nat.ModEq
import VitaMoonlight.Stream.StatsWindows

/-! The missing frames of a session. Frame numbers have 32 bits and wrap, so a frame is ahead of the
newest one by less than half of their range or it is late; the jumps ahead add up to the way that the
newest frame has come, and what they leave out is missing.
-/

namespace VitaMoonlight.Stream

open Library

-----------------------------------------------------------------------------------------
-- Frame numbers
-----------------------------------------------------------------------------------------

/-- How far a frame is ahead of the newest one, if it is. -/
def jump (newest frame : UInt32) : Option Nat :=
  if 1 ≤ (frame - newest).toNat ∧ (frame - newest).toNat ≤ 2 ^ 31 - 1 then
    some (frame - newest).toNat
  else none

/-- The jumps ahead that frames make one after another; a frame that is not ahead makes none. -/
def acceptedJumps (newest : UInt32) : List UInt32 → List Nat
  | [] => []
  | frame :: rest =>
      match jump newest frame with
      | some ahead => ahead :: acceptedJumps frame rest
      | none => acceptedJumps newest rest

/-- The jumps behind the first frame. -/
def frameJumps : List UInt32 → List Nat
  | [] => []
  | first :: rest => acceptedJumps first rest

/-- The first frame, moved on by all jumps. -/
def referenceFrame : List UInt32 → Option UInt32
  | [] => none
  | first :: rest => some (first + UInt32.ofNat (acceptedJumps first rest).sum)

/-- The frames that jumps leave out. -/
def leftOut (jumps : List Nat) : Nat := (jumps.map fun ahead => ahead - 1).sum

theorem newerFrame_iff {newest frame : UInt32}
    : newerFrame frame newest = true
      ↔ 1 ≤ (frame - newest).toNat ∧ (frame - newest).toNat ≤ 2 ^ 31 - 1 := by
  rw [newerFrame, decide_eq_true_eq, Ne, ← UInt32.toNat_inj, UInt32.lt_iff_toNat_lt]
  change ¬ (frame - newest).toNat = 0 ∧ (frame - newest).toNat < 2147483648 ↔ _
  omega

/-- A frame that is ahead is the newest one, moved on by its jump. -/
theorem jump_of_newer {newest frame : UInt32} (newer : newerFrame frame newest = true)
    : jump newest frame = some (frame - newest).toNat
      ∧ frame = newest + UInt32.ofNat (frame - newest).toNat := by
  refine ⟨if_pos (newerFrame_iff.1 newer), ?_⟩
  rw [UInt32.ofNat_toNat, UInt32.add_comm, UInt32.sub_add_cancel]

theorem jump_of_late {newest frame : UInt32} (late : ¬ newerFrame frame newest = true)
    : jump newest frame = none :=
  if_neg (mt newerFrame_iff.2 late)

/-- One more frame starts from where the jumps before it have led, by induction on them. -/
theorem acceptedJumps_concat (newest : UInt32) (frames : List UInt32) (frame : UInt32)
    : acceptedJumps newest (frames ++ [frame])
      = acceptedJumps newest frames
        ++ (jump (newest + UInt32.ofNat (acceptedJumps newest frames).sum) frame).toList := by
  induction frames generalizing newest with
  | nil =>
      have still : newest + UInt32.ofNat 0 = newest := UInt32.add_zero newest
      rw [List.nil_append, acceptedJumps, acceptedJumps, List.sum_nil, still, acceptedJumps,
        List.nil_append]
      cases jump newest frame <;> rfl
  | cons next rest ih =>
      rw [List.cons_append, acceptedJumps, acceptedJumps]
      by_cases newer : newerFrame next newest = true
      · obtain ⟨ahead, moved⟩ := jump_of_newer newer
        rw [ahead]
        dsimp only
        rw [ih, List.sum_cons, UInt32.ofNat_add, ← UInt32.add_assoc, ← moved]
        rfl
      · rw [jump_of_late newer]
        exact ih newest

/-- What one more frame does to the reference and to the frames left out. -/
theorem frames_concat (frames : List UInt32) (frame : UInt32)
    : referenceFrame (frames ++ [frame])
        = (if (referenceFrame frames).elim true (newerFrame frame) then some frame
          else referenceFrame frames)
      ∧ leftOut (frameJumps (frames ++ [frame]))
        = leftOut (frameJumps frames) + gap (referenceFrame frames) frame := by
  cases frames with
  | nil =>
      have still : frame + UInt32.ofNat 0 = frame := UInt32.add_zero frame
      simp [referenceFrame, frameJumps, acceptedJumps, leftOut, gap]
  | cons first rest =>
      rw [List.cons_append, referenceFrame, referenceFrame, frameJumps, frameJumps,
        acceptedJumps_concat]
      by_cases newer
          : newerFrame frame (first + UInt32.ofNat (acceptedJumps first rest).sum) = true
      · obtain ⟨ahead, moved⟩ := jump_of_newer newer
        have next
            : first + UInt32.ofNat ((acceptedJumps first rest)
                ++ [(frame - (first + UInt32.ofNat (acceptedJumps first rest).sum)).toNat]).sum
              = frame := by
          rw [List.sum_append, List.sum_singleton, UInt32.ofNat_add, ← UInt32.add_assoc, ← moved]
        rw [ahead, Option.toList_some]
        exact ⟨(congrArg some next).trans (if_pos newer).symm, by simp [leftOut, gap, newer]⟩
      · rw [jump_of_late newer, Option.toList_none, List.append_nil]
        exact ⟨(if_neg newer).symm, by simp [gap, newer]⟩

-----------------------------------------------------------------------------------------
-- The frames of a session
-----------------------------------------------------------------------------------------

/-- The frame numbers that the last session of a history has counted, beside its account. -/
structure FrameHistory where
  account : Account := {}
  frames : List UInt32 := []

def FrameHistory.observe (past : FrameHistory) (event : StatsEvent) : FrameHistory where
  account := past.account.observe event
  frames :=
    match event with
    | .began _ _ _ => []
    | .updated generation (.received frameNumber _ _ _ _ _ _) _ =>
        if past.account.running ∧ generation = past.account.generation then
          past.frames ++ [frameNumber]
        else past.frames
    | _ => past.frames

def frameHistory (trace : List StatsEvent) : FrameHistory := trace.foldl FrameHistory.observe {}

/-- The frame numbers that the last session of a history received, in their order. -/
def sessionFrames (trace : List StatsEvent) : List UInt32 := (frameHistory trace).frames

/-- The missing frames of an update that a session counts. -/
def frameGap (newest : Option UInt32) : StatsUpdate → Nat
  | .received frameNumber _ _ _ _ _ _ => gap newest frameNumber
  | _ => 0

theorem frameHistory_account (trace : List StatsEvent)
    : (frameHistory trace).account = account trace := by
  induction trace using List.reverseRecOn with
  | nil => rfl
  | append_singleton before event ih =>
      rw [frameHistory, account, List.foldl_append, List.foldl_append]
      exact congrArg (Account.observe · event) ih

/-- The newest frame of the account is the reference of the frames, whatever happens next. -/
theorem FrameHistory.newest_observe {past : FrameHistory}
    (same : past.account.newest = referenceFrame past.frames) (event : StatsEvent)
    : (past.observe event).account.newest = referenceFrame (past.observe event).frames := by
  cases event with
  | began generation settings startUs => rfl
  | ended generation =>
      simp only [FrameHistory.observe, Account.observe]
      split <;> exact same
  | updated generation update now =>
      simp only [FrameHistory.observe, Account.observe]
      by_cases counted : past.account.running = true ∧ generation = past.account.generation
      · simp only [if_pos counted]
        cases update with
        | received frameNumber =>
            simp only [Account.newestAfter, same, if_pos counted]
            exact (frames_concat past.frames frameNumber).1.symm
        | _ => exact same
      · simp only [if_neg counted]
        cases update with
        | received frameNumber =>
            simp only [if_neg counted]
            exact same
        | _ => exact same
  | _ => exact same

/-- The newest frame of a history is the reference of its frames, by induction on the history. -/
theorem newest_eq_referenceFrame (trace : List StatsEvent)
    : (frameHistory trace).account.newest = referenceFrame (frameHistory trace).frames := by
  induction trace using List.reverseRecOn with
  | nil => rfl
  | append_singleton before event ih =>
      rw [frameHistory, List.foldl_append]
      exact FrameHistory.newest_observe ih event

/-- An update that is not counted brings no frame. -/
theorem FrameHistory.frames_observe {past : FrameHistory} {generation : UInt32}
    (uncounted : ¬ (past.account.running = true ∧ generation = past.account.generation))
    (update : StatsUpdate) (now : UInt64)
    : (past.observe (.updated generation update now)).frames = past.frames := by
  cases update with
  | received frameNumber => simp only [FrameHistory.observe, if_neg uncounted]
  | _ => rfl

/-- A counted update leaves out the frames of its gap. -/
theorem FrameHistory.leftOut_observe {past : FrameHistory}
    (same : past.account.newest = referenceFrame past.frames) {generation : UInt32}
    (counted : past.account.running = true ∧ generation = past.account.generation)
    (update : StatsUpdate) (now : UInt64)
    : leftOut (frameJumps (past.observe (.updated generation update now)).frames)
      = leftOut (frameJumps past.frames) + frameGap past.account.newest update := by
  cases update with
  | received frameNumber =>
      simp only [FrameHistory.observe, if_pos counted, frameGap, same]
      exact (frames_concat past.frames frameNumber).2
  | _ => rfl

-----------------------------------------------------------------------------------------
-- What the statistics count
-----------------------------------------------------------------------------------------

/-- Both counters of missing frames grow by the gap. -/
theorem noteFrameNumber_missing (stats : StreamStats) (frameNumber : UInt32)
    : (noteFrameNumber stats frameNumber).session.missingFrames
        = stats.session.missingFrames + UInt64.ofNat (gap stats.newest frameNumber)
      ∧ (noteFrameNumber stats frameNumber).current.missing
        = stats.current.missing + UInt64.ofNat (gap stats.newest frameNumber) := by
  refine ⟨?_, by rw [(noteFrameNumber_effect stats frameNumber).2.1]⟩
  unfold noteFrameNumber StreamStats.newest
  split_ifs with based newer
  · rw [gap_eq newer]
    simp
  all_goals simp_all [gap]

/-- An update that is let in adds its gap to both counters. -/
theorem apply_missing (update : StatsUpdate) {stats advanced : StreamStats} {generation : UInt32}
    {now : UInt64} (letIn : beginUpdate stats generation now = some advanced)
    : (update.apply stats generation now).session.missingFrames
        = advanced.session.missingFrames + UInt64.ofNat (frameGap advanced.newest update)
      ∧ (update.apply stats generation now).current.missing
        = advanced.current.missing + UInt64.ofNat (frameGap advanced.newest update) := by
  have still (count : UInt64) : count + UInt64.ofNat 0 = count := UInt64.add_zero count
  cases update with
  | received frameNumber bytes idr hostLatency receiveUs enqueueUs later =>
      have noted := noteFrameNumber_missing (countReceived advanced bytes later) frameNumber
      have detailed (stats : StreamStats)
          : (noteReceiveDetail stats idr hostLatency receiveUs enqueueUs).session.missingFrames
              = stats.session.missingFrames
            ∧ (noteReceiveDetail stats idr hostLatency receiveUs enqueueUs).current.missing
              = stats.current.missing := by
        unfold noteReceiveDetail
        split_ifs <;> exact ⟨rfl, rfl⟩
      simp only [StatsUpdate.apply, moonlightStatsReceived, taggedUpdate, letIn]
      split
      · rw [(detailed _).1, (detailed _).2]
        exact noted
      · exact noted
  | decode callUs outputs failed pacerDrop =>
      simp only [StatsUpdate.apply, moonlightStatsDecode, taggedUpdate, letIn, frameGap, still]
      split_ifs <;> exact ⟨rfl, rfl⟩
  | prepared prepareUs vblankUs width height pitch =>
      simp only [StatsUpdate.apply, moonlightStatsPrepared, taggedUpdate, letIn, frameGap, still]
      split_ifs <;> exact ⟨rfl, rfl⟩
  | queued replaced =>
      simp only [StatsUpdate.apply, moonlightStatsQueued, taggedUpdate, letIn, frameGap, still]
      split_ifs <;> exact ⟨rfl, rfl⟩
  | audioDecode callUs failed =>
      simp only [StatsUpdate.apply, moonlightStatsAudioDecode, taggedUpdate, letIn, frameGap, still]
      split_ifs <;> exact ⟨rfl, rfl⟩
  | audioOutput callUs failed =>
      simp only [StatsUpdate.apply, moonlightStatsAudioOutput, taggedUpdate, letIn, frameGap, still]
      split_ifs <;> exact ⟨rfl, rfl⟩
  | connectionStatus poor =>
      simp only [StatsUpdate.apply, moonlightStatsConnectionStatus, taggedUpdate, letIn, frameGap,
        still, and_self]
  | idrReturn =>
      simp only [StatsUpdate.apply, moonlightStatsIdrReturn, taggedUpdate, letIn, frameGap, still,
        and_self]
  | presented queueUs cpuUs =>
      simp only [StatsUpdate.apply, moonlightStatsPresented, taggedUpdate, letIn, frameGap, still]
      exact ⟨rfl, rfl⟩
  | network valid rtt variation =>
      simp only [StatsUpdate.apply, moonlightStatsNetwork, taggedUpdate, letIn, frameGap, still,
        and_self]

-----------------------------------------------------------------------------------------
-- All buckets of a session
-----------------------------------------------------------------------------------------

/-- The bucket that `advance_window` clears, if it does. -/
def clearedBuckets (stats : StreamStats) (now : UInt64) : List Bucket :=
  if (now - stats.bucketStartUs) / statsBucketUs = 0 then [] else [stats.current]

/-- The buckets that the session has filled before the current one. -/
def fillBuckets (filled : List Bucket) (state : StatsState) : StatsCall → List Bucket
  | .begin _ _ => []
  | .update generation _ now =>
      match beginUpdate state.stats generation now with
      | none => filled
      | some _ => filled ++ clearedBuckets state.stats now
  | .snapshot now => filled ++ clearedBuckets state.stats now
  | .finish _ | .configureVideo _ _ _ _ | .configureAudio _ _ => filled

/-- The statistics, with a record of every bucket that their session has filled. -/
def bucketMachine : Machine (StatsState × List Bucket) StatsCall StatsEvent :=
  statsMachine.recorded [] fillBuckets

/-- The missing frames that the buckets count together. -/
def bucketsMissing (buckets : List Bucket) : Nat :=
  (buckets.map fun bucket => bucket.missing.toNat).sum

theorem bucketsMissing_append (first second : List Bucket)
    : bucketsMissing (first ++ second) = bucketsMissing first + bucketsMissing second := by
  simp [bucketsMissing]

/-- Clearing a bucket keeps what it counted. -/
theorem bucketsMissing_advance (filled : List Bucket) (stats : StreamStats) (now : UInt64)
    : bucketsMissing (filled ++ clearedBuckets stats now ++ [(advanceWindow stats now).current])
      = bucketsMissing (filled ++ [stats.current]) := by
  unfold clearedBuckets advanceWindow
  dsimp only
  split_ifs
  · rw [List.append_nil]
  all_goals
    rw [bucketsMissing_append]
    rfl

/-- The counters of missing frames beside the frames that the session left out: the session's total
is their number as far as 64 bits hold it, and so is what the buckets count together.
-/
structure GapsKept (missing : Nat) (filled : List Bucket) (stats : StreamStats) : Prop where
  total : stats.session.missingFrames = UInt64.ofNat missing
  below : bucketsMissing (filled ++ [stats.current]) ≤ missing
  buckets : bucketsMissing (filled ++ [stats.current]) ≡ missing [MOD 2 ^ 64]

/-- A gap that is added to both counters keeps them what they are. -/
theorem GapsKept.add {missing : Nat} {filled : List Bucket} {before after : StreamStats}
    (kept : GapsKept missing filled before) (gap : Nat)
    (total : after.session.missingFrames = before.session.missingFrames + UInt64.ofNat gap)
    (current : after.current.missing = before.current.missing + UInt64.ofNat gap)
    : GapsKept (missing + gap) filled after := by
  have counted
      : after.current.missing.toNat = (before.current.missing.toNat + gap) % 2 ^ 64 := by
    rw [current, UInt64.toNat_add, UInt64.toNat_ofNat']
    exact Nat.add_mod_mod _ _ _
  have grown (stats : StreamStats)
      : bucketsMissing (filled ++ [stats.current])
        = bucketsMissing filled + stats.current.missing.toNat := by
    simp [bucketsMissing]
  have below := kept.below
  have buckets := kept.buckets
  rw [grown] at below buckets
  refine ⟨by rw [total, kept.total, UInt64.ofNat_add], ?_, ?_⟩
  · have := Nat.mod_le (before.current.missing.toNat + gap) (2 ^ 64)
    rw [grown, counted]
    omega
  · rw [grown, counted]
    have wrapped
        : bucketsMissing filled + (before.current.missing.toNat + gap) % 2 ^ 64
          ≡ bucketsMissing filled + (before.current.missing.toNat + gap) [MOD 2 ^ 64] :=
      (Nat.mod_modEq _ _).add_left _
    rw [← Nat.add_assoc] at wrapped
    exact wrapped.trans (buckets.add_right gap)

/-- Turning the window over keeps the counters. -/
theorem GapsKept.advance {missing : Nat} {filled : List Bucket} {stats : StreamStats}
    (kept : GapsKept missing filled stats) (now : UInt64)
    : GapsKept missing (filled ++ clearedBuckets stats now) (advanceWindow stats now) where
  total := by rw [(advanceWindow_session stats now).1, kept.total]
  below := by rw [bucketsMissing_advance]; exact kept.below
  buckets := by rw [bucketsMissing_advance]; exact kept.buckets

/-- An update keeps the counters with the frames that the session has counted. -/
theorem GapsKept.update {past : FrameHistory} {filled : List Bucket} {state : StatsState}
    (kept : GapsKept (leftOut (frameJumps past.frames)) filled state.stats)
    (same : past.account.newest = referenceFrame past.frames)
    (tracks : past.account.Tracks state.stats) (generation : UInt32) (update : StatsUpdate)
    (now : UInt64)
    : GapsKept (leftOut (frameJumps (past.observe (.updated generation update now)).frames))
        (fillBuckets filled state (.update generation update now))
        (update.apply state.stats generation now) := by
  rcases tracks.counted generation now with ⟨refused, uncounted⟩ | ⟨letIn, counted⟩
  · obtain ⟨record, tagged, -⟩ := recorded_of_tagged update
    rw [FrameHistory.frames_observe uncounted, tagged, taggedUpdate, fillBuckets, refused]
    exact kept
  · have newest : (advanceWindow state.stats now).newest = past.account.newest :=
      (advanceWindow_session state.stats now).2.2.trans tracks.newest.symm
    obtain ⟨total, current⟩ := apply_missing update letIn
    rw [FrameHistory.leftOut_observe same counted, fillBuckets, letIn, ← newest]
    exact (kept.advance now).add _ total current

/-- In every run the counters are what the session left out. -/
theorem gaps_kept {trace : List StatsEvent} {pair : StatsState × List Bucket}
    (reached : bucketMachine.Reaches trace pair)
    : GapsKept (leftOut (frameJumps (sessionFrames trace))) pair.2 pair.1.stats := by
  induction reached with
  | @start pair initial =>
      obtain ⟨state, filled⟩ := pair
      obtain ⟨rfl, rfl⟩ := initial
      exact ⟨rfl, Nat.le_refl _, rfl⟩
  | @next trace pair call after emitted before taken ih =>
      obtain ⟨state, filled⟩ := pair
      have tracks := (reaches_describes before.of_recorded).tracks
      rw [← frameHistory_account] at tracks
      have same := newest_eq_referenceFrame trace
      obtain ⟨⟨next, shown⟩, step, equal⟩ := Option.map_eq_some_iff.1 taken
      obtain ⟨rfl, rfl⟩ := Prod.mk.inj equal
      rw [sessionFrames, frameHistory, List.foldl_append]
      rw [sessionFrames, frameHistory] at ih
      rw [frameHistory] at tracks same
      generalize trace.foldl FrameHistory.observe {} = past at ih tracks same
      cases call with
      | begin settings now =>
          obtain ⟨rfl, rfl⟩ := Prod.mk.inj (Option.some.inj step)
          exact ⟨rfl, Nat.le_refl _, rfl⟩
      | finish generation =>
          obtain ⟨rfl, rfl⟩ := Prod.mk.inj (Option.some.inj step)
          simp only [List.foldl_cons, List.foldl_nil, FrameHistory.observe, fillBuckets,
            moonlightStatsEnd]
          split <;> exact ⟨ih.total, ih.below, ih.buckets⟩
      | configureVideo format width height fps =>
          obtain ⟨rfl, rfl⟩ := Prod.mk.inj (Option.some.inj step)
          exact ⟨ih.total, ih.below, ih.buckets⟩
      | configureAudio sampleRate channels =>
          obtain ⟨rfl, rfl⟩ := Prod.mk.inj (Option.some.inj step)
          exact ⟨ih.total, ih.below, ih.buckets⟩
      | update generation update now =>
          simp only [statsMachine] at step
          split_ifs at step with ordered
          obtain ⟨rfl, rfl⟩ := Prod.mk.inj (Option.some.inj step)
          exact GapsKept.update ih same tracks generation update now
      | snapshot now =>
          simp only [statsMachine] at step
          split_ifs at step with ordered
          obtain ⟨rfl, rfl⟩ := Prod.mk.inj (Option.some.inj step)
          exact ih.advance now

-----------------------------------------------------------------------------------------
-- The account of the gaps
-----------------------------------------------------------------------------------------

/-- What the statistics know about the gaps between the frames of their session. The reference frame
is the first frame moved on by the accepted jumps; a frame that is not ahead changes neither it nor
the counters; the session's total and the buckets' together are the frames left out, read modulo
2^64, and exactly that where 64 bits hold it, as they do for 2^33 frames.
-/
structure FrameGaps (trace : List StatsEvent) (filled : List Bucket) (stats : StreamStats) : Prop
    where
  reference : stats.newest = referenceFrame (sessionFrames trace)
  late
    : ∀ newest frameNumber,
        stats.newest = some newest
        → jump newest frameNumber = none
        → ∀ generation now bytes idr hostLatency receiveUs enqueueUs later,
            (moonlightStatsReceived stats generation now frameNumber bytes idr hostLatency receiveUs
                enqueueUs later).newest
              = stats.newest
            ∧ (moonlightStatsReceived stats generation now frameNumber bytes idr hostLatency
                receiveUs enqueueUs later).session.missingFrames
              = stats.session.missingFrames
  total : stats.session.missingFrames.toNat ≡ leftOut (frameJumps (sessionFrames trace)) [MOD 2 ^ 64]
  buckets
    : bucketsMissing (filled ++ [stats.current]) ≡ stats.session.missingFrames.toNat [MOD 2 ^ 64]
  exactly
    : leftOut (frameJumps (sessionFrames trace)) < 2 ^ 64
      → stats.session.missingFrames.toNat = leftOut (frameJumps (sessionFrames trace))
        ∧ bucketsMissing (filled ++ [stats.current]) = stats.session.missingFrames.toNat
  few
    : (sessionFrames trace).length ≤ 2 ^ 33
      → leftOut (frameJumps (sessionFrames trace)) < 2 ^ 64

/-- A jump leaves out less than half of the range, by induction on the frames. -/
theorem leftOut_le (newest : UInt32) (frames : List UInt32)
    : leftOut (acceptedJumps newest frames) ≤ frames.length * (2 ^ 31 - 2) := by
  induction frames generalizing newest with
  | nil => exact Nat.zero_le _
  | cons frame rest ih =>
      rw [acceptedJumps, List.length_cons, Nat.succ_mul]
      by_cases newer : newerFrame frame newest = true
      · have bound := (newerFrame_iff.1 newer).2
        have below := ih frame
        rw [(jump_of_newer newer).1]
        simp only [leftOut, List.map_cons, List.sum_cons] at below ⊢
        omega
      · rw [jump_of_late newer]
        exact (ih newest).trans (Nat.le_add_right _ _)

/-- A received frame that is not ahead leaves the reference and the total as they are. -/
theorem late_frame_ignored {account : Account} {stats : StreamStats} (tracks : account.Tracks stats)
    {newest frameNumber : UInt32} (known : stats.newest = some newest)
    (late : jump newest frameNumber = none) (generation : UInt32) (now : UInt64) (bytes : UInt32)
    (idr : Bool) (hostLatency : UInt32) (receiveUs enqueueUs later : UInt64)
    : (moonlightStatsReceived stats generation now frameNumber bytes idr hostLatency receiveUs
          enqueueUs later).newest
        = stats.newest
      ∧ (moonlightStatsReceived stats generation now frameNumber bytes idr hostLatency receiveUs
          enqueueUs later).session.missingFrames
        = stats.session.missingFrames := by
  have older : newerFrame frameNumber newest = false := by
    rw [← Bool.not_eq_true]
    intro newer
    exact Option.some_ne_none _ ((jump_of_newer newer).1.symm.trans late)
  have told : account.newest = some newest := tracks.newest.trans known
  let update : StatsUpdate :=
    .received frameNumber bytes idr hostLatency receiveUs enqueueUs later
  obtain ⟨record, tagged, recorded⟩ := recorded_of_tagged update
  change (update.apply stats generation now).newest = _
    ∧ (update.apply stats generation now).session.missingFrames = _
  rcases tracks.counted generation now with ⟨refused, -⟩ | ⟨letIn, -⟩
  · rw [tagged, taggedUpdate, refused]
    exact ⟨rfl, rfl⟩
  · obtain ⟨session, -, kept⟩ := advanceWindow_session stats now
    have added := (apply_missing update letIn).1
    have effect := (recorded account _ (tracks.advance now)).newest
    constructor
    · rw [tagged, taggedUpdate, letIn]
      refine effect.trans ?_
      simp [update, Account.newestAfter, told, known, older]
    · rw [added, session, kept, known]
      simp [update, frameGap, gap, older]

/-- The gaps between the frames of a session, over every run. -/
theorem frame_gaps {trace : List StatsEvent} {state : StatsState} {filled : List Bucket}
    (reached : bucketMachine.Reaches trace (state, filled))
    : FrameGaps trace filled state.stats := by
  have tracks := (reaches_describes reached.of_recorded).tracks
  have kept := gaps_kept reached
  have total
      : state.stats.session.missingFrames.toNat
        = leftOut (frameJumps (sessionFrames trace)) % 2 ^ 64 := by
    rw [kept.total, UInt64.toNat_ofNat']
  refine ⟨?_, fun newest frameNumber known late => ?_, ?_, ?_, fun fits => ?_, fun few => ?_⟩
  · rw [← tracks.newest, ← frameHistory_account]
    exact newest_eq_referenceFrame trace
  · exact late_frame_ignored tracks known late
  · rw [total]
    exact Nat.mod_modEq _ _
  · rw [total]
    exact kept.buckets.trans (Nat.mod_modEq _ _).symm
  · have same := kept.buckets
    rw [Nat.ModEq, Nat.mod_eq_of_lt fits, Nat.mod_eq_of_lt (kept.below.trans_lt fits)] at same
    rw [total, Nat.mod_eq_of_lt fits]
    exact ⟨rfl, same⟩
  · cases frames : sessionFrames trace with
    | nil => exact Nat.two_pow_pos 64
    | cons first rest =>
        have bound := leftOut_le first rest
        rw [frames, List.length_cons] at few
        rw [frameJumps]
        omega

/-- A session over a lost frame, a duplicate, a late frame and a second's end. -/
theorem frame_gaps_across_seconds
    : ∃ (trace : List StatsEvent) (state : StatsState) (filled : List Bucket),
        sessionFrames trace = [0xfffffffe, 1, 1, 0, 2]
        ∧ filled.length = 1
        ∧ state.stats.session.missingFrames = 2
        ∧ FrameGaps trace filled state.stats := by
  have reached := bucketMachine.reaches_run (⟨rfl, rfl⟩ : bucketMachine.initial ({}, []))
    [.begin {} 0, .update 1 (.received 0xfffffffe 9 false 0 0 0 5) 5,
      .update 1 (.received 1 9 false 0 0 0 6) 6, .update 1 (.received 1 9 false 0 0 0 7) 7,
      .update 1 (.received 0 9 false 0 0 0 8) 8,
      .update 1 (.received 2 9 false 0 0 0 1500000) 1500000]
    rfl
  refine ⟨_, _, _, ?_, ?_, ?_, frame_gaps reached⟩
  · decide
  · rfl
  · decide

/-- Every sequence of frame numbers can be received, by induction on it. -/
theorem exists_session (frames : List UInt32)
    : ∃ trace state,
        statsMachine.Reaches trace state
        ∧ state.clock = 0
        ∧ (frameHistory trace).account.running = true
        ∧ (frameHistory trace).account.generation = 1
        ∧ sessionFrames trace = frames := by
  induction frames using List.reverseRecOn with
  | nil =>
      have reached := statsMachine.reaches_run (rfl : statsMachine.initial {}) [.begin {} 0] rfl
      exact ⟨_, _, reached, rfl, rfl, rfl, rfl⟩
  | append_singleton before frame ih =>
      obtain ⟨trace, state, reached, clock, running, generation, frames⟩ := ih
      have taken
          : statsMachine.step state (.update 1 (.received frame 0 false 0 0 0 0) 0)
            = some
              ({ stats := moonlightStatsReceived state.stats 1 0 frame 0 false 0 0 0 0
                 clock := 0 },
                [.updated 1 (.received frame 0 false 0 0 0 0) 0]) := by
        rw [statsMachine]
        exact if_pos ⟨clock ▸ UInt64.le_refl 0, UInt64.le_refl 0⟩
      refine ⟨_, _, reached.next taken, rfl, ?_⟩
      rw [sessionFrames] at frames
      rw [sessionFrames, frameHistory, List.foldl_append]
      rw [frameHistory] at running generation frames
      generalize trace.foldl FrameHistory.observe {} = past at running generation frames
      have counted : past.account.running = true ∧ 1 = past.account.generation :=
        ⟨running, generation.symm⟩
      simp only [List.foldl_cons, List.foldl_nil, FrameHistory.observe, Account.observe,
        if_pos counted]
      exact ⟨running, generation, by rw [frames]⟩

/-- Frames that are each ahead by the same jump, by induction on their number. -/
theorem acceptedJumps_iterate (first : UInt32) (count : Nat)
    : acceptedJumps first (List.iterate (· + 0x7fffffff) (first + 0x7fffffff) count)
      = List.replicate count 0x7fffffff := by
  induction count generalizing first with
  | zero => rfl
  | succ count ih =>
      have ahead : first + 0x7fffffff - first = 0x7fffffff := by
        rw [UInt32.add_comm, UInt32.add_sub_cancel]
      have accepted : jump first (first + 0x7fffffff) = some 0x7fffffff := by
        rw [jump, ahead]
        decide
      rw [List.iterate, acceptedJumps, accepted]
      dsimp only
      rw [ih, List.replicate_succ]

/-- After more than 2^33 of the longest jumps the total has wrapped. -/
theorem missing_frames_wrap
    : ¬ ∀ trace state filled,
          bucketMachine.Reaches trace (state, filled)
          → state.stats.session.missingFrames.toNat = leftOut (frameJumps (sessionFrames trace)) := by
  intro exact
  obtain ⟨trace, state, reached, -, -, -, frames⟩ :=
    exists_session (0 :: List.iterate (· + 0x7fffffff) (0 + 0x7fffffff) (2 ^ 33 + 9))
  obtain ⟨filled, recorded⟩ := reached.recorded [] fillBuckets
  have total := exact trace state filled recorded
  rw [frames, frameJumps, acceptedJumps_iterate, leftOut, List.map_replicate, List.sum_replicate]
    at total
  have bound := state.stats.session.missingFrames.toNat_lt
  rw [total] at bound
  exact absurd bound (by decide)

end VitaMoonlight.Stream
