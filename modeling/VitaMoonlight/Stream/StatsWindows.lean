import Mathlib.Algebra.Order.BigOperators.Group.List
import Mathlib.Algebra.Order.Ring.Rat
import Mathlib.Data.List.Induction
import Mathlib.Tactic.Linarith
import Mathlib.Tactic.NormNum
import Mathlib.Tactic.Positivity
import Mathlib.Tactic.Ring
import VitaMoonlight.Library.RollingWindow
import VitaMoonlight.Stream.StreamStats

/-! What the two buckets of the statistics stand for: sums, maxima and minima over the events of
one session in the running second and in the second before it.
-/

namespace VitaMoonlight.Stream

open Library

-----------------------------------------------------------------------------------------
-- The history of a session
-----------------------------------------------------------------------------------------

/-- What one event adds to the statistics of its session. -/
structure Contribution where
  received : Nat := 0
  decoded : Nat := 0
  presented : Nat := 0
  queued : Nat := 0
  bytes : Nat := 0
  missing : Nat := 0
  pacerDrops : Nat := 0
  replacements : Nat := 0
  hostLatency : Option UInt32 := none
  timing : TimingIndex → Option UInt64 := fun _ => none

/-- One measured time. -/
def measurement (index : TimingIndex) (us : UInt64) : TimingIndex → Option UInt64 :=
  Function.update (fun _ => none) index (some us)

/-- The frames between the newest frame so far and a frame that is newer. -/
def gap (newest : Option UInt32) (frameNumber : UInt32) : Nat :=
  newest.elim 0 fun last =>
    if newerFrame frameNumber last then (frameNumber - last).toNat - 1 else 0

/-- A session as its history tells it: the generation it got, whether it still runs, the
settings that matter, the newest frame, and the contributions with their times.
-/
structure Account where
  generation : UInt32 := 0
  running : Bool := false
  enabled : Bool := false
  vblankWait : Bool := false
  startUs : Nat := 0
  newest : Option UInt32 := none
  log : List (Nat × Contribution) := []

/-- What an event adds to a session that counts it. -/
def Account.contribution (account : Account) : StatsUpdate → Contribution
  | .received frameNumber bytes _ hostLatency receiveUs enqueueUs _ =>
      { received := 1
        bytes := bytes.toNat
        missing := gap account.newest frameNumber
        hostLatency := if account.enabled ∧ hostLatency ≠ 0 then some hostLatency else none
        timing :=
          if account.enabled ∧ receiveUs ≤ enqueueUs then
            measurement .reassembly (enqueueUs - receiveUs)
          else fun _ => none }
  | .decode callUs outputs failed pacerDrop =>
      { decoded := if failed then 0 else outputs.toNat
        pacerDrops := if ¬ failed ∧ pacerDrop then outputs.toNat else 0
        timing := measurement .decode callUs }
  | .prepared prepareUs vblankUs _ _ _ =>
      { timing :=
          Function.update (measurement .prequeue prepareUs) .vblank
            (if account.vblankWait then some vblankUs else none) }
  | .queued replaced => { queued := 1, replacements := if replaced then 1 else 0 }
  | .presented queueUs cpuUs =>
      { presented := 1
        timing := Function.update (measurement .pafQueue queueUs) .pafCpu (some cpuUs) }
  | .audioDecode callUs _ => { timing := measurement .audioDecode callUs }
  | .audioOutput callUs _ => { timing := measurement .audioOutput callUs }
  | .connectionStatus _ | .idrReturn | .network _ _ _ => {}

/-- The newest frame after an event. -/
def Account.newestAfter (account : Account) : StatsUpdate → Option UInt32
  | .received frameNumber _ _ _ _ _ _ =>
      if account.newest.elim true (newerFrame frameNumber) then some frameNumber
      else account.newest
  | _ => account.newest

/-- A session counts the events that carry its generation while it runs. -/
def Account.observe (account : Account) : StatsEvent → Account
  | .began generation settings startUs =>
      { generation := generation
        running := true
        enabled := settings.showFps ≠ 0
        vblankWait := settings.enableVitaVblankWait ≠ 0
        startUs := startUs.toNat }
  | .ended generation =>
      if generation = account.generation then { account with running := false } else account
  | .updated generation update now =>
      if account.running ∧ generation = account.generation then
        { account with
          newest := account.newestAfter update
          log := account.log ++ [(now.toNat, account.contribution update)] }
      else account
  | .videoConfigured _ _ | .audioConfigured _ | .snapshotTaken _ => account

/-- The last session of a history. -/
def account (trace : List StatsEvent) : Account := trace.foldl Account.observe {}

-----------------------------------------------------------------------------------------
-- Figures over contributions
-----------------------------------------------------------------------------------------

def latencies (entries : List Contribution) : List Nat :=
  entries.filterMap fun entry => entry.hostLatency.map UInt32.toNat

def measured (index : TimingIndex) (entries : List Contribution) : List Nat :=
  entries.filterMap fun entry => (entry.timing index).map UInt64.toNat

/-- The counters of a bucket. -/
inductive Counter
  | received
  | decoded
  | presented
  | queued
  | bytes
  | missing
  | pacerDrops
  | replacements
  | hostSamples
  | hostTotal
  | samples (index : TimingIndex)
  | totalUs (index : TimingIndex)

def Bucket.count (bucket : Bucket) : Counter → UInt64
  | .received => bucket.received
  | .decoded => bucket.decoded
  | .presented => bucket.presented
  | .queued => bucket.queued
  | .bytes => bucket.bytes
  | .missing => bucket.missing
  | .pacerDrops => bucket.pacerDrops
  | .replacements => bucket.replacements
  | .hostSamples => bucket.hostSamples
  | .hostTotal => bucket.hostTotal
  | .samples index => (bucket.timing index).samples
  | .totalUs index => (bucket.timing index).totalUs

/-- The sum over contributions that a counter stands for. -/
def figure (entries : List Contribution) : Counter → Nat
  | .received => (entries.map Contribution.received).sum
  | .decoded => (entries.map Contribution.decoded).sum
  | .presented => (entries.map Contribution.presented).sum
  | .queued => (entries.map Contribution.queued).sum
  | .bytes => (entries.map Contribution.bytes).sum
  | .missing => (entries.map Contribution.missing).sum
  | .pacerDrops => (entries.map Contribution.pacerDrops).sum
  | .replacements => (entries.map Contribution.replacements).sum
  | .hostSamples => (latencies entries).length
  | .hostTotal => (latencies entries).sum
  | .samples index => (measured index entries).length
  | .totalUs index => (measured index entries).sum

theorem figure_append (first second : List Contribution) (counter : Counter)
    : figure (first ++ second) counter = figure first counter + figure second counter := by
  cases counter <;> simp [figure, latencies, measured]

/-- A bucket holds the sums, the maxima and the minima over some contributions; over no values a
maximum and a minimum are zero.
-/
structure Bucket.Holds (bucket : Bucket) (entries : List Contribution) : Prop where
  counts : ∀ counter, (bucket.count counter).toNat = figure entries counter
  hostMin : bucket.hostMin.toNat = (latencies entries).min?.getD 0
  hostMax : bucket.hostMax.toNat = (latencies entries).max?.getD 0
  maximumUs
    : ∀ index, (bucket.timing index).maximumUs.toNat = (measured index entries).max?.getD 0

/-- No sum over the contributions overflows a 64-bit counter. -/
structure Fits (entries : List Contribution) : Prop where
  counts : ∀ counter, figure entries counter < 2 ^ 64
  frames : figure entries .received + figure entries .missing < 2 ^ 64

theorem Fits.left {first second : List Contribution} (fits : Fits (first ++ second))
    : Fits first := by
  have parts := fun counter => figure_append first second counter
  refine ⟨fun counter => ?_, ?_⟩
  · have whole := fits.counts counter
    rw [parts] at whole
    omega
  · have whole := fits.frames
    rw [parts, parts] at whole
    omega

theorem Fits.right {first second : List Contribution} (fits : Fits (first ++ second))
    : Fits second := by
  have parts := fun counter => figure_append first second counter
  refine ⟨fun counter => ?_, ?_⟩
  · have whole := fits.counts counter
    rw [parts] at whole
    omega
  · have whole := fits.frames
    rw [parts, parts] at whole
    omega

-----------------------------------------------------------------------------------------
-- Buckets as folds
-----------------------------------------------------------------------------------------

/-- Every timing that measured something notes it. -/
def noteAll (timing : TimingIndex → Timing) (measured : TimingIndex → Option UInt64)
    : TimingIndex → Timing :=
  fun index => (measured index).elim (timing index) (timing index).note

@[simp] theorem noteAll_none (timing : TimingIndex → Timing)
    : noteAll timing (fun _ => none) = timing := rfl

theorem noteAll_update (timing : TimingIndex → Timing)
    {measured : TimingIndex → Option UInt64} {index : TimingIndex}
    (fresh : measured index = none) (us : UInt64)
    : noteAll timing (Function.update measured index (some us))
      = Function.update (noteAll timing measured) index
          ((noteAll timing measured index).note us) := by
  funext other
  by_cases same : other = index
  · subst same
    simp [noteAll, fresh]
  · simp [noteAll, same]

/-- A contribution put into a bucket, with counters that wrap. -/
def Bucket.add (bucket : Bucket) (entry : Contribution) : Bucket :=
  let bucket :=
    { bucket with
      received := bucket.received + UInt64.ofNat entry.received
      decoded := bucket.decoded + UInt64.ofNat entry.decoded
      presented := bucket.presented + UInt64.ofNat entry.presented
      queued := bucket.queued + UInt64.ofNat entry.queued
      bytes := bucket.bytes + UInt64.ofNat entry.bytes
      missing := bucket.missing + UInt64.ofNat entry.missing
      pacerDrops := bucket.pacerDrops + UInt64.ofNat entry.pacerDrops
      replacements := bucket.replacements + UInt64.ofNat entry.replacements
      timing := noteAll bucket.timing entry.timing }
  entry.hostLatency.elim bucket bucket.noteHostLatency

theorem count_add (bucket : Bucket) (entry : Contribution) (counter : Counter)
    : (bucket.add entry).count counter
      = bucket.count counter + UInt64.ofNat (figure [entry] counter) := by
  obtain ⟨_, _, _, _, _, _, _, _, hostLatency, timing⟩ := entry
  cases counter with
  | hostSamples | hostTotal =>
      cases hostLatency <;>
        simp [Bucket.add, Bucket.count, figure, latencies, Bucket.noteHostLatency]
  | samples index | totalUs index =>
      cases noted : timing index <;> cases hostLatency <;>
        simp [Bucket.add, Bucket.count, figure, measured, Bucket.noteHostLatency, noteAll, noted,
          Timing.note]
  | _ => cases hostLatency <;> simp [Bucket.add, Bucket.count, figure, Bucket.noteHostLatency]

theorem timing_add (bucket : Bucket) (entry : Contribution) (index : TimingIndex)
    : (bucket.add entry).timing index
      = (entry.timing index).elim (bucket.timing index) (bucket.timing index).note := by
  unfold Bucket.add
  cases entry.hostLatency <;> rfl

theorem hostMin_add (bucket : Bucket) (entry : Contribution)
    : (bucket.add entry).hostMin
      = entry.hostLatency.elim bucket.hostMin fun hostLatency =>
          if bucket.hostSamples = 0 ∨ hostLatency < bucket.hostMin then hostLatency
          else bucket.hostMin := by
  unfold Bucket.add
  cases entry.hostLatency <;> rfl

theorem hostMax_add (bucket : Bucket) (entry : Contribution)
    : (bucket.add entry).hostMax
      = entry.hostLatency.elim bucket.hostMax fun hostLatency =>
          if bucket.hostMax < hostLatency then hostLatency else bucket.hostMax := by
  unfold Bucket.add
  cases entry.hostLatency <;> rfl

theorem latencies_concat (entries : List Contribution) (entry : Contribution)
    : latencies (entries ++ [entry])
      = entry.hostLatency.elim (latencies entries) fun hostLatency =>
          latencies entries ++ [hostLatency.toNat] := by
  unfold latencies
  rw [List.filterMap_append]
  cases noted : entry.hostLatency <;> simp [noted]

theorem measured_concat (index : TimingIndex) (entries : List Contribution)
    (entry : Contribution)
    : measured index (entries ++ [entry])
      = (entry.timing index).elim (measured index entries) fun us =>
          measured index entries ++ [us.toNat] := by
  unfold measured
  rw [List.filterMap_append]
  cases noted : entry.timing index <;> simp [noted]

/-- The least of some values and one more. -/
theorem min?_getD_concat (values : List Nat) (value : Nat)
    : (values ++ [value]).min?.getD 0
      = if values = [] then value else min (values.min?.getD 0) value := by
  cases values with
  | nil => rfl
  | cons first rest =>
      rw [List.cons_append, List.min?_cons', List.min?_cons', List.foldl_append,
        if_neg (List.cons_ne_nil _ _)]
      rfl

/-- The greatest of some values and one more. -/
theorem max?_getD_concat (values : List Nat) (value : Nat)
    : (values ++ [value]).max?.getD 0 = max (values.max?.getD 0) value := by
  cases values with
  | nil => simp
  | cons first rest =>
      rw [List.cons_append, List.max?_cons', List.max?_cons', List.foldl_append]
      rfl

/-- A bucket built up from contributions that fit holds their figures, by induction on the
contributions from the last one.
-/
theorem Bucket.Holds.of_fold {entries : List Contribution} (fits : Fits entries)
    : (entries.foldl Bucket.add {}).Holds entries := by
  induction entries using List.reverseRecOn with
  | nil =>
      refine ⟨?_, rfl, rfl, fun _ => rfl⟩
      intro counter
      cases counter <;> rfl
  | append_singleton entries entry ih =>
      have held := ih fits.left
      rw [List.foldl_append, List.foldl_cons, List.foldl_nil]
      generalize entries.foldl Bucket.add {} = bucket at held
      refine ⟨?_, ?_, ?_, ?_⟩
      · intro counter
        have bound := fits.counts counter
        rw [figure_append] at bound ⊢
        rw [count_add, UInt64.toNat_add, held.counts, UInt64.toNat_ofNat', Nat.add_mod_mod,
          Nat.mod_eq_of_lt bound]
      · rw [hostMin_add, latencies_concat]
        cases entry.hostLatency with
        | none => exact held.hostMin
        | some hostLatency =>
            have sampled : bucket.hostSamples.toNat = (latencies entries).length :=
              held.counts .hostSamples
            have first : bucket.hostSamples = 0 ↔ latencies entries = [] := by
              rw [← UInt64.toNat_inj, sampled]
              exact List.length_eq_zero_iff
            simp only [Option.elim_some]
            rw [min?_getD_concat, ← held.hostMin]
            simp only [first, UInt32.lt_iff_toNat_lt]
            grind
      · rw [hostMax_add, latencies_concat]
        cases entry.hostLatency with
        | none => exact held.hostMax
        | some hostLatency =>
            simp only [Option.elim_some]
            rw [max?_getD_concat, ← held.hostMax]
            simp only [UInt32.lt_iff_toNat_lt]
            grind
      · intro index
        have before := held.maximumUs index
        rw [timing_add, measured_concat]
        cases entry.timing index with
        | none => exact before
        | some us =>
            simp only [Option.elim_some, Timing.note]
            rw [max?_getD_concat, ← before]
            simp only [UInt64.lt_iff_toNat_lt]
            grind

-----------------------------------------------------------------------------------------
-- Updates as contributions
-----------------------------------------------------------------------------------------

/-- The newest frame as the statistics keep it. -/
def StreamStats.newest (stats : StreamStats) : Option UInt32 :=
  if stats.hasLastFrame then some stats.lastFrame else none

/-- The account agrees with what the statistics know about their session. -/
structure Account.Tracks (account : Account) (stats : StreamStats) : Prop where
  generation : account.generation = stats.session.generation
  running : account.running = stats.session.active
  nonzero : account.running = true → account.generation ≠ 0
  enabled : account.enabled = stats.session.enabled
  vblankWait : account.vblankWait = decide (stats.session.vblankWait ≠ 0)
  startUs : account.startUs = stats.startUs.toNat
  newest : account.newest = stats.newest

/-- What no accepted update touches. -/
structure Framed (before after : StreamStats) : Prop where
  previous : after.previous = before.previous
  bucketStartUs : after.bucketStartUs = before.bucketStartUs
  startUs : after.startUs = before.startUs
  generation : after.session.generation = before.session.generation
  active : after.session.active = before.session.active
  enabled : after.session.enabled = before.session.enabled
  vblankWait : after.session.vblankWait = before.session.vblankWait

theorem Framed.trans {first second third : StreamStats} (early : Framed first second)
    (late : Framed second third)
    : Framed first third where
  previous := late.previous.trans early.previous
  bucketStartUs := late.bucketStartUs.trans early.bucketStartUs
  startUs := late.startUs.trans early.startUs
  generation := late.generation.trans early.generation
  active := late.active.trans early.active
  enabled := late.enabled.trans early.enabled
  vblankWait := late.vblankWait.trans early.vblankWait

/-- What an accepted update changes: the filling bucket by its contribution, and the newest
frame.
-/
structure Recorded (account : Account) (update : StatsUpdate) (before after : StreamStats)
    : Prop where
  current : after.current = before.current.add (account.contribution update)
  framed : Framed before after
  newest : after.newest = account.newestAfter update

theorem update_none {measured : TimingIndex → Option UInt64} {index : TimingIndex}
    (fresh : measured index = none)
    : Function.update measured index none = measured := by
  rw [← fresh, Function.update_eq_self]

theorem gap_eq {frameNumber last : UInt32} (newer : newerFrame frameNumber last = true)
    : gap (some last) frameNumber = (frameNumber - last - 1).toNat := by
  have positive : (1 : UInt32) ≤ frameNumber - last := by
    unfold newerFrame at newer
    rw [decide_eq_true_eq] at newer
    have different : (frameNumber - last).toNat ≠ 0 := fun same =>
      newer.1 (UInt32.toNat_inj.1 same)
    exact Nat.pos_of_ne_zero different
  rw [UInt32.toNat_sub_of_le _ _ positive]
  simp [gap, newer]

/-- The frame number moves the newest frame and counts the gap in front of it. -/
theorem noteFrameNumber_effect (stats : StreamStats) (frameNumber : UInt32)
    : Framed stats (noteFrameNumber stats frameNumber)
      ∧ (noteFrameNumber stats frameNumber).current
        = { stats.current with
            missing := stats.current.missing + UInt64.ofNat (gap stats.newest frameNumber) }
      ∧ (noteFrameNumber stats frameNumber).newest
        = if stats.newest.elim true (newerFrame frameNumber) then some frameNumber
          else stats.newest := by
  unfold noteFrameNumber StreamStats.newest
  split_ifs with based newer
  · rw [gap_eq newer]
    refine ⟨⟨rfl, rfl, rfl, rfl, rfl, rfl, rfl⟩, ?_, ?_⟩
    · simp
    · simp
  all_goals refine ⟨⟨rfl, rfl, rfl, rfl, rfl, rfl, rfl⟩, ?_, ?_⟩ <;> simp_all [gap]

/-- What an enabled session adds for a received frame. -/
def receiveDetail (hostLatency : UInt32) (receiveUs enqueueUs : UInt64) : Contribution where
  hostLatency := if hostLatency ≠ 0 then some hostLatency else none
  timing :=
    if receiveUs ≤ enqueueUs then measurement .reassembly (enqueueUs - receiveUs)
    else fun _ => none

theorem noteReceiveDetail_effect (stats : StreamStats) (idr : Bool) (hostLatency : UInt32)
    (receiveUs enqueueUs : UInt64)
    : Framed stats (noteReceiveDetail stats idr hostLatency receiveUs enqueueUs)
      ∧ (noteReceiveDetail stats idr hostLatency receiveUs enqueueUs).current
        = stats.current.add (receiveDetail hostLatency receiveUs enqueueUs)
      ∧ (noteReceiveDetail stats idr hostLatency receiveUs enqueueUs).newest = stats.newest := by
  unfold noteReceiveDetail receiveDetail
  split_ifs <;> refine ⟨⟨rfl, rfl, rfl, rfl, rfl, rfl, rfl⟩, ?_, rfl⟩ <;>
    simp [Bucket.add, measurement, noteAll_update, noteTiming, Bucket.noteHostLatency]

/-- Every tagged update records its contribution once `begin_update` has let it in. -/
theorem recorded_of_tagged (update : StatsUpdate)
    : ∃ record : StreamStats → StreamStats,
        (∀ stats generation now,
          update.apply stats generation now = taggedUpdate stats generation now record)
        ∧ ∀ account before,
            account.Tracks before → Recorded account update before (record before) := by
  cases update with
  | received frameNumber bytes idr hostLatency receiveUs enqueueUs later =>
      refine ⟨_, fun _ _ _ => rfl, ?_⟩
      intro account before tracks
      dsimp only
      have frame := noteFrameNumber_effect (countReceived before bytes later) frameNumber
      generalize noteFrameNumber (countReceived before bytes later) frameNumber = noted at frame
      obtain ⟨framed, bucket, newest⟩ := frame
      have counted : Framed before (countReceived before bytes later) :=
        ⟨rfl, rfl, rfl, rfl, rfl, rfl, rfl⟩
      have same : (countReceived before bytes later).newest = account.newest := tracks.newest.symm
      rw [same] at bucket newest
      have switch : noted.session.enabled = account.enabled :=
        framed.enabled.trans tracks.enabled.symm
      rw [switch]
      split_ifs with enabled
      · obtain ⟨detailFramed, detailed, still⟩ :=
          noteReceiveDetail_effect noted idr hostLatency receiveUs enqueueUs
        refine ⟨?_, (counted.trans framed).trans detailFramed, still.trans newest⟩
        rw [detailed, bucket]
        simp only [Account.contribution, receiveDetail, enabled, true_and]
        split_ifs <;> simp [Bucket.add, countReceived, Bucket.noteHostLatency]
      · refine ⟨?_, counted.trans framed, newest⟩
        rw [bucket]
        simp [Account.contribution, enabled, Bucket.add, countReceived]
  | decode callUs outputs failed pacerDrop =>
      refine ⟨_, fun _ _ _ => rfl, ?_⟩
      intro account before tracks
      cases failed <;> cases pacerDrop <;> by_cases silent : outputs = 0 <;>
        refine ⟨?_, ⟨?_, ?_, ?_, ?_, ?_, ?_, ?_⟩, ?_⟩ <;>
        simp [Bucket.add, Account.contribution, measurement, noteAll_update, noteTiming, silent,
          Account.newestAfter, tracks.newest, StreamStats.newest]
  | prepared prepareUs vblankUs width height pitch =>
      refine ⟨_, fun _ _ _ => rfl, ?_⟩
      intro account before tracks
      by_cases waits : before.session.vblankWait = 0 <;>
        refine ⟨?_, ⟨?_, ?_, ?_, ?_, ?_, ?_, ?_⟩, ?_⟩ <;>
        simp [Bucket.add, Account.contribution, measurement, noteAll_update, noteTiming, waits,
          Account.newestAfter, tracks.newest, StreamStats.newest, tracks.vblankWait, update_none]
  | presented queueUs cpuUs =>
      refine ⟨_, fun _ _ _ => rfl, ?_⟩
      intro account before tracks
      refine ⟨?_, ⟨rfl, rfl, rfl, rfl, rfl, rfl, rfl⟩, tracks.newest.symm⟩
      simp [Bucket.add, Account.contribution, measurement, noteAll_update, noteTiming]
  | queued replaced =>
      refine ⟨_, fun _ _ _ => rfl, ?_⟩
      intro account before tracks
      cases replaced <;>
        refine ⟨?_, ⟨rfl, rfl, rfl, rfl, rfl, rfl, rfl⟩, tracks.newest.symm⟩ <;>
        simp [Bucket.add, Account.contribution]
  | audioDecode callUs failed | audioOutput callUs failed =>
      refine ⟨_, fun _ _ _ => rfl, ?_⟩
      intro account before tracks
      cases failed <;>
        refine ⟨?_, ⟨rfl, rfl, rfl, rfl, rfl, rfl, rfl⟩, tracks.newest.symm⟩ <;>
        simp [Bucket.add, Account.contribution, measurement, noteAll_update, noteTiming]
  | connectionStatus _ | idrReturn | network _ _ _ =>
      refine ⟨_, fun _ _ _ => rfl, ?_⟩
      intro account before tracks
      refine ⟨?_, ⟨rfl, rfl, rfl, rfl, rfl, rfl, rfl⟩, tracks.newest.symm⟩
      simp [Bucket.add, Account.contribution]

-----------------------------------------------------------------------------------------
-- The invariant
-----------------------------------------------------------------------------------------

/-- The two buckets as a rolling window. -/
def StreamStats.window (stats : StreamStats) : RollingWindow Bucket where
  bucketStart := stats.bucketStartUs.toNat
  current := stats.current
  previous := stats.previous

/-- `advance_window` turns the window over, its 64-bit arithmetic being exact. -/
theorem advanceWindow_window {stats : StreamStats} {now : UInt64}
    (started : stats.bucketStartUs ≤ now)
    : (advanceWindow stats now).window = stats.window.advance 1000000 {} now.toNat := by
  have steps : ((now - stats.bucketStartUs) / statsBucketUs).toNat
      = (now.toNat - stats.bucketStartUs.toNat) / 1000000 := by
    rw [UInt64.toNat_div, UInt64.toNat_sub_of_le _ _ started]
    rfl
  have whole := Nat.div_mul_le_self (now.toNat - stats.bucketStartUs.toNat) 1000000
  have below := now.toNat_lt
  have begun := UInt64.le_iff_toNat_le.1 started
  have zero : (0 : UInt64).toNat = 0 := rfl
  have one : (1 : UInt64).toNat = 1 := rfl
  unfold advanceWindow RollingWindow.advance StreamStats.window
  simp only [← UInt64.toNat_inj, steps, zero, one]
  split_ifs with still single
  · rfl
  all_goals
    simp only [RollingWindow.mk.injEq, and_true, UInt64.toNat_add, UInt64.toNat_mul, steps]
    have second : statsBucketUs.toNat = 1000000 := rfl
    rw [second, Nat.mod_eq_of_lt (by omega), Nat.mod_eq_of_lt (by omega)]

theorem advanceWindow_session (stats : StreamStats) (now : UInt64)
    : (advanceWindow stats now).session = stats.session
      ∧ (advanceWindow stats now).startUs = stats.startUs
      ∧ (advanceWindow stats now).newest = stats.newest := by
  unfold advanceWindow
  dsimp only
  split_ifs <;> exact ⟨rfl, rfl, rfl⟩

theorem Account.Tracks.advance {account : Account} {stats : StreamStats}
    (tracks : account.Tracks stats) (now : UInt64)
    : account.Tracks (advanceWindow stats now) := by
  obtain ⟨session, start, newest⟩ := advanceWindow_session stats now
  constructor
  · rw [session, tracks.generation]
  · rw [session, tracks.running]
  · exact tracks.nonzero
  · rw [session, tracks.enabled]
  · rw [session, tracks.vblankWait]
  · rw [start, tracks.startUs]
  · rw [newest, tracks.newest]

/-- The account describes the statistics as of a time at which they were last brought up to date.
-/
structure Account.Describes (account : Account) (stats : StreamStats) (clock : Nat) : Prop where
  tracks : account.Tracks stats
  window
    : ∃ touched ≤ clock,
        RollingWindow.Describes 1000000 account.startUs {} Bucket.add stats.window touched
          account.log

/-- An account that describes the statistics describes them up to the present once they are
advanced.
-/
theorem Account.Describes.advance {account : Account} {stats : StreamStats} {clock : Nat}
    (describes : account.Describes stats clock) {now : UInt64} (later : clock ≤ now.toNat)
    : account.Tracks (advanceWindow stats now)
      ∧ RollingWindow.Describes 1000000 account.startUs {} Bucket.add
          (advanceWindow stats now).window now.toNat account.log := by
  obtain ⟨touched, past, window⟩ := describes.window
  have begun : stats.window.bucketStart ≤ touched := by
    rw [window.bucketStart]
    exact bucketStartAt_le 1000000 window.started
  have started : stats.bucketStartUs ≤ now :=
    UInt64.le_iff_toNat_le.2 (begun.trans (past.trans later))
  rw [advanceWindow_window started]
  exact ⟨describes.tracks.advance now, window.advance (by decide) (past.trans later)⟩

theorem beginUpdate_cases (stats : StreamStats) (generation : UInt32) (now : UInt64)
    : (beginUpdate stats generation now = none
        ∧ ¬ (generation ≠ 0 ∧ generation = stats.session.generation ∧ stats.session.active = true))
      ∨ (beginUpdate stats generation now = some (advanceWindow stats now)
        ∧ generation ≠ 0 ∧ generation = stats.session.generation
        ∧ stats.session.active = true) := by
  unfold beginUpdate
  grind

/-- `begin_update` lets in what the account counts. -/
theorem Account.Tracks.counted {account : Account} {stats : StreamStats}
    (tracks : account.Tracks stats) (generation : UInt32) (now : UInt64)
    : (beginUpdate stats generation now = none
        ∧ ¬ (account.running = true ∧ generation = account.generation))
      ∨ (beginUpdate stats generation now = some (advanceWindow stats now)
        ∧ account.running = true ∧ generation = account.generation) := by
  rcases beginUpdate_cases stats generation now with ⟨refused, ended⟩ | ⟨letIn, -, same, active⟩
  · refine .inl ⟨refused, ?_⟩
    rintro ⟨running, same⟩
    refine ended ⟨same ▸ tracks.nonzero running, ?_, ?_⟩
    · rw [same, tracks.generation]
    · rw [← tracks.running, running]
  · exact .inr ⟨letIn, tracks.running.trans active, same.trans tracks.generation.symm⟩

/-- An update leaves the account a description: refused it changes neither side, accepted it
extends the log by what it records.
-/
theorem Account.Describes.update {account : Account} {stats : StreamStats} {clock : Nat}
    (describes : account.Describes stats clock) (generation : UInt32) (update : StatsUpdate)
    {now : UInt64} (later : clock ≤ now.toNat)
    : (account.observe (.updated generation update now)).Describes
        (update.apply stats generation now) now.toNat := by
  obtain ⟨record, tagged, recorded⟩ := recorded_of_tagged update
  rw [tagged, taggedUpdate]
  have tracks := describes.tracks
  rcases tracks.counted generation now with ⟨refused, uncounted⟩ | ⟨let_in, counted⟩
  · rw [refused]
    simp only [Account.observe, if_neg uncounted]
    obtain ⟨touched, past, window⟩ := describes.window
    exact ⟨tracks, touched, past.trans later, window⟩
  · rw [let_in]
    obtain ⟨advanced, window⟩ := describes.advance later
    have effect := recorded account _ advanced
    generalize advanceWindow stats now = before at advanced window effect
    simp only [Account.observe, if_pos counted]
    refine ⟨⟨?_, ?_, tracks.nonzero, ?_, ?_, ?_, effect.newest.symm⟩, now.toNat, Nat.le_refl _, ?_⟩
    · rw [effect.framed.generation, advanced.generation]
    · rw [effect.framed.active, advanced.running]
    · rw [effect.framed.enabled, advanced.enabled]
    · rw [effect.framed.vblankWait, advanced.vblankWait]
    · rw [effect.framed.startUs, advanced.startUs]
    · have turned : (record before).window
          = before.window.record Bucket.add (account.contribution update) := by
        simp only [StreamStats.window, RollingWindow.record, effect.current,
          effect.framed.previous, effect.framed.bucketStartUs]
      rw [turned]
      exact window.record _

/-- Ending the session ends it on both sides. -/
theorem Account.Describes.finish {account : Account} {stats : StreamStats} {clock : Nat}
    (describes : account.Describes stats clock) (generation : UInt32)
    : (account.observe (.ended generation)).Describes (moonlightStatsEnd stats generation)
        clock := by
  have tracks := describes.tracks
  have ended : false = true → account.generation ≠ 0 := fun running => nomatch running
  simp only [Account.observe, moonlightStatsEnd]
  by_cases same : generation = account.generation
  · rw [if_pos same]
    by_cases zero : generation = 0
    · -- no session runs under generation zero
      have idle : account.running = false := by
        by_contra running
        rw [Bool.not_eq_false] at running
        exact tracks.nonzero running (same ▸ zero)
      rw [if_neg (fun both => both.1 zero)]
      refine ⟨⟨tracks.generation, ?_, ended, tracks.enabled, tracks.vblankWait, tracks.startUs,
        tracks.newest⟩, describes.window⟩
      rw [← idle, tracks.running]
    · rw [if_pos ⟨zero, same.trans tracks.generation⟩]
      exact ⟨⟨tracks.generation, rfl, ended, tracks.enabled, tracks.vblankWait, tracks.startUs,
        tracks.newest⟩, describes.window⟩
  · rw [if_neg same, if_neg (fun both => same (both.2.trans tracks.generation.symm))]
    exact describes

/-- The history describes the statistics after every step. -/
theorem describes_step {trace : List StatsEvent} {state : StatsState} {call : StatsCall}
    {after : StatsState} {emitted : List StatsEvent}
    (describes : (account trace).Describes state.stats state.clock.toNat)
    (taken : statsMachine.step state call = some (after, emitted))
    : (account (trace ++ emitted)).Describes after.stats after.clock.toNat := by
  unfold account at describes ⊢
  rw [List.foldl_append]
  generalize trace.foldl Account.observe {} = told at describes
  have tracks := describes.tracks
  cases call with
  | begin settings now =>
      obtain ⟨rfl, rfl⟩ := Prod.ext_iff.1 (Option.some.inj taken)
      refine ⟨⟨rfl, rfl, fun _ => nextGeneration_ne_zero _, rfl, rfl, rfl, rfl⟩, now.toNat, ?_, ?_⟩
      · change now.toNat ≤ (if state.clock ≤ now then now else state.clock).toNat
        split_ifs with ordered
        · exact Nat.le_refl _
        · rw [UInt64.le_iff_toNat_le] at ordered
          omega
      · exact RollingWindow.describes_start 1000000 now.toNat {} Bucket.add
  | finish generation =>
      obtain ⟨rfl, rfl⟩ := Prod.ext_iff.1 (Option.some.inj taken)
      exact describes.finish generation
  | configureVideo format width height fps =>
      obtain ⟨rfl, rfl⟩ := Prod.ext_iff.1 (Option.some.inj taken)
      exact ⟨⟨tracks.generation, tracks.running, tracks.nonzero, tracks.enabled,
        tracks.vblankWait, tracks.startUs, tracks.newest⟩, describes.window⟩
  | configureAudio sampleRate channels =>
      obtain ⟨rfl, rfl⟩ := Prod.ext_iff.1 (Option.some.inj taken)
      exact ⟨⟨tracks.generation, tracks.running, tracks.nonzero, tracks.enabled,
        tracks.vblankWait, tracks.startUs, tracks.newest⟩, describes.window⟩
  | update generation update now =>
      simp only [statsMachine] at taken
      split_ifs at taken with ordered
      obtain ⟨rfl, rfl⟩ := Prod.ext_iff.1 (Option.some.inj taken)
      have updated := describes.update generation update (UInt64.le_iff_toNat_le.1 ordered.1)
      obtain ⟨touched, past, window⟩ := updated.window
      exact ⟨updated.tracks, touched, past.trans (UInt64.le_iff_toNat_le.1 ordered.2), window⟩
  | snapshot now =>
      simp only [statsMachine] at taken
      split_ifs at taken with ordered
      obtain ⟨rfl, rfl⟩ := Prod.ext_iff.1 (Option.some.inj taken)
      obtain ⟨advanced, window⟩ := describes.advance (UInt64.le_iff_toNat_le.1 ordered)
      exact ⟨advanced, now.toNat, Nat.le_refl _, window⟩

theorem reaches_describes {trace : List StatsEvent} {state : StatsState}
    (reached : statsMachine.Reaches trace state)
    : (account trace).Describes state.stats state.clock.toNat := by
  refine reached.invariant (fun trace state =>
    (account trace).Describes state.stats state.clock.toNat) ?_ ?_
  · rintro state rfl
    refine ⟨⟨rfl, rfl, fun running => ?_, rfl, rfl, rfl, rfl⟩, 0, Nat.zero_le _, ?_⟩
    · cases running
    exact RollingWindow.describes_start 1000000 0 {} Bucket.add
  · intro trace state call after emitted describes taken
    exact describes_step describes taken

-----------------------------------------------------------------------------------------
-- The two seconds of a snapshot
-----------------------------------------------------------------------------------------

/-- The latest whole second after the start of the session. -/
def secondStart (trace : List StatsEvent) (now : Nat) : Nat :=
  bucketStartAt 1000000 (account trace).startUs now

/-- What the session counted since that second began. -/
def runningSecond (trace : List StatsEvent) (now : Nat) : List Contribution :=
  between (account trace).log (secondStart trace now) (now + 1)

/-- What the session counted in the second before. -/
def lastSecond (trace : List StatsEvent) (now : Nat) : List Contribution :=
  between (account trace).log (secondStart trace now - 1000000) (secondStart trace now)

/-- The buckets of an advanced window hold the two seconds, as far as their sums fit. -/
theorem buckets_hold {trace : List StatsEvent} {stats : StreamStats} {now : Nat}
    (window
      : RollingWindow.Describes 1000000 (account trace).startUs {} Bucket.add stats.window now
          (account trace).log)
    (fits : Fits (lastSecond trace now ++ runningSecond trace now))
    : stats.current.Holds (runningSecond trace now)
      ∧ stats.previous.Holds (lastSecond trace now) := by
  have start : stats.window.bucketStart = secondStart trace now := window.bucketStart
  have current := window.current
  have previous := window.previous
  rw [start] at current previous
  constructor
  · have held := Bucket.Holds.of_fold fits.right
    rwa [runningSecond, ← current] at held
  · have held := Bucket.Holds.of_fold fits.left
    rwa [lastSecond, ← previous] at held

/-- Rates are over the time since the last second began, or since the session did. -/
theorem rateDuration_eq {trace : List StatsEvent} {stats : StreamStats} {now : UInt64}
    (tracks : (account trace).Tracks stats)
    (window
      : RollingWindow.Describes 1000000 (account trace).startUs {} Bucket.add stats.window
          now.toNat (account trace).log)
    : (rateDuration stats now).toNat
      = now.toNat - max (account trace).startUs (secondStart trace now.toNat - 1000000) := by
  have start : stats.bucketStartUs.toNat = secondStart trace now.toNat := window.bucketStart
  have begun : secondStart trace now.toNat ≤ now.toNat := bucketStartAt_le 1000000 window.started
  have whole : secondStart trace now.toNat
      = (account trace).startUs + (now.toNat - (account trace).startUs) / 1000000 * 1000000 := rfl
  have second : statsBucketUs.toNat = 1000000 := rfl
  unfold rateDuration
  split_ifs with first
  · have same : stats.startUs ≤ now := by
      rw [UInt64.le_iff_toNat_le, ← first, start]
      exact begun
    rw [UInt64.toNat_sub_of_le _ _ same, ← tracks.startUs]
    have same := congrArg UInt64.toNat first
    rw [start, ← tracks.startUs] at same
    omega
  · have later : secondStart trace now.toNat ≠ (account trace).startUs := by
      rw [← start, tracks.startUs]
      exact fun same => first (UInt64.toNat_inj.1 same)
    have room : statsBucketUs ≤ stats.bucketStartUs := by
      rw [UInt64.le_iff_toNat_le, start, second]
      omega
    have back : (stats.bucketStartUs - statsBucketUs).toNat
        = secondStart trace now.toNat - 1000000 := by
      rw [UInt64.toNat_sub_of_le _ _ room, start, second]
    have early : stats.bucketStartUs - statsBucketUs ≤ now := by
      rw [UInt64.le_iff_toNat_le, back]
      omega
    rw [UInt64.toNat_sub_of_le _ _ early, back]
    omega

theorem ratio_percent {part whole : UInt64} (bounded : part.toNat ≤ whole.toNat)
    : 0 ≤ ratio part whole 100 ∧ ratio part whole 100 ≤ 100 := by
  unfold ratio
  split_ifs with empty
  · norm_num
  · have positive : (0 : Rat) < whole.toNat := by
      rw [Nat.cast_pos]
      exact Nat.pos_of_ne_zero fun zero => empty (UInt64.toNat_inj.1 zero)
    have bounded : (part.toNat : Rat) ≤ whole.toNat := Nat.cast_le.2 bounded
    constructor
    · positivity
    · rw [div_le_iff₀ positive]
      linarith

/-- An average lies between bounds of all the values. -/
theorem ratio_average {values : List Nat} {total samples : UInt64} {least greatest : Nat}
    {scale : Rat} (scaled : 0 ≤ scale) (sum : total.toNat = values.sum)
    (count : samples.toNat = values.length) (sampled : samples ≠ 0)
    (lower : ∀ value ∈ values, least ≤ value) (upper : ∀ value ∈ values, value ≤ greatest)
    : least * scale ≤ ratio total samples scale ∧ ratio total samples scale ≤ greatest * scale := by
  have positive : (0 : Rat) < values.length := by
    rw [Nat.cast_pos, ← count]
    exact Nat.pos_of_ne_zero fun zero => sampled (UInt64.toNat_inj.1 zero)
  have low := List.card_nsmul_le_sum values least lower
  have high := List.sum_le_card_nsmul values greatest upper
  rw [nsmul_eq_mul, Nat.cast_id, Nat.mul_comm] at low high
  have low : (least : Rat) * values.length ≤ values.sum := by exact_mod_cast low
  have high : (values.sum : Rat) ≤ greatest * values.length := by exact_mod_cast high
  rw [ratio, if_neg sampled, sum, count, le_div_iff₀ positive, div_le_iff₀ positive]
  constructor
  · calc least * scale * values.length = least * values.length * scale := by ring
      _ ≤ values.sum * scale := mul_le_mul_of_nonneg_right low scaled
  · calc values.sum * scale ≤ greatest * values.length * scale :=
          mul_le_mul_of_nonneg_right high scaled
      _ = greatest * scale * values.length := by ring

-----------------------------------------------------------------------------------------
-- Snapshots of two buckets
-----------------------------------------------------------------------------------------

/-- A drop is one of the decoded pictures, a replacement is one of the queued ones. -/
structure Contribution.Sound (entry : Contribution) : Prop where
  drops : entry.pacerDrops ≤ entry.decoded
  replacements : entry.replacements ≤ entry.queued

theorem contribution_sound (account : Account) (update : StatsUpdate)
    : (account.contribution update).Sound := by
  cases update with
  | decode callUs outputs failed pacerDrop =>
      refine ⟨?_, Nat.le_refl 0⟩
      cases failed <;> cases pacerDrop <;> simp [Account.contribution]
  | queued replaced =>
      refine ⟨Nat.le_refl 0, ?_⟩
      cases replaced <;> simp [Account.contribution]
  | _ => exact ⟨Nat.le_refl 0, Nat.le_refl 0⟩

/-- Every logged contribution is sound, by induction on the history from its last event. -/
theorem account_sound (trace : List StatsEvent)
    : ∀ entry ∈ (account trace).log, entry.2.Sound := by
  induction trace using List.reverseRecOn with
  | nil =>
      intro entry member
      cases member
  | append_singleton trace event ih =>
      unfold account at ih ⊢
      rw [List.foldl_append, List.foldl_cons, List.foldl_nil]
      generalize trace.foldl Account.observe {} = told at ih
      intro entry member
      cases event with
      | began => cases member
      | ended generation =>
          simp only [Account.observe] at member
          split_ifs at member <;> exact ih entry member
      | updated generation update now =>
          simp only [Account.observe] at member
          split_ifs at member
          · rcases List.mem_append.1 member with old | new
            · exact ih entry old
            · rw [List.mem_singleton.1 new]
              exact contribution_sound told update
          · exact ih entry member
      | _ => exact ih entry member

theorem between_sound {log : List (Nat × Contribution)} (sound : ∀ entry ∈ log, entry.2.Sound)
    (lower upper : Nat)
    : ∀ entry ∈ between log lower upper, entry.Sound := by
  intro entry member
  obtain ⟨timed, kept, rfl⟩ := List.mem_map.1 member
  exact sound timed (List.mem_filter.1 kept).1

theorem latencies_append (first second : List Contribution)
    : latencies (first ++ second) = latencies first ++ latencies second :=
  List.filterMap_append

theorem measured_append (index : TimingIndex) (first second : List Contribution)
    : measured index (first ++ second) = measured index first ++ measured index second :=
  List.filterMap_append

theorem Bucket.Holds.latency_bounds {bucket : Bucket} {entries : List Contribution}
    (held : bucket.Holds entries) {value : Nat} (member : value ∈ latencies entries)
    : bucket.hostSamples ≠ 0 ∧ bucket.hostMin.toNat ≤ value ∧ value ≤ bucket.hostMax.toNat := by
  refine ⟨?_, ?_, ?_⟩
  · intro unsampled
    have sampled : bucket.hostSamples.toNat = (latencies entries).length :=
      held.counts .hostSamples
    rw [unsampled] at sampled
    have inhabited := List.length_pos_of_mem member
    have zero : (0 : UInt64).toNat = 0 := rfl
    omega
  · rw [held.hostMin]
    exact List.min?_getD_le_of_mem member
  · rw [held.hostMax]
    exact List.le_max?_getD_of_mem member

section TwoBuckets

variable {current previous : Bucket} {running last : List Contribution}

/-- Adding a counter of the two buckets gives its figure over both seconds. -/
theorem count_both (now : current.Holds running) (before : previous.Holds last)
    (fits : Fits (last ++ running)) (counter : Counter)
    : (current.count counter + previous.count counter).toNat
      = figure (last ++ running) counter := by
  have bound := fits.counts counter
  have parts := figure_append last running counter
  rw [UInt64.toNat_add, now.counts, before.counts]
  omega

/-- The host minimum and maximum of a snapshot bound the latencies of both seconds. -/
theorem host_bounds (now : current.Holds running) (before : previous.Holds last)
    {value : Nat} (member : value ∈ latencies (last ++ running))
    : (hostMinimum current previous).toNat ≤ value
      ∧ value
        ≤ (if previous.hostMax < current.hostMax then current.hostMax
            else previous.hostMax).toNat := by
  rw [latencies_append, List.mem_append] at member
  simp only [hostMinimum, UInt32.lt_iff_toNat_lt]
  rcases member with old | new
  · have bounds := before.latency_bounds old
    constructor <;> split_ifs <;> simp_all <;> omega
  · have bounds := now.latency_bounds new
    constructor <;> split_ifs <;> simp_all <;> omega

/-- The timing maximum of a snapshot bounds the times of both seconds. -/
theorem timing_bound (now : current.Holds running) (before : previous.Holds last)
    (index : TimingIndex) {value : Nat} (member : value ∈ measured index (last ++ running))
    : value
      ≤ (if (previous.timing index).maximumUs < (current.timing index).maximumUs then
            (current.timing index).maximumUs
          else (previous.timing index).maximumUs).toNat := by
  rw [measured_append, List.mem_append] at member
  simp only [UInt64.lt_iff_toNat_lt]
  rcases member with old | new
  · have bound : value ≤ (measured index last).max?.getD 0 := List.le_max?_getD_of_mem old
    rw [← before.maximumUs] at bound
    split_ifs <;> omega
  · have bound : value ≤ (measured index running).max?.getD 0 := List.le_max?_getD_of_mem new
    rw [← now.maximumUs] at bound
    split_ifs <;> omega

/-- Percentages of drops, of replacements and of missing frames stay within a hundred. -/
theorem percentages (now : current.Holds running) (before : previous.Holds last)
    (fits : Fits (last ++ running)) (sound : ∀ entry ∈ last ++ running, entry.Sound)
    : (current.missing + previous.missing).toNat
        ≤ (current.received + previous.received
            + (current.missing + previous.missing)).toNat
      ∧ (current.pacerDrops + previous.pacerDrops).toNat
        ≤ (current.decoded + previous.decoded).toNat
      ∧ (current.replacements + previous.replacements).toNat
        ≤ (current.queued + previous.queued).toNat := by
  have figures := count_both now before fits
  refine ⟨?_, ?_, ?_⟩
  · have received : (current.received + previous.received).toNat
        = figure (last ++ running) .received := figures .received
    have missing : (current.missing + previous.missing).toNat
        = figure (last ++ running) .missing := figures .missing
    have room := fits.frames
    have sum : (current.received + previous.received
          + (current.missing + previous.missing)).toNat
        = figure (last ++ running) .received + figure (last ++ running) .missing := by
      rw [UInt64.toNat_add, received, missing, Nat.mod_eq_of_lt room]
    rw [sum, missing]
    exact Nat.le_add_left _ _
  · have drops : (current.pacerDrops + previous.pacerDrops).toNat
        = figure (last ++ running) .pacerDrops := figures .pacerDrops
    have decoded : (current.decoded + previous.decoded).toNat
        = figure (last ++ running) .decoded := figures .decoded
    rw [drops, decoded]
    exact List.sum_le_sum fun entry member => (sound entry member).drops
  · have replaced : (current.replacements + previous.replacements).toNat
        = figure (last ++ running) .replacements := figures .replacements
    have queued : (current.queued + previous.queued).toNat
        = figure (last ++ running) .queued := figures .queued
    rw [replaced, queued]
    exact List.sum_le_sum fun entry member => (sound entry member).replacements

end TwoBuckets

/-- The timing of a snapshot under its index. -/
def StatsSnapshot.timing (shown : StatsSnapshot) : TimingIndex → MoonlightTimingStats
  | .reassembly => shown.reassembly
  | .decode => shown.decoderCall
  | .prequeue => shown.prequeue
  | .vblank => shown.vblank
  | .pafQueue => shown.pafQueue
  | .pafCpu => shown.pafCpu
  | .audioDecode => shown.audioDecode
  | .audioOutput => shown.audioOutput

/-- Percentages lie in their range; minima, averages and maxima are in order. -/
structure StatsSnapshot.Ordered (shown : StatsSnapshot) : Prop where
  missing : 0 ≤ shown.missingPercent ∧ shown.missingPercent ≤ 100
  pacerDrops : 0 ≤ shown.pacerDropPercent ∧ shown.pacerDropPercent ≤ 100
  replaced : 0 ≤ shown.replacedPercent ∧ shown.replacedPercent ≤ 100
  hostMinimum : shown.hostLatencyMinMs ≤ shown.hostLatencyAverageMs
  hostMaximum : shown.hostLatencyAverageMs ≤ shown.hostLatencyMaxMs
  timing : ∀ index, (shown.timing index).averageMs ≤ (shown.timing index).maximumMs

theorem timing_ordered {stats : StreamStats} {running last : List Contribution}
    (now : stats.current.Holds running) (before : stats.previous.Holds last)
    (fits : Fits (last ++ running)) (index : TimingIndex)
    : (timingSnapshot stats index).averageMs ≤ (timingSnapshot stats index).maximumMs := by
  have samples := count_both now before fits (.samples index)
  have total := count_both now before fits (.totalUs index)
  simp only [timingSnapshot]
  by_cases unsampled
    : (stats.current.timing index).samples + (stats.previous.timing index).samples = 0
  · rw [ratio, if_pos unsampled]
    positivity
  · have average := ratio_average (by norm_num : (0 : Rat) ≤ 1 / 1000) total samples unsampled
      (fun value _ => Nat.zero_le value) (fun value => timing_bound now before index)
    refine average.2.trans (le_of_eq ?_)
    ring

/-- The snapshot of two buckets that hold two seconds is in order. -/
theorem snapshot_ordered {stats : StreamStats} {now : UInt64} {running last : List Contribution}
    (current : (advanceWindow stats now).current.Holds running)
    (previous : (advanceWindow stats now).previous.Holds last) (fits : Fits (last ++ running))
    (sound : ∀ entry ∈ last ++ running, entry.Sound)
    : (moonlightStatsSnapshot stats now).2.Ordered := by
  obtain ⟨missing, drops, replaced⟩ := percentages current previous fits sound
  have timing := timing_ordered current previous fits
  have samples := count_both current previous fits .hostSamples
  have total := count_both current previous fits .hostTotal
  have host := fun sampled => ratio_average (by norm_num : (0 : Rat) ≤ 1 / 10) total samples sampled
    (fun value member => (host_bounds current previous member).1)
    (fun value member => (host_bounds current previous member).2)
  simp only [moonlightStatsSnapshot]
  set hostSamples := (advanceWindow stats now).current.hostSamples
    + (advanceWindow stats now).previous.hostSamples
  refine ⟨ratio_percent missing, ratio_percent drops, ratio_percent replaced, ?_, ?_, ?_⟩
  · dsimp only
    by_cases unsampled : hostSamples = 0
    · rw [if_pos unsampled, if_pos unsampled]
    · rw [if_neg unsampled, if_neg unsampled]
      refine (le_of_eq ?_).trans (host unsampled).1
      ring
  · dsimp only
    by_cases unsampled : hostSamples = 0
    · rw [if_pos unsampled, if_pos unsampled]
    · rw [if_neg unsampled, if_neg unsampled]
      refine (host unsampled).2.trans (le_of_eq ?_)
      ring
  · intro index
    cases index <;> exact timing _

/-- As long as the sums of two seconds fit into 64 bits, a snapshot at any later time shows exactly
these seconds.
-/
theorem snapshot_shows_two_seconds {trace : List StatsEvent} {state : StatsState}
    (reached : statsMachine.Reaches trace state) {now : UInt64} (later : state.clock ≤ now)
    (fits : Fits (lastSecond trace now.toNat ++ runningSecond trace now.toNat))
    : (moonlightStatsSnapshot state.stats now).1.current.Holds (runningSecond trace now.toNat)
      ∧ (moonlightStatsSnapshot state.stats now).1.previous.Holds (lastSecond trace now.toNat)
      ∧ (rateDuration (moonlightStatsSnapshot state.stats now).1 now).toNat
        = now.toNat - max (account trace).startUs (secondStart trace now.toNat - 1000000)
      ∧ (moonlightStatsSnapshot state.stats now).2.Ordered := by
  have described := reaches_describes reached
  obtain ⟨tracks, window⟩ := described.advance (UInt64.le_iff_toNat_le.1 later)
  obtain ⟨current, previous⟩ := buckets_hold window fits
  have sound : ∀ entry ∈ lastSecond trace now.toNat ++ runningSecond trace now.toNat,
      entry.Sound := by
    intro entry member
    rcases List.mem_append.1 member with old | new
    · exact between_sound (account_sound trace) _ _ entry old
    · exact between_sound (account_sound trace) _ _ entry new
  exact ⟨current, previous, rateDuration_eq tracks window,
    snapshot_ordered current previous fits sound⟩

/-- A frame queued in the first second, and a snapshot in the second one. -/
theorem snapshot_shows_queued_frame
    : ∃ trace state,
        statsMachine.Reaches trace state
        ∧ (moonlightStatsSnapshot state.stats 1500000).1.current.Holds []
        ∧ (moonlightStatsSnapshot state.stats 1500000).1.previous.Holds [{ queued := 1 }]
        ∧ (rateDuration (moonlightStatsSnapshot state.stats 1500000).1 1500000).toNat = 1500000
        ∧ (moonlightStatsSnapshot state.stats 1500000).2.Ordered := by
  have reached := Machine.reaches_run statsMachine (rfl : statsMachine.initial {})
    [.begin { showFps := 1 } 0, .update 1 (.queued false) 5] rfl
  refine ⟨_, _, reached, snapshot_shows_two_seconds reached (by decide) ⟨?_, by decide⟩⟩
  intro counter
  cases counter with
  | samples index | totalUs index => cases index <;> decide
  | _ => decide

/-- Two decoder calls whose times do not fit into 64 bits together leave a sum of zero. -/
theorem decode_times_wrap
    : ∃ trace state,
        statsMachine.Reaches trace state
        ∧ state.clock ≤ 20
        ∧ ¬ (moonlightStatsSnapshot state.stats 20).1.current.Holds (runningSecond trace 20) := by
  have reached := Machine.reaches_run statsMachine (rfl : statsMachine.initial {})
    [.begin { showFps := 1 } 0, .update 1 (.decode 0x8000000000000000 1 false false) 5,
      .update 1 (.decode 0x8000000000000000 1 false false) 10] rfl
  refine ⟨_, _, reached, by decide, ?_⟩
  intro held
  exact absurd (held.counts (.totalUs .decode)) (by decide)

end VitaMoonlight.Stream
