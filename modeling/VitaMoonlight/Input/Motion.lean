import Mathlib.Logic.Function.Basic
import VitaMoonlight.Library.Machine

/-! The motion reports (`moonlight/vita_motion.c`): two threads that report the sensors of the console
at the rates that the host asked for, and the calls that start and stop them and set the rates. Each
access to a volatile variable is a step of its own, and any number of calls may be under way.
-/

namespace VitaMoonlight

open Library

/-- The sensors that have a thread and a rate. -/
inductive Sensor
  | gyro
  | accel
deriving DecidableEq

/-- The values of `motion_type` that the code tells apart. -/
inductive MotionType
  | gyro
  | accel
  | other
deriving DecidableEq

/-- What a call does next. -/
inductive MotionAccess
  | storeActive (active : Bool)
  | storeEnabled (enabled : Bool)
  | storeRate (sensor : Sensor) (rate : UInt16)
  /-- `if (!s_enabled)` of `vita_motion_start`. -/
  | testEnabled
  /-- `!s_enabled` in the test of `vita_motion_set_state`. -/
  | testReporting (motionType : MotionType) (rate : UInt16)
  /-- `if (s_initialized)` of `vita_motion_init`. -/
  | testInitialized
  | createThread (sensor : Sensor)
  | storeInitialized
deriving DecidableEq

/-- Where a report thread is. -/
inductive ReportPlace
  | top
  /-- It has seen `s_active`. -/
  | active
  /-- It has seen `s_enabled`. -/
  | enabled
  /-- It has seen a rate that is not zero, and reports. -/
  | reporting
  | delaying
  /-- It has divided by zero. -/
  | faulted
deriving DecidableEq

/-- A call of the renderer's or the host's thread. -/
inductive MotionCall
  | start (enabled : Bool)
  | stop
  | setState (controller : UInt16) (motionType : MotionType) (rate : UInt16)

/-- The static variables of the file, the threads and the calls under way. -/
structure MotionState where
  active : Bool := false
  enabled : Bool := false
  rate : Sensor → UInt16 := fun _ => 0
  initialized : Bool := false
  started : Sensor → Bool := fun _ => false
  threads : Sensor → Option ReportPlace := fun _ => none
  calls : List (List MotionAccess) := []

/-- What a run shows. -/
inductive MotionLabel
  /-- A rate is stored. -/
  | stored (sensor : Sensor) (rate : UInt16)
  /-- A thread has tested a rate that is not zero. -/
  | tested (sensor : Sensor)
  /-- A thread has read a rate and divides by it. -/
  | divided (sensor : Sensor) (rate : UInt16)
deriving DecidableEq

/-- A step of the run; whether a thread can be created is up to the kernel. -/
inductive MotionChoice
  | call (call : MotionCall)
  | access (index : Nat) (starts : Bool)
  | report (sensor : Sensor)

/-- What `vita_motion_stop` stores. -/
def stopAccesses : List MotionAccess :=
  [.storeActive false, .storeRate .gyro 0, .storeRate .accel 0]

/-- What a call does at first. -/
def MotionCall.accesses : MotionCall → List MotionAccess
  | .start enabled => [.storeEnabled enabled, .testEnabled]
  | .stop => stopAccesses
  | .setState controller motionType rate =>
      if controller ≠ 0 then [] else [.testReporting motionType rate]

namespace MotionState

/-- One access of a call: the state after it, what the call does after it, and what it shows. -/
def access (motion : MotionState) (starts : Bool) (rest : List MotionAccess)
    : MotionAccess → MotionState × List MotionAccess × List MotionLabel
  | .storeActive active => ({ motion with active }, rest, [])
  | .storeEnabled enabled => ({ motion with enabled }, rest, [])
  | .storeRate sensor rate =>
      ({ motion with rate := Function.update motion.rate sensor rate }, rest,
        [.stored sensor rate])
  | .testEnabled =>
      (motion,
        if motion.enabled then .testInitialized :: .storeActive true :: rest
        else stopAccesses ++ rest,
        [])
  | .testReporting motionType rate =>
      (motion,
        if motion.enabled then
          match motionType with
          | .gyro => .storeRate .gyro rate :: rest
          | .accel => .storeRate .accel rate :: rest
          | .other => rest
        else rest,
        [])
  | .testInitialized =>
      (motion,
        if motion.initialized then rest
        else .createThread .gyro :: .createThread .accel :: .storeInitialized :: rest,
        [])
  | .createThread sensor =>
      if motion.started sensor ∨ !starts then (motion, rest, [])
      else
        ({ motion with
            started := Function.update motion.started sensor true
            threads := Function.update motion.threads sensor (some .top) },
          rest, [])
  | .storeInitialized => ({ motion with initialized := true }, rest, [])

/-- `gyro_thread_main` and `accel_thread_main`: the thread's next access, where it goes on and what
it shows. The rate is read once for the test and, behind the report, once more for the division.
-/
def report (motion : MotionState) (sensor : Sensor)
    : ReportPlace → Option (ReportPlace × List MotionLabel)
  | .top => some (if motion.active then .active else .delaying, [])
  | .active => some (if motion.enabled then .enabled else .delaying, [])
  | .enabled =>
      if motion.rate sensor ≠ 0 then some (.reporting, [.tested sensor])
      else some (.delaying, [])
  | .reporting =>
      some
        (if motion.rate sensor = 0 then .faulted else .delaying,
          [.divided sensor (motion.rate sensor)])
  | .delaying => some (.top, [])
  | .faulted => none

end MotionState

/-- One step. -/
def motionStep (motion : MotionState) : MotionChoice → Option (MotionState × List MotionLabel)
  | .call call => some ({ motion with calls := motion.calls ++ [call.accesses] }, [])
  | .access index starts =>
      match motion.calls[index]? with
      | some (next :: rest) =>
          let (after, later, labels) := motion.access starts rest next
          some ({ after with calls := after.calls.set index later }, labels)
      | _ => none
  | .report sensor =>
      match motion.threads sensor with
      | none => none
      | some place =>
          match motion.report sensor place with
          | none => none
          | some (next, labels) =>
              some
                ({ motion with threads := Function.update motion.threads sensor (some next) },
                  labels)

/-- The motion reports of a process that has just started. -/
def motionMachine : Machine MotionState MotionChoice MotionLabel where
  initial motion := motion = {}
  step := motionStep

end VitaMoonlight
