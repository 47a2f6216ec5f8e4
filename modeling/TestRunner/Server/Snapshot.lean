import TestRunner.Recorder.Retention
import Mathlib.Data.List.Forall2

/-! The server with its snapshot recorder: device events come in and `getSnapshot` is
called, each when every thread has come to rest. -/
namespace TestRunner.Server

open Recorder

def snapshotRecorder {X : Type} (devices : List InDevice) (distinct : (devices.map InDevice.fd).Nodup)
    (xkb : Xkb X) (fileTimestamp : Int → String) : Config X where
  mFilename := "input_snapshot"
  mRecordingLength := 30 * 1000
  mContinuous := true
  availableDevices := devices
  distinct := distinct
  xkb := xkb
  fileTimestamp := fileTimestamp

/-- A device event, with the time it came in and whether the session was recording then. -/
structure Produced where
  time : Int
  device : InDevice
  ev : InputEvent
  recording : Bool
  deriving DecidableEq, Repr

/-- The constructor and the end of `getSnapshot` are in `Start()`, its beginning in `Stop()`. -/
inductive Handler where
  | idle | stopping | starting
  deriving DecidableEq, Repr

structure Snapshot (X : Type) where
  recorder : Recorder.State X
  handler : Handler
  -- what the kernel holds for each descriptor of the recorder
  queues : Int → List InputEvent
  -- the events since the last call of `getSnapshot`
  produced : List Produced

variable {X : Type}

inductive Action where
  -- an event of a monitored device
  | produce (device : InDevice) (ev : InputEvent)
  -- a call of `getSnapshot`, up to the first statement of `Stop()`
  | getSnapshot
  | thread (a : Recorder.Action)
  deriving DecidableEq, Repr

def snapshotInitial (cfg : Config X) (xkb : Option X) (now : Nat) : Snapshot X where
  recorder := Recorder.initial cfg xkb now
  handler := .starting
  queues := fun _ => []
  produced := []

def Snapshot.drained (t : Snapshot X) : Bool :=
  t.recorder.devicesToRecord.all fun d => (t.queues d.fd).isEmpty

/-- No request is in progress, and the threads wait for events or have ended. -/
def Snapshot.quiet (t : Snapshot X) : Bool :=
  t.handler = .idle ∧
    ((t.recorder.record = .select ∧ t.recorder.buffer = .wait ∧ t.recorder.mStop = false ∧
        t.drained = true) ∨
      t.recorder.record = .returned)

def Snapshot.selected (t : Snapshot X) : SelectOutcome :=
  if t.drained then .timeout
  else .ready ((t.recorder.devicesToRecord.filter fun d => !(t.queues d.fd).isEmpty).map InDevice.fd)

def Snapshot.next (t : Snapshot X) : ReadOutcome :=
  match t.recorder.record with
  | .read (d :: _) => match t.queues d.fd with
    | ev :: _ => .event ev
    | [] => .nothing
  | _ => .nothing

/-- The calls that the handler is in, the outcomes that the devices allow, and a clock
that does not go back. -/
def Snapshot.allows (t : Snapshot X) : Recorder.Action → Bool
  | .caller .stopTime | .caller .stopJoin => t.handler = .stopping
  | .caller .start | .caller .spawn => t.handler = .starting
  | .caller _ => false
  | .record (.select o _) => o = t.selected
  | .record (.read o) => o = t.next
  | .record _ | .buffer _ => true
  | .tick u => t.recorder.clock ≤ u

def Handler.after (h : Handler) (caller : CallerPc) : Recorder.Action → Handler
  | .caller .stopJoin => .starting
  | .caller .start => if caller = .spawning then .starting else .idle
  | .caller .spawn => .idle
  | _ => h

def Snapshot.popped (t : Snapshot X) : Recorder.Action → Int → List InputEvent
  | .record (.read _) => match t.recorder.record with
    | .read (d :: _) => Function.update t.queues d.fd (t.queues d.fd).tail
    | _ => t.queues
  | _ => t.queues

def snapshotStep (cfg : Config X) (t : Snapshot X) (a : Action) : Option (Snapshot X) :=
  match a with
  | .produce d ev =>
    if t.quiet ∧ d ∈ t.recorder.devicesToRecord then
      some { t with
        queues := Function.update t.queues d.fd (t.queues d.fd ++ [ev])
        produced := t.produced ++ [⟨t.recorder.clock, d, ev, t.recorder.isActive⟩] }
    else none
  | .getSnapshot =>
    if t.quiet then
      (step cfg t.recorder (.caller .stopFlag)).map fun r =>
        { t with recorder := r, handler := .stopping }
    else none
  | .thread a =>
    if t.allows a then
      (step cfg t.recorder a).map fun r =>
        { recorder := r
          handler := t.handler.after r.caller a
          queues := t.popped a
          produced := if a = .caller .stopJoin then [] else t.produced }
    else none

end TestRunner.Server
