import TestRunner.Server.Registry
import TestRunner.Recorder.Clock

/-! The recording length that a client asks for, and the length that a recorder keeps to. -/
namespace TestRunner.Server

open Recorder

variable {X : Type}

/-- The milliseconds of a length in seconds. -/
def milliseconds (length : UInt32) : Int := length.toNat * 1000

/-- One statement compares with a length: `is_done()` in the elapsed time, `processBuffer()` in
its two trims and its header. -/
structure KeepsLength (cfg : Config X) (length : Int) (s : Recorder.State X) (a : Recorder.Action)
    (s' : Recorder.State X) : Prop where
  elapsed : ∀ now, s.record = .elapsedCheck now → a = .record .elapsedCheck →
    (s'.record = cfg.exitLoop ↔ length ≤ now - s.mStartTime)
  trim : ∀ now, s.buffer = .trim now → a = .buffer .trim →
    s'.mInputBuf = periodicTrim (now - length) s.mInputBuf
  finalTrim : ∀ v, s.buffer = .finalTrim v → a = .buffer .finalTrim →
    s'.mInputBuf = Recorder.finalTrim (v - length) s.mInputBuf
  header : ∀ v v', s.buffer = .write v v' → a = .buffer .write →
    s'.cmdFile s.mRecordingPath = some (recording
      (if length ≤ v' - s.mStartTime then v - length else s.mStartTime) s.mInputBuf)

/-- Every statement of every run with a clock that never goes back keeps to the length. -/
def LengthKept (cfg : Config X) (length : Int) (state : Option X) (now : Nat) : Prop :=
  ∀ as s a s', run (Recorder.step cfg) (Recorder.initial cfg state now) as = some s →
    Along (Recorder.step cfg) Forward (Recorder.initial cfg state now) (as ++ [a]) →
    Recorder.step cfg s a = some s' → KeepsLength cfg length s a s'

theorem keepsLength_step {cfg : Config X} {s s' : Recorder.State X} {a : Recorder.Action}
    (stepped : Recorder.step cfg s a = some s') : KeepsLength cfg cfg.length s a s' := by
  have exit : RecordPc.select ≠ cfg.exitLoop := by
    unfold Config.exitLoop
    split <;> simp
  have move := (Recorder.step_move stepped).2
  constructor
  · rintro now pc rfl
    cases move with
    | record m =>
      cases m with
      | elapsed t here free late =>
        cases here.symm.trans pc
        exact iff_of_true rfl late
      | notElapsed t here free early =>
        cases here.symm.trans pc
        exact iff_of_false exit early
  · rintro now pc rfl
    cases move with
    | buffer m =>
      cases m with
      | trim t here => cases here.symm.trans pc; rfl
  · rintro v pc rfl
    cases move with
    | buffer m =>
      cases m with
      | finalTrim t here => cases here.symm.trans pc; rfl
  · rintro v v' pc rfl
    cases move with
    | buffer m =>
      cases m with
      | write t t' here =>
        cases here.symm.trans pc
        exact Function.update_self ..

/-- The product of the constructor is exact if and only if it fits 32 bits. -/
theorem recorderConfig_length (fileTimestamp : Int → String) (filename : List UInt8)
    (length : UInt32) (continuous : Bool) (host : Host X) :
    (recorderConfig fileTimestamp filename length continuous host).length =
      milliseconds length % 2 ^ 32 := by
  have thousand : (1000 : UInt32).toNat = 1000 := rfl
  change ((length * 1000).toNat : Int) = _
  rw [UInt32.toNat_mul, thousand, milliseconds]
  omega

variable {cfg : Config X} {state : Option X} {now : Nat}

def untilElapsed (t : Int) : List Recorder.Action := .tick t :: [.record .elapsedNow]

/-- A stop of a continuous session, up to its dump. -/
def untilDump (t : Int) : List Recorder.Action :=
  .tick t :: .buffer .load :: .caller .stopFlag :: .caller .stopTime :: dumpWaiting

theorem enterLoop_clock (cfg : Config X) (state : Option X) (now : Nat) :
    ∃ s, run (Recorder.step cfg) (Recorder.initial cfg state now) enterLoop = some s ∧
      s.clock = now := by
  obtain ⟨filename, length, continuous, devices, distinct, xkb, stamp⟩ := cfg
  cases continuous <;> exact ⟨_, rfl, rfl⟩

/-- The clock of a session is set once, to a later time. -/
theorem forward_session (cfg : Config X) (state : Option X) {now : Nat} {t : Int}
    (later : (now : Int) ≤ t) (as : List Recorder.Action) (still : ∀ u, .tick u ∉ as) :
    Along (Recorder.step cfg) Forward (Recorder.initial cfg state now) (enterLoop ++ .tick t :: as) := by
  have calm : ∀ as, (∀ u, Recorder.Action.tick u ∉ as) → ∀ s : Recorder.State X,
      Along (Recorder.step cfg) Forward s as := by
    intro as still s
    apply along_of_forall
    intro a inside s
    cases a with
    | tick u => exact absurd inside (still u)
    | _ => trivial
  obtain ⟨s, reached, clock⟩ := enterLoop_clock cfg state now
  refine (along_append _ reached).mpr ⟨calm enterLoop (by simp [enterLoop]) _, ?_, ?_⟩
  · change s.clock ≤ t
    rw [clock]
    exact later
  · exact fun s' _ => calm as still s'

theorem reach_elapsed (state : Option X) (now : Nat) (fixed : cfg.mContinuous = false) (t : Int) :
    ∃ s, run (Recorder.step cfg) (Recorder.initial cfg state now) (enterLoop ++ untilElapsed t) =
        some s ∧
      s.fault = none ∧ s.record = .elapsedCheck t ∧ s.stopMtxFree = true ∧ s.mStartTime = now := by
  obtain ⟨filename, length, continuous, devices, distinct, xkb, stamp⟩ := cfg
  cases fixed
  exact ⟨_, rfl, rfl, rfl, rfl, rfl⟩

theorem reach_dump (state : Option X) (now : Nat) (continuous : cfg.mContinuous = true) (t : Int) :
    ∃ s, run (Recorder.step cfg) (Recorder.initial cfg state now) (enterLoop ++ untilDump t) =
        some s ∧
      s.fault = none ∧ s.buffer = .write t t ∧ s.mStartTime = now := by
  obtain ⟨filename, length, mode, devices, distinct, xkb, stamp⟩ := cfg
  cases continuous
  exact ⟨_, rfl, rfl, rfl, rfl⟩

theorem recording_inj {start start' : Int} {records records' : List InputRecord}
    (same : recording start records = recording start' records') : start = start' := by
  simp only [recording, List.cons.injEq, Line.start.injEq, true_and] at same
  exact same.1

theorem elapsed_kept {length : Int} (fixed : cfg.mContinuous = false)
    (kept : LengthKept cfg length state now) : length ≤ cfg.length := by
  have nonneg : 0 ≤ cfg.length := Int.natCast_nonneg _
  obtain ⟨s, reached, fault, pc, free, start⟩ :=
    reach_elapsed state now fixed (now + cfg.length)
  have late : now + cfg.length - s.mStartTime ≥ cfg.length := by omega
  have stepped := Recorder.move_step fault (.record (.elapsed _ pc free late))
  have later : (now : Int) ≤ now + cfg.length := by omega
  have forward := forward_session cfg state later [.record .elapsedNow, .record .elapsedCheck] (by simp)
  have keeps := kept _ s (.record .elapsedCheck) _ reached (by simpa [untilElapsed] using forward) stepped
  have known := (keeps.elapsed _ pc rfl).mp rfl
  omega

theorem dump_kept {length : Int} (continuous : cfg.mContinuous = true)
    (kept : LengthKept cfg length state now) : length = cfg.length := by
  have nonneg : 0 ≤ cfg.length := Int.natCast_nonneg _
  obtain ⟨s, reached, fault, pc, start⟩ :=
    reach_dump state now continuous (now + cfg.length + 1)
  have stepped := Recorder.move_step fault (.buffer (.write _ _ pc : Recorder.BufferMove cfg s _ _))
  have later : (now : Int) ≤ now + cfg.length + 1 := by omega
  have forward := forward_session cfg state later
    (.buffer .load :: .caller .stopFlag :: .caller .stopTime :: dumpWaiting ++ [.buffer .write])
    (by simp [dumpWaiting])
  have keeps := kept _ s (.buffer .write) _ reached (by simpa [untilDump] using forward) stepped
  have file := (Function.update_self s.mRecordingPath _ s.cmdFile).symm.trans (keeps.header _ _ pc rfl)
  have starts := recording_inj (Option.some.inj file)
  unfold headerStart at starts
  rw [start, if_pos (by omega)] at starts
  split at starts <;> omega

/-- A recorder keeps to the length that was asked for, and to no longer one when less is asked,
if and only if its milliseconds fit 32 bits. -/
theorem length_honoured_iff (fileTimestamp : Int → String) (filename : List UInt8)
    (length : UInt32) (continuous : Bool) (host : Host X) :
    LengthKept (recorderConfig fileTimestamp filename length continuous host)
        (milliseconds length) host.state host.now ∧
      (∀ shorter ≤ length,
        (recorderConfig fileTimestamp filename shorter continuous host).length ≤
          (recorderConfig fileTimestamp filename length continuous host).length) ↔
      length.toNat * 1000 < 2 ^ 32 := by
  have wraps := recorderConfig_length fileTimestamp filename length continuous host
  constructor
  · rintro ⟨kept, -⟩
    have short : milliseconds length ≤
        (recorderConfig fileTimestamp filename length continuous host).length := by
      cases continuous with
      | false => exact elapsed_kept rfl kept
      | true => exact (dump_kept rfl kept).le
    unfold milliseconds at *
    omega
  · intro fits
    have exact : (recorderConfig fileTimestamp filename length continuous host).length =
        milliseconds length := by
      rw [wraps]
      unfold milliseconds
      omega
    refine ⟨fun as s a s' _ _ stepped => exact ▸ keepsLength_step stepped, fun shorter less => ?_⟩
    have wraps' := recorderConfig_length fileTimestamp filename shorter continuous host
    have smaller : shorter.toNat ≤ length.toNat := UInt32.le_iff_toNat_le.mp less
    unfold milliseconds at *
    omega

/-- A recorder of the first length whose milliseconds do not fit. -/
def wrapped : Config Unit :=
  recorderConfig (fun _ => "t") [0x61] 4294968 false Registry.keyboardHost

/-- It stops after 704 milliseconds, and one of a second less does not. -/
theorem length_wraps :
    (∃ s s', run (Recorder.step wrapped) (Recorder.initial wrapped none 0)
        (enterLoop ++ untilElapsed 704) = some s ∧
      Recorder.step wrapped s (.record .elapsedCheck) = some s' ∧ s.mStartTime = 0 ∧
      s'.record = wrapped.exitLoop ∧
      ¬ KeepsLength wrapped (milliseconds 4294968) s (.record .elapsedCheck) s') ∧
    milliseconds 4294968 = 4294968000 ∧ wrapped.length = 704 ∧
    (recorderConfig (fun _ => "t") [0x61] 4294967 false Registry.keyboardHost).length =
      4294967000 := by
  refine ⟨⟨_, _, rfl, rfl, rfl, rfl, fun keeps => ?_⟩, by decide⟩
  exact absurd ((keeps.elapsed 704 rfl rfl).mp rfl) (by decide)

end TestRunner.Server
