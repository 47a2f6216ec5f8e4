import TestRunner.Recorder.Writers

/-! The number of event lines of a dump: the size of the buffer is bounded by the periodic trim
alone. -/
namespace TestRunner.Recorder

variable {X : Type} {cfg : Config X} {s s' : State X} {as : List Action}

def BufferPc.finalTrimming : BufferPc → Option Int
  | .finalTrim v => some v
  | _ => none

/-- A dump has at most `FILE_MAX_LINES` event lines. -/
def FewLines (cfg : Config X) (s : State X) : Action → Prop
  | .buffer .write => ∀ t ∈ step cfg s (.buffer .write),
    (eventLines (t.cmdFile t.mRecordingPath)).length ≤ fileMaxLines
  | _ => True

/-- All records but the last `FILE_MAX_LINES` of the buffer are older than the window of the final
trim. -/
def TrimsEnough (cfg : Config X) (s : State X) : Action → Prop
  | .buffer .finalTrim => ∀ v ∈ s.buffer.finalTrimming,
    ∀ r ∈ s.mInputBuf.take (s.mInputBuf.length - fileMaxLines), r.tsAbs < v - cfg.length
  | _ => True

instance (cfg : Config X) (s : State X) : (a : Action) → Decidable (TrimsEnough cfg s a)
  | .buffer .finalTrim => inferInstanceAs (Decidable (∀ v ∈ s.buffer.finalTrimming, _))
  | .caller _ | .record _ | .tick _ => isTrue trivial
  | .buffer .load | .buffer .wake | .buffer .now | .buffer .trim | .buffer .readStop
  | .buffer .openFile | .buffer .header | .buffer .write => isTrue trivial

theorem fewLines_iff {v v' : Int} (sound : s.fault = none) (pc : s.buffer = .write v v') :
    FewLines cfg s (.buffer .write) ↔ s.mInputBuf.length ≤ fileMaxLines := by
  have write : Move cfg s (.buffer .write) _ := .buffer (.write v v' pc)
  have dump := move_step sound write
  have lines := congrArg (fun file => (eventLines file).length) (dump_file pc dump)
  simp only [eventLines_recording, List.length_map] at lines
  constructor
  · intro few
    exact lines ▸ few _ dump
  · intro short t dump'
    cases Option.some.inj (dump.symm.trans dump')
    exact lines.le.trans short

theorem trimsEnough_iff {v : Int} (pc : s.buffer = .finalTrim v) :
    TrimsEnough cfg s (.buffer .finalTrim) ↔
      (finalTrim (v - cfg.length) s.mInputBuf).length ≤ fileMaxLines := by
  rw [finalTrim_eq_cut, Window.length_cut_le_iff]
  constructor
  · intro enough
    exact enough v (by rw [pc]; rfl)
  · intro old u trimming
    rw [pc] at trimming
    cases trimming
    exact old

/-- While the buffer is locked for a dump, nothing changes it up to the write. -/
theorem held_step {a : Action} (shape : Shape cfg s) (held : s.buffer.holdsBuf = true)
    (move : Move cfg s a s') :
    (∃ v v', s.buffer = .write v v' ∧ a = .buffer .write ∧ s'.buffer.holdsBuf = false) ∨
    a ≠ .buffer .write ∧ a ≠ .buffer .finalTrim ∧ s'.buffer.holdsBuf = true ∧
      s'.mInputBuf = s.mInputBuf := by
  have other : ∀ pc, pc.holdsBuf = false → s.buffer ≠ pc := by
    rintro pc free rfl
    simp [free] at held
  cases move with
  | caller m => cases m <;> exact .inr ⟨by simp, by simp, held, rfl⟩
  | record m =>
    cases m with
    | setupContinuous pc mode => exact absurd (shape.buffer_absent (by simp [pc])) (other _ rfl)
    | push r rest pc mode free => simp [State.bufMtxFree, held] at free
    | joinBuffer pc ended => exact absurd ended (other _ rfl)
    | _ => exact .inr ⟨by simp, by simp, held, rfl⟩
  | buffer m =>
    cases m with
    | write v v' pc => exact .inl ⟨v, v', pc, rfl, rfl⟩
    | openFile v pc => exact .inr ⟨by simp, by simp, rfl, rfl⟩
    | header v pc => exact .inr ⟨by simp, by simp, rfl, rfl⟩
    | loadStop pc stop => exact absurd pc (other _ rfl)
    | loadWait pc go => exact absurd pc (other _ rfl)
    | wake pc free => exact absurd pc (other _ rfl)
    | now pc => exact absurd pc (other _ rfl)
    | trim now pc => exact absurd pc (other _ rfl)
    | readStop pc => exact absurd pc (other _ rfl)
    | finalTrim v pc => exact absurd pc (other _ rfl)
  | tick t => exact .inr ⟨by simp, by simp, held, rfl⟩

/-- The final trim is the statement that locks the buffer for the dump. -/
theorem free_step {a : Action} (free : s.buffer.holdsBuf = false) (move : Move cfg s a s') :
    (∃ v, s.buffer = .finalTrim v ∧ a = .buffer .finalTrim ∧ s'.buffer.holdsBuf = true ∧
      s'.mInputBuf = finalTrim (v - cfg.length) s.mInputBuf) ∨
    a ≠ .buffer .write ∧ a ≠ .buffer .finalTrim ∧ s'.buffer.holdsBuf = false := by
  cases move with
  | caller m => cases m <;> exact .inr ⟨by simp, by simp, free⟩
  | record m =>
    cases m with
    | setupContinuous pc mode => exact .inr ⟨by simp, by simp, rfl⟩
    | joinBuffer pc ended => exact .inr ⟨by simp, by simp, rfl⟩
    | _ => exact .inr ⟨by simp, by simp, free⟩
  | buffer m =>
    cases m with
    | finalTrim v pc => exact .inl ⟨v, pc, rfl, rfl, rfl⟩
    | write v v' pc => simp [pc, BufferPc.holdsBuf] at free
    | openFile v pc => simp [pc, BufferPc.holdsBuf] at free
    | header v pc => simp [pc, BufferPc.holdsBuf] at free
    | _ => exact .inr ⟨by simp, by simp, rfl⟩
  | tick t => exact .inr ⟨by simp, by simp, free⟩

theorem fewLines_of_ne {a : Action} (other : a ≠ .buffer .write) : FewLines cfg s a := by
  unfold FewLines
  split
  · exact absurd rfl other
  · trivial

theorem trimsEnough_of_ne {a : Action} (other : a ≠ .buffer .finalTrim) : TrimsEnough cfg s a := by
  unfold TrimsEnough
  split
  · exact absurd rfl other
  · trivial

/-- A locked buffer fits into the file. -/
def Short (s : State X) : Prop :=
  s.buffer.holdsBuf = true → s.mInputBuf.length ≤ fileMaxLines

theorem short_step {a : Action} (shape : Shape cfg s) (short : Short s)
    (enough : TrimsEnough cfg s a) (h : step cfg s a = some s') : Short s' ∧ FewLines cfg s a := by
  obtain ⟨sound, move⟩ := step_move h
  by_cases held : s.buffer.holdsBuf = true
  · rcases held_step shape held move with ⟨v, v', pc, rfl, free⟩ | ⟨other, -, held', same⟩
    · constructor
      · intro held'
        exact absurd held' (by simp [free])
      · exact (fewLines_iff sound pc).mpr (short held)
    · constructor
      · intro _
        exact same ▸ short held
      · exact fewLines_of_ne other
  · rcases free_step (by simpa using held) move with ⟨v, pc, rfl, -, trimmed⟩ | ⟨other, -, free⟩
    · constructor
      · intro _
        exact trimmed ▸ (trimsEnough_iff pc).mp enough
      · trivial
    · constructor
      · intro held'
        exact absurd held' (by simp [free])
      · exact fewLines_of_ne other

/-- A locked buffer that does not fit is written as it is. -/
theorem long_run (shape : Shape cfg s) (held : s.buffer.holdsBuf = true)
    (long : fileMaxLines < s.mInputBuf.length) (h : run (step cfg) s as = some s')
    (free : s'.buffer.holdsBuf = false) : ¬ Along (step cfg) (FewLines cfg) s as := by
  intro along
  induction as generalizing s with
  | nil =>
    cases Option.some.inj h
    exact absurd held (by simp [free])
  | cons a as ih =>
    obtain ⟨t, stepped, rest⟩ := Option.bind_eq_some_iff.mp h
    obtain ⟨sound, move⟩ := step_move stepped
    rcases held_step shape held move with ⟨v, v', pc, rfl, -⟩ | ⟨-, -, held', same⟩
    · exact absurd ((fewLines_iff sound pc).mp along.1) (by omega)
    · exact ih (shape_step shape move) held' (same ▸ long) rest (along.2 t stepped)

theorem enough_of_few (shape : Shape cfg s) (h : run (step cfg) s as = some s')
    (free : s'.buffer.holdsBuf = false) (few : Along (step cfg) (FewLines cfg) s as) :
    Along (step cfg) (TrimsEnough cfg) s as := by
  induction as generalizing s with
  | nil => trivial
  | cons a as ih =>
    obtain ⟨t, stepped, rest⟩ := Option.bind_eq_some_iff.mp h
    obtain ⟨-, move⟩ := step_move stepped
    have shape' := shape_step shape move
    constructor
    · by_cases held : s.buffer.holdsBuf = true
      · rcases held_step shape held move with ⟨v, v', -, rfl, -⟩ | ⟨-, other, -, -⟩
        · trivial
        · exact trimsEnough_of_ne other
      · rcases free_step (by simpa using held) move with
          ⟨v, pc, rfl, held', trimmed⟩ | ⟨-, other, -⟩
        · apply (trimsEnough_iff pc).mpr
          by_contra long
          rw [← trimmed] at long
          exact long_run shape' held' (not_le.mp long) rest free (few.2 t stepped)
        · exact trimsEnough_of_ne other
    · intro t' stepped'
      cases Option.some.inj (stepped.symm.trans stepped')
      exact ih shape' rest (few.2 t stepped)

/-- In every run, every dump has at most `FILE_MAX_LINES` event lines if every final trim finds all
records but the last so many older than its window; and only then, when no dump is under way at the
end. -/
theorem dumps_bounded_iff (xkb : Option X) (now : Nat)
    (h : run (step cfg) (initial cfg xkb now) as = some s) :
    (Along (step cfg) (TrimsEnough cfg) (initial cfg xkb now) as →
      Along (step cfg) (FewLines cfg) (initial cfg xkb now) as) ∧
    (s.bufMtxFree = true →
      Along (step cfg) (FewLines cfg) (initial cfg xkb now) as →
      Along (step cfg) (TrimsEnough cfg) (initial cfg xkb now) as) := by
  constructor
  · intro enough
    refine along_imp (I := fun s => Shape cfg s ∧ Short s) h ⟨shape_initial xkb now, ?_⟩ enough ?_
    · intro held
      cases held
    · rintro s a t ⟨shape, short⟩ enough stepped
      obtain ⟨short', few⟩ := short_step shape short enough stepped
      exact ⟨⟨shape_step shape (step_move stepped).2, short'⟩, few⟩
  · intro free few
    exact enough_of_few (shape_initial xkb now) h (by simpa [State.bufMtxFree] using free) few

theorem dumps_bounded_prompt : ∃ s : State Unit,
    run (step (keyboardRecorder true 30000)) (initial (keyboardRecorder true 30000) (some ()) 0)
      (promptDump ++ [.buffer .write]) = some s ∧
    Along (step (keyboardRecorder true 30000)) (FewLines (keyboardRecorder true 30000))
      (initial (keyboardRecorder true 30000) (some ()) 0) (promptDump ++ [.buffer .write]) :=
  have h : run (step (keyboardRecorder true 30000))
      (initial (keyboardRecorder true 30000) (some ()) 0) (promptDump ++ [.buffer .write]) =
      some _ := Option.eq_some_of_isSome (by decide)
  ⟨_, h, (dumps_bounded_iff (some ()) 0 h).1 (by decide)⟩

/-- Events that come faster than the buffer thread wakes up. -/
def burst (n : Nat) : List Action := (List.replicate n (deliver ⟨evKey, 30, 1⟩)).flatten

/-- A session whose burst is over before its buffer thread runs. -/
def burstSession (n : Nat) : List Action :=
  List.flatten [enterLoop, burst n, [.caller .stopFlag, .caller .stopTime, .buffer .load,
    .buffer .readStop, .buffer .finalTrim, .buffer .openFile, .buffer .header, .buffer .write]]

/-- A recorder that waits in `select` with so many keys in its buffer. -/
structure Bursting (n : Nat) (s : State Unit) : Prop where
  idle : s.caller = .idle
  sound : s.fault = none
  waits : s.record = .select
  unread : s.buffer = .loop
  go : s.mStop = false
  live : s.mXkbState = .live ()
  devices : s.devicesToRecord = (keyboardRecorder true 30000).availableDevices
  clock : s.clock = 0
  buffer : s.mInputBuf = List.replicate n ⟨0, .keyboard, 1, 30, 1, 38⟩

theorem bursting_deliver {n : Nat} {s : State Unit} (h : Bursting n s) :
    ∃ t, run (step (keyboardRecorder true 30000)) s (deliver ⟨evKey, 30, 1⟩) = some t ∧
      Bursting (n + 1) t := by
  obtain ⟨idle, sound, waits, unread, go, live, devices, clock, buffer⟩ := h
  cases s
  dsimp only at idle sound waits unread go live devices clock buffer
  subst idle sound waits unread go live devices clock buffer
  exact ⟨_, rfl, rfl, rfl, rfl, rfl, rfl, rfl, rfl, rfl, List.replicate_succ'.symm⟩

theorem bursting_burst {n k : Nat} {s : State Unit} (h : Bursting n s) :
    ∃ t, run (step (keyboardRecorder true 30000)) s (burst k) = some t ∧ Bursting (n + k) t := by
  induction k generalizing n s with
  | zero => exact ⟨s, rfl, h⟩
  | succ k ih =>
    obtain ⟨t, stepped, next⟩ := bursting_deliver h
    obtain ⟨u, rest, last⟩ := ih next
    refine ⟨u, ?_, ?_⟩
    · rw [burst, List.replicate_succ, List.flatten_cons, run_append, stepped]
      exact rest
    · rwa [Nat.add_right_comm] at last

theorem bursting_dump {n : Nat} {s : State Unit} (h : Bursting n s) :
    ∃ t, run (step (keyboardRecorder true 30000)) s [.caller .stopFlag, .caller .stopTime,
        .buffer .load, .buffer .readStop, .buffer .finalTrim, .buffer .openFile, .buffer .header,
        .buffer .write] = some t ∧
      (eventLines (t.cmdFile t.mRecordingPath)).length = n := by
  obtain ⟨idle, sound, waits, unread, go, live, devices, clock, buffer⟩ := h
  cases s
  dsimp only at idle sound waits unread go live devices clock buffer
  subst idle sound waits unread go live devices clock buffer
  have whole : finalTrim (0 - (keyboardRecorder true 30000).length)
      (List.replicate n ⟨0, .keyboard, 1, 30, 1, 38⟩) =
      List.replicate n ⟨0, .keyboard, 1, 30, 1, 38⟩ := by
    rw [finalTrim_eq_cut]
    apply (Window.cut_eq_self_iff ..).mpr
    intro r first
    cases List.eq_of_mem_replicate (List.mem_of_mem_head? first)
    decide
  refine ⟨_, rfl, ?_⟩
  dsimp only [State.note]
  rw [Function.update_self, whole, eventLines_recording, List.length_map, List.length_replicate]

/-- One event more than `FILE_MAX_LINES` before the first periodic trim, and all are dumped. -/
theorem burst_dumped : ∃ s : State Unit,
    run (step (keyboardRecorder true 30000)) (initial (keyboardRecorder true 30000) (some ()) 0)
      (burstSession (fileMaxLines + 1)) = some s ∧
    (eventLines (s.cmdFile s.mRecordingPath)).length = 500001 ∧
    ¬ (eventLines (s.cmdFile s.mRecordingPath)).length ≤ fileMaxLines := by
  have entered : ∃ s, run (step (keyboardRecorder true 30000))
      (initial (keyboardRecorder true 30000) (some ()) 0) enterLoop = some s ∧ Bursting 0 s :=
    ⟨_, rfl, rfl, rfl, rfl, rfl, rfl, rfl, rfl, rfl, rfl⟩
  obtain ⟨s, enters, waiting⟩ := entered
  obtain ⟨t, bursts, full⟩ := bursting_burst (k := fileMaxLines + 1) waiting
  obtain ⟨u, dumps, lines⟩ := bursting_dump full
  have size : (eventLines (u.cmdFile u.mRecordingPath)).length = 500001 := lines
  refine ⟨u, ?_, size, ?_⟩
  · rw [burstSession, List.flatten_cons, run_append, enters, Option.bind_some, List.flatten_cons,
      run_append, bursts]
    exact dumps
  · rw [size]
    decide

end TestRunner.Recorder
