import TestRunner.Recorder.StopTime
import TestRunner.Window

/-! The event buffer as a function of the history: what is pushed is appended, and each
trim is a cut at its cutoff, so that the window results apply to the dump. -/
namespace TestRunner.Recorder

open Window (Op)

variable {X : Type} {cfg : Config X} {s s' : State X}

def Entry.pushed? : Entry → Option InputRecord
  | .pushed r => some r
  | _ => none

def pushed (log : List Entry) : List InputRecord := log.filterMap Entry.pushed?

def Config.bufferOp (cfg : Config X) : Entry → Option (Op InputRecord Int)
  | .pushed r => some (.push r)
  | .trimmed now => some (.cut (now - cfg.length))
  | .finalTrimmed v => some (.cut (v - cfg.length))
  | _ => none

def Config.bufferOps (cfg : Config X) (log : List Entry) : List (Op InputRecord Int) :=
  log.filterMap cfg.bufferOp

/-- The buffer does not exceed its limit when a periodic trim looks at it. -/
def Fits (s : State X) (a : Action) : Prop :=
  a = .buffer .trim → s.mInputBuf.length ≤ fileMaxLines

instance (s : State X) (a : Action) : Decidable (Fits s a) :=
  inferInstanceAs (Decidable (_ → _))

@[simp] theorem pushed_append (xs ys : List Entry) : pushed (xs ++ ys) = pushed xs ++ pushed ys :=
  List.filterMap_append

@[simp] theorem pushed_one (e : Entry) : pushed [e] = e.pushed?.toList := by
  cases e <;> rfl

@[simp] theorem bufferOps_append (xs ys : List Entry) :
    cfg.bufferOps (xs ++ ys) = cfg.bufferOps xs ++ cfg.bufferOps ys := List.filterMap_append

@[simp] theorem bufferOps_one (e : Entry) : cfg.bufferOps [e] = (cfg.bufferOp e).toList := by
  cases e <;> rfl

theorem pushes_bufferOps (log : List Entry) : Window.pushes (cfg.bufferOps log) = pushed log := by
  induction log using List.reverseRecOn with
  | nil => rfl
  | append_singleton log e ih =>
    cases e <;> simp [ih, Config.bufferOp, Entry.pushed?]

theorem periodicTrim_eq_cut (cutoff : Int) {buf : List InputRecord}
    (fits : buf.length ≤ fileMaxLines) :
    periodicTrim cutoff buf = Window.cut InputRecord.tsAbs cutoff buf := by
  induction buf with
  | nil => rfl
  | cons r buf ih =>
    have rest := ih (by simp only [List.length_cons] at fits; omega)
    by_cases old : r.tsAbs < cutoff
    · simpa [periodicTrim, Window.cut, old] using rest
    · have room : ¬ fileMaxLines < buf.length + 1 := not_lt.mpr fits
      simp [periodicTrim, Window.cut, old, room]

theorem periodicTrim_suffix (cutoff : Int) (buf : List InputRecord) :
    periodicTrim cutoff buf <:+ buf := by
  induction buf with
  | nil => exact List.suffix_refl []
  | cons r buf ih =>
    unfold periodicTrim
    split
    · exact ih.trans (List.suffix_cons r buf)
    · exact List.suffix_refl _

theorem finalTrim_eq_cut (start : Int) (buf : List InputRecord) :
    finalTrim start buf = Window.cut InputRecord.tsAbs start buf := by
  induction buf with
  | nil => rfl
  | cons r buf ih =>
    by_cases old : r.tsAbs < start
    · simpa [finalTrim, Window.cut, old] using ih
    · simp [finalTrim, Window.cut, old]

theorem buffer_suffix_step {a : Action} (move : Move cfg s a s')
    (h : s.mInputBuf <:+ pushed s.log) : s'.mInputBuf <:+ pushed s'.log := by
  cases move with
  | caller m => cases m <;> simpa [State.note, Entry.pushed?] using h
  | record m =>
    cases m with
    | push r => simpa [State.note, Entry.pushed?] using List.suffix_append_self_iff.mpr h
    | _ => simpa [State.note, Entry.pushed?] using h
  | buffer m =>
    cases m with
    | trim now => simpa [State.note, Entry.pushed?] using (periodicTrim_suffix _ _).trans h
    | finalTrim v =>
      simpa [State.note, Entry.pushed?, finalTrim_eq_cut] using (Window.cut_suffix _ _ _).trans h
    | _ => exact h
  | tick t => exact h

/-- Within its limit the buffer is the replay of the history. -/
def Mirrors (cfg : Config X) (s : State X) : Prop :=
  s.mInputBuf = Window.replay InputRecord.tsAbs (cfg.bufferOps s.log)

theorem mirrors_step {a : Action} (fits : Fits s a) (move : Move cfg s a s')
    (h : Mirrors cfg s) : Mirrors cfg s' := by
  unfold Mirrors at *
  cases move with
  | caller m => cases m <;> simpa [State.note, Config.bufferOp] using h
  | record m =>
    cases m <;> simpa [State.note, Config.bufferOp] using h
  | buffer m =>
    cases m with
    | trim now => simp [State.note, Config.bufferOp, periodicTrim_eq_cut _ (fits rfl), ← h]
    | finalTrim v => simp [State.note, Config.bufferOp, finalTrim_eq_cut, ← h]
    | _ => exact h
  | tick t => exact h

end TestRunner.Recorder
