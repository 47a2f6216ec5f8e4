import TestRunner.Recorder.Clock
import TestRunner.Suffix

/-! The two trim loops of `processBuffer()`: each leaves the longest suffix that its condition on
the front admits, which on an ordered buffer is a condition on every record. The last trim of a run
speaks for all of them. -/
namespace TestRunner.Recorder

open Suffix (longest IsLongest)

/-- The front is in the window. -/
def FrontYoung (cutoff : Int) (buf : List InputRecord) : Prop :=
  ∀ r ∈ buf.head?, cutoff ≤ r.tsAbs

/-- What the loop of a periodic trim looks at. -/
def FrontFits (cutoff : Int) (buf : List InputRecord) : Prop :=
  FrontYoung cutoff buf ∧ buf.length ≤ fileMaxLines

/-- Every record is in the window, and the buffer fits into a file. -/
def AllFit (cutoff : Int) (buf : List InputRecord) : Prop :=
  buf.length ≤ fileMaxLines ∧ ∀ r ∈ buf, cutoff ≤ r.tsAbs

/-- A trim that takes off a prefix, all of it at once, and keeps the order. -/
structure Trims (trim : List InputRecord → List InputRecord) (buf : List InputRecord) : Prop where
  suffix : trim buf <:+ buf
  idempotent : trim (trim buf) = trim buf
  ordered : Window.Ordered InputRecord.tsAbs (trim buf)

instance (cutoff : Int) : DecidablePred (FrontYoung cutoff) :=
  fun buf => inferInstanceAs (Decidable (∀ r ∈ buf.head?, _))

instance (cutoff : Int) : DecidablePred (FrontFits cutoff) :=
  fun _ => inferInstanceAs (Decidable (_ ∧ _))

variable {cutoff cutoff' : Int} {buf : List InputRecord}

theorem frontYoung_cons {r : InputRecord} : FrontYoung cutoff (r :: buf) ↔ cutoff ≤ r.tsAbs := by
  simp [FrontYoung]

theorem FrontYoung.earlier (order : cutoff ≤ cutoff') (young : FrontYoung cutoff' buf) :
    FrontYoung cutoff buf := by
  intro r front
  exact le_trans order (young r front)

theorem FrontYoung.of_append {rest later : List InputRecord} (front : rest ≠ [])
    (young : FrontYoung cutoff (rest ++ later)) : FrontYoung cutoff rest := by
  cases rest with
  | nil => exact absurd rfl front
  | cons r rest => exact frontYoung_cons.mpr (frontYoung_cons.mp young)

theorem periodicTrim_eq_longest (cutoff : Int) (buf : List InputRecord) :
    periodicTrim cutoff buf = longest (FrontFits cutoff) buf := by
  induction buf with
  | nil => rfl
  | cons r buf ih =>
    have refused : ¬ FrontFits cutoff (r :: buf) ↔
        r.tsAbs < cutoff ∨ (r :: buf).length > fileMaxLines := by
      rw [FrontFits, frontYoung_cons, not_and_or, not_le, not_le]
    by_cases popped : r.tsAbs < cutoff ∨ (r :: buf).length > fileMaxLines
    · rw [periodicTrim, if_pos popped, longest, if_neg (refused.mpr popped), ih]
    · rw [periodicTrim, if_neg popped, Suffix.longest_of_keep (not_not.mp (mt refused.mp popped))]

theorem finalTrim_eq_longest (start : Int) (buf : List InputRecord) :
    finalTrim start buf = longest (FrontYoung start) buf := by
  induction buf with
  | nil => rfl
  | cons r buf ih =>
    by_cases old : r.tsAbs < start
    · have refused : ¬ FrontYoung start (r :: buf) := mt frontYoung_cons.mp (not_le.mpr old)
      rw [finalTrim, if_pos old, longest, if_neg refused, ih]
    · rw [finalTrim, if_neg old, Suffix.longest_of_keep (frontYoung_cons.mpr (not_lt.mp old))]

/-- On an ordered buffer the front speaks for every record. -/
theorem frontYoung_iff (ordered : Window.Ordered InputRecord.tsAbs buf) :
    FrontYoung cutoff buf ↔ ∀ r ∈ buf, cutoff ≤ r.tsAbs := by
  cases buf with
  | nil => simp [FrontYoung]
  | cons r buf =>
    obtain ⟨above, -⟩ := List.pairwise_cons.mp ordered
    rw [frontYoung_cons, List.forall_mem_cons]
    constructor
    · intro young
      constructor
      · exact young
      · intro r' inside
        exact le_trans young (above r' inside)
    · intro all
      exact all.1

theorem frontFits_iff (ordered : Window.Ordered InputRecord.tsAbs buf) :
    FrontFits cutoff buf ↔ AllFit cutoff buf := by
  rw [FrontFits, AllFit, frontYoung_iff ordered]
  exact and_comm

theorem trims_of_longest {keep : List InputRecord → Prop} [DecidablePred keep]
    {trim : List InputRecord → List InputRecord} (same : ∀ buf, trim buf = longest keep buf)
    (ordered : Window.Ordered InputRecord.tsAbs buf) : Trims trim buf := by
  constructor
  · rw [same]
    exact Suffix.longest_suffix buf
  · rw [same, same]
    apply Suffix.longest_longest
    intro rest keeps
    exact keeps
  · rw [same]
    exact ordered.suffix _ (Suffix.longest_suffix buf)

/-- A trim makes up for an earlier one, whatever is pushed in between. -/
theorem periodicTrim_append_periodicTrim (order : cutoff ≤ cutoff') (buf later : List InputRecord) :
    periodicTrim cutoff' (periodicTrim cutoff buf ++ later) = periodicTrim cutoff' (buf ++ later) := by
  simp only [periodicTrim_eq_longest]
  apply Suffix.longest_append_longest
  rintro rest front ⟨young, fits⟩
  constructor
  · exact (young.of_append front).earlier order
  · simp only [List.length_append] at fits
    omega

theorem periodicTrim_append_finalTrim (order : cutoff ≤ cutoff') (buf later : List InputRecord) :
    periodicTrim cutoff' (finalTrim cutoff buf ++ later) = periodicTrim cutoff' (buf ++ later) := by
  rw [finalTrim_eq_longest, periodicTrim_eq_longest, periodicTrim_eq_longest]
  apply Suffix.longest_append_longest
  rintro rest front ⟨young, -⟩
  exact (young.of_append front).earlier order

theorem periodicTrim_isLongest (cutoff : Int) (ordered : Window.Ordered InputRecord.tsAbs buf) :
    IsLongest (AllFit cutoff) buf (periodicTrim cutoff buf) := by
  rw [periodicTrim_eq_longest]
  apply (Suffix.longest_isLongest _ buf).congr
  · intro other part
    exact frontFits_iff (ordered.suffix _ part)
  · exact ⟨by simp [FrontYoung], Nat.zero_le _⟩

theorem isLongest_iff_eq_periodicTrim (ordered : Window.Ordered InputRecord.tsAbs buf)
    {kept : List InputRecord} :
    IsLongest (AllFit cutoff) buf kept ↔ kept = periodicTrim cutoff buf := by
  constructor
  · intro longest
    exact longest.unique (periodicTrim_isLongest cutoff ordered)
  · intro same
    rw [same]
    exact periodicTrim_isLongest cutoff ordered

/-- Each trim of an ordered buffer leaves exactly its window, and a later periodic trim makes up
for an earlier one. -/
theorem trims_exact (length : Int) (buf : List InputRecord)
    (ordered : Window.Ordered InputRecord.tsAbs buf) :
    (∀ now, IsLongest (AllFit (now - length)) buf (periodicTrim (now - length) buf)) ∧
    (∀ stop, finalTrim (stop - length) buf =
      buf.filter fun r => decide (stop - length ≤ r.tsAbs)) ∧
    (∀ time, Trims (periodicTrim (time - length)) buf ∧ Trims (finalTrim (time - length)) buf) ∧
    ∀ now later, now ≤ later →
      periodicTrim (later - length) (periodicTrim (now - length) buf) =
        periodicTrim (later - length) buf := by
  constructor
  · intro now
    exact periodicTrim_isLongest _ ordered
  constructor
  · intro stop
    rw [finalTrim_eq_cut, Window.cut_eq_since _ ordered, Window.since]
  constructor
  · intro time
    constructor
    · exact trims_of_longest (periodicTrim_eq_longest _) ordered
    · exact trims_of_longest (finalTrim_eq_longest _) ordered
  · intro now later order
    have alone := periodicTrim_append_periodicTrim (Int.sub_le_sub_right order length) buf []
    rwa [List.append_nil, List.append_nil] at alone

def threeKeys : List InputRecord :=
  [⟨1000, .keyboard, 1, 30, 1, 97⟩, ⟨2000, .keyboard, 1, 30, 0, 97⟩, ⟨2500, .keyboard, 1, 31, 1, 115⟩]

theorem trims_exact_three :
    IsLongest (AllFit (3200 - 1000)) threeKeys [⟨2500, .keyboard, 1, 31, 1, 115⟩] ∧
    periodicTrim (3200 - 1000) (periodicTrim (2200 - 1000) threeKeys) =
      periodicTrim (3200 - 1000) threeKeys := by
  have trimmed := trims_exact 1000 threeKeys (by simp [threeKeys, Window.Ordered])
  constructor
  · exact trimmed.1 3200
  · exact trimmed.2.2.2 2200 3200 (by decide)

section Runs

variable {X : Type} {cfg : Config X} {s s' : State X}

def Entry.cutTime? : Entry → Option Int
  | .trimmed now => some now
  | .finalTrimmed v => some v
  | _ => none

/-- The times of the trims so far, final ones included. -/
def cutTimes (log : List Entry) : List Int := log.filterMap Entry.cutTime?

@[simp] theorem cutTimes_append (xs ys : List Entry) :
    cutTimes (xs ++ ys) = cutTimes xs ++ cutTimes ys := List.filterMap_append

@[simp] theorem cutTimes_one (e : Entry) : cutTimes [e] = e.cutTime?.toList := by
  cases e <;> rfl

/-- From the last trim on, a trim cannot tell the buffer from all that was pushed. -/
def CaughtUp (cfg : Config X) (s : State X) : Prop :=
  ∀ now later, (∀ t ∈ cutTimes s.log, t ≤ now) →
    periodicTrim (now - cfg.length) (s.mInputBuf ++ later) =
      periodicTrim (now - cfg.length) (pushed s.log ++ later)

theorem caughtUp_frame (h : CaughtUp cfg s) (buf : s'.mInputBuf = s.mInputBuf)
    (log : pushed s'.log = pushed s.log) (cuts : cutTimes s'.log = cutTimes s.log) :
    CaughtUp cfg s' := by
  intro now later past
  rw [cuts] at past
  rw [buf, log]
  exact h now later past

theorem caughtUp_cut {e : Entry} {t : Int} (h : CaughtUp cfg s) (time : e.cutTime? = some t)
    (log : s'.log = s.log ++ [e])
    (same : ∀ cutoff, t - cfg.length ≤ cutoff → ∀ later,
      periodicTrim cutoff (s'.mInputBuf ++ later) = periodicTrim cutoff (s.mInputBuf ++ later)) :
    CaughtUp cfg s' := by
  have more : cutTimes s'.log = cutTimes s.log ++ [t] := by simp [log, time]
  have unpushed : e.pushed? = none := by cases e <;> first | rfl | cases time
  have kept : pushed s'.log = pushed s.log := by simp [log, unpushed]
  intro now later past
  simp only [more, List.forall_mem_append, List.forall_mem_singleton] at past
  rw [same _ (Int.sub_le_sub_right past.2 _), kept]
  exact h now later past.1

theorem caughtUp_step {a : Action} (move : Move cfg s a s') (h : CaughtUp cfg s) :
    CaughtUp cfg s' := by
  cases move with
  | caller m =>
    cases m <;> apply caughtUp_frame h <;> simp [State.note, Entry.pushed?, Entry.cutTime?]
  | record m =>
    cases m with
    | push r =>
      intro now later past
      have before := h now (r :: later) (by simpa [State.note, Entry.cutTime?] using past)
      simpa [State.note, Entry.pushed?] using before
    | _ => apply caughtUp_frame h <;> simp [State.note, Entry.pushed?, Entry.cutTime?]
  | buffer m =>
    cases m with
    | trim t pc =>
      apply caughtUp_cut (t := t) h rfl rfl
      intro cutoff order later
      exact periodicTrim_append_periodicTrim order s.mInputBuf later
    | finalTrim v pc =>
      apply caughtUp_cut (t := v) h rfl rfl
      intro cutoff order later
      exact periodicTrim_append_finalTrim order s.mInputBuf later
    | _ => apply caughtUp_frame h <;> rfl
  | tick t => exact h

/-- A trim does not go back behind one that was made. -/
structure CutsOrdered (s : State X) : Prop where
  past : ∀ t ∈ cutTimes s.log, t ≤ s.clock
  read : ∀ now, s.buffer = .trim now → now ≤ s.clock ∧ ∀ t ∈ cutTimes s.log, t ≤ now

theorem cutsOrdered_frame (h : CutsOrdered s) (clock : s.clock ≤ s'.clock)
    (buffer : ∀ now, s'.buffer = .trim now → s.buffer = .trim now)
    (cuts : cutTimes s'.log = cutTimes s.log) : CutsOrdered s' := by
  constructor
  · intro t made
    rw [cuts] at made
    exact (h.past t made).trans clock
  · intro now pc
    obtain ⟨past, last⟩ := h.read now (buffer now pc)
    rw [cuts]
    exact ⟨past.trans clock, last⟩

theorem cutsOrdered_cut {e : Entry} {t : Int} (h : CutsOrdered s) (time : e.cutTime? = some t)
    (past : t ≤ s.clock) (clock : s'.clock = s.clock) (buffer : ∀ now, s'.buffer ≠ .trim now)
    (log : s'.log = s.log ++ [e]) : CutsOrdered s' := by
  constructor
  · have more : cutTimes s'.log = cutTimes s.log ++ [t] := by simp [log, time]
    rw [more, clock, List.forall_mem_append, List.forall_mem_singleton]
    exact ⟨h.past, past⟩
  · intro now pc
    exact absurd pc (buffer now)

theorem cutsOrdered_step {a : Action} (forward : Forward s a) (clocked : Clocked cfg s)
    (move : Move cfg s a s') (h : CutsOrdered s) : CutsOrdered s' := by
  cases move with
  | caller m =>
    cases m <;> refine cutsOrdered_frame h (le_refl _) ?_ ?_ <;> simp [State.note, Entry.cutTime?]
  | record m =>
    cases m <;> refine cutsOrdered_frame h (le_refl _) ?_ ?_ <;> simp [State.note, Entry.cutTime?]
  | buffer m =>
    cases m with
    | now pc =>
      constructor
      · exact h.past
      -- what has just been read is the clock, and no trim was made ahead of it
      · intro now pc
        cases pc
        exact ⟨le_refl _, h.past⟩
    | trim t pc => exact cutsOrdered_cut h rfl (h.read t pc).1 rfl (by simp [State.note]) rfl
    | finalTrim v pc =>
      have stop := (clocked.cutsPast.read v (by simp [pc, BufferPc.firstRead])).1
      exact cutsOrdered_cut h rfl (stop.trans clocked.timely.stop) rfl (by simp [State.note]) rfl
    | _ => refine cutsOrdered_frame h (le_refl _) ?_ ?_ <;> simp
  | tick t =>
    have later : s.clock ≤ t := forward
    exact cutsOrdered_frame h later (fun _ pc => pc) rfl

/-- What a run with such a clock keeps for its next trim. -/
structure Windowed (cfg : Config X) (s : State X) : Prop where
  clocked : Clocked cfg s
  caughtUp : CaughtUp cfg s
  cutsOrdered : CutsOrdered s

theorem windowed_run {xkb : Option X} {now : Nat} {as : List Action}
    (h : run (step cfg) (initial cfg xkb now) as = some s)
    (forward : Along (step cfg) Forward (initial cfg xkb now) as) : Windowed cfg s := by
  apply Reaches.invariant (I := Windowed cfg) ⟨as, h, forward⟩
  · constructor
    · exact clocked_initial xkb now
    · intro now later _
      simp [initial, pushed]
    · constructor <;> simp [initial, cutTimes]
  · rintro s a s' forward move ⟨clocked, caughtUp, cutsOrdered⟩
    have move := (step_move move).2
    constructor
    · exact clocked_step forward move clocked
    · exact caughtUp_step move caughtUp
    · exact cutsOrdered_step forward clocked move cutsOrdered

/-- With a clock that never goes back, a periodic trim leaves the longest part of all that was
pushed that is in its window and fits, whatever the earlier trims took. -/
theorem periodic_trim_run {xkb : Option X} {start : Nat} {as : List Action}
    (h : run (step cfg) (initial cfg xkb start) as = some s)
    (forward : Along (step cfg) Forward (initial cfg xkb start) as) {now : Int}
    (pc : s.buffer = .trim now) {kept : List InputRecord} :
    IsLongest (AllFit (now - cfg.length)) (pushed s.log) kept ↔
      kept = periodicTrim (now - cfg.length) s.mInputBuf := by
  obtain ⟨clocked, caughtUp, cutsOrdered⟩ := windowed_run h forward
  have same := caughtUp now [] (cutsOrdered.read now pc).2
  rw [List.append_nil, List.append_nil] at same
  rw [same]
  exact isLongest_iff_eq_periodicTrim clocked.timely.ordered

end Runs

end TestRunner.Recorder
