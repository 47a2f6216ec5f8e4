import TestRunner.Machine
import TestRunner.Recorder.Escape
import TestRunner.Recorder.Release
import TestRunner.Recorder.Selection

/-! The keysyms of a session after the sessions before it: the keyboard state is made once and
every session goes on with what the last one left. -/
namespace TestRunner.Recorder

variable {X : Type} {cfg : Config X} {s s' t : State X}

/-- A key of a device. -/
abbrev Key := Int × UInt16

def Reading.key (e : Reading) : Key := (e.device.fd, e.ev.code)

/-- The keys that are held after an event, none when it cannot come: a key goes down when it is up,
and goes up or repeats when it is down. -/
def hold (held : List Key) (e : Reading) : Option (List Key) :=
  if e.ev.type = evKey then
    if e.ev.value = 1 then if e.key ∈ held then none else some (e.key :: held)
    else if e.ev.value = 0 then if e.key ∈ held then some (held.erase e.key) else none
    else if e.ev.value = 2 then if e.key ∈ held then some held else none
    else some held
  else some held

/-- The keyboard state as a machine over the events of the recorder's devices but ESC. -/
def Config.keyboard (cfg : Config X) : Machine (XkbRef X) Reading UInt32 (List Key) where
  next x e := e.update cfg.xkb x
  out x e := e.keysym cfg.xkb x
  allow held e :=
    if e.device ∈ cfg.availableDevices ∧ e.ev.isEsc = false then hold held e else none

def Reading.untimed (e : Reading) : Reading := { e with tsAbs := 0 }

/-- The events that are recorded. -/
def recorded (events : List Reading) : List Reading := events.filter fun e => !e.ev.isEsc

/-- A sequence of events that starts with no key held. -/
def Possible (events : List Reading) : Prop := (run hold [] (recorded events)).isSome = true

/-- The keysyms of the event lines of a file. -/
def keysyms (file : Option (List Line)) : List UInt32 :=
  (file.getD []).filterMap fun
    | .passThrough r => some r.keysym
    | _ => none

instance (events : List Reading) : Decidable (Possible events) :=
  inferInstanceAs (Decidable (_ = true))

theorem keysyms_recording (start : Int) (records : List InputRecord) :
    keysyms (some (recording start records)) = records.map InputRecord.keysym := by
  simp [keysyms, recording, List.filterMap_map]

section Events

theorem transformed_of_resolves {e : Reading} (h : e.ev.type = evKey) : e.transformed = e := by
  unfold Reading.transformed transformEvent transformEventWith
  rw [if_neg (by rw [h]; decide)]

theorem keysym_transformed (xkb : Xkb X) (x : XkbRef X) (e : Reading) :
    e.transformed.keysym xkb x = e.keysym xkb x ∧ e.transformed.update xkb x = e.update xkb x := by
  by_cases key : e.ev.type = evKey
  · rw [transformed_of_resolves key]
    exact ⟨rfl, rfl⟩
  · have type : e.transformed.ev.type = e.ev.type := by
      unfold Reading.transformed transformEvent transformEventWith
      split
      · split
        · rfl
        · split <;> rfl
      · rfl
    have before : e.resolves = false := by simp [Reading.resolves, key]
    have after : e.transformed.resolves = false := by simp [Reading.resolves, type, key]
    simp [Reading.keysym, Reading.update, before, after]

/-- The keysyms of the events that are heard are the outputs of the keyboard. -/
theorem keysyms_heard (h : Heard X) (events : List Reading) :
    (events.foldl (Heard.hear cfg.xkb) h).records.map InputRecord.keysym =
      h.records.map InputRecord.keysym ++ cfg.keyboard.outputs h.xkb (recorded events) := by
  induction events generalizing h with
  | nil => simp [recorded, Machine.outputs]
  | cons e events ih =>
    obtain ⟨keysym, update⟩ := keysym_transformed cfg.xkb h.xkb e
    rw [List.foldl_cons, ih]
    unfold Heard.hear
    cases esc : e.ev.isEsc with
    | true => simp [recorded, esc]
    | false =>
      rw [if_neg Bool.false_ne_true, records_add, xkb_add, keysym, update]
      simp [recorded, esc, Machine.outputs, Config.keyboard, Reading.record]

theorem outputs_untimed (x : XkbRef X) (events : List Reading) :
    cfg.keyboard.outputs x (events.map Reading.untimed) = cfg.keyboard.outputs x events := by
  induction events generalizing x with
  | nil => rfl
  | cons e events ih => exact congrArg (e.keysym cfg.xkb x :: ·) (ih (e.update cfg.xkb x))

theorem recorded_untimed (events : List Reading) :
    recorded (events.map Reading.untimed) = (recorded events).map Reading.untimed := by
  rw [recorded, recorded, List.filter_map]
  rfl

theorem admitted_iff (held : List Key) (events : List Reading) :
    (run cfg.keyboard.allow held events).isSome = true ↔
      (∀ e ∈ events, e.device ∈ cfg.availableDevices ∧ e.ev.isEsc = false) ∧
        (run hold held events).isSome = true := by
  induction events generalizing held with
  | nil => simp [run]
  | cons e events ih =>
    have first : cfg.keyboard.allow held e =
        if e.device ∈ cfg.availableDevices ∧ e.ev.isEsc = false then hold held e else none := rfl
    rw [run, run, first, List.forall_mem_cons]
    by_cases can : e.device ∈ cfg.availableDevices ∧ e.ev.isEsc = false
    · rw [if_pos can]
      cases hold held e with
      | none => simp
      | some held' => simpa [can] using ih held'
    · rw [if_neg can]
      simp [can]

end Events

/-- Every device that is read is an available one. -/
structure Reads (cfg : Config X) (s : State X) : Prop where
  recorded : ∀ d ∈ s.devicesToRecord, d ∈ cfg.availableDevices
  left : ∀ d ∈ s.record.left, d ∈ cfg.availableDevices

theorem monitored_subset (devices : List InDevice) (mask : UInt64) :
    ∀ d ∈ monitored devices mask, d ∈ devices := by
  intro d inside
  obtain ⟨n, listed, rfl⟩ := List.mem_map.mp inside
  exact List.fst_mem_of_mem_zipIdx (List.mem_filter.mp listed).1

theorem reads_step {a : Action} (h : Reads cfg s) (move : Move cfg s a s') : Reads cfg s' := by
  obtain ⟨among, left⟩ := h
  cases move with
  | caller m =>
    cases m with
    | spawn | stopJoin | destroyJoin => exact ⟨among, by simp [State.note]⟩
    | _ => exact ⟨among, left⟩
  | record m =>
    cases m with
    | setupContinuous pc mode | setupFixed pc mode =>
      exact ⟨monitored_subset _ _, by simp⟩
    | select o ms pc =>
      refine ⟨among, ?_⟩
      cases o with
      | timeout => simp [afterSelect]
      | error => simp [afterSelect]
      | ready fds =>
        simp only [afterSelect, left_resume, List.mem_filter]
        exact fun d both => among d both.1
    | readEvent d rest ev pc | readNothing d rest pc =>
      rw [pc] at left
      refine ⟨among, ?_⟩
      simp only [left_received, left_resume]
      exact fun d inside => left d (List.mem_cons_of_mem _ inside)
    | loadStop | elapsed => exact ⟨among, by simp⟩
    | keysymReleased | updateReleased => exact ⟨among, left⟩
    | _ => refine ⟨among, ?_⟩; simp_all [State.note]
  | buffer m => cases m <;> exact ⟨among, left⟩
  | tick t => exact ⟨among, left⟩

theorem reads_run {as : List Action} (h : Reads cfg s) :
    ∀ e ∈ readings cfg s as, e.device ∈ cfg.availableDevices := by
  induction as generalizing s with
  | nil => simp [readings]
  | cons a as ih =>
    cases stepped : step cfg s a with
    | none => simp [readings, stepped]
    | some t =>
      have move := (step_move stepped).2
      simp only [readings, stepped, List.mem_append]
      rintro e (here | later)
      · cases move with
        | record m =>
          cases m with
          | readEvent d rest ev pc =>
            simp only [reading, pc, Option.mem_toList, Option.some.injEq] at here
            subst here
            exact h.left d (by simp [pc])
          | _ => simp [reading] at here
        | _ => simp [reading] at here
      · exact ih (reads_step h move) e later

/-- Before its destruction begins, a recorder has its keyboard state, and no fault but that of a
second thread. -/
structure Usable (s : State X) : Prop where
  alive : s.caller.destructing = false → s.mXkbState ≠ .released
  sound : s.fault = none ∨ s.caller = .spawning ∨ s.caller.destructing = true

theorem usable_step {a : Action} (h : Usable s) (fault : s.fault = none) (move : Move cfg s a s') :
    Usable s' := by
  obtain ⟨alive, sound⟩ := h
  cases move with
  | caller m => cases m <;> constructor <;> simp_all [State.note]
  | record m =>
    cases m with
    | keysymReleased e rest pc resolves dead | updateReleased e sym rest d pc dir dead =>
      have destructing : s.caller.destructing = true := by
        by_contra other
        exact alive (by simpa using other) dead
      exact ⟨alive, .inr (.inr destructing)⟩
    | updateKey => exact ⟨fun _ => by simp, .inl fault⟩
    | _ => exact ⟨alive, .inl fault⟩
  | buffer m => cases m <;> exact ⟨alive, .inl fault⟩
  | tick t => exact ⟨alive, .inl fault⟩

/-- A run of the same session that reads these events. -/
def Comes (cfg : Config X) (s : State X) (events : List Reading) (s' : State X) : Prop :=
  ∃ as, run (step cfg) s as = some s' ∧ .caller .spawn ∉ as ∧ readings cfg s as = events

theorem Comes.trans {u : State X} {events later : List Reading} (first : Comes cfg s events t)
    (second : Comes cfg t later u) : Comes cfg s (events ++ later) u := by
  obtain ⟨as, run_as, single, read⟩ := first
  obtain ⟨bs, run_bs, alone, follow⟩ := second
  refine ⟨as ++ bs, ?_, by simp [single, alone], ?_⟩
  · rw [run_append, run_as]
    exact run_bs
  · rw [readings_append bs run_as, read, follow]

theorem comes_move {a : Action} (fault : s.fault = none) (other : a ≠ .caller .spawn)
    (move : Move cfg s a s') : Comes cfg s (reading s a).toList s' := by
  have stepped := move_step fault move
  refine ⟨[a], by simp [run, stepped], by simpa using other.symm, ?_⟩
  simp [readings, stepped]

/-- A move before one that reads nothing. -/
theorem Comes.next {a : Action} {events : List Reading} {u : State X} (fault : s.fault = none)
    (move : Move cfg s a t) (other : a ≠ .caller .spawn) (quiet : reading s a = none)
    (rest : Comes cfg t events u) : Comes cfg s events u := by
  have first := comes_move fault other move
  rw [quiet] at first
  exact first.trans rest

theorem comes_refl (cfg : Config X) (s : State X) : Comes cfg s [] s := ⟨[], rfl, by simp, rfl⟩

/-- A session of all devices that nothing stops. -/
structure Listening (cfg : Config X) (s : State X) : Prop where
  idle : s.caller = .idle
  sound : s.fault = none
  go : s.mStop = false
  alive : s.mXkbState ≠ .released
  all : s.devicesToRecord = cfg.availableDevices

theorem filter_fd {d : InDevice} (among : d ∈ cfg.availableDevices) :
    cfg.availableDevices.filter (fun d' => d'.fd ∈ [d.fd]) = [d] := by
  have same : ∀ d' ∈ cfg.availableDevices, decide (d'.fd ∈ [d.fd]) = decide (d' = d) := by
    intro d' inside
    rw [decide_eq_decide, List.mem_singleton]
    exact ⟨fun fd => List.inj_on_of_nodup_map cfg.distinct inside among fd, fun equal => equal ▸ rfl⟩
  have once := List.count_eq_one_of_mem (List.Nodup.of_map _ cfg.distinct) among
  rw [List.filter_congr same, List.filter_eq, once]
  rfl

/-- The clock may have been set back, so that no time has elapsed. -/
theorem comes_select (fixed : cfg.mContinuous = false) (w : Listening cfg s) (pc : s.record = .loop)
    {d : InDevice} (among : d ∈ cfg.availableDevices) :
    ∃ t, Listening cfg t ∧ t.record = .read [d] ∧ Comes cfg s [] t := by
  obtain ⟨idle, sound, go, alive, all⟩ := w
  have free : ({ s with clock := s.mStartTime - 1, record := .elapsedCheck (s.mStartTime - 1) } :
      State X).stopMtxFree = true := by
    simp [State.stopMtxFree, idle]
  have early : ¬ s.mStartTime - 1 - s.mStartTime ≥ cfg.length := by
    have length : 0 ≤ cfg.length := Int.natCast_nonneg _
    omega
  have ready : afterSelect cfg s (.ready [d.fd]) = .read [d] := by
    rw [afterSelect, all, filter_fd among]
    rfl
  refine ⟨{ s with clock := s.mStartTime - 1, record := afterSelect cfg s (.ready [d.fd]),
                   timeoutUsec := 0 },
    ⟨idle, sound, go, alive, all⟩, ready, ?_⟩
  refine .next sound (.tick (s.mStartTime - 1)) (by simp) rfl ?_
  refine .next sound (.record (.loadElapsed pc go fixed)) (by simp) rfl ?_
  refine .next sound (.record (.elapsedNow rfl)) (by simp) rfl ?_
  refine .next sound (.record (.notElapsed _ rfl free early)) (by simp) rfl ?_
  exact .next sound (.record (.select (.ready [d.fd]) 0 rfl)) (by simp) rfl (comes_refl cfg _)

theorem comes_keysym (w : Listening cfg s) {e : Reading} (pc : s.record = .keysym e []) :
    ∃ t r, Listening cfg t ∧ t.record = .store r [] ∧ Comes cfg s [] t := by
  obtain ⟨idle, sound, go, alive, all⟩ := w
  by_cases skip : e.resolves = false ∨ s.mXkbState = .null
  · refine ⟨{ s with record := .store (e.record 0) [] }, e.record 0,
      ⟨idle, sound, go, alive, all⟩, rfl, ?_⟩
    exact .next sound (.record (.keysymSkip e [] pc skip)) (by simp) rfl (comes_refl cfg _)
  · obtain ⟨resolves, some⟩ := not_or.mp skip
    cases live : s.mXkbState with
    | null => exact absurd live some
    | released => exact absurd live alive
    | live x =>
      have first : Move cfg s (.record .keysym)
          { s with record := .updateKey e (cfg.xkb.stateKeyGetOneSym x e.xkbCode) [] } :=
        .record (.keysym e [] x pc (by simpa using resolves) live)
      cases dir : e.direction with
      | none =>
        refine ⟨{ s with record := .store (e.record (cfg.xkb.stateKeyGetOneSym x e.xkbCode)) [] },
          _, ⟨idle, sound, go, alive, all⟩, rfl, ?_⟩
        refine .next sound first (by simp) rfl ?_
        exact .next sound (.record (.updateSkip e _ [] rfl (.inl dir))) (by simp) rfl
          (comes_refl cfg _)
      | some d =>
        refine ⟨{ s with record := .store (e.record (cfg.xkb.stateKeyGetOneSym x e.xkbCode)) [],
                         mXkbState := .live (cfg.xkb.stateUpdateKey x e.xkbCode d) },
          _, ⟨idle, sound, go, by simp, all⟩, rfl, ?_⟩
        refine .next sound first (by simp) rfl ?_
        exact .next sound (.record (.updateKey e _ [] d x rfl dir live)) (by simp) rfl
          (comes_refl cfg _)

/-- One event of a session. -/
theorem comes_event (fixed : cfg.mContinuous = false) (w : Listening cfg s) (pc : s.record = .loop)
    {e : Reading} (among : e.device ∈ cfg.availableDevices) (other : e.ev.isEsc = false) :
    ∃ t, Listening cfg t ∧ t.record = .loop ∧ Comes cfg s [e] t := by
  obtain ⟨u, w, pc, selected⟩ := comes_select fixed w pc among
  obtain ⟨idle, sound, go, alive, all⟩ := w
  have hand : received e.tsAbs e.device e.ev [] = .keysym e.transformed [] := by
    simp [received, other, Reading.transformed]
  have read : Comes cfg { u with clock := e.tsAbs } [e]
      { u with clock := e.tsAbs, record := received e.tsAbs e.device e.ev [] } := by
    have here : reading { u with clock := e.tsAbs } (.record (.read (.event e.ev))) = some e := by
      simp [reading, pc]
    have move : Move cfg { u with clock := e.tsAbs } (.record (.read (.event e.ev))) _ :=
      .record (.readEvent e.device [] e.ev pc)
    have come := comes_move (s := { u with clock := e.tsAbs }) sound (fun same => by cases same) move
    rwa [here] at come
  obtain ⟨v, r, w, pc, resolved⟩ := comes_keysym
    (s := { u with clock := e.tsAbs, record := received e.tsAbs e.device e.ev [] })
    ⟨idle, sound, go, alive, all⟩ hand
  obtain ⟨idle, sound', go, alive, all⟩ := w
  refine ⟨{ v with cmdFile := appendLine v.cmdFile cfg.mFilename (.passThrough r), record := .loop },
    ⟨idle, sound', go, alive, all⟩, rfl, ?_⟩
  have stored : Comes cfg v [] _ :=
    .next sound' (.record (.append r [] pc fixed)) (by simp) rfl (comes_refl cfg _)
  exact selected.trans (.next sound (.tick e.tsAbs) (by simp) rfl (read.trans (resolved.trans stored)))

theorem comes_events (fixed : cfg.mContinuous = false) {events : List Reading}
    (possible : ∀ e ∈ events, e.device ∈ cfg.availableDevices ∧ e.ev.isEsc = false)
    (w : Listening cfg s) (pc : s.record = .loop) :
    ∃ t, Listening cfg t ∧ t.record = .loop ∧ Comes cfg s events t := by
  induction events generalizing s with
  | nil => exact ⟨s, w, pc, comes_refl cfg s⟩
  | cons e events ih =>
    obtain ⟨here, later⟩ := List.forall_mem_cons.mp possible
    obtain ⟨u, w, pc, one⟩ := comes_event fixed w pc here.1 here.2
    obtain ⟨t, w, pc, rest⟩ := ih later w pc
    exact ⟨t, w, pc, one.trans rest⟩

/-- The thread of a session has been made, after some history of the recorder. -/
structure Ready (cfg : Config X) (xkb : Option X) (now : Nat) (s : State X) : Prop where
  reached : ∃ before, run (step cfg) (initial cfg xkb now) before = some s
  begins : s.record = .clearing
  idle : s.caller = .idle

theorem Ready.usable {xkb : Option X} {now : Nat} (ready : Ready cfg xkb now s) : Usable s := by
  obtain ⟨before, reached⟩ := ready.reached
  have start : Usable (initial cfg xkb now) := ⟨fun _ => by cases xkb <;> simp [initial], .inl rfl⟩
  exact run_invariant reached start fun _ _ _ _ stepped h =>
    usable_step h (step_move stepped).1 (step_move stepped).2

theorem Ready.reads {xkb : Option X} {now : Nat} (ready : Ready cfg xkb now s) : Reads cfg s := by
  obtain ⟨before, reached⟩ := ready.reached
  have start : Reads cfg (initial cfg xkb now) := ⟨by simp [initial], by simp [initial]⟩
  exact run_invariant reached start fun _ _ _ _ stepped h => reads_step h (step_move stepped).2

theorem monitored_all (available : List InDevice) :
    monitored available (deviceMask available available) = available := by
  rw [(monitored_deviceMask_iff available available).mpr]
  · exact List.filter_eq_self.mpr fun d inside => decide_eq_true (List.mem_map_of_mem inside)
  · intro x _ y inside _ _
    exact List.mem_map_of_mem (List.fst_mem_of_mem_zipIdx inside)

theorem comes_start {xkb : Option X} {now : Nat} (fixed : cfg.mContinuous = false)
    (ready : Ready cfg xkb now s) : ∃ t, Listening cfg t ∧ t.record = .loop ∧ Comes cfg s [] t := by
  obtain ⟨alive, sound⟩ := ready.usable
  have sound : s.fault = none := by simpa [ready.idle] using sound
  have alive := alive (by rw [ready.idle]; rfl)
  have free : s.stopMtxFree = true := by simp [State.stopMtxFree, ready.idle, ready.begins]
  have come : Comes cfg s [] _ :=
    .next sound (.caller (.setDevices cfg.availableDevices ready.idle)) (by simp) rfl <|
    .next sound (.record (.clear ready.begins free)) (by simp) rfl <|
    .next sound (.record (.stamp rfl)) (by simp) rfl <|
    .next sound (.record (.setupFixed rfl fixed)) (by simp) rfl (comes_refl cfg _)
  refine ⟨_, ?_, ?_, come⟩
  · exact ⟨ready.idle, sound, rfl, alive, monitored_all cfg.availableDevices⟩
  · rfl

theorem comes_end (fixed : cfg.mContinuous = false) (w : Listening cfg s) (pc : s.record = .loop) :
    ∃ t, t.record = .returned ∧ Comes cfg s [] t := by
  have free : s.stopMtxFree = true := by simp [State.stopMtxFree, w.idle, pc]
  have exit : cfg.exitLoop = .returned := by simp [Config.exitLoop, fixed]
  have come : Comes cfg s [] _ :=
    .next w.sound (.caller (.stopFlag w.idle free)) (by simp) rfl <|
    .next w.sound (.caller (.stopTime rfl)) (by simp) rfl <|
    .next w.sound (.record (.loadStop pc rfl)) (by simp) rfl (comes_refl cfg _)
  refine ⟨_, ?_, come⟩
  exact exit

/-- Every sequence of events of the devices is that of some session. -/
theorem session_exists {xkb : Option X} {now : Nat} (fixed : cfg.mContinuous = false)
    (ready : Ready cfg xkb now s) {events : List Reading}
    (possible : ∀ e ∈ events, e.device ∈ cfg.availableDevices ∧ e.ev.isEsc = false) :
    ∃ as s', Session cfg s as s' ∧ readings cfg s as = events := by
  obtain ⟨t, w, pc, start⟩ := comes_start fixed ready
  obtain ⟨u, w, pc, middle⟩ := comes_events fixed possible w pc
  obtain ⟨s', returned, last⟩ := comes_end fixed w pc
  obtain ⟨as, run_as, single, read⟩ := start.trans (middle.trans last)
  obtain ⟨before, reached⟩ := ready.reached
  refine ⟨as, s', ⟨⟨xkb, now, before, reached⟩, ready.begins, run_as, single, returned⟩, ?_⟩
  rw [read, List.nil_append, List.append_nil]

theorem Session.keysyms {as : List Action} (fixed : cfg.mContinuous = false)
    (session : Session cfg s as s') : Recorder.keysyms (s'.cmdFile cfg.mFilename) =
      cfg.keyboard.outputs s.mXkbState (recorded (readings cfg s as)) := by
  obtain ⟨start, file⟩ := session.stored.written fixed (by rw [session.ends]; rfl)
  rw [file, keysyms_recording, heard, keysyms_heard]
  rfl

/-- Two sessions with the same events, which start with no key held, write the same keysyms. -/
def KeysymsAgree (cfg : Config X) (s t : State X) : Prop :=
  ∀ as bs s' t', Session cfg s as s' → Session cfg t bs t' →
    (readings cfg t bs).map Reading.untimed = (readings cfg s as).map Reading.untimed →
    Possible (readings cfg s as) →
    keysyms (s'.cmdFile cfg.mFilename) = keysyms (t'.cmdFile cfg.mFilename)

/-- After two histories of a fixed-length recorder the keysyms agree if and only if the keyboard
states that the histories left are alike for keys of which none is held. -/
theorem keysyms_agree_iff (cfg : Config X) (xkb : Option X) (now : Nat) (s t : State X)
    (fixed : cfg.mContinuous = false) (ready : Ready cfg xkb now s) (other : Ready cfg xkb now t) :
    KeysymsAgree cfg s t ↔ cfg.keyboard.Alike [] s.mXkbState t.mXkbState := by
  rw [Machine.alike_iff]
  constructor
  · intro agree events come
    obtain ⟨possible, held⟩ := (admitted_iff [] events).mp come
    have all : recorded events = events :=
      List.filter_eq_self.mpr fun e inside => by simp [(possible e inside).2]
    obtain ⟨as, s', session, read⟩ := session_exists fixed ready possible
    obtain ⟨bs, t', session', read'⟩ := session_exists fixed other possible
    have same := agree as bs s' t' session session' (by rw [read, read'])
      (by rw [read, Possible, all]; exact held)
    rwa [session.keysyms fixed, session'.keysyms fixed, read, read', all] at same
  · intro alike as bs s' t' session session' same possible
    have events : (recorded (readings cfg t bs)).map Reading.untimed =
        (recorded (readings cfg s as)).map Reading.untimed := by
      rw [← recorded_untimed, ← recorded_untimed, same]
    have come : (run cfg.keyboard.allow [] (recorded (readings cfg s as))).isSome = true := by
      refine (admitted_iff [] _).mpr ⟨fun e inside => ?_, possible⟩
      obtain ⟨among, plain⟩ := List.mem_filter.mp inside
      exact ⟨reads_run ready.reads e among, by simpa using plain⟩
    calc keysyms (s'.cmdFile cfg.mFilename)
        = cfg.keyboard.outputs s.mXkbState (recorded (readings cfg s as)) := session.keysyms fixed
      _ = cfg.keyboard.outputs t.mXkbState (recorded (readings cfg s as)) := alike _ come
      _ = cfg.keyboard.outputs t.mXkbState (recorded (readings cfg t bs)) := by
        rw [← outputs_untimed, ← events, outputs_untimed]
      _ = keysyms (t'.cmdFile cfg.mFilename) := (session'.keysyms fixed).symm

/-- A keyboard with a shift key, which makes a keysym of 32 less. -/
def shiftRecorder : Config Bool where
  mFilename := "rec"
  mRecordingLength := 30000
  mContinuous := false
  availableDevices := [⟨3, [0x4b], .keyboard, ⟨0, 0⟩, ⟨0, 0⟩⟩]
  distinct := by decide
  xkb := ⟨fun shift code => UInt32.ofNat (if shift then code + 27 else code + 59),
    fun shift code direction => if code = 50 then direction = .down else shift⟩
  fileTimestamp := fun _ => "t"

def shiftDown : InputEvent := ⟨evKey, 42, 1⟩
def shiftUp : InputEvent := ⟨evKey, 42, 0⟩
def pressA : InputEvent := ⟨evKey, 30, 1⟩

/-- A session of these events, up to a stop. -/
def typed (events : List InputEvent) : List Action :=
  (enterLoop.drop 2) ++ (events.flatMap fun ev => [.record .elapsedNow, .record .elapsedCheck] ++ deliver ev) ++
    [.record .elapsedNow, .record .elapsedCheck, .record (.select .timeout 0), .caller .stopFlag,
     .caller .stopTime, .record .load]

/-- A session of these events before the next one starts. -/
def typedBefore (events : List InputEvent) : List Action :=
  enterLoop.take 2 ++ typed events ++ .caller .stopJoin :: enterLoop.take 2

theorem keysyms_agree_released : ∃ s t,
    run (step shiftRecorder) (initial shiftRecorder (some false) 0) (enterLoop.take 2) = some s ∧
    run (step shiftRecorder) (initial shiftRecorder (some false) 0)
      (typedBefore [shiftDown, pressA, shiftUp]) = some t ∧ KeysymsAgree shiftRecorder s t := by
  have fresh : Ready shiftRecorder (some false) 0 _ :=
    ⟨⟨enterLoop.take 2, Option.eq_some_of_isSome (by decide)⟩, by decide, by decide⟩
  have later : Ready shiftRecorder (some false) 0 _ :=
    ⟨⟨typedBefore [shiftDown, pressA, shiftUp], Option.eq_some_of_isSome (by decide)⟩, by decide,
      by decide⟩
  refine ⟨_, _, Option.eq_some_of_isSome (by decide), Option.eq_some_of_isSome (by decide),
    (keysyms_agree_iff _ _ _ _ _ rfl fresh later).mpr ?_⟩
  exact Machine.alike_self [] (XkbRef.live false)

/-- After a session that was stopped with the shift key down, the same key has another keysym. -/
theorem keysyms_shifted : ∃ s t s' t',
    run (step shiftRecorder) (initial shiftRecorder (some false) 0) (enterLoop.take 2) = some s ∧
    run (step shiftRecorder) (initial shiftRecorder (some false) 0) (typedBefore [shiftDown]) = some t ∧
    Session shiftRecorder s (typed [pressA]) s' ∧ Session shiftRecorder t (typed [pressA]) t' ∧
    keysyms (s'.cmdFile "rec") = [97] ∧ keysyms (t'.cmdFile "rec") = [65] ∧
    ¬ KeysymsAgree shiftRecorder s t := by
  have fresh : Session shiftRecorder _ (typed [pressA]) _ :=
    ⟨⟨some false, 0, enterLoop.take 2, Option.eq_some_of_isSome (by decide)⟩, by decide,
      Option.eq_some_of_isSome (by decide), by decide, by decide⟩
  have later : Session shiftRecorder _ (typed [pressA]) _ :=
    ⟨⟨some false, 0, typedBefore [shiftDown], Option.eq_some_of_isSome (by decide)⟩, by decide,
      Option.eq_some_of_isSome (by decide), by decide, by decide⟩
  refine ⟨_, _, _, _, Option.eq_some_of_isSome (by decide), Option.eq_some_of_isSome (by decide),
    fresh, later, by decide, by decide, fun agree => ?_⟩
  have same := agree _ _ _ _ fresh later (by decide) (by decide)
  exact absurd same (by decide)

end TestRunner.Recorder
