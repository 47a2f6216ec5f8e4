import TestRunner.Recorder.Files

/-! The recorder and the kernel: events arrive for each descriptor, `select` reports the ones that
wait, and a round of the loop reads each reported device once. -/
namespace TestRunner.Recorder

variable {X : Type} {cfg : Config X} {s s' : State X}

/-- A recorder with what the kernel holds for each descriptor. -/
structure Fed (X : Type) where
  recorder : State X
  queues : Int → List InputEvent

inductive Feed where
  | arrive (fd : Int) (ev : InputEvent)
  | thread (a : Action)
  deriving DecidableEq, Repr

def Fed.waits (t : Fed X) (d : InDevice) : Bool := !(t.queues d.fd).isEmpty

/-- The kernel reports the monitored devices that have something waiting, a timeout only when none
has, and gives the first event that waits. Both calls may also fail. -/
def Fed.allows (t : Fed X) : Action → Bool
  | .record (.select (.ready fds) _) =>
    fds = (t.recorder.devicesToRecord.filter t.waits).map InDevice.fd
  | .record (.select .timeout _) => t.recorder.devicesToRecord.all fun d => !t.waits d
  | .record (.read (.event ev)) =>
    t.recorder.record.left.head?.any fun d => (t.queues d.fd).head? = some ev
  | _ => true

def Fed.popped (t : Fed X) : Action → Int → List InputEvent
  | .record (.read (.event _)) =>
    match t.recorder.record.left with
    | d :: _ => Function.update t.queues d.fd (t.queues d.fd).tail
    | [] => t.queues
  | _ => t.queues

def fedStep (cfg : Config X) (t : Fed X) : Feed → Option (Fed X)
  | .arrive fd ev => some { t with queues := Function.update t.queues fd (t.queues fd ++ [ev]) }
  | .thread a =>
    if t.allows a then (step cfg t.recorder a).map fun r => ⟨r, t.popped a⟩ else none

def fedInitial (cfg : Config X) (xkb : Option X) (now : Nat) : Fed X :=
  ⟨initial cfg xkb now, fun _ => []⟩

def Feed.action : Feed → Option Action
  | .arrive _ _ => none
  | .thread a => some a

/-- The events that arrive for a descriptor. -/
def arrived (fd : Int) (as : List Feed) : List InputEvent :=
  as.filterMap fun
    | .arrive n ev => if n = fd then some ev else none
    | .thread _ => none

/-- The events among the readings that are of a descriptor. -/
def taken (fd : Int) (events : List Reading) : List InputEvent :=
  (events.filter (·.device.fd = fd)).map Reading.ev

variable {t u : Fed X} {as : List Feed}

theorem fed_thread {a : Action} (h : fedStep cfg t (.thread a) = some u) :
    t.allows a = true ∧ step cfg t.recorder a = some u.recorder ∧ u.queues = t.popped a := by
  simp only [fedStep] at h
  split at h
  · rename_i allowed
    obtain ⟨r, stepped, rfl⟩ := Option.map_eq_some_iff.mp h
    exact ⟨allowed, stepped, rfl⟩
  · cases h

/-- A fed recorder is a recorder. -/
theorem fed_run (h : run (fedStep cfg) t as = some u) :
    run (step cfg) t.recorder (as.filterMap Feed.action) = some u.recorder := by
  have project : ∃ r, run (step cfg) t.recorder (as.filterMap Feed.action) = some r ∧
      u.recorder = r := by
    refine run_project (fun t r => t.recorder = r) h rfl ?_ ?_
    · rintro t a u r stepped none rfl
      cases a with
      | arrive fd ev =>
        cases Option.some.inj stepped
        rfl
      | thread a => cases none
    · rintro t a u r b stepped own rfl
      cases a with
      | arrive fd ev => cases own
      | thread a =>
        cases own
        exact ⟨_, (fed_thread stepped).2.1, rfl⟩
  obtain ⟨r, runs, rfl⟩ := project
  exact runs

/-- What a statement reads comes from the front of a queue. -/
theorem popped_eq {a : Action} (allowed : t.allows a = true) (stepped : step cfg t.recorder a = some s')
    (fd : Int) : t.queues fd = taken fd (reading t.recorder a).toList ++ t.popped a fd := by
  cases (step_move stepped).2 with
  | record m =>
    cases m with
    | readEvent d rest ev pc =>
      have front : (t.queues d.fd).head? = some ev := by simpa [Fed.allows, pc] using allowed
      obtain ⟨tail, queue⟩ := List.head?_eq_some_iff.mp front
      by_cases own : d.fd = fd
      · subst own
        simp [taken, reading, Fed.popped, pc, queue]
      · simp [taken, reading, Fed.popped, pc, own, Function.update_of_ne (Ne.symm own)]
    | _ => simp [taken, reading, Fed.popped]
  | _ => simp [taken, reading, Fed.popped]

theorem taken_append (fd : Int) (xs ys : List Reading) :
    taken fd (xs ++ ys) = taken fd xs ++ taken fd ys := by
  simp [taken]

/-- Nothing that arrives is lost on the way to the loop, read twice or out of order: what waited
and what arrived is what was read and what waits. -/
theorem arrivals_read (h : run (fedStep cfg) t as = some u) (fd : Int) :
    t.queues fd ++ arrived fd as =
      taken fd (readings cfg t.recorder (as.filterMap Feed.action)) ++ u.queues fd := by
  induction as generalizing t with
  | nil =>
    cases Option.some.inj h
    simp [arrived, readings, taken]
  | cons a as ih =>
    obtain ⟨m, stepped, rest⟩ := Option.bind_eq_some_iff.mp h
    have later := ih rest
    cases a with
    | arrive n ev =>
      cases Option.some.inj stepped
      rw [List.filterMap_cons_none rfl, ← later]
      by_cases own : n = fd
      · subst own
        simp [arrived]
      · simp [arrived, own, Function.update_of_ne (Ne.symm own)]
    | thread a =>
      obtain ⟨allowed, moved, queues⟩ := fed_thread stepped
      have here := popped_eq allowed moved fd
      have threads : (Feed.thread a :: as).filterMap Feed.action = a :: as.filterMap Feed.action := rfl
      simp only [threads, readings, moved, taken_append]
      rw [List.append_assoc, ← later, queues, ← List.append_assoc, ← here]
      rfl

/-- The device that a read visits. -/
def visited (s : State X) : Action → List InDevice
  | .record (.read _) => s.record.left.take 1
  | _ => []

/-- The monitored devices that a `select` reports. -/
def reported (s : State X) : Action → List InDevice
  | .record (.select (.ready fds) _) => s.devicesToRecord.filter (·.fd ∈ fds)
  | _ => []

theorem rounds_step {a : Action} (shape : Shape cfg s) (move : Move cfg s a s') :
    s.record.left ++ reported s a = visited s a ++ s'.record.left := by
  cases move with
  | caller m =>
    cases m with
    | spawn pc free =>
      have absent : s.record = .absent := by
        by_contra some
        exact absurd (free.symm.trans (shape.joinable.mpr some)) Bool.false_ne_true
      simp [reported, visited, absent, State.note]
    | stopJoin pc joinable ended => simp [reported, visited, ended, State.note]
    | destroyJoin pc ended => simp [reported, visited, ended, State.note]
    | _ => simp [reported, visited, State.note]
  | record m =>
    cases m with
    | select o left pc => cases o <;> simp [reported, visited, pc, afterSelect]
    | _ => simp_all [reported, visited, State.note]
  | buffer m => cases m <;> simp [reported, visited, State.note]
  | tick t => simp [reported, visited]

/-- In every run the loop visits exactly the devices that `select` has reported, each once for each
report, in order, but for those that are left in the round. -/
theorem rounds_served (cfg : Config X) (xkb : Option X) (now : Nat) (as : List Action) (s : State X)
    (reached : run (step cfg) (initial cfg xkb now) as = some s) :
    collect (step cfg) reported (initial cfg xkb now) as =
      collect (step cfg) visited (initial cfg xkb now) as ++ s.record.left := by
  refine collect_queue (fun s => s.record.left) reached (base_initial xkb now).toShape ?_
  intro s a s' stepped shape
  have move := (step_move stepped).2
  exact ⟨shape_step shape move, rounds_step shape move⟩

/-- Up to the middle of a round: the keyboard has been read, the mouse is left. -/
def midRound : List Action := (enterLoop.take 2).append (bothReady ++ [pressEsc])

theorem rounds_served_mid : ∃ s, run (step deskRecorder) (initial deskRecorder (some ()) 0) midRound =
      some s ∧
    collect (step deskRecorder) reported (initial deskRecorder (some ()) 0) midRound =
      collect (step deskRecorder) visited (initial deskRecorder (some ()) 0) midRound ++
        s.record.left :=
  ⟨_, Option.eq_some_of_isSome (by decide),
    rounds_served deskRecorder (some ()) 0 midRound _ (Option.eq_some_of_isSome (by decide))⟩

/-- The devices of a session are known, and what is left of a round is among them. -/
structure InRound (s : State X) : Prop where
  begun : s.record.preparing = false
  among : ∀ d ∈ s.record.left, d ∈ s.devicesToRecord

theorem inRound_step {a : Action} (move : Move cfg s a s') (other : a ≠ .caller .spawn)
    (h : InRound s) : InRound s' ∧ s'.devicesToRecord = s.devicesToRecord := by
  obtain ⟨begun, among⟩ := h
  cases move with
  | caller m =>
    cases m with
    | spawn | terminate => exact absurd rfl other
    | stopJoin | destroyJoin => exact ⟨⟨rfl, by simp [State.note]⟩, rfl⟩
    | _ => exact ⟨⟨begun, among⟩, rfl⟩
  | record m =>
    cases m with
    | clear pc | stamp pc | setupContinuous pc | setupFixed pc =>
      simp [pc, RecordPc.preparing] at begun
    | loadStop => exact ⟨⟨RecordPc.not_preparing_of_routine (exitLoop_routine cfg), by simp⟩, rfl⟩
    | elapsed => exact ⟨⟨RecordPc.not_preparing_of_routine (exitLoop_routine cfg), by simp⟩, rfl⟩
    | select o =>
      refine ⟨⟨RecordPc.not_preparing_of_routine (afterSelect_routine cfg o), ?_⟩, rfl⟩
      cases o <;> simp +contextual [afterSelect]
    | readEvent d rest ev pc =>
      refine ⟨⟨RecordPc.not_preparing_of_routine (received_routine ..), ?_⟩, rfl⟩
      exact fun d inside => among d (by simp_all)
    | readNothing d rest pc | escTime rest pc | push r rest pc | append r rest pc =>
      refine ⟨⟨RecordPc.not_preparing_of_routine (resume_routine rest), ?_⟩, rfl⟩
      exact fun d inside => among d (by simp_all [State.note])
    | keysymReleased | updateReleased => exact ⟨⟨begun, among⟩, rfl⟩
    | _ => exact ⟨⟨rfl, fun d inside => among d (by simp_all)⟩, rfl⟩
  | buffer m => cases m <;> exact ⟨⟨begun, among⟩, rfl⟩
  | tick t => exact ⟨⟨begun, among⟩, rfl⟩

theorem preparing_step {a : Action} (move : Move cfg s a s') (h : s.record.preparing = true) :
    (s'.record.preparing = true ∨ InRound s') ∧ reading s a = none := by
  cases move with
  | caller m =>
    cases m with
    | stopJoin pc joinable ended | destroyJoin pc ended => simp [ended, RecordPc.preparing] at h
    | spawn => exact ⟨.inl rfl, rfl⟩
    | _ => exact ⟨.inl h, rfl⟩
  | record m =>
    cases m with
    | clear | stamp => exact ⟨.inl rfl, rfl⟩
    | setupContinuous | setupFixed => exact ⟨.inr ⟨rfl, by simp⟩, rfl⟩
    | _ => simp_all [RecordPc.preparing]
  | buffer m => cases m <;> exact ⟨.inl h, rfl⟩
  | tick t => exact ⟨.inl h, rfl⟩

theorem phase_step {a : Action} (move : Move cfg s a s')
    (h : s.record.preparing = true ∨ InRound s) : s'.record.preparing = true ∨ InRound s' := by
  rcases h with preparing | round
  · exact (preparing_step move preparing).1
  · by_cases spawn : a = .caller .spawn
    · subst spawn
      cases move with
      | caller m =>
        cases m with
        | spawn => exact .inl rfl
        | terminate => exact .inr ⟨round.begun, round.among⟩
    · exact .inr (inRound_step move spawn round).1

theorem reading_left {a : Action} {e : Reading} (move : Move cfg s a s')
    (read : e ∈ (reading s a).toList) : e.device ∈ s.record.left.head? := by
  cases move with
  | record m => cases m <;> simp_all [reading]
  | _ => simp [reading] at read

/-- What a session reads is of the devices that it monitors. -/
theorem readings_monitored {as : List Action} (ran : run (step cfg) s as = some s')
    (other : .caller .spawn ∉ as) (start : s.record.preparing = true ∨ InRound s) :
    (∀ e ∈ readings cfg s as, e.device ∈ s'.devicesToRecord) ∧
      (InRound s → s'.devicesToRecord = s.devicesToRecord) := by
  induction as generalizing s with
  | nil =>
    cases Option.some.inj ran
    exact ⟨by simp [readings], fun _ => rfl⟩
  | cons a as ih =>
    obtain ⟨m, stepped, rest⟩ := Option.bind_eq_some_iff.mp ran
    have move := (step_move stepped).2
    have unspawned : a ≠ .caller .spawn := by
      rintro rfl
      simp at other
    have later : .caller .spawn ∉ as := fun inside => other (by simp [inside])
    simp only [readings, stepped, List.mem_append]
    rcases start with preparing | round
    · obtain ⟨next, none⟩ := preparing_step move preparing
      obtain ⟨all, -⟩ := ih rest later next
      refine ⟨?_, fun round => absurd (round.begun.symm.trans preparing) Bool.false_ne_true⟩
      rintro e (here | after)
      · simp [none] at here
      · exact all e after
    · obtain ⟨next, same⟩ := inRound_step move unspawned round
      obtain ⟨all, kept⟩ := ih rest later (.inr next)
      have devices := (kept next).trans same
      refine ⟨?_, fun _ => devices⟩
      rintro e (here | after)
      · rw [devices]
        exact round.among _ (List.mem_of_mem_head? (reading_left move here))
      · exact all e after

/-- The file of a fixed-length session tells events of the monitored devices only, and of each
descriptor all that waited before it and arrived until its end, in order, but for what still waits
then. -/
theorem file_complete (cfg : Config X) (t u : Fed X) (as : List Feed)
    (fixed : cfg.mContinuous = false) (fed : run (fedStep cfg) t as = some u)
    (session : Session cfg t.recorder (as.filterMap Feed.action) u.recorder) :
    ∃ events : List Reading,
      eventLines (u.recorder.cmdFile cfg.mFilename) =
        (heard cfg.xkb t.recorder.mXkbState events).printed ∧
      (∀ e ∈ events, e.device ∈ u.recorder.devicesToRecord) ∧
      ∀ fd, t.queues fd ++ arrived fd as = taken fd events ++ u.queues fd := by
  refine ⟨_, fixed_lines fixed session, ?_, arrivals_read fed⟩
  have begins : t.recorder.record.preparing = true := by
    rw [session.begins]
    rfl
  exact (readings_monitored (fed_run fed) session.single (.inl begins)).1

/-- The start of the thread, a key that arrives before it is in its loop, and the end of the
length, with another key that comes too late. -/
def fedKeys : List Feed :=
  List.flatten [[.arrive 3 ⟨evKey, 30, 1⟩], (enterLoop.drop 2).map .thread,
    [.thread (.record .elapsedNow), .thread (.record .elapsedCheck)],
    (deliver ⟨evKey, 30, 1⟩).map .thread, [.arrive 3 ⟨evKey, 30, 0⟩, .thread (.tick 30000)],
    [.thread (.record .elapsedNow), .thread (.record .elapsedCheck)]]

def fedStarted : Fed Unit :=
  ⟨((run (step (keyboardRecorder false 30000)) (initial (keyboardRecorder false 30000) (some ()) 0)
    (enterLoop.take 2)).getD (initial (keyboardRecorder false 30000) (some ()) 0)), fun _ => []⟩

theorem file_complete_late : ∃ u events,
    run (fedStep (keyboardRecorder false 30000)) fedStarted fedKeys = some u ∧
    eventLines (u.recorder.cmdFile "rec") =
      (heard (keyboardRecorder false 30000).xkb fedStarted.recorder.mXkbState events).printed ∧
    (∀ e ∈ events, e.device ∈ u.recorder.devicesToRecord) ∧
    ∀ fd, fedStarted.queues fd ++ arrived fd fedKeys = taken fd events ++ u.queues fd :=
  have fed : run (fedStep (keyboardRecorder false 30000)) fedStarted fedKeys = some _ :=
    Option.eq_some_of_isSome (by decide)
  have ⟨events, file⟩ := file_complete (keyboardRecorder false 30000) _ _ _ rfl fed
    ⟨⟨some (), 0, enterLoop.take 2, by rfl⟩, by decide, fed_run fed, by decide, by decide⟩
  ⟨_, events, fed, file⟩

section Turns

/-- A `select` that reports devices. -/
def Feed.begins : Feed → Bool
  | .thread (.record (.select (.ready _) _)) => true
  | _ => false

def Fed.visits (t : Fed X) : Feed → List InDevice
  | .arrive _ _ => []
  | .thread a => visited t.recorder a

/-- After a number of rounds and of visits to the device: as many visits as rounds, unless all that
waited at first has had its visit. -/
structure Owed (cfg : Config X) (d : InDevice) (waiting rounds visits : Nat) (t : Fed X) : Prop where
  shape : Shape cfg t.recorder
  reads : Reads cfg t.recorder
  round : InRound t.recorder
  monitored : d ∈ t.recorder.devicesToRecord
  held : waiting ≤ visits + (t.queues d.fd).length
  served : waiting ≤ visits ∨ rounds ≤ visits + t.recorder.record.left.count d

variable {d : InDevice} {waiting rounds visits : Nat}

theorem device_of_fd {d e : InDevice} (known : d ∈ cfg.availableDevices) (other : e ∈ cfg.availableDevices)
    (same : e.fd = d.fd) : e = d :=
  List.inj_on_of_nodup_map cfg.distinct other known same

/-- An event that is read from a descriptor is read in a visit to its device. -/
theorem taken_le_visited {a : Action} (reads : Reads cfg s) (known : d ∈ cfg.availableDevices)
    (move : Move cfg s a s') :
    (taken d.fd (reading s a).toList).length ≤ (visited s a).count d := by
  cases move with
  | record m =>
    cases m with
    | readEvent e rest ev pc =>
      by_cases same : e.fd = d.fd
      · have own := device_of_fd known (reads.left e (by simp [pc])) same
        simp [taken, reading, visited, pc, own]
      · simp [taken, reading, pc, same]
    | _ => simp [taken, reading]
  | _ => simp [taken, reading]

/-- A round includes every monitored device for which something waits. -/
theorem begins_reported {a : Action} (begins : Feed.begins (.thread a) = true)
    (allowed : t.allows a = true) (monitored : d ∈ t.recorder.devicesToRecord)
    (waits : t.waits d = true) : 1 ≤ (reported t.recorder a).count d := by
  unfold Feed.begins at begins
  split at begins
  · rename_i fds left same
    cases same
    refine List.one_le_count_iff.mpr (List.mem_filter.mpr ⟨monitored, ?_⟩)
    simp only [Fed.allows, decide_eq_true_eq] at allowed
    rw [decide_eq_true_eq, allowed]
    exact List.mem_map_of_mem (List.mem_filter.mpr ⟨monitored, waits⟩)
  · cases begins

theorem owed_arrive {fd : Int} {ev : InputEvent} (h : Owed cfg d waiting rounds visits t) :
    Owed cfg d waiting rounds visits
      { t with queues := Function.update t.queues fd (t.queues fd ++ [ev]) } := by
  refine { h with held := ?_ }
  have held := h.held
  by_cases own : d.fd = fd
  · subst own
    simp only [Function.update_self, List.length_append]
    omega
  · simp only [Function.update_of_ne own]
    exact held

theorem owed_thread {a : Action} (h : Owed cfg d waiting rounds visits t)
    (stepped : fedStep cfg t (.thread a) = some u) (other : a ≠ .caller .spawn) :
    Owed cfg d waiting (rounds + if Feed.begins (.thread a) then 1 else 0)
      (visits + (visited t.recorder a).count d) u := by
  obtain ⟨allowed, moved, queues⟩ := fed_thread stepped
  have move := (step_move moved).2
  obtain ⟨round, devices⟩ := inRound_step move other h.round
  have known := h.reads.recorded d h.monitored
  have popped := congrArg List.length (popped_eq allowed moved d.fd)
  have turn := taken_le_visited h.reads known move
  have balance := congrArg (List.count d) (rounds_step h.shape move)
  rw [List.length_append, ← queues] at popped
  rw [List.count_append, List.count_append] at balance
  refine ⟨shape_step h.shape move, reads_step h.reads move, round, devices ▸ h.monitored, ?_, ?_⟩
  · have held := h.held
    omega
  · rcases h.served with all | served
    · exact .inl (by omega)
    · by_cases begins : Feed.begins (.thread a) = true
      · rw [if_pos begins]
        by_cases waits : t.waits d = true
        · have turned := begins_reported begins allowed h.monitored waits
          exact .inr (by omega)
        · have empty : t.queues d.fd = [] := by simpa [Fed.waits] using waits
          have held := h.held
          simp only [empty, List.length_nil] at held
          exact .inl (by omega)
      · rw [if_neg begins]
        exact .inr (by omega)

theorem owed_run (h : Owed cfg d waiting rounds visits t) (ran : run (fedStep cfg) t as = some u)
    (other : .thread (.caller .spawn) ∉ as) :
    Owed cfg d waiting (rounds + as.countP Feed.begins)
      (visits + (collect (fedStep cfg) Fed.visits t as).count d) u := by
  induction as generalizing t rounds visits with
  | nil =>
    cases Option.some.inj ran
    simpa [collect] using h
  | cons a as ih =>
    obtain ⟨m, stepped, rest⟩ := Option.bind_eq_some_iff.mp ran
    have later : .thread (.caller .spawn) ∉ as := fun inside => other (by simp [inside])
    simp only [collect, stepped, List.count_append, List.countP_cons]
    cases a with
    | arrive fd ev =>
      cases Option.some.inj stepped
      simpa [Feed.begins, Fed.visits] using ih (owed_arrive h) rest later
    | thread a =>
      have unspawned : a ≠ .caller .spawn := by
        rintro rfl
        simp at other
      have next := ih (owed_thread h stepped unspawned) rest later
      simp only [Fed.visits]
      convert next using 1 <;> omega

/-- No monitored device is starved: from any point of a session, in as many rounds as it has events
waiting each of them has had its turn, whatever arrives meanwhile for it or for others. -/
theorem turns_taken (cfg : Config X) (xkb : Option X) (now : Nat) (as bs : List Feed) (t u : Fed X)
    (reached : run (fedStep cfg) (fedInitial cfg xkb now) as = some t)
    (inside : t.recorder.record.inSession = true) (d : InDevice)
    (monitored : d ∈ t.recorder.devicesToRecord) (continued : run (fedStep cfg) t bs = some u)
    (other : .thread (.caller .spawn) ∉ bs) (ended : u.recorder.record.left = []) :
    min (t.queues d.fd).length (bs.countP Feed.begins) ≤
      (collect (fedStep cfg) Fed.visits t bs).count d := by
  have start : Base cfg t.recorder ∧ Reads cfg t.recorder ∧
      (t.recorder.record.preparing = true ∨ InRound t.recorder) := by
    refine run_invariant
      (I := fun s => Base cfg s ∧ Reads cfg s ∧ (s.record.preparing = true ∨ InRound s))
      (fed_run reached) ⟨base_initial xkb now, reads_initial xkb now, .inr ⟨rfl, nofun⟩⟩ ?_
    rintro a - s s' stepped ⟨base, reads, phase⟩
    have move := (step_move stepped).2
    exact ⟨base_step base move, reads_step reads move, phase_step move phase⟩
  obtain ⟨base, reads, phase⟩ := start
  have begun := RecordPc.not_preparing_of_inSession inside
  have round : InRound t.recorder := phase.resolve_left (by simp [begun])
  have first : Owed cfg d (t.queues d.fd).length 0 0 t :=
    ⟨base.toShape, reads, round, monitored, by omega, .inr (Nat.zero_le _)⟩
  have last := (owed_run first continued other).served
  simp only [ended, List.count_nil] at last
  omega

/-- A keyboard and a mouse that both have events waiting. -/
def bothFed : List Feed :=
  List.flatten [enterLoop.map .thread, [.arrive 3 ⟨evKey, 30, 1⟩, .arrive 4 ⟨evRel, relX, 5⟩],
    [.thread (.record .elapsedNow), .thread (.record .elapsedCheck)]]

def oneRound : List Feed :=
  [.thread (.record (.select (.ready [3, 4]) 0)), .thread (.record (.read (.event ⟨evKey, 30, 1⟩))),
    .thread (.record .keysym), .thread (.record .updateKey), .thread (.record .store),
    .arrive 3 ⟨evKey, 30, 0⟩, .thread (.record (.read (.event ⟨evRel, relX, 5⟩))),
    .thread (.record .keysym), .thread (.record .store)]

theorem turns_taken_mouse : ∃ t,
    run (fedStep deskRecorder) (fedInitial deskRecorder (some ()) 0) bothFed = some t ∧
    1 ≤ (collect (fedStep deskRecorder) Fed.visits t oneRound).count
      ⟨4, [], .mouse, ⟨0, 0⟩, ⟨0, 0⟩⟩ :=
  ⟨_, Option.eq_some_of_isSome (by decide),
    turns_taken deskRecorder (some ()) 0 bothFed oneRound _ _
      (Option.eq_some_of_isSome (by decide)) (by decide) ⟨4, [], .mouse, ⟨0, 0⟩, ⟨0, 0⟩⟩ (by decide)
      (Option.eq_some_of_isSome (by decide)) (by decide) (by decide)⟩

end Turns

end TestRunner.Recorder
