import TestRunner.Recorder.Disk

/-! What a session leaves: its ended threads when `Stop()` returns, and the file of the path that
`Stop()` returns. -/
namespace TestRunner.Recorder.OnDisk

variable {X : Type} {cfg : Config X} {t t' : OnDisk X}

/-- The session has ended in all its threads, and the reply names the file that it opened, with all
that was put into it unless a write has failed. -/
structure SessionEnded (cfg : Config X) (t : OnDisk X) : Prop where
  record : t.recorder.record = .absent
  buffer : t.recorder.buffer = .absent
  unjoinable : t.recorder.mRecorderThread = false
  reply : ∃ path file lines, t.recorder.reply = some (.path path) ∧
    t.disk.files path = some file ∧ file.owner = t.session ∧
    t.recorder.cmdFile path = some lines ∧ (file.intact = true → file.text = fileText lines)
  quiet : ∀ bs t', run (step cfg) t bs = some t' → .caller .spawn ∉ bs.filterMap Action.statement →
    t'.recorder.mInputBuf = t.recorder.mInputBuf ∧ t'.disk = t.disk ∧
      t'.recorder.record = .absent ∧ t'.recorder.buffer = .absent

/-- Nothing is left that could push or write, and all is as it was in the state before. -/
structure Quiet (before t : OnDisk X) : Prop where
  record : t.recorder.record = .absent
  buffer : t.recorder.buffer = .absent
  closed : t.disk.out = .closed
  buf : t.recorder.mInputBuf = before.recorder.mInputBuf
  disk : t.disk = before.disk
  opened : t.opened = before.opened

theorem quiet_step {before : OnDisk X} {a : Action} (h : Quiet before t)
    (other : a.statement ≠ some (.caller .spawn)) (move : Move cfg t a t') : Quiet before t' := by
  cases move with
  | recorder a success s joined move =>
    have none : opens cfg t.recorder a = none ∧ puts cfg t.recorder a = [] := by
      have record := h.record
      have buffer := h.buffer
      cases move with
      | caller m => cases m <;> exact ⟨rfl, rfl⟩
      | record m => cases m <;> simp_all
      | buffer m => cases m <;> simp_all
      | tick u => exact ⟨rfl, rfl⟩
    have spawn : a ≠ .caller .spawn := fun same => other (congrArg some same)
    have kept := Recorder.quiet_step h.record h.buffer spawn move
    have disk : (t.after cfg a success s).disk = t.disk := by simp [after, none, fileText]
    refine ⟨kept.2.2.1, kept.2.2.2, disk ▸ h.closed, kept.1.trans h.buf, disk.trans h.disk, ?_⟩
    simp [after, starts, spawn, none, h.opened]
  | sync n path out => exact absurd out (Stream.Disk.not_openAt h.closed)
  | fail rest path out => exact absurd out (Stream.Disk.not_openAt h.closed)
  | close path out ended => exact absurd out (Stream.Disk.not_openAt h.closed)

theorem quiet_run {as : List Action} (h : run (step cfg) t as = some t')
    (record : t.recorder.record = .absent) (buffer : t.recorder.buffer = .absent)
    (closed : t.disk.out = .closed) (none : .caller .spawn ∉ as.filterMap Action.statement) :
    Quiet t t' := by
  refine run_invariant (I := Quiet t) h ⟨record, buffer, closed, rfl, rfl, rfl⟩
    fun a inside u u' stepped quiet => ?_
  refine quiet_step quiet (fun spawn => none ?_) (step_move stepped)
  exact List.mem_filterMap.mpr ⟨a, inside, spawn⟩

/-- A join of `Stop()` that does not throw. -/
structure Joined (cfg : Config X) (t t' : OnDisk X) : Prop where
  closed : t.disk.out = .closed
  ended : t.recorder.record = .returned
  record : t'.recorder.record = .absent
  buffer : t'.recorder.buffer = t.recorder.buffer
  unjoinable : t'.recorder.mRecorderThread = false
  reply : t'.recorder.reply = some (.path t.recorder.mRecordingPath)
  cmdFile : t'.recorder.cmdFile = t.recorder.cmdFile
  disk : t'.disk = t.disk
  session : t'.session = t.session
  opened : t'.opened = t.opened

theorem joined_of_step {success : Bool}
    (returns : step cfg t (.recorder (.caller .stopJoin) success) = some t')
    (normal : t'.recorder.reply ≠ some .systemError) : Joined cfg t t' := by
  cases step_move returns with
  | recorder a success s joined move =>
    cases move with
    | caller m =>
      cases m with
      | joinThrows pc free => exact absurd rfl normal
      | stopJoin pc joinable ended =>
        exact ⟨joined rfl, ended, rfl, rfl, rfl, rfl, rfl, Stream.Disk.put_nil, rfl,
          List.append_nil _⟩

/-- A session that has ended has opened the file of its path and no other. -/
theorem opened_of_returned (h : Saved cfg t) (ended : t.recorder.record = .returned) :
    ∃ success, t.opened = [(t.recorder.mRecordingPath, success)] := by
  have sole := h.named.returned ended
  match opened : t.opened with
  | [] => simp [opened] at sole
  | [o] =>
    have path : o.1 = t.recorder.mRecordingPath := by simpa [opened] using sole
    exact ⟨o.2, by rw [← path]⟩
  | o :: o' :: rest => simp [opened] at sole

/-- The file of the last session at its path, with a whole recording unless a write has failed. -/
def Filled (t : OnDisk X) (path : String) : Prop :=
  ∃ file start records, t.disk.files path = some file ∧ file.owner = t.session ∧
    t.recorder.cmdFile path = some (recording start records) ∧
    (file.intact = true → file.text = fileText (recording start records))

theorem filled_of_returned (h : Saved cfg t) (complete : Complete cfg t.recorder)
    (ended : t.recorder.record = .returned) (closed : t.disk.out = .closed)
    (succeeds : ∀ o ∈ t.opened, o.2 = true) : Filled t t.recorder.mRecordingPath := by
  obtain ⟨success, opened⟩ := opened_of_returned h ended
  obtain ⟨start, records, line⟩ := complete.whole ended
  have good : success = true := succeeds (t.recorder.mRecordingPath, success) (by simp [opened])
  have inside : (t.recorder.mRecordingPath, true) ∈ t.opened := by simp [opened, good]
  obtain ⟨file, here, owner⟩ := Option.map_eq_some_iff.mp (h.own _ inside)
  refine ⟨file, start, records, here, owner, line, fun intact => ?_⟩
  have given := Stream.Disk.given_of_file here intact
  rw [Stream.Disk.heldFor_nil (Stream.Disk.not_openAt closed), List.append_nil] at given
  obtain ⟨⟨lines, line', text⟩, -⟩ := h.told _ _ inside given
  cases Option.some.inj (line.symm.trans line')
  exact text

theorem Filled.joined {path : String} (filled : Filled t path) (joined : Joined cfg t t') :
    Filled t' path := by
  obtain ⟨file, start, records, here, owner, line, text⟩ := filled
  exact ⟨file, start, records, joined.disk ▸ here, owner.trans joined.session.symm,
    joined.cmdFile ▸ line, text⟩

/-- What is known when `Stop()` returns. -/
theorem stopped {xkb : Option X} {now : Nat} {old : String → Option (List Char)} {as : List Action}
    {success : Bool} (reached : run (step cfg) (initial cfg xkb now old) as = some t)
    (returns : step cfg t (.recorder (.caller .stopJoin) success) = some t')
    (normal : t'.recorder.reply ≠ some .systemError) :
    Saved cfg t ∧ Joined cfg t t' ∧
      ((∀ o ∈ t.opened, o.2 = true) → Filled t' t.recorder.mRecordingPath) := by
  have saved := saved_run reached
  have joined := joined_of_step returns normal
  have complete := (complete_run (recorder_run reached)).2
  refine ⟨saved, joined, fun succeeds => Filled.joined ?_ joined⟩
  exact filled_of_returned saved complete joined.ended joined.closed succeeds

/-- However the session ended: when `Stop()` returns without an exception, its threads have ended,
nothing of it can push or write, and the path is that of the file it has written exactly if the
`open()` of that file succeeded. -/
theorem stop_postcondition_iff (cfg : Config X) (xkb : Option X) (now : Nat)
    (old : String → Option (List Char)) (as : List Action) (t t' : OnDisk X) (success : Bool)
    (reached : run (step cfg) (initial cfg xkb now old) as = some t)
    (returns : step cfg t (.recorder (.caller .stopJoin) success) = some t')
    (normal : t'.recorder.reply ≠ some .systemError) :
    SessionEnded cfg t' ↔ ∀ o ∈ t.opened, o.2 = true := by
  obtain ⟨saved, joined, filled⟩ := stopped reached returns normal
  have unbuffered : t'.recorder.buffer = .absent := by
    rw [joined.buffer, saved.base.buffer_absent (by simp [joined.ended])]
  constructor
  · intro ended
    obtain ⟨path, file, lines, -, here, owner, -, -⟩ := ended.reply
    rw [joined.disk] at here
    rw [joined.session] at owner
    have own : t.disk.owner path = some t.session := by
      rw [Stream.Disk.owner, here, Option.map_some, owner]
    have inside := (saved.owners path _ own).2 rfl (saved.counted (by simp [joined.ended]))
    obtain ⟨success, opened⟩ := opened_of_returned saved joined.ended
    rw [opened] at inside ⊢
    cases List.mem_singleton.mp inside
    simp
  · intro succeeds
    obtain ⟨file, start, records, here, owner, line, text⟩ := filled succeeds
    refine ⟨joined.record, unbuffered, joined.unjoinable,
      ⟨_, file, _, joined.reply, here, owner, line, text⟩, fun bs u continued none => ?_⟩
    have closed : t'.disk.out = .closed := by rw [joined.disk, joined.closed]
    have quiet := quiet_run continued joined.record unbuffered closed none
    exact ⟨quiet.buf, quiet.disk, quiet.record, quiet.buffer⟩

/-- A continuous session that a stop request ends, up to the join. -/
def joinedSession : List Recorder.Action :=
  List.flatten [startSession, [.caller .stopFlag, .caller .stopTime], dumpWaiting,
    [.buffer .write]]

def onDisk (opens : Bool) (as : List Recorder.Action) : List Action :=
  as.map fun a => .recorder a opens

def endOfSession : List Recorder.Action :=
  [.record (.select .timeout 0), .record .load, .record .joinBuffer]

theorem stop_postcondition_continuous : ∃ t t' : OnDisk Unit,
    run (step (keyboardRecorder true 30000))
      (initial (keyboardRecorder true 30000) (some ()) 0 fun _ => none)
      (List.flatten [onDisk true joinedSession, [.sync 3, .close], onDisk true endOfSession]) =
        some t ∧
    step (keyboardRecorder true 30000) t (.recorder (.caller .stopJoin) true) = some t' ∧
    (SessionEnded (keyboardRecorder true 30000) t' ↔ ∀ o ∈ t.opened, o.2 = true) ∧
    ∀ o ∈ t.opened, o.2 = true :=
  ⟨_, _, Option.eq_some_of_isSome (by decide), Option.eq_some_of_isSome (by decide),
    stop_postcondition_iff _ _ _ _ _ _ _ _ (Option.eq_some_of_isSome (by decide))
      (Option.eq_some_of_isSome (by decide)) (by decide), by decide⟩

/-- A recorder whose file has a name of 256 letters, more than a file system takes. -/
def longNamed : Config Unit :=
  { keyboardRecorder false 30000 with
    mFilename := "/tmp/" ++ String.ofList (List.replicate 252 'a') ++ ".rrc" }

/-- The file of the session could not be opened, and `Stop()` returns its path all the same. -/
theorem stop_unopened : ∃ t t' : OnDisk Unit,
    run (step longNamed) (initial longNamed (some ()) 0 fun _ => none)
      (onDisk false (List.append elapsedSession [.caller .stopFlag, .caller .stopTime])) = some t ∧
    step longNamed t (.recorder (.caller .stopJoin) false) = some t' ∧
    t'.recorder.reply = some (.path longNamed.mFilename) ∧
    t'.disk.files longNamed.mFilename = none ∧ ¬ SessionEnded longNamed t' := by
  refine ⟨_, _, Option.eq_some_of_isSome (by decide), Option.eq_some_of_isSome (by decide),
    rfl, rfl, fun ended => ?_⟩
  obtain ⟨path, file, lines, -, here, -⟩ := ended.reply
  exact absurd (here.symm.trans rfl) (Option.some_ne_none file)

section Readable

/-- The text of a recording. -/
def Whole (cfg : Config X) (text : List Char) : Prop :=
  ∃ start records, text = fileText (recording start records) ∧ ∀ r ∈ records, Tells cfg r

/-- What was put into the stream of each file of a session. Only a dump opens its file empty. -/
def Texts (cfg : Config X) (t : OnDisk X) : Prop :=
  ∀ path text, t.disk.given path = some text → t.disk.owner path ≠ some 0 →
    t.disk.OpenAt path ∧ text = [] ∨ Whole cfg text

theorem texts_initial (xkb : Option X) (now : Nat) (old : String → Option (List Char)) :
    Texts cfg (initial cfg xkb now old) := by
  intro path text given owner
  obtain ⟨file, here, -⟩ := Option.bind_eq_some_iff.mp given
  obtain ⟨before, known, rfl⟩ := Option.map_eq_some_iff.mp here
  simp [initial, Stream.Disk.owner, known] at owner

theorem whole_of_filed {lines : List Line} (filed : Filed cfg lines) :
    lines = [] ∨ Whole cfg (fileText lines) := by
  rcases filed with ⟨none, -⟩ | ⟨start, records, rfl, tells⟩
  · exact .inl none
  · exact .inr ⟨start, records, rfl, tells⟩

/-- What the open stream was given is as the members of the recorder tell. -/
theorem texts_current {path : String} {text : List Char} (saved : Saved cfg t)
    (files : Files cfg t.recorder) (out : t.disk.OpenAt path) (given : t.disk.given path = some text) :
    t.disk.OpenAt path ∧ text = [] ∨ Whole cfg text := by
  obtain ⟨⟨lines, line, rfl⟩, -⟩ := saved.told path text (saved.streams path out).1 given
  rcases whole_of_filed (files.cmdFile path lines line) with rfl | whole
  · exact .inl ⟨out, rfl⟩
  · exact .inr whole

/-- A statement leaves alone what is not open after it. -/
theorem after_other {a : Recorder.Action} {success : Bool} {s : State X} {path : String}
    (saved : Saved cfg t) (move : Recorder.Move cfg t.recorder a s)
    (closed : ¬ (t.after cfg a success s).disk.OpenAt path) :
    ¬ t.disk.OpenAt path ∧ (t.after cfg a success s).disk.given path = t.disk.given path ∧
      (t.after cfg a success s).disk.owner path = t.disk.owner path := by
  cases here : opens cfg t.recorder a with
  | none =>
    have disk : (t.after cfg a success s).disk = t.disk.put (fileText (puts cfg t.recorder a)) := by
      simp [after, here]
    rw [disk, Stream.Disk.openAt_put] at closed
    rw [disk, Stream.Disk.given_put_other closed, Stream.Disk.owner_put]
    exact ⟨closed, rfl, rfl⟩
  | some q =>
    have out := closed_of_opens saved move here
    have disk : (t.after cfg a success s).disk =
        (t.disk.openFile q t.session success).put (fileText (puts cfg t.recorder a)) := by
      simp [after, here]
    rw [disk, Stream.Disk.openAt_put] at closed
    rw [disk, Stream.Disk.given_put_other closed, Stream.Disk.owner_put]
    cases success with
    | false => exact ⟨closed, rfl, rfl⟩
    | true =>
      have other : path ≠ q := by
        rintro rfl
        exact closed (Stream.Disk.openAt_openFile _ _ _)
      rw [Stream.Disk.given_openFile out, Stream.Disk.owner_openFile]
      exact ⟨Stream.Disk.not_openAt out, Function.update_of_ne other .., Function.update_of_ne other ..⟩

/-- A stream is closed over a whole recording. -/
theorem whole_ended {path : String} {text : List Char} (saved : Saved cfg t)
    (files : Files cfg t.recorder) (complete : Complete cfg t.recorder)
    (ended : t.recorder.record = .returned ∨ t.recorder.buffer = .finished)
    (out : t.disk.OpenAt path) (given : t.disk.given path = some text) : Whole cfg text := by
  obtain ⟨inside, streaming⟩ := saved.streams path out
  have among : path ∈ t.opened.map Prod.fst := List.mem_map_of_mem inside
  rw [sole_of_streaming saved.named streaming, List.mem_singleton] at among
  obtain ⟨start, records, here⟩ : t.recorder.whole path := by
    rw [among]
    exact ended.elim complete.whole complete.dumped
  obtain ⟨⟨lines, line, rfl⟩, -⟩ := saved.told path text inside given
  rcases whole_of_filed (files.cmdFile path lines line) with rfl | whole
  · cases Option.some.inj (here.symm.trans line)
  · exact whole

theorem texts_step {a : Action} (saved : Saved cfg t) (saved' : Saved cfg t')
    (files' : Files cfg t'.recorder) (complete : Complete cfg t.recorder) (h : Texts cfg t)
    (move : Move cfg t a t') : Texts cfg t' := by
  intro path text given owner
  by_cases out : t'.disk.OpenAt path
  · exact texts_current saved' files' out given
  right
  have before (closed : ¬ t.disk.OpenAt path) (given : t.disk.given path = some text)
      (owner : t.disk.owner path ≠ some 0) : Whole cfg text :=
    (h path text given owner).resolve_left fun here => closed here.1
  cases move with
  | recorder a success s joined move =>
    obtain ⟨closed, same, same'⟩ := after_other saved move out
    exact before closed (same ▸ given) (same' ▸ owner)
  | sync n p there =>
    rw [Stream.Disk.openAt_sync] at out
    rw [Stream.Disk.given_sync] at given
    rw [Stream.Disk.owner_sync] at owner
    exact before out given owner
  | fail rest p there =>
    rw [Stream.Disk.given_fail there] at given
    rw [Stream.Disk.owner_fail] at owner
    have other : path ≠ p := by
      rintro rfl
      rw [Function.update_self] at given
      cases given
    rw [Function.update_of_ne other] at given
    exact before (fun here => other (here.unique there)) given owner
  | close p there ended =>
    rw [Stream.Disk.given_close] at given
    rw [Stream.Disk.owner_close] at owner
    by_cases here : t.disk.OpenAt path
    · exact whole_ended saved files' complete ended here given
    · exact before here given owner

/-- The statements of the recorder for which the coordinates are numbers of an `int`. -/
def Converts (t : OnDisk X) (a : Action) : Prop :=
  ∀ b ∈ a.statement, Recorder.Converts t.recorder b

instance (t : OnDisk X) (a : Action) : Decidable (Converts t a) :=
  inferInstanceAs (Decidable (∀ b ∈ a.statement, Recorder.Converts t.recorder b))

theorem texts_run {xkb : Option X} {now : Nat} {old : String → Option (List Char)}
    {as : List Action} (reached : run (step cfg) (initial cfg xkb now old) as = some t)
    (converts : Along (step cfg) Converts (initial cfg xkb now old) as) : Texts cfg t := by
  have all : Saved cfg t ∧ Reads cfg t.recorder ∧ Files cfg t.recorder ∧ Complete cfg t.recorder ∧
      Texts cfg t := by
    refine Reaches.invariant (I := fun u => Saved cfg u ∧ Reads cfg u.recorder ∧
      Files cfg u.recorder ∧ Complete cfg u.recorder ∧ Texts cfg u) ⟨as, reached, converts⟩
      ⟨saved_initial xkb now old, reads_initial xkb now, files_initial xkb now,
        complete_initial xkb now, texts_initial xkb now old⟩ ?_
    rintro u a u' converts stepped ⟨saved, reads, files, complete, texts⟩
    have move := step_move stepped
    have saved' := saved_step saved move
    have kept : Reads cfg u'.recorder ∧ Files cfg u'.recorder ∧ Complete cfg u'.recorder := by
      cases move with
      | recorder a success s joined move =>
        exact ⟨reads_step reads move, files_step saved.base reads (converts a rfl) move files,
          complete_step saved.base move complete⟩
      | _ => exact ⟨reads, files, complete⟩
    exact ⟨saved', kept.1, kept.2.1, kept.2.2,
      texts_step saved saved' kept.2.1 complete texts move⟩
  exact all.2.2.2.2

/-- However the session ended: when `Stop()` returns without an exception and the `open()` of the
session succeeded, its file is at the path, and if no write failed it is a whole recording and can be
read back. -/
theorem stop_file (cfg : Config X) (xkb : Option X) (now : Nat) (old : String → Option (List Char))
    (as : List Action) (t t' : OnDisk X) (success : Bool)
    (reached : run (step cfg) (initial cfg xkb now old) as = some t)
    (returns : step cfg t (.recorder (.caller .stopJoin) success) = some t')
    (normal : t'.recorder.reply ≠ some .systemError) (succeeds : ∀ o ∈ t.opened, o.2 = true) :
    ∃ path file, t'.recorder.reply = some (.path path) ∧ t'.disk.files path = some file ∧
      file.owner = t'.session ∧ (file.intact = true → ∃ start records,
        file.text = fileText (recording start records) ∧ decodeFile file.text =
          some ⟨recordingFormatVersion, start.tmod dayMs, records.map InputRecord.decoded⟩) := by
  obtain ⟨-, joined, filled⟩ := stopped reached returns normal
  obtain ⟨file, start, records, here, owner, -, text⟩ := filled succeeds
  refine ⟨_, file, joined.reply, here, owner, fun intact => ⟨start, records, text intact, ?_⟩⟩
  rw [text intact]
  exact decodeFile_recording start records

theorem stop_file_continuous : ∃ (t t' : OnDisk Unit) (path : String) (file : Stream.File Nat Char),
    run (step (keyboardRecorder true 30000))
      (initial (keyboardRecorder true 30000) (some ()) 0 fun _ => none)
      (List.flatten [onDisk true joinedSession, [.sync 3, .close], onDisk true endOfSession]) =
        some t ∧
    step (keyboardRecorder true 30000) t (.recorder (.caller .stopJoin) true) = some t' ∧
    t'.recorder.reply = some (.path path) ∧ t'.disk.files path = some file ∧
    file.owner = t'.session ∧ (file.intact = true → ∃ start records,
      file.text = fileText (recording start records) ∧ decodeFile file.text =
        some ⟨recordingFormatVersion, start.tmod dayMs, records.map InputRecord.decoded⟩) :=
  have ⟨path, file, told⟩ := stop_file (keyboardRecorder true 30000) (some ()) 0 (fun _ => none) _ _ _ _
    (Option.eq_some_of_isSome (by decide)) (Option.eq_some_of_isSome (by decide)) (by decide)
    (by decide)
  ⟨_, _, path, file, Option.eq_some_of_isSome (by decide), Option.eq_some_of_isSome (by decide), told⟩

end Readable

end TestRunner.Recorder.OnDisk
