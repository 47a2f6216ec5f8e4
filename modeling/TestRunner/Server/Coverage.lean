import TestRunner.Recorder.Handle
import TestRunner.Server.Snapshot
import Mathlib.Data.List.Nodup

/-! Which device events a snapshot covers. An event that comes in while the session is
recording is alone on its way until it is pushed, so a stop finds all of them pushed. -/
namespace TestRunner.Server

open Recorder

variable {X : Type} {cfg : Config X} {t t' : Snapshot X}

/-- The record of an event: its device, and its data after the touch transformation, at a
time not before the event came in. -/
def Recorded (p : Produced) (r : InputRecord) : Prop :=
  p.time ≤ r.tsAbs ∧
    ∃ sym, r = (⟨r.tsAbs, p.device, transformEvent p.device p.ev⟩ : Reading).record sym

/-- The events other than ESC that came in while the session was recording. -/
def Snapshot.scope (t : Snapshot X) : List Produced :=
  t.produced.filter fun p => p.recording && !p.ev.isEsc

def Matched (events : List Produced) (log : List Entry) : Prop :=
  List.SublistForall₂ Recorded events (pushed (sinceStart log))

/-- The device of an event is ready, and no other. -/
structure Alone (t : Snapshot X) (p : Produced) : Prop where
  mem : p.device ∈ t.recorder.devicesToRecord
  queue : t.queues p.device.fd = [p.ev]
  others : ∀ d ∈ t.recorder.devicesToRecord, d ≠ p.device → t.queues d.fd = []
  past : p.time ≤ t.recorder.clock

def Produced.toRecord (p : Produced) : List Produced := if p.ev.isEsc then [] else [p]

/-- Where the one event on its way is, and what is to be recorded of it. -/
inductive Flight (t : Snapshot X) : List Produced → Prop where
  | settled (pc : t.recorder.record = .loop ∨ t.recorder.record = .select)
      (drained : t.drained = true) : Flight t []
  | queued (p : Produced) (pc : t.recorder.record = .select) (alone : Alone t p) :
      Flight t p.toRecord
  | ready (p : Produced) (pc : t.recorder.record = .read [p.device]) (alone : Alone t p) :
      Flight t p.toRecord
  | keysym (p : Produced) (ts : Int)
      (pc : t.recorder.record = .keysym ⟨ts, p.device, transformEvent p.device p.ev⟩ [])
      (drained : t.drained = true) (past : p.time ≤ ts) : Flight t [p]
  | updateKey (p : Produced) (ts : Int) (sym : UInt32)
      (pc : t.recorder.record = .updateKey ⟨ts, p.device, transformEvent p.device p.ev⟩ sym [])
      (drained : t.drained = true) (past : p.time ≤ ts) : Flight t [p]
  | store (p : Produced) (r : InputRecord) (pc : t.recorder.record = .store r [])
      (drained : t.drained = true) (recorded : Recorded p r) : Flight t [p]
  | escape (pc : t.recorder.record = .escFlag []) (drained : t.drained = true) : Flight t []

structure Live (t : Snapshot X) : Prop where
  handler : t.handler = .idle
  go : t.recorder.mStop = false
  undumped : lastDump t.recorder.log = none
  flight : ∃ done rest, t.scope = done ++ rest ∧ Matched done t.recorder.log ∧ Flight t rest

def ending : RecordPc → Bool
  | .escTime [] | .loop | .select | .joinBuffer | .returned => true
  | _ => false

/-- A session that has been stopped with all of its events pushed. -/
structure Over (t : Snapshot X) : Prop where
  handler : t.handler ≠ .starting
  stop : t.recorder.mStop = true
  matched : Matched t.scope t.recorder.log
  pc : ending t.recorder.record = true
  drained : t.recorder.record ≠ .returned → t.drained = true
  early : (lastDump t.recorder.log).isSome = true → pushed (sinceDump t.recorder.log) = []

/-- Every event in scope is pushed or the one on its way. -/
def Covered (t : Snapshot X) : Prop := t.scope = [] ∨ Live t ∨ Over t

/-- The handler and the recorder agree on the call that is in progress. -/
structure Handled (handler : Handler) (s : State X) : Prop where
  idle : handler = .idle → s.caller = .idle ∧ s.record ≠ .absent
  stopping : handler = .stopping →
    (s.caller = .stopping ∨ s.caller = .joining) ∧ s.mStop = true ∧
      (s.record.inSession = true ∨ s.record = .returned)
  starting : handler = .starting →
    (s.caller = .idle ∨ s.caller = .spawning) ∧ s.mStop = true ∧ s.record = .absent

theorem thread_move {a : Recorder.Action} (h : snapshotStep cfg t (.thread a) = some t') :
    t.allows a = true ∧ ∃ r, Move cfg t.recorder a r ∧
      t' = { recorder := r
             handler := t.handler.after r.caller a
             queues := t.popped a
             produced := if a = .caller .stopJoin then [] else t.produced } := by
  simp only [snapshotStep] at h
  split at h
  · rename_i allowed
    obtain ⟨r, hr, rfl⟩ := Option.map_eq_some_iff.mp h
    exact ⟨allowed, r, (step_move hr).2, rfl⟩
  · cases h

theorem handled_thread {a : Recorder.Action} {r : State X} (base : Base cfg t.recorder)
    (continuous : cfg.mContinuous = true) (allowed : t.allows a = true)
    (move : Move cfg t.recorder a r) (h : Handled t.handler t.recorder) :
    Handled (t.handler.after r.caller a) r := by
  obtain ⟨idle, stopping, starting⟩ := h
  have joinable := base.joinable
  cases move with
  | caller m =>
    cases m <;> simp only [Snapshot.allows, decide_eq_true_eq, Bool.false_eq_true] at allowed <;>
      constructor <;> simp_all [Handler.after, State.note, State.isActive]
  | record m =>
    cases m <;> constructor <;> simp_all [Handler.after, State.note, afterSelect_inSession]
  | buffer m => cases m <;> exact ⟨idle, stopping, starting⟩
  | tick u => exact ⟨idle, stopping, starting⟩

theorem matched_append {events : List Produced} {log : List Entry} {e : Entry}
    (same : ∀ u, e ≠ .started u) (h : Matched events log) : Matched events (log ++ [e]) := by
  obtain ⟨records, each, part⟩ := List.sublistForall₂_iff.mp h
  refine List.sublistForall₂_iff.mpr ⟨records, each, part.trans ?_⟩
  cases e with
  | started u => exact absurd rfl (same u)
  | _ => simp

theorem matched_push {events : List Produced} {log : List Entry} {p : Produced} {r : InputRecord}
    (recorded : Recorded p r) (h : Matched events log) :
    Matched (events ++ [p]) (log ++ [Entry.pushed r]) := by
  obtain ⟨records, each, part⟩ := List.sublistForall₂_iff.mp h
  refine List.sublistForall₂_iff.mpr ⟨records ++ [r], ?_, ?_⟩
  · exact List.rel_append each (.cons recorded .nil)
  · simpa [Entry.pushed?] using part.append (List.Sublist.refl [r])

theorem flight_frame {rest : List Produced} (h : Flight t rest)
    (record : t'.recorder.record = t.recorder.record)
    (devices : t'.recorder.devicesToRecord = t.recorder.devicesToRecord)
    (queues : t'.queues = t.queues) (clock : t.recorder.clock ≤ t'.recorder.clock) :
    Flight t' rest := by
  have drained : t'.drained = t.drained := by simp [Snapshot.drained, devices, queues]
  have alone (p : Produced) (h : Alone t p) : Alone t' p :=
    ⟨devices ▸ h.mem, by rw [queues, h.queue], by rw [devices, queues]; exact h.others,
      h.past.trans clock⟩
  cases h with
  | settled pc h => exact .settled (by rwa [record]) (drained.trans h)
  | queued p pc h => exact .queued p (record.trans pc) (alone p h)
  | ready p pc h => exact .ready p (record.trans pc) (alone p h)
  | keysym p ts pc h past => exact .keysym p ts (record.trans pc) (drained.trans h) past
  | updateKey p ts sym pc h past => exact .updateKey p ts sym (record.trans pc) (drained.trans h) past
  | store p r pc h recorded => exact .store p r (record.trans pc) (drained.trans h) recorded
  | escape pc h => exact .escape (record.trans pc) (drained.trans h)

theorem not_finalTrim (base : Base cfg t.recorder) (go : t.recorder.mStop = false) (v : Int) :
    t.recorder.buffer ≠ .finalTrim v := by
  intro pc
  have stop := base.sawStop (by simp [pc, BufferPc.sawStop])
  rw [go] at stop
  cases stop

theorem live_buffer {a : BufferAction} {r : State X} (base : Base cfg t.recorder)
    (m : BufferMove cfg t.recorder a r) (h : Live t) : Live { t with recorder := r } := by
  obtain ⟨handler, go, undumped, done, rest, scope, matched, flight⟩ := h
  cases m with
  | trim now =>
    exact ⟨handler, go, by simpa [State.note] using undumped, done, rest, scope,
      matched_append (by simp) matched, flight_frame flight rfl rfl rfl (le_refl _)⟩
  | finalTrim v pc => exact absurd pc (not_finalTrim base go v)
  | _ =>
    exact ⟨handler, go, undumped, done, rest, scope, matched,
      flight_frame flight rfl rfl rfl (le_refl _)⟩

theorem over_buffer {a : BufferAction} {r : State X} (m : BufferMove cfg t.recorder a r)
    (h : Over t) : Over { t with recorder := r } := by
  obtain ⟨handler, stop, matched, pc, drained, early⟩ := h
  cases m with
  | trim now =>
    refine ⟨handler, stop, matched_append (by simp) matched, pc, drained, ?_⟩
    simpa [State.note, Entry.pushed?] using early
  | finalTrim v =>
    refine ⟨handler, stop, matched_append (by simp) matched, pc, drained, ?_⟩
    simp [State.note, pushed]
  | _ => exact ⟨handler, stop, matched, pc, drained, early⟩

theorem drained_iff : t.drained = true ↔ ∀ d ∈ t.recorder.devicesToRecord, t.queues d.fd = [] := by
  simp [Snapshot.drained]

theorem filter_alone {p : Produced} (distinct : (t.recorder.devicesToRecord.map InDevice.fd).Nodup)
    (alone : Alone t p) (q : InDevice → Bool) (only : ∀ d ∈ t.recorder.devicesToRecord,
      q d = true ↔ d = p.device) : t.recorder.devicesToRecord.filter q = [p.device] := by
  have single : t.recorder.devicesToRecord.filter q =
      t.recorder.devicesToRecord.filter (fun d => d = p.device) :=
    List.filter_congr fun d mem => by
      rw [Bool.eq_iff_iff, decide_eq_true_eq]
      exact only d mem
  rw [single, List.filter_eq, List.count_eq_one_of_mem (List.Nodup.of_map _ distinct) alone.mem]
  rfl

theorem afterSelect_alone {p : Produced}
    (distinct : (t.recorder.devicesToRecord.map InDevice.fd).Nodup) (alone : Alone t p) :
    afterSelect cfg t.recorder t.selected = .read [p.device] := by
  have waiting : t.drained = false := by
    rw [Bool.eq_false_iff, Ne, drained_iff]
    intro empty
    cases alone.queue.symm.trans (empty _ alone.mem)
  have ready := filter_alone distinct alone (fun d => !(t.queues d.fd).isEmpty) fun d mem => by
    refine ⟨fun full => ?_, fun eq => by simp [eq, alone.queue]⟩
    by_contra other
    simp [alone.others d mem other] at full
  have found := filter_alone distinct alone (fun d => d.fd ∈ [p.device.fd]) fun d mem => by
    refine ⟨fun same => ?_, fun eq => by simp [eq]⟩
    exact List.inj_on_of_nodup_map distinct mem alone.mem (by simpa using same)
  simp only [Snapshot.selected, waiting, Bool.false_eq_true, if_false, ready, afterSelect,
    List.map_cons, List.map_nil, found, resume]

theorem drained_popped {p : Produced} (alone : Alone t p) {r : State X} {h : Handler}
    {l : List Produced} (devices : r.devicesToRecord = t.recorder.devicesToRecord) :
    Snapshot.drained ⟨r, h, Function.update t.queues p.device.fd (t.queues p.device.fd).tail, l⟩ =
      true := by
  rw [drained_iff]
  intro d mem
  by_cases same : d.fd = p.device.fd
  · simp [same, alone.queue]
  · have other : d ≠ p.device := fun eq => same (by rw [eq])
    simpa [same] using alone.others d (devices ▸ mem) other

def Snapshot.stepped (t : Snapshot X) (a : RecordAction) (r : State X) : Snapshot X :=
  { t with recorder := r, queues := t.popped (.record a) }

section LiveRecord

variable {a : RecordAction} {r : State X} {done : List Produced}

def Records (t : Snapshot X) (events done : List Produced) : Prop :=
  t.recorder.mStop = false ∧ lastDump t.recorder.log = none ∧ Matched done t.recorder.log ∧
    ∃ rest, events = done ++ rest ∧ Flight t rest

theorem records_settled (continuous : cfg.mContinuous = true)
    (allowed : t.allows (.record a) = true) (m : RecordMove cfg t.recorder a r)
    (go : t.recorder.mStop = false) (undumped : lastDump t.recorder.log = none)
    (matched : Matched done t.recorder.log)
    (pc : t.recorder.record = .loop ∨ t.recorder.record = .select) (drained : t.drained = true) :
    Records (t.stepped a r) done done := by
  rcases pc with loop | select
  · cases m with
    | loadSelect => exact ⟨go, undumped, matched, [], by simp, .settled (.inr rfl) drained⟩
    | _ => simp_all
  · cases m with
    | select o left =>
      have timeout : o = .timeout := by
        simpa [Snapshot.allows, Snapshot.selected, drained] using allowed
      subst timeout
      exact ⟨go, undumped, matched, [], by simp, .settled (.inl rfl) drained⟩
    | _ => simp_all

theorem records_queued {p : Produced}
    (distinct : (t.recorder.devicesToRecord.map InDevice.fd).Nodup)
    (allowed : t.allows (.record a) = true) (m : RecordMove cfg t.recorder a r)
    (go : t.recorder.mStop = false) (undumped : lastDump t.recorder.log = none)
    (matched : Matched done t.recorder.log) (pc : t.recorder.record = .select)
    (alone : Alone t p) : Records (t.stepped a r) (done ++ p.toRecord) done := by
  cases m with
  | select o left =>
    have found : o = t.selected := by simpa [Snapshot.allows] using allowed
    subst found
    refine ⟨go, undumped, matched, p.toRecord, rfl, .ready p (afterSelect_alone distinct alone) ?_⟩
    exact ⟨alone.mem, alone.queue, alone.others, alone.past⟩
  | _ => simp_all

theorem records_ready {p : Produced}
    (allowed : t.allows (.record a) = true) (m : RecordMove cfg t.recorder a r)
    (go : t.recorder.mStop = false) (undumped : lastDump t.recorder.log = none)
    (matched : Matched done t.recorder.log) (pc : t.recorder.record = .read [p.device])
    (alone : Alone t p) : Records (t.stepped a r) (done ++ p.toRecord) done := by
  cases m with
  | readEvent d rest ev pc' =>
    cases pc.symm.trans pc'
    have head : ev = p.ev := by
      simpa [Snapshot.allows, Snapshot.next, pc, alone.queue] using allowed
    subst head
    refine ⟨go, undumped, matched, p.toRecord, rfl, ?_⟩
    have popped : t.popped (.record (.read (.event p.ev))) =
        Function.update t.queues p.device.fd (t.queues p.device.fd).tail := by
      simp [Snapshot.popped, pc]
    have empty : Snapshot.drained (t.stepped (.read (.event p.ev))
        { t.recorder with record := received t.recorder.clock p.device p.ev [] }) = true := by
      unfold Snapshot.stepped
      rw [popped]
      exact drained_popped alone rfl
    cases esc : p.ev.isEsc with
    | true =>
      have none : p.toRecord = [] := by simp [Produced.toRecord, esc]
      rw [none]
      exact .escape (by simp [Snapshot.stepped, received, esc]) empty
    | false =>
      have one : p.toRecord = [p] := by simp [Produced.toRecord, esc]
      rw [one]
      exact .keysym p t.recorder.clock (by simp [Snapshot.stepped, received, esc]) empty alone.past
  | readNothing => simp_all [Snapshot.allows, Snapshot.next, alone.queue]
  | _ => simp_all

theorem records_keysym {p : Produced} {ts : Int} (m : RecordMove cfg t.recorder a r)
    (go : t.recorder.mStop = false) (undumped : lastDump t.recorder.log = none)
    (matched : Matched done t.recorder.log)
    (pc : t.recorder.record = .keysym ⟨ts, p.device, transformEvent p.device p.ev⟩ [])
    (drained : t.drained = true) (past : p.time ≤ ts) :
    Records (t.stepped a r) (done ++ [p]) done := by
  cases m with
  | keysymSkip e rest pc' =>
    cases pc.symm.trans pc'
    exact ⟨go, undumped, matched, [p], rfl, .store p _ rfl drained ⟨past, _, rfl⟩⟩
  | keysym e rest x pc' =>
    cases pc.symm.trans pc'
    exact ⟨go, undumped, matched, [p], rfl, .updateKey p ts _ rfl drained past⟩
  | keysymReleased =>
    exact ⟨go, undumped, matched, [p], rfl, .keysym p ts pc drained past⟩
  | _ => simp_all

theorem records_updateKey {p : Produced} {ts : Int} {sym : UInt32}
    (m : RecordMove cfg t.recorder a r)
    (go : t.recorder.mStop = false) (undumped : lastDump t.recorder.log = none)
    (matched : Matched done t.recorder.log)
    (pc : t.recorder.record = .updateKey ⟨ts, p.device, transformEvent p.device p.ev⟩ sym [])
    (drained : t.drained = true) (past : p.time ≤ ts) :
    Records (t.stepped a r) (done ++ [p]) done := by
  cases m with
  | updateSkip e sym rest pc' | updateKey e sym rest d x pc' =>
    cases pc.symm.trans pc'
    exact ⟨go, undumped, matched, [p], rfl, .store p _ rfl drained ⟨past, _, rfl⟩⟩
  | updateReleased =>
    exact ⟨go, undumped, matched, [p], rfl, .updateKey p ts sym pc drained past⟩
  | _ => simp_all

theorem records_store {p : Produced} {q : InputRecord} (continuous : cfg.mContinuous = true)
    (m : RecordMove cfg t.recorder a r)
    (go : t.recorder.mStop = false) (undumped : lastDump t.recorder.log = none)
    (matched : Matched done t.recorder.log) (pc : t.recorder.record = .store q [])
    (drained : t.drained = true) (recorded : Recorded p q) :
    Records (t.stepped a r) (done ++ [p]) (done ++ [p]) := by
  cases m with
  | push q' rest pc' =>
    cases pc.symm.trans pc'
    exact ⟨go, by simpa [Snapshot.stepped, State.note] using undumped, matched_push recorded matched,
      [], by simp, .settled (.inl rfl) drained⟩
  | _ => simp_all

end LiveRecord

theorem live_record {a : RecordAction} {r : State X} (continuous : cfg.mContinuous = true)
    (distinct : (t.recorder.devicesToRecord.map InDevice.fd).Nodup)
    (allowed : t.allows (.record a) = true) (m : RecordMove cfg t.recorder a r) (h : Live t) :
    Live (t.stepped a r) ∨ Over (t.stepped a r) := by
  obtain ⟨handler, go, undumped, done, rest, scope, matched, flight⟩ := h
  have live {done' : List Produced} (h : Records (t.stepped a r) (done ++ rest) done') :
      Live (t.stepped a r) := by
    obtain ⟨go, undumped, matched, rest', split, flight⟩ := h
    exact ⟨handler, go, undumped, done', rest', scope.trans split, matched, flight⟩
  cases flight with
  | settled pc drained =>
    rw [List.append_nil] at live
    exact .inl (live (records_settled continuous allowed m go undumped matched pc drained))
  | queued p pc alone =>
    exact .inl (live (records_queued distinct allowed m go undumped matched pc alone))
  | ready p pc alone => exact .inl (live (records_ready allowed m go undumped matched pc alone))
  | keysym p ts pc drained past =>
    exact .inl (live (records_keysym m go undumped matched pc drained past))
  | updateKey p ts sym pc drained past =>
    exact .inl (live (records_updateKey m go undumped matched pc drained past))
  | store p q pc drained recorded =>
    exact .inl (live (records_store continuous m go undumped matched pc drained recorded))
  | escape pc drained =>
    rw [List.append_nil] at scope
    refine .inr ?_
    cases m with
    | escFlag rest pc' =>
      cases pc.symm.trans pc'
      exact ⟨by simp [Snapshot.stepped, handler], rfl, scope ▸ matched, rfl, fun _ => drained,
        by simp [Snapshot.stepped, undumped]⟩
    | _ => simp_all

theorem over_record {a : RecordAction} {r : State X} (continuous : cfg.mContinuous = true)
    (allowed : t.allows (.record a) = true) (m : RecordMove cfg t.recorder a r) (h : Over t) :
    Over (t.stepped a r) := by
  obtain ⟨handler, stop, matched, pc, drained, early⟩ := h
  cases m with
  | escTime rest here =>
    rw [here] at pc
    cases rest with
    | cons d rest => cases pc
    | nil =>
      refine ⟨handler, stop, matched_append (by simp) matched, rfl, ?_, ?_⟩
      · exact fun _ => drained (by simp [here])
      · simpa [Snapshot.stepped, State.note, Entry.pushed?] using early
  | loadStop here =>
    refine ⟨handler, stop, matched, ?_, fun _ => drained (by simp [here]), early⟩
    simp [Snapshot.stepped, Config.exitLoop, continuous, ending]
  | select o left here =>
    have empty := drained (by simp [here])
    have timeout : o = .timeout := by
      simpa [Snapshot.allows, Snapshot.selected, empty] using allowed
    subst timeout
    exact ⟨handler, stop, matched, rfl, fun _ => empty, early⟩
  | joinBuffer here =>
    exact ⟨handler, stop, matched, rfl, fun running => absurd rfl running, early⟩
  | _ => simp_all [ending]

/-- Once its session is over, the server is in no call but `Stop()`, which ends the count
of the events. -/
theorem over_caller {a : CallerAction} {r : State X} (allowed : t.allows (.caller a) = true)
    (m : CallerMove cfg t.recorder a r) (h : Over t) :
    Covered ⟨r, t.handler.after r.caller (.caller a), t.popped (.caller a),
      if (.caller a : Recorder.Action) = .caller .stopJoin then [] else t.produced⟩ := by
  obtain ⟨handler, stop, matched, pc, drained, early⟩ := h
  cases m with
  | stopTime =>
    refine .inr (.inr ⟨handler, stop, matched_append (by simp) matched, pc, drained, ?_⟩)
    simpa [State.note, Entry.pushed?] using early
  | stopJoin | joinThrows => exact .inl rfl
  | _ => simp_all [Snapshot.allows]

theorem covered_thread {a : Recorder.Action} (continuous : cfg.mContinuous = true)
    (base : Base cfg t.recorder)
    (distinct : (t.recorder.devicesToRecord.map InDevice.fd).Nodup)
    (h : snapshotStep cfg t (.thread a) = some t') (covered : Covered t) : Covered t' := by
  obtain ⟨allowed, r, move, rfl⟩ := thread_move h
  rcases covered with nothing | live | finished
  · left
    unfold Snapshot.scope at nothing ⊢
    split <;> simp_all
  · cases move with
    | caller m =>
      have handler := live.handler
      cases m <;> simp_all [Snapshot.allows]
    | record m => exact .inr (live_record continuous distinct allowed m live)
    | buffer m => exact .inr (.inl (live_buffer base m live))
    | tick u =>
      obtain ⟨handler, go, undumped, done, rest, scope, matched, flight⟩ := live
      have later : t.recorder.clock ≤ u := by simpa [Snapshot.allows] using allowed
      exact .inr (.inl ⟨handler, go, undumped, done, rest, scope, matched,
        flight_frame flight rfl rfl rfl later⟩)
  · cases move with
    | caller m => exact over_caller allowed m finished
    | record m => exact .inr (.inr (over_record continuous allowed m finished))
    | buffer m => exact .inr (.inr (over_buffer m finished))
    | tick u =>
      exact .inr (.inr ⟨finished.handler, finished.stop, finished.matched, finished.pc,
        finished.drained, finished.early⟩)

theorem quiet_cases (h : t.quiet = true) : t.handler = .idle ∧
    ((t.recorder.record = .select ∧ t.recorder.buffer = .wait ∧ t.recorder.mStop = false ∧
        t.drained = true) ∨ t.recorder.record = .returned) := by
  simpa [Snapshot.quiet] using h

theorem matched_quiet (drained : t.drained = true) (pc : t.recorder.record = .select)
    (go : t.recorder.mStop = false) (h : Covered t) : Matched t.scope t.recorder.log := by
  rcases h with nothing | live | finished
  · rw [nothing]
    exact .nil
  · obtain ⟨handler, go, undumped, done, rest, scope, matched, flight⟩ := live
    cases flight with
    | settled => simpa [scope] using matched
    | queued p _ alone => cases alone.queue.symm.trans (drained_iff.mp drained _ alone.mem)
    | _ => simp_all
  · cases go.symm.trans finished.stop

/-- An event that comes in at rest is alone on its way. -/
theorem live_produce (d : InDevice) (ev : InputEvent)
    (distinct : (t.recorder.devicesToRecord.map InDevice.fd).Nodup)
    (handler : t.handler = .idle) (pc : t.recorder.record = .select)
    (go : t.recorder.mStop = false) (undumped : lastDump t.recorder.log = none)
    (drained : t.drained = true) (mem : d ∈ t.recorder.devicesToRecord)
    (matched : Matched t.scope t.recorder.log) :
    Live { t with
      queues := Function.update t.queues d.fd (t.queues d.fd ++ [ev])
      produced := t.produced ++ [⟨t.recorder.clock, d, ev, t.recorder.isActive⟩] } := by
  have empty := drained_iff.mp drained
  refine ⟨handler, go, undumped, t.scope,
    Produced.toRecord ⟨t.recorder.clock, d, ev, t.recorder.isActive⟩, ?_, matched, ?_⟩
  · cases esc : ev.isEsc <;> simp [Snapshot.scope, Produced.toRecord, State.isActive, go, esc]
  · refine .queued _ pc ⟨mem, by simp [empty d mem], fun other mem' ne => ?_, le_refl _⟩
    have apart : other.fd ≠ d.fd := fun same => ne (List.inj_on_of_nodup_map distinct mem' mem same)
    simpa [apart] using empty other mem'

theorem covered_produce {d : InDevice} {ev : InputEvent} (retained : Retained cfg t.recorder)
    (ended : Ended t.recorder → t.recorder.mStop = true)
    (distinct : (t.recorder.devicesToRecord.map InDevice.fd).Nodup)
    (h : snapshotStep cfg t (.produce d ev) = some t') (covered : Covered t) : Covered t' := by
  simp only [snapshotStep] at h
  split at h
  · rename_i allowed
    cases h
    obtain ⟨handler, ⟨pc, buffer, go, drained⟩ | returned⟩ := quiet_cases allowed.1
    · have undumped := (retained.gathering (.inr (by simp [buffer, BufferPc.gathering]))).1
      exact .inr (.inl (live_produce d ev distinct handler pc go undumped drained allowed.2
        (matched_quiet drained pc go covered)))
    · have stop := ended (.inr returned)
      have scope : Snapshot.scope { t with
          queues := Function.update t.queues d.fd (t.queues d.fd ++ [ev])
          produced := t.produced ++ [⟨t.recorder.clock, d, ev, t.recorder.isActive⟩] } =
            t.scope := by
        simp [Snapshot.scope, State.isActive, stop]
      rcases covered with nothing | live | finished
      · exact .inl (scope.trans nothing)
      · cases live.go.symm.trans stop
      · exact .inr (.inr ⟨finished.handler, finished.stop, scope ▸ finished.matched, finished.pc,
          fun running => absurd returned running, finished.early⟩)
  · cases h

theorem covered_getSnapshot (retained : Retained cfg t.recorder)
    (h : snapshotStep cfg t .getSnapshot = some t') (covered : Covered t) : Covered t' := by
  simp only [snapshotStep] at h
  split at h
  · rename_i quiet
    obtain ⟨r, hr, rfl⟩ := Option.map_eq_some_iff.mp h
    cases (step_move hr).2 with
    | caller m =>
      cases m with
      | stopFlag =>
        obtain ⟨handler, ⟨pc, buffer, go, drained⟩ | returned⟩ := quiet_cases quiet
        · have undumped := (retained.gathering (.inr (by simp [buffer, BufferPc.gathering]))).1
          have matched := matched_quiet drained pc go covered
          exact .inr (.inr ⟨by simp, rfl, matched, by simp [pc, ending], fun _ => drained,
            by simp [undumped]⟩)
        · rcases covered with nothing | live | finished
          · exact .inl nothing
          · obtain ⟨_, _, _, done, rest, _, _, flight⟩ := live
            cases flight <;> simp_all
          · exact .inr (.inr ⟨by simp, rfl, finished.matched, finished.pc, finished.drained,
              finished.early⟩)
  · cases h

theorem monitored_sublist (devices : List InDevice) (mask : UInt64) :
    (monitored devices mask).Sublist devices := by
  have all := (List.filter_sublist (l := devices.zipIdx)
    (p := fun d => mask &&& (1 <<< UInt64.ofNat d.2) != 0)).map Prod.fst
  rwa [List.zipIdx_map_fst] at all

theorem distinct_step {a : Recorder.Action} {s s' : State X} (move : Move cfg s a s')
    (h : (s.devicesToRecord.map InDevice.fd).Nodup) :
    (s'.devicesToRecord.map InDevice.fd).Nodup := by
  have monitors : ((monitored cfg.availableDevices s.mDeviceMask).map InDevice.fd).Nodup :=
    cfg.distinct.sublist ((monitored_sublist _ _).map _)
  cases move with
  | caller m => cases m <;> exact h
  | record m =>
    cases m with
    | setupContinuous | setupFixed => exact monitors
    | _ => exact h
  | buffer m => cases m <;> exact h
  | tick u => exact h

def SnapshotFits (t : Snapshot X) : Action → Prop
  | .thread a => Fits t.recorder a
  | _ => True

instance (t : Snapshot X) : (a : Action) → Decidable (SnapshotFits t a)
  | .thread a => inferInstanceAs (Decidable (Fits t.recorder a))
  | .produce _ _ | .getSnapshot => isTrue trivial

structure Serving (cfg : Config X) (s : State X) : Prop where
  base : Base cfg s
  clocked : Clocked cfg s
  retained : Retained cfg s
  ended : Ended s → s.mStop = true
  distinct : (s.devicesToRecord.map InDevice.fd).Nodup

theorem serving_step {a : Recorder.Action} {s s' : State X} (continuous : cfg.mContinuous = true)
    (forward : Forward s a) (fits : Fits s a) (move : Move cfg s a s') (h : Serving cfg s) :
    Serving cfg s' where
  base := base_step h.base move
  clocked := clocked_step forward move h.clocked
  retained := retained_step h.base fits move h.retained
  ended := ended_step h.base (fun _ fixed => by cases fixed.symm.trans continuous) move h.ended
  distinct := distinct_step move h.distinct

structure Served (cfg : Config X) (t : Snapshot X) : Prop where
  serving : Serving cfg t.recorder
  handled : Handled t.handler t.recorder
  covered : Covered t

theorem served_initial (xkb : Option X) (now : Nat) : Served cfg (snapshotInitial cfg xkb now) where
  serving := ⟨base_initial xkb now, clocked_initial xkb now, retained_initial xkb now, fun _ => rfl,
    List.nodup_nil⟩
  handled := by constructor <;> simp [snapshotInitial, initial]
  covered := .inl rfl

theorem forward_of_allows {a : Recorder.Action} (allowed : t.allows a = true) :
    Forward t.recorder a := by
  cases a with
  | tick u => simpa [Snapshot.allows, Forward] using allowed
  | _ => trivial

theorem served_step {a : Action} (continuous : cfg.mContinuous = true) (fits : SnapshotFits t a)
    (h : snapshotStep cfg t a = some t') (inv : Served cfg t) : Served cfg t' := by
  obtain ⟨serving, handled, covered⟩ := inv
  cases a with
  | produce d ev =>
    have next := covered_produce serving.retained serving.ended serving.distinct h covered
    simp only [snapshotStep] at h
    split at h
    · cases h
      exact ⟨serving, handled, next⟩
    · cases h
  | getSnapshot =>
    have next := covered_getSnapshot serving.retained h covered
    simp only [snapshotStep] at h
    split at h
    · rename_i quiet
      obtain ⟨r, hr, rfl⟩ := Option.map_eq_some_iff.mp h
      have move := (step_move hr).2
      refine ⟨serving_step (a := .caller .stopFlag) continuous trivial (by simp [Fits]) move serving,
        ?_, next⟩
      obtain ⟨handler, rest⟩ := quiet_cases quiet
      cases move with
      | caller m =>
        cases m with
        | stopFlag =>
          refine ⟨by simp, fun _ => ⟨.inl rfl, rfl, ?_⟩, by simp⟩
          exact rest.imp (fun live => by simp [live.1]) id
    · cases h
  | thread a =>
    have next := covered_thread continuous serving.base serving.distinct h covered
    obtain ⟨allowed, r, move, rfl⟩ := thread_move h
    exact ⟨serving_step continuous (forward_of_allows allowed) fits move serving,
      handled_thread serving.base continuous allowed move handled, next⟩

theorem trimsSpare_of_le {w : Int} {log : List Entry} (trims : ∀ u, .trimmed u ∈ log → u ≤ w) :
    TrimsSpare cfg w log := by
  rintro pre e post rfl now rfl r _ window
  have past := trims now (by simp)
  omega

theorem finalTrimmed_of_lastDump {v : Int} {log : List Entry} (h : lastDump log = some v) :
    .finalTrimmed v ∈ log := by
  induction log using List.reverseRecOn with
  | nil => cases h
  | append_singleton log e ih =>
    cases e with
    | started => simp at h
    | finalTrimmed u =>
      simp only [lastDump_append, Option.some.injEq] at h
      simp [h]
    | _ => simpa using ih (by simpa using h)

theorem recorded_since {events : List Produced} {records : List InputRecord}
    (h : List.SublistForall₂ Recorded events records) (c : Int) :
    List.SublistForall₂ Recorded (events.filter fun p => decide (c ≤ p.time))
      (Window.since InputRecord.tsAbs c records) := by
  have skip {ps : List Produced} {rs : List InputRecord} (r : InputRecord)
      (h : List.SublistForall₂ Recorded ps (Window.since InputRecord.tsAbs c rs)) :
      List.SublistForall₂ Recorded ps (Window.since InputRecord.tsAbs c (r :: rs)) := by
    by_cases young : c ≤ r.tsAbs
    · simpa [Window.since, young] using h.cons_right
    · simpa [Window.since, young] using h
  induction h with
  | nil => exact .nil
  | @cons p r ps rs recorded _ ih =>
    by_cases young : c ≤ p.time
    · have later : c ≤ r.tsAbs := young.trans recorded.1
      simpa [Window.since, young, later] using ih.cons recorded
    · simpa [young] using skip r ih
  | @cons_right r ps rs _ ih => exact skip r ih

/-- The file that a call of `getSnapshot` returns holds every event other than ESC that came
in since the last call, while the session was recording, within the length before the
call, unless a periodic trim has looked back from a later time. -/
theorem snapshot_covers (devices : List InDevice) (distinct : (devices.map InDevice.fd).Nodup)
    (xkbcommon : Xkb X) (fileTimestamp : Int → String) (xkb : Option X) (now : Nat)
    (as : List Action) (t t' : Snapshot X)
    (h : run (snapshotStep (snapshotRecorder devices distinct xkbcommon fileTimestamp))
      (snapshotInitial (snapshotRecorder devices distinct xkbcommon fileTimestamp) xkb now) as =
        some t)
    (fits : Along (snapshotStep (snapshotRecorder devices distinct xkbcommon fileTimestamp))
      SnapshotFits
      (snapshotInitial (snapshotRecorder devices distinct xkbcommon fileTimestamp) xkb now) as)
    (reply : snapshotStep (snapshotRecorder devices distinct xkbcommon fileTimestamp) t
      (.thread (.caller .stopJoin)) = some t') :
    ∃ path start records, t'.recorder.reply = some (.path path) ∧
      t'.recorder.cmdFile path = some (recording start records) ∧
      ∀ w, t.recorder.mStopTime ≤ w → (∀ u, .trimmed u ∈ sinceStart t.recorder.log → u ≤ w) →
        List.SublistForall₂ Recorded
          ((t.produced.filter fun p => p.recording && !p.ev.isEsc).filter
            fun p => decide (w - 30000 ≤ p.time)) records := by
  obtain ⟨⟨base, clocked, retained, -, -⟩, handled, covered⟩ : Served _ t :=
    Reaches.invariant ⟨as, h, fits⟩ (served_initial xkb now)
      fun _ _ _ fits move inv => served_step rfl fits move inv
  obtain ⟨allowed, r, move, rfl⟩ := thread_move reply
  have handler : t.handler = .stopping := by simpa [Snapshot.allows] using allowed
  cases move with
  | caller m =>
    cases m with
    | joinThrows pc free =>
      have none : t.recorder.record = .absent := by
        by_contra some
        cases free.symm.trans (base.joinable.mpr some)
      obtain ⟨-, -, begun⟩ := handled.stopping handler
      simp [none] at begun
    | stopJoin pc joinable ended =>
      obtain ⟨v, start, records, final, file, holds⟩ := retained.dumped (.inr ⟨rfl, ended⟩)
      refine ⟨_, start, records, rfl, file, fun w call trims => ?_⟩
      have past : v ≤ w :=
        (clocked.cutsPast.past v (finalTrimmed_of_lastDump final)).trans call
      rcases covered with nothing | live | finished
      · unfold Snapshot.scope at nothing
        rw [nothing]
        exact .nil
      · cases live.handler.symm.trans handler
      · have early := finished.early (by simp [final])
        have window := holds w past (trimsSpare_of_le trims) (by simp [early])
        obtain ⟨found, each, part⟩ :=
          List.sublistForall₂_iff.mp (recorded_since finished.matched (w - 30000))
        exact List.sublistForall₂_iff.mpr ⟨found, each, part.trans window⟩

def oneKeyboard : InDevice := ⟨3, [], .keyboard, ⟨0, 0⟩, ⟨0, 0⟩⟩

def keyboardSnapshots : Config Unit :=
  snapshotRecorder [oneKeyboard] (by decide) ⟨fun _ code => UInt32.ofNat code, fun x _ _ => x⟩
    (fun _ => "t")

def keySnapshot : List Action :=
  List.flatten [startSession.map .thread,
    [.thread (.tick 1000), .produce oneKeyboard ⟨evKey, 30, 1⟩],
    (deliver ⟨evKey, 30, 1⟩).map .thread,
    [.thread (.tick 2000), .getSnapshot, .thread (.caller .stopTime)],
    dumpWaiting.map .thread, finishSession.map .thread]

theorem snapshot_covers_key : ∃ t t',
    run (snapshotStep keyboardSnapshots) (snapshotInitial keyboardSnapshots (some ()) 0)
      keySnapshot = some t ∧
    snapshotStep keyboardSnapshots t (.thread (.caller .stopJoin)) = some t' ∧
    t.produced = [⟨1000, oneKeyboard, ⟨evKey, 30, 1⟩, true⟩] ∧
    ∃ path start records, t'.recorder.reply = some (.path path) ∧
      t'.recorder.cmdFile path = some (recording start records) ∧
      ∀ w, t.recorder.mStopTime ≤ w → (∀ u, .trimmed u ∈ sinceStart t.recorder.log → u ≤ w) →
        List.SublistForall₂ Recorded
          ((t.produced.filter fun p => p.recording && !p.ev.isEsc).filter
            fun p => decide (w - 30000 ≤ p.time)) records :=
  ⟨_, _, Option.eq_some_of_isSome (by decide), Option.eq_some_of_isSome (by decide), by decide,
    snapshot_covers _ _ _ _ (some ()) 0 keySnapshot _ _ (Option.eq_some_of_isSome (by decide))
      (by decide) (Option.eq_some_of_isSome (by decide))⟩

/-- An ESC at 1000, a key at 2000, and a call at 3000. -/
def escSnapshot : List Action :=
  List.flatten [startSession.map .thread,
    [.thread (.tick 1000), .produce oneKeyboard ⟨evKey, keyEsc, 1⟩,
     .thread (.record (.select (.ready [3]) 0)),
     .thread (.record (.read (.event ⟨evKey, keyEsc, 1⟩))), .thread (.record .escFlag),
     .thread (.record .escTime), .thread (.record .load)],
    dumpWaiting.map .thread,
    [.thread (.buffer .write), .thread (.record .joinBuffer), .thread (.tick 2000),
     .produce oneKeyboard ⟨evKey, 30, 1⟩, .thread (.tick 3000), .getSnapshot,
     .thread (.caller .stopTime)]]

/-- The ESC has ended the session, and the key is in no file. -/
theorem snapshot_misses_key : ∃ t t',
    run (snapshotStep keyboardSnapshots) (snapshotInitial keyboardSnapshots (some ()) 0)
      escSnapshot = some t ∧
    snapshotStep keyboardSnapshots t (.thread (.caller .stopJoin)) = some t' ∧
    t.recorder.mStopTime = 3000 ∧
    ⟨2000, oneKeyboard, ⟨evKey, 30, 1⟩, false⟩ ∈ t.produced ∧
    t'.recorder.reply = some (.path "/tmp/input_snapshot_t.rrc") ∧
    t'.recorder.cmdFile "/tmp/input_snapshot_t.rrc" = some (recording 0 []) :=
  ⟨_, _, Option.eq_some_of_isSome (by decide), Option.eq_some_of_isSome (by decide), by decide,
    by decide, by decide, by decide⟩

end TestRunner.Server
