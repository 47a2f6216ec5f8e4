import TestRunner.Plugins.Screenshooter.Moves

/-! When a screenshot without an error is one that the compositor has made. -/
namespace TestRunner.Screenshooter

open CaptureState

/-- The screenshooter has reported after it was asked. -/
def doneAfter : List Entry → Bool
  | [] => false
  | .shoot shooter :: log => decide (.event (.done shooter) ∈ log) || doneAfter log
  | _ :: log => doneAfter log

/-- A dispatch fails before the screenshooter has reported. -/
def Lost (shooter : Proxy) : List Dispatch → Prop
  | [] => False
  | d :: dispatches =>
    .done shooter ∉ d.events ∧ (d.result = -1 ∨ Lost shooter dispatches)

variable {env : Env} {s t : CaptureState} {log log' : List Entry}

theorem doneAfter_append (unshot : ∀ shooter, .shoot shooter ∉ log) :
    doneAfter (log ++ log') = doneAfter log' := by
  induction log with
  | nil => rfl
  | cons entry log ih =>
    have rest := ih fun shooter inside => unshot shooter (List.mem_cons_of_mem entry inside)
    cases entry with
    | shoot shooter => exact absurd List.mem_cons_self (unshot shooter)
    | _ => exact rest

theorem doneAfter_unshot (unshot : ∀ shooter, .shoot shooter ∉ log) : doneAfter log = false := by
  have alone : doneAfter (log ++ []) = doneAfter [] := doneAfter_append unshot
  rwa [List.append_nil] at alone

theorem mem_handled {e : Event} : .event e ∈ log ↔ e ∈ log.filterMap Entry.handled := by
  rw [List.mem_filterMap]
  constructor
  · intro inside
    exact ⟨.event e, inside, rfl⟩
  · rintro ⟨entry, inside, same⟩
    cases entry <;> cases same
    exact inside

theorem waitDone_of_finished {dispatches : List Dispatch} (h : s.waitDone dispatches = .ok t)
    (finished : s.finished = true) : t = s := by
  cases dispatches <;> simp [waitDone, finished] at h <;> exact h.symm

/-- The loop ends without a report exactly if a dispatch fails before it. -/
theorem waitDone_finished {dispatches : List Dispatch} {shooter : Proxy}
    (h : s.waitDone dispatches = .ok t) (listened : s.listening = some shooter)
    (unfinished : s.finished = false) : t.finished = true ↔ ¬ Lost shooter dispatches := by
  induction dispatches generalizing s with
  | nil => simp [waitDone, unfinished] at h
  | cons d dispatches ih =>
    rw [waitDone, unfinished] at h
    simp only [Bool.false_eq_true, if_false] at h
    split at h
    · cases h
    · rename_i m dispatched
      obtain ⟨entries, round⟩ := dispatch_round dispatched
      have reported : m.finished = true ↔ .done shooter ∈ d.events := by
        simp [round.finished, unfinished, listened]
      split at h
      · rename_i failed
        cases h
        simp [Lost, failed, reported]
      · rename_i going
        simp only [Lost, going, false_or, not_and_or, not_not, ← reported]
        cases finished : m.finished with
        | true =>
          rw [waitDone_of_finished h finished]
          simp [finished]
        | false => simpa using ih h (round.listening.trans listened) finished

/-- Only operations on resources. -/
def Plain (log : List Entry) : Prop := ∀ entry ∈ log, ∃ op, entry = .op op

theorem Plain.unshot (plain : Plain log) : ∀ shooter, .shoot shooter ∉ log := by
  intro shooter inside
  obtain ⟨op, same⟩ := plain _ inside
  cases same

theorem Plain.unhandled (plain : Plain log) (e : Event) : .event e ∉ log := by
  intro inside
  obtain ⟨op, same⟩ := plain _ inside
  cases same

theorem ready_unshot (begun : ready env = some s) :
    (∀ shooter, .shoot shooter ∉ s.log) ∧ s.finished = false := by
  obtain ⟨entries, round⟩ := ready_round begun
  constructor
  · intro shooter inside
    rw [round.log] at inside
    rcases List.mem_append.mp inside with inside | inside
    · simp [connected] at inside
    · exact round.unshot shooter inside
  · by_contra done
    rw [Bool.not_eq_false, round.finished] at done
    simp [connected] at done

theorem requests_eq (env : Env) (shooter shm : Proxy) (selected : OutputInfo) :
    ∃ first, requests env shooter shm selected = first ++ [.shoot shooter, .op (.use .display)] ∧
      ∀ p, .shoot p ∉ first := by
  refine ⟨_, rfl, ?_⟩
  intro p inside
  cases made : env.createBuffer <;> simp [made] at inside

theorem cleanup_log (s : CaptureState) : ∃ tail, s.cleanup.log = s.log ++ tail ∧ Plain tail := by
  refine ⟨_, rfl, ?_⟩
  intro entry inside
  obtain ⟨h, -, rfl⟩ := List.mem_map.mp inside
  exact ⟨_, rfl⟩

/-- A capture that fails has not asked for a shot. -/
theorem failed_unshot {held : List Entry} (begun : ready env = some s)
    (closed : held = [] ∨ ∃ n, held =
      [.op (.acquire .memfd)] ++ List.replicate n (.op (.use .memfd)) ++ [.op (.release .memfd)]) :
    ∀ shooter, .shoot shooter ∉ (s.record held).cleanup.log := by
  intro shooter inside
  obtain ⟨tail, same, plain⟩ := cleanup_log (s.record held)
  rw [same, record, List.append_assoc] at inside
  rcases List.mem_append.mp inside with inside | inside
  · exact (ready_unshot begun).1 shooter inside
  · rcases List.mem_append.mp inside with inside | inside
    · rcases closed with rfl | ⟨n, rfl⟩ <;> simp at inside
    · exact plain.unshot shooter inside

variable {shooter shm : Proxy} {selected : OutputInfo} {result : ScreenshotResult}

theorem copyOut_returned (h : copyOut env t selected = .returned result log) :
    result.error = "" ∧ ∃ tail, log = t.log ++ tail ∧ Plain tail := by
  unfold copyOut at h
  dsimp only at h
  split at h
  · obtain ⟨rfl, rfl⟩ := Outcome.returned.inj h
    refine ⟨rfl, ?_⟩
    simp only [record_record]
    obtain ⟨tail, same, plain⟩ := cleanup_log (t.record ([.op (.use .mapping)] ++
      (if env.createBuffer then [.op (.release .buffer)] else []) ++ [.op (.release .mapping)]))
    refine ⟨_, same.trans (List.append_assoc ..), ?_⟩
    intro entry inside
    rcases List.mem_append.mp inside with inside | inside
    · cases made : env.createBuffer with
      | true =>
        simp [made] at inside
        rcases inside with rfl | rfl | rfl <;> exact ⟨_, rfl⟩
      | false =>
        simp [made] at inside
        rcases inside with rfl | rfl <;> exact ⟨_, rfl⟩
    · exact plain entry inside
  · cases h

/-- The history of a shot: the request, and a report after it exactly if the loop ended by one. -/
theorem shot_log (begun : ready env = some s)
    (waited : (record { s with listening := some shooter }
      ([.op (.acquire .memfd), .op (.use .memfd), .op (.use .memfd)] ++
        requests env shooter shm selected)).waitDone env.dispatches = .ok t) :
    ∃ before after, t.log = before ++ .shoot shooter :: after ∧
      (∀ p, .shoot p ∉ before) ∧ (∀ p, .shoot p ∉ after) ∧
      (.event (.done shooter) ∈ after ↔ ¬ Lost shooter env.dispatches) := by
  obtain ⟨quiet, unfinished⟩ := ready_unshot begun
  obtain ⟨first, same, unshot⟩ := requests_eq env shooter shm selected
  obtain ⟨events, entries, round⟩ := waitDone_round waited
  have ended := waitDone_finished waited rfl unfinished
  refine ⟨s.log ++ ([.op (.acquire .memfd), .op (.use .memfd), .op (.use .memfd)] ++ first),
    .op (.use .display) :: entries, ?_, ?_, ?_, ?_⟩
  · rw [round.log]
    simp [record, same]
  · intro p inside
    rcases List.mem_append.mp inside with inside | inside
    · exact quiet p inside
    · rcases List.mem_append.mp inside with inside | inside
      · simp at inside
      · exact unshot p inside
  · intro p inside
    rcases List.mem_cons.mp inside with same | inside
    · cases same
    · exact round.unshot p inside
  · rw [← ended, round.finished, List.mem_cons, mem_handled, round.handled]
    simp [record, unfinished]

/-- A returned screenshot is one that the screenshooter has reported, or an error that fails the
call, if and only if no dispatch failed between the request and the report. -/
theorem success_iff (env : Env) (result : ScreenshotResult) (log : List Entry)
    (returned : capture env = .returned result log) :
    (doneAfter log = true ∨
      result.error ≠ "" ∧ takeScreenshot (capture env) = some (.failed result.error)) ↔
    ∀ shooter, .shoot shooter ∈ log → ¬ Lost shooter env.dispatches := by
  have fails (told : result.error ≠ "") :
      takeScreenshot (capture env) = some (.failed result.error) := by
    rw [returned, takeScreenshot, if_pos told]
  have captured := capture_captured env
  rw [returned] at captured fails ⊢
  generalize ending : Outcome.returned result log = outcome at captured
  cases captured with
  | unconnected error told =>
    obtain ⟨rfl, rfl⟩ := Outcome.returned.inj ending
    apply iff_of_true (.inr ⟨told, fails told⟩)
    simp
  | waiting => cases ending
  | crashed => cases ending
  | failed s held error told begun closed =>
    obtain ⟨rfl, rfl⟩ := Outcome.returned.inj ending
    apply iff_of_true (.inr ⟨told, fails told⟩)
    intro shooter inside
    exact absurd inside (failed_unshot begun closed shooter)
  | shot s t shooter shm selected begun found found' chosen waited =>
    obtain ⟨noError, tail, rfl, plain⟩ := copyOut_returned ending.symm
    obtain ⟨before, after, same, unshot, unshot', reported⟩ := shot_log begun waited
    have later : ∀ p, .shoot p ∉ after ++ tail := by
      intro p inside
      rcases List.mem_append.mp inside with inside | inside
      · exact unshot' p inside
      · exact plain.unshot p inside
    have answer : doneAfter (t.log ++ tail) = true ↔ ¬ Lost shooter env.dispatches := by
      rw [same, List.append_assoc, List.cons_append, doneAfter_append unshot, doneAfter,
        doneAfter_unshot later, Bool.or_false, decide_eq_true_iff, List.mem_append, ← reported]
      exact or_iff_left (plain.unhandled _)
    rw [answer, noError]
    constructor
    · rintro (report | ⟨told, -⟩) p inside
      · rw [same, List.append_assoc, List.cons_append] at inside
        rcases List.mem_append.mp inside with inside | inside
        · exact absurd inside (unshot p)
        · rcases List.mem_cons.mp inside with asked | inside
          · cases asked
            exact report
          · exact absurd inside (later p)
      · exact absurd rfl told
    · intro report
      exact .inl (report shooter (by simp [same]))

/-- A compositor with one output of two pixels. -/
def screen (dispatches : List Dispatch) : Env where
  connect := true
  getRegistry := true
  roundtrip := [.global "weston_screenshooter" true, .global "wl_shm" true, .global "wl_output" true]
  secondRoundtrip := [.geometry 2 (some "DP-1"), .mode 2 1 2 1]
  memfdCreate := 7
  ftruncate := 0
  mmap := true
  createPool := true
  createBuffer := true
  dispatches := dispatches
  memory := fun _ => 0
  copies := true

theorem success_reported : ∃ result log,
    capture (screen [⟨[.done 0], 1⟩]) = .returned result log ∧
    (doneAfter log = true ∨ result.error ≠ "" ∧
      takeScreenshot (capture (screen [⟨[.done 0], 1⟩])) = some (.failed result.error)) := by
  refine ⟨_, _, rfl, (success_iff _ _ _ rfl).mpr ?_⟩
  intro shooter _ lost
  rcases lost.2 with failed | lost
  · cases failed
  · exact lost

/-- The connection fails after the request, and the buffer is returned as it was mapped. -/
theorem success_unreported : ∃ result log,
    capture (screen [⟨[], -1⟩]) = .returned result log ∧ result.error = "" ∧
    doneAfter log = false ∧
    takeScreenshot (capture (screen [⟨[], -1⟩])) = some (.results [0, 0, 0, 0, 0, 0, 0, 0] 2 1) :=
  ⟨_, _, rfl, rfl, by decide, rfl⟩

end TestRunner.Screenshooter
