import TestRunner.Plugins.Screenshooter

/-! What each event of the compositor can do, one constructor for every outcome of its handler, and
each way in which `capture()` ends. -/
namespace TestRunner.Screenshooter

open Resources CaptureState

inductive Handled (s : CaptureState) : Event → CaptureState → Prop where
  | bindShooter :
      Handled s (.global "weston_screenshooter" true)
        (record { s with shooter := some s.bound, bound := s.bound + 1 }
          [.event (.global "weston_screenshooter" true), .op (.use .registry),
           .op (.acquire (.proxy s.bound))])
  | loseShooter :
      Handled s (.global "weston_screenshooter" false)
        (record { s with shooter := none }
          [.event (.global "weston_screenshooter" false), .op (.use .registry)])
  | bindShm :
      Handled s (.global "wl_shm" true)
        (record { s with shm := some s.bound, bound := s.bound + 1 }
          [.event (.global "wl_shm" true), .op (.use .registry), .op (.acquire (.proxy s.bound))])
  | loseShm :
      Handled s (.global "wl_shm" false)
        (record { s with shm := none } [.event (.global "wl_shm" false), .op (.use .registry)])
  | bindOutput :
      Handled s (.global "wl_output" true)
        (record { s with outputs := s.outputs ++ [⟨s.bound, "", 0, 0⟩], bound := s.bound + 1 }
          [.event (.global "wl_output" true), .op (.use .registry),
           .op (.acquire (.proxy s.bound)), .op (.use (.proxy s.bound))])
  | unknown (interface : String) (bound : Bool) (other : interface ≠ "weston_screenshooter")
      (other' : interface ≠ "wl_shm") :
      Handled s (.global interface bound) (s.record [.event (.global interface bound)])
  | describe (e : Event) (outputs : List OutputInfo) (silent : ∀ i b, e ≠ .global i b)
      (silent' : ∀ p, e ≠ .done p)
      (same : outputs.map OutputInfo.output = s.outputs.map OutputInfo.output) :
      Handled s e (record { s with outputs := outputs } [.event e])
  | report (shooter : Proxy) (listened : s.listening = some shooter) :
      Handled s (.done shooter) (record { s with finished := true } [.event (.done shooter)])
  | ignored (shooter : Proxy) (unlistened : s.listening ≠ some shooter) :
      Handled s (.done shooter) (s.record [.event (.done shooter)])

variable {env : Env} {s t : CaptureState} {e : Event}

theorem updateOutput_outputs (output : Proxy) (f : OutputInfo → OutputInfo)
    (keeps : ∀ o, (f o).output = o.output) (outputs : List OutputInfo) :
    (updateOutput output f outputs).map OutputInfo.output = outputs.map OutputInfo.output := by
  induction outputs with
  | nil => rfl
  | cons o outputs ih =>
    unfold updateOutput
    split
    · simp [keeps]
    · simp [ih]

theorem record_record (s : CaptureState) (entries entries' : List Entry) :
    (s.record entries).record entries' = s.record (entries ++ entries') := by
  simp [record]

theorem handle_handled (h : handle s e = some t) : Handled s e t := by
  cases e with
  | global interface bound =>
    simp only [handle, onRegistryGlobal] at h
    split_ifs at h with shooter shm output
    · subst shooter
      cases bound with
      | true =>
        obtain rfl := Option.some.inj h
        simpa [registryBind, record] using Handled.bindShooter (s := s)
      | false =>
        obtain rfl := Option.some.inj h
        simpa [registryBind, record] using Handled.loseShooter (s := s)
    · subst shm
      cases bound with
      | true =>
        obtain rfl := Option.some.inj h
        simpa [registryBind, record] using Handled.bindShm (s := s)
      | false =>
        obtain rfl := Option.some.inj h
        simpa [registryBind, record] using Handled.loseShm (s := s)
    · subst output
      cases bound with
      | true =>
        obtain rfl := Option.some.inj h
        simpa [registryBind, record] using Handled.bindOutput (s := s)
      | false => cases h
    · obtain rfl := Option.some.inj h
      exact .unknown interface bound shooter shm
  | geometry output model =>
    obtain rfl := Option.some.inj h
    apply Handled.describe _ _ (by simp) (by simp)
    apply updateOutput_outputs
    intro o
    rfl
  | mode output flags width height =>
    obtain rfl := Option.some.inj h
    unfold onOutputMode
    split
    · apply Handled.describe _ _ (by simp) (by simp)
      apply updateOutput_outputs
      intro o
      rfl
    · exact .describe _ _ (by simp) (by simp) rfl
  | done shooter =>
    obtain rfl := Option.some.inj h
    unfold onShootDone
    split
    · rename_i listened
      exact .report shooter listened
    · rename_i unlistened
      exact .ignored shooter unlistened
  | other =>
    obtain rfl := Option.some.inj h
    exact .describe _ _ (by simp) (by simp) rfl

def Entry.handled : Entry → Option Event
  | .event e => some e
  | _ => none

/-- What rounds of events do to the history and to the end of the loop. -/
structure Round (s t : CaptureState) (events : List Event) (entries : List Entry) : Prop where
  log : t.log = s.log ++ entries
  unshot : ∀ shooter, .shoot shooter ∉ entries
  handled : entries.filterMap Entry.handled = events
  listening : t.listening = s.listening
  finished : t.finished = true ↔
    s.finished = true ∨ ∃ shooter, s.listening = some shooter ∧ Event.done shooter ∈ events

theorem Round.refl (s : CaptureState) : Round s s [] [] := by
  constructor <;> simp

theorem Round.trans {u : CaptureState} {events events' : List Event} {entries entries' : List Entry}
    (first : Round s t events entries) (second : Round t u events' entries') :
    Round s u (events ++ events') (entries ++ entries') := by
  constructor
  · rw [second.log, first.log, List.append_assoc]
  · intro shooter inside
    rcases List.mem_append.mp inside with inside | inside
    · exact first.unshot shooter inside
    · exact second.unshot shooter inside
  · rw [List.filterMap_append, first.handled, second.handled]
  · rw [second.listening, first.listening]
  · rw [second.finished, first.finished, first.listening]
    simp only [List.mem_append]
    constructor
    · rintro ((done | ⟨shooter, listened, inside⟩) | ⟨shooter, listened, inside⟩)
      · exact .inl done
      · exact .inr ⟨shooter, listened, .inl inside⟩
      · exact .inr ⟨shooter, listened, .inr inside⟩
    · rintro (done | ⟨shooter, listened, inside | inside⟩)
      · exact .inl (.inl done)
      · exact .inl (.inr ⟨shooter, listened, inside⟩)
      · exact .inr ⟨shooter, listened, inside⟩

theorem handled_round (h : Handled s e t) : ∃ entries, Round s t [e] entries := by
  cases h with
  | describe e outputs silent silent' same =>
    refine ⟨_, rfl, by simp, by simp [Entry.handled], rfl, ?_⟩
    simp [record, Ne.symm (silent' _)]
  | report shooter listened =>
    exact ⟨_, rfl, by simp, by simp [Entry.handled], rfl, by simp [record, listened]⟩
  | ignored shooter unlistened =>
    exact ⟨_, rfl, by simp, by simp [Entry.handled], rfl, by simp [record, unlistened]⟩
  | _ => exact ⟨_, rfl, by simp, by simp [Entry.handled], rfl, by simp [record]⟩

theorem run_round {events : List Event} (h : run handle s events = some t) :
    ∃ entries, Round s t events entries := by
  induction events generalizing s with
  | nil =>
    cases Option.some.inj h
    exact ⟨[], .refl _⟩
  | cons e events ih =>
    obtain ⟨m, handled, rest⟩ := Option.bind_eq_some_iff.mp h
    obtain ⟨entries, first⟩ := handled_round (handle_handled handled)
    obtain ⟨entries', later⟩ := ih rest
    exact ⟨entries ++ entries', first.trans later⟩

theorem record_round (s : CaptureState) (op : Op Handle) :
    Round s (s.record [.op op]) [] [.op op] := by
  constructor <;> simp [record, Entry.handled]

theorem dispatch_round {events : List Event} (h : s.dispatch events = some t) :
    ∃ entries, Round s t events entries := by
  obtain ⟨entries, round⟩ := run_round h
  exact ⟨_, (record_round s (.use .display)).trans round⟩

theorem ready_round (h : ready env = some s) :
    ∃ entries, Round connected s (env.roundtrip ++ env.secondRoundtrip) entries := by
  obtain ⟨m, first, second⟩ := Option.bind_eq_some_iff.mp h
  obtain ⟨entries, round⟩ := dispatch_round first
  obtain ⟨entries', round'⟩ := dispatch_round second
  exact ⟨_, round.trans round'⟩

/-- What every round of events keeps, the loop keeps. -/
theorem waitDone_invariant {I : CaptureState → Prop} {dispatches : List Dispatch}
    (h : s.waitDone dispatches = .ok t) (initial : I s)
    (keep : ∀ s t events, s.dispatch events = some t → I s → I t) : I t := by
  induction dispatches generalizing s with
  | nil =>
    unfold waitDone at h
    split at h
    · cases h
      exact initial
    · cases h
  | cons d dispatches ih =>
    unfold waitDone at h
    split at h
    · cases h
      exact initial
    · split at h
      · cases h
      · rename_i m dispatched
        have kept := keep s m d.events dispatched initial
        split at h
        · cases h
          exact kept
        · exact ih h kept

/-- The loop is rounds of events. -/
theorem waitDone_round {dispatches : List Dispatch} (h : s.waitDone dispatches = .ok t) :
    ∃ events entries, Round s t events entries := by
  apply waitDone_invariant (I := fun t => ∃ events entries, Round s t events entries) h
  · exact ⟨[], [], .refl s⟩
  · rintro u v round dispatched ⟨events, entries, before⟩
    obtain ⟨entries', later⟩ := dispatch_round dispatched
    exact ⟨_, _, before.trans later⟩

/-- How a capture ends that has come to an end. -/
inductive Captured (env : Env) : Outcome → Prop where
  | unconnected (error : String) (told : error ≠ "") :
      Captured env (.returned { error := error } [])
  | waiting : Captured env .waiting
  | crashed : Captured env .crashed
  | failed (s : CaptureState) (held : List Entry) (error : String) (told : error ≠ "")
      (begun : ready env = some s)
      (closed : held = [] ∨ ∃ n, held =
        [.op (.acquire .memfd)] ++ List.replicate n (.op (.use .memfd)) ++ [.op (.release .memfd)]) :
      Captured env ((s.record held).fail error)
  | shot (s t : CaptureState) (shooter shm : Proxy) (selected : OutputInfo)
      (begun : ready env = some s) (found : s.shooter = some shooter) (found' : s.shm = some shm)
      (chosen : select s.outputs = some selected)
      (waited : (record { s with listening := some shooter }
          ([.op (.acquire .memfd), .op (.use .memfd), .op (.use .memfd)] ++
            requests env shooter shm selected)).waitDone env.dispatches = .ok t) :
      Captured env (copyOut env t selected)

theorem failed_at_once {error : String} (begun : ready env = some s) (told : error ≠ "") :
    Captured env (s.fail error) := by
  have failed := Captured.failed s [] error told begun (.inl rfl)
  rwa [show s.record [] = s by simp [record]] at failed

theorem waitDone_stuck {dispatches : List Dispatch} {outcome : Outcome}
    (h : s.waitDone dispatches = .error outcome) : outcome = .waiting ∨ outcome = .crashed := by
  induction dispatches generalizing s with
  | nil =>
    unfold waitDone at h
    split at h
    · cases h
    · cases h
      exact .inl rfl
  | cons d dispatches ih =>
    unfold waitDone at h
    split at h
    · cases h
    · split at h
      · cases h
        exact .inr rfl
      · split at h
        · cases h
        · exact ih h

theorem shoot_captured {shooter shm : Proxy} {selected : OutputInfo} (begun : ready env = some s)
    (found : s.shooter = some shooter) (found' : s.shm = some shm)
    (chosen : select s.outputs = some selected) :
    Captured env (shoot env s shooter shm selected) := by
  unfold shoot
  split
  · exact failed_at_once begun (by decide)
  · dsimp only
    split
    · rw [record_record]
      exact .failed s _ _ (by decide) begun (.inr ⟨1, rfl⟩)
    · split
      · split
        · split
          · rename_i outcome stuck
            rcases waitDone_stuck stuck with rfl | rfl
            · exact .waiting
            · exact .crashed
          · rename_i t waited
            apply Captured.shot s t shooter shm selected begun found found' chosen
            rw [← waited]
            simp [record]
        · exact .crashed
      · rw [record_record, record_record]
        exact .failed s _ _ (by decide) begun (.inr ⟨2, rfl⟩)

theorem capture_captured (env : Env) : Captured env (capture env) := by
  unfold capture
  split
  · split
    · split
      · exact .crashed
      · rename_i s begun
        split
        · exact failed_at_once begun (by decide)
        · exact failed_at_once begun (by decide)
        · exact failed_at_once begun (by decide)
        · rename_i shooter shm selected found found' chosen
          split
          · exact failed_at_once begun (by decide)
          · exact shoot_captured begun found found' chosen
    · exact .crashed
  · exact .unconnected _ (by decide)

end TestRunner.Screenshooter
