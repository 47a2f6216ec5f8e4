import TestRunner.Run
import Mathlib.Data.List.Infix
import Mathlib.Logic.Function.Basic

/-! Calls of any number of clients to one server over connections that keep their order, with
clients that wait for an answer, give up waiting, or lose their connection. -/
namespace TestRunner.Rpc

variable {C Req Resp S : Type*}

/-- A connection: what was called over it, each call with its number, and what is on its way. -/
structure Link (Req Resp : Type*) where
  made : List Req
  up : Bool
  waiting : Option Nat
  calls : List (Req × Nat)
  answers : List (Resp × Nat)
  returned : List (Resp × Nat)

def Link.fresh : Link Req Resp := ⟨[], true, none, [], [], []⟩

/-- A call that the server has handled. -/
structure Handled (C Req Resp : Type*) where
  link : C
  call : Req × Nat
  response : Resp

def Handled.answer (h : Handled C Req Resp) : Resp × Nat := (h.response, h.call.2)

/-- A client calls when it is connected and does not wait. -/
def Link.call (l : Link Req Resp) (r : Req) : Option (Link Req Resp) :=
  if l.up = true ∧ l.waiting = none then
    some { l with made := l.made ++ [r], waiting := some l.made.length,
                  calls := l.calls ++ [(r, l.made.length)] }
  else none

def Link.take (l : Link Req Resp) (rest : List (Req × Nat)) (answer : Resp × Nat) :
    Link Req Resp :=
  { l with calls := rest, answers := if l.up then l.answers ++ [answer] else l.answers }

/-- An answer that the client does not wait for is ignored. -/
def Link.deliver (l : Link Req Resp) : Option (Link Req Resp) :=
  match l.answers with
  | [] => none
  | answer :: rest =>
    if l.waiting = some answer.2 then
      some { l with waiting := none, answers := rest, returned := l.returned ++ [answer] }
    else some { l with answers := rest }

def Link.giveUp (l : Link Req Resp) : Option (Link Req Resp) :=
  if l.waiting.isSome then some { l with waiting := none } else none

def Link.lose (l : Link Req Resp) (arrived : Nat) : Link Req Resp :=
  { l with up := false, waiting := none, calls := l.calls.take arrived, answers := [] }

/-- A connection and the calls over it that were handled: calls are handled in the order in which
they were made, none is left out, and what comes back are answers to them. -/
structure Link.Orderly (l : Link Req Resp) (done : List (Handled C Req Resp)) : Prop where
  order : done.map Handled.call ++ l.calls <+: l.made.zipIdx
  whole : l.up = true → done.map Handled.call ++ l.calls = l.made.zipIdx
  answered : (l.returned ++ l.answers).Sublist (done.map Handled.answer)

section Link

variable {l l' : Link Req Resp} {done : List (Handled C Req Resp)}

theorem orderly_fresh : (Link.fresh : Link Req Resp).Orderly ([] : List (Handled C Req Resp)) :=
  ⟨List.nil_prefix, fun _ => rfl, List.Sublist.refl _⟩

theorem orderly_call (h : l.Orderly done) {r : Req} (called : l.call r = some l') :
    l'.Orderly done := by
  unfold Link.call at called
  split at called
  · rename_i free
    cases Option.some.inj called
    have all : done.map Handled.call ++ (l.calls ++ [(r, l.made.length)]) =
        (l.made ++ [r]).zipIdx := by
      rw [← List.append_assoc, h.whole free.1, List.zipIdx_append]
      simp
    exact ⟨all ▸ List.prefix_rfl, fun _ => all, h.answered⟩
  · cases called

theorem orderly_take (h : l.Orderly done) (c : C) {call : Req × Nat} {rest : List (Req × Nat)}
    (front : l.calls = call :: rest) (response : Resp) :
    (l.take rest (response, call.2)).Orderly (done ++ [Handled.mk c call response]) := by
  have same : (done ++ [Handled.mk c call response]).map Handled.call ++ rest =
      done.map Handled.call ++ l.calls := by simp [front]
  refine ⟨same ▸ h.order, fun up => same.trans (h.whole up), ?_⟩
  simp only [Link.take, List.map_append, List.map_singleton]
  split
  · rw [← List.append_assoc]
    exact h.answered.append (List.Sublist.refl _)
  · exact h.answered.trans (List.sublist_append_left _ _)

theorem orderly_deliver (h : l.Orderly done) (delivered : l.deliver = some l') :
    l'.Orderly done := by
  unfold Link.deliver at delivered
  split at delivered
  · cases delivered
  · rename_i answer rest front
    have held := h.answered
    rw [front] at held
    split at delivered
    · cases Option.some.inj delivered
      exact ⟨h.order, h.whole, by simpa using held⟩
    · cases Option.some.inj delivered
      exact ⟨h.order, h.whole, ((List.sublist_cons_self _ _).append_left _).trans held⟩

theorem orderly_giveUp (h : l.Orderly done) (gave : l.giveUp = some l') : l'.Orderly done := by
  unfold Link.giveUp at gave
  split at gave
  · cases Option.some.inj gave
    exact ⟨h.order, h.whole, h.answered⟩
  · cases gave

theorem orderly_lose (h : l.Orderly done) (arrived : Nat) : (l.lose arrived).Orderly done := by
  refine ⟨?_, nofun, ?_⟩
  · exact ((List.prefix_append_right_inj _).mpr (List.take_prefix _ _)).trans h.order
  · rw [Link.lose, List.append_nil]
    exact (List.sublist_append_left _ _).trans h.answered

/-- The calls that were handled are the first of those that were made, in order. -/
theorem Link.Orderly.calls_first (h : l.Orderly done) :
    done.map Handled.call <+: l.made.zipIdx :=
  (List.prefix_append _ _).trans h.order

theorem Link.Orderly.requests_first (h : l.Orderly done) : done.map (·.call.1) <+: l.made := by
  have firsts := h.calls_first.map Prod.fst
  rwa [List.map_map, List.zipIdx_map_fst] at firsts

/-- When every call has returned, all of them were handled. -/
theorem Link.Orderly.all_handled (h : l.Orderly done)
    (returned : l.returned.length = l.made.length) : done.map (·.call.1) = l.made := by
  have answered := h.answered.length_le
  have most := h.requests_first.length_le
  refine h.requests_first.eq_of_length ?_
  simp only [List.length_append, List.length_map] at *
  omega

/-- No call returns twice. -/
theorem Link.Orderly.returned_nodup (h : l.Orderly done) : (l.returned.map Prod.snd).Nodup := by
  have numbers := h.calls_first.map Prod.snd
  rw [List.map_map, List.zipIdx_map_snd] at numbers
  have answered := ((List.sublist_append_left _ _).trans h.answered).map Prod.snd
  rw [List.map_map] at answered
  exact (answered.trans numbers.sublist).nodup List.nodup_range'

end Link

structure Net (C Req Resp S : Type*) where
  links : C → Link Req Resp
  state : S
  handled : List (Handled C Req Resp)

def initial (s : S) : Net C Req Resp S := ⟨fun _ => .fresh, s, []⟩

inductive Action (C Req : Type*) where
  | call (c : C) (r : Req)
  | serve (c : C)
  | deliver (c : C)
  -- the time to wait is over
  | giveUp (c : C)
  -- the connection is lost, and all calls but so many of those on their way
  | lose (c : C) (arrived : Nat)

variable [DecidableEq C]

def Net.put (net : Net C Req Resp S) (c : C) (l : Link Req Resp) : Net C Req Resp S :=
  { net with links := Function.update net.links c l }

/-- The server handles a call to its end and answers it. -/
def Net.handle (serve : S → Req → S × Resp) (net : Net C Req Resp S) (c : C) (call : Req × Nat)
    (rest : List (Req × Nat)) : Net C Req Resp S where
  links := Function.update net.links c
    ((net.links c).take rest ((serve net.state call.1).2, call.2))
  state := (serve net.state call.1).1
  handled := net.handled ++ [⟨c, call, (serve net.state call.1).2⟩]

def step (serve : S → Req → S × Resp) (net : Net C Req Resp S) :
    Action C Req → Option (Net C Req Resp S)
  | .call c r => ((net.links c).call r).map (net.put c)
  | .serve c =>
    match (net.links c).calls with
    | [] => none
    | call :: rest => some (net.handle serve c call rest)
  | .deliver c => (net.links c).deliver.map (net.put c)
  | .giveUp c => (net.links c).giveUp.map (net.put c)
  | .lose c arrived => some (net.put c ((net.links c).lose arrived))

/-- The calls over one connection that the server has handled. -/
def Net.handledOf (net : Net C Req Resp S) (c : C) : List (Handled C Req Resp) :=
  net.handled.filter (·.link = c)

/-- The state after some requests, with what each of them is answered. -/
def replay (serve : S → Req → S × Resp) (s : S) : List Req → S × List Resp
  | [] => (s, [])
  | r :: rs =>
    let rest := replay serve (serve s r).1 rs
    (rest.1, (serve s r).2 :: rest.2)

theorem replay_snoc (serve : S → Req → S × Resp) (s : S) (rs : List Req) (r : Req) :
    replay serve s (rs ++ [r]) =
      ((serve (replay serve s rs).1 r).1,
        (replay serve s rs).2 ++ [(serve (replay serve s rs).1 r).2]) := by
  induction rs generalizing s with
  | nil => rfl
  | cons q rs ih => simp [replay, ih]

variable {serve : S → Req → S × Resp} {s₀ : S} {net net' : Net C Req Resp S}

@[simp] theorem links_put (net : Net C Req Resp S) (c c' : C) (l : Link Req Resp) :
    (net.put c l).links c' = if c' = c then l else net.links c' := Function.update_apply ..

@[simp] theorem handledOf_put (net : Net C Req Resp S) (c c' : C) (l : Link Req Resp) :
    (net.put c l).handledOf c' = net.handledOf c' := rfl

/-- Every connection is in order, and the server is where the handled calls have led it. -/
structure Net.Orderly (serve : S → Req → S × Resp) (s₀ : S) (net : Net C Req Resp S) : Prop where
  links : ∀ c, (net.links c).Orderly (net.handledOf c)
  served : replay serve s₀ (net.handled.map (·.call.1)) =
    (net.state, net.handled.map (·.response))

theorem orderly_put (h : net.Orderly serve s₀) {c : C} {l : Link Req Resp}
    (own : l.Orderly (net.handledOf c)) : (net.put c l).Orderly serve s₀ := by
  refine ⟨fun c' => ?_, h.served⟩
  by_cases same : c' = c
  · subst same
    simpa using own
  · simpa [same] using h.links c'

theorem links_handle (serve : S → Req → S × Resp) (net : Net C Req Resp S) (c c' : C)
    (call : Req × Nat) (rest : List (Req × Nat)) : (net.handle serve c call rest).links c' =
      if c' = c then (net.links c).take rest ((serve net.state call.1).2, call.2)
      else net.links c' := Function.update_apply ..

theorem handledOf_handle (serve : S → Req → S × Resp) (net : Net C Req Resp S) (c c' : C)
    (call : Req × Nat) (rest : List (Req × Nat)) : (net.handle serve c call rest).handledOf c' =
      if c' = c then net.handledOf c ++ [⟨c, call, (serve net.state call.1).2⟩]
      else net.handledOf c' := by
  by_cases same : c' = c
  · simp [Net.handledOf, Net.handle, same]
  · simp [Net.handledOf, Net.handle, same, Ne.symm same]

theorem orderly_handle (h : net.Orderly serve s₀) {c : C} {call : Req × Nat}
    {rest : List (Req × Nat)} (front : (net.links c).calls = call :: rest) :
    (net.handle serve c call rest).Orderly serve s₀ := by
  refine ⟨fun c' => ?_, ?_⟩
  · rw [links_handle, handledOf_handle]
    by_cases same : c' = c
    · rw [if_pos same, if_pos same]
      exact orderly_take (h.links c) c front (serve net.state call.1).2
    · rw [if_neg same, if_neg same]
      exact h.links c'
  · simp only [Net.handle, List.map_append, List.map_singleton]
    rw [replay_snoc, h.served]

theorem orderly_step {a : Action C Req} (h : net.Orderly serve s₀)
    (stepped : step serve net a = some net') : net'.Orderly serve s₀ := by
  cases a with
  | call c r =>
    obtain ⟨l, called, rfl⟩ := Option.map_eq_some_iff.mp stepped
    exact orderly_put h (orderly_call (h.links c) called)
  | serve c =>
    simp only [step] at stepped
    split at stepped
    · cases stepped
    · rename_i call rest front
      cases Option.some.inj stepped
      exact orderly_handle h front
  | deliver c =>
    obtain ⟨l, delivered, rfl⟩ := Option.map_eq_some_iff.mp stepped
    exact orderly_put h (orderly_deliver (h.links c) delivered)
  | giveUp c =>
    obtain ⟨l, gave, rfl⟩ := Option.map_eq_some_iff.mp stepped
    exact orderly_put h (orderly_giveUp (h.links c) gave)
  | lose c arrived =>
    cases Option.some.inj stepped
    exact orderly_put h (orderly_lose (h.links c) arrived)

theorem orderly_run {as : List (Action C Req)}
    (reached : run (step serve) (initial s₀) as = some net) : net.Orderly serve s₀ :=
  run_invariant reached ⟨fun _ => orderly_fresh, rfl⟩ fun _ _ _ _ stepped h => orderly_step h stepped

/-- Where one client alone has called, all that was handled was its calls. -/
theorem Net.Orderly.alone (h : net.Orderly serve s₀) {c : C}
    (quiet : ∀ c' ≠ c, (net.links c').made = []) : net.handledOf c = net.handled := by
  refine List.filter_eq_self.mpr fun done inside => decide_eq_true ?_
  by_contra other
  have own : done ∈ net.handledOf done.link := List.mem_filter.mpr ⟨inside, decide_eq_true rfl⟩
  have first := (h.links done.link).requests_first
  rw [quiet _ other, List.prefix_nil, List.map_eq_nil_iff] at first
  rw [first] at own
  cases own

end TestRunner.Rpc
