import Mathlib.Data.List.Basic

/-! Runs of a partial step function over finite lists of actions, for an arbitrary
state and action type. Nothing here knows what the steps do. -/
namespace TestRunner

variable {S A : Type*}

/-- The state after the actions, when each of them is enabled in turn. -/
def run (step : S → A → Option S) (s : S) : List A → Option S
  | [] => some s
  | a :: as => (step s a).bind (fun t => run step t as)

/-- Each action of the list is taken in a state that meets the condition. -/
def Along (step : S → A → Option S) (C : S → A → Prop) (s : S) : List A → Prop
  | [] => True
  | a :: as => C s a ∧ ∀ t, step s a = some t → Along step C t as

/-- Some run whose steps all meet the condition leads from one state to the other. -/
def Reaches (step : S → A → Option S) (C : S → A → Prop) (s t : S) : Prop :=
  ∃ as, run step s as = some t ∧ Along step C s as

variable {step : S → A → Option S} {C D : S → A → Prop}

instance decidableAlong [∀ s a, Decidable (C s a)] :
    ∀ (s : S) (as : List A), Decidable (Along step C s as)
  | _, [] => isTrue trivial
  | s, a :: as =>
    have := fun t => decidableAlong t as
    inferInstanceAs (Decidable (C s a ∧ ∀ t ∈ step s a, Along step C t as))

theorem run_append (s : S) (as bs : List A) :
    run step s (as ++ bs) = (run step s as).bind (fun t => run step t bs) := by
  induction as generalizing s with
  | nil => rfl
  | cons a as ih => simp only [List.cons_append, run, ih, Option.bind_assoc]

theorem run_snoc {s u : S} {as : List A} {a : A} :
    run step s (as ++ [a]) = some u ↔ ∃ t, run step s as = some t ∧ step t a = some u := by
  simp [run_append, run, Option.bind_eq_some_iff]

/-- What every action of the run preserves holds at its end. -/
theorem run_invariant {I : S → Prop} {s t : S} {as : List A} (h : run step s as = some t)
    (initial : I s) (keep : ∀ a ∈ as, ∀ s t, step s a = some t → I s → I t) : I t := by
  induction as generalizing s with
  | nil => cases Option.some.inj h; exact initial
  | cons a as ih =>
    obtain ⟨m, hm, hr⟩ := Option.bind_eq_some_iff.mp h
    exact ih hr (keep a (by simp) s m hm initial) fun b mem => keep b (by simp [mem])

theorem along_append {s t : S} {as : List A} (bs : List A) (h : run step s as = some t) :
    Along step C s (as ++ bs) ↔ Along step C s as ∧ Along step C t bs := by
  induction as generalizing s with
  | nil => cases Option.some.inj h; simp [Along]
  | cons a as ih =>
    obtain ⟨m, hm, hr⟩ := Option.bind_eq_some_iff.mp h
    simp only [List.cons_append, Along, and_assoc]
    refine and_congr_right fun _ => ⟨fun hall => ?_, fun hall u hu => ?_⟩
    · have split := (ih hr).mp (hall m hm)
      exact ⟨fun u hu => by cases Option.some.inj (hm.symm.trans hu); exact split.1, split.2⟩
    · cases Option.some.inj (hm.symm.trans hu)
      exact (ih hr).mpr ⟨hall.1 m hm, hall.2⟩

theorem along_snoc {s t : S} {as : List A} {a : A} (h : run step s as = some t) :
    Along step C s (as ++ [a]) ↔ Along step C s as ∧ C t a := by
  rw [along_append [a] h]
  simp [Along]

theorem along_of_forall {s : S} {as : List A} (h : ∀ a ∈ as, ∀ s, C s a) : Along step C s as := by
  induction as generalizing s with
  | nil => trivial
  | cons a as ih =>
    exact ⟨h a (by simp) s, fun t _ => ih fun b inside => h b (by simp [inside])⟩

theorem along_imp {I : S → Prop} {s t : S} {as : List A} (h : run step s as = some t)
    (initial : I s) (along : Along step C s as)
    (keep : ∀ s a t, I s → C s a → step s a = some t → I t ∧ D s a) : Along step D s as := by
  induction as generalizing s with
  | nil => trivial
  | cons a as ih =>
    obtain ⟨m, hm, hr⟩ := Option.bind_eq_some_iff.mp h
    obtain ⟨next, here⟩ := keep s a m initial along.1 hm
    refine ⟨here, fun u hu => ?_⟩
    cases Option.some.inj (hm.symm.trans hu)
    exact ih hr next (along.2 m hm)

/-- Conditions that agree wherever an invariant holds, which the one keeps, agree along a run. -/
theorem along_congr {I : S → Prop} {s : S} {as : List A} (initial : I s)
    (same : ∀ s a, I s → (C s a ↔ D s a)) (keep : ∀ s a t, I s → C s a → step s a = some t → I t) :
    Along step C s as ↔ Along step D s as := by
  induction as generalizing s with
  | nil => exact Iff.rfl
  | cons a as ih =>
    simp only [Along, ← same s a initial]
    refine and_congr_right fun here => forall₂_congr fun t stepped => ?_
    exact ih (keep s a t initial here stepped)

theorem along_iff {s : S} {as : List A} :
    Along step C s as ↔
      ∀ pre a post, as = pre ++ a :: post → ∀ t, run step s pre = some t → C t a := by
  constructor
  · rintro h pre a post rfl t ht
    exact ((along_append (a :: post) ht).mp h).2.1
  · intro h
    induction as generalizing s with
    | nil => trivial
    | cons a as ih =>
      refine ⟨h [] a as rfl s rfl, fun t ht => ih fun pre b post split u hu => ?_⟩
      exact h (a :: pre) b post (by simp [split]) u (by simp [run, ht, hu])

/-- What every admitted step preserves holds in every state a run reaches. -/
theorem Reaches.invariant {I : S → Prop} {s t : S} (h : Reaches step C s t) (initial : I s)
    (keep : ∀ s a t, C s a → step s a = some t → I s → I t) : I t := by
  obtain ⟨as, hr, ha⟩ := h
  induction as generalizing s with
  | nil => cases Option.some.inj hr; exact initial
  | cons a as ih =>
    obtain ⟨m, hm, hr⟩ := Option.bind_eq_some_iff.mp hr
    exact ih (keep s a m ha.1 hm initial) hr (ha.2 m hm)

/-- When each step of a kind lowers a measure and the others leave it alone, a run has no more
steps of that kind than the measure. -/
theorem countP_le_of_decreasing {I : S → Prop} {size : S → Nat} {p : A → Bool} {s t : S}
    {as : List A} (h : run step s as = some t) (initial : I s)
    (lower : ∀ a ∈ as, ∀ s t, I s → step s a = some t →
      I t ∧ (if p a then 1 else 0) + size t ≤ size s) :
    I t ∧ as.countP p + size t ≤ size s := by
  induction as generalizing s with
  | nil =>
    cases Option.some.inj h
    exact ⟨initial, Nat.le_of_eq (Nat.zero_add _)⟩
  | cons a as ih =>
    obtain ⟨m, hm, rest⟩ := Option.bind_eq_some_iff.mp h
    obtain ⟨next, less⟩ := lower a (by simp) s m initial hm
    obtain ⟨last, bound⟩ := ih rest next fun b inside => lower b (by simp [inside])
    refine ⟨last, ?_⟩
    rw [List.countP_cons]
    omega

/-- What the steps of a run give out, one after the other. -/
def collect {B : Type*} (step : S → A → Option S) (out : S → A → List B) (s : S) : List A → List B
  | [] => []
  | a :: as =>
    match step s a with
    | none => []
    | some t => out s a ++ collect step out t as

theorem collect_append {B : Type*} {out : S → A → List B} {s t : S} {as : List A} (bs : List A)
    (h : run step s as = some t) :
    collect step out s (as ++ bs) = collect step out s as ++ collect step out t bs := by
  induction as generalizing s with
  | nil =>
    cases Option.some.inj h
    rfl
  | cons a as ih =>
    obtain ⟨m, stepped, rest⟩ := Option.bind_eq_some_iff.mp h
    simp only [List.cons_append, collect, stepped, ih rest, List.append_assoc]

/-- What the steps of a run bring in, together. -/
def total (step : S → A → Option S) (supply : S → A → Nat) (s : S) : List A → Nat
  | [] => 0
  | a :: as =>
    match step s a with
    | none => 0
    | some t => supply s a + total step supply t as

/-- Steps of a kind that use up what others bring in are no more than was there and came in. -/
theorem countP_le_of_supplied {supply : S → A → Nat} {size : S → Nat} {p : A → Bool} {s t : S}
    {as : List A} (h : run step s as = some t)
    (balance : ∀ s a t, step s a = some t → (if p a then 1 else 0) + size t ≤ size s + supply s a) :
    as.countP p + size t ≤ size s + total step supply s as := by
  induction as generalizing s with
  | nil =>
    cases Option.some.inj h
    simp [total]
  | cons a as ih =>
    obtain ⟨m, stepped, rest⟩ := Option.bind_eq_some_iff.mp h
    have here := balance s a m stepped
    have later := ih rest
    simp only [List.countP_cons, total, stepped]
    omega

/-- What goes into a queue at its end comes out at its front, in order, and the rest is held. -/
theorem collect_queue {B : Type*} {I : S → Prop} {put got : S → A → List B} (held : S → List B)
    {s t : S} {as : List A} (h : run step s as = some t) (initial : I s)
    (fifo : ∀ s a t, step s a = some t → I s → I t ∧ held s ++ put s a = got s a ++ held t) :
    held s ++ collect step put s as = collect step got s as ++ held t := by
  induction as generalizing s with
  | nil =>
    cases Option.some.inj h
    simp [collect]
  | cons a as ih =>
    obtain ⟨m, stepped, rest⟩ := Option.bind_eq_some_iff.mp h
    obtain ⟨next, balance⟩ := fifo s a m stepped initial
    have later := ih rest next
    simp only [collect, stepped]
    rw [← List.append_assoc, balance, List.append_assoc, later, List.append_assoc]

/-- A run of a system is for each of its parts the run of the actions that are the part's. -/
theorem run_project {T B : Type*} {part : T → B → Option T} (view : S → T → Prop)
    {project : A → Option B} {s s' : S} {t : T} {as : List A} (h : run step s as = some s')
    (start : view s t)
    (other : ∀ s a s' t, step s a = some s' → project a = none → view s t → view s' t)
    (own : ∀ s a s' t b, step s a = some s' → project a = some b → view s t →
      ∃ t', part t b = some t' ∧ view s' t') :
    ∃ t', run part t (as.filterMap project) = some t' ∧ view s' t' := by
  induction as generalizing s t with
  | nil =>
    cases Option.some.inj h
    exact ⟨t, rfl, start⟩
  | cons a as ih =>
    obtain ⟨m, hm, rest⟩ := Option.bind_eq_some_iff.mp h
    cases mine : project a with
    | none =>
      rw [List.filterMap_cons_none mine]
      exact ih rest (other s a m t hm mine start)
    | some b =>
      obtain ⟨u, hu, next⟩ := own s a m t b hm mine start
      obtain ⟨v, hv, last⟩ := ih rest next
      refine ⟨v, ?_, last⟩
      rw [List.filterMap_cons_some mine]
      exact Option.bind_eq_some_iff.mpr ⟨u, hu, hv⟩

/-- A run in small steps is one in large steps, where a small step that is no large step leaves the
view of the state as it was. -/
theorem run_refine {T B : Type*} {part : T → B → Option T} {I : S → Prop} (view : S → T)
    {project : A → Option B} {s s' : S} {as : List A} (h : run step s as = some s')
    (along : Along step C s as) (start : I s)
    (other : ∀ s a s', I s → C s a → step s a = some s' → project a = none →
      I s' ∧ view s' = view s)
    (own : ∀ s a s' b, I s → C s a → step s a = some s' → project a = some b →
      I s' ∧ part (view s) b = some (view s')) :
    I s' ∧ run part (view s) (as.filterMap project) = some (view s') := by
  induction as generalizing s with
  | nil =>
    cases Option.some.inj h
    exact ⟨start, rfl⟩
  | cons a as ih =>
    obtain ⟨m, stepped, rest⟩ := Option.bind_eq_some_iff.mp h
    have later := fun inside => ih rest (along.2 m stepped) inside
    cases mine : project a with
    | none =>
      obtain ⟨inside, same⟩ := other s a m start along.1 stepped mine
      rw [List.filterMap_cons_none mine, ← same]
      exact later inside
    | some b =>
      obtain ⟨inside, large⟩ := own s a m b start along.1 stepped mine
      obtain ⟨last, runs⟩ := later inside
      rw [List.filterMap_cons_some mine]
      exact ⟨last, Option.bind_eq_some_iff.mpr ⟨_, large, runs⟩⟩

end TestRunner
