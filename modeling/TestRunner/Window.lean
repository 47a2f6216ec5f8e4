import Mathlib.Data.List.DropRight
import Mathlib.Data.List.Pairwise
import Mathlib.Data.List.TakeWhile
import Mathlib.Order.Lattice

/-! A queue that is appended at the back and cut by age at the front, over an
arbitrary element type with time stamps in a linear order. A log of pushes and
cuts determines the queue; the results say when the queue still holds every
pushed element of a given window. -/
namespace TestRunner.Window

/-- The condition holds of every member of the list and what comes before it. -/
def AtEach {β : Type*} (P : List β → β → Prop) (l : List β) : Prop :=
  ∀ pre x post, l = pre ++ x :: post → P pre x

theorem atEach_nil {β : Type*} (P : List β → β → Prop) : AtEach P [] := by
  intro pre x post h
  simp at h

theorem atEach_snoc {β : Type*} {P : List β → β → Prop} {l : List β} {e : β} :
    AtEach P (l ++ [e]) ↔ AtEach P l ∧ P l e := by
  constructor
  · intro h
    exact ⟨fun pre x post split => h pre x (post ++ [e]) (by simp [split]), h l e [] rfl⟩
  · rintro ⟨h, new⟩ pre x post split
    rcases List.eq_nil_or_concat post with rfl | ⟨post, last, rfl⟩
    · obtain ⟨rfl, last⟩ := List.append_inj' split rfl
      cases last
      exact new
    · rw [List.concat_eq_append, ← List.cons_append, ← List.append_assoc] at split
      exact h pre x post (List.append_inj_left' split rfl)

inductive Op (α τ : Type*) where
  | push (a : α)
  | cut (c : τ)

variable {α τ : Type*}

def Op.pushed : Op α τ → Option α
  | .push a => some a
  | .cut _ => none

def pushes (ops : List (Op α τ)) : List α := ops.filterMap Op.pushed

@[simp] theorem pushes_nil : pushes ([] : List (Op α τ)) = [] := rfl

@[simp] theorem pushes_append (xs ys : List (Op α τ)) :
    pushes (xs ++ ys) = pushes xs ++ pushes ys := List.filterMap_append

@[simp] theorem pushes_push (a : α) : pushes [(.push a : Op α τ)] = [a] := rfl

@[simp] theorem pushes_cut (c : τ) : pushes [(.cut c : Op α τ)] = [] := rfl

variable [LinearOrder τ] (ts : α → τ)

def cut (c : τ) (b : List α) : List α := b.dropWhile (fun a => decide (ts a < c))

def since (c : τ) (b : List α) : List α := b.filter (fun a => decide (c ≤ ts a))

def apply (b : List α) : Op α τ → List α
  | .push a => b ++ [a]
  | .cut c => cut ts c b

def replay (ops : List (Op α τ)) : List α := ops.foldl (apply ts) []

/-- No cut is later than an element of the window from `w` on pushed before it. -/
def Kept (w : τ) (ops : List (Op α τ)) : Prop :=
  AtEach (fun pre op => ∀ c, op = .cut c → ∀ a ∈ pushes pre, w ≤ ts a → c ≤ ts a) ops

def Ordered (b : List α) : Prop := b.Pairwise (fun a a' => ts a ≤ ts a')

@[simp] theorem replay_nil : replay ts ([] : List (Op α τ)) = [] := rfl

@[simp] theorem replay_push (ops : List (Op α τ)) (a : α) :
    replay ts (ops ++ [Op.push a]) = replay ts ops ++ [a] := by simp [replay, apply]

@[simp] theorem replay_cut (ops : List (Op α τ)) (c : τ) :
    replay ts (ops ++ [Op.cut c]) = cut ts c (replay ts ops) := by simp [replay, apply]

@[simp] theorem since_append (c : τ) (b b' : List α) :
    since ts c (b ++ b') = since ts c b ++ since ts c b' := List.filter_append ..

theorem cut_suffix (c : τ) (b : List α) : cut ts c b <:+ b := List.dropWhile_suffix _

theorem replay_suffix (ops : List (Op α τ)) : replay ts ops <:+ pushes ops := by
  induction ops using List.reverseRecOn with
  | nil => exact List.suffix_refl []
  | append_singleton ops op ih =>
    cases op with
    | push a => simpa using List.suffix_append_self_iff.mpr ih
    | cut c => simpa using (cut_suffix ts c _).trans ih

theorem Ordered.suffix {b b' : List α} (h : Ordered ts b') (s : b <:+ b') : Ordered ts b :=
  h.sublist s.sublist

/-- On an ordered queue the front decides for every element. -/
theorem cut_eq_since {b : List α} (h : Ordered ts b) (c : τ) : cut ts c b = since ts c b := by
  induction b with
  | nil => rfl
  | cons a b ih =>
    have tail := List.pairwise_cons.mp h
    by_cases young : c ≤ ts a
    · have all : ∀ x ∈ a :: b, decide (c ≤ ts x) = true := by
        intro x hx
        rcases List.mem_cons.mp hx with rfl | hx
        · simpa using young
        · simpa using young.trans (tail.1 x hx)
      simp only [since, List.filter_eq_self.mpr all]
      simp [cut, not_lt.mpr young]
    · have old : ts a < c := not_le.mp young
      simpa [cut, since, old, young] using ih tail.2

/-- A cut leaves at most `n` elements if and only if all before the last `n` are older. -/
theorem length_cut_le_iff {c : τ} {b : List α} {n : Nat} :
    (cut ts c b).length ≤ n ↔ ∀ a ∈ b.take (b.length - n), ts a < c := by
  induction b with
  | nil => simp [cut]
  | cons a b ih =>
    have shorter := (cut_suffix ts c b).length_le
    rcases Nat.lt_or_ge b.length n with few | many
    · have all : (a :: b).length - n = 0 := by simp; omega
      have whole := (cut_suffix ts c (a :: b)).length_le
      rw [all, List.take_zero]
      simp only [List.length_cons] at whole
      exact iff_of_true (by omega) (by simp)
    · have head : (a :: b).length - n = b.length - n + 1 := by simp; omega
      rw [head, List.take_succ_cons, List.forall_mem_cons, ← ih]
      by_cases old : ts a < c
      · simp [cut, old]
      · simp [cut, old]
        omega

theorem cut_eq_self_iff (c : τ) (b : List α) : cut ts c b = b ↔ ∀ a ∈ b.head?, c ≤ ts a := by
  cases b with
  | nil => simp [cut]
  | cons a b => simp [cut, List.dropWhile_eq_self_iff]

/-- A cut not later than any element of the window leaves the window as it is. -/
theorem since_cut {w c : τ} {b : List α} (h : ∀ a ∈ b, w ≤ ts a → c ≤ ts a) :
    since ts w (cut ts c b) = since ts w b := by
  induction b with
  | nil => rfl
  | cons a b ih =>
    by_cases old : ts a < c
    · have out : ¬ w ≤ ts a := fun hw => not_lt.mpr (h a (by simp) hw) old
      have rest := ih (fun x hx => h x (by simp [hx]))
      simpa [cut, since, old, out] using rest
    · simp [cut, old]

theorem kept_push {w : τ} {ops : List (Op α τ)} {a : α} :
    Kept ts w (ops ++ [Op.push a]) ↔ Kept ts w ops := by
  simp [Kept, atEach_snoc]

theorem kept_cut {w c : τ} {ops : List (Op α τ)} :
    Kept ts w (ops ++ [Op.cut c]) ↔ Kept ts w ops ∧ ∀ a ∈ pushes ops, w ≤ ts a → c ≤ ts a := by
  simp [Kept, atEach_snoc]

/-- A cut spares any part of the queue that holds nothing older. Order is not needed. -/
theorem sublist_cut {c : τ} {part b : List α} (h : part.Sublist b) (young : ∀ a ∈ part, c ≤ ts a) :
    part.Sublist (cut ts c b) := by
  induction h with
  | slnil => exact List.Sublist.slnil
  | cons a h ih =>
    by_cases old : ts a < c
    · simpa [cut, old] using ih young
    · simpa [cut, old] using h.cons a
  | cons_cons a h ih =>
    have keep : ¬ ts a < c := not_lt.mpr (young a (by simp))
    simpa [cut, keep] using h

/-- No cut touches the window, so the queue holds all of it. Order is not needed. -/
theorem since_replay {w : τ} {ops : List (Op α τ)} (kept : Kept ts w ops) :
    since ts w (replay ts ops) = since ts w (pushes ops) := by
  induction ops using List.reverseRecOn with
  | nil => rfl
  | append_singleton ops op ih =>
    cases op with
    | push a => simp [ih ((kept_push ts).mp kept)]
    | cut c =>
      obtain ⟨before, new⟩ := (kept_cut ts).mp kept
      have here : ∀ a ∈ replay ts ops, w ≤ ts a → c ≤ ts a :=
        fun a ha => new a ((replay_suffix ts ops).subset ha)
      simp [since_cut ts here, ih before]

/-- With ordered pushes the converse holds as well: a cut into the window is never
made up for. -/
theorem since_replay_iff {w : τ} {ops : List (Op α τ)} (ordered : Ordered ts (pushes ops)) :
    since ts w (replay ts ops) = since ts w (pushes ops) ↔ Kept ts w ops := by
  refine ⟨fun h => ?_, since_replay ts⟩
  induction ops using List.reverseRecOn with
  | nil => exact atEach_nil _
  | append_singleton ops op ih =>
    cases op with
    | push a =>
      simp only [pushes_append, pushes_push, replay_push, since_append] at ordered h
      have before : Ordered ts (pushes ops) := (List.pairwise_append.mp ordered).1
      exact (kept_push ts).mpr (ih before (List.append_cancel_right h))
    | cut c =>
      simp only [pushes_append, pushes_cut, List.append_nil, replay_cut] at ordered h
      have part := replay_suffix ts ops
      rw [cut_eq_since ts (ordered.suffix ts part)] at h
      have inner : (since ts w (since ts c (replay ts ops))).Sublist (since ts w (replay ts ops)) :=
        List.filter_sublist.filter _
      have outer : (since ts w (replay ts ops)).Sublist (since ts w (pushes ops)) :=
        part.sublist.filter _
      have same : since ts w (replay ts ops) = since ts w (pushes ops) :=
        outer.eq_of_length_le (h ▸ inner.length_le)
      refine (kept_cut ts).mpr ⟨ih ordered same, fun a ha hw => ?_⟩
      have mem : a ∈ since ts w (since ts c (replay ts ops)) := by
        rw [h]
        exact List.mem_filter.mpr ⟨ha, by simpa using hw⟩
      simpa [since, hw] using (List.mem_filter.mp (List.mem_filter.mp mem).1).2

end TestRunner.Window
