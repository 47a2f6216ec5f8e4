import TestRunner.Plugins.Screenshooter.Success
import Mathlib.Algebra.Ring.Int.Defs
import Mathlib.Algebra.Ring.Nat

/-! The sizes of the pool, of its rows and of the image, in 32 and 64 bits. -/
namespace TestRunner.Screenshooter

open CaptureState

theorem stride_toInt {width : Int32} (positive : 0 < width.toInt)
    (small : 4 * width.toInt < 2 ^ 31) : (stride width).toInt = 4 * width.toInt := by
  rw [stride, Int32.toInt_mul, show (4 : Int32).toInt = 4 from rfl, Int.mul_comm]
  apply Int.bmod_eq_of_le
  · omega
  · omega

theorem toNat_ofInt {z : Int} (nonneg : 0 ≤ z) (small : z < 2 ^ 64) :
    ((UInt64.ofInt z).toNat : Int) = z := by
  have bounded : z.toNat < UInt64.size := by
    simp only [UInt64.size]
    omega
  rw [UInt64.ofInt, Int.emod_eq_of_lt nonneg small, UInt64.toNat_ofNat_of_lt' bounded,
    Int.toNat_of_nonneg nonneg]

theorem toInt_toInt32 {n : UInt32} (small : n.toNat < 2 ^ 31) : n.toInt32.toInt = n.toNat := by
  rw [← UInt32.ofNat_toNat (x := n), UInt32.toInt32_ofNat', Int32.toInt_ofNat_of_lt small,
    UInt32.ofNat_toNat]

theorem toNat_toUInt32 {x : Int32} (nonneg : 0 ≤ x.toInt) : (x.toUInt32.toNat : Int) = x.toInt := by
  rw [Int32.toNat_toUInt32_of_le (Int32.le_iff_toInt_le.mpr nonneg), Int32.toNatClampNeg]
  exact Int.toNat_of_nonneg nonneg

section Positive

variable {width height : Int32} (wide : 0 < width.toInt) (high : 0 < height.toInt)
  (small : 4 * width.toInt * height.toInt < 2 ^ 31)
include wide high small

theorem row_small : 4 * width.toInt < 2 ^ 31 := by
  have enough : 4 * width.toInt * 1 ≤ 4 * width.toInt * height.toInt :=
    Int.mul_le_mul_of_nonneg_left high (by omega)
  omega

theorem byteCount_toNat :
    ((byteCount width height).toNat : Int) = 4 * width.toInt * height.toInt := by
  have positive : 0 ≤ 4 * width.toInt * height.toInt := Int.mul_nonneg (by omega) (by omega)
  rw [byteCount, ← UInt64.ofInt_mul, stride_toInt wide (row_small wide high small)]
  apply toNat_ofInt positive
  omega

theorem poolSize_toInt :
    (byteCount width height).toUInt32.toInt32.toInt = 4 * width.toInt * height.toInt := by
  have count := byteCount_toNat wide high small
  have kept : (byteCount width height).toUInt32.toNat = (byteCount width height).toNat := by
    rw [UInt64.toNat_toUInt32]
    apply Nat.mod_eq_of_lt
    omega
  rw [toInt_toInt32 (by omega), kept, count]

end Positive

/-- The pool has the exact size of the image, its buffer has exact rows, and the image fills it. -/
structure Exact (result : ScreenshotResult) (log : List Entry) (width height : Int32) : Prop where
  pool : ∃ size, .createPool size ∈ log ∧ size.toInt = 4 * width.toInt * height.toInt
  rows : ∃ stride, .createBuffer width height stride ∈ log ∧ stride.toInt = 4 * width.toInt
  bytes : (result.imageData.length : Int) = 4 * width.toInt * height.toInt
  wide : (result.width.toNat : Int) = width.toInt
  high : (result.height.toNat : Int) = height.toInt

/-- `capture()` comes to the size that the compositor told for an output. -/
structure Accepted (env : Env) (s : CaptureState) (selected : OutputInfo) : Prop where
  connected : env.connect = true ∧ env.getRegistry = true
  begun : ready env = some s
  bound : s.shooter.isSome ∧ s.shm.isSome
  chosen : select s.outputs = some selected
  sized : 0 < selected.width.toInt ∧ 0 < selected.height.toInt

def MemoryFails (env : Env) : Prop := env.memfdCreate < 0 ∨ env.ftruncate < 0 ∨ env.mmap = false

variable {env : Env} {s t : CaptureState} {shooter shm : Proxy} {selected : OutputInfo}
  {result : ScreenshotResult} {log : List Entry}

theorem fail_told {error : String} (h : s.fail error = .returned result log) :
    result.error = error := by
  obtain ⟨rfl, -⟩ := Outcome.returned.inj h
  rfl

theorem capture_accepted (accepted : Accepted env s selected) :
    ∃ shooter shm, capture env = shoot env s shooter shm selected := by
  obtain ⟨shooter, found⟩ := Option.isSome_iff_exists.mp accepted.bound.1
  obtain ⟨shm, found'⟩ := Option.isSome_iff_exists.mp accepted.bound.2
  have sized : ¬ (selected.width ≤ 0 ∨ selected.height ≤ 0) := by
    simp only [Int32.le_iff_toInt_le, show (0 : Int32).toInt = 0 from rfl]
    have := accepted.sized
    omega
  refine ⟨shooter, shm, ?_⟩
  simp [capture, accepted.connected, accepted.begun, found, found', accepted.chosen, sized]

/-- A size that is not accepted is an error. -/
theorem capture_refused (refused : ∀ s selected, ¬ Accepted env s selected)
    (returned : capture env = .returned result log) : result.error ≠ "" := by
  unfold capture at returned
  split at returned
  · rename_i connect
    split at returned
    · rename_i registry
      split at returned
      · cases returned
      · rename_i s begun
        split at returned
        · simp [fail_told returned]
        · simp [fail_told returned]
        · simp [fail_told returned]
        · rename_i shooter shm selected found found' chosen
          split at returned
          · simp [fail_told returned]
          · rename_i sized
            refine absurd ⟨⟨connect, registry⟩, begun, ⟨?_, ?_⟩, chosen, ?_⟩ (refused s selected)
            · simp [found]
            · simp [found']
            · simp only [Int32.le_iff_toInt_le, show (0 : Int32).toInt = 0 from rfl] at sized
              omega
    · cases returned
  · obtain ⟨rfl, -⟩ := Outcome.returned.inj returned
    simp

/-- Beside an error of the memory, only a shot ends in a result. -/
theorem shoot_returned (returned : shoot env s shooter shm selected = .returned result log) :
    MemoryFails env ∧ result.error ≠ "" ∨
    ¬ MemoryFails env ∧ ∃ t, (record { s with listening := some shooter }
        ([.op (.acquire .memfd), .op (.use .memfd), .op (.use .memfd)] ++
          requests env shooter shm selected)).waitDone env.dispatches = .ok t ∧
      copyOut env t selected = .returned result log := by
  unfold shoot at returned
  split at returned
  · rename_i failed
    exact .inl ⟨.inl failed, by simp [fail_told returned]⟩
  · rename_i created
    dsimp only at returned
    split at returned
    · rename_i failed
      exact .inl ⟨.inr (.inl failed), by simp [fail_told returned]⟩
    · rename_i truncated
      split at returned
      · rename_i mapped
        split at returned
        · split at returned
          · rename_i outcome stuck
            subst returned
            rcases waitDone_stuck stuck with h | h <;> cases h
          · rename_i t waited
            refine .inr ⟨by simp [MemoryFails, created, truncated, mapped], t, ?_, returned⟩
            rw [← waited]
            simp [record]
        · cases returned
      · rename_i unmapped
        exact .inl ⟨.inr (.inr (by simpa using unmapped)), by simp [fail_told returned]⟩

theorem copyOut_image (h : copyOut env t selected = .returned result log) :
    result.imageData.length = (byteCount selected.width selected.height).toNat ∧
    result.width = selected.width.toUInt32 ∧ result.height = selected.height.toUInt32 := by
  unfold copyOut at h
  dsimp only at h
  split at h
  · obtain ⟨rfl, -⟩ := Outcome.returned.inj h
    simp
  · cases h

/-- What is asked of the compositor stays in the history. -/
theorem requested {s : CaptureState} {dispatches : List Dispatch} {held : List Entry} {entry : Entry}
    (waited : (s.record (held ++ requests env shooter shm selected)).waitDone dispatches = .ok t)
    (ended : copyOut env t selected = .returned result log)
    (asked : entry ∈ requests env shooter shm selected) : entry ∈ log := by
  obtain ⟨events, entries, round⟩ := waitDone_round waited
  obtain ⟨-, tail, rfl, -⟩ := copyOut_returned ended
  rw [round.log, record]
  simp [asked]

/-- A shot is exact if and only if its image has less than `2 ^ 31` bytes. -/
theorem shot_exact {s : CaptureState} {dispatches : List Dispatch} {held : List Entry}
    (sized : 0 < selected.width.toInt ∧ 0 < selected.height.toInt)
    (waited : (s.record (held ++ requests env shooter shm selected)).waitDone dispatches = .ok t)
    (ended : copyOut env t selected = .returned result log) :
    Exact result log selected.width selected.height ↔
      4 * selected.width.toInt * selected.height.toInt < 2 ^ 31 := by
  obtain ⟨wide, high⟩ := sized
  obtain ⟨bytes, width, height⟩ := copyOut_image ended
  constructor
  · intro fits
    obtain ⟨size, -, same⟩ := fits.pool
    have bounded := size.toInt_lt
    omega
  · intro small
    constructor
    · refine ⟨_, requested waited ended ?_, poolSize_toInt wide high small⟩
      simp [requests]
    · refine ⟨_, requested waited ended ?_, stride_toInt wide (row_small wide high small)⟩
      simp [requests]
    · rw [bytes, byteCount_toNat wide high small]
    · rw [width, toNat_toUInt32 (by omega)]
    · rw [height, toNat_toUInt32 (by omega)]

/-- A returned screenshot reports an error or has exact sizes, if and only if every accepted size
needs less than `2 ^ 31` bytes or an error of the memory comes first. -/
theorem sizes_exact_iff (env : Env) (result : ScreenshotResult) (log : List Entry)
    (returned : capture env = .returned result log) :
    (result.error ≠ "" ∨ ∃ s selected, Accepted env s selected ∧
      Exact result log selected.width selected.height) ↔
    ∀ s selected, Accepted env s selected →
      4 * selected.width.toInt * selected.height.toInt < 2 ^ 31 ∨ MemoryFails env := by
  by_cases one : ∃ s selected, Accepted env s selected
  · obtain ⟨s, selected, accepted⟩ := one
    have only : ∀ s' selected', Accepted env s' selected' → selected' = selected := by
      intro s' selected' accepted'
      obtain rfl := Option.some.inj (accepted.begun.symm.trans accepted'.begun)
      exact Option.some.inj (accepted'.chosen.symm.trans accepted.chosen)
    obtain ⟨shooter, shm, same⟩ := capture_accepted accepted
    rcases shoot_returned (same.symm.trans returned) with ⟨fails, told⟩ | ⟨works, t, waited, ended⟩
    · apply iff_of_true (.inl told)
      intro s' selected' accepted'
      exact .inr fails
    · have exact_iff := shot_exact accepted.sized waited ended
      have silent := (copyOut_returned ended).1
      constructor
      · rintro (told | ⟨s', selected', accepted', fits⟩)
        · exact absurd silent told
        · intro s'' selected'' accepted''
          rw [only _ _ accepted'] at fits
          rw [only _ _ accepted'']
          exact .inl (exact_iff.mp fits)
      · intro small
        rcases small s selected accepted with small | fails
        · exact .inr ⟨s, selected, accepted, exact_iff.mpr small⟩
        · exact absurd fails works
  · have refused : ∀ s selected, ¬ Accepted env s selected := by
      intro s selected accepted
      exact one ⟨s, selected, accepted⟩
    apply iff_of_true (.inl (capture_refused refused returned))
    intro s selected accepted
    exact absurd accepted (refused s selected)

theorem screen_exact : ∃ result log,
    capture (screen [⟨[.done 0], 1⟩]) = .returned result log ∧
    (result.error ≠ "" ∨ ∃ s selected, Accepted (screen [⟨[.done 0], 1⟩]) s selected ∧
      Exact result log selected.width selected.height) := by
  refine ⟨_, _, rfl, (sizes_exact_iff _ _ _ rfl).mpr ?_⟩
  intro s selected accepted
  obtain rfl := Option.some.inj accepted.begun
  obtain rfl := Option.some.inj accepted.chosen
  exact .inl (by decide)

/-- A compositor with one output of `2 ^ 29` pixels, which the size of its pool does not hold. -/
def wall : Env :=
  { screen [⟨[], -1⟩] with secondRoundtrip := [.mode 2 1 32768 16384] }

theorem wall_inexact : ∃ result log,
    capture wall = .returned result log ∧ result.width = 32768 ∧ result.height = 16384 ∧
    .createPool (-2147483648) ∈ log ∧
    ¬ (result.error ≠ "" ∨ ∃ s selected, Accepted wall s selected ∧
      Exact result log selected.width selected.height) := by
  refine ⟨_, _, rfl, rfl, rfl, ?_, ?_⟩
  · decide
  · rintro (told | ⟨s, selected, accepted, fits⟩)
    · exact told rfl
    · obtain rfl := Option.some.inj accepted.begun
      obtain rfl := Option.some.inj accepted.chosen
      obtain ⟨size, -, same⟩ := fits.pool
      have bounded := size.toInt_lt
      rw [same] at bounded
      exact absurd bounded (by decide)

end TestRunner.Screenshooter
