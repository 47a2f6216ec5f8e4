import TestRunner.Recorder.Files

/-! The times of a recording, of which its text keeps only the time of day. -/
namespace TestRunner.Recorder

variable {X : Type}

/-- What passes from each of the times to the next. -/
def gaps (times : List Int) : List Int := List.zipWith (fun t u => u - t) times times.tail

/-- A player that knows the times of day only waits for less than a day. -/
def waits (timesOfDay : List Int) : List Int := (gaps timesOfDay).map (· % dayMs)

theorem gaps_nonneg {times : List Int} (ordered : times.Pairwise (· ≤ ·)) :
    ∀ gap ∈ gaps times, 0 ≤ gap := by
  induction times with
  | nil => simp [gaps]
  | cons t times ih =>
    cases times with
    | nil => simp [gaps]
    | cons u times =>
      obtain ⟨first, rest⟩ := List.pairwise_cons.mp ordered
      have here := first u (by simp)
      exact List.forall_mem_cons.mpr ⟨Int.sub_nonneg_of_le here, ih rest⟩

theorem sub_tmod (t u : Int) : (u.tmod dayMs - t.tmod dayMs) % dayMs = (u - t) % dayMs := by
  have apart : u.tmod dayMs - t.tmod dayMs =
      u - t + dayMs * (t.tdiv dayMs - u.tdiv dayMs) := by
    rw [Int.tmod_def, Int.tmod_def]
    ring
  rw [apart, Int.add_mul_emod_self_left]

/-- The day of the times does not matter to the waits. -/
theorem waits_tmod (times : List Int) : waits (times.map (·.tmod dayMs)) = waits times := by
  simp only [waits, gaps, ← List.map_tail, List.zipWith_map, List.map_zipWith, sub_tmod]

theorem waits_eq_gaps {times : List Int} (ordered : times.Pairwise (· ≤ ·))
    (near : ∀ gap ∈ gaps times, gap < dayMs) : waits times = gaps times := by
  refine (List.map_congr_left fun gap inside => ?_).trans (List.map_id _)
  exact Int.emod_eq_of_lt (gaps_nonneg ordered gap inside) (near gap inside)

/-- Under a clock that never goes back the text of a file tells what passed from each event to the
next, if that was always less than a day; and that of a fixed-length recording that has taken less
than a day tells, with its start, when each event was read. -/
theorem times_recovered (cfg : Config X) (xkb : Option X) (now : Nat) (as : List Action)
    (s : State X) (reached : run (step cfg) (initial cfg xkb now) as = some s)
    (forward : Along (step cfg) Forward (initial cfg xkb now) as) (path : String) (start : Int)
    (records : List InputRecord) (written : s.cmdFile path = some (recording start records)) :
    ∃ file, decodeFile (fileText (recording start records)) = some file ∧
      ((∀ gap ∈ gaps (records.map InputRecord.tsAbs), gap < dayMs) →
        waits (file.lines.map Decoded.timeOfDay) = gaps (records.map InputRecord.tsAbs)) ∧
      (cfg.mContinuous = false → s.clock < start + dayMs →
        file.lines.map (fun line => start + (line.timeOfDay - file.timeOfDay) % dayMs) =
          records.map InputRecord.tsAbs) := by
  have timed := timed_run reached forward
  refine ⟨_, decodeFile_recording start records, fun near => ?_, fun fixed short => ?_⟩
  · have ordered : (records.map InputRecord.tsAbs).Pairwise (· ≤ ·) :=
      List.pairwise_map.mpr (timed.ordered path start records written)
    have days : (records.map InputRecord.decoded).map Decoded.timeOfDay =
        (records.map InputRecord.tsAbs).map (·.tmod dayMs) := by
      rw [List.map_map, List.map_map]
      rfl
    rw [days, waits_tmod, waits_eq_gaps ordered near]
  · have within := timed.past fixed path start records written
    rw [List.map_map]
    refine List.map_congr_left fun r inside => ?_
    obtain ⟨low, high⟩ := within.2 r inside
    have same : (r.tsAbs.tmod dayMs - start.tmod dayMs) % dayMs = r.tsAbs - start := by
      rw [sub_tmod]
      exact Int.emod_eq_of_lt (by omega) (by omega)
    change start + (r.tsAbs.tmod dayMs - start.tmod dayMs) % dayMs = r.tsAbs
    omega

/-- A key that goes down before midnight and up after it. -/
def overMidnight : List Action :=
  List.flatten [[.tick 86399500], enterLoop,
    [.record .elapsedNow, .record .elapsedCheck, .tick 86399900], deliver ⟨evKey, 30, 1⟩,
    [.record .elapsedNow, .record .elapsedCheck, .tick 86400100], deliver ⟨evKey, 30, 0⟩]

theorem times_recovered_midnight : ∃ s file,
    run (step (keyboardRecorder false 30000)) (initial (keyboardRecorder false 30000) (some ()) 0)
      overMidnight = some s ∧
    decodeFile (fileText (recording 86399500 [⟨86399900, .keyboard, 1, 30, 1, 38⟩,
      ⟨86400100, .keyboard, 1, 30, 0, 38⟩])) = some file ∧
    waits (file.lines.map Decoded.timeOfDay) = [200] ∧
    file.lines.map (fun line => 86399500 + (line.timeOfDay - file.timeOfDay) % dayMs) =
      [86399900, 86400100] := by
  have reached : run (step (keyboardRecorder false 30000))
      (initial (keyboardRecorder false 30000) (some ()) 0) overMidnight = some _ :=
    Option.eq_some_of_isSome (by decide)
  obtain ⟨file, read, delays, times⟩ := times_recovered _ _ _ _ _ reached (by decide) "rec" 86399500
    [⟨86399900, .keyboard, 1, 30, 1, 38⟩, ⟨86400100, .keyboard, 1, 30, 0, 38⟩] (by decide)
  exact ⟨_, file, reached, read, delays (by decide), times rfl (by decide)⟩

end TestRunner.Recorder
