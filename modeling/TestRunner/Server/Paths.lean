import TestRunner.Recorder.Join
import TestRunner.Server.Registry
import Mathlib.Data.List.TakeWhile

/-! The files that custom recorders write: when no two sessions meet at one path. -/
namespace TestRunner.Server

open Recorder

variable {X : Type}

/-- A file opened by a session: the recorder with its name and mode, and the clock. -/
structure Opening where
  index : Nat
  filename : List UInt8
  continuous : Bool
  clock : Int
  path : String
  deriving DecidableEq

def Registry.opens (reg : Registry X) : Registry.Action X → Option Opening
  | .request .. => none
  | .thread i a =>
    reg.customRecorders[i]?.bind fun custom =>
      (Recorder.opens custom.cfg custom.recorder a).map fun path =>
        ⟨i, custom.filename, custom.cfg.mContinuous, custom.recorder.clock, path⟩

/-- The files that a run opens, in order. -/
def openings (fileTimestamp : Int → String) (reg : Registry X) :
    List (Registry.Action X) → List Opening
  | [] => []
  | a :: as =>
    match reg.step fileTimestamp a with
    | none => []
    | some reg' => (reg.opens a).toList ++ openings fileTimestamp reg' as

/-- One path is for the sessions of one fixed-length recorder only. -/
def Separate (a b : Opening) : Prop :=
  a.path = b.path → a.index = b.index ∧ a.continuous = false ∧ b.continuous = false

/-- The names, modes and time stamps of two sessions differ: two fixed-length recorders have two
names, two dumps have two names or two time stamps, and a fixed-length recorder is not named as a
dump with its time stamp. -/
def Differ (fileTimestamp : Int → String) (a b : Opening) : Prop :=
  match a.continuous, b.continuous with
  | false, false => a.index = b.index ∨ a.filename ≠ b.filename
  | true, true => a.filename ≠ b.filename ∨ fileTimestamp a.clock ≠ fileTimestamp b.clock
  | false, true => text a.filename ≠ text b.filename ++ ("_" ++ fileTimestamp b.clock)
  | true, false => text b.filename ≠ text a.filename ++ ("_" ++ fileTimestamp a.clock)

instance (fileTimestamp : Int → String) : (a b : Opening) → Decidable (Differ fileTimestamp a b)
  | ⟨_, _, false, _, _⟩, ⟨_, _, false, _, _⟩ => inferInstanceAs (Decidable (_ ∨ _))
  | ⟨_, _, true, _, _⟩, ⟨_, _, true, _, _⟩ => inferInstanceAs (Decidable (_ ∨ _))
  | ⟨_, _, false, _, _⟩, ⟨_, _, true, _, _⟩ => inferInstanceAs (Decidable (_ ≠ _))
  | ⟨_, _, true, _, _⟩, ⟨_, _, false, _, _⟩ => inferInstanceAs (Decidable (_ ≠ _))

instance (a b : Opening) : Decidable (Separate a b) := inferInstanceAs (Decidable (_ → _))

theorem text_injective : Function.Injective text := by
  intro a b same
  have chars := String.toList_inj.mpr same
  simp only [text, String.toList_ofList] at chars
  refine List.map_injective_iff.mpr ?_ chars
  intro x y same
  have small : ∀ z : UInt8, (Char.ofNat z.toNat).toNat = z.toNat := by
    intro z
    have lt := z.toNat_lt
    have valid : z.toNat.isValidChar := .inl (by omega)
    rw [Char.ofNat, dif_pos valid]
    rfl
  have numbers := congrArg Char.toNat same
  rw [small, small] at numbers
  exact UInt8.toNat_inj.mp numbers

theorem append_inj {s t u v : String} (same : s ++ u = t ++ v) (size : u.length = v.length) :
    s = t ∧ u = v := by
  have chars := String.toList_inj.mpr same
  rw [String.toList_append, String.toList_append] at chars
  obtain ⟨left, right⟩ := List.append_inj' chars size
  exact ⟨String.toList_inj.mp left, String.toList_inj.mp right⟩

theorem pathFilename_plain {filename : List UInt8} (plain : slash ∉ filename) :
    pathFilename filename = filename := by
  have all : filename.reverse.takeWhile (· ≠ slash) = filename.reverse := by
    rw [List.takeWhile_eq_self_iff]
    intro byte inside
    simp only [decide_eq_true_eq]
    rintro rfl
    exact plain (List.mem_reverse.mp inside)
  rw [pathFilename, all, List.reverse_reverse]

def Opening.name (fileTimestamp : Int → String) (o : Opening) : String :=
  if o.continuous then text o.filename ++ ("_" ++ fileTimestamp o.clock) else text o.filename

/-- The path is built from the name, the mode and the clock. -/
def Opening.Built (fileTimestamp : Int → String) (o : Opening) : Prop :=
  o.path = "/tmp/" ++ o.name fileTimestamp ++ ".rrc"

/-- What the registry keeps of each recorder. -/
structure CustomRecorder.Named (fileTimestamp : Int → String) (custom : CustomRecorder X) : Prop where
  file : custom.cfg.mFilename =
    if custom.cfg.mContinuous then text custom.filename
    else "/tmp/" ++ text custom.filename ++ ".rrc"
  stamp : custom.cfg.fileTimestamp = fileTimestamp
  base : Base custom.cfg custom.recorder

variable {fileTimestamp : Int → String} {reg reg' : Registry X}

theorem named_initial (fileTimestamp : Int → String) :
    ∀ custom ∈ (Registry.initial : Registry X).customRecorders, custom.Named fileTimestamp := by
  simp [Registry.initial]

theorem named_step {a : Registry.Action X}
    (h : ∀ custom ∈ reg.customRecorders, custom.Named fileTimestamp)
    (move : Registry.Move fileTimestamp reg a reg') :
    ∀ custom ∈ reg'.customRecorders, custom.Named fileTimestamp := by
  apply Registry.forall_recorder_step h move
  · intro filename length continuous host custom accepted name cfg fresh
    have plain : slash ∉ cStr filename := by
      intro inside
      simp [refuses, inside] at accepted
    constructor
    · rw [cfg, name]
      simp [recorderConfig, pathFilename_plain plain]
    · rw [cfg]
      rfl
    · rw [fresh]
      exact base_initial host.state host.now
  · intro custom a s before stepped
    exact ⟨before.file, before.stamp, base_step before.base (Recorder.step_move stepped).2⟩

theorem opens_continuous {cfg : Config X} {s s' : Recorder.State X} (base : Base cfg s)
    (stepped : Recorder.step cfg s (.buffer .openFile) = some s') : cfg.mContinuous = true := by
  cases (Recorder.step_move stepped).2 with
  | buffer m =>
    cases m with
    | openFile v pc => exact (base.buffered (by simp [pc])).1

theorem opens_built {a : Registry.Action X} {o : Opening}
    (h : ∀ custom ∈ reg.customRecorders, custom.Named fileTimestamp)
    (move : Registry.Move fileTimestamp reg a reg') (opened : reg.opens a = some o) :
    o.Built fileTimestamp := by
  cases move with
  | thread i a custom s found allowed stepped =>
    have named := h custom (List.mem_of_getElem? found)
    simp only [Registry.opens, found, Option.bind_some, Option.map_eq_some_iff] at opened
    obtain ⟨path, opened, rfl⟩ := opened
    unfold Recorder.opens at opened
    split at opened
    · split at opened
      · cases opened
      · rename_i fixed
        cases opened
        simp [Opening.Built, Opening.name, named.file, fixed]
    · cases opened
      have continuous := opens_continuous named.base stepped
      simp [Opening.Built, Opening.name, Config.recordingPath, named.file, named.stamp, continuous,
        String.append_assoc]
    · cases opened
  | _ => cases opened

/-- Every file that a run opens has the path of its name, mode and time. -/
theorem openings_built {as : List (Registry.Action X)}
    (h : ∀ custom ∈ reg.customRecorders, custom.Named fileTimestamp) :
    ∀ o ∈ openings fileTimestamp reg as, o.Built fileTimestamp := by
  induction as generalizing reg with
  | nil => exact nofun
  | cons a as ih =>
    intro o inside
    unfold openings at inside
    split at inside
    · cases inside
    · rename_i reg' stepped
      have move := Registry.step_move stepped
      rcases List.mem_append.mp inside with now | later
      · exact opens_built h move (by simpa using now)
      · exact ih (named_step h move) o later

theorem separate_iff {a b : Opening} (ha : a.Built fileTimestamp) (hb : b.Built fileTimestamp)
    (sa : a.continuous = true → (fileTimestamp a.clock).length = 15)
    (sb : b.continuous = true → (fileTimestamp b.clock).length = 15) :
    Separate a b ↔ Differ fileTimestamp a b := by
  have paths : a.path = b.path ↔ a.name fileTimestamp = b.name fileTimestamp := by
    rw [ha, hb, String.append_left_inj, String.append_right_inj]
  unfold Separate Differ
  rw [paths]
  cases modeA : a.continuous <;> cases modeB : b.continuous
  · have names : a.name fileTimestamp = b.name fileTimestamp ↔ a.filename = b.filename := by
      simp [Opening.name, modeA, modeB, text_injective.eq_iff]
    simp only [names, and_true, imp_iff_or_not, ne_eq]
  · simp [Opening.name, modeA, modeB]
  · simp [Opening.name, modeA, modeB, eq_comm]
  · have sizes : ("_" ++ fileTimestamp a.clock).length = ("_" ++ fileTimestamp b.clock).length := by
      rw [String.length_append, String.length_append, sa modeA, sb modeB]
    have names : a.name fileTimestamp = b.name fileTimestamp ↔
        a.filename = b.filename ∧ fileTimestamp a.clock = fileTimestamp b.clock := by
      simp only [Opening.name, modeA, modeB, if_true]
      constructor
      · intro same
        obtain ⟨name, stamp⟩ := append_inj same sizes
        exact ⟨text_injective name, (String.append_right_inj _).mp stamp⟩
      · rintro ⟨name, stamp⟩
        rw [name, stamp]
    simp only [names, Bool.true_eq_false, and_false, imp_false, not_and_or, ne_eq]

/-- The sessions of a run keep to their own files if and only if their names, modes and time
stamps differ. A time stamp has fifteen characters. -/
theorem recordings_separate_iff (fileTimestamp : Int → String) (as : List (Registry.Action X))
    (stamps : ∀ o ∈ openings fileTimestamp (Registry.initial : Registry X) as,
      o.continuous = true → (fileTimestamp o.clock).length = 15) :
    (openings fileTimestamp (Registry.initial : Registry X) as).Pairwise Separate ↔
      (openings fileTimestamp (Registry.initial : Registry X) as).Pairwise (Differ fileTimestamp) := by
  have built : ∀ o ∈ openings fileTimestamp (Registry.initial : Registry X) as,
      o.Built fileTimestamp := openings_built (named_initial fileTimestamp)
  refine List.Pairwise.iff_of_mem fun {a b} ha hb => ?_
  exact separate_iff (built a ha) (built b hb) (stamps a ha) (stamps b hb)

/-- The first seconds of 1970. -/
def firstSeconds (t : Int) : String := if t < 1000 then "19700101_000000" else "19700101_000001"

def create (filename : List UInt8) (continuous : Bool) : Registry.Action Unit :=
  .request (.createCustomRecorder filename 30 continuous) Registry.keyboardHost

/-- A session of a fixed-length recorder, up to its file. -/
def fixedSession (index : UInt8) : List (Registry.Action Unit) :=
  .request (.startCustomRecording index) Registry.keyboardHost ::
    enterLoop.map (.thread index.toNat)

def stopAndDump : List Recorder.Action :=
  List.flatten [[.caller .stopFlag, .caller .stopTime], dumpWaiting, finishSession,
    [.caller .stopJoin]]

def continuousSession (index : UInt8) : List (Registry.Action Unit) :=
  List.flatten [[.request (.startCustomRecording index) Registry.keyboardHost],
    startSession.map (.thread index.toNat),
    [.request (.stopCustomRecording index) Registry.keyboardHost],
    stopAndDump.map (.thread index.toNat)]

/-- Two recorders of either mode, and a second dump one second after the first. -/
def apart : List (Registry.Action Unit) :=
  List.flatten [[create [0x61] false, create [0x61] true], fixedSession 0, continuousSession 1,
    [.thread 1 (.tick 1000)], continuousSession 1]

/-- Two fixed-length recorders of one name. -/
def oneName : List (Registry.Action Unit) :=
  List.flatten [[create [0x61] false, create [0x61] false], fixedSession 0, fixedSession 1]

/-- Two dumps within one second. -/
def oneSecond : List (Registry.Action Unit) :=
  List.flatten [[create [0x61] true], continuousSession 0, continuousSession 0]

theorem recordings_separate_apart :
    (openings firstSeconds Registry.initial apart).Pairwise Separate :=
  (recordings_separate_iff firstSeconds apart (by decide)).mpr (by decide)

theorem recordings_overwritten :
    (openings firstSeconds Registry.initial oneName =
        [⟨0, [0x61], false, 0, "/tmp/a.rrc"⟩, ⟨1, [0x61], false, 0, "/tmp/a.rrc"⟩] ∧
      ¬ (openings firstSeconds Registry.initial oneName).Pairwise Separate) ∧
    (openings firstSeconds Registry.initial oneSecond =
        [⟨0, [0x61], true, 0, "/tmp/a_19700101_000000.rrc"⟩,
         ⟨0, [0x61], true, 0, "/tmp/a_19700101_000000.rrc"⟩] ∧
      ¬ (openings firstSeconds Registry.initial oneSecond).Pairwise Separate) := by
  decide

end TestRunner.Server
