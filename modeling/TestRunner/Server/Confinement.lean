import TestRunner.Server.Paths

/-! Where a recorder may create its file: directly in /tmp, or elsewhere. -/
namespace TestRunner.Server

open Recorder

variable {X : Type}

/-- The path of an entry of /tmp. -/
def Confined (path : String) : Prop :=
  ∃ name : String, path = "/tmp/" ++ name ∧ '/' ∉ name.toList ∧ name ≠ "" ∧ name ≠ "." ∧ name ≠ ".."

/-- The files that a recorder opens in a run. -/
def openedFiles (cfg : Config X) (s : Recorder.State X) : List Recorder.Action → List String
  | [] => []
  | a :: as =>
    match Recorder.step cfg s a with
    | none => []
    | some t => (Recorder.opens cfg s a).toList ++ openedFiles cfg t as

theorem mem_text {filename : List UInt8} : '/' ∈ (text filename).toList ↔ slash ∈ filename := by
  have chars : (text filename).toList = filename.map fun b => Char.ofNat b.toNat := by
    simp [text]
  rw [chars, List.mem_map]
  constructor
  · rintro ⟨b, inside, same⟩
    have one : text [b] = text [slash] := by
      simp only [text, List.map_cons, List.map_nil, same]
      rfl
    obtain rfl := List.singleton_inj.mp (text_injective one)
    exact inside
  · intro inside
    exact ⟨slash, inside, rfl⟩

theorem confined_iff (name : String) :
    Confined ("/tmp/" ++ name ++ ".rrc") ↔ '/' ∉ name.toList := by
  have suffix : '/' ∉ ".rrc".toList := by decide
  rw [String.append_assoc]
  constructor
  · rintro ⟨component, same, plain, -⟩ inside
    rw [← (String.append_right_inj _).mp same, String.toList_append] at plain
    exact plain (List.mem_append_left _ inside)
  · intro plain
    have long : 4 ≤ (name ++ ".rrc").length := by
      rw [String.length_append]
      exact Nat.le_add_left 4 name.length
    refine ⟨name ++ ".rrc", rfl, ?_, ?_, ?_, ?_⟩
    · rw [String.toList_append, List.mem_append]
      exact not_or.mpr ⟨plain, suffix⟩
    · rintro empty
      rw [empty] at long
      exact absurd long (by decide)
    · rintro same
      rw [same] at long
      exact absurd long (by decide)
    · rintro same
      rw [same] at long
      exact absurd long (by decide)

theorem slash_not_mem_pathFilename (filename : List UInt8) : slash ∉ pathFilename filename := by
  intro inside
  have front := List.mem_takeWhile_imp (List.mem_reverse.mp inside)
  simp at front

variable {fileTimestamp : Int → String} {filename : List UInt8} {length : UInt32}
  {continuous : Bool} {host : Host X} {s : Recorder.State X}

/-- A fixed-length recorder opens the path of its constructor, a continuous one that of its dump. -/
theorem opens_path {a : Recorder.Action} {s' : Recorder.State X} {path : String}
    (base : Base (recorderConfig fileTimestamp filename length continuous host) s)
    (stepped : Recorder.step (recorderConfig fileTimestamp filename length continuous host) s a =
      some s')
    (opened : Recorder.opens (recorderConfig fileTimestamp filename length continuous host) s a =
      some path) :
    path = "/tmp/" ++ (if continuous then text filename ++ ("_" ++ fileTimestamp s.clock)
      else text (pathFilename filename)) ++ ".rrc" := by
  unfold Recorder.opens at opened
  split at opened
  · split at opened
    · cases opened
    · rename_i fixed
      have fixed : ¬ continuous = true := fixed
      cases opened
      simp [recorderConfig, fixed]
  · cases opened
    have mode : continuous = true := opens_continuous base stepped
    simp [Config.recordingPath, recorderConfig, mode, String.append_assoc]
  · cases opened

theorem opens_confined_iff {a : Recorder.Action} {s' : Recorder.State X} {path : String}
    (stamps : ∀ t, '/' ∉ (fileTimestamp t).toList)
    (base : Base (recorderConfig fileTimestamp filename length continuous host) s)
    (stepped : Recorder.step (recorderConfig fileTimestamp filename length continuous host) s a =
      some s')
    (opened : Recorder.opens (recorderConfig fileTimestamp filename length continuous host) s a =
      some path) : Confined path ↔ continuous = false ∨ slash ∉ filename := by
  rw [opens_path base stepped opened, confined_iff]
  cases continuous with
  | false =>
    refine iff_of_true ?_ (.inl rfl)
    exact mem_text.not.mpr (slash_not_mem_pathFilename filename)
  | true =>
    have underscore : '/' ∉ "_".toList := by decide
    simp [mem_text, stamps]

theorem openedFiles_confined_iff {as : List Recorder.Action}
    (stamps : ∀ t, '/' ∉ (fileTimestamp t).toList)
    (base : Base (recorderConfig fileTimestamp filename length continuous host) s) :
    ∀ path ∈ openedFiles (recorderConfig fileTimestamp filename length continuous host) s as,
      (Confined path ↔ continuous = false ∨ slash ∉ filename) := by
  induction as generalizing s with
  | nil => simp [openedFiles]
  | cons a as ih =>
    intro path inside
    unfold openedFiles at inside
    split at inside
    · cases inside
    · rename_i t stepped
      rcases List.mem_append.mp inside with now | later
      · exact opens_confined_iff stamps base stepped (by simpa using now)
      · exact ih (base_step base (Recorder.step_move stepped).2) path later

/-- A recorder creates each of its files directly in /tmp if and only if it is a fixed-length one
or its name has no slash. A time stamp has no slash. -/
theorem files_confined_iff (fileTimestamp : Int → String) (filename : List UInt8)
    (length : UInt32) (continuous : Bool) (host : Host X) (as : List Recorder.Action)
    (stamps : ∀ t, '/' ∉ (fileTimestamp t).toList) :
    ∀ path ∈ openedFiles (recorderConfig fileTimestamp filename length continuous host)
        (Recorder.initial (recorderConfig fileTimestamp filename length continuous host)
          host.state host.now) as,
      (Confined path ↔ continuous = false ∨ slash ∉ filename) :=
  openedFiles_confined_iff stamps (base_initial host.state host.now)

theorem slash_not_mem_firstSeconds (t : Int) : '/' ∉ (firstSeconds t).toList := by
  unfold firstSeconds
  split <;> decide

/-- A recorder named by a path out of /tmp. -/
def climbing (continuous : Bool) : Config Unit :=
  recorderConfig firstSeconds [0x2e, 0x2e, 0x2f, 0x62] 30 continuous Registry.keyboardHost

def stoppedSession : List Recorder.Action :=
  startSession ++ .caller .stopFlag :: .caller .stopTime :: dumpWaiting

theorem files_confined_fixed :
    Confined "/tmp/b.rrc" ∧
    "/tmp/b.rrc" ∈ openedFiles (climbing false) (Recorder.initial (climbing false) (some ()) 0)
      enterLoop := by
  have opened : "/tmp/b.rrc" ∈ openedFiles (climbing false)
    (Recorder.initial (climbing false) (some ()) 0) enterLoop := by decide
  exact ⟨(files_confined_iff firstSeconds _ 30 false Registry.keyboardHost enterLoop
    slash_not_mem_firstSeconds _ opened).mpr (.inl rfl), opened⟩

theorem files_climb :
    ¬ Confined "/tmp/../b_19700101_000000.rrc" ∧
    "/tmp/../b_19700101_000000.rrc" ∈ openedFiles (climbing true)
      (Recorder.initial (climbing true) (some ()) 0) stoppedSession :=
  ⟨(confined_iff "../b_19700101_000000").not.mpr (by decide), by decide⟩

variable {reg reg' : Registry X}

theorem slash_step {a : Registry.Action X} (h : ∀ custom ∈ reg.customRecorders, slash ∉ custom.filename)
    (move : Registry.Move fileTimestamp reg a reg') :
    ∀ custom ∈ reg'.customRecorders, slash ∉ custom.filename := by
  apply Registry.forall_recorder_step h move
  · intro filename length continuous host custom accepted name _ _
    rw [name]
    intro inside
    simp [refuses, inside] at accepted
  · intro custom a s plain _
    exact plain

theorem opens_filename {a : Registry.Action X} {o : Opening} (opened : reg.opens a = some o) :
    ∃ custom ∈ reg.customRecorders, o.filename = custom.filename := by
  cases a with
  | request r host => cases opened
  | thread i a =>
    simp only [Registry.opens, Option.bind_eq_some_iff, Option.map_eq_some_iff] at opened
    obtain ⟨custom, found, path, -, rfl⟩ := opened
    exact ⟨custom, List.mem_of_getElem? found, rfl⟩

theorem built_confined {o : Opening} (stamps : ∀ t, '/' ∉ (fileTimestamp t).toList)
    (built : o.Built fileTimestamp) (plain : slash ∉ o.filename) : Confined o.path := by
  have underscore : '/' ∉ "_".toList := by decide
  rw [built, confined_iff, Opening.name]
  split <;> simp [mem_text, plain, stamps]

/-- The handler refuses every name with a slash, so the recorders of clients stay in /tmp. -/
theorem openings_confined {as : List (Registry.Action X)}
    (stamps : ∀ t, '/' ∉ (fileTimestamp t).toList)
    (named : ∀ custom ∈ reg.customRecorders, custom.Named fileTimestamp)
    (plain : ∀ custom ∈ reg.customRecorders, slash ∉ custom.filename) :
    ∀ o ∈ openings fileTimestamp reg as, Confined o.path := by
  induction as generalizing reg with
  | nil => simp [openings]
  | cons a as ih =>
    intro o inside
    unfold openings at inside
    split at inside
    · cases inside
    · rename_i next stepped
      have move := Registry.step_move stepped
      rcases List.mem_append.mp inside with now | later
      · have opened : reg.opens a = some o := by simpa using now
        obtain ⟨custom, known, same⟩ := opens_filename opened
        exact built_confined stamps (opens_built named move opened) (same ▸ plain custom known)
      · exact ih (named_step named move) (slash_step plain move) o later

theorem registry_confined (fileTimestamp : Int → String) (as : List (Registry.Action X))
    (stamps : ∀ t, '/' ∉ (fileTimestamp t).toList) :
    ∀ o ∈ openings fileTimestamp (Registry.initial : Registry X) as, Confined o.path :=
  openings_confined stamps (named_initial fileTimestamp) (by simp [Registry.initial])

end TestRunner.Server
