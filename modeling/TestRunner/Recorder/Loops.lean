import TestRunner.Recorder.Lifecycle
import TestRunner.Recorder.Selection

/-! The recorder with its loops: five of its steps go over devices or records, and here the other
threads go on between two iterations. Two of the loops, those over `m_device_mask`, are under no lock;
as long as these do not meet, the loops can be taken as single steps. -/
namespace TestRunner.Recorder

variable {X : Type}

/-- The two loops of `processBuffer()` that take records from the front of the buffer. -/
inductive Trim where
  | periodic (now : Int)
  | final (v : Int)
  deriving DecidableEq, Repr

namespace Trim

def pc : Trim → BufferPc
  | .periodic now => .trim now
  | .final v => .finalTrim v

/-- Where the thread is after the loop. -/
def next : Trim → BufferPc
  | .periodic _ => .loop
  | .final v => .openFile v

def entry : Trim → Entry
  | .periodic now => .trimmed now
  | .final v => .finalTrimmed v

/-- The condition of the loop. -/
def test (cfg : Config X) : Trim → List InputRecord → Bool
  | .periodic now, buf => buf.head?.any fun r => r.tsAbs < now - cfg.length ∨ buf.length > fileMaxLines
  | .final v, buf => buf.head?.any fun r => r.tsAbs < v - cfg.length

/-- What the whole loop leaves. -/
def cut (cfg : Config X) : Trim → List InputRecord → List InputRecord
  | .periodic now => periodicTrim (now - cfg.length)
  | .final v => finalTrim (v - cfg.length)

theorem cut_eq (cfg : Config X) (trim : Trim) (buf : List InputRecord) :
    trim.cut cfg buf = if trim.test cfg buf then trim.cut cfg buf.tail else buf := by
  cases buf with
  | nil => cases trim <;> rfl
  | cons r buf => cases trim <;> simp [cut, test, periodicTrim, finalTrim]

end Trim

/-- Where `processBuffer()` is in a loop, with `buf_mtx` held. -/
inductive BufferLoop where
  | cut (trim : Trim)
  -- the records that the dump has not come to
  | print (records : List InputRecord)
  deriving DecidableEq, Repr

/-- The statement whose loop it is. -/
def BufferLoop.belongs : BufferLoop → BufferPc → Prop
  | .cut trim, pc => pc = trim.pc
  | .print _, pc => ∃ v v', pc = .write v v'

theorem BufferLoop.belongs_ne {loop : BufferLoop} {pc : BufferPc} (h : loop.belongs pc) :
    pc ≠ .finished ∧ pc ≠ .absent := by
  cases loop with
  | cut trim => cases trim <;> simp [belongs, Trim.pc] at h <;> simp [h]
  | print records =>
    obtain ⟨v, v', rfl⟩ := h
    simp

/-- A recorder whose threads are in these loops. -/
structure Loops (X : Type) where
  recorder : State X
  /- `setDevicesToRecord()`: what is listed, and the devices it has not come to -/
  selecting : Option (List InDevice × List (InDevice × Nat))
  /- `Record()` at the mask: what it has found, and the devices it has not come to -/
  decoding : Option (List InDevice × List (InDevice × Nat))
  buffering : Option BufferLoop

/-- One iteration of `setDevicesToRecord()`. -/
def selectBit (devices : List InDevice) (mask : UInt64) (d : InDevice × Nat) : UInt64 :=
  if devices.any (fun device => d.1.fd = device.fd) then mask ||| (1 <<< UInt64.ofNat d.2) else mask

/-- The test of one iteration of `Record()`. -/
def decodeBit (mask : UInt64) (d : InDevice × Nat) : Bool := mask &&& (1 <<< UInt64.ofNat d.2) != 0

/-- `Record()` at its loop, with the file of a fixed-length recording and its header. -/
def State.prepared (cfg : Config X) (found : List InDevice) (s : State X) : State X :=
  { s with
    devicesToRecord := found
    timeoutUsec := 10 * 1000
    cmdFile := if cfg.mContinuous then s.cmdFile else
      Function.update s.cmdFile cfg.mFilename (some (recording s.mStartTime []))
    record := .loop }

namespace Loops

/-- The first statements of the loops and their iterations, of which the last finds the loop at its
end. -/
inductive Action where
  | select (devices : List InDevice)
  | selectNext
  | decode
  | decodeNext
  -- of `processBuffer()`, with `buf_mtx`
  | enter (a : BufferAction)
  | bufferNext
  | other (a : Recorder.Action)
  deriving DecidableEq

def initial (cfg : Config X) (xkb : Option X) (now : Nat) : Loops X :=
  ⟨Recorder.initial cfg xkb now, none, none, none⟩

/-- The other statements, but for those that a loop of their own thread or its lock holds back. -/
def allows (t : Loops X) : Recorder.Action → Bool
  | .caller (.setDevicesToRecord _) | .record .setup | .buffer .trim | .buffer .finalTrim
  | .buffer .write => false
  | .caller _ => t.selecting.isNone
  | .record .store => t.buffering.isNone
  | _ => true

def beginSelect (cfg : Config X) (t : Loops X) (devices : List InDevice) : Loops X :=
  { t with recorder := { t.recorder with mDeviceMask := 0 }
           selecting := some (devices, cfg.availableDevices.zipIdx) }

def selectNext (t : Loops X) : Option (Loops X) :=
  match t.selecting with
  | none => none
  | some (_, []) => some { t with selecting := none }
  | some (devices, d :: left) =>
    let mask := selectBit devices t.recorder.mDeviceMask d
    some { t with recorder := { t.recorder with mDeviceMask := mask }
                  selecting := some (devices, left) }

/-- `Record()` before its loop, with the thread of `processBuffer()`. -/
def beginDecode (cfg : Config X) (t : Loops X) : Loops X :=
  let buffer := if cfg.mContinuous then .loop else t.recorder.buffer
  { t with recorder := { t.recorder with buffer := buffer }
           decoding := some ([], cfg.availableDevices.zipIdx) }

def decodeNext (cfg : Config X) (t : Loops X) : Option (Loops X) :=
  match t.decoding with
  | none => none
  | some (found, []) => some { t with recorder := t.recorder.prepared cfg found, decoding := none }
  | some (found, d :: left) =>
    let next := if decodeBit t.recorder.mDeviceMask d then found ++ [d.1] else found
    some { t with decoding := some (next, left) }

def bufferNext (cfg : Config X) (t : Loops X) : Option (Loops X) :=
  match t.buffering with
  | none => none
  | some (.cut trim) =>
    if trim.test cfg t.recorder.mInputBuf then
      some { t with recorder := { t.recorder with mInputBuf := t.recorder.mInputBuf.tail } }
    else some { t with recorder := { t.recorder with buffer := trim.next }, buffering := none }
  | some (.print (r :: records)) =>
    let file := appendLine t.recorder.cmdFile t.recorder.mRecordingPath (.passThrough r)
    some { t with recorder := { t.recorder with cmdFile := file }, buffering := some (.print records) }
  | some (.print []) =>
    some { t with recorder := { t.recorder with buffer := .finished }, buffering := none }

def enterTrim (t : Loops X) (trim : Trim) : Loops X :=
  { t with recorder := t.recorder.note trim.entry, buffering := some (.cut trim) }

def enter (cfg : Config X) (t : Loops X) (a : BufferAction) : Option (Loops X) :=
  match t.recorder.buffer, a with
  | .trim now, .trim => some (t.enterTrim (.periodic now))
  | .finalTrim v, .finalTrim => some (t.enterTrim (.final v))
  | .write v v', .write =>
    let header := recording (headerStart cfg t.recorder.mStartTime v v') []
    let file := Function.update t.recorder.cmdFile t.recorder.mRecordingPath (some header)
    some { t with recorder := { t.recorder with cmdFile := file }
                  buffering := some (.print t.recorder.mInputBuf) }
  | _, _ => none

def step (cfg : Config X) (t : Loops X) (a : Action) : Option (Loops X) :=
  if t.recorder.fault.isSome then none else
  match a with
  | .select devices =>
    if t.recorder.caller = .idle ∧ t.selecting.isNone then some (t.beginSelect cfg devices) else none
  | .selectNext => t.selectNext
  | .decode =>
    if t.recorder.record = .setup ∧ t.decoding.isNone then some (t.beginDecode cfg) else none
  | .decodeNext => t.decodeNext cfg
  | .enter a => if t.buffering.isNone then t.enter cfg a else none
  | .bufferNext => t.bufferNext cfg
  | .other a =>
    if t.allows a then
      (Recorder.step cfg t.recorder a).map fun s => { t with recorder := s }
    else none

/-- The statement that a step counts as: the first of a loop counts as the whole. -/
def Action.merged : Action → Option Recorder.Action
  | .select devices => some (.caller (.setDevicesToRecord devices))
  | .decode => some (.record .setup)
  | .enter a => some (.buffer a)
  | .selectNext | .decodeNext | .bufferNext => none
  | .other a => some a

/-- `setDevicesToRecord()` and `Record()` do not begin their loops over the mask inside the other's. -/
def Apart (t : Loops X) : Action → Prop
  | .select _ => t.decoding = none
  | .decode => t.selecting = none
  | _ => True

/-! The recorder with the loops that its threads are in gone through. -/

def selected : Option (List InDevice × List (InDevice × Nat)) → State X → State X
  | none, s => s
  | some (devices, left), s => { s with mDeviceMask := left.foldl (selectBit devices) s.mDeviceMask }

def decoded (cfg : Config X) : Option (List InDevice × List (InDevice × Nat)) → State X → State X
  | none, s => s
  | some (found, left), s =>
    s.prepared cfg (found ++ (left.filter (decodeBit s.mDeviceMask)).map Prod.fst)

def buffered (cfg : Config X) : Option BufferLoop → State X → State X
  | none, s => s
  | some (.cut trim), s =>
    { s with mInputBuf := trim.cut cfg s.mInputBuf, buffer := trim.next }
  | some (.print records), s =>
    let file := (s.cmdFile s.mRecordingPath).map (· ++ records.map .passThrough)
    { s with cmdFile := Function.update s.cmdFile s.mRecordingPath file, buffer := .finished }

def merged (cfg : Config X) (t : Loops X) : State X :=
  buffered cfg t.buffering (decoded cfg t.decoding (selected t.selecting t.recorder))

variable {cfg : Config X} {s s' : State X} {t t' : Loops X} {a : Recorder.Action}

/-- A thread reads the mask in its set-up only. -/
theorem selected_move (selecting : Option (List InDevice × List (InDevice × Nat)))
    (move : Move cfg s a s') (thread : ∀ c, a ≠ .caller c) (other : a ≠ .record .setup) :
    Move cfg (selected selecting s) a (selected selecting s') := by
  cases selecting with
  | none => exact move
  | some p =>
    cases move with
    | caller m => exact absurd rfl (thread _)
    | record m =>
      cases m with
      | setupContinuous | setupFixed => exact absurd rfl other
      | _ => exact .record (by constructor <;> assumption)
    | buffer m => cases m <;> exact .buffer (by constructor <;> assumption)
    | tick n => exact .tick n

/-- The set-up of `Record()` changes nothing that the other threads go by. -/
theorem decoded_move (decoding : Option (List InDevice × List (InDevice × Nat)))
    (move : Move cfg s a s') (pc : decoding ≠ none → s.record = .setup)
    (joinable : decoding ≠ none → s.mRecorderThread = true)
    (buffered : s.buffer ≠ .absent → cfg.mContinuous = true) (thread : ∀ r, a ≠ .record r)
    (other : ∀ devices, a ≠ .caller (.setDevicesToRecord devices)) :
    Move cfg (decoded cfg decoding s) a (decoded cfg decoding s') ∧
      (decoding ≠ none → s'.record = .setup) := by
  cases decoding with
  | none => exact ⟨move, fun some => absurd rfl some⟩
  | some p =>
    have here := pc (Option.some_ne_none p)
    have held := joinable (Option.some_ne_none p)
    have free (found : List InDevice) :
        (s.prepared cfg found).stopMtxFree = s.stopMtxFree := by
      simp [State.stopMtxFree, State.prepared, here]
    cases move with
    | caller m =>
      cases m with
      | setDevices devices => exact absurd rfl (other devices)
      | spawn pc unheld => simp [held] at unheld
      | joinThrows pc unheld => simp [held] at unheld
      | stopJoin pc joinable ended => simp [here] at ended
      | destroyJoin pc ended => simp [here] at ended
      | _ =>
        refine ⟨.caller ?_, fun _ => here⟩
        constructor <;> first | assumption | simpa only [decoded, free]
    | record m => exact absurd rfl (thread _)
    | buffer m =>
      have mode : cfg.mContinuous = true := buffered (by cases m <;> simp [*])
      have plain (found : List InDevice) (s : State X) : s.prepared cfg found =
          { s with devicesToRecord := found, timeoutUsec := 10 * 1000, record := .loop } := by
        simp [State.prepared, mode]
      refine ⟨.buffer ?_, fun _ => by cases m <;> exact here⟩
      simp only [decoded, plain] at free ⊢
      cases m with
      | wake pc unlocked => exact .wake pc ((free _).trans unlocked)
      | _ => constructor <;> assumption
    | tick n => exact ⟨.tick n, fun _ => here⟩

/-- What a loop of `processBuffer()` goes over is under its lock. -/
theorem buffered_move (buffering : Option BufferLoop) (move : Move cfg s a s')
    (place : ∀ loop ∈ buffering, loop.belongs s.buffer) (thread : ∀ b, a ≠ .buffer b)
    (setup : a ≠ .record .setup) (store : a = .record .store → buffering = none) :
    Move cfg (buffered cfg buffering s) a (buffered cfg buffering s') ∧
      ∀ loop ∈ buffering, loop.belongs s'.buffer := by
  cases buffering with
  | none => exact ⟨move, by simp⟩
  | some loop =>
    have here := place loop rfl
    suffices both : Move cfg (buffered cfg (some loop) s) a (buffered cfg (some loop) s') ∧
        s'.buffer = s.buffer by
      refine ⟨both.1, fun other inside => ?_⟩
      cases Option.some.inj inside
      exact both.2 ▸ here
    cases move with
    | caller m =>
      refine ⟨?_, by cases m <;> rfl⟩
      cases loop <;> cases m <;> exact .caller (by constructor <;> assumption)
    | record m =>
      cases m with
      | setupContinuous | setupFixed => exact absurd rfl setup
      | push | append => exact absurd (store rfl) (Option.some_ne_none loop)
      | joinBuffer pc ended => exact absurd ended (BufferLoop.belongs_ne here).1
      | _ =>
        refine ⟨?_, rfl⟩
        cases loop <;> exact .record (by constructor <;> assumption)
    | buffer m => exact absurd rfl (thread _)
    | tick n =>
      refine ⟨?_, rfl⟩
      cases loop <;> exact .tick n

theorem merged_kept (cfg : Config X) (t : Loops X) :
    (t.merged cfg).fault = t.recorder.fault ∧ (t.merged cfg).caller = t.recorder.caller ∧
      (t.merged cfg).mRecorderThread = t.recorder.mRecorderThread := by
  obtain ⟨s, selecting, decoding, buffering⟩ := t
  cases selecting <;> cases decoding <;> rcases buffering with _ | (_ | _) <;>
    exact ⟨rfl, rfl, rfl⟩

/-- Where the threads are when they are in a loop. -/
structure Kept (cfg : Config X) (t : Loops X) : Prop where
  base : Base cfg (t.merged cfg)
  selecting : t.selecting ≠ none → t.recorder.caller = .idle ∧ t.decoding = none
  decoding : t.decoding ≠ none → t.recorder.record = .setup
  buffering : ∀ loop ∈ t.buffering, loop.belongs t.recorder.buffer

theorem Kept.joinable (h : Kept cfg t) (decoding : t.decoding ≠ none) :
    t.recorder.mRecorderThread = true := by
  obtain ⟨-, -, same⟩ := merged_kept cfg t
  rw [← same, h.base.joinable]
  obtain ⟨p, here⟩ := Option.ne_none_iff_exists'.mp decoding
  rcases buffering : t.buffering with _ | (_ | _) <;>
    simp [merged, here, buffering, decoded, buffered, State.prepared]

theorem Kept.continuous (h : Kept cfg t) (some : t.recorder.buffer ≠ .absent) :
    cfg.mContinuous = true := by
  refine (h.base.buffered ?_).1
  have same : ∀ decoding s, (decoded cfg decoding (selected t.selecting s)).buffer = s.buffer := by
    intro decoding s
    cases t.selecting <;> cases decoding <;> rfl
  rcases buffering : t.buffering with _ | ((_ | _) | _) <;>
    simp [merged, buffering, buffered, same, some, Trim.next]

@[simp] theorem selected_members (selecting : Option (List InDevice × List (InDevice × Nat)))
    (s : State X) : (selected selecting s).record = s.record ∧ (selected selecting s).buffer = s.buffer ∧
      (selected selecting s).mRecorderThread = s.mRecorderThread := by
  cases selecting <;> exact ⟨rfl, rfl, rfl⟩

@[simp] theorem decoded_buffer (decoding : Option (List InDevice × List (InDevice × Nat))) (s : State X) :
    (decoded cfg decoding s).buffer = s.buffer := by
  cases decoding <;> rfl

/-- `Record()` takes no other statement inside its loop over the mask. -/
theorem Kept.undecoded (h : Kept cfg t) {r : RecordAction} (allowed : t.allows (.record r) = true)
    (move : Move cfg t.recorder (.record r) s) : t.decoding = none := by
  by_contra some
  have pc := h.decoding some
  cases move with
  | record m => cases m <;> simp_all [allows]

/-- `processBuffer()` takes no other statement inside a loop of its own. -/
theorem Kept.unbuffered (h : Kept cfg t) {b : BufferAction} (allowed : t.allows (.buffer b) = true)
    (move : Move cfg t.recorder (.buffer b) s) : t.buffering = none := by
  by_contra some
  obtain ⟨loop, here⟩ := Option.ne_none_iff_exists'.mp some
  have pc := h.buffering loop here
  cases move with
  | buffer m => cases m <;> rcases loop with (_ | _) | _ <;>
      simp_all [allows, BufferLoop.belongs, Trim.pc]

/-- A statement of no loop, with the loops of the other threads gone through. -/
theorem other_move (h : Kept cfg t) (allowed : t.allows a = true) (move : Move cfg t.recorder a s) :
    Move cfg (t.merged cfg) a (merged cfg { t with recorder := s }) ∧
      (t.selecting ≠ none → s.caller = .idle) ∧ (t.decoding ≠ none → s.record = .setup) ∧
      ∀ loop ∈ t.buffering, loop.belongs s.buffer := by
  have place (decoding : Option (List InDevice × List (InDevice × Nat))) :
      ∀ loop ∈ t.buffering, loop.belongs (decoded cfg decoding t.recorder).buffer := by
    simpa using h.buffering
  cases a with
  | caller c =>
    obtain ⟨unselected, other⟩ : t.selecting = none ∧ ∀ devices, c ≠ .setDevicesToRecord devices := by
      cases c <;> simp_all [allows]
    obtain ⟨inner, pc⟩ := decoded_move t.decoding move h.decoding h.joinable h.continuous (by simp)
      (by simpa using other)
    obtain ⟨outer, loops⟩ := buffered_move t.buffering inner (place _) (by simp) (by simp) (by simp)
    refine ⟨?_, fun some => absurd unselected some, pc, by simpa using loops⟩
    simpa only [merged, unselected, selected] using outer
  | record r =>
    have undecoded := h.undecoded allowed move
    have setup : Recorder.Action.record r ≠ .record .setup := by
      rintro ⟨⟩
      cases allowed
    have inner := selected_move t.selecting move (by simp) setup
    obtain ⟨outer, loops⟩ := buffered_move t.buffering inner (by simpa using h.buffering) (by simp)
      setup (by rintro ⟨⟩; simpa [allows] using allowed)
    refine ⟨?_, fun some => (caller_thread move (by simp)).trans (h.selecting some).1,
      fun some => absurd undecoded some, by simpa using loops⟩
    simpa only [merged, undecoded, decoded] using outer
  | buffer b =>
    have unbuffered := h.unbuffered allowed move
    have inner := selected_move t.selecting move (by simp) (by simp)
    obtain ⟨outer, pc⟩ := decoded_move t.decoding inner (by simpa using h.decoding)
      (by simpa using h.joinable) (by simpa using h.continuous) (by simp) (by simp)
    refine ⟨?_, fun some => (caller_thread move (by simp)).trans (h.selecting some).1,
      by simpa using pc, by simp [unbuffered]⟩
    simpa only [merged, unbuffered, buffered] using outer
  | tick n =>
    have inner := selected_move t.selecting move (by simp) (by simp)
    obtain ⟨middle, pc⟩ := decoded_move t.decoding inner (by simpa using h.decoding)
      (by simpa using h.joinable) (by simpa using h.continuous) (by simp) (by simp)
    obtain ⟨outer, loops⟩ := buffered_move t.buffering middle (by simpa using h.buffering) (by simp)
      (by simp) (by simp)
    exact ⟨outer, fun some => (caller_thread move (by simp)).trans (h.selecting some).1,
      by simpa using pc, by simpa using loops⟩

theorem selectNext_kept (h : Kept cfg t) (next : t.selectNext = some t') :
    Kept cfg t' ∧ t'.merged cfg = t.merged cfg := by
  obtain ⟨s, selecting, decoding, buffering⟩ := t
  obtain ⟨base, place, pc, loops⟩ := h
  rcases selecting with _ | ⟨devices, _ | ⟨d, left⟩⟩
  · cases next
  · cases Option.some.inj next
    exact ⟨⟨base, fun some => absurd rfl some, pc, loops⟩, rfl⟩
  · cases Option.some.inj next
    exact ⟨⟨base, fun _ => place (Option.some_ne_none _), pc, loops⟩, rfl⟩

theorem decodeNext_kept (h : Kept cfg t) (next : t.decodeNext cfg = some t') :
    Kept cfg t' ∧ t'.merged cfg = t.merged cfg := by
  obtain ⟨s, selecting, decoding, buffering⟩ := t
  obtain ⟨base, place, pc, loops⟩ := h
  rcases decoding with _ | ⟨found, left⟩
  · cases next
  have unselected : selecting = none := by
    by_contra some
    exact absurd (place some).2 (Option.some_ne_none _)
  subst unselected
  cases left with
  | nil =>
    cases Option.some.inj next
    have same : merged cfg ⟨s.prepared cfg found, none, none, buffering⟩ =
        merged cfg ⟨s, none, some (found, []), buffering⟩ := by
      simp [merged, selected, decoded]
    exact ⟨⟨same ▸ base, fun some => absurd rfl some, fun some => absurd rfl some, loops⟩, same⟩
  | cons d left =>
    cases Option.some.inj next
    have same : merged cfg ⟨s, none,
          some (if decodeBit s.mDeviceMask d then found ++ [d.1] else found, left), buffering⟩ =
        merged cfg ⟨s, none, some (found, d :: left), buffering⟩ := by
      by_cases bit : decodeBit s.mDeviceMask d = true <;> simp [merged, selected, decoded, bit]
    exact ⟨⟨same ▸ base, fun some => absurd rfl some, fun _ => pc (Option.some_ne_none _), loops⟩, same⟩

/-- A thread of `processBuffer()` has gone on in its loop. -/
theorem Kept.later (h : Kept cfg t) (same : t'.merged cfg = t.merged cfg)
    (selecting : t'.selecting = t.selecting) (decoding : t'.decoding = t.decoding)
    (caller : t'.recorder.caller = t.recorder.caller) (record : t'.recorder.record = t.recorder.record)
    (loops : ∀ loop ∈ t'.buffering, loop.belongs t'.recorder.buffer) :
    Kept cfg t' ∧ t'.merged cfg = t.merged cfg := by
  refine ⟨⟨same ▸ h.base, ?_, ?_, loops⟩, same⟩
  · rw [selecting, decoding, caller]
    exact h.selecting
  · rw [decoding, record]
    exact h.decoding

theorem bufferNext_kept (h : Kept cfg t) (next : t.bufferNext cfg = some t') :
    Kept cfg t' ∧ t'.merged cfg = t.merged cfg := by
  obtain ⟨s, selecting, decoding, buffering⟩ := t
  rcases buffering with _ | trim | records
  · cases next
  · have here := h.buffering _ rfl
    have cut := trim.cut_eq cfg s.mInputBuf
    simp only [bufferNext] at next
    split at next
    · rename_i test
      cases Option.some.inj next
      refine h.later ?_ rfl rfl rfl rfl (by simpa using here)
      rw [if_pos test] at cut
      cases selecting <;> cases decoding <;>
        simp [merged, selected, decoded, buffered, State.prepared, cut]
    · rename_i test
      cases Option.some.inj next
      refine h.later ?_ rfl rfl rfl rfl (by simp)
      rw [if_neg test] at cut
      cases selecting <;> cases decoding <;>
        simp [merged, selected, decoded, buffered, State.prepared, cut]
  · have here := h.buffering _ rfl
    have mode := h.continuous (BufferLoop.belongs_ne here).2
    cases records with
    | nil =>
      cases Option.some.inj next
      refine h.later ?_ rfl rfl rfl rfl (by simp)
      cases selecting <;> cases decoding <;>
        simp [merged, selected, decoded, buffered, State.prepared, mode]
    | cons r records =>
      cases Option.some.inj next
      obtain ⟨v, v', pc⟩ := here
      refine h.later ?_ rfl rfl rfl rfl (by simpa [BufferLoop.belongs] using ⟨v, v', pc⟩)
      cases selecting <;> cases decoding <;>
        simp [merged, selected, decoded, buffered, State.prepared, mode, appendLine,
          Function.comp_def]

/-- A step that counts as a statement of the recorder. -/
theorem Kept.counts (h : Kept cfg t) (fault : t.recorder.fault = none)
    (move : Move cfg (t.merged cfg) a (t'.merged cfg))
    (selecting : t'.selecting ≠ none → t'.recorder.caller = .idle ∧ t'.decoding = none)
    (decoding : t'.decoding ≠ none → t'.recorder.record = .setup)
    (buffering : ∀ loop ∈ t'.buffering, loop.belongs t'.recorder.buffer) :
    Kept cfg t' ∧ Recorder.step cfg (t.merged cfg) a = some (t'.merged cfg) := by
  obtain ⟨same, -, -⟩ := merged_kept cfg t
  exact ⟨⟨base_step h.base move, selecting, decoding, buffering⟩, move_step (same.trans fault) move⟩

theorem select_kept (h : Kept cfg t) {devices : List InDevice} (fault : t.recorder.fault = none)
    (idle : t.recorder.caller = .idle) (fresh : t.selecting = none) (apart : t.decoding = none) :
    Kept cfg (t.beginSelect cfg devices) ∧
      Recorder.step cfg (t.merged cfg) (.caller (.setDevicesToRecord devices)) =
        some ((t.beginSelect cfg devices).merged cfg) := by
  obtain ⟨s, selecting, decoding, buffering⟩ := t
  cases fresh
  cases apart
  refine h.counts fault ?_ (fun _ => ⟨idle, rfl⟩) (fun some => absurd rfl some) h.buffering
  rcases buffering with _ | trim | records <;> exact .caller (.setDevices devices idle)

/-- Before `Record()` is at its loops there is no thread of `processBuffer()`. -/
theorem Kept.unstarted (h : Kept cfg t) (pc : t.recorder.record = .setup) (fresh : t.decoding = none) :
    t.buffering = none := by
  by_contra some
  obtain ⟨loop, inside⟩ := Option.ne_none_iff_exists'.mp some
  have absent : (t.merged cfg).buffer = .absent := by
    refine h.base.buffer_absent ?_
    rcases t with ⟨s, _ | _, _, _ | (_ | _)⟩ <;> cases fresh <;>
      simp_all [merged, selected, decoded, buffered]
  rcases loop with (_ | _) | _ <;> simp [merged, inside, buffered, Trim.next] at absent

theorem decode_kept (h : Kept cfg t) (fault : t.recorder.fault = none)
    (pc : t.recorder.record = .setup) (fresh : t.decoding = none) (apart : t.selecting = none) :
    Kept cfg (t.beginDecode cfg) ∧ Recorder.step cfg (t.merged cfg) (.record .setup) =
      some ((t.beginDecode cfg).merged cfg) := by
  obtain ⟨s, selecting, decoding, buffering⟩ := t
  cases fresh
  cases apart
  have unbuffered : buffering = none := h.unstarted pc rfl
  cases unbuffered
  refine h.counts fault ?_ (fun some => absurd rfl some) (fun _ => pc) (by simp [beginDecode])
  have all : (cfg.availableDevices.zipIdx.filter (decodeBit s.mDeviceMask)).map Prod.fst =
      monitored cfg.availableDevices s.mDeviceMask := rfl
  cases mode : cfg.mContinuous with
  | true =>
    have large : Move cfg s (.record .setup) _ := .record (.setupContinuous pc mode)
    simpa [beginDecode, merged, selected, decoded, buffered, State.prepared, mode, all] using large
  | false =>
    have large : Move cfg s (.record .setup) _ := .record (.setupFixed pc mode)
    simpa [beginDecode, merged, selected, decoded, buffered, State.prepared, mode, all] using large

theorem enter_kept (h : Kept cfg t) (fault : t.recorder.fault = none) {b : BufferAction}
    (fresh : t.buffering = none) (next : t.enter cfg b = some t') :
    Kept cfg t' ∧ Recorder.step cfg (t.merged cfg) (.buffer b) = some (t'.merged cfg) := by
  obtain ⟨s, selecting, decoding, buffering⟩ := t
  cases fresh
  unfold enter at next
  split at next
  · rename_i now pc
    cases Option.some.inj next
    refine h.counts fault (.buffer ?_) h.selecting h.decoding (by rintro loop ⟨⟩; exact pc)
    cases selecting <;> cases decoding <;> exact .trim now pc
  · rename_i v pc
    cases Option.some.inj next
    refine h.counts fault (.buffer ?_) h.selecting h.decoding (by rintro loop ⟨⟩; exact pc)
    cases selecting <;> cases decoding <;> exact .finalTrim v pc
  · rename_i v v' pc
    cases Option.some.inj next
    refine h.counts fault (.buffer ?_) h.selecting h.decoding
      (by rintro loop ⟨⟩; exact ⟨v, v', pc⟩)
    have here : s.buffer = .write v v' := pc
    have mode := h.continuous (by simp [here])
    have large : BufferMove cfg (merged cfg ⟨s, selecting, decoding, none⟩) .write _ :=
      .write v v' (by simp [merged, buffered, here])
    have lines (start : Int) : recording start [] ++ s.mInputBuf.map .passThrough =
        recording start s.mInputBuf := rfl
    cases selecting <;> cases decoding <;>
      simpa [merged, selected, decoded, buffered, State.prepared, mode, lines] using large
  · cases next

theorem kept_initial (xkb : Option X) (now : Nat) : Kept cfg (initial cfg xkb now) where
  base := base_initial xkb now
  selecting some := absurd rfl some
  decoding some := absurd rfl some
  buffering := by simp [initial]

theorem other_kept (h : Kept cfg t) (fault : t.recorder.fault = none) (allowed : t.allows a = true)
    (move : Move cfg t.recorder a s) :
    Kept cfg { t with recorder := s } ∧
      Recorder.step cfg (t.merged cfg) a = some (merged cfg { t with recorder := s }) := by
  obtain ⟨large, selecting, decoding, buffering⟩ := other_move h allowed move
  exact h.counts fault large (fun some => ⟨selecting some, (h.selecting some).2⟩) decoding buffering

theorem step_fault {b : Action} (stepped : step cfg t b = some t') : t.recorder.fault = none := by
  by_contra faulty
  have some : t.recorder.fault.isSome := Option.isSome_iff_ne_none.mpr faulty
  simp [step, some] at stepped

/-- What lets a first statement, or one of no loop, be taken, and what it leaves. -/
theorem step_counts {b : Action} (stepped : step cfg t b = some t') (counts : b.merged = some a) :
    (∃ devices, b = .select devices ∧ a = .caller (.setDevicesToRecord devices) ∧
      t.recorder.caller = .idle ∧ t.selecting = none ∧ t' = t.beginSelect cfg devices) ∨
    (b = .decode ∧ a = .record .setup ∧
      t.recorder.record = .setup ∧ t.decoding = none ∧ t' = t.beginDecode cfg) ∨
    (∃ c, b = .enter c ∧ a = .buffer c ∧ t.buffering = none ∧ t.enter cfg c = some t') ∨
    (b = .other a ∧ t.allows a = true ∧
      ∃ s, Recorder.step cfg t.recorder a = some s ∧ t' = { t with recorder := s }) := by
  have fault := step_fault stepped
  have healthy : ¬ t.recorder.fault.isSome = true := by simp [fault]
  unfold step at stepped
  rw [if_neg healthy] at stepped
  cases b with
  | select devices =>
    obtain ⟨⟨idle, fresh⟩, same⟩ := Option.ite_none_right_eq_some.mp stepped
    exact .inl ⟨devices, rfl, (Option.some.inj counts).symm, idle, Option.isNone_iff_eq_none.mp fresh,
      (Option.some.inj same).symm⟩
  | decode =>
    obtain ⟨⟨pc, fresh⟩, same⟩ := Option.ite_none_right_eq_some.mp stepped
    exact .inr (.inl ⟨rfl, (Option.some.inj counts).symm, pc, Option.isNone_iff_eq_none.mp fresh,
      (Option.some.inj same).symm⟩)
  | enter c =>
    obtain ⟨fresh, next⟩ := Option.ite_none_right_eq_some.mp stepped
    exact .inr (.inr (.inl ⟨c, rfl, (Option.some.inj counts).symm, Option.isNone_iff_eq_none.mp fresh,
      next⟩))
  | other c =>
    cases Option.some.inj counts
    obtain ⟨allowed, next⟩ := Option.ite_none_right_eq_some.mp stepped
    obtain ⟨s, large, same⟩ := Option.map_eq_some_iff.mp next
    exact .inr (.inr (.inr ⟨rfl, allowed, s, large, same.symm⟩))
  | selectNext | decodeNext | bufferNext => cases counts

/-- An iteration, or the end, of a loop changes nothing once the loop is gone through. -/
theorem iteration_kept {b : Action} (h : Kept cfg t) (stepped : step cfg t b = some t')
    (inside : b.merged = none) : Kept cfg t' ∧ t'.merged cfg = t.merged cfg := by
  have fault := step_fault stepped
  cases b with
  | selectNext => exact selectNext_kept h (by simpa [step, fault] using stepped)
  | decodeNext => exact decodeNext_kept h (by simpa [step, fault] using stepped)
  | bufferNext => exact bufferNext_kept h (by simpa [step, fault] using stepped)
  | select | decode | enter | other => cases inside

/-- The other steps are those of the recorder with the loops gone through. -/
theorem statement_kept {b : Action} (h : Kept cfg t) (apart : Apart t b)
    (stepped : step cfg t b = some t') (counts : b.merged = some a) :
    Kept cfg t' ∧ Recorder.step cfg (t.merged cfg) a = some (t'.merged cfg) := by
  have fault := step_fault stepped
  rcases step_counts stepped counts with ⟨devices, rfl, rfl, idle, fresh, rfl⟩ |
    ⟨rfl, rfl, pc, fresh, rfl⟩ | ⟨c, rfl, rfl, fresh, next⟩ | ⟨rfl, allowed, s, large, rfl⟩
  · exact select_kept h fault idle fresh apart
  · exact decode_kept h fault pc fresh apart
  · exact enter_kept h fault fresh next
  · exact other_kept h fault allowed (step_move large).2

/-- A run in which the loops over the mask stay apart is a run with each loop as one step, which is
taken where the loop begins. -/
theorem loops_merge (cfg : Config X) (xkb : Option X) (now : Nat) (as : List Action) (t : Loops X)
    (reached : run (step cfg) (initial cfg xkb now) as = some t)
    (apart : Along (step cfg) Apart (initial cfg xkb now) as) :
    run (Recorder.step cfg) (Recorder.initial cfg xkb now) (as.filterMap Action.merged) =
      some (t.merged cfg) := by
  refine (run_refine (merged cfg) reached apart (kept_initial xkb now) ?_ ?_).2
  · rintro t b t' kept - stepped inside
    exact iteration_kept kept stepped inside
  · rintro t b t' a kept apart stepped counts
    exact statement_kept kept apart stepped counts

instance (t : Loops X) : (a : Action) → Decidable (Apart t a)
  | .select _ => inferInstanceAs (Decidable (t.decoding = none))
  | .decode => inferInstanceAs (Decidable (t.selecting = none))
  | .selectNext | .decodeNext | .enter _ | .bufferNext | .other _ => isTrue trivial

/-- A key at 1000, and a stop at 31000 whose dump has written the key's line and has yet to find the
end of the buffer. -/
def unrolledDump : List Action :=
  List.flatten [[.caller .start, .caller .spawn, .record .clear, .record .stamp].map .other,
    [.decode, .decodeNext, .other (.buffer .load), .decodeNext, .other (.record .load),
     .other (.tick 1000)],
    (deliver ⟨evKey, 30, 1⟩).map .other,
    [.other (.tick 31000), .other (.caller .stopFlag), .other (.caller .stopTime),
     .other (.buffer .wake), .other (.buffer .now), .enter .trim, .bufferNext, .other (.buffer .load),
     .other (.buffer .readStop), .enter .finalTrim, .bufferNext, .other (.buffer .openFile),
     .other (.buffer .header), .enter .write, .bufferNext]]

theorem loops_merge_dump : ∃ t : Loops Unit,
    run (step (keyboardRecorder true 30000)) (initial (keyboardRecorder true 30000) (some ()) 0)
      unrolledDump = some t ∧ t.buffering = some (.print []) ∧
    run (Recorder.step (keyboardRecorder true 30000))
      (Recorder.initial (keyboardRecorder true 30000) (some ()) 0)
      (unrolledDump.filterMap Action.merged) = some (t.merged (keyboardRecorder true 30000)) :=
  ⟨_, Option.eq_some_of_isSome (by decide), by decide,
    loops_merge _ _ _ _ _ (Option.eq_some_of_isSome (by decide)) (by decide)⟩

/-- The first of two keyboards is selected, and the second while `Record()` goes over the mask. -/
def mixedSelections : List Action :=
  [.select [keyboard 0], .selectNext, .selectNext, .selectNext, .other (.caller .start),
   .other (.caller .spawn), .other (.record .clear), .other (.record .stamp), .decode, .decodeNext,
   .select [keyboard 1], .selectNext, .selectNext, .selectNext, .decodeNext, .decodeNext]

/-- Where the loops over the mask meet, a session can monitor devices that no request has selected
together. -/
theorem selections_mixed : ∃ t : Loops Unit,
    run (step (keyboards 2)) (initial (keyboards 2) (some ()) 0) mixedSelections = some t ∧
    t.recorder.devicesToRecord = [keyboard 0, keyboard 1] ∧
    ¬ Along (step (keyboards 2)) Apart (initial (keyboards 2) (some ()) 0) mixedSelections :=
  ⟨_, Option.eq_some_of_isSome (by decide), by decide, by decide⟩

section Iterations

/-- The iterations, ends included, that the loops under way have before them at most. -/
def pending (t : Loops X) : Nat :=
  (t.selecting.elim 0 fun p => p.2.length + 1) + (t.decoding.elim 0 fun p => p.2.length + 1) +
    t.buffering.elim 0 fun
      | .cut _ => t.recorder.mInputBuf.length + 1
      | .print records => records.length + 1

/-- The iterations, with its end, that a loop has before it when it begins. -/
def begun (cfg : Config X) (t : Loops X) : Action → Nat
  | .select _ | .decode => cfg.availableDevices.length + 1
  | .enter _ => t.recorder.mInputBuf.length + 1
  | _ => 0

/-- Outside its loops a recorder changes the buffer by a push only. -/
theorem buf_other (allowed : t.allows a = true) (move : Move cfg t.recorder a s)
    (locked : t.buffering ≠ none) : s.mInputBuf = t.recorder.mInputBuf := by
  cases move with
  | caller m => cases m <;> rfl
  | record m =>
    cases m with
    | push | append => simp [allows, locked] at allowed
    | _ => rfl
  | buffer m =>
    cases m with
    | trim | finalTrim => cases allowed
    | _ => rfl
  | tick n => rfl

theorem pending_other (allowed : t.allows a = true) (move : Move cfg t.recorder a s) :
    pending { t with recorder := s } = t.pending := by
  by_cases unlocked : t.buffering = none
  · simp [pending, unlocked]
  · simp only [pending, buf_other allowed move unlocked]

theorem pending_enter {c : BufferAction} (fresh : t.buffering = none)
    (next : t.enter cfg c = some t') : t'.pending = t.pending + (t.recorder.mInputBuf.length + 1) := by
  unfold enter at next
  split at next <;> cases next <;> simp [pending, fresh, enterTrim, State.note]

theorem pending_bufferNext (next : t.bufferNext cfg = some t') : t'.pending < t.pending := by
  obtain ⟨s, selecting, decoding, buffering⟩ := t
  rcases buffering with _ | trim | records
  · cases next
  · simp only [bufferNext] at next
    split at next
    · rename_i test
      cases next
      have filled : s.mInputBuf ≠ [] := by
        intro empty
        cases trim <;> simp [Trim.test, empty] at test
      have shorter := List.length_pos_iff.mpr filled
      simp only [pending, Option.elim_some, List.length_tail]
      omega
    · cases next
      simp [pending]
  · cases records <;> cases next <;> simp [pending]

theorem pending_iteration {b : Action} (stepped : step cfg t b = some t') (inside : b.merged = none) :
    t'.pending < t.pending := by
  have fault := step_fault stepped
  cases b with
  | selectNext =>
    have next : t.selectNext = some t' := by simpa [step, fault] using stepped
    obtain ⟨s, _ | ⟨devices, _ | ⟨d, left⟩⟩, decoding, buffering⟩ := t <;> cases next <;> simp [pending]
  | decodeNext =>
    have next : t.decodeNext cfg = some t' := by simpa [step, fault] using stepped
    obtain ⟨s, selecting, _ | ⟨found, _ | ⟨d, left⟩⟩, buffering⟩ := t <;> cases next <;>
      simp [pending, State.prepared]
  | bufferNext => exact pending_bufferNext (by simpa [step, fault] using stepped)
  | select | decode | enter | other => cases inside

theorem pending_statement {b : Action} (stepped : step cfg t b = some t')
    (counts : b.merged = some a) : t'.pending = t.pending + begun cfg t b := by
  rcases step_counts stepped counts with ⟨devices, rfl, rfl, idle, fresh, rfl⟩ |
    ⟨rfl, rfl, pc, fresh, rfl⟩ | ⟨c, rfl, rfl, fresh, next⟩ | ⟨rfl, allowed, s, large, rfl⟩
  · simp [pending, beginSelect, begun, fresh]
    omega
  · simp [pending, beginDecode, begun, fresh]
    omega
  · simp [begun, pending_enter fresh next]
  · simp [begun, pending_other allowed (step_move large).2]

theorem selectNext_enabled (fault : t.recorder.fault = none) (inside : t.selecting ≠ none) :
    ∃ t', step cfg t .selectNext = some t' := by
  obtain ⟨⟨devices, _ | ⟨d, left⟩⟩, here⟩ := Option.ne_none_iff_exists'.mp inside <;>
    simp [step, fault, selectNext, here]

theorem decodeNext_enabled (fault : t.recorder.fault = none) (inside : t.decoding ≠ none) :
    ∃ t', step cfg t .decodeNext = some t' := by
  obtain ⟨⟨found, _ | ⟨d, left⟩⟩, here⟩ := Option.ne_none_iff_exists'.mp inside <;>
    simp [step, fault, decodeNext, here]

theorem bufferNext_enabled (fault : t.recorder.fault = none) (inside : t.buffering ≠ none) :
    ∃ t', step cfg t .bufferNext = some t' := by
  obtain ⟨trim | _ | ⟨r, records⟩, here⟩ := Option.ne_none_iff_exists'.mp inside
  · by_cases test : trim.test cfg t.recorder.mInputBuf = true <;>
      simp [step, fault, bufferNext, here, test]
  · simp [step, fault, bufferNext, here]
  · simp [step, fault, bufferNext, here]

/-- The iterations of all loops of a run are no more than the loops that have begun had before them,
and each loop under way can go on. -/
theorem loops_end (cfg : Config X) (xkb : Option X) (now : Nat) (as : List Action) (t : Loops X)
    (reached : run (step cfg) (initial cfg xkb now) as = some t) :
    as.countP (fun a => a.merged.isNone) + t.pending ≤
        total (step cfg) (begun cfg) (initial cfg xkb now) as ∧
      (t.recorder.fault = none →
        (t.selecting ≠ none → ∃ t', step cfg t .selectNext = some t') ∧
        (t.decoding ≠ none → ∃ t', step cfg t .decodeNext = some t') ∧
        (t.buffering ≠ none → ∃ t', step cfg t .bufferNext = some t')) := by
  constructor
  · have start : (initial cfg xkb now).pending = 0 := rfl
    rw [← Nat.zero_add (total _ _ _ _), ← start]
    refine countP_le_of_supplied reached ?_
    intro t b t' stepped
    cases counts : b.merged with
    | none =>
      have less := pending_iteration stepped counts
      simp only [Option.isNone_none, if_true]
      omega
    | some a =>
      simp [pending_statement stepped counts]
  · exact fun fault => ⟨selectNext_enabled fault, decodeNext_enabled fault, bufferNext_enabled fault⟩

theorem loops_end_dump : ∃ t : Loops Unit,
    run (step (keyboardRecorder true 30000)) (initial (keyboardRecorder true 30000) (some ()) 0)
      unrolledDump = some t ∧
    unrolledDump.countP (fun a => a.merged.isNone) + t.pending ≤ 8 ∧
    ∃ t', step (keyboardRecorder true 30000) t .bufferNext = some t' :=
  have ⟨bound, go⟩ := loops_end (keyboardRecorder true 30000) (some ()) 0 unrolledDump _
    (Option.eq_some_of_isSome (by decide))
  ⟨_, Option.eq_some_of_isSome (by decide), bound.trans (by decide), (go (by decide)).2.2 (by decide)⟩

end Iterations

end Loops

end TestRunner.Recorder
