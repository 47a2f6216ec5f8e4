import Mathlib.Data.List.Basic
import Mathlib.Logic.Function.Basic

/-! A file system behind an output stream: a file may fail to open, what is put into the stream comes
to the file later, and a write may fail. What was put into the stream of a file describes both. -/
namespace TestRunner.Stream

variable {P T C : Type*}

/-- A file with who has opened it, and whether every write to it has succeeded. -/
structure File (T C : Type*) where
  owner : T
  text : List C
  intact : Bool
  deriving DecidableEq, Repr

/-- An open stream holds what it has not yet written. -/
inductive Out (P C : Type*) where
  | closed
  | opened (path : P) (held : List C)
  deriving DecidableEq, Repr

structure Disk (P T C : Type*) where
  files : P → Option (File T C)
  out : Out P C

namespace Disk

variable {d : Disk P T C} {path path' : P}

def isOpen (d : Disk P T C) : Bool :=
  match d.out with
  | .closed => false
  | .opened .. => true

def OpenAt (d : Disk P T C) (path : P) : Prop := ∃ held, d.out = .opened path held

def owner (d : Disk P T C) (path : P) : Option T := (d.files path).map File.owner

/-- A stream that is not open takes nothing. -/
def put (d : Disk P T C) (text : List C) : Disk P T C :=
  match d.out with
  | .closed => d
  | .opened path held => { d with out := .opened path (held ++ text) }

theorem isOpen_false : d.isOpen = false ↔ d.out = .closed := by
  unfold isOpen
  cases d.out <;> simp

theorem isOpen_true : d.isOpen = true ↔ ∃ path, d.OpenAt path := by
  unfold isOpen OpenAt
  cases d.out <;> simp

theorem OpenAt.unique (here : d.OpenAt path) (there : d.OpenAt path') : path = path' := by
  obtain ⟨held, out⟩ := here
  obtain ⟨held', out'⟩ := there
  rw [out] at out'
  cases out'
  rfl

theorem not_openAt (closed : d.out = .closed) : ¬ d.OpenAt path := by
  rintro ⟨held, out⟩
  rw [closed] at out
  cases out

@[simp] theorem put_nil : d.put [] = d := by
  obtain ⟨files, out⟩ := d
  cases out <;> simp [put]

theorem put_closed (closed : d.out = .closed) (text : List C) : d.put text = d := by
  simp [put, closed]

@[simp] theorem owner_put (text : List C) : (d.put text).owner = d.owner := by
  unfold put
  split <;> rfl

@[simp] theorem openAt_put (text : List C) : (d.put text).OpenAt path ↔ d.OpenAt path := by
  unfold OpenAt put
  cases out : d.out <;> simp [out]

variable [DecidableEq P]

/-- An open that succeeds empties the file. -/
def openFile (d : Disk P T C) (path : P) (owner : T) (success : Bool) : Disk P T C :=
  if success then ⟨Function.update d.files path (some ⟨owner, [], true⟩), .opened path []⟩ else d

/-- A file becomes another, and the stream as well. -/
def alter (d : Disk P T C) (path : P) (change : File T C → File T C) (out : Out P C) : Disk P T C :=
  ⟨Function.update d.files path ((d.files path).map change), out⟩

/-- The first characters of those held are written. -/
def sync (d : Disk P T C) (n : Nat) : Disk P T C :=
  match d.out with
  | .closed => d
  | .opened path held =>
    d.alter path (fun file => { file with text := file.text ++ held.take n })
      (.opened path (held.drop n))

/-- A write fails, and leaves anything behind. -/
def fail (d : Disk P T C) (rest : List C) : Disk P T C :=
  match d.out with
  | .closed => d
  | .opened path _ =>
    d.alter path (fun file => { file with text := file.text ++ rest, intact := false }) .closed

def close (d : Disk P T C) : Disk P T C :=
  match d.out with
  | .closed => d
  | .opened path held =>
    d.alter path (fun file => { file with text := file.text ++ held }) .closed

def heldFor (d : Disk P T C) (path : P) : List C :=
  match d.out with
  | .closed => []
  | .opened p held => if p = path then held else []

/-- What was put into the stream of a file since it was opened, none once a write has failed. -/
def given (d : Disk P T C) (path : P) : Option (List C) :=
  (d.files path).bind fun file => if file.intact then some (file.text ++ d.heldFor path) else none

section Given

theorem given_openFile (closed : d.out = .closed) (owner : T) :
    (d.openFile path owner true).given = Function.update d.given path (some []) := by
  funext p
  by_cases same : p = path
  · subst same
    simp [given, openFile, heldFor]
  · simp [given, openFile, heldFor, closed, same, Ne.symm same]

theorem given_put (out : d.OpenAt path) (text : List C) :
    (d.put text).given = Function.update d.given path ((d.given path).map (· ++ text)) := by
  obtain ⟨held, out⟩ := out
  funext p
  by_cases same : p = path
  · subst same
    rcases here : d.files p with _ | ⟨owner, before, _ | _⟩ <;>
      simp [given, put, heldFor, out, here]
  · simp [given, put, heldFor, out, same, Ne.symm same]

theorem given_put_none (broken : d.given path = none) (text : List C) :
    (d.put text).given path = none := by
  cases out : d.isOpen with
  | false => rw [put_closed (isOpen_false.mp out), broken]
  | true =>
    obtain ⟨p, out⟩ := isOpen_true.mp out
    rw [given_put out]
    by_cases same : path = p
    · subst same
      simp [broken]
    · rw [Function.update_of_ne same, broken]

/-- Only the file of the open stream is told anything. -/
theorem given_put_other (other : ¬ d.OpenAt path) (text : List C) :
    (d.put text).given path = d.given path := by
  cases out : d.isOpen with
  | false => rw [put_closed (isOpen_false.mp out)]
  | true =>
    obtain ⟨p, out⟩ := isOpen_true.mp out
    rw [given_put out, Function.update_of_ne]
    rintro rfl
    exact other out

theorem given_sync (n : Nat) : (d.sync n).given = d.given := by
  cases out : d.out with
  | closed => simp [sync, out]
  | opened path held =>
    funext p
    by_cases same : p = path
    · subst same
      rcases here : d.files p with _ | ⟨owner, before, _ | _⟩ <;>
        simp [given, sync, alter, heldFor, out, here]
    · simp [given, sync, alter, heldFor, out, same, Ne.symm same]

theorem given_fail (out : d.OpenAt path) (rest : List C) :
    (d.fail rest).given = Function.update d.given path none := by
  obtain ⟨held, out⟩ := out
  funext p
  by_cases same : p = path
  · subst same
    cases here : d.files p <;> simp [given, fail, alter, out, here]
  · simp [given, fail, alter, heldFor, out, same, Ne.symm same]

theorem given_close : d.close.given = d.given := by
  cases out : d.out with
  | closed => simp [close, out]
  | opened path held =>
    funext p
    by_cases same : p = path
    · subst same
      rcases here : d.files p with _ | ⟨owner, before, _ | _⟩ <;>
        simp [given, close, alter, heldFor, out, here]
    · simp [given, close, alter, heldFor, out, same, Ne.symm same]

theorem given_of_file {file : File T C} (here : d.files path = some file)
    (intact : file.intact = true) : d.given path = some (file.text ++ d.heldFor path) := by
  simp [given, here, intact]

theorem heldFor_nil (closed : ¬ d.OpenAt path) : d.heldFor path = [] := by
  unfold heldFor
  split
  · rfl
  · rename_i p held out
    rw [if_neg]
    rintro rfl
    exact closed ⟨held, out⟩

end Given

section Owner

theorem owner_openFile (owner : T) :
    (d.openFile path owner true).owner = Function.update d.owner path (some owner) := by
  funext p
  by_cases same : p = path
  · subst same
    simp [Disk.owner, openFile]
  · simp [Disk.owner, openFile, same]

theorem owner_alter {change : File T C → File T C} (kept : ∀ file, (change file).owner = file.owner)
    (out : Out P C) : (d.alter path change out).owner = d.owner := by
  funext p
  by_cases same : p = path
  · subst same
    cases here : d.files p <;> simp [owner, alter, here, kept]
  · simp [owner, alter, same]

@[simp] theorem owner_sync (n : Nat) : (d.sync n).owner = d.owner := by
  unfold sync
  split
  · rfl
  · apply owner_alter
    exact fun _ => rfl

@[simp] theorem owner_fail (rest : List C) : (d.fail rest).owner = d.owner := by
  unfold fail
  split
  · rfl
  · apply owner_alter
    exact fun _ => rfl

@[simp] theorem owner_close : d.close.owner = d.owner := by
  unfold close
  split
  · rfl
  · apply owner_alter
    exact fun _ => rfl

end Owner

section Out

@[simp] theorem openFile_false (owner : T) : d.openFile path owner false = d := rfl

theorem openAt_openFile (d : Disk P T C) (path : P) (owner : T) :
    (d.openFile path owner true).OpenAt path := ⟨[], rfl⟩

@[simp] theorem openAt_sync (n : Nat) : (d.sync n).OpenAt path ↔ d.OpenAt path := by
  unfold OpenAt sync alter
  cases out : d.out <;> simp [out]

theorem out_fail (rest : List C) : (d.fail rest).out = .closed := by
  unfold fail
  split
  · assumption
  · rfl

theorem out_close : d.close.out = .closed := by
  unfold close
  split
  · assumption
  · rfl

end Out

end Disk

end TestRunner.Stream
