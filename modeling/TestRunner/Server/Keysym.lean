import TestRunner.Server.Requests

/-! Keysyms that are asked for against keysyms that arrive. -/
namespace TestRunner.Server

/-- A key pressed with no modifier held gives the symbols of the first level of the first
layout. -/
def Keymap.receive (keymap : Keymap) (ev : InputEvent) : List UInt32 :=
  if ev.type = evKey ∧ ev.value = 1 then keymap.keyGetSymsByLevel (ev.code.toNat + 8) 0 0 else []

/-- The keysym that a request asks for, by its number or by its name. -/
def TestRunnerServer.requested (server : TestRunnerServer) : KeyPress.Which → Option UInt32
  | .rawCode _ => none
  | .keySym sym => some sym
  | .keyName name =>
    let sym := server.xkbKeysymFromName (cStr name)
    if sym = xkbKeyNoSymbol then none else some sym

/-- If key events are written for a keysym, then the reader receives it. -/
def KeysymReceived (server : TestRunnerServer) (which : KeyPress.Which) : Prop :=
  ∀ sym, server.requested which = some sym → server.handleKeyPress ⟨true, which⟩ ≠ [] →
    ∃ keymap, server.mXkbKeymap = some keymap ∧
      sym ∈ (server.handleKeyPress ⟨true, which⟩).flatMap fun w => keymap.receive w.ev

/-- No key has the symbol at a level that is searched, or the first that has it unshifted has it
in the first layout. -/
def Keymap.Plain (keymap : Keymap) (sym : UInt32) : Prop :=
  keymap.Lacks sym 0 ∧ keymap.Lacks sym 1 ∨
    ∃ evdev, keymap.First sym 0 evdev ∧ sym ∈ keymap.keyGetSymsByLevel (evdev + 8) 0 0

theorem evdevCode_requested {server : TestRunnerServer} {which : KeyPress.Which} {sym : UInt32}
    (requested : server.requested which = some sym) :
    server.evdevCode which = foundCode (resolveKeysym server.mXkbKeymap sym) := by
  cases which with
  | rawCode code => cases requested
  | keySym s => cases requested; rfl
  | keyName name =>
    simp only [TestRunnerServer.requested] at requested
    simp only [TestRunnerServer.evdevCode]
    split at requested
    · cases requested
    · rename_i known
      cases requested
      rw [if_neg known]

/-- The press of a key that the search has found. -/
theorem handleKeyPress_found {server : TestRunnerServer} {which : KeyPress.Which} {sym : UInt32}
    (requested : server.requested which = some sym) :
    server.handleKeyPress ⟨true, which⟩ =
      if resolveKeysym server.mXkbKeymap sym = 0 then [] else
        emit (server.mDeviceFd .keyboard) evKey (.ofNat (resolveKeysym server.mXkbKeymap sym)) 1 ++
          emit (server.mDeviceFd .keyboard) evSyn synReport 0 := by
  unfold TestRunnerServer.handleKeyPress
  rw [evdevCode_requested requested, foundCode]
  by_cases none : resolveKeysym server.mXkbKeymap sym = 0
  · simp only [if_pos none]
  · simp only [if_neg none]
    rfl

theorem receive_press {fd : Int} (opened : 0 ≤ fd) (keymap : Keymap) {evdev : Nat}
    (small : evdev < 767) :
    ((emit fd evKey (.ofNat evdev) 1 ++ emit fd evSyn synReport 0).flatMap fun w =>
      keymap.receive w.ev) = keymap.keyGetSymsByLevel (evdev + 8) 0 0 := by
  have code : (UInt16.ofNat evdev).toNat = evdev := UInt16.toNat_ofNat_of_lt' (by
    have : UInt16.size = 65536 := rfl
    omega)
  have key : keymap.receive ⟨evKey, .ofNat evdev, 1⟩ = keymap.keyGetSymsByLevel (evdev + 8) 0 0 := by
    rw [Keymap.receive, if_pos ⟨rfl, rfl⟩, code]
  have report : keymap.receive ⟨evSyn, synReport, 0⟩ = [] := rfl
  simp [emit_opened opened, key, report]

/-- The key that the search finds is read as the symbol exactly if the symbol is plain. -/
theorem resolved_received (keymap : Keymap) (sym : UInt32) :
    (resolveKeysym (some keymap) sym ≠ 0 →
        sym ∈ keymap.keyGetSymsByLevel (resolveKeysym (some keymap) sym + 8) 0 0) ↔
      keymap.Plain sym := by
  rcases resolveKeysym_cases keymap sym with
    ⟨evdev, first, found⟩ | ⟨evdev, lacks, first, found⟩ | ⟨lacks, lacks', found⟩
  · rw [found]
    constructor
    · intro received
      exact .inr ⟨evdev, first, received first.pos⟩
    · rintro (⟨lacks, -⟩ | ⟨other, first', plain⟩) -
      · exact absurd first.2.1 (by simp [lacks evdev first.1])
      · rwa [first.unique first']
  · rw [found]
    constructor
    · intro received
      have unshifted := keymap.carries_unshifted first.2.1 (received first.pos)
      exact absurd unshifted (by simp [lacks evdev first.1])
    · rintro (⟨-, lacks'⟩ | ⟨other, first', -⟩)
      · exact absurd first.2.1 (by simp [lacks' evdev first.1])
      · exact absurd first'.2.1 (by simp [lacks other first'.1])
  · rw [found]
    exact iff_of_true (fun impossible => absurd rfl impossible) (.inl ⟨lacks, lacks'⟩)

/-- A keysym that is written arrives exactly if it is plain in the keymap. -/
theorem keysym_received (server : TestRunnerServer) (which : KeyPress.Which) :
    KeysymReceived server which ↔ server.mDeviceFd .keyboard < 0 ∨
      ∀ sym keymap, server.requested which = some sym → server.mXkbKeymap = some keymap →
        keymap.Plain sym := by
  by_cases opened : 0 ≤ server.mDeviceFd .keyboard
  · have written : ∀ sym keymap, server.requested which = some sym →
        server.mXkbKeymap = some keymap →
        ((server.handleKeyPress ⟨true, which⟩ ≠ [] →
          sym ∈ (server.handleKeyPress ⟨true, which⟩).flatMap fun w => keymap.receive w.ev) ↔
            keymap.Plain sym) := by
      intro sym keymap requested loaded
      rw [handleKeyPress_found requested, loaded, ← resolved_received]
      by_cases none : resolveKeysym (some keymap) sym = 0
      · simp [none]
      · rw [if_neg none, receive_press opened keymap (resolveKeysym_range _ _)]
        simp [none, emit_opened opened]
    constructor
    · intro received
      refine .inr fun sym keymap requested loaded => (written sym keymap requested loaded).mp ?_
      intro some
      obtain ⟨keymap', loaded', member⟩ := received sym requested some
      cases loaded.symm.trans loaded'
      exact member
    · rintro (closed | plain) sym requested some
      · exact absurd opened (not_le.mpr closed)
      · cases loaded : server.mXkbKeymap with
        | none => exact absurd (by rw [handleKeyPress_found requested, loaded]; rfl) some
        | some keymap =>
          exact ⟨keymap, rfl, (written sym keymap requested loaded).mpr
            (plain sym keymap requested loaded) some⟩
  · have closed := not_le.mp opened
    refine iff_of_true ?_ (.inl closed)
    intro sym requested some
    exact absurd (by simp [handleKeyPress_found requested, emit_closed closed]) some

/-- One key, with `a` and above it `A`. -/
def letterKeymap : Keymap where
  numLayoutsForKey key := if key = 38 then 1 else 0
  keyGetSymsByLevel key layout level :=
    if key = 38 ∧ layout = 0 then (if level = 0 then [0x61] else if level = 1 then [0x41] else [])
    else []

/-- The capital letter is written as the bare key, which is read as the small one. -/
theorem shifted_keysym_lost :
    ¬ KeysymReceived { fourDevices with mXkbKeymap := some letterKeymap } (.keySym 0x41) ∧
    (TestRunnerServer.handleKeyPress { fourDevices with mXkbKeymap := some letterKeymap }
      ⟨true, .keySym 0x41⟩).flatMap (fun w => letterKeymap.receive w.ev) = [0x61] := by
  have press : TestRunnerServer.handleKeyPress
      { fourDevices with mXkbKeymap := some letterKeymap } ⟨true, .keySym 0x41⟩ =
        [⟨11, evKey, 30, 1⟩, ⟨11, evSyn, synReport, 0⟩] := by decide +kernel
  have read : (TestRunnerServer.handleKeyPress { fourDevices with mXkbKeymap := some letterKeymap }
      ⟨true, .keySym 0x41⟩).flatMap (fun w => letterKeymap.receive w.ev) = [0x61] := by
    rw [press]
    decide
  refine ⟨?_, read⟩
  intro received
  obtain ⟨keymap, loaded, member⟩ := received 0x41 rfl (by rw [press]; simp)
  cases loaded
  rw [read] at member
  exact absurd member (by decide)

end TestRunner.Server
