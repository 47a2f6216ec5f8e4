import TestRunner.Evdev
import Mathlib.Logic.Function.Basic

/-! The type B multi-touch protocol on any number of slots: a stream of events with a
current slot, read as a table of slots. -/
namespace TestRunner.TypeB

structure Slot where
  contact : Option Int
  x : Int
  y : Int
  deriving DecidableEq, Repr

structure Table (n : Nat) where
  current : Fin n
  slots : Fin n → Slot

variable {n : Nat}

/-- The slot that a value of `ABS_MT_SLOT` names, when it is in the registered range. -/
def slotOf (n : Nat) (v : Int) : Option (Fin n) :=
  if h : 0 ≤ v ∧ v < n then some ⟨v.toNat, by omega⟩ else none

def Slot.track (s : Slot) (id : Int) : Slot :=
  { s with contact := if id < 0 then none else some id }

def Table.select (t : Table n) (v : Int) : Table n :=
  { t with current := (slotOf n v).getD t.current }

def Table.modify (t : Table n) (f : Slot → Slot) : Table n :=
  { t with slots := Function.update t.slots t.current (f (t.slots t.current)) }

/-- The meaning of one event. A value of `ABS_MT_SLOT` out of range is ignored. -/
def Table.event (t : Table n) (ev : InputEvent) : Table n :=
  if ev.type = evAbs then
    if ev.code = absMtSlot then t.select ev.value
    else if ev.code = absMtTrackingId then t.modify (·.track ev.value)
    else if ev.code = absMtPositionX then t.modify ({ · with x := ev.value })
    else if ev.code = absMtPositionY then t.modify ({ · with y := ev.value })
    else t
  else t

@[simp] theorem event_slot (t : Table n) (v : Int) :
    t.event ⟨evAbs, absMtSlot, v⟩ = t.select v := rfl

@[simp] theorem event_trackingId (t : Table n) (v : Int) :
    t.event ⟨evAbs, absMtTrackingId, v⟩ = t.modify (·.track v) := rfl

@[simp] theorem event_positionX (t : Table n) (v : Int) :
    t.event ⟨evAbs, absMtPositionX, v⟩ = t.modify ({ · with x := v }) := rfl

@[simp] theorem event_positionY (t : Table n) (v : Int) :
    t.event ⟨evAbs, absMtPositionY, v⟩ = t.modify ({ · with y := v }) := rfl

@[simp] theorem event_syn (t : Table n) (c : UInt16) (v : Int) : t.event ⟨evSyn, c, v⟩ = t := rfl

@[simp] theorem modify_modify (t : Table n) (f g : Slot → Slot) :
    (t.modify f).modify g = t.modify (fun s => g (f s)) := by
  simp [Table.modify]

end TestRunner.TypeB
