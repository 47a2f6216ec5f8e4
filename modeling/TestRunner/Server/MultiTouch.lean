import TestRunner.Server.Input
import TestRunner.TypeB

/-! Multi-touch requests against the slots of the virtual multi-touchscreen. -/
namespace TestRunner.Server

open TypeB

def MultiTouch.apply (touch : MultiTouch) (s : Slot) : Slot :=
  if touch.trackingId.toInt < 0 then { s with contact := none }
  else if touch.trackingId.toInt > 0 then
    ⟨some touch.trackingId.toInt, touch.absX.toInt, touch.absY.toInt⟩
  else { s with x := touch.absX.toInt, y := touch.absY.toInt }

/-- An entry acts on the slot that it names, and on none when that is out of range. -/
def applyOwn (slots : Fin 5 → Slot) (touch : MultiTouch) : Fin 5 → Slot :=
  match slotOf 5 touch.slot.toInt with
  | none => slots
  | some i => Function.update slots i (touch.apply (slots i))

/-- An entry acts on the slot that it names, and when that is out of range on the slot that
was named last. -/
def applyLast (t : Table 5) (touch : MultiTouch) : Table 5 :=
  let named := (slotOf 5 touch.slot.toInt).getD t.current
  ⟨named, Function.update t.slots named (touch.apply (t.slots named))⟩

theorem emitTouch_applies {fd : Int} (opened : 0 ≤ fd) (t : Table 5) (touch : MultiTouch) :
    (delivered fd (emitTouch fd touch)).foldl Table.event t = applyLast t touch := by
  have change : applyLast t touch = (t.select touch.slot.toInt).modify touch.apply := rfl
  rw [change]
  rcases lt_trichotomy touch.trackingId.toInt 0 with released | moved | held
  · have apply : touch.apply = (·.track touch.trackingId.toInt) := by
      funext s
      simp [MultiTouch.apply, Slot.track, released]
    simp [emitTouch, delivered_emit opened, released.ne, not_le.mpr released, apply]
  · have apply : touch.apply = fun s => { s with x := touch.absX.toInt, y := touch.absY.toInt } := by
      funext s
      simp [MultiTouch.apply, moved]
    simp [emitTouch, delivered_emit opened, moved, apply]
  · have apply : touch.apply =
        fun _ => ⟨some touch.trackingId.toInt, touch.absX.toInt, touch.absY.toInt⟩ := by
      funext s
      simp [MultiTouch.apply, held, held.not_gt]
    simp [emitTouch, delivered_emit opened, held.ne', held.le, apply, Slot.track, held.not_gt]

theorem handleMultiTouch_applies {mDeviceFd : VirtualDevice → Int}
    (opened : 0 ≤ mDeviceFd .multiTouchscreen) (t : Table 5) (list : List MultiTouch) :
    (delivered (mDeviceFd .multiTouchscreen) (handleMultiTouch mDeviceFd list)).foldl Table.event t =
      list.foldl applyLast t := by
  have entries : (delivered (mDeviceFd .multiTouchscreen)
      (list.flatMap (emitTouch (mDeviceFd .multiTouchscreen)))).foldl Table.event t =
        list.foldl applyLast t := by
    induction list generalizing t with
    | nil => rfl
    | cons touch list ih =>
      rw [List.flatMap_cons, delivered_append, List.foldl_append, emitTouch_applies opened, ih]
      rfl
  simp [handleMultiTouch, delivered_emit opened, entries]

theorem foldl_applyLast_slots (t : Table 5) (list : List MultiTouch)
    (named : ∀ touch ∈ list, (slotOf 5 touch.slot.toInt).isSome = true) :
    (list.foldl applyLast t).slots = list.foldl applyOwn t.slots := by
  induction list generalizing t with
  | nil => rfl
  | cons touch list ih =>
    obtain ⟨i, hi⟩ := Option.isSome_iff_exists.mp (named touch (by simp))
    rw [List.foldl_cons, List.foldl_cons, ih _ fun x mem => named x (by simp [mem])]
    simp [applyLast, applyOwn, hi]

/-- Whatever requests come in whatever order, the slots are what the entries ask for, each
of its own slot, where an entry out of range speaks of the slot that was named last. -/
theorem multi_touch_refines (mDeviceFd : VirtualDevice → Int) (requests : List (List MultiTouch))
    (t : Table 5) (opened : 0 ≤ mDeviceFd .multiTouchscreen) :
    (delivered (mDeviceFd .multiTouchscreen)
      (requests.flatMap (handleMultiTouch mDeviceFd))).foldl Table.event t =
        requests.flatten.foldl applyLast t ∧
    ((∀ touch ∈ requests.flatten, (slotOf 5 touch.slot.toInt).isSome = true) →
      (requests.flatten.foldl applyLast t).slots = requests.flatten.foldl applyOwn t.slots) := by
  refine ⟨?_, foldl_applyLast_slots t requests.flatten⟩
  induction requests generalizing t with
  | nil => rfl
  | cons list requests ih =>
    rw [List.flatMap_cons, delivered_append, List.foldl_append, handleMultiTouch_applies opened,
      ih, List.flatten_cons, List.foldl_append]

/-- The device as it is created: no contact, and slot 0 current. -/
def untouched : Table 5 := ⟨0, fun _ => ⟨none, 0, 0⟩⟩

def twoFingers : List (List MultiTouch) := [[⟨0, 1, 100, 200⟩, ⟨1, 2, 300, 400⟩], [⟨0, -1, 0, 0⟩]]

theorem multi_touch_refines_two :
    (delivered 13 (twoFingers.flatMap (handleMultiTouch fun _ => 13))).foldl Table.event untouched =
        twoFingers.flatten.foldl applyLast untouched ∧
    ((∀ touch ∈ twoFingers.flatten, (slotOf 5 touch.slot.toInt).isSome = true) →
      (twoFingers.flatten.foldl applyLast untouched).slots =
        twoFingers.flatten.foldl applyOwn untouched.slots) :=
  multi_touch_refines (fun _ => 13) twoFingers untouched (by decide)

theorem multi_touch_out_of_range :
    ((delivered 13 ([[⟨7, 1, 100, 200⟩]].flatMap (handleMultiTouch fun _ => 13))).foldl Table.event
        untouched).slots 0 = ⟨some 1, 100, 200⟩ ∧
    ([⟨7, 1, 100, 200⟩].foldl applyOwn untouched.slots) 0 = ⟨none, 0, 0⟩ := by
  decide

end TestRunner.Server
