import TestRunner.Recorder.Classify
import Mathlib.Data.List.TakeWhile

/-! What one iteration over the directory leaves on the stack, and what the next one reads of it. -/
namespace TestRunner.Recorder

/-- Elements that each read their own scratch give one list for every scratch if and only if each
of them ignores it. -/
theorem filterMap_zipIdx_iff {A B S : Type} (f : A → S → Option B) (xs : List A) (k : Nat) :
    (∀ prior prior' : Nat → S, (xs.zipIdx k).filterMap (fun n => f n.1 (prior n.2)) =
      (xs.zipIdx k).filterMap (fun n => f n.1 (prior' n.2))) ↔
    ∀ x ∈ xs, ∀ s s', f x s = f x s' := by
  constructor
  · intro same
    induction xs generalizing k with
    | nil => simp
    | cons x xs ih =>
      -- Two scratches that differ in the first cell only.
      have head : ∀ s s', f x s = f x s' := by
        intro s s'
        have rest : (xs.zipIdx (k + 1)).filterMap (fun n => f n.1 (if n.2 = k then s else s')) =
            (xs.zipIdx (k + 1)).filterMap (fun n => f n.1 s') := by
          apply List.filterMap_congr
          intro n inside
          have later := List.le_snd_of_mem_zipIdx inside
          rw [if_neg (by omega)]
        have lists := same (fun i => if i = k then s else s') fun _ => s'
        rw [List.zipIdx_cons, List.filterMap_cons, List.filterMap_cons, rest] at lists
        cases left : f x s <;> cases right : f x s' <;> simp [left, right] at lists ⊢
        exact lists
      have tail := ih (k + 1) fun prior prior' => by
        have lists := same prior prior'
        rw [List.zipIdx_cons, List.filterMap_cons, List.filterMap_cons,
          head (prior k) (prior' k)] at lists
        cases first : f x (prior' k) <;> simpa [first] using lists
      exact List.forall_mem_cons.mpr ⟨head, tail⟩
  · intro ignored prior prior'
    apply List.filterMap_congr
    intro n inside
    exact ignored n.1 (List.fst_mem_of_mem_zipIdx inside) _ _

/-- What a buffer holds after a call: the bytes that were written, and behind them what it held. -/
theorem map_receive (b : Buffer) {n : Nat} {bytes : List UInt8} (short : bytes.length ≤ n) :
    (List.range n).map (b.receive (some bytes)) =
      bytes ++ ((List.range n).map b).drop bytes.length := by
  apply List.ext_getElem (by simp; omega)
  intro i left right
  by_cases inside : i < bytes.length
  · simp [Buffer.receive, inside]
  · have beyond : i - bytes.length + bytes.length = i := by omega
    simp [Buffer.receive, List.getElem_append_right (Nat.le_of_not_lt inside),
      List.getElem?_eq_none (Nat.le_of_not_lt inside), Nat.add_comm bytes.length, beyond]

theorem cStr_append {bytes : List UInt8} (zero : 0 ∈ bytes) (rest : List UInt8) :
    cStr (bytes ++ rest) = cStr bytes := by
  have stops : (bytes.takeWhile (· ≠ 0)).length ≠ bytes.length := by
    intro all
    have same := (List.takeWhile_prefix (fun b : UInt8 => decide (b ≠ 0))).eq_of_length all
    have nonzero := List.takeWhile_eq_self_iff.mp same 0 zero
    simp at nonzero
  rw [cStr, cStr, List.takeWhile_append, if_neg stops]

/-- A name that was read ends where its bytes end. -/
theorem nameOf_receive (prior prior' : Buffer) (name : DeviceName) :
    (prior.receive (some name.bytes)).nameOf = (prior'.receive (some name.bytes)).nameOf := by
  unfold Buffer.nameOf
  congr 1
  by_cases whole : 50 ≤ name.bytes.length
  · congr 1
    apply List.map_congr_left
    intro i inside
    have short : i < name.bytes.length := Nat.lt_of_lt_of_le (List.mem_range.mp inside) whole
    simp [Buffer.receive, List.getElem?_eq_getElem short]
  · have zero : 0 ∈ name.bytes := name.whole.resolve_right whole
    have short : name.bytes.length ≤ 50 := by omega
    rw [map_receive prior short, map_receive prior' short, cStr_append zero, cStr_append zero]

def Node.absBits (node : Node) (n : UInt16) : Bool := node.absCapabilities.any fun b => b.has n

/-- The kernel answered what the class and the name of an entry are made from. -/
def Node.Answered (node : Node) : Prop :=
  ∃ capabilities, node.capabilities = some capabilities ∧
    (capabilities.has evAbs = true → node.absCapabilities.isSome = true) ∧
    ((classify capabilities.has node.absBits).isSome = true → node.name.isSome = true)

theorem type_eq {node : Node} {capabilities : Bitmap evCnt}
    (read : node.capabilities = some capabilities)
    (abs : capabilities.has evAbs = true → node.absCapabilities.isSome = true) (stack : Stack) :
    node.type stack = classify capabilities.has node.absBits := by
  rw [Node.type, read]
  apply classify_congr (fun _ inside => hasBit_receive _ _ inside)
  intro touch n inside
  rw [hasBit_receive _ _ (by decide)] at touch
  obtain ⟨bits, got⟩ := Option.isSome_iff_exists.mp (abs touch)
  rw [Node.absBits, got]
  exact hasBit_receive _ bits inside

/-- A device depends only on what the kernel answered. -/
theorem inspect_of_answered {node : Node} (answered : node.Answered) (stack stack' : Stack) :
    node.inspect stack = node.inspect stack' := by
  obtain ⟨capabilities, read, abs, named⟩ := answered
  rw [inspect_eq, inspect_eq, type_eq read abs, type_eq read abs]
  cases type : classify capabilities.has node.absBits with
  | none => rfl
  | some type' =>
    rw [type] at named
    obtain ⟨name, got⟩ := Option.isSome_iff_exists.mp (named rfl)
    simp only [got, Option.map_some, nameOf_receive stack.name stack'.name]

theorem type_inspect (node : Node) (stack : Stack) :
    (node.inspect stack).map InDevice.type = node.type stack := by
  rw [inspect_eq, Option.map_map]
  exact Option.map_id'

/-- A bitmap of the axes that was not read is on the stack what it was. -/
theorem absCapabilities_of_type {node : Node} {capabilities : Bitmap evCnt}
    (same : ∀ stack stack', node.type stack = node.type stack')
    (read : node.capabilities = some capabilities) (touch : capabilities.has evAbs = true) :
    node.absCapabilities.isSome = true := by
  cases got : node.absCapabilities with
  | some bits => rfl
  | none =>
    have device : (Buffer.receive (fun _ => 0) (some capabilities.bytes)).hasBit evAbs = true :=
      (hasBit_receive _ capabilities (by decide)).trans touch
    have full : node.type ⟨fun _ => 0, fun _ => 0, fun _ => 0xff⟩ = some .multitouchscreen := by
      rw [Node.type, read, got, Option.map_some, classify, if_pos device]
      rfl
    have zero : node.type ⟨fun _ => 0, fun _ => 0, fun _ => 0⟩ ≠ some .multitouchscreen := by
      rw [Node.type, read, got, Option.map_some, classify, if_pos device]
      change (if _ then _ else _) ≠ _
      split
      · rename_i multi
        exact absurd multi (by decide)
      · split <;> simp
    exact absurd ((same _ _).trans full) zero

/-- What the kernel did not answer shows in the device. -/
theorem answered_of_inspect {node : Node}
    (same : ∀ stack stack', node.inspect stack = node.inspect stack') : node.Answered := by
  have types : ∀ stack stack', node.type stack = node.type stack' := by
    intro stack stack'
    rw [← type_inspect, same stack stack', type_inspect]
  cases read : node.capabilities with
  | none =>
    have differ := types ⟨fun _ => 0, fun _ => 0, fun _ => 0⟩ ⟨fun _ => 0, fun _ => 2, fun _ => 0⟩
    rw [Node.type, Node.type, read] at differ
    cases differ
  | some capabilities =>
    have abs := absCapabilities_of_type types read
    refine ⟨capabilities, read, abs, fun listed => ?_⟩
    obtain ⟨type, listed⟩ := Option.isSome_iff_exists.mp listed
    cases named : node.name with
    | some name => rfl
    | none =>
      have differ := same ⟨fun _ => 0, fun _ => 0, fun _ => 0⟩ ⟨fun _ => 0x61, fun _ => 0, fun _ => 0⟩
      rw [inspect_eq, inspect_eq, type_eq read abs, type_eq read abs, listed, named] at differ
      have names : Buffer.nameOf (fun _ => 0) = Buffer.nameOf fun _ => 0x61 :=
        congrArg InDevice.name (Option.some.inj differ)
      exact absurd names (by decide)

/-- The devices that are found are the same whatever was on the stack, a device whose name was not
read has no name, and one whose event types were not read is not found. -/
def Unaffected (nodes : List Node) : Prop :=
  (∀ prior prior', (findDevices prior (some nodes)).availableDevices =
    (findDevices prior' (some nodes)).availableDevices) ∧
  ∀ prior, ∀ device ∈ (findDevices prior (some nodes)).availableDevices, ∀ node ∈ nodes,
    node.opens = true → node.fd = device.fd →
      (node.name = none → device.name = []) ∧ node.capabilities ≠ none

theorem device_iff (node : Node) :
    (∀ stack stack', node.device stack = node.device stack') ↔
      (node.opens = true → node.Answered) := by
  unfold Node.device
  constructor
  · intro same opens
    apply answered_of_inspect
    intro stack stack'
    have devices := same stack stack'
    rwa [if_pos opens, if_pos opens] at devices
  · intro answered stack stack'
    by_cases opens : node.opens = true
    · rw [if_pos opens, if_pos opens]
      exact inspect_of_answered (answered opens) stack stack'
    · rw [if_neg opens, if_neg opens]

/-- What was read of the entry that a device comes from. -/
theorem read_of_device {node : Node} {stack : Stack} {device : InDevice} (answered : node.Answered)
    (found : node.inspect stack = some device) :
    node.name ≠ none ∧ node.capabilities ≠ none := by
  obtain ⟨capabilities, read, abs, named⟩ := answered
  rw [inspect_eq, type_eq read abs] at found
  obtain ⟨type, listed, -⟩ := Option.map_eq_some_iff.mp found
  obtain ⟨name, got⟩ := Option.isSome_iff_exists.mp (named (by rw [listed]; rfl))
  simp [got, read]

/-- No data of one device reaches another if and only if the kernel answers, for each entry that
can be opened, the event types, the axes where it has any, and the name where it is listed.
Descriptors that are open together differ. -/
theorem devices_unaffected_iff (nodes : List Node)
    (distinct : ((nodes.filter Node.opens).map Node.fd).Nodup) :
    Unaffected nodes ↔ ∀ node ∈ nodes, node.opens = true → node.Answered := by
  have twoRuns : (∀ prior prior', (findDevices prior (some nodes)).availableDevices =
      (findDevices prior' (some nodes)).availableDevices) ↔
      ∀ node ∈ nodes, node.opens = true → node.Answered := by
    simp only [availableDevices_findDevices]
    rw [filterMap_zipIdx_iff Node.device nodes 0]
    exact forall₂_congr fun node _ => device_iff node
  rw [Unaffected, twoRuns, and_iff_left_iff_imp]
  intro answered prior device found node inside opens same
  obtain ⟨⟨source, i⟩, among, image⟩ := List.mem_filterMap.mp
    (availableDevices_findDevices prior nodes ▸ found)
  have among := List.fst_mem_of_mem_zipIdx among
  obtain ⟨opened, fd, image⟩ := inspect_of_device image
  have one : source = node := List.inj_on_of_nodup_map distinct
    (List.mem_filter.mpr ⟨among, opened⟩) (List.mem_filter.mpr ⟨inside, opens⟩) (fd.trans same.symm)
  subst one
  have read := read_of_device (answered source among opened) image
  exact ⟨fun unnamed => absurd unnamed read.1, read.2⟩

/-- An entry that can be opened and about which every call fails. -/
def silentNode (fd : Int) : Node :=
  ⟨dtChr, eventPrefix ++ [0x31], fd, none, none, none, fun _ => none⟩

/-- A keyboard that answers and a device that is skipped and has no name. -/
theorem devices_unaffected_two :
    Unaffected [(eventNode 5 0x02 0 screenRange).node,
      { (eventNode 6 0x01 0 screenRange).node with name := none }] :=
  (devices_unaffected_iff _ (by decide)).mpr (List.forall_mem_cons.mpr
    ⟨fun _ => ⟨_, rfl, by decide, by decide⟩,
      List.forall_mem_singleton.mpr fun _ => ⟨_, rfl, by decide, by decide⟩⟩)

/-- What an iteration over a keyboard named K leaves. -/
def keyboardStack : Stack := ⟨fun i => if i = 0 then 0x4b else 0, fun _ => 0x02, fun _ => 0⟩

/-- After it, a device about which every call fails is found as a keyboard named K. -/
theorem devices_leftover :
    (findDevices (fun _ => keyboardStack) (some [silentNode 5])).availableDevices =
      [⟨5, [0x4b], .keyboard, ⟨0, 0⟩, ⟨0, 0⟩⟩] ∧
    (findDevices (fun _ => emptyStack) (some [silentNode 5])).availableDevices = [] ∧
    ¬ Unaffected [silentNode 5] := by
  have left : (findDevices (fun _ => keyboardStack) (some [silentNode 5])).availableDevices =
      [⟨5, [0x4b], .keyboard, ⟨0, 0⟩, ⟨0, 0⟩⟩] := by decide
  have right : (findDevices (fun _ => emptyStack) (some [silentNode 5])).availableDevices = [] := by
    decide
  refine ⟨left, right, fun unaffected => ?_⟩
  have same := unaffected.1 (fun _ => keyboardStack) fun _ => emptyStack
  rw [left, right] at same
  cases same

end TestRunner.Recorder
