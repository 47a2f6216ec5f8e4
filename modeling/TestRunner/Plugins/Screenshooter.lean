import TestRunner.Resources

/-! `capture()` of the screenshooter plugin, for any compositor and kernel: the events that every
round dispatches and the results of the calls are given. -/
namespace TestRunner.Screenshooter

open Resources

/-- Proxies are numbered as they are bound. -/
abbrev Proxy := Nat

inductive Handle where
  | display
  | registry
  | proxy (p : Proxy)
  | memfd
  | mapping
  | pool
  | buffer
  deriving DecidableEq

/-- An event as its handler gets it. `bound` says whether `wl_registry_bind` gives a proxy. -/
inductive Event where
  | global (interface : String) (bound : Bool)
  | geometry (output : Proxy) (model : Option String)
  | mode (output : Proxy) (flags : UInt32) (width height : Int32)
  | done (shooter : Proxy)
  -- the handlers of the other events are empty
  | other
  deriving DecidableEq

/-- History entries. No statement reads them. -/
inductive Entry where
  | op (op : Op Handle)
  | createPool (size : Int32)
  | createBuffer (width height stride : Int32)
  | shoot (shooter : Proxy)
  | event (e : Event)
  deriving DecidableEq

structure OutputInfo where
  output : Proxy
  model : String
  width : Int32
  height : Int32

structure ScreenshotResult where
  imageData : List UInt8 := []
  width : UInt32 := 0
  height : UInt32 := 0
  error : String := ""

structure CaptureState where
  shooter : Option Proxy := none
  shm : Option Proxy := none
  outputs : List OutputInfo := []
  finished : Bool := false
  -- the screenshooter that has a listener
  listening : Option Proxy := none
  bound : Nat := 0
  log : List Entry := []

/-- One call of `wl_display_dispatch`. -/
structure Dispatch where
  events : List Event
  result : Int

/-- What the calls of `capture()` come to. A call that gives a pointer is true if it is not null;
`memory` is the mapping when it is copied, and `copies` whether there is room for the copy. -/
structure Env where
  connect : Bool
  getRegistry : Bool
  roundtrip : List Event
  secondRoundtrip : List Event
  memfdCreate : Int
  ftruncate : Int
  mmap : Bool
  createPool : Bool
  createBuffer : Bool
  dispatches : List Dispatch
  memory : Nat → UInt8
  copies : Bool

inductive Outcome where
  | returned (result : ScreenshotResult) (log : List Entry)
  | threw (log : List Entry)
  -- a call of `wl_display_dispatch` has not returned
  | waiting
  -- a null pointer was dereferenced
  | crashed

namespace CaptureState

def record (s : CaptureState) (entries : List Entry) : CaptureState :=
  { s with log := s.log ++ entries }

def registryBind (s : CaptureState) (bound : Bool) : CaptureState × Option Proxy :=
  if bound then
    ({ s with bound := s.bound + 1 }.record
      [.op (.use .registry), .op (.acquire (.proxy s.bound))], some s.bound)
  else (s.record [.op (.use .registry)], none)

def onRegistryGlobal (s : CaptureState) (interface : String) (bound : Bool) :
    Option CaptureState :=
  let (t, proxy) := s.registryBind bound
  if interface = "weston_screenshooter" then some { t with shooter := proxy }
  else if interface = "wl_shm" then some { t with shm := proxy }
  else if interface = "wl_output" then
    match proxy with
    | some output =>
      some (record { t with outputs := t.outputs ++ [⟨output, "", 0, 0⟩] }
        [.op (.use (.proxy output))])
    | none => none
  else some s

/-- The change of the first entry of `find_output_info`. -/
def updateOutput (output : Proxy) (f : OutputInfo → OutputInfo) : List OutputInfo → List OutputInfo
  | [] => []
  | o :: outputs => if o.output = output then f o :: outputs else o :: updateOutput output f outputs

def onOutputGeometry (s : CaptureState) (output : Proxy) (model : Option String) : CaptureState :=
  { s with outputs := updateOutput output (fun o => { o with model := model.getD "" }) s.outputs }

def wlOutputModeCurrent : UInt32 := 1

def onOutputMode (s : CaptureState) (output : Proxy) (flags : UInt32) (width height : Int32) :
    CaptureState :=
  if flags &&& wlOutputModeCurrent ≠ 0 then
    { s with outputs :=
        updateOutput output (fun o => { o with width := width, height := height }) s.outputs }
  else s

/-- Only the screenshooter that has a listener reports. -/
def onShootDone (s : CaptureState) (shooter : Proxy) : CaptureState :=
  if s.listening = some shooter then { s with finished := true } else s

def handle (s : CaptureState) (e : Event) : Option CaptureState :=
  let s := s.record [.event e]
  match e with
  | .global interface bound => s.onRegistryGlobal interface bound
  | .geometry output model => some (s.onOutputGeometry output model)
  | .mode output flags width height => some (s.onOutputMode output flags width height)
  | .done shooter => some (s.onShootDone shooter)
  | .other => some s

/-- A round of events, none when a handler crashes. -/
def dispatch (s : CaptureState) (events : List Event) : Option CaptureState :=
  run handle (s.record [.op (.use .display)]) events

/-- The loop around `wl_display_dispatch`. -/
def waitDone (s : CaptureState) : List Dispatch → Except Outcome CaptureState
  | [] => if s.finished then .ok s else .error .waiting
  | d :: dispatches =>
    if s.finished then .ok s
    else
      match s.dispatch d.events with
      | none => .error .crashed
      | some t => if d.result = -1 then .ok t else waitDone t dispatches

/-- What the cleanup releases, in its order. -/
def owned (s : CaptureState) : List Handle :=
  s.outputs.map (fun o => .proxy o.output) ++ s.shm.toList.map .proxy ++
    s.shooter.toList.map .proxy ++ [.registry, .display]

def cleanup (s : CaptureState) : CaptureState := s.record (s.owned.map fun h => .op (.release h))

def fail (s : CaptureState) (error : String) : Outcome :=
  .returned { error := error } s.cleanup.log

end CaptureState

/-- The display is connected and the registry has its listener. -/
def connected : CaptureState where
  log := [.op (.acquire .display), .op (.use .display), .op (.acquire .registry),
    .op (.use .registry)]

def ready (env : Env) : Option CaptureState := do
  (← connected.dispatch env.roundtrip).dispatch env.secondRoundtrip

def select (outputs : List OutputInfo) : Option OutputInfo :=
  (outputs.find? fun o => o.model = "DP-1").or outputs.head?

def stride (width : Int32) : Int32 := width * 4

def byteCount (width height : Int32) : UInt64 :=
  UInt64.ofInt (stride width).toInt * UInt64.ofInt height.toInt

/-- From `mmap` to the loop. -/
def requests (env : Env) (shooter shm : Proxy) (selected : OutputInfo) : List Entry :=
  [.op (.acquire .mapping), .op (.use (.proxy shm)), .op (.use .memfd),
    .createPool (byteCount selected.width selected.height).toUInt32.toInt32,
    .op (.acquire .pool), .op (.use .pool),
    .createBuffer selected.width selected.height (stride selected.width)] ++
  (if env.createBuffer then [.op (.acquire .buffer)] else []) ++
  [.op (.release .pool), .op (.release .memfd), .op (.use (.proxy shooter)),
    .op (.use (.proxy shooter)), .op (.use (.proxy selected.output))] ++
  (if env.createBuffer then [.op (.use .buffer)] else []) ++
  [.shoot shooter, .op (.use .display)]

/-- After the loop. -/
def copyOut (env : Env) (s : CaptureState) (selected : OutputInfo) : Outcome :=
  let s := s.record [.op (.use .mapping)]
  if env.copies then
    let s := s.record (if env.createBuffer then [.op (.release .buffer)] else [])
    let s := s.record [.op (.release .mapping)]
    .returned
      { imageData :=
          (List.range (byteCount selected.width selected.height).toNat).map env.memory
        width := selected.width.toUInt32
        height := selected.height.toUInt32 }
      s.cleanup.log
  else .threw s.log

def shoot (env : Env) (s : CaptureState) (shooter shm : Proxy) (selected : OutputInfo) : Outcome :=
  if env.memfdCreate < 0 then s.fail "memfd_create failed"
  else
    let s := s.record [.op (.acquire .memfd), .op (.use .memfd)]
    if env.ftruncate < 0 then (s.record [.op (.release .memfd)]).fail "ftruncate failed"
    else
      let s := s.record [.op (.use .memfd)]
      if env.mmap then
        if env.createPool then
          let s := { s with listening := some shooter }
          match (s.record (requests env shooter shm selected)).waitDone env.dispatches with
          | .error outcome => outcome
          | .ok s => copyOut env s selected
        else .crashed
      else (s.record [.op (.release .memfd)]).fail "mmap failed"

def capture (env : Env) : Outcome :=
  if env.connect then
    if env.getRegistry then
      match ready env with
      | none => .crashed
      | some s =>
        match s.shooter, s.shm, select s.outputs with
        | none, _, _ => s.fail "weston_screenshooter global not found"
        | some _, none, _ => s.fail "wl_shm global not found"
        | some _, some _, none => s.fail "no wl_output found"
        | some shooter, some shm, some selected =>
          if selected.width ≤ 0 ∨ selected.height ≤ 0 then s.fail "wl_output dimensions not received"
          else shoot env s shooter shm selected
    else .crashed
  else .returned { error := "wl_display_connect failed — is WAYLAND_DISPLAY set?" } []

inductive Reply where
  | failed (description : String)
  | exception
  | results (imageData : List UInt8) (width height : UInt32)

/-- The reply to the call, none when there is none. -/
def takeScreenshot : Outcome → Option Reply
  | .returned result _ =>
    some (if result.error ≠ "" then .failed result.error
      else .results result.imageData result.width result.height)
  | .threw _ => some .exception
  | .waiting | .crashed => none

end TestRunner.Screenshooter
