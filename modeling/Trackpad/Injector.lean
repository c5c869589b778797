import Trackpad.Input
import Trackpad.Keyboard.PlanSpec
/-!
# Touch injection

`TouchInjector` turns frames into calls of Windows' `InjectTouchInput`. A pointer has to come down before it moves or
goes up, so the injector keeps the table of the pointers that are down. What Windows answers is input, and so is
`contact_state`, the float geometry that places a contact on the target; the calls are logged, the last one last.
-/

namespace Trackpad

def POINTER_FLAG_INRANGE : UInt32 := 0x00000002
def POINTER_FLAG_INCONTACT : UInt32 := 0x00000004
def POINTER_FLAG_CANCELED : UInt32 := 0x00008000
def POINTER_FLAG_DOWN : UInt32 := 0x00010000
def POINTER_FLAG_UPDATE : UInt32 := 0x00020000
def POINTER_FLAG_UP : UInt32 := 0x00040000
def ERROR_NOT_READY : Nat := 21

structure POINT where
  x : Int
  y : Int
deriving DecidableEq

structure RECT where
  left : Int
  top : Int
  right : Int
  bottom : Int

structure ActiveContact where
  location : POINT
  pressure : Nat
  radius : Int

structure POINTER_TOUCH_INFO where
  pointerId : UInt8
  pointerFlags : UInt32
  ptPixelLocation : POINT
  rcContact : RECT
  pressure : Nat

structure TouchTarget where
  left : Int
  top : Int
  width : Int
  height : Int

/-- One call of `InjectTouchInput`: what it listed, and whether it was delivered. -/
structure Injection where
  contacts : List POINTER_TOUCH_INFO
  delivered : Bool

/-- What a call of `InjectTouchInput` gave, and after a refusal whether the deadline had passed. -/
inductive Answer
  | delivered
  | refused (error : Nat) (expired : Bool)

structure TouchInjector where
  target : TouchTarget
  active : UInt8 → Option ActiveContact
  active_count : Nat
  calls : List Injection

/-- What Windows answers in one call of `accept`. The new place of the target window, or why it has none. -/
structure Windows where
  refresh : Except IoError TouchTarget
  update : List Answer
  transition : List Answer

def to_touch_info (pointer_id : UInt8) (state : ActiveContact) (flags : UInt32) : POINTER_TOUCH_INFO where
  pointerId := pointer_id
  pointerFlags := flags
  ptPixelLocation := state.location
  rcContact :=
    { left := state.location.x - state.radius
      top := state.location.y - state.radius
      right := state.location.x + state.radius
      bottom := state.location.y + state.radius }
  pressure := state.pressure

def transition_flags (was_active touching : Bool) : Option UInt32 :=
  match was_active, touching with
  | false, true => some (POINTER_FLAG_DOWN ||| POINTER_FLAG_INRANGE ||| POINTER_FLAG_INCONTACT)
  | true, true => some (POINTER_FLAG_UPDATE ||| POINTER_FLAG_INRANGE ||| POINTER_FLAG_INCONTACT)
  | true, false => some POINTER_FLAG_UP
  | false, false => none

def fill_update_contacts (active proposed : UInt8 → Option ActiveContact) : List POINTER_TOUCH_INFO :=
  Keyboard.POINTER_IDS.filterMap fun pointer_id =>
    if (active pointer_id).isSome then
      (proposed pointer_id).map fun state =>
        to_touch_info pointer_id state (POINTER_FLAG_UPDATE ||| POINTER_FLAG_INRANGE ||| POINTER_FLAG_INCONTACT)
    else none

/-- `iter().flatten().count()`. -/
def count_active (active : UInt8 → Option ActiveContact) : Nat := Keyboard.POINTER_IDS.countP fun id => (active id).isSome

namespace TouchInjector

variable (os_error : Nat → IoError) (contact_state : TouchTarget → Contact → ActiveContact)

def new (target : TouchTarget) : TouchInjector := ⟨target, fun _ => none, 0, []⟩

def has_active_input (t : TouchInjector) : Bool := t.active_count > 0

def inject_retry (contacts : List POINTER_TOUCH_INFO) :
    List Answer → TouchInjector → Loop (Except IoError Unit) × TouchInjector
  | [], t => (.unfinished, t)
  | .delivered :: _, t => (.finished (.ok ()), { t with calls := t.calls ++ [⟨contacts, true⟩] })
  | .refused error expired :: answers, t =>
    let t := { t with calls := t.calls ++ [⟨contacts, false⟩] }
    if error ≠ ERROR_NOT_READY || expired then (.finished (.error (os_error error)), t)
    else inject_retry contacts answers t

def lift_all (active : UInt8 → Option ActiveContact) : List POINTER_TOUCH_INFO :=
  Keyboard.POINTER_IDS.filterMap fun pointer_id =>
    (active pointer_id).map fun state => to_touch_info pointer_id state (POINTER_FLAG_UP ||| POINTER_FLAG_CANCELED)

def cancel_all (answers : List Answer) (t : TouchInjector) : Loop (Except IoError Unit) × TouchInjector :=
  if t.active_count = 0 then (.finished (.ok ()), t)
  else
    match inject_retry os_error (lift_all t.active) answers t with
    | (.finished (.ok ()), t) => (.finished (.ok ()), { t with active := fun _ => none, active_count := 0 })
    | (result, t) => (result, t)

/-- `target.refresh()`, which `accept` calls while no pointer is down. -/
def refresh (answer : Except IoError TouchTarget) (t : TouchInjector) : Except IoError TouchInjector :=
  if t.active_count = 0 then answer.map fun target => { t with target := target } else .ok t

/-- The table `proposed`. -/
def propose (frame : TouchFrame) (target : TouchTarget) : UInt8 → Option ActiveContact :=
  frame.contacts.items.foldl
    (fun proposed contact => Function.update proposed contact.pointer_id (some (contact_state target contact))) fun _ => none

/-- Whether an UP frame also moved the pointer it lifts. -/
def moved (frame : TouchFrame) (proposed : UInt8 → Option ActiveContact) (t : TouchInjector) : Bool :=
  frame.action = ACTION_UP &&
    match t.active frame.action_pointer_id, proposed frame.action_pointer_id with
    | some previous, some next => previous.location.x ≠ next.location.x || previous.location.y ≠ next.location.y
    | _, _ => false

/-- The contacts of the closing injection: the omitted pointers go up, the others follow the frame. -/
def transitions (frame : TouchFrame) (proposed : UInt8 → Option ActiveContact) (t : TouchInjector) :
    List POINTER_TOUCH_INFO :=
  (Keyboard.POINTER_IDS.filterMap fun pointer_id =>
    if frame.contacts.items.any (·.pointer_id = pointer_id) then none
    else (t.active pointer_id).map fun state => to_touch_info pointer_id state POINTER_FLAG_UP) ++
  frame.contacts.items.filterMap fun contact =>
    (proposed contact.pointer_id).bind fun state =>
      (transition_flags (t.active contact.pointer_id).isSome contact.touching).map (to_touch_info contact.pointer_id state)

/-- The table of the frame's touching contacts. -/
def settle (frame : TouchFrame) (proposed : UInt8 → Option ActiveContact) (t : TouchInjector) : TouchInjector :=
  frame.contacts.items.foldl (fun t contact =>
    if contact.touching then
      { t with
        active := Function.update t.active contact.pointer_id (proposed contact.pointer_id)
        active_count := t.active_count + 1 }
    else t) { t with active := fun _ => none, active_count := 0 }

/-- The part of `accept` after an UP's move was injected. -/
def finish (frame : TouchFrame) (proposed : UInt8 → Option ActiveContact) (answers : List Answer) (t : TouchInjector) :
    Loop (Except IoError Unit) × TouchInjector :=
  if (transitions frame proposed t).isEmpty then (.finished (.ok ()), t.settle frame proposed)
  else
    match inject_retry os_error (transitions frame proposed t) answers t with
    | (.finished (.ok ()), t) => (.finished (.ok ()), t.settle frame proposed)
    | (result, t) => (result, t)

def accept (frame : TouchFrame) (w : Windows) (t : TouchInjector) : Loop (Except IoError Unit) × TouchInjector :=
  if frame.session_start || frame.action = ACTION_CANCEL || !frame.locked then cancel_all os_error w.transition t
  else if frame.action = ACTION_HEARTBEAT && frame.contacts.items.isEmpty then
    let injection := fill_update_contacts t.active t.active
    if injection.isEmpty then (.finished (.ok ()), t) else inject_retry os_error injection w.update t
  else
    match t.refresh w.refresh with
    | .error e => (.finished (.error e), t)
    | .ok t =>
      let proposed := propose contact_state frame t.target
      if moved frame proposed t then
        match inject_retry os_error (fill_update_contacts t.active proposed) w.update t with
        | (.finished (.ok ()), t) =>
          finish os_error frame proposed w.transition { t with active := proposed, active_count := count_active proposed }
        | (result, t) => (result, t)
      else finish os_error frame proposed w.transition t

end TouchInjector

end Trackpad
