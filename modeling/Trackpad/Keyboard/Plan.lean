import Trackpad.Protocol
import Trackpad.Lib.Edges
import Trackpad.Lib.Ownership
/-!
# Planning the key changes of a frame

`plan_into` walks one snapshot against the lanes its contacts own and collects the key
changes in order. `lane_for` maps a contact's `x` to a lane; nothing here depends on which
map it is.
-/

namespace Trackpad.Keyboard

def U16_MAX : Nat := 65535

/-- Which lane each pointer owns, which pointers are pressure-gated, and how many pointers
hold each lane. -/
structure KeyboardState (L : Nat) where
  pointer_lanes : UInt8 → Option (Fin L)
  pressure_suppressed : UInt8 → Bool
  lane_holds : Fin L → Nat

def KeyboardState.new (L : Nat) : KeyboardState L := ⟨fun _ => none, fun _ => false, fun _ => 0⟩

structure KeyChange (L : Nat) where
  lane : Fin L
  down : Bool
  /-- The press of a landing finger, not of a slide. Only re-press spacing reads it. -/
  touch : Bool
deriving DecidableEq, Repr

/-- `Contacts` sits on 16 pointers; every contact can traverse every lane, followed by releases
for omitted contacts. -/
def max_key_changes (lanes : Nat) : Nat := MAX_CONTACTS * (2 * lanes + 1)

variable {L : Nat}

/-- The `next` state and the `changes` buffer that planning mutates. -/
abbrev Plan (L : Nat) := KeyboardState L × List (KeyChange L)

def acquire_lane (lane : Fin L) (touch : Bool) (p : Plan L) : Plan L :=
  let changes := if p.1.lane_holds lane = 0 then p.2 ++ [⟨lane, true, touch⟩] else p.2
  let holds := min (p.1.lane_holds lane + 1) U16_MAX
  ({ p.1 with lane_holds := Function.update p.1.lane_holds lane holds }, changes)

def release_lane (lane : Fin L) (p : Plan L) : Plan L :=
  if p.1.lane_holds lane = 0 then p
  else
    let holds := p.1.lane_holds lane - 1
    let changes := if holds = 0 then p.2 ++ [⟨lane, false, false⟩] else p.2
    ({ p.1 with lane_holds := Function.update p.1.lane_holds lane holds }, changes)

def own (pointer_id : UInt8) (lane : Option (Fin L)) (p : Plan L) : Plan L :=
  ({ p.1 with pointer_lanes := Function.update p.1.pointer_lanes pointer_id lane }, p.2)

def release_pointer (pointer_id : UInt8) (p : Plan L) : Plan L :=
  match p.1.pointer_lanes pointer_id with
  | none => p
  | some lane => release_lane lane (own pointer_id none p)

/-- The neighbour of `current` on the way to `destination`. -/
def next_lane (current destination : Fin L) : Fin L :=
  if h : current < destination then ⟨current + 1, by omega⟩ else ⟨current - 1, by omega⟩

def lane_distance (a b : Fin L) : Nat := (a.val - b.val) + (b.val - a.val)

/-- The `while current != destination` loop of `move_pointer`; the counter is the number of
lanes left to cross. A slide presses the next lane before it leaves the current one. -/
def slide (destination : Fin L) : Nat → Fin L → Plan L → Plan L
  | 0, _, p => p
  | n + 1, current, p =>
    if current = destination then p
    else
      let next := next_lane current destination
      slide destination n next (release_lane current (acquire_lane next false p))

def move_pointer (pointer_id : UInt8) (destination : Fin L) (p : Plan L) : Plan L :=
  match p.1.pointer_lanes pointer_id with
  | none => own pointer_id (some destination) (acquire_lane destination true p)
  | some current =>
    own pointer_id (some destination) (slide destination (lane_distance current destination) current p)

/-- A touching contact that is not pressure-gated owns a lane, inside the play area or not. -/
def Contact.presses (c : Contact) : Bool := c.touching && !c.key_suppressed

section
variable (lane_for : Int → Fin L)

def apply_contact (c : Contact) (p : Plan L) : Plan L :=
  if Contact.presses c then move_pointer c.pointer_id (lane_for c.x) p
  else release_pointer c.pointer_id p

/-- The action pointer first, then the other contacts in snapshot order. -/
def apply_contacts (frame : TouchFrame) (p : Plan L) : Plan L :=
  let contacts := frame.contacts.items
  let p := match contacts.find? (·.pointer_id = frame.action_pointer_id) with
    | some c => apply_contact lane_for c p
    | none => p
  contacts.foldl (fun p c =>
    if c.pointer_id ≠ frame.action_pointer_id then apply_contact lane_for c p else p) p

def POINTER_IDS : List UInt8 := (List.finRange 256).map UInt8.ofFin

def note_suppressed (contacts : List Contact) (state : KeyboardState L) : KeyboardState L :=
  { state with
    pressure_suppressed := contacts.foldl (fun gated c =>
      Function.update gated c.pointer_id (c.touching && c.key_suppressed)) state.pressure_suppressed }

/-- Releases every pointer that owns a lane but is not in the snapshot. -/
def release_missing (contacts : List Contact) (p : Plan L) : Plan L :=
  let present := fun id => contacts.any (·.pointer_id = id)
  let missing := POINTER_IDS.filter fun id => (p.1.pointer_lanes id).isSome && !present id
  missing.foldl (fun p id => release_pointer id p) p

/-- Whether the frame is the press of `c`: its finger-down, or its admission after pressure
gating. -/
def new_press (state : KeyboardState L) (frame : TouchFrame) (c : Contact) : Bool :=
  (frame.action = ACTION_DOWN && c.pointer_id = frame.action_pointer_id) ||
    state.pressure_suppressed c.pointer_id

/-- The repeat press of a contact that joins a lane another finger already holds. -/
def repeat_press (state next : KeyboardState L) (frame : TouchFrame) (split_repress : Bool) (c : Contact) :
    List (KeyChange L) :=
  if new_press state frame c && (state.pointer_lanes c.pointer_id).isNone then
    match next.pointer_lanes c.pointer_id with
    | none => []
    | some lane =>
      if state.lane_holds lane > 0 then
        (if split_repress then [⟨lane, false, false⟩] else []) ++ [⟨lane, true, true⟩]
      else []
  else []

def plan_into (state : KeyboardState L) (frame : TouchFrame) (split_repress : Bool) : Plan L :=
  let contacts := frame.contacts.items
  let next : KeyboardState L :=
    { pointer_lanes := state.pointer_lanes
      pressure_suppressed := fun _ => false
      lane_holds := state.lane_holds }
  let p := apply_contacts lane_for frame (next, [])
  let p := release_missing contacts (note_suppressed contacts p.1, p.2)
  -- A lane owned both before and after the frame keeps its asserted key state.
  let changes := p.2.filter fun c => state.lane_holds c.lane = 0 || p.1.lane_holds c.lane = 0
  (p.1, contacts.foldl (fun changes c => changes ++ repeat_press state p.1 frame split_repress c) changes)

end

end Trackpad.Keyboard
