import Trackpad.Protocol
/-!
# Touch capture on a locked view

`handleLockedTouch` turns Android's motion events into the snapshots that the transport is offered. `F` stands for the
code's `float`, and a `Layout` for what the code computes with it. A pointer is captured by its down; the lock button
and, in thumb mode, the center gap keep theirs.
-/

namespace Trackpad

variable {F : Type}

/-! ## Motion events -/

inductive MaskedAction
  | ACTION_DOWN | ACTION_UP | ACTION_MOVE | ACTION_CANCEL | ACTION_POINTER_DOWN | ACTION_POINTER_UP
deriving DecidableEq, Repr

/-- What Android reports of one pointer at one moment. -/
structure Axes (F : Type) where
  x : F
  y : F
  pressure : F
  touchMajor : F

/-- `pointerId & 0xFF`. -/
def normalized (pointerId : Nat) : UInt8 := .ofNat pointerId

/-- A motion event. Android reports at most sixteen pointers at once, under distinct small ids. -/
structure MotionEvent (F : Type) where
  action : MaskedAction
  pointerIds : List Nat
  actionIndex : Fin pointerIds.length
  axes : Nat → Axes F
  eventTimeNanos : Int
  historySize : Nat
  historicalAxes : Nat → Nat → Axes F
  historicalEventTimeNanos : Nat → Int
  bounded : pointerIds.length ≤ MAX_CONTACTS
  distinct : (pointerIds.map normalized).Nodup

namespace MotionEvent

/-- The pointer the event is about. -/
def pointerId (event : MotionEvent F) : Nat := event.pointerIds.get event.actionIndex

def x (event : MotionEvent F) : F := (event.axes event.actionIndex).x
def y (event : MotionEvent F) : F := (event.axes event.actionIndex).y

def isDown (event : MotionEvent F) : Bool := event.action = .ACTION_DOWN || event.action = .ACTION_POINTER_DOWN
def isUp (event : MotionEvent F) : Bool := event.action = .ACTION_UP || event.action = .ACTION_POINTER_UP

end MotionEvent

/-- The view's geometry when an event comes in. -/
structure Layout (F : Type) where
  lockButton : F → F → Bool
  physicalZoneX : F → F → F
  isInGap : F → Bool
  mapCapturedX : F → F
  zoneY : F → F → F
  scaleMajor : F → F

/-! ## The view -/

/-- The three values a byte of `pointerDisposition` takes. -/
inductive Disposition
  | POINTER_NONE | POINTER_CAPTURED | POINTER_IGNORED
deriving DecidableEq, Repr

structure FrameContact (F : Type) where
  pointerId : UInt8
  x : F
  y : F
  pressure : F
  touchMajor : F
  touching : Bool

/-- The arguments of one `offerFrame`. -/
structure Offer (F : Type) where
  action : UInt8
  actionPointerId : Nat
  locked : Bool
  eventNanos : Int
  callbackNanos : Int
  historical : Bool
  contacts : List (FrameContact F)

/-- What a touch reads and writes of the view. `lockPointerId` is `none` for -1. -/
structure TrackpadView where
  thumbMode : Bool
  locked : Bool
  lockPointerId : Option Nat
  pointerDisposition : UInt8 → Disposition

namespace TrackpadView

def clearPointerState (view : TrackpadView) : TrackpadView :=
  { view with pointerDisposition := fun _ => .POINTER_NONE }

def dispose (pointerId : Nat) (disposition : Disposition) (view : TrackpadView) : TrackpadView :=
  { view with pointerDisposition := Function.update view.pointerDisposition (normalized pointerId) disposition }

def cancelAll (eventNanos now : Int) (view : TrackpadView) : TrackpadView × List (Offer F) :=
  (view.clearPointerState, [⟨ACTION_CANCEL, 0, false, eventNanos, now, false, []⟩])

/-- `setLocked(false)` of a locked view. -/
def unlock (now : Int) (view : TrackpadView) : TrackpadView × List (Offer F) :=
  let (view, offers) := view.cancelAll now now
  (({ view with locked := false }).clearPointerState, offers)

def hasCapturedPointer (event : MotionEvent F) (view : TrackpadView) : Bool :=
  event.pointerIds.any fun pointerId => view.lockPointerId != some pointerId &&
    (!view.thumbMode || view.pointerDisposition (normalized pointerId) == .POINTER_CAPTURED)

/-- The contact of the pointer at one index, from the event or from its history. -/
def frameContact (layout : Layout F) (axes : Axes F) (rawPointerId : Nat) (touching : Bool) (view : TrackpadView) :
    FrameContact F :=
  let physicalX := layout.physicalZoneX axes.x axes.y
  { pointerId := normalized rawPointerId
    x := if view.thumbMode then layout.mapCapturedX physicalX else physicalX
    y := layout.zoneY axes.x axes.y
    pressure := axes.pressure
    touchMajor := layout.scaleMajor axes.touchMajor
    touching := touching }

/-- The loop of `sendFrame` over the pointers from `pointerIndex` on. -/
def frameContacts (layout : Layout F) (axes : Nat → Axes F) (lifting : Option Nat) (view : TrackpadView) :
    List Nat → (pointerIndex : Nat) → List (FrameContact F) → Except String (List (FrameContact F))
  | [], _, contacts => .ok contacts
  | rawPointerId :: rest, pointerIndex, contacts =>
    if view.lockPointerId = some rawPointerId then view.frameContacts layout axes lifting rest (pointerIndex + 1) contacts
    else if view.thumbMode && view.pointerDisposition (normalized rawPointerId) != .POINTER_CAPTURED then
      view.frameContacts layout axes lifting rest (pointerIndex + 1) contacts
    else if contacts.length ≥ MAX_CONTACTS then .error "Touch controller exceeded 16 contacts"
    else
      view.frameContacts layout axes lifting rest (pointerIndex + 1)
        (contacts ++ [view.frameContact layout (axes pointerIndex) rawPointerId (lifting != some rawPointerId)])

/-- One snapshot of the event, current where `historyIndex` is `none`. -/
def sendFrame (layout : Layout F) (event : MotionEvent F) (historyIndex : Option Nat) (action : UInt8) (actionPointerId : Nat)
    (callbackNanos : Int) (view : TrackpadView) : Except String (Offer F) :=
  let axes := historyIndex.elim event.axes fun h index => event.historicalAxes index h
  let lifting := if action = ACTION_UP then some actionPointerId else none
  match view.frameContacts layout axes lifting event.pointerIds 0 [] with
  | .error e => .error e
  | .ok contacts =>
    .ok
      { action := action
        actionPointerId := actionPointerId
        locked := true
        eventNanos := historyIndex.elim event.eventTimeNanos event.historicalEventTimeNanos
        callbackNanos := callbackNanos
        historical := historyIndex.isSome
        contacts := contacts }

def sendCurrentFrame (layout : Layout F) (event : MotionEvent F) (action : UInt8) (actionPointerId : Nat)
    (callbackNanos : Int) (view : TrackpadView) : Except String (Offer F) :=
  view.sendFrame layout event none action actionPointerId callbackNanos

def sendMoveFrames (layout : Layout F) (event : MotionEvent F) (callbackNanos : Int) (view : TrackpadView) :
    Except String (List (Offer F)) :=
  ((List.range event.historySize).map some ++ [none]).mapM fun historyIndex =>
    view.sendFrame layout event historyIndex ACTION_MOVE 0 callbackNanos

def lockedDown (layout : Layout F) (event : MotionEvent F) (callbackNanos : Int) (view : TrackpadView) :
    Except String (TrackpadView × List (Offer F)) :=
  if layout.lockButton event.x event.y then .ok ({ view with lockPointerId := some event.pointerId }, [])
  else if view.thumbMode && layout.isInGap (layout.physicalZoneX event.x event.y) then
    .ok (view.dispose event.pointerId .POINTER_IGNORED, [])
  else
    let view := view.dispose event.pointerId .POINTER_CAPTURED
    (view.sendCurrentFrame layout event ACTION_DOWN event.pointerId callbackNanos).map fun offer => (view, [offer])

def lockedUp (layout : Layout F) (event : MotionEvent F) (callbackNanos now : Int) (view : TrackpadView) :
    Except String (TrackpadView × List (Offer F)) :=
  if view.lockPointerId = some event.pointerId then
    if layout.lockButton event.x event.y then
      let (view, offers) := view.unlock now
      .ok ({ view with lockPointerId := none }, offers)
    else .ok ({ view with lockPointerId := none }, [])
  else if view.pointerDisposition (normalized event.pointerId) = .POINTER_IGNORED then
    .ok (view.dispose event.pointerId .POINTER_NONE, [])
  else
    (view.sendCurrentFrame layout event ACTION_UP event.pointerId callbackNanos).map fun offer =>
      (view.dispose event.pointerId .POINTER_NONE, [offer])

/-- A motion event on a locked view, with the snapshots it offers. -/
def handleLockedTouch (layout : Layout F) (event : MotionEvent F) (callbackNanos now : Int) (view : TrackpadView) :
    Except String (TrackpadView × List (Offer F)) :=
  match event.action with
  | .ACTION_DOWN | .ACTION_POINTER_DOWN => view.lockedDown layout event callbackNanos
  | .ACTION_MOVE =>
    if view.hasCapturedPointer event then
      (view.sendMoveFrames layout event callbackNanos).map fun offers => (view, offers)
    else .ok (view, [])
  | .ACTION_UP | .ACTION_POINTER_UP => view.lockedUp layout event callbackNanos now
  | .ACTION_CANCEL => .ok (view.cancelAll event.eventTimeNanos now)

/-- The view just after `setLocked(true)`. -/
def justLocked (thumbMode : Bool) : TrackpadView := ⟨thumbMode, true, none, fun _ => .POINTER_NONE⟩

end TrackpadView

/-! ## Captured pointers -/

/-- A pointer on the surface. -/
structure Held where
  id : Nat
  captured : Bool
deriving DecidableEq, Repr

/-- A down outside the lock button captures, and outside the center gap in thumb mode. -/
def Layout.captures (layout : Layout F) (thumbMode : Bool) (event : MotionEvent F) : Bool :=
  !layout.lockButton event.x event.y && !(thumbMode && layout.isInGap (layout.physicalZoneX event.x event.y))

namespace MotionEvent

/-- The pointers an event is about: those held before it and the one that comes down. -/
def present (layout : Layout F) (thumbMode : Bool) (held : List Held) (event : MotionEvent F) : List Held :=
  if event.isDown then ⟨event.pointerId, layout.captures thumbMode event⟩ :: held else held

/-- The pointers still down after an event. -/
def remaining (layout : Layout F) (thumbMode : Bool) (held : List Held) (event : MotionEvent F) : List Held :=
  match event.action with
  | .ACTION_DOWN | .ACTION_POINTER_DOWN | .ACTION_MOVE => event.present layout thumbMode held
  | .ACTION_UP | .ACTION_POINTER_UP => held.filter fun p => p.id != event.pointerId
  | .ACTION_CANCEL => []

def lifting (event : MotionEvent F) : Option Nat := if event.isUp then some event.pointerId else none

/-- What Android may deliver while `held` are down. -/
structure WellFormed (held : List Held) (event : MotionEvent F) : Prop where
  first : event.action = .ACTION_DOWN → held = []
  further : event.action = .ACTION_POINTER_DOWN → held ≠ []
  moving : event.action = .ACTION_MOVE → held ≠ []
  last : event.action = .ACTION_UP → held.length = 1
  others : event.action = .ACTION_POINTER_UP → 1 < held.length
  pointers : event.pointerIds.Perm (if event.isDown then event.pointerId :: held.map Held.id else held.map Held.id)

end MotionEvent

/-- A snapshot has the captured pointers as its contacts, touching but for the lifting one. -/
def Offer.Exact (present : List Held) (lifting : Option Nat) (offer : Offer F) : Prop :=
  (offer.contacts.map fun c => (c.pointerId, c.touching)).Perm
    ((present.filter Held.captured).map fun p => (normalized p.id, lifting != some p.id))

/-- What an event on the locked view offers. -/
structure Complete (layout : Layout F) (thumbMode : Bool) (held : List Held) (event : MotionEvent F)
    (offers : List (Offer F)) : Prop where
  exact : event.action ≠ .ACTION_CANCEL →
    ∀ offer ∈ offers, offer.Exact (event.present layout thumbMode held) event.lifting
  down : event.isDown = true → layout.captures thumbMode event = true →
    ∃ offer ∈ offers, offer.action = ACTION_DOWN ∧ offer.actionPointerId = event.pointerId
  up : event.isUp = true → ∀ p ∈ held, p.id = event.pointerId → p.captured = true →
    ∃ offer ∈ offers, offer.action = ACTION_UP ∧ offer.actionPointerId = event.pointerId

namespace TrackpadView

/-- The events delivered while the view stays locked, each of them permitted. `left` are the pointers still down from
the gesture that locked it. -/
inductive Run (permits : TrackpadView → List Held → Layout F → MotionEvent F → Prop) (thumbMode : Bool) (left : List Held) :
    TrackpadView → List Held → Prop
  | locked : Run permits thumbMode left (justLocked thumbMode) left
  | touched {view view' : TrackpadView} {held : List Held} {offers : List (Offer F)} (layout : Layout F)
      (event : MotionEvent F) (callbackNanos now : Int) (run : Run permits thumbMode left view held)
      (delivered : event.WellFormed held) (permitted : permits view held layout event)
      (handled : view.handleLockedTouch layout event callbackNanos now = .ok (view', offers))
      (stays : view'.locked = true) : Run permits thumbMode left view' (event.remaining layout thumbMode held)

/-- No captured pointer comes down under the id in `lockPointerId`, and outside thumb mode none comes down on the lock
button while the one of that id is down. -/
structure Permits (view : TrackpadView) (held : List Held) (layout : Layout F) (event : MotionEvent F) : Prop where
  fresh : event.isDown = true → layout.captures view.thumbMode event = true → view.lockPointerId ≠ some event.pointerId
  alone : view.thumbMode = false → event.isDown = true → layout.lockButton event.x event.y = true →
    ∀ p ∈ held, view.lockPointerId ≠ some p.id

/-- The view knows which of the pointers down are captured. -/
structure Knows (thumbMode : Bool) (held : List Held) (view : TrackpadView) : Prop where
  mode : view.thumbMode = thumbMode
  locked : view.locked = true
  lock : ∀ p ∈ held, p.captured = true → view.lockPointerId ≠ some p.id
  table : thumbMode = true → ∀ n, view.pointerDisposition n = .POINTER_CAPTURED ↔
    ∃ p ∈ held, normalized p.id = n ∧ p.captured = true
  plain : thumbMode = false → (∀ n, view.pointerDisposition n ≠ .POINTER_IGNORED) ∧
    ∀ p ∈ held, p.captured = true ∨ view.lockPointerId = some p.id

/-- Whether the frame loop takes up a pointer. -/
def takes (view : TrackpadView) (pointerId : Nat) : Bool :=
  view.lockPointerId != some pointerId &&
    (!view.thumbMode || view.pointerDisposition (normalized pointerId) == .POINTER_CAPTURED)

theorem Knows.takes {thumbMode : Bool} {held : List Held} {view : TrackpadView} (h : Knows thumbMode held view)
    (hdistinct : (held.map fun p => normalized p.id).Nodup) {p : Held} (hp : p ∈ held) : view.takes p.id = p.captured := by
  have hmode := h.mode
  rw [Bool.eq_iff_iff]
  simp only [TrackpadView.takes, Bool.and_eq_true, bne_iff_ne, Bool.or_eq_true, Bool.not_eq_true', beq_iff_eq]
  constructor
  · rintro ⟨hlock, hmodes⟩
    cases hthumb : thumbMode with
    | false =>
      rcases (h.plain hthumb).2 p hp with hcaptured | hlocked
      · exact hcaptured
      · exact absurd hlocked hlock
    | true =>
      rw [hmode, hthumb] at hmodes
      obtain ⟨q, hq, hsame, hcaptured⟩ := (h.table hthumb _).1 (hmodes.resolve_left (by simp))
      rwa [List.inj_on_of_nodup_map hdistinct hq hp hsame] at hcaptured
  · intro hcaptured
    refine ⟨h.lock p hp hcaptured, ?_⟩
    cases hthumb : thumbMode with
    | false => exact .inl (hmode.trans hthumb)
    | true => exact .inr ((h.table hthumb _).2 ⟨p, hp, rfl, hcaptured⟩)

/-! ## One frame -/

/-- The loop appends the pointers it takes up, in their order. -/
theorem frameContacts_spec (layout : Layout F) (axes : Nat → Axes F) (lifting : Option Nat) (view : TrackpadView)
    (ids : List Nat) (index : Nat) (contacts : List (FrameContact F)) (hroom : contacts.length + ids.length ≤ MAX_CONTACTS) :
    ∃ new, view.frameContacts layout axes lifting ids index contacts = .ok (contacts ++ new) ∧
      (new.map fun c => (c.pointerId, c.touching)) =
        (ids.filter view.takes).map fun id => (normalized id, lifting != some id) := by
  induction ids generalizing index contacts with
  | nil => exact ⟨[], by rw [frameContacts, List.append_nil], rfl⟩
  | cons id ids ih =>
    rw [List.length_cons] at hroom
    rw [frameContacts]
    split
    · rename_i hlock
      obtain ⟨new, hnew, hmap⟩ := ih (index + 1) contacts (by omega)
      refine ⟨new, hnew, ?_⟩
      rw [hmap, List.filter_cons_of_neg (by simp [takes, hlock])]
    split
    · rename_i hlock hother
      obtain ⟨new, hnew, hmap⟩ := ih (index + 1) contacts (by omega)
      refine ⟨new, hnew, ?_⟩
      rw [hmap, List.filter_cons_of_neg]
      simp only [Bool.and_eq_true, bne_iff_ne] at hother
      simp [takes, hother.1, hother.2]
    · rename_i hlock hcaptured
      have htakes : view.takes id = true := by
        simp only [Bool.and_eq_true, bne_iff_ne, not_and, Decidable.not_not] at hcaptured
        simp only [takes, Bool.and_eq_true, bne_iff_ne, Bool.or_eq_true, Bool.not_eq_true', beq_iff_eq]
        refine ⟨hlock, ?_⟩
        cases hmode : view.thumbMode with
        | false => exact .inl rfl
        | true => exact .inr (hcaptured hmode)
      rw [if_neg (by omega)]
      obtain ⟨new, hnew, hmap⟩ := ih (index + 1)
        (contacts ++ [view.frameContact layout (axes index) id (lifting != some id)])
        (by rw [List.length_append, List.length_singleton]; omega)
      refine ⟨view.frameContact layout (axes index) id (lifting != some id) :: new, ?_, ?_⟩
      · rw [hnew, List.append_assoc]
        rfl
      · rw [List.map_cons, hmap, List.filter_cons_of_pos htakes]
        rfl

/-- A view that knows the pointers present offers exactly the captured ones. -/
theorem sendFrame_exact {thumbMode : Bool} {present : List Held} {view : TrackpadView} (h : Knows thumbMode present view)
    (layout : Layout F) {event : MotionEvent F} (hpointers : event.pointerIds.Perm (present.map Held.id))
    (historyIndex : Option Nat) (action : UInt8) (actionPointerId : Nat) (callbackNanos : Int) :
    ∃ offer, view.sendFrame layout event historyIndex action actionPointerId callbackNanos = .ok offer ∧
      offer.action = action ∧ offer.actionPointerId = actionPointerId ∧
      offer.Exact present (if action = ACTION_UP then some actionPointerId else none) := by
  have hdistinct : (present.map fun p => normalized p.id).Nodup := by
    have hmapped := (hpointers.map normalized).nodup_iff.1 event.distinct
    rwa [List.map_map] at hmapped
  obtain ⟨contacts, hcontacts, hmap⟩ := view.frameContacts_spec layout
    (historyIndex.elim event.axes fun h index => event.historicalAxes index h)
    (if action = ACTION_UP then some actionPointerId else none) event.pointerIds 0 []
    (by rw [List.length_nil, Nat.zero_add]; exact event.bounded)
  rw [List.nil_append] at hcontacts
  refine ⟨⟨action, actionPointerId, true, historyIndex.elim event.eventTimeNanos event.historicalEventTimeNanos,
    callbackNanos, historyIndex.isSome, contacts⟩, ?_, rfl, rfl, ?_⟩
  · simp only [sendFrame, hcontacts]
  have hfilter : (present.map Held.id).filter view.takes = (present.filter Held.captured).map Held.id := by
    rw [List.filter_map]
    exact congrArg _ (List.filter_congr fun p hp => h.takes hdistinct hp)
  have hperm := (hpointers.filter view.takes).map
    fun id => (normalized id, (if action = ACTION_UP then some actionPointerId else none) != some id)
  rw [hfilter, List.map_map] at hperm
  rw [Offer.Exact, hmap]
  exact hperm

/-- Such a snapshot fits the transport: at most sixteen contacts, with distinct ids. -/
theorem exact_fits {present : List Held} {lifting : Option Nat} {offer : Offer F} {event : MotionEvent F}
    (h : offer.Exact present lifting) (hpointers : event.pointerIds.Perm (present.map Held.id)) :
    offer.contacts.length ≤ MAX_CONTACTS ∧ (offer.contacts.map FrameContact.pointerId).Nodup := by
  have hids : (offer.contacts.map FrameContact.pointerId).Perm
      ((present.filter Held.captured).map fun p => normalized p.id) := by
    have hfirst := List.Perm.map Prod.fst h
    rwa [List.map_map, List.map_map] at hfirst
  constructor
  · have hlength := hids.length_eq
    have hfewer := List.length_filter_le Held.captured present
    have hall := hpointers.length_eq
    have hbounded := event.bounded
    rw [List.length_map] at hall
    rw [List.length_map, List.length_map] at hlength
    omega
  · have hdistinct := (hpointers.map normalized).nodup_iff.1 event.distinct
    rw [List.map_map] at hdistinct
    exact hids.nodup_iff.2 (hdistinct.sublist (List.filter_sublist.map _))

/-! ## One event -/

section Events

variable {thumbMode : Bool} {held : List Held} {view : TrackpadView} {layout : Layout F} {event : MotionEvent F}

theorem present_down (hdown : event.isDown = true) :
    event.present layout thumbMode held = ⟨event.pointerId, layout.captures thumbMode event⟩ :: held := if_pos hdown

theorem present_held (hdown : event.isDown = false) : event.present layout thumbMode held = held := by
  rw [MotionEvent.present, hdown]
  rfl

/-- The pointers present are the event's. -/
theorem present_ids (layout : Layout F) (thumbMode : Bool) (hw : event.WellFormed held) :
    event.pointerIds.Perm ((event.present layout thumbMode held).map Held.id) := by
  have hpointers := hw.pointers
  cases hdown : event.isDown with
  | true =>
    rw [hdown] at hpointers
    rw [present_down hdown]
    exact hpointers
  | false =>
    rw [hdown] at hpointers
    rw [present_held hdown]
    exact hpointers

/-- A pointer that comes down shares its place in the table with none that is down. -/
theorem down_fresh (hw : event.WellFormed held) (hdown : event.isDown = true) {p : Held} (hp : p ∈ held) :
    normalized p.id ≠ normalized event.pointerId := by
  have hdistinct := (hw.pointers.map normalized).nodup_iff.1 event.distinct
  rw [if_pos hdown, List.map_cons, List.nodup_cons, List.map_map] at hdistinct
  exact fun hsame => hdistinct.1 (List.mem_map.2 ⟨p, hp, hsame⟩)

theorem held_distinct (hw : event.WellFormed held) (hdown : event.isDown = false) :
    (held.map fun p => normalized p.id).Nodup := by
  have hdistinct := (hw.pointers.map normalized).nodup_iff.1 event.distinct
  rw [hdown, if_neg Bool.false_ne_true, List.map_map] at hdistinct
  exact hdistinct

/-- The lock button keeps a pointer. -/
theorem Knows.down_locked (h : Knows thumbMode held view) (hw : event.WellFormed held) (hdown : event.isDown = true)
    (hbutton : layout.lockButton event.x event.y = true)
    (halone : thumbMode = false → ∀ p ∈ held, view.lockPointerId ≠ some p.id) :
    Knows thumbMode (event.present layout thumbMode held) { view with lockPointerId := some event.pointerId } := by
  have hout : layout.captures thumbMode event = false := by simp [Layout.captures, hbutton]
  rw [present_down hdown, hout]
  refine ⟨h.mode, h.locked, ?_, ?_, ?_⟩
  · intro p hp hcaptured
    rcases List.mem_cons.1 hp with rfl | hp
    · cases hcaptured
    · intro hsame
      exact down_fresh hw hdown hp (congrArg normalized (Option.some.inj hsame).symm)
  · intro hthumb n
    rw [h.table hthumb n]
    simp
  · intro hplain
    obtain ⟨hnone, hall⟩ := h.plain hplain
    refine ⟨hnone, fun p hp => ?_⟩
    rcases List.mem_cons.1 hp with rfl | hp
    · exact .inr rfl
    · exact .inl ((hall p hp).resolve_right (halone hplain p hp))

/-- The table takes up a pointer that comes down outside the lock button. -/
theorem Knows.down_disposed (h : Knows thumbMode held view) (hw : event.WellFormed held) (hdown : event.isDown = true)
    {disposition : Disposition} (hdisposition : disposition = .POINTER_CAPTURED ↔ layout.captures thumbMode event = true)
    (hlock : layout.captures thumbMode event = true → view.lockPointerId ≠ some event.pointerId)
    (hplain : thumbMode = false → layout.captures thumbMode event = true) :
    Knows thumbMode (event.present layout thumbMode held) (view.dispose event.pointerId disposition) := by
  have hfresh : ∀ p ∈ held, normalized p.id ≠ normalized event.pointerId :=
    fun p hp => down_fresh hw hdown hp
  rw [present_down hdown]
  refine ⟨h.mode, h.locked, ?_, ?_, ?_⟩
  · intro p hp hcaptured
    rcases List.mem_cons.1 hp with rfl | hp
    · exact hlock hcaptured
    · exact h.lock p hp hcaptured
  · intro hthumb n
    rw [dispose]
    dsimp only
    by_cases hn : n = normalized event.pointerId
    · subst hn
      rw [Function.update_self, hdisposition]
      constructor
      · intro hcaptured
        exact ⟨_, List.mem_cons_self, rfl, hcaptured⟩
      · rintro ⟨p, hp, hsame, hcaptured⟩
        rcases List.mem_cons.1 hp with rfl | hp
        · exact hcaptured
        · exact absurd hsame (hfresh p hp)
    · rw [Function.update_of_ne hn, h.table hthumb n]
      constructor
      · rintro ⟨p, hp, hsame, hcaptured⟩
        exact ⟨p, List.mem_cons_of_mem _ hp, hsame, hcaptured⟩
      · rintro ⟨p, hp, hsame, hcaptured⟩
        rcases List.mem_cons.1 hp with rfl | hp
        · exact absurd hsame.symm hn
        · exact ⟨p, hp, hsame, hcaptured⟩
  · intro hmode
    obtain ⟨hnone, hall⟩ := h.plain hmode
    have hcaptured := hplain hmode
    refine ⟨fun n => ?_, fun p hp => ?_⟩
    · rw [dispose]
      dsimp only
      by_cases hn : n = normalized event.pointerId
      · subst hn
        rw [Function.update_self, hdisposition.2 hcaptured]
        decide
      · rw [Function.update_of_ne hn]
        exact hnone n
    · rcases List.mem_cons.1 hp with rfl | hp
      · exact .inl hcaptured
      · exact hall p hp

/-- The lock button gives its pointer up. -/
theorem Knows.lifted_locked (h : Knows thumbMode held view) (hlock : view.lockPointerId = some event.pointerId) :
    Knows thumbMode (held.filter fun p => p.id != event.pointerId) { view with lockPointerId := none } := by
  refine ⟨h.mode, h.locked, fun p _ _ => by simp, ?_, ?_⟩
  · intro hthumb n
    rw [h.table hthumb n]
    constructor
    · rintro ⟨p, hp, hsame, hcaptured⟩
      have hother : p.id ≠ event.pointerId := by
        intro hid
        exact h.lock p hp hcaptured (hid ▸ hlock)
      exact ⟨p, List.mem_filter.2 ⟨hp, by simpa using hother⟩, hsame, hcaptured⟩
    · rintro ⟨p, hp, hsame, hcaptured⟩
      exact ⟨p, (List.mem_filter.1 hp).1, hsame, hcaptured⟩
  · intro hplain
    obtain ⟨hnone, hall⟩ := h.plain hplain
    refine ⟨hnone, fun p hp => ?_⟩
    obtain ⟨hp, hother⟩ := List.mem_filter.1 hp
    left
    refine (hall p hp).resolve_right fun hsame => ?_
    rw [hlock, Option.some.injEq] at hsame
    rw [hsame, bne_self_eq_false] at hother
    cases hother

/-- The table gives up the pointer that lifts. -/
theorem Knows.lifted (h : Knows thumbMode held view) (hw : event.WellFormed held) (hdown : event.isDown = false) :
    Knows thumbMode (held.filter fun p => p.id != event.pointerId) (view.dispose event.pointerId .POINTER_NONE) := by
  have hdistinct := held_distinct hw hdown
  obtain ⟨lifted, hlifted, hid⟩ : ∃ p ∈ held, p.id = event.pointerId := by
    have hmem := hw.pointers.subset (List.get_mem event.pointerIds event.actionIndex)
    rw [hdown, if_neg Bool.false_ne_true] at hmem
    exact List.mem_map.1 hmem
  refine ⟨h.mode, h.locked, fun p hp => h.lock p (List.mem_filter.1 hp).1, ?_, ?_⟩
  · intro hthumb n
    rw [dispose]
    dsimp only
    by_cases hn : n = normalized event.pointerId
    · subst hn
      rw [Function.update_self]
      refine ⟨fun hnone => (by cases hnone), ?_⟩
      rintro ⟨p, hp, hsame, -⟩
      obtain ⟨hp, hother⟩ := List.mem_filter.1 hp
      have hsame : p = lifted := List.inj_on_of_nodup_map hdistinct hp hlifted (by rw [hid]; exact hsame)
      rw [hsame, hid, bne_self_eq_false] at hother
      cases hother
    · rw [Function.update_of_ne hn, h.table hthumb n]
      constructor
      · rintro ⟨p, hp, hsame, hcaptured⟩
        have hother : p.id ≠ event.pointerId := fun hid => hn (hsame.symm.trans (congrArg normalized hid))
        exact ⟨p, List.mem_filter.2 ⟨hp, by simpa using hother⟩, hsame, hcaptured⟩
      · rintro ⟨p, hp, hsame, hcaptured⟩
        exact ⟨p, (List.mem_filter.1 hp).1, hsame, hcaptured⟩
  · intro hplain
    obtain ⟨hnone, hall⟩ := h.plain hplain
    refine ⟨fun n => ?_, fun p hp => hall p (List.mem_filter.1 hp).1⟩
    rw [dispose]
    dsimp only
    by_cases hn : n = normalized event.pointerId
    · subst hn
      rw [Function.update_self]
      decide
    · rw [Function.update_of_ne hn]
      exact hnone n

/-- A cancelled gesture leaves nothing in the table; `lockPointerId` stays. -/
theorem Knows.cancelled (h : Knows thumbMode held view) : Knows thumbMode [] view.clearPointerState := by
  refine ⟨h.mode, h.locked, fun p hp => absurd hp List.not_mem_nil, ?_, ?_⟩
  · intro hthumb n
    simp [clearPointerState]
  · intro hplain
    exact ⟨fun n => by simp [clearPointerState], fun p hp => absurd hp List.not_mem_nil⟩

theorem isUp_of_isDown (hdown : event.isDown = true) : event.isUp = false := by
  simp only [MotionEvent.isDown, MotionEvent.isUp, Bool.or_eq_true, decide_eq_true_eq] at hdown ⊢
  rcases hdown with hdown | hdown <;> rw [hdown] <;> rfl

/-- A down is kept by the lock button or the gap, or offers its snapshot. -/
theorem lockedDown_spec (h : Knows thumbMode held view) (hw : event.WellFormed held) (hp : Permits view held layout event)
    (hdown : event.isDown = true) (callbackNanos : Int) :
    ∃ view' offers, view.lockedDown layout event callbackNanos = .ok (view', offers) ∧
      Knows thumbMode (event.present layout thumbMode held) view' ∧ Complete layout thumbMode held event offers := by
  have hup := isUp_of_isDown hdown
  have hnone : ∀ {offers : List (Offer F)}, layout.captures thumbMode event = false → offers = [] →
      Complete layout thumbMode held event offers := by
    rintro offers hout rfl
    refine ⟨fun _ offer hoffer => absurd hoffer List.not_mem_nil, fun _ hcaptures => ?_, fun hlift => ?_⟩
    · rw [hout] at hcaptures
      cases hcaptures
    · rw [hup] at hlift
      cases hlift
  rw [lockedDown]
  split
  · rename_i hbutton
    refine ⟨_, _, rfl, h.down_locked hw hdown hbutton fun hplain => hp.alone (h.mode.trans hplain) hdown hbutton, hnone ?_ rfl⟩
    simp [Layout.captures, hbutton]
  split
  · rename_i hbutton hgap
    rw [h.mode] at hgap
    have hout : layout.captures thumbMode event = false := by simp [Layout.captures, hgap]
    refine ⟨_, _, rfl, h.down_disposed hw hdown ?_ ?_ ?_, hnone hout rfl⟩
    · simp [hout]
    · simp [hout]
    · intro hplain
      simp [hplain] at hgap
  · rename_i hbutton hgap
    rw [h.mode] at hgap
    have hcaptures : layout.captures thumbMode event = true := by simp [Layout.captures, hbutton, hgap]
    have hknows : Knows thumbMode (event.present layout thumbMode held) (view.dispose event.pointerId .POINTER_CAPTURED) :=
      h.down_disposed hw hdown (by simp [hcaptures]) (fun _ => hp.fresh hdown (by rw [h.mode]; exact hcaptures))
        fun _ => hcaptures
    obtain ⟨offer, hoffer, haction, hpointer, hexact⟩ := sendFrame_exact hknows layout (present_ids layout thumbMode hw) none
      ACTION_DOWN event.pointerId callbackNanos
    refine ⟨_, [offer], by simp only [sendCurrentFrame, hoffer, Except.map], hknows, ?_, ?_, ?_⟩
    · rintro - other hother
      obtain rfl := List.mem_singleton.1 hother
      rw [MotionEvent.lifting, hup]
      exact hexact
    · intro _ _
      exact ⟨offer, List.mem_singleton_self _, haction, hpointer⟩
    · intro hlift
      rw [hup] at hlift
      cases hlift

/-- What holds of every frame holds of all of them. -/
theorem mapM_frames {α β : Type} {f : α → Except String β} {P : β → Prop} (l : List α) (h : ∀ a ∈ l, ∃ b, f a = .ok b ∧ P b) :
    ∃ bs, l.mapM f = .ok bs ∧ ∀ b ∈ bs, P b := by
  induction l with
  | nil => exact ⟨[], rfl, fun b hb => absurd hb List.not_mem_nil⟩
  | cons a l ih =>
    obtain ⟨b, hb, hP⟩ := h a List.mem_cons_self
    obtain ⟨bs, hbs, hall⟩ := ih fun a ha => h a (List.mem_cons_of_mem _ ha)
    refine ⟨b :: bs, by rw [List.mapM_cons, hb, hbs]; rfl, ?_⟩
    intro c hc
    rcases List.mem_cons.1 hc with rfl | hc
    · exact hP
    · exact hall c hc

/-- A move offers its history and then the current moment. -/
theorem sendMoveFrames_spec (h : Knows thumbMode held view) (hw : event.WellFormed held) (hmove : event.action = .ACTION_MOVE)
    (callbackNanos : Int) :
    ∃ offers, view.sendMoveFrames layout event callbackNanos = .ok offers ∧
      ∀ offer ∈ offers, offer.Exact (event.present layout thumbMode held) event.lifting := by
  have hdown : event.isDown = false := by rw [MotionEvent.isDown, hmove]; rfl
  have hlifting : event.lifting = none := by rw [MotionEvent.lifting, MotionEvent.isUp, hmove]; rfl
  have hpresent : event.present layout thumbMode held = held := present_held hdown
  apply mapM_frames
  intro historyIndex _
  obtain ⟨offer, hoffer, -, -, hexact⟩ := sendFrame_exact h layout (hpresent ▸ present_ids layout thumbMode hw) historyIndex
    ACTION_MOVE 0 callbackNanos
  rw [hlifting, hpresent]
  exact ⟨offer, hoffer, hexact⟩

/-- An up that leaves the view locked is the lock button's or the gap's, or offers its snapshot. -/
theorem lockedUp_spec (h : Knows thumbMode held view) (hw : event.WellFormed held) (hdown : event.isDown = false)
    (hup : event.isUp = true) (callbackNanos now : Int) :
    ∃ view' offers, view.lockedUp layout event callbackNanos now = .ok (view', offers) ∧
      (view'.locked = true → Knows thumbMode (held.filter fun p => p.id != event.pointerId) view' ∧
        Complete layout thumbMode held event offers) := by
  have hnone : ∀ {offers : List (Offer F)}, (∀ p ∈ held, p.id = event.pointerId → p.captured = false) → offers = [] →
      Complete layout thumbMode held event offers := by
    rintro offers hout rfl
    refine ⟨fun _ offer hoffer => absurd hoffer List.not_mem_nil, fun hd => ?_, fun _ p hp hid hcaptured => ?_⟩
    · rw [hdown] at hd
      cases hd
    · rw [hout p hp hid] at hcaptured
      cases hcaptured
  rw [lockedUp]
  split
  · rename_i hlock
    split
    · exact ⟨_, _, rfl, fun hlocked => by cases hlocked⟩
    · refine ⟨_, _, rfl, fun _ => ⟨h.lifted_locked hlock, hnone ?_ rfl⟩⟩
      intro p hp hid
      exact Bool.eq_false_iff.2 fun hcaptured => h.lock p hp hcaptured (hid ▸ hlock)
  split
  · rename_i hlock hignored
    refine ⟨_, _, rfl, fun _ => ⟨h.lifted hw hdown, hnone ?_ rfl⟩⟩
    intro p hp hid
    refine Bool.eq_false_iff.2 fun hcaptured => ?_
    cases hthumb : thumbMode with
    | false => exact (h.plain hthumb).1 _ hignored
    | true =>
      have htable := (h.table hthumb _).2 ⟨p, hp, congrArg normalized hid, hcaptured⟩
      rw [hignored] at htable
      cases htable
  · have hids := present_ids layout thumbMode hw
    rw [present_held hdown] at hids
    obtain ⟨offer, hoffer, haction, hpointer, hexact⟩ := sendFrame_exact h layout hids none ACTION_UP event.pointerId
      callbackNanos
    refine ⟨_, [offer], by simp only [sendCurrentFrame, hoffer, Except.map], fun _ => ⟨h.lifted hw hdown, ?_, ?_, ?_⟩⟩
    · rintro - other hother
      obtain rfl := List.mem_singleton.1 hother
      rw [present_held hdown, MotionEvent.lifting, hup]
      exact hexact
    · intro hd
      rw [hdown] at hd
      cases hd
    · intro _ p hp hid hcaptured
      exact ⟨offer, List.mem_singleton_self _, haction, hpointer⟩

/-- A permitted event keeps what the view knows, and offers what it should. -/
theorem handleLockedTouch_spec (h : Knows thumbMode held view) (hw : event.WellFormed held)
    (hp : Permits view held layout event) (callbackNanos now : Int) :
    ∃ view' offers, view.handleLockedTouch layout event callbackNanos now = .ok (view', offers) ∧
      (view'.locked = true → Knows thumbMode (event.remaining layout thumbMode held) view' ∧
        Complete layout thumbMode held event offers) := by
  have hdowns : event.isDown = true → event.remaining layout thumbMode held = event.present layout thumbMode held →
      ∃ view' offers, view.lockedDown layout event callbackNanos = .ok (view', offers) ∧
        (view'.locked = true → Knows thumbMode (event.remaining layout thumbMode held) view' ∧
          Complete layout thumbMode held event offers) := by
    intro hdown hremaining
    obtain ⟨view', offers, hok, hknows, hcomplete⟩ := lockedDown_spec h hw hp hdown callbackNanos
    exact ⟨view', offers, hok, fun _ => ⟨hremaining ▸ hknows, hcomplete⟩⟩
  unfold handleLockedTouch
  split
  · rename_i haction
    exact hdowns (by rw [MotionEvent.isDown, haction]; rfl) (by rw [MotionEvent.remaining, haction])
  · rename_i haction
    exact hdowns (by rw [MotionEvent.isDown, haction]; rfl) (by rw [MotionEvent.remaining, haction])
  · rename_i haction
    have hdown : event.isDown = false := by rw [MotionEvent.isDown, haction]; rfl
    have hup : event.isUp = false := by rw [MotionEvent.isUp, haction]; rfl
    have hknows : Knows thumbMode (event.remaining layout thumbMode held) view := by
      rw [MotionEvent.remaining, haction]
      rwa [present_held hdown]
    have hcomplete : ∀ offers, (∀ offer ∈ offers, offer.Exact (event.present layout thumbMode held) event.lifting) →
        Complete layout thumbMode held event offers := by
      intro offers hexact
      refine ⟨fun _ => hexact, fun hd => ?_, fun hu => ?_⟩
      · rw [hdown] at hd
        cases hd
      · rw [hup] at hu
        cases hu
    split
    · obtain ⟨offers, hoffers, hexact⟩ := sendMoveFrames_spec h hw haction callbackNanos
      exact ⟨view, offers, by simp only [hoffers, Except.map], fun _ => ⟨hknows, hcomplete offers hexact⟩⟩
    · exact ⟨view, [], rfl, fun _ => ⟨hknows, hcomplete [] fun offer hoffer => absurd hoffer List.not_mem_nil⟩⟩
  · rename_i haction
    rw [MotionEvent.remaining, haction]
    exact lockedUp_spec h hw (by rw [MotionEvent.isDown, haction]; rfl) (by rw [MotionEvent.isUp, haction]; rfl) _ now
  · rename_i haction
    rw [MotionEvent.remaining, haction]
    exact lockedUp_spec h hw (by rw [MotionEvent.isDown, haction]; rfl) (by rw [MotionEvent.isUp, haction]; rfl) _ now
  · rename_i haction
    rw [MotionEvent.remaining, haction]
    refine ⟨_, _, rfl, fun _ => ⟨h.cancelled, fun hnot => absurd haction hnot, fun hd => ?_, fun hu => ?_⟩⟩
    · rw [MotionEvent.isDown, haction] at hd
      cases hd
    · rw [MotionEvent.isUp, haction] at hu
      cases hu

end Events

/-! ## Runs -/

theorem justLocked_knows {thumbMode : Bool} {left : List Held} (hleft : ∀ p ∈ left, p.captured = !thumbMode) :
    Knows thumbMode left (justLocked thumbMode) := by
  refine ⟨rfl, rfl, fun p _ _ => by simp [justLocked], ?_, ?_⟩
  · rintro rfl n
    refine ⟨fun hnone => (by cases hnone), ?_⟩
    rintro ⟨p, hp, -, hcaptured⟩
    rw [hleft p hp] at hcaptured
    cases hcaptured
  · rintro rfl
    exact ⟨fun n hnone => (by cases hnone), fun p hp => .inl (hleft p hp)⟩

theorem Run.knows {thumbMode : Bool} {left held : List Held} {view : TrackpadView}
    (h : Run (F := F) Permits thumbMode left view held) (hleft : ∀ p ∈ left, p.captured = !thumbMode) :
    Knows thumbMode held view := by
  induction h with
  | locked => exact justLocked_knows hleft
  | touched layout event callbackNanos now run delivered permitted handled stays ih =>
    obtain ⟨view', offers, hok, hnext⟩ := handleLockedTouch_spec ih delivered permitted callbackNanos now
    rw [handled] at hok
    obtain ⟨rfl, rfl⟩ := Prod.mk.inj (Except.ok.inj hok)
    exact (hnext stays).1

/-- While the view stays locked and no captured pointer comes down under a stale `lockPointerId`, nor a second pointer
on the lock button outside thumb mode, every event offers exactly the captured pointers that are down. -/
theorem captured_exact {thumbMode : Bool} {left held : List Held} {view : TrackpadView}
    (hrun : Run (F := F) Permits thumbMode left view held) (hleft : ∀ p ∈ left, p.captured = !thumbMode) (layout : Layout F)
    (event : MotionEvent F) (callbackNanos now : Int) (hdelivered : event.WellFormed held)
    (hpermitted : Permits view held layout event) :
    ∃ view' offers, view.handleLockedTouch layout event callbackNanos now = .ok (view', offers) ∧
      (view'.locked = true → Complete layout thumbMode held event offers) := by
  obtain ⟨view', offers, hok, hnext⟩ := handleLockedTouch_spec (hrun.knows hleft) hdelivered hpermitted callbackNanos now
  exact ⟨view', offers, hok, fun hlocked => (hnext hlocked).2⟩

/-- A layout whose lock button is where `x` is 0. -/
def benchLayout : Layout Nat where
  lockButton x _ := x == 0
  physicalZoneX x _ := x
  isInGap x := x == 2
  mapCapturedX x := x
  zoneY _ y := y
  scaleMajor major := major

/-- An event of pointer 0 at `x`. -/
def benchTouch (action : MaskedAction) (x : Nat) : MotionEvent Nat where
  action := action
  pointerIds := [0]
  actionIndex := 0
  axes _ := ⟨x, 0, 0, 0⟩
  eventTimeNanos := 0
  historySize := 0
  historicalAxes _ _ := ⟨x, 0, 0, 0⟩
  historicalEventTimeNanos _ := 0
  bounded := by decide
  distinct := by decide

theorem benchTouch_wellFormed {action : MaskedAction} {x : Nat} {held : List Held} (hdown : action = .ACTION_DOWN → held = [])
    (hheld : action ≠ .ACTION_DOWN → held.map Held.id = [0]) (hone : action ≠ .ACTION_POINTER_DOWN ∧ action ≠ .ACTION_POINTER_UP) :
    (benchTouch action x).WellFormed held := by
  have hlength : action ≠ .ACTION_DOWN → held.length = 1 := by
    intro hother
    have hlength := congrArg List.length (hheld hother)
    rwa [List.length_map] at hlength
  refine ⟨hdown, fun h => absurd h hone.1, ?_, ?_, fun h => absurd h hone.2, ?_⟩
  · rintro (hmove : action = _) rfl
    exact absurd (hlength (by rw [hmove]; decide)) (by decide)
  · intro (hup : action = _)
    exact hlength (by rw [hup]; decide)
  · by_cases hd : action = .ACTION_DOWN
    · obtain rfl := hdown hd
      subst hd
      exact List.Perm.refl _
    · have hnot : (benchTouch action x).isDown = false := by
        rw [MotionEvent.isDown, Bool.or_eq_false_iff]
        exact ⟨decide_eq_false hd, decide_eq_false hone.1⟩
      rw [hnot, if_neg Bool.false_ne_true, hheld hd]
      exact List.Perm.refl _

/-- A finger in thumb mode comes down beside the gap and lifts. -/
theorem captured_exact_thumb :
    ∃ view' offers, ((justLocked true).dispose 0 .POINTER_CAPTURED).handleLockedTouch benchLayout (benchTouch .ACTION_UP 3) 0 0 =
      .ok (view', offers) ∧ (view'.locked = true → Complete benchLayout true [⟨0, true⟩] (benchTouch .ACTION_UP 3) offers) :=
  captured_exact
    (.touched benchLayout (benchTouch .ACTION_DOWN 3) 0 0 .locked
      (benchTouch_wellFormed (fun _ => rfl) (fun h => absurd rfl h) (by decide))
      ⟨fun _ _ => by decide, fun h => (by cases h)⟩ rfl rfl)
    (fun p hp => absurd hp List.not_mem_nil) benchLayout _ 0 0
    (benchTouch_wellFormed (fun h => by cases h) (fun _ => rfl) (by decide))
    ⟨fun h => (by cases h), fun h => (by cases h)⟩

/-- A gesture cancelled while pointer 0 is on the lock button leaves its id in `lockPointerId`: the next pointer 0 is
in no snapshot. -/
theorem captured_missed :
    ¬ ∀ (thumbMode : Bool) (view view' : TrackpadView) (held : List Held) (layout : Layout Nat) (event : MotionEvent Nat)
      (callbackNanos now : Int) (offers : List (Offer Nat)), Run (F := Nat) (fun _ _ _ _ => True) thumbMode [] view held →
      event.WellFormed held → view.handleLockedTouch layout event callbackNanos now = .ok (view', offers) →
      view'.locked = true → Complete layout thumbMode held event offers := by
  intro hall
  have hrun : Run (F := Nat) (fun _ _ _ _ => True) false [] { justLocked false with lockPointerId := some 0 } [] :=
    .touched benchLayout (benchTouch .ACTION_CANCEL 0) 0 0
      (.touched benchLayout (benchTouch .ACTION_DOWN 0) 0 0 .locked
        (benchTouch_wellFormed (fun _ => rfl) (fun h => absurd rfl h) (by decide)) trivial rfl rfl)
      (benchTouch_wellFormed (fun h => by cases h) (fun _ => rfl) (by decide)) trivial rfl rfl
  have hcomplete := hall _ _ _ _ benchLayout (benchTouch .ACTION_DOWN 1) 0 0 _ hrun
    (benchTouch_wellFormed (fun _ => rfl) (fun h => absurd rfl h) (by decide)) rfl rfl
  have hexact := hcomplete.exact (by decide) _ (List.mem_singleton_self _)
  exact absurd hexact.length_eq (by decide)

end TrackpadView

end Trackpad
