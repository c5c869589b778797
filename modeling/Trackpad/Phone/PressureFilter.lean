import Trackpad.Protocol
/-!
# The pressure filter

`PressureFilter` keeps light touches from pressing keys: a finger is admitted by the first of its samples that meets
the cutoff and stays admitted until its touch ends. A Java `float` is NaN (`none`) or a value of a linear order. The
tables are indexed by `id & 0xff`, the byte that the wire knows a pointer by.
-/

namespace Trackpad

variable {K : Type} [LinearOrder K] [Zero K] [One K]

/-- One pointer of a snapshot, as `update` reads it from its three arrays. -/
structure PressureSample (K : Type) where
  id : Int
  pressure : Option K
  touching : Bool

/-- The arguments of one `update`. -/
structure PressureUpdate (K : Type) where
  action : UInt8
  actionPointerId : Int
  samples : List (PressureSample K)

structure PressureFilter (K : Type) where
  enabled : Bool
  cutoff : K
  admitted : UInt8 → Bool
  present : UInt8 → Bool

/-- `id & 0xff`. -/
def pointerByte (id : Int) : UInt8 := .ofInt id

namespace PressureFilter

def normalize (pressure : Option K) : K :=
  match pressure with
  | none => 0
  | some pressure => max 0 (min 1 pressure)

def meetsCutoff (pressure : Option K) (cutoff : K) : Bool := decide (cutoff ≤ normalize pressure)

/-- The constructor. -/
def new (enabled : Bool) (cutoff : Option K) : PressureFilter K where
  enabled := enabled
  cutoff := normalize cutoff
  admitted := fun _ => false
  present := fun _ => false

/-- One turn of the loop over a snapshot. -/
def take (filter : PressureFilter K) (sample : PressureSample K) : PressureFilter K :=
  let id := pointerByte sample.id
  { filter with
    present := Function.update filter.present id sample.touching
    admitted := Function.update filter.admitted id
      (sample.touching && (filter.admitted id || meetsCutoff sample.pressure filter.cutoff)) }

def update (filter : PressureFilter K) (u : PressureUpdate K) : PressureFilter K :=
  if !filter.enabled then filter
  else if u.action = ACTION_CANCEL then { filter with admitted := fun _ => false }
  else
    let admitted := if u.action = ACTION_DOWN then Function.update filter.admitted (pointerByte u.actionPointerId) false
      else filter.admitted
    let filter := u.samples.foldl take { filter with admitted := admitted, present := fun _ => false }
    -- the sweep over absent pointers
    { filter with admitted := fun id => filter.present id && filter.admitted id }

def contactFlags (filter : PressureFilter K) (pointerId : Int) (touching : Bool) : UInt8 :=
  if filter.enabled && touching && !filter.admitted (pointerByte pointerId) then CONTACT_FLAG_KEY_SUPPRESSED else 0

/-- The filter after a sequence of updates. -/
def run (filter : PressureFilter K) (updates : List (PressureUpdate K)) : PressureFilter K := updates.foldl update filter

end PressureFilter

/-! ## The history of one pointer -/

/-- What happens to the touch of one pointer. -/
inductive PressureEvent (K : Type)
  | sampled (pressure : Option K)
  | interrupted

def PressureSample.event (sample : PressureSample K) : PressureEvent K :=
  if sample.touching then .sampled sample.pressure else .interrupted

namespace PressureUpdate

/-- The samples of a snapshot that belong to a pointer. -/
def samplesOf (u : PressureUpdate K) (pointer : UInt8) : List (PressureSample K) :=
  u.samples.filter fun sample => pointerByte sample.id = pointer

/-- What an update means for a pointer: a CANCEL and its own DOWN interrupt its touch, and so does a sample in which
it does not touch or is absent. -/
def events (u : PressureUpdate K) (pointer : UInt8) : List (PressureEvent K) :=
  if u.action = ACTION_CANCEL then [.interrupted]
  else
    (if u.action = ACTION_DOWN ∧ pointerByte u.actionPointerId = pointer then [.interrupted] else []) ++
    match u.samplesOf pointer with
    | [] => [.interrupted]
    | samples => samples.map PressureSample.event

end PressureUpdate

/-- All that happened to the touches of a pointer. -/
def pressureHistory (updates : List (PressureUpdate K)) (pointer : UInt8) : List (PressureEvent K) :=
  updates.flatMap fun u => u.events pointer

/-- The samples since the last interruption. -/
def currentTouch (events : List (PressureEvent K)) : List (Option K) :=
  events.foldl (fun touch event => match event with
    | .sampled pressure => touch ++ [pressure]
    | .interrupted => []) []

/-! ## The table follows the history -/

namespace PressureFilter

/-- What an event makes of the admission of its pointer. -/
def latch (cutoff : K) (admitted : Bool) (event : PressureEvent K) : Bool :=
  match event with
  | .sampled pressure => admitted || meetsCutoff pressure cutoff
  | .interrupted => false

theorem latch_event (cutoff : K) (admitted : Bool) (sample : PressureSample K) :
    latch cutoff admitted sample.event = (sample.touching && (admitted || meetsCutoff sample.pressure cutoff)) := by
  unfold PressureSample.event
  cases sample.touching <;> rfl

theorem take_foldl_fixed (samples : List (PressureSample K)) (filter : PressureFilter K) :
    (samples.foldl take filter).enabled = filter.enabled ∧ (samples.foldl take filter).cutoff = filter.cutoff := by
  induction samples generalizing filter with
  | nil => exact ⟨rfl, rfl⟩
  | cons sample samples ih => exact ih (filter.take sample)

/-- The loop admits a pointer by its own samples, and one it leaves absent had no sample or was not admitted. -/
theorem take_foldl (samples : List (PressureSample K)) (filter : PressureFilter K) (pointer : UInt8) :
    let own := samples.filter fun sample => pointerByte sample.id = pointer
    (samples.foldl take filter).admitted pointer =
      (own.map PressureSample.event).foldl (latch filter.cutoff) (filter.admitted pointer) ∧
    (own = [] → (samples.foldl take filter).present pointer = filter.present pointer) ∧
    (own ≠ [] → (samples.foldl take filter).admitted pointer = true →
      (samples.foldl take filter).present pointer = true) := by
  induction samples generalizing filter with
  | nil => exact ⟨rfl, fun _ => rfl, fun h => absurd rfl h⟩
  | cons sample samples ih =>
    obtain ⟨hadmitted, habsent, hpresent⟩ := ih (filter.take sample)
    simp only [List.foldl_cons]
    by_cases hown : pointerByte sample.id = pointer
    · have htaken : (filter.take sample).admitted pointer = latch filter.cutoff (filter.admitted pointer) sample.event := by
        rw [latch_event, ← hown]
        exact Function.update_self ..
      rw [List.filter_cons_of_pos (by simpa using hown)]
      refine ⟨?_, fun h => absurd h (List.cons_ne_nil _ _), fun _ hset => ?_⟩
      · rw [hadmitted, htaken]
        rfl
      · by_cases hlast : (samples.filter fun sample => pointerByte sample.id = pointer) = []
        · -- the last sample of the pointer
          rw [hadmitted, hlast, htaken, latch_event] at hset
          have htouching : sample.touching = true := by
            simp only [List.map_nil, List.foldl_nil, Bool.and_eq_true] at hset
            exact hset.1
          rw [habsent hlast, ← htouching, ← hown]
          exact Function.update_self ..
        · exact hpresent hlast hset
    · have hother : (filter.take sample).admitted pointer = filter.admitted pointer :=
        Function.update_of_ne (Ne.symm hown) ..
      have hkept : (filter.take sample).present pointer = filter.present pointer :=
        Function.update_of_ne (Ne.symm hown) ..
      rw [List.filter_cons_of_neg (by simpa using hown)]
      refine ⟨?_, fun hnone => (habsent hnone).trans hkept, hpresent⟩
      rw [hadmitted, hother]
      rfl

theorem update_fixed (filter : PressureFilter K) (u : PressureUpdate K) :
    (filter.update u).enabled = filter.enabled ∧ (filter.update u).cutoff = filter.cutoff := by
  unfold update
  split_ifs
  · exact ⟨rfl, rfl⟩
  · exact ⟨rfl, rfl⟩
  · exact take_foldl_fixed _ _
  · exact take_foldl_fixed _ _

/-- What one update does to the admission of a pointer. -/
theorem update_admitted (filter : PressureFilter K) (henabled : filter.enabled = true) (u : PressureUpdate K)
    (pointer : UInt8) :
    (filter.update u).admitted pointer = (u.events pointer).foldl (latch filter.cutoff) (filter.admitted pointer) := by
  unfold update PressureUpdate.events
  rw [if_neg (by rw [henabled]; decide)]
  by_cases hcancel : u.action = ACTION_CANCEL
  · rw [if_pos hcancel, if_pos hcancel]
    rfl
  · rw [if_neg hcancel, if_neg hcancel]
    set admitted := if u.action = ACTION_DOWN then
      Function.update filter.admitted (pointerByte u.actionPointerId) false else filter.admitted with hreset
    obtain ⟨hset, habsent, hpresent⟩ :=
      take_foldl u.samples { filter with admitted := admitted, present := fun _ => false } pointer
    have hstart : admitted pointer =
        (if u.action = ACTION_DOWN ∧ pointerByte u.actionPointerId = pointer then [PressureEvent.interrupted]
          else []).foldl (latch filter.cutoff) (filter.admitted pointer) := by
      rw [hreset]
      by_cases hdown : u.action = ACTION_DOWN
      · by_cases hown : pointerByte u.actionPointerId = pointer
        · rw [if_pos hdown, if_pos ⟨hdown, hown⟩, hown]
          exact Function.update_self ..
        · rw [if_pos hdown, if_neg (fun h => hown h.2)]
          exact Function.update_of_ne (Ne.symm hown) ..
      · rw [if_neg hdown, if_neg (fun h => hdown h.1)]
        rfl
    rw [List.foldl_append, ← hstart]
    change (_ && _) = _
    unfold PressureUpdate.samplesOf
    split
    · next hnone =>
      rw [habsent hnone]
      rfl
    · next hsome =>
      rw [← hset]
      cases hlatched : (u.samples.foldl take { filter with admitted := admitted, present := fun _ => false }).admitted pointer with
      | false => exact Bool.and_false _
      | true => rw [hpresent (fun h => hsome h) hlatched]; rfl

theorem run_fixed (filter : PressureFilter K) (updates : List (PressureUpdate K)) :
    (filter.run updates).enabled = filter.enabled ∧ (filter.run updates).cutoff = filter.cutoff := by
  induction updates generalizing filter with
  | nil => exact ⟨rfl, rfl⟩
  | cons u updates ih =>
    obtain ⟨henabled, hcutoff⟩ := ih (filter.update u)
    exact ⟨henabled.trans (update_fixed filter u).1, hcutoff.trans (update_fixed filter u).2⟩

/-- The table of a run holds the latch of each pointer's own history. -/
theorem run_admitted (filter : PressureFilter K) (henabled : filter.enabled = true) (updates : List (PressureUpdate K))
    (pointer : UInt8) :
    (filter.run updates).admitted pointer =
      (pressureHistory updates pointer).foldl (latch filter.cutoff) (filter.admitted pointer) := by
  induction updates generalizing filter with
  | nil => rfl
  | cons u updates ih =>
    have hnext := ih (filter.update u) ((update_fixed filter u).1.trans henabled)
    rw [update_admitted filter henabled, (update_fixed filter u).2] at hnext
    rw [pressureHistory, List.flatMap_cons, List.foldl_append]
    exact hnext

/-- The latch is set exactly when a sample of the current touch has met the cutoff. -/
theorem latched_iff (cutoff : K) (events : List (PressureEvent K)) :
    events.foldl (latch cutoff) false = (currentTouch events).any fun pressure => meetsCutoff pressure cutoff := by
  suffices h : ∀ (touch : List (Option K)),
      events.foldl (latch cutoff) (touch.any fun pressure => meetsCutoff pressure cutoff) =
        (events.foldl (fun touch event => match event with
          | .sampled pressure => touch ++ [pressure]
          | .interrupted => []) touch).any fun pressure => meetsCutoff pressure cutoff from h []
  induction events with
  | nil => exact fun _ => rfl
  | cons event events ih =>
    intro touch
    cases event with
    | sampled pressure =>
      rw [List.foldl_cons, List.foldl_cons, ← ih]
      congr 1
      simp [latch]
    | interrupted => exact ih []

/-- Nothing but an interruption ends an admission. -/
theorem latch_held (cutoff : K) (events : List (PressureEvent K)) (hheld : PressureEvent.interrupted ∉ events) :
    events.foldl (latch cutoff) true = true := by
  induction events with
  | nil => rfl
  | cons event events ih =>
    cases event with
    | sampled pressure => exact ih fun h => hheld (List.mem_cons_of_mem _ h)
    | interrupted => exact absurd List.mem_cons_self hheld

/-! ## The flags -/

omit [LinearOrder K] [Zero K] [One K] in
theorem contactFlags_touching (filter : PressureFilter K) (henabled : filter.enabled = true) (pointerId : Int) :
    filter.contactFlags pointerId true =
      if filter.admitted (pointerByte pointerId) then 0 else CONTACT_FLAG_KEY_SUPPRESSED := by
  unfold contactFlags
  rw [henabled]
  cases filter.admitted (pointerByte pointerId) <;> rfl

omit [LinearOrder K] [Zero K] [One K] in
theorem contactFlags_suppressed (filter : PressureFilter K) (henabled : filter.enabled = true) (pointerId : Int) :
    filter.contactFlags pointerId true = CONTACT_FLAG_KEY_SUPPRESSED ↔ filter.admitted (pointerByte pointerId) = false := by
  rw [contactFlags_touching filter henabled]
  cases filter.admitted (pointerByte pointerId) <;> decide

theorem run_enabled (cutoff : Option K) (updates : List (PressureUpdate K)) :
    ((new true cutoff).run updates).enabled = true :=
  (run_fixed _ updates).1

/-- Only a pointer's own touches decide how it is flagged, and they do so by the samples of the current one: it is
suppressed exactly while none of them has met the cutoff, so no later sample of an admitted touch suppresses it. -/
theorem admission_latched (cutoff : Option K) (updates : List (PressureUpdate K)) (pointerId : Int) :
    (((new true cutoff).run updates).contactFlags pointerId true = CONTACT_FLAG_KEY_SUPPRESSED ↔
      ∀ pressure ∈ currentTouch (pressureHistory updates (pointerByte pointerId)),
        meetsCutoff pressure (normalize cutoff) = false) ∧
    (∀ u, PressureEvent.interrupted ∉ u.events (pointerByte pointerId) →
      ((new true cutoff).run updates).contactFlags pointerId true = 0 →
      ((new true cutoff).run (updates ++ [u])).contactFlags pointerId true = 0) ∧
    ∀ others : List (PressureUpdate K),
      pressureHistory others (pointerByte pointerId) = pressureHistory updates (pointerByte pointerId) →
      ((new true cutoff).run others).contactFlags pointerId true =
        ((new true cutoff).run updates).contactFlags pointerId true := by
  have hadmitted := fun updates => run_admitted (new true cutoff) rfl updates (pointerByte pointerId)
  refine ⟨?_, fun u hheld hset => ?_, fun others hsame => ?_⟩
  · rw [contactFlags_suppressed _ (run_enabled cutoff updates), hadmitted]
    change List.foldl (latch (normalize cutoff)) false _ = false ↔ _
    rw [latched_iff, List.any_eq_false]
    simp only [Bool.not_eq_true]
  · rw [contactFlags_touching _ (run_enabled cutoff _)] at hset ⊢
    rw [show (new true cutoff).run (updates ++ [u]) = ((new true cutoff).run updates).update u from List.foldl_concat ..,
      update_admitted _ (run_enabled cutoff updates)]
    cases hbefore : ((new true cutoff).run updates).admitted (pointerByte pointerId) with
    | false => rw [hbefore] at hset; exact absurd hset (by decide)
    | true => rw [latch_held _ _ hheld]; rfl
  · rw [contactFlags_touching _ (run_enabled cutoff _), contactFlags_touching _ (run_enabled cutoff _), hadmitted, hadmitted,
      hsame]

end PressureFilter

end Trackpad
