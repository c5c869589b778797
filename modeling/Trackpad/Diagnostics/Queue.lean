import Mathlib.Logic.Relation
import Trackpad.Lib.Spsc
import Trackpad.Diagnostics.Observe
/-!
# The queue of the recorder

`HostMetrics::record` hands an event to the diagnostic worker over a ring that neither side waits for. Every access of the
two threads to what they share is a step of its own. `finish` raises the flag and joins the worker.
-/

namespace Trackpad.Diagnostics

open Relation

def QUEUE_CAPACITY : Nat := 16384

/-- Where the worker is: in one of its two loops over `pop`, at the flag between them, or done. -/
inductive Worker
  | Draining (last : Bool)
  | Loading
  | Returned
deriving DecidableEq

/-- `HostMetrics` and its worker. `stopped` is the last store of the write index before the flag was stored, `offered`
says of every event handed to `record` whether `push` took it. -/
structure Recording where
  queue : Spsc.Queue Event
  stopped : Option Nat
  worker : Worker
  analysis : Analysis
  dropped : Nat
  drop_span : Option (Nat × Nat)
  offered : List (Event × Bool)

namespace Recording

def new (budget_ns : Nat) : Recording where
  queue := .new (.new 0 0 0 0 [])
  stopped := none
  worker := .Draining false
  analysis := .new budget_ns
  dropped := 0
  drop_span := none
  offered := []

/-- The events `push` took, and those it did not. -/
def accepted (t : Recording) : List Event := (t.offered.filter fun o => o.2).map Prod.fst

def rejected (t : Recording) : List Event := (t.offered.filter fun o => !o.2).map Prod.fst

inductive Action
  /-- `record`, up to the test for room; `position` is the store of the read index that it loads. -/
  | Record (event : Event) (position : Nat)
  | Fill
  | Publish
  /-- `finish` stores the flag. -/
  | Stop
  | Check (position : Nat)
  | Copy
  | Release
  /-- The worker loads the flag: a load may return the old value. -/
  | Load (set : Bool)

/-- No room: the event is counted. -/
def drop_event (event : Event) (t : Recording) : Recording :=
  { t with
    dropped := t.dropped + 1
    drop_span := match t.drop_span with
      | some span => some (span.1, event.at_)
      | none => some (event.at_, event.at_)
    offered := t.offered ++ [(event, false)] }

def step (a : Action) (t : Recording) : Option Recording :=
  match a with
  | .Record event position =>
    if t.stopped.isSome then none
    else (t.queue.push_check QUEUE_CAPACITY event position).map fun (room, queue) =>
      if room then { t with queue := queue } else { t with queue := queue }.drop_event event
  | .Fill => (t.queue.push_slot QUEUE_CAPACITY).map fun queue => { t with queue := queue }
  | .Publish =>
    match t.queue.producer with
    | .Written _ event => t.queue.push_publish.map fun queue =>
        { t with queue := queue, offered := t.offered ++ [(event, true)] }
    | _ => none
  | .Stop =>
    match t.stopped, t.queue.producer with
    | none, .Idle => some { t with stopped := some (t.queue.write.length - 1) }
    | _, _ => none
  | .Check position =>
    match t.worker with
    | .Draining last => (t.queue.pop_check position).map fun (found, queue) =>
        if found then { t with queue := queue }
        else { t with queue := queue, worker := if last then .Returned else .Loading }
    | _ => none
  | .Copy => (t.queue.pop_slot QUEUE_CAPACITY).map fun queue => { t with queue := queue }
  | .Release => t.queue.pop_release.map fun (event, queue) => { t with queue := queue, analysis := t.analysis.observe event }
  | .Load set =>
    match t.worker, set, t.stopped with
    | .Loading, true, some position => some { t with queue := t.queue.synchronize position, worker := .Draining true }
    | .Loading, false, _ => some { t with worker := .Draining false }
    | _, _, _ => none

def Reaches (budget_ns : Nat) (t : Recording) : Prop := ReflTransGen (fun t t' => ∃ a, step a t = some t') (.new budget_ns) t

/-- The analysis and the span of what was dropped, once the worker is joined. -/
def finished (t : Recording) : Option (Analysis × Option (Nat × Nat)) :=
  if t.worker = .Returned then some (t.analysis.finish t.dropped, t.drop_span) else none

/-! ## The invariant -/

/-- Between the first and the last of some events. -/
def span (events : List Event) : Option (Nat × Nat) :=
  match events.head?, events.getLast? with
  | some first, some last => some (first.at_, last.at_)
  | _, _ => none

structure Inv (budget_ns : Nat) (t : Recording) : Prop where
  ring : Spsc.Inv QUEUE_CAPACITY t.queue
  pushed : t.accepted = t.queue.pushed
  dropped : t.dropped = t.rejected.length
  drop_span : t.drop_span = span t.rejected
  full : t.rejected ≠ [] → QUEUE_CAPACITY ≤ t.accepted.length
  analysis : t.analysis = (Analysis.new budget_ns).observed t.queue.popped
  stopped : ∀ position, t.stopped = some position → position = t.queue.pushed.length ∧ t.queue.producer = .Idle
  idle : (∀ last, t.worker ≠ .Draining last) → t.queue.consumer = .Idle
  last : t.worker = .Draining true → ∃ position, t.stopped = some position ∧ position ≤ t.queue.consumer_view.position
  returned : t.worker = .Returned → t.queue.popped = t.queue.pushed ∧ t.stopped.isSome

theorem capacity_dvd : QUEUE_CAPACITY ∣ 2 ^ 64 := by decide
theorem capacity_small : QUEUE_CAPACITY < 2 ^ 64 := by decide

theorem new_inv (budget_ns : Nat) : Inv budget_ns (.new budget_ns) where
  ring := .new _
  pushed := rfl
  dropped := rfl
  drop_span := rfl
  full h := absurd rfl h
  analysis := rfl
  stopped position h := by cases h
  idle h := absurd rfl (h false)
  last h := by cases h
  returned h := by cases h

theorem span_concat (events : List Event) (event : Event) :
    span (events ++ [event]) = some (((span events).map Prod.fst).getD event.at_, event.at_) := by
  cases events with
  | nil => rfl
  | cons first rest =>
    have hlast : (first :: rest).getLast? = some ((first :: rest).getLast (List.cons_ne_nil _ _)) :=
      List.getLast?_eq_some_getLast (List.cons_ne_nil _ _)
    have hconcat : (first :: (rest ++ [event])).getLast? = some event := by
      rw [← List.cons_append, List.getLast?_concat]
    simp [span, hlast, hconcat]

theorem drop_event_span {t : Recording} (h : t.drop_span = span t.rejected) (event : Event) :
    (t.drop_event event).drop_span = span (t.rejected ++ [event]) := by
  rw [span_concat, ← h, drop_event]
  cases t.drop_span <;> rfl

@[simp] theorem drop_event_accepted (event : Event) (t : Recording) : (t.drop_event event).accepted = t.accepted := by
  simp [accepted, drop_event]

@[simp] theorem drop_event_rejected (event : Event) (t : Recording) :
    (t.drop_event event).rejected = t.rejected ++ [event] := by
  simp [rejected, drop_event]

/-! ## Steps -/

section Steps

variable {budget_ns : Nat} {t t' : Recording} {queue : Spsc.Queue Event}

/-- A step of the ring that returns no event and takes none. -/
theorem Inv.with_queue (h : Inv budget_ns t) (hring : Spsc.Inv QUEUE_CAPACITY queue) (hpushed : queue.pushed = t.queue.pushed)
    (hpopped : queue.popped = t.queue.popped) (hproducer : t.stopped.isSome → queue.producer = .Idle)
    (hconsumer : (∀ last, t.worker ≠ .Draining last) → queue.consumer = .Idle)
    (hview : t.queue.consumer_view.position ≤ queue.consumer_view.position) :
    Inv budget_ns { t with queue := queue } where
  ring := hring
  pushed := h.pushed.trans hpushed.symm
  dropped := h.dropped
  drop_span := h.drop_span
  full := h.full
  analysis := by
    dsimp only
    rw [hpopped]
    exact h.analysis
  stopped position hstopped := by
    dsimp only
    rw [hpushed]
    exact ⟨(h.stopped position hstopped).1, hproducer (Option.isSome_of_eq_some hstopped)⟩
  idle := hconsumer
  last hlast := by
    obtain ⟨position, hstopped, hle⟩ := h.last hlast
    exact ⟨position, hstopped, hle.trans hview⟩
  returned hreturned := by
    dsimp only
    rw [hpushed, hpopped]
    exact h.returned hreturned

theorem Inv.drop_event (h : Inv budget_ns t) (hfull : QUEUE_CAPACITY ≤ t.accepted.length) (event : Event) :
    Inv budget_ns (t.drop_event event) where
  ring := h.ring
  pushed := by
    rw [drop_event_accepted]
    exact h.pushed
  dropped := by
    rw [drop_event_rejected, List.length_append, ← h.dropped]
    rfl
  drop_span := by
    rw [drop_event_span h.drop_span, drop_event_rejected]
  full _ := by
    rw [drop_event_accepted]
    exact hfull
  analysis := h.analysis
  stopped := h.stopped
  idle := h.idle
  last := h.last
  returned := h.returned

/-- What is in the ring is let go of one event at a time, and only while the worker drains it. -/
theorem Inv.draining (h : Inv budget_ns t) (hconsumer : t.queue.consumer ≠ .Idle) : ∃ last, t.worker = .Draining last := by
  by_contra hnone
  exact hconsumer (h.idle fun last heq => hnone ⟨last, heq⟩)

theorem Inv.record (h : Inv budget_ns t) {event : Event} {position : Nat}
    (hstep : step (.Record event position) t = some t') : Inv budget_ns t' := by
  unfold step at hstep
  dsimp only at hstep
  split at hstep
  · cases hstep
  · next hrunning =>
    obtain ⟨⟨room, queue⟩, hcheck, heq⟩ := Option.map_eq_some_iff.1 hstep
    obtain ⟨hring, hpushed, hpopped, hconsumer, hview, hroom⟩ := h.ring.push_check capacity_small hcheck
    have hkept : Inv budget_ns { t with queue := queue } :=
      h.with_queue hring hpushed hpopped (fun hs => absurd hs hrunning) (fun hw => hconsumer.trans (h.idle hw)) (by rw [hview])
    cases room with
    | true =>
      cases heq
      exact hkept
    | false =>
      cases heq
      refine hkept.drop_event ?_ event
      rw [← h.pushed] at hroom
      exact (hroom rfl).2

/-- The flag is raised when no event is on its way. -/
theorem Inv.running (h : Inv budget_ns t) (hproducer : t.queue.producer ≠ .Idle) : t.stopped = none := by
  by_contra hsome
  obtain ⟨position, hstopped⟩ := Option.ne_none_iff_exists'.1 hsome
  exact hproducer (h.stopped position hstopped).2

theorem Inv.publish (h : Inv budget_ns t) (hstep : step .Publish t = some t') : Inv budget_ns t' := by
  unfold step at hstep
  dsimp only at hstep
  split at hstep
  · next write event hwritten =>
    obtain ⟨queue, hpublish, heq⟩ := Option.map_eq_some_iff.1 hstep
    obtain ⟨hring, ⟨event', hproducer, hpushed⟩, hpopped, hconsumer, hview⟩ := h.ring.push_publish hpublish
    have hevent : event' = event := by
      rw [hwritten] at hproducer
      cases hproducer
      rfl
    subst hevent
    have hrunning : t.stopped = none := h.running (by simp [hwritten])
    have haccepted : (t.offered ++ [(event', true)]).filter (fun o => o.2) = t.offered.filter (fun o => o.2) ++ [(event', true)] := by
      simp
    cases heq
    constructor
    · exact hring
    · dsimp only
      rw [hpushed, ← h.pushed, accepted, accepted, haccepted]
      simp
    · simpa [rejected] using h.dropped
    · simpa [rejected] using h.drop_span
    · intro hrejected
      have hfull := h.full (by simpa [rejected] using hrejected)
      have hlength : (t.accepted ++ [event']).length = t.accepted.length + 1 := by simp
      simp [accepted] at hfull ⊢
      omega
    · dsimp only
      rw [hpopped]
      exact h.analysis
    · intro position hstopped
      rw [hrunning] at hstopped
      cases hstopped
    · intro hworker
      exact hconsumer.trans (h.idle hworker)
    · intro hlast
      dsimp only
      rw [hview]
      exact h.last hlast
    · intro hreturned
      have hstopped := (h.returned hreturned).2
      rw [hrunning] at hstopped
      cases hstopped
  · cases hstep

theorem Inv.stop (h : Inv budget_ns t) (hstep : step .Stop t = some t') : Inv budget_ns t' := by
  unfold step at hstep
  dsimp only at hstep
  split at hstep
  · next hrunning hidle =>
    cases hstep
    have hposition : t.queue.write.length - 1 = t.queue.pushed.length := by
      rw [h.ring.write, Spsc.counted_length]
      omega
    refine { h with stopped := ?_, last := ?_, returned := ?_ }
    · intro position hstopped
      cases hstopped
      exact ⟨hposition, hidle⟩
    · intro hlast
      obtain ⟨position, hstopped, _⟩ := h.last hlast
      rw [hrunning] at hstopped
      cases hstopped
    · intro hreturned
      exact ⟨(h.returned hreturned).1, rfl⟩
  · cases hstep

/-- The worker returns only when it found nothing after it had seen the flag: nothing was left behind. -/
theorem Inv.check (h : Inv budget_ns t) {position : Nat} (hstep : step (.Check position) t = some t') : Inv budget_ns t' := by
  unfold step at hstep
  dsimp only at hstep
  split at hstep
  · next last hdraining =>
    obtain ⟨⟨found, queue⟩, hcheck, heq⟩ := Option.map_eq_some_iff.1 hstep
    obtain ⟨hring, hpushed, hpopped, hproducer, hposition, hle, hempty⟩ := h.ring.pop_check capacity_small hcheck
    have hworker : ¬∀ last, t.worker ≠ .Draining last := fun hnone => hnone last hdraining
    have hkept : Inv budget_ns { t with queue := queue } := by
      refine h.with_queue hring hpushed hpopped ?_ (fun hnone => absurd hnone hworker) (hposition ▸ hle)
      intro hstopped
      obtain ⟨position, hstopped⟩ := Option.isSome_iff_exists.1 hstopped
      exact hproducer.trans (h.stopped position hstopped).2
    cases found with
    | true =>
      cases heq
      exact hkept
    | false =>
      obtain ⟨hidle, hlength⟩ := hempty rfl
      cases heq
      refine { hkept with idle := fun _ => hidle, last := ?_, returned := ?_ }
      · intro hlast
        cases last <;> cases hlast
      · intro hreturned
        cases last with
        | false => cases hreturned
        | true =>
          obtain ⟨flagged, hstopped, hseen⟩ := h.last hdraining
          have hall : t.queue.pushed.length ≤ t.queue.popped.length := by
            have := (h.stopped flagged hstopped).1
            omega
          have hnothing : queue.popped = queue.pushed := by
            rw [hpushed, hpopped, h.ring.popped, List.take_of_length_le hall]
          exact ⟨hnothing, Option.isSome_of_eq_some hstopped⟩
  · cases hstep

theorem Inv.release (h : Inv budget_ns t) (hstep : step .Release t = some t') : Inv budget_ns t' := by
  unfold step at hstep
  obtain ⟨⟨event, queue⟩, hrelease, heq⟩ := Option.map_eq_some_iff.1 hstep
  obtain ⟨hring, hpushed, hpopped, hproducer, hview, hidle⟩ := h.ring.pop_release hrelease
  obtain ⟨last, hdraining⟩ := h.draining fun hc => by
    rw [Spsc.Queue.pop_release, hc] at hrelease
    cases hrelease
  cases heq
  constructor
  · exact hring
  · exact h.pushed.trans hpushed.symm
  · exact h.dropped
  · exact h.drop_span
  · exact h.full
  · dsimp only
    rw [hpopped, h.analysis]
    simp [Analysis.observed]
  · intro position hstopped
    dsimp only
    rw [hpushed, hproducer]
    exact h.stopped position hstopped
  · intro _
    exact hidle
  · intro hlast
    dsimp only
    rw [hview]
    exact h.last hlast
  · intro hreturned
    dsimp only at hreturned
    rw [hdraining] at hreturned
    cases hreturned

theorem Inv.load (h : Inv budget_ns t) {set : Bool} (hstep : step (.Load set) t = some t') : Inv budget_ns t' := by
  unfold step at hstep
  dsimp only at hstep
  split at hstep
  · next position hloading hstopped =>
    obtain ⟨hposition, hproducer⟩ := h.stopped position hstopped
    have hconsumer : t.queue.consumer = .Idle := h.idle fun last hdraining => by
      rw [hloading] at hdraining
      cases hdraining
    cases hstep
    refine { h with ring := h.ring.synchronize hposition.le, idle := ?_, last := ?_, returned := ?_ }
    · intro hnone
      exact absurd rfl (hnone true)
    · intro _
      exact ⟨position, hstopped, Nat.le_max_right _ _⟩
    · intro hreturned
      cases hreturned
  · next hloading =>
    cases hstep
    refine { h with idle := ?_, last := ?_, returned := ?_ }
    · intro hnone
      exact absurd rfl (hnone false)
    · intro hlast
      cases hlast
    · intro hreturned
      cases hreturned
  · cases hstep

theorem step_inv (h : Inv budget_ns t) (a : Action) (hstep : step a t = some t') : Inv budget_ns t' := by
  cases a with
  | Record event position => exact h.record hstep
  | Fill =>
    unfold step at hstep
    obtain ⟨queue, hslot, heq⟩ := Option.map_eq_some_iff.1 hstep
    obtain ⟨hring, hpushed, hpopped, hconsumer, hview⟩ := h.ring.push_slot capacity_dvd hslot
    have hrunning : t.stopped = none := h.running fun hc => by
      rw [Spsc.Queue.push_slot, hc] at hslot
      cases hslot
    cases heq
    refine h.with_queue hring hpushed hpopped ?_ (fun hw => hconsumer.trans (h.idle hw)) (by rw [hview])
    intro hstopped
    rw [hrunning] at hstopped
    cases hstopped
  | Publish => exact h.publish hstep
  | Stop => exact h.stop hstep
  | Check position => exact h.check hstep
  | Copy =>
    unfold step at hstep
    obtain ⟨queue, hslot, heq⟩ := Option.map_eq_some_iff.1 hstep
    obtain ⟨hring, hpushed, hpopped, hproducer, hview⟩ := h.ring.pop_slot capacity_dvd hslot
    obtain ⟨last, hdraining⟩ := h.draining fun hc => by
      rw [Spsc.Queue.pop_slot, hc] at hslot
      cases hslot
    cases heq
    refine h.with_queue hring hpushed hpopped ?_ (fun hnone => absurd hdraining (hnone last)) (by rw [hview])
    intro hstopped
    obtain ⟨position, hstopped⟩ := Option.isSome_iff_exists.1 hstopped
    exact hproducer.trans (h.stopped position hstopped).2
  | Release => exact h.release hstep
  | Load set => exact h.load hstep

end Steps

/-! ## Runs -/

theorem Reaches.inv {budget_ns : Nat} {t : Recording} (h : Reaches budget_ns t) : Inv budget_ns t := by
  induction h with
  | refl => exact new_inv budget_ns
  | tail _ hstep ih =>
    obtain ⟨a, hstep⟩ := hstep
    exact step_inv ih a hstep

/-- What a recording is, whatever the two threads' steps were: the worker has observed the events `push` took, in their order
and without a race, up to one of them, and all of them once it returned; the others are counted, and there are none
before a whole ring was taken. -/
structure Exact (budget_ns : Nat) (t : Recording) : Prop where
  no_race : t.queue.raced = false
  in_order : t.queue.popped <+: t.accepted
  observed : t.analysis = (Analysis.new budget_ns).observed t.queue.popped
  counted : t.dropped = t.rejected.length
  dropped_span : t.drop_span = span t.rejected
  room : t.offered.length ≤ QUEUE_CAPACITY → t.rejected = []
  complete : ∀ analysis dropped_span, t.finished = some (analysis, dropped_span) →
    analysis = ((Analysis.new budget_ns).observed t.accepted).finish t.rejected.length ∧ dropped_span = span t.rejected

theorem offered_length (t : Recording) : t.offered.length = t.accepted.length + t.rejected.length := by
  rw [accepted, rejected, List.length_map, List.length_map]
  exact List.length_eq_length_filter_add _

theorem recording_exact {budget_ns : Nat} {t : Recording} (h : Reaches budget_ns t) : Exact budget_ns t := by
  have hinv := h.inv
  constructor
  · exact hinv.ring.raced
  · rw [hinv.pushed, hinv.ring.popped]
    exact List.take_prefix _ _
  · exact hinv.analysis
  · exact hinv.dropped
  · exact hinv.drop_span
  · intro hroom
    by_contra hrejected
    have hfull := hinv.full hrejected
    have hlength := t.offered_length
    have hpos := List.length_pos_iff.2 hrejected
    omega
  · intro analysis dropped_span hfinished
    unfold finished at hfinished
    split at hfinished
    · next hreturned =>
      cases hfinished
      rw [hinv.pushed, hinv.analysis, hinv.dropped, (hinv.returned hreturned).1]
      exact ⟨rfl, hinv.drop_span⟩
    · cases hfinished

/-- Steps in a row. -/
def run (actions : List Action) (t : Recording) : Option Recording := actions.foldlM (fun t a => step a t) t

theorem Reaches.run {budget_ns : Nat} {t t' : Recording} (h : Reaches budget_ns t) {actions : List Action}
    (hrun : t.run actions = some t') : Reaches budget_ns t' := by
  induction actions generalizing t with
  | nil =>
    cases hrun
    exact h
  | cons a actions ih =>
    obtain ⟨next, hstep, hrest⟩ := Option.bind_eq_some_iff.1 hrun
    exact ih (h.tail ⟨a, hstep⟩) hrest

/-- An event on its way when the flag is raised, which the worker does not see at first. -/
def late_event : List Action :=
  [.Record (.new BEGIN 5 0 0 []) 0, .Fill, .Publish, .Check 0, .Stop, .Load false, .Check 1, .Copy, .Release, .Check 1, .Load true,
    .Check 1]

theorem recording_exact_joined :
    ∃ t, (new 1000).run late_event = some t ∧ t.finished.isSome ∧ Exact 1000 t := by
  have hjoined : (((new 1000).run late_event).bind finished).isSome := by decide
  obtain ⟨result, hresult⟩ := Option.isSome_iff_exists.1 hjoined
  obtain ⟨t, hrun, hfinished⟩ := Option.bind_eq_some_iff.1 hresult
  exact ⟨t, hrun, Option.isSome_of_eq_some hfinished, recording_exact (Reaches.run .refl hrun)⟩

end Recording
end Trackpad.Diagnostics
