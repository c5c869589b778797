import Mathlib.Data.List.Infix
import Mathlib.Data.Nat.ModEq
/-!
# A ring between one producer and one consumer

Slots of plain memory between two indices. Each index is stored by one side only, with release, and a load by the
other side, with acquire, returns any of its stores that is not older than the one it returned before. With a store
comes what its side had done before it. An access of a slot races when the last access of the other side to it did not
come with what was loaded.
-/

namespace Spsc

/-- A store of an index, with how many slots its side had accessed before. -/
structure Store where
  value : UInt64
  accesses : Nat

/-- What a side has of the other one: where the store it loaded last is, and the accesses that came with it. -/
structure View where
  position : Nat
  accesses : Nat

/-- A slot, with the access of each side that was its last, counted from one. -/
structure Slot (α : Type) where
  content : α
  written : Nat
  read : Nat

/-- Where the producer is in `push`. -/
inductive Producer (α : Type)
  | Idle
  | Checked (write : UInt64) (event : α)
  | Written (write : UInt64) (event : α)

/-- Where the consumer is in `pop`. -/
inductive Consumer (α : Type)
  | Idle
  | Checked (read : UInt64)
  | Copied (read : UInt64) (event : α)

/-- `pushed` and `popped` are what both returned so far, `raced` whether any access raced. -/
structure Queue (α : Type) where
  slots : Nat → Slot α
  write : List Store
  read : List Store
  writes : Nat
  reads : Nat
  producer : Producer α
  producer_view : View
  consumer : Consumer α
  consumer_view : View
  raced : Bool
  pushed : List α
  popped : List α

variable {α : Type} (capacity : Nat)

/-- The last store of an index, which its own side loads. -/
def last_value (stores : List Store) : UInt64 := (stores.getLast?.map Store.value).getD 0

/-- A load by the other side: the store at `position`. -/
def View.load (stores : List Store) (position : Nat) (v : View) : Option (UInt64 × View) :=
  if v.position ≤ position then stores[position]?.map fun store => (store.value, ⟨position, max v.accesses store.accesses⟩)
  else none

namespace Queue

def new (default : α) : Queue α where
  slots := fun _ => ⟨default, 0, 0⟩
  write := [⟨0, 0⟩]
  read := [⟨0, 0⟩]
  writes := 0
  reads := 0
  producer := .Idle
  producer_view := ⟨0, 0⟩
  consumer := .Idle
  consumer_view := ⟨0, 0⟩
  raced := false
  pushed := []
  popped := []

/-! ## The three steps of `push` -/

/-- Whether there is room, as far as the load of `read` tells. -/
def push_check (event : α) (position : Nat) (q : Queue α) : Option (Bool × Queue α) :=
  match q.producer with
  | .Idle => (q.producer_view.load q.read position).map fun (read, view) =>
      let write := last_value q.write
      let q := { q with producer_view := view }
      if write - read = .ofNat capacity then (false, q) else (true, { q with producer := .Checked write event })
  | _ => none

def push_slot (q : Queue α) : Option (Queue α) :=
  match q.producer with
  | .Checked write event =>
    let index := write.toNat % capacity
    let slot := q.slots index
    some { q with
      slots := Function.update q.slots index { slot with content := event, written := q.writes + 1 }
      writes := q.writes + 1
      raced := q.raced || decide (q.producer_view.accesses < slot.read)
      producer := .Written write event }
  | _ => none

def push_publish (q : Queue α) : Option (Queue α) :=
  match q.producer with
  | .Written write event => some { q with
      write := q.write ++ [⟨write + 1, q.writes⟩]
      producer := .Idle
      pushed := q.pushed ++ [event] }
  | _ => none

/-! ## The three steps of `pop` -/

/-- Whether there is an event, as far as the load of `write` tells. -/
def pop_check (position : Nat) (q : Queue α) : Option (Bool × Queue α) :=
  match q.consumer with
  | .Idle => (q.consumer_view.load q.write position).map fun (write, view) =>
      let read := last_value q.read
      let q := { q with consumer_view := view }
      if read = write then (false, q) else (true, { q with consumer := .Checked read })
  | _ => none

def pop_slot (q : Queue α) : Option (Queue α) :=
  match q.consumer with
  | .Checked read =>
    let index := read.toNat % capacity
    let slot := q.slots index
    some { q with
      slots := Function.update q.slots index { slot with read := q.reads + 1 }
      reads := q.reads + 1
      raced := q.raced || decide (q.consumer_view.accesses < slot.written)
      consumer := .Copied read slot.content }
  | _ => none

def pop_release (q : Queue α) : Option (α × Queue α) :=
  match q.consumer with
  | .Copied read event => some (event, { q with
      read := q.read ++ [⟨read + 1, q.reads⟩]
      consumer := .Idle
      popped := q.popped ++ [event] })
  | _ => none

/-- The consumer learns, by a flag that was set after the store at `position`, of that store. -/
def synchronize (position : Nat) (q : Queue α) : Queue α :=
  { q with consumer_view := ⟨max q.consumer_view.position position,
      max q.consumer_view.accesses ((q.write[position]?.map Store.accesses).getD 0)⟩ }

end Queue

/-! ## The invariant -/

/-- The stores of an index that has moved `n` times. -/
def counted (n : Nat) : List Store := (List.range (n + 1)).map fun i => ⟨.ofNat i, i⟩

/-- Where the producer is, `published` events on. -/
def Producer.At (published writes position : Nat) (slots : Nat → Slot α) : Producer α → Prop
  | .Idle => writes = published
  | .Checked write _ => writes = published ∧ write = .ofNat published ∧ published < position + capacity
  | .Written write event => writes = published + 1 ∧ write = .ofNat published ∧ published < position + capacity ∧
      (slots (published % capacity)).content = event ∧ (slots (published % capacity)).written = published + 1

def Consumer.At (released reads position : Nat) (pushed : List α) : Consumer α → Prop
  | .Idle => reads = released
  | .Checked read => reads = released ∧ read = .ofNat released ∧ released < position
  | .Copied read event => reads = released + 1 ∧ read = .ofNat released ∧ released < position ∧ pushed[released]? = some event

structure Inv (q : Queue α) : Prop where
  write : q.write = counted q.pushed.length
  read : q.read = counted q.popped.length
  popped : q.popped = q.pushed.take q.popped.length
  producer : q.producer.At capacity q.pushed.length q.writes q.producer_view.position q.slots
  producer_view : q.producer_view.accesses = q.producer_view.position ∧ q.producer_view.position ≤ q.popped.length ∧
    q.pushed.length ≤ q.producer_view.position + capacity
  consumer : q.consumer.At q.popped.length q.reads q.consumer_view.position q.pushed
  consumer_view : q.consumer_view.accesses = q.consumer_view.position ∧ q.consumer_view.position ≤ q.pushed.length ∧
    q.popped.length ≤ q.consumer_view.position
  unread : ∀ i, q.popped.length ≤ i → ∀ event, q.pushed[i]? = some event →
    (q.slots (i % capacity)).content = event ∧ (q.slots (i % capacity)).written = i + 1
  last_read : ∀ j, (q.slots j).read = 0 ∨ ∃ i < q.reads, i % capacity = j ∧ (q.slots j).read = i + 1
  raced : q.raced = false

/-! ## Numbers that wrap -/

theorem counted_get {n i : Nat} (h : i ≤ n) : (counted n)[i]? = some ⟨.ofNat i, i⟩ := by
  rw [counted, List.getElem?_map, List.getElem?_range (Nat.lt_succ_of_le h)]
  rfl

theorem counted_length (n : Nat) : (counted n).length = n + 1 := by simp [counted]

theorem counted_last (n : Nat) : last_value (counted n) = .ofNat n := by
  simp [last_value, counted, List.range_succ]

theorem counted_succ (n : Nat) : counted n ++ [⟨.ofNat n + 1, n + 1⟩] = counted (n + 1) := by
  rw [counted, counted, List.range_succ (n := n + 1), List.map_append, List.map_singleton, UInt64.ofNat_add]
  rfl

section Wrapping

variable {capacity}

theorem full_iff (hsmall : capacity < 2 ^ 64) {write read : Nat} (hle : read ≤ write) (hroom : write ≤ read + capacity) :
    UInt64.ofNat write - UInt64.ofNat read = UInt64.ofNat capacity ↔ write = read + capacity := by
  rw [← UInt64.toNat_inj, UInt64.toNat_sub, UInt64.toNat_ofNat', UInt64.toNat_ofNat', UInt64.toNat_ofNat']
  omega

theorem empty_iff (hsmall : capacity < 2 ^ 64) {write read : Nat} (hle : read ≤ write) (hroom : write ≤ read + capacity) :
    UInt64.ofNat read = UInt64.ofNat write ↔ read = write := by
  rw [← UInt64.toNat_inj, UInt64.toNat_ofNat', UInt64.toNat_ofNat']
  omega

theorem slot_index (hdvd : capacity ∣ 2 ^ 64) (n : Nat) : (UInt64.ofNat n).toNat % capacity = n % capacity := by
  rw [UInt64.toNat_ofNat', Nat.mod_mod_of_dvd _ hdvd]

/-- Two numbers of one slot are a lap apart. -/
theorem lap {i j : Nat} (hlt : i < j) (hslot : i % capacity = j % capacity) : i + capacity ≤ j := by
  have hdvd : capacity ∣ j - i := (Nat.modEq_iff_dvd' hlt.le).1 hslot
  have hle := Nat.le_of_dvd (Nat.sub_pos_of_lt hlt) hdvd
  omega

end Wrapping

/-- A load returns a store of the count that goes with it. -/
theorem load_counted {n position : Nat} {v v' : View} {value : UInt64} (hv : v.accesses = v.position)
    (h : v.load (counted n) position = some (value, v')) :
    value = .ofNat position ∧ v'.accesses = v'.position ∧ v'.position = position ∧ v.position ≤ position ∧ position ≤ n := by
  unfold View.load at h
  split at h
  · next hle =>
    obtain ⟨store, hstore, heq⟩ := Option.map_eq_some_iff.1 h
    have hn : position ≤ n := by
      have hlt := (List.getElem?_eq_some_iff.1 hstore).1
      rw [counted_length] at hlt
      omega
    rw [counted_get hn] at hstore
    cases hstore
    cases heq
    refine ⟨rfl, ?_, rfl, hle, hn⟩
    dsimp only
    omega
  · cases h

/-! ## Steps -/

section Steps

variable {capacity} {q q' : Queue α} (hdvd : capacity ∣ 2 ^ 64) (hsmall : capacity < 2 ^ 64)

theorem Inv.new (default : α) : Inv capacity (Queue.new default) where
  write := rfl
  read := rfl
  popped := rfl
  producer := rfl
  producer_view := ⟨rfl, Nat.le_refl _, Nat.zero_le _⟩
  consumer := rfl
  consumer_view := ⟨rfl, Nat.le_refl _, Nat.le_refl _⟩
  unread i _ event h := by cases h
  last_read j := .inl rfl
  raced := rfl

include hsmall in
/-- `push` finds no room only where a whole ring was pushed since the store of `read` it loaded. -/
theorem Inv.push_check (h : Inv capacity q) {event : α} {position : Nat} {room : Bool}
    (hstep : q.push_check capacity event position = some (room, q')) :
    Inv capacity q' ∧ q'.pushed = q.pushed ∧ q'.popped = q.popped ∧ q'.consumer = q.consumer ∧
      q'.consumer_view = q.consumer_view ∧ (room = false → q'.producer = .Idle ∧ capacity ≤ q.pushed.length) := by
  have hproducer := h.producer
  unfold Queue.push_check at hstep
  split at hstep
  · next hidle =>
    obtain ⟨⟨read, view⟩, hload, heq⟩ := Option.map_eq_some_iff.1 hstep
    rw [h.read] at hload
    obtain ⟨rfl, hview, hposition, hle, hbound⟩ := load_counted h.producer_view.1 hload
    rw [hidle] at hproducer
    have hroom : q.pushed.length ≤ position + capacity := by
      have := h.producer_view.2.2
      omega
    have hpopped : q.popped.length ≤ q.pushed.length := by
      rw [h.popped, List.length_take]
      exact Nat.min_le_right _ _
    have hlast : last_value q.write = .ofNat q.pushed.length := by rw [h.write, counted_last]
    dsimp only at heq
    rw [hlast] at heq
    split at heq
    · next hfull =>
      cases heq
      have hlength := (full_iff hsmall (hbound.trans hpopped) hroom).1 hfull
      refine ⟨{ h with producer := ?_, producer_view := ⟨hview, hposition ▸ hbound, hposition ▸ hroom⟩ }, rfl, rfl, rfl, rfl,
        fun _ => ⟨hidle, by omega⟩⟩
      dsimp only
      rw [hidle]
      exact hproducer
    · next hnotfull =>
      cases heq
      have hlength := mt (full_iff hsmall (hbound.trans hpopped) hroom).2 hnotfull
      refine ⟨{ h with
        producer := ⟨hproducer, rfl, ?_⟩
        producer_view := ⟨hview, hposition ▸ hbound, hposition ▸ hroom⟩ }, rfl, rfl, rfl, rfl, fun hc => (by cases hc)⟩
      dsimp only
      omega
  · cases hstep

include hdvd in
/-- No side accesses a slot that the other one has not let go of. -/
theorem Inv.push_slot (h : Inv capacity q) (hstep : q.push_slot capacity = some q') :
    Inv capacity q' ∧ q'.pushed = q.pushed ∧ q'.popped = q.popped ∧ q'.consumer = q.consumer ∧
      q'.consumer_view = q.consumer_view := by
  have hproducer := h.producer
  unfold Queue.push_slot at hstep
  split at hstep
  · next write event hchecked =>
    rw [hchecked] at hproducer
    obtain ⟨hwrites, rfl, hroom⟩ := hproducer
    cases hstep
    rw [slot_index hdvd]
    have hconsumer : q.reads ≤ q.pushed.length := by
      have hc := h.consumer
      have hv := h.consumer_view
      cases hp : q.consumer <;> rw [hp] at hc
      · have : q.reads = q.popped.length := hc
        omega
      · have := hc.1
        omega
      · have := hc.1
        have := hc.2.2.1
        omega
    have hview := h.producer_view
    refine ⟨{ h with producer := ?_, unread := ?_, last_read := ?_, raced := ?_ }, rfl, rfl, rfl, rfl⟩
    · refine ⟨by rw [hwrites], rfl, hroom, ?_, ?_⟩
      · simp
      · simp [hwrites]
    · intro i hi event' hevent
      have hlt : i < q.pushed.length := (List.getElem?_eq_some_iff.1 hevent).1
      -- A ring has one slot for each event that was not let go of.
      have hne : i % capacity ≠ q.pushed.length % capacity := by
        intro hslot
        have hlap := lap hlt hslot
        have hunread : q.popped.length ≤ i := hi
        omega
      dsimp only
      rw [Function.update_of_ne hne]
      exact h.unread i hi event' hevent
    · intro j
      dsimp only
      rcases eq_or_ne j (q.pushed.length % capacity) with rfl | hne
      · rw [Function.update_self]
        exact h.last_read _
      · rw [Function.update_of_ne hne]
        exact h.last_read j
    · dsimp only
      rw [h.raced, Bool.false_or, decide_eq_false_iff_not, Nat.not_lt]
      rcases h.last_read (q.pushed.length % capacity) with hnever | ⟨i, hi, hslot, heq⟩
      · omega
      · have := lap (by omega) hslot
        omega
  · cases hstep

theorem Inv.push_publish (h : Inv capacity q) (hstep : q.push_publish = some q') :
    Inv capacity q' ∧ (∃ event, q.producer = .Written (.ofNat q.pushed.length) event ∧ q'.pushed = q.pushed ++ [event]) ∧
      q'.popped = q.popped ∧ q'.consumer = q.consumer ∧ q'.consumer_view = q.consumer_view := by
  have hproducer := h.producer
  unfold Queue.push_publish at hstep
  split at hstep
  · next write event hwritten =>
    rw [hwritten] at hproducer
    obtain ⟨hwrites, rfl, hroom, hcontent, hstamp⟩ := hproducer
    cases hstep
    have hview := h.producer_view
    have hconsumer := h.consumer_view
    have hlength : (q.pushed ++ [event]).length = q.pushed.length + 1 := by simp
    have hpopped : q.popped.length ≤ q.pushed.length := by omega
    refine ⟨{ h with
      write := ?_
      popped := ?_
      producer := ?_
      producer_view := ?_
      consumer := ?_
      consumer_view := ?_
      unread := ?_ }, ⟨event, hwritten, rfl⟩, rfl, rfl, rfl⟩
    · dsimp only
      rw [h.write, hwrites, hlength, counted_succ]
    · dsimp only
      rw [List.take_append_of_le_length hpopped]
      exact h.popped
    · exact hwrites.trans hlength.symm
    · refine ⟨hview.1, hview.2.1, ?_⟩
      dsimp only
      rw [hlength]
      omega
    · have hc := h.consumer
      dsimp only
      cases hp : q.consumer <;> rw [hp] at hc
      · exact hc
      · exact hc
      · obtain ⟨hreads, hread, hfound, hevent⟩ := hc
        refine ⟨hreads, hread, hfound, ?_⟩
        rw [List.getElem?_append_left (hfound.trans_le hconsumer.2.1)]
        exact hevent
    · dsimp only
      omega
    · intro i hi event' hevent
      dsimp only at hevent ⊢
      rcases Nat.lt_or_ge i q.pushed.length with hold | hnew
      · rw [List.getElem?_append_left hold] at hevent
        exact h.unread i hi event' hevent
      · have heq : i = q.pushed.length := by
          have := (List.getElem?_eq_some_iff.1 hevent).1
          omega
        subst heq
        rw [List.getElem?_concat_length] at hevent
        cases hevent
        exact ⟨hcontent, hstamp⟩
  · cases hstep

include hsmall in
/-- `pop` finds nothing only where all that was pushed before the store of `write` it loaded was popped. -/
theorem Inv.pop_check (h : Inv capacity q) {position : Nat} {found : Bool} (hstep : q.pop_check position = some (found, q')) :
    Inv capacity q' ∧ q'.pushed = q.pushed ∧ q'.popped = q.popped ∧ q'.producer = q.producer ∧
      q'.consumer_view.position = position ∧ q.consumer_view.position ≤ position ∧
      (found = false → q'.consumer = .Idle ∧ q.popped.length = position) := by
  have hconsumer := h.consumer
  unfold Queue.pop_check at hstep
  split at hstep
  · next hidle =>
    obtain ⟨⟨write, view⟩, hload, heq⟩ := Option.map_eq_some_iff.1 hstep
    rw [h.write] at hload
    obtain ⟨rfl, hview, hposition, hle, hbound⟩ := load_counted h.consumer_view.1 hload
    rw [hidle] at hconsumer
    have hread : q.popped.length ≤ position := h.consumer_view.2.2.trans hle
    have hroom : position ≤ q.popped.length + capacity := by
      have := h.producer_view
      omega
    have hlast : last_value q.read = .ofNat q.popped.length := by rw [h.read, counted_last]
    dsimp only at heq
    rw [hlast] at heq
    split at heq
    · next hempty =>
      cases heq
      have hlength := (empty_iff hsmall hread hroom).1 hempty
      refine ⟨{ h with consumer := ?_, consumer_view := ⟨hview, hposition ▸ hbound, hposition ▸ hread⟩ }, rfl, rfl, rfl,
        hposition, hle, fun _ => ⟨hidle, hlength⟩⟩
      dsimp only
      rw [hidle]
      exact hconsumer
    · next hsome =>
      cases heq
      have hlength := mt (empty_iff hsmall hread hroom).2 hsome
      refine ⟨{ h with
        consumer := ⟨hconsumer, rfl, ?_⟩
        consumer_view := ⟨hview, hposition ▸ hbound, hposition ▸ hread⟩ }, rfl, rfl, rfl, hposition, hle, fun hc => (by cases hc)⟩
      dsimp only
      omega
  · cases hstep

include hdvd in
theorem Inv.pop_slot (h : Inv capacity q) (hstep : q.pop_slot capacity = some q') :
    Inv capacity q' ∧ q'.pushed = q.pushed ∧ q'.popped = q.popped ∧ q'.producer = q.producer ∧
      q'.consumer_view = q.consumer_view := by
  have hconsumer := h.consumer
  unfold Queue.pop_slot at hstep
  split at hstep
  · next read hchecked =>
    rw [hchecked] at hconsumer
    obtain ⟨hreads, rfl, hfound⟩ := hconsumer
    cases hstep
    rw [slot_index hdvd]
    have hview := h.consumer_view
    have hlt : q.popped.length < q.pushed.length := by omega
    obtain ⟨event, hevent⟩ : ∃ event, q.pushed[q.popped.length]? = some event := ⟨_, List.getElem?_eq_getElem hlt⟩
    obtain ⟨hcontent, hwritten⟩ := h.unread _ (Nat.le_refl _) event hevent
    have hslots : ∀ j, ((Function.update q.slots (q.popped.length % capacity)
        { q.slots (q.popped.length % capacity) with read := q.reads + 1 }) j).content = (q.slots j).content ∧
        ((Function.update q.slots (q.popped.length % capacity)
        { q.slots (q.popped.length % capacity) with read := q.reads + 1 }) j).written = (q.slots j).written := by
      intro j
      rcases eq_or_ne j (q.popped.length % capacity) with rfl | hne
      · rw [Function.update_self]
        exact ⟨rfl, rfl⟩
      · rw [Function.update_of_ne hne]
        exact ⟨rfl, rfl⟩
    refine ⟨{ h with producer := ?_, consumer := ?_, unread := ?_, last_read := ?_, raced := ?_ }, rfl, rfl, rfl, rfl⟩
    · have hp := h.producer
      dsimp only
      cases hc : q.producer <;> rw [hc] at hp
      · exact hp
      · exact hp
      · exact ⟨hp.1, hp.2.1, hp.2.2.1, (hslots _).1.trans hp.2.2.2.1, (hslots _).2.trans hp.2.2.2.2⟩
    · exact ⟨by rw [hreads], rfl, hfound, hcontent ▸ hevent⟩
    · intro i hi event' hevent'
      dsimp only
      rw [(hslots _).1, (hslots _).2]
      exact h.unread i hi event' hevent'
    · intro j
      dsimp only
      rcases eq_or_ne j (q.popped.length % capacity) with rfl | hne
      · rw [Function.update_self]
        exact .inr ⟨q.popped.length, by omega, rfl, by rw [hreads]⟩
      · rw [Function.update_of_ne hne]
        rcases h.last_read j with hnever | ⟨i, hi, hslot, heq⟩
        · exact .inl hnever
        · exact .inr ⟨i, by omega, hslot, heq⟩
    · dsimp only
      rw [h.raced, Bool.false_or, decide_eq_false_iff_not, Nat.not_lt]
      omega
  · cases hstep

/-- Events leave in the order they came. -/
theorem Inv.pop_release (h : Inv capacity q) {event : α} (hstep : q.pop_release = some (event, q')) :
    Inv capacity q' ∧ q'.pushed = q.pushed ∧ q'.popped = q.popped ++ [event] ∧ q'.producer = q.producer ∧
      q'.consumer_view = q.consumer_view ∧ q'.consumer = .Idle := by
  have hconsumer := h.consumer
  unfold Queue.pop_release at hstep
  split at hstep
  · next read event' hcopied =>
    rw [hcopied] at hconsumer
    obtain ⟨hreads, rfl, hfound, hevent⟩ := hconsumer
    cases hstep
    have hview := h.producer_view
    have hlength : (q.popped ++ [event]).length = q.popped.length + 1 := by simp
    refine ⟨{ h with
      read := ?_
      popped := ?_
      producer_view := ?_
      consumer := ?_
      consumer_view := ?_
      unread := ?_ }, rfl, rfl, rfl, rfl, rfl⟩
    · dsimp only
      rw [h.read, hreads, hlength, counted_succ]
    · dsimp only
      rw [hlength, List.take_add_one, ← h.popped, hevent]
      rfl
    · dsimp only
      omega
    · exact hreads.trans hlength.symm
    · have := h.consumer_view
      dsimp only
      omega
    · intro i hi
      exact h.unread i (by dsimp only at hi; omega)
  · cases hstep

theorem Inv.synchronize (h : Inv capacity q) {position : Nat} (hposition : position ≤ q.pushed.length) :
    Inv capacity (q.synchronize position) := by
  have hview := h.consumer_view
  refine { h with consumer := ?_, consumer_view := ?_ }
  · have hc := h.consumer
    dsimp only [Queue.synchronize]
    cases hp : q.consumer <;> rw [hp] at hc
    · exact hc
    · exact ⟨hc.1, hc.2.1, hc.2.2.trans_le (Nat.le_max_left _ _)⟩
    · exact ⟨hc.1, hc.2.1, hc.2.2.1.trans_le (Nat.le_max_left _ _), hc.2.2.2⟩
  · dsimp only [Queue.synchronize]
    rw [h.write, counted_get hposition, Option.map_some, Option.getD_some]
    dsimp only
    omega

end Steps

end Spsc
