import Trackpad.Keyboard.Continuity
import Trackpad.Keyboard.Flush
import Trackpad.Keyboard.LinuxSpec
/-!
# The buffers of key changes never grow

A frame of at most 16 contacts, over a state at most 16 pointers own, plans at most `max_key_changes` changes: every
contact pays for its own lanes, and every owner the frame omits for one release.
-/

namespace Trackpad.Keyboard

variable {L : Nat}

/-- How many pointers own a lane. -/
def owning (state : KeyboardState L) : Nat := POINTER_IDS.countP fun id => (state.pointer_lanes id).isSome

/-! ## One contact -/

theorem acquire_lane_length (lane : Fin L) (touch : Bool) (p : Plan L) :
    (acquire_lane lane touch p).2.length ≤ p.2.length + 1 := by
  simp only [acquire_lane]
  split <;> simp

theorem release_lane_length (lane : Fin L) (p : Plan L) : (release_lane lane p).2.length ≤ p.2.length + 1 := by
  unfold release_lane
  split
  · simp
  · dsimp only
    split <;> simp

/-- A slide presses and releases once for every lane it crosses. -/
theorem slide_length (destination : Fin L) (n : Nat) (current : Fin L) (p : Plan L) :
    (slide destination n current p).2.length ≤ p.2.length + 2 * n := by
  induction n generalizing current p with
  | zero => simp [slide]
  | succ n ih =>
    rw [slide]
    split
    · omega
    · have hacquire := acquire_lane_length (next_lane current destination) false p
      have hrelease := release_lane_length current (acquire_lane (next_lane current destination) false p)
      have hrest := ih (next_lane current destination)
        (release_lane current (acquire_lane (next_lane current destination) false p))
      simp only at *
      omega

theorem release_pointer_length (id : UInt8) (p : Plan L) :
    (release_pointer id p).2.length ≤ p.2.length + 1 := by
  unfold release_pointer
  split
  · omega
  · exact release_lane_length _ _

/-- What a contact can add: a landing one press, an owner a release or the width of the pad. -/
def contact_cost : Option (Fin L) → Nat
  | none => 1
  | some _ => max 1 (2 * (L - 1))

theorem apply_contact_length (lane_for : Int → Fin L) (c : Contact) (p : Plan L) :
    (apply_contact lane_for c p).2.length ≤ p.2.length + contact_cost (p.1.pointer_lanes c.pointer_id) := by
  unfold apply_contact
  split
  · unfold move_pointer
    split
    · next hfree =>
      rw [hfree]
      exact acquire_lane_length _ _ _
    · next current howned =>
      rw [howned]
      have hslide := slide_length (lane_for c.x) (lane_distance current (lane_for c.x)) current p
      have hwidth : lane_distance current (lane_for c.x) ≤ L - 1 := by
        unfold lane_distance
        omega
      simp only [own, contact_cost]
      omega
  · have hrelease := release_pointer_length c.pointer_id p
    cases p.1.pointer_lanes c.pointer_id <;> simp only [contact_cost] <;> omega

/-! ## The whole snapshot -/

section Walk
variable (lane_for : Int → Fin L) (measure : List (KeyChange L) → Nat) {cost : Option (Fin L) → Nat}
  (hcost : ∀ (c : Contact) (p : Plan L),
    measure (apply_contact lane_for c p).2 ≤ measure p.2 + cost (p.1.pointer_lanes c.pointer_id))
include hcost

/-- The second pass: a contact finds its pointer as the frame found it, since no other contact names it. -/
theorem foldl_contacts_cost (action_pointer_id : UInt8) (owner : UInt8 → Option (Fin L)) (cs : List Contact)
    (hn : (cs.map Contact.pointer_id).Nodup) (p : Plan L)
    (howner : ∀ c ∈ cs, c.pointer_id ≠ action_pointer_id → p.1.pointer_lanes c.pointer_id = owner c.pointer_id) :
    measure (cs.foldl (fun p c => if c.pointer_id ≠ action_pointer_id then apply_contact lane_for c p else p) p).2 ≤
      measure p.2 + ((cs.filter (·.pointer_id ≠ action_pointer_id)).map fun c => cost (owner c.pointer_id)).sum := by
  induction cs generalizing p with
  | nil => simp
  | cons c cs ih =>
    simp only [List.map_cons, List.nodup_cons, List.mem_map, not_exists, not_and] at hn
    rw [List.foldl_cons]
    by_cases hc : c.pointer_id = action_pointer_id
    · have hrest := ih hn.2 p fun d hd => howner d (List.mem_cons_of_mem _ hd)
      simpa [hc] using hrest
    · have hrest := ih hn.2 (apply_contact lane_for c p) fun d hd hne => by
        rw [apply_contact_pointers, Function.update_of_ne (fun e => hn.1 d hd e)]
        exact howner d (List.mem_cons_of_mem _ hd) hne
      have hfirst := hcost c p
      rw [howner c List.mem_cons_self hc] at hfirst
      simp only [ne_eq, hc, not_false_eq_true, if_true, decide_true, List.filter_cons_of_pos, List.map_cons,
        List.sum_cons] at hrest ⊢
      omega

theorem apply_contacts_cost (frame : TouchFrame) (p : Plan L) :
    measure (apply_contacts lane_for frame p).2 ≤
      measure p.2 + (frame.contacts.items.map fun c => cost (p.1.pointer_lanes c.pointer_id)).sum := by
  -- The contacts of the second pass and the action pointer's are the snapshot.
  have hsplit : ∀ cs : List Contact, (cs.map fun c => cost (p.1.pointer_lanes c.pointer_id)).sum =
      ((cs.filter (·.pointer_id = frame.action_pointer_id)).map fun c => cost (p.1.pointer_lanes c.pointer_id)).sum +
      ((cs.filter (·.pointer_id ≠ frame.action_pointer_id)).map fun c => cost (p.1.pointer_lanes c.pointer_id)).sum := by
    intro cs
    induction cs with
    | nil => rfl
    | cons c cs ih =>
      by_cases hc : c.pointer_id = frame.action_pointer_id <;> simp [hc] at ih ⊢ <;> omega
  rw [hsplit]
  unfold apply_contacts
  cases hfind : frame.contacts.items.find? (·.pointer_id = frame.action_pointer_id) with
  | none =>
    have hrest := foldl_contacts_cost lane_for measure hcost frame.action_pointer_id p.1.pointer_lanes _ frame.contacts.distinct p
      fun _ _ _ => rfl
    simp only [hfind]
    omega
  | some c =>
    have hid : c.pointer_id = frame.action_pointer_id := by simpa using List.find?_some hfind
    have hrest := foldl_contacts_cost lane_for measure hcost frame.action_pointer_id p.1.pointer_lanes _ frame.contacts.distinct
      (apply_contact lane_for c p) fun d _ hd => by
        rw [apply_contact_pointers, Function.update_of_ne (fun e => hd (e.trans hid))]
    have hfirst := hcost c p
    have hmem : c ∈ frame.contacts.items.filter (·.pointer_id = frame.action_pointer_id) :=
      List.mem_filter.2 ⟨List.mem_of_find?_eq_some hfind, by simpa using hid⟩
    have hle := List.le_sum_of_mem (List.mem_map_of_mem
      (f := fun c : Contact => cost (p.1.pointer_lanes c.pointer_id)) hmem)
    simp only [hfind] at hle ⊢
    omega

end Walk

/-! ## The pointers a frame omits -/

/-- The releases of `missing`. -/
theorem foldl_release_length (missing : List UInt8) (p : Plan L) :
    (missing.foldl (fun p id => release_pointer id p) p).2.length ≤ p.2.length + missing.length := by
  induction missing generalizing p with
  | nil => simp
  | cons id missing ih =>
    have hrest := ih (release_pointer id p)
    have hfirst := release_pointer_length id p
    simp only [List.foldl_cons, List.length_cons]
    omega

/-- A pointer the frame does not name owns what it owned before. -/
theorem release_missing_length (lane_for : Int → Fin L) (state : KeyboardState L) (frame : TouchFrame) :
    (raw_plan lane_for state frame).2.length ≤
      (apply_contacts lane_for frame ({ state with pressure_suppressed := fun _ => false }, [])).2.length +
        owning state := by
  refine (foldl_release_length _ _).trans (Nat.add_le_add_left ?_ _)
  rw [owning, ← List.countP_eq_length_filter]
  apply List.countP_mono_left
  intro id _ hid
  simp only [note_suppressed, apply_contacts_pointers, Bool.and_eq_true, Bool.not_eq_true'] at hid
  obtain ⟨howned, habsent⟩ := hid
  have hnone : frame.contacts.items.find? (·.pointer_id = id) = none := by
    rw [List.find?_eq_none]
    exact List.any_eq_false.1 habsent
  simpa [hnone] using howned

/-- The next state is owned by the contacts alone. -/
theorem plan_owning (lane_for : Int → Fin L) (state : KeyboardState L) (frame : TouchFrame) (split_repress : Bool) :
    owning (plan_into lane_for state frame split_repress).1 ≤ MAX_CONTACTS := by
  refine Nat.le_trans ?_ frame.contacts.bounded
  rw [owning, plan_lanes, List.countP_eq_length_filter, ← List.length_map (f := Contact.pointer_id)]
  apply List.Subperm.length_le
  apply List.subperm_of_subset (pointer_ids_nodup.filter _)
  intro id hid
  obtain ⟨-, hid⟩ := List.mem_filter.1 hid
  cases hfind : frame.contacts.items.find? (·.pointer_id = id) with
  | none => simp [owners, hfind] at hid
  | some c => exact List.mem_map.2 ⟨c, List.mem_of_find?_eq_some hfind, by simpa using List.find?_some hfind⟩

/-! ## Repeat presses -/

/-- What a repeat press can add: two changes, for a pointer that owned nothing. -/
def repeat_cost : Option (Fin L) → Nat
  | none => 2
  | some _ => 0

theorem repeat_press_length (state next : KeyboardState L) (frame : TouchFrame) (split_repress : Bool) (c : Contact) :
    (repeat_press state next frame split_repress c).length ≤ repeat_cost (state.pointer_lanes c.pointer_id) := by
  unfold repeat_press
  cases howner : state.pointer_lanes c.pointer_id with
  | some lane => simp
  | none =>
    split
    · split
      · simp
      · split
        · split <;> simp [repeat_cost]
        · simp
    · simp

theorem repeats_length (state next : KeyboardState L) (frame : TouchFrame) (split_repress : Bool) :
    (repeats state next frame split_repress).length ≤
      (frame.contacts.items.map fun c => repeat_cost (state.pointer_lanes c.pointer_id)).sum := by
  rw [repeats, List.length_flatMap]
  apply List.sum_le_sum
  intro c _
  exact repeat_press_length state next frame split_repress c

/-! ## A pad of one lane

Here three changes a landing are one too many: but a lane pressed again and again is released as often.
-/

/-- On the only lane, the presses and the releases so far tell whether it is held. -/
theorem one_lane_balance (lane_for : Int → Fin 1) (state : KeyboardState 1) (frame : TouchFrame) (p : Plan 1)
    (hp : p = apply_contacts lane_for frame ({ state with pressure_suppressed := fun _ => false }, [])) :
    p.2.countP (·.down) + (if state.lane_holds 0 = 0 then 0 else 1) =
      p.2.countP (!·.down) + (if p.1.lane_holds 0 = 0 then 0 else 1) := by
  subst hp
  refine apply_contacts_keeps lane_for (P := fun p : Plan 1 =>
    p.2.countP (·.down) + (if state.lane_holds 0 = 0 then 0 else 1) =
      p.2.countP (!·.down) + (if p.1.lane_holds 0 = 0 then 0 else 1)) ?_ ?_ (fun _ _ _ h => h) frame _ (by simp)
  · intro lane touch p h
    obtain rfl := Subsingleton.elim lane 0
    by_cases hfree : p.1.lane_holds 0 = 0 <;> simp [acquire_lane, hfree, U16_MAX] at h ⊢ <;> omega
  · intro lane p h
    obtain rfl := Subsingleton.elim lane 0
    by_cases hfree : p.1.lane_holds 0 = 0
    · simpa [release_lane, hfree] using h
    · by_cases hlast : p.1.lane_holds 0 - 1 = 0 <;> simp [release_lane, hfree, hlast] at h ⊢ <;> omega

theorem presses_and_releases (changes : List (KeyChange L)) :
    changes.length = changes.countP (·.down) + changes.countP (!·.down) := by
  induction changes with
  | nil => rfl
  | cons c changes ih => cases hc : c.down <;> simp [hc] <;> omega

/-- A contact releases the only lane if it owned it, and at most once. -/
def one_lane_cost : Option (Fin 1) → Nat
  | none => 0
  | some _ => 1

theorem one_lane_releases (lane_for : Int → Fin 1) (c : Contact) (p : Plan 1) :
    (apply_contact lane_for c p).2.countP (!·.down) ≤
      p.2.countP (!·.down) + one_lane_cost (p.1.pointer_lanes c.pointer_id) := by
  have hrelease : ∀ (lane : Fin 1) (p : Plan 1),
      (release_lane lane p).2.countP (!·.down) ≤ p.2.countP (!·.down) + 1 := by
    intro lane p
    unfold release_lane
    split
    · omega
    · dsimp only
      split <;> simp
  unfold apply_contact
  cases howner : p.1.pointer_lanes c.pointer_id with
  | none =>
    split
    · simp only [move_pointer, howner, own, acquire_lane]
      split <;> simp
    · simp [release_pointer, howner]
  | some lane =>
    split
    · have hdistance : lane_distance lane (lane_for c.x) = 0 := by
        simp [lane_distance]
      simp [move_pointer, howner, hdistance, slide, own]
    · simp only [release_pointer, howner]
      exact hrelease lane (own c.pointer_id none p)

/-! ## A frame's changes -/

/-- The sum of what 16 contacts can add each. -/
theorem sum_cost_le (frame : TouchFrame) {f : Contact → Nat} {n : Nat} (hf : ∀ c, f c ≤ n) :
    (frame.contacts.items.map f).sum ≤ MAX_CONTACTS * n := by
  have hsum : ((frame.contacts.items.map f).sum) ≤ (frame.contacts.items.map f).length * n :=
    List.sum_le_card_nsmul _ _ fun x hx => by
      obtain ⟨c, -, rfl⟩ := List.mem_map.1 hx
      exact hf c
  rw [List.length_map] at hsum
  exact hsum.trans (Nat.mul_le_mul_right _ frame.contacts.bounded)

theorem raw_plan_length (lane_for : Int → Fin L) (state : KeyboardState L) (frame : TouchFrame) :
    (raw_plan lane_for state frame).2.length ≤
      (frame.contacts.items.map fun c => contact_cost (state.pointer_lanes c.pointer_id)).sum + owning state := by
  have hcontacts := apply_contacts_cost lane_for List.length (apply_contact_length lane_for) frame
    ({ state with pressure_suppressed := fun _ => false }, [])
  have hmissing := release_missing_length lane_for state frame
  simp only [List.length_nil, Nat.zero_add] at hcontacts
  omega

theorem raw_plan_fits (lane_for : Int → Fin L) {state : KeyboardState L} (frame : TouchFrame)
    (h : owning state ≤ MAX_CONTACTS) : (raw_plan lane_for state frame).2.length ≤ max_key_changes L := by
  have hlane : 0 < L := (lane_for 0).pos
  have hraw := raw_plan_length lane_for state frame
  have hsum := sum_cost_le frame (f := fun c => contact_cost (state.pointer_lanes c.pointer_id)) (n := 2 * L)
    fun c => by cases state.pointer_lanes c.pointer_id <;> simp only [contact_cost] <;> omega
  simp only [max_key_changes, MAX_CONTACTS] at *
  omega

/-- With two lanes or more, a landing that is pressed again costs no more than a slide over all of them. -/
theorem plan_fits_wide (lane_for : Int → Fin L) {state : KeyboardState L} (frame : TouchFrame) (split_repress : Bool)
    (hL : 2 ≤ L) (h : owning state ≤ MAX_CONTACTS) :
    (plan_into lane_for state frame split_repress).2.length ≤ max_key_changes L := by
  rw [plan_into_eq, List.length_append]
  have hraw := raw_plan_length lane_for state frame
  have hkept := List.length_filter_le (fun c : KeyChange L =>
    state.lane_holds c.lane = 0 || (raw_plan lane_for state frame).1.lane_holds c.lane = 0) (raw_plan lane_for state frame).2
  have hrepeats := repeats_length state (raw_plan lane_for state frame).1 frame split_repress
  have hsum := sum_cost_le frame (n := 2 * L)
    (f := fun c => contact_cost (state.pointer_lanes c.pointer_id) + repeat_cost (state.pointer_lanes c.pointer_id))
    fun c => by cases state.pointer_lanes c.pointer_id <;> simp only [contact_cost, repeat_cost] <;> omega
  rw [List.sum_map_add] at hsum
  simp only [max_key_changes, MAX_CONTACTS] at *
  omega

/-- With one lane, either it was free and nothing is pressed again, or every press of the contacts follows a release
of theirs, and a contact that releases does not land. -/
theorem plan_fits_narrow (lane_for : Int → Fin 1) {state : KeyboardState 1} (frame : TouchFrame) (split_repress : Bool)
    (h : owning state ≤ MAX_CONTACTS) :
    (plan_into lane_for state frame split_repress).2.length ≤ max_key_changes 1 := by
  rw [plan_into_eq, List.length_append]
  have hkept := List.length_filter_le (fun c : KeyChange 1 =>
    state.lane_holds c.lane = 0 || (raw_plan lane_for state frame).1.lane_holds c.lane = 0) (raw_plan lane_for state frame).2
  by_cases hfree : state.lane_holds 0 = 0
  · have hnone : repeats state (raw_plan lane_for state frame).1 frame split_repress = [] := by
      rw [repeats, List.flatMap_eq_nil_iff]
      intro c _
      unfold repeat_press
      split
      · split
        · rfl
        · next lane _ =>
          obtain rfl := Subsingleton.elim lane 0
          simp [hfree]
      · rfl
    have hraw := raw_plan_fits lane_for frame h
    rw [hnone]
    simp only [List.length_nil]
    omega
  · have hbalance := one_lane_balance lane_for state frame _ rfl
    have hreleases := apply_contacts_cost lane_for (List.countP fun c => !c.down)
      (one_lane_releases lane_for) frame ({ state with pressure_suppressed := fun _ => false }, [])
    have hmissing := release_missing_length lane_for state frame
    have hrepeats := repeats_length state (raw_plan lane_for state frame).1 frame split_repress
    have hsum := sum_cost_le frame (n := 2)
      (f := fun c => 2 * one_lane_cost (state.pointer_lanes c.pointer_id) + repeat_cost (state.pointer_lanes c.pointer_id))
      fun c => by cases state.pointer_lanes c.pointer_id <;> simp [one_lane_cost, repeat_cost]
    rw [List.sum_map_add, List.sum_map_mul_left] at hsum
    have hlength := presses_and_releases
      (apply_contacts lane_for frame ({ state with pressure_suppressed := fun _ => false }, [])).2
    simp only [hfree, if_false, List.countP_nil, Nat.zero_add] at *
    simp only [max_key_changes, MAX_CONTACTS] at *
    split at hbalance <;> omega

theorem plan_fits (lane_for : Int → Fin L) {state : KeyboardState L} (frame : TouchFrame) (split_repress : Bool)
    (h : owning state ≤ MAX_CONTACTS) :
    (plan_into lane_for state frame split_repress).2.length ≤ max_key_changes L := by
  have hlane : 0 < L := (lane_for 0).pos
  rcases Nat.lt_or_ge 1 L with hwide | hnarrow
  · exact plan_fits_wide lane_for frame split_repress hwide h
  · obtain rfl : L = 1 := by omega
    exact plan_fits_narrow lane_for frame split_repress h

/-- What the buffer holds while a frame is planned: it grows by pushes until `retain`, and again from what `retain`
left of it. -/
def Moment (lane_for : Int → Fin L) (state : KeyboardState L) (frame : TouchFrame) (split_repress : Bool)
    (changes : List (KeyChange L)) : Prop :=
  changes <+: (raw_plan lane_for state frame).2 ∨ changes <+: (plan_into lane_for state frame split_repress).2

theorem moment_fits {lane_for : Int → Fin L} {state : KeyboardState L} {frame : TouchFrame} {split_repress : Bool}
    (h : owning state ≤ MAX_CONTACTS) {changes : List (KeyChange L)}
    (hm : Moment lane_for state frame split_repress changes) : changes.length ≤ max_key_changes L := by
  rcases hm with hraw | hplan
  · exact hraw.length_le.trans (raw_plan_fits lane_for frame h)
  · exact hplan.length_le.trans (plan_fits lane_for frame split_repress h)

/-! ## What reaches the OS sink -/

/-- An OS sink with every slice of changes it was handed. -/
structure Handed (κ : Type) (L : Nat) where
  inner : κ
  slices : List (List (KeyChange L))

def Handed.new (L : Nat) {κ : Type} (inner : κ) : Handed κ L := ⟨inner, []⟩

variable {κ : Type} [KeySink κ L]

instance : KeySink (Handed κ L) L where
  submit changes sink :=
    ((KeySink.submit changes sink.inner).1, ⟨(KeySink.submit changes sink.inner).2, sink.slices ++ [changes]⟩)
  discard_pending sink := ((KeySink.discard_pending sink.inner).1, ⟨(KeySink.discard_pending sink.inner).2, sink.slices⟩)
  has_pending_submission sink := KeySink.has_pending_submission sink.inner

def Handed.Fit (sink : Handed κ L) : Prop := ∀ changes ∈ sink.slices, changes.length ≤ max_key_changes L

theorem Handed.submit_fit {sink sink' : Handed κ L} {changes : List (KeyChange L)} {result : Except IoError Nat}
    (h : KeySink.submit changes sink = (result, sink')) (hs : sink.Fit) (hc : changes.length ≤ max_key_changes L) :
    sink'.Fit := by
  cases h
  intro slice hslice
  rcases List.mem_append.1 hslice with hold | hnew
  · exact hs slice hold
  · rw [List.mem_singleton.1 hnew]
    exact hc

theorem Handed.discard_fit {sink sink' : Handed κ L} {result : Except IoError Unit}
    (h : KeySink.discard_pending sink = (result, sink')) (hs : sink.Fit) : sink'.Fit := by
  cases h
  exact hs

/-! ## The waiting edges -/

omit [KeySink κ L] in
/-- At most three edges of a lane wait. -/
def FewWaiting (queue : List (ScheduledEdge L)) : Prop :=
  ∀ lane, queue.countP (·.change.lane = lane) ≤ MAX_WAITING_EDGES

theorem length_by_lane (queue : List (ScheduledEdge L)) :
    queue.length = ∑ lane : Fin L, queue.countP (·.change.lane = lane) := by
  induction queue with
  | nil => simp
  | cons e queue ih => simp [List.countP_cons, Finset.sum_add_distrib, ih]

theorem few_length {queue : List (ScheduledEdge L)} (h : FewWaiting queue) : queue.length ≤ max_key_changes L := by
  have hsum : ∑ lane : Fin L, queue.countP (·.change.lane = lane) ≤ ∑ _lane : Fin L, MAX_WAITING_EDGES :=
    Finset.sum_le_sum fun lane _ => h lane
  rw [← length_by_lane, Finset.sum_const, Finset.card_univ, Fintype.card_fin, smul_eq_mul] at hsum
  simp only [MAX_WAITING_EDGES, max_key_changes, MAX_CONTACTS] at *
  omega

theorem enqueue_few {spacer : RepressSpacer L} (h : FewWaiting spacer.queue) (change : KeyChange L) (now : Nat)
    (os_pressed : Bool) : FewWaiting (spacer.enqueue change now os_pressed).queue := by
  have hpush : ∀ due spaced, spacer.queue.countP (·.change.lane = change.lane) < MAX_WAITING_EDGES →
      FewWaiting (spacer.queue ++ [⟨change, due, spaced⟩]) := by
    intro due spaced hroom lane
    rw [List.countP_append, List.countP_singleton]
    by_cases hlane : change.lane = lane
    · subst hlane
      simpa using hroom
    · simpa [hlane] using h lane
  unfold RepressSpacer.enqueue
  dsimp only
  split
  · split
    · exact h
    · split
      · intro lane
        exact ((List.eraseIdx_sublist _ _).countP_le).trans (h lane)
      · next hroom => exact hpush _ _ (Nat.lt_of_not_le hroom)
  · next hnone =>
    split
    · exact h
    · apply hpush
      rw [List.countP_eq_zero.2 fun e he => by simpa using newest_none hnone e he]
      decide

theorem retain_sublist (accepted : Nat) (marked : List (ScheduledEdge L × Bool)) :
    (retain accepted marked).Sublist (marked.map (·.1)) := by
  fun_induction retain accepted marked with
  | case1 => simp
  | case2 accepted e rest ih => exact ih.trans (List.sublist_cons_self _ _)
  | case3 e rest ih => exact ih.cons_cons e
  | case4 accepted e rest ih => exact ih.cons_cons e

theorem emit_few {spacer : RepressSpacer L} (h : FewWaiting spacer.queue) (now accepted : Nat) (pressed : Fin L → Bool) :
    FewWaiting (spacer.emit now accepted pressed).1.queue := by
  intro lane
  have hkept := (retain_sublist accepted (select now Marks.clear spacer.queue)).countP_le (p := (·.change.lane = lane))
  rw [select_edges] at hkept
  refine Nat.le_trans (Nat.le_of_eq ?_) (hkept.trans (h lane))
  rw [RepressSpacer.emit, List.countP_map]
  apply List.countP_congr
  intro e _
  simp only [Function.comp, RepressSpacer.restart_gap]
  split <;> simp

theorem flush_fits {spacer : RepressSpacer L} (h : FewWaiting spacer.queue) (now : Nat) {sink : Handed κ L} (hs : sink.Fit)
    (pressed : Fin L → Bool) :
    FewWaiting (spacer.flush now sink pressed).2.1.queue ∧ (spacer.flush now sink pressed).2.2.1.Fit := by
  -- A flush hands on some of the waiting edges.
  have hbatch : ((selected (select now Marks.clear spacer.queue)).map (·.change)).length ≤ max_key_changes L := by
    have hfilter := List.length_filter_le (·.2) (select now Marks.clear spacer.queue)
    have hedges := congrArg List.length (select_edges now Marks.clear spacer.queue)
    have hwaits := few_length h
    simp only [selected, List.length_map] at *
    omega
  unfold RepressSpacer.flush
  dsimp only
  split
  · exact ⟨h, hs⟩
  · split
    · exact ⟨h, hs⟩
    · split
      · next hsubmit => exact ⟨h, Handed.submit_fit hsubmit hs hbatch⟩
      · next hsubmit =>
        have hfit := Handed.submit_fit hsubmit hs hbatch
        split
        · exact ⟨h, hfit⟩
        · split <;> exact ⟨emit_few h now _ pressed, hfit⟩

/-! ## Every run -/

/-- The buffers are within their capacities, and stay so whatever frame comes next. -/
structure Fits (s : KeyboardSink (Handed κ L) L) : Prop where
  owned : owning s.state ≤ MAX_CONTACTS
  planned : owning s.pending.next_state ≤ MAX_CONTACTS
  pending : s.pending.changes.length ≤ max_key_changes L
  waits : ∀ spacer, s.spacer = some spacer → FewWaiting spacer.queue
  handed : s.sink.Fit

namespace Fits

variable {s : KeyboardSink (Handed κ L) L}

omit [KeySink κ L] in
theorem new (sink : κ) (repress_gap : Option Nat) : Fits (KeyboardSink.new (Handed.new L sink) repress_gap) := by
  have hnone : owning (KeyboardState.new L) = 0 := by
    rw [owning, List.countP_eq_zero]
    simp [KeyboardState.new]
  refine ⟨by simp [KeyboardSink.new, hnone], by simp [KeyboardSink.new, hnone], by simp [KeyboardSink.new], ?_, ?_⟩
  · intro spacer hspacer
    obtain ⟨gap, -, rfl⟩ := Option.map_eq_some_iff.1 hspacer
    intro lane
    simp [RepressSpacer.new]
  · intro slice hslice
    cases hslice

theorem service (h : Fits s) (now : Nat) : Fits (s.service_at now).2 := by
  unfold KeyboardSink.service_at
  split
  · exact h
  · next spacer hspacer =>
    obtain ⟨hwaits, hfit⟩ := flush_fits (h.waits spacer hspacer) now h.handed s.pressed
    refine ⟨h.owned, h.planned, h.pending, ?_, hfit⟩
    rintro _ ⟨⟩
    exact hwaits

omit [KeySink κ L] in
theorem commit (h : Fits s) : Fits s.commit_pending := ⟨h.planned, h.owned, h.pending, h.waits, h.handed⟩

theorem submit_direct (h : Fits s) : Fits s.submit_direct.2 := by
  have hremaining : (s.pending.changes.drop s.pending.applied).length ≤ max_key_changes L := by
    have := h.pending
    rw [List.length_drop]
    omega
  unfold KeyboardSink.submit_direct
  dsimp only
  split
  · exact h.commit
  · split
    · next hsubmit => exact ⟨h.owned, h.planned, h.pending, h.waits, Handed.submit_fit hsubmit h.handed hremaining⟩
    · next hsubmit =>
      have hfit := Handed.submit_fit hsubmit h.handed hremaining
      split
      · exact ⟨h.owned, h.planned, h.pending, h.waits, hfit⟩
      · split
        · exact ⟨h.owned, h.planned, h.pending, h.waits, hfit⟩
        · exact ⟨h.planned, h.owned, h.pending, h.waits, hfit⟩

theorem submit_spaced (h : Fits s) (now : Nat) {spacer : RepressSpacer L} (hspacer : s.spacer = some spacer) :
    Fits (s.submit_spaced now spacer).2 := by
  have hqueued : Fits (s.enqueue_pending now spacer) := by
    refine ⟨h.owned, h.planned, h.pending, ?_, h.handed⟩
    rintro _ ⟨⟩
    exact List.foldlRecOn (motive := fun spacer : RepressSpacer L => FewWaiting spacer.queue) _ _ (h.waits spacer hspacer)
      fun spacer hw change _ => enqueue_few hw change now _
  have hserved := hqueued.service now
  unfold KeyboardSink.submit_spaced
  split
  · next hservice => rw [hservice] at hserved; exact hserved
  · next hservice => rw [hservice] at hserved; exact hserved.commit

omit [KeySink κ L] in
theorem foldl_note_released (h : Fits s) (now : Nat) (changes : List (KeyChange L)) :
    Fits (changes.foldl (KeyboardSink.note_released now) s) := by
  refine List.foldlRecOn _ _ h fun s h change _ => ⟨h.owned, h.planned, h.pending, ?_, h.handed⟩
  intro spacer hspacer
  obtain ⟨before, hbefore, rfl⟩ := Option.map_eq_some_iff.1 hspacer
  exact h.waits before hbefore

omit [KeySink κ L] in
theorem begin_release (h : Fits s) : Fits s.begin_release := by
  refine ⟨h.owned, h.planned, ?_, ?_, h.handed⟩
  · have hlanes := List.length_filter_le s.pressed (List.finRange L)
    simp only [KeyboardSink.begin_release, KeyboardSink.releases, List.length_map, List.length_finRange] at *
    simp only [max_key_changes, MAX_CONTACTS]
    omega
  · intro spacer hspacer
    obtain ⟨before, -, rfl⟩ := Option.map_eq_some_iff.1 hspacer
    intro lane
    simp

omit [KeySink κ L] in
theorem clear_state (h : Fits s) : Fits s.clear_state := by
  refine ⟨?_, h.planned, h.pending, h.waits, h.handed⟩
  exact (new (L := L) () none).owned

theorem release_all (h : Fits s) (now : Nat) : Fits (s.release_all now).2 := by
  unfold KeyboardSink.release_all
  split
  · next hdiscard => exact ⟨h.owned, h.planned, h.pending, h.waits, Handed.discard_fit hdiscard h.handed⟩
  · next sink hdiscard =>
    have hdiscarded : Fits { s with sink := sink } :=
      ⟨h.owned, h.planned, h.pending, h.waits, Handed.discard_fit hdiscard h.handed⟩
    have hbegun := hdiscarded.begin_release
    unfold KeyboardSink.release_all_with
    dsimp only
    split
    · exact hbegun.clear_state
    · split
      · next hsubmit =>
        exact ⟨hbegun.owned, hbegun.planned, hbegun.pending, hbegun.waits,
          Handed.submit_fit hsubmit hbegun.handed hbegun.pending⟩
      · next accepted sink' hsubmit =>
        have hsubmitted : Fits { KeyboardSink.begin_release { s with sink := sink } with sink := sink' } :=
          ⟨hbegun.owned, hbegun.planned, hbegun.pending, hbegun.waits,
            Handed.submit_fit hsubmit hbegun.handed hbegun.pending⟩
        split
        · exact hsubmitted
        · split
          · exact hsubmitted.foldl_note_released now _
          · exact (hsubmitted.foldl_note_released now _).clear_state

omit [KeySink κ L] in
theorem begin_frame (h : Fits s) (lane_for : Int → Fin L) (frame : TouchFrame) : Fits (s.begin_frame lane_for frame).2 := by
  unfold KeyboardSink.begin_frame
  split
  · split <;> exact h
  · exact ⟨h.owned, plan_owning lane_for s.state frame s.spacer.isSome, plan_fits lane_for frame s.spacer.isSome h.owned,
      h.waits, h.handed⟩

theorem accept (h : Fits s) (lane_for : Int → Fin L) (frame : TouchFrame) (now : Nat) :
    Fits (s.accept_at lane_for frame now).2 := by
  unfold KeyboardSink.accept_at
  split
  · exact h.release_all now
  · have hserved := h.service now
    split
    · next hservice => rw [hservice] at hserved; exact hserved
    · next hservice =>
      rw [hservice] at hserved
      split
      · exact hserved
      · have hbegun := hserved.begin_frame lane_for frame
        split
        · next hbegin => rw [hbegin] at hbegun; exact hbegun
        · next hbegin =>
          rw [hbegin] at hbegun
          split
          · next hspacer => exact hbegun.submit_spaced now hspacer
          · exact hbegun.submit_direct

theorem exec (h : Fits s) (lane_for : Int → Fin L) (c : Call) : Fits (c.exec lane_for s).2 := by
  cases c with
  | accept frame now => exact h.accept lane_for frame now
  | service now => exact h.service now
  | release_all now => exact h.release_all now

end Fits

theorem reachable_fits {lane_for : Int → Fin L} {sink : κ} {repress_gap : Option Nat} {s : KeyboardSink (Handed κ L) L}
    (h : Reachable lane_for (KeyboardSink.new (Handed.new L sink) repress_gap) s) : Fits s := by
  induction h with
  | start => exact Fits.new sink repress_gap
  | call c _ ih => exact ih.exec lane_for c

/-- `plan_into` never holds more than `max_key_changes` changes, so on every run `pending.changes` and what the
Linux sink encodes stay within their first capacity. -/
theorem key_changes_fit (lane_for : Int → Fin L) :
    (∀ (state : KeyboardState L) (frame : TouchFrame) (split_repress : Bool) (changes : List (KeyChange L)),
      owning state ≤ MAX_CONTACTS → Moment lane_for state frame split_repress changes →
      changes.length ≤ max_key_changes L) ∧
    ∀ (κ : Type) [KeySink κ L] (sink : κ) (repress_gap : Option Nat) (s : KeyboardSink (Handed κ L) L),
      Reachable lane_for (KeyboardSink.new (Handed.new L sink) repress_gap) s →
      s.pending.changes.length ≤ max_key_changes L ∧
      ∀ changes ∈ s.sink.slices, ∀ (keycodes : Linux.Keycodes L) (accepted : Nat),
        (Linux.Uinput.encode_changes keycodes (changes.drop accepted)).length ≤ 2 * max_key_changes L := by
  refine ⟨fun state frame split_repress changes h hm => moment_fits h hm, ?_⟩
  intro κ _ sink repress_gap s hs
  have hfits := reachable_fits hs
  refine ⟨hfits.pending, ?_⟩
  intro changes hchanges keycodes accepted
  have hslice := hfits.handed changes hchanges
  rw [Linux.encode_length, List.length_drop]
  omega

end Trackpad.Keyboard
