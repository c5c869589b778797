import Trackpad.Keyboard.Plan
/-!
# What planning a frame does

Two facts carry everything above the planner. The plan's changes, played on the lanes that
were held, end in the lanes held next (`plan_plays`); and the state it plans is the
snapshot's own, whatever was owned before (`plan_lanes`, `plan_counted`).
-/
open Edges Ownership

namespace Trackpad.Keyboard

variable {L : Nat}

/-- The lanes some pointer holds. -/
def held (s : KeyboardState L) : Fin L → Bool := fun l => 0 < s.lane_holds l

/-- The lanes pressed after `changes`. -/
abbrev played (pressed : Fin L → Bool) (changes : List (KeyChange L)) : Fin L → Bool :=
  play KeyChange.lane KeyChange.down pressed changes

theorem played_append (pressed : Fin L → Bool) (xs ys : List (KeyChange L)) :
    played pressed (xs ++ ys) = played (played pressed xs) ys := play_append _ _ _ _ _

/-- `lane_holds` counts the owners in `pointer_lanes`. -/
def Counted (s : KeyboardState L) : Prop := ∀ l, s.lane_holds l = holders s.pointer_lanes l

/-- The collected changes lead from the lanes held in `st` to the lanes held now. -/
def Tracks (st : KeyboardState L) (p : Plan L) : Prop := played (held st) p.2 = held p.1

theorem counted_new : Counted (KeyboardState.new L) := fun l => (holders_none l).symm

theorem card_pointers : Fintype.card UInt8 = 256 := by
  have e : UInt8 ≃ Fin 256 := ⟨UInt8.toFin, UInt8.ofFin, fun _ => rfl, fun _ => rfl⟩
  rw [Fintype.card_congr e, Fintype.card_fin]

/-- No count of pointers comes near the end of its type. -/
theorem holders_lt (owner : UInt8 → Option (Fin L)) (l : Fin L) : holders owner l + 1 < U16_MAX := by
  have hc : holders owner l ≤ Fintype.card UInt8 := holders_le _ _
  rw [card_pointers] at hc
  simp only [U16_MAX]; omega

/-! ## One lane -/

theorem acquire_lane_tracks {st : KeyboardState L} {p : Plan L} (lane : Fin L) (touch : Bool)
    (h : Tracks st p) : Tracks st (acquire_lane lane touch p) := by
  unfold Tracks at h ⊢
  funext l
  have hl : played (held st) p.2 l = held p.1 l := congrFun h l
  simp only [acquire_lane]
  split
  · simp only [play_append, play_cons, play_nil, held, Function.update_apply, U16_MAX]
    split <;> simp_all [held]
  · simp only [held, Function.update_apply, U16_MAX] at hl ⊢
    rw [hl]
    split
    · subst_vars; simp; omega
    · rfl

theorem release_lane_tracks {st : KeyboardState L} {p : Plan L} (lane : Fin L) (h : Tracks st p) :
    Tracks st (release_lane lane p) := by
  unfold release_lane
  split
  · exact h
  · unfold Tracks at h ⊢
    funext l
    have hl : played (held st) p.2 l = held p.1 l := congrFun h l
    dsimp only
    split
    · simp only [play_append, play_cons, play_nil, held, Function.update_apply] at hl ⊢
      split
      · subst_vars; simp_all
      · exact hl
    · simp only [held, Function.update_apply] at hl ⊢
      rw [hl]
      split
      · subst_vars; simp; omega
      · rfl

/-- One pointer sits on `lane`, beside the pointers `H` counts. -/
def Beside (H : Fin L → Nat) (lane : Fin L) (p : Plan L) : Prop :=
  ∀ l, p.1.lane_holds l = H l + if lane = l then 1 else 0

theorem acquire_beside {H : Fin L → Nat} (hH : ∀ l, H l + 1 < U16_MAX) {p : Plan L} (lane : Fin L) (touch : Bool)
    (h : ∀ l, p.1.lane_holds l = H l) : Beside H lane (acquire_lane lane touch p) := by
  intro l
  have := hH lane
  simp only [acquire_lane, Function.update_apply, h]
  by_cases hl : l = lane
  · subst hl; simp only [if_true]; omega
  · simp [hl, Ne.symm hl]

theorem release_beside {H : Fin L → Nat} {p : Plan L} {lane : Fin L} (h : Beside H lane p) (l : Fin L) :
    (release_lane lane p).1.lane_holds l = H l := by
  have hlane := h lane
  simp only [if_true] at hlane
  have hl := h l
  simp only [release_lane, hlane, Nat.add_eq_zero_iff, one_ne_zero, and_false, if_false,
    Function.update_apply]
  by_cases e : l = lane
  · subst e; simp
  · simpa [e, Ne.symm e] using hl

@[simp] theorem acquire_lane_pointers (lane : Fin L) (touch : Bool) (p : Plan L) :
    (acquire_lane lane touch p).1.pointer_lanes = p.1.pointer_lanes := rfl

@[simp] theorem release_lane_pointers (lane : Fin L) (p : Plan L) :
    (release_lane lane p).1.pointer_lanes = p.1.pointer_lanes := by
  unfold release_lane; split <;> rfl

@[simp] theorem own_pointers (id : UInt8) (lane : Option (Fin L)) (p : Plan L) :
    (own id lane p).1.pointer_lanes = Function.update p.1.pointer_lanes id lane := rfl

@[simp] theorem own_holds (id : UInt8) (lane : Option (Fin L)) (p : Plan L) :
    (own id lane p).1.lane_holds = p.1.lane_holds := rfl

theorem own_tracks {st : KeyboardState L} {p : Plan L} (id : UInt8) (lane : Option (Fin L)) (h : Tracks st p) :
    Tracks st (own id lane p) := h

/-! ## One slide -/

theorem next_lane_ne {current destination : Fin L} (h : current ≠ destination) :
    next_lane current destination ≠ current := by
  unfold next_lane
  split
  · rename_i hlt; intro e; have := congrArg Fin.val e; simp at this
  · rename_i hge
    intro e
    have hv := congrArg Fin.val e
    have hne : current.val ≠ destination.val := fun e => h (Fin.ext e)
    simp only [Fin.lt_def] at hv hge
    omega

theorem next_lane_distance {current destination : Fin L} (h : current ≠ destination) :
    lane_distance (next_lane current destination) destination + 1 = lane_distance current destination := by
  have hne : current.val ≠ destination.val := fun e => h (Fin.ext e)
  unfold next_lane lane_distance
  split <;> rename_i hlt <;> simp only [Fin.lt_def] at hlt ⊢ <;> omega

@[simp] theorem slide_pointers (destination : Fin L) (n : Nat) (current : Fin L) (p : Plan L) :
    (slide destination n current p).1.pointer_lanes = p.1.pointer_lanes := by
  induction n generalizing current p with
  | zero => rfl
  | succ n ih =>
    simp only [slide]
    split
    · rfl
    · rw [ih, release_lane_pointers, acquire_lane_pointers]

theorem slide_tracks {st : KeyboardState L} (destination : Fin L) (n : Nat) (current : Fin L) (p : Plan L)
    (h : Tracks st p) : Tracks st (slide destination n current p) := by
  induction n generalizing current p with
  | zero => exact h
  | succ n ih =>
    simp only [slide]
    split
    · exact h
    · exact ih _ _ (release_lane_tracks _ (acquire_lane_tracks _ _ h))

theorem acquire_next_beside {H : Fin L → Nat} (hH : ∀ l, H l + 1 < U16_MAX) {current destination : Fin L} {p : Plan L}
    (h : Beside H current p) (hne : current ≠ destination) (l : Fin L) :
    (acquire_lane (next_lane current destination) false p).1.lane_holds l =
      H l + (if current = l then 1 else 0) + if next_lane current destination = l then 1 else 0 := by
  have hnext := next_lane_ne hne
  have hb := hH (next_lane current destination)
  simp only [acquire_lane, Function.update_apply, h l, h (next_lane current destination),
    if_neg (Ne.symm hnext)]
  by_cases e : l = next_lane current destination
  · subst e; simp [Ne.symm hnext]; omega
  · simp [e, Ne.symm e]

/-- One step of a slide: the next lane is acquired, and `current` is given up. -/
theorem release_next_beside {H : Fin L → Nat} (hH : ∀ l, H l + 1 < U16_MAX) {current destination : Fin L} {p : Plan L}
    (h : Beside H current p) (hne : current ≠ destination) :
    Beside H (next_lane current destination)
      (release_lane current (acquire_lane (next_lane current destination) false p)) := by
  intro l
  exact release_beside (H := fun l => H l + if next_lane current destination = l then 1 else 0)
    (fun l => by rw [acquire_next_beside hH h hne l]; dsimp only; omega) l

/-- A slide takes its pointer, and nobody else's, from `current` to `destination`. -/
theorem slide_beside {H : Fin L → Nat} (hH : ∀ l, H l + 1 < U16_MAX) (destination : Fin L) (n : Nat)
    (current : Fin L) (p : Plan L) (h : Beside H current p) (hn : lane_distance current destination ≤ n) :
    Beside H destination (slide destination n current p) := by
  induction n generalizing current p with
  | zero =>
    have : current = destination := by ext; simp only [lane_distance] at hn; omega
    exact this ▸ h
  | succ n ih =>
    simp only [slide]
    split
    · rename_i e; exact e ▸ h
    · rename_i hne
      have hd := next_lane_distance hne
      exact ih _ _ (release_next_beside hH h hne) (by omega)

/-! ## One contact -/

/-- The planner's state is consistent and the changes lead to it. -/
structure Sound (st : KeyboardState L) (p : Plan L) : Prop where
  counted : Counted p.1
  tracks : Tracks st p

theorem release_pointer_pointers (id : UInt8) (p : Plan L) :
    (release_pointer id p).1.pointer_lanes = Function.update p.1.pointer_lanes id none := by
  unfold release_pointer
  split
  · rename_i h; rw [← h, Function.update_eq_self]
  · simp

theorem release_pointer_sound {st : KeyboardState L} {p : Plan L} (id : UInt8) (h : Sound st p) :
    Sound st (release_pointer id p) := by
  refine ⟨fun l => ?_, ?_⟩
  · rw [release_pointer_pointers]
    unfold release_pointer
    split
    · rename_i e; rw [h.counted l, holders_free e]
    · rename_i lane e
      refine release_beside (H := holders (Function.update p.1.pointer_lanes id none)) (fun k => ?_) l
      rw [own_holds, h.counted k, holders_split e]
  · unfold release_pointer
    split
    · exact h.tracks
    · exact release_lane_tracks _ (own_tracks _ _ h.tracks)

theorem move_pointer_pointers (id : UInt8) (destination : Fin L) (p : Plan L) :
    (move_pointer id destination p).1.pointer_lanes = Function.update p.1.pointer_lanes id (some destination) := by
  unfold move_pointer
  split <;> simp

theorem move_pointer_sound {st : KeyboardState L} {p : Plan L} (id : UInt8) (destination : Fin L) (h : Sound st p) :
    Sound st (move_pointer id destination p) := by
  have hlt := holders_lt (Function.update p.1.pointer_lanes id none)
  refine ⟨fun l => ?_, ?_⟩
  · rw [move_pointer_pointers, holders_update_some]
    unfold move_pointer
    split
    · rename_i e
      exact acquire_beside hlt destination true (fun k => by rw [h.counted k, holders_free e]) l
    · rename_i current e
      refine slide_beside hlt destination _ current p (fun k => ?_) le_rfl l
      rw [h.counted k, holders_split e]
  · unfold move_pointer
    split
    · exact own_tracks _ _ (acquire_lane_tracks _ _ h.tracks)
    · exact own_tracks _ _ (slide_tracks _ _ _ _ h.tracks)

section
variable (lane_for : Int → Fin L)

/-- The lane a contact owns after its own snapshot. -/
def wanted (c : Contact) : Option (Fin L) := if Contact.presses c then some (lane_for c.x) else none

theorem apply_contact_pointers (c : Contact) (p : Plan L) :
    (apply_contact lane_for c p).1.pointer_lanes =
      Function.update p.1.pointer_lanes c.pointer_id (wanted lane_for c) := by
  unfold apply_contact wanted
  split
  · exact move_pointer_pointers _ _ _
  · exact release_pointer_pointers _ _

theorem apply_contact_sound {st : KeyboardState L} {p : Plan L} (c : Contact) (h : Sound st p) :
    Sound st (apply_contact lane_for c p) := by
  unfold apply_contact
  split
  · exact move_pointer_sound _ _ h
  · exact release_pointer_sound _ h

/-! ## The whole snapshot -/

/-- Who owns which lane after the snapshot `contacts`, whatever was owned before. -/
def owners (contacts : List Contact) : UInt8 → Option (Fin L) :=
  fun id => (contacts.find? (·.pointer_id = id)).bind (wanted lane_for)

theorem foldl_sound {α : Type} {st : KeyboardState L} (f : Plan L → α → Plan L)
    (hf : ∀ p a, Sound st p → Sound st (f p a)) (l : List α) (p : Plan L) (h : Sound st p) :
    Sound st (l.foldl f p) := by
  induction l generalizing p with
  | nil => exact h
  | cons a l ih => exact ih _ (hf p a h)

theorem apply_contacts_sound {st : KeyboardState L} (frame : TouchFrame) (p : Plan L) (h : Sound st p) :
    Sound st (apply_contacts lane_for frame p) := by
  unfold apply_contacts
  refine foldl_sound _ (fun p c hp => ?_) _ _ ?_
  · split
    · exact apply_contact_sound lane_for c hp
    · exact hp
  · split
    · exact apply_contact_sound lane_for _ h
    · exact h

/-- The second pass: every contact but the action pointer's. -/
theorem foldl_contacts_pointers (action_pointer_id : UInt8) (cs : List Contact)
    (hn : (cs.map Contact.pointer_id).Nodup) (p : Plan L) (id : UInt8) :
    (cs.foldl (fun p c => if c.pointer_id ≠ action_pointer_id then apply_contact lane_for c p else p) p).1.pointer_lanes id =
      match cs.find? (·.pointer_id = id) with
      | some c => if id ≠ action_pointer_id then wanted lane_for c else p.1.pointer_lanes id
      | none => p.1.pointer_lanes id := by
  induction cs generalizing p with
  | nil => rfl
  | cons c cs ih =>
    simp only [List.map_cons, List.nodup_cons] at hn
    rw [List.foldl_cons, ih hn.2]
    by_cases hc : c.pointer_id = id
    · subst hc
      have hnone : cs.find? (·.pointer_id = c.pointer_id) = none := by
        rw [List.find?_eq_none]
        intro d hd
        simpa using fun e => hn.1 (List.mem_map.2 ⟨d, hd, e⟩)
      simp only [hnone, List.find?_cons, decide_true]
      split
      · rw [apply_contact_pointers, Function.update_self]
      · rfl
    · have hkeep : (if c.pointer_id ≠ action_pointer_id then apply_contact lane_for c p else p).1.pointer_lanes id =
          p.1.pointer_lanes id := by
        split
        · rw [apply_contact_pointers, Function.update_of_ne (Ne.symm hc)]
        · rfl
      simp only [List.find?_cons, hc, decide_false, hkeep]

theorem apply_contacts_pointers (frame : TouchFrame) (p : Plan L) (id : UInt8) :
    (apply_contacts lane_for frame p).1.pointer_lanes id =
      match frame.contacts.items.find? (·.pointer_id = id) with
      | some c => wanted lane_for c
      | none => p.1.pointer_lanes id := by
  unfold apply_contacts
  rw [foldl_contacts_pointers lane_for _ _ frame.contacts.distinct]
  by_cases hid : id = frame.action_pointer_id
  · subst hid
    cases hf : frame.contacts.items.find? (·.pointer_id = frame.action_pointer_id) with
    | none => rfl
    | some c =>
      have : c.pointer_id = frame.action_pointer_id := by simpa using List.find?_some hf
      simp only [ne_eq, not_true_eq_false, if_false, apply_contact_pointers, this, Function.update_self]
  · cases hf : frame.contacts.items.find? (·.pointer_id = id) with
    | some c => simp only [ne_eq, hid, not_false_eq_true, if_true]
    | none =>
      cases ha : frame.contacts.items.find? (·.pointer_id = frame.action_pointer_id) with
      | none => rfl
      | some c =>
        have : c.pointer_id = frame.action_pointer_id := by simpa using List.find?_some ha
        simp only [apply_contact_pointers, this, Function.update_of_ne hid]

theorem mem_pointer_ids (id : UInt8) : id ∈ POINTER_IDS :=
  List.mem_map.2 ⟨id.toFin, List.mem_finRange _, rfl⟩

theorem pointer_ids_nodup : POINTER_IDS.Nodup :=
  (List.nodup_finRange 256).map fun _ _ h => UInt8.toFin_inj.mpr h

theorem foldl_release_pointers (ids : List UInt8) (p : Plan L) (id : UInt8) :
    (ids.foldl (fun p id => release_pointer id p) p).1.pointer_lanes id =
      if id ∈ ids then none else p.1.pointer_lanes id := by
  induction ids generalizing p with
  | nil => rfl
  | cons i ids ih =>
    rw [List.foldl_cons, ih, release_pointer_pointers, Function.update_apply]
    by_cases h : id = i <;> simp [h]

theorem release_missing_sound {st : KeyboardState L} (contacts : List Contact) (p : Plan L) (h : Sound st p) :
    Sound st (release_missing contacts p) :=
  foldl_sound _ (fun _ id hp => release_pointer_sound id hp) _ _ h

theorem release_missing_pointers (contacts : List Contact) (p : Plan L) (id : UInt8) :
    (release_missing contacts p).1.pointer_lanes id =
      if contacts.any (·.pointer_id = id) then p.1.pointer_lanes id else none := by
  unfold release_missing
  rw [foldl_release_pointers]
  simp only [List.mem_filter, mem_pointer_ids, true_and, Bool.and_eq_true, Bool.not_eq_true']
  cases hp : p.1.pointer_lanes id <;> cases hc : contacts.any (·.pointer_id = id) <;> simp

/-- The plan's pointers own what the snapshot says, and nothing else is owned. -/
theorem plan_lanes (state : KeyboardState L) (frame : TouchFrame) (split_repress : Bool) :
    (plan_into lane_for state frame split_repress).1.pointer_lanes = owners lane_for frame.contacts.items := by
  funext id
  simp only [plan_into, release_missing_pointers, note_suppressed, apply_contacts_pointers, owners]
  cases hf : frame.contacts.items.find? (·.pointer_id = id) with
  | some c =>
    have hc : c.pointer_id = id := by simpa using List.find?_some hf
    have hany : frame.contacts.items.any (·.pointer_id = id) = true :=
      List.any_eq_true.2 ⟨c, List.mem_of_find?_eq_some hf, by simpa using hc⟩
    simp [hany]
  | none =>
    have hany : frame.contacts.items.any (·.pointer_id = id) = false := by
      rw [List.any_eq_false]
      exact fun c hc => List.find?_eq_none.1 hf c hc
    simp [hany]

/-- The planner's result before a lane held throughout loses its changes. -/
theorem plan_sound {state : KeyboardState L} (h : Counted state) (frame : TouchFrame) :
    Sound state (release_missing frame.contacts.items
      (note_suppressed frame.contacts.items
        (apply_contacts lane_for frame ({ state with pressure_suppressed := fun _ => false }, [])).1,
       (apply_contacts lane_for frame ({ state with pressure_suppressed := fun _ => false }, [])).2)) := by
  have hstart : Sound state ({ state with pressure_suppressed := fun _ => false }, []) := ⟨h, rfl⟩
  have happ := apply_contacts_sound lane_for frame _ hstart
  exact release_missing_sound _ _ ⟨happ.counted, happ.tracks⟩

theorem plan_counted {state : KeyboardState L} (h : Counted state) (frame : TouchFrame) (split_repress : Bool) :
    Counted (plan_into lane_for state frame split_repress).1 :=
  (plan_sound lane_for h frame).counted

theorem repeat_press_idle {state next : KeyboardState L} (hn : Counted next) (frame : TouchFrame)
    (split_repress : Bool) (c : Contact) :
    played (held next) (repeat_press state next frame split_repress c) = held next := by
  unfold repeat_press
  split
  · split
    · rfl
    · rename_i lane hl
      have hpos : held next lane = true := by
        simpa [held, hn lane] using holders_pos.2 ⟨_, hl⟩
      have hup : Function.update (held next) lane true = held next := by
        rw [← hpos, Function.update_eq_self]
      split
      · split <;> simp [hup]
      · rfl
  · rfl

theorem foldl_repeat_idle {state next : KeyboardState L} (hn : Counted next) (frame : TouchFrame)
    (split_repress : Bool) (cs : List Contact) (pressed : Fin L → Bool) (changes : List (KeyChange L))
    (h : played pressed changes = held next) :
    played pressed (cs.foldl (fun changes c => changes ++ repeat_press state next frame split_repress c) changes) =
      held next := by
  induction cs generalizing changes with
  | nil => exact h
  | cons c cs ih =>
    refine ih _ ?_
    rw [played_append, h]
    exact repeat_press_idle hn frame split_repress c

/-- The planned changes lead from the lanes held before the frame to the lanes held after it. -/
theorem plan_plays {state : KeyboardState L} (h : Counted state) (frame : TouchFrame) (split_repress : Bool) :
    played (held state) (plan_into lane_for state frame split_repress).2 =
      held (plan_into lane_for state frame split_repress).1 := by
  have hs := plan_sound lane_for h frame
  unfold plan_into
  dsimp only at hs ⊢
  generalize release_missing _ _ = p at hs ⊢
  refine foldl_repeat_idle hs.counted frame split_repress _ _ _ ?_
  funext l
  by_cases hl : state.lane_holds l = 0 ∨ p.1.lane_holds l = 0
  · rw [← congrFun hs.tracks l]
    refine play_congr _ _ rfl ?_
    rw [List.filter_filter]
    refine List.filter_congr fun c _ => ?_
    by_cases hc : c.lane = l
    · subst hc; simpa using hl
    · simp [hc]
  · rw [played, play_untouched]
    · simp only [held]; simp only [not_or] at hl; simp; omega
    · intro c hc e
      simp only [List.mem_filter, Bool.or_eq_true, decide_eq_true_eq, e] at hc
      exact hl hc.2

end

end Trackpad.Keyboard
