import Trackpad.Keyboard.Runs
/-!
# A frame never lets go of a key it keeps

A lane held before and after a frame gets no up, any other lane changes at every edge, and a pointer that owns a
lane on both sides of the frame has a pressed lane on its way at every moment.
-/
open Edges Ownership

namespace Trackpad.Keyboard

variable {L : Nat} (lane_for : Int → Fin L)

/-- The changes as planned, before a lane held throughout loses its own. -/
def raw_plan (state : KeyboardState L) (frame : TouchFrame) : Plan L :=
  let p := apply_contacts lane_for frame ({ state with pressure_suppressed := fun _ => false }, [])
  release_missing frame.contacts.items (note_suppressed frame.contacts.items p.1, p.2)

def repeats (state next : KeyboardState L) (frame : TouchFrame) (split_repress : Bool) : List (KeyChange L) :=
  frame.contacts.items.flatMap (repeat_press state next frame split_repress)

theorem plan_into_eq (state : KeyboardState L) (frame : TouchFrame) (split_repress : Bool) :
    plan_into lane_for state frame split_repress =
      ((raw_plan lane_for state frame).1,
        ((raw_plan lane_for state frame).2.filter fun c =>
            state.lane_holds c.lane = 0 || (raw_plan lane_for state frame).1.lane_holds c.lane = 0) ++
          repeats state (raw_plan lane_for state frame).1 frame split_repress) := by
  have hfold : ∀ (next : KeyboardState L) (cs : List Contact) (changes : List (KeyChange L)),
      cs.foldl (fun changes c => changes ++ repeat_press state next frame split_repress c) changes =
        changes ++ cs.flatMap (repeat_press state next frame split_repress) := by
    intro next cs
    induction cs with
    | nil => simp
    | cons c cs ih => simp [ih]
  exact Prod.ext rfl (hfold _ _ _)

/-! ## What every step of the plan keeps -/

section Steps
variable {P : Plan L → Prop} (hacquire : ∀ lane touch p, P p → P (acquire_lane lane touch p))
  (hrelease : ∀ lane p, P p → P (release_lane lane p)) (hown : ∀ id lane p, P p → P (own id lane p))
include hacquire hrelease

theorem slide_keeps (destination : Fin L) (n : Nat) (current : Fin L) (p : Plan L) (h : P p) :
    P (slide destination n current p) := by
  induction n generalizing current p with
  | zero => exact h
  | succ n ih =>
    rw [slide]
    split
    · exact h
    · exact ih _ _ (hrelease _ _ (hacquire _ _ _ h))

include hown

theorem move_pointer_keeps (id : UInt8) (destination : Fin L) (p : Plan L) (h : P p) :
    P (move_pointer id destination p) := by
  unfold move_pointer
  split
  · exact hown _ _ _ (hacquire _ _ _ h)
  · exact hown _ _ _ (slide_keeps hacquire hrelease _ _ _ _ h)

omit hacquire in
theorem release_pointer_keeps (id : UInt8) (p : Plan L) (h : P p) : P (release_pointer id p) := by
  unfold release_pointer
  split
  · exact h
  · exact hrelease _ _ (hown _ _ _ h)

theorem apply_contact_keeps (c : Contact) (p : Plan L) (h : P p) : P (apply_contact lane_for c p) := by
  unfold apply_contact
  split
  · exact move_pointer_keeps hacquire hrelease hown _ _ _ h
  · exact release_pointer_keeps hrelease hown _ _ h

theorem apply_contacts_keeps (frame : TouchFrame) (p : Plan L) (h : P p) : P (apply_contacts lane_for frame p) := by
  refine List.foldlRecOn _ _ ?_ fun p hp c _ => ?_
  · split
    · exact apply_contact_keeps lane_for hacquire hrelease hown _ _ h
    · exact h
  · split
    · exact apply_contact_keeps lane_for hacquire hrelease hown _ _ hp
    · exact hp

/-- A property of the holds, the owners and the changes that every step keeps is one of the whole plan. -/
theorem raw_plan_keeps (hgated : ∀ p gated, P p → P ({ p.1 with pressure_suppressed := gated }, p.2))
    (state : KeyboardState L) (frame : TouchFrame) (h : P (state, [])) : P (raw_plan lane_for state frame) := by
  have happ := apply_contacts_keeps lane_for hacquire hrelease hown frame _ (hgated _ (fun _ => false) h)
  refine List.foldlRecOn _ _ (hgated _ _ happ) fun p hp id _ => ?_
  exact release_pointer_keeps hrelease hown _ _ hp

end Steps

/-! ## Alternation -/

/-- The edges of each lane turn it over, starting from the lanes held in `st`. -/
def Alternating (st : KeyboardState L) (changes : List (KeyChange L)) : Prop :=
  ∀ l, Alternates (held st l) (track KeyChange.lane KeyChange.down changes l)

theorem alternating_concat {st : KeyboardState L} {p : Plan L} {lane : Fin L} {down touch : Bool}
    (ht : Tracks st p) (h : Alternating st p.2) (hd : held p.1 lane ≠ down) :
    Alternating st (p.2 ++ [⟨lane, down, touch⟩]) := by
  intro l
  rw [track_append, track_cons]
  by_cases hl : lane = l
  · subst hl
    rw [if_pos rfl]
    refine alternates_concat (h lane) ?_
    rw [← play_eq_track]
    exact fun he => hd ((congrFun ht lane).symm.trans he)
  · rw [if_neg hl, track_nil, List.append_nil]
    exact h l

theorem raw_plan_alternating (state : KeyboardState L) (frame : TouchFrame) :
    Alternating state (raw_plan lane_for state frame).2 := by
  have hkeep := raw_plan_keeps lane_for (P := fun p => Tracks state p ∧ Alternating state p.2)
    (fun lane touch p h => ⟨acquire_lane_tracks lane touch h.1, ?_⟩)
    (fun lane p h => ⟨release_lane_tracks lane h.1, ?_⟩)
    (fun _ _ _ h => h) (fun _ _ h => h) state frame ⟨rfl, fun l => alternates_nil _⟩
  · exact hkeep.2
  · rw [acquire_lane]
    dsimp only
    split
    · next hfree => exact alternating_concat h.1 h.2 (by simp [held, hfree])
    · exact h.2
  · rw [release_lane]
    split
    · exact h.2
    · next hheld =>
      dsimp only
      split
      · exact alternating_concat h.1 h.2 (by simp [held, Nat.pos_of_ne_zero hheld])
      · exact h.2

/-! ## A pressed lane at every moment -/

/-- `l` lies between `a` and `b`. -/
def OnPath (a b l : Fin L) : Prop := (a ≤ l ∧ l ≤ b) ∨ (b ≤ l ∧ l ≤ a)

/-- After every part of the changes some lane of `S` is pressed. -/
def AlwaysPressed (S : Fin L → Prop) (pressed : Fin L → Bool) (changes : List (KeyChange L)) : Prop :=
  ∀ xs, xs <+: changes → ∃ l, S l ∧ played pressed xs l = true

variable {S : Fin L → Prop} {st : KeyboardState L} {p : Plan L} {H : Fin L → Nat} {current destination : Fin L}

theorem alwaysPressed_concat {pressed : Fin L → Bool} {changes : List (KeyChange L)} {change : KeyChange L}
    (h : AlwaysPressed S pressed changes) (hnow : ∃ l, S l ∧ played pressed (changes ++ [change]) l = true) :
    AlwaysPressed S pressed (changes ++ [change]) := by
  intro xs hxs
  rcases List.prefix_concat_iff.1 hxs with rfl | hxs
  · exact hnow
  · exact h xs hxs

theorem acquire_pressed {lane : Fin L} {touch : Bool} (ht : Tracks st p) (h : AlwaysPressed S (held st) p.2)
    (hS : ∃ l, S l ∧ held (acquire_lane lane touch p).1 l = true) :
    AlwaysPressed S (held st) (acquire_lane lane touch p).2 := by
  have hafter : played (held st) (acquire_lane lane touch p).2 = held (acquire_lane lane touch p).1 :=
    acquire_lane_tracks lane touch ht
  by_cases hfree : p.1.lane_holds lane = 0
  · have hchanges : (acquire_lane lane touch p).2 = p.2 ++ [⟨lane, true, touch⟩] := if_pos hfree
    rw [← hafter] at hS
    rw [hchanges] at hS ⊢
    exact alwaysPressed_concat h hS
  · have hchanges : (acquire_lane lane touch p).2 = p.2 := if_neg hfree
    rw [hchanges]
    exact h

theorem release_pressed {lane : Fin L} (ht : Tracks st p) (h : AlwaysPressed S (held st) p.2)
    (hS : ∃ l, S l ∧ held (release_lane lane p).1 l = true) : AlwaysPressed S (held st) (release_lane lane p).2 := by
  have hafter : played (held st) (release_lane lane p).2 = held (release_lane lane p).1 := release_lane_tracks lane ht
  by_cases hfree : p.1.lane_holds lane = 0
  · rw [release_lane, if_pos hfree]
    exact h
  · by_cases hlast : p.1.lane_holds lane - 1 = 0
    · have hchanges : (release_lane lane p).2 = p.2 ++ [⟨lane, false, false⟩] := by
        rw [release_lane, if_neg hfree]
        exact if_pos hlast
      rw [← hafter] at hS
      rw [hchanges] at hS ⊢
      exact alwaysPressed_concat h hS
    · have hchanges : (release_lane lane p).2 = p.2 := by
        rw [release_lane, if_neg hfree]
        exact if_neg hlast
      rw [hchanges]
      exact h

theorem onPath_start (a b : Fin L) : OnPath a b a := by
  rcases le_total a b with hab | hab
  · exact .inl ⟨le_refl _, hab⟩
  · exact .inr ⟨hab, le_refl _⟩

theorem onPath_end (a b : Fin L) : OnPath a b b := by
  rcases le_total a b with hab | hab
  · exact .inl ⟨hab, le_refl _⟩
  · exact .inr ⟨le_refl _, hab⟩

/-- The rest of the way is on the way. -/
theorem onPath_next {m : Fin L} (hne : current ≠ destination) (h : OnPath (next_lane current destination) destination m) :
    OnPath current destination m := by
  have hv : current.val ≠ destination.val := fun e => hne (Fin.ext e)
  unfold OnPath next_lane at *
  simp only [Fin.le_def, Fin.lt_def] at *
  split at h <;> dsimp only at h <;> omega

/-- The slide of a pointer keeps a pressed lane in `S`: its own, if all of its way is in `S`, or one that another
pointer holds. -/
theorem slide_pressed (hH : ∀ l, H l + 1 < U16_MAX) (n : Nat) (ht : Tracks st p) (hb : Beside H current p)
    (h : AlwaysPressed S (held st) p.2)
    (hS : (∃ l, S l ∧ 0 < H l) ∨ ∀ m, OnPath current destination m → S m) :
    AlwaysPressed S (held st) (slide destination n current p).2 := by
  induction n generalizing current p with
  | zero => exact h
  | succ n ih =>
    rw [slide]
    split
    · exact h
    · next hne =>
      have htacquire := acquire_lane_tracks (next_lane current destination) false ht
      have hboth := acquire_next_beside hH hb hne
      have hnext := release_next_beside hH hb hne
      have hpressed : ∀ g : Fin L → Nat, (∀ l, H l ≤ g l) → ∀ m, OnPath current destination m → 0 < g m →
          ∃ l, S l ∧ decide (0 < g l) = true := by
        intro g hg m hm hgm
        rcases hS with ⟨l, hl, hpos⟩ | hpath
        · exact ⟨l, hl, by simpa using Nat.lt_of_lt_of_le hpos (hg l)⟩
        · exact ⟨m, hpath m hm, by simpa using hgm⟩
      have hacquired := acquire_pressed ht h (hpressed _ (fun l => by rw [hboth]; omega) current
        (onPath_start _ _) (by rw [hboth]; simp))
      have hreleased := release_pressed htacquire hacquired (hpressed _ (fun l => by rw [hnext l]; omega)
        (next_lane current destination) (onPath_next hne (onPath_start _ _)) (by rw [hnext]; simp))
      exact ih (release_lane_tracks _ htacquire) hnext hreleased
        (hS.imp id fun hpath m hm => hpath m (onPath_next hne hm))

/-- The pointers other than `id` hold what is counted without it. -/
def others (p : Plan L) (id : UInt8) : Fin L → Nat := holders (Function.update p.1.pointer_lanes id none)

theorem move_pointer_pressed {id : UInt8} (hs : Sound st p) (h : AlwaysPressed S (held st) p.2)
    (hS : (∃ l, S l ∧ 0 < others p id l) ∨
      ∃ current, p.1.pointer_lanes id = some current ∧ ∀ m, OnPath current destination m → S m) :
    AlwaysPressed S (held st) (move_pointer id destination p).2 := by
  unfold move_pointer
  cases hown : p.1.pointer_lanes id with
  | none =>
    rcases hS with ⟨l, hl, hpos⟩ | ⟨current, hcurrent, -⟩
    · refine acquire_pressed hs.tracks h ⟨l, hl, ?_⟩
      have hcount : ∀ k, p.1.lane_holds k = others p id k := fun k => (hs.counted k).trans (holders_free hown k)
      have hbeside := acquire_beside (H := others p id) (holders_lt _) destination true hcount l
      rw [held, hbeside]
      simp only [decide_eq_true_eq]
      omega
    · rw [hown] at hcurrent
      cases hcurrent
  | some current =>
    refine slide_pressed (H := others p id) (holders_lt _) _ hs.tracks
      (fun k => (hs.counted k).trans (holders_split hown k)) h ?_
    rcases hS with hother | ⟨current', hcurrent, hpath⟩
    · exact .inl hother
    · rw [hown] at hcurrent
      obtain rfl := Option.some.inj hcurrent
      exact .inr hpath

theorem release_pointer_pressed {id : UInt8} (hs : Sound st p) (h : AlwaysPressed S (held st) p.2)
    (hS : ∃ l, S l ∧ 0 < others p id l) : AlwaysPressed S (held st) (release_pointer id p).2 := by
  unfold release_pointer
  cases hown : p.1.pointer_lanes id with
  | none => exact h
  | some lane =>
    obtain ⟨l, hl, hpos⟩ := hS
    refine release_pressed (own_tracks _ _ hs.tracks) h ⟨l, hl, ?_⟩
    have hb : Beside (others p id) lane (own id none p) := fun k => (hs.counted k).trans (holders_split hown k)
    rw [held, release_beside hb l]
    simpa using hpos

/-- Pointer `id` is on its way from `a` to `b`, and some lane of the way was pressed all the time. -/
structure Travelling (st : KeyboardState L) (id : UInt8) (a b : Fin L) (p : Plan L) : Prop where
  sound : Sound st p
  pressed : AlwaysPressed (OnPath a b) (held st) p.2
  owns : p.1.pointer_lanes id = some a ∨ p.1.pointer_lanes id = some b

variable {id : UInt8} {a b : Fin L}

theorem Travelling.lane (h : Travelling st id a b p) : ∃ l, OnPath a b l ∧ p.1.pointer_lanes id = some l := by
  rcases h.owns with ha | hb
  · exact ⟨a, onPath_start a b, ha⟩
  · exact ⟨b, onPath_end a b, hb⟩

/-- What another pointer does leaves the lane of `id` held. -/
theorem Travelling.held_by (h : Travelling st id a b p) {other : UInt8} (hne : other ≠ id) :
    ∃ l, OnPath a b l ∧ 0 < others p other l := by
  obtain ⟨l, hl, hown⟩ := h.lane
  refine ⟨l, hl, holders_pos.2 ⟨id, ?_⟩⟩
  rw [Function.update_of_ne (Ne.symm hne), hown]

theorem Travelling.apply_contact (h : Travelling st id a b p) {c : Contact}
    (hc : c.pointer_id = id → wanted lane_for c = some b) : Travelling st id a b (apply_contact lane_for c p) := by
  have howner : (Keyboard.apply_contact lane_for c p).1.pointer_lanes id = some a ∨
      (Keyboard.apply_contact lane_for c p).1.pointer_lanes id = some b := by
    rw [apply_contact_pointers]
    by_cases hid : c.pointer_id = id
    · exact .inr (by rw [hid, Function.update_self, hc hid])
    · rw [Function.update_of_ne (Ne.symm hid)]
      exact h.owns
  refine ⟨apply_contact_sound lane_for c h.sound, ?_, howner⟩
  unfold Keyboard.apply_contact
  by_cases hid : c.pointer_id = id
  · have hwanted := hc hid
    rw [wanted] at hwanted
    split at hwanted
    · next hpresses =>
      obtain rfl := Option.some.inj hwanted
      rw [if_pos hpresses]
      refine move_pointer_pressed h.sound h.pressed (.inr ?_)
      rw [hid]
      rcases h.owns with ha | hb
      · exact ⟨a, ha, fun m hm => hm⟩
      · refine ⟨_, hb, fun m hm => ?_⟩
        obtain rfl : m = lane_for c.x := by
          rcases hm with ⟨hle, hge⟩ | ⟨hle, hge⟩
          · exact le_antisymm hge hle
          · exact le_antisymm hge hle
        exact onPath_end _ _
    · cases hwanted
  · split
    · exact move_pointer_pressed h.sound h.pressed (.inl (h.held_by hid))
    · exact release_pointer_pressed h.sound h.pressed (h.held_by hid)

theorem Travelling.raw_plan {frame : TouchFrame} (hc : Counted st) (ha : st.pointer_lanes id = some a)
    (hb : owners lane_for frame.contacts.items id = some b) :
    Travelling st id a b (Keyboard.raw_plan lane_for st frame) := by
  -- the one contact of this pointer wants `b`
  have hcontact : ∀ c ∈ frame.contacts.items, c.pointer_id = id → wanted lane_for c = some b := by
    intro c hmem hid
    obtain ⟨c', hfind, hwanted⟩ := Option.bind_eq_some_iff.1 hb
    have hid' : c'.pointer_id = id := by simpa using List.find?_some hfind
    rw [← List.inj_on_of_nodup_map frame.contacts.distinct (List.mem_of_find?_eq_some hfind) hmem (hid'.trans hid.symm)]
    exact hwanted
  have hpresent : frame.contacts.items.any (·.pointer_id = id) = true := by
    obtain ⟨c', hfind, -⟩ := Option.bind_eq_some_iff.1 hb
    exact List.any_eq_true.2 ⟨c', List.mem_of_find?_eq_some hfind, by simpa using List.find?_some hfind⟩
  have hstart : Travelling st id a b ({ st with pressure_suppressed := fun _ => false }, []) := by
    refine ⟨⟨hc, rfl⟩, fun xs hxs => ⟨a, onPath_start a b, ?_⟩, .inl ha⟩
    have hnone : played (held st) xs = held st := by rw [List.prefix_nil.1 hxs]; rfl
    rw [hnone, held, hc a]
    simpa using holders_pos.2 ⟨id, ha⟩
  have happlied : Travelling st id a b
      (apply_contacts lane_for frame ({ st with pressure_suppressed := fun _ => false }, [])) := by
    refine List.foldlRecOn _ _ ?_ fun p hp c hmem => ?_
    · cases hfind : frame.contacts.items.find? (·.pointer_id = frame.action_pointer_id) with
      | none => exact hstart
      | some c => exact hstart.apply_contact lane_for (hcontact c (List.mem_of_find?_eq_some hfind))
    · split
      · exact hp.apply_contact lane_for (hcontact c hmem)
      · exact hp
  have hnoted : Travelling st id a b (note_suppressed frame.contacts.items
      (apply_contacts lane_for frame ({ st with pressure_suppressed := fun _ => false }, [])).1,
      (apply_contacts lane_for frame ({ st with pressure_suppressed := fun _ => false }, [])).2) :=
    ⟨⟨happlied.sound.counted, happlied.sound.tracks⟩, happlied.pressed, happlied.owns⟩
  refine List.foldlRecOn _ _ hnoted fun p hp other hmem => ?_
  have hne : other ≠ id := by
    rintro rfl
    have hmissing := (List.mem_filter.1 hmem).2
    simp only [hpresent, Bool.not_true, Bool.and_false, Bool.false_eq_true] at hmissing
  refine ⟨release_pointer_sound other hp.sound, release_pointer_pressed hp.sound hp.pressed (hp.held_by hne), ?_⟩
  rw [release_pointer_pointers, Function.update_of_ne (Ne.symm hne)]
  exact hp.owns

/-! ## The frame -/

theorem stays_pressed {pressed : Fin L → Bool} {changes : List (KeyChange L)} {l : Fin L} (hl : pressed l = true)
    (h : ∀ c ∈ changes, c.lane = l → c.down = true) : played pressed changes l = true := by
  induction changes generalizing pressed with
  | nil => exact hl
  | cons c changes ih =>
    rw [played, play_cons]
    refine ih ?_ fun c' hmem => h c' (List.mem_cons_of_mem _ hmem)
    by_cases hcl : c.lane = l
    · subst hcl
      rw [Function.update_self]
      exact h c List.mem_cons_self rfl
    · rw [Function.update_of_ne (Ne.symm hcl)]
      exact hl

theorem mem_repeats {state next : KeyboardState L} {frame : TouchFrame} {c : KeyChange L} (hn : Counted next)
    (h : c ∈ repeats state next frame false) : c.down = true ∧ held state c.lane = true ∧ held next c.lane = true := by
  obtain ⟨contact, -, hc⟩ := List.mem_flatMap.1 h
  rw [repeat_press] at hc
  split at hc
  · split at hc
    · cases hc
    · next lane hlane =>
      split at hc
      · next hheld =>
        obtain rfl : c = ⟨lane, true, true⟩ := by simpa using hc
        refine ⟨rfl, by simpa [held] using hheld, ?_⟩
        rw [held, hn lane]
        simpa using holders_pos.2 ⟨_, hlane⟩
      · cases hc
  · cases hc

/-- Planning a frame without split re-presses: where the lanes end up, no up on a kept lane, alternation on every
other lane, and a pressed lane on the way of every pointer that keeps one. -/
theorem plan_continuous {state : KeyboardState L} (hc : Counted state) (frame : TouchFrame) :
    played (held state) (plan_into lane_for state frame false).2 = held (plan_into lane_for state frame false).1 ∧
    (∀ c ∈ (plan_into lane_for state frame false).2, held state c.lane = true →
      held (plan_into lane_for state frame false).1 c.lane = true → c.down = true) ∧
    (∀ l, ¬(held state l = true ∧ held (plan_into lane_for state frame false).1 l = true) →
      Alternates (held state l) (track KeyChange.lane KeyChange.down (plan_into lane_for state frame false).2 l)) ∧
    ∀ id a b, state.pointer_lanes id = some a →
      (plan_into lane_for state frame false).1.pointer_lanes id = some b →
      ∀ xs, xs <+: (plan_into lane_for state frame false).2 → ∃ l, OnPath a b l ∧ played (held state) xs l = true := by
  have hplays := plan_plays lane_for hc frame false
  have hnext := plan_counted lane_for hc frame false
  have hlanes := plan_lanes lane_for state frame false
  have halternating := raw_plan_alternating lane_for state frame
  rw [plan_into_eq] at hplays hnext hlanes ⊢
  -- a lane that is not kept has lost no change, and a kept one has only its repeats
  have hkept : ∀ l, (state.lane_holds l = 0 || (raw_plan lane_for state frame).1.lane_holds l = 0) = false ↔
      held state l = true ∧ held (raw_plan lane_for state frame).1 l = true := by
    intro l
    simp [held, Nat.pos_iff_ne_zero]
  have hrepeats : ∀ c ∈ repeats state (raw_plan lane_for state frame).1 frame false, c.down = true ∧
      held state c.lane = true ∧ held (raw_plan lane_for state frame).1 c.lane = true := fun c h => mem_repeats hnext h
  obtain ⟨raw, hraw⟩ : ∃ raw, raw = raw_plan lane_for state frame := ⟨_, rfl⟩
  have htravelling : ∀ id a b, state.pointer_lanes id = some a → raw.1.pointer_lanes id = some b →
      AlwaysPressed (OnPath a b) (held state) raw.2 := by
    intro id a b ha hb
    rw [hraw, hlanes] at hb
    rw [hraw]
    exact (Travelling.raw_plan lane_for hc ha hb).pressed
  rw [← hraw] at hplays hnext hkept hrepeats halternating ⊢
  obtain ⟨keep, hkeep⟩ : ∃ keep : KeyChange L → Bool,
      keep = fun c => decide (state.lane_holds c.lane = 0) || decide (raw.1.lane_holds c.lane = 0) := ⟨_, rfl⟩
  have hfree : ∀ l, ¬(held state l = true ∧ held raw.1 l = true) → ∀ c : KeyChange L, c.lane = l → keep c = true := by
    rintro l hl c rfl
    rw [← Bool.not_eq_false, hkeep, hkept]
    exact hl
  rw [← hkeep] at hplays ⊢
  have hdown : ∀ c ∈ raw.2.filter keep ++ repeats state raw.1 frame false,
      held state c.lane = true → held raw.1 c.lane = true → c.down = true := by
    intro c hmem hbefore hafter
    rcases List.mem_append.1 hmem with hmem | hmem
    · have hfilter := (List.mem_filter.1 hmem).2
      rw [hkeep] at hfilter
      exact absurd (((hkept c.lane).2 ⟨hbefore, hafter⟩).symm.trans hfilter) Bool.false_ne_true
    · exact (hrepeats c hmem).1
  have hsame : ∀ l, ¬(held state l = true ∧ held raw.1 l = true) → ∀ ys : List (KeyChange L),
      (ys.filter keep).filter (·.lane = l) = ys.filter (·.lane = l) := by
    intro l hl ys
    rw [List.filter_filter]
    refine List.filter_congr fun c _ => ?_
    by_cases hcl : c.lane = l
    · simp [hcl, hfree l hl c hcl]
    · simp [hcl]
  have hnone : ∀ l, ¬(held state l = true ∧ held raw.1 l = true) → ∀ zs, zs ⊆ repeats state raw.1 frame false →
      zs.filter (·.lane = l) = [] := by
    intro l hl zs hzs
    refine List.filter_eq_nil_iff.2 fun c hmem heq => ?_
    obtain rfl : c.lane = l := by simpa using heq
    exact hl (hrepeats c (hzs hmem)).2
  refine ⟨hplays, hdown, fun l hl => ?_, fun id a b ha hb xs hxs => ?_⟩
  · rw [track, List.filter_append, hsame l hl, hnone l hl _ (List.Subset.refl _), List.append_nil]
    exact halternating l
  · -- on the lanes that are not kept, `xs` is a part `ys` of the raw changes
    obtain ⟨ys, hys, hplayed⟩ : ∃ ys, ys <+: raw.2 ∧
        ∀ l, ¬(held state l = true ∧ held raw.1 l = true) → played (held state) xs l = played (held state) ys l := by
      rcases List.prefix_or_prefix_of_prefix hxs (List.prefix_append _ _) with hfiltered | ⟨zs, rfl⟩
      · obtain ⟨ys, hys, rfl⟩ := List.prefix_filter_iff.1 hfiltered
        exact ⟨ys, hys, fun l hl => play_congr _ _ rfl (hsame l hl ys)⟩
      · have hzs : zs <+: repeats state raw.1 frame false := (List.prefix_append_right_inj _).1 hxs
        refine ⟨raw.2, List.prefix_refl _, fun l hl => play_congr _ _ rfl ?_⟩
        rw [List.filter_append, hsame l hl, hnone l hl zs hzs.subset, List.append_nil]
    obtain ⟨l, hl, hpressed⟩ := htravelling id a b ha hb ys hys
    refine ⟨l, hl, ?_⟩
    by_cases hboth : held state l = true ∧ held raw.1 l = true
    · exact stays_pressed hboth.1 fun c hmem hcl => hdown c (hxs.subset hmem) (hcl ▸ hboth.1) (hcl ▸ hboth.2)
    · rw [hplayed l hboth]
      exact hpressed

/-- One finger on the left third, where it landed. -/
def restingLeft : KeyboardState 3 :=
  (plan_into thirds (KeyboardState.new 3)
    { tapRight with contacts := ⟨[⟨0, CONTACT_FLAG_TIP, 1000, 5000, 0, 0⟩], by decide, by decide⟩ } false).1

/-- It goes to the right third while another finger lands there. -/
def slidesRight : TouchFrame :=
  { tapRight with
    sequence := 2, action_pointer_id := 1
    contacts := ⟨[⟨0, CONTACT_FLAG_TIP, 9000, 5000, 0, 0⟩, ⟨1, CONTACT_FLAG_TIP, 9000, 5000, 0, 0⟩], by decide, by decide⟩ }

theorem plan_continuous_slide :
    (plan_into thirds restingLeft slidesRight false).2.map (fun c => (c.lane, c.down)) =
      [(2, true), (1, true), (0, false), (1, false)] ∧
    ∀ xs, xs <+: (plan_into thirds restingLeft slidesRight false).2 →
      ∃ l, OnPath 0 2 l ∧ played (held restingLeft) xs l = true :=
  ⟨by decide +kernel,
    (plan_continuous thirds (plan_counted thirds counted_new _ _) slidesRight).2.2.2 0 0 2 (by decide +kernel)
      (by decide +kernel)⟩

end Trackpad.Keyboard
