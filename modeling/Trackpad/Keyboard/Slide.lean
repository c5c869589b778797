import Trackpad.Keyboard.Log
/-!
# A slide keeps a key down

One finger slides across the lanes of a spaced sink. Each lane is left after the next one is
entered, and no release goes out before an earlier press: `Covered` says that the queue, played in
order, never leaves every lane up, and what a flush takes out of order cannot change that.
-/
open Edges Ownership

namespace Trackpad.Keyboard

variable {κ : Type} {L : Nat}

def AnyDown (pressed : Fin L → Bool) : Prop := ∃ lane, pressed lane = true

/-- No release among `changes`, played in order, leaves every lane up. -/
def Covered (pressed : Fin L → Bool) (changes : List (KeyChange L)) : Prop :=
  ∀ before r behind, changes = before ++ r :: behind → r.down = false → AnyDown (played pressed (before ++ [r]))

/-! ## Emitting -/

theorem played_concat (pressed : Fin L → Bool) (changes : List (KeyChange L)) (c : KeyChange L) :
    played pressed (changes ++ [c]) = Function.update (played pressed changes) c.lane c.down := by
  rw [played_append]
  rfl

/-- A change of a lane that the changes before it leave alone may as well come first. -/
theorem played_first {before : List (KeyChange L)} {e : KeyChange L} (h : ∀ x ∈ before, x.lane ≠ e.lane)
    (pressed : Fin L → Bool) (behind : List (KeyChange L)) :
    played pressed (before ++ e :: behind) = played (Function.update pressed e.lane e.down) (before ++ behind) := by
  funext lane
  rw [show Function.update pressed e.lane e.down = played pressed [e] from rfl, ← played_append]
  apply play_congr _ _ rfl
  by_cases hl : e.lane = lane
  · subst hl
    have hnone : before.filter (·.lane = e.lane) = [] := by simpa using h
    simp [List.filter_append, hnone]
  · simp [List.filter_append, hl]

/-- A lane that is down stays so until a change names it. -/
theorem played_kept {pressed : Fin L → Bool} {lane : Fin L} (h : pressed lane = true) {changes : List (KeyChange L)}
    (hc : ∀ c ∈ changes, c.lane = lane → c.down = true) : played pressed changes lane = true := by
  induction changes generalizing pressed with
  | nil => exact h
  | cons c changes ih =>
    apply ih
    · show Function.update pressed c.lane c.down lane = true
      rw [Function.update_apply]
      split
      · rename_i hl
        exact hc c List.mem_cons_self hl.symm
      · exact h
    · exact fun c' hc' => hc c' (List.mem_cons_of_mem _ hc')

/-- An edge that waits for none of those before it leaves a lane down, and the rest covered. -/
theorem covered_take {pressed : Fin L → Bool} {before behind : List (KeyChange L)} {e : KeyChange L}
    (h : Covered pressed (before ++ e :: behind)) (hw : ∀ x ∈ before, ¬ MustWait x e) :
    AnyDown (Function.update pressed e.lane e.down) ∧ Covered (Function.update pressed e.lane e.down) (before ++ behind) := by
  have hlanes : ∀ x ∈ before, x.lane ≠ e.lane := fun x hx hl => hw x hx (.inl hl.symm)
  -- Some lane is down after `e`, and none of the edges before it names that lane.
  obtain ⟨lane, hdown, huntouched⟩ : ∃ lane, Function.update pressed e.lane e.down lane = true ∧
      ∀ x ∈ before, x.lane = lane → x.down = true := by
    cases hd : e.down with
    | true => exact ⟨e.lane, Function.update_self .., fun x hx hl => absurd hl (hlanes x hx)⟩
    | false =>
      obtain ⟨lane, hlane⟩ := h before e behind rfl hd
      have hups : ∀ x ∈ before, x.down = false := by
        intro x hx
        have := hw x hx
        simp only [MustWait, hd, and_true, not_or] at this
        simpa using this.2
      rw [played_first hlanes, List.append_nil, hd] at hlane
      have hnone : ∀ x ∈ before, x.lane ≠ lane := by
        intro x hx hl
        rw [played, play_eq_last] at hlane
        rcases hlast : (before.filter (·.lane = lane)).getLast? with _ | y
        · have hmem : x ∈ before.filter (·.lane = lane) := List.mem_filter.2 ⟨hx, by simpa using hl⟩
          rw [List.getLast?_eq_none_iff.1 hlast] at hmem
          cases hmem
        · rw [hlast] at hlane
          have hy := hups y (List.mem_filter.1 (List.mem_of_getLast? hlast)).1
          simp [hy] at hlane
      rw [played, play_untouched _ _ _ _ _ hnone] at hlane
      exact ⟨lane, hlane, fun x hx hl => absurd hl (hnone x hx)⟩
  refine ⟨⟨lane, hdown⟩, fun b r rest hsplit hr => ?_⟩
  rcases List.append_eq_append_iff.1 hsplit with ⟨mid, hb, hrest⟩ | ⟨mid, hbefore, hrest⟩
  · -- The release is behind `e`: nothing but the order has changed.
    obtain ⟨l, hl⟩ := h (before ++ e :: mid) r rest (by rw [hrest, List.append_assoc]; rfl) hr
    rw [List.append_assoc, List.cons_append, played_first hlanes, ← List.append_assoc, ← hb] at hl
    exact ⟨l, hl⟩
  · rcases mid with _ | ⟨y, mid⟩
    · rw [List.append_nil] at hbefore
      rw [List.nil_append] at hrest
      obtain ⟨l, hl⟩ := h (before ++ [e]) r rest (by rw [hrest, List.append_assoc]; rfl) hr
      rw [List.append_assoc, List.cons_append, List.nil_append, played_first hlanes, hbefore] at hl
      exact ⟨l, hl⟩
    · obtain ⟨rfl, rfl⟩ := List.cons.inj hrest
      refine ⟨lane, played_kept hdown fun c hc => ?_⟩
      apply huntouched c
      rw [hbefore]
      rw [List.mem_append, List.mem_singleton] at hc
      rcases hc with hc | rfl
      · exact List.mem_append_left _ hc
      · exact List.mem_append_right _ List.mem_cons_self

/-- What a flush emits never leaves every lane up, and neither will what it keeps. -/
theorem covered_emit {marked : List (ScheduledEdge L × Bool)} {pressed : Fin L → Bool} (stays : List (KeyChange L))
    (hno : NoOvertaking marked) (hstays : ∀ x ∈ stays, ∀ m ∈ marked, m.2 = true → ¬ MustWait x m.1.change)
    (h : Covered pressed (stays ++ waiting (marked.map (·.1)))) :
    (∀ done rest, waiting (emitted marked) = done ++ rest → done ≠ [] → AnyDown (played pressed done)) ∧
    Covered (played pressed (waiting (emitted marked))) (stays ++ waiting (kept marked)) := by
  induction marked generalizing pressed stays with
  | nil =>
    refine ⟨fun done rest hd hne => ?_, h⟩
    have hnil : done ++ rest = [] := hd.symm
    exact absurd (List.append_eq_nil_iff.1 hnil).1 hne
  | cons x marked ih =>
    obtain ⟨e, m⟩ := x
    obtain ⟨hfirst, hbehind⟩ := List.pairwise_cons.1 hno
    rcases m with _ | _
    · -- The edge stays, and those emitted behind it wait for none that does.
      have hkept : waiting (kept ((e, false) :: marked)) = e.change :: waiting (kept marked) := rfl
      have hout : waiting (emitted ((e, false) :: marked)) = waiting (emitted marked) := rfl
      rw [hkept, hout, List.append_cons]
      apply ih _ hbehind
      · intro x hx m hm htaken
        rw [List.mem_append, List.mem_singleton] at hx
        rcases hx with hx | rfl
        · exact hstays x hx m (List.mem_cons_of_mem _ hm) htaken
        · exact hfirst m hm rfl htaken
      · rw [← List.append_cons]
        exact h
    · have hkept : waiting (kept ((e, true) :: marked)) = waiting (kept marked) := rfl
      have hout : waiting (emitted ((e, true) :: marked)) = e.change :: waiting (emitted marked) := rfl
      obtain ⟨hdown, hcovered⟩ := covered_take h fun x hx => hstays x hx _ List.mem_cons_self rfl
      obtain ⟨hstartes, hrest⟩ := ih _ hbehind (fun x hx m hm => hstays x hx m (List.mem_cons_of_mem _ hm)) hcovered
      rw [hkept, hout]
      refine ⟨fun done rest hd hne => ?_, hrest⟩
      rcases done with _ | ⟨c, done⟩
      · exact absurd rfl hne
      obtain ⟨rfl, hmarked⟩ := List.cons.inj hd
      by_cases hmore : done = []
      · subst hmore
        exact hdown
      · exact hstartes done rest hmarked hmore

/-! ## Enqueueing -/

/-- The change cancels a press that still waits: the newest of three edges of its lane. -/
def Request.cancels_press (q : Request L) : Bool :=
  !q.change.down && (lane_queue q.spacer.queue q.change.lane).getLast?.any (·.change.down) &&
    decide (MAX_WAITING_EDGES ≤ q.spacer.queue.countP (·.change.lane = q.change.lane))

theorem scheduled_played (queue : List (ScheduledEdge L)) (pressed : Fin L → Bool) :
    scheduled queue pressed = played pressed (waiting queue) := by
  funext lane
  rw [scheduled_eq_last, played, play_eq_track]

theorem covered_push {pressed : Fin L → Bool} {changes : List (KeyChange L)} {c : KeyChange L} (h : Covered pressed changes)
    (hc : c.down = false → AnyDown (played pressed (changes ++ [c]))) : Covered pressed (changes ++ [c]) := by
  intro before r behind hsplit hr
  rcases List.eq_nil_or_concat behind with rfl | ⟨b, x, rfl⟩
  · obtain ⟨rfl, hcr⟩ := List.append_inj' hsplit rfl
    obtain rfl := (List.cons.inj hcr).1
    exact hc hr
  · rw [List.concat_eq_append, ← List.cons_append, ← List.append_assoc] at hsplit
    exact h before r b (List.append_inj_left' hsplit rfl) hr

/-- Without a release of a lane that no later change names, every lane is down that was. -/
theorem covered_cancel {pressed : Fin L → Bool} {before behind : List (KeyChange L)} {e : KeyChange L} (he : e.down = false)
    (hb : ∀ x ∈ behind, x.lane ≠ e.lane) (h : Covered pressed (before ++ e :: behind)) : Covered pressed (before ++ behind) := by
  have hbehind : ∀ mid r rest, behind = mid ++ r :: rest → r.down = false →
      AnyDown (played pressed (before ++ (mid ++ [r]))) := by
    intro mid r rest hrest hr
    obtain ⟨lane, hlane⟩ := h (before ++ e :: mid) r rest (by rw [hrest, List.append_assoc]; rfl) hr
    have huntouched : ∀ x ∈ mid ++ [r], x.lane ≠ e.lane := by
      intro x hx
      apply hb x
      rw [hrest, List.append_cons]
      exact List.mem_append_left _ hx
    rw [List.append_assoc, List.cons_append, played_append] at hlane
    have hstep : played (played pressed before) (e :: (mid ++ [r])) =
        played (Function.update (played pressed before) e.lane e.down) (mid ++ [r]) := rfl
    rw [hstep] at hlane
    by_cases hl : lane = e.lane
    · rw [played, play_untouched _ _ _ _ _ (hl ▸ huntouched), hl, Function.update_self, he] at hlane
      cases hlane
    · refine ⟨lane, ?_⟩
      rw [played_append, ← hlane]
      exact play_congr _ _ (by rw [Function.update_of_ne hl]) rfl
  intro b r rest hsplit hr
  rcases List.append_eq_append_iff.1 hsplit with ⟨mid, rfl, hrest⟩ | ⟨mid, hbefore, hrest⟩
  · rw [List.append_assoc]
    exact hbehind mid r rest hrest hr
  rcases mid with _ | ⟨y, mid⟩
  · rw [List.append_nil] at hbefore
    rw [← hbefore]
    exact hbehind [] r rest hrest.symm hr
  · obtain ⟨rfl, -⟩ := List.cons.inj hrest
    exact h b r (mid ++ e :: behind) (by rw [hbefore, List.append_assoc, List.cons_append]) hr

/-- The lanes are on their way to `aim`, and the queue leaves no gap on the way. -/
structure Aims (s : RepressSpacer L) (pressed aim : Fin L → Bool) : Prop where
  orderly : Orderly s.queue pressed
  aim : scheduled s.queue pressed = aim
  covered : Covered pressed (waiting s.queue)

theorem enqueue_aims {s : RepressSpacer L} {pressed aim : Fin L → Bool} (h : Aims s pressed aim) {c : KeyChange L} (now : Nat)
    (hc : c.down = false → AnyDown (Function.update aim c.lane c.down))
    (hroom : Request.cancels_press ⟨s, c⟩ = false) :
    Aims (s.enqueue c now (pressed c.lane)) pressed (Function.update aim c.lane c.down) := by
  obtain ⟨horderly, haim⟩ := enqueue_spec h.orderly c now
  refine ⟨horderly, by rw [haim, h.aim], ?_⟩
  have hqueues := enqueue_queues s c now (pressed c.lane) []
  have hpush : ∀ schedule, Covered pressed (waiting (s.push c schedule).queue) := by
    intro schedule
    have hwaiting : waiting (s.push c schedule).queue = waiting s.queue ++ [c] := by simp [RepressSpacer.push, waiting]
    rw [hwaiting]
    refine covered_push h.covered fun hup => ?_
    rw [played_concat, ← scheduled_played, h.aim]
    exact hc hup
  generalize (s.enqueue c now (pressed c.lane)).queue = queue at hqueues ⊢
  generalize s.enqueue_born c now (pressed c.lane) [] = born at hqueues
  cases hqueues with
  | same => exact h.covered
  | behind previous => exact hpush _
  | first => exact hpush _
  | cancelled before behind e hq hlane hbehind hne hfull =>
    have hlast : (lane_queue s.queue c.lane).getLast? = some e := by
      rw [hq, (lane_queue_split _ hlane hbehind).1, List.getLast?_concat]
    have hup : e.change.down = false := by
      rcases hd : e.change.down with _ | _
      · rfl
      · -- The cancelled edge would be a press, and `c` its release.
        have hc' : c.down = false := by
          rw [hd] at hne
          simpa using hne.symm
        simp only [Request.cancels_press, hlast, hc', Option.any_some, hd, Bool.not_false, Bool.true_and,
          decide_eq_false_iff_not] at hroom
        exact absurd hfull hroom
    have hwaiting : waiting (before ++ behind) = waiting before ++ waiting behind := by simp [waiting]
    have hold := h.covered
    rw [hq] at hold
    simp only [waiting, List.map_append, List.map_cons] at hold
    rw [hwaiting]
    refine covered_cancel hup (fun x hx => ?_) hold
    obtain ⟨y, hy, rfl⟩ := List.mem_map.1 hx
    rw [hlane]
    exact hbehind y hy

/-! ## One finger's frames -/

/-- The snapshot is of one finger, which presses. -/
def OneFinger (id : UInt8) (frame : TouchFrame) : Prop :=
  KeyboardSink.is_release frame = false ∧
    ∃ c, frame.contacts.items = [c] ∧ c.pointer_id = id ∧ Contact.presses c = true

/-- Only `id` owns a lane, and that lane is `lane`. -/
structure Holds (state : KeyboardState L) (id : UInt8) (lane : Fin L) : Prop where
  owner : state.pointer_lanes = Function.update (fun _ => none) id (some lane)
  counted : Counted state

/-- Only `lane` is down. -/
def only (lane : Fin L) : Fin L → Bool := fun l => decide (l = lane)

/-- From lane to lane, each pressed before the one left is released. -/
inductive Hops : Fin L → Fin L → List (KeyChange L) → Prop
  | stay (lane : Fin L) : Hops lane lane []
  | hop {a b c : Fin L} {changes : List (KeyChange L)} : b ≠ a → Hops b c changes →
      Hops a c (⟨b, true, false⟩ :: ⟨a, false, false⟩ :: changes)

theorem holds_count {state : KeyboardState L} {id : UInt8} {lane : Fin L} (h : Holds state id lane) (l : Fin L) :
    state.lane_holds l = if lane = l then 1 else 0 := by
  have hnone : Function.update (fun _ : UInt8 => (none : Option (Fin L))) id none = fun _ => none := by
    rw [Function.update_eq_self_iff]
  rw [h.counted l, h.owner, holders_update_some, hnone, holders_none, Nat.zero_add]

theorem slide_hops (destination : Fin L) (n : Nat) (current : Fin L) (p : Plan L)
    (hp : ∀ l, p.1.lane_holds l = if current = l then 1 else 0) (hn : lane_distance current destination ≤ n) :
    (∃ changes, Hops current destination changes ∧ (slide destination n current p).2 = p.2 ++ changes) ∧
      ∀ l, (slide destination n current p).1.lane_holds l = if destination = l then 1 else 0 := by
  induction n generalizing current p with
  | zero =>
    have hsame : current = destination := by
      ext
      simp only [lane_distance] at hn
      omega
    exact ⟨⟨[], hsame ▸ .stay current, (List.append_nil _).symm⟩, hsame ▸ hp⟩
  | succ n ih =>
    rw [slide]
    split
    · rename_i hsame
      exact ⟨⟨[], hsame ▸ .stay current, (List.append_nil _).symm⟩, hsame ▸ hp⟩
    · rename_i hne
      have hnext := next_lane_ne hne
      have hd := next_lane_distance hne
      have hfree : p.1.lane_holds (next_lane current destination) = 0 := by rw [hp, if_neg (Ne.symm hnext)]
      have hheld : p.1.lane_holds current = 1 := by rw [hp, if_pos rfl]
      obtain ⟨⟨changes, hhops, hslide⟩, hholds⟩ := ih (next_lane current destination)
        (release_lane current (acquire_lane (next_lane current destination) false p)) (fun l => by
          simp only [acquire_lane, release_lane, hfree, Function.update_of_ne (Ne.symm hnext), hheld, if_false,
            Function.update_apply, hp, one_ne_zero, U16_MAX]
          by_cases h₁ : l = current
          · subst h₁
            simp [hnext]
          · by_cases h₂ : l = next_lane current destination
            · subst h₂
              simp [h₁]
            · simp [h₁, h₂, Ne.symm h₁, Ne.symm h₂]) (by omega)
      refine ⟨⟨_, .hop hnext hhops, ?_⟩, hholds⟩
      dsimp only
      rw [hslide]
      simp [acquire_lane, release_lane, hfree, Function.update_of_ne (Ne.symm hnext), hheld]

section Plan
variable (lane_for : Int → Fin L)

theorem apply_one {frame : TouchFrame} {c : Contact} (hc : frame.contacts.items = [c]) (p : Plan L) :
    apply_contacts lane_for frame p = apply_contact lane_for c p := by
  unfold apply_contacts
  rw [hc]
  by_cases ha : c.pointer_id = frame.action_pointer_id
  · simp [ha]
  · simp [ha]

theorem release_missing_present {contacts : List Contact} {p : Plan L}
    (h : ∀ id, (p.1.pointer_lanes id).isSome = true → contacts.any (·.pointer_id = id) = true) :
    release_missing contacts p = p := by
  have hnone : (POINTER_IDS.filter fun id => (p.1.pointer_lanes id).isSome && !contacts.any (·.pointer_id = id)) = [] := by
    rw [List.filter_eq_nil_iff]
    intro id _ hid
    rw [Bool.and_eq_true] at hid
    simp [h id hid.1] at hid
  unfold release_missing
  dsimp only
  rw [hnone]
  rfl

/-- The planned state of one finger's frame: the finger holds its own lane. -/
theorem plan_holds {state : KeyboardState L} (hs : Counted state) {id : UInt8} {frame : TouchFrame} {c : Contact}
    (hc : frame.contacts.items = [c]) (hid : c.pointer_id = id) (hp : Contact.presses c = true) :
    Holds (plan_into lane_for state frame true).1 id (lane_for c.x) where
  owner := by
    rw [plan_lanes, hc]
    funext i
    simp only [owners, List.find?_cons, List.find?_nil, Function.update_apply, hid]
    by_cases hi : id = i
    · simp [hi, wanted, hp]
    · simp [hi, Ne.symm hi]
  counted := plan_counted lane_for hs frame true

/-- What the planner collects for one finger, before it looks for lanes held throughout. -/
def moved (state : KeyboardState L) (c : Contact) : Plan L :=
  move_pointer c.pointer_id (lane_for c.x) ({ state with pressure_suppressed := fun _ => false }, [])

theorem plan_changes {state : KeyboardState L} {id : UInt8} {frame : TouchFrame} {c : Contact}
    (hstate : ∀ i, i ≠ id → state.pointer_lanes i = none) (hc : frame.contacts.items = [c]) (hid : c.pointer_id = id)
    (hp : Contact.presses c = true) :
    (plan_into lane_for state frame true).2 =
      ((moved lane_for state c).2.filter fun x => state.lane_holds x.lane = 0 || (moved lane_for state c).1.lane_holds x.lane = 0) ++
        repeat_press state (plan_into lane_for state frame true).1 frame true c := by
  have happly : apply_contacts lane_for frame ({ state with pressure_suppressed := fun _ => false }, []) =
      moved lane_for state c := by
    rw [apply_one lane_for hc, apply_contact, if_pos hp, moved]
  have hpresent : release_missing frame.contacts.items (note_suppressed frame.contacts.items (moved lane_for state c).1,
      (moved lane_for state c).2) = (note_suppressed frame.contacts.items (moved lane_for state c).1,
      (moved lane_for state c).2) := by
    apply release_missing_present
    intro i hi
    have hlanes : (note_suppressed frame.contacts.items (moved lane_for state c).1).pointer_lanes =
        Function.update state.pointer_lanes c.pointer_id (some (lane_for c.x)) := move_pointer_pointers _ _ _
    rw [hlanes, Function.update_apply] at hi
    rw [hc]
    by_cases h : i = c.pointer_id
    · simp [h]
    · rw [if_neg h, hstate i (hid ▸ h)] at hi
      cases hi
  unfold plan_into
  dsimp only
  rw [happly, hpresent, hc]
  rfl

/-- A landing finger presses its lane. -/
theorem land_changes {state : KeyboardState L} (hs : Counted state) (hidle : state.pointer_lanes = fun _ => none) {id : UInt8}
    {frame : TouchFrame} {c : Contact} (hc : frame.contacts.items = [c]) (hid : c.pointer_id = id)
    (hp : Contact.presses c = true) :
    (plan_into lane_for state frame true).2 = [⟨lane_for c.x, true, true⟩] := by
  have hfree : ∀ l, state.lane_holds l = 0 := by
    intro l
    rw [hs l, hidle]
    exact holders_none l
  have hmoved : (moved lane_for state c).2 = [⟨lane_for c.x, true, true⟩] := by
    simp [moved, move_pointer, hidle, acquire_lane, own, hfree]
  have hrepeat : repeat_press state (plan_into lane_for state frame true).1 frame true c = [] := by
    unfold repeat_press
    split
    · split
      · rfl
      · rw [if_neg (by rw [hfree]; exact Nat.lt_irrefl 0)]
    · rfl
  rw [plan_changes lane_for (fun i _ => by rw [hidle]) hc hid hp, hmoved, hrepeat]
  simp [hfree]

/-- A sliding finger hops from its lane to the one it is over. -/
theorem slide_changes {state : KeyboardState L} {id : UInt8} {lane : Fin L} (hs : Holds state id lane) {frame : TouchFrame}
    {c : Contact} (hc : frame.contacts.items = [c]) (hid : c.pointer_id = id) (hp : Contact.presses c = true) :
    Hops lane (lane_for c.x) (plan_into lane_for state frame true).2 := by
  have howner : state.pointer_lanes c.pointer_id = some lane := by rw [hs.owner, hid, Function.update_self]
  obtain ⟨⟨changes, hhops, hslide⟩, hnext⟩ := slide_hops (lane_for c.x) (lane_distance lane (lane_for c.x)) lane
    ({ state with pressure_suppressed := fun _ => false }, []) (fun l => holds_count hs l) (Nat.le_refl _)
  have hmoved : moved lane_for state c = own c.pointer_id (some (lane_for c.x)) (slide (lane_for c.x)
      (lane_distance lane (lane_for c.x)) lane ({ state with pressure_suppressed := fun _ => false }, [])) := by
    simp only [moved, move_pointer, howner]
  have hrepeat : repeat_press state (plan_into lane_for state frame true).1 frame true c = [] := by
    unfold repeat_press
    rw [howner]
    simp
  have hothers : ∀ i, i ≠ id → state.pointer_lanes i = none := by
    intro i hi
    rw [hs.owner, Function.update_of_ne hi]
  rw [plan_changes lane_for hothers hc hid hp, hrepeat, List.append_nil, hmoved]
  by_cases hsame : lane = lane_for c.x
  · have hstays : lane_distance lane (lane_for c.x) = 0 := by
      rw [← hsame, lane_distance, Nat.sub_self]
    rw [hstays, hsame]
    exact .stay _
  -- The lane left and the lane entered differ, so no lane is held throughout.
  rw [List.filter_eq_self.2]
  · have hchanges : (own c.pointer_id (some (lane_for c.x)) (slide (lane_for c.x) (lane_distance lane (lane_for c.x)) lane
        ({ state with pressure_suppressed := fun _ => false }, []))).2 = changes := hslide
    rw [hchanges]
    exact hhops
  · intro x _
    rw [Bool.or_eq_true, decide_eq_true_eq, decide_eq_true_eq, holds_count hs, own_holds, hnext]
    by_cases hx : lane = x.lane
    · rw [← hx, if_neg (Ne.symm hsame)]
      exact .inr rfl
    · rw [if_neg hx]
      exact .inl rfl

end Plan

theorem enqueue_requests (now : Nat) (pressed : Fin L → Bool) (changes : List (KeyChange L)) (s : RepressSpacer L)
    (l : Ledger L) : l.requests <+: (Logged.enqueue now pressed changes s l).2.requests := by
  induction changes generalizing s l with
  | nil => exact List.prefix_refl _
  | cons c changes ih =>
    have hrest := ih (s.enqueue c now (pressed c.lane)) (l.enqueue c now (pressed c.lane) s)
    exact (List.prefix_append l.requests _).trans hrest

/-- A hop leaves the next lane down before the one left is released. -/
theorem enqueue_hops {now : Nat} {a b : Fin L} {changes : List (KeyChange L)} (hops : Hops a b changes)
    {s : RepressSpacer L} {l : Ledger L} {pressed : Fin L → Bool} (h : Aims s pressed (only a))
    (hroom : ∀ q ∈ (Logged.enqueue now pressed changes s l).2.requests, q.cancels_press = false) :
    Aims (Logged.enqueue now pressed changes s l).1 pressed (only b) := by
  induction hops generalizing s l with
  | stay => exact h
  | @hop a b c changes hba hops ih =>
    have hrequests := enqueue_requests now pressed changes
      ((s.enqueue ⟨b, true, false⟩ now (pressed b)).enqueue ⟨a, false, false⟩ now (pressed a))
      ((l.enqueue ⟨b, true, false⟩ now (pressed b) s).enqueue ⟨a, false, false⟩ now (pressed a)
        (s.enqueue ⟨b, true, false⟩ now (pressed b)))
    have hpress := enqueue_aims h (c := ⟨b, true, false⟩) now (fun hup => (by cases hup))
      (hroom _ (hrequests.subset (by simp [Ledger.enqueue])))
    have hrelease := enqueue_aims hpress (c := ⟨a, false, false⟩) now
      (fun _ => ⟨b, by simp [hba]⟩)
      (hroom _ (hrequests.subset (by simp [Ledger.enqueue])))
    have haim : Function.update (Function.update (only a) b true) a false = only b := by
      funext lane
      simp only [Function.update_apply, only]
      by_cases ha : lane = a
      · simp [ha, Ne.symm hba]
      · simp [ha]
    dsimp only at hrelease
    rw [haim] at hrelease
    exact ih hrelease hroom

/-! ## Every call -/

/-- What was emitted has led to the pressed lanes and left no gap on the way, nor does what waits. -/
structure Gesture (g : Logged κ L) (spacer : RepressSpacer L) (aim : Fin L → Bool) : Prop where
  spaced : g.sink.spacer = some spacer
  aims : Aims spacer g.sink.pressed aim
  shown : g.sink.pressed = played (fun _ => false) (g.ledger.log.map (·.change))
  prefixes : ∀ done rest, g.ledger.log.map (·.change) = done ++ rest → done ≠ [] →
    AnyDown (played (fun _ => false) done)

theorem emit_aims {s : RepressSpacer L} {pressed aim : Fin L → Bool} (h : Aims s pressed aim) (now n : Nat) :
    (s.emit now n pressed).2 = played pressed (waiting (emitted (s.flushed now n))) ∧
    Aims (s.emit now n pressed).1 (s.emit now n pressed).2 aim ∧
    ∀ done rest, waiting (emitted (s.flushed now n)) = done ++ rest → done ≠ [] → AnyDown (played pressed done) := by
  have hno : NoOvertaking (s.flushed now n) := select_no_overtaking _ _ _ _
  have hedges := flushed_edges s now n
  have hpressed : (s.emit now n pressed).2 = played pressed (waiting (emitted (s.flushed now n))) := by
    rw [RepressSpacer.flushed, outcome_emitted, waiting, ← foldl_emitted]
    rfl
  have hqueue : waiting (s.emit now n pressed).1.queue = waiting (kept (s.flushed now n)) := by
    rw [RepressSpacer.flushed, outcome_kept]
    exact waiting_restart _ _ _ _
  obtain ⟨-, horderly, hscheduled⟩ := emit_orderly hno (hedges ▸ h.orderly)
  obtain ⟨hstartes, hcovered⟩ := covered_emit [] hno (fun x hx => (by cases hx)) (hedges ▸ h.covered)
  refine ⟨hpressed, ⟨⟨fun lane => ?_, fun lane => ?_⟩, ?_, ?_⟩, hstartes⟩
  · rw [hpressed, hqueue]
    exact horderly.alternates lane
  · rw [hqueue]
    exact horderly.bounded lane
  · rw [← h.aim, ← hedges, ← hscheduled, scheduled_played, scheduled_played, hqueue, hpressed]
  · rw [hpressed, hqueue]
    exact hcovered

variable [KeySink κ L]

theorem service_requests (now : Nat) (g : Logged κ L) : (g.service now).2.ledger.requests = g.ledger.requests := by
  unfold Logged.service
  dsimp only
  split <;> rfl

theorem service_gesture (now : Nat) {g : Logged κ L} {spacer : RepressSpacer L} {aim : Fin L → Bool}
    (h : Gesture g spacer aim) : (∃ spacer', Gesture (g.service now).2 spacer' aim) ∧
      (g.service now).2.sink.state = g.sink.state ∧ (g.service now).2.sink.pending = g.sink.pending := by
  unfold Logged.service KeyboardSink.service_at
  rw [h.spaced]
  refine ⟨⟨_, rfl, ?_, ?_, ?_⟩, rfl, rfl⟩
  all_goals
    dsimp only
    rcases flush_cases spacer now g.sink.sink g.sink.pressed with ⟨hs, hp, hnone⟩ | ⟨-, hs, hp⟩
  · rw [hs, hp]
    exact h.aims
  · rw [hs, hp]
    exact (emit_aims h.aims now _).2.1
  · rw [hp, hnone]
    simpa [Ledger.flush, RepressSpacer.flushed, outcome_zero_emitted] using h.shown
  · rw [hp, (emit_aims h.aims now _).1, h.shown, ← played_append]
    simp only [Ledger.flush, List.map_append, List.map_map]
    rfl
  · rw [hnone]
    simpa [Ledger.flush, RepressSpacer.flushed, outcome_zero_emitted] using h.prefixes
  · intro done rest hsplit hne
    have hlog : (g.ledger.flush now (spacer.takes now g.sink.sink) spacer).log.map (·.change) =
        g.ledger.log.map (·.change) ++ waiting (emitted (spacer.flushed now (spacer.takes now g.sink.sink))) := by
      simp only [Ledger.flush, List.map_append, List.map_map]
      rfl
    rw [hlog] at hsplit
    rcases List.append_eq_append_iff.1 hsplit with ⟨more, rfl, hmore⟩ | ⟨mid, hold, -⟩
    · by_cases hnil : more = []
      · rw [hnil, List.append_nil] at hne ⊢
        exact h.prefixes _ [] (List.append_nil _).symm hne
      · rw [played_append, ← h.shown]
        exact (emit_aims h.aims now _).2.2 more rest hmore hnil
    · exact h.prefixes done mid hold hne

omit [KeySink κ L] in
theorem enqueue_gesture {now : Nat} {g : Logged κ L} {spacer : RepressSpacer L} {aim aim' : Fin L → Bool}
    (h : Gesture g spacer aim) (happlied : g.sink.pending.applied = 0)
    (hplan : Aims (Logged.enqueue now g.sink.pressed g.sink.pending.changes spacer g.ledger).1 g.sink.pressed aim') :
    ∃ spacer', Gesture (g.enqueue_pending now spacer) spacer' aim' := by
  rw [Keeps.enqueue_fst] at hplan
  refine ⟨_, rfl, ?_, ?_, ?_⟩
  · rw [happlied]
    exact hplan
  · rw [Logged.enqueue_pending, enqueue_log]
    exact h.shown
  · rw [Logged.enqueue_pending, enqueue_log]
    exact h.prefixes

def Logged.plan (lane_for : Int → Fin L) (frame : TouchFrame) (g : Logged κ L) : Logged κ L :=
  { g with sink := g.sink.plan_pending lane_for frame }

def Logged.commit (g : Logged κ L) : Logged κ L := { g with sink := g.sink.commit_pending }

/-- An accepted frame is planned after one flush and queued before another. -/
theorem accept_ok {lane_for : Int → Fin L} {frame : TouchFrame} {now : Nat} {g : Logged κ L} {spacer : RepressSpacer L}
    (hrelease : KeyboardSink.is_release frame = false) (hheartbeat : KeyboardSink.is_empty_heartbeat frame = false)
    (hsp : (g.service now).2.sink.spacer = some spacer) (hidle : (g.service now).2.sink.pending.sequence = none)
    (hok : (g.accept lane_for frame now).1 = .ok ()) :
    (g.accept lane_for frame now).2 =
      ((((g.service now).2.plan lane_for frame).enqueue_pending now spacer).service now).2.commit := by
  unfold Logged.accept at hok ⊢
  rw [if_neg (by rw [hrelease]; decide)] at hok ⊢
  rcases hs : g.service now with ⟨e | ⟨⟨⟩⟩, g₁⟩
  · rw [hs] at hok
    cases hok
  rw [hs] at hsp hidle hok
  have hbegin : g₁.sink.begin_frame lane_for frame = (.ok (), g₁.sink.plan_pending lane_for frame) := by
    unfold KeyboardSink.begin_frame
    dsimp only at hidle
    rw [hidle]
  have hspacer : (g₁.sink.plan_pending lane_for frame).spacer = some spacer := hsp
  dsimp only at hok ⊢
  rw [if_neg (by rw [hheartbeat]; decide), hbegin] at hok ⊢
  dsimp only at hok ⊢
  rw [hspacer] at hok ⊢
  dsimp only at hok ⊢
  have hplan : (⟨g₁.sink.plan_pending lane_for frame, g₁.ledger⟩ : Logged κ L) = g₁.plan lane_for frame := rfl
  rw [hplan] at hok ⊢
  rcases hf : ((g₁.plan lane_for frame).enqueue_pending now spacer).service now with ⟨e | ⟨⟨⟩⟩, g₂⟩
  · rw [hf] at hok
    cases hok
  · rfl

theorem accept_requests (lane_for : Int → Fin L) (frame : TouchFrame) (now : Nat) (g : Logged κ L) :
    g.ledger.requests <+: (g.accept lane_for frame now).2.ledger.requests := by
  have hserved := service_requests now g
  unfold Logged.accept
  split
  · unfold Logged.release_all
    split <;> exact List.prefix_refl _
  rcases hs : g.service now with ⟨e | ⟨⟨⟩⟩, g₁⟩
  · rw [hs] at hserved
    exact hserved ▸ List.prefix_refl _
  rw [hs] at hserved
  dsimp only at hserved ⊢
  rw [← hserved]
  split
  · exact List.prefix_refl _
  split
  · exact List.prefix_refl _
  rename_i s₂ _
  split
  · exact List.prefix_refl _
  rename_i spacer _
  have hqueued : g₁.ledger.requests <+: (Logged.enqueue_pending now spacer { g₁ with sink := s₂ }).ledger.requests :=
    enqueue_requests _ _ _ _ _
  have hflushed := service_requests now (Logged.enqueue_pending now spacer { g₁ with sink := s₂ })
  split
  · rename_i heq
    rw [heq] at hflushed
    exact hflushed ▸ hqueued
  · rename_i heq
    rw [heq] at hflushed
    exact hflushed ▸ hqueued

theorem accept_gesture {lane_for : Int → Fin L} {frame : TouchFrame} {now : Nat} {g : Logged κ L} {spacer : RepressSpacer L}
    {aim : Fin L → Bool} (aim' : Fin L → Bool) (hrelease : KeyboardSink.is_release frame = false)
    (hheartbeat : KeyboardSink.is_empty_heartbeat frame = false) (hidle : g.sink.pending.sequence = none)
    (h : Gesture g spacer aim) (hok : (g.accept lane_for frame now).1 = .ok ())
    (hroom : ∀ q ∈ (g.accept lane_for frame now).2.ledger.requests, q.cancels_press = false)
    (hplan : ∀ s l pressed, Aims s pressed aim →
      (∀ q ∈ (Logged.enqueue now pressed (plan_into lane_for g.sink.state frame true).2 s l).2.requests,
        q.cancels_press = false) →
      Aims (Logged.enqueue now pressed (plan_into lane_for g.sink.state frame true).2 s l).1 pressed aim') :
    (∃ spacer', Gesture (g.accept lane_for frame now).2 spacer' aim') ∧
      (g.accept lane_for frame now).2.sink.state = (plan_into lane_for g.sink.state frame true).1 ∧
      (g.accept lane_for frame now).2.sink.pending.sequence = none := by
  obtain ⟨⟨spacer₁, h₁⟩, hstate, hpending⟩ := service_gesture now h
  rw [accept_ok hrelease hheartbeat h₁.spaced (by rw [hpending, hidle]) hok] at hroom ⊢
  generalize (g.service now).2 = g₁ at h₁ hstate hpending hroom ⊢
  have hplanned : (g₁.plan lane_for frame).sink.pending = ⟨some frame.sequence, (plan_into lane_for g.sink.state frame true).1,
      (plan_into lane_for g.sink.state frame true).2, 0⟩ := by
    simp only [Logged.plan, KeyboardSink.plan_pending, hstate, h₁.spaced, Option.isSome_some]
  have h₂ : Gesture (g₁.plan lane_for frame) spacer₁ aim := ⟨h₁.spaced, h₁.aims, h₁.shown, h₁.prefixes⟩
  have hchanges : (g₁.plan lane_for frame).sink.pending.changes = (plan_into lane_for g.sink.state frame true).2 := by
    rw [hplanned]
  obtain ⟨spacer₃, h₃⟩ : ∃ spacer', Gesture ((g₁.plan lane_for frame).enqueue_pending now spacer₁) spacer' aim' := by
    apply enqueue_gesture h₂ (by rw [hplanned])
    rw [hchanges]
    refine hplan _ _ _ h₂.aims fun q hq => hroom q ?_
    show q ∈ (Logged.service now _).2.ledger.requests
    rw [service_requests]
    simp only [Logged.enqueue_pending, hplanned, List.drop_zero]
    exact hq
  obtain ⟨⟨spacer₄, h₄⟩, -, hpending₄⟩ := service_gesture now h₃
  refine ⟨⟨spacer₄, h₄.spaced, h₄.aims, h₄.shown, h₄.prefixes⟩, ?_, rfl⟩
  show (Logged.service now _).2.sink.pending.next_state = _
  rw [hpending₄]
  show (g₁.plan lane_for frame).sink.pending.next_state = _
  rw [hplanned]

/-! ## The slide -/

/-- Nothing is held, pressed, waiting or in progress; edges of earlier fingers may have just gone out. -/
structure AtRest (s : KeyboardSink κ L) : Prop where
  spaced : ∃ spacer, s.spacer = some spacer ∧ spacer.queue = []
  pressed : s.pressed = fun _ => false
  idle : s.pending.sequence = none
  owners : s.state.pointer_lanes = fun _ => none
  counted : Counted s.state

/-- One finger lands on a sink at rest and slides, whatever is serviced in between. The ledger starts
with it, and the time is that of the last call. -/
inductive Glide (lane_for : Int → Fin L) (id : UInt8) (start : KeyboardSink κ L) : Logged κ L → Nat → Prop
  | land (frame : TouchFrame) (now : Nat) : OneFinger id frame →
      (Logged.accept lane_for frame now ⟨start, Ledger.new L⟩).1 = .ok () →
      Glide lane_for id start (Logged.accept lane_for frame now ⟨start, Ledger.new L⟩).2 now
  | slide {g : Logged κ L} {t : Nat} (frame : TouchFrame) (now : Nat) : Glide lane_for id start g t → OneFinger id frame →
      t ≤ now → (g.accept lane_for frame now).1 = .ok () → Glide lane_for id start (g.accept lane_for frame now).2 now
  | service {g : Logged κ L} {t : Nat} (now : Nat) : Glide lane_for id start g t → t ≤ now →
      Glide lane_for id start (g.service now).2 now

theorem one_finger_contacts {id : UInt8} {frame : TouchFrame} (h : OneFinger id frame) :
    KeyboardSink.is_empty_heartbeat frame = false := by
  obtain ⟨-, c, hc, -⟩ := h
  simp [KeyboardSink.is_empty_heartbeat, hc]

/-- The finger holds one lane, and the lanes are on their way there without a gap. -/
structure Sliding (id : UInt8) (g : Logged κ L) (lane : Fin L) : Prop where
  idle : g.sink.pending.sequence = none
  holds : Holds g.sink.state id lane
  gesture : ∃ spacer, Gesture g spacer (only lane)

theorem land_sliding {lane_for : Int → Fin L} {id : UInt8} {start : KeyboardSink κ L} (hrest : AtRest start)
    {frame : TouchFrame} {now : Nat} (hframe : OneFinger id frame)
    (hok : (Logged.accept lane_for frame now ⟨start, Ledger.new L⟩).1 = .ok ())
    (hroom : ∀ q ∈ (Logged.accept lane_for frame now ⟨start, Ledger.new L⟩).2.ledger.requests, q.cancels_press = false) :
    ∃ lane, Sliding id (Logged.accept lane_for frame now ⟨start, Ledger.new L⟩).2 lane := by
  obtain ⟨spacer, hsp, hq⟩ := hrest.spaced
  obtain ⟨hrelease, c, hc, hid, hp⟩ := hframe
  have hstart : Gesture ⟨start, Ledger.new L⟩ spacer fun _ => false := by
    refine ⟨hsp, ⟨?_, ?_, ?_⟩, hrest.pressed, fun done rest hd hne => ?_⟩
    · rw [hq]
      exact orderly_nil _
    · rw [hq, scheduled_played, hrest.pressed]
      rfl
    · rw [hq]
      intro before r behind hsplit
      cases before <;> cases hsplit
    · have hnil : done ++ rest = [] := hd.symm
      exact absurd (List.append_eq_nil_iff.1 hnil).1 hne
  have haim : Function.update (fun _ => false) (lane_for c.x) true = only (lane_for c.x) := by
    funext l
    simp only [Function.update_apply, only]
    by_cases hl : l = lane_for c.x <;> simp [hl]
  obtain ⟨hgesture, hstate, hidle⟩ := accept_gesture (only (lane_for c.x)) hrelease
    (one_finger_contacts ⟨hrelease, c, hc, hid, hp⟩) hrest.idle hstart hok hroom (fun s l pressed ha hreq => by
      rw [land_changes lane_for hrest.counted hrest.owners hc hid hp] at hreq ⊢
      have hpress := enqueue_aims ha (c := ⟨lane_for c.x, true, true⟩) now (fun hup => (by cases hup))
        (hreq _ (by simp [Logged.enqueue, Ledger.enqueue]))
      rw [← haim]
      exact hpress)
  exact ⟨lane_for c.x, hidle, hstate ▸ plan_holds lane_for hrest.counted hc hid hp, hgesture⟩

theorem slide_sliding {lane_for : Int → Fin L} {id : UInt8} {g : Logged κ L} {lane : Fin L} (h : Sliding id g lane)
    {frame : TouchFrame} {now : Nat} (hframe : OneFinger id frame) (hok : (g.accept lane_for frame now).1 = .ok ())
    (hroom : ∀ q ∈ (g.accept lane_for frame now).2.ledger.requests, q.cancels_press = false) :
    ∃ lane', Sliding id (g.accept lane_for frame now).2 lane' := by
  obtain ⟨spacer, hgesture⟩ := h.gesture
  obtain ⟨hrelease, c, hc, hid, hp⟩ := hframe
  obtain ⟨hgesture', hstate, hidle⟩ := accept_gesture (only (lane_for c.x)) hrelease
    (one_finger_contacts ⟨hrelease, c, hc, hid, hp⟩) h.idle hgesture hok hroom
    (fun s l pressed ha hreq => enqueue_hops (slide_changes lane_for h.holds hc hid hp) ha hreq)
  exact ⟨lane_for c.x, hidle, hstate ▸ plan_holds lane_for h.holds.counted hc hid hp, hgesture'⟩

theorem glide_sliding {lane_for : Int → Fin L} {id : UInt8} {start : KeyboardSink κ L} (hrest : AtRest start) {g : Logged κ L}
    {t : Nat} (run : Glide lane_for id start g t) (hroom : ∀ q ∈ g.ledger.requests, q.cancels_press = false) :
    ∃ lane, Sliding id g lane := by
  induction run with
  | land frame now hframe hok => exact land_sliding hrest hframe hok hroom
  | @slide g t frame now run hframe ht hok ih =>
    have hearlier := accept_requests lane_for frame now g
    obtain ⟨lane, h⟩ := ih fun q hq => hroom q (hearlier.subset hq)
    exact slide_sliding h hframe hok hroom
  | @service g t now run ht ih =>
    rw [service_requests] at hroom
    obtain ⟨lane, h⟩ := ih hroom
    obtain ⟨spacer, hgesture⟩ := h.gesture
    obtain ⟨hgesture', hstate, hpending⟩ := service_gesture now hgesture
    exact ⟨lane, by rw [hpending, h.idle], hstate ▸ h.holds, hgesture'⟩

/-- One finger lands and slides: as long as no frame cancels a press that still waits, some lane is
down after every edge that was emitted, whatever the gap and whenever the sink is serviced. -/
theorem slide_covered {lane_for : Int → Fin L} {id : UInt8} {start : KeyboardSink κ L} (hrest : AtRest start) {g : Logged κ L}
    {t : Nat} (run : Glide lane_for id start g t) (hroom : ∀ q ∈ g.ledger.requests, q.cancels_press = false) :
    g.sink.pressed = played (fun _ => false) (g.ledger.log.map (·.change)) ∧
    ∀ done rest, g.ledger.log.map (·.change) = done ++ rest → done ≠ [] → ∃ lane, played (fun _ => false) done lane = true := by
  obtain ⟨lane, h⟩ := glide_sliding hrest run hroom
  obtain ⟨spacer, hgesture⟩ := h.gesture
  exact ⟨hgesture.shown, hgesture.prefixes⟩

/-! ## Across three lanes -/

/-- One finger at `x`. -/
def fingerAt (sequence : Nat) (action : UInt8) (x : Int) : TouchFrame where
  session_id := 1
  sequence := sequence
  phone_event_nanos := 0
  phone_callback_nanos := 0
  phone_send_nanos := 0
  echo_host_send_nanos := 0
  phone_control_receive_nanos := 0
  action := action
  action_pointer_id := 0
  flags := FRAME_FLAG_LOCKED
  contacts := ⟨[⟨0, CONTACT_FLAG_TIP, x, 5000, 0, 0⟩], by simp [MAX_CONTACTS], by simp⟩

theorem fingerAt_one (sequence : Nat) {action : UInt8} (x : Int) (ha : action ≠ ACTION_CANCEL) :
    OneFinger 0 (fingerAt sequence action x) := by
  refine ⟨?_, _, rfl, rfl, ?_⟩
  · simp [KeyboardSink.is_release, fingerAt, TouchFrame.session_start, TouchFrame.locked, ha, FRAME_FLAG_LOCKED,
      FRAME_FLAG_SESSION_START]
    decide
  · simp [Contact.presses, Contact.touching, Contact.key_suppressed, CONTACT_FLAG_TIP, CONTACT_FLAG_KEY_SUPPRESSED]
    decide

omit [KeySink κ L] in
theorem atRest_new (sink : κ) (gap : Nat) : AtRest (KeyboardSink.new (L := L) sink (some gap)) where
  spaced := ⟨_, rfl, rfl⟩
  pressed := rfl
  idle := rfl
  owners := rfl
  counted := counted_new

/-- A finger lands on lane 0 and slides to lane 2. -/
def landed : Logged (TakesAll 3) 3 := (Logged.accept thirds (fingerAt 1 ACTION_DOWN 1000) 0 (Logged.new ⟨⟩ 1)).2

def across : Logged (TakesAll 3) 3 := (landed.accept thirds (fingerAt 2 ACTION_MOVE 9000) 2).2

theorem across_glide : Glide thirds 0 (KeyboardSink.new ⟨⟩ (some 1)) across 2 :=
  .slide (fingerAt 2 ACTION_MOVE 9000) 2 (.land (fingerAt 1 ACTION_DOWN 1000) 0 (fingerAt_one 1 1000 (by decide)) (by decide +kernel))
    (fingerAt_one 2 9000 (by decide)) (by decide) (by decide +kernel)

theorem slide_covered_across : across.ledger.log.length = 5 ∧
    ∀ done rest, across.ledger.log.map (·.change) = done ++ rest → done ≠ [] →
      ∃ lane, played (fun _ => false) done lane = true :=
  ⟨by decide +kernel, (slide_covered (atRest_new _ _) across_glide (by decide +kernel)).2⟩

/-- Back to lane 0, to lane 1 and to lane 0 again, all within the gap: leaving lane 1 takes back the press
that waits there, and the release of lane 0 queued behind it goes out a gap before the press it was for. -/
def backAndForth : Logged (TakesAll 3) 3 :=
  let g := (across.accept thirds (fingerAt 3 ACTION_MOVE 1000) 2).2
  let g := (g.accept thirds (fingerAt 4 ACTION_MOVE 5000) 2).2
  let g := (g.accept thirds (fingerAt 5 ACTION_MOVE 1000) 2).2
  ((g.service 3).2.service 4).2

theorem backAndForth_glide : Glide thirds 0 (KeyboardSink.new ⟨⟩ (some 1)) backAndForth 4 :=
  .service 4 (.service 3 (.slide (fingerAt 5 ACTION_MOVE 1000) 2 (.slide (fingerAt 4 ACTION_MOVE 5000) 2
    (.slide (fingerAt 3 ACTION_MOVE 1000) 2 across_glide (fingerAt_one 3 1000 (by decide)) (by decide) (by decide +kernel))
    (fingerAt_one 4 5000 (by decide)) (by decide) (by decide +kernel))
    (fingerAt_one 5 1000 (by decide)) (by decide) (by decide +kernel)) (by decide)) (by decide)

/-- The finger is on lane 0, and every lane is up. -/
theorem slide_uncovered : ¬ ∀ (gap : Nat) (g : Logged (TakesAll 3) 3) (t : Nat), 0 < gap →
    Glide thirds 0 (KeyboardSink.new ⟨⟩ (some gap)) g t → ∀ done rest, g.ledger.log.map (·.change) = done ++ rest →
    done ≠ [] → ∃ lane, played (fun _ => false) done lane = true := by
  intro h
  obtain ⟨lane, hdown⟩ := h 1 backAndForth 4 (by decide) backAndForth_glide _ [] (List.append_nil _).symm (by decide +kernel)
  have hup : ∀ lane, played (fun _ => false) (backAndForth.ledger.log.map (·.change)) lane = false := by decide +kernel
  rw [hup] at hdown
  cases hdown

end Trackpad.Keyboard
