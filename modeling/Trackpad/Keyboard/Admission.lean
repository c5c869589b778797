import Trackpad.Keyboard.Continuity
/-!
# One press for each admitted finger

A finger that joins a lane others hold presses it once, in the frame of its finger-down or the one that follows its
pressure gating. A snapshot that says what the last one said presses nothing.
-/
open Edges Ownership

namespace Trackpad.Keyboard

variable {L : Nat} (lane_for : Int → Fin L)

/-! ## The gated fingers -/

/-- A touching finger of the snapshot whose key is suppressed. -/
def Gated (contacts : List Contact) (id : UInt8) : Prop :=
  ∃ c ∈ contacts, c.pointer_id = id ∧ c.touching = true ∧ c.key_suppressed = true

instance (contacts : List Contact) (id : UInt8) : Decidable (Gated contacts id) :=
  inferInstanceAs (Decidable (∃ c ∈ contacts, _))

theorem foldl_gated (cs : List Contact) (hn : (cs.map Contact.pointer_id).Nodup) (gated : UInt8 → Bool) (id : UInt8) :
    cs.foldl (fun gated c => Function.update gated c.pointer_id (c.touching && c.key_suppressed)) gated id =
      match cs.find? (·.pointer_id = id) with
      | some c => c.touching && c.key_suppressed
      | none => gated id := by
  induction cs generalizing gated with
  | nil => rfl
  | cons c cs ih =>
    rw [List.map_cons, List.nodup_cons] at hn
    rw [List.foldl_cons, ih hn.2]
    by_cases hc : c.pointer_id = id
    · have hnone : cs.find? (·.pointer_id = id) = none := by
        refine List.find?_eq_none.2 fun d hd hid => hn.1 ?_
        exact List.mem_map.2 ⟨d, hd, by rw [hc]; simpa using hid⟩
      rw [hnone, List.find?_cons_of_pos (by simpa using hc)]
      subst hc
      exact Function.update_self _ _ _
    · rw [List.find?_cons_of_neg (by simpa using hc)]
      cases cs.find? (·.pointer_id = id) with
      | none => exact Function.update_of_ne (Ne.symm hc) _ _
      | some d => rfl

/-- The planned state remembers the gated fingers of its snapshot, and nothing else about gating. -/
theorem plan_gated (state : KeyboardState L) (frame : TouchFrame) (split_repress : Bool) (id : UInt8) :
    (plan_into lane_for state frame split_repress).1.pressure_suppressed id = true ↔
      Gated frame.contacts.items id := by
  have hsteps : ∀ gated : UInt8 → Bool, (∀ lane touch (p : Plan L), p.1.pressure_suppressed = gated →
        (acquire_lane lane touch p).1.pressure_suppressed = gated) ∧
      (∀ lane (p : Plan L), p.1.pressure_suppressed = gated → (release_lane lane p).1.pressure_suppressed = gated) ∧
      ∀ id lane (p : Plan L), p.1.pressure_suppressed = gated → (own id lane p).1.pressure_suppressed = gated := by
    refine fun gated => ⟨fun _ _ _ h => h, fun lane p h => ?_, fun _ _ _ h => h⟩
    unfold release_lane
    split
    · exact h
    · exact h
  obtain ⟨hacquire, hrelease, hown⟩ := hsteps fun _ => false
  have happlied := apply_contacts_keeps lane_for hacquire hrelease hown frame
    ({ state with pressure_suppressed := fun _ => false }, []) rfl
  have hplan : (plan_into lane_for state frame split_repress).1.pressure_suppressed =
      frame.contacts.items.foldl (fun gated c =>
        Function.update gated c.pointer_id (c.touching && c.key_suppressed)) fun _ => false := by
    rw [← happlied]
    refine List.foldlRecOn (motive := fun p : Plan L => p.1.pressure_suppressed = _) _ _ rfl fun p hp id _ => ?_
    exact release_pointer_keeps (hsteps _).2.1 (hsteps _).2.2 id p hp
  rw [hplan, foldl_gated _ frame.contacts.distinct]
  cases hfind : frame.contacts.items.find? (·.pointer_id = id) with
  | none =>
    simp only [Bool.false_eq_true, false_iff]
    rintro ⟨c, hc, hid, -⟩
    exact List.find?_eq_none.1 hfind c hc (by simpa using hid)
  | some c =>
    have hmem := List.mem_of_find?_eq_some hfind
    have hid : c.pointer_id = id := by simpa using List.find?_some hfind
    simp only [Bool.and_eq_true]
    constructor
    · rintro ⟨htouching, hsuppressed⟩
      exact ⟨c, hmem, hid, htouching, hsuppressed⟩
    · rintro ⟨d, hd, hdid, htouching, hsuppressed⟩
      obtain rfl := List.inj_on_of_nodup_map frame.contacts.distinct hmem hd (hid.trans hdid.symm)
      exact ⟨htouching, hsuppressed⟩

/-! ## The same snapshot again -/

theorem slide_self (lane : Fin L) (n : Nat) (p : Plan L) : slide lane n lane p = p := by
  cases n with
  | zero => rfl
  | succ n => rw [slide, if_pos rfl]

theorem apply_contact_idle {c : Contact} {p : Plan L} (h : p.1.pointer_lanes c.pointer_id = wanted lane_for c) :
    apply_contact lane_for c p = p := by
  have howned : own c.pointer_id (wanted lane_for c) p = p := by
    rw [own, ← h, Function.update_eq_self]
  unfold apply_contact
  split
  · next hpresses =>
    rw [wanted, if_pos hpresses] at h howned
    rw [move_pointer, h]
    simp only [slide_self]
    exact howned
  · next hpresses =>
    rw [wanted, if_neg hpresses] at h
    rw [release_pointer, h]

/-- The owners already are those of the snapshot: nothing is planned. -/
theorem plan_idle {state : KeyboardState L} {frame : TouchFrame} (split_repress : Bool)
    (h : state.pointer_lanes = owners lane_for frame.contacts.items) :
    (plan_into lane_for state frame split_repress).2 = [] := by
  have hcontact : ∀ c ∈ frame.contacts.items, owners lane_for frame.contacts.items c.pointer_id = wanted lane_for c := by
    intro c hc
    cases hfind : frame.contacts.items.find? (·.pointer_id = c.pointer_id) with
    | none => exact absurd (List.find?_eq_none.1 hfind c hc) (by simp)
    | some d =>
      have hd : d.pointer_id = c.pointer_id := by simpa using List.find?_some hfind
      obtain rfl := List.inj_on_of_nodup_map frame.contacts.distinct (List.mem_of_find?_eq_some hfind) hc hd
      rw [owners, hfind]
      rfl
  obtain ⟨start, hstart⟩ : ∃ start : Plan L, start = ({ state with pressure_suppressed := fun _ => false }, []) := ⟨_, rfl⟩
  have hlanes : start.1.pointer_lanes = owners lane_for frame.contacts.items := by rw [hstart]; exact h
  have happly : apply_contacts lane_for frame start = start := by
    have hidle : ∀ c ∈ frame.contacts.items, apply_contact lane_for c start = start := fun c hc =>
      apply_contact_idle lane_for (by rw [hlanes, hcontact c hc])
    refine List.foldlRecOn (motive := fun p => p = start) _ _ ?_ fun p hp c hc => ?_
    · cases hfind : frame.contacts.items.find? (·.pointer_id = frame.action_pointer_id) with
      | none => rfl
      | some c => exact hidle c (List.mem_of_find?_eq_some hfind)
    · rw [hp]
      split
      · exact hidle c hc
      · rfl
  have hraw : (raw_plan lane_for state frame).2 = [] := by
    have hmissing : POINTER_IDS.filter (fun id => (start.1.pointer_lanes id).isSome &&
        !frame.contacts.items.any (·.pointer_id = id)) = [] := by
      refine List.filter_eq_nil_iff.2 fun id _ hid => ?_
      rw [hlanes, Bool.and_eq_true, Option.isSome_iff_exists] at hid
      obtain ⟨⟨lane, hlane⟩, habsent⟩ := hid
      obtain ⟨c, hfind, -⟩ := Option.bind_eq_some_iff.1 hlane
      have hpresent : frame.contacts.items.any (·.pointer_id = id) = true :=
        List.any_eq_true.2 ⟨c, List.mem_of_find?_eq_some hfind, by simpa using List.find?_some hfind⟩
      rw [hpresent] at habsent
      cases habsent
    have hplan : raw_plan lane_for state frame = (note_suppressed frame.contacts.items start.1, start.2) := by
      rw [raw_plan, ← hstart, happly, release_missing]
      have hsame : (note_suppressed frame.contacts.items start.1).pointer_lanes = start.1.pointer_lanes := rfl
      simp only [hsame, hmissing, List.foldl_nil]
    rw [hplan, hstart]
  have hnext := plan_lanes lane_for state frame split_repress
  rw [plan_into_eq] at hnext ⊢
  have hrepeats : repeats state (raw_plan lane_for state frame).1 frame split_repress = [] := by
    refine List.flatMap_eq_nil_iff.2 fun c hc => ?_
    have hsame : (raw_plan lane_for state frame).1.pointer_lanes = state.pointer_lanes := hnext.trans h.symm
    rw [repeat_press, hsame]
    split
    · next hjoins =>
      rw [Bool.and_eq_true, Option.isNone_iff_eq_none] at hjoins
      rw [hjoins.2]
    · rfl
  simp only [hraw, hrepeats, List.filter_nil, List.append_nil]

theorem owners_perm {cs cs' : List Contact} (h : cs.Perm cs') (hn : (cs.map Contact.pointer_id).Nodup) :
    owners lane_for cs = owners lane_for cs' := by
  refine funext fun id => congrArg (Option.bind · (wanted lane_for)) ?_
  have hn' : (cs'.map Contact.pointer_id).Nodup := (h.map _).nodup_iff.1 hn
  cases hfind : cs.find? (·.pointer_id = id) with
  | none =>
    refine (List.find?_eq_none.2 fun c hc => ?_).symm
    exact List.find?_eq_none.1 hfind c (h.mem_iff.2 hc)
  | some c =>
    have hc : c.pointer_id = id := by simpa using List.find?_some hfind
    have hmem := h.mem_iff.1 (List.mem_of_find?_eq_some hfind)
    cases hfind' : cs'.find? (·.pointer_id = id) with
    | none => exact absurd (List.find?_eq_none.1 hfind' c hmem) (by simpa using hc)
    | some d =>
      have hd : d.pointer_id = id := by simpa using List.find?_some hfind'
      rw [List.inj_on_of_nodup_map hn' hmem (List.mem_of_find?_eq_some hfind') (hc.trans hd.symm)]

/-! ## Runs -/

/-- Frames planned and accepted one after the other, and the last one's contacts. -/
inductive Planned : KeyboardState L → List Contact → Prop
  | new : Planned (KeyboardState.new L) []
  | frame {state : KeyboardState L} {contacts : List Contact} (frame : TouchFrame) (split_repress : Bool) :
      Planned state contacts → Planned (plan_into lane_for state frame split_repress).1 frame.contacts.items

variable {lane_for} {state : KeyboardState L} {contacts : List Contact}

theorem Planned.counted (h : Planned lane_for state contacts) : Counted state := by
  induction h with
  | new => exact counted_new
  | frame f split _ ih => exact plan_counted lane_for ih f split

theorem Planned.owners (h : Planned lane_for state contacts) : state.pointer_lanes = owners lane_for contacts := by
  cases h with
  | new => rfl
  | frame f split _ => exact plan_lanes lane_for _ f split

theorem Planned.gated (h : Planned lane_for state contacts) (id : UInt8) :
    state.pressure_suppressed id = true ↔ Gated contacts id := by
  cases h with
  | new => simp [KeyboardState.new, Gated]
  | frame f split _ => exact plan_gated lane_for _ f split id

/-- The frame is the contact's finger-down, or the contact was gated in the snapshot before. -/
def Admitted (contacts : List Contact) (frame : TouchFrame) (c : Contact) : Prop :=
  (frame.action = ACTION_DOWN ∧ c.pointer_id = frame.action_pointer_id) ∨ Gated contacts c.pointer_id

instance (contacts : List Contact) (frame : TouchFrame) (c : Contact) : Decidable (Admitted contacts frame c) :=
  inferInstanceAs (Decidable (_ ∨ _))

/-- The contact owned no lane and now owns `l`. -/
def Joins (state next : KeyboardState L) (l : Fin L) (c : Contact) : Prop :=
  state.pointer_lanes c.pointer_id = none ∧ next.pointer_lanes c.pointer_id = some l

instance (state next : KeyboardState L) (l : Fin L) (c : Contact) : Decidable (Joins state next l c) :=
  inferInstanceAs (Decidable (_ ∧ _))

def press_again (split_repress : Bool) (l : Fin L) : List (KeyChange L) :=
  (if split_repress then [⟨l, false, false⟩] else []) ++ [⟨l, true, true⟩]

theorem repeat_press_lane {next : KeyboardState L} {frame : TouchFrame} {split_repress : Bool} {l : Fin L}
    (hl : held state l = true) (c : Contact) :
    (repeat_press state next frame split_repress c).filter (·.lane = l) =
      if new_press state frame c = true ∧ Joins state next l c then press_again split_repress l else [] := by
  have hpos : state.lane_holds l > 0 := by simpa [held] using hl
  rw [repeat_press]
  by_cases hnew : new_press state frame c = true
  · by_cases hnone : state.pointer_lanes c.pointer_id = none
    · cases hlane : next.pointer_lanes c.pointer_id with
      | none => simp [hnew, hnone, Joins, hlane]
      | some lane =>
        by_cases hsame : lane = l
        · subst hsame
          cases split_repress <;> simp [hnew, hnone, Joins, hlane, hpos, press_again]
        · have hempty : ((if state.lane_holds lane > 0 then
              (if split_repress = true then [⟨lane, false, false⟩] else []) ++ [⟨lane, true, true⟩] else [] :
              List (KeyChange L))).filter (·.lane = l) = [] := by
            refine List.filter_eq_nil_iff.2 fun change hmem hchange => hsame ?_
            split at hmem
            · cases split_repress <;> simp at hmem <;> grind
            · cases hmem
          simp [hnew, hnone, Joins, hlane, hsame, hempty]
    · simp [hnone, Joins]
  · simp [hnew]

/-- On a lane held before and after a frame the plan has one press for each contact that joins the lane and is
admitted, in snapshot order, with its own up in front of it when presses are split; and nothing else. A frame with
the contacts of the last one plans no change at all. -/
theorem admitted_once (h : Planned lane_for state contacts) (frame : TouchFrame) (split_repress : Bool) :
    (∀ l, held state l = true → held (plan_into lane_for state frame split_repress).1 l = true →
      (plan_into lane_for state frame split_repress).2.filter (·.lane = l) =
        frame.contacts.items.flatMap fun c =>
          if Joins state (plan_into lane_for state frame split_repress).1 l c ∧ Admitted contacts frame c then
            press_again split_repress l
          else []) ∧
    (frame.contacts.items.Perm contacts → (plan_into lane_for state frame split_repress).2 = []) := by
  refine ⟨fun l hbefore hafter => ?_, fun hsame => plan_idle lane_for split_repress ?_⟩
  · rw [plan_into_eq] at hafter ⊢
    have hkept : ∀ changes : List (KeyChange L), (changes.filter fun c =>
        state.lane_holds c.lane = 0 || (raw_plan lane_for state frame).1.lane_holds c.lane = 0).filter (·.lane = l) = [] := by
      intro changes
      refine List.filter_eq_nil_iff.2 fun c hmem hlane => ?_
      obtain rfl : c.lane = l := by simpa using hlane
      have hfree := (List.mem_filter.1 hmem).2
      simp only [held, decide_eq_true_eq] at hbefore hafter
      simp only [Bool.or_eq_true, decide_eq_true_eq] at hfree
      omega
    rw [List.filter_append, hkept, List.nil_append, repeats, List.filter_flatMap]
    refine List.flatMap_congr fun c _ => ?_
    rw [repeat_press_lane hbefore]
    have hadmitted : new_press state frame c = true ↔ Admitted contacts frame c := by
      rw [new_press, Bool.or_eq_true, Bool.and_eq_true, decide_eq_true_eq, decide_eq_true_eq, h.gated]
      rfl
    simp only [hadmitted, and_comm]
  · rw [h.owners]
    exact (owners_perm lane_for hsame frame.contacts.distinct).symm

/-- One finger holds the right half; another lands there, too light at first. -/
def lightTap (flags : UInt8) : TouchFrame :=
  { tapRight with
    action_pointer_id := 1
    contacts := ⟨[⟨0, CONTACT_FLAG_TIP, 7500, 5000, 0, 0⟩, ⟨1, CONTACT_FLAG_TIP ||| flags, 7500, 5000, 0, 0⟩],
      by simp [MAX_CONTACTS], by simp⟩ }

def afterLightTap : KeyboardState 2 :=
  (plan_into halves (plan_into halves (KeyboardState.new 2) tapRight false).1 (lightTap CONTACT_FLAG_KEY_SUPPRESSED) false).1

/-- The gated finger presses the lane once it is heavy enough, in a move; the snapshot after that presses nothing. -/
theorem admitted_once_light :
    (plan_into halves afterLightTap { lightTap 0 with action := ACTION_MOVE } false).2.filter (·.lane = 1) =
      [⟨1, true, true⟩] ∧
    (plan_into halves (plan_into halves afterLightTap { lightTap 0 with action := ACTION_MOVE } false).1 (lightTap 0)
      false).2 = [] := by
  have hrun : Planned halves afterLightTap (lightTap CONTACT_FLAG_KEY_SUPPRESSED).contacts.items :=
    .frame _ _ (.frame tapRight false .new)
  refine ⟨?_, (admitted_once (.frame { lightTap 0 with action := ACTION_MOVE } false hrun) (lightTap 0) false).2
    (List.Perm.refl _)⟩
  rw [(admitted_once hrun { lightTap 0 with action := ACTION_MOVE } false).1 1 (by decide +kernel) (by decide +kernel)]
  decide +kernel

/-- A finger that is not down has no key to suppress: its flag does not admit its next touch of a held lane. -/
theorem lifted_not_admitted :
    let lifted : TouchFrame := { lightTap 0 with
      action := ACTION_MOVE
      contacts := ⟨[⟨0, CONTACT_FLAG_TIP, 7500, 5000, 0, 0⟩, ⟨1, CONTACT_FLAG_KEY_SUPPRESSED, 7500, 5000, 0, 0⟩],
        by decide, by decide⟩ }
    let state := (plan_into halves (plan_into halves (KeyboardState.new 2) tapRight false).1 lifted false).1
    let next := plan_into halves state { lightTap 0 with action := ACTION_MOVE } false
    (∃ c ∈ lifted.contacts.items, c.pointer_id = 1 ∧ c.key_suppressed = true) ∧
    held state 1 = true ∧ held next.1 1 = true ∧ state.pointer_lanes 1 = none ∧ next.1.pointer_lanes 1 = some 1 ∧
    next.2 = [] := by
  decide +kernel

end Trackpad.Keyboard
