import Trackpad.Injector
/-!
# What Windows sees of the injector

Windows takes a pointer's events as cycles of DOWN, UPDATEs and UP. Along any sequence of calls that avoids two kinds
of frames the injector keeps to that protocol, and its table is the set of pointers that are down.
-/

namespace Trackpad

open Keyboard (POINTER_IDS mem_pointer_ids pointer_ids_nodup)

/-! ## The protocol -/

/-- Whether a pointer is down after one more event, and `none` where the event was not its turn. -/
def touch_event (down : Bool) (flags : UInt32) : Option Bool :=
  if flags &&& POINTER_FLAG_DOWN ≠ 0 then if down then none else some true
  else if flags &&& POINTER_FLAG_UPDATE ≠ 0 then if down then some true else none
  else if flags &&& POINTER_FLAG_UP ≠ 0 then if down then some false else none
  else none

/-- The events of a call for one pointer. -/
def Injection.events (id : UInt8) (call : Injection) : List UInt32 :=
  if call.delivered then (call.contacts.filter fun info => info.pointerId = id).map POINTER_TOUCH_INFO.pointerFlags else []

/-- Whether a pointer is down after the calls, `none` once its events left the protocol. -/
def down_after (id : UInt8) (calls : List Injection) : Option Bool :=
  (calls.flatMap fun call => call.events id).foldlM touch_event false

/-- A call lists no pointer twice and no more than Windows was told to expect. -/
structure Listed (contacts : List POINTER_TOUCH_INFO) : Prop where
  distinct : (contacts.map POINTER_TOUCH_INFO.pointerId).Nodup
  bounded : contacts.length ≤ MAX_CONTACTS

/-- The protocol was kept, and the pointers in the table are those that are down. -/
structure TouchInjector.Faithful (t : TouchInjector) : Prop where
  cycles : ∀ id, down_after id t.calls = some (t.active id).isSome
  listed : ∀ call ∈ t.calls, Listed call.contacts

theorem down_after_refused (id : UInt8) (calls : List Injection) (contacts : List POINTER_TOUCH_INFO) :
    down_after id (calls ++ [⟨contacts, false⟩]) = down_after id calls := by
  unfold down_after
  rw [List.flatMap_append, List.flatMap_singleton]
  simp [Injection.events]

/-- A delivered call moves each pointer by its own contact and leaves the others alone. -/
theorem down_after_delivered {calls : List Injection} {contacts : List POINTER_TOUCH_INFO} {before after : UInt8 → Bool}
    (hbefore : ∀ id, down_after id calls = some (before id))
    (hdistinct : (contacts.map POINTER_TOUCH_INFO.pointerId).Nodup)
    (hlisted : ∀ info ∈ contacts, touch_event (before info.pointerId) info.pointerFlags = some (after info.pointerId))
    (hrest : ∀ id, id ∉ contacts.map POINTER_TOUCH_INFO.pointerId → after id = before id) (id : UInt8) :
    down_after id (calls ++ [⟨contacts, true⟩]) = some (after id) := by
  have hcalls := hbefore id
  unfold down_after at hcalls ⊢
  rw [List.flatMap_append, List.flatMap_singleton, List.foldlM_append, hcalls]
  change ((contacts.filter fun info => info.pointerId = id).map POINTER_TOUCH_INFO.pointerFlags).foldlM touch_event
    (before id) = some (after id)
  by_cases hmem : id ∈ contacts.map POINTER_TOUCH_INFO.pointerId
  · obtain ⟨info, hinfo, rfl⟩ := List.mem_map.mp hmem
    have hown : (contacts.filter fun other => other.pointerId = info.pointerId) = [info] := by
      obtain ⟨front, back, rfl⟩ := List.append_of_mem hinfo
      rw [List.map_append, List.map_cons, List.nodup_append] at hdistinct
      obtain ⟨-, hback, hfront⟩ := hdistinct
      have hnone : ∀ other ∈ front, other.pointerId ≠ info.pointerId := fun other hother heq =>
        hfront _ (List.mem_map_of_mem hother) _ List.mem_cons_self heq
      have hnone' : ∀ other ∈ back, other.pointerId ≠ info.pointerId := fun other hother heq =>
        (List.nodup_cons.mp hback).1 (heq ▸ List.mem_map_of_mem hother)
      rw [List.filter_append, List.filter_cons_of_pos (by simp), List.filter_eq_nil_iff.mpr (by simpa using hnone),
        List.filter_eq_nil_iff.mpr (by simpa using hnone')]
      rfl
    rw [hown]
    change (touch_event (before info.pointerId) info.pointerFlags).bind pure = _
    rw [hlisted info hinfo]
    rfl
  · have hnone : (contacts.filter fun info => info.pointerId = id) = [] := by
      rw [List.filter_eq_nil_iff]
      intro info hinfo heq
      exact hmem (List.mem_map.mpr ⟨info, hinfo, by simpa using heq⟩)
    rw [hnone, hrest id hmem]
    rfl

/-! ## Lists over the table -/

theorem listed_ids {f : UInt8 → Option POINTER_TOUCH_INFO} (hf : ∀ id info, f id = some info → info.pointerId = id) :
    (POINTER_IDS.filterMap f).map POINTER_TOUCH_INFO.pointerId = POINTER_IDS.filter fun id => (f id).isSome := by
  rw [List.map_filterMap, ← List.filterMap_eq_filter]
  apply List.filterMap_congr
  intro id _
  cases hfound : f id with
  | none => simp [Option.guard, hfound]
  | some info => simp [Option.guard, hfound, hf id info hfound]

/-- How many pointers of a table satisfy `p`. -/
def pointers (p : UInt8 → Bool) : Nat := POINTER_IDS.countP p

theorem pointers_eq (p : UInt8 → Bool) : pointers p = (Finset.univ.filter fun id => p id = true).card := by
  have hset : (Finset.univ.filter fun id => p id = true) = (POINTER_IDS.filter p).toFinset := by
    ext id
    simp [mem_pointer_ids]
  rw [hset, List.toFinset_card_of_nodup (pointer_ids_nodup.filter p)]
  exact List.countP_eq_length_filter

theorem pointers_mono {p q : UInt8 → Bool} (h : ∀ id, p id = true → q id = true) : pointers p ≤ pointers q :=
  List.countP_mono_left fun id _ => h id

/-- A list of distinct pointers among those that satisfy `p`. -/
theorem length_le_pointers {ids : List UInt8} (hdistinct : ids.Nodup) {p : UInt8 → Bool} (h : ∀ id ∈ ids, p id = true) :
    ids.length ≤ pointers p := by
  rw [pointers_eq, ← List.toFinset_card_of_nodup hdistinct]
  apply Finset.card_le_card
  intro id hid
  rw [Finset.mem_filter]
  exact ⟨Finset.mem_univ id, h id (List.mem_toFinset.mp hid)⟩

theorem pointers_le_length {ids : List UInt8} {p : UInt8 → Bool} (h : ∀ id, p id = true → id ∈ ids) :
    pointers p ≤ ids.length := by
  rw [pointers_eq]
  refine (Finset.card_le_card (t := ids.toFinset) fun id hid => ?_).trans (List.toFinset_card_le ids)
  exact List.mem_toFinset.mpr (h id (Finset.mem_filter.mp hid).2)

/-! ## The tables of a frame -/

namespace TouchFrame

def lists (frame : TouchFrame) (id : UInt8) : Bool := frame.contacts.items.any (·.pointer_id = id)

def touches (frame : TouchFrame) (id : UInt8) : Bool := frame.contacts.items.any fun c => c.pointer_id = id && c.touching

theorem lists_iff {frame : TouchFrame} {id : UInt8} :
    frame.lists id = true ↔ id ∈ frame.contacts.items.map Contact.pointer_id := by
  simp [lists]

theorem touches_lists {frame : TouchFrame} {id : UInt8} (h : frame.touches id = true) : frame.lists id = true := by
  obtain ⟨c, hc, hid⟩ := List.any_eq_true.mp h
  exact List.any_eq_true.mpr ⟨c, hc, (Bool.and_eq_true_iff.mp hid).1⟩

/-- The contacts of a frame have distinct pointers, so a contact speaks for its own. -/
theorem touches_contact {frame : TouchFrame} {c : Contact} (hc : c ∈ frame.contacts.items) :
    frame.touches c.pointer_id = c.touching := by
  have hunique : ∀ d ∈ frame.contacts.items, d.pointer_id = c.pointer_id → d = c := fun d hd heq =>
    List.inj_on_of_nodup_map frame.contacts.distinct hd hc heq
  rw [Bool.eq_iff_iff]
  constructor
  · intro h
    obtain ⟨d, hd, hid⟩ := List.any_eq_true.mp h
    obtain ⟨hid, htouching⟩ := Bool.and_eq_true_iff.mp hid
    exact hunique d hd (by simpa using hid) ▸ htouching
  · intro h
    exact List.any_eq_true.mpr ⟨c, hc, by simp [h]⟩

end TouchFrame

namespace TouchInjector

variable {os_error : Nat → IoError} {contact_state : TouchTarget → Contact → ActiveContact}

theorem propose_foldl (target : TouchTarget) (contacts : List Contact) (table : UInt8 → Option ActiveContact) (id : UInt8) :
    (contacts.foldl (fun (proposed : UInt8 → Option ActiveContact) contact =>
      Function.update proposed contact.pointer_id (some (contact_state target contact))) table id).isSome =
      ((table id).isSome || contacts.any (·.pointer_id = id)) := by
  induction contacts generalizing table with
  | nil => simp
  | cons c contacts ih =>
    rw [List.foldl_cons, ih, List.any_cons]
    by_cases hid : id = c.pointer_id
    · subst hid
      simp
    · rw [Function.update_of_ne hid]
      simp [Ne.symm hid]

variable (contact_state) in
/-- The proposed table holds the frame's pointers. -/
theorem propose_isSome (frame : TouchFrame) (target : TouchTarget) (id : UInt8) :
    (propose contact_state frame target id).isSome = frame.lists id :=
  propose_foldl target frame.contacts.items (fun _ => none) id

theorem settle_foldl (proposed : UInt8 → Option ActiveContact) (contacts : List Contact)
    (hproposed : ∀ c ∈ contacts, (proposed c.pointer_id).isSome = true) (t : TouchInjector) :
    let t' := contacts.foldl (fun t contact =>
      if contact.touching then
        { t with
          active := Function.update t.active contact.pointer_id (proposed contact.pointer_id)
          active_count := t.active_count + 1 }
      else t) t
    (∀ id, (t'.active id).isSome = ((t.active id).isSome || contacts.any fun c => c.pointer_id = id && c.touching)) ∧
    t'.active_count = t.active_count + contacts.countP Contact.touching ∧ t'.calls = t.calls ∧ t'.target = t.target := by
  induction contacts generalizing t with
  | nil => simp
  | cons c contacts ih =>
    have hrest := fun d hd => hproposed d (List.mem_cons_of_mem _ hd)
    rw [List.foldl_cons]
    by_cases htouching : c.touching = true
    · obtain ⟨hactive, hcount, hcalls, htarget⟩ := ih hrest
        { t with
          active := Function.update t.active c.pointer_id (proposed c.pointer_id)
          active_count := t.active_count + 1 }
      rw [if_pos htouching]
      refine ⟨fun id => ?_, ?_, hcalls, htarget⟩
      · rw [hactive, List.any_cons]
        by_cases hid : id = c.pointer_id
        · subst hid
          simp [hproposed c List.mem_cons_self, htouching]
        · simp [Function.update_of_ne hid, Ne.symm hid]
      · rw [hcount, List.countP_cons_of_pos htouching]
        change t.active_count + 1 + _ = _
        omega
    · obtain ⟨hactive, hcount, hcalls, htarget⟩ := ih hrest t
      rw [if_neg htouching]
      refine ⟨fun id => ?_, ?_, hcalls, htarget⟩
      · rw [hactive, List.any_cons]
        simp [htouching]
      · rw [hcount, List.countP_cons_of_neg htouching]

/-- After a frame the table holds its touching pointers. -/
theorem settle_spec (frame : TouchFrame) {proposed : UInt8 → Option ActiveContact}
    (hproposed : ∀ id, (proposed id).isSome = frame.lists id) (t : TouchInjector) :
    (∀ id, ((t.settle frame proposed).active id).isSome = frame.touches id) ∧
    (t.settle frame proposed).active_count = pointers frame.touches ∧ (t.settle frame proposed).calls = t.calls := by
  obtain ⟨hactive, hcount, hcalls, -⟩ := settle_foldl proposed frame.contacts.items (fun c hc => by
    rw [hproposed, TouchFrame.lists_iff]
    exact List.mem_map_of_mem hc) { t with active := fun _ => none, active_count := 0 }
  refine ⟨fun id => (hactive id).trans (Bool.false_or _), hcount.trans ?_, hcalls⟩
  -- the touching contacts have distinct pointers
  have hsub : ((frame.contacts.items.filter Contact.touching).map Contact.pointer_id).Nodup :=
    frame.contacts.distinct.sublist (List.filter_sublist.map _)
  have hmem : ∀ id, id ∈ (frame.contacts.items.filter Contact.touching).map Contact.pointer_id ↔ frame.touches id = true := by
    intro id
    simp only [TouchFrame.touches, List.mem_map, List.mem_filter, List.any_eq_true, Bool.and_eq_true, decide_eq_true_eq]
    exact exists_congr fun c => by tauto
  rw [Nat.zero_add, List.countP_eq_length_filter, ← List.length_map Contact.pointer_id]
  exact le_antisymm (length_le_pointers hsub fun id hid => (hmem id).mp hid)
    (pointers_le_length fun id hid => (hmem id).mpr hid)

/-! ## One injection -/

/-- What holds of the injector whatever was refused. -/
structure Sound (t : TouchInjector) : Prop extends Faithful t where
  count : t.active_count = pointers fun id => (t.active id).isSome
  few : t.active_count ≤ MAX_CONTACTS

variable (os_error) in
/-- An injection changes nothing but the log. Delivered, it has moved the pointers from the table to `after`. -/
theorem inject_retry_spec {contacts : List POINTER_TOUCH_INFO} {t : TouchInjector} (h : t.Faithful)
    (hlisted : Listed contacts) (after : UInt8 → Bool)
    (hmoves : ∀ info ∈ contacts, touch_event (t.active info.pointerId).isSome info.pointerFlags = some (after info.pointerId))
    (hrest : ∀ id, id ∉ contacts.map POINTER_TOUCH_INFO.pointerId → after id = (t.active id).isSome)
    (answers : List Answer) :
    let t' := (inject_retry os_error contacts answers t).2
    (∃ calls, t' = { t with calls := calls } ∧ ∀ call ∈ calls, Listed call.contacts) ∧
    ((inject_retry os_error contacts answers t).1 = .finished (.ok ()) → ∀ id, down_after id t'.calls = some (after id)) ∧
    ((inject_retry os_error contacts answers t).1 ≠ .finished (.ok ()) →
      ∀ id, down_after id t'.calls = some (t.active id).isSome) := by
  induction answers generalizing t with
  | nil => exact ⟨⟨t.calls, rfl, h.listed⟩, (fun hok => by cases hok), fun _ => h.cycles⟩
  | cons answer answers ih =>
    have hlog : ∀ delivered, ∀ call ∈ t.calls ++ [⟨contacts, delivered⟩], Listed call.contacts := by
      intro delivered call hcall
      rcases List.mem_append.mp hcall with hcall | hcall
      · exact h.listed call hcall
      · exact List.mem_singleton.mp hcall ▸ hlisted
    cases answer with
    | delivered =>
      exact ⟨⟨_, rfl, hlog true⟩, fun _ => down_after_delivered h.cycles hlisted.distinct hmoves hrest,
        fun hfailed => absurd rfl hfailed⟩
    | refused error expired =>
      have hrefused : ∀ id, down_after id (t.calls ++ [⟨contacts, false⟩]) = some (t.active id).isSome := fun id => by
        rw [down_after_refused]
        exact h.cycles id
      unfold inject_retry
      dsimp only
      by_cases hlast : (decide (error ≠ ERROR_NOT_READY) || expired) = true
      · rw [if_pos hlast]
        exact ⟨⟨_, rfl, hlog false⟩, (fun hok => by cases hok), fun _ => hrefused⟩
      · rw [if_neg hlast]
        obtain ⟨⟨calls, heq, hcalls⟩, hresult⟩ :=
          ih (t := { t with calls := t.calls ++ [⟨contacts, false⟩] }) ⟨hrefused, hlog false⟩ hmoves hrest
        exact ⟨⟨calls, heq, hcalls⟩, hresult⟩

/-- Whether the answers end in a delivery. -/
def delivers : List Answer → Bool
  | [] => false
  | .delivered :: _ => true
  | .refused error expired :: answers => if error ≠ ERROR_NOT_READY || expired then false else delivers answers

variable (os_error) in
theorem inject_retry_ok (contacts : List POINTER_TOUCH_INFO) (answers : List Answer) (t : TouchInjector) :
    (inject_retry os_error contacts answers t).1 = .finished (.ok ()) ↔ delivers answers = true := by
  induction answers generalizing t with
  | nil => exact ⟨(fun h => by cases h), (fun h => by cases h)⟩
  | cons answer answers ih =>
    cases answer with
    | delivered => exact ⟨fun _ => rfl, fun _ => rfl⟩
    | refused error expired =>
      unfold inject_retry delivers
      dsimp only
      split_ifs
      · exact ⟨(fun h => by cases h), (fun h => by cases h)⟩
      · exact ih _

/-! ## Lifting every pointer -/

theorem lift_all_listed {t : TouchInjector} (h : t.Sound) : Listed (lift_all t.active) := by
  have hids := listed_ids (f := fun pointer_id => (t.active pointer_id).map fun state =>
    to_touch_info pointer_id state (POINTER_FLAG_UP ||| POINTER_FLAG_CANCELED)) (by
      intro id info hinfo
      obtain ⟨state, -, rfl⟩ := Option.map_eq_some_iff.mp hinfo
      rfl)
  have hdistinct : ((lift_all t.active).map POINTER_TOUCH_INFO.pointerId).Nodup := by
    unfold lift_all
    rw [hids]
    exact pointer_ids_nodup.filter _
  refine ⟨hdistinct, ?_⟩
  rw [← List.length_map POINTER_TOUCH_INFO.pointerId]
  refine (length_le_pointers hdistinct (p := fun id => (t.active id).isSome) fun id hid => ?_).trans (h.count ▸ h.few)
  unfold lift_all at hid
  rw [hids] at hid
  simpa using (List.mem_filter.mp hid).2

theorem mem_lift_all {active : UInt8 → Option ActiveContact} {id : UInt8} :
    id ∈ (lift_all active).map POINTER_TOUCH_INFO.pointerId ↔ (active id).isSome = true := by
  unfold lift_all
  rw [listed_ids]
  · simp [mem_pointer_ids]
  · intro id info hinfo
    obtain ⟨state, -, rfl⟩ := Option.map_eq_some_iff.mp hinfo
    rfl

theorem lift_all_flags {active : UInt8 → Option ActiveContact} {info : POINTER_TOUCH_INFO} (h : info ∈ lift_all active) :
    info.pointerFlags = POINTER_FLAG_UP ||| POINTER_FLAG_CANCELED := by
  obtain ⟨id, -, hinfo⟩ := List.mem_filterMap.mp h
  obtain ⟨state, -, rfl⟩ := Option.map_eq_some_iff.mp hinfo
  rfl

theorem active_none {t : TouchInjector} (h : t.Sound) (hzero : t.active_count = 0) (id : UInt8) : t.active id = none := by
  have hcount := h.count
  rw [hzero] at hcount
  have := List.countP_eq_zero.mp hcount.symm id (mem_pointer_ids id)
  simpa using this

variable (os_error) in
/-- `cancel_all` keeps the protocol, and when it returns `Ok` no pointer is down. -/
theorem cancel_all_sound {t : TouchInjector} (h : t.Sound) (answers : List Answer) :
    (cancel_all os_error answers t).2.Sound ∧
    ((cancel_all os_error answers t).1 = .finished (.ok ()) →
      ∀ id, ((cancel_all os_error answers t).2.active id).isSome = false) := by
  unfold cancel_all
  by_cases hzero : t.active_count = 0
  · rw [if_pos hzero]
    exact ⟨h, fun _ id => by rw [active_none h hzero]; rfl⟩
  · rw [if_neg hzero]
    obtain ⟨⟨calls, heq, hcalls⟩, hok, hfailed⟩ := inject_retry_spec os_error h.toFaithful (lift_all_listed h)
      (fun _ => false)
      (fun info hinfo => by
        rw [lift_all_flags hinfo, mem_lift_all.mp (List.mem_map_of_mem hinfo)]
        decide)
      (fun id hid => by
        rw [mem_lift_all, Bool.not_eq_true] at hid
        exact hid.symm) answers
    have hkept : (inject_retry os_error (lift_all t.active) answers t).1 ≠ .finished (.ok ()) →
        (inject_retry os_error (lift_all t.active) answers t).2.Sound := fun hne => by
      rw [heq] at hfailed ⊢
      exact ⟨⟨hfailed hne, hcalls⟩, h.count, h.few⟩
    rcases hinjected : inject_retry os_error (lift_all t.active) answers t with ⟨result, t'⟩
    rw [hinjected] at hok heq hkept
    rcases result with (_ | ⟨⟩) | _
    · exact ⟨hkept (by simp), fun hok' => by cases hok'⟩
    · obtain rfl : t' = { t with calls := calls } := heq
      exact ⟨⟨⟨hok rfl, hcalls⟩, (List.countP_eq_zero.mpr fun _ _ => by simp).symm, Nat.zero_le _⟩, fun _ _ => rfl⟩
    · exact ⟨hkept (by simp), fun hok' => by cases hok'⟩

/-! ## Moving pointers that are down -/

theorem fill_update_ids (active proposed : UInt8 → Option ActiveContact) :
    (fill_update_contacts active proposed).map POINTER_TOUCH_INFO.pointerId =
      POINTER_IDS.filter fun id => (active id).isSome && (proposed id).isSome := by
  unfold fill_update_contacts
  rw [listed_ids]
  · apply List.filter_congr
    intro id _
    cases (active id).isSome <;> simp
  · intro id info hinfo
    split_ifs at hinfo
    obtain ⟨state, -, rfl⟩ := Option.map_eq_some_iff.mp hinfo
    rfl

theorem fill_update_listed {t : TouchInjector} (h : t.Sound) (proposed : UInt8 → Option ActiveContact) :
    Listed (fill_update_contacts t.active proposed) := by
  have hdistinct : ((fill_update_contacts t.active proposed).map POINTER_TOUCH_INFO.pointerId).Nodup := by
    rw [fill_update_ids]
    exact pointer_ids_nodup.filter _
  refine ⟨hdistinct, ?_⟩
  rw [← List.length_map POINTER_TOUCH_INFO.pointerId]
  refine (length_le_pointers hdistinct (p := fun id => (t.active id).isSome) fun id hid => ?_).trans (h.count ▸ h.few)
  rw [fill_update_ids] at hid
  exact (Bool.and_eq_true_iff.mp (List.mem_filter.mp hid).2).1

theorem fill_update_moves {active proposed : UInt8 → Option ActiveContact} {info : POINTER_TOUCH_INFO}
    (h : info ∈ fill_update_contacts active proposed) :
    touch_event (active info.pointerId).isSome info.pointerFlags = some (active info.pointerId).isSome := by
  obtain ⟨id, -, hinfo⟩ := List.mem_filterMap.mp h
  split_ifs at hinfo with hactive
  obtain ⟨state, -, rfl⟩ := Option.map_eq_some_iff.mp hinfo
  change touch_event (active id).isSome (POINTER_FLAG_UPDATE ||| POINTER_FLAG_INRANGE ||| POINTER_FLAG_INCONTACT) =
    some (active id).isSome
  rw [hactive]
  decide

variable (os_error) in
/-- Injecting updates changes neither the table nor what is down. -/
theorem update_sound {t : TouchInjector} (h : t.Sound) (proposed : UInt8 → Option ActiveContact) (answers : List Answer) :
    ∃ calls, (inject_retry os_error (fill_update_contacts t.active proposed) answers t).2 = { t with calls := calls } ∧
      { t with calls := calls }.Sound := by
  obtain ⟨⟨calls, heq, hcalls⟩, hok, hfailed⟩ := inject_retry_spec os_error h.toFaithful
    (fill_update_listed h proposed) (fun id => (t.active id).isSome) (fun _ hinfo => fill_update_moves hinfo)
    (fun _ _ => rfl) answers
  refine ⟨calls, heq, ⟨?_, hcalls⟩, h.count, h.few⟩
  rw [heq] at hok hfailed
  by_cases hdelivered : (inject_retry os_error (fill_update_contacts t.active proposed) answers t).1 = .finished (.ok ())
  · exact hok hdelivered
  · exact hfailed hdelivered

/-! ## The closing injection -/

theorem transition_flags_event {was_active touching : Bool} {flags : UInt32}
    (h : transition_flags was_active touching = some flags) : touch_event was_active flags = some touching := by
  cases was_active <;> cases touching <;> cases h <;> decide

/-- The pointers the closing injection is about: the omitted ones, and those that touch or touched. -/
theorem transitions_ids (frame : TouchFrame) {proposed : UInt8 → Option ActiveContact}
    (hproposed : ∀ id, (proposed id).isSome = frame.lists id) (t : TouchInjector) :
    (transitions frame proposed t).map POINTER_TOUCH_INFO.pointerId =
      (POINTER_IDS.filter fun id => (t.active id).isSome && !frame.lists id) ++
      (frame.contacts.items.filter fun c => (t.active c.pointer_id).isSome || c.touching).map Contact.pointer_id := by
  unfold transitions
  rw [List.map_append]
  congr 1
  · rw [listed_ids]
    · apply List.filter_congr
      intro id _
      unfold TouchFrame.lists
      cases frame.contacts.items.any (·.pointer_id = id) <;> simp
    · intro id info hinfo
      split_ifs at hinfo
      obtain ⟨state, -, rfl⟩ := Option.map_eq_some_iff.mp hinfo
      rfl
  · rw [List.map_filterMap, ← List.filterMap_eq_filter, List.map_filterMap]
    apply List.filterMap_congr
    intro c hc
    have hsome : (proposed c.pointer_id).isSome = true := by
      rw [hproposed, TouchFrame.lists_iff]
      exact List.mem_map_of_mem hc
    obtain ⟨state, hstate⟩ := Option.isSome_iff_exists.mp hsome
    rw [hstate]
    cases hactive : (t.active c.pointer_id).isSome <;> cases htouching : c.touching <;>
      simp only [transition_flags, Option.guard, htouching, hactive] <;> rfl

theorem mem_transitions (frame : TouchFrame) {proposed : UInt8 → Option ActiveContact}
    (hproposed : ∀ id, (proposed id).isSome = frame.lists id) (t : TouchInjector) (id : UInt8) :
    id ∈ (transitions frame proposed t).map POINTER_TOUCH_INFO.pointerId ↔
      ((t.active id).isSome || frame.touches id) = true := by
  rw [transitions_ids frame hproposed, List.mem_append, List.mem_filter, Bool.or_eq_true]
  constructor
  · rintro (⟨-, h⟩ | h)
    · exact .inl (Bool.and_eq_true_iff.mp h).1
    · obtain ⟨c, hc, rfl⟩ := List.mem_map.mp h
      obtain ⟨hc, hmoves⟩ := List.mem_filter.mp hc
      rwa [TouchFrame.touches_contact hc, ← Bool.or_eq_true]
  · intro h
    by_cases hlists : frame.lists id = true
    · obtain ⟨c, hc, rfl⟩ := List.mem_map.mp (TouchFrame.lists_iff.mp hlists)
      rw [TouchFrame.touches_contact hc] at h
      exact .inr (List.mem_map_of_mem (List.mem_filter.mpr ⟨hc, Bool.or_eq_true_iff.mpr h⟩))
    · refine .inl ⟨mem_pointer_ids id, ?_⟩
      rw [Bool.not_eq_true] at hlists
      rcases h with h | h
      · rw [h, hlists]
        rfl
      · exact absurd (TouchFrame.touches_lists h) (by rw [hlists]; decide)

theorem transitions_listed (frame : TouchFrame) {proposed : UInt8 → Option ActiveContact}
    (hproposed : ∀ id, (proposed id).isSome = frame.lists id) {t : TouchInjector}
    (hroom : pointers (fun id => (t.active id).isSome || frame.touches id) ≤ MAX_CONTACTS) :
    Listed (transitions frame proposed t) := by
  have hdistinct : ((transitions frame proposed t).map POINTER_TOUCH_INFO.pointerId).Nodup := by
    rw [transitions_ids frame hproposed, List.nodup_append]
    refine ⟨pointer_ids_nodup.filter _, frame.contacts.distinct.sublist (List.filter_sublist.map _), ?_⟩
    rintro id hid _ hid' rfl
    obtain ⟨c, hc, rfl⟩ := List.mem_map.mp hid'
    have hlists := TouchFrame.lists_iff.mpr (List.mem_map_of_mem (List.mem_filter.mp hc).1)
    have homitted := (Bool.and_eq_true_iff.mp (List.mem_filter.mp hid).2).2
    rw [hlists] at homitted
    exact absurd homitted (by decide)
  refine ⟨hdistinct, ?_⟩
  rw [← List.length_map POINTER_TOUCH_INFO.pointerId]
  exact (length_le_pointers hdistinct fun id hid => (mem_transitions frame hproposed t id).mp hid).trans hroom

/-- Each contact of the closing injection takes its pointer to what the frame says of it. -/
theorem transitions_moves (frame : TouchFrame) {proposed : UInt8 → Option ActiveContact} {t : TouchInjector}
    {info : POINTER_TOUCH_INFO} (h : info ∈ transitions frame proposed t) :
    touch_event (t.active info.pointerId).isSome info.pointerFlags = some (frame.touches info.pointerId) := by
  rcases List.mem_append.mp h with h | h
  · obtain ⟨id, -, hinfo⟩ := List.mem_filterMap.mp h
    split_ifs at hinfo with hlists
    obtain ⟨state, hstate, rfl⟩ := Option.map_eq_some_iff.mp hinfo
    have hlifted : frame.touches id = false := by
      rw [Bool.eq_false_iff]
      exact fun htouches => hlists (TouchFrame.touches_lists htouches)
    change touch_event (t.active id).isSome POINTER_FLAG_UP = some (frame.touches id)
    rw [hlifted, hstate, Option.isSome_some]
    decide
  · obtain ⟨c, hc, hinfo⟩ := List.mem_filterMap.mp h
    obtain ⟨state, -, hinfo⟩ := Option.bind_eq_some_iff.mp hinfo
    obtain ⟨flags, hflags, rfl⟩ := Option.map_eq_some_iff.mp hinfo
    change touch_event (t.active c.pointer_id).isSome flags = some (frame.touches c.pointer_id)
    rw [TouchFrame.touches_contact hc]
    exact transition_flags_event hflags

theorem touches_few (frame : TouchFrame) : pointers frame.touches ≤ MAX_CONTACTS := by
  refine (pointers_le_length fun id hid => TouchFrame.lists_iff.mp (TouchFrame.touches_lists hid)).trans ?_
  rw [List.length_map]
  exact frame.contacts.bounded

theorem finish_sound {frame : TouchFrame} {proposed : UInt8 → Option ActiveContact}
    (hproposed : ∀ id, (proposed id).isSome = frame.lists id) {t : TouchInjector} (h : t.Sound)
    (hroom : pointers (fun id => (t.active id).isSome || frame.touches id) ≤ MAX_CONTACTS) (answers : List Answer) :
    (finish os_error frame proposed answers t).2.Sound ∧
    ((finish os_error frame proposed answers t).1 = .finished (.ok ()) →
      ∀ id, ((finish os_error frame proposed answers t).2.active id).isSome = frame.touches id) := by
  have hrest : ∀ id, id ∉ (transitions frame proposed t).map POINTER_TOUCH_INFO.pointerId →
      frame.touches id = (t.active id).isSome := by
    intro id hid
    rw [mem_transitions frame hproposed, Bool.not_eq_true, Bool.or_eq_false_iff] at hid
    rw [hid.1, hid.2]
  have hsettled : ∀ calls, (∀ id, down_after id calls = some (frame.touches id)) → (∀ call ∈ calls, Listed call.contacts) →
      ({ t with calls := calls }.settle frame proposed).Sound := by
    intro calls hcycles hcalls
    obtain ⟨hactive, hcount, hlog⟩ := settle_spec frame hproposed { t with calls := calls }
    refine ⟨⟨fun id => ?_, hlog ▸ hcalls⟩, ?_, hcount ▸ touches_few frame⟩
    · rw [hlog, hactive]
      exact hcycles id
    · rw [hcount]
      exact congrArg pointers (funext fun id => (hactive id).symm)
  unfold finish
  by_cases hempty : (transitions frame proposed t).isEmpty = true
  · rw [if_pos hempty]
    have hnone : transitions frame proposed t = [] := List.isEmpty_iff.mp hempty
    exact ⟨hsettled t.calls (fun id => by rw [hrest id (by rw [hnone]; exact List.not_mem_nil)]; exact h.cycles id) h.listed,
      fun _ => (settle_spec frame hproposed t).1⟩
  · rw [if_neg hempty]
    obtain ⟨⟨calls, heq, hcalls⟩, hok, hfailed⟩ := inject_retry_spec os_error h.toFaithful
      (transitions_listed frame hproposed hroom) frame.touches (fun _ hinfo => transitions_moves frame hinfo)
      hrest answers
    have hkept : (inject_retry os_error (transitions frame proposed t) answers t).1 ≠ .finished (.ok ()) →
        (inject_retry os_error (transitions frame proposed t) answers t).2.Sound := fun hne => by
      rw [heq] at hfailed ⊢
      exact ⟨⟨hfailed hne, hcalls⟩, h.count, h.few⟩
    rcases hinjected : inject_retry os_error (transitions frame proposed t) answers t with ⟨result, t'⟩
    rw [hinjected] at hok heq hkept
    rcases result with (_ | ⟨⟩) | _
    · exact ⟨hkept (by simp), fun hok' => by cases hok'⟩
    · obtain rfl : t' = { t with calls := calls } := heq
      exact ⟨hsettled calls (hok rfl) hcalls, fun _ => (settle_spec frame hproposed _).1⟩
    · exact ⟨hkept (by simp), fun hok' => by cases hok'⟩

/-! ## Runs -/

variable (contact_state) in
/-- The frames whose handling keeps to the protocol. A frame that starts a session lifts everything, so it must not
touch; an UP that moved its pointer, once its update is delivered, must list exactly the pointers that are down; and
any other frame must fit into one call together with the pointers that are down. -/
def Steady (frame : TouchFrame) (w : Windows) (t : TouchInjector) : Prop :=
  if frame.session_start then
    frame.locked = true → frame.action ≠ ACTION_CANCEL → (t.active_count = 0 ∨ delivers w.transition = true) →
      ∀ id, frame.touches id = false
  else if frame.action = ACTION_CANCEL ∨ frame.locked = false then True
  else if frame.action = ACTION_HEARTBEAT ∧ frame.contacts.items = [] then True
  else if moved frame (propose contact_state frame t.target) t then
    delivers w.update = true → ∀ id, (t.active id).isSome = frame.lists id
  else pointers (fun id => (t.active id).isSome || frame.touches id) ≤ MAX_CONTACTS

theorem cancel_all_ok {t : TouchInjector} {answers : List Answer}
    (h : (cancel_all os_error answers t).1 = .finished (.ok ())) : t.active_count = 0 ∨ delivers answers = true := by
  unfold cancel_all at h
  split_ifs at h with hzero
  · exact .inl hzero
  · right
    rw [← inject_retry_ok os_error (lift_all t.active) answers t]
    rcases hinjected : inject_retry os_error (lift_all t.active) answers t with ⟨result, t'⟩
    rw [hinjected] at h
    rcases result with (_ | ⟨⟩) | _
    · cases h
    · rfl
    · cases h

theorem refresh_ok {t t' : TouchInjector} {answer : Except IoError TouchTarget} (h : t.refresh answer = .ok t') :
    t' = t ∨ t.active_count = 0 ∧ ∃ target, t' = { t with target := target } := by
  unfold refresh at h
  split_ifs at h with hzero
  · cases answer with
    | error e => cases h
    | ok target =>
      cases h
      exact .inr ⟨hzero, target, rfl⟩
  · cases h
    exact .inl rfl

theorem moved_active {frame : TouchFrame} {proposed : UInt8 → Option ActiveContact} {t : TouchInjector}
    (h : moved frame proposed t = true) : (t.active frame.action_pointer_id).isSome = true := by
  unfold moved at h
  cases hactive : t.active frame.action_pointer_id with
  | none => rw [hactive] at h; simp at h
  | some previous => rfl

/-- An UP that moved, of a frame that lists the pointers that are down. -/
theorem finish_moved {frame : TouchFrame} {t : TouchInjector} (h : t.Sound)
    (hsame : ∀ id, (t.active id).isSome = frame.lists id) (answers : List Answer) :
    let proposed := propose contact_state frame t.target
    let t' := { t with active := proposed, active_count := count_active proposed }
    (finish os_error frame proposed answers t').2.Sound ∧
    ((finish os_error frame proposed answers t').1 = .finished (.ok ()) →
      ∀ id, ((finish os_error frame proposed answers t').2.active id).isSome = frame.touches id) := by
  have hproposed := propose_isSome contact_state frame t.target
  have hfew : pointers frame.lists ≤ MAX_CONTACTS := by
    refine (pointers_le_length fun id hid => TouchFrame.lists_iff.mp hid).trans ?_
    rw [List.length_map]
    exact frame.contacts.bounded
  have hcount : count_active (propose contact_state frame t.target) = pointers frame.lists :=
    congrArg pointers (funext hproposed)
  refine finish_sound (t := { t with
    active := propose contact_state frame t.target
    active_count := count_active (propose contact_state frame t.target) }) hproposed
    ⟨⟨fun id => ?_, h.listed⟩, rfl, hcount.le.trans hfew⟩ ?_ answers
  · rw [h.cycles, hsame]
    exact congrArg some (hproposed id).symm
  · refine (pointers_mono fun id hid => ?_).trans hfew
    rcases Bool.or_eq_true_iff.mp hid with hid | hid
    · exact (hproposed id).symm.trans hid
    · exact TouchFrame.touches_lists hid

variable (os_error) in
/-- A frame past the guards. -/
theorem follow_sound {frame : TouchFrame} {w : Windows} {t : TouchInjector} (h : t.Sound)
    (hsteady : if moved frame (propose contact_state frame t.target) t then
      delivers w.update = true → ∀ id, (t.active id).isSome = frame.lists id
      else pointers (fun id => (t.active id).isSome || frame.touches id) ≤ MAX_CONTACTS) :
    let followed : Loop (Except IoError Unit) × TouchInjector :=
      if moved frame (propose contact_state frame t.target) t then
        match inject_retry os_error (fill_update_contacts t.active (propose contact_state frame t.target)) w.update t with
        | (.finished (.ok ()), t') =>
          finish os_error frame (propose contact_state frame t.target) w.transition
            { t' with
              active := propose contact_state frame t.target
              active_count := count_active (propose contact_state frame t.target) }
        | (result, t') => (result, t')
      else finish os_error frame (propose contact_state frame t.target) w.transition t
    followed.2.Sound ∧
      (followed.1 = .finished (.ok ()) → ∀ id, (followed.2.active id).isSome = frame.touches id) := by
  by_cases hmoved : moved frame (propose contact_state frame t.target) t = true
  · rw [if_pos hmoved] at hsteady
    simp only [if_pos hmoved]
    obtain ⟨calls, heq, hsound⟩ :=
      update_sound os_error h (propose contact_state frame t.target) w.update
    have hdelivers := inject_retry_ok os_error
      (fill_update_contacts t.active (propose contact_state frame t.target)) w.update t
    rcases hinjected : inject_retry os_error (fill_update_contacts t.active (propose contact_state frame t.target))
      w.update t with ⟨result, t'⟩
    rw [hinjected] at heq hdelivers
    obtain rfl : t' = { t with calls := calls } := heq
    rcases result with (_ | ⟨⟩) | _
    · exact ⟨hsound, fun hok => by cases hok⟩
    · exact finish_moved hsound (hsteady (hdelivers.mp rfl)) w.transition
    · exact ⟨hsound, fun hok => by cases hok⟩
  · rw [if_neg hmoved] at hsteady
    simp only [if_neg hmoved]
    exact finish_sound (propose_isSome contact_state frame t.target) h hsteady w.transition

/-- One frame: the protocol is kept, and a frame that was applied has left exactly its touching contacts down. -/
theorem accept_sound {frame : TouchFrame} {w : Windows} {t : TouchInjector} (h : t.Sound)
    (hsteady : Steady contact_state frame w t) :
    (accept os_error contact_state frame w t).2.Sound ∧
    (frame.locked = true → frame.action ≠ ACTION_CANCEL → frame.contacts.items ≠ [] →
      (accept os_error contact_state frame w t).1 = .finished (.ok ()) →
      ∀ id, ((accept os_error contact_state frame w t).2.active id).isSome = frame.touches id) := by
  unfold accept
  unfold Steady at hsteady
  by_cases hstart : frame.session_start = true
  · rw [if_pos hstart] at hsteady
    rw [if_pos (by rw [hstart]; rfl)]
    obtain ⟨hsound, hlifted⟩ := cancel_all_sound os_error h w.transition
    exact ⟨hsound, fun hlocked haction _ hok id =>
      (hlifted hok id).trans (hsteady hlocked haction (cancel_all_ok hok) id).symm⟩
  · rw [if_neg hstart] at hsteady
    by_cases hcancel : frame.action = ACTION_CANCEL ∨ frame.locked = false
    · rw [if_pos (by rcases hcancel with h | h <;> simp [h])]
      refine ⟨(cancel_all_sound os_error h w.transition).1, fun hlocked haction => ?_⟩
      rcases hcancel with hcancel | hcancel
      · exact absurd hcancel haction
      · rw [hcancel] at hlocked
        cases hlocked
    · rw [if_neg hcancel] at hsteady
      obtain ⟨haction, hlocked⟩ := not_or.mp hcancel
      rw [if_neg (by simp [hstart, haction, hlocked])]
      by_cases hempty : frame.action = ACTION_HEARTBEAT ∧ frame.contacts.items = []
      · rw [if_pos (by simp [hempty.1, hempty.2])]
        refine ⟨?_, fun _ _ hnonempty => absurd hempty.2 hnonempty⟩
        obtain ⟨calls, heq, hsound⟩ := update_sound os_error h t.active w.update
        dsimp only
        split_ifs
        · exact h
        · rw [heq]
          exact hsound
      · rw [if_neg hempty] at hsteady
        rw [if_neg (by simpa using hempty)]
        cases hrefreshed : t.refresh w.refresh with
        | error e => exact ⟨h, fun _ _ _ hok => by cases hok⟩
        | ok t' =>
          dsimp only
          suffices hfollow : t'.Sound ∧ if moved frame (propose contact_state frame t'.target) t' then
              delivers w.update = true → ∀ id, (t'.active id).isSome = frame.lists id
              else pointers (fun id => (t'.active id).isSome || frame.touches id) ≤ MAX_CONTACTS by
            obtain ⟨hsound, hfollowed⟩ := follow_sound os_error hfollow.1 hfollow.2
            exact ⟨hsound, fun _ _ _ => hfollowed⟩
          rcases refresh_ok hrefreshed with rfl | ⟨hzero, target, rfl⟩
          · exact ⟨h, hsteady⟩
          · -- with no pointer down nothing has moved
            have hnone := active_none h hzero
            have hstill : ∀ target', moved frame (propose contact_state frame target') t ≠ true := fun target' hmoved => by
              have hdown := moved_active hmoved
              rw [hnone] at hdown
              cases hdown
            rw [if_neg (hstill _)] at hsteady
            have hstill' : ¬ moved frame (propose contact_state frame ({ t with target := target } : TouchInjector).target)
                { t with target := target } = true := hstill target
            exact ⟨⟨⟨h.cycles, h.listed⟩, h.count, h.few⟩, by rw [if_neg hstill']; exact hsteady⟩

variable (os_error contact_state) in
/-- The states an injector reaches by calls that are steady. -/
inductive Reached (target : TouchTarget) : TouchInjector → Prop
  | new : Reached target (new target)
  | accept {t} (frame : TouchFrame) (w : Windows) : Reached target t → Steady contact_state frame w t →
      Reached target (t.accept os_error contact_state frame w).2
  | cancel_all {t} (answers : List Answer) : Reached target t → Reached target (t.cancel_all os_error answers).2

theorem new_sound (target : TouchTarget) : (new target).Sound where
  cycles := fun _ => rfl
  listed := fun _ h => absurd h List.not_mem_nil
  count := (List.countP_eq_zero.mpr fun _ _ => by simp [new]).symm
  few := Nat.zero_le _

theorem reached_sound {target : TouchTarget} {t : TouchInjector} (h : Reached os_error contact_state target t) :
    t.Sound := by
  induction h with
  | new => exact new_sound target
  | accept frame w _ hsteady ih => exact (accept_sound ih hsteady).1
  | cancel_all answers _ ih => exact (cancel_all_sound os_error ih answers).1

variable (os_error contact_state) in
/-- Along steady calls Windows sees cycles of DOWN, UPDATEs and UP, short calls without repetitions, and a table that is
the set of pointers down; and a frame that was applied has left exactly its touching contacts down. -/
theorem injection_protocol {target : TouchTarget} {t : TouchInjector} (h : Reached os_error contact_state target t) :
    t.Faithful ∧ ∀ frame w, Steady contact_state frame w t → frame.locked = true → frame.action ≠ ACTION_CANCEL →
      frame.contacts.items ≠ [] → (accept os_error contact_state frame w t).1 = .finished (.ok ()) →
      ∀ id, down_after id (accept os_error contact_state frame w t).2.calls = some (frame.touches id) := by
  have hsound := reached_sound h
  refine ⟨hsound.toFaithful, fun frame w hsteady hlocked haction hnonempty hok id => ?_⟩
  obtain ⟨hafter, htouches⟩ := accept_sound hsound hsteady
  rw [hafter.cycles, htouches hlocked haction hnonempty hok]

/-- A locked frame about pointer 1 with nothing but its contacts set. -/
def benchFrame (action : UInt8) (contacts : Contacts) : TouchFrame where
  session_id := 1
  sequence := 1
  phone_event_nanos := 0
  phone_callback_nanos := 0
  phone_send_nanos := 0
  echo_host_send_nanos := 0
  phone_control_receive_nanos := 0
  action := action
  action_pointer_id := 1
  flags := FRAME_FLAG_LOCKED
  contacts := contacts

def benchContact (pointer_id flags : UInt8) (x : Int) : Contact := ⟨pointer_id, flags, x, 0, 0, 0⟩

/-- Pointer 1 comes down. -/
def benchDown : TouchFrame := benchFrame ACTION_DOWN ⟨[benchContact 1 CONTACT_FLAG_TIP 0], by decide, by decide⟩

/-- Pointer 1 goes up elsewhere, beside a pointer 2 that no frame has shown before. -/
def benchUp : TouchFrame :=
  benchFrame ACTION_UP ⟨[benchContact 1 0 5, benchContact 2 CONTACT_FLAG_TIP 9], by decide, by decide⟩

def benchState (_ : TouchTarget) (c : Contact) : ActiveContact := ⟨⟨c.x, c.y⟩, c.pressure, 2⟩

def benchWindows : Windows := ⟨.ok ⟨0, 0, 100, 100⟩, [.delivered], [.delivered]⟩

/-- Pointers 1 and 2 come down. -/
def benchBoth : TouchFrame :=
  benchFrame ACTION_DOWN ⟨[benchContact 1 CONTACT_FLAG_TIP 0, benchContact 2 CONTACT_FLAG_TIP 3], by decide, by decide⟩

/-- An injector that was given `benchBoth`. -/
def benchHeld : TouchInjector :=
  (accept (fun _ => .other "refused") benchState benchBoth benchWindows (new ⟨0, 0, 1, 1⟩)).2

theorem benchHeld_reached : Reached (fun _ => .other "refused") benchState ⟨0, 0, 1, 1⟩ benchHeld :=
  .accept benchBoth benchWindows .new (by
    unfold Steady
    rw [if_neg (by decide), if_neg (by decide), if_neg (by decide), if_neg (by decide)]
    decide +kernel)

/-- Where both are down, the frame lists just these. -/
theorem benchUp_steady : Steady benchState benchUp benchWindows benchHeld := by
  unfold Steady
  rw [if_neg (by decide), if_neg (by decide), if_neg (by decide), if_pos (by decide +kernel)]
  have hall : ∀ id ∈ POINTER_IDS, (benchHeld.active id).isSome = benchUp.lists id := by decide +kernel
  exact fun _ id => hall id (mem_pointer_ids id)

/-- Two pointers come down; one goes up elsewhere, after an update of both, and the other stays. -/
theorem injection_protocol_up :
    let up := accept (fun _ => .other "refused") benchState benchUp benchWindows benchHeld
    up.1 = .finished (.ok ()) ∧ up.2.calls.length = 3 ∧ up.2.Faithful ∧
      down_after 1 up.2.calls = some false ∧ down_after 2 up.2.calls = some true := by
  have hups := (injection_protocol _ benchState benchHeld_reached).2 benchUp benchWindows benchUp_steady rfl
    (by decide) (by decide) rfl
  exact ⟨rfl, rfl, (injection_protocol _ benchState (.accept benchUp benchWindows benchHeld_reached benchUp_steady)).1,
    hups 1, hups 2⟩

/-- Both frames are applied, and Windows was told to move pointer 2, which never came down. -/
theorem injection_protocol_broken :
    let down := accept (fun _ => .other "refused") benchState benchDown benchWindows (new ⟨0, 0, 1, 1⟩)
    let up := accept (fun _ => .other "refused") benchState benchUp benchWindows down.2
    down.1 = .finished (.ok ()) ∧ up.1 = .finished (.ok ()) ∧ down_after 2 up.2.calls = none :=
  ⟨rfl, rfl, rfl⟩

end TouchInjector

end Trackpad
