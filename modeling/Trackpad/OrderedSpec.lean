import Trackpad.Ordered
/-!
# The receive window loses nothing

A slot belongs to one sequence number of the window at a time. `Kept` ties the slots, the moving window and the
frames that were pushed inside it; every operation of a session keeps it.
-/

namespace Trackpad.OrderedFrames

def InWindow (o : OrderedFrames) (sequence : Nat) : Prop :=
  o.next_sequence ≤ sequence ∧ sequence < o.next_sequence + MAX_REORDERED_FRAMES

instance (o : OrderedFrames) (sequence : Nat) : Decidable (o.InWindow sequence) := inferInstanceAs (Decidable (_ ∧ _))

/-- The first of `frames` with this sequence number. -/
def copy (frames : List TouchFrame) (sequence : Nat) : Option TouchFrame := frames.find? (·.sequence = sequence)

theorem copy_none {frames : List TouchFrame} {sequence : Nat} :
    copy frames sequence = none ↔ ∀ frame ∈ frames, frame.sequence ≠ sequence := by
  simp [copy]

theorem copy_some {frames : List TouchFrame} {sequence : Nat} {frame : TouchFrame}
    (h : copy frames sequence = some frame) : frame ∈ frames ∧ frame.sequence = sequence :=
  ⟨List.mem_of_find?_eq_some h, by simpa using List.find?_some h⟩

theorem copy_append (frames : List TouchFrame) (frame : TouchFrame) (sequence : Nat) :
    copy (frames ++ [frame]) sequence =
      (copy frames sequence).or (if frame.sequence = sequence then some frame else none) := by
  simp [copy, List.find?_append, List.find?_cons]
  split <;> simp_all

/-- The largest sequence number the session may reach: `u64::MAX - 256`. -/
def LAST_SEQUENCE : Nat := 2 ^ 64 - 1 - MAX_REORDERED_FRAMES

/-- A session of `first`, with the frames that were pushed while inside the window, in order. -/
inductive Session (first : TouchFrame) : OrderedFrames → List TouchFrame → Prop
  | begin : Session first (begin_session first) []
  | push {o : OrderedFrames} {pushed : List TouchFrame} (frame : TouchFrame) : Session first o pushed →
      frame.session_id = first.session_id → frame.sequence < LAST_SEQUENCE →
      Session first (o.push frame) (if o.InWindow frame.sequence then pushed ++ [frame] else pushed)
  | commit {o : OrderedFrames} {pushed : List TouchFrame} : Session first o pushed →
      Session first o.commit_ready.2 pushed

/-- Slot `n % 256` holds the first copy of `n` for each `n` of the window, and nothing was lost below it. -/
structure Kept (first : TouchFrame) (o : OrderedFrames) (pushed : List TouchFrame) : Prop where
  session : o.session_id = some first.session_id
  started : o.requires_session_start = false
  first_le : first.sequence ≤ o.next_sequence
  next_le : o.next_sequence ≤ LAST_SEQUENCE
  slots : ∀ n, o.InWindow n → o.buffered (slot n) = copy pushed n
  frames : ∀ frame ∈ pushed, frame.session_id = first.session_id ∧ frame.sequence < LAST_SEQUENCE ∧
    frame.sequence < o.next_sequence + MAX_REORDERED_FRAMES
  below : ∀ n, first.sequence ≤ n → n < o.next_sequence → ∃ frame ∈ pushed, frame.sequence = n

/-- Every slot belongs to one sequence number of the window. -/
theorem slot_owner (o : OrderedFrames) (i : Fin MAX_REORDERED_FRAMES) : ∃ n, o.InWindow n ∧ slot n = i := by
  have hi := i.2
  refine ⟨o.next_sequence + (i.1 + MAX_REORDERED_FRAMES - o.next_sequence % MAX_REORDERED_FRAMES) % MAX_REORDERED_FRAMES,
    ⟨?_, ?_⟩, Fin.ext ?_⟩
  · omega
  · have := Nat.mod_lt (i.1 + MAX_REORDERED_FRAMES - o.next_sequence % MAX_REORDERED_FRAMES) (y := MAX_REORDERED_FRAMES)
      (by decide)
    omega
  · simp only [slot, MAX_REORDERED_FRAMES] at hi ⊢
    omega

theorem slot_inj {o : OrderedFrames} {m n : Nat} (hm : o.InWindow m) (hn : o.InWindow n) (h : slot m = slot n) : m = n := by
  have hmod : m % MAX_REORDERED_FRAMES = n % MAX_REORDERED_FRAMES := congrArg Fin.val h
  obtain ⟨h1, h2⟩ := hm
  obtain ⟨h3, h4⟩ := hn
  simp only [MAX_REORDERED_FRAMES] at *
  omega

variable {first : TouchFrame} {o : OrderedFrames} {pushed : List TouchFrame}

theorem kept_begin (hfirst : first.sequence < LAST_SEQUENCE) : Kept first (begin_session first) [] where
  session := rfl
  started := rfl
  first_le := Nat.le_refl _
  next_le := Nat.le_of_lt hfirst
  slots _ _ := rfl
  frames _ h := absurd h List.not_mem_nil
  below _ h1 h2 := absurd h2 (Nat.not_lt.2 h1)

/-- A frame of the session only ever reaches its own slot. -/
theorem Kept.push (h : Kept first o pushed) {frame : TouchFrame} (hsession : frame.session_id = first.session_id)
    (hlast : frame.sequence < LAST_SEQUENCE) :
    Kept first (o.push frame) (if o.InWindow frame.sequence then pushed ++ [frame] else pushed) := by
  have hpush : o.push frame = o.buffer frame := by
    rw [OrderedFrames.push, h.started, h.session, hsession]
    simp
  rw [hpush]
  by_cases hin : o.InWindow frame.sequence
  · rw [if_pos hin]
    obtain ⟨hlow, hhigh⟩ := hin
    have hown := h.slots _ ⟨hlow, hhigh⟩
    have hbuffer : o.buffer frame = { o with
        buffered := Function.update o.buffered (slot frame.sequence) ((copy pushed frame.sequence).or (some frame)) } := by
      rw [buffer, if_neg (by omega), if_neg (by omega), hown]
      cases hcopy : copy pushed frame.sequence with
      | none => rw [if_pos (by rfl)]; rfl
      | some g =>
        rw [if_neg (by simp)]
        simp only [Option.some_or]
        rw [← hcopy, ← hown, Function.update_eq_self]
    rw [hbuffer]
    refine ⟨h.session, h.started, h.first_le, h.next_le, ?_, ?_, ?_⟩
    · intro n hn
      rw [copy_append]
      by_cases hsame : frame.sequence = n
      · subst hsame
        rw [if_pos rfl]
        exact Function.update_self _ _ _
      · rw [if_neg hsame, Option.or_none]
        refine Eq.trans ?_ (h.slots n hn)
        exact Function.update_of_ne (fun hslot => hsame (slot_inj ⟨hlow, hhigh⟩ hn hslot.symm)) _ _
    · intro g hg
      rcases List.mem_append.1 hg with hg | hg
      · exact h.frames g hg
      · rw [List.mem_singleton.1 hg]
        exact ⟨hsession, hlast, hhigh⟩
    · intro n h1 h2
      obtain ⟨g, hg, hgn⟩ := h.below n h1 h2
      exact ⟨g, List.mem_append_left _ hg, hgn⟩
  · rw [if_neg hin]
    have hbuffer : o.buffer frame = o := by
      rw [buffer]
      split
      · rfl
      · rw [if_pos]
        by_contra hnear
        exact hin ⟨by omega, by omega⟩
    rw [hbuffer]
    exact h

/-- The slot of the next frame is its own. -/
theorem Kept.ready (h : Kept first o pushed) :
    o.buffered (slot o.next_sequence) = copy pushed o.next_sequence ∧ o.next_ready = copy pushed o.next_sequence := by
  have hslot := h.slots o.next_sequence ⟨Nat.le_refl _, Nat.lt_add_of_pos_right (by decide)⟩
  refine ⟨hslot, ?_⟩
  rw [next_ready, hslot]
  cases hcopy : copy pushed o.next_sequence with
  | none => rfl
  | some frame => simp [(copy_some hcopy).2]

/-- The slot a commit empties is that of the sequence number that enters the window. -/
theorem Kept.commit (h : Kept first o pushed) : Kept first o.commit_ready.2 pushed := by
  cases hcopy : copy pushed o.next_sequence with
  | none =>
    rw [commit_ready, h.ready.1, hcopy]
    exact h
  | some frame =>
    obtain ⟨hmem, hsequence⟩ := copy_some hcopy
    have hlast := (h.frames frame hmem).2.1
    rw [hsequence] at hlast
    have hnext : (o.next_sequence + 1) % 2 ^ 64 = o.next_sequence + 1 := by
      refine Nat.mod_eq_of_lt ?_
      simp only [LAST_SEQUENCE, MAX_REORDERED_FRAMES] at hlast
      omega
    rw [commit_ready_some (h.ready.2.trans hcopy), committed]
    simp only [hnext]
    refine ⟨h.session, h.started, Nat.le_succ_of_le h.first_le, hlast, ?_, ?_, ?_⟩
    · rintro n ⟨h1, h2⟩
      simp only at h1 h2 ⊢
      by_cases hnew : n = o.next_sequence + MAX_REORDERED_FRAMES
      · have hslot : slot n = slot o.next_sequence := by
          rw [hnew]
          exact Fin.ext (Nat.add_mod_right _ _)
        rw [hslot, Function.update_self]
        refine (copy_none.2 fun g hg hgn => ?_).symm
        have := (h.frames g hg).2.2
        omega
      · have hin : o.InWindow n := ⟨by omega, by omega⟩
        rw [Function.update_of_ne]
        · exact h.slots n hin
        · intro hslot
          have := slot_inj hin ⟨Nat.le_refl _, Nat.lt_add_of_pos_right (by decide)⟩ hslot
          omega
    · intro g hg
      obtain ⟨h1, h2, h3⟩ := h.frames g hg
      exact ⟨h1, h2, by simp only; omega⟩
    · intro n h1 h2
      by_cases hlt : n < o.next_sequence
      · exact h.below n h1 hlt
      · simp only at h2
        exact ⟨frame, hmem, by omega⟩

theorem Session.kept (hfirst : first.sequence < LAST_SEQUENCE) (h : Session first o pushed) : Kept first o pushed := by
  induction h with
  | begin => exact kept_begin hfirst
  | push frame _ hsession hlast ih => exact ih.push hsession hlast
  | commit _ ih => exact ih.commit

/-! ## Draining -/

/-- Commits while the next frame is ready. -/
def commit_all (o : OrderedFrames) : OrderedFrames :=
  if o.next_ready.isSome then commit_all o.commit_ready.2 else o
termination_by o.waiting
decreasing_by
  rename_i hready
  obtain ⟨frame, hframe⟩ := Option.isSome_iff_exists.1 hready
  rw [commit_ready_some hframe]
  exact Nat.lt_of_succ_le (Nat.le_of_eq (waiting_committed hframe))

theorem commit_all_stops (o : OrderedFrames) : o.commit_all.next_ready = none := by
  fun_induction commit_all o with
  | case1 o _ ih => exact ih
  | case2 o hready => simpa using hready

theorem Kept.commit_all (h : Kept first o pushed) : Kept first o.commit_all pushed := by
  fun_induction OrderedFrames.commit_all o with
  | case1 o _ ih => exact ih h.commit
  | case2 o _ => exact h

/-- Where no commit is possible, the next frame is the first one that was never pushed inside the window. -/
theorem Kept.least (h : Kept first o pushed) (hstop : o.next_ready = none) :
    IsLeast {n | first.sequence ≤ n ∧ ∀ frame ∈ pushed, frame.sequence ≠ n} o.next_sequence := by
  refine ⟨⟨h.first_le, copy_none.1 (h.ready.2.symm.trans hstop)⟩, ?_⟩
  rintro n ⟨hn, hnever⟩
  by_contra hlt
  obtain ⟨frame, hmem, hsequence⟩ := h.below n hn (Nat.lt_of_not_le hlt)
  exact hnever frame hmem hsequence

/-- The window of a session is complete: each slot holds a frame of its own sequence number, a frame pushed inside the
window stays until it is committed (the first copy of it), the next frame is ready exactly when it was pushed, and
committing what is ready stops at the first sequence number that was never pushed. -/
theorem window_complete (hfirst : first.sequence < LAST_SEQUENCE) (h : Session first o pushed) :
    (∀ i frame, o.buffered i = some frame →
      frame.session_id = first.session_id ∧ slot frame.sequence = i ∧ o.InWindow frame.sequence) ∧
    (∀ frame ∈ pushed, o.next_sequence ≤ frame.sequence →
      ∃ kept, copy pushed frame.sequence = some kept ∧ o.buffered (slot frame.sequence) = some kept) ∧
    o.next_ready = copy pushed o.next_sequence ∧
    o.commit_all.next_ready = none ∧
    IsLeast {n | first.sequence ≤ n ∧ ∀ frame ∈ pushed, frame.sequence ≠ n} o.commit_all.next_sequence := by
  have hkept := h.kept hfirst
  refine ⟨fun i frame hi => ?_, fun frame hmem hnext => ?_, hkept.ready.2, commit_all_stops o,
    hkept.commit_all.least (commit_all_stops o)⟩
  · obtain ⟨n, hin, rfl⟩ := slot_owner o i
    rw [hkept.slots n hin] at hi
    obtain ⟨hmem, rfl⟩ := copy_some hi
    exact ⟨(hkept.frames frame hmem).1, rfl, hin⟩
  · cases hcopy : copy pushed frame.sequence with
    | none => exact absurd rfl (copy_none.1 hcopy frame hmem)
    | some kept => exact ⟨kept, rfl, (hkept.slots _ ⟨hnext, (hkept.frames frame hmem).2.2⟩).trans hcopy⟩

def numbered (sequence : Nat) : TouchFrame where
  session_id := 1
  sequence := sequence
  phone_event_nanos := 0
  phone_callback_nanos := 0
  phone_send_nanos := 0
  echo_host_send_nanos := 0
  phone_control_receive_nanos := 0
  action := ACTION_MOVE
  action_pointer_id := 0
  flags := FRAME_FLAG_LOCKED
  contacts := Contacts.empty

/-- A session that starts in the middle of the phone's numbering, with frame 7 ahead of frame 6. -/
def gapAtSix : OrderedFrames := ((begin_session (numbered 5)).push (numbered 5)).push (numbered 7)

theorem window_complete_gap :
    IsLeast {n | 5 ≤ n ∧ ∀ frame ∈ [numbered 5, numbered 7], frame.sequence ≠ n} gapAtSix.commit_all.next_sequence := by
  have h5 : Session (numbered 5) ((begin_session (numbered 5)).push (numbered 5)) [numbered 5] :=
    .push (numbered 5) .begin rfl (by decide)
  have h7 : Session (numbered 5) gapAtSix [numbered 5, numbered 7] := .push (numbered 7) h5 rfl (by decide)
  exact (window_complete (by decide) h7).2.2.2.2

end Trackpad.OrderedFrames
