import Trackpad.Keyboard.Owed
import Trackpad.Keyboard.LinuxSpec
/-!
# Retrying a write that was cut short

The uinput sink insists that a retry start with the change it has not synced, and a spaced flush
starts with the oldest edge that is due. A retry on a device that takes everything completes
exactly when these agree.
-/
open Edges

namespace Trackpad.Keyboard.Linux

variable {L : Nat}

/-! ## One flush -/

/-- Whatever the sink has not synced is still queued and ready. -/
def Resumable (queue : List (ScheduledEdge L)) (pending : Option (PendingWrite L)) (t : Nat) : Prop :=
  ∀ p, pending = some p → ∃ c ahead edge behind, p = .Change c ∧ Owes queue ahead behind edge c t

theorem resumable_none (queue : List (ScheduledEdge L)) (t : Nat) : Resumable queue none t := by
  intro p hp
  cases hp

theorem resumable_later {queue : List (ScheduledEdge L)} {pending : Option (PendingWrite L)} {t now : Nat}
    (h : Resumable queue pending t) (ht : t ≤ now) : Resumable queue pending now := by
  intro p hp
  obtain ⟨c, ahead, edge, behind, hc, ho⟩ := h p hp
  exact ⟨c, ahead, edge, behind, hc, { ho with due := ho.due.trans ht }⟩

/-- Nothing is pending behind a flush that selects nothing. -/
theorem resumable_settled {queue : List (ScheduledEdge L)} {pending : Option (PendingWrite L)} {t now : Nat}
    (h : Resumable queue pending t) (ht : t ≤ now) (hnil : selected (select now Marks.clear queue) = []) :
    pending = none := by
  cases pending with
  | none => rfl
  | some p =>
    obtain ⟨c, ahead, edge, behind, -, ho⟩ := h p rfl
    exact absurd hnil (owes_selected ho ht)

/-- The edge a short write stopped at is ready at once: a gap restarted by its own flush would have
kept it out of the batch. -/
theorem restart_due {s : RepressSpacer L} (hg : Gapped s) {now n : Nat} {edge : ScheduledEdge L}
    (h : (selected (select now Marks.clear s.queue))[n]? = some edge) :
    (RepressSpacer.restart_gap s.gap now
      (RepressSpacer.note_emitted now s.last_emitted ((selected (select now Marks.clear s.queue)).take n)) edge).due ≤ now := by
  obtain ⟨ahead, behind, ho, -, -, hs⟩ := retain_owes h
  unfold RepressSpacer.restart_gap
  split
  · rename_i hrestart
    simp only [Bool.and_eq_true] at hrestart
    obtain ⟨hsp, hany⟩ := hrestart
    obtain ⟨-, hother⟩ := hs hsp
    rw [note_emitted_other hother, Option.any_eq_true] at hany
    obtain ⟨p, hp, hat⟩ := hany
    have holdest : s.queue.find? (·.change.lane = edge.change.lane) = some edge := by
      have hnone : ∀ x ∈ emitted (outcome n (select now Marks.clear s.queue)), x.change.lane ≠ edge.change.lane := by
        rw [outcome_emitted]; exact hother
      have hk := oldest_kept (select_no_overtaking now n Marks.clear s.queue) hnone
      rw [outcome_edges, select_edges, outcome_kept, ho.queue] at hk
      rw [hk, List.find?_append, List.find?_eq_none.2 (by simpa using ho.lanes)]
      simp
    have hdue := hg _ _ _ holdest hsp hp
    simp only [decide_eq_true_eq] at hat
    have := ho.due
    exact max_le ho.due (by omega)
  · exact ho.due

theorem flush_resumable {spacer : RepressSpacer L} {now t : Nat} {sink : Uinput L} (pressed : Fin L → Bool)
    (hg : Gapped spacer) (hres : Resumable spacer.queue sink.pending t) (ht : t ≤ now) :
    Gapped (spacer.flush now sink pressed).2.1 ∧
    Resumable (spacer.flush now sink pressed).2.1.queue (spacer.flush now sink pressed).2.2.1.pending now ∧
    ((spacer.flush now sink pressed).1 = .ok () → (spacer.flush now sink pressed).2.2.1.pending = none) := by
  unfold RepressSpacer.flush
  dsimp only
  split
  · rename_i hq
    exact ⟨hg, resumable_later hres ht, fun _ => resumable_settled hres ht (by simp [hq, select, selected])⟩
  · split
    · rename_i hbatch
      rw [List.map_eq_nil_iff] at hbatch
      exact ⟨hg, resumable_later hres ht, fun _ => resumable_settled hres ht hbatch⟩
    · split
      · rename_i hs
        refine ⟨hg, ?_, fun h => by cases h⟩
        dsimp only
        rw [(submit_error hs).2]
        exact resumable_later hres ht
      · rename_i n sink' hs
        obtain ⟨hn, hbehind, -⟩ := submit_ok hs
        rw [if_neg (Nat.not_lt.2 hn)]
        have hg' := emit_gapped hg now n pressed
        have hres' : Resumable (spacer.emit now n pressed).1.queue sink'.pending now := by
          rcases hbehind with hp | ⟨c, hc, hp⟩
          · rw [hp]; exact resumable_none _ _
          · rw [List.getElem?_map, Option.map_eq_some_iff] at hc
            obtain ⟨edge, hedge, rfl⟩ := hc
            obtain ⟨ahead, behind, ho, -⟩ := retain_owes hedge
            rintro p hp'
            rw [hp] at hp'
            cases hp'
            exact ⟨_, _, _, _, rfl, ho.map (fun e => (restart_change _ _ _ e).1) (restart_due hg hedge)⟩
        split
        · exact ⟨hg', hres', fun h => by cases h⟩
        · rename_i hall
          refine ⟨hg', hres', fun _ => ?_⟩
          rw [not_not.1 hall] at hs
          exact submit_all hs

/-! ## Runs -/

theorem service_resumable {s s' : KeyboardSink (Uinput L) L} {spacer : RepressSpacer L} {now t : Nat}
    {r : Except IoError Unit} (hsp : s.spacer = some spacer) (hg : Gapped spacer)
    (hres : Resumable spacer.queue s.sink.pending t) (ht : t ≤ now) (hs : s.service_at now = (r, s')) :
    ∃ spacer', s'.spacer = some spacer' ∧ Gapped spacer' ∧ Resumable spacer'.queue s'.sink.pending now ∧
      (r = .ok () → s'.sink.pending = none) ∧ s'.pending = s.pending := by
  obtain ⟨h1, h2, h3⟩ := flush_resumable s.pressed hg hres ht
  unfold KeyboardSink.service_at at hs
  rw [hsp] at hs
  cases hs
  exact ⟨_, rfl, h1, h2, h3, rfl⟩

theorem enqueue_all_gapped {spacer : RepressSpacer L} (h : Gapped spacer) (changes : List (KeyChange L)) (now : Nat)
    (pressed : Fin L → Bool) : Gapped (changes.foldl (fun spacer c => spacer.enqueue c now (pressed c.lane)) spacer) := by
  induction changes generalizing spacer with
  | nil => exact h
  | cons c changes ih => exact ih (enqueue_gapped h c now _)

/-- The sink is done with `frame`, or has it in progress. -/
def Begun (s : KeyboardSink (Uinput L) L) (frame : TouchFrame) : Prop :=
  s.pending.sequence = none ∨
    s.pending.sequence = some frame.sequence ∧ KeyboardSink.is_empty_heartbeat frame = false

theorem Begun.sequence {s : KeyboardSink (Uinput L) L} {frame : TouchFrame} (h : Begun s frame) :
    s.pending.sequence = none ∨ s.pending.sequence = some frame.sequence := h.imp_right (·.1)

theorem queue_frame_spec (lane_for : Int → Fin L) (frame : TouchFrame) (now : Nat) {s : KeyboardSink (Uinput L) L}
    {spacer : RepressSpacer L} (hsp : s.spacer = some spacer) (hg : Gapped spacer)
    (hseq : s.pending.sequence = none ∨ s.pending.sequence = some frame.sequence) :
    ∃ spacer', (s.queue_frame lane_for frame now).spacer = some spacer' ∧ Gapped spacer' ∧
      (s.queue_frame lane_for frame now).sink = s.sink ∧
      (s.queue_frame lane_for frame now).pending.sequence = some frame.sequence := by
  have hbegin : ∃ u, (s.begin_frame lane_for frame).2 = u ∧ u.spacer = some spacer ∧ u.sink = s.sink ∧
      u.pending.sequence = some frame.sequence := by
    refine ⟨_, rfl, ?_⟩
    unfold KeyboardSink.begin_frame
    rcases hseq with hseq | hseq
    · simp [hseq, KeyboardSink.plan_pending, hsp]
    · simp [hseq, hsp]
  obtain ⟨u, hu, h1, h2, h3⟩ := hbegin
  unfold KeyboardSink.queue_frame
  simp only [hu, h1]
  exact ⟨_, rfl, enqueue_all_gapped hg _ _ _, h2, h3⟩

/-- What the sink looks like under each duty. -/
def Resuming (s : KeyboardSink (Uinput L) L) (d : Duty) (t : Nat) : Prop :=
  ∃ spacer, s.spacer = some spacer ∧ Gapped spacer ∧
    match d with
    | .free => s.pending.sequence = none ∧ Resumable spacer.queue s.sink.pending t
    | .retry frame => KeyboardSink.is_release frame = false ∧ Begun s frame ∧
        Resumable spacer.queue s.sink.pending t
    | .release => True

theorem release_gapped {s : KeyboardSink (Uinput L) L} {spacer : RepressSpacer L} (hsp : s.spacer = some spacer)
    (hg : Gapped spacer) (now : Nat) : ∃ spacer', (s.release_all now).2.spacer = some spacer' ∧ Gapped spacer' := by
  unfold KeyboardSink.release_all
  split
  · exact ⟨spacer, hsp, hg⟩
  · rename_i sink _
    have hb : ({ s with sink := sink } : KeyboardSink (Uinput L) L).begin_release.spacer = some { spacer with queue := [] } := by
      simp [KeyboardSink.begin_release, hsp]
    unfold KeyboardSink.release_all_with
    dsimp only
    split
    · exact ⟨_, hb, gapped_empty rfl⟩
    · split
      · exact ⟨_, hb, gapped_empty rfl⟩
      · rename_i accepted sink' _
        split
        · exact ⟨_, hb, gapped_empty rfl⟩
        · obtain ⟨spacer', h1, h2⟩ := foldl_released_spacer now
            (({ s with sink := sink } : KeyboardSink (Uinput L) L).begin_release.pending.changes.take accepted)
            (s := { ({ s with sink := sink } : KeyboardSink (Uinput L) L).begin_release with sink := sink' }) hb
          split
          · exact ⟨spacer', h1, gapped_empty h2⟩
          · exact ⟨spacer', h1, gapped_empty h2⟩

theorem resuming_step {lane_for : Int → Fin L} {s : KeyboardSink (Uinput L) L} {d : Duty} {t : Nat}
    (h : Resuming s d t) (c : Call) (hc : d.allows c) (ht : t ≤ c.now) :
    Resuming (c.exec lane_for s).2 (d.after c (c.exec lane_for s).1) c.now := by
  obtain ⟨spacer, hsp, hg, hd⟩ := h
  by_cases hrel : c.releases = true
  · rw [exec_release lane_for hrel]
    obtain ⟨spacer', h1, h2⟩ := release_gapped hsp hg c.now
    cases hr : s.release_all c.now with
    | mk r s' =>
      rw [hr] at h1
      cases r with
      | error e => rw [after_release_error d hrel]; exact ⟨spacer', h1, h2, trivial⟩
      | ok u =>
        rw [after_release_ok d hrel]
        refine ⟨spacer', h1, h2, (release_all_ok hr).pending, ?_⟩
        rw [release_all_settles hr]
        exact resumable_none _ _
  · cases c with
    | release_all now => exact absurd rfl hrel
    | service now =>
      cases hx : s.service_at now with
      | mk r s' =>
        have hexec : (Call.service now).exec lane_for s = (r, s') := hx
        rw [hexec]
        cases d with
        | release => exact absurd hc hrel
        | free =>
          obtain ⟨spacer', h1, h2, h3, -, h5⟩ := service_resumable hsp hg hd.2 ht hx
          exact ⟨spacer', h1, h2, by rw [h5]; exact hd.1, h3⟩
        | retry frame =>
          obtain ⟨spacer', h1, h2, h3, -, h5⟩ := service_resumable hsp hg hd.2.2 ht hx
          exact ⟨spacer', h1, h2, hd.1, by rw [Begun, h5]; exact hd.2.1, h3⟩
    | accept frame now =>
      have hr : KeyboardSink.is_release frame = false := by simpa [Call.releases] using hrel
      have hready : Begun s frame ∧ Resumable spacer.queue s.sink.pending t := by
        cases d with
        | release => exact absurd hc hrel
        | free => exact ⟨.inl hd.1, hd.2⟩
        | retry g =>
          have hg : frame = g := by
            rcases hc with h | ⟨_, h⟩ | ⟨_, h⟩
            · exact absurd h hrel
            · cases h; rfl
            · cases h
          exact hg ▸ hd.2
      obtain ⟨hbegun, hres⟩ := hready
      have hsteps := accept_steps lane_for now hr (by rw [hsp]; rfl) hbegun.sequence
      cases hx : (Call.accept frame now).exec lane_for s with
      | mk r s' =>
        have hx : s.accept_at lane_for frame now = (r, s') := hx
        rw [hx] at hsteps
        cases hsteps with
        | blocked h =>
          obtain ⟨spacer₁, h1, h2, h3, -, h5⟩ := service_resumable hsp hg hres ht h
          rw [after_accept_error d hr]
          exact ⟨spacer₁, h1, h2, hr, by rw [Begun, h5]; exact hbegun, h3⟩
        | heartbeat h he =>
          obtain ⟨spacer₁, h1, h2, h3, -, h5⟩ := service_resumable hsp hg hres ht h
          refine ⟨spacer₁, h1, h2, ?_, h3⟩
          rw [h5]
          exact hbegun.resolve_right fun hb => by rw [hb.2] at he; cases he
        | @partly s₁ e _ h he hq =>
          obtain ⟨spacer₁, h1, h2, -, h4, h5⟩ := service_resumable hsp hg hres ht h
          obtain ⟨spacer₂, h6, h7, h8, h9⟩ := queue_frame_spec lane_for frame now h1 h2 (h5 ▸ hbegun.sequence)
          obtain ⟨spacer₃, h10, h11, h12, -, h14⟩ := service_resumable (t := now) h6 h7
            (by rw [h8, h4 rfl]; exact resumable_none _ _) le_rfl hq
          rw [after_accept_error d hr]
          exact ⟨spacer₃, h10, h11, hr, .inr ⟨by rw [h14, h9], he⟩, h12⟩
        | @done s₁ s₂ h he hq =>
          obtain ⟨spacer₁, h1, h2, -, h4, h5⟩ := service_resumable hsp hg hres ht h
          obtain ⟨spacer₂, h6, h7, h8, h9⟩ := queue_frame_spec lane_for frame now h1 h2 (h5 ▸ hbegun.sequence)
          obtain ⟨spacer₃, h10, h11, h12, -, -⟩ := service_resumable (t := now) h6 h7
            (by rw [h8, h4 rfl]; exact resumable_none _ _) le_rfl hq
          exact ⟨spacer₃, h10, h11, rfl, h12⟩

theorem run_resuming {lane_for : Int → Fin L} {gap : Nat} {keycodes : Keycodes L}
    {answers : Nat → List InputEvent → Except IoError Nat} {s : KeyboardSink (Uinput L) L} {d : Duty} {t : Nat}
    (h : Run lane_for (some gap) (Uinput.new keycodes answers) s d t) : Resuming s d t := by
  induction h with
  | new => exact ⟨RepressSpacer.new L gap, rfl, gapped_empty rfl, rfl, resumable_none _ _⟩
  | call c _ hc ht ih => exact resuming_step ih c hc ht

/-! ## When a retry completes -/

/-- The changes a flush at `now` selects. -/
def due_changes (now : Nat) (s : KeyboardSink (Uinput L) L) : List (KeyChange L) :=
  waiting (selected (select now Marks.clear s.queue))

/-- A flush goes out whole: it returns `Ok`, leaves nothing unsynced, and delivers exactly the
selected changes, without the key event of one that was delivered before. -/
structure FlushCompletes (s : KeyboardSink (Uinput L) L) (now : Nat) : Prop where
  ok : (s.service_at now).1 = .ok ()
  synced : (s.service_at now).2.sink.pending = none
  delivered : (s.service_at now).2.sink.device.delivered = s.sink.device.delivered ++
    (Uinput.encode_changes s.sink.keycodes (due_changes now s)).drop (owed s.sink.pending).length

/-- A retry goes out whole. A retried frame flushes what is due before it and, once queued, what
is due of itself. -/
def Completes (lane_for : Int → Fin L) (s : KeyboardSink (Uinput L) L) : Call → Prop
  | .service now => FlushCompletes s now
  | .accept frame now =>
    let s₁ := (s.service_at now).2
    let s₂ := s₁.queue_frame lane_for frame now
    FlushCompletes s now ∧
      if KeyboardSink.is_empty_heartbeat frame then s.accept_at lane_for frame now = (.ok (), s₁)
      else FlushCompletes s₂ now ∧ s.accept_at lane_for frame now = (.ok (), (s₂.service_at now).2.commit_pending)
  | .release_all now => (s.release_all now).1 = .ok ()

/-- Nothing queued ahead of the unsynced change is ready at `now`: each such edge is not due yet,
waits behind one of its own lane, or is a release behind a press. -/
def Unblocked (s : KeyboardSink (Uinput L) L) (now : Nat) : Prop :=
  ∀ c, s.sink.pending = some (.Change c) → AllPassed now [] (s.queue.takeWhile (·.change.lane ≠ c.lane))

theorem flush_accepting {spacer : RepressSpacer L} {now : Nat} {sink : Uinput L} (pressed : Fin L → Bool)
    (hd : sink.device.Accepting)
    (hp : sink.pending = none ∨ ∃ c, sink.pending = some (.Change c) ∧
      (waiting (selected (select now Marks.clear spacer.queue))).head? = some c) :
    ∃ spacer' sink' pressed', spacer.flush now sink pressed = (.ok (), spacer', sink', pressed') ∧
      sink'.pending = none ∧ sink'.device.Accepting ∧ sink'.device.delivered = sink.device.delivered ++
        (Uinput.encode_changes sink.keycodes (waiting (selected (select now Marks.clear spacer.queue)))).drop
          (owed sink.pending).length := by
  have hidle : waiting (selected (select now Marks.clear spacer.queue)) = [] →
      sink.pending = none ∧ sink.device.delivered = sink.device.delivered ++
        (Uinput.encode_changes sink.keycodes (waiting (selected (select now Marks.clear spacer.queue)))).drop
          (owed sink.pending).length := by
    intro hnil
    rw [hnil] at hp ⊢
    exact ⟨hp.resolve_right (by simp), by simp [Uinput.encode_changes]⟩
  unfold RepressSpacer.flush
  dsimp only
  split
  · rename_i hq
    obtain ⟨h1, h2⟩ := hidle (by simp [hq, select, selected, waiting])
    exact ⟨_, _, _, rfl, h1, hd, h2⟩
  · split
    · rename_i hbatch
      obtain ⟨h1, h2⟩ := hidle hbatch
      exact ⟨_, _, _, rfl, h1, hd, h2⟩
    · obtain ⟨sink', h1, -, h3, h4, h5⟩ := submit_accepting hd _ hp
      have h1 : KeySink.submit ((selected (select now Marks.clear spacer.queue)).map (·.change)) sink =
          (.ok (waiting (selected (select now Marks.clear spacer.queue))).length, sink') := h1
      rw [h1]
      simp only [waiting, gt_iff_lt, lt_irrefl, if_false, ne_eq, not_true_eq_false]
      exact ⟨_, _, _, rfl, h3, h4, h5⟩

theorem flush_blocked {spacer : RepressSpacer L} {now : Nat} {sink : Uinput L} {pressed : Fin L → Bool} {c : KeyChange L}
    (hp : sink.pending = some (.Change c)) (hne : selected (select now Marks.clear spacer.queue) ≠ [])
    (hhead : (waiting (selected (select now Marks.clear spacer.queue))).head? ≠ some c) :
    (spacer.flush now sink pressed).1 ≠ .ok () := by
  obtain ⟨e, he⟩ := submit_mismatch hp hhead
  have he : KeySink.submit ((selected (select now Marks.clear spacer.queue)).map (·.change)) sink = (.error e, sink) := he
  have hq : spacer.queue ≠ [] := by
    intro hq; rw [hq] at hne; exact hne rfl
  unfold RepressSpacer.flush
  dsimp only
  rw [if_neg hq, if_neg (by simpa using hne), he]
  intro h; cases h

theorem service_completes {s : KeyboardSink (Uinput L) L} {spacer : RepressSpacer L} (hsp : s.spacer = some spacer)
    (now : Nat) (hd : s.sink.device.Accepting)
    (hp : s.sink.pending = none ∨ ∃ c, s.sink.pending = some (.Change c) ∧ (due_changes now s).head? = some c) :
    FlushCompletes s now ∧ (s.service_at now).2.sink.device.Accepting := by
  have hq : s.queue = spacer.queue := by simp [KeyboardSink.queue, hsp]
  rw [due_changes, hq] at hp
  obtain ⟨spacer', sink', pressed', h1, h2, h3, h4⟩ := flush_accepting s.pressed hd hp
  have hs : s.service_at now = (.ok (), { s with sink := sink', pressed := pressed', spacer := some spacer' }) := by
    simp [KeyboardSink.service_at, hsp, h1]
  refine ⟨⟨by rw [hs], by rw [hs]; exact h2, by rw [hs, due_changes, hq]; exact h4⟩, by rw [hs]; exact h3⟩

/-- The unsynced change heads the next flush exactly when nothing ahead of it is ready. -/
theorem head_iff_unblocked {s : KeyboardSink (Uinput L) L} {now t : Nat} {c : KeyChange L}
    (hres : Resumable s.queue s.sink.pending t) (ht : t ≤ now) (hp : s.sink.pending = some (.Change c)) :
    (due_changes now s).head? = some c ↔ Unblocked s now := by
  obtain ⟨c', ahead, edge, behind, hc, ho⟩ := hres _ hp
  cases hc
  have hahead : s.queue.takeWhile (·.change.lane ≠ c.lane) = ahead := by
    rw [ho.queue, List.takeWhile_append_of_pos (by simpa using ho.lanes),
      List.takeWhile_cons_of_neg (by simp [ho.change]), List.append_nil]
  have hfirst : (waiting (selected (select now Marks.clear (ahead ++ edge :: behind)))).head? = some c ↔
      AllPassed now [] ahead :=
    first_selected marksOf_nil ho.change (ho.due.trans ht) (by simpa using ho.lanes) (by simpa using ho.releases)
  rw [due_changes, ho.queue, hfirst, Unblocked]
  constructor
  · intro h c' hc'
    rw [hp] at hc'
    cases hc'
    rw [hahead]; exact h
  · intro h
    rw [← hahead]; exact h c hp

theorem unblocked_heads {s : KeyboardSink (Uinput L) L} {now t : Nat} (hres : Resumable s.queue s.sink.pending t)
    (ht : t ≤ now) (h : Unblocked s now) :
    s.sink.pending = none ∨ ∃ c, s.sink.pending = some (.Change c) ∧ (due_changes now s).head? = some c := by
  cases hp : s.sink.pending with
  | none => exact .inl rfl
  | some p =>
    obtain ⟨c, -, -, -, rfl, -⟩ := hres p hp
    exact .inr ⟨c, rfl, (head_iff_unblocked hres ht hp).2 h⟩

theorem flush_completes_iff {s : KeyboardSink (Uinput L) L} {spacer : RepressSpacer L} (hsp : s.spacer = some spacer)
    {now t : Nat} (hres : Resumable s.queue s.sink.pending t) (ht : t ≤ now) (hd : s.sink.device.Accepting) :
    FlushCompletes s now ↔ Unblocked s now := by
  refine ⟨fun h => ?_, fun h => (service_completes hsp _ hd (unblocked_heads hres ht h)).1⟩
  intro c hp
  obtain ⟨c', ahead, edge, behind, hc, ho⟩ := hres _ hp
  cases hc
  by_contra hblocked
  have hhead : (due_changes now s).head? ≠ some c := fun hhead =>
    hblocked ((head_iff_unblocked hres ht hp).1 hhead c hp)
  have hq : s.queue = spacer.queue := by simp [KeyboardSink.queue, hsp]
  rw [hq] at ho
  rw [due_changes, hq] at hhead
  have hok := h.ok
  simp only [KeyboardSink.service_at, hsp] at hok
  exact flush_blocked hp (owes_selected ho ht) hhead hok

/-- A retry of a spaced frame or service, on a device that takes every write again, completes
exactly when nothing ahead of the unsynced change became ready in the meantime. -/
theorem retry_completes_iff {lane_for : Int → Fin L} {gap : Nat} {keycodes : Keycodes L}
    {answers : Nat → List InputEvent → Except IoError Nat} {s : KeyboardSink (Uinput L) L} {d : Duty} {t : Nat}
    (run : Run lane_for (some gap) (Uinput.new keycodes answers) s d t) (hd : s.sink.device.Accepting) {c : Call}
    (hc : d.allows c) (hrel : c.releases = false) (ht : t ≤ c.now) :
    Completes lane_for s c ↔ Unblocked s c.now := by
  obtain ⟨spacer, hsp, hg, hduty⟩ := run_resuming run
  have hres : Resumable s.queue s.sink.pending t := by
    rw [KeyboardSink.queue, hsp]
    cases d with
    | free => exact hduty.2
    | retry frame => exact hduty.2.2
    | release => rw [show c.releases = true from hc] at hrel; cases hrel
  have hqueue : s.queue = spacer.queue := by simp [KeyboardSink.queue, hsp]
  cases c with
  | release_all now => cases hrel
  | service now => exact flush_completes_iff hsp hres ht hd
  | accept frame now =>
    have ht : t ≤ now := ht
    have hflush : FlushCompletes s now ↔ Unblocked s now := flush_completes_iff hsp hres ht hd
    refine ⟨fun h => hflush.1 h.1, fun h => ?_⟩
    have hbegun : Begun s frame := by
      cases d with
      | free => exact .inl hduty.1
      | retry g =>
        have hg : frame = g := by
          rcases hc with h | ⟨_, h⟩ | ⟨_, h⟩
          · rw [hrel] at h; cases h
          · cases h; rfl
          · cases h
        exact hg ▸ hduty.2.1
      | release => rw [show (Call.accept frame now).releases = true from hc] at hrel; cases hrel
    obtain ⟨hfirst, hd₁⟩ := service_completes hsp _ hd (unblocked_heads hres ht h)
    refine ⟨hfirst, ?_⟩
    have hsteps := accept_steps lane_for now hrel (by rw [hsp]; rfl) hbegun.sequence
    cases hx : s.accept_at lane_for frame now with
    | mk r s' =>
      cases hs₁ : s.service_at now with
      | mk r₁ s₁ =>
        rw [hx] at hsteps
        have hok := hfirst.ok
        have hsynced := hfirst.synced
        rw [hs₁] at hd₁ hok hsynced
        obtain ⟨spacer₁, h1, h2, -, -, h5⟩ := service_resumable hsp hg (hqueue ▸ hres) ht hs₁
        obtain ⟨spacer₂, h6, -, h8, -⟩ := queue_frame_spec lane_for frame now h1 h2
          (h5 ▸ hbegun.sequence)
        obtain ⟨hsecond, -⟩ := service_completes h6 now (by rw [h8]; exact hd₁) (.inl (by rw [h8]; exact hsynced))
        cases hsteps with
        | blocked h' => rw [hs₁] at h'; cases h'; cases hok
        | heartbeat h' he => rw [hs₁] at h'; cases h'; rw [if_pos he]
        | partly h' he hq =>
          rw [hs₁] at h'; cases h'
          have := hsecond.ok
          rw [hq] at this; cases this
        | done h' he hq =>
          rw [hs₁] at h'; cases h'
          rw [he]
          simp only [Bool.false_eq_true, if_false, hq]
          exact ⟨hsecond, rfl⟩

/-! ## A retry that can never complete -/

/-- The first finger lands on the left half, and lifts. -/
def tapLeft : TouchFrame :=
  { tapRight with contacts := ⟨[⟨0, CONTACT_FLAG_TIP, 2500, 5000, 0, 0⟩], by decide, by decide⟩ }

def liftLeft : TouchFrame := { tapRight with sequence := 2, action := ACTION_UP, contacts := Contacts.empty }

/-- The next finger lands on the right half. -/
def nextRight : TouchFrame := { tapRight with sequence := 3 }

/-- A device that stops its second write behind the first event. -/
def cutSecond (n : Nat) (events : List InputEvent) : Except IoError Nat :=
  if n = 1 then .ok INPUT_EVENT_SIZE else .ok (events.length * INPUT_EVENT_SIZE)

/-- After `nextRight`: its press is unsynced, behind the left release that waits for the gap. -/
def cutPress : KeyboardSink (Uinput 2) 2 :=
  let s := KeyboardSink.new (Uinput.new ⟨![32, 37], by decide⟩ cutSecond) (some 16000000)
  let s := ((Call.accept tapLeft 0).exec halves s).2
  let s := ((Call.accept liftLeft 1000000).exec halves s).2
  ((Call.accept nextRight 2000000).exec halves s).2

theorem cutPress_run :
    Run halves (some 16000000) (Uinput.new ⟨![32, 37], by decide⟩ cutSecond) cutPress (.retry nextRight) 2000000 :=
  .call (.accept nextRight 2000000)
    (.call (.accept liftLeft 1000000) (.call (.accept tapLeft 0) .new trivial le_rfl) trivial (by decide))
    trivial (by decide)

theorem cutPress_queue : cutPress.queue = [⟨⟨0, false, false⟩, 16000000, true⟩, ⟨⟨1, true, true⟩, 2000000, false⟩] := by
  decide +kernel

theorem cutPress_pending : cutPress.sink.pending = some (.Change ⟨1, true, true⟩) := by decide +kernel

theorem cutPress_accepting : cutPress.sink.device.Accepting := by
  have hw : cutPress.sink.device.writes = 2 := by decide +kernel
  intro n events hn
  rw [hw] at hn
  exact if_neg (by omega)

/-- Before the gap is over the retry completes. -/
theorem retry_completes_iff_early : Completes halves cutPress (.accept nextRight 3000000) := by
  refine (retry_completes_iff cutPress_run cutPress_accepting (.inr (.inl ⟨_, rfl⟩)) (by decide) (by decide)).2 ?_
  intro c hc
  rw [cutPress_pending] at hc
  cases hc
  rw [cutPress_queue]
  exact ⟨.inl (by decide), trivial⟩

/-- Once it is over, the release heads every flush and the sink refuses it: no retry completes. -/
theorem retry_refused :
    Run halves (some 16000000) (Uinput.new ⟨![32, 37], by decide⟩ cutSecond) cutPress (.retry nextRight) 2000000 ∧
    cutPress.sink.pending = some (.Change ⟨1, true, true⟩) ∧ cutPress.sink.device.Accepting ∧
    (cutPress.accept_at halves nextRight 16000000).1 =
      .error (.other "uinput retry does not match the unsynchronized transition") ∧
    ¬ Completes halves cutPress (.accept nextRight 16000000) ∧ ¬ Completes halves cutPress (.service 16000000) := by
  have hservice : (cutPress.service_at 16000000).1 ≠ .ok () := by decide +kernel
  exact ⟨cutPress_run, cutPress_pending, cutPress_accepting, by decide +kernel, fun h => hservice h.1.ok,
    fun h => hservice h.ok⟩

end Trackpad.Keyboard.Linux
