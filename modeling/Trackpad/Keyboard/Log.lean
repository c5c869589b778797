import Trackpad.Keyboard.Spacing
/-!
# When edges are queued and emitted

A spaced sink beside what it does not remember: when each waiting edge was queued, every edge the OS
took, with its time, and the spacer that each flush and each enqueue met. `Keeps` is the rule that
makes of a relation between the two an invariant of every call.
-/

namespace Trackpad.Keyboard

variable {κ : Type} {L : Nat}

/-- An edge the OS took. A release of everything emits edges too, which are not `spaced`. -/
structure Emission (L : Nat) where
  change : KeyChange L
  spaced : Bool
  at_ : Nat
  cancel : Bool
deriving DecidableEq, Repr

def stamp (now : Nat) (e : ScheduledEdge L) : Emission L := ⟨e.change, e.spaced, now, false⟩

/-- A flush: when it came, how many edges the OS took, what was waiting, and since when. -/
structure Flushing (L : Nat) where
  now : Nat
  taken : Nat
  spacer : RepressSpacer L
  born : List Nat

/-- An enqueue: what was waiting, and the change it was given. -/
structure Request (L : Nat) where
  spacer : RepressSpacer L
  change : KeyChange L

/-- When each waiting edge was queued, what was emitted, and every flush and enqueue so far. -/
structure Ledger (L : Nat) where
  born : List Nat
  log : List (Emission L)
  flushes : List (Flushing L)
  requests : List (Request L)

structure Logged (κ : Type) (L : Nat) where
  sink : KeyboardSink κ L
  ledger : Ledger L

/-- The times at which the edges that a flush keeps were queued. -/
def keep_born : List (ScheduledEdge L × Bool) → List Nat → List Nat
  | (_, true) :: marked, _ :: born => keep_born marked born
  | (_, false) :: marked, b :: born => b :: keep_born marked born
  | _, _ => []

namespace RepressSpacer

/-- How many edges the OS takes of a flush. -/
def takes [KeySink κ L] (now : Nat) (sink : κ) (s : RepressSpacer L) : Nat :=
  let batch := (selected (select now Marks.clear s.queue)).map (·.change)
  if batch = [] then 0 else (taken batch (KeySink.submit batch sink).1).length

/-- The queue of a flush, each edge marked with whether it was emitted. -/
def flushed (now taken : Nat) (s : RepressSpacer L) : List (ScheduledEdge L × Bool) :=
  outcome taken (select now Marks.clear s.queue)

/-- The times at which the waiting edges were queued, after an enqueue. -/
def enqueue_born (change : KeyChange L) (now : Nat) (os_pressed : Bool) (s : RepressSpacer L) (born : List Nat) : List Nat :=
  match newest change.lane s.queue with
  | some (index, previous) =>
    if previous.change.down = change.down then born
    else if s.queue.countP (·.change.lane = change.lane) ≥ MAX_WAITING_EDGES then born.eraseIdx index
    else born ++ [now]
  | none => if os_pressed = change.down then born else born ++ [now]

end RepressSpacer

namespace Ledger

def new (L : Nat) : Ledger L := ⟨[], [], [], []⟩

/-- A flush at `now` in which the OS takes `taken` edges. -/
def flush (now taken : Nat) (spacer : RepressSpacer L) (l : Ledger L) : Ledger L :=
  let marked := spacer.flushed now taken
  { l with
    born := keep_born marked l.born
    log := l.log ++ (emitted marked).map (stamp now)
    flushes := l.flushes ++ [⟨now, taken, spacer, l.born⟩] }

def enqueue (change : KeyChange L) (now : Nat) (os_pressed : Bool) (spacer : RepressSpacer L) (l : Ledger L) : Ledger L :=
  { l with
    born := spacer.enqueue_born change now os_pressed l.born
    requests := l.requests ++ [⟨spacer, change⟩] }

/-- Everything that waits is dropped, and the OS takes the releases of `changes`. -/
def release (now : Nat) (changes : List (KeyChange L)) (l : Ledger L) : Ledger L :=
  { l with born := [], log := l.log ++ changes.map fun c => ⟨c, false, now, true⟩ }

end Ledger

namespace Logged

def new (sink : κ) (gap : Nat) : Logged κ L := ⟨KeyboardSink.new sink (some gap), Ledger.new L⟩

variable [KeySink κ L]

def service (now : Nat) (g : Logged κ L) : Except IoError Unit × Logged κ L :=
  let (result, sink) := g.sink.service_at now
  match g.sink.spacer with
  | none => (result, { g with sink := sink })
  | some spacer => (result, ⟨sink, g.ledger.flush now (spacer.takes now g.sink.sink) spacer⟩)

def release_all (now : Nat) (g : Logged κ L) : Except IoError Unit × Logged κ L :=
  match KeySink.discard_pending g.sink.sink with
  | (.error e, sink) => (.error e, { g with sink := { g.sink with sink := sink } })
  | (.ok (), sink) =>
    let changes := KeyboardSink.releases g.sink.pressed
    let (result, s) := KeyboardSink.release_all_with now { g.sink with sink := sink }
    (result, ⟨s, g.ledger.release now (taken changes (KeySink.submit changes sink).1)⟩)

/-- Queues `changes`, when the keys are as the OS has them. -/
def enqueue (now : Nat) (pressed : Fin L → Bool) (changes : List (KeyChange L)) (spacer : RepressSpacer L) (ledger : Ledger L) :
    RepressSpacer L × Ledger L :=
  changes.foldl (fun (spacer, ledger) c =>
    (spacer.enqueue c now (pressed c.lane), ledger.enqueue c now (pressed c.lane) spacer)) (spacer, ledger)

/-- The frame in progress, queued. -/
def enqueue_pending (now : Nat) (spacer : RepressSpacer L) (g : Logged κ L) : Logged κ L where
  sink := g.sink.enqueue_pending now spacer
  ledger := (enqueue now g.sink.pressed (g.sink.pending.changes.drop g.sink.pending.applied) spacer g.ledger).2

def accept (lane_for : Int → Fin L) (frame : TouchFrame) (now : Nat) (g : Logged κ L) : Except IoError Unit × Logged κ L :=
  if KeyboardSink.is_release frame then g.release_all now
  else
    match g.service now with
    | (.error e, g) => (.error e, g)
    | (.ok (), g) =>
      if KeyboardSink.is_empty_heartbeat frame then (.ok (), g)
      else
        match g.sink.begin_frame lane_for frame with
        | (.error e, s) => (.error e, { g with sink := s })
        | (.ok (), s) =>
          match s.spacer with
          | none => (s.submit_direct.1, { g with sink := s.submit_direct.2 })
          | some spacer =>
            match (enqueue_pending now spacer { g with sink := s }).service now with
            | (.error e, g) => (.error e, g)
            | (.ok (), g) => (.ok (), { g with sink := g.sink.commit_pending })

def exec (lane_for : Int → Fin L) (c : Call) (g : Logged κ L) : Except IoError Unit × Logged κ L :=
  match c with
  | .accept frame now => g.accept lane_for frame now
  | .service now => g.service now
  | .release_all now => g.release_all now

/-! ## The log changes nothing -/

omit [KeySink κ L] in
theorem begin_frame_spacer (lane_for : Int → Fin L) (frame : TouchFrame) (s : KeyboardSink κ L) :
    (s.begin_frame lane_for frame).2.spacer = s.spacer := by
  unfold KeyboardSink.begin_frame
  split
  · split <;> rfl
  · rfl

theorem service_sink (now : Nat) (g : Logged κ L) :
    g.sink.service_at now = ((g.service now).1, (g.service now).2.sink) := by
  unfold service
  dsimp only
  split <;> rfl

theorem release_all_sink (now : Nat) (g : Logged κ L) :
    KeyboardSink.release_all now g.sink = ((g.release_all now).1, (g.release_all now).2.sink) := by
  unfold release_all KeyboardSink.release_all
  rcases KeySink.discard_pending g.sink.sink with ⟨e | ⟨⟨⟩⟩, sink⟩ <;> rfl

theorem accept_sink (lane_for : Int → Fin L) (frame : TouchFrame) (now : Nat) (g : Logged κ L) :
    g.sink.accept_at lane_for frame now = ((g.accept lane_for frame now).1, (g.accept lane_for frame now).2.sink) := by
  unfold accept KeyboardSink.accept_at
  split
  · exact release_all_sink now g
  rw [service_sink]
  rcases g.service now with ⟨e | ⟨⟨⟩⟩, g₁⟩
  · rfl
  dsimp only
  split
  · rfl
  rcases g₁.sink.begin_frame lane_for frame with ⟨e | ⟨⟨⟩⟩, s⟩
  · rfl
  dsimp only
  rcases s.spacer with _ | spacer
  · rfl
  have hqueued : (s.enqueue_pending now spacer).service_at now = _ :=
    service_sink now (enqueue_pending now spacer { g₁ with sink := s })
  dsimp only
  rw [KeyboardSink.submit_spaced, hqueued]
  rcases (enqueue_pending now spacer { g₁ with sink := s }).service now with ⟨e | ⟨⟨⟩⟩, g₂⟩ <;> rfl

/-- A logged call is the call. -/
theorem exec_sink (lane_for : Int → Fin L) (c : Call) (g : Logged κ L) :
    c.exec lane_for g.sink = ((g.exec lane_for c).1, (g.exec lane_for c).2.sink) := by
  cases c with
  | accept frame now => exact accept_sink lane_for frame now g
  | service now => exact service_sink now g
  | release_all now => exact release_all_sink now g

end Logged

/-! ## What a flush takes -/

theorem keep_born_length {marked : List (ScheduledEdge L × Bool)} {born : List Nat} (h : born.length = marked.length) :
    (keep_born marked born).length = (kept marked).length := by
  fun_induction keep_born marked born with
  | case1 e marked b born ih => simpa [kept] using ih (by simpa using h)
  | case2 e marked b born ih => simpa [kept] using ih (by simpa using h)
  | case3 marked born h₁ h₂ =>
    rcases marked with _ | ⟨⟨e, b⟩, marked⟩
    · rfl
    · rcases born with _ | ⟨n, born⟩
      · cases h
      · cases b
        · exact absurd rfl (h₂ e marked n born rfl)
        · exact absurd rfl (h₁ e marked n born rfl)

theorem flushed_edges (s : RepressSpacer L) (now n : Nat) : (s.flushed now n).map (·.1) = s.queue := by
  rw [RepressSpacer.flushed, outcome_edges, select_edges]

theorem outcome_zero_emitted (marked : List (ScheduledEdge L × Bool)) : emitted (outcome 0 marked) = [] := by
  rw [outcome_emitted, List.take_zero]

/-- A flush that takes nothing keeps every time. -/
theorem keep_born_zero {marked : List (ScheduledEdge L × Bool)} {born : List Nat} (h : born.length = marked.length) :
    keep_born (outcome 0 marked) born = born := by
  induction marked generalizing born with
  | nil =>
    rw [List.length_nil, List.length_eq_zero_iff] at h
    rw [h]
    rfl
  | cons x marked ih =>
    obtain ⟨e, b⟩ := x
    rcases born with _ | ⟨n, born⟩
    · cases h
    · have hrest := ih (by simpa using h)
      cases b <;> simp only [outcome, keep_born, hrest]

/-- A flush leaves everything as it was, or emits what the OS took. -/
theorem flush_cases [KeySink κ L] (s : RepressSpacer L) (now : Nat) (sink : κ) (pressed : Fin L → Bool) :
    ((s.flush now sink pressed).2.1 = s ∧ (s.flush now sink pressed).2.2.2 = pressed ∧ s.takes now sink = 0) ∨
    (s.takes now sink ≤ (selected (select now Marks.clear s.queue)).length ∧
      (s.flush now sink pressed).2.1 = (s.emit now (s.takes now sink) pressed).1 ∧
      (s.flush now sink pressed).2.2.2 = (s.emit now (s.takes now sink) pressed).2) := by
  unfold RepressSpacer.flush RepressSpacer.takes
  dsimp only
  split
  · rename_i hempty
    refine .inl ⟨rfl, rfl, if_pos ?_⟩
    rw [hempty]
    rfl
  split
  · exact .inl ⟨rfl, rfl, rfl⟩
  split
  · rename_i hs
    rw [hs]
    exact .inl ⟨rfl, rfl, rfl⟩
  · rename_i accepted sink' hs
    rw [hs]
    split
    · rename_i hexcess
      refine .inl ⟨rfl, rfl, ?_⟩
      rw [taken, if_neg (Nat.not_le_of_lt hexcess)]
      rfl
    · rename_i hfits
      have hle := Nat.le_of_not_lt hfits
      have htaken : (taken ((selected (select now Marks.clear s.queue)).map (·.change)) (.ok accepted)).length = accepted := by
        rw [taken, if_pos hle, List.length_take, Nat.min_eq_left hle]
      rw [htaken]
      rw [List.length_map] at hle
      right
      split <;> exact ⟨hle, rfl, rfl⟩

/-! ## What an enqueue does -/

/-- The waiting edges of a lane, the oldest first. -/
abbrev lane_queue (queue : List (ScheduledEdge L)) (lane : Fin L) : List (ScheduledEdge L) :=
  queue.filter (·.change.lane = lane)

/-- The queue and the times after an enqueue: as before, one edge more, or the lane's newest gone. -/
inductive Queues (s : RepressSpacer L) (change : KeyChange L) (now : Nat) (os_pressed : Bool) (born : List Nat) :
    List (ScheduledEdge L) → List Nat → Prop
  | same : Queues s change now os_pressed born s.queue born
  | behind (previous : ScheduledEdge L) : (lane_queue s.queue change.lane).getLast? = some previous →
      previous.change.down ≠ change.down → s.queue.countP (·.change.lane = change.lane) < MAX_WAITING_EDGES →
      Queues s change now os_pressed born (s.push change (RepressSpacer.schedule_behind s.gap previous change now)).queue
        (born ++ [now])
  | first : lane_queue s.queue change.lane = [] → os_pressed ≠ change.down →
      Queues s change now os_pressed born
        (s.push change (RepressSpacer.schedule_first s.gap (s.last_emitted change.lane) change now)).queue (born ++ [now])
  | cancelled (before behind : List (ScheduledEdge L)) (e : ScheduledEdge L) : s.queue = before ++ e :: behind →
      e.change.lane = change.lane → (∀ x ∈ behind, x.change.lane ≠ change.lane) → e.change.down ≠ change.down →
      MAX_WAITING_EDGES ≤ s.queue.countP (·.change.lane = change.lane) →
      Queues s change now os_pressed born (before ++ behind) (born.eraseIdx before.length)

theorem lane_queue_split {lane : Fin L} (before : List (ScheduledEdge L)) {behind : List (ScheduledEdge L)}
    {e : ScheduledEdge L}
    (he : e.change.lane = lane) (hb : ∀ x ∈ behind, x.change.lane ≠ lane) :
    lane_queue (before ++ e :: behind) lane = lane_queue before lane ++ [e] ∧
    lane_queue (before ++ behind) lane = lane_queue before lane := by
  have hnone : behind.filter (·.change.lane = lane) = [] := by simpa using hb
  constructor
  · rw [lane_queue, List.filter_append, List.filter_cons, if_pos (by simpa using he), hnone]
  · rw [lane_queue, List.filter_append, hnone, List.append_nil]

/-- Without a lane's newest edge, each lane's queue is cut short at most. -/
theorem lane_queue_erase {lane : Fin L} {before behind : List (ScheduledEdge L)} {e : ScheduledEdge L}
    (he : e.change.lane = lane) (hb : ∀ x ∈ behind, x.change.lane ≠ lane) (l : Fin L) :
    lane_queue (before ++ behind) l <+: lane_queue (before ++ e :: behind) l := by
  by_cases hl : l = lane
  · subst hl
    obtain ⟨h₁, h₂⟩ := lane_queue_split before he hb
    rw [h₁, h₂]
    exact List.prefix_append _ _
  · have hother : ¬ e.change.lane = l := fun h => hl (h.symm.trans he)
    simp [lane_queue, List.filter_append, hother]

theorem enqueue_queues (s : RepressSpacer L) (change : KeyChange L) (now : Nat) (os_pressed : Bool) (born : List Nat) :
    Queues s change now os_pressed born (s.enqueue change now os_pressed).queue
      (s.enqueue_born change now os_pressed born) := by
  unfold RepressSpacer.enqueue RepressSpacer.enqueue_born
  dsimp only
  rcases hn : newest change.lane s.queue with _ | ⟨index, previous⟩
  · dsimp only
    by_cases hos : os_pressed = change.down
    · rw [if_pos hos, if_pos hos]
      exact .same
    · rw [if_neg hos, if_neg hos]
      exact .first (by simpa using newest_none hn) hos
  · obtain ⟨before, behind, hq, rfl, hlane, hbehind⟩ := newest_some hn
    dsimp only
    by_cases hsame : previous.change.down = change.down
    · rw [if_pos hsame, if_pos hsame]
      exact .same
    rw [if_neg hsame, if_neg hsame]
    by_cases hfull : s.queue.countP (·.change.lane = change.lane) ≥ MAX_WAITING_EDGES
    · rw [if_pos hfull, if_pos hfull]
      have herase : s.queue.eraseIdx before.length = before ++ behind := by
        rw [hq, List.eraseIdx_append_of_length_le (Nat.le_refl _)]
        simp
      dsimp only
      rw [herase]
      exact .cancelled before behind previous hq hlane hbehind hsame hfull
    · rw [if_neg hfull, if_neg hfull]
      apply Queues.behind previous _ hsame (Nat.lt_of_not_le hfull)
      rw [hq, (lane_queue_split _ hlane hbehind).1, List.getLast?_concat]

/-! ## Invariants of every call -/

/-- A relation between the time, the spacer and the ledger that whatever happens to a spacer keeps. -/
structure Keeps (I : Nat → RepressSpacer L → Ledger L → Prop) : Prop where
  wait : ∀ {t now s l}, I t s l → t ≤ now → I now s l
  enqueue : ∀ {now s l} change os_pressed, I now s l →
    I now (s.enqueue change now os_pressed) (l.enqueue change now os_pressed s)
  /-- Nothing was ready, or the OS took nothing. -/
  hold : ∀ {now s l}, I now s l → I now s (l.flush now 0 s)
  emit : ∀ {now s l n pressed}, I now s l → n ≤ (selected (select now Marks.clear s.queue)).length →
    I now (s.emit now n pressed).1 (l.flush now n s)
  drop : ∀ {now s l}, I now s l → I now { s with queue := [] } (l.release now [])
  release : ∀ {now s l} lane, I now s l → s.queue = [] →
    I now (s.note_release lane now) (l.release now [⟨lane, false, false⟩])

/-- The relation holds of a spaced sink. -/
def Logged.Has (I : Nat → RepressSpacer L → Ledger L → Prop) (t : Nat) (g : Logged κ L) : Prop :=
  ∃ spacer, g.sink.spacer = some spacer ∧ I t spacer g.ledger

theorem release_append (now : Nat) (first rest : List (KeyChange L)) (l : Ledger L) :
    (l.release now first).release now rest = l.release now (first ++ rest) := by
  simp [Ledger.release]

namespace Keeps

variable {I : Nat → RepressSpacer L → Ledger L → Prop} [KeySink κ L]

theorem service (H : Keeps I) {now : Nat} {g : Logged κ L} (h : g.Has I now) : (g.service now).2.Has I now := by
  obtain ⟨spacer, hsp, hi⟩ := h
  unfold Logged.service KeyboardSink.service_at
  rw [hsp]
  refine ⟨_, rfl, ?_⟩
  dsimp only
  rcases flush_cases spacer now g.sink.sink g.sink.pressed with ⟨hs, -, hnone⟩ | ⟨hle, hs, -⟩
  · rw [hs, hnone]
    exact H.hold hi
  · rw [hs]
    exact H.emit hi hle

omit [KeySink κ L] in
theorem enqueue_all (H : Keeps I) {now : Nat} {s : RepressSpacer L} {l : Ledger L} (h : I now s l)
    (pressed : Fin L → Bool) (changes : List (KeyChange L)) :
    I now (Logged.enqueue now pressed changes s l).1 (Logged.enqueue now pressed changes s l).2 := by
  induction changes generalizing s l with
  | nil => exact h
  | cons c changes ih => exact ih (H.enqueue c (pressed c.lane) h)

omit [KeySink κ L] in
theorem enqueue_fst (now : Nat) (pressed : Fin L → Bool) (changes : List (KeyChange L)) (s : RepressSpacer L)
    (l : Ledger L) : (Logged.enqueue now pressed changes s l).1 =
      changes.foldl (fun spacer change => spacer.enqueue change now (pressed change.lane)) s := by
  induction changes generalizing s l with
  | nil => rfl
  | cons c changes ih => exact ih _ _

omit [KeySink κ L] in
theorem enqueue_pending (H : Keeps I) {now : Nat} {g : Logged κ L} {spacer : RepressSpacer L}
    (h : I now spacer g.ledger) : (g.enqueue_pending now spacer).Has I now := by
  refine ⟨_, rfl, ?_⟩
  have hall := H.enqueue_all h g.sink.pressed (g.sink.pending.changes.drop g.sink.pending.applied)
  rw [enqueue_fst] at hall
  exact hall

omit [KeySink κ L] in
theorem released (H : Keeps I) {now : Nat} (lanes first : List (KeyChange L)) {s : KeyboardSink κ L}
    {spacer : RepressSpacer L} {l : Ledger L} (hsp : s.spacer = some spacer) (hq : spacer.queue = [])
    (h : I now spacer (l.release now first)) (hrel : ∀ c ∈ lanes, c.down = false ∧ c.touch = false) :
    ∃ spacer', (lanes.foldl (KeyboardSink.note_released now) s).spacer = some spacer' ∧
      I now spacer' (l.release now (first ++ lanes)) := by
  induction lanes generalizing s spacer first with
  | nil => exact ⟨spacer, hsp, by rwa [List.append_nil]⟩
  | cons c lanes ih =>
    obtain ⟨hdown, htouch⟩ := hrel c List.mem_cons_self
    have hc : c = ⟨c.lane, false, false⟩ := by
      cases c
      dsimp only at hdown htouch
      rw [hdown, htouch]
    have hs : (KeyboardSink.note_released now s c).spacer = some (spacer.note_release c.lane now) := by
      simp [KeyboardSink.note_released, hsp]
    have hone := H.release c.lane h hq
    rw [← hc, release_append] at hone
    obtain ⟨spacer', h₁, h₂⟩ := ih (first ++ [c]) hs hq hone fun c' hc' => hrel c' (List.mem_cons_of_mem _ hc')
    rw [List.append_assoc] at h₂
    exact ⟨spacer', h₁, h₂⟩

theorem release_all (H : Keeps I) {now : Nat} {g : Logged κ L} (h : g.Has I now) : (g.release_all now).2.Has I now := by
  obtain ⟨spacer, hsp, hi⟩ := h
  unfold Logged.release_all
  split
  · exact ⟨spacer, hsp, hi⟩
  rename_i sink _
  have hbegin : ({ g.sink with sink := sink } : KeyboardSink κ L).begin_release.spacer = some { spacer with queue := [] } := by
    simp [KeyboardSink.begin_release, hsp]
  have hdrop := H.drop hi
  have hreleases : ∀ n, ∀ c ∈ (KeyboardSink.releases g.sink.pressed).take n, c.down = false ∧ c.touch = false := by
    intro n c hc
    obtain ⟨lane, -, rfl⟩ := List.mem_map.1 (List.mem_of_mem_take hc)
    exact ⟨rfl, rfl⟩
  have hpending : ({ g.sink with sink := sink } : KeyboardSink κ L).begin_release.pending.changes =
      KeyboardSink.releases g.sink.pressed := rfl
  dsimp only
  unfold KeyboardSink.release_all_with
  dsimp only
  rw [hpending]
  split
  · rename_i hnone
    refine ⟨_, hbegin, ?_⟩
    rw [hnone]
    rcases (KeySink.submit ([] : List (KeyChange L)) sink).1 with e | n
    · simpa [taken] using hdrop
    · simpa [taken] using hdrop
  have hsame : ({ g.sink with sink := sink } : KeyboardSink κ L).begin_release.sink = sink := rfl
  rw [hsame]
  split
  · rename_i e sink' hs
    refine ⟨_, hbegin, ?_⟩
    rw [hs]
    simpa [taken] using hdrop
  · rename_i accepted sink' hs
    rw [hs]
    split
    · rename_i hexcess
      refine ⟨_, hbegin, ?_⟩
      rw [taken, if_neg (Nat.not_le_of_lt hexcess)]
      simpa using hdrop
    · rename_i hfits
      rw [taken, if_pos (Nat.le_of_not_lt hfits)]
      obtain ⟨spacer', h₁, h₂⟩ := H.released ((KeyboardSink.releases g.sink.pressed).take accepted) []
        (s := { ({ g.sink with sink := sink } : KeyboardSink κ L).begin_release with sink := sink' }) hbegin rfl hdrop
        (hreleases accepted)
      split
      · exact ⟨spacer', h₁, h₂⟩
      · exact ⟨spacer', h₁, h₂⟩

theorem accept (H : Keeps I) (lane_for : Int → Fin L) (frame : TouchFrame) {now : Nat} {g : Logged κ L} (h : g.Has I now) :
    (g.accept lane_for frame now).2.Has I now := by
  have hserved := H.service h
  unfold Logged.accept
  split
  · exact H.release_all h
  rcases hs : g.service now with ⟨e | ⟨⟨⟩⟩, g₁⟩
  · rw [hs] at hserved
    exact hserved
  rw [hs] at hserved
  dsimp only at hserved ⊢
  split
  · exact hserved
  obtain ⟨spacer, hsp, hi⟩ := hserved
  have hbegin := (Logged.begin_frame_spacer lane_for frame g₁.sink).trans hsp
  rcases hb : g₁.sink.begin_frame lane_for frame with ⟨e | ⟨⟨⟩⟩, s₂⟩
  · rw [hb] at hbegin
    exact ⟨spacer, hbegin, hi⟩
  rw [hb] at hbegin
  dsimp only at hbegin ⊢
  rw [hbegin]
  have hflushed := H.service (H.enqueue_pending (g := { g₁ with sink := s₂ }) hi)
  dsimp only
  split
  · rename_i heq
    rw [heq] at hflushed
    exact hflushed
  · rename_i heq
    rw [heq] at hflushed
    exact hflushed

/-- Every call keeps such a relation. -/
theorem exec (H : Keeps I) (lane_for : Int → Fin L) (c : Call) {t : Nat} {g : Logged κ L} (h : g.Has I t) (ht : t ≤ c.now) :
    (g.exec lane_for c).2.Has I c.now := by
  obtain ⟨spacer, hsp, hi⟩ := h
  have hnow : g.Has I c.now := ⟨spacer, hsp, H.wait hi ht⟩
  cases c with
  | accept frame now => exact H.accept lane_for frame hnow
  | service now => exact H.service hnow
  | release_all now => exact H.release_all hnow

end Keeps

/-! ## What the log holds -/

section Recorded

/-- Over a sink that records them, the log has the edges the OS took, and on each lane they alternate. -/
structure Recording (g : Logged (Recorded κ L) L) (spacer : RepressSpacer L) : Prop where
  spaced : g.sink.spacer = some spacer
  in_order : InOrder spacer g.sink.sink g.sink.pressed
  log : g.sink.sink.log = g.ledger.log.map (·.change)

variable [KeySink κ L]

theorem flush_log (s : RepressSpacer L) (now : Nat) (sink : Recorded κ L) (pressed : Fin L → Bool) :
    (s.flush now sink pressed).2.2.1.log = sink.log ++ waiting (emitted (s.flushed now (s.takes now sink))) := by
  have hchanges : waiting (emitted (s.flushed now (s.takes now sink))) =
      ((selected (select now Marks.clear s.queue)).map (·.change)).take (s.takes now sink) := by
    rw [RepressSpacer.flushed, outcome_emitted, waiting, List.map_take]
  rw [hchanges]
  unfold RepressSpacer.flush RepressSpacer.takes
  dsimp only
  split
  · rename_i hempty
    rw [hempty]
    exact (List.append_nil _).symm
  split
  · rw [List.take_zero, List.append_nil]
  have htake : ∀ (changes : List (KeyChange L)) r, changes.take (taken changes r).length = taken changes r := by
    intro changes r
    rcases r with e | n
    · rfl
    · unfold taken
      dsimp only
      split
      · rename_i hn
        rw [List.length_take, Nat.min_eq_left hn]
      · rfl
  rw [htake]
  split
  · rename_i hs
    rw [recorded_submit hs, hs]
  · rename_i hs
    have hlog := recorded_submit hs
    rw [hs]
    split
    · exact hlog
    · split <;> exact hlog

theorem service_recording (now : Nat) {g : Logged (Recorded κ L) L} {spacer : RepressSpacer L} (h : Recording g spacer) :
    ∃ spacer', Recording (g.service now).2 spacer' := by
  obtain ⟨spacer', hsp, hi, -⟩ := service_spec h.spaced h.in_order (Logged.service_sink now g)
  refine ⟨spacer', hsp, hi, ?_⟩
  unfold Logged.service KeyboardSink.service_at
  rw [h.spaced]
  dsimp only
  rw [flush_log, h.log, Ledger.flush, List.map_append, waiting, List.map_map]
  rfl

theorem release_log {now : Nat} {g : Logged (Recorded κ L) L} (h : g.sink.sink.log = g.ledger.log.map (·.change)) :
    (g.release_all now).2.sink.sink.log = (g.release_all now).2.ledger.log.map (·.change) := by
  unfold Logged.release_all
  split
  · rename_i hd
    exact (recorded_discard hd).trans h
  rename_i sink hd
  have hbegin : ({ g.sink with sink := sink } : KeyboardSink (Recorded κ L) L).begin_release.sink = sink := rfl
  have hpending : ({ g.sink with sink := sink } : KeyboardSink (Recorded κ L) L).begin_release.pending.changes =
      KeyboardSink.releases g.sink.pressed := rfl
  have hnone : ∀ r, taken ([] : List (KeyChange L)) r = [] := by
    intro r
    rcases r with e | n
    · rfl
    · simp [taken]
  dsimp only
  rw [Ledger.release, List.map_append, List.map_map, ← h, ← recorded_discard hd]
  have hid : ((fun e : Emission L => e.change) ∘ fun c : KeyChange L => (⟨c, false, now, true⟩ : Emission L)) = id := rfl
  rw [hid, List.map_id]
  unfold KeyboardSink.release_all_with
  dsimp only
  rw [hpending, hbegin]
  split
  · rename_i hempty
    rw [hempty, hnone, List.append_nil]
    rfl
  split
  · rename_i hs
    rw [hs]
    exact recorded_submit hs
  · rename_i n sink' hs
    have hlog := recorded_submit hs
    rw [hs]
    split
    · exact hlog
    · obtain ⟨-, -, -, hsink⟩ := foldl_note_released now ((KeyboardSink.releases g.sink.pressed).take n)
        { ({ g.sink with sink := sink } : KeyboardSink (Recorded κ L) L).begin_release with sink := sink' }
      split
      · rw [hsink]
        exact hlog
      · rw [KeyboardSink.clear_state, hsink]
        exact hlog

theorem release_recording {now : Nat} {g : Logged (Recorded κ L) L} {spacer : RepressSpacer L} (h : Recording g spacer) :
    ∃ spacer', Recording (g.release_all now).2 spacer' := by
  obtain ⟨spacer', hgo, -⟩ := release_all_letGo h.spaced h.in_order (Logged.release_all_sink now g)
  exact ⟨spacer', hgo.spacer, hgo.in_order, release_log h.log⟩

omit [KeySink κ L] in
theorem enqueue_log (now : Nat) (pressed : Fin L → Bool) (changes : List (KeyChange L)) (s : RepressSpacer L)
    (l : Ledger L) : (Logged.enqueue now pressed changes s l).2.log = l.log := by
  induction changes generalizing s l with
  | nil => rfl
  | cons c changes ih => exact ih _ _

omit [KeySink κ L] in
theorem enqueue_pending_recording (now : Nat) {g : Logged (Recorded κ L) L} {spacer : RepressSpacer L} (h : Recording g spacer) :
    ∃ spacer', Recording (g.enqueue_pending now spacer) spacer' := by
  have horderly := (enqueue_all_spec h.in_order.orderly (g.sink.pending.changes.drop g.sink.pending.applied) now).1
  refine ⟨_, rfl, ⟨h.in_order.alternates, h.in_order.shown, horderly⟩, h.log.trans ?_⟩
  rw [Logged.enqueue_pending, enqueue_log]

theorem accept_recording (lane_for : Int → Fin L) (frame : TouchFrame) {now : Nat} {g : Logged (Recorded κ L) L}
    {spacer : RepressSpacer L} (h : Recording g spacer) : ∃ spacer', Recording (g.accept lane_for frame now).2 spacer' := by
  obtain ⟨spacer₁, h₁⟩ := service_recording now h
  unfold Logged.accept
  split
  · exact release_recording h
  rcases hs : g.service now with ⟨e | ⟨⟨⟩⟩, g₁⟩
  · rw [hs] at h₁
    exact ⟨spacer₁, h₁⟩
  rw [hs] at h₁
  dsimp only at h₁ ⊢
  split
  · exact ⟨spacer₁, h₁⟩
  obtain ⟨hsink, hpressed⟩ := Follows.begin_frame_sink lane_for frame g₁.sink
  have hspacer := Logged.begin_frame_spacer lane_for frame g₁.sink
  rcases hb : g₁.sink.begin_frame lane_for frame with ⟨e | ⟨⟨⟩⟩, s₂⟩
  all_goals
    rw [hb] at hsink hpressed hspacer
    dsimp only at hsink hpressed hspacer ⊢
    have h₂ : Recording { g₁ with sink := s₂ } spacer₁ :=
      ⟨hspacer.trans h₁.spaced, by rw [hsink, hpressed]; exact h₁.in_order, by rw [hsink]; exact h₁.log⟩
  · exact ⟨spacer₁, h₂⟩
  rw [hspacer, h₁.spaced]
  obtain ⟨spacer₂, hq⟩ := enqueue_pending_recording now h₂
  obtain ⟨spacer₃, hflushed⟩ := service_recording now hq
  dsimp only
  split
  · rename_i heq
    rw [heq] at hflushed
    exact ⟨spacer₃, hflushed⟩
  · rename_i heq
    rw [heq] at hflushed
    exact ⟨spacer₃, hflushed.spaced, hflushed.in_order, hflushed.log⟩

theorem exec_recording (lane_for : Int → Fin L) (c : Call) {g : Logged (Recorded κ L) L} {spacer : RepressSpacer L}
    (h : Recording g spacer) : ∃ spacer', Recording (g.exec lane_for c).2 spacer' := by
  cases c with
  | accept frame now => exact accept_recording lane_for frame h
  | service now => exact service_recording now h
  | release_all now => exact release_recording h

end Recorded

/-! ## Runs -/

/-- The states of a logged spaced sink after any calls at nondecreasing times, and the time of the last. -/
inductive LoggedRun [KeySink κ L] (lane_for : Int → Fin L) (gap : Nat) (sink : κ) : Logged κ L → Nat → Prop
  | new : LoggedRun lane_for gap sink (Logged.new sink gap) 0
  | call {g : Logged κ L} {t : Nat} (c : Call) : LoggedRun lane_for gap sink g t → t ≤ c.now →
      LoggedRun lane_for gap sink (g.exec lane_for c).2 c.now

/-- A relation that every call keeps holds in every run. -/
theorem Keeps.run [KeySink κ L] {I : Nat → RepressSpacer L → Ledger L → Prop} (H : Keeps I)
    {lane_for : Int → Fin L} {gap : Nat} {sink : κ} {g : Logged κ L} {t : Nat} (h₀ : I 0 (RepressSpacer.new L gap) (Ledger.new L))
    (run : LoggedRun lane_for gap sink g t) : g.Has I t := by
  induction run with
  | new => exact ⟨_, rfl, h₀⟩
  | call c run hc ih => exact H.exec lane_for c ih hc

theorem run_recording [KeySink κ L] {lane_for : Int → Fin L} {gap : Nat} {sink : κ} {g : Logged (Recorded κ L) L} {t : Nat}
    (run : LoggedRun lane_for gap (Recorded.new L sink) g t) : ∃ spacer, Recording g spacer := by
  induction run with
  | new => exact ⟨_, rfl, ⟨fun _ => trivial, fun _ => rfl, orderly_nil _⟩, rfl⟩
  | call c run hc ih =>
    obtain ⟨spacer, h⟩ := ih
    exact exec_recording lane_for c h

end Trackpad.Keyboard
