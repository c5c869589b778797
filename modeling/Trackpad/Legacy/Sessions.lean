import Trackpad.Keyboard.Shown
import Trackpad.Legacy.Joined
/-!
# Runs of the version 4 host

What each call leaves of the link between the log, the connection and the receive window,
and with it that every run is allowed.
-/

namespace Trackpad.Legacy

open Logs (Justified)

variable {σ : Type} {port : Nat} {earlier : Bool} {j : Joined} {log : List Notice}

/-! ## One frame -/

/-- The log is allowed, and the session in progress is the one the window follows. -/
structure Linked (port : Nat) (earlier : Bool) (j : Joined) (log : List Notice) (o : OrderedFrames) : Prop where
  allowed : Justified (Allowed port) log
  view : view log = ⟨earlier, some j⟩
  follows : Follows j earlier o

variable [InputSink σ]

theorem Linked.applies {o : OrderedFrames} {frame : TouchFrame} (h : Linked port earlier j log o)
    (hready : o.next_ready = some frame) :
    Linked port earlier { j with applied := frame :: j.applied } (.Applied frame :: log) o.committed := by
  obtain ⟨⟨hsession, htaken⟩, hnext⟩ := h.follows.ready hready
  refine ⟨⟨?_, h.allowed⟩, ?_, h.follows.commit hready⟩
  · simp only [Allowed, h.view]
    exact ⟨hsession, htaken, hnext⟩
  · rw [view_cons, h.view]
    rfl

/-- Whatever is applied is allowed; a call that returns well leaves nothing ready. -/
theorem commit_ready_linked (submissions : List Submission) (progressed : Bool) {i : Input σ}
    (h : Linked port earlier j (noted i.trace log) i.ordered) :
    ∃ frames, Linked port earlier { j with applied := frames }
        (noted (commit_ready progressed submissions i).2.trace log) (commit_ready progressed submissions i).2.ordered ∧
      ∀ b, (commit_ready progressed submissions i).1 = .finished (.ok b) →
        (commit_ready progressed submissions i).2.ordered.next_ready = none := by
  induction submissions generalizing progressed i j with
  | nil =>
    unfold commit_ready
    split
    · rename_i hnone
      exact ⟨j.applied, h, fun _ _ => hnone⟩
    · exact ⟨j.applied, h, fun _ hb => (by cases hb)⟩
  | cons s submissions ih =>
    unfold commit_ready
    split
    · rename_i hnone
      exact ⟨j.applied, h, fun _ _ => hnone⟩
    rename_i frame hready
    dsimp only
    split
    · exact ⟨j.applied, h, fun _ hb => (by cases hb)⟩
    · exact ⟨j.applied, h, fun _ hb => (by cases hb)⟩
    · rename_i sink _
      rw [OrderedFrames.commit_ready_some hready]
      exact ih true (j := { j with applied := frame :: j.applied })
        (i := ⟨i.ordered.committed, sink, .accepted frame :: i.trace⟩) (h.applies hready)

/-- The host's record of the session it greeted. -/
def Greeted (j : Joined) (c : ControlState) : Prop := c.hello_session = if j.greeted then some j.session_id else none

theorem answer_type {c : ControlState} (h : Greeted j c) (t : Turn) (acknowledged : Option Nat) :
    (answer t j.session_id acknowledged c).1.control_type = (if j.greeted then CONTROL_ACK else CONTROL_HELLO) ∧
    (answer t j.session_id acknowledged c).2.hello_session = some j.session_id := by
  unfold Greeted at h
  rcases hgreeted : j.greeted with _ | _
  · rw [hgreeted] at h
    simp [answer, h, encode_control, CONTROL_HELLO]
  · rw [hgreeted] at h
    by_cases hack : acknowledged = c.last_ack <;> simp [answer, h, hack, encode_control, CONTROL_HELLO, CONTROL_ACK]

theorem Linked.writes {o : OrderedFrames} {peer : SocketAddr} {control : Control} (h : Linked port earlier j log o)
    (hpeer : peer = j.peer) (hsession : control.session_id = j.session_id)
    (htype : control.control_type = if j.greeted then CONTROL_ACK else CONTROL_HELLO)
    (hacknowledged : ∃ last ∈ j.applied.head?, control.acknowledged_sequence = last.sequence) :
    Linked port earlier { j with greeted := true } (.Wrote peer control :: log) o := by
  refine ⟨⟨?_, h.allowed⟩, ?_, h.follows.mono rfl (List.Subset.refl j.taken) rfl⟩
  · simp only [Allowed, h.view]
    exact ⟨hpeer, hsession, htype, hacknowledged⟩
  · rw [view_cons, h.view]
    rfl

/-- One frame in `process_decoded_frame`. -/
theorem process_linked {decoded : Option TouchFrame} {peer : SocketAddr} {o : OrderedFrames} {sink : σ} {c : ControlState}
    (t : Turn) (h : Linked port earlier j log o) (hpeer : peer = j.peer) (hgreeted : Greeted j c)
    (hdecoded : ∀ frame ∈ decoded, j.Has frame) :
    ∃ frames greeted, Linked port earlier { j with applied := frames, greeted := greeted }
        ((((process_decoded_frame decoded t ⟨o, sink, []⟩ c).2.2.2).map (.Wrote peer)).toList ++
          noted (process_decoded_frame decoded t ⟨o, sink, []⟩ c).2.1.trace log)
        (process_decoded_frame decoded t ⟨o, sink, []⟩ c).2.1.ordered ∧
      ((process_decoded_frame decoded t ⟨o, sink, []⟩ c).1 = .finished (.ok ()) →
        Greeted { j with applied := frames, greeted := greeted }
          (process_decoded_frame decoded t ⟨o, sink, []⟩ c).2.2.1) := by
  cases decoded with
  | none => exact ⟨j.applied, j.greeted, h, fun _ => hgreeted⟩
  | some frame =>
    have hpushed : Linked port earlier j (noted [] log) (o.push frame) :=
      ⟨h.allowed, h.view, h.follows.push (hdecoded frame rfl)⟩
    obtain ⟨frames, hlinked, hnone⟩ := commit_ready_linked t.submissions false (i := ⟨o.push frame, sink, []⟩) hpushed
    unfold process_decoded_frame
    dsimp only
    rcases hc : commit_ready false t.submissions ⟨o.push frame, sink, []⟩ with ⟨(e | progressed) | _, i⟩
    all_goals
      rw [hc] at hlinked hnone
      dsimp only at hlinked hnone ⊢
    · exact ⟨frames, j.greeted, hlinked, fun hok => (by cases hok)⟩
    · have hgreeted' : Greeted j (if progressed = true then { c with last_committed_frame := t.committed } else c) := by
        split <;> exact hgreeted
      rcases hs : i.ordered.session_id with _ | session_id
      · exact ⟨frames, j.greeted, hlinked, fun _ => hgreeted'⟩
      · dsimp only
        split
        · exact ⟨frames, j.greeted, hlinked, fun _ => hgreeted'⟩
        · obtain rfl : session_id = j.session_id := hlinked.follows.session session_id hs
          obtain ⟨last, hlast, hsequence⟩ := hlinked.follows.acknowledged hs (hnone progressed rfl)
          obtain ⟨htype, hhello⟩ := answer_type hgreeted' t i.ordered.acknowledged_sequence
          refine ⟨frames, true, ?_, fun _ => hhello⟩
          exact hlinked.writes hpeer (answer_record ..).1 htype ⟨last, hlast, (answer_record ..).2.trans hsequence⟩
    · exact ⟨frames, j.greeted, hlinked, fun hok => (by cases hok)⟩

/-! ## One read -/

/-- The connection is pinned to the session in progress. -/
structure Pinned (port : Nat) (c : UdpConnection) (j : Joined) : Prop where
  port : c.port = port
  peer : c.peer = j.peer
  binding : c.binding = j.binding
  nonce : c.discovery_nonce = j.nonce
  session_id : c.discovery_session_id = j.session_id

/-- Where a read has come from session `j₀`: still in it, perhaps from another port, or in one that has just begun. -/
structure Reads (port : Nat) (earlier₀ : Bool) (j₀ : Joined) (c : UdpConnection) (log : List Notice) (earlier : Bool)
    (j : Joined) : Prop where
  allowed : Justified (Allowed port) log
  view : view log = ⟨earlier, some j⟩
  pinned : Pinned port c j
  kept : c.session_changed = false → earlier = earlier₀ ∧ j = { j₀ with peer := j.peer, nonce := j.nonce }
  begun : c.session_changed = true → j.applied = [] ∧ j.greeted = false

variable {earlier₀ : Bool} {j₀ : Joined} {c : UdpConnection}

theorem Reads.answers (h : Reads port earlier₀ j₀ c log earlier j) {allow_discovery held : Bool}
    (hheld : allow_discovery = !held)
    {p : Poll} {d : Datagram} {hello : Hello} {c' : UdpConnection}
    (hingress : c.binding.accepts_ingress_interface d.ingress_interface = true)
    (hanswer : c.answer_again allow_discovery p d = .ok (some (hello, c'))) :
    ∃ earlier' j', Reads port earlier₀ j₀ c' (.Rejoined hello held :: log) earlier' j' := by
  obtain ⟨hallow, hdatagram, hgreets, hip, hnonce, hc'⟩ := answer_again_some hanswer
  have hidle : held = false := by
    rw [hallow] at hheld
    simpa using hheld.symm
  have hallowed : Allowed port (.Rejoined hello held) log := by
    simp only [Allowed, h.view]
    refine ⟨h.pinned.port ▸ hgreets, ?_, hidle, ?_, fun hsession => ?_⟩
    · rw [hdatagram, ← h.pinned.binding]
      exact hingress
    · rw [hdatagram, hip, h.pinned.peer]
    · rw [← h.pinned.nonce]
      exact hnonce (hsession.trans h.pinned.session_id.symm)
  subst hc' hdatagram
  by_cases hsame : hello.message.session_id = j.session_id
  · refine ⟨earlier, { j with peer := hello.datagram.peer, nonce := hello.message.nonce }, ⟨hallowed, h.allowed⟩,
      ?_, ?_, ?_, ?_⟩
    · rw [view_cons, h.view]
      simp only [View.after, hsame, if_true]
    · exact ⟨h.pinned.port, rfl, h.pinned.binding, rfl, hsame⟩
    · intro hcalm
      simp only [UdpConnection.adopt_discovery, Bool.or_eq_false_iff] at hcalm
      obtain ⟨hearlier, hj⟩ := h.kept hcalm.1
      refine ⟨hearlier, ?_⟩
      rw [hj]
    · intro hchanged
      simp only [UdpConnection.adopt_discovery, h.pinned.session_id, hsame, ne_eq, not_true_eq_false, decide_false,
        Bool.or_false] at hchanged
      exact h.begun hchanged
  · refine ⟨View.left ⟨earlier, some j⟩, .begun hello j.binding, ⟨hallowed, h.allowed⟩, ?_, ?_, ?_, fun _ => ⟨rfl, rfl⟩⟩
    · rw [view_cons, h.view]
      simp only [View.after, hsame, if_false]
    · exact ⟨h.pinned.port, rfl, h.pinned.binding, rfl, rfl⟩
    · intro hcalm
      simp [UdpConnection.adopt_discovery, h.pinned.session_id, hsame] at hcalm

theorem read_reads {allow_discovery held : Bool} (hheld : allow_discovery = !held) (polls : List Poll)
    {answered : List Hello}
    (h : Reads port earlier₀ j₀ c (answered.map (.Rejoined · held) ++ log) earlier j) :
    ∃ earlier' j', Reads port earlier₀ j₀ (c.read allow_discovery polls answered).2.1
        ((c.read allow_discovery polls answered).2.2.map (.Rejoined · held) ++ log) earlier' j' ∧
      ∀ d, (c.read allow_discovery polls answered).1 = .finished (.ok (some d)) → d.peer = j'.peer ∧
        j'.binding.accepts_ingress_interface d.ingress_interface = true ∧ frame_session d.bytes = some j'.session_id := by
  induction polls generalizing c answered earlier j with
  | nil => exact ⟨earlier, j, h, fun _ hd => (by cases hd)⟩
  | cons p polls ih =>
    unfold UdpConnection.read
    split
    · exact ⟨earlier, j, h, fun _ hd => (by cases hd)⟩
    split
    · exact ⟨earlier, j, h, fun _ hd => (by cases hd)⟩
    · exact ⟨earlier, j, h, fun _ hd => (by cases hd)⟩
    rename_i d _
    split
    · exact ih h
    rename_i hingress
    rw [Bool.not_eq_true', Bool.not_eq_false] at hingress
    split
    · rename_i hframe
      split
      · rename_i hsession
        refine ⟨earlier, j, h, fun d' hd => ?_⟩
        cases hd
        rw [← h.pinned.peer, ← h.pinned.binding, ← h.pinned.session_id]
        exact ⟨hframe.1, hingress, hsession⟩
      · exact ih h
    · rcases hanswer : c.answer_again allow_discovery p d with e | _ | ⟨hello, c'⟩
      · exact ⟨earlier, j, h, fun _ hd => (by cases hd)⟩
      · exact ih h
      · obtain ⟨earlier', j', hrejoined⟩ := h.answers hheld hingress hanswer
        have hnext : Reads port earlier₀ j₀ c' ((hello :: answered).map (.Rejoined · held) ++ log) earlier' j' := hrejoined
        exact ih hnext

/-! ## One turn -/

/-- Between two turns of `serve_connection`. -/
structure Serving (port : Nat) (earlier : Bool) (j : Joined) (s : ServeConnection σ) : Prop where
  linked : Linked port earlier j s.log s.ordered
  pinned : Pinned port s.connection j
  greeted : Greeted j s.control
  calm : s.connection.session_changed = false

/-- Whatever became of the turn, a session is in progress. -/
def Open (port : Nat) (log : List Notice) : Prop := Justified (Allowed port) log ∧ ∃ j, (view log).joined = some j

theorem Linked.still {o : OrderedFrames} (h : Linked port earlier j log o) : Open port log :=
  ⟨h.allowed, j, by rw [h.view]⟩

theorem Reads.still (h : Reads port earlier₀ j₀ c log earlier j) : Open port log := ⟨h.allowed, j, by rw [h.view]⟩

theorem note_decoded_pinned (decoded : Except ProtocolError TouchFrame) (now : Nat) (h : Pinned port c j) :
    (c.note_decoded decoded now).peer = c.peer ∧ Pinned port (c.note_decoded decoded now) j ∧
    (c.note_decoded decoded now).session_changed = c.session_changed := by
  cases decoded with
  | ok frame => exact ⟨rfl, ⟨h.port, h.peer, h.binding, h.nonce, h.session_id⟩, rfl⟩
  | error e => exact ⟨rfl, h, rfl⟩

namespace ServeConnection

/-- Only a sink that was serviced goes on to the read. -/
theorem check_keeps (t : ServeTurn) (s : ServeConnection σ) :
    (check t s).2.log = s.log ∧ (check t s).2.connection = s.connection ∧ (check t s).2.control = s.control ∧
    ((check t s).1 = .finished (.ok ()) → (check t s).2.ordered = s.ordered) := by
  unfold check
  split
  · exact ⟨rfl, rfl, rfl, fun hok => (by cases hok)⟩
  split
  · split
    · exact ⟨rfl, rfl, rfl, fun hok => (by cases hok)⟩
    · exact ⟨rfl, rfl, rfl, fun hok => (by cases hok)⟩
    · exact ⟨rfl, rfl, rfl, fun hok => (by cases hok)⟩
  · exact ⟨rfl, rfl, rfl, fun _ => rfl⟩

theorem checked_serving {t : ServeTurn} {s : ServeConnection σ} (h : Serving port earlier j s)
    (hok : (check t s).1 = .finished (.ok ())) : Serving port earlier j (check t s).2 := by
  obtain ⟨hlog, hconnection, hcontrol, hordered⟩ := check_keeps t s
  constructor
  · rw [hlog, hordered hok]
    exact h.linked
  · rw [hconnection]
    exact h.pinned
  · rw [hcontrol]
    exact h.greeted
  · rw [hconnection]
    exact h.calm

theorem receive_reads (t : ServeTurn) {s : ServeConnection σ} (h : Serving port earlier j s) :
    ∃ earlier' j', Reads port earlier j (receive t s).2.connection (receive t s).2.log earlier' j' ∧
      (∀ d, (receive t s).1 = .finished (.ok (some d)) → d.peer = j'.peer ∧
        j'.binding.accepts_ingress_interface d.ingress_interface = true ∧ frame_session d.bytes = some j'.session_id) ∧
      (receive t s).2.ordered = s.ordered ∧ (receive t s).2.control = s.control := by
  have hstart : Reads port earlier j s.connection
      (([] : List Hello).map (.Rejoined · (InputSink.has_active_input s.sink)) ++ s.log) earlier j := by
    refine ⟨h.linked.allowed, h.linked.view, h.pinned, fun _ => ⟨rfl, rfl⟩, fun hchanged => ?_⟩
    rw [h.calm] at hchanged
    cases hchanged
  obtain ⟨earlier', j', hreads, htook⟩ := read_reads rfl t.polls hstart
  exact ⟨earlier', j', hreads, htook, rfl, rfl⟩

theorem change_session_serving {t : ServeTurn} {s : ServeConnection σ} (hfollows : Follows j₀ earlier₀ s.ordered)
    (hgreeted : Greeted j₀ s.control) (h : Reads port earlier₀ j₀ s.connection s.log earlier j) :
    (change_session t s).2.log = s.log ∧
    ((change_session t s).1 = .finished (.ok ()) → Serving port earlier j (change_session t s).2) := by
  unfold change_session
  rw [UdpConnection.take_session_changed]
  rcases hchanged : s.connection.session_changed with _ | _
  · refine ⟨rfl, fun _ => ?_⟩
    obtain ⟨rfl, hj⟩ := h.kept hchanged
    refine ⟨⟨h.allowed, h.view, ?_⟩, ⟨h.pinned.port, h.pinned.peer, h.pinned.binding, h.pinned.nonce, h.pinned.session_id⟩,
      ?_, rfl⟩
    · rw [hj]
      exact hfollows.mono rfl (List.Subset.refl j₀.taken) rfl
    · rw [hj]
      exact hgreeted
  · obtain ⟨happlied, hnew⟩ := h.begun hchanged
    rcases hcancel : cancel_with_deadline t.release.started t.release.attempts s.sink with ⟨(e | ⟨⟨⟩⟩) | _, sink⟩
    · exact ⟨rfl, fun hok => (by cases hok)⟩
    · refine ⟨rfl, fun _ => ⟨⟨h.allowed, h.view, follows_fresh happlied⟩,
        ⟨h.pinned.port, h.pinned.peer, h.pinned.binding, h.pinned.nonce, h.pinned.session_id⟩, ?_, rfl⟩⟩
      rw [Greeted, hnew]
      rfl
    · exact ⟨rfl, fun hok => (by cases hok)⟩

theorem handle_serving {t : ServeTurn} {d : Datagram} {s : ServeConnection σ} (h : Serving port earlier j s)
    (htook : d.peer = j.peer ∧ j.binding.accepts_ingress_interface d.ingress_interface = true ∧
      frame_session d.bytes = some j.session_id) :
    Open port (handle t d s).2.log ∧
    ((handle t d s).1 = .finished (.ok ()) → ∃ earlier' j', Serving port earlier' j' (handle t d s).2) := by
  have htaken : Linked port earlier { j with taken := d :: j.taken } (.Took d :: s.log) s.ordered := by
    refine ⟨⟨?_, h.linked.allowed⟩, ?_, h.linked.follows.mono rfl (List.subset_cons_self d j.taken) rfl⟩
    · simp only [Allowed, h.linked.view]
      exact htook
    · rw [view_cons, h.linked.view]
      rfl
  have hdecoded : ∀ frame ∈ (decode_frame d.bytes).toOption, Joined.Has { j with taken := d :: j.taken } frame := by
    intro frame hframe
    have hdecode : decode_frame d.bytes = .ok frame := by
      rcases hd : decode_frame d.bytes with e | frame'
      · rw [hd] at hframe
        cases hframe
      · rw [hd] at hframe
        cases hframe
        rfl
    have hsession := (decode_frame_fields hdecode).1
    rw [htook.2.2, Option.some.injEq] at hsession
    exact ⟨hsession.symm, d, List.mem_cons_self, hdecode⟩
  unfold handle
  dsimp only
  rcases hversion : decode_datagram d.bytes s.incompatible_version with ⟨_ | version, decoded⟩
  · obtain rfl : decode_frame d.bytes = decoded := congrArg Prod.snd hversion
    obtain ⟨frames, greeted, hlinked, hnext⟩ :=
      process_linked (σ := σ) t.turn htaken h.pinned.peer h.greeted hdecoded
    obtain ⟨hpeer, hpinned, hcalm⟩ := note_decoded_pinned (decode_frame d.bytes) t.noted_now h.pinned
    dsimp only
    rw [hpeer]
    refine ⟨hlinked.still, fun hok => ⟨_, _, hlinked, ?_, hnext hok, hcalm.trans h.calm⟩⟩
    exact ⟨hpinned.port, hpinned.peer, hpinned.binding, hpinned.nonce, hpinned.session_id⟩
  · exact ⟨htaken.still, fun hok => (by cases hok)⟩

theorem turn_serving (t : ServeTurn) {s : ServeConnection σ} (h : Serving port earlier j s) :
    Open port (turn t s).2.log ∧
    ((turn t s).1 = .finished (.ok ()) → ∃ earlier' j', Serving port earlier' j' (turn t s).2) := by
  unfold turn
  have hlog := (check_keeps t s).1
  have hchecked := checked_serving (t := t) h
  have hopen : Open port (check t s).2.log := by
    rw [hlog]
    exact h.linked.still
  rcases hcheck : check t s with ⟨(e | ⟨⟨⟩⟩) | _, s₁⟩
  all_goals
    rw [hcheck] at hchecked hopen
    dsimp only at hchecked hopen ⊢
  · exact ⟨hopen, fun hok => (by cases hok)⟩
  · have hserving := hchecked rfl
    obtain ⟨earlier', j', hreads, htook, hordered, hcontrol⟩ := receive_reads t hserving
    rcases hreceive : receive t s₁ with ⟨(e | received) | _, s₂⟩
    all_goals
      rw [hreceive] at hreads htook hordered hcontrol
      dsimp only at hreads htook hordered hcontrol ⊢
    · exact ⟨hreads.still, fun hok => (by cases hok)⟩
    · obtain ⟨hkept, hchange⟩ := change_session_serving (t := t) (hordered ▸ hserving.linked.follows)
        (hcontrol ▸ hserving.greeted) hreads
      rcases hchanged : change_session t s₂ with ⟨(e | ⟨⟨⟩⟩) | _, s₃⟩
      all_goals
        rw [hchanged] at hkept hchange
        dsimp only at hkept hchange ⊢
      · exact ⟨hkept ▸ hreads.still, fun hok => (by cases hok)⟩
      · cases received with
        | none => exact ⟨hkept ▸ hreads.still, fun _ => ⟨earlier', j', hchange rfl⟩⟩
        | some d => exact handle_serving (hchange rfl) (htook d rfl)
      · exact ⟨hkept ▸ hreads.still, fun hok => (by cases hok)⟩
    · exact ⟨hreads.still, fun hok => (by cases hok)⟩
  · exact ⟨hopen, fun hok => (by cases hok)⟩

theorem serve_connection_open (turns : List ServeTurn) {s : ServeConnection σ} (h : Serving port earlier j s) :
    Open port (serve_connection turns s).2.log := by
  induction turns generalizing s earlier j with
  | nil => exact h.linked.still
  | cons t turns ih =>
    unfold serve_connection
    split
    · exact h.linked.still
    obtain ⟨hopen, hserving⟩ := turn_serving t h
    rcases hturn : turn t s with ⟨(e | ⟨⟨⟩⟩) | _, s'⟩
    all_goals
      rw [hturn] at hopen hserving
      dsimp only at hopen hserving ⊢
    · exact hopen
    · obtain ⟨earlier', j', hserving⟩ := hserving rfl
      exact ih hserving
    · exact hopen

end ServeConnection

/-! ## Every run -/

/-- Between two connections: no session is in progress, and the window waits for one to start. -/
structure Ready (port : Nat) (h : LegacyHost σ) : Prop where
  allowed : Justified (Allowed port) h.log
  closed : (view h.log).joined = none
  session : h.ordered.session_id = none
  empty : ∀ i, h.ordered.buffered i = none
  fresh : h.ordered.requires_session_start = true ∨ (view h.log).earlier = false

omit [InputSink σ] in
theorem new_ready (sink : σ) : Ready port (LegacyHost.new sink) := ⟨trivial, rfl, rfl, fun _ => rfl, .inr rfl⟩

/-- A release that succeeds leaves no input held. -/
def ReleasesInput (σ : Type) [InputSink σ] : Prop :=
  ∀ now (sink sink' : σ), InputSink.cancel_all now sink = (.ok (), sink') → InputSink.has_active_input sink' = false

theorem cancel_releases (hquiet : ReleasesInput σ) {started : Nat} {attempts : List Attempt} {sink sink' : σ}
    (h : cancel_with_deadline started attempts sink = (.finished (.ok ()), sink')) :
    InputSink.has_active_input sink' = false := by
  induction attempts generalizing sink with
  | nil => cases h
  | cons a attempts ih =>
    unfold cancel_with_deadline at h
    rcases hcancel : InputSink.cancel_all a.now sink with ⟨e | ⟨⟨⟩⟩, sink₁⟩
    · rw [hcancel] at h
      dsimp only at h
      split at h
      · cases h
      · exact ih h
    · rw [hcancel] at h
      cases h
      exact hquiet _ _ _ hcancel

omit [InputSink σ] in
/-- No connection is made while input is held. -/
theorem Ready.connects {h : LegacyHost σ} (hready : Ready port h) {hello : Hello} {c : UdpConnection} {now : Nat}
    (hgreets : Greets port hello)
    (hingress : c.binding.accepts_ingress_interface hello.datagram.ingress_interface = true)
    (hc : c = ⟨port, hello.datagram.peer, c.binding, hello.message.nonce, hello.message.session_id, false, now⟩) :
    Linked port (view h.log).earlier (.begun hello c.binding) (.Connected hello c.binding false :: h.log) h.ordered ∧
    Pinned port c (.begun hello c.binding) ∧ c.session_changed = false := by
  refine ⟨⟨⟨?_, hready.allowed⟩, ?_, ?_⟩, ?_, ?_⟩
  · simp only [Allowed, hready.closed]
    exact ⟨hgreets, hingress, trivial⟩
  · rw [view_cons]
    rfl
  · refine ⟨fun i frame hi => ?_, fun session_id hs => ?_, fun _ => ⟨rfl, hready.empty, hready.fresh⟩,
      fun session_id hs => ?_,
      fun last older hcons => (by cases hcons), fun frame hframe => (by cases hframe)⟩
    · rw [hready.empty] at hi
      cases hi
    · rw [hready.session] at hs
      cases hs
    · rw [hready.session] at hs
      cases hs
  · rw [hc]
    exact ⟨rfl, rfl, rfl, rfl, rfl⟩
  · rw [hc]

theorem Open.gives_up (h : Open port log) :
    Justified (Allowed port) (.GaveUp :: log) ∧ (view (.GaveUp :: log)).joined = none := by
  obtain ⟨hallowed, j, hj⟩ := h
  refine ⟨⟨?_, hallowed⟩, rfl⟩
  simp only [Allowed, hj]

omit [InputSink σ] in
theorem ready_fresh {h : LegacyHost σ} (hallowed : Justified (Allowed port) h.log) (hview : (view h.log).joined = none)
    (hordered : h.ordered = .require_fresh_session) : Ready port h where
  allowed := hallowed
  closed := hview
  session := by rw [hordered]; rfl
  empty _ := by rw [hordered]; rfl
  fresh := .inl (by rw [hordered]; rfl)

namespace LegacyHost

theorem Ready.released {h : LegacyHost σ} (hready : Ready port h) (s : Submission) : Ready port (h.release s).2 :=
  ⟨hready.allowed, hready.closed, hready.session, hready.empty, hready.fresh⟩

theorem serve_ready (o : LegacyOptions) (p : LegacyPass) {c : UdpConnection} {h : LegacyHost σ}
    (hlinked : Linked port earlier j h.log h.ordered) (hpinned : Pinned port c j) (hcalm : c.session_changed = false)
    (hnew : j.greeted = false) :
    Justified (Allowed port) (serve o p c h).2.log ∧ ((serve o p c h).1 = .finished .continued →
      Ready port (serve o p c h).2) := by
  have hserving : Serving port earlier j
      (⟨{ h with incompatible_version := none }, .new o.lane_count p.control_now, c⟩ : ServeConnection σ) := by
    refine ⟨hlinked, hpinned, ?_, hcalm⟩
    rw [Greeted, hnew]
    rfl
  have hopen := ServeConnection.serve_connection_open p.turns hserving
  unfold serve
  rcases hserve : ServeConnection.serve_connection p.turns
    (⟨{ h with incompatible_version := none }, .new o.lane_count p.control_now,
      c⟩ : ServeConnection σ) with ⟨(e | ⟨⟨⟩⟩) | _, s⟩
  all_goals
    rw [hserve] at hopen
    dsimp only at hopen ⊢
  · obtain ⟨hallowed, hview⟩ := hopen.gives_up
    split
    · exact ⟨hallowed, fun hok => (by cases hok)⟩
    · unfold release
      dsimp only
      rcases cancel_with_deadline p.recovery.started p.recovery.attempts s.sink with ⟨result | _, sink⟩
      · exact ⟨hallowed, fun _ => ready_fresh hallowed hview rfl⟩
      · exact ⟨hallowed, fun hok => (by cases hok)⟩
  · exact ⟨hopen.1, fun hok => (by cases hok)⟩
  · exact ⟨hopen.1, fun hok => (by cases hok)⟩

theorem search_ready (o : LegacyOptions) (p : LegacyPass) {h : LegacyHost σ} (hready : Ready o.udp_port h)
    (hidle : InputSink.has_active_input h.sink = false) :
    Justified (Allowed o.udp_port) (search o p h).2.log ∧
    ((search o p h).1 = .finished .continued → Ready o.udp_port (search o p h).2) := by
  unfold search
  rcases hconnect : connect_if o.udp_port p.read_timeout p.polls with (e | ⟨hello, c⟩) | _
  · exact ⟨hready.allowed, fun _ => hready⟩
  · obtain ⟨hgreets, hingress, now, hc⟩ := connect_if_ok hconnect
    obtain ⟨hlinked, hpinned, hcalm⟩ := hready.connects hgreets hingress hc
    obtain ⟨hallowed, hview⟩ := hlinked.still.gives_up
    have hlost : Ready o.udp_port { h with log := .GaveUp :: .Connected hello c.binding false :: h.log } := by
      refine ⟨hallowed, hview, hready.session, hready.empty, hready.fresh.imp id fun hearlier => ?_⟩
      simp only [view_cons, View.after, View.left, hearlier, Joined.begun, Option.any_some, List.isEmpty_nil, Bool.not_true,
        Bool.or_false]
    rw [hidle]
    dsimp only
    split
    · exact ⟨hallowed, fun _ => hlost⟩
    · exact ⟨hallowed, fun _ => hlost⟩
    · exact serve_ready o p hlinked hpinned hcalm rfl
  · exact ⟨hready.allowed, fun hok => (by cases hok)⟩

theorem pass_ready (hquiet : ReleasesInput σ) (o : LegacyOptions) (p : LegacyPass) {h : LegacyHost σ}
    (hready : Ready o.udp_port h) :
    Justified (Allowed o.udp_port) (pass o p h).2.log ∧
    ((pass o p h).1 = .finished .continued → Ready o.udp_port (pass o p h).2) := by
  unfold pass
  split
  · exact ⟨hready.allowed, fun hok => (by cases hok)⟩
  split
  · have hreleased := Ready.released hready p.release
    rcases hrelease : h.release p.release with ⟨(e | ⟨⟨⟩⟩) | _, h'⟩
    all_goals rw [hrelease] at hreleased
    · exact ⟨hreleased.allowed, fun _ => hreleased⟩
    · refine search_ready o p hreleased ?_
      unfold release at hrelease
      rcases hcancel : cancel_with_deadline p.release.started p.release.attempts h.sink with ⟨result, sink⟩
      rw [hcancel] at hrelease
      cases hrelease
      exact cancel_releases hquiet hcancel
    · exact ⟨hreleased.allowed, fun hok => (by cases hok)⟩
  · rename_i hactive
    exact search_ready o p hready (Bool.not_eq_true _ ▸ hactive)

theorem run_ready (hquiet : ReleasesInput σ) (o : LegacyOptions) (last : Submission) (passes : List LegacyPass)
    {h : LegacyHost σ} (hready : Ready o.udp_port h) : Justified (Allowed o.udp_port) (run_legacy o last passes h).log := by
  induction passes generalizing h with
  | nil => exact hready.allowed
  | cons p passes ih =>
    unfold run_legacy
    split
    · exact hready.allowed
    obtain ⟨hallowed, hnext⟩ := pass_ready hquiet o p hready
    rcases hpass : pass o p h with ⟨(_ | _ | _) | _, h'⟩
    all_goals
      rw [hpass] at hallowed hnext
      dsimp only at hallowed hnext ⊢
    · exact ih (hnext rfl)
    · exact hallowed
    · exact hallowed
    · exact hallowed

end LegacyHost

/-- Whatever arrives, from whomever, and whatever fails: every frame that the host applies was taken, over the interface of its
phone, from the endpoint whose HELLO it answered last, in the session of that HELLO, and is the next one there; every record
goes to that endpoint and acknowledges what was applied last; and another endpoint or session is only let in while no input
is held, from the same address, and with the nonce of the session if it is the same one. -/
theorem legacy_host_allowed (hquiet : ReleasesInput σ) (o : LegacyOptions) (last : Submission) (passes : List LegacyPass)
    (sink : σ) {e : Notice} {older : List Notice}
    (hlog : e :: older <:+ (LegacyHost.run_legacy o last passes (.new sink)).log) : Allowed o.udp_port e older :=
  (LegacyHost.run_ready hquiet o last passes (new_ready sink)).suffix hlog

/-! ## With the Linux keyboard -/

open Keyboard (KeyboardSink KeySink)
open Keyboard.Linux (Uinput)

/-- `Sink::Keys`. -/
structure Keys {L : Nat} (lane_for : Int → Fin L) where
  keys : KeyboardSink (Uinput L) L

instance {L : Nat} (lane_for : Int → Fin L) : InputSink (Keys lane_for) where
  accept frame now sink := ((sink.keys.accept_at lane_for frame now).1, ⟨(sink.keys.accept_at lane_for frame now).2⟩)
  has_active_input sink := sink.keys.has_active_input
  cancel_all now sink := ((sink.keys.release_all now).1, ⟨(sink.keys.release_all now).2⟩)
  service now sink := ((sink.keys.service_at now).1, ⟨(sink.keys.service_at now).2⟩)

theorem keys_release {L : Nat} (lane_for : Int → Fin L) : ReleasesInput (Keys lane_for) := by
  intro now sink sink' hcancel
  obtain ⟨hok, rfl⟩ := Prod.mk.inj hcancel
  exact Keyboard.Linux.release_idle (s := sink.keys) (Prod.ext hok rfl : sink.keys.release_all now = (.ok (), (sink.keys.release_all now).2))

/-- One frame applies, at the first try. -/
def oneTry : Turn := ⟨[⟨0, [⟨0, false, 0⟩]⟩], 0, 0, .ok ()⟩

/-- A phone at 10.0.0.2, which says HELLO and sends a heartbeat. -/
def hello : Datagram := ⟨encode_discovery DISCOVERY_HELLO 7 0 0, ⟨0x0a000002, 50000⟩, some 3⟩
def beat : Datagram := ⟨heartbeatFront ++ [0, 0, 30, 105] ++ [164, 23], ⟨0x0a000002, 50000⟩, some 3⟩

def poll (received : Received) : Poll :=
  ⟨false, received, false, .ok (some ⟨3⟩), .ok (), .ok (), (.ok 32, .ok 32), .ok (), 0⟩

def serveTurn (polls : List Poll) : ServeTurn :=
  ⟨false, 0, 0, ⟨0, [⟨0, false, 0⟩]⟩, polls, ⟨0, [⟨0, false, 0⟩]⟩, 0, 0, oneTry⟩

def firstPass : LegacyPass where
  stopping := false
  policy := .ok ()
  release := ⟨0, []⟩
  read_timeout := .ok ()
  polls := [poll (.datagram hello)]
  route_protected := .ok ()
  revalidated := .ok ()
  control_now := 0
  turns := [serveTurn [poll (.datagram beat)]]
  shutdown := false
  recovery := ⟨0, []⟩

theorem beat_decoded (incompatible_version : Option UInt8) :
    decode_datagram beat.bytes incompatible_version = (incompatible_version, .ok heartbeat) := by
  rw [decode_datagram, if_neg (by decide)]
  exact congrArg (Prod.mk incompatible_version) heartbeat_accepted

theorem hello_decoded : decode_discovery hello.bytes = some ⟨DISCOVERY_HELLO, 7, 0, 0⟩ := by decide +kernel

def options : LegacyOptions := ⟨true, true, 42825, 2⟩

def keyboard : Keys Keyboard.halves := ⟨.new (.new Keyboard.Linux.twoKeys Keyboard.Linux.oneEvent) none⟩

def beaten : LegacyHost (Keys Keyboard.halves) := LegacyHost.run_legacy options ⟨0, []⟩ [firstPass] (.new keyboard)

theorem hello_acknowledged : send_redundant (encode_discovery DISCOVERY_ACK 7 0 42825) (.ok 32, .ok 32) = .ok () := by
  have hlength : (encode_discovery DISCOVERY_ACK 7 0 42825).length = 32 := by simp [encode_discovery, DISCOVERY_MAGIC]
  simp [send_redundant, send_copy, hlength]

theorem hello_answered : connect_if options.udp_port firstPass.read_timeout firstPass.polls =
    .finished (.ok (⟨hello, ⟨DISCOVERY_HELLO, 7, 0, 0⟩⟩, ⟨42825, beat.peer, ⟨3⟩, 7, 0, false, 0⟩)) := by
  have hingress : hello.ingress_interface = some 3 := rfl
  have hpeer : hello.peer = beat.peer := rfl
  simp [connect_if, connect_loop, firstPass, poll, answer_first, hello_decoded, options, hello_acknowledged, hpeer,
    discovery_port_acceptable, TetherBinding.accepts_ingress_interface, hingress]

theorem beat_read (c : UdpConnection) (hc : c = ⟨42825, beat.peer, ⟨3⟩, 7, 0, false, 0⟩) :
    c.read true [poll (.datagram beat)] [] = (.finished (.ok (some beat)), c, []) := by
  subst hc
  have hmagic : beat.bytes.take 4 = FRAME_MAGIC := by decide
  have hsession : frame_session beat.bytes = some 0 := by decide +kernel
  have hingress : beat.ingress_interface = some 3 := rfl
  simp [UdpConnection.read, poll, hmagic, hsession, hingress, TetherBinding.accepts_ingress_interface]

/-- The state when the phone was found. -/
def found : ServeConnection (Keys Keyboard.halves) where
  ordered := .new
  sink := keyboard
  incompatible_version := none
  log := [.Connected ⟨hello, ⟨DISCOVERY_HELLO, 7, 0, 0⟩⟩ ⟨3⟩ false]
  control := .new 2 0
  connection := ⟨42825, beat.peer, ⟨3⟩, 7, 0, false, 0⟩

/-- A turn that brings a frame. -/
theorem turn_decoded {t : ServeTurn} {s : ServeConnection σ} {d : Datagram} {frame : TouchFrame}
    (hcheck : ServeConnection.check t s = (.finished (.ok ()), s))
    (hread : s.connection.read (!InputSink.has_active_input s.sink) t.polls [] =
    (.finished (.ok (some d)), s.connection, []))
    (hcalm : s.connection.session_changed = false)
    (hdecode : decode_datagram d.bytes s.incompatible_version = (none, .ok frame)) :
    ∃ records, (ServeConnection.turn t s).2.log = records ++
      noted (process_decoded_frame (some frame) t.turn ⟨s.ordered, s.sink, []⟩ s.control).2.1.trace (.Took d :: s.log) := by
  have hreceive : ServeConnection.receive t s = (.finished (.ok (some d)), s) := by
    unfold ServeConnection.receive
    dsimp only
    rw [hread]
    rfl
  have hchange : ServeConnection.change_session t s = (.finished (.ok ()), s) := by
    unfold ServeConnection.change_session
    rw [UdpConnection.take_session_changed, hcalm]
    dsimp only
    rw [← hcalm]
  unfold ServeConnection.turn
  rw [hcheck]
  dsimp only
  rw [hreceive]
  dsimp only
  rw [hchange]
  unfold ServeConnection.handle
  dsimp only
  rw [hdecode]
  exact ⟨_, rfl⟩

theorem serve_one {t : ServeTurn} {s : ServeConnection σ} {e : Notice} (hstopping : t.stopping = false)
    (h : e ∈ (ServeConnection.turn t s).2.log) : e ∈ (ServeConnection.serve_connection [t] s).2.log := by
  unfold ServeConnection.serve_connection
  rw [hstopping]
  rcases hturn : ServeConnection.turn t s with ⟨(_ | _) | _, s'⟩ <;> rw [hturn] at h <;> exact h

/-- A process that finds a phone at once and loses it again. -/
theorem run_one {o : LegacyOptions} {last : Submission} {p : LegacyPass} {h : LegacyHost σ} {hello : Hello}
    {c : UdpConnection}
    {e : Notice} (hstopping : p.stopping = false) (hpolicy : p.policy = .ok ())
    (hidle : InputSink.has_active_input h.sink = false)
    (hconnect : connect_if o.udp_port p.read_timeout p.polls = .finished (.ok (hello, c)))
    (hprotected : p.route_protected = .ok ()) (hrevalidated : p.revalidated = .ok ())
    (he : e ∈ (ServeConnection.serve_connection p.turns
      (⟨⟨h.ordered, h.sink, none, .Connected hello c.binding false :: h.log⟩, .new o.lane_count p.control_now, c⟩ :
        ServeConnection σ)).2.log) : e ∈ (LegacyHost.run_legacy o last [p] h).log := by
  have hserve : e ∈ (LegacyHost.serve o p c { h with log := .Connected hello c.binding false :: h.log }).2.log := by
    unfold LegacyHost.serve
    dsimp only
    rcases hs : ServeConnection.serve_connection p.turns
      (⟨⟨h.ordered, h.sink, none, .Connected hello c.binding false :: h.log⟩, .new o.lane_count p.control_now, c⟩ :
        ServeConnection σ) with ⟨(_ | ⟨⟨⟩⟩) | _, s⟩
    all_goals
      rw [hs] at he
      dsimp only
    · split
      · exact List.mem_cons_of_mem _ he
      · unfold LegacyHost.release
        rcases cancel_with_deadline p.recovery.started p.recovery.attempts _ with ⟨_ | _, sink⟩
        · exact List.mem_cons_of_mem _ he
        · exact List.mem_cons_of_mem _ he
    · exact he
    · exact he
  have hpass : e ∈ (LegacyHost.pass o p h).2.log := by
    unfold LegacyHost.pass LegacyHost.search
    rw [hpolicy, hidle, hconnect, hprotected, hrevalidated]
    exact hserve
  unfold LegacyHost.run_legacy
  rw [hstopping]
  rcases hp : LegacyHost.pass o p h with ⟨(_ | _ | _) | _, h'⟩ <;> rw [hp] at hpass <;> exact hpass

theorem beat_applied : Notice.Applied heartbeat ∈
    (ServeConnection.turn (serveTurn [poll (.datagram beat)]) found).2.log := by
  obtain ⟨records, hlog⟩ := turn_decoded (t := serveTurn [poll (.datagram beat)]) (s := found) rfl
    (beat_read found.connection rfl) rfl (beat_decoded none)
  rw [hlog]
  exact List.mem_append_right _ List.mem_cons_self

theorem beaten_applied : Notice.Applied heartbeat ∈ beaten.log := by
  have hturns : firstPass.turns = [serveTurn [poll (.datagram beat)]] := rfl
  have hfound : (⟨⟨(LegacyHost.new keyboard).ordered, (LegacyHost.new keyboard).sink, none,
      .Connected ⟨hello, ⟨DISCOVERY_HELLO, 7, 0, 0⟩⟩ ⟨3⟩ false :: (LegacyHost.new keyboard).log⟩,
      .new options.lane_count firstPass.control_now, ⟨42825, beat.peer, ⟨3⟩, 7, 0, false, 0⟩⟩ : ServeConnection _) =
        found := rfl
  apply run_one rfl rfl rfl hello_answered rfl rfl
  rw [hturns, hfound]
  exact serve_one rfl beat_applied

theorem legacy_host_allowed_beaten : ∃ older, .Applied heartbeat :: older <:+ beaten.log ∧
    Allowed options.udp_port (.Applied heartbeat) older := by
  obtain ⟨newer, older, hlog⟩ := List.append_of_mem beaten_applied
  have hsuffix : .Applied heartbeat :: older <:+ beaten.log := ⟨newer, hlog.symm⟩
  refine ⟨older, hsuffix, ?_⟩
  unfold beaten at hsuffix
  exact legacy_host_allowed (keys_release Keyboard.halves) options ⟨0, []⟩ [firstPass] keyboard hsuffix

end Trackpad.Legacy
