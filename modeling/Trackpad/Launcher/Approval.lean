import Trackpad.Launcher.Words
import Trackpad.Pairing.Approval
/-!
# The approval through the launcher

The user of the host approves in the window of the launcher. The launcher writes to the host what the user does, the host
prints what happens, and the phone is at the other end: with all three together, what the approval of a phone rests on.
-/

namespace Trackpad.Launcher

open Text Logs Relation
open Pairing (Session State PairCommand HostPhase.comparison Approved phone_records)

variable (platform : Platform)

/-! ## The host between the two -/

/-- A line of the standard input, to the thread of `install_pair_command_thread`. -/
def pair_command (line : List Char) : Option PairCommand :=
  let word := (trim line).map Char.toLower
  if word = "approve".toList then some .Approve
  else if word = "q".toList ∨ word = "cancel".toList then some .Cancel
  else none

/-- The record that a receive of the host returns. -/
def opened_by (t : State) : Pairing.Action → Option OpenedRecord
  | .HostReceives _ (.ok (some number)) => (phone_records t.log)[number]?
  | _ => none

/-- Where `pair` reports that the phone confirmed: it compares, and this is the first confirmation. -/
def confirms (t : State) (a : Pairing.Action) : Bool :=
  match t.host_phase, opened_by t a with
  | .Receiving (.Comparing c), some record =>
    !c.remote_confirmed && record.header.message_type == PHONE_PAIR_CONFIRM && record.header.session_id == 0 &&
      record.header.flags == 0 && record.header.logical_id == 0 && record.payload.isEmpty
  | _, _ => false

/-- The events of a step, the first one first. -/
def new_events (t t' : State) : List Pairing.Event := (t'.log.take (t'.log.length - t.log.length)).reverse

def shown_pattern : Pairing.Event → Option (List UInt8)
  | .HostShows pattern _ => some pattern
  | _ => none

def is_persist : Pairing.Event → Bool
  | .HostPersists _ _ => true
  | _ => false

def completed : Pairing.HostPhase → Bool
  | .Ended (.ok _) => true
  | _ => false

/-- What one step of `pair` reports. The summary of the samples may be any line. -/
def reports (s : Session) (summary : List Char) (t : State) (a : Pairing.Action) (t' : State) : List Console.PairEvent :=
  ((new_events t t').filterMap shown_pattern).map .Pattern ++
  (if confirms t a then [.RemoteConfirmed] else []) ++
  (if s.transport = .Wifi ∧ (new_events t t').any is_persist = true then [.Quality summary] else []) ++
  (if completed t'.host_phase && !completed t.host_phase then [.Complete] else [])

/-- The pairing of the last child, how many lines it took from its standard input, and what it had logged each time the
launcher's user approved it. -/
structure Paired where
  session : Session
  state : State
  taken : Nat
  approvals : List (List Pairing.Event)

structure Joint where
  world : World
  paired : Option Paired

inductive JointAction
  /-- The launcher, its user, or the child but for its pairing; `s` and `now` are those of the child it launches, if any. -/
  | Launches (a : Action) (s : Session) (now : Nat)
  | Pairs (a : Pairing.Action) (summary : List Char)
  /-- The host's thread over the standard input takes a line. -/
  | Takes

/-- The host's own steps. -/
def by_host : Pairing.Action → Bool
  | .HostPolls _ | .HostReceives _ _ | .HostUser _ | .HostDisconnects => true
  | _ => false

/-- An approval reaches the host as a line only. -/
def approves : Pairing.Action → Bool
  | .HostUser .Approve => true
  | _ => false

def is_report : Console.Printed → Bool
  | .Pair _ => true
  | _ => false

/-- A line that only `pair` prints. -/
def Action.reports (a : Action) : Bool := a.printed.any fun line => is_report (heard line)

def Pipe.print_all (events : List Console.PairEvent) (p : Pipe) : Pipe :=
  events.foldl (fun p event => p.print (some event.line)) p

def Paired.clicked (a : Action) (w : World) (p : Paired) : Paired :=
  if user_approves platform a w then { p with approvals := p.state.log :: p.approvals } else p

/-- The pairing that goes on after a step of the launcher. -/
def next_paired (s : Session) (now : Nat) (before : Option Paired) : Option Purpose → Option Paired
  | some (.Pair _) => some ⟨s, .start now, 0, []⟩
  | some (.Control _) => none
  | none => before

def take_line (line : List Char) (p : Paired) : Option Paired :=
  match pair_command line with
  | none => some { p with taken := p.taken + 1 }
  | some command =>
    ((Pairing.Action.HostUser command).step p.session p.state).map fun t => { p with state := t, taken := p.taken + 1 }

def joint_step (a : JointAction) (j : Joint) : Option Joint :=
  match a with
  | .Launches a s now =>
    if j.paired.isSome && a.reports then none
    else (step platform a j.world).map fun w =>
      ⟨w, next_paired s now (j.paired.map (·.clicked platform a j.world)) (launched j.world w)⟩
  | .Pairs a summary => j.paired.bind fun p =>
    if approves a then none
    else (a.step p.session p.state).bind fun t =>
      match alive j.world with
      | some runtime =>
        let stdout := runtime.stdout.print_all (reports p.session summary p.state a t)
        some ⟨with_runtime { runtime with stdout := stdout } j.world, some { p with state := t }⟩
      | none => if by_host a then none else some { j with paired := some { p with state := t } }
  | .Takes => j.paired.bind fun p =>
    match alive j.world, (written j.world.log)[p.taken]? with
    | some _, some line => (take_line line p).map fun p => { j with paired := some p }
    | _, _ => none

def JointReaches (j : Joint) : Prop :=
  ∃ answers, ReflTransGen (fun j j' => ∃ a, joint_step platform a j = some j') ⟨setup platform answers, none⟩ j

/-! ## What the approval rests on -/

/-- The phone's confirmation came, with the pattern shown. -/
def Confirmed (log : List Pairing.Event) : Prop :=
  ∃ newer older record pattern time, log = newer ++ .HostOpened record :: older ∧
    record.header.message_type = PHONE_PAIR_CONFIRM ∧ .HostShows pattern time ∈ older

/-- The launcher's user approved after that. -/
def UserApproved (approvals : List (List Pairing.Event)) (log : List Pairing.Event) : Prop :=
  ∃ clicked ∈ approvals, clicked <:+ log ∧ Confirmed clicked

/-- The host took an approval after that. -/
def ApprovedSinceConfirmed (approvals : List (List Pairing.Event)) (log : List Pairing.Event) : Prop :=
  ∃ newer older, log = newer ++ .Commands .Approve :: older ∧ UserApproved approvals older

theorem Confirmed.suffix {log log' : List Pairing.Event} (hsuffix : log <:+ log') (h : Confirmed log) : Confirmed log' := by
  obtain ⟨newest, rfl⟩ := hsuffix
  obtain ⟨newer, older, record, pattern, time, rfl, htype, hshown⟩ := h
  exact ⟨newest ++ newer, older, record, pattern, time, (List.append_assoc _ _ _).symm, htype, hshown⟩

theorem UserApproved.suffix {approvals : List (List Pairing.Event)} {log log' : List Pairing.Event}
    (hsuffix : log <:+ log') (h : UserApproved approvals log) : UserApproved approvals log' := by
  obtain ⟨clicked, hmem, hbefore, hconfirmed⟩ := h
  exact ⟨clicked, hmem, hbefore.trans hsuffix, hconfirmed⟩

theorem ApprovedSinceConfirmed.suffix {approvals : List (List Pairing.Event)} {log log' : List Pairing.Event}
    (hsuffix : log <:+ log') (h : ApprovedSinceConfirmed approvals log) : ApprovedSinceConfirmed approvals log' := by
  obtain ⟨newest, rfl⟩ := hsuffix
  obtain ⟨newer, older, rfl, hclicked⟩ := h
  exact ⟨newest ++ newer, older, (List.append_assoc _ _ _).symm, hclicked⟩

section

variable (a : Action) (w : World) (p : Paired)

theorem clicked_same : (p.clicked platform a w).session = p.session ∧ (p.clicked platform a w).state = p.state := by
  unfold Paired.clicked
  split <;> exact ⟨rfl, rfl⟩

theorem clicked_more : p.approvals ⊆ (p.clicked platform a w).approvals := by
  unfold Paired.clicked
  split
  · exact List.subset_cons_self _ _
  · exact List.Subset.refl _

end

section

variable {s : Session} {t t' : State} {a : Pairing.Action}

/-- A report of the confirmation is true. -/
theorem confirms_true (hinv : Pairing.Inv s t) (hstep : a.step s t = some t') (h : confirms t a = true) : Confirmed t'.log := by
  unfold confirms at h
  split at h
  · next c record hphase hopened =>
    simp only [Bool.and_eq_true, beq_iff_eq] at h
    have htype := h.1.1.1.1.2
    cases a with
    | HostReceives o received =>
      unfold opened_by at hopened
      split at hopened
      · next o' number heq =>
        cases heq
        obtain ⟨pattern, time, hshown⟩ := Pairing.shown_while_comparing hinv (by rw [hphase]; rfl)
        simp only [Pairing.Action.step, hphase] at hstep
        obtain ⟨⟨result, log'⟩, htaken, rfl⟩ := Option.map_eq_some_iff.1 hstep
        rcases Pairing.taken_some htaken with ⟨_, hnone, _⟩ | ⟨n, record', heq, hrecord, rfl, rfl⟩
        · exact absurd rfl (hnone number)
        · cases heq
          rw [hopened] at hrecord
          cases hrecord
          have hcompared : Pairing.Heeds (fun _ => True) True
              ⟨.Receiving (.Comparing c), t.commands, .HostOpened record :: t.log⟩
              (Pairing.Host.compare_receive s o (some record) c ⟨.Receiving (.Comparing c), t.commands, .HostOpened record :: t.log⟩) :=
            Pairing.Host.heeds_compare_receive (fun _ _ _ _ => trivial) ⟨List.suffix_rfl, List.Subset.refl _, Pairing.justified_any _⟩
              (fun _ => trivial) rfl o _
          obtain ⟨newer, hlog⟩ := hcompared.listens.suffix
          exact ⟨newer, t.log, record, pattern, time, hlog.symm, htype, hshown⟩
      · cases hopened
    | _ => cases hopened
  · cases h

/-- Of all that is printed, one line says that the phone confirmed. -/
theorem reports_heard {summary line : List Char} (hmem : line ∈ (reports s summary t a t').map Console.PairEvent.line)
    (hheard : heard line = .Pair .RemoteConfirmed) : confirms t a = true := by
  have hline := heard_confirmed hheard
  obtain ⟨event, hevent, rfl⟩ := List.mem_map.1 hmem
  have hconfirmed : event = .RemoteConfirmed := by
    cases event with
    | RemoteConfirmed => rfl
    | Waiting => exact absurd hline (by decide)
    | Complete => exact absurd hline (by decide)
    | Pattern pattern =>
      have hother : strip_start "HPT_PAIR PATTERN ".toList "HPT_PAIR CONFIRMED".toList = none := by decide
      have hprinted : (Console.Printed.Pair (.Pattern pattern)).line = "HPT_PAIR CONFIRMED".toList := hline
      rw [pattern_line] at hprinted
      rw [strip_start_eq_some.2 hprinted.symm] at hother
      cases hother
    | Quality summary =>
      have hother : strip_start "HPT_QUALITY ".toList "HPT_PAIR CONFIRMED".toList = none := by decide
      have hprinted : (Console.Printed.Pair (.Quality summary)).line = "HPT_PAIR CONFIRMED".toList := hline
      rw [quality_line] at hprinted
      rw [strip_start_eq_some.2 hprinted.symm] at hother
      cases hother
  subst hconfirmed
  unfold reports at hevent
  simp only [List.mem_append] at hevent
  rcases hevent with ((hpattern | hconfirms) | hquality) | hcomplete
  · obtain ⟨pattern, _, heq⟩ := List.mem_map.1 hpattern
    cases heq
  · split at hconfirms
    · next h => exact h
    · cases hconfirms
  · split at hquality
    · cases List.mem_singleton.1 hquality
    · cases hquality
  · split at hcomplete
    · cases List.mem_singleton.1 hcomplete
    · cases hcomplete

end

/-- The launcher shows a confirmation only if there is one. -/
structure JointInv (j : Joint) : Prop where
  world : Inv platform j.world
  reaches : ∀ p, j.paired = some p → ∃ now, Pairing.Reaches p.session (fun _ _ => True) (.start now) p.state
  heeded : ∀ p, j.paired = some p → Pairing.Heeded (ApprovedSinceConfirmed p.approvals) True p.state
  confirmed : ∀ p, j.paired = some p → ∀ line ∈ words j.world, heard line = .Pair .RemoteConfirmed → Confirmed p.state.log
  approved : ∀ p, j.paired = some p → Approving j.world.log → UserApproved p.approvals p.state.log

section

variable {platform} {j j' : Joint}

/-- A line that is put into a pipe. -/
theorem print_all_unread (events : List Console.PairEvent) (pipe : Pipe) :
    ∀ line ∈ (pipe.print_all events).lines.reduceOption, line ∈ pipe.lines.reduceOption ∨ line ∈ events.map Console.PairEvent.line := by
  induction events generalizing pipe with
  | nil => exact fun line hmem => .inl hmem
  | cons event events ih =>
    intro line hmem
    rcases ih (pipe.print (some event.line)) line hmem with hbefore | hlater
    · unfold Pipe.print at hbefore
      split at hbefore
      · dsimp only at hbefore
        rw [List.reduceOption_append, List.mem_append] at hbefore
        rcases hbefore with hold | hnew
        · exact .inl hold
        · rw [List.mem_singleton.1 hnew]
          exact .inr List.mem_cons_self
      · exact .inl hbefore
    · exact .inr (List.mem_cons_of_mem _ hlater)

/-- Any step of the pairing but an approval out of the blue. -/
theorem pairing_step {p : Paired} {a : Pairing.Action} {t : State} {now : Nat}
    (hreaches : Pairing.Reaches p.session (fun _ _ => True) (.start now) p.state)
    (hheeded : Pairing.Heeded (ApprovedSinceConfirmed p.approvals) True p.state)
    (happroves : a = .HostUser .Approve → UserApproved p.approvals p.state.log)
    (hstep : a.step p.session p.state = some t) :
    (∃ now, Pairing.Reaches p.session (fun _ _ => True) (.start now) t) ∧
      Pairing.Heeded (ApprovedSinceConfirmed p.approvals) True t ∧ p.state.log <:+ t.log := by
  have hinv := Pairing.reaches_inv hreaches
  refine ⟨⟨now, hreaches.tail ⟨a, trivial, hstep⟩⟩, ?_, Pairing.step_suffix hinv hstep⟩
  refine Pairing.heeded_step (fun _ _ hsuffix => ApprovedSinceConfirmed.suffix hsuffix) (fun happrove _ => ?_) hinv hheeded
    (fun _ => trivial) hstep
  exact ⟨[], p.state.log, rfl, happroves happrove⟩

theorem JointInv.pairs (h : JointInv platform j) {p p' : Paired} {w : World} (hworld : Inv platform w) (hpaired : j.paired = some p)
    (hsession : p'.session = p.session) (hsame : p'.approvals = p.approvals) {a : Pairing.Action}
    (hstep : a.step p.session p.state = some p'.state)
    (happroves : a = .HostUser .Approve → UserApproved p.approvals p.state.log) (hlog : w.log = j.world.log)
    (hwords : ∀ line ∈ words w, line ∈ words j.world ∨ (heard line = .Pair .RemoteConfirmed → confirms p.state a = true)) :
    JointInv platform ⟨w, some p'⟩ := by
  obtain ⟨now, hreaches⟩ := h.reaches p hpaired
  obtain ⟨hreaches', hheeded, hsuffix⟩ := pairing_step hreaches (h.heeded p hpaired) happroves hstep
  refine ⟨hworld, fun q hq => ?_, fun q hq => ?_, fun q hq line hmem hheard => ?_, fun q hq happroving => ?_⟩
  · cases hq
    rw [hsession]
    exact hreaches'
  · cases hq
    rw [hsame]
    exact hheeded
  · cases hq
    rcases hwords line hmem with hold | hnew
    · exact (h.confirmed p hpaired line hold hheard).suffix hsuffix
    · exact confirms_true (Pairing.reaches_inv hreaches) hstep (hnew hheard)
  · cases hq
    dsimp only at happroving
    rw [hlog] at happroving
    rw [hsame]
    exact (h.approved p hpaired happroving).suffix hsuffix

theorem joint_step_inv (h : JointInv platform j) {a : JointAction} (hstep : joint_step platform a j = some j') :
    JointInv platform j' := by
  cases a with
  | Launches a s now =>
    unfold joint_step at hstep
    dsimp only at hstep
    split at hstep
    · cases hstep
    · next hquiet =>
      obtain ⟨w, hlauncher, rfl⟩ := Option.map_eq_some_iff.1 hstep
      have hworld := step_inv h.world a hlauncher
      rcases launched_words hlauncher with ⟨hnone, hwords, happroves⟩ | ⟨purpose, hsome, hwords, hunapproved⟩
      · rw [hnone]
        have hconfirmed : ∀ p, j.paired = some p → ∀ line ∈ words w, heard line = .Pair .RemoteConfirmed →
            Confirmed p.state.log := by
          intro p hp line hmem hheard
          rcases List.mem_append.1 (hwords hmem) with hprinted | hold
          · refine absurd ?_ hquiet
            rw [hp]
            simp only [Option.isSome_some, Bool.true_and]
            exact List.any_eq_true.2 ⟨line, hprinted, by rw [hheard]; rfl⟩
          · exact h.confirmed p hp line hold hheard
        refine ⟨hworld, fun q hq => ?_, fun q hq => ?_, fun q hq => ?_, fun q hq happroving => ?_⟩
        all_goals
          obtain ⟨p, hp, rfl⟩ := Option.map_eq_some_iff.1 hq
          obtain ⟨hsession, hstate⟩ := clicked_same platform a j.world p
          have hmore := clicked_more platform a j.world p
        · rw [hsession, hstate]
          exact h.reaches p hp
        · rw [hstate]
          refine (h.heeded p hp).imp fun log hsince => ?_
          obtain ⟨newer, older, hlog, clicked, hmem, hbefore⟩ := hsince
          exact ⟨newer, older, hlog, clicked, hmore hmem, hbefore⟩
        · rw [hstate]
          exact hconfirmed p hp
        · rw [hstate]
          rcases happroves happroving with hold | huser
          · obtain ⟨clicked, hmem, hbefore⟩ := h.approved p hp hold
            exact ⟨clicked, hmore hmem, hbefore⟩
          · -- The launcher takes an approval only since the child said that the phone confirmed.
            obtain ⟨line, hsaid, hheard⟩ := approved_because hworld.justified happroving
            refine ⟨p.state.log, ?_, List.suffix_rfl, hconfirmed p hp line (words_of_said hsaid) hheard⟩
            rw [Paired.clicked, if_pos huser]
            exact List.mem_cons_self
      · rw [hsome]
        cases purpose with
        | Control r =>
          exact ⟨hworld, fun p hp => (by cases hp), fun p hp => (by cases hp), fun p hp => (by cases hp),
            fun p hp => (by cases hp)⟩
        | Pair transport =>
          refine ⟨hworld, fun p hp => ?_, fun p hp => ?_, fun p hp line hmem => ?_, fun p hp happroving => ?_⟩
          · cases hp
            exact ⟨now, .refl⟩
          · cases hp
            exact ⟨trivial, fun _ hmem => (by cases hmem), fun c hc => (by cases hc)⟩
          · rw [hwords] at hmem
            cases hmem
          · exact absurd happroving hunapproved
  | Pairs a summary =>
    obtain ⟨p, hpaired, hpairs⟩ := Option.bind_eq_some_iff.1 hstep
    split at hpairs
    · cases hpairs
    · next hown =>
      obtain ⟨t, hpairing, hprinted⟩ := Option.bind_eq_some_iff.1 hpairs
      have happroves : a = .HostUser .Approve → UserApproved p.approvals p.state.log := by
        rintro rfl
        exact absurd rfl hown
      split at hprinted
      · next runtime halive =>
        cases hprinted
        have hruntime := (Option.filter_eq_some_iff.1 halive).1
        refine h.pairs (h.world.child hruntime rfl rfl rfl) hpaired rfl rfl hpairing happroves rfl fun line hmem => ?_
        rcases List.mem_append.1 hmem with hline | hline
        · exact .inl (words_of_said hline)
        · rcases print_all_unread _ _ line hline with hold | hnew
          · refine .inl (words_of_unread ?_)
            rw [HostState.unread, hruntime]
            exact hold
          · exact .inr fun hheard => reports_heard hnew hheard
      · split at hprinted
        · cases hprinted
        · cases hprinted
          exact h.pairs h.world hpaired rfl rfl hpairing happroves rfl fun line hmem => .inl hmem
  | Takes =>
    obtain ⟨p, hpaired, htakes⟩ := Option.bind_eq_some_iff.1 hstep
    split at htakes
    · next runtime line halive hline =>
      obtain ⟨p', htake, rfl⟩ := Option.map_eq_some_iff.1 htakes
      unfold take_line at htake
      split at htake
      · cases htake
        refine ⟨h.world, fun q hq => ?_, fun q hq => ?_, fun q hq => ?_, fun q hq => ?_⟩
        · cases hq
          exact h.reaches p hpaired
        · cases hq
          exact h.heeded p hpaired
        · cases hq
          exact h.confirmed p hpaired
        · cases hq
          exact h.approved p hpaired
      · next command hcommand =>
        obtain ⟨t, hpairing, rfl⟩ := Option.map_eq_some_iff.1 htake
        refine h.pairs h.world hpaired rfl rfl hpairing (fun happrove => ?_) rfl fun line hmem => .inl hmem
        have hwritten := List.mem_of_getElem? hline
        rcases written_lines h.world.justified line hwritten with rfl | rfl
        · have hcancel : pair_command "q".toList = some .Cancel := by decide
          rw [hcancel] at hcommand
          cases hcommand
          cases happrove
        · exact h.approved p hpaired hwritten
    · cases htakes

end

theorem JointReaches.inv {j : Joint} (h : JointReaches platform j) : JointInv platform j := by
  obtain ⟨answers, h⟩ := h
  induction h with
  | refl => exact ⟨setup_inv platform answers, fun p hp => (by cases hp), fun p hp => (by cases hp), fun p hp => (by cases hp),
      fun p hp => (by cases hp)⟩
  | tail _ hstep ih =>
    obtain ⟨a, hstep⟩ := hstep
    exact joint_step_inv ih hstep

/-- Over every run of launcher, host and phone, of as many pairings as there are: a host persists a phone only after it took
an approval, which the user gave in the launcher after the phone had confirmed, which it did with the pattern shown. -/
theorem persisted_on_approval {j : Joint} (h : JointReaches platform j) {p : Paired} (hp : j.paired = some p) :
    Justified (Approved (ApprovedSinceConfirmed p.approvals)) p.state.log := (h.inv.heeded p hp).justified

/-! ## One pairing -/

def joint_run (actions : List JointAction) (j : Joint) : Option Joint := actions.foldlM (fun j a => joint_step platform a j) j

theorem joint_run_reaches {j j' : Joint} (h : JointReaches platform j) {actions : List JointAction}
    (hrun : joint_run platform actions j = some j') : JointReaches platform j' := by
  induction actions generalizing j with
  | nil =>
    cases hrun
    exact h
  | cons a actions ih =>
    obtain ⟨next, hstep, hrest⟩ := Option.bind_eq_some_iff.1 hrun
    obtain ⟨answers, h⟩ := h
    exact ih ⟨answers, h.tail ⟨a, hstep⟩⟩ hrest

def pairs (actions : List Pairing.Action) : List JointAction := actions.map fun a => .Pairs a "samples 1/1".toList

def launches (a : Action) : JointAction := .Launches a (Pairing.sampled .Wifi) 0

/-- A pairing over Wi-Fi from the click that begins it. The window offers no approval before the confirmation was read. -/
def approved_in_window : List JointAction :=
  [launches (.BeginPairing granted "wifi".toList)] ++ pairs (Pairing.exchanged ++ Pairing.compared.take 11) ++
    [launches (.Approve granted), launches .Reads, launches .Reads, launches (.Approve granted), .Takes] ++
    pairs (Pairing.compared.drop 12)

/-- The phone of that pairing is persisted, on the one approval of the launcher's user that counted. -/
theorem persisted_on_approval_paired :
    ∃ j p, joint_run .Linux approved_in_window ⟨setup .Linux granted, none⟩ = some j ∧ j.paired = some p ∧
      .HostPersists [4] 3000000001 ∈ p.state.log ∧ p.approvals.length = 1 ∧
      Justified (Approved (ApprovedSinceConfirmed p.approvals)) p.state.log := by
  have hruns : ((joint_run .Linux approved_in_window ⟨setup .Linux granted, none⟩).any fun j =>
      j.paired.any fun p => decide (.HostPersists [4] 3000000001 ∈ p.state.log ∧ p.approvals.length = 1)) = true := by
    decide +kernel
  obtain ⟨j, hrun, hpaired⟩ := (Option.any_eq_true _ _).1 hruns
  obtain ⟨p, hp, hstate⟩ := (Option.any_eq_true _ _).1 hpaired
  obtain ⟨hpersisted, happrovals⟩ := of_decide_eq_true hstate
  have hreaches := joint_run_reaches .Linux ⟨granted, .refl⟩ hrun
  exact ⟨j, p, hrun, hp, hpersisted, happrovals, persisted_on_approval .Linux hreaches hp⟩

end Trackpad.Launcher
