import Trackpad.Launcher.Runs
/-!
# The words of a child

Which lines the launcher may still take in: those of the last child that it read and those on the way. A command adds none,
and a new child has said nothing.
-/

namespace Trackpad.Launcher

open Logs

variable (platform : Platform)

/-- The lines of the last child that were read, the last one first. -/
def said : List Event → List (List Char)
  | [] => []
  | .Launched _ _ :: _ => []
  | .Read line :: log => line :: said log
  | _ :: log => said log

/-- The lines on the way. -/
def HostState.unread (s : HostState) : List (List Char) := (s.runtime.map fun runtime => runtime.stdout.lines.reduceOption).getD []

/-- The lines of the last child, read or not. -/
def words (w : World) : List (List Char) := said w.log ++ w.state.unread

/-- The lines written to the last child, the first one first. -/
def written : List Event → List (List Char)
  | [] => []
  | .Launched _ _ :: _ => []
  | .Wrote line :: log => written log ++ [line]
  | _ :: log => written log

/-- What was launched from one state to another. -/
def launched (w w' : World) : Option Purpose :=
  if w.log.length < w'.log.length then
    match w'.log with
    | .Launched purpose _ :: _ => some purpose
    | _ => none
  else none

/-- The launcher approves the pairing at the last child. -/
def Approving (log : List Event) : Prop := "approve".toList ∈ written log

/-- Steps that launch nothing, print nothing and approve only if `allowed`. -/
structure Keeps (allowed : Prop) (w w' : World) : Prop where
  log : ∃ newer, w'.log = newer ++ w.log ∧ ∀ purpose arguments, .Launched purpose arguments ∉ newer
  lines : words w' ⊆ words w
  approves : Approving w'.log → Approving w.log ∨ allowed

/-- What a command does: it may launch a child, which has said nothing. -/
def Follows (allowed : Prop) (w w' : World) : Prop :=
  Keeps allowed w w' ∨
    ∃ w₁ purpose arguments, Keeps allowed w w₁ ∧ w'.log = .Launched purpose arguments :: w₁.log ∧ words w' = []

section

variable {platform} {allowed : Prop} {w w' w'' : World} {answers : Answers}

theorem words_of_said {line : List Char} (h : line ∈ said w.log) : line ∈ words w := List.mem_append_left _ h

theorem words_of_unread {line : List Char} (h : line ∈ w.state.unread) : line ∈ words w := List.mem_append_right _ h

theorem Keeps.refl (w : World) : Keeps allowed w w :=
  ⟨⟨[], rfl, fun _ _ hmem => (by cases hmem)⟩, List.Subset.refl _, .inl⟩

theorem Keeps.trans (h : Keeps allowed w w') (h' : Keeps allowed w' w'') : Keeps allowed w w'' := by
  obtain ⟨newer, hlog, hnone⟩ := h.log
  obtain ⟨newer', hlog', hnone'⟩ := h'.log
  refine ⟨⟨newer' ++ newer, by rw [hlog', hlog, List.append_assoc], fun purpose arguments hmem => ?_⟩,
    List.Subset.trans h'.lines h.lines, fun happroving => (h'.approves happroving).elim h.approves .inr⟩
  exact (List.mem_append.1 hmem).elim (hnone' purpose arguments) (hnone purpose arguments)

/-- The child is the same one, or there is none any more. -/
theorem Keeps.state {s : HostState} (hunread : s.unread ⊆ w.state.unread) : Keeps allowed w { w with state := s } := by
  refine ⟨⟨[], rfl, fun _ _ hmem => (by cases hmem)⟩, fun line hmem => ?_, .inl⟩
  rcases List.mem_append.1 hmem with hline | hline
  · exact words_of_said hline
  · exact words_of_unread (hunread hline)

/-- An event that is neither a launch nor a line. -/
theorem Keeps.event (e : Event) {s : HostState} (hunread : s.unread ⊆ w.state.unread) (hsaid : said (e :: w.log) = said w.log)
    (he : ∀ purpose arguments, e ≠ .Launched purpose arguments)
    (happroves : Approving (e :: w.log) → Approving w.log ∨ allowed) : Keeps allowed w ⟨s, e :: w.log⟩ := by
  refine ⟨⟨[e], rfl, fun purpose arguments hmem => he _ _ (List.mem_singleton.1 hmem).symm⟩, fun line hmem => ?_, happroves⟩
  rcases List.mem_append.1 hmem with hline | hline
  · rw [hsaid] at hline
    exact words_of_said hline
  · exact words_of_unread (hunread hline)

theorem Follows.keeps (h : Keeps allowed w w') : Follows allowed w w' := .inl h

theorem unread_none {s : HostState} (h : s.runtime = none) : s.unread = [] := by
  rw [HostState.unread, h]
  rfl

theorem keeps_drained (w : World) : Keeps allowed w { w with state := drain_runtime_events w.state } := by
  refine .state ?_
  unfold drain_runtime_events
  cases hruntime : w.state.runtime with
  | none => exact List.Subset.refl _
  | some runtime =>
    have hsame : (apply_output runtime.output { w.state with runtime := some { runtime with output := .default } }).unread =
        w.state.unread := by
      rw [HostState.unread, apply_output_runtime, HostState.unread, hruntime]
      rfl
    dsimp only
    rw [hsame]
    exact List.Subset.refl _

/-- The lines that are read when the child is gone were on the way. -/
theorem rest_unread {runtime : HostRuntime} {line : List Char} (h : line ∈ runtime.stdout.rest) :
    line ∈ runtime.stdout.lines.reduceOption := by
  unfold Pipe.rest at h
  split at h
  · rw [List.reduceOption_mem_iff] at h ⊢
    exact (List.takeWhile_subset _) h
  · cases h

theorem said_rest (runtime : HostRuntime) (log : List Event) :
    ∀ line ∈ said (rest_events runtime ++ log), line ∈ runtime.stdout.rest ∨ line ∈ said log := by
  have hread : ∀ e ∈ rest_events runtime, (∃ line ∈ runtime.stdout.rest, e = .Read line) ∨ ∃ line, e = .ReadError line := by
    intro e hmem
    rw [rest_events, List.mem_reverse, List.mem_append, List.mem_map, List.mem_map] at hmem
    rcases hmem with ⟨line, hline, rfl⟩ | ⟨line, _, rfl⟩
    · exact .inl ⟨line, hline, rfl⟩
    · exact .inr ⟨line, rfl⟩
  generalize rest_events runtime = events at hread ⊢
  induction events with
  | nil => exact fun line hmem => .inr hmem
  | cons e events ih =>
    have hrest := ih fun e' hmem => hread e' (List.mem_cons_of_mem _ hmem)
    rcases hread e List.mem_cons_self with ⟨line, hline, rfl⟩ | ⟨line, rfl⟩
    · intro line' hmem
      rcases List.mem_cons.1 hmem with rfl | hmem
      · exact .inl hline
      · exact hrest line' hmem
    · exact hrest

/-- The lines that are read at the end write nothing. -/
theorem written_rest (runtime : HostRuntime) (log : List Event) : written (rest_events runtime ++ log) = written log := by
  have hread : ∀ e ∈ rest_events runtime, (∃ line, e = .Read line) ∨ ∃ line, e = .ReadError line := by
    intro e hmem
    rw [rest_events, List.mem_reverse, List.mem_append, List.mem_map, List.mem_map] at hmem
    rcases hmem with ⟨line, _, rfl⟩ | ⟨line, _, rfl⟩
    · exact .inl ⟨line, rfl⟩
    · exact .inr ⟨line, rfl⟩
  generalize rest_events runtime = events at hread ⊢
  induction events with
  | nil => rfl
  | cons e events ih =>
    have hrest := ih fun e' hmem => hread e' (List.mem_cons_of_mem _ hmem)
    rcases hread e List.mem_cons_self with ⟨line, rfl⟩ | ⟨line, rfl⟩
    · exact hrest
    · exact hrest

theorem keeps_reap_child (platform : Platform) (w : World) (answers : Answers) :
    Keeps allowed w (reap_child platform answers w).2 := by
  have hdrained : Keeps allowed w { w with state := drain_runtime_events w.state } := keeps_drained w
  unfold reap_child
  dsimp only
  split
  · exact hdrained
  · next runtime hruntime =>
    split
    · exact hdrained
    · exact hdrained
    · next success _ _ =>
      refine hdrained.trans ?_
      generalize drain_runtime_events w.state = s at hruntime ⊢
      have hnone : (ensure_route_recovery platform answers.recovery_after
          (ended runtime success (apply_output (read_rest runtime) { s with runtime := none }))).2.unread = [] := by
        obtain ⟨phase, message, needs_admin, heq, _⟩ := recovery_eq platform answers.recovery_after
          (ended runtime success (apply_output (read_rest runtime) { s with runtime := none }))
        obtain ⟨phase', message', fatal_message, heq', _⟩ := ended_eq runtime success
          (apply_output (read_rest runtime) { s with runtime := none })
        refine unread_none ?_
        rw [heq, heq']
        exact apply_output_runtime _ _
      refine ⟨⟨.Reaped success (released_keys platform runtime success) :: rest_events runtime, rfl, ?_⟩, ?_,
        fun happroving => ?_⟩
      · intro purpose arguments hmem
        rcases List.mem_cons.1 hmem with heq | hmem
        · cases heq
        · rw [rest_events, List.mem_reverse, List.mem_append, List.mem_map, List.mem_map] at hmem
          rcases hmem with ⟨line, _, heq⟩ | ⟨line, _, heq⟩ <;> cases heq
      · intro line hmem
        rcases List.mem_append.1 hmem with hline | hline
        · rcases said_rest runtime w.log line hline with hrest | hsaid
          · refine words_of_unread ?_
            dsimp only
            rw [HostState.unread, hruntime]
            exact rest_unread hrest
          · exact words_of_said hsaid
        · dsimp only at hline
          rw [hnone] at hline
          cases hline
      · have hwritten : "approve".toList ∈ written (rest_events runtime ++ w.log) := happroving
        rw [written_rest] at hwritten
        exact .inl hwritten

theorem follows_after_reap {command : World → Reply} (hcommand : ∀ w', Keeps allowed w w' → Follows allowed w (command w').2) :
    Follows allowed w (after_reap platform answers w command).2 := by
  have hreaped : Keeps allowed w (reap_child platform answers w).2 := keeps_reap_child platform w answers
  unfold after_reap
  split
  · next heq =>
    rw [heq] at hreaped
    exact .keeps hreaped
  · next heq =>
    rw [heq] at hreaped
    exact hcommand _ hreaped

theorem follows_after_recovery {w₀ : World} (h : Keeps allowed w₀ w) {command : World → Reply}
    (hcommand : ∀ w', Keeps allowed w₀ w' → Follows allowed w₀ (command w').2) :
    Follows allowed w₀ (after_recovery platform answers w command).2 := by
  obtain ⟨phase, message, needs_admin, hsame, _⟩ := recovery_eq platform answers.recovery w.state
  have hrecovered : Keeps allowed w₀ { w with state := (ensure_route_recovery platform answers.recovery w.state).2 } := by
    rw [hsame]
    exact h.trans (.state (List.Subset.refl _))
  unfold after_recovery
  split
  · next heq =>
    rw [heq] at hrecovered
    exact .keeps hrecovered
  · next heq =>
    rw [heq] at hrecovered
    exact hcommand _ hrecovered

theorem follows_start (w : World) (answers : Answers) (r : StartRequest) :
    Follows allowed w (start_host platform answers r w).2 := by
  have hlaunch : ∀ w', Keeps allowed w w' → Follows allowed w (launch_controller platform answers r w').2 := by
    intro w' hkept
    unfold launch_controller
    split
    · exact .keeps hkept
    · split
      · split
        · exact .keeps hkept
        · exact .keeps hkept
        · exact .inr ⟨w', _, _, hkept, rfl, rfl⟩
      · exact .keeps hkept
  refine follows_after_reap fun w' hkept => ?_
  split
  · exact .keeps hkept
  · split
    · exact .keeps hkept
    · unfold require_pairing
      split
      · split
        · exact .keeps hkept
        · next paired _ =>
          have hfound : Keeps allowed w { state := { w'.state with paired := paired }, log := .Found paired :: w'.log } :=
            hkept.trans (.event (.Found paired) (List.Subset.refl _) rfl (by simp) .inl)
          dsimp only
          split
          · exact follows_after_recovery hfound hlaunch
          · exact .keeps hfound
      · exact follows_after_recovery hkept hlaunch

theorem follows_begin_pairing (w : World) (answers : Answers) (transport : List Char) :
    Follows allowed w (begin_pairing platform answers transport w).2 := by
  refine follows_after_reap fun w' hkept => ?_
  split
  · exact .keeps hkept
  · refine follows_after_recovery hkept fun w'' hkept => ?_
    split
    · exact .keeps hkept
    · split
      · split
        · exact .keeps hkept
        · exact .keeps hkept
        · exact .inr ⟨w'', _, _, hkept, rfl, rfl⟩
      · exact .keeps hkept

theorem keeps_request_stop (w : World) (answers : Answers) : Keeps allowed w (request_stop answers w).2 := by
  unfold request_stop
  split
  · split
    · exact .refl w
    · refine .event (.Wrote "q".toList) (List.Subset.refl _) rfl (by simp) fun happroving => ?_
      rcases List.mem_append.1 happroving with hold | hnew
      · exact .inl hold
      · exact absurd (List.mem_singleton.1 hnew) (by decide)
  · exact .refl w

/-- The user's approval, where the launcher takes it. -/
def user_approves (platform : Platform) (a : Action) (w : World) : Bool :=
  match a with
  | .Approve answers => (approve_pairing platform answers w).1.toBool
  | _ => false

theorem follows_approve (w : World) (answers : Answers) :
    Follows (user_approves platform (.Approve answers) w = true) w (approve_pairing platform answers w).2 := by
  unfold user_approves
  dsimp only
  unfold approve_pairing after_reap
  have hreaped : ∀ allowed : Prop, Keeps allowed w (reap_child platform answers w).2 := fun _ =>
    keeps_reap_child platform w answers
  generalize reap_child platform answers w = reaped at hreaped ⊢
  obtain ⟨_ | error, w'⟩ := reaped
  · refine .keeps ((hreaped _).trans ?_)
    dsimp only
    split
    · split
      · exact .refl _
      · split
        · split
          · exact .refl _
          · exact .event (.Wrote "approve".toList) (List.Subset.refl _) rfl (by simp) fun _ => .inr rfl
        · exact .refl _
    · exact .refl _
  · exact .keeps (hreaped _)

theorem follows_forget (w : World) (answers : Answers) : Follows allowed w (forget_device platform answers w).2 := by
  refine follows_after_reap fun w' hkept => .keeps (hkept.trans ?_)
  split
  · exact .refl _
  · split
    · exact .refl _
    · exact .event .Forgot (List.Subset.refl _) rfl (by simp) .inl

/-- The line that a step prints. -/
def Action.printed : Action → List (List Char)
  | .Prints (some line) => [line]
  | _ => []

theorem keeps_runtime {runtime runtime' : HostRuntime} (hruntime : w.state.runtime = some runtime)
    (hlines : runtime'.stdout.lines.reduceOption ⊆ runtime.stdout.lines.reduceOption) :
    Keeps allowed w (with_runtime runtime' w) := by
  refine .state ?_
  rw [HostState.unread, HostState.unread, hruntime]
  exact hlines

/-- A step launches a child that has said nothing, or it adds at most the line it prints. Only the user approves. -/
theorem follows_step {a : Action} (hstep : step platform a w = some w') :
    Follows (user_approves platform a w = true) w w' ∨ (w'.log = w.log ∧ words w' ⊆ a.printed ++ words w) := by
  cases a with
  | Start answers r =>
    cases hstep
    exact .inl (follows_start w answers r)
  | BeginPairing answers transport =>
    cases hstep
    exact .inl (follows_begin_pairing w answers transport)
  | Approve answers =>
    cases hstep
    exact .inl (follows_approve w answers)
  | Forget answers =>
    cases hstep
    exact .inl (follows_forget w answers)
  | Stop answers =>
    cases hstep
    exact .inl (follows_after_reap fun w' hkept => .keeps (hkept.trans (keeps_request_stop w' answers)))
  | Status answers =>
    cases hstep
    exact .inl (follows_after_reap fun w' hkept => .keeps hkept)
  | Close answers =>
    cases hstep
    exact .inl (.keeps (keeps_request_stop w answers))
  | Prints line =>
    obtain ⟨runtime, halive, rfl⟩ := Option.map_eq_some_iff.1 hstep
    have hruntime := (Option.filter_eq_some_iff.1 halive).1
    refine .inr ⟨rfl, fun line' hmem => ?_⟩
    rcases List.mem_append.1 hmem with hline | hline
    · exact List.mem_append_right _ (words_of_said hline)
    · have hmem' : line' ∈ (runtime.stdout.print line).lines.reduceOption := hline
      have hold : line' ∈ runtime.stdout.lines.reduceOption → line' ∈ words w := fun hold =>
        words_of_unread (by rw [HostState.unread, hruntime]; exact hold)
      unfold Pipe.print at hmem'
      split at hmem'
      · dsimp only at hmem'
        rw [List.reduceOption_append, List.mem_append] at hmem'
        rcases hmem' with hbefore | hnew
        · exact List.mem_append_right _ (hold hbefore)
        · refine List.mem_append_left _ ?_
          cases line with
          | none => cases hnew
          | some text => exact hnew
      · exact List.mem_append_right _ (hold hmem')
  | Complains line =>
    obtain ⟨runtime, halive, rfl⟩ := Option.map_eq_some_iff.1 hstep
    exact .inl (.keeps (keeps_runtime (Option.filter_eq_some_iff.1 halive).1 (List.Subset.refl _)))
  | Exits success =>
    obtain ⟨runtime, halive, rfl⟩ := Option.map_eq_some_iff.1 hstep
    exact .inl (.keeps (keeps_runtime (Option.filter_eq_some_iff.1 halive).1 (List.Subset.refl _)))
  | Reads =>
    obtain ⟨runtime, hruntime, hread⟩ := Option.bind_eq_some_iff.1 hstep
    split at hread
    · next line lines _ hlines =>
      cases hread
      refine .inl (.keeps ⟨⟨[.Read line], rfl, by simp⟩, fun line' hmem => ?_, .inl⟩)
      have hunread : w.state.unread = line :: lines.reduceOption := by
        rw [HostState.unread, hruntime]
        dsimp only [Option.map_some, Option.getD_some]
        rw [hlines]
        rfl
      rcases List.mem_append.1 hmem with hline | hline
      · rcases List.mem_cons.1 hline with rfl | hold
        · exact words_of_unread (by rw [hunread]; exact List.mem_cons_self)
        · exact words_of_said hold
      · exact words_of_unread (by rw [hunread]; exact List.mem_cons_of_mem _ hline)
    · cases hread
      exact .inl (.keeps (keeps_runtime hruntime (List.nil_subset _)))
    · cases hread
  | ReadsError =>
    obtain ⟨runtime, hruntime, hread⟩ := Option.bind_eq_some_iff.1 hstep
    split at hread
    · next line lines _ _ =>
      cases hread
      have hunread : (with_runtime { runtime with
          stderr := ⟨lines, true⟩
          output := parse_host_error_line line runtime.output } w).state.unread ⊆ w.state.unread := by
        rw [HostState.unread, HostState.unread, hruntime]
        exact List.Subset.refl _
      exact .inl (.keeps (.event (.ReadError line) hunread rfl (by simp) .inl))
    · cases hread
      exact .inl (.keeps (keeps_runtime hruntime (List.Subset.refl _)))
    · cases hread

/-! ## What was launched -/

theorem launched_keeps (h : Keeps allowed w w') : launched w w' = none := by
  obtain ⟨newer, hlog, hnone⟩ := h.log
  unfold launched
  split
  · next hlonger =>
    split
    · next purpose arguments older heq =>
      cases newer with
      | nil =>
        rw [hlog] at hlonger
        exact absurd hlonger (Nat.lt_irrefl _)
      | cons e newer =>
        rw [hlog, List.cons_append] at heq
        cases heq
        exact absurd List.mem_cons_self (hnone purpose arguments)
    · rfl
  · rfl

/-- A launch is a new child without words that nobody has approved; without one the words stay, and only the user
approves. -/
theorem launched_words {a : Action} (hstep : step platform a w = some w') :
    (launched w w' = none ∧ words w' ⊆ a.printed ++ words w ∧
      (Approving w'.log → Approving w.log ∨ user_approves platform a w = true)) ∨
    ∃ purpose, launched w w' = some purpose ∧ words w' = [] ∧ ¬ Approving w'.log := by
  rcases follows_step hstep with (hkept | ⟨w₁, purpose, arguments, hkept, hlog, hwords⟩) | ⟨hlog, hwords⟩
  · exact .inl ⟨launched_keeps hkept, fun line hmem => List.mem_append_right _ (hkept.lines hmem), hkept.approves⟩
  · obtain ⟨newer, hlog', _⟩ := hkept.log
    refine .inr ⟨purpose, ?_, hwords, fun happroving => ?_⟩
    rotate_left
    · rw [Approving, hlog] at happroving
      cases happroving
    have hlonger : w.log.length < w'.log.length := by
      rw [hlog, hlog']
      simp
    rw [launched, if_pos hlonger, hlog]
  · refine .inl ⟨?_, hwords, fun happroving => .inl (hlog ▸ happroving)⟩
    rw [launched, hlog, if_neg (Nat.lt_irrefl _)]

theorem heard_confirmed {line : List Char} (h : heard line = .Pair .RemoteConfirmed) : line = "HPT_PAIR CONFIRMED".toList := by
  unfold heard at h
  split at h
  · cases h
  · unfold heard_report at h
    split at h
    · split at h
      · split at h <;> cases h
      · cases h
    · split at h
      · next heq => exact heq
      · split at h
        · cases h
        · split at h <;> cases h

/-- An approval was written because the child said that the phone confirmed. -/
theorem approved_because {log : List Event} (h : Justified (Allowed platform) log) (hmem : Approving log) :
    ∃ line ∈ said log, heard line = .Pair .RemoteConfirmed := by
  have hsaid : ∀ log : List Event, confirmed log = true → ∃ line ∈ said log, heard line = .Pair .RemoteConfirmed := by
    intro log
    induction log with
    | nil => exact fun hfalse => (by cases hfalse)
    | cons e log ih =>
      intro hconfirmed
      cases e with
      | Read line =>
        by_cases hline : heard line = .Pair .RemoteConfirmed
        · exact ⟨line, List.mem_cons_self, hline⟩
        · have hbefore : confirmed log = true := by
            change told_confirmed (confirmed log) (heard line) = true at hconfirmed
            unfold told_confirmed at hconfirmed
            split at hconfirmed
            · next heq => exact absurd heq hline
            · cases hconfirmed
            · exact hconfirmed
          obtain ⟨line', hmem', hheard⟩ := ih hbefore
          exact ⟨line', List.mem_cons_of_mem _ hmem', hheard⟩
      | Wrote line => exact ih (Bool.and_eq_true_iff.1 hconfirmed).2
      | Launched purpose arguments => cases hconfirmed
      | Forgot => cases hconfirmed
      | Found paired => exact ih hconfirmed
      | ReadError line => exact ih hconfirmed
      | Reaped success released => exact ih hconfirmed
  induction log with
  | nil => cases hmem
  | cons e log ih =>
    cases e with
    | Wrote line =>
      rcases List.mem_append.1 hmem with hold | hnew
      · exact ih h.2 hold
      · rcases h.1 with ⟨hstop, _⟩ | ⟨_, hconfirmed, _⟩
        · have happrove := List.mem_singleton.1 hnew
          rw [hstop] at happrove
          exact absurd happrove (by decide)
        · exact hsaid log hconfirmed
    | Read line =>
      obtain ⟨line', hmem', hheard⟩ := ih h.2 hmem
      exact ⟨line', List.mem_cons_of_mem _ hmem', hheard⟩
    | Launched purpose arguments => cases hmem
    | Forgot => exact ih h.2 hmem
    | Found paired => exact ih h.2 hmem
    | ReadError line => exact ih h.2 hmem
    | Reaped success released => exact ih h.2 hmem

/-- The launcher writes two kinds of lines. -/
theorem written_lines {log : List Event} (h : Justified (Allowed platform) log) :
    ∀ line ∈ written log, line = "q".toList ∨ line = "approve".toList := by
  induction log with
  | nil => exact fun line hmem => (by cases hmem)
  | cons e log ih =>
    cases e with
    | Wrote line =>
      intro line' hmem
      rcases List.mem_append.1 hmem with hold | hnew
      · exact ih h.2 line' hold
      · rw [List.mem_singleton.1 hnew]
        exact h.1.imp And.left And.left
    | Launched purpose arguments => exact fun line hmem => (by cases hmem)
    | Read line => exact ih h.2
    | Forgot => exact ih h.2
    | Found paired => exact ih h.2
    | ReadError line => exact ih h.2
    | Reaped success released => exact ih h.2

end

end Trackpad.Launcher
