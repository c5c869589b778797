import Trackpad.RoutePolicy.Journal
/-!
# The journal covers what the policy did

The processes of the policy one after the other, each with its methods one after the other. Every call may fail, a
process may end between any two of its calls, and what is not the journal's may change at any time.
-/

namespace Trackpad.RoutePolicy

open Calls

inductive Request
  | protect (binding : TetherBinding)
  | restore
  | refresh
  | recover

/-- The method of the process `pid` that holds these snapshots. -/
def Request.method (pid : UInt32) (snapshots : List InterfaceSnapshot) : Request → Method
  | .protect binding => protect_interface_inner pid binding snapshots
  | .restore => RoutePolicy.restore snapshots
  | .refresh => do
    let result ← (RoutePolicy.refresh snapshots).attempt
    return (snapshots, result)
  | .recover => do
    let result ← recover_orphaned_policy.attempt
    return (snapshots, result.map fun _ => ())

inductive Happening
  | began (request : Request)
  | called (event : Event Op Ret UInt32)
  | ended (result : Except IoError Unit)
  | crashed

/-- Between two methods, or in one: with the calls it has made and what is left of it. -/
inductive Phase
  | idle (snapshots : List InterfaceSnapshot)
  | running (h : History) (program : Method)

/-- The runs from the journal `s₀` in which methods begin only where they are allowed to; last happening first. -/
inductive Lives (allowed : List Happening → List InterfaceSnapshot → Request → Prop) (s₀ : Registry) :
    List Happening → Registry → Phase → Prop
  | start : Lives allowed s₀ [] { s₀ with written := [] } (.idle [])
  | began {t : List Happening} {s : Registry} {snapshots : List InterfaceSnapshot} {request : Request} :
    Lives allowed s₀ t s (.idle snapshots) → allowed t snapshots request →
    Lives allowed s₀ (.began request :: t) s (.running [] (request.method s.owner.pid snapshots))
  | called {t : List Happening} {s s' : Registry} {h : History} {op : Op} {next : Except UInt32 (Ret op) → Method}
    {r : Except UInt32 (Ret op)} : Lives allowed s₀ t s (.running h (.call op next)) → s.answers op r s' →
    Lives allowed s₀ (.called ⟨op, r⟩ :: t) s' (.running (⟨op, r⟩ :: h) (next r))
  | ended {t : List Happening} {s : Registry} {h : History} {snapshots : List InterfaceSnapshot}
    {result : Except IoError Unit} : Lives allowed s₀ t s (.running h (.ok (snapshots, result))) →
    Lives allowed s₀ (.ended result :: t) s (.idle snapshots)
  | crashed {t : List Happening} {s : Registry} {phase : Phase} (owner : ProcessOwner) : Lives allowed s₀ t s phase →
    Lives allowed s₀ (.crashed :: t) { s with owner := owner, written := [] } (.idle [])

/-- In the running process a removal succeeded and was not flushed. -/
def Unflushed (t : List Happening) (name : String) : Prop :=
  ∃ code t₂ t₁, t = t₂ ++ .called ⟨.RegFlushKey, .error code⟩ :: .called ⟨.RegDeleteValueW name, .ok ()⟩ :: t₁ ∧
    .crashed ∉ t₂

/-- Nothing but recovery begins while the process holds a snapshot whose removal was not flushed. -/
def Flushed (t : List Happening) (snapshots : List InterfaceSnapshot) : Request → Prop
  | .recover => True
  | _ => ∀ snapshot ∈ snapshots, ¬ Unflushed t snapshot.persisted_name

/-! ## One method -/

section
variable {s s' : Registry} {t : List Happening} {snapshots : List InterfaceSnapshot}

theorem Kept.spares {lost : String → Prop} (hk : Kept s lost snapshots) (hs : s.Spares s') : Kept s' lost snapshots where
  each := fun snapshot hmem => (hk.each snapshot hmem).imp_left fun hh => hh.spares hs
  names := hk.names

/-- What is left of a method that began after `t`: its calls are covered, and the snapshots it ends with are kept. -/
def Goes (t : List Happening) (s : Registry) (h : History) (program : Method) : Prop :=
  Keeps (fun s' h' r => ∀ snapshots result, r = .ok (snapshots, result) →
    Kept s' (fun name => Lost h' name ∨ Unflushed t name) snapshots) s h program

theorem method_goes {request : Request} (hk : Kept s (Unflushed t) snapshots) (hallowed : Flushed t snapshots request) :
    Goes t s [] (request.method s.owner.pid snapshots) := by
  have hheld : (∀ snapshot ∈ snapshots, ¬ Unflushed t snapshot.persisted_name) → AllHeld s snapshots := fun hall =>
    ⟨fun snapshot hmem => (hk.each snapshot hmem).resolve_right (hall snapshot hmem), hk.names⟩
  have hleaves : ∀ {p : Method}, Keeps (Leaves s) s [] p → Goes t s [] p := by
    intro p hp
    refine holds_mono hp (fun _ _ _ hd => hd) fun s' h' r hr snapshots result heq => ?_
    obtain ⟨left, _, rfl, -, hkept⟩ := hr
    cases heq
    exact ⟨fun snapshot hmem => (hkept.each snapshot hmem).imp_right .inl, hkept.names⟩
  cases request with
  | protect binding => exact hleaves (keeps_protect rfl (hheld hallowed))
  | restore => exact hleaves (keeps_restore (hheld hallowed))
  | refresh =>
    refine holds_bind (holds_attempt (keeps_refresh (hheld hallowed).each fun h' r => ?_))
    rintro _ _ ⟨⟩
    exact (hheld hallowed).kept _
  | recover =>
    refine holds_bind (holds_attempt (keeps_orphaned fun s' h' r hs => ?_))
    rintro _ _ ⟨⟩
    exact ⟨fun snapshot hmem => ((hk.spares hs).each snapshot hmem).imp_right .inr, hk.names⟩

end

/-! ## Whole runs -/

/-- The snapshots the process holds are kept, or will be. -/
def Phase.Sound (t : List Happening) (s : Registry) : Phase → Prop
  | .idle snapshots => Kept s (Unflushed t) snapshots
  | .running h program => ∃ t₀ request, t = h.map .called ++ .began request :: t₀ ∧ Goes t₀ s h program

section
variable {s₀ s s' : Registry} {t : List Happening} {phase : Phase}

theorem unflushed_append {t t' : List Happening} {name : String} (hu : Unflushed t name) (ht' : .crashed ∉ t') :
    Unflushed (t' ++ t) name := by
  obtain ⟨code, t₂, t₁, rfl, ht₂⟩ := hu
  refine ⟨code, t' ++ t₂, t₁, (List.append_assoc ..).symm, fun hmem => ?_⟩
  exact (List.mem_append.1 hmem).elim ht' ht₂

theorem not_crashed (h : History) : Happening.crashed ∉ h.map Happening.called := by
  simp

theorem Lost.unflushed {h : History} {name : String} (hl : Lost h name) (t : List Happening) :
    Unflushed (h.map .called ++ t) name := by
  obtain ⟨code, h₂, h₁, rfl⟩ := hl
  exact ⟨code, h₂.map .called, h₁.map .called ++ t, by simp, not_crashed h₂⟩

theorem Lives.sound (hrun : Lives Flushed s₀ t s phase) : phase.Sound t s := by
  induction hrun with
  | start => exact ⟨fun _ hmem => (by cases hmem), List.nodup_nil⟩
  | began _ hallowed ih => exact ⟨_, _, rfl, method_goes ih hallowed⟩
  | called _ ha ih =>
    obtain ⟨t₀, request, rfl, hgoes⟩ := ih
    exact ⟨t₀, request, rfl, hgoes.2 _ _ ha⟩
  | @ended t s h snapshots result _ ih =>
    obtain ⟨t₀, request, rfl, hgoes⟩ := ih
    have hkept : Kept s (fun name => Lost h name ∨ Unflushed t₀ name) snapshots := hgoes snapshots result rfl
    refine ⟨fun snapshot hmem => (hkept.each snapshot hmem).imp_right fun hlost => ?_, hkept.names⟩
    rcases hlost with hlost | hlost
    · have hended : Happening.crashed ∉ [Happening.ended result] := by simp
      exact unflushed_append (hlost.unflushed _) hended
    · have happend : Happening.ended result :: (h.map .called ++ .began request :: t₀) =
          (.ended result :: (h.map .called ++ [.began request])) ++ t₀ := by simp
      rw [happend]
      exact unflushed_append hlost (by simp)
  | crashed _ _ _ => exact ⟨fun _ hmem => (by cases hmem), List.nodup_nil⟩

/-- Every call is covered when it is made. -/
theorem Lives.covered {h : History} {op : Op} {next : Except UInt32 (Ret op) → Method}
    (hrun : Lives Flushed s₀ t s (.running h (.call op next))) : Covered s h op := by
  obtain ⟨_, _, _, hgoes⟩ := hrun.sound
  exact hgoes.1

/-- The running process entered the policy, with the flag and the routes as it had just read them. -/
def Wrote (t : List Happening) (name : String) (policy : PersistedPolicy) : Prop :=
  ∃ t₂ h request t₁, t = t₂ ++ .called ⟨.RegSetValueExW name policy, .ok ()⟩ :: (h.map .called ++ .began request :: t₁) ∧
    AsRead h policy ∧ .crashed ∉ t₂

theorem Wrote.cons {name : String} {policy : PersistedPolicy} (hw : Wrote t name policy) {happening : Happening}
    (hlives : happening ≠ .crashed) : Wrote (happening :: t) name policy := by
  obtain ⟨t₂, h, request, t₁, rfl, hread, hsince⟩ := hw
  exact ⟨happening :: t₂, h, request, t₁, rfl, hread, fun hmem => (List.mem_cons.1 hmem).elim (fun h => hlives h.symm) hsince⟩

/-- What the process has in the journal under a name that it wrote is what it wrote. -/
theorem Lives.wrote (hrun : Lives Flushed s₀ t s phase) {name : String} {policy : PersistedPolicy}
    (hwritten : name ∈ s.written) (hentered : s.Entered name policy) : Wrote t name policy := by
  induction hrun with
  | start => cases hwritten
  | began _ _ ih => exact (ih hwritten hentered).cons (by simp)
  | @called t s s' h op next r hbefore ha ih =>
    have hcovered := hbefore.covered
    cases r with
    | error code =>
      obtain ⟨-, rfl⟩ := ha
      exact (ih hwritten hentered).cons (by simp)
    | ok a =>
      obtain ⟨-, rfl⟩ := ha
      cases op with
      | RegSetValueExW name' policy' =>
        obtain ⟨flushed, hmem⟩ := hentered
        rcases List.mem_append.1 hmem with hold | hnew
        · obtain ⟨hmem, hother⟩ := List.mem_filter.1 hold
          have hwritten := (List.mem_cons.1 hwritten).resolve_left (by simpa using hother)
          exact (ih hwritten ⟨flushed, hmem⟩).cons (by simp)
        · -- The entry is the one this call wrote.
          cases List.mem_singleton.1 hnew
          obtain ⟨t₀, request, rfl, -⟩ := hbefore.sound
          exact ⟨[], h, request, t₀, rfl, hcovered.2, by simp⟩
      | RegFlushKey => exact (ih hwritten ((s.entered_flush _ _).1 hentered)).cons (by simp)
      | RegDeleteValueW name' =>
        obtain ⟨flushed, hmem⟩ := hentered
        exact (ih hwritten ⟨flushed, (List.mem_filter.1 hmem).1⟩).cons (by simp)
      | _ => exact (ih hwritten hentered).cons (by simp)
  | ended _ ih => exact (ih hwritten hentered).cons (by simp)
  | crashed owner _ _ => cases hwritten

theorem durable_answers {h : History} {op : Op} {r : Except UInt32 (Ret op)} {name : String} {policy : PersistedPolicy}
    (hcovered : Covered s h op) (ha : s.answers op r s') (hd : s.Durable name policy) :
    s'.Durable name policy ∨ (⟨op, r⟩ : Event Op Ret UInt32) = ⟨.RegDeleteValueW name, .ok ()⟩ := by
  cases r with
  | error code =>
    obtain ⟨-, rfl⟩ := ha
    exact .inl hd
  | ok a =>
    obtain ⟨-, rfl⟩ := ha
    cases op with
    | RegSetValueExW name' policy' =>
      have hother : name ≠ name' := hcovered.1 _ hd
      exact .inl (List.mem_append_left _ (List.mem_filter.2 ⟨hd, by simpa using hother⟩))
    | RegFlushKey => exact .inl (List.mem_map.2 ⟨_, hd, rfl⟩)
    | RegDeleteValueW name' =>
      by_cases hname : name = name'
      · subst hname
        exact .inr rfl
      · exact .inl (List.mem_filter.2 ⟨hd, by simpa using hname⟩)
    | _ => exact .inl hd

/-- The policy lists what the call takes away. -/
def Touches (policy : PersistedPolicy) : Op → Prop
  | .SetIpInterfaceEntry row => policy.Of row.InterfaceIndex row.InterfaceLuid row.Family
  | .DeleteIpForwardEntry2 row => policy.Of row.InterfaceIndex row.InterfaceLuid row.Prefix.si_family ∧
    ∃ route ∈ policy.routes, persist_route row = some route
  | _ => False

theorem Covered.touches {h : History} {op : Op} (hcovered : Covered s h op) (hop : mutates op = true) :
    s.after op = s ∧ ∃ name policy, Touches policy op ∧ s.Secured name policy := by
  cases op with
  | SetIpInterfaceEntry row =>
    obtain ⟨name, policy, hd, hof⟩ := hcovered hop
    exact ⟨rfl, name, policy, hof, hd⟩
  | DeleteIpForwardEntry2 row =>
    obtain ⟨name, policy, hd, hof, -, hlisted⟩ := hcovered
    exact ⟨rfl, name, policy, ⟨hof, hlisted⟩, hd⟩
  | _ => cases hop

/-- Since a route was deleted or a flag set, the entry that the process wrote of it is there unless it was removed. -/
theorem Lives.since (hrun : Lives Flushed s₀ t s phase) {t₂ t₁ : List Happening} {op : Op} {r : Except UInt32 (Ret op)}
    (ht : t = t₂ ++ .called ⟨op, r⟩ :: t₁) (hop : mutates op = true) :
    ∃ name policy, Touches policy op ∧ Wrote t₁ name policy ∧
      (s.Durable name policy ∨ .called ⟨.RegDeleteValueW name, .ok ()⟩ ∈ t₂) := by
  induction hrun generalizing t₂ with
  | start => simp at ht
  | began _ _ ih =>
    cases t₂ with
    | nil => cases ht
    | cons _ t₂ =>
      obtain ⟨name, policy, htouches, hwrote, hthere⟩ := ih (List.cons.inj ht).2
      exact ⟨name, policy, htouches, hwrote, hthere.imp_right (List.mem_cons_of_mem _)⟩
  | called hbefore ha ih =>
    have hcovered := hbefore.covered
    cases t₂ with
    | nil =>
      cases ht
      obtain ⟨hafter, name, policy, htouches, hd, hwritten⟩ := hcovered.touches hop
      refine ⟨name, policy, htouches, hbefore.wrote hwritten ⟨true, hd⟩, .inl ?_⟩
      rcases durable_answers hcovered ha hd with hd' | hremoved
      · exact hd'
      · cases hremoved
        cases hop
    | cons _ t₂ =>
      obtain ⟨rfl, hrest⟩ := List.cons.inj ht
      obtain ⟨name, policy, htouches, hwrote, hd | hremoved⟩ := ih hrest
      · refine ⟨name, policy, htouches, hwrote, ?_⟩
        rcases durable_answers hcovered ha hd with hd' | hremoved
        · exact .inl hd'
        · exact .inr (by rw [hremoved]; exact List.mem_cons_self)
      · exact ⟨name, policy, htouches, hwrote, .inr (List.mem_cons_of_mem _ hremoved)⟩
  | ended _ ih =>
    cases t₂ with
    | nil => cases ht
    | cons _ t₂ =>
      obtain ⟨name, policy, htouches, hwrote, hthere⟩ := ih (List.cons.inj ht).2
      exact ⟨name, policy, htouches, hwrote, hthere.imp_right (List.mem_cons_of_mem _)⟩
  | crashed owner _ ih =>
    cases t₂ with
    | nil => cases ht
    | cons _ t₂ =>
      obtain ⟨name, policy, htouches, hwrote, hthere⟩ := ih (List.cons.inj ht).2
      exact ⟨name, policy, htouches, hwrote, hthere.imp_right (List.mem_cons_of_mem _)⟩

/-- While no method begins after a removal that was not flushed: every call is covered when it is made, and from the call
that deletes a route or sets a flag on, the entry that lists it, which the process wrote with the flag and the routes as
it had read them, is there, flushed, until it is removed. -/
theorem journal_covers (hrun : Lives Flushed s₀ t s phase) :
    (∀ h op next, phase = .running h (.call op next) → Covered s h op) ∧
    ∀ t₂ t₁ op r, t = t₂ ++ .called ⟨op, r⟩ :: t₁ → mutates op = true →
      ∃ name policy, Touches policy op ∧ Wrote t₁ name policy ∧
        (s.Durable name policy ∨ .called ⟨.RegDeleteValueW name, .ok ()⟩ ∈ t₂) := by
  refine ⟨fun h op next hphase => ?_, fun t₂ t₁ op r ht hop => hrun.since ht hop⟩
  subst hphase
  exact hrun.covered

end

/-! ## A phone whose removal may not be flushed -/

/-- A run in a method: whether a removal's flush is denied, what happened, the journal, and what is left of the method. -/
structure Actor where
  denied : Bool
  t : List Happening
  s : Registry
  h : History
  program : Method

/-- Whether the policy set the flag last. -/
def flag_set : List Happening → Bool
  | [] => false
  | .called ⟨.SetIpInterfaceEntry row, .ok _⟩ :: _ => row.DisableDefaultRoutes
  | _ :: t => flag_set t

/-- Whether the last call removed an entry. -/
def just_removed : List Happening → Bool
  | .called ⟨.RegDeleteValueW _, .ok _⟩ :: _ => true
  | _ => false

def tethered_adapter : AdapterIdentity := ⟨"\x7bA\x7d", 7, 3, [], 5, "Remote NDIS", "Ethernet 2"⟩

/-- A phone with an IPv4 interface and no routes. The flush after a removal may be denied. -/
def tethered_answer (denied : Bool) (t : List Happening) (s : Registry) : (op : Op) → Except UInt32 (Ret op)
  | .GetAdaptersAddresses => .ok [(tethered_adapter, [])]
  | .GetIpInterfaceEntry interface_index family =>
    if family = IPV4 then .ok ⟨family, interface_index, 7, flag_set t, 64⟩ else .error ERROR_NOT_FOUND
  | .GetIpForwardTable2 _ => .ok []
  | .RegQueryInfoKeyW => .ok s.entries.length
  | .RegEnumValueW index =>
    Windows.found ERROR_NO_MORE_ITEMS ((s.entries[index]?).map fun entry => (entry.name, entry.value))
  | .RegQueryValueExW .policy name =>
    Windows.found ERROR_FILE_NOT_FOUND ((s.entries.find? fun entry => entry.name = name).map (·.value))
  | .RegQueryValueExW (.interface _) _ => .error ERROR_FILE_NOT_FOUND
  | .RegFlushKey => if denied && just_removed t then .error ERROR_ACCESS_DENIED else .ok ()
  | .RegDeleteValueW name =>
    if s.entries.any fun entry => entry.name = name then .ok () else .error ERROR_FILE_NOT_FOUND
  | .current_exe => .ok s.owner.image_name
  | .GetProcessTimes _ => .ok s.owner.creation_time
  | .GetExitCodeProcess _ => .ok STILL_ACTIVE
  | .QueryFullProcessImageNameW _ => .ok s.owner.image_name
  | .SetIpInterfaceEntry _ | .DeleteIpForwardEntry2 _ | .CreateIpForwardEntry2 _ => .ok ()
  | .RegOpenKeyExW _ | .RegCreateKeyExW | .RegSetValueExW _ _ | .OpenProcess _ => .ok ()

/-- The journal after a call. -/
def Registry.taken (s : Registry) (op : Op) : Except UInt32 (Ret op) → Registry
  | .ok _ => s.after op
  | .error _ => s

theorem tethered_answers (denied : Bool) (t : List Happening) (s : Registry) (op : Op) :
    s.answers op (tethered_answer denied t s op) (s.taken op (tethered_answer denied t s op)) := by
  cases op with
  | GetIpInterfaceEntry interface_index family =>
    simp only [tethered_answer]
    split
    · exact ⟨⟨rfl, rfl⟩, rfl⟩
    · exact ⟨fun hd => (by cases hd), rfl⟩
  | GetIpForwardTable2 family => exact ⟨⟨fun _ hmem => (by cases hmem), List.nodup_nil⟩, rfl⟩
  | RegEnumValueW index =>
    cases hentry : s.entries[index]? with
    | none =>
      have habsent := List.getElem?_eq_none_iff.1 hentry
      simp only [tethered_answer, hentry, Option.map_none, Windows.found]
      exact ⟨fun _ => habsent, rfl⟩
    | some entry =>
      simp only [tethered_answer, hentry, Option.map_some, Windows.found]
      exact ⟨by simp [Registry.tells, hentry], rfl⟩
  | RegQueryValueExW key name =>
    cases key with
    | interface adapter_name => exact ⟨fun hd => (by cases hd), rfl⟩
    | policy =>
      cases hentry : s.entries.find? fun entry => entry.name = name with
      | none =>
        simp only [tethered_answer, hentry, Option.map_none, Windows.found]
        exact ⟨fun _ entry hmem => by simpa using List.find?_eq_none.1 hentry entry hmem, rfl⟩
      | some entry =>
        simp only [tethered_answer, hentry, Option.map_some, Windows.found]
        exact ⟨⟨entry, List.mem_of_find?_eq_some hentry, by simpa using List.find?_some hentry, rfl⟩, rfl⟩
  | RegFlushKey =>
    simp only [tethered_answer]
    split
    · exact ⟨fun hd => (by cases hd), rfl⟩
    · exact ⟨trivial, rfl⟩
  | RegDeleteValueW name =>
    simp only [tethered_answer]
    split
    · next hany =>
      obtain ⟨entry, hmem, hname⟩ := List.any_eq_true.1 hany
      exact ⟨⟨entry, hmem, by simpa using hname⟩, rfl⟩
    · next hany => exact ⟨fun _ entry hmem hname => hany (List.any_eq_true.2 ⟨entry, hmem, by simpa using hname⟩), rfl⟩
  | GetProcessTimes process => exact ⟨fun _ => rfl, rfl⟩
  | GetExitCodeProcess process => exact ⟨fun _ => rfl, rfl⟩
  | QueryFullProcessImageNameW process => exact ⟨fun _ => rfl, rfl⟩
  | current_exe => exact ⟨rfl, rfl⟩
  | RegQueryInfoKeyW => exact ⟨rfl, rfl⟩
  | RegOpenKeyExW key => exact ⟨trivial, rfl⟩
  | _ => exact ⟨trivial, rfl⟩

def Actor.step (a : Actor) : Actor :=
  match a.program with
  | .call op next =>
    let r := tethered_answer a.denied a.t a.s op
    ⟨a.denied, .called ⟨op, r⟩ :: a.t, a.s.taken op r, ⟨op, r⟩ :: a.h, next r⟩
  | _ => a

def Actor.steps : Nat → Actor → Actor
  | 0, a => a
  | n + 1, a => Actor.steps n a.step

def Actor.begin (denied : Bool) (t : List Happening) (s : Registry) (snapshots : List InterfaceSnapshot) (request : Request) :
    Actor :=
  ⟨denied, .began request :: t, s, [], request.method s.owner.pid snapshots⟩

/-- When the method is over, the next one. -/
def Actor.then (a : Actor) (request : Request) : Actor :=
  match a.program with
  | .ok (snapshots, result) => .begin a.denied (.ended result :: a.t) a.s snapshots request
  | _ => a

/-- Whether the next call sets the flag. -/
def Actor.sets (a : Actor) : Bool :=
  match a.program with
  | .call (.SetIpInterfaceEntry row) _ => row.DisableDefaultRoutes
  | _ => false

def empty_registry : Registry := ⟨[], List.nodup_nil, ⟨40, 9, "host.exe"⟩, []⟩

def protect_tethered : Request := .protect ⟨5, tethered_adapter, true⟩

section
variable {allowed : List Happening → List InterfaceSnapshot → Request → Prop} {s₀ : Registry} {a : Actor}

theorem Lives.step (hrun : Lives allowed s₀ a.t a.s (.running a.h a.program)) :
    Lives allowed s₀ a.step.t a.step.s (.running a.step.h a.step.program) := by
  unfold Actor.step
  split
  · next op next hp =>
    rw [hp] at hrun
    exact .called hrun (tethered_answers _ _ _ _)
  · exact hrun

theorem Lives.steps (hrun : Lives allowed s₀ a.t a.s (.running a.h a.program)) (n : Nat) :
    Lives allowed s₀ (a.steps n).t (a.steps n).s (.running (a.steps n).h (a.steps n).program) := by
  induction n generalizing a with
  | zero => exact hrun
  | succ n ih => exact ih hrun.step

theorem Lives.then (hrun : Lives allowed s₀ a.t a.s (.running a.h a.program)) (request : Request)
    (hallowed : ∀ snapshots result, allowed (.ended result :: a.t) snapshots request) :
    Lives allowed s₀ (a.then request).t (a.then request).s (.running (a.then request).h (a.then request).program) := by
  unfold Actor.then
  split
  · next snapshots result hp =>
    rw [hp] at hrun
    exact .began (.ended hrun) (hallowed _ _)
  · exact hrun

theorem Actor.sets_some (hsets : a.sets = true) :
    ∃ row next, a.program = .call (.SetIpInterfaceEntry row) next ∧ row.DisableDefaultRoutes = true := by
  unfold Actor.sets at hsets
  split at hsets
  · next row next hp => exact ⟨row, next, hp, hsets⟩
  · cases hsets

end

/-- Whether every flush succeeded. -/
def flushes (t : List Happening) : Bool :=
  t.all fun happening => match happening with
    | .called ⟨.RegFlushKey, .error _⟩ => false
    | _ => true

theorem flushed_of_flushes {t : List Happening} (hall : flushes t = true) (result : Except IoError Unit)
    (snapshots : List InterfaceSnapshot) (request : Request) : Flushed (.ended result :: t) snapshots request := by
  have hended : flushes (.ended result :: t) = true := hall
  have hnone : ∀ name, ¬ Unflushed (.ended result :: t) name := by
    rintro name ⟨code, t₂, t₁, ht, -⟩
    rw [ht] at hended
    simp [flushes] at hended
  cases request with
  | recover => trivial
  | protect binding => exact fun snapshot _ => hnone _
  | restore => exact fun snapshot _ => hnone _
  | refresh => exact fun snapshot _ => hnone _

/-- Protected and restored. -/
def restored_actor : Actor :=
  ((Actor.begin false [] empty_registry [] protect_tethered).steps 30).then .restore |>.steps 13

/-- Protected, restored and protected again: the flag is set under the new entry, and the old one is gone. -/
theorem journal_covers_again : ∃ row t s phase,
    Lives Flushed empty_registry (.called ⟨.SetIpInterfaceEntry row, .ok ()⟩ :: t) s phase ∧
    row.DisableDefaultRoutes = true ∧ (t.any fun happening => just_removed [happening]) = true ∧
    ∃ name policy, Touches policy (.SetIpInterfaceEntry row) ∧ Wrote t name policy ∧ s.Durable name policy := by
  obtain ⟨a, ha⟩ : ∃ a, a = (restored_actor.then protect_tethered).steps 18 := ⟨_, rfl⟩
  have hrun : Lives Flushed empty_registry a.t a.s (.running a.h a.program) := by
    have hbegan : Lives Flushed empty_registry [.began protect_tethered] empty_registry
        (.running [] (protect_tethered.method 40 [])) := .began (@Lives.start Flushed empty_registry) fun _ hmem => by cases hmem
    have hprotected := Lives.steps (a := .begin false [] empty_registry [] protect_tethered) hbegan 30
    have hrestored := (hprotected.then .restore fun snapshots result =>
      flushed_of_flushes (by decide +kernel) result snapshots .restore).steps 13
    rw [ha]
    exact (hrestored.then protect_tethered fun snapshots result =>
      flushed_of_flushes (by decide +kernel) result snapshots protect_tethered).steps 18
  have hsets : (a.sets && a.t.any fun happening => just_removed [happening]) = true := by
    rw [ha]
    decide +kernel
  rw [Bool.and_eq_true] at hsets
  obtain ⟨row, next, hp, hset⟩ := Actor.sets_some hsets.1
  rw [hp] at hrun
  have hafter := Lives.called (r := .ok ()) hrun ⟨trivial, rfl⟩
  obtain ⟨name, policy, htouches, hwrote, hdurable | hremoved⟩ := (journal_covers hafter).2 [] a.t _ _ rfl hset
  · exact ⟨row, a.t, _, _, hafter, hset, hsets.2, name, policy, htouches, hwrote, hdurable⟩
  · cases hremoved

/-- Protected, restored with the removal not flushed, and protected again: the flag is set with no entry left. -/
theorem unflushed_removal_uncovered : ¬ ∀ s₀ t s h op next,
    Lives (fun _ _ _ => True) s₀ t s (.running h (.call op next)) → Covered s h op := by
  intro hall
  obtain ⟨a, ha⟩ : ∃ a, a = (((((Actor.begin true [] empty_registry [] protect_tethered).steps 30).then .restore).steps 13).then
    protect_tethered).steps 2 := ⟨_, rfl⟩
  have hrun : Lives (fun _ _ _ => True) empty_registry a.t a.s (.running a.h a.program) := by
    have hbegan : Lives (fun _ _ _ => True) empty_registry [.began protect_tethered] empty_registry
        (.running [] (protect_tethered.method 40 [])) := .began (@Lives.start _ empty_registry) trivial
    rw [ha]
    have hprotected := Lives.steps (a := .begin true [] empty_registry [] protect_tethered) hbegan 30
    have hrestored := (hprotected.then .restore fun _ _ => trivial).steps 13
    exact (hrestored.then protect_tethered fun _ _ => trivial).steps 2
  have huncovered : (a.sets && a.s.entries.isEmpty) = true := by
    rw [ha]
    decide +kernel
  rw [Bool.and_eq_true] at huncovered
  obtain ⟨row, next, hp, hset⟩ := Actor.sets_some huncovered.1
  rw [hp] at hrun
  obtain ⟨name, policy, hdurable, -⟩ := hall _ _ _ _ _ _ hrun hset
  rw [Registry.Secured, Registry.Durable, List.isEmpty_iff.1 huncovered.2] at hdurable
  cases hdurable.1

end Trackpad.RoutePolicy
