import Trackpad.NetworkManager.Atomic
/-!
# Edits of others

NetworkManager's settings may be edited between any two calls of a run, and any call may fail, before or
after it took effect. A write only replaces the values it expects.
-/

namespace Trackpad.NetworkManager

open Calls

variable {Device : Type}

inductive Edit
  | profile (uuid : String) (pair : Bool × Bool)
  | active (device_dbus_path uuid : String) (pair : Bool × Bool)

namespace Settings

def edited (s : Settings) : Edit → Settings
  | .profile uuid pair => { s with profile := Function.update s.profile uuid pair }
  | .active path uuid pair => { s with active := Function.update s.active path (uuid, pair) }

end Settings

/-- What the backend may answer, the settings it reads and writes being NetworkManager's. -/
def machine (Device : Type) : Machine (Op Device) Ret String Settings Edit where
  answers s op r s' :=
    match r with
    | .ok a => s.Answers op a ∧ s' = s.after op
    | .error _ => s' = s ∨ s' = s.after op
  edits s e s' := s' = s.edited e

/-! ## What a run read -/

/-- The persistent values read, the last first. -/
def profile_reads : History Device → List (String × Except String (Bool × Bool))
  | [] => []
  | ⟨.read_profile uuid, r⟩ :: h => (uuid, r) :: profile_reads h
  | _ :: h => profile_reads h

def active_reads : History Device → List (String × Except String (String × Bool × Bool))
  | [] => []
  | ⟨.read_active path, r⟩ :: h => (path, r) :: active_reads h
  | _ :: h => active_reads h

/-- The persistent values the run captured: the first it read. -/
def captured_profile (h : History Device) : Option (Bool × Bool) :=
  (profile_reads h).getLast?.bind fun read => read.2.toOption

def captured_active (h : History Device) : Option (Bool × Bool) :=
  (active_reads h).getLast?.bind fun read => read.2.toOption.map Prod.snd

theorem profile_reads_append (h₂ h₁ : History Device) :
    profile_reads (h₂ ++ h₁) = profile_reads h₂ ++ profile_reads h₁ := by
  induction h₂ with
  | nil => rfl
  | cons event h₂ ih =>
    obtain ⟨op, r⟩ := event
    cases op <;> simp only [List.cons_append, profile_reads, ih]

theorem active_reads_append (h₂ h₁ : History Device) :
    active_reads (h₂ ++ h₁) = active_reads h₂ ++ active_reads h₁ := by
  induction h₂ with
  | nil => rfl
  | cons event h₂ ih =>
    obtain ⟨op, r⟩ := event
    cases op <;> simp only [List.cons_append, active_reads, ih]

theorem captured_profile_append (h₂ : History Device) {h₁ : History Device} {pair : Bool × Bool}
    (hc : captured_profile h₁ = some pair) : captured_profile (h₂ ++ h₁) = some pair := by
  unfold captured_profile at hc ⊢
  rw [profile_reads_append, List.getLast?_append]
  cases hl : (profile_reads h₁).getLast? with
  | none =>
    rw [hl] at hc
    cases hc
  | some read =>
    rw [hl] at hc
    exact hc

theorem captured_active_append (h₂ : History Device) {h₁ : History Device} {pair : Bool × Bool}
    (hc : captured_active h₁ = some pair) : captured_active (h₂ ++ h₁) = some pair := by
  unfold captured_active at hc ⊢
  rw [active_reads_append, List.getLast?_append]
  cases hl : (active_reads h₁).getLast? with
  | none =>
    rw [hl] at hc
    cases hc
  | some read =>
    rw [hl] at hc
    exact hc

/-! ## What a run writes -/

/-- A write between the values captured and the values requested, either way. -/
def Swaps (original requested expected desired : Bool × Bool) : Prop :=
  (expected = original ∧ desired = requested) ∨ (expected = requested ∧ desired = original)

/-- A write to the target's own settings. -/
def Owned (target : Target Device) (requested : Bool × Bool) : Op Device → Prop
  | .update_profile uuid expected desired =>
    uuid = target.connection_uuid ∧ Swaps target.profile_never_default requested expected desired
  | .apply_active path uuid expected desired =>
    path = target.device_dbus_path ∧ uuid = target.connection_uuid ∧
      Swaps target.applied_never_default requested expected desired
  | _ => True

theorem owned_read {target : Target Device} {requested : Bool × Bool} {op : Op Device} (h : IsRead op) :
    Owned target requested op := by
  cases op <;> first | exact True.intro | exact h.elim

/-- Every value read is the captured or the requested one. -/
structure Settled (target : Target Device) (requested : Bool × Bool) (h : History Device) : Prop where
  profile : ∀ read ∈ profile_reads h, read.2 = .ok target.profile_never_default ∨ read.2 = .ok requested
  active : ∀ read ∈ active_reads h, ∃ uuid, read.2 = .ok (uuid, target.applied_never_default) ∨ read.2 = .ok (uuid, requested)

/-- Nothing but device names, states and versions was read. -/
def Unread (h h' : History Device) : Prop :=
  profile_reads h' = profile_reads h ∧ active_reads h' = active_reads h

/-! ## The target -/

theorem active_devices_always (devices : List Device) (h : History Device) :
    Always (fun _ => IsRead) (fun h' _ => Unread h h') h (active_devices devices) := by
  induction devices generalizing h with
  | nil => exact ⟨rfl, rfl⟩
  | cons device devices ih =>
    unfold active_devices
    apply always_ask trivial
    · exact fun _ => ⟨rfl, rfl⟩
    intro interface_name
    split
    · exact ⟨rfl, rfl⟩
    apply always_ask trivial
    · exact fun _ => ⟨rfl, rfl⟩
    intro output
    rcases parse_active_device output with e | _ | ⟨connection_uuid, device_dbus_path⟩
    · exact ⟨rfl, rfl⟩
    · exact always_mono (ih _) (fun _ _ => id) fun _ _ => id
    apply always_ask trivial
    · exact fun _ => ⟨rfl, rfl⟩
    intro present
    split
    · exact ⟨rfl, rfl⟩
    apply always_bind
    apply always_mono (ih _) fun _ _ => id
    intro h' r hr
    cases r <;> exact hr

theorem find_device_always (h : History Device) :
    Always (fun _ => IsRead) (fun h' _ => Unread h h') h (find_device : Fallible Device _) := by
  unfold find_device
  apply always_ask trivial
  · exact fun _ => ⟨rfl, rfl⟩
  intro running
  split
  · exact ⟨rfl, rfl⟩
  apply always_ask trivial
  · exact fun _ => ⟨rfl, rfl⟩
  intro version
  rcases parse_network_manager_version version with e | version
  · exact ⟨rfl, rfl⟩
  simp only [Prog.ofExcept, Prog.ok_bind]
  split
  · exact ⟨rfl, rfl⟩
  apply always_ask trivial
  · exact fun _ => ⟨rfl, rfl⟩
  intro devices
  apply always_bind
  apply always_mono (active_devices_always devices _) fun _ _ => id
  intro h' r hr
  rcases r with e | (_ | ⟨found, _ | ⟨_, _⟩⟩) <;> exact hr

/-- The values of the target are those just read. -/
def Inspected (h h' : History Device) (target : Target Device) : Prop :=
  profile_reads h' = (target.connection_uuid, .ok target.profile_never_default) :: profile_reads h ∧
  active_reads h' =
    (target.device_dbus_path, .ok (target.connection_uuid, target.applied_never_default)) :: active_reads h

theorem resolve_always (h : History Device) :
    Always (fun _ => IsRead) (fun h' r => ∀ target, r = .ok (.Target target) → Inspected h h' target) h
      (resolve_target : Fallible Device _) := by
  unfold resolve_target
  apply always_bind
  apply always_mono (find_device_always h) fun _ _ => id
  intro h₁ r hread
  have herror : ∀ {h' : History Device} {e : String}, ∀ target : Target Device,
      (Except.error e : Except String (Resolution Device)) = .ok (.Target target) → Inspected h h' target := by
    intro h' e target hr
    cases hr
  rcases r with e | (message | ⟨device, interface_name, connection_uuid, device_dbus_path⟩)
  · exact herror
  · intro target hr
    cases hr
  dsimp only
  unfold inspect
  apply always_ask trivial
  · exact fun _ => herror
  intro profile
  apply always_ask trivial
  · exact fun _ => herror
  rintro ⟨applied_uuid, applied⟩
  dsimp only
  split
  · exact herror
  rename_i huuid
  apply always_ask trivial
  · exact fun _ => herror
  intro present
  split
  · exact herror
  apply always_ask trivial
  · exact fun _ => herror
  intro routes
  apply always_ask trivial
  · exact fun _ => herror
  intro present
  split
  · exact herror
  · intro target hr
    obtain rfl := Resolution.Target.inj (Except.ok.inj hr)
    obtain rfl := not_not.1 huuid
    exact ⟨congrArg _ hread.1, congrArg _ hread.2⟩

/-! ## Writes -/

section
variable {target : Target Device} {requested : Bool × Bool}

theorem apply_from_always {expected desired : Bool × Bool}
    (hs : Swaps target.applied_never_default requested expected desired) (h : History Device) :
    Always (fun _ => Owned target requested) (fun h' _ => Unread h h') h (apply_profile_from target expected desired) := by
  unfold apply_profile_from
  apply always_ask ⟨rfl, rfl, hs⟩
  · exact fun _ => ⟨rfl, rfl⟩
  intro _
  apply always_ask trivial
  · exact fun _ => ⟨rfl, rfl⟩
  intro present
  cases present <;> exact ⟨rfl, rfl⟩

/-- The active values are only applied over the captured ones, and what was read is one of the two. -/
theorem apply_always {h : History Device} (hset : Settled target requested h) :
    Always (fun _ => Owned target requested) (fun h' r => r = .ok () → Settled target requested h') h
      (apply_profile target requested) := by
  unfold apply_profile
  apply always_ask trivial
  · exact fun _ hr => (by cases hr)
  rintro ⟨uuid, current⟩
  dsimp only
  split
  · exact fun hr => (by cases hr)
  split
  · exact fun hr => (by cases hr)
  rename_i hcurrent
  have hread : Settled target requested
      (⟨Op.read_active target.device_dbus_path, .ok (uuid, current)⟩ :: h : History Device) := by
    refine ⟨hset.profile, fun read hr => ?_⟩
    rcases List.mem_cons.1 hr with rfl | hr
    · refine ⟨uuid, ?_⟩
      rcases Decidable.or_iff_not_not_and_not.2 hcurrent with rfl | rfl
      · exact .inl rfl
      · exact .inr rfl
    · exact hset.active read hr
  split
  · apply always_ask trivial
    · exact fun _ hr => (by cases hr)
    intro present
    cases present
    · exact fun hr => (by cases hr)
    · exact fun _ => ⟨hread.profile, hread.active⟩
  · rename_i hother
    have horiginal : current = target.applied_never_default := by
      by_contra hne
      exact hcurrent ⟨hne, hother⟩
    apply always_mono (apply_from_always (.inl ⟨horiginal, rfl⟩) _) fun _ _ => id
    intro h' r hun _
    refine ⟨?_, ?_⟩
    · rw [hun.1]
      exact hread.profile
    · rw [hun.2]
      exact hread.active

theorem rollback_persistent_always (h : History Device) :
    Always (fun _ => Owned target requested) (fun _ _ => True) h (rollback_persistent target requested) := by
  unfold rollback_persistent
  apply always_attempt_ask trivial
  intro r
  rcases r with error | current
  · trivial
  dsimp only
  split
  · trivial
  split
  · apply always_ask ⟨rfl, .inr ⟨rfl, rfl⟩⟩
    · exact fun _ => trivial
    intro _
    apply always_attempt_ask trivial
    intro r
    rcases r with error | current
    · trivial
    · dsimp only
      split <;> trivial
  · trivial

theorem rollback_active_always (h : History Device) :
    Always (fun _ => Owned target requested) (fun _ _ => True) h (rollback_active target requested) := by
  unfold rollback_active
  apply always_ask trivial
  · exact fun _ => trivial
  intro present
  split
  · trivial
  apply always_attempt_ask trivial
  intro r
  rcases r with error | ⟨uuid, current⟩
  · trivial
  dsimp only
  split
  · trivial
  split
  · trivial
  split
  · exact always_mono (apply_from_always (.inr ⟨rfl, rfl⟩) _) (fun _ _ => id) fun _ _ _ => trivial
  · trivial

theorem verify_routes_always (h : History Device) :
    Always (fun _ => Owned target requested) (fun _ _ => True) h (verify_routes target) := by
  unfold verify_routes
  apply always_ask trivial
  · exact fun _ => trivial
  intro present
  split
  · trivial
  apply always_ask trivial
  · exact fun _ => trivial
  intro current
  split <;> trivial

theorem rollback_always (h : History Device) :
    Always (fun _ => Owned target requested) (fun _ _ => True) h (rollback_profile target requested) := by
  unfold rollback_profile
  apply always_attempt
  apply always_mono (rollback_persistent_always h) fun _ _ => id
  intro h₁ persistent _
  apply always_attempt
  apply always_mono (rollback_active_always h₁) fun _ _ => id
  intro h₂ active _
  apply always_attempt
  apply always_mono (verify_routes_always h₂) fun _ _ => id
  intro h₃ routes _
  dsimp only
  split <;> trivial

section
variable [DecidableEq Device]

theorem confirm_always (h : History Device) :
    Always (fun _ => Owned target requested) (fun _ _ => True) h (confirm_original_or_rollback target requested) := by
  unfold confirm_original_or_rollback
  apply always_attempt
  apply always_mono (resolve_always h) fun _ op => owned_read
  intro h' r _
  rcases r with error | (current | message)
  · exact rollback_always h'
  · dsimp only
    split
    · trivial
    · exact rollback_always h'
  · exact rollback_always h'

end

/-- Whatever the rollback does, the run ends with an error. -/
theorem fail_always {α : Type} {Q : History Device → Except String α → Prop} (hq : ∀ h e, Q h (.error e)) (error : String)
    {rollback : Fallible Device Unit} {h : History Device}
    (hr : Always (fun _ => Owned target requested) (fun _ _ => True) h rollback) :
    Always (fun _ => Owned target requested) Q h (fail_with_rollback error rollback) := by
  unfold fail_with_rollback
  apply always_attempt
  exact always_mono hr (fun _ _ => id) fun h' r _ => hq h' _

/-- From its first write on, a run writes only the target's own values, and succeeds only if it read
no others. -/
theorem change_always [DecidableEq Device] {enabled : Bool} {h : History Device} (hset : Settled target (enabled, enabled) h) :
    Always (fun _ => Owned target (enabled, enabled)) (fun h' r => ∀ status, r = .ok status → Settled target (enabled, enabled) h')
      h (change_settings target enabled) := by
  have hfail : ∀ (h' : History Device) (e : String), ∀ status : LinuxLocalOnlyStatus,
      (Except.error e : Except String LinuxLocalOnlyStatus) = .ok status → Settled target (enabled, enabled) h' := by
    intro h' e status hr
    cases hr
  unfold change_settings
  apply always_attempt_ask ⟨rfl, .inl ⟨rfl, rfl⟩⟩
  intro r
  rcases r with error | _
  · exact fail_always hfail _ (confirm_always _)
  apply always_attempt_ask trivial
  intro r
  rcases r with error | current
  · exact fail_always hfail _ (rollback_always _)
  dsimp only
  split
  · exact fail_always hfail _ (rollback_always _)
  rename_i hcurrent
  obtain rfl := not_not.1 hcurrent
  apply always_ask trivial
  · exact fun e => hfail _ e
  intro present
  split
  · exact fail_always hfail _ (rollback_always _)
  apply always_attempt
  have hread : Settled target (enabled, enabled)
      (⟨Op.verify_device target.device, .ok present⟩ ::
        ⟨Op.read_profile target.connection_uuid, .ok (enabled, enabled)⟩ ::
        ⟨Op.update_profile target.connection_uuid target.profile_never_default (enabled, enabled), .ok ()⟩ :: h :
        History Device) := by
    refine ⟨fun read hr => ?_, hset.active⟩
    rcases List.mem_cons.1 hr with rfl | hr
    · exact .inr rfl
    · exact hset.profile read hr
  apply always_mono (apply_always hread) fun _ _ => id
  intro h₁ r hsettled
  rcases r with error | _
  · exact fail_always hfail _ (rollback_always _)
  apply always_attempt
  apply always_mono (resolve_always h₁) fun _ op => owned_read
  intro h₂ r hinspected
  rcases r with error | (current | message)
  · exact fail_always hfail _ (rollback_always _)
  · dsimp only
    split
    · rename_i hretained
      intro status _
      obtain ⟨hprofile, hactive⟩ := hinspected current rfl
      have hkept := settings_all_iff.1 (retained_settings hretained)
      refine ⟨?_, ?_⟩
      · rw [hprofile]
        intro read hr
        rcases List.mem_cons.1 hr with rfl | hr
        · exact .inr (congrArg _ hkept.1)
        · exact (hsettled rfl).profile read hr
      · rw [hactive]
        intro read hr
        rcases List.mem_cons.1 hr with rfl | hr
        · exact ⟨_, .inr (congrArg _ (congrArg _ hkept.2))⟩
        · exact (hsettled rfl).active read hr
    · exact fail_always hfail _ (rollback_always _)
  · exact fail_always hfail _ (rollback_always _)

end

/-! ## A whole run -/

/-- A read, or a write between what the run captured and what it is asked for. -/
def Disciplined (requested : Bool × Bool) (h : History Device) (op : Op Device) : Prop :=
  IsRead op ∨ ∃ target, captured_profile h = some target.profile_never_default ∧
    captured_active h = some target.applied_never_default ∧ Owned target requested op

/-- Every value the run read is one it captured or is asked for. -/
structure Steady (requested : Bool × Bool) (h : History Device) : Prop where
  profile : ∀ read ∈ profile_reads h, ∃ pair, read.2 = .ok pair ∧ (captured_profile h = some pair ∨ pair = requested)
  active : ∀ read ∈ active_reads h, ∃ uuid pair, read.2 = .ok (uuid, pair) ∧
    (captured_active h = some pair ∨ pair = requested)

theorem settled_steady {target : Target Device} {requested : Bool × Bool} {h : History Device}
    (hs : Settled target requested h) (hp : captured_profile h = some target.profile_never_default)
    (ha : captured_active h = some target.applied_never_default) : Steady requested h where
  profile read hr := by
    rcases hs.profile read hr with hread | hread
    · exact ⟨_, hread, .inl hp⟩
    · exact ⟨_, hread, .inr rfl⟩
  active read hr := by
    obtain ⟨uuid, hread | hread⟩ := hs.active read hr
    · exact ⟨uuid, _, hread, .inl ha⟩
    · exact ⟨uuid, _, hread, .inr rfl⟩

theorem set_always [DecidableEq Device] (enabled : Bool) :
    Always (Disciplined (enabled, enabled)) (fun h r => ∀ status, r = .ok status → Steady (enabled, enabled) h) []
      (set_with_backend enabled : Fallible Device _) := by
  have hfail : ∀ (h : History Device) (e : String), ∀ status : LinuxLocalOnlyStatus,
      (Except.error e : Except String LinuxLocalOnlyStatus) = .ok status → Steady (enabled, enabled) h := by
    intro h e status hr
    cases hr
  unfold set_with_backend
  apply always_bind
  apply always_mono (resolve_always []) fun _ _ => .inl
  intro h r hinspected
  rcases r with e | (target | message)
  · exact hfail h e
  · obtain ⟨hprofile, hactive⟩ := hinspected target rfl
    have hp : captured_profile h = some target.profile_never_default := by
      unfold captured_profile
      rw [hprofile]
      rfl
    have ha : captured_active h = some target.applied_never_default := by
      unfold captured_active
      rw [hactive]
      rfl
    have hsettled : Settled target (enabled, enabled) h := by
      refine ⟨?_, ?_⟩
      · rw [hprofile]
        exact fun read hr => .inl (List.mem_singleton.1 hr ▸ rfl)
      · rw [hactive]
        exact fun read hr => ⟨target.connection_uuid, .inl (List.mem_singleton.1 hr ▸ rfl)⟩
    dsimp only
    split
    · exact fun _ _ => settled_steady hsettled hp ha
    apply always_ask (.inl trivial)
    · exact fun _ => hfail _ _
    intro present
    split
    · exact hfail _ _
    apply always_ask (.inl trivial)
    · exact fun _ => hfail _ _
    intro current
    split
    · exact hfail _ _
    rename_i hcurrent
    obtain rfl := not_not.1 hcurrent
    have hread : Settled target (enabled, enabled)
        (⟨Op.read_profile target.connection_uuid, .ok target.profile_never_default⟩ ::
          ⟨Op.verify_device target.device, .ok present⟩ :: h : History Device) := by
      refine ⟨fun read hr => ?_, hsettled.active⟩
      rcases List.mem_cons.1 hr with rfl | hr
      · exact .inl rfl
      · exact hsettled.profile read hr
    have hgrown : h <:+ (⟨Op.read_profile target.connection_uuid, .ok target.profile_never_default⟩ ::
        ⟨Op.verify_device target.device, .ok present⟩ :: h : History Device) := List.suffix_append [_, _] h
    apply always_mono (always_suffix hgrown (change_always hread))
    · rintro _ op ⟨⟨h', rfl⟩, howned⟩
      exact .inr ⟨target, captured_profile_append h' hp, captured_active_append h' ha, howned⟩
    · rintro _ r ⟨⟨h', rfl⟩, hok⟩ status hr
      exact settled_steady (hok status hr) (captured_profile_append h' hp) (captured_active_append h' ha)
  · exact hfail h _

/-! ## Edits -/

/-- A pair that is neither the one requested nor, if one was captured, that one. -/
def Foreign (captured : Option (Bool × Bool)) (requested pair : Bool × Bool) : Prop :=
  captured ≠ some pair ∧ pair ≠ requested

theorem mem_profile_reads {h : History Device} {uuid : String} {r : Except String (Bool × Bool)} :
    (uuid, r) ∈ profile_reads h ↔ ⟨Op.read_profile uuid, r⟩ ∈ h := by
  induction h with
  | nil => simp [profile_reads]
  | cons event h ih =>
    obtain ⟨op, r'⟩ := event
    cases op <;> simp [profile_reads, ih]

theorem mem_active_reads {h : History Device} {path : String} {r : Except String (String × Bool × Bool)} :
    (path, r) ∈ active_reads h ↔ ⟨Op.read_active path, r⟩ ∈ h := by
  induction h with
  | nil => simp [active_reads]
  | cons event h ih =>
    obtain ⟨op, r'⟩ := event
    cases op <;> simp [active_reads, ih]

/-- A disciplined call leaves foreign persistent values alone. -/
theorem after_profile {s : Settings} {requested pair : Bool × Bool} {h : History Device} {op : Op Device} {uuid : String}
    (hd : Disciplined requested h op) (hf : Foreign (captured_profile h) requested pair) (hs : s.profile uuid = pair) :
    (s.after op).profile uuid = pair := by
  cases op with
  | update_profile uuid' expected desired =>
    rcases hd with hread | ⟨target, hcaptured, -, -, hswaps⟩
    · exact hread.elim
    simp only [Settings.after]
    split
    · rename_i hexpected
      by_cases hsame : uuid' = uuid
      · obtain rfl := hsame
        rcases hswaps with ⟨rfl, -⟩ | ⟨rfl, -⟩
        · exact absurd (hcaptured.trans (congrArg some (hexpected.symm.trans hs))) hf.1
        · exact absurd (hs.symm.trans hexpected) hf.2
      · rw [← hs]
        exact Function.update_of_ne (Ne.symm hsame) _ _
    · exact hs
  | apply_active path uuid' expected desired =>
    simp only [Settings.after]
    split <;> exact hs
  | _ => exact hs

theorem after_active {s : Settings} {requested pair : Bool × Bool} {h : History Device} {op : Op Device} {path : String}
    (hd : Disciplined requested h op) (hf : Foreign (captured_active h) requested pair) (hs : (s.active path).2 = pair) :
    ((s.after op).active path).2 = pair := by
  cases op with
  | apply_active path' uuid expected desired =>
    rcases hd with hread | ⟨target, -, hcaptured, -, -, hswaps⟩
    · exact hread.elim
    simp only [Settings.after]
    split
    · rename_i hexpected
      by_cases hsame : path' = path
      · obtain rfl := hsame
        rw [hexpected] at hs
        rcases hswaps with ⟨rfl, -⟩ | ⟨rfl, -⟩
        · exact absurd (hcaptured.trans (congrArg some hs)) hf.1
        · exact absurd hs.symm hf.2
      · rw [← hs]
        exact congrArg Prod.snd (Function.update_of_ne (Ne.symm hsame) _ _)
    · exact hs
  | update_profile uuid expected desired =>
    simp only [Settings.after]
    split <;> exact hs
  | _ => exact hs

section
variable [DecidableEq Device] {enabled : Bool} {s₀ s : Settings} {t t₁ t₂ : List (Moment (Op Device) Ret String Edit)}
  {p : Fallible Device LinuxLocalOnlyStatus}

theorem profile_preserved {uuid : String} {pair : Bool × Bool}
    (hr : Runs (machine Device) s₀ (set_with_backend enabled) t s p) (ht : t = t₂ ++ .edited (.profile uuid pair) :: t₁)
    (hlast : ∀ pair', .edited (.profile uuid pair') ∉ t₂) (hf : Foreign (captured_profile (calls t)) (enabled, enabled) pair) :
    s.profile uuid = pair ∧ ((∃ r, (uuid, r) ∈ profile_reads (calls t₂)) → ∀ status, p ≠ .ok status) := by
  have hkept := hr.since_edit (P := fun s => s.profile uuid = pair) ht ?_ ?_ ?_
  · refine ⟨hkept.1, ?_⟩
    rintro ⟨r, hread⟩ status rfl
    replace hread := mem_calls.1 (mem_profile_reads.1 hread)
    have hmem : .called ⟨.read_profile uuid, r⟩ ∈ t := by
      rw [ht]
      exact List.mem_append_left _ hread
    have hsteady : Steady (enabled, enabled) (calls t) := hr.always (set_always enabled) status rfl
    obtain ⟨x, rfl, hx⟩ := hsteady.profile _ (mem_profile_reads.2 (mem_calls.2 hmem))
    obtain ⟨u, u', hu, ⟨hanswer, -⟩⟩ := hkept.2 _ hread
    obtain rfl : x = pair := Eq.trans hanswer hu
    rcases hx with hx | hx
    · exact hf.1 hx
    · exact hf.2 hx
  · rintro u u' rfl
    exact Function.update_self _ _ _
  · rintro u e u' he rfl hu
    cases e with
    | profile uuid' pair' =>
      by_cases hsame : uuid' = uuid
      · exact absurd (hsame ▸ he) (hlast pair')
      · exact (Function.update_of_ne (Ne.symm hsame) _ _).trans hu
    | active path uuid' pair' => exact hu
  · intro t' u op next r u' hsuffix hrun hanswer hu
    have hd : Disciplined (enabled, enabled) (calls t') op := (hrun.always (set_always enabled)).1
    have hforeign : Foreign (captured_profile (calls t')) (enabled, enabled) pair := by
      obtain ⟨h', hh⟩ := calls_suffix hsuffix
      exact ⟨fun hc => hf.1 (hh ▸ captured_profile_append h' hc), hf.2⟩
    have hafter := after_profile hd hforeign hu
    cases r with
    | ok a => exact hanswer.2 ▸ hafter
    | error e =>
      rcases hanswer with rfl | rfl
      · exact hu
      · exact hafter

theorem active_preserved {path uuid : String} {pair : Bool × Bool}
    (hr : Runs (machine Device) s₀ (set_with_backend enabled) t s p) (ht : t = t₂ ++ .edited (.active path uuid pair) :: t₁)
    (hlast : ∀ uuid' pair', .edited (.active path uuid' pair') ∉ t₂)
    (hf : Foreign (captured_active (calls t)) (enabled, enabled) pair) :
    (s.active path).2 = pair ∧ ((∃ r, (path, r) ∈ active_reads (calls t₂)) → ∀ status, p ≠ .ok status) := by
  have hkept := hr.since_edit (P := fun s => (s.active path).2 = pair) ht ?_ ?_ ?_
  · refine ⟨hkept.1, ?_⟩
    rintro ⟨r, hread⟩ status rfl
    replace hread := mem_calls.1 (mem_active_reads.1 hread)
    have hmem : .called ⟨.read_active path, r⟩ ∈ t := by
      rw [ht]
      exact List.mem_append_left _ hread
    have hsteady : Steady (enabled, enabled) (calls t) := hr.always (set_always enabled) status rfl
    obtain ⟨uuid', x, rfl, hx⟩ := hsteady.active _ (mem_active_reads.2 (mem_calls.2 hmem))
    obtain ⟨u, u', hu, ⟨hanswer, -⟩⟩ := hkept.2 _ hread
    obtain rfl : x = pair := Eq.trans (congrArg Prod.snd hanswer) hu
    rcases hx with hx | hx
    · exact hf.1 hx
    · exact hf.2 hx
  · rintro u u' rfl
    exact congrArg Prod.snd (Function.update_self path (uuid, pair) u.active)
  · rintro u e u' he rfl hu
    cases e with
    | profile uuid' pair' => exact hu
    | active path' uuid' pair' =>
      by_cases hsame : path' = path
      · exact absurd (hsame ▸ he) (hlast uuid' pair')
      · exact (congrArg Prod.snd (Function.update_of_ne (Ne.symm hsame) _ _)).trans hu
  · intro t' u op next r u' hsuffix hrun hanswer hu
    have hd : Disciplined (enabled, enabled) (calls t') op := (hrun.always (set_always enabled)).1
    have hforeign : Foreign (captured_active (calls t')) (enabled, enabled) pair := by
      obtain ⟨h', hh⟩ := calls_suffix hsuffix
      exact ⟨fun hc => hf.1 (hh ▸ captured_active_append h' hc), hf.2⟩
    have hafter := after_active hd hforeign hu
    cases r with
    | ok a => exact hanswer.2 ▸ hafter
    | error e =>
      rcases hanswer with rfl | rfl
      · exact hu
      · exact hafter

end

/-- Whatever others edit between two calls of a run, and whichever calls fail: values other than those the
run captured and those it is asked for stay until they are edited again, and if the run reads them it
does not succeed. -/
theorem edits_preserved [DecidableEq Device] (enabled : Bool) (s₀ : Settings)
    {t : List (Moment (Op Device) Ret String Edit)} {s : Settings} {p : Fallible Device LinuxLocalOnlyStatus}
    (hr : Runs (machine Device) s₀ (set_with_backend enabled) t s p) :
    (∀ uuid pair t₁ t₂, t = t₂ ++ .edited (.profile uuid pair) :: t₁ → (∀ pair', .edited (.profile uuid pair') ∉ t₂) →
      Foreign (captured_profile (calls t)) (enabled, enabled) pair →
      s.profile uuid = pair ∧ ((∃ r, (uuid, r) ∈ profile_reads (calls t₂)) → ∀ status, p ≠ .ok status)) ∧
    (∀ path uuid pair t₁ t₂, t = t₂ ++ .edited (.active path uuid pair) :: t₁ →
      (∀ uuid' pair', .edited (.active path uuid' pair') ∉ t₂) →
      Foreign (captured_active (calls t)) (enabled, enabled) pair →
      (s.active path).2 = pair ∧ ((∃ r, (path, r) ∈ active_reads (calls t₂)) → ∀ status, p ≠ .ok status)) :=
  ⟨fun _ _ _ _ => profile_preserved hr, fun _ _ _ _ _ => active_preserved hr⟩

/-! ## An edit during a run -/

def truly (s : Settings) (op : Op Unit) : Except String (Ret op) × Settings := (tether.answer s op, s.after op)

theorem truly_answers (s : Settings) (op : Op Unit) : (machine Unit).answers s op (truly s op).1 (truly s op).2 := by
  unfold truly
  rcases tether.answer_spec s op with ⟨a, ha, -, hanswers⟩ | ⟨e, he, -, hsame⟩
  · rw [ha]
    exact ⟨hanswers, rfl⟩
  · rw [he]
    exact .inr rfl

/-- The run up to its first write. -/
def written : List (Moment (Op Unit) Ret String Edit) × Settings × Fallible Unit LinuxLocalOnlyStatus :=
  play truly 14 ([], allowing, set_with_backend true)

/-- The rest of it, when IPv6 is allowed again after the write. -/
def overruled : List (Moment (Op Unit) Ret String Edit) × Settings × Fallible Unit LinuxLocalOnlyStatus :=
  play truly 40 ([], written.2.1.edited (.profile PROFILE (true, false)), written.2.2)

theorem edits_preserved_overruled : overruled.2.1.profile PROFILE = (true, false) ∧ ∀ status, overruled.2.2 ≠ .ok status := by
  have hwritten : Runs (machine Unit) allowing (set_with_backend true) written.1 written.2.1 written.2.2 :=
    Runs.start.play truly_answers 14
  have hedited : Runs (machine Unit) allowing (set_with_backend true)
      (.edited (.profile PROFILE (true, false)) :: written.1) (written.2.1.edited (.profile PROFILE (true, false)))
      written.2.2 := hwritten.edited rfl
  have hrun := hedited.play truly_answers 40
  have happend := play_append truly 40 [] (.edited (.profile PROFILE (true, false)) :: written.1)
    (written.2.1.edited (.profile PROFILE (true, false))) written.2.2
  rw [List.nil_append] at happend
  rw [happend] at hrun
  have hread : (PROFILE, Except.ok (true, false)) ∈ profile_reads (calls overruled.1) := by decide +kernel
  have hforeign : captured_profile (calls (overruled.1 ++ .edited (.profile PROFILE (true, false)) :: written.1)) ≠
      some (true, false) := by decide +kernel
  obtain ⟨hkept, hfails⟩ := (edits_preserved true allowing hrun).1 PROFILE (true, false) written.1 overruled.1 rfl
    (fun _ hmem => (by cases mem_play hmem)) ⟨hforeign, by decide⟩
  exact ⟨hkept, hfails ⟨_, hread⟩⟩

end Trackpad.NetworkManager
