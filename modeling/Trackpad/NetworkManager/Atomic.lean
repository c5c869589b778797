import Trackpad.NetworkManager.Backend
/-!
# One failing call

A backend whose answers are true and whose settings nobody else edits, but one call of it fails, with or
without its effect. A run that returns an error has put the settings back, unless the call that failed
was the device check after the persistent update: that error leaves at once.
-/

namespace Trackpad.NetworkManager

open Calls

variable {Device : Type}

/-- The settings, and whether the one failure has happened. -/
structure Faulty where
  settings : Settings
  failed : Bool

/-- Answers are true and writes compare before they replace, but for the one call that fails. -/
def World.machine (w : World Device) : Machine (Op Device) Ret String Faulty Empty where
  answers s op r s' :=
    match r with
    | .ok a => w.Tells op a ∧ s.settings.Answers op a ∧ s' = { s with settings := s.settings.after op }
    | .error _ => (s.failed = false ∧ (s' = ⟨s.settings, true⟩ ∨ s' = ⟨s.settings.after op, true⟩)) ∨
        (s.settings.Refuses op ∧ s' = s)
  edits _ _ _ := False

/-! ## The call that ends a run -/

/-- The last call is a device check that failed right after an update was read back, and the update
changed something. -/
def abandons : History Device → Bool
  | ⟨.verify_device _, .error _⟩ :: ⟨.read_profile _, .ok _⟩ :: ⟨.update_profile _ expected desired, .ok _⟩ :: _ =>
    expected ≠ desired
  | _ => false

/-- Some call of the history was such a check. -/
def Abandoned : History Device → Prop
  | [] => False
  | event :: h => abandons (event :: h) = true ∨ Abandoned h

instance instDecidableAbandoned : (h : History Device) → Decidable (Abandoned h)
  | [] => inferInstanceAs (Decidable False)
  | event :: h =>
    have : Decidable (Abandoned h) := instDecidableAbandoned h
    inferInstanceAs (Decidable (abandons (event :: h) = true ∨ Abandoned h))

theorem abandoned_ok {op : Op Device} {a : Ret op} {h : History Device} (hh : ¬ Abandoned h) :
    ¬ Abandoned (⟨op, .ok a⟩ :: h) := by
  rintro (hhead | hlater)
  · cases op <;> cases hhead
  · exact hh hlater

theorem abandoned_error {op : Op Device} {e : String} {h : History Device} (hop : abandons (⟨op, .error e⟩ :: h) = false)
    (hh : ¬ Abandoned h) : ¬ Abandoned (⟨op, .error e⟩ :: h) := by
  rintro (hhead | hlater)
  · rw [hop] at hhead
    cases hhead
  · exact hh hlater

/-! ## Single calls -/

section
variable {w : World Device} {α : Type} {Q : Faulty → History Device → Except String α → Prop} {s : Faulty}
  {h : History Device}

/-- From `s`, every result of the program meets `Q`. -/
abbrev Gives (w : World Device) (Q : Faulty → History Device → Except String α → Prop) (s : Faulty) (h : History Device)
    (p : Fallible Device α) : Prop :=
  Holds w.machine.answers (fun _ _ _ => True) Q s h p

theorem after_read (settings : Settings) {op : Op Device} (hop : IsRead op) : settings.after op = settings := by
  cases op <;> first | rfl | exact hop.elim

theorem read_answers {op : Op Device} (hop : IsRead op) {r : Except String (Ret op)} {s' : Faulty}
    (ha : w.machine.answers s op r s') :
    (∃ a, r = .ok a ∧ s' = s ∧ w.Tells op a ∧ s.settings.Answers op a) ∨
    (∃ e, r = .error e ∧ s.failed = false ∧ s' = { s with failed := true }) := by
  cases r with
  | ok a =>
    obtain ⟨htells, hanswers, rfl⟩ := ha
    rw [after_read _ hop]
    exact .inl ⟨a, rfl, rfl, htells, hanswers⟩
  | error e =>
    rcases ha with ⟨hfresh, hs⟩ | ⟨hrefuses, -⟩
    · rw [after_read _ hop, or_self] at hs
      exact .inr ⟨e, rfl, hfresh, hs⟩
    · cases op <;> first | exact hop.elim | exact hrefuses.elim

/-- A read gives what is so, or is the call that fails. -/
theorem gives_read (op : Op Device) (hop : IsRead op) {f : Ret op → Fallible Device α} (hh : ¬ Abandoned h)
    (hok : ∀ a, ¬ Abandoned (⟨op, .ok a⟩ :: h) → w.Tells op a → s.settings.Answers op a →
      Gives w Q s (⟨op, .ok a⟩ :: h) (f a))
    (herror : s.failed = false → ∀ e, Q { s with failed := true } (⟨op, .error e⟩ :: h) (.error e)) :
    Gives w Q s h (Prog.ask op >>= f) := by
  refine ⟨trivial, fun r s' ha => ?_⟩
  rcases read_answers hop ha with ⟨a, rfl, rfl, htells, hanswers⟩ | ⟨e, rfl, hfresh, rfl⟩
  · exact hok a (abandoned_ok hh) htells hanswers
  · exact herror hfresh e

theorem gives_attempt_read (op : Op Device) (hop : IsRead op) {f : Except String (Ret op) → Fallible Device α}
    (hh : ¬ Abandoned h)
    (hok : ∀ a, ¬ Abandoned (⟨op, .ok a⟩ :: h) → w.Tells op a → s.settings.Answers op a →
      Gives w Q s (⟨op, .ok a⟩ :: h) (f (.ok a)))
    (herror : s.failed = false → ∀ e, Gives w Q { s with failed := true } (⟨op, .error e⟩ :: h) (f (.error e))) :
    Gives w Q s h ((Prog.ask op).attempt >>= f) := by
  refine ⟨trivial, fun r s' ha => ?_⟩
  rcases read_answers hop ha with ⟨a, rfl, rfl, htells, hanswers⟩ | ⟨e, rfl, hfresh, rfl⟩
  · exact hok a (abandoned_ok hh) htells hanswers
  · exact herror hfresh e

theorem write_answers (op : Op Device) (hop : ¬ s.settings.Refuses op) {r : Except String (Ret op)} {s' : Faulty}
    (ha : w.machine.answers s op r s') :
    (∃ a, r = .ok a ∧ s' = { s with settings := s.settings.after op }) ∨
    (∃ e, r = .error e ∧ s.failed = false ∧ (s' = ⟨s.settings, true⟩ ∨ s' = ⟨s.settings.after op, true⟩)) := by
  cases r with
  | ok a => exact .inl ⟨a, rfl, ha.2.2⟩
  | error e =>
    rcases ha with hfails | hrefuses
    · exact .inr ⟨e, rfl, hfails⟩
    · exact absurd hrefuses.1 hop

/-- After the failure, a write that finds what it expects goes through. -/
theorem gives_write (op : Op Device) (hfailed : s.failed = true) (hop : ¬ s.settings.Refuses op)
    {f : Ret op → Fallible Device α} (hh : ¬ Abandoned h)
    (hok : ∀ a, ¬ Abandoned (⟨op, .ok a⟩ :: h) → Gives w Q ⟨s.settings.after op, true⟩ (⟨op, .ok a⟩ :: h) (f a)) :
    Gives w Q s h (Prog.ask op >>= f) := by
  refine ⟨trivial, fun r s' ha => ?_⟩
  rcases write_answers op hop ha with ⟨a, rfl, rfl⟩ | ⟨e, rfl, hfresh, -⟩
  · rw [hfailed]
    exact hok a (abandoned_ok hh)
  · rw [hfailed] at hfresh
    cases hfresh

end

/-! ## The target -/

/-- The one failure happened here, and the program ended with it. -/
def Fails {α : Type} (s s' : Faulty) (r : Except String α) : Prop :=
  s.failed = false ∧ s' = { s with failed := true } ∧ ∃ e, r = .error e

/-- A program without writes: what it gives meets `found`, or it fails. -/
def Finds {α : Type} (found : Except String α → Prop) (s s' : Faulty) (h' : History Device) (r : Except String α) : Prop :=
  ¬ Abandoned h' ∧ ((s' = s ∧ found r) ∨ Fails s s' r)

theorem finds_error {α : Type} {found : Except String α → Prop} {s : Faulty} {h : History Device} {op : Op Device}
    {e : String} (hh : ¬ Abandoned h) (hop : abandons (⟨op, .error e⟩ :: h) = false) (hfresh : s.failed = false) :
    Finds found s { s with failed := true } (⟨op, .error e⟩ :: h) (.error e) :=
  ⟨abandoned_error hop hh, .inr ⟨hfresh, rfl, e, rfl⟩⟩

/-- A call that reads what is fixed. -/
theorem finds_told {w : World Device} {α : Type} {op : Op Device} {f : Ret op → Fallible Device α} {s : Faulty}
    {h : History Device} (hop : IsRead op) (htold : ∀ a, w.Tells op a → a = w.told op) (hh : ¬ Abandoned h)
    (hverify : ∀ e, abandons (⟨op, .error e⟩ :: h) = false)
    (hok : ¬ Abandoned (⟨op, .ok (w.told op)⟩ :: h) →
      Gives w (Finds (· = (f (w.told op)).eval w.told) s) s (⟨op, .ok (w.told op)⟩ :: h) (f (w.told op))) :
    Gives w (Finds (· = (Prog.ask op >>= f).eval w.told) s) s h (Prog.ask op >>= f) := by
  refine gives_read op hop hh (fun a hh htells _ => ?_) fun hfresh e => ?_
  · obtain rfl := htold a htells
    exact hok hh
  · exact finds_error hh (hverify e) hfresh

/-- Programs that only read what is fixed, one after the other. -/
theorem finds_bind {w : World Device} {α β : Type} {p : Fallible Device α} {f : α → Fallible Device β} {s : Faulty}
    {h : History Device} (hp : Gives w (Finds (· = p.eval w.told) s) s h p)
    (hf : ∀ a h', ¬ Abandoned h' → Gives w (Finds (· = (f a).eval w.told) s) s h' (f a)) :
    Gives w (Finds (· = (p >>= f).eval w.told) s) s h (p >>= f) := by
  have heval : (p >>= f).eval w.told = (p.eval w.told).bind fun a => (f a).eval w.told := Prog.eval_bind w.told p f
  apply holds_bind
  apply holds_mono hp fun _ _ _ => id
  rintro s' h' r ⟨hh', ⟨rfl, rfl⟩ | ⟨hfresh, hs, e, rfl⟩⟩
  · rw [heval]
    rcases hr : p.eval w.told with e | a
    · exact ⟨hh', .inl ⟨rfl, rfl⟩⟩
    · exact hf a h' hh'
  · exact ⟨hh', .inr ⟨hfresh, hs, e, rfl⟩⟩

theorem active_devices_gives (w : World Device) (devices : List Device) (s : Faulty) {h : History Device}
    (hh : ¬ Abandoned h) :
    Gives w (Finds (· = (active_devices devices).eval w.told) s) s h (active_devices devices) := by
  induction devices generalizing h with
  | nil => exact ⟨hh, .inl ⟨rfl, rfl⟩⟩
  | cons device devices ih =>
    unfold active_devices
    refine finds_told trivial (fun _ => id) hh (fun _ => rfl) fun hh => ?_
    split
    · exact ⟨hh, .inl ⟨rfl, rfl⟩⟩
    refine finds_told trivial (fun _ => id) hh (fun _ => rfl) fun hh => ?_
    rcases parse_active_device _ with e | _ | ⟨connection_uuid, device_dbus_path⟩
    · exact ⟨hh, .inl ⟨rfl, rfl⟩⟩
    · exact ih hh
    refine finds_told trivial (fun _ => id) hh (fun _ => rfl) fun hh => ?_
    split
    · exact ⟨hh, .inl ⟨rfl, rfl⟩⟩
    exact finds_bind (ih hh) fun active h' hh' => ⟨hh', .inl ⟨rfl, rfl⟩⟩

theorem find_device_gives (w : World Device) (s : Faulty) {h : History Device} (hh : ¬ Abandoned h) :
    Gives w (Finds (· = find_device.eval w.told) s) s h find_device := by
  unfold find_device
  refine finds_told trivial (fun _ => id) hh (fun _ => rfl) fun hh => ?_
  split
  · exact ⟨hh, .inl ⟨rfl, rfl⟩⟩
  refine finds_told trivial (fun _ => id) hh (fun _ => rfl) fun hh => ?_
  rcases parse_network_manager_version _ with e | version
  · exact ⟨hh, .inl ⟨rfl, rfl⟩⟩
  simp only [Prog.ofExcept, Prog.ok_bind]
  split
  · exact ⟨hh, .inl ⟨rfl, rfl⟩⟩
  refine finds_told trivial (fun _ => id) hh (fun _ => rfl) fun hh => ?_
  apply finds_bind (active_devices_gives w w.devices s hh)
  intro active h' hh'
  rcases active with _ | ⟨found, _ | ⟨_, _⟩⟩ <;> exact ⟨hh', .inl ⟨rfl, rfl⟩⟩

/-- What `inspect` gives when no call of it fails. -/
def Inspects (w : World Device) (settings : Settings) (device : Device)
    (interface_name connection_uuid device_dbus_path : String) (r : Except String (Resolution Device)) : Prop :=
  if (settings.active device_dbus_path).1 = connection_uuid ∧ w.present device = true then
    ∃ routes, r = .ok (.Target ⟨device, interface_name, connection_uuid, device_dbus_path,
      settings.profile connection_uuid, (settings.active device_dbus_path).2, routes⟩)
  else ∃ e, r = .error e

/-- A target was just checked: a check that fails next does not follow an update. -/
def Checked (h' : History Device) (r : Except String (Resolution Device)) : Prop :=
  ∀ target, r = .ok (.Target target) → ∀ device e, abandons (⟨.verify_device device, .error e⟩ :: h') = false

theorem checked_error {h' : History Device} {e : String} : Checked h' (.error e) := by
  intro target hr
  cases hr

theorem inspect_gives {w : World Device} {s : Faulty} {h : History Device} (device : Device)
    (interface_name connection_uuid device_dbus_path : String) (hh : ¬ Abandoned h) :
    Gives w (fun s' h' r =>
        Finds (Inspects w s.settings device interface_name connection_uuid device_dbus_path) s s' h' r ∧ Checked h' r) s h
      (inspect device interface_name connection_uuid device_dbus_path) := by
  unfold inspect
  refine gives_read (.read_profile _) trivial hh (fun profile hh _ hprofile => ?_) fun hfresh e =>
    ⟨finds_error hh rfl hfresh, checked_error⟩
  obtain rfl : profile = s.settings.profile connection_uuid := hprofile
  refine gives_read (.read_active _) trivial hh (fun active hh _ hactive => ?_) fun hfresh e =>
    ⟨finds_error hh rfl hfresh, checked_error⟩
  obtain rfl : active = s.settings.active device_dbus_path := hactive
  dsimp only
  split
  · rename_i hother
    refine ⟨⟨hh, .inl ⟨rfl, ?_⟩⟩, checked_error⟩
    unfold Inspects
    rw [if_neg fun hboth => hother hboth.1]
    exact ⟨_, rfl⟩
  rename_i huuid
  refine gives_read (.verify_device _) trivial hh (fun present hh htells _ => ?_) fun hfresh e =>
    ⟨finds_error hh rfl hfresh, checked_error⟩
  obtain rfl : present = w.present device := htells
  split
  · rename_i habsent
    refine ⟨⟨hh, .inl ⟨rfl, ?_⟩⟩, checked_error⟩
    unfold Inspects
    rw [if_neg fun hboth => by simp [hboth.2] at habsent]
    exact ⟨_, rfl⟩
  rename_i hpresent
  refine gives_read (.default_routes_present _) trivial hh (fun routes hh _ _ => ?_) fun hfresh e =>
    ⟨finds_error hh rfl hfresh, checked_error⟩
  refine gives_read (.verify_device _) trivial hh (fun present hh htells _ => ?_) fun hfresh e =>
    ⟨finds_error hh rfl hfresh, checked_error⟩
  obtain rfl : present = w.present device := htells
  rw [if_neg hpresent]
  refine ⟨⟨hh, .inl ⟨rfl, ?_⟩⟩, fun target _ device e => rfl⟩
  unfold Inspects
  rw [if_pos ⟨not_not.1 huuid, by simpa using hpresent⟩]
  exact ⟨routes, rfl⟩

/-- What `resolve_target` gives when no call of it fails. -/
def Resolved (w : World Device) (settings : Settings) (r : Except String (Resolution Device)) : Prop :=
  match find_device.eval w.told with
  | .error e => r = .error e
  | .ok (.error message) => r = .ok (.Unavailable message)
  | .ok (.ok (device, interface_name, connection_uuid, device_dbus_path)) =>
    Inspects w settings device interface_name connection_uuid device_dbus_path r

theorem resolve_gives (w : World Device) (s : Faulty) {h : History Device} (hh : ¬ Abandoned h) :
    Gives w (fun s' h' r => Finds (Resolved w s.settings) s s' h' r ∧ Checked h' r) s h resolve_target := by
  unfold resolve_target
  apply holds_bind
  apply holds_mono (find_device_gives w s hh) fun _ _ _ => id
  rintro s' h' r ⟨hh', ⟨rfl, rfl⟩ | ⟨hfresh, hs, e, rfl⟩⟩
  · unfold Resolved
    rcases find_device.eval w.told with e | (message | ⟨device, interface_name, connection_uuid, device_dbus_path⟩)
    · exact ⟨⟨hh', .inl ⟨rfl, rfl⟩⟩, checked_error⟩
    · exact ⟨⟨hh', .inl ⟨rfl, rfl⟩⟩, fun target hr => (by cases hr)⟩
    · exact inspect_gives _ _ _ _ hh'
  · exact ⟨⟨hh', .inr ⟨hfresh, hs, e, rfl⟩⟩, checked_error⟩

/-! ## Rolling back -/

/-- The target is what the settings say of its profile and its device. -/
structure Describes (w : World Device) (settings : Settings) (target : Target Device) : Prop where
  profile : settings.profile target.connection_uuid = target.profile_never_default
  active : settings.active target.device_dbus_path = (target.connection_uuid, target.applied_never_default)
  present : w.present target.device = true

/-- What a run may have changed of the settings it found. -/
structure Changed (original : Settings) (target : Target Device) (owned : Bool × Bool) (settings : Settings) : Prop where
  profile : settings.profile = original.profile ∨
    settings.profile = Function.update original.profile target.connection_uuid owned
  active : settings.active = original.active ∨
    settings.active = Function.update original.active target.device_dbus_path (target.connection_uuid, owned)

section
variable {w : World Device} {original : Settings} {target : Target Device} {owned : Bool × Bool} {s : Faulty} {h : History Device}

theorem rollback_persistent_gives (hd : Describes w original target) (hc : Changed original target owned s.settings)
    (hfailed : s.failed = true) (hh : ¬ Abandoned h) :
    Gives w (fun s' h' _ => s' = ⟨⟨original.profile, s.settings.active⟩, true⟩ ∧ ¬ Abandoned h') s h
      (rollback_persistent target owned) := by
  obtain ⟨⟨profile, active⟩, failed⟩ := s
  obtain rfl : failed = true := hfailed
  unfold rollback_persistent
  refine gives_attempt_read (.read_profile _) trivial hh (fun current hh _ hcurrent => ?_) fun hfresh => (by cases hfresh)
  obtain rfl : current = profile target.connection_uuid := hcurrent
  have hprofile : profile = original.profile ∨ profile = Function.update original.profile target.connection_uuid owned :=
    hc.profile
  dsimp only
  split
  · rename_i hsame
    refine ⟨?_, hh⟩
    rcases hprofile with rfl | rfl
    · rfl
    · rw [Function.update_self] at hsame
      rw [hsame, ← hd.profile, Function.update_eq_self]
  rename_i hother
  obtain rfl : profile = Function.update original.profile target.connection_uuid owned := by
    rcases hprofile with rfl | hupdated
    · exact absurd hd.profile hother
    · exact hupdated
  rw [Function.update_self, if_pos rfl]
  refine gives_write (.update_profile _ _ _) rfl (not_not.2 (Function.update_self _ _ _)) hh fun _ hh => ?_
  simp only [Settings.after, Function.update_self, if_true, Function.update_idem, ← hd.profile, Function.update_eq_self]
  refine gives_attempt_read (.read_profile _) trivial hh (fun current hh _ hcurrent => ?_) fun hfresh => (by cases hfresh)
  dsimp only
  split <;> exact ⟨rfl, hh⟩

theorem rollback_active_gives (hd : Describes w original target) (hc : Changed original target owned s.settings)
    (hfailed : s.failed = true) (hh : ¬ Abandoned h) :
    Gives w (fun s' h' _ => s' = ⟨⟨s.settings.profile, original.active⟩, true⟩ ∧ ¬ Abandoned h') s h
      (rollback_active target owned) := by
  obtain ⟨⟨profile, active⟩, failed⟩ := s
  obtain rfl : failed = true := hfailed
  unfold rollback_active
  refine gives_read (.verify_device _) trivial hh (fun present hh htells _ => ?_) fun hfresh => (by cases hfresh)
  obtain rfl : present = w.present target.device := htells
  rw [hd.present]
  refine gives_attempt_read (.read_active _) trivial hh (fun current hh _ hcurrent => ?_) fun hfresh => (by cases hfresh)
  obtain rfl : current = active target.device_dbus_path := hcurrent
  rcases (hc.active : active = original.active ∨
      active = Function.update original.active target.device_dbus_path (target.connection_uuid, owned)) with rfl | rfl
  · rw [hd.active]
    dsimp only
    rw [if_neg (not_not.2 rfl), if_pos rfl]
    exact ⟨rfl, hh⟩
  rw [Function.update_self] at hh ⊢
  dsimp only
  rw [if_neg (not_not.2 rfl)]
  split
  · rename_i hsame
    refine ⟨?_, hh⟩
    rw [hsame, ← hd.active, Function.update_eq_self]
  rw [if_pos rfl]
  unfold apply_profile_from
  refine gives_write (.apply_active _ _ _ _) rfl (not_not.2 (Function.update_self _ _ _)) hh fun _ hh => ?_
  simp only [Settings.after, Function.update_self, if_true, Function.update_idem, ← hd.active, Function.update_eq_self]
  refine gives_read (.verify_device _) trivial hh (fun present hh htells _ => ?_) fun hfresh => (by cases hfresh)
  split <;> exact ⟨rfl, hh⟩

theorem verify_routes_gives (hfailed : s.failed = true) (hh : ¬ Abandoned h) :
    Gives w (fun s' h' _ => s' = s ∧ ¬ Abandoned h') s h (verify_routes target) := by
  unfold verify_routes
  refine gives_read (.verify_device _) trivial hh (fun present hh _ _ => ?_) fun hfresh => by simp [hfailed] at hfresh
  split
  · exact ⟨rfl, hh⟩
  refine gives_read (.default_routes_present _) trivial hh (fun routes hh _ _ => ?_) fun hfresh => by simp [hfailed] at hfresh
  split <;> exact ⟨rfl, hh⟩

/-- After the failure, a rollback puts back what was found. -/
theorem rollback_gives (hd : Describes w original target) (hc : Changed original target owned s.settings)
    (hfailed : s.failed = true) (hh : ¬ Abandoned h) :
    Gives w (fun s' h' _ => s' = ⟨original, true⟩ ∧ ¬ Abandoned h') s h (rollback_profile target owned) := by
  unfold rollback_profile
  apply holds_bind
  apply holds_attempt
  apply holds_mono (rollback_persistent_gives hd hc hfailed hh) fun _ _ _ => id
  rintro _ h₁ persistent ⟨rfl, hh₁⟩
  apply holds_bind
  apply holds_attempt
  have hc₁ : Changed original target owned ⟨original.profile, s.settings.active⟩ := ⟨.inl rfl, hc.active⟩
  apply holds_mono (rollback_active_gives hd hc₁ rfl hh₁) fun _ _ _ => id
  rintro _ h₂ active ⟨rfl, hh₂⟩
  apply holds_bind
  apply holds_attempt
  apply holds_mono (verify_routes_gives rfl hh₂) fun _ _ _ => id
  rintro _ h₃ routes ⟨rfl, hh₃⟩
  dsimp only
  split <;> exact ⟨rfl, hh₃⟩

/-- Settings that give the target's values again are the ones found. -/
theorem changed_same (hd : Describes w original target) {settings : Settings}
    (hc : Changed original target owned settings)
    (hprofile : settings.profile target.connection_uuid = target.profile_never_default)
    (hactive : settings.active target.device_dbus_path = (target.connection_uuid, target.applied_never_default)) :
    settings = original := by
  have hp : settings.profile = original.profile := by
    rcases hc.profile with h | h
    · exact h
    · rw [h, Function.update_self] at hprofile
      rw [h, hprofile, ← hd.profile, Function.update_eq_self]
  have ha : settings.active = original.active := by
    rcases hc.active with h | h
    · exact h
    · rw [h, Function.update_self] at hactive
      rw [h, hactive, ← hd.active, Function.update_eq_self]
  obtain ⟨profile, active⟩ := settings
  exact congrArg₂ Settings.mk hp ha

theorem resolved_target {settings : Settings} {current : Target Device}
    (hr : Resolved w settings (.ok (.Target current))) : Describes w settings current ∧
      find_device.eval w.told =
        .ok (.ok (current.device, current.interface_name, current.connection_uuid, current.device_dbus_path)) := by
  unfold Resolved at hr
  rcases hf : find_device.eval w.told with e | (message | ⟨device, interface_name, connection_uuid, device_dbus_path⟩)
  · rw [hf] at hr
    cases hr
  · rw [hf] at hr
    cases hr
  · rw [hf] at hr
    dsimp only [Inspects] at hr
    split at hr
    · rename_i hboth
      obtain ⟨routes, hr⟩ := hr
      obtain rfl := Resolution.Target.inj (Except.ok.inj hr)
      exact ⟨⟨rfl, Prod.ext hboth.1 rfl, hboth.2⟩, rfl⟩
    · obtain ⟨e, hr⟩ := hr
      cases hr

/-- Once it was found, the target is found again. -/
theorem resolved_again (hd : Describes w original target) {settings : Settings} {r : Except String (Resolution Device)}
    (hf : find_device.eval w.told =
      .ok (.ok (target.device, target.interface_name, target.connection_uuid, target.device_dbus_path)))
    (hactive : (settings.active target.device_dbus_path).1 = target.connection_uuid) (hr : Resolved w settings r) :
    ∃ routes, r = .ok (.Target { target with
      profile_never_default := settings.profile target.connection_uuid
      applied_never_default := (settings.active target.device_dbus_path).2
      default_route_present := routes }) := by
  unfold Resolved at hr
  rw [hf] at hr
  dsimp only [Inspects] at hr
  rw [if_pos ⟨hactive, hd.present⟩] at hr
  exact hr

theorem confirm_gives [DecidableEq Device] (hd : Describes w original target)
    (hc : Changed original target owned s.settings) (hfailed : s.failed = true) (hh : ¬ Abandoned h) :
    Gives w (fun s' h' _ => s' = ⟨original, true⟩ ∧ ¬ Abandoned h') s h (confirm_original_or_rollback target owned) := by
  unfold confirm_original_or_rollback
  apply holds_bind
  apply holds_attempt
  apply holds_mono (resolve_gives w s hh) fun _ _ _ => id
  rintro s' h' r ⟨⟨hh', ⟨rfl, hresolved⟩ | ⟨hfresh, -⟩⟩, -⟩
  swap
  · rw [hfailed] at hfresh
    cases hfresh
  rcases r with e | (current | message)
  · exact rollback_gives hd hc hfailed hh'
  · dsimp only
    split
    · rename_i hsame
      obtain ⟨hcurrent, -⟩ := resolved_target hresolved
      simp only [same_selection, same_values, Bool.and_eq_true, decide_eq_true_eq] at hsame
      obtain ⟨⟨⟨-, huuid⟩, hpath⟩, hprofile, hactive⟩ := hsame
      refine ⟨?_, hh'⟩
      have hsettings : s'.settings = original := by
        apply changed_same hd hc
        · rw [← huuid, ← hprofile]
          exact hcurrent.profile
        · rw [← huuid, ← hpath, ← hactive]
          exact hcurrent.active
      rw [← hsettings, ← hfailed]
    · exact rollback_gives hd hc hfailed hh'
  · exact rollback_gives hd hc hfailed hh'

/-! ## Changing the settings -/

/-- Applying the profile goes through, or fails with the device's settings changed or not. -/
theorem apply_gives (hd : Describes w original target) {profile : String → Bool × Bool} (hh : ¬ Abandoned h) :
    Gives w (fun s' h' r => ¬ Abandoned h' ∧ s'.settings.profile = profile ∧
        ((s'.failed = false ∧ r = .ok () ∧
            s'.settings.active = Function.update original.active target.device_dbus_path (target.connection_uuid, owned)) ∨
          (s'.failed = true ∧ (∃ e, r = .error e) ∧ (s'.settings.active = original.active ∨
            s'.settings.active = Function.update original.active target.device_dbus_path (target.connection_uuid, owned)))))
      ⟨⟨profile, original.active⟩, false⟩ h (apply_profile target owned) := by
  unfold apply_profile
  refine gives_read (.read_active _) trivial hh (fun current hh _ hcurrent => ?_) fun hfresh e =>
    ⟨abandoned_error rfl hh, rfl, .inr ⟨rfl, ⟨e, rfl⟩, .inl rfl⟩⟩
  obtain rfl : current = original.active target.device_dbus_path := hcurrent
  rw [hd.active] at hh ⊢
  dsimp only
  rw [if_neg (not_not.2 rfl), if_neg fun hother => hother.1 rfl]
  split
  · rename_i hsame
    have hunchanged : original.active =
        Function.update original.active target.device_dbus_path (target.connection_uuid, owned) := by
      rw [← hsame, ← hd.active, Function.update_eq_self]
    refine gives_read (.verify_device _) trivial hh (fun present hh htells _ => ?_) fun hfresh e =>
      ⟨abandoned_error rfl hh, rfl, .inr ⟨rfl, ⟨e, rfl⟩, .inl rfl⟩⟩
    obtain rfl : present = w.present target.device := htells
    rw [if_pos hd.present]
    exact ⟨hh, rfl, .inl ⟨rfl, rfl, hunchanged⟩⟩
  unfold apply_profile_from
  have hafter : (Settings.mk profile original.active).after
      (.apply_active target.device_dbus_path target.connection_uuid target.applied_never_default owned : Op Device) =
      ⟨profile, Function.update original.active target.device_dbus_path (target.connection_uuid, owned)⟩ := by
    simp only [Settings.after, hd.active, if_true]
  refine ⟨trivial, fun r s' ha => ?_⟩
  rcases write_answers (.apply_active _ _ _ _) (not_not.2 hd.active) ha with ⟨a, rfl, rfl⟩ | ⟨e, rfl, -, hs⟩
  · rw [hafter]
    refine gives_read (.verify_device _) trivial (abandoned_ok hh) (fun present hh htells _ => ?_) fun hfresh e =>
      ⟨abandoned_error rfl (abandoned_ok hh), rfl, .inr ⟨rfl, ⟨e, rfl⟩, .inr rfl⟩⟩
    obtain rfl : present = w.present target.device := htells
    rw [if_pos hd.present]
    exact ⟨hh, rfl, .inl ⟨rfl, rfl, rfl⟩⟩
  · rw [hafter] at hs
    rcases hs with rfl | rfl
    · exact ⟨abandoned_error rfl hh, rfl, .inr ⟨rfl, ⟨e, rfl⟩, .inl rfl⟩⟩
    · exact ⟨abandoned_error rfl hh, rfl, .inr ⟨rfl, ⟨e, rfl⟩, .inr rfl⟩⟩

end

/-- After the one failure an error leaves what was found, unless the run was abandoned. -/
def Restored {α : Type} (original : Settings) (s' : Faulty) (h' : History Device) (r : Except String α) : Prop :=
  (∃ e, r = .error e) → s'.failed = true → (s'.settings = original ↔ ¬ Abandoned h')

section
variable {w : World Device} {original : Settings} {target : Target Device} {s : Faulty} {h : History Device}

theorem fail_restored {α : Type} (error : String) {rollback : Fallible Device Unit}
    (hr : Gives w (fun s' h' _ => s' = ⟨original, true⟩ ∧ ¬ Abandoned h') s h rollback) :
    Gives w (Restored original) s h (fail_with_rollback error rollback : Fallible Device α) := by
  unfold fail_with_rollback
  apply holds_bind
  apply holds_attempt
  apply holds_mono hr fun _ _ _ => id
  rintro s' h' r ⟨rfl, hh⟩ - -
  exact ⟨fun _ => hh, fun _ => rfl⟩

theorem settings_iff {profile : String → Bool × Bool} {active : String → String × Bool × Bool} {uuid : String}
    {pair : Bool × Bool} :
    Settings.mk (Function.update profile uuid pair) active = Settings.mk profile active ↔ profile uuid = pair := by
  constructor
  · intro h
    have hprofile : Function.update profile uuid pair uuid = profile uuid :=
      congrArg (fun settings => settings.profile uuid) h
    rw [← hprofile, Function.update_self]
  · rintro rfl
    rw [Function.update_eq_self]

theorem change_gives [DecidableEq Device] (hd : Describes w original target) (enabled : Bool)
    (hf : find_device.eval w.told =
      .ok (.ok (target.device, target.interface_name, target.connection_uuid, target.device_dbus_path)))
    (hh : ¬ Abandoned h) : Gives w (Restored original) ⟨original, false⟩ h (change_settings target enabled) := by
  have hafter : original.after
      (.update_profile target.connection_uuid target.profile_never_default (enabled, enabled) : Op Device) =
      ⟨Function.update original.profile target.connection_uuid (enabled, enabled), original.active⟩ := by
    simp only [Settings.after, hd.profile, if_true]
  have hupdated : Changed original target (enabled, enabled)
      ⟨Function.update original.profile target.connection_uuid (enabled, enabled), original.active⟩ := ⟨.inr rfl, .inl rfl⟩
  unfold change_settings
  refine ⟨trivial, fun r s' ha => ?_⟩
  rcases write_answers (.update_profile _ _ _) (not_not.2 hd.profile) ha with ⟨a, rfl, rfl⟩ | ⟨e, rfl, -, hs⟩
  swap
  · -- The update failed: it is undone if it took effect.
    rw [hafter] at hs
    have herror : ¬ Abandoned
        (⟨.update_profile target.connection_uuid target.profile_never_default (enabled, enabled), .error e⟩ :: h) :=
      abandoned_error rfl hh
    rcases hs with rfl | rfl
    · exact fail_restored _ (confirm_gives hd ⟨.inl rfl, .inl rfl⟩ rfl herror)
    · exact fail_restored _ (confirm_gives hd hupdated rfl herror)
  rw [hafter]
  replace hh : ¬ Abandoned
      (⟨.update_profile target.connection_uuid target.profile_never_default (enabled, enabled), .ok a⟩ :: h) :=
    abandoned_ok hh
  refine gives_attempt_read (.read_profile _) trivial hh (fun current hh _ hcurrent => ?_) fun hfresh e =>
    fail_restored _ (rollback_gives hd hupdated rfl (abandoned_error rfl hh))
  obtain rfl : current = (enabled, enabled) := hcurrent.trans (Function.update_self _ _ _)
  dsimp only
  rw [if_neg (not_not.2 rfl)]
  refine gives_read (.verify_device _) trivial hh (fun present hh htells _ => ?_) fun hfresh e => ?_
  swap
  · -- The run ends here, with the update in place.
    intro _ _
    have hearlier : ¬ Abandoned (⟨.read_profile target.connection_uuid, .ok (enabled, enabled)⟩ ::
        ⟨.update_profile target.connection_uuid target.profile_never_default (enabled, enabled), .ok a⟩ :: h) := hh
    have habandoned : Abandoned (⟨.verify_device target.device, .error e⟩ ::
        ⟨.read_profile target.connection_uuid, .ok (enabled, enabled)⟩ ::
        ⟨.update_profile target.connection_uuid target.profile_never_default (enabled, enabled), .ok a⟩ :: h) ↔
        target.profile_never_default ≠ (enabled, enabled) := (or_iff_left hearlier).trans decide_eq_true_iff
    rw [habandoned, not_not, ← hd.profile]
    exact settings_iff
  obtain rfl : present = w.present target.device := htells
  rw [if_neg (by simp [hd.present])]
  apply holds_bind
  apply holds_attempt
  apply holds_mono (apply_gives hd hh) fun _ _ _ => id
  rintro ⟨⟨profile, active⟩, failed⟩ h' r ⟨hh', rfl, ⟨rfl, rfl, hactive⟩ | ⟨rfl, ⟨e, rfl⟩, hactive⟩⟩
  swap
  · exact fail_restored _ (rollback_gives hd ⟨.inr rfl, hactive⟩ rfl hh')
  obtain rfl : active = _ := hactive
  apply holds_bind
  apply holds_attempt
  apply holds_mono (resolve_gives w _ hh') fun _ _ _ => id
  rintro s'' h'' r ⟨⟨hh'', ⟨rfl, hresolved⟩ | ⟨-, rfl, e, rfl⟩⟩, -⟩
  swap
  · exact fail_restored _ (rollback_gives hd ⟨.inr rfl, .inr rfl⟩ rfl hh'')
  obtain ⟨routes, rfl⟩ := resolved_again hd hf (congrArg Prod.fst (Function.update_self target.device_dbus_path
    (target.connection_uuid, enabled, enabled) original.active)) hresolved
  have hretained : retained target { target with
      profile_never_default := Function.update original.profile target.connection_uuid (enabled, enabled)
        target.connection_uuid
      applied_never_default := (Function.update original.active target.device_dbus_path
        (target.connection_uuid, enabled, enabled) target.device_dbus_path).2
      default_route_present := routes } enabled = true := by
    rw [Function.update_self, Function.update_self]
    cases enabled <;> simp [retained, same_selection, settings_all]
  dsimp only
  rw [if_pos hretained]
  rintro ⟨e, he⟩
  cases he

theorem set_gives [DecidableEq Device] (w : World Device) (original : Settings) (enabled : Bool) :
    Gives w (Restored original) ⟨original, false⟩ [] (set_with_backend enabled) := by
  unfold set_with_backend
  apply holds_bind
  apply holds_mono (resolve_gives w _ id) fun _ _ _ => id
  -- Nothing was written before the first update.
  have hunwritten : ∀ (s : Faulty) {h' : History Device} (r : Except String LinuxLocalOnlyStatus), ¬ Abandoned h' →
      s.settings = original → Restored original s h' r := fun s _ _ hh hs _ _ => iff_of_true hs hh
  rintro s h' r ⟨⟨hh, ⟨rfl, hresolved⟩ | ⟨-, rfl, e, rfl⟩⟩, hchecked⟩
  swap
  · exact hunwritten _ _ hh rfl
  rcases r with e | (target | message)
  · exact hunwritten _ _ hh rfl
  · obtain ⟨hd, hf⟩ := resolved_target hresolved
    dsimp only
    split
    · exact hunwritten _ _ hh rfl
    refine gives_read (.verify_device _) trivial hh (fun present hh htells _ => ?_) fun hfresh e =>
      hunwritten _ _ (abandoned_error (hchecked target rfl _ _) hh) rfl
    split
    · exact hunwritten _ _ hh rfl
    refine gives_read (.read_profile _) trivial hh (fun current hh _ _ => ?_) fun hfresh e =>
      hunwritten _ _ (abandoned_error rfl hh) rfl
    split
    · exact hunwritten _ _ hh rfl
    · exact change_gives hd enabled hf hh
  · exact hunwritten _ _ hh rfl

end

/-- A run in which one call failed and that returns an error has left every setting as it was, exactly
if the failed call is not the check after an update that changed something. -/
theorem set_restores [DecidableEq Device] (w : World Device) (original : Settings) (enabled : Bool)
    {t : List (Moment (Op Device) Ret String Empty)} {s : Faulty} {e : String}
    (hr : Runs w.machine ⟨original, false⟩ (set_with_backend enabled) t s (.error e)) (hfailed : s.failed = true) :
    s.settings = original ↔ ¬ Abandoned (calls t) :=
  hr.holds (fun _ _ _ _ _ hedit => hedit.elim) (set_gives w original enabled) ⟨e, rfl⟩ hfailed

/-! ## Two failures -/

/-- True answers, but the first call that `fails` picks fails without effect. -/
def World.faulty (w : World Device) (fails : Settings → Op Device → Bool) (s : Faulty) (op : Op Device) :
    Except String (Ret op) × Faulty :=
  if !s.failed && fails s.settings op then (.error "the backend failed", { s with failed := true })
  else (w.answer s.settings op, { s with settings := s.settings.after op })

theorem faulty_answers (w : World Device) (fails : Settings → Op Device → Bool) (s : Faulty) (op : Op Device) :
    w.machine.answers s op (w.faulty fails s op).1 (w.faulty fails s op).2 := by
  unfold World.faulty
  split
  · rename_i hfails
    rw [Bool.and_eq_true, Bool.not_eq_true'] at hfails
    exact .inl ⟨hfails.1, .inl rfl⟩
  · rcases w.answer_spec s.settings op with ⟨a, ha, htells, hanswers⟩ | ⟨e, he, hrefuses, hsame⟩
    · rw [ha]
      exact ⟨htells, hanswers, rfl⟩
    · rw [he, hsame]
      exact .inr ⟨hrefuses, rfl⟩

def PROFILE : String := "11111111-2222-3333-4444-555555555555"
def DEVICE : String := "/org/freedesktop/NetworkManager/Devices/7"

/-- One tether, `usb0`. -/
def tether : World Unit where
  devices := [()]
  device_name _ := "usb0"
  present _ := true
  version := "1.58.0"
  nmcli args := if args = running_args then "running\n" else "100 (connected)\n" ++ PROFILE ++ "\n" ++ DEVICE ++ "\n"

def allowing : Settings := ⟨fun _ => (false, false), fun _ => (PROFILE, false, false)⟩

def enabling (fails : Settings → Op Unit → Bool) :
    List (Moment (Op Unit) Ret String Empty) × Faulty × Fallible Unit LinuxLocalOnlyStatus :=
  play (tether.faulty fails) 40 ([], ⟨allowing, false⟩, set_with_backend true)

theorem enabling_runs (fails : Settings → Op Unit → Bool) :
    Runs tether.machine ⟨allowing, false⟩ (set_with_backend true) (enabling fails).1 (enabling fails).2.1
      (enabling fails).2.2 :=
  Runs.start.play (faulty_answers tether fails) 40

/-- The update cannot be read back: it is undone. -/
def fails_reading (s : Settings) : Op Unit → Bool
  | .read_profile uuid => s.profile uuid = (true, true)
  | _ => false

theorem set_restores_reading : (enabling fails_reading).2.1.settings = allowing := by
  have herror : (enabling fails_reading).2.2.error?.isSome = true := by decide +kernel
  obtain ⟨e, he⟩ := Option.isSome_iff_exists.1 herror
  have hrun := enabling_runs fails_reading
  rw [Prog.eq_error he] at hrun
  exact (set_restores tether allowing true hrun (by decide +kernel)).2 (by decide +kernel)

/-- The device cannot be checked after the update. -/
def fails_checking (s : Settings) : Op Unit → Bool
  | .verify_device _ => s.profile PROFILE = (true, true)
  | _ => false

/-- The run ends with the profile changed and nothing undone. -/
theorem set_leaves_update : ¬ ∀ (t : List (Moment (Op Unit) Ret String Empty)) (s : Faulty) (e : String),
    Runs tether.machine ⟨allowing, false⟩ (set_with_backend true) t s (.error e) → s.failed = true →
    s.settings = allowing := by
  intro hall
  have herror : (enabling fails_checking).2.2.error?.isSome = true := by decide +kernel
  obtain ⟨e, he⟩ := Option.isSome_iff_exists.1 herror
  have hrun := enabling_runs fails_checking
  rw [Prog.eq_error he] at hrun
  have hsettings := hall _ _ e hrun (by decide +kernel)
  have hchanged : (enabling fails_checking).2.1.settings.profile PROFILE = (true, true) := by decide +kernel
  rw [hsettings] at hchanged
  cases hchanged

end Trackpad.NetworkManager
