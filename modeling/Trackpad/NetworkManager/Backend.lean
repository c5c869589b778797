import Mathlib.Data.List.SplitBy
import Trackpad.Lib.Calls
/-!
# The Linux route policy

`set_with_backend` and what it calls, over the calls of `Backend`. A pair of `never-default` values is
IPv4 first.
-/

namespace Trackpad.NetworkManager

open Calls

variable {Device : Type}

/-! ## Text -/

/-- `char::is_whitespace`. -/
def is_whitespace (c : Char) : Bool :=
  let n := c.toNat
  (0x9 ≤ n && n ≤ 0xd) || n = 0x20 || n = 0x85 || n = 0xa0 || n = 0x1680 || (0x2000 ≤ n && n ≤ 0x200a) || n = 0x2028 ||
    n = 0x2029 || n = 0x202f || n = 0x205f || n = 0x3000

def trim_end_matches (p : Char → Bool) (text : List Char) : List Char := (text.reverse.dropWhile p).reverse
def trim (text : List Char) : List Char := trim_end_matches is_whitespace (text.dropWhile is_whitespace)
def split_whitespace (text : List Char) : List (List Char) := (text.splitOnP is_whitespace).filter fun part => !part.isEmpty

def normalized_lines (output : String) : List (List Char) :=
  ((trim_end_matches (fun c => c = '\r' || c = '\n') output.toList).splitOn '\n').map (trim_end_matches (· = '\r'))

def is_ascii_digit (c : Char) : Bool := '0' ≤ c && c ≤ '9'
def is_ascii_hexdigit (c : Char) : Bool := is_ascii_digit c || ('a' ≤ c && c ≤ 'f') || ('A' ≤ c && c ≤ 'F')
def is_ascii_alphanumeric (c : Char) : Bool := is_ascii_digit c || ('a' ≤ c && c ≤ 'z') || ('A' ≤ c && c ≤ 'Z')

/-- The lengths are of the UTF-8 text; a text that passes is ASCII. -/
def valid_uuid (value : List Char) : Bool :=
  (String.ofList value).utf8ByteSize = 36 && value.zipIdx.all fun (c, index) =>
    if [8, 13, 18, 23].contains index then c = '-' else is_ascii_hexdigit c

def valid_interface_name (value : List Char) : Bool :=
  match value with
  | [] => false
  | first :: _ =>
    (String.ofList value).utf8ByteSize ≤ 15 && is_ascii_alphanumeric first &&
      value.all fun c => is_ascii_alphanumeric c || c = '_' || c = '-' || c = '.'

def DEVICES_PREFIX : List Char := "/org/freedesktop/NetworkManager/Devices/".toList

def valid_device_dbus_path (value : List Char) : Bool :=
  DEVICES_PREFIX.isPrefixOf value &&
    (let suffix := value.drop DEVICES_PREFIX.length; !suffix.isEmpty && suffix.all is_ascii_digit)

/-- The profile and the D-Bus path of an active device. -/
def parse_active_device (output : String) : Except String (Option (String × String)) :=
  match normalized_lines output with
  | [state, uuid, path] =>
    if (split_whitespace state).head? ≠ some "100".toList then .ok none
    else if !valid_uuid uuid then .error "The active RNDIS connection has an invalid NetworkManager UUID."
    else if !valid_device_dbus_path path then
      .error "The active RNDIS connection has an invalid NetworkManager D-Bus path."
    else .ok (some (String.ofList uuid, String.ofList path))
  | _ => .error "NetworkManager returned an unexpected device response."

/-- `u32::MAX`. -/
def U32_MAX : Nat := 0xffffffff

def numeric_prefix (value : Option (List Char)) : Except String Nat :=
  let digits := (value.getD []).takeWhile is_ascii_digit
  let parsed := digits.foldl (fun n c => 10 * n + (c.toNat - '0'.toNat)) 0
  if digits.isEmpty || parsed > U32_MAX then .error "NetworkManager returned an invalid version number."
  else .ok parsed

def parse_network_manager_version (output : String) : Except String (Nat × Nat × Nat) :=
  match split_whitespace (trim output.toList) with
  | [] => .error "NetworkManager returned an empty version."
  | token :: _ => do
    let components := token.splitOn '.'
    let major ← numeric_prefix components[0]?
    let minor ← numeric_prefix components[1]?
    let patch := match numeric_prefix components[2]? with
      | .ok patch => patch
      | .error _ => 0
    return (major, minor, patch)

/-! ## The backend -/

inductive Op (Device : Type)
  | devices
  | device_name (device : Device)
  | verify_device (device : Device)
  | default_routes_present (device : Device)
  | daemon_version
  | nmcli (args : List String)
  | read_profile (connection_uuid : String)
  | update_profile (connection_uuid : String) (expected desired : Bool × Bool)
  | read_active (device_dbus_path : String)
  | apply_active (device_dbus_path connection_uuid : String) (expected desired : Bool × Bool)

def IsRead : Op Device → Prop
  | .update_profile _ _ _ => False
  | .apply_active _ _ _ _ => False
  | _ => True

abbrev Ret : Op Device → Type
  | .devices => List Device
  | .device_name _ => String
  | .verify_device _ => Bool
  | .default_routes_present _ => Bool × Bool
  | .daemon_version => String
  | .nmcli _ => String
  | .read_profile _ => Bool × Bool
  | .update_profile _ _ _ => Unit
  | .read_active _ => String × Bool × Bool
  | .apply_active _ _ _ _ => Unit

/-- A function of the module: its calls, and its result. -/
abbrev Fallible (Device α : Type) := Prog (Op Device) Ret String String α

abbrev History (Device : Type) := List (Event (Op Device) Ret String)

namespace Backend

def devices : Fallible Device (List Device) := .ask Op.devices
def device_name (device : Device) : Fallible Device String := .ask (Op.device_name device)
def verify_device (device : Device) : Fallible Device Bool := .ask (Op.verify_device device)
def default_routes_present (device : Device) : Fallible Device (Bool × Bool) := .ask (Op.default_routes_present device)
def daemon_version : Fallible Device String := .ask Op.daemon_version
def nmcli (args : List String) : Fallible Device String := .ask (Op.nmcli args)
def read_profile (connection_uuid : String) : Fallible Device (Bool × Bool) := .ask (Op.read_profile connection_uuid)
def update_profile (connection_uuid : String) (expected desired : Bool × Bool) : Fallible Device Unit :=
  .ask (Op.update_profile connection_uuid expected desired)
def read_active (device_dbus_path : String) : Fallible Device (String × Bool × Bool) :=
  .ask (Op.read_active device_dbus_path)
def apply_active (device_dbus_path connection_uuid : String) (expected desired : Bool × Bool) : Fallible Device Unit :=
  .ask (Op.apply_active device_dbus_path connection_uuid expected desired)

end Backend

structure Target (Device : Type) where
  device : Device
  interface_name : String
  connection_uuid : String
  device_dbus_path : String
  profile_never_default : Bool × Bool
  applied_never_default : Bool × Bool
  default_route_present : Bool × Bool

inductive Resolution (Device : Type)
  | Target (target : Target Device)
  | Unavailable (message : String)

structure LinuxLocalOnlyStatus where
  available : Bool
  enabled : Bool
  configured : Bool
  mixed : Bool
  interface_name : Option String
  message : String

def LinuxLocalOnlyStatus.unavailable (message : String) : LinuxLocalOnlyStatus :=
  ⟨false, false, false, false, none, message⟩

def settings_all (target : Target Device) (value : Bool) : Bool :=
  target.profile_never_default = (value, value) && target.applied_never_default = (value, value)

theorem settings_all_iff {target : Target Device} {value : Bool} : settings_all target value = true ↔
    target.profile_never_default = (value, value) ∧ target.applied_never_default = (value, value) := by
  simp [settings_all]

def policy_enabled (target : Target Device) : Bool :=
  settings_all target true && target.default_route_present = (false, false)

def route_subject : Bool × Bool → String
  | (true, true) => "IPv4 and IPv6 default routes still use"
  | (true, false) => "An IPv4 default route still uses"
  | _ => "An IPv6 default route still uses"

def target_status (target : Target Device) : LinuxLocalOnlyStatus :=
  let enabled := policy_enabled target
  let configured := settings_all target true
  let disabled := settings_all target false
  let mixed := !enabled && !disabled
  let routed := target.default_route_present.1 || target.default_route_present.2
  let name := target.interface_name
  let message :=
    if enabled then
      s!"NetworkManager local-only policy is active on {name}; no IPv4 or IPv6 default route is present."
    else if disabled then
      if routed then s!"NetworkManager local-only policy is off; {name} currently has a default route."
      else s!"NetworkManager currently allows {name} to become a default route."
    else if routed then
      let subject := route_subject target.default_route_present
      s!"{subject} {name}; local-only mode is not safe to start. Reconnect after enabling or remove the route in NetworkManager."
    else s!"{name} has different persistent or active IPv4/IPv6 settings; choose the checkbox to normalize all four."
  ⟨true, enabled, configured, mixed, some name, message⟩

/-! ## The target -/

def NMCLI_WAIT_SECONDS : String := "15"
def MINIMUM_NETWORK_MANAGER_VERSION : Nat × Nat × Nat := (1, 44, 0)

/-- Version numbers compare by their first difference. -/
def older (a b : Nat × Nat × Nat) : Bool :=
  a.1 < b.1 || (a.1 = b.1 && (a.2.1 < b.2.1 || (a.2.1 = b.2.1 && a.2.2 < b.2.2)))

def running_args : List String := ["--wait", NMCLI_WAIT_SECONDS, "--get-values", "RUNNING", "general"]

def device_args (interface_name : String) : List String :=
  ["--wait", NMCLI_WAIT_SECONDS, "--get-values", "GENERAL.STATE,GENERAL.CON-UUID,GENERAL.DBUS-PATH", "device", "show",
    interface_name]

/-- The active devices among `devices`: each with its name, its profile and its D-Bus path. -/
def active_devices : List Device → Fallible Device (List (Device × String × String × String))
  | [] => return []
  | device :: devices => do
    let interface_name ← Backend.device_name device
    if !valid_interface_name interface_name.toList then
      .error "The RNDIS interface has an unsafe or unsupported name."
    else
      let output ← Backend.nmcli (device_args interface_name)
      match ← .ofExcept (parse_active_device output) with
      | none => active_devices devices
      | some (connection_uuid, device_dbus_path) =>
        if !(← Backend.verify_device device) then
          .error s!"RNDIS interface {interface_name} changed identity while NetworkManager was being inspected."
        else return (device, interface_name, connection_uuid, device_dbus_path) :: (← active_devices devices)

/-- `resolve_target` up to the one active device: it, or why there is none. -/
def find_device : Fallible Device (Except String (Device × String × String × String)) := do
  let running ← Backend.nmcli running_args
  if trim running.toList ≠ "running".toList then
    return .error "NetworkManager is installed but is not running."
  else
    let version ← .ofExcept (parse_network_manager_version (← Backend.daemon_version))
    if older version MINIMUM_NETWORK_MANAGER_VERSION then
      let (major, minor, patch) := version
      return .error s!"NetworkManager {major}.{minor}.{patch} is too old for version-guarded profile updates; version 1.44 or newer is required."
    else
      match ← active_devices (← Backend.devices) with
      | [] => return .error "Connect one Android phone with USB tethering, then check again."
      | [found] => return .ok found
      | _ =>
        return .error "More than one active RNDIS tether is present; disconnect extras before changing network policy."

/-- The rest of `resolve_target`: the settings and the routes of the device found. -/
def inspect (device : Device) (interface_name connection_uuid device_dbus_path : String) :
    Fallible Device (Resolution Device) := do
  let profile ← Backend.read_profile connection_uuid
  let (applied_uuid, applied) ← Backend.read_active device_dbus_path
  if applied_uuid ≠ connection_uuid then
    .error "The applied NetworkManager profile UUID differs from the active profile."
  else if !(← Backend.verify_device device) then
    .error s!"RNDIS interface {interface_name} changed identity while its profile was being inspected."
  else
    let routes ← Backend.default_routes_present device
    if !(← Backend.verify_device device) then
      .error s!"RNDIS interface {interface_name} changed identity while its routes were being inspected."
    else return .Target ⟨device, interface_name, connection_uuid, device_dbus_path, profile, applied, routes⟩

def resolve_target : Fallible Device (Resolution Device) := do
  match ← find_device with
  | .error message => return .Unavailable message
  | .ok (device, interface_name, connection_uuid, device_dbus_path) =>
    inspect device interface_name connection_uuid device_dbus_path

/-! ## Changing the settings -/

def modify_profile (uuid : String) (expected desired : Bool × Bool) : Fallible Device Unit :=
  Backend.update_profile uuid expected desired

def read_profile (uuid : String) : Fallible Device (Bool × Bool) := Backend.read_profile uuid

def apply_profile_from (target : Target Device) (expected desired : Bool × Bool) : Fallible Device Unit := do
  Backend.apply_active target.device_dbus_path target.connection_uuid expected desired
  if ← Backend.verify_device target.device then return ()
  else .error "The RNDIS device changed while NetworkManager applied its profile."

def apply_profile (target : Target Device) (desired : Bool × Bool) : Fallible Device Unit := do
  let (uuid, current) ← Backend.read_active target.device_dbus_path
  if uuid ≠ target.connection_uuid then
    .error "The active NetworkManager profile changed before application."
  else if current ≠ target.applied_never_default ∧ current ≠ desired then
    .error "The active never-default values changed concurrently; their newer values were preserved."
  else if current = desired then
    if ← Backend.verify_device target.device then return ()
    else .error "The RNDIS device changed while NetworkManager applied its profile."
  else apply_profile_from target current desired

/-! ## Rolling back -/

def rollback_persistent (target : Target Device) (owned : Bool × Bool) : Fallible Device Unit := do
  match ← (read_profile target.connection_uuid).attempt with
  | .ok current =>
    if current = target.profile_never_default then return ()
    else if current = owned then
      modify_profile target.connection_uuid owned target.profile_never_default
      match ← (read_profile target.connection_uuid).attempt with
      | .ok current =>
        if current = target.profile_never_default then return ()
        else .error "the persistent values changed again after rollback; the latest values were preserved"
      | .error error => .error s!"could not verify the persistent rollback: {error}"
    else .error "the never-default values changed concurrently; the newer persistent values were preserved"
  | .error error => .error s!"could not re-read the persistent profile: {error}"

def rollback_active (target : Target Device) (owned : Bool × Bool) : Fallible Device Unit := do
  if !(← Backend.verify_device target.device) then return ()
  else
    match ← (Backend.read_active target.device_dbus_path).attempt with
    | .ok (uuid, current) =>
      if uuid ≠ target.connection_uuid then
        .error "the active profile changed concurrently; its newer values were preserved"
      else if current = target.applied_never_default then return ()
      else if current = owned then apply_profile_from target owned target.applied_never_default
      else .error "the active never-default values changed concurrently; their newer values were preserved"
    | .error error => .error s!"could not re-read the active profile: {error}"

def verify_routes (target : Target Device) : Fallible Device Unit := do
  if !(← Backend.verify_device target.device) then return ()
  else
    let current ← Backend.default_routes_present target.device
    if current = target.default_route_present then return ()
    else .error "kernel default routes changed during the operation; no unowned route was added or removed"

/-- The error of one part of a rollback, under its name. -/
def labelled (label : String) : Except String Unit → List String
  | .ok () => []
  | .error error => [s!"{label}: {error}"]

def rollback_profile (target : Target Device) (owned : Bool × Bool) : Fallible Device Unit := do
  let persistent ← (rollback_persistent target owned).attempt
  let active ← (rollback_active target owned).attempt
  let routes ← (verify_routes target).attempt
  let errors := labelled "persistent profile" persistent ++ labelled "active profile" active ++
    labelled "route verification" routes
  if errors.isEmpty then return ()
  else .error ("; ".intercalate errors)

def with_rollback (error : String) : Except String Unit → String
  | .ok () => s!"{error} The original persistent and active profile settings were restored or verified unchanged."
  | .error rollback_error =>
    s!"{error} Automatic profile rollback was incomplete: {rollback_error}. Open NetworkManager settings before continuing."

section
variable [DecidableEq Device]

def same_selection (left right : Target Device) : Bool :=
  left.device = right.device && left.connection_uuid = right.connection_uuid && left.device_dbus_path = right.device_dbus_path

def same_values (left right : Target Device) : Bool :=
  left.profile_never_default = right.profile_never_default && left.applied_never_default = right.applied_never_default

def confirm_original_or_rollback (target : Target Device) (owned : Bool × Bool) : Fallible Device Unit := do
  match ← resolve_target.attempt with
  | .ok (.Target current) =>
    if same_selection current target && same_values current target then return ()
    else rollback_profile target owned
  | _ => rollback_profile target owned

/-- The error that ends a run, once the settings are rolled back. -/
def fail_with_rollback {α : Type} (error : String) (rollback : Fallible Device Unit) : Fallible Device α := do
  .error (with_rollback error (← rollback.attempt))

/-- Whether the requested values were kept; `current` is how the target looks afterwards. An enabled
policy may still have a default route, which a reconnection removes. -/
def retained (target current : Target Device) (enabled : Bool) : Bool :=
  (same_selection current target && settings_all current enabled && (!enabled || policy_enabled current)) ||
    (enabled && same_selection current target && settings_all current true)

theorem retained_settings {target current : Target Device} {enabled : Bool} (h : retained target current enabled = true) :
    settings_all current enabled = true := by
  unfold retained at h
  simp only [Bool.or_eq_true, Bool.and_eq_true] at h
  rcases h with h | h
  · exact h.1.2
  · rw [h.1.1]
    exact h.2

/-- `set_with_backend` from its first write on. -/
def change_settings (target : Target Device) (enabled : Bool) : Fallible Device LinuxLocalOnlyStatus := do
  let owned := (enabled, enabled)
  match ← (modify_profile target.connection_uuid target.profile_never_default owned).attempt with
  | .error error =>
    fail_with_rollback s!"Could not update the NetworkManager profile: {error}" (confirm_original_or_rollback target owned)
  | .ok () =>
  match ← (read_profile target.connection_uuid).attempt with
  | .error error =>
    fail_with_rollback s!"Could not verify the persistent profile update: {error}" (rollback_profile target owned)
  | .ok current =>
  if current ≠ owned then
    fail_with_rollback "The persistent never-default values changed concurrently after the update."
      (rollback_profile target owned)
  -- A call that fails here ends the run at once.
  else if !(← Backend.verify_device target.device) then
    fail_with_rollback "The selected RNDIS device changed after its profile was updated." (rollback_profile target owned)
  else
  match ← (apply_profile target owned).attempt with
  | .error error => fail_with_rollback error (rollback_profile target owned)
  | .ok () =>
  match ← resolve_target.attempt with
  | .ok (.Target current) =>
    if retained target current enabled then return target_status current
    else
      fail_with_rollback "NetworkManager did not retain the requested setting on the exact RNDIS profile."
        (rollback_profile target owned)
  | .ok (.Unavailable _) =>
    fail_with_rollback "NetworkManager did not retain the requested setting on the exact RNDIS profile."
      (rollback_profile target owned)
  | .error error =>
    fail_with_rollback s!"Could not verify the NetworkManager update: {error}" (rollback_profile target owned)

def set_with_backend (enabled : Bool) : Fallible Device LinuxLocalOnlyStatus := do
  match ← resolve_target with
  | .Unavailable message => .error message
  | .Target target =>
    if settings_all target enabled && (!enabled || policy_enabled target) then return target_status target
    else if !(← Backend.verify_device target.device) then
      .error "The selected RNDIS device changed before its profile could be updated."
    else if (← read_profile target.connection_uuid) ≠ target.profile_never_default then
      .error "The persistent never-default values changed concurrently; their newer values were preserved. Check tether again before retrying."
    else change_settings target enabled

end

/-! ## The settings -/

/-- The settings NetworkManager holds: each profile's pair, and what each device runs. -/
structure Settings where
  profile : String → Bool × Bool
  active : String → String × Bool × Bool

namespace Settings

/-- What a write leaves when it goes through: it only replaces the values it expects. -/
def after (s : Settings) : Op Device → Settings
  | .update_profile uuid expected desired =>
    if s.profile uuid = expected then { s with profile := Function.update s.profile uuid desired } else s
  | .apply_active path uuid expected desired =>
    if s.active path = (uuid, expected) then { s with active := Function.update s.active path (uuid, desired) } else s
  | _ => s

/-- Whether a write that goes through found the values it expects, or a read gives the values held. -/
def Answers (s : Settings) : (op : Op Device) → Ret op → Prop
  | .read_profile uuid, pair => pair = s.profile uuid
  | .read_active path, active => active = s.active path
  | .update_profile uuid expected _, _ => s.profile uuid = expected
  | .apply_active path uuid expected _, _ => s.active path = (uuid, expected)
  | _, _ => True

/-- A write whose expected values are not there is refused. -/
def Refuses (s : Settings) : Op Device → Prop
  | .update_profile uuid expected _ => s.profile uuid ≠ expected
  | .apply_active path uuid expected _ => s.active path ≠ (uuid, expected)
  | _ => False

end Settings

/-! ## A world that does not change -/

/-- What the backend says of everything but the settings and the kernel's routes. -/
structure World (Device : Type) where
  devices : List Device
  device_name : Device → String
  present : Device → Bool
  version : String
  nmcli : List String → String

/-- What is read is so. -/
def World.Tells (w : World Device) : (op : Op Device) → Ret op → Prop
  | .devices, devices => devices = w.devices
  | .device_name device, name => name = w.device_name device
  | .verify_device device, present => present = w.present device
  | .daemon_version, version => version = w.version
  | .nmcli args, output => output = w.nmcli args
  | _, _ => True

/-- What each call reads; the settings and the routes are not the world's. -/
def World.told (w : World Device) : (op : Op Device) → Ret op
  | .devices => w.devices
  | .device_name device => w.device_name device
  | .verify_device device => w.present device
  | .daemon_version => w.version
  | .nmcli args => w.nmcli args
  | .default_routes_present _ => (false, false)
  | .read_profile _ => (false, false)
  | .update_profile _ _ _ => ()
  | .read_active _ => ("", false, false)
  | .apply_active _ _ _ _ => ()

/-- A true answer, a write that does not find what it expects being refused. -/
def World.answer (w : World Device) (s : Settings) : (op : Op Device) → Except String (Ret op)
  | .read_profile uuid => .ok (s.profile uuid)
  | .read_active path => .ok (s.active path)
  | .update_profile uuid expected _ =>
    if s.profile uuid = expected then .ok ()
    else .error "The persistent never-default values changed concurrently; refusing to overwrite them."
  | .apply_active path uuid expected _ =>
    if s.active path = (uuid, expected) then .ok ()
    else .error "The active never-default values changed concurrently; refusing to overwrite them."
  | op => .ok (w.told op)

/-- An answered write took effect, a refused one did not. -/
theorem World.answer_spec (w : World Device) (s : Settings) (op : Op Device) :
    (∃ a, w.answer s op = .ok a ∧ w.Tells op a ∧ s.Answers op a) ∨
    (∃ e, w.answer s op = .error e ∧ s.Refuses op ∧ s.after op = s) := by
  cases op with
  | update_profile uuid expected desired =>
    by_cases h : s.profile uuid = expected
    · exact .inl ⟨(), if_pos h, trivial, h⟩
    · exact .inr ⟨_, if_neg h, h, if_neg h⟩
  | apply_active path uuid expected desired =>
    by_cases h : s.active path = (uuid, expected)
    · exact .inl ⟨(), if_pos h, trivial, h⟩
    · exact .inr ⟨_, if_neg h, h, if_neg h⟩
  | read_profile uuid => exact .inl ⟨_, rfl, trivial, rfl⟩
  | read_active path => exact .inl ⟨_, rfl, trivial, rfl⟩
  | default_routes_present device => exact .inl ⟨_, rfl, trivial, trivial⟩
  | _ => exact .inl ⟨_, rfl, rfl, trivial⟩

end Trackpad.NetworkManager
