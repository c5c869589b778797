import Trackpad.RoutePolicy.Difference
import Trackpad.RoutePolicy.System
/-!
# The Windows route policy

`tether_policy/windows.rs` from the capture of an interface to its restoration or recovery. Deciding which
adapters are phones is not here.
-/

namespace Trackpad.RoutePolicy

open Calls

structure TetherBinding where
  interface_index : UInt32
  adapter : AdapterIdentity
  validate_runtime : Bool

structure InterfaceSnapshot where
  adapter : AdapterIdentity
  interface_index : UInt32
  family : ADDRESS_FAMILY
  disable_default_routes : Bool
  default_routes : List MIB_IPFORWARD_ROW2
  persisted_name : String
  deriving DecidableEq

inductive RecoveryOutcome
  | NothingToDo
  | Restored (snapshots : Nat)
  | Deferred (restored pending : Nat)
  | OwnerStillRunning
  deriving DecidableEq

inductive PolicyRecovery
  | Restored | Deferred | OwnerStillRunning
  deriving DecidableEq

/-! ## Adapters -/

def same_recovery_adapter (expected actual : AdapterIdentity) : Bool :=
  expected.adapter_name = actual.adapter_name && expected.luid = actual.luid && expected.network_guid = actual.network_guid

def same_adapter_instance (expected actual : AdapterIdentity) : Bool :=
  same_recovery_adapter expected actual && expected.physical_address = actual.physical_address

def TetherBinding.matches_current (self current : TetherBinding) : Bool :=
  self.interface_index = current.interface_index && same_adapter_instance self.adapter current.adapter

def all_adapter_details : Io (List (AdapterIdentity × List IpAddr)) := do
  match ← .attempted Op.GetAdaptersAddresses with
  | .ok details => return details.filter fun (identity, _) => identity.interface_index ≠ 0
  | .error code =>
    if code = ERROR_NO_DATA then return [] else .error (win32_error "enumerate Windows network adapters" code)

def adapter_details (interface_index : UInt32) : Io (Option (AdapterIdentity × List IpAddr)) := do
  return (← all_adapter_details).find? fun (identity, _) => identity.interface_index = interface_index

def adapter_identity (interface_index : UInt32) : Io (Option AdapterIdentity) := do
  return (← adapter_details interface_index).map fun (identity, _) => identity

def adapter_details_for_identity (expected : AdapterIdentity) : Io (Option (AdapterIdentity × List IpAddr)) := do
  match (← all_adapter_details).filter fun (identity, _) => same_recovery_adapter expected identity with
  | [] => return none
  | [matched] => return some matched
  | _ => .error (.new .InvalidData "multiple Windows adapters match the captured tether identity; refusing recovery")

def require_same_adapter (snapshot : InterfaceSnapshot) : Io AdapterIdentity := do
  match ← adapter_identity snapshot.interface_index with
  | none => .error (.new .NotFound s!"tether adapter {snapshot.interface_index} is no longer present")
  | some current =>
    if same_adapter_instance snapshot.adapter current then return current
    else .error (.new .NotFound
      s!"interface {snapshot.interface_index} no longer identifies the captured tether adapter")

def require_binding_adapter (binding : TetherBinding) : Io AdapterIdentity := do
  match ← adapter_identity binding.interface_index with
  | none => .error (.new .NotFound
      s!"discovered tether adapter {binding.interface_index} disappeared before route protection")
  | some current =>
    if binding.matches_current ⟨current.interface_index, current, true⟩ then return current
    else .error (.new .NotFound
      s!"interface {binding.interface_index} no longer identifies the discovered tether adapter")

/-! ## Interface rows -/

def interface_identity_matches (interface_index : UInt32) (interface_luid : UInt64) (adapter : AdapterIdentity) : Bool :=
  interface_index = adapter.interface_index && interface_luid = adapter.luid

def interface_row (interface_index : UInt32) (family : ADDRESS_FAMILY) : Io (Option MIB_IPINTERFACE_ROW) := do
  match ← .attempted (Op.GetIpInterfaceEntry interface_index family) with
  | .ok row => return some row
  | .error code =>
    if is_missing code then return none else .error (win32_error "read the tether interface settings" code)

def interface_row_for_adapter (adapter : AdapterIdentity) (family : ADDRESS_FAMILY) :
    Io (Option MIB_IPINTERFACE_ROW) := do
  match ← interface_row adapter.interface_index family with
  | none => return none
  | some row =>
    if interface_identity_matches row.InterfaceIndex row.InterfaceLuid adapter then return some row
    else .error (.new .NotFound
      s!"interface {adapter.interface_index} changed adapter identity while reading its route policy")

def prepare_interface_row_for_set (row : MIB_IPINTERFACE_ROW) (disable_default_routes : Bool) : MIB_IPINTERFACE_ROW :=
  { row with
    DisableDefaultRoutes := disable_default_routes
    SitePrefixLength := if row.Family = IPV4 then 0 else row.SitePrefixLength }

/-! ## Routes -/

def sockaddr_inet_ip : SOCKADDR_INET → Option (IpAddr × UInt32)
  | .Ipv4 address => some (.V4 address, 0)
  | .Ipv6 address scope_id => some (.V6 address, scope_id)
  | .Unspec => none

def set_sockaddr_inet (address : IpAddr) (scope_id : UInt32) : SOCKADDR_INET :=
  match address with
  | .V4 address => .Ipv4 address
  | .V6 address => .Ipv6 address scope_id

def unspecified_for_family (family : ADDRESS_FAMILY) : IpAddr := if family = IPV4 then .V4 0 else .V6 0

/-- The bytes of the union's `Ipv4` address, then zeros. What is not an IPv4 address has zeros there too. -/
def ipv4_bytes : SOCKADDR_INET → BitVec 128
  | .Ipv4 address => address ++ 0#96
  | _ => 0

/-- The bytes of the union's `Ipv6` address. -/
def ipv6_bytes : SOCKADDR_INET → BitVec 128
  | .Ipv6 address _ => address
  | _ => 0

def route_key (route : MIB_IPFORWARD_ROW2) : RouteKey :=
  let family := route.Prefix.si_family
  let bytes := if family = IPV4 then ipv4_bytes else ipv6_bytes
  { interface_index := route.InterfaceIndex
    family
    prefix_length := route.PrefixLength
    prefix_bytes := bytes route.Prefix
    next_hop := bytes route.NextHop }

def default_routes (interface_index : UInt32) (family : ADDRESS_FAMILY) : Io (List MIB_IPFORWARD_ROW2) := do
  match ← .attempted (Op.GetIpForwardTable2 family) with
  | .ok table => return table.filter fun route => route.InterfaceIndex = interface_index && route.PrefixLength = 0
  | .error code =>
    if is_missing code then return [] else .error (win32_error "read the Windows route table" code)

def default_routes_for_adapter (adapter : AdapterIdentity) (family : ADDRESS_FAMILY) :
    Io (List MIB_IPFORWARD_ROW2) := do
  let routes ← default_routes adapter.interface_index family
  if routes.all fun route => interface_identity_matches route.InterfaceIndex route.InterfaceLuid adapter then
    return routes
  else .error (.new .NotFound
    s!"interface {adapter.interface_index} changed adapter identity while reading its default routes")

def persist_route (route : MIB_IPFORWARD_ROW2) : Option PersistedRoute := do
  let (next_hop, next_hop_scope_id) ← sockaddr_inet_ip route.NextHop
  return {
    next_hop, next_hop_scope_id
    site_prefix_length := route.SitePrefixLength
    valid_lifetime := route.ValidLifetime
    preferred_lifetime := route.PreferredLifetime
    metric := route.Metric
    protocol := route.Protocol
    loopback := route.Loopback
    autoconfigure_address := route.AutoconfigureAddress
    publish := route.Publish
    immortal := route.Immortal
    origin := route.Origin }

def persisted_routes (routes : List MIB_IPFORWARD_ROW2) : Except IoError (List PersistedRoute) :=
  match routes.mapM persist_route with
  | some persisted => .ok persisted
  | none => .error (.new .InvalidData
      "could not serialize every tether default route before changing Windows")

/-- The fields that are not set are those of `InitializeIpForwardEntry`. -/
def restore_route_row (route : PersistedRoute) (adapter : AdapterIdentity) (family : ADDRESS_FAMILY) :
    Except IoError MIB_IPFORWARD_ROW2 :=
  let matching := match route.next_hop with
    | .V4 _ => family = IPV4
    | .V6 _ => family = IPV6
  if !matching then
    .error (.new .InvalidData "persisted route address family does not match its interface family")
  else
    let next_hop_scope_id :=
      if route.next_hop.is_unicast_link_local then adapter.interface_index else route.next_hop_scope_id
    .ok {
      InterfaceIndex := adapter.interface_index
      InterfaceLuid := adapter.luid
      Prefix := set_sockaddr_inet (unspecified_for_family family) 0
      PrefixLength := 0
      NextHop := set_sockaddr_inet route.next_hop next_hop_scope_id
      SitePrefixLength := route.site_prefix_length
      ValidLifetime := route.valid_lifetime
      PreferredLifetime := route.preferred_lifetime
      Metric := route.metric
      Protocol := route.protocol
      Loopback := route.loopback
      AutoconfigureAddress := route.autoconfigure_address
      Publish := route.publish
      Immortal := route.immortal
      Origin := route.origin }

/-! ## Gateways -/

inductive CapturedGateway
  | Available | Stale | Unconfirmed
  deriving DecidableEq

def classify_captured_gateway (next_hop : IpAddr) (routed configured : List IpAddr) : CapturedGateway :=
  if next_hop.is_unspecified || routed.contains next_hop || configured.contains next_hop then .Available
  else if configured.isEmpty then .Unconfirmed
  else .Stale

def read_registry_strings (adapter_name name : String) : Io (List (Option IpAddr)) := do
  match ← .attempted (Op.RegQueryValueExW (.interface adapter_name) name) with
  | .error code =>
    if is_missing code then return []
    else .error (win32_error "read the tether interface gateway configuration" code)
  | .ok (.strings _) =>
    match ← .attempted (Op.RegQueryValueExW (.interface adapter_name) name) with
    | .error code =>
      if is_missing code then return []
      else .error (win32_error "read the tether interface gateway configuration" code)
    | .ok (.strings texts) => return texts
    | .ok _ => return []
  | .ok _ => return []

/-- One value's gateways after those found before. -/
def add_gateways (gateways : List IpAddr) (texts : List (Option IpAddr)) : List IpAddr :=
  texts.foldl (fun gateways text => match text with
    | some address =>
      if !address.is_unspecified && !gateways.contains address then gateways ++ [address] else gateways
    | none => gateways) gateways

def configured_gateways (adapter : AdapterIdentity) (family : ADDRESS_FAMILY) : Io (List IpAddr) := do
  if family ≠ IPV4 || adapter.adapter_name = "" then return []
  else
    match ← .attempted (Op.RegOpenKeyExW (.interface adapter.adapter_name)) with
    | .error code =>
      if is_missing code then return []
      else .error (win32_error "open the tether interface TCP/IP configuration" code)
    | .ok _ =>
      let dhcp ← read_registry_strings adapter.adapter_name "DhcpDefaultGateway"
      let static ← read_registry_strings adapter.adapter_name "DefaultGateway"
      return add_gateways (add_gateways [] dhcp) static

/-! ## The journal -/

def POLICY_REGISTRY_PATH : String := "SOFTWARE\\Holodori\\PhoneTrackpad\\RoutePolicy"
def POLICY_VALUE_PREFIX : String := "tether-route-policy-v1-"
def POLICY_VALUE_SUFFIX : String := ".bin"

def starts_with (text start : String) : Bool := start.toList.isPrefixOf text.toList
def ends_with (text ending : String) : Bool := ending.toList.isSuffixOf text.toList

/-- Whether the key exists. -/
def open_policy_key : Io Bool := do
  match ← .attempted (Op.RegOpenKeyExW .policy) with
  | .ok _ => return true
  | .error code =>
    if is_missing code then return false
    else .error (win32_error "open the machine-protected tether recovery journal" code)

def create_policy_key : Io Unit := do
  check_win32 (← .attempted Op.RegCreateKeyExW) "open the machine-protected tether recovery journal"

/-- The value's bytes. -/
def read_policy_value (name : String) : Io (Option (Except IoError PersistedPolicy)) := do
  match ← .attempted (Op.RegQueryValueExW .policy name) with
  | .error code =>
    if is_missing code then return none
    else .error (win32_error "read a protected tether recovery journal entry" code)
  | .ok (.binary _) =>
    match ← check_win32 (← .attempted (Op.RegQueryValueExW .policy name))
      "read a protected tether recovery journal entry" with
    | .binary encoded => return some encoded
    | _ => .error (.new .InvalidData s!"protected tether recovery entry {name} changed type while reading")
  | .ok _ => .error (.new .InvalidData s!"protected tether recovery entry {name} is not binary")

def policy_name (policy : PersistedPolicy) : String :=
  POLICY_VALUE_PREFIX ++ (s!"{policy.owner.pid}-{policy.owner.creation_time}" ++
    s!"-{policy.adapter.interface_index}-{policy.family}") ++ POLICY_VALUE_SUFFIX

def persist_policy (policy : PersistedPolicy) : Io String := do
  let name := policy_name policy
  create_policy_key
  match ← read_policy_value name with
  | some existing =>
    let existing ← .ofExcept existing
    if existing = policy then return name
    else .error (.new .AlreadyExists s!"a different tether policy snapshot already exists as {name}")
  | none =>
    check_win32 (← .attempted (Op.RegSetValueExW name policy)) "write the protected tether recovery journal"
    check_win32 (← .attempted Op.RegFlushKey) "flush the protected tether recovery journal"
    match ← read_policy_value name with
    | some (.ok written) =>
      if written = policy then return name
      else .error (.other "the protected tether recovery journal did not verify after writing")
    | _ => .error (.other "the protected tether recovery journal did not verify after writing")

/-- `persisted_policies` from value `index` on, of which at most `remaining` are read. -/
def enumerate_policies : (remaining index : Nat) → Io (List (String × PersistedPolicy))
  | 0, _ => return []
  | remaining + 1, index => do
    match ← .attempted (Op.RegEnumValueW index) with
    | .error code =>
      if code = ERROR_NO_MORE_ITEMS then return []
      else .error (win32_error "enumerate the protected tether recovery journal" code)
    | .ok (name, value) =>
      if !starts_with name POLICY_VALUE_PREFIX || !ends_with name POLICY_VALUE_SUFFIX then
        enumerate_policies remaining (index + 1)
      else
        match value with
        | .binary encoded =>
          let policy ← .ofExcept encoded
          let policies ← enumerate_policies remaining (index + 1)
          return (name, policy) :: policies
        | _ => .error (.new .InvalidData s!"protected tether recovery entry {name} is not binary")

def persisted_policies : Io (List (String × PersistedPolicy)) := do
  if !(← open_policy_key) then return []
  else
    let value_count ← check_win32 (← .attempted Op.RegQueryInfoKeyW) "inspect the protected tether recovery journal"
    enumerate_policies value_count 0

def remove_policy_value (name : String) : Io Unit := do
  if !(← open_policy_key) then return ()
  else
    match ← .attempted (Op.RegDeleteValueW name) with
    | .ok _ => check_win32 (← .attempted Op.RegFlushKey) "flush removal of a protected tether recovery journal entry"
    | .error code =>
      if is_missing code then return ()
      else .error (win32_error "remove a protected tether recovery journal entry" code)

/-! ## Owners -/

def eq_ignore_ascii_case (a b : String) : Bool := a.toList.map Char.toLower = b.toList.map Char.toLower

/-- What fails stands as the error it is. -/
def process_creation_time (process : HANDLE) : Io (Except IoError UInt64) := do
  match ← .attempted (Op.GetProcessTimes process) with
  | .ok creation => return .ok creation
  | .error code => return .error (.last_os_error code)

/-- Of the process `pid` this runs in. -/
def current_process_owner (pid : UInt32) : Io ProcessOwner := do
  let creation_time ← .ofExcept (← process_creation_time .current)
  let image_name := match ← .attempted Op.current_exe with
    | .ok name => name
    | .error _ => ""
  return { pid, creation_time, image_name }

def process_owner_is_running (owner : ProcessOwner) : Io Bool := do
  match ← .attempted (Op.OpenProcess owner.pid) with
  | .error code =>
    if code = ERROR_INVALID_PARAMETER || code = ERROR_NOT_FOUND then return false
    else .error (.last_os_error code)
  | .ok _ =>
    let creation ← process_creation_time (.opened owner.pid)
    let image ← .attempted (Op.QueryFullProcessImageNameW (.opened owner.pid))
    match ← .attempted (Op.GetExitCodeProcess (.opened owner.pid)) with
    | .error code => .error (.last_os_error code)
    | .ok exit_code =>
      if exit_code ≠ STILL_ACTIVE then return false
      else
        let creation_matches := (← .ofExcept creation) = owner.creation_time
        let image_matches := owner.image_name = "" || match image with
          | .ok image => eq_ignore_ascii_case image owner.image_name
          | .error _ => true
        return creation_matches && image_matches

/-! ## Restoring -/

/-- Creates the routes whose gateways are still there, each given with its next hop, and returns their keys. -/
def create_missing (interface_index : UInt32) (gateways configured : List IpAddr) (operation : String) :
    List (Option IpAddr × MIB_IPFORWARD_ROW2) → Io (List RouteKey)
  | [] => return []
  | (none, _) :: _ => .error (.new .InvalidData "captured tether route has an unsupported next-hop family")
  | (some next_hop, route) :: missing =>
    match classify_captured_gateway next_hop gateways configured with
    | .Stale => create_missing interface_index gateways configured operation missing
    | .Unconfirmed => .error ⟨.NotFound, [.text "captured gateway ", .ip next_hop,
        .text s!" is no longer configured on tether interface {interface_index}; retaining the recovery journal"]⟩
    | .Available => do
      match ← .attempted (Op.CreateIpForwardEntry2 route) with
      | .error code =>
        if code ≠ ERROR_ALREADY_EXISTS && code ≠ ERROR_OBJECT_ALREADY_EXISTS then .error (win32_error operation code)
        else
          let verify_keys ← create_missing interface_index gateways configured operation missing
          return route_key route :: verify_keys
      | .ok _ =>
        let verify_keys ← create_missing interface_index gateways configured operation missing
        return route_key route :: verify_keys

/-- Creates what is missing of the captured routes `original`, unless the table holds others; returns the keys to verify. -/
def recreate_routes (adapter : AdapterIdentity) (family : ADDRESS_FAMILY) (gateways : List IpAddr)
    (original : List (Option IpAddr × MIB_IPFORWARD_ROW2)) (current_routes : List MIB_IPFORWARD_ROW2)
    (operation : String) : Io (List RouteKey) :=
  match missing_original_indices (current_routes.map route_key) (original.map fun x => route_key x.2) with
  | none => return []
  | some missing => do
    let configured ← configured_gateways adapter family
    create_missing adapter.interface_index gateways configured operation (missing.filterMap (original[·]?))

/-- What `restore_snapshot` and `recover_policy` do with the captured routes `original`, each with its next hop.
`operation` and `absent` are their words for it. -/
def restore_routes (adapter : AdapterIdentity) (family : ADDRESS_FAMILY) (gateways : List IpAddr)
    (original : List (Option IpAddr × MIB_IPFORWARD_ROW2)) (current_routes : List MIB_IPFORWARD_ROW2)
    (operation absent : String) : Io Unit := do
  let verify_keys ← recreate_routes adapter family gateways original current_routes operation
  if verify_keys.isEmpty then return ()
  else
    let restored_keys := (← default_routes_for_adapter adapter family).map route_key
    match verify_keys.find? fun key => !restored_keys.contains key with
    | some missing => .error ⟨.Other, [.text absent, .key missing]⟩
    | none => return ()

def restore_interface_flag (adapter : AdapterIdentity) (family : ADDRESS_FAMILY) (disable_default_routes : Bool) :
    Io Unit := do
  match ← interface_row_for_adapter adapter family with
  | none => .error (.new .NotFound s!"tether interface {adapter.interface_index} disappeared during flag restoration")
  | some interface =>
    if interface.DisableDefaultRoutes = disable_default_routes then return ()
    else
      let interface := prepare_interface_row_for_set interface disable_default_routes
      check_win32 (← .attempted (Op.SetIpInterfaceEntry interface))
        "restore the tether interface default-route setting"
      match ← interface_row_for_adapter adapter family with
      | none => .error (.new .NotFound s!"tether interface {adapter.interface_index} disappeared after flag restoration")
      | some verified =>
        if verified.DisableDefaultRoutes = disable_default_routes then return ()
        else .error (.other ("Windows reported flag restoration success but tether interface " ++
          s!"{adapter.interface_index} retained the old value"))

def should_restore_owned_flag (current original : Bool) : Bool := current && !original

def restore_owned_interface_flag (adapter : AdapterIdentity) (family : ADDRESS_FAMILY)
    (original_disable_default_routes : Bool) : Io Unit := do
  match ← interface_row_for_adapter adapter family with
  | none => .error (.new .NotFound s!"tether interface {adapter.interface_index} disappeared before flag restoration")
  | some interface =>
    if should_restore_owned_flag interface.DisableDefaultRoutes original_disable_default_routes then
      restore_interface_flag adapter family false
    else return ()

def restore_snapshot (snapshot : InterfaceSnapshot) : Io Unit := do
  match ← adapter_details_for_identity snapshot.adapter with
  | none => .error (.new .NotFound
      s!"captured tether adapter {snapshot.interface_index} is absent; reconnect it to finish route recovery")
  | some (adapter, gateways) =>
    match ← interface_row_for_adapter adapter snapshot.family with
    | none => .error (.new .NotFound (s!"captured tether interface {adapter.interface_index} has no " ++
        "address-family row; reconnect it to finish route recovery"))
    | some _ =>
      let current_routes ← default_routes_for_adapter adapter snapshot.family
      let persisted ← .ofExcept (persisted_routes snapshot.default_routes)
      let original_routes ← .ofExcept (persisted.mapM fun route => restore_route_row route adapter snapshot.family)
      let original := original_routes.map fun route => ((sockaddr_inet_ip route.NextHop).map (·.1), route)
      restore_routes adapter snapshot.family gateways original current_routes
        "restore the tether interface default route"
        "Windows reported route restoration success but the route is still absent: "
      restore_owned_interface_flag adapter snapshot.family snapshot.disable_default_routes
      remove_policy_value snapshot.persisted_name

def recover_policy (policy : PersistedPolicy) : Io PolicyRecovery := do
  match ← adapter_details_for_identity policy.adapter with
  | none => return .Deferred
  | some (adapter, gateways) =>
    match ← interface_row_for_adapter adapter policy.family with
    | none => return .Deferred
    | some _ =>
      if ← process_owner_is_running policy.owner then return .OwnerStillRunning
      else
        let current_routes ← default_routes_for_adapter adapter policy.family
        let original_rows ← .ofExcept (policy.routes.mapM fun route => restore_route_row route adapter policy.family)
        let original := (policy.routes.map fun route => some route.next_hop).zip original_rows
        restore_routes adapter policy.family gateways original current_routes
          "recover a tether interface default route"
          "Windows reported route recovery success but the route is still absent: "
        restore_owned_interface_flag adapter policy.family policy.original_disable_default_routes
        return .Restored

/-- The loop of `recover_policies`. -/
def recover_each : List (String × PersistedPolicy) → (restored pending : Nat) → (owner_running : Bool) →
    Io (Nat × Nat × Bool)
  | [], restored, pending, owner_running => return (restored, pending, owner_running)
  | (name, policy) :: policies, restored, pending, owner_running => do
    match ← recover_policy policy with
    | .Deferred => recover_each policies restored (pending + 1) owner_running
    | .OwnerStillRunning => recover_each policies restored pending true
    | .Restored =>
      remove_policy_value name
      recover_each policies (restored + 1) pending owner_running

def recover_policies (policies : List (String × PersistedPolicy)) : Io RecoveryOutcome := do
  let (restored, pending, owner_running) ← recover_each policies 0 0 false
  return if owner_running then .OwnerStillRunning
    else if pending > 0 then .Deferred restored pending
    else if restored > 0 then .Restored restored
    else .NothingToDo

def recover_orphaned_policy : Io RecoveryOutcome := do
  recover_policies (← persisted_policies)

/-! ## Capturing and applying -/

/-- The capture itself, in the process `pid`. -/
def capture_current (pid : UInt32) (binding : TetherBinding) (adapter : AdapterIdentity) (family : ADDRESS_FAMILY) :
    Io (Option InterfaceSnapshot) := do
  let _ ← require_binding_adapter binding
  match ← interface_row_for_adapter adapter family with
  | none => return none
  | some interface =>
    let default_routes ← default_routes_for_adapter adapter family
    let disable_default_routes := interface.DisableDefaultRoutes
    let _ ← require_binding_adapter binding
    let owner ← current_process_owner pid
    let routes ← .ofExcept (persisted_routes default_routes)
    let policy : PersistedPolicy :=
      { owner, adapter, family, original_disable_default_routes := disable_default_routes, routes }
    let persisted_name ← persist_policy policy
    return some {
      adapter := policy.adapter
      interface_index := binding.interface_index
      family, disable_default_routes, default_routes, persisted_name }

def capture_family (pid : UInt32) (binding : TetherBinding) (family : ADDRESS_FAMILY) :
    Io (Option InterfaceSnapshot) := do
  let adapter ← require_binding_adapter binding
  let policies := (← persisted_policies).filter fun (_, policy) =>
    policy.family = family && same_recovery_adapter policy.adapter adapter
  match ← recover_policies policies with
  | .Deferred _ _ => .error (.new .NotFound ("the tether adapter disconnected during recovery; " ++
      "reconnect it before enabling local-only tethering"))
  | .OwnerStillRunning => .error (.new .AlreadyExists "another tether route policy owner is still running")
  | .NothingToDo => capture_current pid binding adapter family
  | .Restored _ => capture_current pid binding adapter family

/-- Sets the flag if it is not set. -/
def disable_default_routes (interface : MIB_IPINTERFACE_ROW) (operation : String) : Io Unit := do
  if interface.DisableDefaultRoutes then return ()
  else check_win32 (← .attempted (Op.SetIpInterfaceEntry (prepare_interface_row_for_set interface true))) operation

def verify_enforced_snapshot (snapshot : InterfaceSnapshot) : Io Unit := do
  let adapter ← require_same_adapter snapshot
  match ← interface_row_for_adapter adapter snapshot.family with
  | none => .error (.new .NotFound s!"protected tether interface {snapshot.interface_index} is no longer present")
  | some interface =>
    disable_default_routes interface "reassert disabled default routes on the tether interface"
    match ← interface_row_for_adapter adapter snapshot.family with
    | none => .error (.new .NotFound
        s!"protected tether interface {snapshot.interface_index} disappeared during policy verification")
    | some verified_interface =>
      if !verified_interface.DisableDefaultRoutes then
        .error (.other ("Windows reported route-policy success but default routes remain enabled on tether " ++
          s!"interface {snapshot.interface_index}"))
      else
        let unexpected ← default_routes_for_adapter adapter snapshot.family
        if !unexpected.isEmpty then
          .error (.other (s!"{unexpected.length} unjournaled default route(s) appeared on protected tether " ++
            s!"interface {snapshot.interface_index}; refusing to delete them"))
        else return ()

/-- Deletes captured routes one after the other, as long as they are all that is left. -/
def delete_captured (adapter : AdapterIdentity) (snapshot : InterfaceSnapshot) : List MIB_IPFORWARD_ROW2 → Io Unit
  | [] => return ()
  | route :: rest => do
    let expected_remaining ← .ofExcept (persisted_routes (route :: rest))
    let current ← .ofExcept (persisted_routes (← default_routes_for_adapter adapter snapshot.family))
    if !same_multiset current expected_remaining then
      .error (.other (s!"default routes on tether interface {snapshot.interface_index} changed during policy " ++
        "application; refusing further deletion"))
    else
      check_win32 (← .attempted (Op.DeleteIpForwardEntry2 route)) "remove a captured tether interface default route"
      delete_captured adapter snapshot rest

def apply_snapshot (snapshot : InterfaceSnapshot) : Io Unit := do
  let adapter ← require_same_adapter snapshot
  let captured_routes ← .ofExcept (persisted_routes snapshot.default_routes)
  let current_routes ← default_routes_for_adapter adapter snapshot.family
  let current_routes ← .ofExcept (persisted_routes current_routes)
  if !same_multiset current_routes captured_routes then
    .error (.other (s!"default routes on tether interface {snapshot.interface_index} changed after capture; " ++
      "refusing to delete newer state"))
  else
    match ← interface_row_for_adapter adapter snapshot.family with
    | none => .error (.new .NotFound
        s!"tether interface {snapshot.interface_index} disappeared before policy application")
    | some interface =>
      disable_default_routes interface "disable default routes on the tether interface"
      delete_captured adapter snapshot snapshot.default_routes
      verify_enforced_snapshot snapshot

/-! ## `TetherRoutePolicy` -/

/-- The loop of `rollback_suffix` over the items, last one first: those that failed, first one first, and their
errors. -/
def rollback_each {T : Type} (restore : T → Io Unit) : List T → List T → List IoError → Io (List T × List IoError)
  | [], failed, errors => return (failed, errors)
  | item :: items, failed, errors => do
    match ← (restore item).attempt with
    | .ok _ => rollback_each restore items failed errors
    | .error error => rollback_each restore items (item :: failed) (errors ++ [error])

/-- The items left, and the errors. -/
def rollback_suffix {T : Type} (items : List T) (start : Nat) (restore : T → Io Unit) : Io (List T × List IoError) := do
  let (failed, errors) ← rollback_each restore (items.drop start).reverse [] []
  return (items.take start ++ failed, errors)

/-- The errors' messages with `"; "` in between. -/
def join (errors : List IoError) : List Piece := List.intercalate [.text "; "] (errors.map fun error => error.message)

def errors_to_result (context : String) (errors : List IoError) : Except IoError Unit :=
  match errors with
  | [] => .ok ()
  | first :: _ => .error ⟨first.kind, .text s!"{context}: " :: join errors⟩

def error_with_rollback (context : String) (primary : IoError) (rollback_errors : List IoError) : IoError :=
  let message := .text s!"{context}: " :: primary.message
  if rollback_errors.isEmpty then ⟨primary.kind, message⟩
  else ⟨primary.kind, message ++ [.text "; rollback also failed: "] ++ join rollback_errors ++
    [.text "; durable snapshot(s) retained for retry"]⟩

/-- A method of `TetherRoutePolicy`: the snapshots it leaves, and its result. -/
abbrev Method := Io (List InterfaceSnapshot × Except IoError Unit)

def restore (snapshots : List InterfaceSnapshot) : Method := do
  let (snapshots, errors) ← rollback_suffix snapshots 0 restore_snapshot
  return (snapshots, errors_to_result "restore the local-only tether policy" errors)

/-- The loop of `refresh`. -/
def refresh : List InterfaceSnapshot → Io Unit
  | [] => return ()
  | snapshot :: snapshots => do
    verify_enforced_snapshot snapshot
    refresh snapshots

/-- The check of the snapshots that protect the interface already. -/
def verify_protected (binding : TetherBinding) : List InterfaceSnapshot → Io Unit
  | [] => return ()
  | snapshot :: snapshots => do
    if snapshot.interface_index ≠ binding.interface_index || !same_adapter_instance snapshot.adapter binding.adapter then
      .error (.new .NotFound "the protected route snapshot does not belong to the discovered tether adapter")
    else
      verify_enforced_snapshot snapshot
      verify_protected binding snapshots

/-- The loop over the families. -/
def protect_families (pid : UInt32) (binding : TetherBinding) (protected_snapshots : List InterfaceSnapshot)
    (transaction_start : Nat) : List ADDRESS_FAMILY → List InterfaceSnapshot → Method
  | [], snapshots => return (snapshots, .ok ())
  | family :: families, snapshots => do
    if protected_snapshots.any fun snapshot => snapshot.family = family then
      protect_families pid binding protected_snapshots transaction_start families snapshots
    else
      match ← (capture_family pid binding family).attempt with
      | .ok (some snapshot) =>
        match ← (apply_snapshot snapshot).attempt with
        | .ok _ => protect_families pid binding protected_snapshots transaction_start families (snapshots ++ [snapshot])
        | .error error =>
          let (snapshots, rollback_errors) ← rollback_suffix (snapshots ++ [snapshot]) transaction_start restore_snapshot
          return (snapshots, .error (error_with_rollback "apply the local-only tether policy" error rollback_errors))
      | .ok none => protect_families pid binding protected_snapshots transaction_start families snapshots
      | .error error =>
        let (snapshots, rollback_errors) ← rollback_suffix snapshots transaction_start restore_snapshot
        return (snapshots, .error (error_with_rollback "capture the local-only tether policy" error rollback_errors))

def protect_interface_inner (pid : UInt32) (binding : TetherBinding) (snapshots : List InterfaceSnapshot) : Method := do
  let protected_snapshots := snapshots.filter fun snapshot => snapshot.interface_index = binding.interface_index
  match ← (verify_protected binding protected_snapshots).attempt with
  | .error error => return (snapshots, .error error)
  | .ok _ => protect_families pid binding protected_snapshots snapshots.length [IPV4, IPV6] snapshots

end Trackpad.RoutePolicy
