import Trackpad.Lib.Calls
/-!
# The Windows calls of the route policy

The data of `tether_policy/windows.rs` and one call for each function of Windows it uses. A call that does
not succeed gives the code it returned. The buffers that grow until an answer fits are not here.
-/

namespace Trackpad.RoutePolicy

open Calls

/-! ## Addresses and rows -/

inductive IpAddr
  | V4 (address : BitVec 32)
  | V6 (address : BitVec 128)
  deriving DecidableEq

def IpAddr.is_unspecified : IpAddr → Bool
  | .V4 address => address = 0
  | .V6 address => address = 0

/-- `Ipv6Addr::is_unicast_link_local`, of any address: fe80::/10. -/
def IpAddr.is_unicast_link_local : IpAddr → Bool
  | .V4 _ => false
  | .V6 address => address.extractLsb' 118 10 = 0x3fa#10

abbrev ADDRESS_FAMILY := UInt16

/-- `AF_INET`. -/
def IPV4 : ADDRESS_FAMILY := 2

/-- `AF_INET6`. -/
def IPV6 : ADDRESS_FAMILY := 23

/-- The zeroed union is `Unspec`. -/
inductive SOCKADDR_INET
  | Ipv4 (address : BitVec 32)
  | Ipv6 (address : BitVec 128) (scope_id : UInt32)
  | Unspec
  deriving DecidableEq

def SOCKADDR_INET.si_family : SOCKADDR_INET → ADDRESS_FAMILY
  | .Ipv4 _ => IPV4
  | .Ipv6 _ _ => IPV6
  | .Unspec => 0

structure MIB_IPFORWARD_ROW2 where
  InterfaceIndex : UInt32
  InterfaceLuid : UInt64
  Prefix : SOCKADDR_INET
  PrefixLength : UInt8
  NextHop : SOCKADDR_INET
  SitePrefixLength : UInt8
  ValidLifetime : UInt32
  PreferredLifetime : UInt32
  Metric : UInt32
  Protocol : Int32
  Loopback : Bool
  AutoconfigureAddress : Bool
  Publish : Bool
  Immortal : Bool
  Origin : Int32
  deriving DecidableEq

structure MIB_IPINTERFACE_ROW where
  Family : ADDRESS_FAMILY
  InterfaceIndex : UInt32
  InterfaceLuid : UInt64
  DisableDefaultRoutes : Bool
  SitePrefixLength : UInt32
  deriving DecidableEq

structure RouteKey where
  interface_index : UInt32
  family : ADDRESS_FAMILY
  prefix_length : UInt8
  prefix_bytes : BitVec 128
  next_hop : BitVec 128
  deriving DecidableEq

/-! ## The journal -/

structure ProcessOwner where
  pid : UInt32
  creation_time : UInt64
  image_name : String
  deriving DecidableEq

structure AdapterIdentity where
  adapter_name : String
  luid : UInt64
  network_guid : BitVec 128
  physical_address : List UInt8
  interface_index : UInt32
  description : String
  friendly_name : String
  deriving DecidableEq

structure PersistedRoute where
  next_hop : IpAddr
  next_hop_scope_id : UInt32
  site_prefix_length : UInt8
  valid_lifetime : UInt32
  preferred_lifetime : UInt32
  metric : UInt32
  protocol : Int32
  loopback : Bool
  autoconfigure_address : Bool
  publish : Bool
  immortal : Bool
  origin : Int32
  deriving DecidableEq

structure PersistedPolicy where
  owner : ProcessOwner
  adapter : AdapterIdentity
  family : ADDRESS_FAMILY
  original_disable_default_routes : Bool
  routes : List PersistedRoute
  deriving DecidableEq

/-! ## Errors -/

/-- `Os` is what the standard library makes of a Windows error. -/
inductive ErrorKind
  | NotFound | PermissionDenied | AlreadyExists | InvalidData | Other
  | Os (code : UInt32)
  deriving DecidableEq

/-- A piece of a message. The standard library's texts for addresses, values and Windows errors are not spelled out. -/
inductive Piece
  | text (text : String)
  | ip (address : IpAddr)
  | key (key : RouteKey)
  | os (code : UInt32)
  deriving DecidableEq

structure IoError where
  kind : ErrorKind
  message : List Piece
  deriving DecidableEq

namespace IoError

def new (kind : ErrorKind) (message : String) : IoError := ⟨kind, [.text message]⟩
def other (message : String) : IoError := new .Other message
def last_os_error (code : UInt32) : IoError := ⟨.Os code, [.os code]⟩

end IoError

/-! ## Calls -/

def ERROR_FILE_NOT_FOUND : UInt32 := 2
def ERROR_ACCESS_DENIED : UInt32 := 5
def ERROR_INVALID_PARAMETER : UInt32 := 87
def ERROR_ALREADY_EXISTS : UInt32 := 183
def ERROR_NO_DATA : UInt32 := 232
def ERROR_NO_MORE_ITEMS : UInt32 := 259
def ERROR_NOT_FOUND : UInt32 := 1168
def ERROR_OBJECT_ALREADY_EXISTS : UInt32 := 5010
def STILL_ACTIVE : UInt32 := 259

/-- The policy's own key, and the TCP/IP parameters of an adapter. -/
inductive HKEY
  | policy
  | interface (adapter_name : String)
  deriving DecidableEq

/-- Binary data stands as what `decode_policy` makes of it, a text as the address it parses to. -/
inductive RegistryValue
  | binary (decoded : Except IoError PersistedPolicy)
  | strings (texts : List (Option IpAddr))
  | other

inductive HANDLE
  | current
  | opened (pid : UInt32)
  deriving DecidableEq

inductive Op
  | GetAdaptersAddresses
  | GetIpInterfaceEntry (interface_index : UInt32) (family : ADDRESS_FAMILY)
  | SetIpInterfaceEntry (row : MIB_IPINTERFACE_ROW)
  | GetIpForwardTable2 (family : ADDRESS_FAMILY)
  | DeleteIpForwardEntry2 (row : MIB_IPFORWARD_ROW2)
  | CreateIpForwardEntry2 (row : MIB_IPFORWARD_ROW2)
  | RegOpenKeyExW (key : HKEY)
  | RegCreateKeyExW
  | RegQueryInfoKeyW
  | RegEnumValueW (index : Nat)
  | RegQueryValueExW (key : HKEY) (name : String)
  | RegSetValueExW (name : String) (value : PersistedPolicy)
  | RegFlushKey
  | RegDeleteValueW (name : String)
  | current_exe
  | OpenProcess (pid : UInt32)
  | GetProcessTimes (process : HANDLE)
  | GetExitCodeProcess (process : HANDLE)
  | QueryFullProcessImageNameW (process : HANDLE)

/-- An adapter comes with its gateways, a value of the journal with its name; a process with the file name of its image. -/
abbrev Ret : Op → Type
  | .GetAdaptersAddresses => List (AdapterIdentity × List IpAddr)
  | .GetIpInterfaceEntry _ _ => MIB_IPINTERFACE_ROW
  | .SetIpInterfaceEntry _ => Unit
  | .GetIpForwardTable2 _ => List MIB_IPFORWARD_ROW2
  | .DeleteIpForwardEntry2 _ => Unit
  | .CreateIpForwardEntry2 _ => Unit
  | .RegOpenKeyExW _ => Unit
  | .RegCreateKeyExW => Unit
  | .RegQueryInfoKeyW => Nat
  | .RegEnumValueW _ => String × RegistryValue
  | .RegQueryValueExW _ _ => RegistryValue
  | .RegSetValueExW _ _ => Unit
  | .RegFlushKey => Unit
  | .RegDeleteValueW _ => Unit
  | .current_exe => String
  | .OpenProcess _ => Unit
  | .GetProcessTimes _ => UInt64
  | .GetExitCodeProcess _ => UInt32
  | .QueryFullProcessImageNameW _ => String

/-- A function of the module: its calls, and its result. -/
abbrev Io (α : Type) := Prog Op Ret UInt32 IoError α

def is_missing (result : UInt32) : Bool := result = ERROR_FILE_NOT_FOUND || result = ERROR_NOT_FOUND

def win32_error (operation : String) (result : UInt32) : IoError :=
  let kind := if result = ERROR_ACCESS_DENIED then .PermissionDenied
    else if is_missing result then .NotFound else .Other
  .new kind s!"{operation} failed with Windows error {result}"

def check_win32 {α : Type} (result : Except UInt32 α) (operation : String) : Io α :=
  match result with
  | .ok a => .ok a
  | .error code => .error (win32_error operation code)

end Trackpad.RoutePolicy
