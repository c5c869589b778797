import Trackpad.RoutePolicy.Policy
/-!
# What Windows answers

A machine with its adapters, interface rows, routes, registry and processes. Everything it is asked it answers from
what it has; a route is known by its interface, its destination and its next hop.
-/

namespace Trackpad.RoutePolicy

open Calls

structure Process where
  creation_time : UInt64
  image_name : String
  exit_code : UInt32

/-- A value of the journal, and whether it was flushed since it was written. -/
structure Entry where
  name : String
  value : RegistryValue
  flushed : Bool

structure Windows where
  adapters : List AdapterIdentity
  interfaces : List MIB_IPINTERFACE_ROW
  table : List MIB_IPFORWARD_ROW2
  /-- The values under an adapter's TCP/IP parameters, if there are any. -/
  parameters : String → Option (String → Option RegistryValue)
  journal : Option (List Entry)
  /-- The process the policy runs in. -/
  owner : ProcessOwner
  processes : UInt32 → Option Process

namespace Windows

def is_default_route (interface_index : UInt32) (route : MIB_IPFORWARD_ROW2) : Bool :=
  route.InterfaceIndex = interface_index && route.PrefixLength = 0

/-- The gateways of an interface are the next hops of its default routes. -/
def routed (w : Windows) (interface_index : UInt32) : List IpAddr :=
  (w.table.filter (is_default_route interface_index)).filterMap fun route => (sockaddr_inet_ip route.NextHop).map (·.1)

def routes (w : Windows) (interface_index : UInt32) (family : ADDRESS_FAMILY) : List MIB_IPFORWARD_ROW2 :=
  (w.table.filter fun route => route.Prefix.si_family = family).filter (is_default_route interface_index)

def same_interface (interface_index : UInt32) (family : ADDRESS_FAMILY) (row : MIB_IPINTERFACE_ROW) : Bool :=
  row.InterfaceIndex = interface_index && row.Family = family

def interface (w : Windows) (interface_index : UInt32) (family : ADDRESS_FAMILY) : Option MIB_IPINTERFACE_ROW :=
  w.interfaces.find? (same_interface interface_index family)

def entries (w : Windows) : List Entry := w.journal.getD []

def entry (w : Windows) (name : String) : Option Entry := w.entries.find? fun entry => entry.name = name

def process (w : Windows) : HANDLE → Option Process
  | .current => some ⟨w.owner.creation_time, w.owner.image_name, STILL_ACTIVE⟩
  | .opened pid =>
    if pid = w.owner.pid then some ⟨w.owner.creation_time, w.owner.image_name, STILL_ACTIVE⟩ else w.processes pid

def found {α : Type} (code : UInt32) : Option α → Except UInt32 α
  | some a => .ok a
  | none => .error code

def answer (w : Windows) : (op : Op) → Except UInt32 (Ret op) × Windows
  | .GetAdaptersAddresses => (.ok (w.adapters.map fun adapter => (adapter, w.routed adapter.interface_index)), w)
  | .GetIpInterfaceEntry interface_index family => (found ERROR_NOT_FOUND (w.interface interface_index family), w)
  | .SetIpInterfaceEntry row =>
    let same := same_interface row.InterfaceIndex row.Family
    if w.interfaces.any same then
      (.ok (), { w with interfaces := w.interfaces.map fun old => if same old then row else old })
    else (.error ERROR_NOT_FOUND, w)
  | .GetIpForwardTable2 family => (.ok (w.table.filter fun route => route.Prefix.si_family = family), w)
  | .DeleteIpForwardEntry2 row =>
    if w.table.any fun route => route_key route = route_key row then
      (.ok (), { w with table := w.table.filter fun route => route_key route ≠ route_key row })
    else (.error ERROR_NOT_FOUND, w)
  | .CreateIpForwardEntry2 row =>
    if w.table.any fun route => route_key route = route_key row then (.error ERROR_OBJECT_ALREADY_EXISTS, w)
    else (.ok (), { w with table := w.table ++ [row] })
  | .RegOpenKeyExW .policy => (found ERROR_FILE_NOT_FOUND (w.journal.map fun _ => ()), w)
  | .RegOpenKeyExW (.interface adapter_name) =>
    (found ERROR_FILE_NOT_FOUND ((w.parameters adapter_name).map fun _ => ()), w)
  | .RegCreateKeyExW => (.ok (), { w with journal := some w.entries })
  | .RegQueryInfoKeyW => (.ok w.entries.length, w)
  | .RegEnumValueW index => (found ERROR_NO_MORE_ITEMS (w.entries[index]?.map fun entry => (entry.name, entry.value)), w)
  | .RegQueryValueExW .policy name => (found ERROR_FILE_NOT_FOUND ((w.entry name).map (·.value)), w)
  | .RegQueryValueExW (.interface adapter_name) name =>
    (found ERROR_FILE_NOT_FOUND ((w.parameters adapter_name).bind (· name)), w)
  | .RegSetValueExW name value =>
    (.ok (), { w with
      journal := some ((w.entries.filter fun entry => entry.name ≠ name) ++ [⟨name, .binary (.ok value), false⟩]) })
  | .RegFlushKey => (.ok (), { w with journal := w.journal.map fun entries => entries.map ({ · with flushed := true }) })
  | .RegDeleteValueW name =>
    if (w.entry name).isSome then
      (.ok (), { w with journal := w.journal.map fun entries => entries.filter fun entry => entry.name ≠ name })
    else (.error ERROR_FILE_NOT_FOUND, w)
  | .current_exe => (.ok w.owner.image_name, w)
  | .OpenProcess pid => (found ERROR_INVALID_PARAMETER ((w.process (.opened pid)).map fun _ => ()), w)
  | .GetProcessTimes process => (found ERROR_INVALID_PARAMETER ((w.process process).map (·.creation_time)), w)
  | .GetExitCodeProcess process => (found ERROR_INVALID_PARAMETER ((w.process process).map (·.exit_code)), w)
  | .QueryFullProcessImageNameW process => (found ERROR_INVALID_PARAMETER ((w.process process).map (·.image_name)), w)

end Windows

end Trackpad.RoutePolicy
