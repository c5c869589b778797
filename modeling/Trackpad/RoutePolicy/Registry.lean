import Trackpad.RoutePolicy.Windows
/-!
# The journal across calls

The values of the journal, in which the calls read and write, the process that makes them, and the names it has
written. Of these Windows tells the truth. What it tells of adapters, interfaces, routes and gateways may be anything: others change them at
any time. Any call may fail.
-/

namespace Trackpad.RoutePolicy

open Calls

/-- The calls a method of the policy has made, last one first. -/
abbrev History := List (Event Op Ret UInt32)

/-- The codes by which a call says that there is no such key, value or process. -/
def denies : Op → UInt32 → Bool
  | .RegOpenKeyExW .policy, code => is_missing code
  | .RegQueryValueExW .policy _, code => is_missing code
  | .RegDeleteValueW _, code => is_missing code
  | .RegEnumValueW _, code => code = ERROR_NO_MORE_ITEMS
  | .OpenProcess _, code => code = ERROR_INVALID_PARAMETER || code = ERROR_NOT_FOUND
  | _, _ => false

/-- The journal, in which no two values have one name, the process the policy runs in, and the names under which that
process has written. -/
structure Registry where
  entries : List Entry
  names : (entries.map (·.name)).Nodup
  owner : ProcessOwner
  written : List String

namespace Registry

def put (s : Registry) (name : String) (policy : PersistedPolicy) : Registry where
  entries := (s.entries.filter fun entry => entry.name ≠ name) ++ [⟨name, .binary (.ok policy), false⟩]
  names := by
    have hkept : ((s.entries.filter fun entry => entry.name ≠ name).map (·.name)).Nodup :=
      s.names.sublist (List.filter_sublist.map _)
    rw [List.map_append, List.map_singleton]
    refine List.nodup_append.2 ⟨hkept, by simp, fun a ha b hb => ?_⟩
    obtain ⟨entry, hentry, rfl⟩ := List.mem_map.1 ha
    rw [List.mem_singleton.1 hb]
    simpa using (List.mem_filter.1 hentry).2
  owner := s.owner
  written := name :: s.written

def flush (s : Registry) : Registry where
  entries := s.entries.map ({ · with flushed := true })
  names := by
    rw [List.map_map]
    exact s.names
  owner := s.owner
  written := s.written

def delete (s : Registry) (name : String) : Registry where
  entries := s.entries.filter fun entry => entry.name ≠ name
  names := s.names.sublist (List.filter_sublist.map _)
  owner := s.owner
  written := s.written

/-- What a call leaves when it succeeds. One that fails changes nothing. -/
def after (s : Registry) : Op → Registry
  | .RegSetValueExW name policy => s.put name policy
  | .RegFlushKey => s.flush
  | .RegDeleteValueW name => s.delete name
  | _ => s

def runs (s : Registry) : HANDLE → Prop
  | .current => True
  | .opened pid => pid = s.owner.pid

/-- What a call can answer. A row is the one asked for, and the rows of a table differ in their keys. -/
def tells (s : Registry) : (op : Op) → Ret op → Prop
  | .GetIpInterfaceEntry interface_index family, row => row.InterfaceIndex = interface_index ∧ row.Family = family
  | .GetIpForwardTable2 family, table =>
    (∀ route ∈ table, route.Prefix.si_family = family) ∧ (table.map route_key).Nodup
  | .RegQueryInfoKeyW, count => count = s.entries.length
  | .RegEnumValueW index, x => (s.entries[index]?).map (fun entry => (entry.name, entry.value)) = some x
  | .RegQueryValueExW .policy name, value => ∃ entry ∈ s.entries, entry.name = name ∧ entry.value = value
  | .RegDeleteValueW name, _ => ∃ entry ∈ s.entries, entry.name = name
  | .current_exe, image => image = s.owner.image_name
  | .GetProcessTimes process, creation_time => s.runs process → creation_time = s.owner.creation_time
  | .GetExitCodeProcess process, exit_code => s.runs process → exit_code = STILL_ACTIVE
  | .QueryFullProcessImageNameW process, image => s.runs process → image = s.owner.image_name
  | _, _ => True

def absent (s : Registry) : Op → Prop
  | .RegOpenKeyExW .policy => s.entries = []
  | .RegQueryValueExW .policy name => ∀ entry ∈ s.entries, entry.name ≠ name
  | .RegDeleteValueW name => ∀ entry ∈ s.entries, entry.name ≠ name
  | .RegEnumValueW index => s.entries.length ≤ index
  | .OpenProcess pid => pid ≠ s.owner.pid
  | _ => True

def answers (s : Registry) (op : Op) (r : Except UInt32 (Ret op)) (s' : Registry) : Prop :=
  match r with
  | .ok a => s.tells op a ∧ s' = s.after op
  | .error code => (denies op code = true → s.absent op) ∧ s' = s

/-- The owner is the running process, as far as its image is known. -/
def Own (s : Registry) (owner : ProcessOwner) : Prop :=
  owner.pid = s.owner.pid ∧ owner.creation_time = s.owner.creation_time ∧
    (owner.image_name = "" ∨ owner.image_name = s.owner.image_name)

/-- The policy is in the journal. -/
def Entered (s : Registry) (name : String) (policy : PersistedPolicy) : Prop :=
  ∃ flushed, ⟨name, .binary (.ok policy), flushed⟩ ∈ s.entries

/-- It was flushed, too. -/
def Durable (s : Registry) (name : String) (policy : PersistedPolicy) : Prop :=
  ⟨name, .binary (.ok policy), true⟩ ∈ s.entries

/-- And it was the running process that wrote it. -/
def Secured (s : Registry) (name : String) (policy : PersistedPolicy) : Prop :=
  s.Durable name policy ∧ name ∈ s.written

end Registry

/-! ## What a call must be covered by -/

/-- Whether the call takes a default route away. -/
def mutates : Op → Bool
  | .SetIpInterfaceEntry row => row.DisableDefaultRoutes
  | .DeleteIpForwardEntry2 _ => true
  | _ => false

/-- The calls since the last one that took a default route away. -/
def recent (h : History) : History := h.takeWhile fun event => !mutates event.1

def last_row (interface_index : UInt32) (family : ADDRESS_FAMILY) : History → Option (Except UInt32 MIB_IPINTERFACE_ROW)
  | [] => none
  | ⟨.GetIpInterfaceEntry index family', r⟩ :: h =>
    if index = interface_index ∧ family' = family then some r else last_row interface_index family h
  | _ :: h => last_row interface_index family h

def last_table (family : ADDRESS_FAMILY) : History → Option (Except UInt32 (List MIB_IPFORWARD_ROW2))
  | [] => none
  | ⟨.GetIpForwardTable2 family', r⟩ :: h => if family' = family then some r else last_table family h
  | _ :: h => last_table family h

/-- The default routes of an interface in a table. -/
def defaults (interface_index : UInt32) : Except UInt32 (List MIB_IPFORWARD_ROW2) → List MIB_IPFORWARD_ROW2
  | .ok table => table.filter (Windows.is_default_route interface_index)
  | .error _ => []

/-- A key of a route the policy lists, as it is restored to the adapter. -/
def Listed (policy : PersistedPolicy) (adapter : AdapterIdentity) (key : RouteKey) : Prop :=
  ∃ route ∈ policy.routes, ∃ row, restore_route_row route adapter policy.family = .ok row ∧ route_key row = key

def told_gateways : Except UInt32 RegistryValue → List (Option IpAddr)
  | .ok (.strings texts) => texts
  | _ => []

/-- The gateways configured for the adapter were read to be these. -/
def Configured (h : History) (adapter : AdapterIdentity) (configured : List IpAddr) : Prop :=
  ∃ dhcp static,
    ⟨.RegQueryValueExW (.interface adapter.adapter_name) "DhcpDefaultGateway", dhcp⟩ ∈ recent h ∧
    ⟨.RegQueryValueExW (.interface adapter.adapter_name) "DefaultGateway", static⟩ ∈ recent h ∧
    configured = add_gateways (add_gateways [] (told_gateways dhcp)) (told_gateways static)

/-- Why a captured route is not restored any more: it is back, its gateway was replaced, or there is a foreign one. -/
inductive Accounted (h : History) (policy : PersistedPolicy) (adapter : AdapterIdentity) (route : PersistedRoute) : Prop
  | present (table : List MIB_IPFORWARD_ROW2) (found row : MIB_IPFORWARD_ROW2)
    (hread : ⟨.GetIpForwardTable2 policy.family, .ok table⟩ ∈ recent h)
    (hfound : found ∈ defaults adapter.interface_index (.ok table))
    (hrow : restore_route_row route adapter policy.family = .ok row) (hkey : route_key found = route_key row)
  | stale (details : List (AdapterIdentity × List IpAddr)) (gateways configured : List IpAddr)
    (hread : ⟨.GetAdaptersAddresses, .ok details⟩ ∈ recent h) (hmem : (adapter, gateways) ∈ details)
    (hconfigured : Configured h adapter configured)
    (hstale : classify_captured_gateway route.next_hop gateways configured = .Stale)
  | left_out (table : List MIB_IPFORWARD_ROW2) (found : MIB_IPFORWARD_ROW2)
    (hread : ⟨.GetIpForwardTable2 policy.family, .ok table⟩ ∈ recent h)
    (hfound : found ∈ defaults adapter.interface_index (.ok table))
    (hforeign : ¬ Listed policy adapter (route_key found))

/-- What the policy did was undone on the adapter. -/
structure Undone (h : History) (policy : PersistedPolicy) (adapter : AdapterIdentity) : Prop where
  same : same_recovery_adapter policy.adapter adapter = true
  flag : policy.original_disable_default_routes = true ∨
    ∃ row, ⟨.GetIpInterfaceEntry adapter.interface_index policy.family, .ok row⟩ ∈ recent h ∧
      row.InterfaceLuid = adapter.luid ∧ row.DisableDefaultRoutes = false
  routes : ∀ route ∈ policy.routes, Accounted h policy adapter route

/-- The policy is one of this interface. -/
structure PersistedPolicy.Of (policy : PersistedPolicy) (interface_index : UInt32) (luid : UInt64)
    (family : ADDRESS_FAMILY) : Prop where
  index : policy.adapter.interface_index = interface_index
  luid : policy.adapter.luid = luid
  family : policy.family = family

/-- The policy holds what was read last of its interface. -/
structure AsRead (h : History) (policy : PersistedPolicy) : Prop where
  flag : ∃ row, last_row policy.adapter.interface_index policy.family h = some (.ok row) ∧
    row.DisableDefaultRoutes = policy.original_disable_default_routes
  routes : ∃ r, last_table policy.family h = some r ∧
    persisted_routes (defaults policy.adapter.interface_index r) = .ok policy.routes

/-- What must be so when a call is made. -/
def Covered (s : Registry) (h : History) : Op → Prop
  | .SetIpInterfaceEntry row => row.DisableDefaultRoutes = true →
    ∃ name policy, s.Secured name policy ∧ policy.Of row.InterfaceIndex row.InterfaceLuid row.Family
  | .DeleteIpForwardEntry2 row =>
    ∃ name policy, s.Secured name policy ∧ policy.Of row.InterfaceIndex row.InterfaceLuid row.Prefix.si_family ∧
      row.PrefixLength = 0 ∧ ∃ route ∈ policy.routes, persist_route row = some route
  | .CreateIpForwardEntry2 row =>
    ∃ name policy adapter, s.Entered name policy ∧ same_recovery_adapter policy.adapter adapter = true ∧
      (∃ route ∈ policy.routes, restore_route_row route adapter policy.family = .ok row) ∧
      ∃ r, last_table policy.family h = some r ∧
        ∀ found ∈ defaults adapter.interface_index r, Listed policy adapter (route_key found)
  | .RegSetValueExW name policy => (∀ entry ∈ s.entries, entry.name ≠ name) ∧ AsRead h policy
  | .RegDeleteValueW name => ∀ entry ∈ s.entries, entry.name = name →
    ∃ policy adapter, entry.value = .binary (.ok policy) ∧ Undone h policy adapter
  | _ => True

/-- From the journal `s`, every call of the program is covered and every result meets `Q`. -/
abbrev Keeps {α : Type} (Q : Registry → History → Except IoError α → Prop) (s : Registry) (h : History) (p : Io α) : Prop :=
  Holds Registry.answers Covered Q s h p

/-! ## Reading -/

/-- Calls that leave the journal, and the routes and flags, as they are. -/
def reads : Op → Bool
  | .SetIpInterfaceEntry _ | .DeleteIpForwardEntry2 _ | .CreateIpForwardEntry2 _ => false
  | .RegSetValueExW _ _ | .RegFlushKey | .RegDeleteValueW _ => false
  | _ => true

/-- Calls that say nothing of routes and flags and leave them. -/
def aside : Op → Bool
  | .SetIpInterfaceEntry _ | .DeleteIpForwardEntry2 _ | .GetIpInterfaceEntry _ _ | .GetIpForwardTable2 _ => false
  | _ => true

/-- Only calls aside were made in between. -/
def Aside (h h' : History) : Prop := ∃ new, h' = new ++ h ∧ ∀ event ∈ new, aside event.1 = true

section
variable {h h' : History} {event : Event Op Ret UInt32} {op : Op}

theorem recent_cons (hop : mutates event.1 = false) : recent (event :: h) = event :: recent h := by
  simp [recent, hop]

theorem recent_subset_cons (hop : mutates event.1 = false) : recent h ⊆ recent (event :: h) := by
  rw [recent_cons hop]
  exact List.subset_cons_self _ _

theorem mem_recent_cons (hop : mutates event.1 = false) : event ∈ recent (event :: h) := by
  rw [recent_cons hop]
  exact List.mem_cons_self

theorem aside_mutates (hop : aside op = true) : mutates op = false := by
  cases op <;> first | rfl | cases hop

theorem after_reads (s : Registry) (hop : reads op = true) : s.after op = s := by
  cases op <;> first | rfl | cases hop

theorem covered_reads (s : Registry) (h : History) (hop : reads op = true) : Covered s h op := by
  cases op <;> trivial

theorem Aside.refl (h : History) : Aside h h := ⟨[], rfl, fun _ hmem => by cases hmem⟩

theorem Aside.cons (ha : Aside h h') (hop : aside event.1 = true) : Aside h (event :: h') := by
  obtain ⟨new, rfl, hnew⟩ := ha
  refine ⟨event :: new, rfl, fun e he => ?_⟩
  rcases List.mem_cons.1 he with rfl | he
  · exact hop
  · exact hnew e he

theorem Aside.trans {h'' : History} (ha : Aside h h') (hb : Aside h' h'') : Aside h h'' := by
  obtain ⟨new, rfl, hnew⟩ := ha
  obtain ⟨newer, rfl, hnewer⟩ := hb
  refine ⟨newer ++ new, (List.append_assoc ..).symm, fun e he => ?_⟩
  exact (List.mem_append.1 he).elim (hnewer e) (hnew e)

theorem Aside.induction {P : History → Prop} (ha : Aside h h') (hh : P h)
    (hstep : ∀ event h, aside event.1 = true → P h → P (event :: h)) : P h' := by
  obtain ⟨new, rfl, hnew⟩ := ha
  induction new with
  | nil => exact hh
  | cons event new ih =>
    exact hstep event _ (hnew event List.mem_cons_self) (ih fun e he => hnew e (List.mem_cons_of_mem _ he))

theorem Aside.recent (ha : Aside h h') : recent h ⊆ recent h' :=
  ha.induction (P := fun h' => RoutePolicy.recent h ⊆ RoutePolicy.recent h') (List.Subset.refl _)
    fun _ _ hop hsub => List.Subset.trans hsub (recent_subset_cons (aside_mutates hop))

theorem Aside.last_table (ha : Aside h h') (family : ADDRESS_FAMILY) :
    RoutePolicy.last_table family h' = RoutePolicy.last_table family h :=
  ha.induction (P := fun h' => RoutePolicy.last_table family h' = RoutePolicy.last_table family h) rfl
    fun event h' hop heq => by
      obtain ⟨op, r⟩ := event
      cases op <;> first | exact heq | cases hop

theorem Aside.last_row (ha : Aside h h') (interface_index : UInt32) (family : ADDRESS_FAMILY) :
    RoutePolicy.last_row interface_index family h' = RoutePolicy.last_row interface_index family h :=
  ha.induction
    (P := fun h' => RoutePolicy.last_row interface_index family h' = RoutePolicy.last_row interface_index family h) rfl
    fun event h' hop heq => by
      obtain ⟨op, r⟩ := event
      cases op <;> first | exact heq | cases hop

end

/-! ## Single calls -/

section
variable {α β : Type} {Q : Registry → History → Except IoError α → Prop} {s : Registry} {h : History}
  {adapter : AdapterIdentity} {family : ADDRESS_FAMILY}

theorem keeps_read {op : Op} (hop : reads op = true) {f : Except UInt32 (Ret op) → Io α}
    (hok : ∀ a, s.tells op a → Keeps Q s (⟨op, .ok a⟩ :: h) (f (.ok a)))
    (herror : ∀ code, (denies op code = true → s.absent op) → Keeps Q s (⟨op, .error code⟩ :: h) (f (.error code))) :
    Keeps Q s h (.attempted op >>= f) := by
  refine ⟨covered_reads s h hop, fun r s' ha => ?_⟩
  cases r with
  | ok a =>
    obtain ⟨htells, rfl⟩ := ha
    rw [after_reads s hop]
    exact hok a htells
  | error code =>
    obtain ⟨habsent, rfl⟩ := ha
    exact herror code habsent

/-- A call that leaves the journal. -/
theorem keeps_call {op : Op} (hcovered : Covered s h op) (hafter : s.after op = s) {f : Except UInt32 (Ret op) → Io α}
    (hf : ∀ r, (∀ a, r = .ok a → s.tells op a) → Keeps Q s (⟨op, r⟩ :: h) (f r)) : Keeps Q s h (.attempted op >>= f) := by
  refine ⟨hcovered, fun r s' ha => ?_⟩
  cases r with
  | ok a =>
    obtain ⟨htells, rfl⟩ := ha
    rw [hafter]
    exact hf (.ok a) fun _ heq => Except.ok.inj heq ▸ htells
  | error code =>
    obtain ⟨-, rfl⟩ := ha
    exact hf (.error code) fun _ heq => by cases heq

theorem keeps_any {op : Op} (hop : reads op = true) {f : Except UInt32 (Ret op) → Io α}
    (hf : ∀ r, (∀ a, r = .ok a → s.tells op a) → Keeps Q s (⟨op, r⟩ :: h) (f r)) : Keeps Q s h (.attempted op >>= f) :=
  keeps_call (covered_reads s h hop) (after_reads s hop) hf

theorem keeps_ofExcept {x : Except IoError β} {f : β → Io α} (hok : ∀ b, x = .ok b → Keeps Q s h (f b))
    (herror : ∀ e, Q s h (.error e)) : Keeps Q s h (.ofExcept x >>= f) := by
  cases x with
  | ok b => exact hok b rfl
  | error e => exact herror e

theorem keeps_check {r : Except UInt32 β} {operation : String} {f : β → Io α} (hok : ∀ b, r = .ok b → Keeps Q s h (f b))
    (herror : ∀ e, Q s h (.error e)) : Keeps Q s h (check_win32 r operation >>= f) := by
  cases r with
  | ok b => exact hok b rfl
  | error code => exact herror _

end

/-! ## Adapters, rows and tables -/

section
variable {s : Registry} {h : History} {adapter : AdapterIdentity} {family : ADDRESS_FAMILY}

theorem keeps_details {Q : Registry → History → Except IoError (List (AdapterIdentity × List IpAddr)) → Prop}
    (hok : ∀ r found, (∀ x ∈ found, ∃ details, r = .ok details ∧ x ∈ details) →
      Q s (⟨.GetAdaptersAddresses, r⟩ :: h) (.ok found))
    (herror : ∀ r e, Q s (⟨.GetAdaptersAddresses, r⟩ :: h) (.error e)) : Keeps Q s h all_adapter_details := by
  refine keeps_read rfl (fun details _ => ?_) fun code _ => ?_
  · exact hok _ _ fun x hx => ⟨details, rfl, (List.mem_filter.1 hx).1⟩
  · dsimp only
    split
    · exact hok _ [] fun x hx => by cases hx
    · exact herror _ _

theorem keeps_identity {Q : Registry → History → Except IoError (Option AdapterIdentity) → Prop} {interface_index : UInt32}
    (hok : ∀ r found, (∀ current, found = some current → current.interface_index = interface_index) →
      Q s (⟨.GetAdaptersAddresses, r⟩ :: h) (.ok found))
    (herror : ∀ r e, Q s (⟨.GetAdaptersAddresses, r⟩ :: h) (.error e)) :
    Keeps Q s h (adapter_identity interface_index) := by
  refine holds_bind (holds_bind (keeps_details (fun r found _ => ?_) herror))
  refine hok r _ fun current hcurrent => ?_
  obtain ⟨x, hx, rfl⟩ := Option.map_eq_some_iff.1 hcurrent
  simpa using List.find?_some hx

theorem keeps_same_adapter {Q : Registry → History → Except IoError AdapterIdentity → Prop} {snapshot : InterfaceSnapshot}
    (hok : ∀ r adapter, adapter.interface_index = snapshot.interface_index →
      same_adapter_instance snapshot.adapter adapter = true → Q s (⟨.GetAdaptersAddresses, r⟩ :: h) (.ok adapter))
    (herror : ∀ r e, Q s (⟨.GetAdaptersAddresses, r⟩ :: h) (.error e)) : Keeps Q s h (require_same_adapter snapshot) := by
  refine holds_bind (keeps_identity (fun r found hfound => ?_) herror)
  cases found with
  | none => exact herror r _
  | some current =>
    dsimp only
    split
    · next hsame => exact hok r current (hfound current rfl) hsame
    · exact herror r _

theorem keeps_binding_adapter {Q : Registry → History → Except IoError AdapterIdentity → Prop} {binding : TetherBinding}
    (hok : ∀ r adapter, adapter.interface_index = binding.interface_index →
      Q s (⟨.GetAdaptersAddresses, r⟩ :: h) (.ok adapter))
    (herror : ∀ r e, Q s (⟨.GetAdaptersAddresses, r⟩ :: h) (.error e)) :
    Keeps Q s h (require_binding_adapter binding) := by
  refine holds_bind (keeps_identity (fun r found hfound => ?_) herror)
  cases found with
  | none => exact herror r _
  | some current =>
    dsimp only
    split
    · exact hok r current (hfound current rfl)
    · exact herror r _

theorem keeps_recovery_adapter {Q : Registry → History → Except IoError (Option (AdapterIdentity × List IpAddr)) → Prop}
    {expected : AdapterIdentity} (hnone : ∀ r, Q s (⟨.GetAdaptersAddresses, r⟩ :: h) (.ok none))
    (hok : ∀ details adapter gateways, same_recovery_adapter expected adapter = true → (adapter, gateways) ∈ details →
      Q s (⟨.GetAdaptersAddresses, .ok details⟩ :: h) (.ok (some (adapter, gateways))))
    (herror : ∀ r e, Q s (⟨.GetAdaptersAddresses, r⟩ :: h) (.error e)) :
    Keeps Q s h (adapter_details_for_identity expected) := by
  refine holds_bind (keeps_details (fun r found hfound => ?_) herror)
  dsimp only
  split
  · exact hnone r
  · next x hmatched =>
    have hmem := List.mem_singleton_self x
    rw [← hmatched] at hmem
    obtain ⟨hx, hsame⟩ := List.mem_filter.1 hmem
    obtain ⟨details, rfl, hdetails⟩ := hfound x hx
    exact hok details x.1 x.2 hsame hdetails
  · exact herror r _

theorem keeps_row {Q : Registry → History → Except IoError (Option MIB_IPINTERFACE_ROW) → Prop}
    (hnone : ∀ r, Q s (⟨.GetIpInterfaceEntry adapter.interface_index family, r⟩ :: h) (.ok none))
    (hok : ∀ row : MIB_IPINTERFACE_ROW, row.InterfaceIndex = adapter.interface_index → row.Family = family →
      row.InterfaceLuid = adapter.luid →
      Q s (⟨.GetIpInterfaceEntry adapter.interface_index family, .ok row⟩ :: h) (.ok (some row)))
    (herror : ∀ r e, Q s (⟨.GetIpInterfaceEntry adapter.interface_index family, r⟩ :: h) (.error e)) :
    Keeps Q s h (interface_row_for_adapter adapter family) := by
  refine holds_bind (keeps_read rfl (fun row htells => ?_) fun code _ => ?_)
  · show Keeps _ _ _ (ite _ _ _)
    split
    · next hmatches =>
      rw [interface_identity_matches, Bool.and_eq_true, decide_eq_true_eq, decide_eq_true_eq] at hmatches
      exact hok row htells.1 htells.2 hmatches.2
    · exact herror _ _
  · dsimp only
    split
    · exact hnone _
    · exact herror _ _

theorem keeps_table {Q : Registry → History → Except IoError (List MIB_IPFORWARD_ROW2) → Prop}
    (hok : ∀ r, (∀ table, r = .ok table → s.tells (.GetIpForwardTable2 family) table) →
      (∀ route ∈ defaults adapter.interface_index r, route.InterfaceLuid = adapter.luid) →
      Q s (⟨.GetIpForwardTable2 family, r⟩ :: h) (.ok (defaults adapter.interface_index r)))
    (herror : ∀ r e, Q s (⟨.GetIpForwardTable2 family, r⟩ :: h) (.error e)) :
    Keeps Q s h (default_routes_for_adapter adapter family) := by
  refine holds_bind (keeps_read rfl (fun table htells => ?_) fun code _ => ?_)
  · show Keeps _ _ _ (ite _ _ _)
    split
    · next hall =>
      refine hok (.ok table) (fun _ heq => ?_) fun route hroute => ?_
      · cases heq
        exact htells
      · have hmatches := List.all_eq_true.1 hall route hroute
        rw [interface_identity_matches, Bool.and_eq_true, decide_eq_true_eq, decide_eq_true_eq] at hmatches
        exact hmatches.2
    · exact herror _ _
  · dsimp only
    split
    · exact hok (.error code) (fun _ heq => by cases heq) fun route hroute => by cases hroute
    · exact herror _ _

end

/-! ## Gateways and owners -/

section
variable {s : Registry} {h : History} {adapter : AdapterIdentity} {family : ADDRESS_FAMILY}

theorem keeps_strings {Q : Registry → History → Except IoError (List (Option IpAddr)) → Prop} {adapter_name name : String}
    (hok : ∀ h' r, Aside h h' → ⟨.RegQueryValueExW (.interface adapter_name) name, r⟩ ∈ recent h' →
      Q s h' (.ok (told_gateways r)))
    (herror : ∀ h' e, Aside h h' → Q s h' (.error e)) : Keeps Q s h (read_registry_strings adapter_name name) := by
  have hone : ∀ r, Aside h (⟨.RegQueryValueExW (.interface adapter_name) name, r⟩ :: h) :=
    fun r => (Aside.refl h).cons rfl
  refine keeps_read rfl (fun value _ => ?_) fun code _ => ?_
  · cases value with
    | strings first =>
      refine keeps_read rfl (fun value _ => ?_) fun code _ => ?_
      · cases value with
        | strings found => exact hok _ (.ok (.strings found)) ((hone _).cons rfl) (mem_recent_cons rfl)
        | binary decoded => exact hok _ (.ok (.binary decoded)) ((hone _).cons rfl) (mem_recent_cons rfl)
        | other => exact hok _ (.ok .other) ((hone _).cons rfl) (mem_recent_cons rfl)
      · dsimp only
        split
        · exact hok _ (.error code) ((hone _).cons rfl) (mem_recent_cons rfl)
        · exact herror _ _ ((hone _).cons rfl)
    | binary decoded => exact hok _ (.ok (.binary decoded)) (hone _) (mem_recent_cons rfl)
    | other => exact hok _ (.ok .other) (hone _) (mem_recent_cons rfl)
  · dsimp only
    split
    · exact hok _ (.error code) (hone _) (mem_recent_cons rfl)
    · exact herror _ _ (hone _)

theorem keeps_gateways {Q : Registry → History → Except IoError (List IpAddr) → Prop}
    (hok : ∀ h' configured, Aside h h' → (configured ≠ [] → Configured h' adapter configured) → Q s h' (.ok configured))
    (herror : ∀ h' e, Aside h h' → Q s h' (.error e)) : Keeps Q s h (configured_gateways adapter family) := by
  rw [configured_gateways]
  split
  · exact hok h [] (Aside.refl h) fun hne => absurd rfl hne
  · refine keeps_read rfl (fun _ _ => ?_) fun code _ => ?_
    · have hopened : Aside h (⟨.RegOpenKeyExW (.interface adapter.adapter_name), .ok ()⟩ :: h) := (Aside.refl h).cons rfl
      refine holds_bind (keeps_strings (fun h₁ dhcp h01 hdhcp => ?_) fun h₁ e h01 => herror h₁ e (hopened.trans h01))
      refine holds_bind (keeps_strings (fun h₂ static h12 hstatic => ?_) fun h₂ e h12 =>
        herror h₂ e ((hopened.trans h01).trans h12))
      exact hok h₂ _ ((hopened.trans h01).trans h12) fun _ => ⟨dhcp, static, h12.recent hdhcp, hstatic, rfl⟩
    · dsimp only
      split
      · exact hok _ [] ((Aside.refl h).cons rfl) fun hne => absurd rfl hne
      · exact herror _ _ ((Aside.refl h).cons rfl)

theorem keeps_creation {Q : Registry → History → Except IoError (Except IoError UInt64) → Prop} {process : HANDLE}
    (hok : ∀ r creation, (∀ time, creation = .ok time → s.runs process → time = s.owner.creation_time) →
      Q s (⟨.GetProcessTimes process, r⟩ :: h) (.ok creation)) : Keeps Q s h (process_creation_time process) := by
  refine keeps_read rfl (fun time htells => ?_) fun code _ => ?_
  · exact hok _ (.ok time) fun _ heq => Except.ok.inj heq ▸ htells
  · exact hok _ (.error (.last_os_error code)) fun _ heq => by cases heq

/-- The running process is found to run. -/
theorem keeps_running {Q : Registry → History → Except IoError Bool → Prop} {owner : ProcessOwner}
    (hok : ∀ h' running, Aside h h' → (s.Own owner → running = true) → Q s h' (.ok running))
    (herror : ∀ h' e, Aside h h' → Q s h' (.error e)) : Keeps Q s h (process_owner_is_running owner) := by
  refine keeps_read rfl (fun _ _ => ?_) fun code habsent => ?_
  · have hopened : Aside h (⟨.OpenProcess owner.pid, .ok ()⟩ :: h) := (Aside.refl h).cons rfl
    refine holds_bind (keeps_creation fun r creation hcreation => ?_)
    refine keeps_any rfl fun image himage => ?_
    refine keeps_read rfl (fun exit_code hexit => ?_) fun code _ => ?_
    · show Keeps _ _ _ (ite _ _ _)
      split
      · next hexited =>
        exact hok _ false (((hopened.cons rfl).cons rfl).cons rfl) fun hown => absurd (hexit hown.1) hexited
      · refine keeps_ofExcept (fun time htime => ?_) fun e => herror _ e (((hopened.cons rfl).cons rfl).cons rfl)
        refine hok _ _ (((hopened.cons rfl).cons rfl).cons rfl) fun hown => ?_
        obtain ⟨hpid, hcreated, hname⟩ := hown
        rw [hcreation time htime hpid, hcreated]
        rcases hname with hname | hname
        · simp [hname]
        · cases image with
          | ok image => simp [eq_ignore_ascii_case, himage image rfl hpid, hname]
          | error _ => simp
    · exact herror _ _ (((hopened.cons rfl).cons rfl).cons rfl)
  · dsimp only
    split
    · next hdenied =>
      refine hok _ false ((Aside.refl h).cons rfl) fun hown => absurd hown.1 (habsent ?_)
      simpa [denies] using hdenied
    · exact herror _ _ ((Aside.refl h).cons rfl)

theorem keeps_current_owner {Q : Registry → History → Except IoError ProcessOwner → Prop} {pid : UInt32}
    (hpid : pid = s.owner.pid) (hok : ∀ h' owner, Aside h h' → s.Own owner → Q s h' (.ok owner))
    (herror : ∀ h' e, Aside h h' → Q s h' (.error e)) : Keeps Q s h (current_process_owner pid) := by
  refine holds_bind (keeps_creation fun r creation hcreation => ?_)
  refine keeps_ofExcept (fun time htime => ?_) fun e => herror _ e ((Aside.refl h).cons rfl)
  refine keeps_any rfl fun image himage => ?_
  refine hok _ _ (((Aside.refl h).cons rfl).cons rfl) ⟨hpid, hcreation time htime trivial, ?_⟩
  cases image with
  | ok image => exact .inr (himage image rfl)
  | error _ => exact .inl rfl

end

/-! ## Reading the journal -/

/-- What `persisted_policies` makes of a value. -/
def listed_policy (entry : Entry) : Option (String × PersistedPolicy) :=
  if !starts_with entry.name POLICY_VALUE_PREFIX || !ends_with entry.name POLICY_VALUE_SUFFIX then none
  else match entry.value with
    | .binary (.ok policy) => some (entry.name, policy)
    | _ => none

section
variable {s : Registry} {h : History}

theorem listed_policy_some {entry : Entry} {name : String} {policy : PersistedPolicy}
    (hl : listed_policy entry = some (name, policy)) : entry.name = name ∧ entry.value = .binary (.ok policy) := by
  rw [listed_policy] at hl
  split at hl
  · cases hl
  · split at hl
    · next hvalue =>
      cases hl
      exact ⟨rfl, hvalue⟩
    · cases hl

theorem keeps_enumerate {Q : Registry → History → Except IoError (List (String × PersistedPolicy)) → Prop}
    {remaining index : Nat} (hcount : index + remaining = s.entries.length)
    (hok : ∀ h', Aside h h' → Q s h' (.ok ((s.entries.drop index).filterMap listed_policy)))
    (herror : ∀ h' e, Aside h h' → Q s h' (.error e)) : Keeps Q s h (enumerate_policies remaining index) := by
  induction remaining generalizing index h Q with
  | zero =>
    have hnone := hok h (Aside.refl h)
    rwa [List.drop_of_length_le (by omega)] at hnone
  | succ remaining ih =>
    refine keeps_read rfl (fun x htells => ?_) fun code habsent => ?_
    · obtain ⟨entry, hentry, rfl⟩ := Option.map_eq_some_iff.1 htells
      have hone : Aside h (⟨.RegEnumValueW index, .ok (entry.name, entry.value)⟩ :: h) := (Aside.refl h).cons rfl
      have hdrop : s.entries.drop index = entry :: s.entries.drop (index + 1) := by
        obtain ⟨hlt, rfl⟩ := List.getElem?_eq_some_iff.1 hentry
        exact List.drop_eq_getElem_cons hlt
      rw [hdrop, List.filterMap_cons] at hok
      show Keeps _ _ _ (ite _ _ _)
      split
      · next hother =>
        rw [listed_policy, if_pos hother] at hok
        exact ih (by omega) (fun h' ha => hok h' (hone.trans ha)) fun h' e ha => herror h' e (hone.trans ha)
      · next hpolicy =>
        rw [listed_policy, if_neg hpolicy] at hok
        cases hvalue : entry.value with
        | binary decoded =>
          rw [hvalue] at hok hone
          refine keeps_ofExcept (fun policy hdecoded => ?_) fun e => herror _ e hone
          rw [hdecoded] at hok hone ⊢
          refine holds_bind (ih (by omega) (fun h' ha => ?_) fun h' e ha => herror h' e (hone.trans ha))
          exact hok h' (hone.trans ha)
        | strings texts => exact herror _ _ (hvalue ▸ hone)
        | other => exact herror _ _ (hvalue ▸ hone)
    · dsimp only
      split
      · next hdenied =>
        have habsent : s.entries.length ≤ index := habsent (by simpa [denies] using hdenied)
        omega
      · exact herror _ _ ((Aside.refl h).cons rfl)

theorem keeps_persisted {Q : Registry → History → Except IoError (List (String × PersistedPolicy)) → Prop}
    (hok : ∀ h', Aside h h' → Q s h' (.ok (s.entries.filterMap listed_policy)))
    (herror : ∀ h' e, Aside h h' → Q s h' (.error e)) : Keeps Q s h persisted_policies := by
  refine holds_bind (keeps_read rfl (fun _ _ => ?_) fun code habsent => ?_)
  · have hopened : Aside h (⟨.RegOpenKeyExW .policy, .ok ()⟩ :: h) := (Aside.refl h).cons rfl
    refine keeps_any rfl fun r hr => ?_
    refine keeps_check (fun count hcount => ?_) fun e => herror _ e (hopened.cons rfl)
    have hlength : count = s.entries.length := hr count hcount
    refine keeps_enumerate ((Nat.zero_add _).trans hlength) (fun h' ha => ?_) fun h' e ha =>
      herror h' e ((hopened.cons rfl).trans ha)
    exact hok h' ((hopened.cons rfl).trans ha)
  · dsimp only
    split
    · next hmissing =>
      have hempty : s.entries = [] := habsent hmissing
      have hnone := hok (⟨.RegOpenKeyExW .policy, .error code⟩ :: h) ((Aside.refl h).cons rfl)
      rwa [hempty] at hnone
    · exact herror _ _ ((Aside.refl h).cons rfl)

theorem keeps_value {Q : Registry → History → Except IoError (Option (Except IoError PersistedPolicy)) → Prop}
    {name : String}
    (hnone : ∀ h', Aside h h' → (∀ entry ∈ s.entries, entry.name ≠ name) → Q s h' (.ok none))
    (hok : ∀ h' decoded entry, Aside h h' → entry ∈ s.entries → entry.name = name → entry.value = .binary decoded →
      Q s h' (.ok (some decoded)))
    (herror : ∀ h' e, Aside h h' → Q s h' (.error e)) : Keeps Q s h (read_policy_value name) := by
  have hone : ∀ r, Aside h (⟨.RegQueryValueExW .policy name, r⟩ :: h) := fun r => (Aside.refl h).cons rfl
  refine keeps_read rfl (fun value _ => ?_) fun code habsent => ?_
  · cases value with
    | binary first =>
      refine keeps_any rfl fun r hr => ?_
      refine keeps_check (fun value hvalue => ?_) fun e => herror _ e ((hone _).cons rfl)
      obtain ⟨entry, hentry, hname, hentered⟩ := hr value hvalue
      cases value with
      | binary decoded => exact hok _ decoded entry ((hone _).cons rfl) hentry hname hentered
      | strings texts => exact herror _ _ ((hone _).cons rfl)
      | other => exact herror _ _ ((hone _).cons rfl)
    | strings texts => exact herror _ _ (hone _)
    | other => exact herror _ _ (hone _)
  · dsimp only
    split
    · next hmissing => exact hnone _ (hone _) (habsent hmissing)
    · exact herror _ _ (hone _)

end

end Trackpad.RoutePolicy
