import Trackpad.RoutePolicy.Runs
/-!
# Captured, applied, restored

On a machine that answers every call and that nobody else changes, the restoration of an applied snapshot, and its
recovery once its owner is gone, bring back what was captured exactly if every captured gateway is unspecified or
configured for the interface.
-/

namespace Trackpad.RoutePolicy

open Calls Windows

variable {w w' w₁ : Windows} {adapter : AdapterIdentity} {family : ADDRESS_FAMILY} {snapshot : InterfaceSnapshot}

/-! ## Capturing and applying -/

/-- The snapshot holds what the interface has, and the journal has it too. -/
structure Captured (w : Windows) (snapshot : InterfaceSnapshot) (policy : PersistedPolicy) : Prop where
  family : snapshot.family = IPV4 ∨ snapshot.family = IPV6
  flag : (w.interface snapshot.interface_index snapshot.family).map (·.DisableDefaultRoutes) =
    some snapshot.disable_default_routes
  routes : snapshot.default_routes.Perm (w.routes snapshot.interface_index snapshot.family)
  entry : (w.entry snapshot.persisted_name).isSome
  adapter : policy.adapter = snapshot.adapter
  policy_family : policy.family = snapshot.family
  policy_flag : policy.original_disable_default_routes = snapshot.disable_default_routes
  policy_routes : persisted_routes snapshot.default_routes = .ok policy.routes

/-- What Windows guarantees of its own data. -/
structure Windows.Sound (w : Windows) : Prop where
  luids : (w.adapters.map (·.luid)).Nodup
  keys : (w.table.map route_key).Nodup
  next_hop : ∀ route ∈ w.table, route.NextHop.si_family = route.Prefix.si_family
  default_prefix : ∀ route ∈ w.table, route.PrefixLength = 0 →
    route.Prefix = set_sockaddr_inet (unspecified_for_family route.Prefix.si_family) 0

/-- What a successful `apply_snapshot` leaves. -/
structure Applied (w : Windows) (snapshot : InterfaceSnapshot) (w₁ : Windows) : Prop where
  frame : w₁ = { w with interfaces := w₁.interfaces, table := w₁.table }
  table : w₁.table ⊆ w.table
  luid : ∀ route ∈ w.routes snapshot.interface_index snapshot.family, route.InterfaceLuid = snapshot.adapter.luid
  enforced : ∃ adapter row, adapter ∈ w₁.adapters ∧ adapter.interface_index = snapshot.interface_index ∧
    adapter.interface_index ≠ 0 ∧ same_adapter_instance snapshot.adapter adapter ∧
    w₁.interface snapshot.interface_index snapshot.family = some row ∧ row.DisableDefaultRoutes = true ∧
    row.InterfaceLuid = adapter.luid ∧ w₁.routes snapshot.interface_index snapshot.family = []

theorem apply_snapshot_ok (h : (apply_snapshot snapshot).run answer w = (.ok (), w₁)) : Applied w snapshot w₁ := by
  rw [apply_snapshot] at h
  obtain ⟨adapter, w₂, hrequire, h1⟩ := Prog.run_bind_ok h
  obtain ⟨rfl, -, hindex, -, hsame⟩ := require_same_adapter_ok hrequire
  obtain ⟨captured, w₃, hcaptured, h2⟩ := Prog.run_bind_ok h1
  obtain ⟨rfl, -⟩ := ofExcept_run hcaptured
  obtain ⟨routes, w₄, hroutes, h3⟩ := Prog.run_bind_ok h2
  obtain ⟨rfl, hcurrent, hluid⟩ := default_routes_for_adapter_ok hroutes
  obtain ⟨current, w₅, hpersisted, h4⟩ := Prog.run_bind_ok h3
  obtain ⟨rfl, -⟩ := ofExcept_run hpersisted
  split at h4
  · cases h4
  · obtain ⟨found, w₆, hrow, h5⟩ := Prog.run_bind_ok h4
    obtain ⟨rfl, -, -⟩ := interface_row_for_adapter_ok hrow
    cases found with
    | none => cases h5
    | some row =>
      obtain ⟨_, w₇, hdisable, h6⟩ := Prog.run_bind_ok h5
      obtain ⟨_, w₈, hdelete, h7⟩ := Prog.run_bind_ok h6
      have hflag := disable_default_routes_ok hdisable
      obtain ⟨hdeleted, hsubset⟩ := delete_captured_ok hdelete
      obtain ⟨hverified, henforced⟩ := verify_enforced_snapshot_ok h7
      have htable : w₁.table = w₈.table := by rw [hverified]
      have hbefore : w₇.table = w₆.table := by rw [hflag]
      refine ⟨?_, fun route hroute => ?_, fun route hroute => ?_, henforced⟩
      · rw [hverified, hdeleted, hflag]
      · rw [htable] at hroute
        exact hbefore ▸ hsubset hroute
      · have hadapter : adapter.luid = snapshot.adapter.luid := by
          rw [same_adapter_instance, same_recovery_adapter] at hsame
          simp only [Bool.and_eq_true, decide_eq_true_eq] at hsame
          exact hsame.1.1.2.symm
        rw [← hadapter]
        exact hluid route (by rw [hcurrent, hindex]; exact hroute)

theorem capture_current_captured {pid : UInt32} {binding : TetherBinding} (hf : family = IPV4 ∨ family = IPV6)
    (hindex : adapter.interface_index = binding.interface_index)
    (h : (capture_current pid binding adapter family).run answer w = (.ok (some snapshot), w')) :
    ∃ policy, Captured w' snapshot policy := by
  rw [capture_current] at h
  obtain ⟨_, w₄, hagain, h4⟩ := Prog.run_bind_ok h
  obtain ⟨rfl, -⟩ := require_binding_adapter_ok hagain
  obtain ⟨found, w₅, hrow, h5⟩ := Prog.run_bind_ok h4
  obtain ⟨rfl, hfound, -⟩ := interface_row_for_adapter_ok hrow
  cases found with
  | none => cases h5
  | some row =>
    obtain ⟨routes, w₆, hroutes, h6⟩ := Prog.run_bind_ok h5
    obtain ⟨rfl, hcurrent, -⟩ := default_routes_for_adapter_ok hroutes
    obtain ⟨_, w₇, hagain', h7⟩ := Prog.run_bind_ok h6
    obtain ⟨rfl, -⟩ := require_binding_adapter_ok hagain'
    obtain ⟨owner, w₈, howner, h8⟩ := Prog.run_bind_ok h7
    obtain rfl : w₈ = w₇ := by cases howner; rfl
    obtain ⟨persisted, w₉, hpersisted, h9⟩ := Prog.run_bind_ok h8
    obtain ⟨rfl, hcopied⟩ := ofExcept_run hpersisted
    obtain ⟨name, w₁₀, hname, h10⟩ := Prog.run_bind_ok h9
    obtain ⟨hframe, hentry⟩ := persist_policy_ok hname
    cases h10
    rw [hindex] at hfound hcurrent
    refine ⟨⟨owner, adapter, family, row.DisableDefaultRoutes, persisted⟩, hf, ?_, ?_, hentry, rfl, rfl, rfl, hcopied⟩
    · rw [hframe]
      exact congrArg (Option.map (·.DisableDefaultRoutes)) hfound
    · rw [hframe, hcurrent]
      exact List.Perm.refl _

/-- What `capture_family` returns is captured. -/
theorem capture_family_captured {pid : UInt32} {binding : TetherBinding} (hf : family = IPV4 ∨ family = IPV6)
    (h : (capture_family pid binding family).run answer w = (.ok (some snapshot), w')) :
    ∃ policy, Captured w' snapshot policy := by
  rw [capture_family] at h
  obtain ⟨adapter, w₁, hrequire, h1⟩ := Prog.run_bind_ok h
  obtain ⟨-, hindex⟩ := require_binding_adapter_ok hrequire
  obtain ⟨policies, w₂, -, h2⟩ := Prog.run_bind_ok h1
  obtain ⟨outcome, w₃, -, h3⟩ := Prog.run_bind_ok h2
  cases outcome with
  | Deferred restored pending => cases h3
  | OwnerStillRunning => cases h3
  | NothingToDo => exact capture_current_captured hf hindex h3
  | Restored snapshots => exact capture_current_captured hf hindex h3

/-! ## Rows and their copies in the journal -/

/-- A default route of the adapter, as Windows has it. -/
structure Canonical (adapter : AdapterIdentity) (family : ADDRESS_FAMILY) (route : MIB_IPFORWARD_ROW2) : Prop where
  index : route.InterfaceIndex = adapter.interface_index
  luid : route.InterfaceLuid = adapter.luid
  length : route.PrefixLength = 0
  destination : route.Prefix = set_sockaddr_inet (unspecified_for_family family) 0
  next_hop : route.NextHop.si_family = family

def next_hop (route : MIB_IPFORWARD_ROW2) : Option IpAddr := (sockaddr_inet_ip route.NextHop).map (·.1)

/-- A route as it is created again: a link-local gateway has the interface for its scope. -/
def rescoped (interface_index : UInt32) (route : MIB_IPFORWARD_ROW2) : MIB_IPFORWARD_ROW2 :=
  { route with NextHop := match route.NextHop with
    | .Ipv6 address scope_id =>
      .Ipv6 address (if (IpAddr.V6 address).is_unicast_link_local then interface_index else scope_id)
    | next_hop => next_hop }

@[simp] theorem next_hop_rescoped (interface_index : UInt32) (route : MIB_IPFORWARD_ROW2) :
    next_hop (rescoped interface_index route) = next_hop route := by
  rcases route with ⟨_, _, _, _, hop | ⟨hop, scope⟩ | _⟩ <;> rfl

@[simp] theorem route_key_rescoped (interface_index : UInt32) (route : MIB_IPFORWARD_ROW2) :
    route_key (rescoped interface_index route) = route_key route := by
  rcases route with ⟨_, _, destination, _, hop | ⟨hop, scope⟩ | _⟩
  · rfl
  · by_cases hfamily : destination.si_family = IPV4 <;> simp [rescoped, route_key, hfamily, ipv4_bytes, ipv6_bytes]
  · rfl

theorem rescoped_eq {interface_index : UInt32} {route : MIB_IPFORWARD_ROW2}
    (h : ∀ address, next_hop route = some address → address.is_unicast_link_local = false) :
    rescoped interface_index route = route := by
  rcases route with ⟨_, _, _, _, hop | ⟨hop, scope⟩ | _⟩
  · rfl
  · simp [rescoped, h (.V6 hop) rfl]
  · rfl

theorem restore_persisted {route : MIB_IPFORWARD_ROW2} (hf : family = IPV4 ∨ family = IPV6)
    (hroute : Canonical adapter family route) :
    ∃ persisted, persist_route route = some persisted ∧ some persisted.next_hop = next_hop route ∧
      restore_route_row persisted adapter family = .ok (rescoped adapter.interface_index route) := by
  obtain ⟨hindex, hluid, hlength, hdestination, hhop⟩ := hroute
  rcases route with ⟨index, luid, destination, length, hop | ⟨hop, scope⟩ | _, site, valid, preferred, metric, protocol,
    loopback, autoconfigure, publish, immortal, origin⟩
  · obtain rfl : IPV4 = family := hhop
    refine ⟨_, rfl, rfl, ?_⟩
    cases hindex; cases hluid; cases hlength; cases hdestination
    rfl
  · obtain rfl : IPV6 = family := hhop
    refine ⟨_, rfl, rfl, ?_⟩
    cases hindex; cases hluid; cases hlength; cases hdestination
    rfl
  · obtain rfl : 0 = family := hhop
    rcases hf with hf | hf <;> cases hf

/-- Both paths restore the same rows, with the same next hops. -/
theorem restore_all {captured : List MIB_IPFORWARD_ROW2} (hf : family = IPV4 ∨ family = IPV6)
    (h : ∀ route ∈ captured, Canonical adapter family route) :
    ∃ persisted, persisted_routes captured = .ok persisted ∧
      (persisted.map fun route => some route.next_hop) = captured.map next_hop ∧
      persisted.mapM (fun route => restore_route_row route adapter family) =
        .ok (captured.map (rescoped adapter.interface_index)) := by
  have hall : ∃ persisted, captured.mapM persist_route = some persisted ∧
      (persisted.map fun route => some route.next_hop) = captured.map next_hop ∧
      persisted.mapM (fun route => restore_route_row route adapter family) =
        .ok (captured.map (rescoped adapter.interface_index)) := by
    induction captured with
    | nil => exact ⟨[], rfl, rfl, rfl⟩
    | cons route captured ih =>
      obtain ⟨persisted, hpersist, hhop, hrestore⟩ := restore_persisted hf (h route List.mem_cons_self)
      obtain ⟨rest, hrest, hhops, hrows⟩ := ih fun route hroute => h route (List.mem_cons_of_mem _ hroute)
      refine ⟨persisted :: rest, ?_, by simp [hhop, hhops], ?_⟩
      · simp [List.mapM_cons, hpersist, hrest]
      · rw [List.mapM_cons, hrestore, hrows]
        rfl
  obtain ⟨persisted, hpersist, hhops, hrows⟩ := hall
  exact ⟨persisted, by rw [persisted_routes, hpersist], hhops, hrows⟩

/-! ## Restoring -/

variable {operation absent : String}

/-- The state a restoration of the snapshot starts in: the adapter is there, without default routes. -/
structure Undoable (w : Windows) (snapshot : InterfaceSnapshot) (adapter : AdapterIdentity) : Prop where
  family : snapshot.family = IPV4 ∨ snapshot.family = IPV6
  adapters : (w.adapters.filter fun identity => identity.interface_index ≠ 0).filter
    (same_recovery_adapter snapshot.adapter) = [adapter]
  same : same_recovery_adapter snapshot.adapter adapter
  index : adapter.interface_index = snapshot.interface_index
  row : ∃ row, w.interface adapter.interface_index snapshot.family = some row ∧ row.InterfaceLuid = adapter.luid ∧
    row.DisableDefaultRoutes = true
  none_left : w.routes adapter.interface_index snapshot.family = []
  canonical : ∀ route ∈ snapshot.default_routes, Canonical adapter snapshot.family route
  keys : (snapshot.default_routes.map route_key).Nodup
  unrouted : ∀ route ∈ snapshot.default_routes, ∀ hop, next_hop route = some hop →
    hop ∉ w.routed adapter.interface_index
  entry : (w.entry snapshot.persisted_name).isSome

/-- What a completed restoration leaves. -/
structure Restored (snapshot : InterfaceSnapshot) (w : Windows) : Prop where
  flag : (w.interface snapshot.interface_index snapshot.family).map (·.DisableDefaultRoutes) =
    some snapshot.disable_default_routes
  routes : (w.routes snapshot.interface_index snapshot.family).Perm snapshot.default_routes
  entry : w.entry snapshot.persisted_name = none

/-- The gateway is unspecified, or one that the interface's DHCP or static configuration names. -/
def Confirmable (w : Windows) (snapshot : InterfaceSnapshot) (route : MIB_IPFORWARD_ROW2) : Prop :=
  ∃ hop, next_hop route = some hop ∧ (hop.is_unspecified = true ∨
    snapshot.family = IPV4 ∧ snapshot.adapter.adapter_name ≠ "" ∧
      (some hop ∈ w.gateway_texts snapshot.adapter.adapter_name "DhcpDefaultGateway" ∨
        some hop ∈ w.gateway_texts snapshot.adapter.adapter_name "DefaultGateway"))

def IpAddr.address_family : IpAddr → ADDRESS_FAMILY
  | .V4 _ => IPV4
  | .V6 _ => IPV6

theorem next_hop_family {route : MIB_IPFORWARD_ROW2} {hop : IpAddr} (h : next_hop route = some hop) :
    route.NextHop.si_family = hop.address_family := by
  rcases route with ⟨_, _, _, _, address | ⟨address, scope⟩ | _⟩
  · cases h
    rfl
  · cases h
    rfl
  · cases h

theorem filter_unique {T κ : Type} {key : T → κ} {l : List T} {p : T → Bool} {a : T} (hnodup : (l.map key).Nodup) (hmem : a ∈ l)
    (hp : p a = true) (hunique : ∀ x ∈ l, p x = true → key x = key a) : l.filter p = [a] := by
  induction l with
  | nil => cases hmem
  | cons x l ih =>
    rw [List.map_cons, List.nodup_cons] at hnodup
    rcases List.mem_cons.1 hmem with rfl | hmem
    · have hnone : l.filter p = [] := by
        refine List.filter_eq_nil_iff.2 fun y hy hpy => hnodup.1 ?_
        rw [← hunique y (List.mem_cons_of_mem _ hy) hpy]
        exact List.mem_map_of_mem hy
      rw [List.filter_cons_of_pos hp, hnone]
    · have hx : ¬p x = true := by
        intro hpx
        rw [hunique x List.mem_cons_self hpx] at hnodup
        exact hnodup.1 (List.mem_map_of_mem hmem)
      rw [List.filter_cons_of_neg hx]
      exact ih hnodup.2 hmem fun y hy => hunique y (List.mem_cons_of_mem _ hy)

theorem Applied.undoable {policy : PersistedPolicy} (hw : w.Sound) (hc : Captured w snapshot policy)
    (h : Applied w snapshot w₁) : ∃ adapter, Undoable w₁ snapshot adapter := by
  obtain ⟨adapter, row, hmem, hindex, hnonzero, hsame, hrow, hset, hluid, hnone⟩ := h.enforced
  have hadapters : w₁.adapters = w.adapters := by rw [h.frame]
  have hjournal : w₁.journal = w.journal := by rw [h.frame]
  rw [same_adapter_instance, Bool.and_eq_true] at hsame
  have hluids : snapshot.adapter.luid = adapter.luid := by
    have hsame' := hsame.1
    rw [same_recovery_adapter] at hsame'
    simp only [Bool.and_eq_true, decide_eq_true_eq] at hsame'
    exact hsame'.1.2
  have hfamily : ∀ route ∈ w.routes snapshot.interface_index snapshot.family,
      route ∈ w.table ∧ route.Prefix.si_family = snapshot.family ∧
        is_default_route snapshot.interface_index route = true := by
    intro route hroute
    obtain ⟨hroute, hdefault⟩ := List.mem_filter.1 hroute
    obtain ⟨hroute, hfamily⟩ := List.mem_filter.1 hroute
    exact ⟨hroute, by simpa using hfamily, hdefault⟩
  refine ⟨adapter, hc.family, ?_, hsame.1, hindex, ⟨row, hindex ▸ hrow, hluid, hset⟩, hindex ▸ hnone, ?_, ?_, ?_, ?_⟩
  · rw [List.filter_filter, hadapters]
    refine filter_unique hw.luids (hadapters ▸ hmem) (by simp [hsame.1, hnonzero]) fun other _ hother => ?_
    rw [Bool.and_eq_true, same_recovery_adapter] at hother
    simp only [Bool.and_eq_true, decide_eq_true_eq] at hother
    exact hother.1.1.2.symm.trans hluids
  · intro route hroute
    obtain ⟨hroute, hlength, hdefault⟩ := hfamily route (hc.routes.subset hroute)
    have hluid' := h.luid route (List.mem_filter.2 ⟨List.mem_filter.2 ⟨hroute, by simp [hlength]⟩, hdefault⟩)
    simp only [is_default_route, Bool.and_eq_true, decide_eq_true_eq] at hdefault
    refine ⟨hdefault.1.trans hindex.symm, hluid'.trans hluids, hdefault.2, ?_, ?_⟩
    · rw [hw.default_prefix route hroute hdefault.2, hlength]
    · rw [hw.next_hop route hroute, hlength]
  · refine List.Nodup.sublist ?_ (hc.routes.map route_key |>.nodup_iff.2 (hw.keys.sublist ?_))
    · exact List.Sublist.refl _
    · exact (List.filter_sublist.trans List.filter_sublist).map _
  · intro route hroute hop hhop hrouted
    obtain ⟨hroute, hlength, -⟩ := hfamily route (hc.routes.subset hroute)
    obtain ⟨other, hother, hsamehop⟩ := List.mem_filterMap.1 hrouted
    obtain ⟨hother, hdefault⟩ := List.mem_filter.1 hother
    have hothers : other.Prefix.si_family = snapshot.family := by
      rw [← hw.next_hop other (h.table hother), next_hop_family hsamehop, ← next_hop_family hhop, hw.next_hop route hroute,
        hlength]
    have hleft : other ∈ w₁.routes snapshot.interface_index snapshot.family :=
      List.mem_filter.2 ⟨List.mem_filter.2 ⟨hother, by simp [hothers]⟩, hindex ▸ hdefault⟩
    rw [hnone] at hleft
    cases hleft
  · rw [Windows.entry, Windows.entries, hjournal]
    exact hc.entry

namespace Undoable

variable (h : Undoable w snapshot adapter)
include h

/-- The captured routes as both paths restore them. -/
theorem recreatable : Recreatable w adapter snapshot.family
    (snapshot.default_routes.map fun route => (next_hop route, rescoped adapter.interface_index route)) := by
  refine ⟨h.none_left, ?_, fun x hx => ?_⟩
  · have hkeys : (snapshot.default_routes.map fun route => (next_hop route, rescoped adapter.interface_index route)).map
        (fun x => route_key x.2) = snapshot.default_routes.map route_key := by
      rw [List.map_map]
      exact List.map_congr_left fun route _ => route_key_rescoped _ route
    rw [hkeys]
    exact h.keys
  · obtain ⟨route, hroute, rfl⟩ := List.mem_map.1 hx
    obtain ⟨hindex, hluid, hlength, hdestination, -⟩ := h.canonical route hroute
    refine ⟨hindex, hluid, hlength, ?_⟩
    have hdestination' : (rescoped adapter.interface_index route).Prefix =
        set_sockaddr_inet (unspecified_for_family snapshot.family) 0 := hdestination
    rw [hdestination']
    rcases h.family with hf | hf <;> rw [hf] <;> rfl

theorem adapter_name : adapter.adapter_name = snapshot.adapter.adapter_name := by
  have hsame := h.same
  rw [same_recovery_adapter] at hsame
  simp only [Bool.and_eq_true, decide_eq_true_eq] at hsame
  exact hsame.1.1.symm

theorem has_next_hop {route : MIB_IPFORWARD_ROW2} (hroute : route ∈ snapshot.default_routes) :
    ∃ hop, next_hop route = some hop ∧ hop.address_family = snapshot.family := by
  have hfamily := (h.canonical route hroute).next_hop
  rcases route with ⟨_, _, _, _, address | ⟨address, scope⟩ | _⟩
  · exact ⟨.V4 address, rfl, hfamily⟩
  · exact ⟨.V6 address, rfl, hfamily⟩
  · have hzero : (0 : ADDRESS_FAMILY) = snapshot.family := hfamily
    rcases h.family with hf | hf <;> rw [hf] at hzero <;> cases hzero

/-- With its routes gone, a gateway is available if it is confirmable. -/
theorem available_iff {route : MIB_IPFORWARD_ROW2} (hroute : route ∈ snapshot.default_routes) :
    available (w.routed adapter.interface_index) (w.configured adapter snapshot.family) (next_hop route) = true ↔
      Confirmable w snapshot route := by
  obtain ⟨hop, hhop, -⟩ := h.has_next_hop hroute
  have hunrouted := h.unrouted route hroute hop hhop
  have hconfigured : hop ∈ w.configured adapter snapshot.family ↔ snapshot.family = IPV4 ∧
      snapshot.adapter.adapter_name ≠ "" ∧ (some hop ∈ w.gateway_texts snapshot.adapter.adapter_name "DhcpDefaultGateway" ∨
        some hop ∈ w.gateway_texts snapshot.adapter.adapter_name "DefaultGateway") ∧ hop.is_unspecified = false := by
    rw [Windows.configured, h.adapter_name]
    by_cases hnone : snapshot.family ≠ IPV4 ∨ snapshot.adapter.adapter_name = ""
    · rw [if_pos (by simpa using hnone)]
      simp only [List.not_mem_nil, false_iff]
      rintro ⟨hf, hname, -⟩
      exact hnone.elim (· hf) hname
    · rw [if_neg (by simpa using hnone), mem_add_gateways, mem_add_gateways]
      rw [not_or, not_not] at hnone
      simp only [List.not_mem_nil, false_or, hnone.1, true_and]
      grind
  rw [hhop, available, decide_eq_true_iff, classify_captured_gateway]
  constructor
  · intro hclass
    refine ⟨hop, hhop, ?_⟩
    split at hclass
    · next hknown =>
      simp only [Bool.or_eq_true, List.contains_iff_mem] at hknown
      rcases hknown with (hzero | hrouted) | hmem
      · exact .inl hzero
      · exact absurd hrouted hunrouted
      · obtain ⟨hf, hname, htexts, -⟩ := hconfigured.1 hmem
        exact .inr ⟨hf, hname, htexts⟩
    · split at hclass <;> cases hclass
  · rintro ⟨hop', hhop', hknown⟩
    obtain rfl : hop' = hop := Option.some.inj (hhop'.symm.trans hhop)
    refine if_pos ?_
    simp only [Bool.or_eq_true, List.contains_iff_mem]
    rcases hknown with hzero | ⟨hf, hname, htexts⟩
    · exact .inl (.inl hzero)
    · cases hzero : hop'.is_unspecified with
      | true => exact .inl (.inl rfl)
      | false => exact .inr (hconfigured.2 ⟨hf, hname, htexts, hzero⟩)

/-- A confirmable gateway is not link-local, so its route comes back as it was. -/
theorem rescoped_eq_of_confirmable {route : MIB_IPFORWARD_ROW2} (hroute : route ∈ snapshot.default_routes)
    (hc : Confirmable w snapshot route) : rescoped adapter.interface_index route = route := by
  obtain ⟨hop, hhop, hfamily⟩ := h.has_next_hop hroute
  obtain ⟨hop', hhop', hknown⟩ := hc
  refine rescoped_eq fun address haddress => ?_
  rw [hhop] at hhop' haddress
  obtain rfl := Option.some.inj hhop'
  obtain rfl := Option.some.inj haddress
  cases hop with
  | V4 bits => rfl
  | V6 bits =>
    rcases hknown with hzero | ⟨hf, -⟩
    · rw [IpAddr.is_unspecified, decide_eq_true_eq] at hzero
      rw [hzero]
      decide
    · rw [hf] at hfamily
      cases hfamily

/-- Restoring succeeds and leaves the captured state exactly if every captured gateway can be confirmed. -/
theorem undone_iff {β : Type} {b : β} : (∃ w₂, (do
      restore_routes adapter snapshot.family (w.routed adapter.interface_index)
        (snapshot.default_routes.map fun route => (next_hop route, rescoped adapter.interface_index route)) [] operation absent
      restore_owned_interface_flag adapter snapshot.family snapshot.disable_default_routes
      remove_policy_value snapshot.persisted_name
      pure b : Io β).run answer w = (.ok b, w₂) ∧ Restored snapshot w₂) ↔
    ∀ route ∈ snapshot.default_routes, Confirmable w snapshot route := by
  obtain ⟨original, horiginal⟩ : ∃ original, original =
      snapshot.default_routes.map fun route => (next_hop route, rescoped adapter.interface_index route) := ⟨_, rfl⟩
  obtain ⟨configured, hconfigured⟩ : ∃ configured, configured = w.configured adapter snapshot.family := ⟨_, rfl⟩
  obtain ⟨gateways, hgateways⟩ : ∃ gateways, gateways = w.routed adapter.interface_index := ⟨_, rfl⟩
  have hcreatable := h.recreatable
  have havailable : ∀ route ∈ snapshot.default_routes, available gateways configured (next_hop route) = true ↔
      Confirmable w snapshot route := by
    rw [hconfigured, hgateways]
    exact fun route hroute => h.available_iff hroute
  rw [← horiginal] at hcreatable
  rw [← horiginal, ← hgateways]
  -- what happens when no gateway is unconfirmed
  have hforward : (∀ x ∈ original, ∃ hop, x.1 = some hop ∧ classify_captured_gateway hop gateways configured ≠ .Unconfirmed) →
      ∃ w₂, (do
        restore_routes adapter snapshot.family gateways original [] operation absent
        restore_owned_interface_flag adapter snapshot.family snapshot.disable_default_routes
        remove_policy_value snapshot.persisted_name
        pure b : Io β).run answer w = (.ok b, w₂) ∧
      (w₂.interface adapter.interface_index snapshot.family).map (·.DisableDefaultRoutes) =
        some snapshot.disable_default_routes ∧
      w₂.routes adapter.interface_index snapshot.family = created gateways configured original ∧
      w₂.entry snapshot.persisted_name = none := by
    intro hconfirmed
    rw [hconfigured] at hconfirmed ⊢
    obtain ⟨row, hrow, hluid, hset⟩ := h.row
    obtain ⟨interfaces, hflag, hflagged⟩ := restore_owned_interface_flag_run
      (w := { w with table := w.table ++ created gateways (w.configured adapter snapshot.family) original })
      snapshot.disable_default_routes hrow hluid hset
    obtain ⟨journal, hremove, hgone⟩ := remove_policy_value_run
      (w := { w with
        table := w.table ++ created gateways (w.configured adapter snapshot.family) original, interfaces := interfaces })
      snapshot.persisted_name h.entry
    refine ⟨{ w with
      table := w.table ++ created gateways (w.configured adapter snapshot.family) original
      interfaces := interfaces
      journal := journal }, ?_, hflagged, hcreatable.routes_created gateways _, hgone⟩
    rw [Prog.run_bind_of_ok (restore_routes_run hcreatable hconfirmed), Prog.run_bind_of_ok hflag,
      Prog.run_bind_of_ok hremove]
    rfl
  constructor
  · rintro ⟨w₂, hrun, hrestored⟩ route hroute
    have hconfirmed : ∀ x ∈ original, ∃ hop, x.1 = some hop ∧
        classify_captured_gateway hop gateways configured ≠ .Unconfirmed := by
      obtain ⟨_, w₃, hroutes, -⟩ := Prog.run_bind_ok hrun
      obtain ⟨keys, w₄, hrecreate, -⟩ := Prog.run_bind_ok hroutes
      rw [recreate_routes, List.map_nil, missing_original_nil] at hrecreate
      simp only [] at hrecreate
      rw [Prog.run_bind_of_ok (configured_gateways_run w _ _), List.length_map, range_items] at hrecreate
      rw [hconfigured]
      exact create_missing_ok hrecreate
    obtain ⟨w₂', hrun', -, hroutes, -⟩ := hforward hconfirmed
    obtain rfl : w₂ = w₂' := congrArg Prod.snd (hrun.symm.trans hrun')
    have hlength := hrestored.routes.length_eq
    rw [← h.index, hroutes, created, List.length_map, horiginal] at hlength
    have hall := List.length_filter_eq_length_iff.1 (hlength.trans (List.length_map _).symm) _
      (List.mem_map_of_mem (f := fun route => (next_hop route, rescoped adapter.interface_index route)) hroute)
    exact (havailable route hroute).1 hall
  · intro hall
    have hopen : ∀ x ∈ original, available gateways configured x.1 = true := by
      intro x hx
      rw [horiginal] at hx
      obtain ⟨route, hroute, rfl⟩ := List.mem_map.1 hx
      exact (havailable route hroute).2 (hall route hroute)
    obtain ⟨w₂, hrun, hflag, hroutes, hgone⟩ := hforward fun x hx => by
      have hx' := hopen x hx
      rcases x with ⟨- | hop, row⟩
      · cases hx'
      · refine ⟨hop, rfl, fun hclass => ?_⟩
        rw [available, hclass] at hx'
        cases hx'
    refine ⟨w₂, hrun, h.index ▸ hflag, ?_, hgone⟩
    rw [← h.index, hroutes, created, List.filter_eq_self.2 hopen, horiginal, List.map_map]
    refine List.Perm.of_eq ((List.map_congr_left fun route hroute => ?_).trans (List.map_id _))
    exact h.rescoped_eq_of_confirmable hroute (hall route hroute)

theorem details_run : (adapter_details_for_identity snapshot.adapter).run answer w =
    (.ok (some (adapter, w.routed adapter.interface_index)), w) := by
  have hmap := congrArg (List.map fun adapter => (adapter, w.routed adapter.interface_index)) h.adapters
  rw [adapter_details_for_identity, Prog.run_bind_of_ok (all_adapter_details_run w), List.filter_map, List.filter_map]
  erw [hmap]
  rfl

theorem routes_run : (default_routes_for_adapter adapter snapshot.family).run answer w = (.ok [], w) := by
  rw [default_routes_for_adapter_run, h.none_left]
  rw [h.none_left]
  exact fun route hroute => nomatch hroute

theorem restore_run : (restore_snapshot snapshot).run answer w = (do
    restore_routes adapter snapshot.family (w.routed adapter.interface_index)
      (snapshot.default_routes.map fun route => (next_hop route, rescoped adapter.interface_index route)) []
      "restore the tether interface default route"
      "Windows reported route restoration success but the route is still absent: "
    restore_owned_interface_flag adapter snapshot.family snapshot.disable_default_routes
    remove_policy_value snapshot.persisted_name : Io Unit).run answer w := by
  obtain ⟨row, hrow, hluid, -⟩ := h.row
  obtain ⟨persisted, hpersisted, -, hrows⟩ := restore_all h.family h.canonical
  rw [restore_snapshot, Prog.run_bind_of_ok h.details_run]
  simp only []
  rw [Prog.run_bind_of_ok (interface_row_for_adapter_run hrow hluid)]
  simp only []
  rw [Prog.run_bind_of_ok h.routes_run, hpersisted, Prog.ofExcept, Prog.ok_bind, hrows, Prog.ofExcept, Prog.ok_bind,
    List.map_map]
  congr 4
  refine funext fun route => ?_
  exact Prod.ext (next_hop_rescoped _ route) rfl

/-- `recover_policies` for the one entry, once its owner is gone. -/
theorem recover_run {policy : PersistedPolicy} (hadapter : policy.adapter = snapshot.adapter)
    (hfamily : policy.family = snapshot.family)
    (hflag : policy.original_disable_default_routes = snapshot.disable_default_routes)
    (hroutes : persisted_routes snapshot.default_routes = .ok policy.routes)
    (hgone : (process_owner_is_running policy.owner).run answer w = (.ok false, w)) :
    (recover_policies [(snapshot.persisted_name, policy)]).run answer w = (do
      restore_routes adapter snapshot.family (w.routed adapter.interface_index)
        (snapshot.default_routes.map fun route => (next_hop route, rescoped adapter.interface_index route)) []
        "recover a tether interface default route"
        "Windows reported route recovery success but the route is still absent: "
      restore_owned_interface_flag adapter snapshot.family snapshot.disable_default_routes
      remove_policy_value snapshot.persisted_name
      pure (.Restored 1) : Io RecoveryOutcome).run answer w := by
  obtain ⟨row, hrow, hluid, -⟩ := h.row
  obtain ⟨persisted, hpersisted, hhops, hrows⟩ := restore_all h.family h.canonical
  obtain rfl : persisted = policy.routes := Except.ok.inj (hpersisted.symm.trans hroutes)
  have hzip : ((policy.routes.map fun route => some route.next_hop).zip
      (snapshot.default_routes.map (rescoped adapter.interface_index))) =
      snapshot.default_routes.map fun route => (next_hop route, rescoped adapter.interface_index route) := by
    rw [hhops, List.zip_map']
  have hpolicy : (recover_policy policy).run answer w = (do
      restore_routes adapter snapshot.family (w.routed adapter.interface_index)
        (snapshot.default_routes.map fun route => (next_hop route, rescoped adapter.interface_index route)) []
        "recover a tether interface default route"
        "Windows reported route recovery success but the route is still absent: "
      restore_owned_interface_flag adapter snapshot.family snapshot.disable_default_routes
      return .Restored : Io PolicyRecovery).run answer w := by
    rw [recover_policy, hadapter, hfamily, hflag, Prog.run_bind_of_ok h.details_run]
    simp only []
    rw [Prog.run_bind_of_ok (interface_row_for_adapter_run hrow hluid)]
    simp only []
    rw [Prog.run_bind_of_ok hgone]
    simp only [Bool.false_eq_true, if_false]
    rw [Prog.run_bind_of_ok h.routes_run, hrows, Prog.ofExcept, Prog.ok_bind, hzip]
  rw [recover_policies, recover_each, Prog.bind_assoc, Prog.run_bind_congr hpolicy]
  simp only [Prog.bind_assoc, recover_each, Prog.pure_bind]
  rfl

end Undoable

/-- No process with the owner's id and creation time is running. -/
def Windows.Gone (w : Windows) (owner : ProcessOwner) : Prop :=
  ∀ process, w.process (.opened owner.pid) = some process →
    process.exit_code ≠ STILL_ACTIVE ∨ process.creation_time ≠ owner.creation_time

theorem gone_run {owner : ProcessOwner} (h : w.Gone owner) :
    (process_owner_is_running owner).run answer w = (.ok false, w) := by
  rw [process_owner_is_running, Prog.run_attempted_bind]
  simp only [answer]
  cases hprocess : w.process (.opened owner.pid) with
  | none => rfl
  | some process =>
    have hcreation : (process_creation_time (.opened owner.pid)).run answer w =
        (.ok (.ok process.creation_time), w) := by
      rw [process_creation_time, Prog.run_attempted_bind]
      simp only [answer, hprocess]
      rfl
    simp only [Option.map_some, found]
    rw [Prog.run_bind_of_ok hcreation, Prog.run_attempted_bind, Prog.run_attempted_bind]
    simp only [answer, hprocess, Option.map_some, found]
    rcases h process hprocess with hexit | hcreated
    · simp [hexit]
    · by_cases hexit : process.exit_code = STILL_ACTIVE
      · simp [hexit, Prog.ofExcept, hcreated]
      · simp [hexit]

/-- A snapshot that was applied is restored, by its owner or after the owner's crash, exactly if each of its
gateways is unspecified or named by the interface's DHCP or static IPv4 configuration. -/
theorem restores_iff {policy : PersistedPolicy} (hw : w.Sound) (hc : Captured w snapshot policy)
    (ha : (apply_snapshot snapshot).run answer w = (.ok (), w₁)) :
    ((∃ w₂, (restore_snapshot snapshot).run answer w₁ = (.ok (), w₂) ∧ Restored snapshot w₂) ↔
      ∀ route ∈ snapshot.default_routes, Confirmable w snapshot route) ∧
    ∀ owner processes, ({ w₁ with owner := owner, processes := processes } : Windows).Gone policy.owner →
      ((∃ w₂, (recover_policies [(snapshot.persisted_name, policy)]).run answer
          { w₁ with owner := owner, processes := processes } = (.ok (.Restored 1), w₂) ∧ Restored snapshot w₂) ↔
        ∀ route ∈ snapshot.default_routes, Confirmable w snapshot route) := by
  have happlied := apply_snapshot_ok ha
  obtain ⟨adapter, hundoable⟩ := happlied.undoable hw hc
  have hparameters : w₁.parameters = w.parameters := by rw [happlied.frame]
  have hconfirmable : ∀ route, Confirmable w₁ snapshot route ↔ Confirmable w snapshot route := by
    intro route
    simp only [Confirmable, Windows.gateway_texts, hparameters]
  refine ⟨?_, fun owner processes hgone => ?_⟩
  · have hend : remove_policy_value snapshot.persisted_name =
        (do remove_policy_value snapshot.persisted_name; pure () : Io Unit) := (Prog.bind_ok _).symm
    rw [hundoable.restore_run, hend, hundoable.undone_iff]
    exact forall₂_congr fun route _ => hconfirmable route
  · have hcrashed : Undoable { w₁ with owner := owner, processes := processes } snapshot adapter :=
      ⟨hundoable.family, hundoable.adapters, hundoable.same, hundoable.index, hundoable.row, hundoable.none_left,
        hundoable.canonical, hundoable.keys, hundoable.unrouted, hundoable.entry⟩
    rw [hcrashed.recover_run hc.adapter hc.policy_family hc.policy_flag hc.policy_routes (gone_run hgone),
      hcrashed.undone_iff]
    exact forall₂_congr fun route _ => hconfirmable route

/-! ## A tethered phone -/

def phone_adapter : AdapterIdentity :=
  { adapter_name := "{adapter-guid}", luid := 7, network_guid := 3, physical_address := [1, 2, 3, 4, 5, 6]
    interface_index := 9, description := "Remote NDIS", friendly_name := "USB tether" }

def phone_route (address : IpAddr) : MIB_IPFORWARD_ROW2 :=
  { InterfaceIndex := 9, InterfaceLuid := 7
    Prefix := set_sockaddr_inet (unspecified_for_family address.address_family) 0, PrefixLength := 0
    NextHop := set_sockaddr_inet address 9, SitePrefixLength := 0, ValidLifetime := 0xffffffff
    PreferredLifetime := 0xffffffff, Metric := 5, Protocol := 3, Loopback := false, AutoconfigureAddress := false
    Publish := false, Immortal := true, Origin := 0 }

def phone_snapshot (address : IpAddr) : InterfaceSnapshot :=
  { adapter := phone_adapter, interface_index := 9, family := address.address_family, disable_default_routes := false
    default_routes := [phone_route address], persisted_name := "tether-route-policy-v1-42-123-9.bin" }

def phone_policy (address : IpAddr) : PersistedPolicy :=
  { owner := ⟨42, 123, "host.exe"⟩, adapter := phone_adapter, family := address.address_family
    original_disable_default_routes := false
    routes := [{ next_hop := address
                 next_hop_scope_id := match address with | .V4 _ => 0 | .V6 _ => 9
                 site_prefix_length := 0, valid_lifetime := 0xffffffff
                 preferred_lifetime := 0xffffffff, metric := 5, protocol := 3, loopback := false
                 autoconfigure_address := false, publish := false, immortal := true, origin := 0 }] }

/-- A phone whose gateway is `address`, and whose DHCP lease names `leased`. -/
def phone (address leased : IpAddr) : Windows :=
  { adapters := [phone_adapter]
    interfaces := [⟨address.address_family, 9, 7, false, 0⟩]
    table := [phone_route address]
    parameters := fun adapter_name => if adapter_name = "{adapter-guid}" then
      some fun name => if name = "DhcpDefaultGateway" then some (.strings [some leased]) else none else none
    journal := some [⟨"tether-route-policy-v1-42-123-9.bin", .binary (.ok (phone_policy address)), true⟩]
    owner := ⟨42, 123, "host.exe"⟩
    processes := fun _ => none }

theorem phone_sound (address leased : IpAddr) : (phone address leased).Sound := by
  refine ⟨by simp [phone], by simp [phone], fun route hroute => ?_, fun route hroute _ => ?_⟩ <;>
    obtain rfl := List.mem_singleton.1 hroute <;> cases address <;> rfl

theorem phone_captured (address leased : IpAddr) :
    Captured (phone address leased) (phone_snapshot address) (phone_policy address) := by
  cases address with
  | V4 bits => exact ⟨.inl rfl, rfl, List.Perm.refl _, by rfl, rfl, rfl, rfl, rfl⟩
  | V6 bits => exact ⟨.inr rfl, rfl, List.Perm.refl _, by rfl, rfl, rfl, rfl, rfl⟩

def lease : IpAddr := .V4 0xc0a82a81#32

/-- fe80::1, as an Android phone advertises itself for IPv6. -/
def link_local : IpAddr := .V6 0xfe800000000000000000000000000001#128

def succeeds {α : Type} : Except IoError α → Bool
  | .ok _ => true
  | .error _ => false

theorem run_of_succeeds {p : Io Unit} (h : succeeds (p.run answer w).1 = true) : ∃ w', p.run answer w = (.ok (), w') := by
  rcases hp : p.run answer w with ⟨e | ⟨⟩, w'⟩
  · rw [hp] at h
    cases h
  · exact ⟨w', rfl⟩

/-- The IPv4 route of a DHCP lease comes back. -/
theorem restores_lease : ∃ w₁ w₂, (apply_snapshot (phone_snapshot lease)).run answer (phone lease lease) = (.ok (), w₁) ∧
    (restore_snapshot (phone_snapshot lease)).run answer w₁ = (.ok (), w₂) ∧ Restored (phone_snapshot lease) w₂ := by
  obtain ⟨w₁, happly⟩ := run_of_succeeds
    (show succeeds ((apply_snapshot (phone_snapshot lease)).run answer (phone lease lease)).1 = true by decide +kernel)
  have hconfirmable : ∀ route ∈ (phone_snapshot lease).default_routes,
      Confirmable (phone lease lease) (phone_snapshot lease) route := by
    intro route hroute
    obtain rfl := List.mem_singleton.1 hroute
    exact ⟨lease, rfl, .inr ⟨rfl, by decide, .inl (List.mem_singleton.2 rfl)⟩⟩
  obtain ⟨w₂, hrestore, hrestored⟩ := (restores_iff (phone_sound _ _) (phone_captured _ _) happly).1.2 hconfirmable
  exact ⟨w₁, w₂, happly, hrestore, hrestored⟩

/-- The IPv6 route of a phone that advertises itself is deleted; neither its owner nor a later process restores it. -/
theorem link_local_lost :
    (phone link_local lease).Sound ∧ Captured (phone link_local lease) (phone_snapshot link_local) (phone_policy link_local) ∧
    ∃ w₁, (apply_snapshot (phone_snapshot link_local)).run answer (phone link_local lease) = (.ok (), w₁) ∧
      (¬∃ w₂, (restore_snapshot (phone_snapshot link_local)).run answer w₁ = (.ok (), w₂)) ∧
      ¬∃ outcome w₂, (recover_policies [((phone_snapshot link_local).persisted_name, phone_policy link_local)]).run answer
        { w₁ with owner := ⟨77, 456, "host.exe"⟩ } = (.ok outcome, w₂) := by
  obtain ⟨w₁, happly⟩ := run_of_succeeds
    (show succeeds ((apply_snapshot (phone_snapshot link_local)).run answer (phone link_local lease)).1 = true by
      decide +kernel)
  have hrestore : succeeds ((restore_snapshot (phone_snapshot link_local)).run answer
      ((apply_snapshot (phone_snapshot link_local)).run answer (phone link_local lease)).2).1 = false := by decide +kernel
  have hrecover : succeeds ((recover_policies [((phone_snapshot link_local).persisted_name, phone_policy link_local)]).run
      answer { ((apply_snapshot (phone_snapshot link_local)).run answer (phone link_local lease)).2 with
        owner := ⟨77, 456, "host.exe"⟩ }).1 = false := by decide +kernel
  rw [happly] at hrestore hrecover
  refine ⟨phone_sound _ _, phone_captured _ _, w₁, happly, ?_, ?_⟩
  · rintro ⟨w₂, hok⟩
    rw [hok] at hrestore
    cases hrestore
  · rintro ⟨outcome, w₂, hok⟩
    rw [hok] at hrecover
    cases hrecover

end Trackpad.RoutePolicy
