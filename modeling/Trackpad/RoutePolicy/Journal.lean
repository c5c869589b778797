import Trackpad.RoutePolicy.Registry
import Mathlib.Data.List.Nodup
/-!
# What the policy's methods keep

For each function of the policy: every call it makes is covered, and what its results leave in the journal.
-/

namespace Trackpad.RoutePolicy

open Calls

/-! ## Restoring routes -/

/-- The captured routes as they are restored to the adapter, each with its next hop. -/
def Restores (policy : PersistedPolicy) (adapter : AdapterIdentity) (original : List (Option IpAddr × MIB_IPFORWARD_ROW2)) :
    Prop :=
  List.Forall₂ (fun route x => x.1 = some route.next_hop ∧ restore_route_row route adapter policy.family = .ok x.2)
    policy.routes original

section
variable {s : Registry} {h : History} {adapter : AdapterIdentity} {policy : PersistedPolicy}
  {original : List (Option IpAddr × MIB_IPFORWARD_ROW2)}

theorem Restores.listed (hr : Restores policy adapter original) {x : Option IpAddr × MIB_IPFORWARD_ROW2}
    (hx : x ∈ original) :
    ∃ route ∈ policy.routes, x.1 = some route.next_hop ∧ restore_route_row route adapter policy.family = .ok x.2 := by
  obtain ⟨i, hi, rfl⟩ := List.getElem_of_mem hx
  have hi' : i < policy.routes.length := by rw [List.Forall₂.length_eq hr]; exact hi
  exact ⟨policy.routes[i], List.getElem_mem hi', List.Forall₂.get hr hi' hi⟩

theorem Restores.mem (hr : Restores policy adapter original) {route : PersistedRoute} (hroute : route ∈ policy.routes) :
    ∃ x ∈ original, x.1 = some route.next_hop ∧ restore_route_row route adapter policy.family = .ok x.2 := by
  obtain ⟨i, hi, rfl⟩ := List.getElem_of_mem hroute
  have hi' : i < original.length := by rw [← List.Forall₂.length_eq hr]; exact hi
  exact ⟨original[i], List.getElem_mem hi', List.Forall₂.get hr hi hi'⟩

theorem Restores.listed_iff (hr : Restores policy adapter original) (key : RouteKey) :
    Listed policy adapter key ↔ key ∈ original.map fun x => route_key x.2 := by
  constructor
  · rintro ⟨route, hroute, row, hrow, rfl⟩
    obtain ⟨x, hx, -, hrow'⟩ := hr.mem hroute
    rw [hrow] at hrow'
    exact List.mem_map.2 ⟨x, hx, by rw [Except.ok.inj hrow']⟩
  · intro hkey
    obtain ⟨x, hx, rfl⟩ := List.mem_map.1 hkey
    obtain ⟨route, hroute, -, hrow⟩ := hr.listed hx
    exact ⟨route, hroute, x.2, hrow, rfl⟩

end

theorem restore_route_row_ok {route : PersistedRoute} {adapter : AdapterIdentity} {family : ADDRESS_FAMILY}
    {row : MIB_IPFORWARD_ROW2} (hrow : restore_route_row route adapter family = .ok row) :
    row.Prefix = set_sockaddr_inet (unspecified_for_family family) 0 ∧
      ((∃ address, route.next_hop = .V4 address ∧ family = IPV4 ∧ row.NextHop = .Ipv4 address) ∨
        ∃ address scope, route.next_hop = .V6 address ∧ family = IPV6 ∧ row.NextHop = .Ipv6 address scope) := by
  rw [restore_route_row] at hrow
  cases hhop : route.next_hop with
  | V4 address =>
    simp only [hhop] at hrow
    split at hrow
    · cases hrow
    · next hmatching =>
      obtain rfl := Except.ok.inj hrow
      exact ⟨rfl, .inl ⟨address, rfl, by simpa using hmatching, rfl⟩⟩
  | V6 address =>
    simp only [hhop] at hrow
    split at hrow
    · cases hrow
    · next hmatching =>
      obtain rfl := Except.ok.inj hrow
      exact ⟨rfl, .inr ⟨address, _, rfl, by simpa using hmatching, rfl⟩⟩

/-- Rows that are restored with one key have one next hop. -/
theorem next_hop_of_key {a b : PersistedRoute} {adapter : AdapterIdentity} {family : ADDRESS_FAMILY}
    {row row' : MIB_IPFORWARD_ROW2} (ha : restore_route_row a adapter family = .ok row)
    (hb : restore_route_row b adapter family = .ok row') (hkey : route_key row = route_key row') :
    a.next_hop = b.next_hop := by
  have hbytes := congrArg RouteKey.next_hop hkey
  obtain ⟨hstart, ha⟩ := restore_route_row_ok ha
  obtain ⟨hstart', hb⟩ := restore_route_row_ok hb
  simp only [route_key, hstart, hstart'] at hbytes
  rcases ha with ⟨x, hx, rfl, hhop⟩ | ⟨x, scope, hx, rfl, hhop⟩
  · rcases hb with ⟨y, hy, -, hhop'⟩ | ⟨y, scope', hy, hfamily, hhop'⟩
    · rw [hhop, hhop'] at hbytes
      have hbits : x ++ 0#96 = y ++ 0#96 := hbytes
      rw [hx, hy, (BitVec.append_left_inj _).1 hbits]
    · cases hfamily
  · rcases hb with ⟨y, hy, hfamily, hhop'⟩ | ⟨y, scope', hy, -, hhop'⟩
    · cases hfamily
    · rw [hhop, hhop'] at hbytes
      have hbits : x = y := hbytes
      rw [hx, hy, hbits]

section
variable {s : Registry} {h : History} {adapter : AdapterIdentity} {policy : PersistedPolicy}
  {original : List (Option IpAddr × MIB_IPFORWARD_ROW2)} {gateways : List IpAddr} {operation absent : String}

/-- The routes that are to be created are listed, and nothing but listed routes was read. -/
theorem keeps_create {Q : Registry → History → Except IoError (List RouteKey) → Prop} {interface_index : UInt32}
    {configured : List IpAddr} {missing : List (Option IpAddr × MIB_IPFORWARD_ROW2)}
    (hcovered : ∀ h', Aside h h' → ∀ x ∈ missing, Covered s h' (.CreateIpForwardEntry2 x.2))
    (hok : ∀ h' keys, Aside h h' → (∀ x ∈ missing, route_key x.2 ∈ keys ∨
      ∃ hop, x.1 = some hop ∧ classify_captured_gateway hop gateways configured = .Stale) → Q s h' (.ok keys))
    (herror : ∀ h' e, Q s h' (.error e)) :
    Keeps Q s h (create_missing interface_index gateways configured operation missing) := by
  induction missing generalizing h Q with
  | nil => exact hok h [] (Aside.refl h) fun x hx => by cases hx
  | cons x missing ih =>
    obtain ⟨hop?, row⟩ := x
    cases hop? with
    | none => exact herror h _
    | some hop =>
      have hcovered' : ∀ h' h'', Aside h h' → Aside h' h'' → ∀ x ∈ missing, Covered s h'' (.CreateIpForwardEntry2 x.2) :=
        fun h' h'' ha hb x hx => hcovered h'' (ha.trans hb) x (List.mem_cons_of_mem _ hx)
      have hcons : ∀ {keys : List RouteKey},
          (route_key row ∈ keys ∨ classify_captured_gateway hop gateways configured = .Stale) →
          (∀ x ∈ missing, route_key x.2 ∈ keys ∨
            ∃ hop, x.1 = some hop ∧ classify_captured_gateway hop gateways configured = .Stale) →
          ∀ x ∈ (some hop, row) :: missing, route_key x.2 ∈ keys ∨
            ∃ hop, x.1 = some hop ∧ classify_captured_gateway hop gateways configured = .Stale := by
        intro keys hfirst hrest x hx
        rcases List.mem_cons.1 hx with rfl | hx
        · exact hfirst.imp_right fun hstale => ⟨hop, rfl, hstale⟩
        · exact hrest x hx
      rw [create_missing]
      cases hgateway : classify_captured_gateway hop gateways configured with
      | Stale =>
        exact ih (fun h' ha => hcovered' h h' (Aside.refl h) ha)
          (fun h' keys ha hkeys => hok h' keys ha (hcons (.inr hgateway) hkeys)) herror
      | Unconfirmed => exact herror h _
      | Available =>
        refine keeps_call (hcovered h (Aside.refl h) _ List.mem_cons_self) rfl fun r _ => ?_
        have hcreated : Aside h (⟨.CreateIpForwardEntry2 row, r⟩ :: h) := (Aside.refl h).cons rfl
        have hthen : Keeps Q s (⟨.CreateIpForwardEntry2 row, r⟩ :: h)
            (create_missing interface_index gateways configured operation missing >>= fun verify_keys =>
              pure (route_key row :: verify_keys)) := by
          refine holds_bind (ih (fun h' ha => hcovered' _ h' hcreated ha) (fun h' keys ha hkeys => ?_) herror)
          refine hok h' _ (hcreated.trans ha) (hcons (.inl List.mem_cons_self) fun x hx => ?_)
          exact (hkeys x hx).imp_left (List.mem_cons_of_mem _)
        cases r with
        | ok _ => exact hthen
        | error code =>
          dsimp only
          split
          · exact herror _ _
          · exact hthen

/-- What is known when the captured routes of a policy are to be restored: they are in the journal, the adapter is
there, and its routes were read last. -/
structure Restoring (s : Registry) (h : History) (name : String) (policy : PersistedPolicy) (adapter : AdapterIdentity)
    (gateways : List IpAddr) (table : Except UInt32 (List MIB_IPFORWARD_ROW2)) : Prop where
  entered : s.Entered name policy
  same : same_recovery_adapter policy.adapter adapter = true
  details : ∃ details, ⟨.GetAdaptersAddresses, .ok details⟩ ∈ recent h ∧ (adapter, gateways) ∈ details
  read : ⟨.GetIpForwardTable2 policy.family, table⟩ ∈ recent h
  last : last_table policy.family h = some table
  told : ∀ routes, table = .ok routes → s.tells (.GetIpForwardTable2 policy.family) routes

variable {name : String} {table : Except UInt32 (List MIB_IPFORWARD_ROW2)}

theorem Restoring.aside (hr : Restoring s h name policy adapter gateways table) {h' : History} (ha : Aside h h') :
    Restoring s h' name policy adapter gateways table where
  entered := hr.entered
  same := hr.same
  details := by
    obtain ⟨details, hread, hmem⟩ := hr.details
    exact ⟨details, ha.recent hread, hmem⟩
  read := ha.recent hr.read
  last := (ha.last_table _).trans hr.last
  told := hr.told

theorem mem_defaults {interface_index : UInt32} {found : MIB_IPFORWARD_ROW2}
    (hfound : found ∈ defaults interface_index table) :
    ∃ routes, table = .ok routes := by
  cases table with
  | ok routes => exact ⟨routes, rfl⟩
  | error code => cases hfound

/-- The route with a key that was read is there. -/
theorem accounted_read {x : Option IpAddr × MIB_IPFORWARD_ROW2} {route : PersistedRoute}
    (hrow : restore_route_row route adapter policy.family = .ok x.2)
    (hread : ⟨.GetIpForwardTable2 policy.family, table⟩ ∈ recent h)
    (hkey : route_key x.2 ∈ (defaults adapter.interface_index table).map route_key) :
    Accounted h policy adapter route := by
  obtain ⟨found, hfound, heq⟩ := List.mem_map.1 hkey
  obtain ⟨routes, rfl⟩ := mem_defaults hfound
  exact .present routes found x.2 hread hfound hrow heq

/-- Where the table holds more than the captured routes, it holds a foreign one. -/
theorem foreign_of_none (hr : Restores policy adapter original)
    (ht : Restoring s h name policy adapter gateways table)
    (hnone : missing_original_indices ((defaults adapter.interface_index table).map route_key)
      (original.map fun x => route_key x.2) = none) (route : PersistedRoute) : Accounted h policy adapter route := by
  have hmore := missing_original_none hnone
  cases table with
  | error code => exact absurd (List.nil_subperm) hmore
  | ok routes =>
    have hnodup : ((defaults adapter.interface_index (.ok routes)).map route_key).Nodup :=
      (ht.told routes rfl).2.sublist (List.filter_sublist.map _)
    obtain ⟨key, hkey, hforeign⟩ : ∃ key ∈ (defaults adapter.interface_index (.ok routes)).map route_key,
        key ∉ original.map fun x => route_key x.2 := by
      by_contra hall
      refine hmore (List.subperm_of_subset hnodup fun key hkey => ?_)
      by_contra hnot
      exact hall ⟨key, hkey, hnot⟩
    obtain ⟨found, hfound, rfl⟩ := List.mem_map.1 hkey
    exact .left_out routes found ht.read hfound fun hlisted => hforeign ((hr.listed_iff _).1 hlisted)

theorem Configured.mono {configured : List IpAddr} {h' : History} (hc : Configured h adapter configured)
    (hsub : recent h ⊆ recent h') : Configured h' adapter configured := by
  obtain ⟨dhcp, static, hdhcp, hstatic, heq⟩ := hc
  exact ⟨dhcp, static, hsub hdhcp, hsub hstatic, heq⟩

theorem configured_of_stale {hop : IpAddr} {configured : List IpAddr}
    (hstale : classify_captured_gateway hop gateways configured = .Stale) : configured ≠ [] := by
  rintro rfl
  rw [classify_captured_gateway] at hstale
  split at hstale <;> cases hstale

/-- Each captured route was read at first, or is missing: then it was read again or its gateway was replaced. -/
theorem accounted_routes (hr : Restores policy adapter original)
    (hdetails : ∃ details, ⟨.GetAdaptersAddresses, .ok details⟩ ∈ recent h ∧ (adapter, gateways) ∈ details)
    (hread : ⟨.GetIpForwardTable2 policy.family, table⟩ ∈ recent h)
    {missing : List (Option IpAddr × MIB_IPFORWARD_ROW2)} {keys : List RouteKey} {configured : List IpAddr}
    (hperm : ((defaults adapter.interface_index table).map route_key ++ missing.map fun x => route_key x.2).Perm
      (original.map fun x => route_key x.2))
    (hsub : ∀ x ∈ missing, x ∈ original) (hconfigured : configured ≠ [] → Configured h adapter configured)
    (hkeys : ∀ x ∈ missing, route_key x.2 ∈ keys ∨
      ∃ hop, x.1 = some hop ∧ classify_captured_gateway hop gateways configured = .Stale)
    (hverified : ∀ key ∈ keys, ∃ table', ⟨.GetIpForwardTable2 policy.family, table'⟩ ∈ recent h ∧
      key ∈ (defaults adapter.interface_index table').map route_key) :
    ∀ route ∈ policy.routes, Accounted h policy adapter route := by
  intro route hroute
  obtain ⟨x, hx, hhop, hrow⟩ := hr.mem hroute
  rcases List.mem_append.1 (hperm.symm.subset (List.mem_map_of_mem hx)) with hcurrent | hmissing
  · exact accounted_read hrow hread hcurrent
  · obtain ⟨y, hy, hkey⟩ := List.mem_map.1 hmissing
    rcases hkeys y hy with hverify | ⟨hop, hyhop, hstale⟩
    · obtain ⟨table', hagain, hmem⟩ := hverified _ hverify
      exact accounted_read hrow hagain (hkey ▸ hmem)
    · obtain ⟨route', -, hyhop', hrow'⟩ := hr.listed (hsub y hy)
      obtain ⟨details, hfound, hgateways⟩ := hdetails
      have hsame : route.next_hop = hop := by
        rw [next_hop_of_key hrow hrow' hkey.symm]
        exact Option.some.inj (hyhop'.symm.trans hyhop)
      exact .stale details gateways configured hfound hgateways (hconfigured (configured_of_stale hstale))
        (hsame ▸ hstale)

theorem keeps_restore_routes {Q : Registry → History → Except IoError Unit → Prop} (hr : Restores policy adapter original)
    (ht : Restoring s h name policy adapter gateways table)
    (hok : ∀ h', recent h ⊆ recent h' → (∀ route ∈ policy.routes, Accounted h' policy adapter route) → Q s h' (.ok ()))
    (herror : ∀ h' e, Q s h' (.error e)) :
    Keeps Q s h (restore_routes adapter policy.family gateways original (defaults adapter.interface_index table)
      operation absent) := by
  rw [restore_routes, recreate_routes]
  cases hmissing : missing_original_indices ((defaults adapter.interface_index table).map route_key)
      (original.map fun x => route_key x.2) with
  | none => exact hok h (List.Subset.refl _) fun route _ => foreign_of_none hr ht hmissing route
  | some missing =>
    have hperm := missing_original_some hmissing
    have hitems : missing.filterMap ((original.map fun x => route_key x.2)[·]?) =
        (missing.filterMap (original[·]?)).map fun x => route_key x.2 := by
      simp [List.map_filterMap]
    rw [hitems] at hperm
    have hsub : ∀ x ∈ missing.filterMap (original[·]?), x ∈ original := by
      intro x hx
      obtain ⟨i, -, hi⟩ := List.mem_filterMap.1 hx
      exact List.mem_of_getElem? hi
    refine holds_bind (holds_bind (keeps_gateways (fun h₁ configured h01 hconfigured => ?_) fun h₁ e _ => herror h₁ e))
    have ht₁ := ht.aside h01
    refine keeps_create (fun h' ha x hx => ?_) (fun h₂ keys h12 hkeys => ?_) herror
    · -- only captured routes are created, and none but captured ones were read
      obtain ⟨route, hroute, -, hrow⟩ := hr.listed (hsub x hx)
      refine ⟨name, policy, adapter, ht.entered, ht.same, ⟨route, hroute, hrow⟩, table, (ht₁.aside ha).last, ?_⟩
      intro found hfound
      rw [hr.listed_iff]
      exact hperm.subset (List.mem_append_left _ (List.mem_map_of_mem hfound))
    · have hread : ∀ h₃, recent h₂ ⊆ recent h₃ → (∀ key ∈ keys, ∃ table',
          ⟨.GetIpForwardTable2 policy.family, table'⟩ ∈ recent h₃ ∧
            key ∈ (defaults adapter.interface_index table').map route_key) → Q s h₃ (.ok ()) := by
        intro h₃ h23 hverified
        have h13 := List.Subset.trans h12.recent h23
        obtain ⟨details, hdetails, hgateways⟩ := ht₁.details
        exact hok h₃ (List.Subset.trans h01.recent h13) (accounted_routes hr ⟨details, h13 hdetails, hgateways⟩
          (h13 ht₁.read) hperm hsub (fun hne => (hconfigured hne).mono h13) hkeys hverified)
      show Keeps _ _ _ (ite _ _ _)
      split
      · next hempty =>
        rw [List.isEmpty_iff.1 hempty] at hread
        exact hread h₂ (List.Subset.refl _) fun key hkey => by cases hkey
      · refine holds_bind (keeps_table (fun table' _ _ => ?_) fun _ e => herror _ e)
        dsimp only
        split
        · exact herror _ _
        · next hfound =>
          refine hread _ (recent_subset_cons rfl) fun key hkey => ⟨table', mem_recent_cons rfl, ?_⟩
          simpa using List.find?_eq_none.1 hfound key hkey

/-! ## Flags and entries -/

/-- The flag is down, or was set before the policy came. -/
def FlagUndone (h : History) (adapter : AdapterIdentity) (family : ADDRESS_FAMILY) (original : Bool) : Prop :=
  original = true ∨ ∃ row, ⟨.GetIpInterfaceEntry adapter.interface_index family, .ok row⟩ ∈ recent h ∧
    row.InterfaceLuid = adapter.luid ∧ row.DisableDefaultRoutes = false

theorem keeps_restore_flag {Q : Registry → History → Except IoError Unit → Prop} {family : ADDRESS_FAMILY}
    (hok : ∀ h', recent h ⊆ recent h' → FlagUndone h' adapter family false → Q s h' (.ok ()))
    (herror : ∀ h' e, Q s h' (.error e)) : Keeps Q s h (restore_interface_flag adapter family false) := by
  refine holds_bind (keeps_row (fun _ => herror _ _) (fun row _ _ hluid => ?_) fun _ e => herror _ e)
  dsimp only
  split
  · next hdown => exact hok _ (recent_subset_cons rfl) (.inr ⟨row, mem_recent_cons rfl, hluid, hdown⟩)
  · have hcovered : ∀ h, Covered s h (.SetIpInterfaceEntry (prepare_interface_row_for_set row false)) :=
      fun _ hset => by cases hset
    refine keeps_call (hcovered _) rfl fun r _ => ?_
    refine keeps_check (fun _ _ => ?_) fun e => herror _ e
    refine holds_bind (keeps_row (fun _ => herror _ _) (fun verified _ _ hluid' => ?_) fun _ e => herror _ e)
    dsimp only
    split
    · next hdown =>
      refine hok _ ?_ (.inr ⟨verified, mem_recent_cons rfl, hluid', hdown⟩)
      exact List.Subset.trans (recent_subset_cons rfl)
        (List.Subset.trans (recent_subset_cons rfl) (recent_subset_cons rfl))
    · exact herror _ _

theorem keeps_owned_flag {Q : Registry → History → Except IoError Unit → Prop} {family : ADDRESS_FAMILY} {original : Bool}
    (hok : ∀ h', recent h ⊆ recent h' → FlagUndone h' adapter family original → Q s h' (.ok ()))
    (herror : ∀ h' e, Q s h' (.error e)) : Keeps Q s h (restore_owned_interface_flag adapter family original) := by
  refine holds_bind (keeps_row (fun _ => herror _ _) (fun row _ _ hluid => ?_) fun _ e => herror _ e)
  have hread : recent h ⊆ recent (⟨.GetIpInterfaceEntry adapter.interface_index family, .ok row⟩ :: h) :=
    recent_subset_cons rfl
  show Keeps _ _ _ (ite _ _ _)
  split
  · next howned =>
    rw [should_restore_owned_flag, Bool.and_eq_true, Bool.not_eq_true'] at howned
    rw [howned.2] at hok
    exact keeps_restore_flag (fun h' hsub hdown => hok h' (List.Subset.trans hread hsub) hdown) herror
  · next howned =>
    refine hok _ hread ?_
    cases original with
    | true => exact .inl rfl
    | false => exact .inr ⟨row, mem_recent_cons rfl, hluid, by simpa [should_restore_owned_flag] using howned⟩

theorem Accounted.mono {h' : History} {route : PersistedRoute} (ha : Accounted h policy adapter route)
    (hsub : recent h ⊆ recent h') : Accounted h' policy adapter route := by
  cases ha with
  | present table found row hread hfound hrow hkey => exact .present table found row (hsub hread) hfound hrow hkey
  | stale details gateways configured hread hmem hconfigured hstale =>
    exact .stale details gateways configured (hsub hread) hmem (hconfigured.mono hsub) hstale
  | left_out table found hread hfound hforeign => exact .left_out table found (hsub hread) hfound hforeign

theorem Undone.mono {h' : History} (hu : Undone h policy adapter) (hsub : recent h ⊆ recent h') :
    Undone h' policy adapter where
  same := hu.same
  flag := hu.flag.imp_right fun ⟨row, hread, hdown⟩ => ⟨row, hsub hread, hdown⟩
  routes := fun route hroute => (hu.routes route hroute).mono hsub

end

namespace Registry

/-- The value of that name is gone, and all others are still there. -/
structure Drops (s : Registry) (name : String) (s' : Registry) : Prop where
  owner : s'.owner = s.owner
  written : s'.written = s.written
  entered : ∀ n p, s'.Entered n p ↔ s.Entered n p ∧ n ≠ name
  durable : ∀ n p, s.Durable n p → n ≠ name → s'.Durable n p

variable {s : Registry} {name : String}

theorem drops_delete (s : Registry) (name : String) : s.Drops name (s.delete name) where
  owner := rfl
  written := rfl
  entered := fun n p => by simp [Entered, delete]
  durable := fun n p hd hn => List.mem_filter.2 ⟨hd, by simpa using hn⟩

theorem drops_absent (h : ∀ entry ∈ s.entries, entry.name ≠ name) : s.Drops name s where
  owner := rfl
  written := rfl
  entered := fun n p => ⟨fun he => ⟨he, by obtain ⟨_, hmem⟩ := he; exact h _ hmem⟩, fun he => he.1⟩
  durable := fun n p hd _ => hd

theorem entered_flush (s : Registry) (n : String) (p : PersistedPolicy) : s.flush.Entered n p ↔ s.Entered n p := by
  constructor
  · rintro ⟨_, hmem⟩
    obtain ⟨⟨name, value, flushed⟩, hentry, heq⟩ := List.mem_map.1 hmem
    cases heq
    exact ⟨flushed, hentry⟩
  · rintro ⟨flushed, hmem⟩
    exact ⟨true, List.mem_map.2 ⟨_, hmem, rfl⟩⟩

theorem Drops.flush {s' : Registry} (hd : s.Drops name s') : s.Drops name s'.flush where
  owner := hd.owner
  written := hd.written
  entered := fun n p => (entered_flush s' n p).trans (hd.entered n p)
  durable := fun n p hdur hn => List.mem_map.2 ⟨_, hd.durable n p hdur hn, rfl⟩

theorem unique {a b : Entry} (ha : a ∈ s.entries) (hb : b ∈ s.entries) (hname : a.name = b.name) : a = b :=
  List.inj_on_of_nodup_map s.names ha hb hname

end Registry

/-- A removal succeeded and was not flushed. -/
def Lost (h : History) (name : String) : Prop :=
  ∃ code h₂ h₁, h = h₂ ++ ⟨.RegFlushKey, .error code⟩ :: ⟨.RegDeleteValueW name, .ok ()⟩ :: h₁

section
variable {s : Registry} {h : History} {adapter : AdapterIdentity} {policy : PersistedPolicy} {name : String}

theorem keeps_remove {Q : Registry → History → Except IoError Unit → Prop}
    (hundone : ∀ entry ∈ s.entries, entry.name = name →
      ∃ policy adapter, entry.value = .binary (.ok policy) ∧ Undone h policy adapter)
    (hok : ∀ s' h', s.Drops name s' → Q s' h' (.ok ())) (herror : ∀ h' e, Q s h' (.error e))
    (hlost : ∀ s' h' e, s.Drops name s' → Lost h' name → Q s' h' (.error e)) :
    Keeps Q s h (remove_policy_value name) := by
  refine holds_bind (keeps_read rfl (fun _ _ => ?_) fun code habsent => ?_)
  · refine ⟨fun entry hentry hname => ?_, fun r s' ha => ?_⟩
    · obtain ⟨policy, adapter, hvalue, hu⟩ := hundone entry hentry hname
      exact ⟨policy, adapter, hvalue, hu.mono (recent_subset_cons rfl)⟩
    · cases r with
      | ok _ =>
        obtain ⟨-, rfl⟩ := ha
        refine ⟨trivial, fun r s' hb => ?_⟩
        cases r with
        | ok _ =>
          obtain ⟨-, rfl⟩ := hb
          exact hok _ _ (Registry.drops_delete s name).flush
        | error code =>
          obtain ⟨-, rfl⟩ := hb
          exact hlost _ _ _ (Registry.drops_delete s name) ⟨code, [], _, rfl⟩
      | error code =>
        obtain ⟨habsent, rfl⟩ := ha
        show Keeps _ _ _ (ite _ _ _)
        split
        · next hmissing => exact hok _ _ (Registry.drops_absent (habsent hmissing))
        · exact herror _ _
  · dsimp only
    split
    · next hmissing =>
      have hempty : s.entries = [] := habsent hmissing
      exact hok s _ (Registry.drops_absent fun entry hentry => by rw [hempty] at hentry; cases hentry)
    · exact herror _ _

end

/-! ## Restoring and recovering -/

/-- The policy is what the snapshot was written to the journal as. -/
structure Captures (policy : PersistedPolicy) (snapshot : InterfaceSnapshot) : Prop where
  adapter : policy.adapter = snapshot.adapter
  index : snapshot.interface_index = snapshot.adapter.interface_index
  family : policy.family = snapshot.family
  flag : policy.original_disable_default_routes = snapshot.disable_default_routes
  routes : persisted_routes snapshot.default_routes = .ok policy.routes
  rows : ∀ route ∈ snapshot.default_routes, route.InterfaceIndex = snapshot.interface_index ∧
    route.InterfaceLuid = snapshot.adapter.luid ∧ route.PrefixLength = 0 ∧ route.Prefix.si_family = snapshot.family

/-- The journal holds the snapshot, durably and as the running process's, which wrote it. -/
def Held (s : Registry) (snapshot : InterfaceSnapshot) : Prop :=
  ∃ policy, s.Secured snapshot.persisted_name policy ∧ Captures policy snapshot ∧ s.Own policy.owner

theorem forall₂_of_mapM {α β ε : Type} {f : α → Except ε β} {xs : List α} {ys : List β} (h : xs.mapM f = .ok ys) :
    List.Forall₂ (fun x y => f x = .ok y) xs ys := by
  induction xs generalizing ys with
  | nil =>
    cases h
    exact .nil
  | cons x xs ih =>
    rw [List.mapM_cons] at h
    cases hx : f x with
    | error e => rw [hx] at h; cases h
    | ok y =>
      rw [hx] at h
      cases hxs : xs.mapM f with
      | error e => rw [hxs] at h; cases h
      | ok ys' =>
        rw [hxs] at h
        cases h
        exact .cons hx (ih hxs)

section
variable {s : Registry} {h : History} {adapter : AdapterIdentity} {policy : PersistedPolicy} {name : String}

/-- The routes of a snapshot are restored as those of its policy. -/
theorem restores_snapshot {routes : List PersistedRoute} {rows : List MIB_IPFORWARD_ROW2} {policy : PersistedPolicy}
    (hroutes : policy.routes = routes)
    (hrows : routes.mapM (fun route => restore_route_row route adapter policy.family) = .ok rows) :
    Restores policy adapter (rows.map fun route => ((sockaddr_inet_ip route.NextHop).map (·.1), route)) := by
  rw [Restores, hroutes, List.forall₂_map_right_iff]
  refine (forall₂_of_mapM hrows).imp fun route row hrow => ⟨?_, hrow⟩
  obtain ⟨-, ⟨address, hhop, -, hnext⟩ | ⟨address, scope, hhop, -, hnext⟩⟩ := restore_route_row_ok hrow
  · rw [hhop, hnext]
    rfl
  · rw [hhop, hnext]
    rfl

/-- So are those of a recovered policy. -/
theorem restores_policy {rows : List MIB_IPFORWARD_ROW2}
    (hrows : policy.routes.mapM (fun route => restore_route_row route adapter policy.family) = .ok rows) :
    Restores policy adapter ((policy.routes.map fun route => some route.next_hop).zip rows) := by
  have hall := forall₂_of_mapM hrows
  clear hrows
  rw [Restores]
  generalize policy.routes = routes at hall ⊢
  induction hall with
  | nil => exact .nil
  | cons hrow _ ih => exact .cons ⟨rfl, hrow⟩ ih

theorem keeps_restore_snapshot {Q : Registry → History → Except IoError Unit → Prop} {snapshot : InterfaceSnapshot}
    (hheld : Held s snapshot) (hok : ∀ s' h', s.Drops snapshot.persisted_name s' → Q s' h' (.ok ()))
    (herror : ∀ h' e, Q s h' (.error e))
    (hlost : ∀ s' h' e, s.Drops snapshot.persisted_name s' → Lost h' snapshot.persisted_name → Q s' h' (.error e)) :
    Keeps Q s h (restore_snapshot snapshot) := by
  obtain ⟨policy, ⟨hdurable, -⟩, hc, -⟩ := hheld
  refine holds_bind (keeps_recovery_adapter (fun _ => herror _ _) (fun details adapter gateways hsame hmem => ?_)
    fun _ e => herror _ e)
  refine holds_bind (keeps_row (fun _ => herror _ _) (fun row _ _ _ => ?_) fun _ e => herror _ e)
  refine holds_bind (keeps_table (fun table htold _ => ?_) fun _ e => herror _ e)
  refine keeps_ofExcept (fun persisted hpersisted => ?_) fun e => herror _ e
  refine keeps_ofExcept (fun rows hrows => ?_) fun e => herror _ e
  obtain rfl : policy.routes = persisted := Except.ok.inj (hc.routes.symm.trans hpersisted)
  rw [← hc.family] at hrows htold ⊢
  rw [← hc.flag]
  have ht : Restoring s (⟨.GetIpForwardTable2 policy.family, table⟩ ::
      ⟨.GetIpInterfaceEntry adapter.interface_index policy.family, .ok row⟩ :: ⟨.GetAdaptersAddresses, .ok details⟩ :: h)
      snapshot.persisted_name policy adapter gateways table := by
    refine ⟨⟨true, hdurable⟩, by rw [hc.adapter]; exact hsame, ⟨details, ?_, hmem⟩, mem_recent_cons rfl, ?_, htold⟩
    · exact recent_subset_cons rfl (recent_subset_cons rfl (mem_recent_cons rfl))
    · simp [last_table]
  refine holds_bind (keeps_restore_routes (restores_snapshot rfl hrows) ht (fun h₁ h01 haccounted => ?_) herror)
  refine holds_bind (keeps_owned_flag (fun h₂ h12 hflag => ?_) herror)
  refine keeps_remove (fun entry hentry hname => ?_) hok herror hlost
  obtain rfl := Registry.unique hentry hdurable hname
  exact ⟨policy, adapter, rfl, ht.same, hflag, fun route hroute => (haccounted route hroute).mono h12⟩

theorem keeps_recover_policy {Q : Registry → History → Except IoError PolicyRecovery → Prop}
    (hentered : s.Entered name policy)
    (hok : ∀ h' outcome, (outcome = .Restored → ¬ s.Own policy.owner ∧ ∃ adapter, Undone h' policy adapter) →
      Q s h' (.ok outcome))
    (herror : ∀ h' e, Q s h' (.error e)) : Keeps Q s h (recover_policy policy) := by
  refine holds_bind (keeps_recovery_adapter (fun _ => hok _ _ fun heq => by cases heq)
    (fun details adapter gateways hsame hmem => ?_) fun _ e => herror _ e)
  refine holds_bind (keeps_row (fun _ => hok _ _ fun heq => by cases heq) (fun row _ _ _ => ?_) fun _ e => herror _ e)
  refine holds_bind (keeps_running (fun h₁ running h01 hrunning => ?_) fun h₁ e _ => herror h₁ e)
  show Keeps _ _ _ (ite _ _ _)
  split
  · exact hok _ _ fun heq => by cases heq
  · next hgone =>
    refine holds_bind (keeps_table (fun table htold _ => ?_) fun _ e => herror _ e)
    refine keeps_ofExcept (fun rows hrows => ?_) fun e => herror _ e
    have ht : Restoring s (⟨.GetIpForwardTable2 policy.family, table⟩ :: h₁) name policy adapter gateways table := by
      refine ⟨hentered, hsame, ⟨details, ?_, hmem⟩, mem_recent_cons rfl, by simp [last_table], htold⟩
      exact recent_subset_cons rfl (h01.recent (recent_subset_cons rfl (mem_recent_cons rfl)))
    refine holds_bind (keeps_restore_routes (restores_policy hrows) ht (fun h₂ h12 haccounted => ?_) herror)
    refine holds_bind (keeps_owned_flag (fun h₃ h23 hflag => ?_) herror)
    refine hok h₃ _ fun _ => ⟨fun hown => hgone (hrunning hown), adapter, hsame, hflag, fun route hroute => ?_⟩
    exact (haccounted route hroute).mono h23

/-- Policies of processes that are gone may have been recovered and removed; the running process's are untouched. -/
structure Registry.Recovers (s s' : Registry) : Prop where
  owner : s'.owner = s.owner
  written : s'.written = s.written
  entered : ∀ n p, s'.Entered n p → s.Entered n p
  own : ∀ n p, s.Own p.owner → s.Durable n p → s'.Durable n p

theorem Registry.Recovers.refl (s : Registry) : s.Recovers s := ⟨rfl, rfl, fun _ _ he => he, fun _ _ _ hd => hd⟩

theorem Registry.Recovers.trans {s' s'' : Registry} (h : s.Recovers s') (h' : s'.Recovers s'') : s.Recovers s'' where
  owner := h'.owner.trans h.owner
  written := h'.written.trans h.written
  entered := fun n p he => h.entered n p (h'.entered n p he)
  own := fun n p hown hd => h'.own n p (by rw [Own, h.owner]; exact hown) (h.own n p hown hd)

theorem recovers_drops {s' : Registry} (hentered : s.Entered name policy) (hgone : ¬ s.Own policy.owner)
    (hd : s.Drops name s') : s.Recovers s' where
  owner := hd.owner
  written := hd.written
  entered := fun n p he => ((hd.entered n p).1 he).1
  own := fun n p hown hdurable => by
    refine hd.durable n p hdurable ?_
    rintro rfl
    obtain ⟨_, hmem⟩ := hentered
    cases Registry.unique hmem hdurable rfl
    exact hgone hown

/-- Where no policy is left pending, and none has an owner that runs, all of them are gone. -/
theorem keeps_recover_each {Q : Registry → History → Except IoError (Nat × Nat × Bool) → Prop}
    {policies : List (String × PersistedPolicy)} {restored pending : Nat} {owner_running : Bool}
    (hentered : ∀ x ∈ policies, s.Entered x.1 x.2) (hnames : (policies.map (·.1)).Nodup)
    (hok : ∀ s' h' result, s.Recovers s' → (result.2.1 = 0 → result.2.2 = false →
      pending = 0 ∧ owner_running = false ∧ ∀ x ∈ policies, ∀ p, ¬ s'.Entered x.1 p) → Q s' h' (.ok result))
    (herror : ∀ s' h' e, s.Recovers s' → Q s' h' (.error e)) :
    Keeps Q s h (recover_each policies restored pending owner_running) := by
  induction policies generalizing s h restored pending owner_running Q with
  | nil => exact hok s h _ (.refl s) fun hpending hrunning => ⟨hpending, hrunning, fun x hx => by cases hx⟩
  | cons x policies ih =>
    obtain ⟨name, policy⟩ := x
    rw [List.map_cons, List.nodup_cons] at hnames
    have hfirst : s.Entered name policy := hentered _ List.mem_cons_self
    have hrest : ∀ x ∈ policies, s.Entered x.1 x.2 := fun x hx => hentered x (List.mem_cons_of_mem _ hx)
    refine holds_bind (keeps_recover_policy hfirst (fun h₁ outcome houtcome => ?_) fun h₁ e => herror s h₁ e (.refl s))
    -- one more pending policy, or one whose owner runs, cannot end as none
    cases outcome with
    | Deferred =>
      refine ih hrest hnames.2 (fun s' h' result hr hdone => hok s' h' result hr fun hpending hrunning => ?_) herror
      obtain ⟨hzero, -, -⟩ := hdone hpending hrunning
      cases hzero
    | OwnerStillRunning =>
      refine ih hrest hnames.2 (fun s' h' result hr hdone => hok s' h' result hr fun hpending hrunning => ?_) herror
      obtain ⟨-, hfalse, -⟩ := hdone hpending hrunning
      cases hfalse
    | Restored =>
      obtain ⟨hgone, adapter, hundone⟩ := houtcome rfl
      have hremoved : ∀ {s₁}, s.Drops name s₁ → s.Recovers s₁ := fun hd => recovers_drops hfirst hgone hd
      refine holds_bind (keeps_remove (fun entry hentry hname => ?_) (fun s₁ h₂ hd => ?_)
        (fun h' e => herror s h' e (.refl s)) fun s₁ h' e hd _ => herror s₁ h' e (hremoved hd))
      · obtain ⟨_, hmem⟩ := hfirst
        obtain rfl := Registry.unique hentry hmem hname
        exact ⟨policy, adapter, rfl, hundone⟩
      · have hrest' : ∀ x ∈ policies, s₁.Entered x.1 x.2 := by
          intro x hx
          refine (hd.entered x.1 x.2).2 ⟨hrest x hx, ?_⟩
          rintro rfl
          exact hnames.1 (List.mem_map.2 ⟨x, hx, rfl⟩)
        refine ih hrest' hnames.2 (fun s' h' result hr hdone => ?_) fun s' h' e hr =>
          herror s' h' e ((hremoved hd).trans hr)
        refine hok s' h' result ((hremoved hd).trans hr) fun hpending hrunning => ?_
        obtain ⟨hzero, hfalse, hall⟩ := hdone hpending hrunning
        refine ⟨hzero, hfalse, fun x hx p hentered => ?_⟩
        rcases List.mem_cons.1 hx with rfl | hx
        · exact ((hd.entered _ _).1 (hr.entered _ _ hentered)).2 rfl
        · exact hall x hx p hentered

theorem keeps_recover_policies {Q : Registry → History → Except IoError RecoveryOutcome → Prop}
    {policies : List (String × PersistedPolicy)} (hentered : ∀ x ∈ policies, s.Entered x.1 x.2)
    (hnames : (policies.map (·.1)).Nodup)
    (hok : ∀ s' h' outcome, s.Recovers s' → (outcome = .NothingToDo ∨ (∃ n, outcome = .Restored n) →
      ∀ x ∈ policies, ∀ p, ¬ s'.Entered x.1 p) → Q s' h' (.ok outcome))
    (herror : ∀ s' h' e, s.Recovers s' → Q s' h' (.error e)) : Keeps Q s h (recover_policies policies) := by
  refine holds_bind (keeps_recover_each hentered hnames (fun s' h' result hr hdone => ?_) herror)
  obtain ⟨restored, pending, owner_running⟩ := result
  refine hok s' h' _ hr fun houtcome => ?_
  cases owner_running with
  | true => simp at houtcome
  | false =>
    rcases Nat.eq_zero_or_pos pending with rfl | hpending
    · exact (hdone rfl rfl).2.2
    · simp [hpending] at houtcome

theorem listed_sublist (entries : List Entry) :
    ((entries.filterMap listed_policy).map (·.1)).Sublist (entries.map (·.name)) := by
  induction entries with
  | nil => exact .slnil
  | cons entry entries ih =>
    rw [List.filterMap_cons, List.map_cons]
    cases hlisted : listed_policy entry with
    | none => exact ih.cons _
    | some x =>
      rw [(listed_policy_some hlisted).1, List.map_cons]
      exact ih.cons_cons _

/-- What is read from the journal is in it, under names of its own. -/
theorem listed_entered (s : Registry) :
    (∀ x ∈ s.entries.filterMap listed_policy, s.Entered x.1 x.2) ∧
      ((s.entries.filterMap listed_policy).map (·.1)).Nodup := by
  constructor
  · intro x hx
    obtain ⟨⟨name, value, flushed⟩, hentry, hlisted⟩ := List.mem_filterMap.1 hx
    obtain ⟨rfl, rfl⟩ := listed_policy_some hlisted
    exact ⟨flushed, hentry⟩
  · exact s.names.sublist (listed_sublist s.entries)

theorem AsRead.aside {h' : History} (hr : AsRead h policy) (ha : Aside h h') : AsRead h' policy where
  flag := by
    obtain ⟨row, hlast, hflag⟩ := hr.flag
    exact ⟨row, (ha.last_row _ _).trans hlast, hflag⟩
  routes := by
    obtain ⟨table, hlast, hroutes⟩ := hr.routes
    exact ⟨table, (ha.last_table _).trans hlast, hroutes⟩

end

/-! ## Writing the journal -/

/-- The running process's policies are still there. -/
structure Registry.Spares (s s' : Registry) : Prop where
  owner : s'.owner = s.owner
  written : s.written ⊆ s'.written
  own : ∀ n p, s.Own p.owner → s.Durable n p → s'.Durable n p

section
variable {s : Registry} {h : History} {adapter : AdapterIdentity} {policy : PersistedPolicy} {family : ADDRESS_FAMILY}

theorem Registry.Spares.refl (s : Registry) : s.Spares s :=
  ⟨rfl, List.Subset.refl _, fun _ _ _ hd => hd⟩

theorem Registry.Spares.trans {s' s'' : Registry} (h : s.Spares s') (h' : s'.Spares s'') : s.Spares s'' where
  owner := h'.owner.trans h.owner
  written := List.Subset.trans h.written h'.written
  own := fun n p hown hd => h'.own n p (by rw [Own, h.owner]; exact hown) (h.own n p hown hd)

theorem Registry.Recovers.spares {s' : Registry} (h : s.Recovers s') : s.Spares s' :=
  ⟨h.owner, h.written ▸ List.Subset.refl _, h.own⟩

theorem spares_put {name : String} (hfree : ∀ entry ∈ s.entries, entry.name ≠ name) (policy : PersistedPolicy) :
    s.Spares (s.put name policy) where
  owner := rfl
  written := List.subset_cons_self _ _
  own := fun n p _ hd => List.mem_append_left _ (List.mem_filter.2 ⟨hd, by simpa using hfree _ hd⟩)

theorem spares_flush (s : Registry) : s.Spares s.flush where
  owner := rfl
  written := List.Subset.refl _
  own := fun _ _ _ hd => List.mem_map.2 ⟨_, hd, rfl⟩

theorem secured_put_flush (s : Registry) (name : String) (policy : PersistedPolicy) :
    (s.put name policy).flush.Secured name policy :=
  ⟨List.mem_map.2 ⟨_, List.mem_append_right _ (List.mem_singleton_self _), rfl⟩, List.mem_cons_self⟩

/-- A policy that is not in the journal yet is written under a name of its own. -/
theorem keeps_persist {Q : Registry → History → Except IoError String → Prop} (hread : AsRead h policy)
    (hnew : ¬ s.Entered (policy_name policy) policy)
    (hok : ∀ s' h', s.Spares s' → s'.Secured (policy_name policy) policy →
      (∀ entry ∈ s.entries, entry.name ≠ policy_name policy) → Q s' h' (.ok (policy_name policy)))
    (herror : ∀ s' h' e, s.Spares s' → Q s' h' (.error e)) : Keeps Q s h (persist_policy policy) := by
  refine holds_bind ?_
  refine keeps_any rfl fun r _ => ?_
  cases r with
  | error code => exact herror s _ _ (.refl s)
  | ok _ =>
    refine holds_bind (keeps_value (fun h₁ h01 hfree => ?_) (fun h₁ decoded entry _ hentry hname hvalue => ?_)
      fun h₁ e _ => herror s h₁ e (.refl s))
    · have hread₁ : AsRead h₁ policy := hread.aside (((Aside.refl h).cons rfl).trans h01)
      refine ⟨⟨hfree, hread₁⟩, fun r s₁ ha => ?_⟩
      cases r with
      | error code =>
        obtain ⟨-, rfl⟩ := ha
        exact herror _ _ _ (.refl _)
      | ok _ =>
        obtain ⟨-, rfl⟩ := ha
        have hput := spares_put hfree policy
        refine ⟨trivial, fun r s₂ hb => ?_⟩
        cases r with
        | error code =>
          obtain ⟨-, rfl⟩ := hb
          exact herror _ _ _ hput
        | ok _ =>
          obtain ⟨-, rfl⟩ := hb
          have hspares := hput.trans (spares_flush _)
          show Keeps _ _ _ (read_policy_value _ >>= _)
          refine holds_bind (keeps_value (fun h₂ _ _ => herror _ _ _ hspares) (fun h₂ decoded entry _ _ _ _ => ?_)
            fun h₂ e _ => herror _ _ _ hspares)
          cases decoded with
          | error e => exact herror _ _ _ hspares
          | ok written =>
            dsimp only
            split
            · exact hok _ _ hspares (secured_put_flush s _ policy) hfree
            · exact herror _ _ _ hspares
    · refine keeps_ofExcept (fun existing hexisting => ?_) fun e => herror s _ e (.refl s)
      split
      · next hsame =>
        refine absurd ⟨entry.flushed, ?_⟩ hnew
        rw [← hname, ← hsame, ← hexisting, ← hvalue]
        exact hentry
      · exact herror s _ _ (.refl s)

theorem policy_name_affixes (policy : PersistedPolicy) :
    starts_with (policy_name policy) POLICY_VALUE_PREFIX = true ∧
      ends_with (policy_name policy) POLICY_VALUE_SUFFIX = true := by
  constructor
  · rw [starts_with, policy_name, String.toList_append, String.toList_append, List.append_assoc, List.isPrefixOf_iff_prefix]
    exact List.prefix_append _ _
  · rw [ends_with, policy_name, String.toList_append, List.isSuffixOf_iff_suffix]
    exact List.suffix_append _ _

theorem mem_listed {name : String} (hstart : starts_with name POLICY_VALUE_PREFIX = true)
    (hend : ends_with name POLICY_VALUE_SUFFIX = true) (hentered : s.Entered name policy) :
    (name, policy) ∈ s.entries.filterMap listed_policy := by
  obtain ⟨_, hmem⟩ := hentered
  refine List.mem_filterMap.2 ⟨_, hmem, ?_⟩
  simp [listed_policy, hstart, hend]

/-- The snapshot is of the running process, durable, and under a name that no value had. -/
structure Fresh (s s' : Registry) (snapshot : InterfaceSnapshot) : Prop where
  spares : s.Spares s'
  held : Held s' snapshot
  free : ∀ n p, s.Own p.owner → s.Durable n p → n ≠ snapshot.persisted_name

theorem keeps_capture_current {Q : Registry → History → Except IoError (Option InterfaceSnapshot) → Prop}
    {binding : TetherBinding} {pid : UInt32} (hpid : pid = s.owner.pid)
    (hindex : adapter.interface_index = binding.interface_index)
    (hnew : ∀ p : PersistedPolicy, p.adapter = adapter → p.family = family → ¬ s.Entered (policy_name p) p)
    (hnone : ∀ h', Q s h' (.ok none))
    (hok : ∀ s' h' snapshot, Fresh s s' snapshot → Q s' h' (.ok (some snapshot)))
    (herror : ∀ s' h' e, s.Spares s' → Q s' h' (.error e)) : Keeps Q s h (capture_current pid binding adapter family) := by
  refine holds_bind (keeps_binding_adapter (fun _ _ _ => ?_) fun _ e => herror s _ e (.refl s))
  refine holds_bind (keeps_row (fun _ => hnone _) (fun row hrowindex hfamily hluid => ?_) fun _ e => herror s _ e (.refl s))
  refine holds_bind (keeps_table (fun table htold hluids => ?_) fun _ e => herror s _ e (.refl s))
  refine holds_bind (keeps_binding_adapter (fun r _ _ => ?_) fun _ e => herror s _ e (.refl s))
  refine holds_bind (keeps_current_owner hpid (fun h₁ owner h01 hown => ?_) fun h₁ e _ => herror s h₁ e (.refl s))
  refine keeps_ofExcept (fun routes hroutes => ?_) fun e => herror s _ e (.refl s)
  have hread : AsRead h₁ ⟨owner, adapter, family, row.DisableDefaultRoutes, routes⟩ := by
    refine ⟨⟨row, (h01.last_row _ _).trans (by simp [last_row]), rfl⟩, table, (h01.last_table _).trans ?_, hroutes⟩
    simp [last_table]
  refine holds_bind (keeps_persist hread (hnew _ rfl rfl) (fun s' h' hspares hsecured hfree => ?_) herror)
  have hown' : s'.Own owner := by rw [Registry.Own, hspares.owner]; exact hown
  refine hok s' h' _ ⟨hspares, ⟨_, hsecured, ⟨rfl, hindex.symm, rfl, rfl, hroutes, fun route hroute => ?_⟩, hown'⟩,
    fun n p _ hd => hfree _ hd⟩
  obtain ⟨found, rfl⟩ := mem_defaults hroute
  obtain ⟨hmem, hdefault⟩ := List.mem_filter.1 hroute
  rw [Windows.is_default_route, Bool.and_eq_true, decide_eq_true_eq, decide_eq_true_eq] at hdefault
  exact ⟨hdefault.1.trans hindex, hluids route hroute, hdefault.2, (htold found rfl).1 route hmem⟩

theorem keeps_capture {Q : Registry → History → Except IoError (Option InterfaceSnapshot) → Prop} {binding : TetherBinding}
    {pid : UInt32} (hpid : pid = s.owner.pid) (hnone : ∀ s' h', s.Spares s' → Q s' h' (.ok none))
    (hok : ∀ s' h' snapshot, Fresh s s' snapshot → Q s' h' (.ok (some snapshot)))
    (herror : ∀ s' h' e, s.Spares s' → Q s' h' (.error e)) : Keeps Q s h (capture_family pid binding family) := by
  refine holds_bind (keeps_binding_adapter (fun _ adapter hindex => ?_) fun _ e => herror s _ e (.refl s))
  refine holds_bind (keeps_persisted (fun h₁ _ => ?_) fun h₁ e _ => herror s h₁ e (.refl s))
  obtain ⟨hentered, hnames⟩ := listed_entered s
  refine holds_bind (keeps_recover_policies (fun x hx => hentered x (List.filter_sublist.subset hx))
    (hnames.sublist (List.filter_sublist.map _)) (fun s₁ h₂ outcome hr hdone => ?_) fun s₁ h₂ e hr =>
      herror s₁ h₂ e hr.spares)
  have hcapture : (outcome = .NothingToDo ∨ ∃ n, outcome = .Restored n) →
      Keeps Q s₁ h₂ (capture_current pid binding adapter family) := by
    intro houtcome
    refine keeps_capture_current (hpid.trans (congrArg _ hr.owner.symm)) hindex (fun p hadapter hfamily hp => ?_)
      (fun h' => hnone s₁ h' hr.spares) (fun s' h' snapshot hfresh => ?_) fun s' h' e hs =>
        herror s' h' e (hr.spares.trans hs)
    · -- every policy of this interface was removed, so there is none of the process itself
      obtain ⟨hstart, hend⟩ := policy_name_affixes p
      refine hdone houtcome (policy_name p, p) (List.mem_filter.2 ⟨mem_listed hstart hend (hr.entered _ _ hp), ?_⟩) p hp
      simp [hadapter, hfamily, same_recovery_adapter]
    · refine hok s' h' snapshot ⟨hr.spares.trans hfresh.spares, hfresh.held, fun n p hown hd => ?_⟩
      exact hfresh.free n p (by rw [Registry.Own, hr.owner]; exact hown) (hr.own n p hown hd)
  cases outcome with
  | Deferred restored pending => exact herror s₁ h₂ _ hr.spares
  | OwnerStillRunning => exact herror s₁ h₂ _ hr.spares
  | NothingToDo => exact hcapture (.inl rfl)
  | Restored n => exact hcapture (.inr ⟨n, rfl⟩)

end

/-! ## Applying -/

section
variable {s : Registry} {h : History} {snapshot : InterfaceSnapshot}

theorem same_instance_luid {expected actual : AdapterIdentity} (h : same_adapter_instance expected actual = true) :
    expected.luid = actual.luid := by
  rw [same_adapter_instance, same_recovery_adapter] at h
  simp only [Bool.and_eq_true, decide_eq_true_eq] at h
  exact h.1.1.2

/-- The interface of a snapshot that the journal holds. -/
structure Protects (s : Registry) (snapshot : InterfaceSnapshot) (adapter : AdapterIdentity) : Prop where
  held : Held s snapshot
  index : adapter.interface_index = snapshot.interface_index
  same : same_adapter_instance snapshot.adapter adapter = true

variable {adapter : AdapterIdentity}

theorem keeps_disable {Q : Registry → History → Except IoError Unit → Prop} {row : MIB_IPINTERFACE_ROW} {operation : String}
    (hp : Protects s snapshot adapter) (hrow : row.InterfaceIndex = adapter.interface_index)
    (hfamily : row.Family = snapshot.family) (hluid : row.InterfaceLuid = adapter.luid)
    (hok : ∀ h', Q s h' (.ok ())) (herror : ∀ h' e, Q s h' (.error e)) :
    Keeps Q s h (disable_default_routes row operation) := by
  obtain ⟨policy, hsecured, hc, -⟩ := hp.held
  have hcovered : ∀ h, Covered s h (.SetIpInterfaceEntry (prepare_interface_row_for_set row true)) := fun _ _ =>
    ⟨snapshot.persisted_name, policy, hsecured, by
      rw [hc.adapter, ← hc.index, ← hp.index]
      exact hrow.symm, by
      rw [hc.adapter, same_instance_luid hp.same]
      exact hluid.symm, hc.family.trans hfamily.symm⟩
  rw [disable_default_routes]
  split
  · exact hok h
  · refine keeps_call (hcovered h) rfl fun r _ => ?_
    cases r with
    | ok _ => exact hok _
    | error code => exact herror _ _

theorem keeps_verify {Q : Registry → History → Except IoError Unit → Prop} (hheld : Held s snapshot)
    (hok : ∀ h', Q s h' (.ok ())) (herror : ∀ h' e, Q s h' (.error e)) :
    Keeps Q s h (verify_enforced_snapshot snapshot) := by
  refine holds_bind (keeps_same_adapter (fun _ adapter hindex hsame => ?_) fun _ e => herror _ e)
  refine holds_bind (keeps_row (fun _ => herror _ _) (fun row hrow hfamily hluid => ?_) fun _ e => herror _ e)
  refine holds_bind (keeps_disable ⟨hheld, hindex, hsame⟩ hrow hfamily hluid (fun _ => ?_) herror)
  refine holds_bind (keeps_row (fun _ => herror _ _) (fun verified _ _ _ => ?_) fun _ e => herror _ e)
  show Keeps _ _ _ (ite _ _ _)
  split
  · exact herror _ _
  · refine holds_bind (keeps_table (fun table _ _ => ?_) fun _ e => herror _ e)
    show Keeps _ _ _ (ite _ _ _)
    split
    · exact herror _ _
    · exact hok _

theorem mem_of_mapM {α β : Type} {f : α → Option β} {xs : List α} {ys : List β} (h : xs.mapM f = some ys) {x : α}
    (hx : x ∈ xs) : ∃ y ∈ ys, f x = some y := by
  induction xs generalizing ys with
  | nil => cases hx
  | cons first xs ih =>
    rw [List.mapM_cons] at h
    obtain ⟨y, hy, h⟩ := Option.bind_eq_some_iff.1 h
    obtain ⟨rest, hrest, h⟩ := Option.bind_eq_some_iff.1 h
    obtain rfl := Option.some.inj h
    rcases List.mem_cons.1 hx with rfl | hx
    · exact ⟨y, List.mem_cons_self, hy⟩
    · obtain ⟨z, hz, hfz⟩ := ih hrest hx
      exact ⟨z, List.mem_cons_of_mem _ hz, hfz⟩

/-- Only captured routes are deleted. -/
theorem keeps_delete {Q : Registry → History → Except IoError Unit → Prop} {captured : List MIB_IPFORWARD_ROW2}
    (hp : Protects s snapshot adapter) (hcaptured : captured ⊆ snapshot.default_routes) (hok : ∀ h', Q s h' (.ok ()))
    (herror : ∀ h' e, Q s h' (.error e)) : Keeps Q s h (delete_captured adapter snapshot captured) := by
  induction captured generalizing h with
  | nil => exact hok h
  | cons route rest ih =>
    obtain ⟨policy, hsecured, hc, -⟩ := hp.held
    obtain ⟨hindex, hluid, hlength, hfamily⟩ := hc.rows route (hcaptured List.mem_cons_self)
    have hlisted : ∃ listed ∈ policy.routes, persist_route route = some listed := by
      have hroutes := hc.routes
      rw [persisted_routes] at hroutes
      split at hroutes
      · next persisted hpersisted =>
        rw [← Except.ok.inj hroutes]
        exact mem_of_mapM hpersisted (hcaptured List.mem_cons_self)
      · cases hroutes
    have hcovered : ∀ h, Covered s h (.DeleteIpForwardEntry2 route) := fun _ =>
      ⟨snapshot.persisted_name, policy, hsecured, ⟨by rw [hc.adapter, ← hc.index, hindex], by rw [hc.adapter, hluid],
        hc.family.trans hfamily.symm⟩, hlength, hlisted⟩
    refine keeps_ofExcept (fun expected _ => ?_) fun e => herror _ e
    refine holds_bind (keeps_table (fun table _ _ => ?_) fun _ e => herror _ e)
    refine keeps_ofExcept (fun current _ => ?_) fun e => herror _ e
    split
    · exact herror _ _
    · refine keeps_call (hcovered _) rfl fun r _ => ?_
      refine keeps_check (fun _ _ => ?_) fun e => herror _ e
      exact ih fun route hroute => hcaptured (List.mem_cons_of_mem _ hroute)

theorem keeps_apply {Q : Registry → History → Except IoError Unit → Prop} (hheld : Held s snapshot)
    (hok : ∀ h', Q s h' (.ok ())) (herror : ∀ h' e, Q s h' (.error e)) : Keeps Q s h (apply_snapshot snapshot) := by
  refine holds_bind (keeps_same_adapter (fun _ adapter hindex hsame => ?_) fun _ e => herror _ e)
  refine keeps_ofExcept (fun captured _ => ?_) fun e => herror _ e
  refine holds_bind (keeps_table (fun table _ _ => ?_) fun _ e => herror _ e)
  refine keeps_ofExcept (fun current _ => ?_) fun e => herror _ e
  split
  · exact herror _ _
  · refine holds_bind (keeps_row (fun _ => herror _ _) (fun row hrow hfamily hluid => ?_) fun _ e => herror _ e)
    refine holds_bind (keeps_disable ⟨hheld, hindex, hsame⟩ hrow hfamily hluid (fun _ => ?_) herror)
    refine holds_bind (keeps_delete ⟨hheld, hindex, hsame⟩ (List.Subset.refl _) (fun _ => ?_) herror)
    exact keeps_verify hheld hok herror

end

/-! ## Methods -/

/-- The journal holds the snapshots, apart from those whose removal was not flushed. -/
structure Kept (s : Registry) (lost : String → Prop) (snapshots : List InterfaceSnapshot) : Prop where
  each : ∀ snapshot ∈ snapshots, Held s snapshot ∨ lost snapshot.persisted_name
  names : (snapshots.map (·.persisted_name)).Nodup

/-- It holds all of them. -/
structure AllHeld (s : Registry) (snapshots : List InterfaceSnapshot) : Prop where
  each : ∀ snapshot ∈ snapshots, Held s snapshot
  names : (snapshots.map (·.persisted_name)).Nodup

theorem Held.spares {s s' : Registry} {snapshot : InterfaceSnapshot} (hh : Held s snapshot) (hs : s.Spares s') :
    Held s' snapshot := by
  obtain ⟨policy, ⟨hdurable, hwritten⟩, hc, hown⟩ := hh
  exact ⟨policy, ⟨hs.own _ _ hown hdurable, hs.written hwritten⟩, hc, by rw [Registry.Own, hs.owner]; exact hown⟩

theorem Held.drops {s s' : Registry} {snapshot : InterfaceSnapshot} {name : String} (hh : Held s snapshot)
    (hd : s.Drops name s') (hname : snapshot.persisted_name ≠ name) : Held s' snapshot := by
  obtain ⟨policy, ⟨hdurable, hwritten⟩, hc, hown⟩ := hh
  exact ⟨policy, ⟨hd.durable _ _ hdurable hname, hd.written ▸ hwritten⟩, hc, by rw [Registry.Own, hd.owner]; exact hown⟩

theorem Lost.suffix {h h' : History} {name : String} (hl : Lost h name) (hs : h <:+ h') : Lost h' name := by
  obtain ⟨code, h₂, h₁, rfl⟩ := hl
  obtain ⟨h₃, rfl⟩ := hs
  exact ⟨code, h₃ ++ h₂, h₁, (List.append_assoc ..).symm⟩

theorem keeps_suffix {α : Type} {Q : Registry → History → Except IoError α → Prop} {s : Registry} {h : History} {p : Io α}
    (hp : Keeps (fun s' h' r => h <:+ h' → Q s' h' r) s h p) : Keeps Q s h p :=
  holds_mono (holds_suffix (List.suffix_refl h) hp) (fun _ _ _ hd => hd) fun _ _ _ hq => hq.2 hq.1

section
variable {s : Registry} {h : History}

theorem keeps_rollback_each {Q : Registry → History → Except IoError (List InterfaceSnapshot × List IoError) → Prop}
    {before items failed : List InterfaceSnapshot} {errors : List IoError}
    (hbefore : ∀ snapshot ∈ before, Held s snapshot) (hitems : ∀ snapshot ∈ items, Held s snapshot)
    (hfailed : ∀ snapshot ∈ failed, Held s snapshot ∨ Lost h snapshot.persisted_name)
    (hnames : ((items ++ (before ++ failed)).map (·.persisted_name)).Nodup)
    (hok : ∀ s' h' left errors, s'.owner = s.owner → Kept s' (Lost h') (before ++ left) → Q s' h' (.ok (left, errors))) :
    Keeps Q s h (rollback_each restore_snapshot items failed errors) := by
  induction items generalizing s h failed errors with
  | nil =>
    refine hok s h failed errors rfl ⟨fun snapshot hmem => ?_, hnames⟩
    exact (List.mem_append.1 hmem).elim (fun hmem => .inl (hbefore _ hmem)) (hfailed snapshot)
  | cons item items ih =>
    have hheld := hitems item List.mem_cons_self
    have hrest : ∀ snapshot ∈ items, Held s snapshot := fun snapshot hmem => hitems snapshot (List.mem_cons_of_mem _ hmem)
    rw [List.cons_append, List.map_cons, List.nodup_cons] at hnames
    have hother : ∀ {snapshot}, snapshot ∈ items ++ (before ++ failed) → snapshot.persisted_name ≠ item.persisted_name := by
      intro snapshot hmem heq
      exact hnames.1 (List.mem_map.2 ⟨snapshot, hmem, heq⟩)
    have hagain : ((items ++ (before ++ item :: failed)).map (·.persisted_name)).Nodup := by
      have hperm : (items ++ (before ++ item :: failed)).Perm (item :: (items ++ (before ++ failed))) := by
        rw [← List.append_assoc, ← List.append_assoc]
        exact List.perm_middle
      exact (hperm.map _).nodup_iff.2 (List.nodup_cons.2 hnames)
    refine holds_bind (holds_attempt (keeps_suffix (keeps_restore_snapshot hheld (fun s' h' hd hs => ?_) (fun h' e hs => ?_)
      fun s' h' e hd hl hs => ?_)))
    · refine ih (fun snapshot hmem => ?_) (fun snapshot hmem => ?_) (fun snapshot hmem => ?_) hnames.2
        fun s'' h'' left errors howner => hok s'' h'' left errors (howner.trans hd.owner)
      · exact (hbefore _ hmem).drops hd (hother (by simp [hmem]))
      · exact (hrest _ hmem).drops hd (hother (by simp [hmem]))
      · exact (hfailed _ hmem).imp (fun hh => hh.drops hd (hother (by simp [hmem]))) fun hlost => hlost.suffix hs
    · refine ih hbefore hrest (fun snapshot hmem => ?_) hagain hok
      rcases List.mem_cons.1 hmem with rfl | hmem
      · exact .inl hheld
      · exact (hfailed _ hmem).imp_right fun hlost => hlost.suffix hs
    · refine ih (fun snapshot hmem => ?_) (fun snapshot hmem => ?_) (fun snapshot hmem => ?_) hagain
        fun s'' h'' left errors howner => hok s'' h'' left errors (howner.trans hd.owner)
      · exact (hbefore _ hmem).drops hd (hother (by simp [hmem]))
      · exact (hrest _ hmem).drops hd (hother (by simp [hmem]))
      · rcases List.mem_cons.1 hmem with rfl | hmem
        · exact .inr hl
        · exact (hfailed _ hmem).imp (fun hh => hh.drops hd (hother (by simp [hmem]))) fun hlost => hlost.suffix hs

theorem keeps_rollback {Q : Registry → History → Except IoError (List InterfaceSnapshot × List IoError) → Prop}
    {items : List InterfaceSnapshot} {start : Nat} (hk : AllHeld s items)
    (hok : ∀ s' h' left errors, s'.owner = s.owner → Kept s' (Lost h') left → Q s' h' (.ok (left, errors))) :
    Keeps Q s h (rollback_suffix items start restore_snapshot) := by
  have hbefore : ∀ snapshot ∈ items.take start, Held s snapshot := fun snapshot hmem =>
    hk.each _ (List.take_subset _ _ hmem)
  refine holds_bind (keeps_rollback_each hbefore (fun snapshot hmem => ?_) (fun snapshot hmem => by cases hmem) ?_
    fun s' h' left errors howner hkept => hok s' h' _ errors howner hkept)
  · exact hk.each _ (List.drop_subset _ _ (List.mem_reverse.1 hmem))
  · have hperm : ((items.drop start).reverse ++ (items.take start ++ [])).Perm items := by
      rw [List.append_nil]
      refine ((List.reverse_perm _).append_right _).trans (List.perm_append_comm.trans ?_)
      rw [List.take_append_drop]
    exact (hperm.map _).nodup_iff.2 hk.names

/-- What a method leaves. -/
def Leaves (s s' : Registry) (h' : History) (r : Except IoError (List InterfaceSnapshot × Except IoError Unit)) : Prop :=
  ∃ snapshots result, r = .ok (snapshots, result) ∧ s'.owner = s.owner ∧ Kept s' (Lost h') snapshots

theorem keeps_restore {snapshots : List InterfaceSnapshot} (hk : AllHeld s snapshots) :
    Keeps (Leaves s) s h (restore snapshots) :=
  holds_bind (keeps_rollback hk fun _ _ left _ howner hkept => ⟨left, _, rfl, howner, hkept⟩)

theorem AllHeld.kept {snapshots : List InterfaceSnapshot} (hk : AllHeld s snapshots) (lost : String → Prop) :
    Kept s lost snapshots :=
  ⟨fun snapshot hmem => .inl (hk.each snapshot hmem), hk.names⟩

theorem AllHeld.append {snapshots : List InterfaceSnapshot} {snapshot : InterfaceSnapshot} (hk : AllHeld s snapshots)
    (hheld : Held s snapshot) (hfree : ∀ other ∈ snapshots, other.persisted_name ≠ snapshot.persisted_name) :
    AllHeld s (snapshots ++ [snapshot]) where
  each := fun other hmem => (List.mem_append.1 hmem).elim (hk.each other) fun hmem => List.mem_singleton.1 hmem ▸ hheld
  names := by
    rw [List.map_append, List.map_singleton]
    refine List.nodup_append.2 ⟨hk.names, by simp, fun name hname name' hname' => ?_⟩
    obtain ⟨other, hmem, rfl⟩ := List.mem_map.1 hname
    rw [List.mem_singleton.1 hname']
    exact hfree other hmem

theorem keeps_verify_protected {Q : Registry → History → Except IoError Unit → Prop} {binding : TetherBinding}
    {snapshots : List InterfaceSnapshot} (hk : ∀ snapshot ∈ snapshots, Held s snapshot) (hok : ∀ h', Q s h' (.ok ()))
    (herror : ∀ h' e, Q s h' (.error e)) : Keeps Q s h (verify_protected binding snapshots) := by
  induction snapshots generalizing h with
  | nil => exact hok h
  | cons snapshot snapshots ih =>
    rw [verify_protected]
    split
    · exact herror h _
    · refine holds_bind (keeps_verify (hk _ List.mem_cons_self) (fun _ => ?_) herror)
      exact ih fun snapshot hmem => hk snapshot (List.mem_cons_of_mem _ hmem)

theorem keeps_families {pid : UInt32} {binding : TetherBinding} {protected_snapshots snapshots : List InterfaceSnapshot}
    {transaction_start : Nat} {families : List ADDRESS_FAMILY} {s₀ : Registry} (hpid : pid = s.owner.pid)
    (howner : s.owner = s₀.owner) (hk : AllHeld s snapshots) :
    Keeps (Leaves s₀) s h (protect_families pid binding protected_snapshots transaction_start families snapshots) := by
  induction families generalizing s h snapshots with
  | nil => exact ⟨snapshots, _, rfl, howner, hk.kept _⟩
  | cons family families ih =>
    have hkept : ∀ {s'}, s.Spares s' → AllHeld s' snapshots := fun hs =>
      ⟨fun snapshot hmem => (hk.each snapshot hmem).spares hs, hk.names⟩
    rw [protect_families]
    split
    · exact ih hpid howner hk
    · refine holds_bind (holds_attempt (keeps_capture hpid (fun s' h' hs => ?_) (fun s' h' snapshot hfresh => ?_)
        fun s' h' e hs => ?_))
      · exact ih (hpid.trans (congrArg _ hs.owner.symm)) (hs.owner.trans howner) (hkept hs)
      · have hall : AllHeld s' (snapshots ++ [snapshot]) := (hkept hfresh.spares).append hfresh.held fun other hmem => by
          obtain ⟨policy, ⟨hdurable, -⟩, -, hown⟩ := hk.each other hmem
          exact hfresh.free _ policy hown hdurable
        have howner' := hfresh.spares.owner.trans howner
        refine holds_bind (holds_attempt (keeps_apply hfresh.held (fun h'' => ?_) fun h'' e => ?_))
        · exact ih (hpid.trans (congrArg _ hfresh.spares.owner.symm)) howner' hall
        · exact holds_bind (keeps_rollback hall fun _ _ left _ ho hleft => ⟨left, _, rfl, ho.trans howner', hleft⟩)
      · exact holds_bind (keeps_rollback (hkept hs) fun _ _ left _ ho hleft =>
          ⟨left, _, rfl, ho.trans (hs.owner.trans howner), hleft⟩)

theorem keeps_protect {pid : UInt32} {binding : TetherBinding} {snapshots : List InterfaceSnapshot}
    (hpid : pid = s.owner.pid) (hk : AllHeld s snapshots) : Keeps (Leaves s) s h (protect_interface_inner pid binding snapshots) := by
  refine holds_bind (holds_attempt (keeps_verify_protected (fun snapshot hmem => ?_) (fun h' => ?_) fun h' e => ?_))
  · exact hk.each snapshot (List.mem_of_mem_filter hmem)
  · exact keeps_families hpid rfl hk
  · exact ⟨snapshots, _, rfl, rfl, hk.kept _⟩

theorem keeps_refresh {Q : Registry → History → Except IoError Unit → Prop} {snapshots : List InterfaceSnapshot}
    (hk : ∀ snapshot ∈ snapshots, Held s snapshot) (hq : ∀ h' r, Q s h' r) : Keeps Q s h (refresh snapshots) := by
  induction snapshots generalizing h with
  | nil => exact hq h _
  | cons snapshot snapshots ih =>
    refine holds_bind (keeps_verify (hk _ List.mem_cons_self) (fun _ => ?_) fun h' e => hq h' _)
    exact ih fun snapshot hmem => hk snapshot (List.mem_cons_of_mem _ hmem)

/-- Recovery in the running process spares its own. -/
theorem keeps_orphaned {Q : Registry → History → Except IoError RecoveryOutcome → Prop}
    (hq : ∀ s' h' r, s.Spares s' → Q s' h' r) : Keeps Q s h recover_orphaned_policy := by
  obtain ⟨hentered, hnames⟩ := listed_entered s
  refine holds_bind (keeps_persisted (fun h₁ _ => ?_) fun h₁ e _ => hq s h₁ _ (.refl s))
  exact keeps_recover_policies hentered hnames (fun s' h' _ hr _ => hq s' h' _ hr.spares)
    fun s' h' _ hr => hq s' h' _ hr.spares

end

end Trackpad.RoutePolicy
