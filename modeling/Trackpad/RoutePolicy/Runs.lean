import Trackpad.RoutePolicy.Windows
/-!
# The policy's calls, answered by Windows

What each function of the policy returns and leaves behind on a machine that answers every call. The lemmas
ending in `_run` say what happens, those ending in `_ok` what must have happened before a success.
-/

namespace Trackpad.RoutePolicy

open Calls Windows

variable {w w' w₁ : Windows} {adapter : AdapterIdentity} {family : ADDRESS_FAMILY} {snapshot : InterfaceSnapshot}

/-! ## Reading -/

theorem ofExcept_run {α : Type} {x : Except IoError α} {a : α} (h : (Prog.ofExcept x : Io α).run answer w = (.ok a, w')) :
    w' = w ∧ x = .ok a := by
  cases x with
  | error e => cases h
  | ok a =>
    cases h
    exact ⟨rfl, rfl⟩

theorem all_adapter_details_run (w : Windows) :
    all_adapter_details.run answer w = (.ok ((w.adapters.map fun adapter => (adapter, w.routed adapter.interface_index)).filter
      fun (identity, _) => identity.interface_index ≠ 0), w) := rfl

theorem interface_row_run (w : Windows) (interface_index : UInt32) (family : ADDRESS_FAMILY) :
    (interface_row interface_index family).run answer w = (.ok (w.interface interface_index family), w) := by
  rw [interface_row, Prog.run_attempted_bind]
  simp only [answer]
  cases w.interface interface_index family with
  | none => rfl
  | some row => rfl

theorem default_routes_run (w : Windows) (interface_index : UInt32) (family : ADDRESS_FAMILY) :
    (default_routes interface_index family).run answer w = (.ok (w.routes interface_index family), w) := rfl

theorem interface_row_for_adapter_run {row : MIB_IPINTERFACE_ROW} (hrow : w.interface adapter.interface_index family = some row)
    (hluid : row.InterfaceLuid = adapter.luid) :
    (interface_row_for_adapter adapter family).run answer w = (.ok (some row), w) := by
  rw [interface_row_for_adapter, Prog.run_bind_of_ok (interface_row_run w _ _), hrow]
  have hsame : same_interface adapter.interface_index family row = true := List.find?_some hrow
  rw [same_interface, Bool.and_eq_true, decide_eq_true_eq] at hsame
  simp only [interface_identity_matches, hsame.1, hluid, decide_true, Bool.and_self, if_true]
  rfl

theorem interface_row_for_adapter_ok {found : Option MIB_IPINTERFACE_ROW}
    (h : (interface_row_for_adapter adapter family).run answer w = (.ok found, w')) :
    w' = w ∧ w.interface adapter.interface_index family = found ∧ ∀ row, found = some row → row.InterfaceLuid = adapter.luid := by
  rw [interface_row_for_adapter, Prog.run_bind_of_ok (interface_row_run w _ _)] at h
  cases hrow : w.interface adapter.interface_index family with
  | none =>
    rw [hrow] at h
    cases h
    exact ⟨rfl, rfl, fun _ h => nomatch h⟩
  | some row =>
    rw [hrow] at h
    simp only [] at h
    split at h
    · next hmatches =>
      cases h
      rw [interface_identity_matches, Bool.and_eq_true, decide_eq_true_eq, decide_eq_true_eq] at hmatches
      refine ⟨rfl, rfl, fun row' hrow' => ?_⟩
      cases hrow'
      exact hmatches.2
    · cases h

theorem default_routes_for_adapter_run
    (hluid : ∀ route ∈ w.routes adapter.interface_index family, route.InterfaceLuid = adapter.luid) :
    (default_routes_for_adapter adapter family).run answer w =
      (.ok (w.routes adapter.interface_index family), w) := by
  rw [default_routes_for_adapter, Prog.run_bind_of_ok (default_routes_run w _ _)]
  have hall : (w.routes adapter.interface_index family).all
      (fun route => interface_identity_matches route.InterfaceIndex route.InterfaceLuid adapter) = true := by
    refine List.all_eq_true.2 fun route hroute => ?_
    have hdefault := (List.mem_filter.1 hroute).2
    rw [is_default_route, Bool.and_eq_true, decide_eq_true_eq] at hdefault
    simp [interface_identity_matches, hdefault.1, hluid route hroute]
  rw [if_pos hall]
  rfl

theorem default_routes_for_adapter_ok {found : List MIB_IPFORWARD_ROW2}
    (h : (default_routes_for_adapter adapter family).run answer w = (.ok found, w')) :
    w' = w ∧ found = w.routes adapter.interface_index family ∧ ∀ route ∈ found, route.InterfaceLuid = adapter.luid := by
  rw [default_routes_for_adapter, Prog.run_bind_of_ok (default_routes_run w _ _)] at h
  split at h
  · next hall =>
    cases h
    refine ⟨rfl, rfl, fun route hroute => ?_⟩
    have hmatches := List.all_eq_true.1 hall route hroute
    rw [interface_identity_matches, Bool.and_eq_true, decide_eq_true_eq, decide_eq_true_eq] at hmatches
    exact hmatches.2
  · cases h

theorem require_same_adapter_ok (h : (require_same_adapter snapshot).run answer w = (.ok adapter, w')) :
    w' = w ∧ adapter ∈ w.adapters ∧ adapter.interface_index = snapshot.interface_index ∧ adapter.interface_index ≠ 0 ∧
      same_adapter_instance snapshot.adapter adapter := by
  have hidentity : (adapter_identity snapshot.interface_index).run answer w = (.ok ((((w.adapters.map fun adapter =>
      (adapter, w.routed adapter.interface_index)).filter fun (identity, _) => identity.interface_index ≠ 0).find?
        fun (identity, _) => identity.interface_index = snapshot.interface_index).map (·.1)), w) := rfl
  rw [require_same_adapter, Prog.run_bind_of_ok hidentity] at h
  cases hfind : (((w.adapters.map fun adapter => (adapter, w.routed adapter.interface_index)).filter
      fun (identity, _) => identity.interface_index ≠ 0).find?
        fun (identity, _) => identity.interface_index = snapshot.interface_index) with
  | none => rw [hfind] at h; cases h
  | some found =>
    rw [hfind] at h
    simp only [Option.map_some] at h
    split at h
    · next hsame =>
      cases h
      have hindex : found.1.interface_index = snapshot.interface_index := by simpa using List.find?_some hfind
      have hmem := List.mem_filter.1 (List.mem_of_find?_eq_some hfind)
      obtain ⟨present, hpresent, rfl⟩ := List.mem_map.1 hmem.1
      exact ⟨rfl, hpresent, hindex, by simpa using hmem.2, hsame⟩
    · cases h

/-! ## Applying -/

theorem disable_default_routes_ok {row : MIB_IPINTERFACE_ROW} {operation : String}
    (h : (disable_default_routes row operation).run answer w = (.ok (), w')) :
    w' = { w with interfaces := w'.interfaces } := by
  rw [disable_default_routes] at h
  split at h
  · cases h
    rfl
  · rw [Prog.run_attempted_bind] at h
    simp only [answer] at h
    split at h
    · cases h
      rfl
    · cases h

theorem verify_enforced_snapshot_ok (h : (verify_enforced_snapshot snapshot).run answer w = (.ok (), w')) :
    w' = { w with interfaces := w'.interfaces } ∧
    ∃ adapter row, adapter ∈ w'.adapters ∧ adapter.interface_index = snapshot.interface_index ∧
      adapter.interface_index ≠ 0 ∧ same_adapter_instance snapshot.adapter adapter ∧
      w'.interface snapshot.interface_index snapshot.family = some row ∧ row.DisableDefaultRoutes = true ∧
      row.InterfaceLuid = adapter.luid ∧ w'.routes snapshot.interface_index snapshot.family = [] := by
  rw [verify_enforced_snapshot] at h
  obtain ⟨adapter, w₁, hrequire, h1⟩ := Prog.run_bind_ok h
  obtain ⟨rfl, hmem, hindex, hnonzero, hsame⟩ := require_same_adapter_ok hrequire
  obtain ⟨found, w₂, hrow, h2⟩ := Prog.run_bind_ok h1
  obtain ⟨rfl, -, -⟩ := interface_row_for_adapter_ok hrow
  cases found with
  | none => cases h2
  | some row₀ =>
    obtain ⟨_, w₃, hdisable, h3⟩ := Prog.run_bind_ok h2
    have hframe := disable_default_routes_ok hdisable
    obtain ⟨found, w₄, hrow, h4⟩ := Prog.run_bind_ok h3
    obtain ⟨rfl, hfound, hluid⟩ := interface_row_for_adapter_ok hrow
    cases found with
    | none => cases h4
    | some row =>
      simp only [] at h4
      split at h4
      · cases h4
      · next hflag =>
        obtain ⟨routes, w₅, hroutes, h5⟩ := Prog.run_bind_ok h4
        obtain ⟨rfl, rfl, -⟩ := default_routes_for_adapter_ok hroutes
        split at h5
        · cases h5
        · next hempty =>
          cases h5
          rw [hindex] at hfound hempty
          have hadapters : w'.adapters = w₂.adapters := by rw [hframe]
          exact ⟨hframe, adapter, row, hadapters ▸ hmem, hindex, hnonzero, hsame, hfound, by simpa using hflag,
            hluid row rfl, by simpa using hempty⟩

theorem delete_captured_ok {captured : List MIB_IPFORWARD_ROW2}
    (h : (delete_captured adapter snapshot captured).run answer w = (.ok (), w')) :
    w' = { w with table := w'.table } ∧ w'.table ⊆ w.table := by
  induction captured generalizing w with
  | nil =>
    cases h
    exact ⟨rfl, List.Subset.refl _⟩
  | cons route rest ih =>
    rw [delete_captured] at h
    obtain ⟨expected, w₁, hexpected, h1⟩ := Prog.run_bind_ok h
    obtain ⟨rfl, -⟩ := ofExcept_run hexpected
    obtain ⟨routes, w₂, hroutes, h2⟩ := Prog.run_bind_ok h1
    obtain ⟨rfl, -, -⟩ := default_routes_for_adapter_ok hroutes
    obtain ⟨current, w₃, hcurrent, h3⟩ := Prog.run_bind_ok h2
    obtain ⟨rfl, -⟩ := ofExcept_run hcurrent
    split at h3
    · cases h3
    · rw [Prog.run_attempted_bind] at h3
      simp only [answer] at h3
      split at h3
      · obtain ⟨hframe, hsubset⟩ := ih h3
        exact ⟨hframe, List.Subset.trans hsubset (List.filter_subset_self _)⟩
      · cases h3

/-! ## Gateways -/

def Windows.gateway_texts (w : Windows) (adapter_name name : String) : List (Option IpAddr) :=
  match (w.parameters adapter_name).bind (· name) with
  | some (.strings texts) => texts
  | _ => []

/-- The DHCP and the static gateways of an IPv4 interface. -/
def Windows.configured (w : Windows) (adapter : AdapterIdentity) (family : ADDRESS_FAMILY) : List IpAddr :=
  if family ≠ IPV4 || adapter.adapter_name = "" then []
  else add_gateways (add_gateways [] (w.gateway_texts adapter.adapter_name "DhcpDefaultGateway"))
    (w.gateway_texts adapter.adapter_name "DefaultGateway")

theorem read_registry_strings_run (w : Windows) (adapter_name name : String) :
    (read_registry_strings adapter_name name).run answer w = (.ok (w.gateway_texts adapter_name name), w) := by
  rw [read_registry_strings, Prog.run_attempted_bind]
  simp only [answer, gateway_texts]
  rcases hvalue : (w.parameters adapter_name).bind (· name) with - | value
  · rfl
  · cases value with
    | strings texts =>
      simp only [found]
      rw [Prog.run_attempted_bind]
      simp only [answer, hvalue]
      rfl
    | binary encoded => rfl
    | other => rfl

theorem configured_gateways_run (w : Windows) (adapter : AdapterIdentity) (family : ADDRESS_FAMILY) :
    (configured_gateways adapter family).run answer w = (.ok (w.configured adapter family), w) := by
  rw [configured_gateways, configured]
  split
  · rfl
  · rw [Prog.run_attempted_bind]
    simp only [answer]
    cases hkey : w.parameters adapter.adapter_name with
    | none => simp [found, gateway_texts, hkey, is_missing, add_gateways]
    | some values =>
      simp only [Option.map_some, found]
      rw [Prog.run_bind_of_ok (read_registry_strings_run w _ _), Prog.run_bind_of_ok (read_registry_strings_run w _ _)]
      rfl

theorem mem_add_gateways {gateways : List IpAddr} {texts : List (Option IpAddr)} {address : IpAddr} :
    address ∈ add_gateways gateways texts ↔
      address ∈ gateways ∨ (some address ∈ texts ∧ address.is_unspecified = false) := by
  induction texts generalizing gateways with
  | nil => simp [add_gateways]
  | cons text texts ih =>
    cases text with
    | none => simpa [add_gateways] using ih
    | some found =>
      have hstep : add_gateways gateways (some found :: texts) = add_gateways
          (if !found.is_unspecified && !gateways.contains found then gateways ++ [found] else gateways) texts := rfl
      rw [hstep, ih]
      split
      · next hnew =>
        simp only [Bool.and_eq_true, Bool.not_eq_true'] at hnew
        simp only [List.mem_append, List.mem_cons, Option.some.injEq]
        grind
      · next hnew =>
        simp only [Bool.and_eq_true, Bool.not_eq_true', not_and, Bool.not_eq_false, List.contains_iff_mem] at hnew
        simp only [List.mem_cons, Option.some.injEq]
        grind

/-! ## Restoring -/

variable {gateways configured : List IpAddr} {operation absent : String} {missing : List (Option IpAddr × MIB_IPFORWARD_ROW2)}

def available (gateways configured : List IpAddr) : Option IpAddr → Bool
  | some next_hop => classify_captured_gateway next_hop gateways configured = .Available
  | none => false

/-- The rows of `missing` that are created. -/
def created (gateways configured : List IpAddr) (missing : List (Option IpAddr × MIB_IPFORWARD_ROW2)) :
    List MIB_IPFORWARD_ROW2 :=
  (missing.filter fun x => available gateways configured x.1).map (·.2)

theorem create_missing_run {interface_index : UInt32}
    (hconfirmed : ∀ x ∈ missing, ∃ hop, x.1 = some hop ∧ classify_captured_gateway hop gateways configured ≠ .Unconfirmed)
    (hfresh : ∀ x ∈ missing, ∀ route ∈ w.table, route_key route ≠ route_key x.2)
    (hkeys : (missing.map fun x => route_key x.2).Nodup) :
    (create_missing interface_index gateways configured operation missing).run answer w =
      (.ok ((created gateways configured missing).map route_key),
        { w with table := w.table ++ created gateways configured missing }) := by
  induction missing generalizing w with
  | nil => simp [create_missing, created]
  | cons x missing ih =>
    obtain ⟨hop?, row⟩ := x
    obtain ⟨hop, rfl, hclass⟩ := hconfirmed (hop?, row) List.mem_cons_self
    have hrest := fun x hx => hconfirmed x (List.mem_cons_of_mem _ hx)
    rw [List.map_cons, List.nodup_cons] at hkeys
    obtain ⟨hnew, hkeys⟩ := hkeys
    rw [create_missing]
    cases hgateway : classify_captured_gateway hop gateways configured with
    | Unconfirmed => exact absurd hgateway hclass
    | Stale =>
      have hcreated : created gateways configured ((some hop, row) :: missing) = created gateways configured missing := by
        simp [created, available, hgateway]
      rw [hcreated]
      exact ih hrest (fun x hx => hfresh x (List.mem_cons_of_mem _ hx)) hkeys
    | Available =>
      have hcreated : created gateways configured ((some hop, row) :: missing) =
          row :: created gateways configured missing := by
        simp [created, available, hgateway]
      have hany : w.table.any (fun route => route_key route = route_key row) = false := by
        refine List.any_eq_false.2 fun route hroute => ?_
        simpa using hfresh (some hop, row) List.mem_cons_self route hroute
      simp only []
      rw [Prog.run_attempted_bind]
      simp only [answer, hany, Bool.false_eq_true, if_false]
      rw [Prog.run_bind_of_ok (ih (w := { w with table := w.table ++ [row] }) hrest ?_ hkeys), hcreated]
      · simp
      · intro x hx route hroute
        rcases List.mem_append.1 hroute with hroute | hroute
        · exact hfresh x (List.mem_cons_of_mem _ hx) route hroute
        · rw [List.mem_singleton.1 hroute]
          exact fun heq => hnew (List.mem_map.2 ⟨x, hx, heq.symm⟩)

/-- An unconfirmed gateway ends the restoration. -/
theorem create_missing_ok {interface_index : UInt32} {keys : List RouteKey}
    (h : (create_missing interface_index gateways configured operation missing).run answer w = (.ok keys, w')) :
    ∀ x ∈ missing, ∃ hop, x.1 = some hop ∧ classify_captured_gateway hop gateways configured ≠ .Unconfirmed := by
  induction missing generalizing w w' keys with
  | nil => exact fun x hx => nomatch hx
  | cons x missing ih =>
    obtain ⟨hop?, row⟩ := x
    cases hop? with
    | none => cases h
    | some hop =>
      rw [create_missing] at h
      have hcons : classify_captured_gateway hop gateways configured ≠ .Unconfirmed →
          (∀ x ∈ missing, ∃ hop, x.1 = some hop ∧ classify_captured_gateway hop gateways configured ≠ .Unconfirmed) →
          ∀ x ∈ (some hop, row) :: missing, ∃ hop, x.1 = some hop ∧
            classify_captured_gateway hop gateways configured ≠ .Unconfirmed := by
        intro hclass hrest x hx
        rcases List.mem_cons.1 hx with rfl | hx
        · exact ⟨hop, rfl, hclass⟩
        · exact hrest x hx
      cases hgateway : classify_captured_gateway hop gateways configured with
      | Unconfirmed => rw [hgateway] at h; cases h
      | Stale =>
        rw [hgateway] at h
        exact hcons (by rw [hgateway]; decide) (ih h)
      | Available =>
        rw [hgateway] at h
        simp only [] at h
        rw [Prog.run_attempted_bind] at h
        simp only [answer] at h
        split at h
        · split at h
          · cases h
          · obtain ⟨keys', w₂, hrest, -⟩ := Prog.run_bind_ok h
            exact hcons (by rw [hgateway]; decide) (ih hrest)
        · obtain ⟨keys', w₂, hrest, -⟩ := Prog.run_bind_ok h
          exact hcons (by rw [hgateway]; decide) (ih hrest)

section
variable {original : List (Option IpAddr × MIB_IPFORWARD_ROW2)}

/-- Rows of the interface, which has no default routes left. -/
structure Recreatable (w : Windows) (adapter : AdapterIdentity) (family : ADDRESS_FAMILY)
    (original : List (Option IpAddr × MIB_IPFORWARD_ROW2)) : Prop where
  none_left : w.routes adapter.interface_index family = []
  keys : (original.map fun x => route_key x.2).Nodup
  rows : ∀ x ∈ original, x.2.InterfaceIndex = adapter.interface_index ∧ x.2.InterfaceLuid = adapter.luid ∧
    x.2.PrefixLength = 0 ∧ x.2.Prefix.si_family = family

theorem routes_append (w : Windows) (rows : List MIB_IPFORWARD_ROW2) (interface_index : UInt32) (family : ADDRESS_FAMILY) :
    ({ w with table := w.table ++ rows } : Windows).routes interface_index family =
      w.routes interface_index family ++
        (rows.filter fun route => route.Prefix.si_family = family).filter (is_default_route interface_index) := by
  simp [Windows.routes]

theorem Recreatable.fresh (h : Recreatable w adapter family original) :
    ∀ x ∈ original, ∀ route ∈ w.table, route_key route ≠ route_key x.2 := by
  intro x hx route hroute hkey
  obtain ⟨hindex, -, hlength, hfamily⟩ := h.rows x hx
  have hmem : route ∈ w.routes adapter.interface_index family := by
    have hi : route.InterfaceIndex = x.2.InterfaceIndex := congrArg RouteKey.interface_index hkey
    have hl : route.PrefixLength = x.2.PrefixLength := congrArg RouteKey.prefix_length hkey
    have hf : route.Prefix.si_family = x.2.Prefix.si_family := congrArg RouteKey.family hkey
    refine List.mem_filter.2 ⟨List.mem_filter.2 ⟨hroute, by simp [hf, hfamily]⟩, ?_⟩
    simp [is_default_route, hi, hl, hindex, hlength]
  rw [h.none_left] at hmem
  cases hmem

theorem Recreatable.routes_created (h : Recreatable w adapter family original) (gateways configured : List IpAddr) :
    ({ w with table := w.table ++ created gateways configured original } : Windows).routes
      adapter.interface_index family = created gateways configured original := by
  have hrow : ∀ route ∈ created gateways configured original,
      route.InterfaceIndex = adapter.interface_index ∧ route.PrefixLength = 0 ∧ route.Prefix.si_family = family := by
    intro route hroute
    obtain ⟨x, hx, rfl⟩ := List.mem_map.1 hroute
    obtain ⟨hindex, -, hlength, hfamily⟩ := h.rows x (List.mem_filter.1 hx).1
    exact ⟨hindex, hlength, hfamily⟩
  rw [routes_append, h.none_left, List.nil_append, List.filter_filter, List.filter_eq_self.2]
  intro route hroute
  obtain ⟨hindex, hlength, hfamily⟩ := hrow route hroute
  simp [is_default_route, hindex, hlength, hfamily]

theorem recreate_routes_run (h : Recreatable w adapter family original)
    (hconfirmed : ∀ x ∈ original, ∃ hop, x.1 = some hop ∧
      classify_captured_gateway hop gateways (w.configured adapter family) ≠ .Unconfirmed) :
    (recreate_routes adapter family gateways original [] operation).run answer w =
      (.ok ((created gateways (w.configured adapter family) original).map route_key),
        { w with table := w.table ++ created gateways (w.configured adapter family) original }) := by
  have hmissing : (List.range (original.map fun x => route_key x.2).length).filterMap (original[·]?) = original := by
    rw [List.length_map]
    exact range_items original
  rw [recreate_routes, List.map_nil, missing_original_nil]
  simp only []
  rw [Prog.run_bind_of_ok (configured_gateways_run w _ _), hmissing]
  exact create_missing_run hconfirmed h.fresh h.keys

theorem restore_routes_run (h : Recreatable w adapter family original)
    (hconfirmed : ∀ x ∈ original, ∃ hop, x.1 = some hop ∧
      classify_captured_gateway hop gateways (w.configured adapter family) ≠ .Unconfirmed) :
    (restore_routes adapter family gateways original [] operation absent).run answer w =
      (.ok (), { w with table := w.table ++ created gateways (w.configured adapter family) original }) := by
  rw [restore_routes, Prog.run_bind_of_ok (recreate_routes_run h hconfirmed)]
  split
  · rfl
  · rw [Prog.run_bind_of_ok (default_routes_for_adapter_run ?_)]
    · rw [h.routes_created]
      have hfound : ((created gateways (w.configured adapter family) original).map route_key).find?
          (fun key => !((created gateways (w.configured adapter family) original).map route_key).contains key) = none := by
        refine List.find?_eq_none.2 fun key hkey => ?_
        simpa using hkey
      simp only [hfound]
      rfl
    · rw [h.routes_created]
      intro route hroute
      obtain ⟨x, hx, rfl⟩ := List.mem_map.1 hroute
      exact (h.rows x (List.mem_filter.1 hx).1).2.1

end

theorem find_replace {T : Type} {p : T → Bool} {l : List T} {old new : T} (hold : l.find? p = some old) (hnew : p new = true) :
    (l.map fun x => if p x then new else x).find? p = some new := by
  induction l with
  | nil => cases hold
  | cons x l ih =>
    by_cases hx : p x = true
    · simp [hx, hnew]
    · rw [List.find?_cons_of_neg (by simpa using hx)] at hold
      simp [hx, ih hold]

/-- The flag the policy set is undone, and only that. -/
theorem restore_owned_interface_flag_run {row : MIB_IPINTERFACE_ROW} (original : Bool)
    (hrow : w.interface adapter.interface_index family = some row) (hluid : row.InterfaceLuid = adapter.luid)
    (hset : row.DisableDefaultRoutes = true) :
    ∃ interfaces, (restore_owned_interface_flag adapter family original).run answer w =
        (.ok (), { w with interfaces := interfaces }) ∧
      (({ w with interfaces := interfaces } : Windows).interface adapter.interface_index family).map
        (·.DisableDefaultRoutes) = some original := by
  have hsame : same_interface adapter.interface_index family row = true := List.find?_some hrow
  have hkey : row.InterfaceIndex = adapter.interface_index ∧ row.Family = family := by
    simpa [same_interface] using hsame
  cases original with
  | true =>
    refine ⟨w.interfaces, ?_, ?_⟩
    · rw [restore_owned_interface_flag, Prog.run_bind_of_ok (interface_row_for_adapter_run hrow hluid)]
      simp [should_restore_owned_flag]
    · exact (congrArg (Option.map (·.DisableDefaultRoutes)) hrow).trans (by rw [Option.map_some, hset])
  | false =>
    obtain ⟨new, hnew⟩ : ∃ new, new = prepare_interface_row_for_set row false := ⟨_, rfl⟩
    have hnewkey : new.InterfaceIndex = adapter.interface_index ∧ new.Family = family := by rw [hnew]; exact hkey
    have hany : w.interfaces.any (same_interface new.InterfaceIndex new.Family) = true := by
      rw [hnewkey.1, hnewkey.2]
      exact List.any_eq_true.2 ⟨row, List.mem_of_find?_eq_some hrow, hsame⟩
    have hfound : (w.interfaces.map fun old => if same_interface new.InterfaceIndex new.Family old then new else old).find?
        (same_interface adapter.interface_index family) = some new := by
      rw [hnewkey.1, hnewkey.2]
      exact find_replace hrow (by simp [same_interface, hnewkey.1, hnewkey.2])
    refine ⟨w.interfaces.map fun old => if same_interface new.InterfaceIndex new.Family old then new else old, ?_, ?_⟩
    · subst hnew
      rw [restore_owned_interface_flag, Prog.run_bind_of_ok (interface_row_for_adapter_run hrow hluid)]
      simp only [hset, should_restore_owned_flag, Bool.not_false, Bool.and_self, if_true]
      rw [restore_interface_flag, Prog.run_bind_of_ok (interface_row_for_adapter_run hrow hluid)]
      simp only [hset, Bool.true_eq_false, if_false]
      rw [Prog.run_attempted_bind]
      simp only [answer, hany, if_true, check_win32]
      have hrow' : ({ w with interfaces := _ } : Windows).interface adapter.interface_index family = some _ := hfound
      rw [Prog.ok_bind, Prog.run_bind_of_ok (interface_row_for_adapter_run hrow' hluid)]
      rfl
    · refine (congrArg (Option.map (·.DisableDefaultRoutes)) hfound).trans ?_
      rw [hnew]
      rfl

theorem remove_policy_value_run (name : String) (h : (w.entry name).isSome) :
    ∃ journal, (remove_policy_value name).run answer w = (.ok (), { w with journal := journal }) ∧
      ({ w with journal := journal } : Windows).entry name = none := by
  obtain ⟨entries, hjournal⟩ : ∃ entries, w.journal = some entries := by
    cases hj : w.journal with
    | none => rw [Windows.entry, Windows.entries, hj] at h; cases h
    | some entries => exact ⟨entries, rfl⟩
  refine ⟨some ((entries.filter fun entry => entry.name ≠ name).map ({ · with flushed := true })), ?_, ?_⟩
  · have hopen : open_policy_key.run answer w = (.ok true, w) := by
      rw [open_policy_key, Prog.run_attempted_bind]
      simp only [answer, hjournal]
      rfl
    rw [remove_policy_value, Prog.run_bind_of_ok hopen]
    simp only [Bool.not_true, Bool.false_eq_true, if_false]
    rw [Prog.run_attempted_bind]
    simp only [answer, h, if_true, hjournal]
    rfl
  · rw [Windows.entry, Windows.entries, Option.getD_some]
    refine List.find?_eq_none.2 fun entry hentry => ?_
    obtain ⟨kept, hkept, rfl⟩ := List.mem_map.1 hentry
    simpa using (List.mem_filter.1 hkept).2

/-! ## The journal -/

theorem require_binding_adapter_ok {binding : TetherBinding}
    (h : (require_binding_adapter binding).run answer w = (.ok adapter, w')) :
    w' = w ∧ adapter.interface_index = binding.interface_index := by
  have hidentity : (adapter_identity binding.interface_index).run answer w = (.ok ((((w.adapters.map fun adapter =>
      (adapter, w.routed adapter.interface_index)).filter fun (identity, _) => identity.interface_index ≠ 0).find?
        fun (identity, _) => identity.interface_index = binding.interface_index).map (·.1)), w) := rfl
  rw [require_binding_adapter, Prog.run_bind_of_ok hidentity] at h
  cases hfind : (((w.adapters.map fun adapter => (adapter, w.routed adapter.interface_index)).filter
      fun (identity, _) => identity.interface_index ≠ 0).find?
        fun (identity, _) => identity.interface_index = binding.interface_index) with
  | none => rw [hfind] at h; cases h
  | some found =>
    rw [hfind] at h
    simp only [Option.map_some] at h
    split at h
    · cases h
      exact ⟨rfl, by simpa using List.find?_some hfind⟩
    · cases h

theorem read_policy_value_ok {name : String} {value : Option (Except IoError PersistedPolicy)}
    (h : (read_policy_value name).run answer w = (.ok value, w')) : w' = w ∧ (value.isSome → (w.entry name).isSome) := by
  rw [read_policy_value, Prog.run_attempted_bind] at h
  simp only [answer] at h
  cases hentry : w.entry name with
  | none =>
    rw [hentry] at h
    simp only [Option.map_none, found] at h
    split at h
    · cases h
      exact ⟨rfl, fun hsome => nomatch hsome⟩
    · cases h
  | some entry =>
    rw [hentry] at h
    refine ⟨?_, fun _ => rfl⟩
    simp only [Option.map_some, found] at h
    cases hvalue : entry.value with
    | strings texts => rw [hvalue] at h; cases h
    | other => rw [hvalue] at h; cases h
    | binary encoded =>
      rw [hvalue] at h
      simp only [] at h
      rw [Prog.run_attempted_bind] at h
      simp only [answer, hentry, Option.map_some, found, hvalue, check_win32, Prog.ok_bind] at h
      cases h
      rfl

theorem persist_policy_ok {policy : PersistedPolicy} {name : String}
    (h : (persist_policy policy).run answer w = (.ok name, w')) :
    w' = { w with journal := w'.journal } ∧ (w'.entry name).isSome := by
  rw [persist_policy, create_policy_key, Prog.bind_assoc, Prog.run_attempted_bind] at h
  simp only [answer, check_win32, Prog.ok_bind] at h
  obtain ⟨value, w₁, hread, h1⟩ := Prog.run_bind_ok h
  obtain ⟨rfl, hsome⟩ := read_policy_value_ok hread
  cases value with
  | some existing =>
    obtain ⟨decoded, w₂, hdecode, h2⟩ := Prog.run_bind_ok h1
    obtain ⟨rfl, -⟩ := ofExcept_run hdecode
    split at h2
    · cases h2
      exact ⟨rfl, hsome rfl⟩
    · cases h2
  | none =>
    simp only [] at h1
    rw [Prog.run_attempted_bind] at h1
    simp only [answer, Prog.ok_bind] at h1
    rw [Prog.run_attempted_bind] at h1
    simp only [answer, Prog.ok_bind] at h1
    obtain ⟨value, w₂, hread, h2⟩ := Prog.run_bind_ok h1
    obtain ⟨rfl, hsome⟩ := read_policy_value_ok hread
    cases value with
    | none => cases h2
    | some value =>
      cases value with
      | error e => cases h2
      | ok written =>
        simp only [] at h2
        split at h2
        · cases h2
          exact ⟨rfl, hsome rfl⟩
        · cases h2

end Trackpad.RoutePolicy
