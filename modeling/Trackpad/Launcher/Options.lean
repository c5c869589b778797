import Trackpad.Canonical
import Trackpad.Lib.Text
/-!
# The arguments of the host

The launcher checks what the user chose and starts the host with it as arguments, which the host checks anew. A budget for
warnings is a float: what `parse` makes of it is a parameter.
-/

namespace Trackpad

inductive Platform
  | Windows
  | Linux
deriving DecidableEq

namespace Console

open Text

/-! ## The host -/

inductive Mode
  | Touch
  | Keys
  | Record
deriving DecidableEq

/-- `TransportKind::parse` -/
def parse_transport (value : List Char) : Option TransportKind :=
  if value = "usb".toList then some .Usb else if value = "wifi".toList then some .Wifi else none

structure Options (F : Type) where
  mode : Mode
  lane_keys : List (List Char)
  spawn_probe : Bool
  target_title : List Char
  udp_port : Nat
  metrics : Bool
  metrics_file : Option (List Char)
  warning_budget_ms : F
  local_only_tether : Bool
  pair : Bool
  legacy_v4 : Bool
  transport : Option TransportKind
  repress_gap : Option Nat
deriving DecidableEq

inductive OptionsError
  | Message (text : List Char)
  | UnknownMode (value : List Char)
  | UnknownTransport (value : List Char)
  | UnknownOption (value : List Char)
  | ParseInt
  | ParseFloat
  /-- `--help` prints the usage and exits. -/
  | Help
deriving DecidableEq

def message (text : String) : OptionsError := .Message text.toList

def DEFAULT_UDP_PORT : Nat := 42825

def default_mode : Platform → Mode
  | .Windows => .Touch
  | .Linux => .Keys

variable {F : Type} (platform : Platform) (default_budget : F) (parse_f64 : List Char → Option F) (positive : F → Bool)

def Options.default : Options F where
  mode := default_mode platform
  lane_keys := ["s", "d", "f", "j", "k", "l"].map String.toList
  spawn_probe := true
  target_title := "Holodori Touch Probe".toList
  udp_port := DEFAULT_UDP_PORT
  metrics := false
  metrics_file := none
  warning_budget_ms := default_budget
  local_only_tether := false
  pair := false
  legacy_v4 := false
  transport := none
  repress_gap := none

def parse_mode (value : List Char) : Except OptionsError Mode :=
  if value = "touch".toList then
    match platform with
    | .Windows => .ok .Touch
    | .Linux => .error (message "--mode touch is Windows-only")
  else if value = "keys".toList then .ok .Keys
  else if value = "record".toList then .ok .Record
  else .error (.UnknownMode value)

/-- An option that needs a value: what it makes of the value, and what is said without one. -/
def with_value (value : List Char) (o : Options F) (option : List Char) : Option (Except OptionsError (Options F)) :=
  if option = "--mode".toList then
    some ((parse_mode platform value).map fun mode => { o with mode := mode })
  else if option = "--lanes".toList then
    let lane_keys := fields value
    some (if lane_keys.isEmpty || decide (16 < lane_keys.length) then .error (message "--lanes requires 1 to 16 keys")
      else .ok { o with lane_keys := lane_keys })
  else if option = "--target-title".toList then
    some (.ok { o with target_title := value, spawn_probe := false })
  else if option = "--udp-port".toList then
    some (match parse_unsigned (2 ^ 16) value with
      | none => .error .ParseInt
      | some port =>
        if port = 0 then .error (message "--udp-port must be between 1 and 65535") else .ok { o with udp_port := port })
  else if option = "--transport".toList then
    some (match parse_transport value with
      | none => .error (.UnknownTransport value)
      | some transport => .ok { o with transport := some transport })
  else if option = "--metrics-file".toList then
    some (.ok { o with metrics := true, metrics_file := some value })
  else if option = "--repress-gap-ms".toList then
    some (match parse_unsigned (2 ^ 64) value with
      | none => .error .ParseInt
      | some milliseconds =>
        if 1 ≤ milliseconds ∧ milliseconds ≤ 2 then .ok { o with repress_gap := some milliseconds }
        else .error (message "--repress-gap-ms must be 1 or 2"))
  else if option = "--warn-ms".toList then
    some (match parse_f64 value with
      | none => .error .ParseFloat
      | some milliseconds =>
        if positive milliseconds then .ok { o with warning_budget_ms := milliseconds }
        else .error (message "--warn-ms must be positive"))
  else none

/-- What is said of an option at the end that needs a value. -/
def missing_value (option : List Char) : Option OptionsError :=
  if option = "--mode".toList then some (message "--mode needs touch, keys, or record")
  else if option = "--lanes".toList then some (message "--lanes needs a comma list")
  else if option = "--target-title".toList then some (message "--target-title needs a value")
  else if option = "--udp-port".toList then some (message "--udp-port needs a value")
  else if option = "--transport".toList then some (message "--transport needs usb or wifi")
  else if option = "--metrics-file".toList then some (message "--metrics-file needs a path")
  else if option = "--repress-gap-ms".toList then some (message "--repress-gap-ms needs milliseconds")
  else if option = "--warn-ms".toList then some (message "--warn-ms needs milliseconds")
  else none

/-- An option that stands alone. -/
def flag (o : Options F) (option : List Char) : Except OptionsError (Options F) :=
  if option = "--no-probe".toList then .ok { o with spawn_probe := false }
  else if option = "--metrics".toList then .ok { o with metrics := true }
  else if option = "--pair".toList then .ok { o with pair := true }
  else if option = "--legacy-v4".toList then .ok { o with legacy_v4 := true }
  else if option = "--local-only-tether".toList then .ok { o with local_only_tether := true }
  else if option = "--help".toList ∨ option = "-h".toList then .error .Help
  else .error (.UnknownOption option)

/-- The loop over `arguments.next()`. -/
def parse_arguments : List (List Char) → Options F → Except OptionsError (Options F)
  | [], o => .ok o
  | [option], o =>
    match missing_value option with
    | some e => .error e
    | none => flag o option
  | option :: value :: rest, o =>
    match with_value platform parse_f64 positive value o option with
    | some (.ok o) => parse_arguments rest o
    | some (.error e) => .error e
    | none =>
      match flag o option with
      | .ok o => parse_arguments (value :: rest) o
      | .error e => .error e

/-- What does not go together. -/
def check_options (o : Options F) : Except OptionsError (Options F) :=
  if o.pair && o.legacy_v4 then .error (message "--pair cannot be combined with --legacy-v4")
  else if o.legacy_v4 && (o.transport.any fun transport => transport != .Usb) then
    .error (message "protocol v4 is available only over explicit USB transport")
  else if !o.legacy_v4 && o.transport.isNone then
    .error (message "protocol v5 requires --transport usb or --transport wifi")
  else
    let o := if o.legacy_v4 then { o with transport := some .Usb } else o
    if o.local_only_tether && o.transport != some .Usb then .error (message "--local-only-tether requires --transport usb")
    else .ok o

def parse_options (arguments : List (List Char)) : Except OptionsError (Options F) :=
  (parse_arguments platform parse_f64 positive arguments (.default platform default_budget)).bind check_options

/-! ## Options one by one -/

section

variable {platform parse_f64 positive} {o o' : Options F} {option value : List Char} {rest : List (List Char)}

theorem parse_value (h : with_value platform parse_f64 positive value o option = some (.ok o')) :
    parse_arguments platform parse_f64 positive (option :: value :: rest) o =
      parse_arguments platform parse_f64 positive rest o' := by
  rw [parse_arguments, h]

theorem parse_value_error {e : OptionsError} (h : with_value platform parse_f64 positive value o option = some (.error e)) :
    parse_arguments platform parse_f64 positive (option :: value :: rest) o = .error e := by
  rw [parse_arguments, h]

/-- The options that stand alone. -/
def FLAGS : List (List Char) :=
  ["--no-probe", "--metrics", "--pair", "--legacy-v4", "--local-only-tether", "--help", "-h"].map String.toList

theorem flag_alone (h : option ∈ FLAGS) : missing_value option = none := by
  revert option
  decide

theorem flag_without_value (h : option ∈ FLAGS) (value : List Char) (o : Options F) :
    with_value platform parse_f64 positive value o option = none := by
  have hnone := flag_alone h
  have hne : ∀ other : List Char, (missing_value other).isSome → option ≠ other := by
    rintro other hsome rfl
    rw [hnone] at hsome
    cases hsome
  unfold with_value
  rw [if_neg (hne _ (by decide)), if_neg (hne _ (by decide)), if_neg (hne _ (by decide)), if_neg (hne _ (by decide)),
    if_neg (hne _ (by decide)), if_neg (hne _ (by decide)), if_neg (hne _ (by decide)), if_neg (hne _ (by decide))]

theorem parse_flag (hmem : option ∈ FLAGS) (h : flag o option = .ok o') :
    parse_arguments platform parse_f64 positive (option :: rest) o = parse_arguments platform parse_f64 positive rest o' := by
  cases rest with
  | nil => simp only [parse_arguments, flag_alone hmem, h]
  | cons value rest => rw [parse_arguments, flag_without_value hmem, h]

end

end Console

namespace Launcher

open Text

/-! ## The launcher -/

def DEFAULT_WARNING_BUDGET_MS : List Char := "8.333".toList
def REPRESS_GAP_MS : List Char := "2".toList
def USB_TETHER_UDP_PORT : Nat := 42825

/-- The arguments of `start_host`. -/
structure StartRequest where
  keys : List Char
  metrics : Bool
  local_only_tether : Bool
  transport : List Char
  legacy_v4 : Bool
  separate_represses : Bool
deriving DecidableEq

def validate_transport (transport : List Char) : Except (List Char) (List Char) :=
  if transport = "usb".toList ∨ transport = "wifi".toList then .ok transport
  else .error "Choose USB or Wi-Fi / local network.".toList

/-- What `start_host` asks of its arguments. -/
def StartRequest.check (r : StartRequest) : Except (List Char) (List Char) :=
  (validate_transport r.transport).bind fun transport =>
    if r.local_only_tether ∧ transport ≠ "usb".toList then .error "Local-only tethering requires the USB transport.".toList
    else if r.legacy_v4 ∧ transport ≠ "usb".toList then .error "Protocol v4 is available only over USB.".toList
    else .ok transport

/-- The keys the launcher lets go of for a host that did not. -/
def StartRequest.lane_keys (r : StartRequest) : List (List Char) := fields r.keys

/-- The `Command` of `start_host`. -/
def StartRequest.arguments (r : StartRequest) : List (List Char) :=
  ["--mode".toList, "keys".toList, "--lanes".toList, r.keys, "--udp-port".toList, Nat.toDigits 10 USB_TETHER_UDP_PORT,
    "--transport".toList, r.transport, "--warn-ms".toList, DEFAULT_WARNING_BUDGET_MS] ++
  (if r.legacy_v4 then ["--legacy-v4".toList] else []) ++
  (if r.metrics then ["--metrics".toList] else []) ++
  (if r.separate_represses then ["--repress-gap-ms".toList, REPRESS_GAP_MS] else []) ++
  (if r.local_only_tether then ["--local-only-tether".toList] else [])

/-- The `Command` of `begin_pairing`. -/
def pairing_arguments (transport : List Char) : List (List Char) :=
  ["--pair".toList, "--transport".toList, transport, "--udp-port".toList, Nat.toDigits 10 USB_TETHER_UDP_PORT]

/-! ## What the host makes of them -/

section

variable {F : Type} {platform : Platform} {default_budget budget : F} {parse_f64 : List Char → Option F} {positive : F → Bool}

/-- What the host is to run with. -/
def StartRequest.options (platform : Platform) (budget : F) (r : StartRequest) : Console.Options F :=
  { Console.Options.default platform budget with
    mode := .Keys
    lane_keys := r.lane_keys
    metrics := r.metrics
    local_only_tether := r.local_only_tether
    legacy_v4 := r.legacy_v4
    transport := Console.parse_transport r.transport
    repress_gap := if r.separate_represses then some 2 else none }

/-- The lanes a host takes. -/
def StartRequest.Playable (r : StartRequest) : Prop := 1 ≤ r.lane_keys.length ∧ r.lane_keys.length ≤ 16

instance (r : StartRequest) : Decidable r.Playable := inferInstanceAs (Decidable (_ ∧ _))

open Console

theorem parse_mode_keys (rest : List (List Char)) (o : Options F) :
    parse_arguments platform parse_f64 positive ("--mode".toList :: "keys".toList :: rest) o =
      parse_arguments platform parse_f64 positive rest { o with mode := .Keys } := by
  refine parse_value ?_
  rw [with_value, if_pos rfl]
  rfl

theorem parse_port (rest : List (List Char)) (o : Options F) :
    parse_arguments platform parse_f64 positive ("--udp-port".toList :: Nat.toDigits 10 USB_TETHER_UDP_PORT :: rest) o =
      parse_arguments platform parse_f64 positive rest { o with udp_port := USB_TETHER_UDP_PORT } := by
  refine parse_value ?_
  rw [with_value, if_neg (by decide), if_neg (by decide), if_neg (by decide), if_pos rfl, parse_decimal (by decide)]
  rfl

theorem parse_budget (hbudget : parse_f64 DEFAULT_WARNING_BUDGET_MS = some budget) (hpositive : positive budget = true)
    (rest : List (List Char)) (o : Options F) :
    parse_arguments platform parse_f64 positive ("--warn-ms".toList :: DEFAULT_WARNING_BUDGET_MS :: rest) o =
      parse_arguments platform parse_f64 positive rest { o with warning_budget_ms := budget } := by
  refine parse_value ?_
  rw [with_value, if_neg (by decide), if_neg (by decide), if_neg (by decide), if_neg (by decide), if_neg (by decide),
    if_neg (by decide), if_neg (by decide), if_pos rfl, hbudget]
  dsimp only
  rw [if_pos hpositive]

theorem parse_gap (rest : List (List Char)) (o : Options F) :
    parse_arguments platform parse_f64 positive ("--repress-gap-ms".toList :: REPRESS_GAP_MS :: rest) o =
      parse_arguments platform parse_f64 positive rest { o with repress_gap := some 2 } := by
  have hgap : parse_unsigned (2 ^ 64) REPRESS_GAP_MS = some 2 := by decide
  refine parse_value ?_
  rw [with_value, if_neg (by decide), if_neg (by decide), if_neg (by decide), if_neg (by decide), if_neg (by decide),
    if_neg (by decide), if_pos rfl, hgap]
  rfl

/-- Arguments that are there under a condition. -/
theorem parse_if (condition : Bool) {arguments : List (List Char)} {set : Options F → Options F}
    (h : ∀ rest o, parse_arguments platform parse_f64 positive (arguments ++ rest) o =
      parse_arguments platform parse_f64 positive rest (set o)) (rest : List (List Char)) (o : Options F) :
    parse_arguments platform parse_f64 positive ((if condition then arguments else []) ++ rest) o =
      parse_arguments platform parse_f64 positive rest (if condition then set o else o) := by
  cases condition with
  | false => rfl
  | true => exact h rest o

theorem parse_flag_if (condition : Bool) {option : List Char} (hmem : option ∈ FLAGS) {set : Options F → Options F}
    (h : ∀ o, flag o option = .ok (set o)) (rest : List (List Char)) (o : Options F) :
    parse_arguments platform parse_f64 positive ((if condition then [option] else []) ++ rest) o =
      parse_arguments platform parse_f64 positive rest (if condition then set o else o) :=
  parse_if condition (fun _ o => parse_flag hmem (h o)) rest o

/-- The arguments after the lanes and the transport. -/
theorem parse_switches (r : StartRequest) (o : Options F) (hlegacy : o.legacy_v4 = false) (hmetrics : o.metrics = false)
    (hgap : o.repress_gap = none) (htether : o.local_only_tether = false) :
    parse_arguments platform parse_f64 positive ((if r.legacy_v4 then ["--legacy-v4".toList] else []) ++
      ((if r.metrics then ["--metrics".toList] else []) ++
      ((if r.separate_represses then ["--repress-gap-ms".toList, REPRESS_GAP_MS] else []) ++
      ((if r.local_only_tether then ["--local-only-tether".toList] else []) ++ [])))) o =
    .ok { o with
      legacy_v4 := r.legacy_v4
      metrics := r.metrics
      repress_gap := if r.separate_represses then some 2 else none
      local_only_tether := r.local_only_tether } := by
  have hlegacy_flag : ∀ o : Options F, flag o "--legacy-v4".toList = .ok { o with legacy_v4 := true } := fun o => by
    rw [flag, if_neg (by decide), if_neg (by decide), if_neg (by decide), if_pos rfl]
  have hmetrics_flag : ∀ o : Options F, flag o "--metrics".toList = .ok { o with metrics := true } := fun o => by
    rw [flag, if_neg (by decide), if_pos rfl]
  have htether_flag : ∀ o : Options F, flag o "--local-only-tether".toList = .ok { o with local_only_tether := true } :=
    fun o => by
      rw [flag, if_neg (by decide), if_neg (by decide), if_neg (by decide), if_neg (by decide), if_pos rfl]
  rw [parse_flag_if _ (by decide) hlegacy_flag, parse_flag_if _ (by decide) hmetrics_flag,
    parse_if r.separate_represses (fun rest o => parse_gap rest o), parse_flag_if _ (by decide) htether_flag, parse_arguments]
  obtain ⟨keys, metrics, local_only_tether, transport, legacy_v4, separate_represses⟩ := r
  obtain ⟨mode, lanes, spawn_probe, target_title, port, metrics', file, warning, tether', pair, legacy', transport', gap'⟩ := o
  dsimp only at hlegacy hmetrics hgap htether
  subst hlegacy hmetrics hgap htether
  cases metrics <;> cases local_only_tether <;> cases legacy_v4 <;> cases separate_represses <;> rfl

theorem parse_lanes_ok {keys : List Char} (h : 1 ≤ (fields keys).length ∧ (fields keys).length ≤ 16) (rest : List (List Char))
    (o : Options F) :
    parse_arguments platform parse_f64 positive ("--lanes".toList :: keys :: rest) o =
      parse_arguments platform parse_f64 positive rest { o with lane_keys := fields keys } := by
  have hempty : (fields keys).isEmpty = false := by
    rw [List.isEmpty_eq_false_iff, ← List.length_pos_iff]
    exact h.1
  have hmany : decide (16 < (fields keys).length) = false := decide_eq_false (Nat.not_lt.2 h.2)
  refine parse_value ?_
  rw [with_value, if_neg (by decide), if_pos rfl]
  dsimp only
  rw [hempty, hmany]
  rfl

theorem parse_lanes_error {keys : List Char} (h : ¬(1 ≤ (fields keys).length ∧ (fields keys).length ≤ 16))
    (rest : List (List Char)) (o : Options F) :
    parse_arguments platform parse_f64 positive ("--lanes".toList :: keys :: rest) o =
      .error (message "--lanes requires 1 to 16 keys") := by
  have hlanes : ((fields keys).isEmpty || decide (16 < (fields keys).length)) = true := by
    rw [Bool.or_eq_true, decide_eq_true_eq, List.isEmpty_iff_length_eq_zero]
    omega
  refine parse_value_error ?_
  rw [with_value, if_neg (by decide), if_pos rfl]
  dsimp only
  rw [if_pos hlanes]

theorem parse_transport_ok {transport : List Char} {kind : TransportKind} (h : parse_transport transport = some kind)
    (rest : List (List Char)) (o : Options F) :
    parse_arguments platform parse_f64 positive ("--transport".toList :: transport :: rest) o =
      parse_arguments platform parse_f64 positive rest { o with transport := some kind } := by
  refine parse_value ?_
  rw [with_value, if_neg (by decide), if_neg (by decide), if_neg (by decide), if_neg (by decide), if_pos rfl, h]

theorem parse_transport_error {transport : List Char} (h : parse_transport transport = none) (rest : List (List Char))
    (o : Options F) :
    parse_arguments platform parse_f64 positive ("--transport".toList :: transport :: rest) o =
      .error (.UnknownTransport transport) := by
  refine parse_value_error ?_
  rw [with_value, if_neg (by decide), if_neg (by decide), if_neg (by decide), if_neg (by decide), if_pos rfl, h]

/-! ## The two programs agree -/

theorem validate_ok {transport : List Char} {kind : TransportKind} (h : parse_transport transport = some kind) :
    validate_transport transport = .ok transport ∧ (transport = "usb".toList ↔ kind = .Usb) := by
  unfold parse_transport at h
  split at h
  · next husb =>
    cases h
    exact ⟨if_pos (.inl husb), ⟨fun _ => rfl, fun _ => husb⟩⟩
  · next husb =>
    split at h
    · next hwifi =>
      cases h
      exact ⟨if_pos (.inr hwifi), ⟨fun h => absurd h husb, fun h => (by cases h)⟩⟩
    · cases h

theorem validate_error {transport : List Char} (h : parse_transport transport = none) :
    ∃ e, validate_transport transport = .error e := by
  unfold parse_transport at h
  split at h
  · cases h
  · next husb =>
    split at h
    · cases h
    · next hwifi => exact ⟨_, if_neg (not_or.2 ⟨husb, hwifi⟩)⟩

theorem validated {transport transport' : List Char} (h : validate_transport transport = .ok transport') :
    ∃ kind, parse_transport transport' = some kind := by
  unfold validate_transport at h
  split at h
  · next hnamed =>
    cases h
    rcases hnamed with rfl | rfl
    · exact ⟨.Usb, rfl⟩
    · exact ⟨.Wifi, rfl⟩
  · cases h

theorem check_iff (r : StartRequest) : (∃ transport, r.check = .ok transport) ↔
    ∃ kind, parse_transport r.transport = some kind ∧ (r.local_only_tether → kind = .Usb) ∧ (r.legacy_v4 → kind = .Usb) := by
  cases hkind : parse_transport r.transport with
  | none =>
    obtain ⟨e, he⟩ := validate_error hkind
    simp [StartRequest.check, he, Except.bind]
  | some kind =>
    obtain ⟨hok, husb⟩ := validate_ok hkind
    simp only [StartRequest.check, hok, Except.bind, ne_eq, husb]
    by_cases htether : r.local_only_tether = true ∧ kind ≠ .Usb
    · rw [if_pos htether]
      refine ⟨fun ⟨_, h⟩ => (by cases h), fun ⟨kind', heq, h, _⟩ => ?_⟩
      cases heq
      exact absurd (h htether.1) htether.2
    · by_cases hlegacy : r.legacy_v4 = true ∧ kind ≠ .Usb
      · rw [if_neg htether, if_pos hlegacy]
        refine ⟨fun ⟨_, h⟩ => (by cases h), fun ⟨kind', heq, _, h⟩ => ?_⟩
        cases heq
        exact absurd (h hlegacy.1) hlegacy.2
      · rw [if_neg htether, if_neg hlegacy]
        simp only [not_and, ne_eq, not_not] at htether hlegacy
        exact ⟨fun _ => ⟨kind, rfl, htether, hlegacy⟩, fun _ => ⟨_, rfl⟩⟩

/-- What the host checks of the combination. -/
theorem check_options_some {o : Options F} {kind : TransportKind} (hpair : o.pair = false) (htransport : o.transport = some kind) :
    check_options o =
      if o.legacy_v4 ∧ kind ≠ .Usb then .error (message "protocol v4 is available only over explicit USB transport")
      else if o.local_only_tether ∧ kind ≠ .Usb then .error (message "--local-only-tether requires --transport usb")
      else .ok o := by
  obtain ⟨mode, lanes, spawn_probe, target_title, port, metrics, file, warning, tether, pair, legacy, transport, gap⟩ := o
  dsimp only at hpair htransport
  subst hpair htransport
  cases kind <;> cases tether <;> cases legacy <;> rfl

/-- The host's options are what the launcher was asked for. -/
theorem parse_controller (hbudget : parse_f64 DEFAULT_WARNING_BUDGET_MS = some budget) (hpositive : positive budget = true)
    (r : StartRequest) : parse_options platform default_budget parse_f64 positive r.arguments =
      if ¬r.Playable then .error (message "--lanes requires 1 to 16 keys")
      else if (parse_transport r.transport).isNone then .error (.UnknownTransport r.transport)
      else check_options (r.options platform budget) := by
  have harguments : r.arguments = "--mode".toList :: "keys".toList :: "--lanes".toList :: r.keys ::
      "--udp-port".toList :: Nat.toDigits 10 USB_TETHER_UDP_PORT :: "--transport".toList :: r.transport ::
      "--warn-ms".toList :: DEFAULT_WARNING_BUDGET_MS :: ((if r.legacy_v4 then ["--legacy-v4".toList] else []) ++
      ((if r.metrics then ["--metrics".toList] else []) ++
      ((if r.separate_represses then ["--repress-gap-ms".toList, REPRESS_GAP_MS] else []) ++
      ((if r.local_only_tether then ["--local-only-tether".toList] else []) ++ [])))) := by
    rw [List.append_nil, StartRequest.arguments]
    simp only [List.cons_append, List.nil_append, List.append_assoc]
  rw [parse_options, harguments, parse_mode_keys]
  by_cases hlanes : r.Playable
  · rw [if_neg (not_not.2 hlanes), parse_lanes_ok hlanes, parse_port]
    cases hkind : parse_transport r.transport with
    | none =>
      rw [parse_transport_error hkind]
      rfl
    | some kind =>
      have hset : ∀ o : Options F, o = r.options platform budget →
          (Except.ok o).bind check_options = check_options (r.options platform budget) := by
        rintro _ rfl
        rfl
      rw [parse_transport_ok hkind, parse_budget hbudget hpositive, parse_switches r, show (some kind).isNone = false from rfl,
        if_neg Bool.false_ne_true]
      · refine hset _ ?_
        dsimp only [StartRequest.options, StartRequest.lane_keys, Options.default, DEFAULT_UDP_PORT, USB_TETHER_UDP_PORT]
        rw [hkind]
      all_goals rfl
  · rw [if_pos hlanes, parse_lanes_error hlanes]
    rfl

/-- The launcher starts no host that rejects its arguments, but for the number of the lanes, and the host runs with what the
user chose. The keys that the launcher would let go of are the host's lanes. -/
theorem controller_options (hbudget : parse_f64 DEFAULT_WARNING_BUDGET_MS = some budget) (hpositive : positive budget = true)
    (r : StartRequest) :
    ((∃ o, parse_options platform default_budget parse_f64 positive r.arguments = .ok o) ↔
      (∃ transport, r.check = .ok transport) ∧ r.Playable) ∧
    ∀ o, parse_options platform default_budget parse_f64 positive r.arguments = .ok o →
      o = r.options platform budget ∧ o.lane_keys = r.lane_keys := by
  rw [parse_controller hbudget hpositive, check_iff]
  by_cases hlanes : r.Playable
  · rw [if_neg (not_not.2 hlanes)]
    cases hkind : parse_transport r.transport with
    | none => simp
    | some kind =>
      have hchecked : check_options (r.options platform budget) = _ := check_options_some rfl hkind
      rw [hchecked, if_neg (by simp)]
      have hlegacy : (r.options platform budget).legacy_v4 = r.legacy_v4 := rfl
      have htether : (r.options platform budget).local_only_tether = r.local_only_tether := rfl
      rw [hlegacy, htether]
      split
      · next h => simp [h]
      · next h =>
        split
        · next h' => simp [h']
        · next h' =>
          simp only [not_and, ne_eq, not_not] at h h'
          refine ⟨⟨fun _ => ⟨⟨kind, rfl, h', h⟩, hlanes⟩, fun _ => ⟨_, rfl⟩⟩, fun o ho => ?_⟩
          cases ho
          exact ⟨rfl, rfl⟩
  · rw [if_pos hlanes]
    simp [hlanes]

end

/-- Two lanes over USB, with blanks around the second one. -/
def two_lanes : StartRequest := ⟨"s, d,".toList, true, true, "usb".toList, false, true⟩

/-- The number in thousandths. -/
def thousandths (value : List Char) : Option Nat := if value = DEFAULT_WARNING_BUDGET_MS then some 8333 else none

theorem controller_options_two_lanes :
    ∃ o, Console.parse_options .Linux 8333 thousandths (fun n => decide (0 < n)) two_lanes.arguments = .ok o ∧
      o = two_lanes.options .Linux 8333 ∧ o.lane_keys = ["s".toList, "d".toList] := by
  have hcheck : two_lanes.check = .ok "usb".toList := by decide
  have hplayable : two_lanes.Playable := by decide
  have hlanes : two_lanes.lane_keys = ["s".toList, "d".toList] := by decide
  obtain ⟨hiff, hoptions⟩ := @controller_options Nat .Linux 8333 8333 thousandths (fun n => decide (0 < n)) (by decide)
    (by decide) two_lanes
  obtain ⟨o, ho⟩ := hiff.2 ⟨⟨_, hcheck⟩, hplayable⟩
  exact ⟨o, ho, (hoptions o ho).1, (hoptions o ho).2.trans hlanes⟩

/-- A pairing runs with what the user chose. -/
theorem pairing_options {F : Type} (platform : Platform) (default_budget : F) (parse_f64 : List Char → Option F)
    (positive : F → Bool) {transport : List Char} {kind : TransportKind} (hkind : Console.parse_transport transport = some kind) :
    Console.parse_options platform default_budget parse_f64 positive (pairing_arguments transport) =
      .ok { Console.Options.default platform default_budget with pair := true, transport := some kind } := by
  have hpair : ∀ o : Console.Options F, Console.flag o "--pair".toList = .ok { o with pair := true } := fun o => by
    rw [Console.flag, if_neg (by decide), if_neg (by decide), if_pos rfl]
  rw [Console.parse_options, pairing_arguments, Console.parse_flag (by decide) (hpair _), parse_transport_ok hkind, parse_port,
    Console.parse_arguments]
  have hchecked : ∀ o : Console.Options F, o.pair = true → o.legacy_v4 = false → o.local_only_tether = false →
      o.transport = some kind → Console.check_options o = .ok o := by
    rintro ⟨mode, lanes, spawn_probe, target_title, port, metrics, file, warning, tether, pair, legacy, transport, gap⟩
    rintro rfl rfl rfl rfl
    cases kind <;> rfl
  exact hchecked _ rfl rfl rfl rfl

end Launcher
end Trackpad
