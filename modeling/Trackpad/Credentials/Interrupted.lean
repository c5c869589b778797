import Trackpad.Credentials.Store
import Mathlib.Data.List.Forall2
/-!
# Saves that stop half way

A save may fail at any call or stop between two of them. What it does to the file goes to the cache, which stays when the
process stops. When the machine stops, what is left is what the OS has written back by then or `sync_all` has made durable.
The file is emptied before it is written, so a save that stops in between leaves a record that DPAPI refuses.
-/

namespace Trackpad.CredentialStore

open Calls

/-! ## The files -/

abbrev Files := PathBuf → Option Bytes

/-- What a call may answer, and do to the files. A write that fails has written nothing. -/
def Platform.Answers (p : Platform) (s : Files) : (op : Op) → Except FileError (Ret op) → Files → Prop
  | .read path, .ok bytes, s' => s path = some bytes ∧ s' = s
  | .read path, .error e, s' => (e.not_found = true → s path = none) ∧ s' = s
  | .CryptData true input entropy, .ok output, s' => p.Protects input entropy output ∧ s' = s
  | .CryptData false input entropy, .ok output, s' => p.CryptUnprotectData input entropy = .ok output ∧ s' = s
  | .open_truncated path, .ok _, s' => s' = Function.update s path (some [])
  | .write path bytes, .ok n, s' =>
    n ≤ bytes.length ∧ s' = Function.update s path (some ((s path).getD [] ++ bytes.take n))
  | _, _, s' => s' = s

/-- The first bytes of a file, some of them perhaps still zero. -/
def Partly (bytes whole : Bytes) : Prop := ∃ n, List.Forall₂ (fun b w => b = w ∨ b = 0) bytes (whole.take n)

/-- The files as calls see them, and as they are after the machine stopped. -/
structure Disk where
  cached : Files
  durable : Files

/-- The OS writes back a file, or what it comes to of it. -/
structure WriteBack where
  path : PathBuf
  bytes : Bytes

/-- `sync_all` returns once the file is durable; no other call makes anything durable. -/
def synced (d : Disk) : (op : Op) → Except FileError (Ret op) → Files
  | .sync_all path, .ok _ => Function.update d.durable path (d.cached path)
  | _, _ => d.durable

/-- The files under a program, while the OS writes back those that are not durable yet. -/
def Platform.machine (p : Platform) : Machine Op Ret FileError Disk WriteBack where
  answers d op r d' := p.Answers d.cached op r d'.cached ∧ d'.durable = synced d op r
  edits d w d' := d.cached w.path ≠ d.durable w.path ∧ (∃ whole ∈ d.cached w.path, Partly w.bytes whole) ∧
    d' = { d with durable := Function.update d.durable w.path (some w.bytes) }

/-- Files that are durable. -/
def Files.settled (s : Files) : Disk := ⟨s, s⟩

/-- What stops in the middle of a save. -/
inductive Stop
  | process
  | machine

/-- The files that the next load finds. -/
def Disk.after (d : Disk) : Stop → Files
  | .process => d.cached
  | .machine => d.durable

/-- The answers to `load`'s calls when none fails for a reason of its own. -/
def Platform.told (p : Platform) (s : Files) : (op : Op) → Except FileError (Ret op) × Files
  | .read path =>
    match s path with
    | some bytes => (.ok bytes, s)
    | none => (.error ⟨true, "The system cannot find the file specified."⟩, s)
  | .CryptData false input entropy => ((p.CryptUnprotectData input entropy).mapError fun message => ⟨false, message⟩, s)
  | _ => (.error ⟨false, "not a call of load"⟩, s)

/-- What the next load returns. -/
def loads (p : Platform) (s : Files) : Except CredentialError (Option Credentials) := ((load p).run p.told s).1

/-- What the code relies on: JSON round trips, and DPAPI gives back what it protected and refuses a record of which a part
is missing. -/
structure Platform.Documented (p : Platform) : Prop where
  round_trip : ∀ {c : Credentials} {bytes : Bytes}, p.to_vec c = .ok bytes → p.from_slice bytes = .ok c
  unprotects : ∀ {data entropy output : Blob}, p.Protects data entropy output → p.CryptUnprotectData output entropy = .ok data
  refuses : ∀ {data entropy output part : Blob}, p.Protects data entropy output → Partly part.bytes output.bytes →
    part.bytes ≠ output.bytes → ∃ e, p.CryptUnprotectData part entropy = .error e

/-! ## What stopped -/

def opened : History → Bool
  | [] => false
  | ⟨.open_truncated _, .ok _⟩ :: _ => true
  | _ :: h => opened h

/-- How many bytes the file has taken. -/
def written : History → Nat
  | [] => 0
  | ⟨.write _ _, .ok n⟩ :: h => written h + n
  | _ :: h => written h

/-- The record as DPAPI protected it. -/
def protected_record : History → Option Bytes
  | [] => none
  | ⟨.CryptData true _ _, .ok output⟩ :: _ => some output.bytes
  | _ :: h => protected_record h

/-- What of the file the save has made durable, or the OS for it. -/
inductive Reached
  | nothing
  | part (bytes : Bytes)
  | whole

abbrev Trace := List (Moment Op Ret FileError WriteBack)

def reached : Trace → Reached
  | [] => .nothing
  | .edited w :: _ => .part w.bytes
  | .called ⟨.sync_all _, .ok _⟩ :: _ => .whole
  | .called _ :: t => reached t

/-- For a process that stops: the file was emptied, and has not taken the whole record. For a machine: what was written back
last is not the whole record, and `sync_all` has not succeeded since. -/
def Torn : Stop → Trace → Prop
  | .process, t => opened (calls t) = true ∧ ∃ record ∈ protected_record (calls t), written (calls t) < record.length
  | .machine, t => ∃ bytes, reached t = .part bytes ∧ bytes ∉ protected_record (calls t)

/-! ## What the next load returns -/

variable {p : Platform}

/-- What `load` makes of the file. -/
def decode (p : Platform) : Option Bytes → Except CredentialError (Option Credentials)
  | none => .ok none
  | some encrypted =>
    if hlen : encrypted.length < 2 ^ 32 then
      match p.CryptUnprotectData ⟨encrypted, hlen⟩ ENTROPY with
      | .error message => .error (unavailable ("DPAPI operation failed: " ++ message))
      | .ok output => do
        let credentials ← (p.from_slice output.bytes).mapError .Corrupt
        credentials.validate
        return some credentials
    else .error (unavailable "credential record is too large")

theorem loads_decode {path : PathBuf} (hpath : credential_path p.local_app_data = .ok path) (s : Files) :
    loads p s = decode p (s path) := by
  unfold loads load platform.load
  rw [hpath]
  rcases hfile : s path with _ | encrypted
  · simp [Prog.ofExcept, Prog.attempted, Platform.told, hfile, decode, Prog.call_bind, Prog.run_call]
  simp only [Prog.ofExcept, Prog.attempted, Platform.told, hfile, decode, unprotect, crypt, Prog.ok_bind, Prog.call_bind,
    Prog.run_call]
  split
  · rename_i hlen
    simp only [Prog.call_bind, Prog.run_call, Platform.told]
    rcases p.CryptUnprotectData ⟨encrypted, hlen⟩ ENTROPY with e | output
    · rfl
    simp only [Except.mapError, Prog.pure_eq, Prog.ok_bind]
    rcases p.from_slice output.bytes with e | credentials
    · rfl
    simp only [Prog.ok_bind]
    rcases hval : credentials.validate with e | ⟨⟨⟩⟩
    · simp only [bind, Except.bind, hval]
      rfl
    · simp only [bind, Except.bind, hval]
      rfl
  · rfl

/-! ## How far a save gets -/

variable {new : Credentials} {s₀ : Files} {path : PathBuf} {data output : Blob}

/-- The file holds what it has taken of the new record. -/
structure Written (p : Platform) (new : Credentials) (s₀ : Files) (path : PathBuf) (data output : Blob) (s : Files)
    (h : History) : Prop where
  opened : opened h = true
  record : protected_record h = some output.bytes
  taken : written h ≤ output.bytes.length
  file : s = Function.update s₀ path (some (output.bytes.take (written h)))
  path_eq : credential_path p.local_app_data = .ok path
  valid : new.validate = .ok ()
  encoded : p.to_vec new = .ok data.bytes
  protects : p.Protects data ENTROPY output

/-- Before the file is opened nothing has changed. -/
def SavePoint (p : Platform) (new : Credentials) (s₀ : Files) (s : Files) (h : History) : Prop :=
  (opened h = false ∧ s = s₀) ∨ ∃ path data output, Written p new s₀ path data output s h

/-- Nothing was called since `sync_all` succeeded. -/
def is_synced : History → Bool
  | ⟨.sync_all _, .ok _⟩ :: _ => true
  | _ => false

/-- When a call comes: only writes while the file is open, `sync_all` once it has taken the whole record, and nothing after
that succeeded. -/
def Due (p : Platform) (h : History) (op : Op) : Prop :=
  is_synced h = false ∧
    match op with
    | .write _ _ => opened h = true
    | .sync_all path =>
      credential_path p.local_app_data = .ok path ∧ opened h = true ∧ ∃ record ∈ protected_record h, written h = record.length
    | _ => opened h = false

/-- At every call and at the end, `P` holds, the calls come when they are due, and the result meets `R`. -/
abbrev Passes {α ε : Type} (p : Platform) (P : Files → History → Prop) (R : History → Except ε α → Prop) (s : Files)
    (h : History) (program : Prog Op Ret FileError ε α) : Prop :=
  Holds p.Answers (fun s h op => P s h ∧ Due p h op) (fun s h r => P s h ∧ R h r) s h program

/-- What succeeds has synced the file. -/
def Saved {ε : Type} (h : History) (r : Except ε Unit) : Prop := r = .ok () → is_synced h = true

theorem saved_error {ε : Type} (h : History) (e : ε) : Saved h (.error e) := fun hok => (by cases hok)

theorem passes_here {α ε : Type} {P : Files → History → Prop} {R : History → Except ε α → Prop} {s : Files} {h : History}
    {program : Prog Op Ret FileError ε α} (hp : Passes p P R s h program) : P s h := by
  cases program with
  | ok a => exact hp.1
  | error e => exact hp.1
  | call op next => exact hp.1.1

/-- The file takes `n` more bytes. -/
theorem Written.write {s : Files} {h : History} (hw : Written p new s₀ path data output s h) {n : Nat}
    (hn : n ≤ (output.bytes.drop (written h)).length) (bytes : Bytes) :
    Written p new s₀ path data output
      (Function.update s path (some ((s path).getD [] ++ (output.bytes.drop (written h)).take n)))
      (⟨.write path bytes, .ok n⟩ :: h) := by
  have htaken := hw.taken
  rw [List.length_drop] at hn
  refine { hw with taken := ?_, file := ?_ }
  · show written h + n ≤ output.bytes.length
    omega
  · show _ = Function.update s₀ path (some (output.bytes.take (written h + n)))
    rw [hw.file, Function.update_self, Function.update_idem, Option.getD_some, List.take_add]

theorem write_all_passes {s : Files} {h : History} (hw : Written p new s₀ path data output s h) (hsynced : is_synced h = false)
    (bytes : Bytes) (hb : output.bytes.drop (written h) = bytes) :
    Passes p (fun s h => Written p new s₀ path data output s h ∧ is_synced h = false)
      (fun h r => r = .ok () → written h = output.bytes.length) s h (platform.write_all path bytes) := by
  induction hlen : bytes.length using Nat.strongRecOn generalizing bytes s h with
  | _ len ih =>
  rcases bytes with _ | ⟨byte, bytes⟩
  · rw [platform.write_all]
    exact ⟨⟨hw, hsynced⟩, fun _ => Nat.le_antisymm hw.taken (List.drop_eq_nil_iff.1 hb)⟩
  rw [platform.write_all]
  refine ⟨⟨⟨hw, hsynced⟩, hsynced, hw.opened⟩, fun r s' ha => ?_⟩
  rcases r with e | n
  · obtain rfl : s' = s := ha
    exact ⟨⟨{ hw with }, rfl⟩, fun hok => (by cases hok)⟩
  obtain ⟨hn, rfl⟩ := ha
  have hw' := hw.write (n := n) (by rw [hb]; exact hn) (byte :: bytes)
  rw [hb] at hw'
  rcases n with _ | n
  · exact ⟨⟨hw', rfl⟩, fun hok => (by cases hok)⟩
  · refine ih (bytes.drop n).length ?_ hw' rfl (bytes.drop n) ?_ rfl
    · rw [← hlen, List.length_drop, List.length_cons]
      omega
    · show output.bytes.drop (written h + (n + 1)) = bytes.drop n
      rw [← List.drop_drop, hb, List.drop_succ_cons]

theorem write_result_passes {s : Files} {h : History} (hopened : opened h = false) (hs : s = s₀) (hwritten : written h = 0)
    (hsynced : is_synced h = false) (hrecord : protected_record h = some output.bytes)
    (hpath : credential_path p.local_app_data = .ok path) (hvalid : new.validate = .ok ())
    (hencoded : p.to_vec new = .ok data.bytes) (hprotects : p.Protects data ENTROPY output) :
    Passes p (SavePoint p new s₀) Saved s h (platform.write_result path output.bytes) := by
  refine ⟨⟨.inl ⟨hopened, hs⟩, hsynced, hopened⟩, fun r s' ha => ?_⟩
  rcases r with e | ⟨⟨⟩⟩
  · exact ⟨.inl ⟨hopened, ha.trans hs⟩, saved_error _ e⟩
  obtain rfl : s' = Function.update s path (some []) := ha
  have hw : Written p new s₀ path data output (Function.update s path (some []))
      (⟨.open_truncated path, .ok ()⟩ :: h) := by
    refine ⟨rfl, hrecord, ?_, ?_, hpath, hvalid, hencoded, hprotects⟩
    · show written h ≤ _
      rw [hwritten]
      exact Nat.zero_le _
    · show _ = Function.update s₀ path (some (output.bytes.take (written h)))
      rw [hwritten, hs, List.take_zero]
  have hpoint : ∀ s h, Written p new s₀ path data output s h → SavePoint p new s₀ s h :=
    fun s h hw => .inr ⟨path, data, output, hw⟩
  have hall := write_all_passes hw rfl output.bytes (by
    show output.bytes.drop (written h) = output.bytes
    rw [hwritten, List.drop_zero])
  show Holds p.Answers _ _ _ _ (platform.write_all path output.bytes >>= fun _ => Prog.ask (Op.sync_all path))
  apply holds_bind
  apply holds_mono hall (fun s h _ hdue => ⟨hpoint s h hdue.1.1, hdue.2⟩)
  rintro s h (e | ⟨⟨⟩⟩) ⟨⟨hw, hsynced⟩, hwhole⟩
  · exact ⟨hpoint s h hw, saved_error _ e⟩
  · refine ⟨⟨hpoint s h hw, hsynced, hw.path_eq, hw.opened, _, hw.record, hwhole rfl⟩, fun r s' ha => ?_⟩
    obtain rfl : s' = s := ha
    have hsync : Written p new s₀ path data output s' (⟨.sync_all path, r⟩ :: h) := { hw with }
    rcases r with e | ⟨⟨⟩⟩
    · exact ⟨hpoint _ _ hsync, saved_error _ e⟩
    · exact ⟨hpoint _ _ hsync, fun _ => rfl⟩

theorem save_passes (p : Platform) (new : Credentials) {s₀ : Files} {h : History} (hopened : opened h = false)
    (hwritten : written h = 0) (hsynced : is_synced h = false) :
    Passes p (SavePoint p new s₀) Saved s₀ h (save p new) := by
  have hclosed : ∀ e : CredentialError, SavePoint p new s₀ s₀ h ∧ Saved h (.error e) :=
    fun e => ⟨.inl ⟨hopened, rfl⟩, saved_error h e⟩
  unfold save platform.save
  rcases hvalid : new.validate with e | ⟨⟨⟩⟩
  · exact hclosed _
  rcases hencoded : p.to_vec new with e | bytes
  · exact hclosed _
  rcases hpath : credential_path p.local_app_data with e | path
  · exact hclosed _
  simp only [Prog.ofExcept, Except.mapError, Prog.ok_bind]
  rcases path.parent with _ | directory
  · exact hclosed _
  refine ⟨⟨.inl ⟨hopened, rfl⟩, hsynced, hopened⟩, fun r s' ha => ?_⟩
  obtain rfl : s' = s₀ := by
    rcases r with e | ⟨⟨⟩⟩
    · exact ha
    · exact ha
  rcases r with e | ⟨⟨⟩⟩
  · exact ⟨.inl ⟨hopened, rfl⟩, saved_error _ _⟩
  unfold protect crypt
  dsimp only
  split
  · rename_i hlen
    refine ⟨⟨.inl ⟨hopened, rfl⟩, rfl, hopened⟩, fun r s ha => ?_⟩
    rcases r with e | output
    · exact ⟨.inl ⟨hopened, ha⟩, saved_error _ _⟩
    obtain ⟨hprotects, rfl⟩ := ha
    have hresult := write_result_passes (h := ⟨.CryptData true ⟨bytes, hlen⟩ ENTROPY, .ok output⟩ ::
      ⟨.create_dir_all directory, .ok ()⟩ :: h) hopened (Eq.refl s) hwritten rfl rfl hpath hvalid hencoded hprotects
    refine holds_map_err (holds_mono hresult (fun _ _ _ hdue => hdue) fun s h r hr => ⟨hr.1, fun hok => ?_⟩)
    rcases r with e | ⟨⟨⟩⟩
    · cases hok
    · exact hr.2 rfl
  · exact ⟨.inl ⟨hopened, rfl⟩, saved_error _ _⟩

/-! ## How far a save gets on the disk -/

/-- The disk in the middle of a save: of the new record, the file has in the cache what it has taken, and durably what was
written back. -/
structure DiskPoint (p : Platform) (new : Credentials) (s₀ : Files) (t : Trace) (d : Disk) : Prop where
  point : SavePoint p new s₀ d.cached (calls t)
  durable : match reached t with
    | .nothing => d.durable = s₀
    | .part bytes => ∃ path data output, Written p new s₀ path data output d.cached (calls t) ∧ Partly bytes output.bytes ∧
        d.durable = Function.update s₀ path (some bytes)
    | .whole => is_synced (calls t) = true ∧ d.durable = d.cached ∧
        ∃ path data output, Written p new s₀ path data output d.cached (calls t) ∧ written (calls t) = output.bytes.length
  synced : is_synced (calls t) = true → reached t = .whole

/-- What is durable differs from what was, if at all, in the file. -/
theorem DiskPoint.other {t : Trace} {d : Disk} (h : DiskPoint p new s₀ t d)
    (hw : Written p new s₀ path data output d.cached (calls t)) (bytes : Option Bytes) :
    Function.update d.durable path bytes = Function.update s₀ path bytes := by
  have hdurable := h.durable
  split at hdurable
  · rw [hdurable]
  · obtain ⟨path', data', output', hw', -, hd⟩ := hdurable
    obtain rfl := Except.ok.inj (hw'.path_eq.symm.trans hw.path_eq)
    rw [hd, Function.update_idem]
  · rw [hdurable.2.1, hw.file, Function.update_idem]

/-- Once the file is open, it stays so and the record does not change. -/
theorem Due.open_kept {h : History} {op : Op} (hdue : Due p h op) (hopened : opened h = true) (r : Except FileError (Ret op)) :
    opened (⟨op, r⟩ :: h) = true ∧ protected_record (⟨op, r⟩ :: h) = protected_record h := by
  have hcalled := hdue.2
  cases op with
  | write path bytes => exact ⟨hopened, rfl⟩
  | sync_all path => exact ⟨hopened, rfl⟩
  | _ => exact absurd (hopened.symm.trans hcalled) (by decide)

/-- Any call but a `sync_all` that succeeds makes nothing durable. -/
theorem DiskPoint.called {t : Trace} {d d' : Disk} {op : Op} {r : Except FileError (Ret op)} (h : DiskPoint p new s₀ t d)
    (hdue : Due p (calls t) op) (hpoint : SavePoint p new s₀ d'.cached (⟨op, r⟩ :: calls t))
    (hreached : reached (.called ⟨op, r⟩ :: t) = reached t) (hsynced : is_synced (⟨op, r⟩ :: calls t) = false)
    (hdurable : d'.durable = d.durable) : DiskPoint p new s₀ (.called ⟨op, r⟩ :: t) d' := by
  refine ⟨hpoint, ?_, fun hs => absurd (hsynced.symm.trans hs) (by decide)⟩
  -- What is durable is that of before. Only the record it is a part of has to be found again.
  have hbefore := h.durable
  rw [hreached, hdurable]
  split
  · rename_i he
    rw [he] at hbefore
    exact hbefore
  · rename_i bytes he
    rw [he] at hbefore
    obtain ⟨path, data, output, hw, hpartly, hd⟩ := hbefore
    obtain ⟨hopened, hrecord⟩ := hdue.open_kept hw.opened r
    rcases hpoint with ⟨hclosed, -⟩ | ⟨path', data', output', hw'⟩
    · exact absurd (hopened.symm.trans hclosed) (by decide)
    obtain rfl := Except.ok.inj (hw'.path_eq.symm.trans hw.path_eq)
    have hsame : output'.bytes = output.bytes := Option.some.inj (hw'.record.symm.trans (hrecord.trans hw.record))
    exact ⟨_, _, _, hw', hsame ▸ hpartly, hd⟩
  · rename_i he
    rw [he] at hbefore
    exact absurd (hdue.1.symm.trans hbefore.1) (by decide)

theorem partly_take {bytes whole : Bytes} {n : Nat} (h : Partly bytes (whole.take n)) : Partly bytes whole := by
  obtain ⟨m, h⟩ := h
  rw [List.take_take] at h
  exact ⟨_, h⟩

/-- The OS writes back the file, and nothing but the file. -/
theorem DiskPoint.edited {t : Trace} {d d' : Disk} {w : WriteBack} (h : DiskPoint p new s₀ t d)
    (hedit : p.machine.edits d w d') : DiskPoint p new s₀ (.edited w :: t) d' := by
  obtain ⟨hdirty, ⟨whole, hwhole, hpartly⟩, rfl⟩ := hedit
  have hdurable := h.durable
  -- Before the open the cache and the disk are the same, and there is nothing to write back.
  have hopen : ∃ path data output, Written p new s₀ path data output d.cached (calls t) := by
    rcases h.point with ⟨hclosed, hcached⟩ | hopen
    · split at hdurable
      · exact absurd (by rw [hcached, hdurable]) hdirty
      · obtain ⟨path, data, output, hw, -⟩ := hdurable
        exact ⟨path, data, output, hw⟩
      · exact absurd (by rw [hdurable.2.1]) hdirty
    · exact hopen
  obtain ⟨path, data, output, hw⟩ := hopen
  have hother := h.other hw (some w.bytes)
  obtain rfl : w.path = path := by
    by_contra hne
    have hsame := congrFun (h.other hw none) w.path
    rw [Function.update_of_ne hne, Function.update_of_ne hne] at hsame
    exact hdirty (by rw [hw.file, Function.update_of_ne hne, hsame])
  rw [hw.file, Function.update_self] at hwhole
  obtain rfl := Option.some.inj hwhole
  refine ⟨h.point, ⟨_, _, _, hw, partly_take hpartly, hother⟩, fun hs => ?_⟩
  rw [h.synced hs] at hdurable
  exact absurd (by rw [hdurable.2.1]) hdirty

theorem cached_answers (p : Platform) (d : Disk) (op : Op) (r : Except FileError (Ret op)) (d' : Disk)
    (ha : p.machine.answers d op r d') : p.Answers d.cached op r d'.cached := ha.1

theorem cached_edits (p : Platform) (d : Disk) (w : WriteBack) (d' : Disk) (he : p.machine.edits d w d') :
    d'.cached = d.cached := by
  rw [he.2.2]

/-- How far a program that saves can have got, wherever it stops. -/
theorem disk_point {program rest : Fallible Unit} {d : Disk} {t : Trace}
    (hpasses : Passes p (SavePoint p new s₀) Saved s₀ [] program) (hrun : Runs p.machine s₀.settled program t d rest) :
    DiskPoint p new s₀ t d := by
  induction hrun with
  | start => exact ⟨.inl ⟨rfl, rfl⟩, rfl, fun hs => (by cases hs)⟩
  | edited _ hedit ih => exact ih.edited hedit
  | @called t d d' op next r hrun ha ih =>
    have hbefore := hrun.holds_view Disk.cached (cached_answers p) (cached_edits p) hpasses
    have hpoint : SavePoint p new s₀ d'.cached (⟨op, r⟩ :: calls t) := passes_here (hbefore.2 r d'.cached ha.1)
    have hdue : Due p (calls t) op := hbefore.1.2
    have hdurable := ha.2
    cases op with
    | sync_all path =>
      rcases r with e | ⟨⟨⟩⟩
      · exact ih.called hdue hpoint rfl rfl hdurable
      · -- The whole record becomes durable.
        obtain ⟨-, hpath, hopened, record, hrecord, hwhole⟩ := hdue
        obtain hcached : d'.cached = d.cached := ha.1
        refine ⟨hpoint, ⟨rfl, ?_, ?_⟩, fun _ => rfl⟩
        · rcases ih.point with ⟨hclosed, -⟩ | ⟨path', data, output, hw⟩
          · exact absurd (hopened.symm.trans hclosed) (by decide)
          obtain rfl := Except.ok.inj (hw.path_eq.symm.trans hpath)
          rw [hdurable, hcached, synced, ih.other hw, hw.file, Function.update_self]
        · rcases hpoint with ⟨hclosed, -⟩ | ⟨path', data, output, hw⟩
          · exact absurd (hopened.symm.trans hclosed) (by decide)
          have hsame : record = output.bytes := Option.some.inj (hrecord.symm.trans hw.record)
          exact ⟨path', data, output, hw, hsame ▸ hwhole⟩
    | _ => exact ih.called hdue hpoint (by cases r <;> rfl) (by cases r <;> rfl) (by cases r <;> exact hdurable)

/-! ## What the next load finds -/

theorem loads_record (hp : p.Documented) {c : Credentials} {s : Files}
    (hpath : credential_path p.local_app_data = .ok path) (hvalid : c.validate = .ok ())
    (hencoded : p.to_vec c = .ok data.bytes) (hprotects : p.Protects data ENTROPY output)
    (hfile : s path = some output.bytes) : loads p s = .ok (some c) := by
  rw [loads_decode hpath, hfile, decode, dif_pos output.fits, hp.unprotects hprotects]
  simp only [hp.round_trip hencoded, Except.mapError, hvalid, bind, Except.bind]
  rfl

theorem loads_whole (hp : p.Documented) {s : Files} {h : History} (hw : Written p new s₀ path data output s h)
    (hall : written h = output.bytes.length) : loads p s = .ok (some new) := by
  apply loads_record hp hw.path_eq hw.valid hw.encoded hw.protects
  rw [hw.file, Function.update_self, hall, List.take_length]

theorem partly_fits {bytes : Bytes} (h : Partly bytes output.bytes) : bytes.length < 2 ^ 32 := by
  obtain ⟨n, h⟩ := h
  rw [h.length_eq, List.length_take]
  exact Nat.lt_of_le_of_lt (Nat.min_le_right _ _) output.fits

theorem loads_part (hp : p.Documented) {s : Files} {bytes : Bytes} (hpath : credential_path p.local_app_data = .ok path)
    (hprotects : p.Protects data ENTROPY output) (hpartly : Partly bytes output.bytes) (hne : bytes ≠ output.bytes)
    (hfile : s path = some bytes) : ∃ e, loads p s = .error e := by
  have hpart : Partly (⟨bytes, partly_fits hpartly⟩ : Blob).bytes output.bytes := hpartly
  obtain ⟨e, he⟩ := hp.refuses hprotects hpart hne
  rw [loads_decode hpath, hfile, decode, dif_pos (partly_fits hpartly), he]
  exact ⟨_, rfl⟩

theorem partly_of_start (bytes : Bytes) (n : Nat) : Partly (bytes.take n) bytes :=
  ⟨n, List.forall₂_same.2 fun _ _ => .inl rfl⟩

theorem loads_cut (hp : p.Documented) {s : Files} {h : History} (hw : Written p new s₀ path data output s h)
    (hcut : written h < output.bytes.length) : ∃ e, loads p s = .error e := by
  refine loads_part hp hw.path_eq hw.protects (partly_of_start output.bytes (written h)) (fun hsame => ?_)
    (by rw [hw.file, Function.update_self])
  have hlength := congrArg List.length hsame
  rw [List.length_take] at hlength
  omega

theorem torn_process {s : Files} {t : Trace} (hw : Written p new s₀ path data output s (calls t)) :
    Torn .process t ↔ written (calls t) < output.bytes.length := by
  simp [Torn, hw.opened, hw.record]

/-- The old record or the new one. -/
def Intact (p : Platform) (old new : Credentials) (s : Files) : Prop :=
  loads p s = .ok (some old) ∨ loads p s = .ok (some new)

theorem Intact.loaded {old : Credentials} {s : Files} {e : CredentialError} (h : Intact p old new s)
    (he : loads p s = .error e) : False := by
  rcases h with hloads | hloads
  · rw [he] at hloads
    cases hloads
  · rw [he] at hloads
    cases hloads

/-- What is left after a stop is the old record, or the new one, or no record at all. -/
theorem DiskPoint.left (hp : p.Documented) {old : Credentials} {t : Trace} {d : Disk} (h : DiskPoint p new s₀ t d)
    (hold : loads p s₀ = .ok (some old)) (stop : Stop) :
    (Torn stop t ∧ ∃ e, loads p (d.after stop) = .error e) ∨ (¬ Torn stop t ∧ Intact p old new (d.after stop)) := by
  cases stop with
  | process =>
    -- The cache stays.
    rcases h.point with ⟨hclosed, hcached⟩ | ⟨path, data, output, hw⟩
    · refine .inr ⟨fun htorn => absurd (htorn.1.symm.trans hclosed) (by decide), .inl ?_⟩
      rw [Disk.after, hcached]
      exact hold
    rw [torn_process hw]
    by_cases hcut : written (calls t) < output.bytes.length
    · exact .inl ⟨hcut, loads_cut hp hw hcut⟩
    · exact .inr ⟨hcut, .inr (loads_whole hp hw (Nat.le_antisymm hw.taken (Nat.not_lt.1 hcut)))⟩
  | machine =>
    -- What was made durable stays: nothing of the save, a part of the record, or all of it.
    have hdurable := h.durable
    simp only [Torn, Disk.after]
    split at hdurable
    · rename_i hreached
      refine .inr ⟨fun ⟨_, htorn, _⟩ => ?_, .inl (hdurable ▸ hold)⟩
      rw [hreached] at htorn
      cases htorn
    · rename_i bytes hreached
      obtain ⟨path, data, output, hw, hpartly, hd⟩ := hdurable
      have hfile : d.durable path = some bytes := by rw [hd, Function.update_self]
      rw [hw.record, hreached]
      by_cases hsame : bytes = output.bytes
      · refine .inr ⟨fun ⟨_, htorn, hnot⟩ => ?_, .inr (loads_record hp hw.path_eq hw.valid hw.encoded hw.protects (hsame ▸ hfile))⟩
        cases htorn
        exact hnot (by rw [hsame]; rfl)
      · exact .inl ⟨⟨bytes, rfl, fun hmem => hsame (Option.some.inj hmem).symm⟩,
          loads_part hp hw.path_eq hw.protects hpartly hsame hfile⟩
    · rename_i hreached
      obtain ⟨-, hd, path, data, output, hw, hwhole⟩ := hdurable
      refine .inr ⟨fun ⟨_, htorn, _⟩ => ?_, .inr (hd ▸ loads_whole hp hw hwhole)⟩
      rw [hreached] at htorn
      cases htorn

theorem disk_point_intact (hp : p.Documented) {old : Credentials} {t : Trace} {d : Disk} (h : DiskPoint p new s₀ t d)
    (hold : loads p s₀ = .ok (some old)) (stop : Stop) : Intact p old new (d.after stop) ↔ ¬ Torn stop t := by
  rcases h.left hp hold stop with ⟨htorn, e, he⟩ | ⟨htorn, hintact⟩
  · exact ⟨fun hintact => (hintact.loaded he).elim, fun hnot => absurd htorn hnot⟩
  · exact ⟨fun _ => htorn, fun _ => hintact⟩

/-- What was saved stays, whatever stops. -/
theorem saved_kept (hp : p.Documented) {program : Fallible Unit} {d : Disk} {t : Trace}
    (hpasses : Passes p (SavePoint p new s₀) Saved s₀ [] program) (hrun : Runs p.machine s₀.settled program t d (.ok ()))
    (stop : Stop) : loads p (d.after stop) = .ok (some new) := by
  have hpoint := disk_point hpasses hrun
  have hend := hrun.holds_view Disk.cached (cached_answers p) (cached_edits p) hpasses
  have hreached := hpoint.synced (hend.2 rfl)
  have hdurable := hpoint.durable
  rw [hreached] at hdurable
  obtain ⟨-, hd, path, data, output, hw, hwhole⟩ := hdurable
  cases stop with
  | process => exact loads_whole hp hw hwhole
  | machine =>
    rw [Disk.after, hd]
    exact loads_whole hp hw hwhole

theorem credential_path_parent {local_app_data : Option String} (h : credential_path local_app_data = .ok path) :
    ∃ directory, path.parent = some directory := by
  unfold credential_path at h
  split at h
  · cases h
  · obtain rfl := Except.ok.inj h
    exact ⟨_, rfl⟩

/-- The calls on the file, when none fails. -/
theorem write_result_calls (f : FileError → CredentialError) (path : PathBuf) {bytes : Bytes} (hfilled : bytes ≠ []) :
    ∃ empty write sync, (platform.write_result path bytes).map_err f = .call (.open_truncated path) empty ∧
      empty (.ok ()) = .call (.write path bytes) write ∧ write (.ok bytes.length) = .call (.sync_all path) sync ∧
      sync (.ok ()) = .ok () := by
  obtain ⟨byte, bytes, rfl⟩ := List.exists_cons_of_ne_nil hfilled
  have hrest : ∃ write, ((platform.write_all path (byte :: bytes) >>= fun _ => Prog.ask (Op.sync_all path)).map_err f) =
        .call (.write path (byte :: bytes)) write ∧
      write (.ok (bytes.length + 1)) =
        (platform.write_all path (bytes.drop bytes.length) >>= fun _ => Prog.ask (Op.sync_all path)).map_err f := by
    rw [platform.write_all]
    exact ⟨_, rfl, rfl⟩
  obtain ⟨write, hwrite, hrest⟩ := hrest
  rw [List.drop_length, platform.write_all] at hrest
  exact ⟨_, write, _, rfl, hwrite, hrest, rfl⟩

/-- The calls of a save of which none fails. -/
theorem save_calls (hpath : credential_path p.local_app_data = .ok path) (hvalid : new.validate = .ok ())
    (hencoded : p.to_vec new = .ok data.bytes) (output : Blob) (hfilled : output.bytes ≠ []) :
    ∃ directory create protect empty write sync, save p new = .call (.create_dir_all directory) create ∧
      create (.ok ()) = .call (.CryptData true data ENTROPY) protect ∧ protect (.ok output) = .call (.open_truncated path) empty ∧
      empty (.ok ()) = .call (.write path output.bytes) write ∧
      write (.ok output.bytes.length) = .call (.sync_all path) sync ∧ sync (.ok ()) = .ok () := by
  obtain ⟨directory, hparent⟩ := credential_path_parent hpath
  obtain ⟨empty, write, sync, hempty, hrest⟩ := write_result_calls
    (fun error => unavailable ("could not write " ++ path.display ++ ": " ++ error.message)) path hfilled
  unfold save platform.save protect crypt
  rw [hvalid, hencoded, hpath]
  simp only [Prog.ofExcept, Except.mapError, Prog.ok_bind, dif_pos data.fits]
  rw [hparent]
  exact ⟨directory, _, _, empty, write, sync, rfl, rfl, hempty, hrest⟩

/-- A save that has just emptied the file. -/
def emptied (directory path : PathBuf) (data output : Blob) : Trace :=
  [.called ⟨.open_truncated path, .ok ()⟩, .called ⟨.CryptData true data ENTROPY, .ok output⟩,
    .called ⟨.create_dir_all directory, .ok ()⟩]

/-- A save whose file was written back empty, and has taken the whole record in the cache. -/
def refilled (directory path : PathBuf) (data output : Blob) : Trace :=
  .edited ⟨path, []⟩ :: .called ⟨.write path output.bytes, .ok output.bytes.length⟩ :: emptied directory path data output

/-- In the cache the record is lost, and nothing has happened to the durable one. -/
theorem emptied_torn (directory path : PathBuf) (data : Blob) (hfilled : output.bytes ≠ []) :
    Torn .process (emptied directory path data output) ∧ ¬ Torn .machine (emptied directory path data output) := by
  refine ⟨⟨rfl, output.bytes, rfl, List.length_pos_of_ne_nil hfilled⟩, fun ⟨_, hnothing, _⟩ => ?_⟩
  cases hnothing

/-- Now it is the other way around. -/
theorem refilled_torn (directory path : PathBuf) (data : Blob) (hfilled : output.bytes ≠ []) :
    ¬ Torn .process (refilled directory path data output) ∧ Torn .machine (refilled directory path data output) := by
  refine ⟨fun ⟨_, record, hrecord, hcut⟩ => ?_, [], rfl, fun hrecord => hfilled (Option.some.inj hrecord)⟩
  obtain rfl := Option.some.inj hrecord
  exact Nat.lt_irrefl _ (Nat.lt_of_le_of_lt (Nat.le_add_left _ 0) hcut)

/-- A save can stop with the file empty in the cache, or durably, and can go on from there. -/
theorem save_stops (hpath : credential_path p.local_app_data = .ok path) (hvalid : new.validate = .ok ())
    (hencoded : p.to_vec new = .ok data.bytes) (hprotects : p.Protects data ENTROPY output) (hfilled : output.bytes ≠ [])
    (s₀ : Files) (hdirty : some output.bytes ≠ s₀ path) : ∃ directory rest rest',
      Runs p.machine s₀.settled (save p new) (emptied directory path data output) ⟨Function.update s₀ path (some []), s₀⟩ rest ∧
      Runs p.machine s₀.settled (save p new) (refilled directory path data output)
        ⟨Function.update s₀ path (some output.bytes), Function.update s₀ path (some [])⟩ rest' ∧
      Runs p.machine s₀.settled (save p new) (.called ⟨.sync_all path, .ok ()⟩ :: refilled directory path data output)
        (Files.settled (Function.update s₀ path (some output.bytes))) (.ok ()) := by
  obtain ⟨directory, create, protect, empty, write, sync, hsave, hcreate, hprotect, hempty, hwrite, hsync⟩ :=
    save_calls hpath hvalid hencoded output hfilled
  rw [hsave]
  have hstart : Runs p.machine s₀.settled (.call (Op.create_dir_all directory) create) [] s₀.settled _ := .start
  have hcreates : p.machine.answers s₀.settled (Op.create_dir_all directory) (.ok ()) s₀.settled := ⟨rfl, rfl⟩
  have hcreated := hstart.called hcreates
  rw [hcreate] at hcreated
  have hgives : p.machine.answers s₀.settled (Op.CryptData true data ENTROPY) (.ok output) s₀.settled :=
    ⟨⟨hprotects, rfl⟩, rfl⟩
  have hprotected := hcreated.called hgives
  rw [hprotect] at hprotected
  have hopens : p.machine.answers s₀.settled (Op.open_truncated path) (.ok ()) ⟨Function.update s₀ path (some []), s₀⟩ :=
    ⟨rfl, rfl⟩
  have hemptied := hprotected.called hopens
  have hrun := hemptied
  rw [hempty] at hrun
  have htakes : p.machine.answers ⟨Function.update s₀ path (some []), s₀⟩ (Op.write path output.bytes)
      (.ok output.bytes.length) ⟨Function.update s₀ path (some output.bytes), s₀⟩ :=
    ⟨⟨Nat.le_refl _, by simp⟩, rfl⟩
  have hwritten := hrun.called htakes
  have hback : p.machine.edits ⟨Function.update s₀ path (some output.bytes), s₀⟩ ⟨path, []⟩
      ⟨Function.update s₀ path (some output.bytes), Function.update s₀ path (some [])⟩ := by
    refine ⟨?_, ⟨output.bytes, Function.update_self .., 0, .nil⟩, rfl⟩
    dsimp only
    rw [Function.update_self]
    exact hdirty
  have hrefilled := hwritten.edited hback
  have hrun := hrefilled
  rw [hwrite] at hrun
  have hflushed : p.machine.answers ⟨Function.update s₀ path (some output.bytes), Function.update s₀ path (some [])⟩
      (Op.sync_all path) (.ok ()) (Files.settled (Function.update s₀ path (some output.bytes))) :=
    ⟨rfl, by simp [synced, Files.settled]⟩
  have hsynced := hrun.called hflushed
  rw [hsync] at hsynced
  exact ⟨directory, _, _, hemptied, hrefilled, hsynced⟩

/-- Wherever a save fails or stops, the next load returns the old record or the new one, unless the file was emptied and has
not taken the whole new record, or only a part of it was written back when the machine stopped. A record that was saved stays,
whatever stops. -/
theorem interrupted_save (hp : p.Documented) {old new : Credentials} {s₀ : Files} {d : Disk} {t : Trace}
    {rest : Fallible Unit} (hold : loads p s₀ = .ok (some old)) (hrun : Runs p.machine s₀.settled (save p new) t d rest)
    (stop : Stop) :
    (Intact p old new (d.after stop) ↔ ¬ Torn stop t) ∧ (rest = .ok () → loads p (d.after stop) = .ok (some new)) := by
  have hpasses : Passes p (SavePoint p new s₀) Saved s₀ [] (save p new) := save_passes p new rfl rfl rfl
  refine ⟨disk_point_intact hp (disk_point hpasses hrun) hold stop, ?_⟩
  rintro rfl
  exact saved_kept hp hpasses hrun stop

/-! ## What saves -/

/-- Nothing was opened, and nothing has changed. -/
def Unopened (s₀ : Files) (s : Files) (h : History) : Prop := opened h = false ∧ written h = 0 ∧ is_synced h = false ∧ s = s₀

/-- A load changes nothing, and one that succeeds has read what is there. -/
theorem load_passes (p : Platform) (s₀ : Files) :
    Passes p (Unopened s₀) (fun _ r => ∀ c, r = .ok c → loads p s₀ = .ok c) s₀ [] (load p) := by
  have hstart : Unopened s₀ s₀ [] := ⟨rfl, rfl, rfl, rfl⟩
  have hnone : ∀ {e : CredentialError} (c : Option Credentials), Except.error e = Except.ok c → loads p s₀ = .ok c :=
    fun _ h => (by cases h)
  rcases hpath : credential_path p.local_app_data with e | path
  · unfold load platform.load
    rw [hpath]
    exact ⟨hstart, hnone⟩
  rw [loads_decode hpath] at hnone ⊢
  unfold load platform.load unprotect crypt
  rw [hpath]
  simp only [Prog.ofExcept, Prog.attempted, Prog.ok_bind, Prog.call_bind]
  refine ⟨⟨hstart, rfl, rfl⟩, fun r s ha => ?_⟩
  rcases r with error | encrypted
  · obtain ⟨habsent, rfl⟩ := ha
    dsimp only
    split
    · rename_i hnot_found
      refine ⟨⟨rfl, rfl, rfl, rfl⟩, fun c hc => ?_⟩
      rw [habsent hnot_found]
      exact hc
    · exact ⟨⟨rfl, rfl, rfl, rfl⟩, hnone⟩
  obtain ⟨hfile, rfl⟩ := ha
  rw [hfile] at hnone ⊢
  dsimp only
  split
  · rename_i hlen
    simp only [Prog.call_bind]
    refine ⟨⟨⟨rfl, rfl, rfl, rfl⟩, rfl, rfl⟩, fun r s' ha => ?_⟩
    rcases r with error | output
    · obtain rfl : s' = s := ha
      exact ⟨⟨rfl, rfl, rfl, rfl⟩, hnone⟩
    obtain ⟨hunprotected, rfl⟩ := ha
    rw [decode, dif_pos hlen, hunprotected] at hnone ⊢
    simp only [Except.mapError, Prog.pure_eq, Prog.ok_bind]
    rcases p.from_slice output.bytes with e | credentials
    · exact ⟨⟨rfl, rfl, rfl, rfl⟩, fun c hc => (by cases hc)⟩
    simp only [Prog.ok_bind]
    rcases hvalid : credentials.validate with e | ⟨⟨⟩⟩
    · exact ⟨⟨rfl, rfl, rfl, rfl⟩, fun c hc => (by cases hc)⟩
    · refine ⟨⟨rfl, rfl, rfl, rfl⟩, fun c hc => ?_⟩
      simp only [bind, Except.bind, hvalid]
      exact hc
  · exact ⟨⟨rfl, rfl, rfl, rfl⟩, hnone⟩

/-- Forgetting the phone loads what is stored, and saves it without the phone. -/
theorem forget_phone_passes {old : Credentials} (hold : loads p s₀ = .ok (some old)) :
    Passes p (SavePoint p old.forget_phone s₀) Saved s₀ [] (forget_phone p) := by
  have hpoint : ∀ s h, Unopened s₀ s h → SavePoint p old.forget_phone s₀ s h := fun s h hs => .inl ⟨hs.1, hs.2.2.2⟩
  apply holds_bind
  apply holds_mono (load_passes p s₀) (fun s h _ hdue => ⟨hpoint s h hdue.1, hdue.2⟩)
  rintro s h (e | c) ⟨⟨hopened, hwritten, hsynced, rfl⟩, hloaded⟩
  · exact ⟨.inl ⟨hopened, rfl⟩, saved_error _ e⟩
  · obtain rfl := Except.ok.inj (hold.symm.trans (hloaded c rfl))
    exact save_passes p old.forget_phone hopened hwritten hsynced

/-- After a torn save the host can neither load its identity nor make another. -/
theorem torn_locked_out (hp : p.Documented) {old : Credentials} {t : Trace} {d : Disk} (h : DiskPoint p new s₀ t d)
    (hold : loads p s₀ = .ok (some old)) {stop : Stop} (htorn : Torn stop t) :
    ∃ e, loads p (d.after stop) = .error e ∧ ((load_or_create p).run p.told (d.after stop)).1 = .error e ∧
      ((forget_phone p).run p.told (d.after stop)).1 = .error e := by
  rcases h.left hp hold stop with ⟨-, e, he⟩ | ⟨hnot, -⟩
  · have hload : (load p).run p.told (d.after stop) = (.error e, ((load p).run p.told (d.after stop)).2) := Prod.ext he rfl
    refine ⟨e, he, ?_, ?_⟩
    · rw [load_or_create, Prog.run_bind_of_error hload]
    · rw [forget_phone, Prog.run_bind_of_error hload]
  · exact absurd htorn hnot

/-- The host pairs and forgets phones, and any of its saves may fail or stop. What one leaves is durable before the next. -/
inductive HostRun (p : Platform) (c₀ : Credentials) : Files → Prop
  | stored {s : Files} : loads p s = .ok (some c₀) → HostRun p c₀ s
  | paired {s : Files} {d : Disk} {c : Credentials} (remote_static : Vector UInt8 32) {t : Trace} {rest : Fallible Unit}
      (stop : Stop) : HostRun p c₀ s → loads p s = .ok (some c) →
      Runs p.machine s.settled (persist_phone p c remote_static) t d rest → ¬ Torn stop t → HostRun p c₀ (d.after stop)
  | forgotten {s : Files} {d : Disk} {t : Trace} {rest : Fallible Unit} (stop : Stop) : HostRun p c₀ s →
      Runs p.machine s.settled (forget_phone p) t d rest → ¬ Torn stop t → HostRun p c₀ (d.after stop)

/-- While no save is torn, the identity is kept. -/
theorem identity_kept (hp : p.Documented) {c₀ : Credentials} {s : Files} (hrun : HostRun p c₀ s) :
    ∃ c, loads p s = .ok (some c) ∧ c.private_key = c₀.private_key ∧ c.public_key = c₀.public_key := by
  induction hrun with
  | stored hstored => exact ⟨c₀, hstored, rfl, rfl⟩
  | @paired s d c remote_static t rest stop _ hc hsave htorn ih =>
    obtain ⟨c', hc', hprivate, hpublic⟩ := ih
    obtain rfl : c' = c := Option.some.inj (Except.ok.inj (hc'.symm.trans hc))
    have hpoint := disk_point (save_passes p _ rfl rfl rfl) hsave
    rcases (disk_point_intact hp hpoint hc stop).2 htorn with hloads | hloads
    · exact ⟨_, hloads, hprivate, hpublic⟩
    · exact ⟨_, hloads, hprivate, hpublic⟩
  | forgotten stop _ hforget htorn ih =>
    obtain ⟨c, hc, hprivate, hpublic⟩ := ih
    have hpoint := disk_point (forget_phone_passes hc) hforget
    rcases (disk_point_intact hp hpoint hc stop).2 htorn with hloads | hloads
    · exact ⟨_, hloads, hprivate, hpublic⟩
    · exact ⟨_, hloads, hprivate, hpublic⟩

/-! ## A save cut short -/

/-- A host whose phone is stored. -/
def stored : Credentials :=
  ⟨STORE_VERSION, Vector.replicate 32 1, Vector.replicate 32 2, some (Vector.replicate 32 3), some "Phone"⟩

/-- The UTF-8 of a text that is ASCII. -/
def ascii (text : String) : Bytes := text.toList.map fun c => .ofNat c.toNat

/-- A key whose bytes are all the same digit. -/
def key_json (digit : String) : Bytes :=
  ascii "[" ++ (List.replicate 31 (ascii digit ++ ascii ",")).flatten ++ ascii digit ++ ascii "]"

def identity_json : Bytes :=
  ascii "\x7b\"version\":1,\"private_key\":" ++ key_json "1" ++ ascii ",\"public_key\":" ++ key_json "2"

def stored_json : Bytes :=
  identity_json ++ ascii ",\"paired_phone_public_key\":" ++ key_json "3" ++ ascii ",\"paired_phone_name\":\"Phone\"\x7d"

def forgotten_json : Bytes :=
  identity_json ++ ascii ",\"paired_phone_public_key\":" ++ ascii "null,\"paired_phone_name\":null\x7d"

/-- A protected record without a zero byte, that shows where it ends. -/
def wrap : Bytes → Bytes
  | [] => [17]
  | byte :: bytes => (byte / 16 + 1) :: (byte % 16 + 1) :: wrap bytes

def unwrap : Bytes → Option Bytes
  | [] => none
  | [last] => if last = 17 then some [] else none
  | high :: low :: bytes =>
    if high = 0 ∨ low = 0 then none else (unwrap bytes).map ((16 * (high - 1) + (low - 1)) :: ·)

theorem nibbles (byte : UInt8) : byte / 16 + 1 ≠ 0 ∧ byte / 16 + 1 ≠ 17 ∧ byte % 16 + 1 ≠ 0 ∧
    16 * (byte / 16 + 1 - 1) + (byte % 16 + 1 - 1) = byte := by
  have hall : ∀ n : Fin 256, UInt8.ofFin n / 16 + 1 ≠ 0 ∧ UInt8.ofFin n / 16 + 1 ≠ 17 ∧ UInt8.ofFin n % 16 + 1 ≠ 0 ∧
      16 * (UInt8.ofFin n / 16 + 1 - 1) + (UInt8.ofFin n % 16 + 1 - 1) = UInt8.ofFin n := by decide +kernel
  exact hall byte.toFin

theorem unwrap_wrap (bytes : Bytes) : unwrap (wrap bytes) = some bytes := by
  induction bytes with
  | nil => rfl
  | cons byte bytes ih =>
    obtain ⟨hhigh, -, hlow, hsum⟩ := nibbles byte
    rw [wrap, unwrap, if_neg (by simp [hhigh, hlow]), ih, Option.map_some, hsum]

/-- A part of a record is refused: it ends early, or there is a zero. -/
theorem unwrap_part (bytes : Bytes) {part : Bytes} {n : Nat}
    (hpart : List.Forall₂ (fun b w => b = w ∨ b = 0) part ((wrap bytes).take n)) (hne : part ≠ wrap bytes) :
    unwrap part = none := by
  induction bytes generalizing part n with
  | nil =>
    rcases n with _ | n
    · cases hpart
      rfl
    · rw [wrap, List.take_succ_cons, List.take_nil] at hpart
      rcases hpart with _ | ⟨rfl | rfl, ⟨⟩⟩
      · exact absurd rfl hne
      · rfl
  | cons byte bytes ih =>
    obtain ⟨-, hhigh, -, -⟩ := nibbles byte
    rcases n with _ | _ | n
    · cases hpart
      rfl
    · rw [wrap, List.take_succ_cons, List.take_zero] at hpart
      rcases hpart with _ | ⟨rfl | rfl, ⟨⟩⟩
      · exact if_neg hhigh
      · rfl
    · rw [wrap, List.take_succ_cons, List.take_succ_cons] at hpart
      rcases hpart with _ | ⟨hfirst, _ | ⟨hsecond, hrest⟩⟩
      rcases hfirst with rfl | rfl
      · rcases hsecond with rfl | rfl
        · rw [unwrap]
          split
          · rfl
          · rw [ih hrest fun hsame => hne (by rw [hsame, wrap]), Option.map_none]
        · exact if_pos (.inr rfl)
      · exact if_pos (.inl rfl)

theorem wrap_length (bytes : Bytes) : (wrap bytes).length = 2 * bytes.length + 1 := by
  induction bytes with
  | nil => rfl
  | cons byte bytes ih =>
    rw [wrap, List.length_cons, List.length_cons, ih, List.length_cons]
    omega

theorem wrap_filled (bytes : Bytes) : wrap bytes ≠ [] := by
  cases bytes with
  | nil => exact List.cons_ne_nil _ _
  | cons byte bytes => exact List.cons_ne_nil _ _

/-- A platform that knows two records. -/
def sampled : Platform where
  local_app_data := some "C:\\Users\\me\\AppData\\Local"
  noise_params := .ok ()
  to_vec c :=
    if c = stored then .ok (stored_json)
    else if c = stored.forget_phone then .ok (forgotten_json)
    else .error "not a sample"
  from_slice bytes :=
    if bytes = stored_json then .ok stored
    else if bytes = forgotten_json then .ok stored.forget_phone
    else .error "not a sample"
  Protects data _ output := output.bytes = wrap data.bytes
  CryptUnprotectData input _ :=
    match unwrap input.bytes with
    | some bytes => if hlen : bytes.length < 2 ^ 32 then .ok ⟨bytes, hlen⟩ else .error "The data is invalid."
    | none => .error "The data is invalid."

theorem sampled_documented : sampled.Documented where
  round_trip {c bytes} h := by
    have htexts : forgotten_json ≠ stored_json := by decide +kernel
    simp only [sampled] at h ⊢
    split at h
    · rename_i hstored
      obtain rfl := Except.ok.inj h
      rw [if_pos rfl, hstored]
    split at h
    · rename_i hforgotten
      obtain rfl := Except.ok.inj h
      rw [if_neg htexts, if_pos rfl, hforgotten]
    · cases h
  unprotects {data entropy output} h := by
    have h : output.bytes = wrap data.bytes := h
    simp only [sampled, h, unwrap_wrap, dif_pos data.fits]
  refuses {data entropy output part} h hpartly hne := by
    have h : output.bytes = wrap data.bytes := h
    rw [h] at hpartly hne
    obtain ⟨n, hpart⟩ := hpartly
    refine ⟨"The data is invalid.", ?_⟩
    simp only [sampled, unwrap_part data.bytes hpart hne]

theorem sampled_protects {data output : Blob} (h : output.bytes = wrap data.bytes) : sampled.Protects data ENTROPY output := h

theorem stored_valid : stored.validate = .ok () := by decide

theorem forgotten_valid : stored.forget_phone.validate = .ok () := by decide

theorem to_vec_stored : sampled.to_vec stored = .ok stored_json := by
  unfold sampled
  dsimp only
  rw [if_pos rfl]

theorem to_vec_forgotten : sampled.to_vec stored.forget_phone = .ok forgotten_json := by
  have hne : stored.forget_phone ≠ stored := fun h => (by cases congrArg Credentials.is_paired h)
  unfold sampled
  dsimp only
  rw [if_neg hne, if_pos rfl]

def sampled_path : PathBuf := ⟨"C:\\Users\\me\\AppData\\Local", ["Holodori", "doritrack-v5.credentials"]⟩

def stored_data : Blob := ⟨stored_json, by decide +kernel⟩
def forgotten_data : Blob := ⟨forgotten_json, by decide +kernel⟩

theorem wrap_fits {data : Blob} (h : data.bytes.length < 1000) : (wrap data.bytes).length < 2 ^ 32 := by
  rw [wrap_length]
  omega

def stored_record : Blob := ⟨wrap stored_data.bytes, wrap_fits (by decide +kernel)⟩
def forgotten_record : Blob := ⟨wrap forgotten_data.bytes, wrap_fits (by decide +kernel)⟩

theorem stored_wrapped : stored_record.bytes = wrap stored_data.bytes := by simp only [stored_record]

theorem forgotten_wrapped : forgotten_record.bytes = wrap forgotten_data.bytes := by simp only [forgotten_record]

def stored_files : Files := Function.update (fun _ => none) sampled_path (some stored_record.bytes)

theorem sampled_credential_path : credential_path sampled.local_app_data = .ok sampled_path := by decide

theorem loads_stored : loads sampled stored_files = .ok (some stored) :=
  loads_record sampled_documented sampled_credential_path stored_valid to_vec_stored (sampled_protects stored_wrapped)
    (Function.update_self _ _ _)

theorem forgotten_filled : forgotten_record.bytes ≠ [] := by
  rw [forgotten_wrapped]
  exact wrap_filled _

theorem forgotten_dirty : some forgotten_record.bytes ≠ stored_files sampled_path := by
  intro hsame
  rw [stored_files, Function.update_self, Option.some_inj, forgotten_wrapped, stored_wrapped] at hsame
  have hlength := congrArg List.length hsame
  rw [wrap_length, wrap_length] at hlength
  exact absurd hlength (by decide +kernel)

/-- Forgetting the phone: what is left if the process stops, or the machine, once the file was emptied; what if the file was
written back empty, and then has taken the whole record; and what once the save has returned. -/
theorem interrupted_save_forgets : ∃ (t t' t'' : Trace) (d d' d'' : Disk) (rest rest' : Fallible Unit),
    Runs sampled.machine stored_files.settled (save sampled stored.forget_phone) t d rest ∧
    Runs sampled.machine stored_files.settled (save sampled stored.forget_phone) t' d' rest' ∧
    Runs sampled.machine stored_files.settled (save sampled stored.forget_phone) t'' d'' (.ok ()) ∧
    (¬ Intact sampled stored stored.forget_phone (d.after .process) ∧ Intact sampled stored stored.forget_phone (d.after .machine)) ∧
    (Intact sampled stored stored.forget_phone (d'.after .process) ∧
      ¬ Intact sampled stored stored.forget_phone (d'.after .machine)) ∧
    ∀ stop, loads sampled (d''.after stop) = .ok (some stored.forget_phone) := by
  obtain ⟨directory, rest, rest', hemptied, hrefilled, hsaved⟩ := save_stops sampled_credential_path forgotten_valid
    to_vec_forgotten (sampled_protects forgotten_wrapped) forgotten_filled stored_files forgotten_dirty
  have hintact := fun stop => (interrupted_save sampled_documented loads_stored hemptied stop).1
  have hintact' := fun stop => (interrupted_save sampled_documented loads_stored hrefilled stop).1
  obtain ⟨htorn, hkept⟩ := emptied_torn directory sampled_path forgotten_data forgotten_filled
  obtain ⟨hkept', htorn'⟩ := refilled_torn directory sampled_path forgotten_data forgotten_filled
  exact ⟨_, _, _, _, _, _, rest, rest', hemptied, hrefilled, hsaved,
    ⟨fun h => (hintact .process).1 h htorn, (hintact .machine).2 hkept⟩,
    ⟨(hintact' .process).2 hkept', fun h => (hintact' .machine).1 h htorn'⟩,
    fun stop => (interrupted_save sampled_documented loads_stored hsaved stop).2 rfl⟩

/-- Both records are lost. -/
theorem save_not_crash_safe : ¬ ∀ (p : Platform) (old new : Credentials) (s₀ : Files) (d : Disk) (t : Trace)
    (rest : Fallible Unit) (stop : Stop), p.Documented → loads p s₀ = .ok (some old) →
    Runs p.machine s₀.settled (save p new) t d rest → Intact p old new (d.after stop) := by
  intro h
  obtain ⟨directory, rest, rest', hemptied, -, -⟩ := save_stops sampled_credential_path forgotten_valid
    to_vec_forgotten (sampled_protects forgotten_wrapped) forgotten_filled stored_files forgotten_dirty
  have hintact := h sampled stored stored.forget_phone stored_files _ _ rest .process sampled_documented loads_stored hemptied
  have hpoint := disk_point (save_passes sampled stored.forget_phone rfl rfl rfl) hemptied
  exact (disk_point_intact sampled_documented hpoint loads_stored .process).1 hintact
    (emptied_torn directory sampled_path forgotten_data forgotten_filled).1

end Trackpad.CredentialStore
