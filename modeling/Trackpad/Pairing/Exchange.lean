import Mathlib.Logic.Relation
import Trackpad.Lib.Logs
import Trackpad.Pairing.Host
import Trackpad.Pairing.Phone
/-!
# The exchange

Both ends over one log, with a network that delivers each record at any later time, once, or never, and with what
both users do. An end's invariant says what it knows of the log; the log says why each event happened.
-/

namespace Trackpad.Pairing

open V5Host Sas Logs Relation

structure State where
  host_phase : HostPhase
  commands : Receiver
  phone_phase : PhonePhase
  inbox : PairingInbox
  log : List Event

namespace State

/-- The handshake is over. -/
def start (now : Nat) : State := ⟨.Polling (.Commitment ⟨now, now⟩), ⟨[], false⟩, .Starting, ⟨true, none⟩, []⟩

def host (t : State) : Host := ⟨t.host_phase, t.commands, t.log⟩
def phone (t : State) : Phone := ⟨t.phone_phase, t.inbox, t.log⟩
def with_host (t : State) (h : Host) : State := { t with host_phase := h.phase, commands := h.inbox, log := h.log }
def with_phone (t : State) (p : Phone) : State := { t with phone_phase := p.phase, inbox := p.inbox, log := p.log }

end State

inductive Action
  | HostPolls (o : Polled)
  | HostReceives (o : Observed) (received : Except IoError (Option Nat))
  | HostUser (command : PairCommand)
  | HostDisconnects
  | PhoneStarts (o : ReceivingHalf)
  | PhoneSends (o : SendingHalf)
  | PhoneReceives (o : ReceivingHalf) (received : Except String (Option Nat))
  | PhoneUser (pattern : List Int)
  | PhoneCancels (failure : SendFailure)
  | PhoneCloses (failure : SendFailure)

/-- What a receive returns and the log with it: the record of that number opens unless it did before. -/
def taken {ε : Type} (records : List OpenedRecord) (opened : OpenedRecord → Event) (log : List Event) :
    Except ε (Option Nat) → Option (Except ε (Option OpenedRecord) × List Event)
  | .error e => some (.error e, log)
  | .ok none => some (.ok none, log)
  | .ok (some number) =>
    match records[number]? with
    | none => none
    | some record => if opened record ∈ log then none else some (.ok (some record), opened record :: log)

variable (s : Session)

def Action.step (a : Action) (t : State) : Option State :=
  match a with
  | .HostPolls o => some (t.with_host (t.host.poll s o))
  | .HostReceives o received =>
    match t.host_phase with
    | .Receiving _ => (taken (phone_records t.log) .HostOpened t.log received).map fun r =>
        t.with_host (Host.receive s o r.1 ⟨t.host_phase, t.commands, r.2⟩)
    | _ => none
  | .HostUser command => some { t with commands.queue := t.commands.queue ++ [command], log := .Commands command :: t.log }
  | .HostDisconnects => some { t with commands.disconnected := true }
  | .PhoneStarts o => some (t.with_phone (t.phone.start s o))
  | .PhoneSends o => some (t.with_phone (t.phone.send s o))
  | .PhoneReceives o received =>
    match t.phone_phase with
    | .Receiving _ => (taken (host_records t.log) .PhoneOpened t.log received).map fun r =>
        t.with_phone (Phone.receive s o r.1 ⟨t.phone_phase, t.inbox, r.2⟩)
    | _ => none
  | .PhoneUser pattern => some (t.with_phone (Phone.submitPairingPattern pattern (t.phone.note (.Enters pattern))))
  | .PhoneCancels failure => some (t.with_phone (t.phone.cancelPairing s failure))
  | .PhoneCloses failure => some (t.with_phone (t.phone.close s failure))

/-- The steps one after the other, as long as each of them `fits`. -/
def run (fits : State → Action → Prop) [∀ t a, Decidable (fits t a)] : List Action → State → Option State
  | [], t => some t
  | a :: actions, t => if fits t a then (a.step s t).bind (run fits actions) else none

/-- The states that steps with `fits` lead to. -/
def Reaches (fits : State → Action → Prop) (t t' : State) : Prop :=
  ReflTransGen (fun t t' => ∃ a, fits t a ∧ a.step s t = some t') t t'

theorem Reaches.any {fits : State → Action → Prop} {t t' : State} (h : Reaches s fits t t') : Reaches s (fun _ _ => True) t t' := by
  induction h with
  | refl => exact .refl
  | tail _ hlast ih =>
    obtain ⟨a, -, hstep⟩ := hlast
    exact ih.tail ⟨a, trivial, hstep⟩

theorem run_reaches {fits : State → Action → Prop} [∀ t a, Decidable (fits t a)] {actions : List Action} {t t' : State}
    (h : run s fits actions t = some t') : Reaches s fits t t' := by
  induction actions generalizing t with
  | nil =>
    cases h
    exact .refl
  | cons a actions ih =>
    rw [run] at h
    split at h
    · next hfits =>
      obtain ⟨t'', hstep, hrest⟩ := Option.bind_eq_some_iff.1 h
      exact .head ⟨a, hfits, hstep⟩ (ih hrest)
    · cases h

end Trackpad.Pairing
