import Trackpad.Phone.Spec
/-!
# The moves of the writer and the watchdog

What one turn of the writer and one check of the watchdog are made of.
-/

namespace Trackpad.V5Transport

open Relation

/-- All but the clocks, the ids and the cursors of the queue. -/
def essentials (p : V5Transport) :=
  (p.trace, p.running, p.hostReady, p.queueOverflowed, p.retained, p.activeContactCount)

/-- One move: a record is sealed, the session ends, a heartbeat is queued, or nothing that is logged changes. -/
inductive Move : V5Transport → V5Transport → Prop
  | record {p p' : V5Transport} {messageType : UInt8} {sessionId : UInt64} {logicalId : Nat} {payload : Bytes}
      (sealed : p.sealInto messageType sessionId logicalId payload = some p') : Move p p'
  | close (p : V5Transport) : Move p p.closeSession
  | heartbeat (p : V5Transport) (now : Int) (running : p.running = true) (ready : p.hostReady = true) :
      Move p (p.enqueueRetainedSnapshotLocked .heartbeat now)
  | mark {p p' : V5Transport} (same : p'.essentials = p.essentials) (sent : p'.sent = p.sent)
      (acknowledged : p'.highestAcknowledged = p.highestAcknowledged) : Move p p'

abbrev Moves : V5Transport → V5Transport → Prop := ReflTransGen Move

theorem heartbeat_moves (now : Int) {p : V5Transport} (hrun : p.running = true) :
    Moves p (p.maybeEnqueueHeartbeatLocked now) := by
  unfold maybeEnqueueHeartbeatLocked
  split
  · exact .refl
  · rename_i hdue
    simp only [Bool.or_eq_true, Bool.not_eq_true', not_or, Bool.not_eq_false] at hdue
    have hmarked : Move p { p with lastHeartbeatNanos := now } := .mark rfl rfl rfl
    exact .tail (.single hmarked) (.heartbeat _ now hrun hdue.1.1.1.1)

theorem sendTouch_moves (pending : Frame Content) (sendStarted : Int) (p : V5Transport) :
    Moves p (p.sendTouch pending sendStarted) := by
  unfold sendTouch
  dsimp only
  rcases hseal : p.sealInto PHONE_TOUCH p.sessionId pending.sequence
    (pending.payload.payload (wireTime sendStarted) p.lastHostSendNanos (wireTime p.lastControlReceiveNanos)) with _ | p'
  · exact .single (.close p)
  · exact .single (.record hseal)

theorem sendPing_moves (now : Int) (p : V5Transport) : Moves p (p.sendPing now) := by
  have hissued : Moves p { p with nextPingId := p.nextPingId + 1, lastPingNanos := now } := .single (.mark rfl rfl rfl)
  unfold sendPing
  dsimp only
  split
  · exact hissued.tail (.close _)
  · rename_i p' hseal
    have hfirst := hissued.tail (.record hseal)
    rcases hseal' : p'.sealInto PHONE_PING p.sessionId p.nextPingId [] with _ | p''
    · exact hfirst.tail (.close p')
    · exact hfirst.tail (.record hseal')

theorem writerTurn_moves (now sendStarted : Int) (p : V5Transport) : Moves p (p.writerTurn now sendStarted) := by
  unfold writerTurn
  split
  · exact .refl
  rename_i hclosed
  have hbeat := heartbeat_moves now (show p.running = true by simpa using hclosed)
  dsimp only
  split
  · exact hbeat
  split
  · rename_i pending q hnext
    have hmarked : Move (p.maybeEnqueueHeartbeatLocked now) { p.maybeEnqueueHeartbeatLocked now with unacknowledged := q } :=
      .mark rfl rfl rfl
    exact (hbeat.tail hmarked).trans (sendTouch_moves pending sendStarted _)
  · rename_i q hnext
    have hmarked : Move (p.maybeEnqueueHeartbeatLocked now) { p.maybeEnqueueHeartbeatLocked now with unacknowledged := q } :=
      .mark rfl rfl rfl
    split
    · exact (hbeat.tail hmarked).trans (sendPing_moves now _)
    · exact hbeat.tail hmarked

theorem checkHostTimeout_moves (now : Int) (p : V5Transport) : Moves p (p.checkHostTimeout now) := by
  unfold checkHostTimeout
  split
  · exact .refl
  split
  · exact .single (.close p)
  · exact .refl

end Trackpad.V5Transport
