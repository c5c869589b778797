import Mathlib
/-!
# Touch frames

The decoded frame both wire versions hand to the host. `f32` coordinates are kept in the
wire's own units (`x` and `y` in 1/10000, `pressure` and `touch_major` in 1/65535), so a
frame holds exactly what the datagram carried. Unsigned integers are `Nat`s; the decoders
bound them by the bytes they were read from.
-/

namespace Trackpad

abbrev Bytes := List UInt8

def ACTION_HEARTBEAT : UInt8 := 0
def ACTION_DOWN : UInt8 := 1
def ACTION_MOVE : UInt8 := 2
def ACTION_UP : UInt8 := 3
def ACTION_CANCEL : UInt8 := 4

def FRAME_FLAG_LOCKED : UInt8 := 0x01
def FRAME_FLAG_SESSION_START : UInt8 := 0x02
def FRAME_FLAG_HISTORICAL : UInt8 := 0x04
def CONTACT_FLAG_INSIDE : UInt8 := 0x01
def CONTACT_FLAG_TIP : UInt8 := 0x02
def CONTACT_FLAG_KEY_SUPPRESSED : UInt8 := 0x04

def MAX_CONTACTS : Nat := 16
def MAX_REORDERED_FRAMES : Nat := 256

structure Contact where
  pointer_id : UInt8
  flags : UInt8
  x : Int
  y : Int
  pressure : Nat
  touch_major : Nat
deriving DecidableEq, Repr

namespace Contact

def inside (c : Contact) : Bool := c.flags &&& CONTACT_FLAG_INSIDE != 0
def touching (c : Contact) : Bool := c.flags &&& CONTACT_FLAG_TIP != 0
def key_suppressed (c : Contact) : Bool := c.flags &&& CONTACT_FLAG_KEY_SUPPRESSED != 0

end Contact

/-- A snapshot of the surface. Its capacity is the protocol's, and both decoders reject a
repeated pointer id before a frame exists. -/
structure Contacts where
  items : List Contact
  bounded : items.length ≤ MAX_CONTACTS
  distinct : (items.map Contact.pointer_id).Nodup
deriving DecidableEq

def Contacts.empty : Contacts := ⟨[], by decide, by simp⟩

structure TouchFrame where
  session_id : Nat
  sequence : Nat
  phone_event_nanos : Nat
  phone_callback_nanos : Nat
  phone_send_nanos : Nat
  echo_host_send_nanos : Nat
  phone_control_receive_nanos : Nat
  action : UInt8
  action_pointer_id : UInt8
  flags : UInt8
  contacts : Contacts
deriving DecidableEq

namespace TouchFrame

def locked (f : TouchFrame) : Bool := f.flags &&& FRAME_FLAG_LOCKED != 0
def session_start (f : TouchFrame) : Bool := f.flags &&& FRAME_FLAG_SESSION_START != 0
def historical (f : TouchFrame) : Bool := f.flags &&& FRAME_FLAG_HISTORICAL != 0

end TouchFrame

/-! ## Host errors -/

inductive ErrorKind
  | Interrupted | TimedOut | InvalidData | InvalidInput | WriteZero | NetworkUnreachable
  | ConnectionAborted | PermissionDenied | Other
deriving DecidableEq, Repr

/-- `io::Error`: a kind and the text it was made with. -/
structure IoError where
  kind : ErrorKind
  message : String
deriving DecidableEq, Repr

def IoError.other (message : String) : IoError := ⟨.Other, message⟩

end Trackpad
