import Trackpad.Lib.Calls
import Mathlib.Algebra.Order.Ring.Nat
/-!
# The credential store

`credentials.rs` with its Windows `platform`. Files and DPAPI are calls; JSON and the environment are
given by a `Platform`. Wiping memory is not modelled.
-/

namespace Trackpad.CredentialStore

open Calls

abbrev Bytes := List UInt8

/-! ## Paths -/

/-- A path and what was joined to it. -/
structure PathBuf where
  base : String
  joined : List String
deriving DecidableEq

namespace PathBuf

def join (path : PathBuf) (name : String) : PathBuf := { path with joined := path.joined ++ [name] }

/-- The path without what was joined last. -/
def parent (path : PathBuf) : Option PathBuf :=
  if path.joined = [] then none else some { path with joined := path.joined.dropLast }

/-- `C:` alone. -/
def is_drive (text : List Char) : Bool :=
  match text with
  | [letter, ':'] => letter.isAlpha
  | _ => false

/-- No separator is put behind a separator or a drive. -/
def push_text (text : List Char) (name : String) : List Char :=
  let separated := text.getLast?.any fun c => c = '\\' || c = '/'
  if separated || is_drive text then text ++ name.toList else text ++ '\\' :: name.toList

def display (path : PathBuf) : String := String.ofList (path.joined.foldl push_text path.base.toList)

end PathBuf

/-! ## Credentials -/

inductive CredentialError
  | Unavailable (message : String)
  | Corrupt (message : String)
  | Crypto (message : String)
deriving DecidableEq, Repr

def unavailable (message : String) : CredentialError := .Unavailable message

def STORE_VERSION : UInt8 := 1

structure Credentials where
  version : UInt8
  private_key : Vector UInt8 32
  public_key : Vector UInt8 32
  paired_phone_public_key : Option (Vector UInt8 32)
  paired_phone_name : Option String
deriving DecidableEq

namespace Credentials

def is_paired (c : Credentials) : Bool := c.paired_phone_public_key.isSome

def authorize_phone (c : Credentials) (public_key : Vector UInt8 32) (name : String) : Credentials :=
  { c with paired_phone_public_key := some public_key, paired_phone_name := some name }

def forget_phone (c : Credentials) : Credentials :=
  { c with paired_phone_public_key := none, paired_phone_name := none }

def validate (c : Credentials) : Except CredentialError Unit :=
  if c.version ≠ STORE_VERSION then .error (.Corrupt ("unsupported credential version " ++ toString c.version))
  else if c.private_key.toList.all (· = 0) || c.public_key.toList.all (· = 0) then .error (.Corrupt "identity contains a null key")
  else .ok ()

end Credentials

/-! ## Calls -/

/-- `CRYPT_INTEGER_BLOB`: a `u32` counts the bytes. -/
structure Blob where
  bytes : Bytes
  fits : bytes.length < 2 ^ 32

/-- `io::Error` of a file or of Windows. -/
structure FileError where
  not_found : Bool
  message : String

/-- `CryptData` is `CryptProtectData` or `CryptUnprotectData`. A `write` tries again when interrupted. -/
inductive Op
  | generate_keypair
  | read (path : PathBuf)
  | create_dir_all (directory : PathBuf)
  | CryptData (protect : Bool) (input entropy : Blob)
  | open_truncated (path : PathBuf)
  | write (path : PathBuf) (bytes : Bytes)
  | sync_all (path : PathBuf)

abbrev Ret : Op → Type
  | .generate_keypair => Bytes × Bytes
  | .read _ => Bytes
  | .create_dir_all _ => Unit
  | .CryptData _ _ _ => Blob
  | .open_truncated _ => Unit
  | .write _ _ => Nat
  | .sync_all _ => Unit

abbrev Fallible (α : Type) := Prog Op Ret FileError CredentialError α

abbrev History := List (Event Op Ret FileError)

/-- What lies outside: `LOCALAPPDATA`, the parsed `NOISE_NAME`, `serde_json`, and DPAPI, which protects the same
data differently each time. -/
structure Platform where
  local_app_data : Option String
  noise_params : Except String Unit
  to_vec : Credentials → Except String Bytes
  from_slice : Bytes → Except String Credentials
  Protects : Blob → Blob → Blob → Prop
  CryptUnprotectData : Blob → Blob → Except String Blob

/-! ## `platform` -/

def credential_path (local_app_data : Option String) : Except CredentialError PathBuf :=
  match local_app_data.filter (· ≠ "") with
  | none => .error (unavailable "LOCALAPPDATA is unavailable")
  | some base => .ok ((PathBuf.mk base []).join "Holodori" |>.join "doritrack-v5.credentials")

/-- b"holodori-phone-trackpad-v5-dpapi" -/
def ENTROPY : Blob :=
  ⟨[0x68, 0x6f, 0x6c, 0x6f, 0x64, 0x6f, 0x72, 0x69, 0x2d, 0x70, 0x68, 0x6f, 0x6e, 0x65, 0x2d, 0x74, 0x72, 0x61, 0x63,
    0x6b, 0x70, 0x61, 0x64, 0x2d, 0x76, 0x35, 0x2d, 0x64, 0x70, 0x61, 0x70, 0x69], by decide⟩

def crypt (input : Bytes) (protect : Bool) : Fallible Bytes :=
  if hinput : input.length < 2 ^ 32 then do
    match ← Prog.attempted (Op.CryptData protect ⟨input, hinput⟩ ENTROPY) with
    | .ok output => return output.bytes
    | .error error => .error (unavailable ("DPAPI operation failed: " ++ error.message))
  else .error (unavailable "credential record is too large")

def protect (plaintext : Bytes) : Fallible Bytes := crypt plaintext true
def unprotect (ciphertext : Bytes) : Fallible Bytes := crypt ciphertext false

namespace platform

def load (p : Platform) : Fallible (Option Bytes) := do
  let path ← Prog.ofExcept (credential_path p.local_app_data)
  match ← Prog.attempted (Op.read path) with
  | .error error =>
    if error.not_found then return none
    else .error (unavailable ("could not read " ++ path.display ++ ": " ++ error.message))
  | .ok encrypted => do
    let bytes ← unprotect encrypted
    return some bytes

/-- `Write::write_all`. -/
def write_all (path : PathBuf) : Bytes → Prog Op Ret FileError FileError Unit
  | [] => .ok ()
  | byte :: bytes => .call (.write path (byte :: bytes)) fun
    | .error error => .error error
    | .ok 0 => .error ⟨false, "failed to write whole buffer"⟩
    | .ok (n + 1) => write_all path (bytes.drop n)
termination_by bytes => bytes.length
decreasing_by exact Nat.lt_succ_of_le (List.length_drop ▸ Nat.sub_le bytes.length n)

/-- The closure of `save`. -/
def write_result (path : PathBuf) (protected_ : Bytes) : Prog Op Ret FileError FileError Unit := do
  Prog.ask (Op.open_truncated path)
  write_all path protected_
  Prog.ask (Op.sync_all path)

def save (p : Platform) (plaintext : Bytes) : Fallible Unit := do
  let path ← Prog.ofExcept (credential_path p.local_app_data)
  match path.parent with
  | none => .error (unavailable "credential path has no parent")
  | some directory =>
    match ← Prog.attempted (Op.create_dir_all directory) with
    | .error error => .error (unavailable ("could not create " ++ directory.display ++ ": " ++ error.message))
    | .ok () => do
      let protected_ ← protect plaintext
      (write_result path protected_).map_err fun error =>
        unavailable ("could not write " ++ path.display ++ ": " ++ error.message)

end platform

/-! ## What the host uses -/

/-- `Credentials::generate`. -/
def generate (p : Platform) : Fallible Credentials :=
  match p.noise_params with
  | .error error => .error (.Crypto ("Noise parameters: " ++ error))
  | .ok () => do
    match ← Prog.attempted Op.generate_keypair with
    | .error error => .error (.Crypto ("X25519 identity: " ++ error.message))
    | .ok (private_key, public_key) =>
      if hprivate : private_key.length = 32 then
        if hpublic : public_key.length = 32 then
          return ⟨STORE_VERSION, ⟨private_key.toArray, hprivate⟩, ⟨public_key.toArray, hpublic⟩, none, none⟩
        else .error (.Corrupt "public key length")
      else .error (.Corrupt "private key length")

def load (p : Platform) : Fallible (Option Credentials) := do
  match ← platform.load p with
  | none => return none
  | some bytes => do
    let credentials ← Prog.ofExcept ((p.from_slice bytes).mapError .Corrupt)
    Prog.ofExcept credentials.validate
    return some credentials

def save (p : Platform) (credentials : Credentials) : Fallible Unit := do
  Prog.ofExcept credentials.validate
  let bytes ← Prog.ofExcept ((p.to_vec credentials).mapError .Corrupt)
  platform.save p bytes

def load_or_create (p : Platform) : Fallible Credentials := do
  match ← load p with
  | some credentials => return credentials
  | none => do
    let credentials ← generate p
    save p credentials
    return credentials

def is_paired (p : Platform) : Fallible Bool := do
  let credentials ← load p
  return credentials.any Credentials.is_paired

def forget_phone (p : Platform) : Fallible Unit := do
  match ← load p with
  | none => return ()
  | some credentials => save p credentials.forget_phone

/-- How `pair` stores the phone it has authorized. -/
def persist_phone (p : Platform) (credentials : Credentials) (remote_static : Vector UInt8 32) : Fallible Unit :=
  save p (credentials.authorize_phone remote_static "Android phone")

end Trackpad.CredentialStore
