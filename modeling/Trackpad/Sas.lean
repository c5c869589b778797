import Trackpad.Protocol
import Trackpad.Lib.LittleEndian
/-!
# The pairing pattern

Both sides turn the digest of a pairing into eight lanes for the user to compare. Each reads the digest word by word,
takes the first word below a multiple of 6⁸ and hashes the digest anew when there is none. BLAKE2s is a parameter; a
loop that hashes is given fuel, one unit for each digest it reads.
-/

namespace Trackpad.Sas

/-- What BLAKE2s returns. -/
def Digest : Type := { bytes : Bytes // bytes.length = 32 }

/-- `b"holodori-v5-sas-commit"`. -/
def SAS_COMMIT_DOMAIN : Bytes := "holodori-v5-sas-commit".toUTF8.toList
/-- `b"holodori-v5-sas"`. -/
def SAS_DOMAIN : Bytes := "holodori-v5-sas".toUTF8.toList
/-- `b"holodori-v5-sas-retry"`. -/
def SAS_RETRY_DOMAIN : Bytes := "holodori-v5-sas-retry".toUTF8.toList

variable (blake2s : Bytes → Digest)

/-! ## The host -/

def SPACE : Nat := 1679616

def LIMIT : Nat := 2 ^ 32 / SPACE * SPACE

def hash_parts (parts : List Bytes) : Digest := blake2s parts.flatten

def sas_commit (role : UInt8) (handshake_hash random : Bytes) : Digest :=
  hash_parts blake2s [SAS_COMMIT_DOMAIN, [role], handshake_hash, random]

def sas_digest (handshake_hash phone_random host_random : Bytes) : Digest :=
  hash_parts blake2s [SAS_DOMAIN, handshake_hash, phone_random, host_random]

/-- The whole chunks of four bytes. -/
def as_chunks : Bytes → List Bytes
  | a :: b :: c :: d :: bytes => [a, b, c, d] :: as_chunks bytes
  | _ => []

/-- The loop over `pattern.iter_mut().rev()`, for the first `length` digits. -/
def digits (length value : Nat) : List UInt8 :=
  match length with
  | 0 => []
  | length + 1 => digits length (value / 6) ++ [UInt8.ofNat (value % 6) + 1]

/-- The pattern of a word that is accepted. -/
def word_pattern (word : UInt32) : Option (List UInt8) :=
  if word.toNat < LIMIT then some (digits 8 (word.toNat % SPACE)) else none

/-- `u32::from_le_bytes`. -/
def from_le_bytes (word : Bytes) : UInt32 := .ofNat (LittleEndian.decode word)

def sas_pattern (fuel : Nat) (digest : Digest) : Option (List UInt8) :=
  match fuel with
  | 0 => none
  | fuel + 1 =>
    match (as_chunks digest.val).findSome? fun word => word_pattern (from_le_bytes word) with
    | some pattern => some pattern
    | none => sas_pattern fuel (hash_parts blake2s [SAS_RETRY_DOMAIN, digest.val])

/-! ## The phone -/

def sasCommit (role : UInt8) (handshakeHash random : Bytes) : Except String Digest :=
  if (role ≠ 1 ∧ role ≠ 2) ∨ random.length ≠ 32 then .error "invalid SAS commitment input"
  else .ok (hash_parts blake2s [SAS_COMMIT_DOMAIN, [role], handshakeHash, random])

def sasDigest (handshakeHash phoneRandom hostRandom : Bytes) : Except String Digest :=
  if phoneRandom.length ≠ 32 ∨ hostRandom.length ≠ 32 then .error "invalid SAS reveal"
  else .ok (hash_parts blake2s [SAS_DOMAIN, handshakeHash, phoneRandom, hostRandom])

def space : Int := 1679616

def limit : Int := 4294967296 / space * space

/-- `words.getInt()` of a little-endian buffer, a signed `int`. -/
def getInt (word : Bytes) : Int := (BitVec.ofNat 32 (LittleEndian.decode word)).toInt

def toUnsignedLong (value : Int) : Int := value % 4294967296

/-- The loop that fills the pattern from its last index down. -/
def fillPattern (index : Nat) (value : Int) (pattern : List Int) : List Int :=
  match index with
  | 0 => pattern
  | index + 1 => fillPattern index (value.tdiv 6) (pattern.set index (value.tmod 6 + 1))

/-- The inner loop, from the buffer's position on. -/
def patternOfWords : Bytes → Option (List Int)
  | a :: b :: c :: d :: words =>
    let value := toUnsignedLong (getInt [a, b, c, d])
    if value < limit then some (fillPattern 8 (value.tmod space) (List.replicate 8 0)) else patternOfWords words
  | _ => none

def sasPatternLoop (fuel : Nat) (digest : Bytes) : Option (List Int) :=
  match fuel with
  | 0 => none
  | fuel + 1 =>
    match patternOfWords digest with
    | some pattern => some pattern
    | none => sasPatternLoop fuel (hash_parts blake2s [SAS_RETRY_DOMAIN, digest]).val

def sasPattern (fuel : Nat) (initialDigest : Bytes) : Except String (Option (List Int)) :=
  if initialDigest.length ≠ 32 then .error "invalid SAS digest" else .ok (sasPatternLoop blake2s fuel initialDigest)

/-! ## Patterns and numbers -/

/-- A pattern shown to the user: eight lanes. -/
structure IsPattern (pattern : List UInt8) : Prop where
  length : pattern.length = 8
  lanes : ∀ digit ∈ pattern, 1 ≤ digit.toNat ∧ digit.toNat ≤ 6

/-- The number that a pattern stands for, most significant digit first. -/
def number (pattern : List UInt8) : Nat := pattern.foldl (fun value digit => 6 * value + (digit.toNat - 1)) 0

theorem digit_toNat (value : Nat) : (UInt8.ofNat (value % 6) + 1).toNat = value % 6 + 1 := by
  rw [UInt8.toNat_add, UInt8.toNat_ofNat']
  have := Nat.mod_lt value (by decide : 0 < 6)
  simp
  omega

theorem digits_length (length value : Nat) : (digits length value).length = length := by
  induction length generalizing value with
  | zero => rfl
  | succ length ih => rw [digits, List.length_append, ih, List.length_singleton]

theorem digits_lanes (length value : Nat) : ∀ digit ∈ digits length value, 1 ≤ digit.toNat ∧ digit.toNat ≤ 6 := by
  induction length generalizing value with
  | zero => exact fun _ h => absurd h List.not_mem_nil
  | succ length ih =>
    intro digit hmem
    rcases List.mem_append.mp hmem with h | h
    · exact ih _ digit h
    · rw [List.mem_singleton.mp h, digit_toNat]
      have := Nat.mod_lt value (by decide : 0 < 6)
      omega

theorem digits_isPattern (value : Nat) : IsPattern (digits 8 value) := ⟨digits_length 8 value, digits_lanes 8 value⟩

theorem number_append (pattern : List UInt8) (digit : UInt8) :
    number (pattern ++ [digit]) = 6 * number pattern + (digit.toNat - 1) := List.foldl_concat ..

theorem number_digits (length value : Nat) : number (digits length value) = value % 6 ^ length := by
  induction length generalizing value with
  | zero => simp [digits, number, Nat.mod_one]
  | succ length ih =>
    rw [digits, number_append, ih, digit_toNat, Nat.add_sub_cancel, Nat.pow_succ, Nat.mul_comm (6 ^ length) 6, Nat.mod_mul]
    omega

theorem number_lt (pattern : List UInt8) (hlanes : ∀ digit ∈ pattern, 1 ≤ digit.toNat ∧ digit.toNat ≤ 6) :
    number pattern < 6 ^ pattern.length := by
  induction pattern using List.reverseRecOn with
  | nil => decide
  | append_singleton pattern digit ih =>
    have hrest := ih fun d hd => hlanes d (List.mem_append_left _ hd)
    have hlast := hlanes digit (List.mem_append_right _ List.mem_cons_self)
    rw [number_append, List.length_append, List.length_singleton, Nat.pow_succ]
    omega

/-- A pattern is the digits of its number. -/
theorem digits_number (pattern : List UInt8) (hlanes : ∀ digit ∈ pattern, 1 ≤ digit.toNat ∧ digit.toNat ≤ 6) :
    digits pattern.length (number pattern) = pattern := by
  induction pattern using List.reverseRecOn with
  | nil => rfl
  | append_singleton pattern digit ih =>
    have hrest := ih fun d hd => hlanes d (List.mem_append_left _ hd)
    have hlast := hlanes digit (List.mem_append_right _ List.mem_cons_self)
    have hhigh : (6 * number pattern + (digit.toNat - 1)) / 6 = number pattern := by omega
    have hlow : (6 * number pattern + (digit.toNat - 1)) % 6 = digit.toNat - 1 := by omega
    rw [number_append, List.length_append, List.length_singleton, digits, hhigh, hrest]
    congr 2
    apply UInt8.toNat_inj.mp
    rw [digit_toNat, hlow]
    omega

/-! ## Every pattern has the same number of words -/

theorem limit_eq : LIMIT = 2557 * SPACE := by decide

theorem space_eq : SPACE = 6 ^ 8 := by decide

/-- The words of a pattern are those congruent to its number below the limit. -/
theorem word_pattern_iff {pattern : List UInt8} (hpattern : IsPattern pattern) (word : UInt32) :
    word_pattern word = some pattern ↔ word.toNat < LIMIT ∧ word.toNat ≡ number pattern [MOD SPACE] := by
  have hnumber : number pattern < SPACE := by
    have := number_lt pattern hpattern.lanes
    rwa [hpattern.length, ← space_eq] at this
  unfold word_pattern
  split_ifs with hlimit
  · rw [Option.some_inj]
    constructor
    · rintro rfl
      rw [number_digits, ← space_eq]
      exact ⟨hlimit, ((Nat.mod_modEq _ _).trans (Nat.mod_modEq _ _)).symm⟩
    · rintro ⟨-, hmod⟩
      rw [hmod, Nat.mod_eq_of_lt hnumber, ← hpattern.length]
      exact digits_number pattern hpattern.lanes
  · exact ⟨fun h => absurd h (by simp), fun h => absurd h.1 hlimit⟩

theorem words_card {pattern : List UInt8} (hpattern : IsPattern pattern) :
    Nat.card { word : UInt32 // word_pattern word = some pattern } = 2 ^ 32 / 6 ^ 8 := by
  have hwords : { word : UInt32 // word_pattern word = some pattern } ≃
      ((Finset.range LIMIT).filter fun value => value ≡ number pattern [MOD SPACE]) :=
    { toFun := fun word => ⟨word.val.toNat, by
        rw [Finset.mem_filter, Finset.mem_range]
        exact (word_pattern_iff hpattern word.val).mp word.property⟩
      invFun := fun value => ⟨.ofNat value.val, by
        have hvalue := Finset.mem_filter.mp value.property
        have hlt : value.val < LIMIT := Finset.mem_range.mp hvalue.1
        have hword : (UInt32.ofNat value.val).toNat = value.val := by
          rw [UInt32.toNat_ofNat']
          exact Nat.mod_eq_of_lt (hlt.trans (by decide))
        rw [word_pattern_iff hpattern, hword]
        exact ⟨hlt, hvalue.2⟩⟩
      left_inv := fun word => Subtype.ext (UInt32.ofNat_toNat ..)
      right_inv := fun value => by
        apply Subtype.ext
        have hlt : value.val < LIMIT := Finset.mem_range.mp (Finset.mem_filter.mp value.property).1
        change (UInt32.ofNat value.val).toNat = value.val
        rw [UInt32.toNat_ofNat']
        exact Nat.mod_eq_of_lt (hlt.trans (by decide)) }
  rw [Nat.card_congr hwords, Nat.card_eq_fintype_card, Fintype.card_coe, ← Nat.count_eq_card_filter_range,
    Nat.count_modEq_card _ (by decide), limit_eq, Nat.mul_mod_left, if_neg (Nat.not_lt_zero _)]
  decide

/-! ## The two loops agree -/

/-- A pattern as the phone's array of `int`s. -/
def ints (pattern : List UInt8) : List Int := pattern.map fun digit => (digit.toNat : Int)

theorem fillPattern_eq (index value : Nat) (tail : List Int) :
    fillPattern index (value : Int) (List.replicate index 0 ++ tail) = ints (digits index value) ++ tail := by
  induction index generalizing value tail with
  | zero => rfl
  | succ index ih =>
    have hset : (List.replicate (index + 1) (0 : Int) ++ tail).set index ((value : Int).tmod 6 + 1) =
        List.replicate index 0 ++ (((value % 6 + 1 : Nat) : Int) :: tail) := by
      rw [List.replicate_succ', List.append_assoc, List.set_append_right _ _ (by simp)]
      simp only [List.length_replicate, Nat.sub_self, List.singleton_append, List.set_cons_zero]
      rfl
    rw [fillPattern, hset, show (value : Int).tdiv 6 = ((value / 6 : Nat) : Int) from rfl, ih, digits]
    simp only [ints, List.map_append, List.map_cons, List.map_nil, digit_toNat, List.append_assoc, List.cons_append,
      List.nil_append]

/-- The phone reads the unsigned value of a word. -/
theorem toUnsignedLong_getInt (word : Bytes) : toUnsignedLong (getInt word) = ((from_le_bytes word).toNat : Int) := by
  unfold toUnsignedLong getInt from_le_bytes
  rw [UInt32.toNat_ofNat', BitVec.toInt_eq_toNat_bmod, BitVec.toNat_ofNat]
  rw [show (4294967296 : Int) = ((2 ^ 32 : Nat) : Int) by norm_num, Int.bmod_emod]
  omega

theorem patternOfWords_eq (bytes : Bytes) :
    patternOfWords bytes = ((as_chunks bytes).findSome? fun word => word_pattern (from_le_bytes word)).map ints := by
  fun_induction as_chunks bytes with
  | case1 a b c d bytes ih =>
    unfold patternOfWords
    rw [List.findSome?_cons, toUnsignedLong_getInt]
    unfold word_pattern
    have hlimit : ((from_le_bytes [a, b, c, d]).toNat : Int) < limit ↔ (from_le_bytes [a, b, c, d]).toNat < LIMIT := by
      rw [show limit = ((LIMIT : Nat) : Int) by decide]
      exact Int.ofNat_lt
    by_cases hlt : (from_le_bytes [a, b, c, d]).toNat < LIMIT
    · rw [if_pos hlt]
      simp only [if_pos (hlimit.mpr hlt)]
      have hfill := fillPattern_eq 8 ((from_le_bytes [a, b, c, d]).toNat % SPACE) []
      rw [List.append_nil, List.append_nil] at hfill
      exact congrArg some hfill
    · rw [if_neg hlt]
      simp only [if_neg (fun h => hlt (hlimit.mp h))]
      exact ih
  | case2 bytes hshort =>
    unfold patternOfWords
    split
    · exact absurd rfl (hshort _ _ _ _ _)
    · rfl

theorem sasPatternLoop_eq (fuel : Nat) (digest : Digest) :
    sasPatternLoop blake2s fuel digest.val = (sas_pattern blake2s fuel digest).map ints := by
  induction fuel generalizing digest with
  | zero => rfl
  | succ fuel ih =>
    unfold sasPatternLoop sas_pattern
    rw [patternOfWords_eq]
    cases (as_chunks digest.val).findSome? fun word => word_pattern (from_le_bytes word) with
    | some pattern => rfl
    | none => exact ih _

/-- Whatever the fuel, the phone shows what the host shows. -/
theorem sasPattern_eq (fuel : Nat) (digest : Digest) :
    sasPattern blake2s fuel digest.val = .ok ((sas_pattern blake2s fuel digest).map ints) := by
  unfold sasPattern
  rw [if_neg (not_not.mpr digest.property), sasPatternLoop_eq]

/-! ## They return a pattern -/

/-- The digest that is read after `retries` of them were rejected. -/
def retried (digest : Digest) : Nat → Digest
  | 0 => digest
  | retries + 1 => retried (hash_parts blake2s [SAS_RETRY_DOMAIN, digest.val]) retries

/-- Some word of a digest is accepted. -/
def Accepted (digest : Digest) : Prop := ∃ word ∈ as_chunks digest.val, (from_le_bytes word).toNat < LIMIT

theorem word_pattern_isSome {word : UInt32} : (word_pattern word).isSome ↔ word.toNat < LIMIT := by
  unfold word_pattern
  split_ifs with h <;> simp [h]

theorem word_pattern_isPattern {word : UInt32} {pattern : List UInt8} (h : word_pattern word = some pattern) :
    IsPattern pattern := by
  unfold word_pattern at h
  split_ifs at h
  exact Option.some_inj.mp h ▸ digits_isPattern _

/-- More fuel changes no pattern. -/
theorem sas_pattern_mono {fuel more : Nat} (hle : fuel ≤ more) {digest : Digest} {pattern : List UInt8}
    (h : sas_pattern blake2s fuel digest = some pattern) : sas_pattern blake2s more digest = some pattern := by
  induction fuel generalizing more digest with
  | zero => cases h
  | succ fuel ih =>
    obtain ⟨more, rfl⟩ := Nat.exists_eq_add_one.mpr (Nat.lt_of_lt_of_le (Nat.succ_pos fuel) hle)
    unfold sas_pattern at h ⊢
    cases hfound : (as_chunks digest.val).findSome? fun word => word_pattern (from_le_bytes word) with
    | some found => rwa [hfound] at h
    | none =>
      rw [hfound] at h
      exact ih (Nat.le_of_succ_le_succ hle) h

theorem sas_pattern_unique {fuel fuel' : Nat} {digest : Digest} {pattern pattern' : List UInt8}
    (h : sas_pattern blake2s fuel digest = some pattern) (h' : sas_pattern blake2s fuel' digest = some pattern') :
    pattern = pattern' := by
  have hmore := sas_pattern_mono blake2s (Nat.le_max_left fuel fuel') h
  have hmore' := sas_pattern_mono blake2s (Nat.le_max_right fuel fuel') h'
  exact Option.some_inj.mp (hmore.symm.trans hmore')

theorem sas_pattern_returns (digest : Digest) {retries : Nat} (haccepted : Accepted (retried blake2s digest retries)) :
    ∃ pattern, IsPattern pattern ∧ ∀ fuel, retries < fuel → sas_pattern blake2s fuel digest = some pattern := by
  induction retries generalizing digest with
  | zero =>
    obtain ⟨word, hmem, hlt⟩ := haccepted
    have hsome : ((as_chunks digest.val).findSome? fun word => word_pattern (from_le_bytes word)).isSome :=
      List.findSome?_isSome_iff.mpr ⟨word, hmem, word_pattern_isSome.mpr hlt⟩
    obtain ⟨pattern, hpattern⟩ := Option.isSome_iff_exists.mp hsome
    obtain ⟨word, -, hword⟩ := List.exists_of_findSome?_eq_some hpattern
    refine ⟨pattern, word_pattern_isPattern hword, fun fuel hfuel => ?_⟩
    obtain ⟨fuel, rfl⟩ := Nat.exists_eq_add_one.mpr hfuel
    rw [sas_pattern, hpattern]
  | succ retries ih =>
    cases hfound : (as_chunks digest.val).findSome? fun word => word_pattern (from_le_bytes word) with
    | some pattern =>
      obtain ⟨word, -, hword⟩ := List.exists_of_findSome?_eq_some hfound
      refine ⟨pattern, word_pattern_isPattern hword, fun fuel hfuel => ?_⟩
      obtain ⟨fuel, rfl⟩ := Nat.exists_eq_add_one.mpr (Nat.zero_lt_of_lt hfuel)
      rw [sas_pattern, hfound]
    | none =>
      obtain ⟨pattern, hpattern, hreturns⟩ := ih _ haccepted
      refine ⟨pattern, hpattern, fun fuel hfuel => ?_⟩
      obtain ⟨fuel, rfl⟩ := Nat.exists_eq_add_one.mpr (Nat.zero_lt_of_lt hfuel)
      rw [sas_pattern, hfound]
      exact hreturns fuel (by omega)

/-- Every pattern stands for equally many accepted words, and once a word of a digest or of a retry is accepted both
sides return the same pattern. -/
theorem sas_unbiased_and_shared :
    (∀ pattern, IsPattern pattern →
      Nat.card { word : UInt32 // word_pattern word = some pattern } = 2 ^ 32 / 6 ^ 8) ∧
    ∀ digest retries, Accepted (retried blake2s digest retries) →
      ∃ pattern, IsPattern pattern ∧ ∀ fuel, retries < fuel →
        sas_pattern blake2s fuel digest = some pattern ∧ sasPattern blake2s fuel digest.val = .ok (some (ints pattern)) := by
  refine ⟨fun pattern => words_card, fun digest retries haccepted => ?_⟩
  obtain ⟨pattern, hpattern, hreturns⟩ := sas_pattern_returns blake2s digest haccepted
  refine ⟨pattern, hpattern, fun fuel hfuel => ⟨hreturns fuel hfuel, ?_⟩⟩
  rw [sasPattern_eq, hreturns fuel hfuel]
  rfl

end Trackpad.Sas
