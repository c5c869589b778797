import Mathlib.Data.List.Basic
/-!
# Lines, fields and numbers in text

A text is the list of its characters. What one program prints, another reads back: a line out of a stream, a field out of
a list with commas, a number.
-/

namespace Text

/-- The rest of a text that begins with `start`. -/
def strip_start (start s : List Char) : Option (List Char) := if start.isPrefixOf s then some (s.drop start.length) else none

/-- What Unicode counts as white space. -/
def is_whitespace (c : Char) : Bool :=
  let n := c.toNat
  (9 ≤ n && n ≤ 13) || n == 0x20 || n == 0x85 || n == 0xA0 || n == 0x1680 || (0x2000 ≤ n && n ≤ 0x200A) || n == 0x2028 ||
    n == 0x2029 || n == 0x202F || n == 0x205F || n == 0x3000

def trim (s : List Char) : List Char := ((s.dropWhile is_whitespace).reverse.dropWhile is_whitespace).reverse

/-- The fields of a list with commas, without the empty ones. -/
def fields (s : List Char) : List (List Char) := ((s.splitOn ',').map trim).filter fun field => !field.isEmpty

/-- An unsigned decimal number below `bound`. A sign of plus is allowed. -/
def parse_unsigned (bound : Nat) (s : List Char) : Option Nat :=
  let digits := if s.head? = some '+' then s.tail else s
  let value := Nat.ofDigitChars 10 digits 0
  if !digits.isEmpty && digits.all Char.isDigit && decide (value < bound) then some value else none

/-- A line without the return that came before its end. -/
def chomp (line : List Char) : List Char := if line.getLast? = some '\r' then line.dropLast else line

/-- The lines of a stream: what follows the last end of a line is one unless it is empty. -/
def lines (s : List Char) : List (List Char) :=
  let pieces := s.splitOn '\n'
  pieces.dropLast.map chomp ++ pieces.getLast?.toList.filter fun line => !line.isEmpty

/-- A text that is one line of a stream. -/
structure IsLine (line : List Char) : Prop where
  one : '\n' ∉ line
  last : line.getLast? ≠ some '\r'

/-! ## What is read back -/

theorem strip_start_append (start s : List Char) : strip_start start (start ++ s) = some s := by
  simp [strip_start]

theorem strip_start_eq_some {start s rest : List Char} : strip_start start s = some rest ↔ s = start ++ rest := by
  constructor
  · intro h
    unfold strip_start at h
    split at h
    · next hstart =>
      obtain ⟨rest', rfl⟩ := List.isPrefixOf_iff_prefix.1 hstart
      simpa using h
    · cases h
  · rintro rfl
    exact strip_start_append start rest

/-- Texts are told apart by how they begin. -/
theorem ne_of_strip_start {start s s' : List Char} (h : strip_start start s = none) (h' : (strip_start start s').isSome) : s ≠ s' := by
  rintro rfl
  rw [h] at h'
  cases h'

/-- Two beginnings, none of which begins with the other. -/
theorem strip_start_other {start start' : List Char} (h : start.isPrefixOf start' = false) (h' : start'.isPrefixOf start = false)
    (s : List Char) : strip_start start (start' ++ s) = none := by
  rw [Option.eq_none_iff_forall_not_mem]
  intro rest hrest
  have hstart : start <+: start' ++ s := ⟨rest, (strip_start_eq_some.1 hrest).symm⟩
  rcases List.prefix_or_prefix_of_prefix hstart (List.prefix_append start' s) with hle | hle
  · rw [List.isPrefixOf_iff_prefix.2 hle] at h
    cases h
  · rw [List.isPrefixOf_iff_prefix.2 hle] at h'
    cases h'

theorem strip_start_none {start s : List Char} (h : strip_start start s = none) (more : List Char) :
    strip_start (start ++ more) s = none := by
  rw [Option.eq_none_iff_forall_not_mem] at h ⊢
  intro rest hrest
  refine h (more ++ rest) (strip_start_eq_some.2 ?_)
  rw [strip_start_eq_some.1 hrest, List.append_assoc]

theorem parse_decimal {bound n : Nat} (h : n < bound) : parse_unsigned bound (Nat.toDigits 10 n) = some n := by
  have hdigits : ∀ c ∈ Nat.toDigits 10 n, c.isDigit := fun c hmem => Nat.isDigit_of_mem_toDigits (by decide) (by decide) hmem
  have hplus : (Nat.toDigits 10 n).head? ≠ some '+' := by
    intro hhead
    have hdigit := hdigits '+' (List.mem_of_head? hhead)
    cases hdigit
  have hall : (Nat.toDigits 10 n).all Char.isDigit = true := List.all_eq_true.2 hdigits
  simp [parse_unsigned, hplus, hall, h]

/-- A number has no character that ends a field or a line. -/
theorem notMem_decimal {c : Char} (hc : c.isDigit = false) (n : Nat) : c ∉ Nat.toDigits 10 n := by
  intro hmem
  have hdigit := Nat.isDigit_of_mem_toDigits (by decide) (by decide) hmem
  rw [hc] at hdigit
  cases hdigit

theorem notMem_intercalate {c sep : Char} (hsep : c ≠ sep) {fields : List (List Char)} (h : ∀ field ∈ fields, c ∉ field) :
    c ∉ [sep].intercalate fields := by
  induction fields with
  | nil => simp
  | cons field fields ih =>
    have hfield := h field List.mem_cons_self
    have hrest := ih fun field' hmem => h field' (List.mem_cons_of_mem _ hmem)
    cases fields with
    | nil => simpa using hfield
    | cons next fields =>
      rw [List.intercalate_cons_cons]
      simp [hfield, hsep, hrest]

theorem isLine_of_notMem {line : List Char} (hend : '\n' ∉ line) (hreturn : '\r' ∉ line) : IsLine line :=
  ⟨hend, fun hlast => hreturn (List.mem_of_getLast? hlast)⟩

theorem chomp_line {line : List Char} (h : IsLine line) : chomp line = line := if_neg h.last

theorem lines_nil : lines [] = [] := by simp [lines]

theorem lines_cons {line : List Char} (h : IsLine line) (rest : List Char) : lines (line ++ '\n' :: rest) = line :: lines rest := by
  have hsplit : (line ++ '\n' :: rest).splitOn '\n' = line :: rest.splitOn '\n' := by
    refine List.splitOn_append_cons_of_forall_mem_beq_eq_false (fun c hmem => ?_) '\n' (by decide) rest
    exact beq_false_of_ne fun heq => h.one (heq ▸ hmem)
  have hne : rest.splitOn '\n' ≠ [] := List.splitOn_ne_nil _ _
  rw [lines, lines, hsplit]
  simp [List.dropLast_cons_of_ne_nil hne, List.getLast?_cons_of_ne_nil hne, chomp_line h]

/-- A stream of lines is read as these lines. -/
theorem lines_flatMap (printed : List (List Char)) (h : ∀ line ∈ printed, IsLine line) :
    lines (printed.flatMap fun line => line ++ ['\n']) = printed := by
  induction printed with
  | nil => exact lines_nil
  | cons line rest ih =>
    rw [List.flatMap_cons, List.append_assoc, List.singleton_append, lines_cons (h line List.mem_cons_self),
      ih fun line' hmem => h line' (List.mem_cons_of_mem _ hmem)]

theorem isLine_append {start rest : List Char} (hstart : '\n' ∉ start) (hrest : IsLine rest) (hlast : start.getLast? ≠ some '\r') :
    IsLine (start ++ rest) where
  one hmem := (List.mem_append.1 hmem).elim hstart hrest.one
  last := by
    cases rest with
    | nil =>
      rw [List.append_nil]
      exact hlast
    | cons c rest =>
      rw [List.getLast?_append_of_ne_nil _ (List.cons_ne_nil _ _)]
      exact hrest.last

end Text
