import Mathlib
/-!
# Edges on switches

A list of edges sets named switches on or off, one after the other. `play` is the state
the switches end in, `Alternates` says that every edge changes its switch. Both look at
one switch at a time, so they do not care how the edges of different switches interleave.
-/

namespace Edges

section Play
variable {α κ : Type} [DecidableEq κ] (key : α → κ) (on : α → Bool)

/-- The switches after the edges `es`, starting from `st`. -/
def play (st : κ → Bool) (es : List α) : κ → Bool :=
  es.foldl (fun st e => Function.update st (key e) (on e)) st

@[simp] theorem play_nil (st : κ → Bool) : play key on st [] = st := rfl

@[simp] theorem play_cons (st : κ → Bool) (e : α) (es : List α) :
    play key on st (e :: es) = play key on (Function.update st (key e) (on e)) es := rfl

@[simp] theorem play_append (st : κ → Bool) (xs ys : List α) :
    play key on st (xs ++ ys) = play key on (play key on st xs) ys := by
  simp [play, List.foldl_append]

/-- Only the edges of switch `k` matter to switch `k`. -/
theorem play_eq_last (st : κ → Bool) (es : List α) (k : κ) :
    play key on st es k = ((es.filter (key · = k)).getLast?.map on).getD (st k) := by
  induction es generalizing st with
  | nil => rfl
  | cons e es ih =>
    rw [play_cons, ih]
    by_cases h : key e = k
    · subst h
      simp only [List.filter_cons, decide_true, if_true, Function.update_self]
      cases hl : (es.filter (key · = key e)).getLast? with
      | none => rw [List.getLast?_eq_none_iff] at hl; simp [hl]
      | some x => simp [List.getLast?_cons, hl]
    · simp [h, Function.update_of_ne (Ne.symm h)]

theorem play_congr {st st' : κ → Bool} {es es' : List α} {k : κ} (hs : st k = st' k)
    (he : es.filter (key · = k) = es'.filter (key · = k)) :
    play key on st es k = play key on st' es' k := by
  rw [play_eq_last, play_eq_last, hs, he]

/-- A switch no edge names stays as it was. -/
theorem play_untouched (st : κ → Bool) (es : List α) (k : κ) (h : ∀ e ∈ es, key e ≠ k) :
    play key on st es k = st k := by
  have hnone : es.filter (key · = k) = [] := by simpa using h
  simp [play_eq_last, hnone]

end Play

/-! ## Strict alternation -/

/-- The edges of one switch each change it, starting from `b`. -/
def Alternates (b : Bool) : List Bool → Prop
  | [] => True
  | d :: ds => d = !b ∧ Alternates d ds

/-- The state of one switch after its edges. -/
def last (b : Bool) (ds : List Bool) : Bool := ds.getLast?.getD b

@[simp] theorem alternates_nil (b : Bool) : Alternates b [] := trivial

@[simp] theorem alternates_cons (b d : Bool) (ds : List Bool) :
    Alternates b (d :: ds) ↔ d = (!b) ∧ Alternates d ds := Iff.rfl

@[simp] theorem last_nil (b : Bool) : last b [] = b := rfl

@[simp] theorem last_cons (b d : Bool) (ds : List Bool) : last b (d :: ds) = last d ds := by
  cases ds using List.reverseRecOn with
  | nil => rfl
  | append_singleton ds d' => simp [last, List.getLast?_cons]

@[simp] theorem last_append (b : Bool) (xs ys : List Bool) : last b (xs ++ ys) = last (last b xs) ys := by
  induction xs generalizing b with
  | nil => rfl
  | cons x xs ih => simp [ih]

theorem alternates_append (b : Bool) (xs ys : List Bool) :
    Alternates b (xs ++ ys) ↔ Alternates b xs ∧ Alternates (last b xs) ys := by
  induction xs generalizing b with
  | nil => simp
  | cons x xs ih => simp [ih, and_assoc]

/-- An edge that changes the switch extends an alternating list. -/
theorem alternates_concat {b d : Bool} {ds : List Bool} (h : Alternates b ds) (hd : last b ds ≠ d) :
    Alternates b (ds ++ [d]) := by
  rw [alternates_append]
  refine ⟨h, ?_, trivial⟩
  cases d <;> cases hl : last b ds <;> simp_all

/-- Dropping the newest edge of a non-empty alternating list turns its final state over. -/
theorem last_dropLast {b d : Bool} {ds : List Bool} (h : Alternates b (ds ++ [d])) :
    last b ds = !d := by
  rw [alternates_append] at h
  obtain ⟨-, h, -⟩ := h
  simp [h]

section Lanes
variable {α κ : Type} [DecidableEq κ] (key : α → κ) (on : α → Bool)

/-- What one switch's edges do, in order. -/
def track (es : List α) (k : κ) : List Bool := (es.filter (key · = k)).map on

@[simp] theorem track_nil (k : κ) : track key on [] k = [] := rfl

@[simp] theorem track_append (xs ys : List α) (k : κ) :
    track key on (xs ++ ys) k = track key on xs k ++ track key on ys k := by
  simp [track]

theorem track_cons (e : α) (es : List α) (k : κ) :
    track key on (e :: es) k = if key e = k then on e :: track key on es k else track key on es k := by
  by_cases h : key e = k <;> simp [track, h]

theorem play_eq_track (st : κ → Bool) (es : List α) (k : κ) :
    play key on st es k = last (st k) (track key on es k) := by
  rw [play_eq_last]
  simp [last, track, List.getLast?_map]

omit [DecidableEq κ] in
/-- Where no marked element that satisfies `p` stands behind an unmarked one that does, the marked ones
are the first of them. -/
theorem filter_partition {marked : List (α × Bool)} {p : α → Bool}
    (h : marked.Pairwise fun a b => a.2 = false → b.2 = true → p a.1 = true → p b.1 = false) :
    (marked.map (·.1)).filter p =
      ((marked.filter (·.2)).map (·.1)).filter p ++ ((marked.filter (!·.2)).map (·.1)).filter p := by
  induction marked with
  | nil => rfl
  | cons a marked ih =>
    obtain ⟨hhead, htail⟩ := List.pairwise_cons.1 h
    obtain ⟨e, b⟩ := a
    cases b with
    | true =>
      simp only [List.map_cons, List.filter_cons, Bool.not_true, Bool.false_eq_true, if_true, if_false, ih htail]
      split <;> rfl
    | false =>
      simp only [List.map_cons, List.filter_cons, Bool.not_false, Bool.false_eq_true, if_true, if_false, ih htail]
      split
      · rename_i he
        have hnone : ((marked.filter (·.2)).map (·.1)).filter p = [] := by
          simp only [List.filter_eq_nil_iff, List.mem_map, List.mem_filter, forall_exists_index, and_imp]
          rintro _ ⟨x, m⟩ hx hm rfl
          simp [hhead _ hx rfl hm he]
        simp [hnone]
      · rfl

end Lanes

end Edges
