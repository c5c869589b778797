import Mathlib.Data.List.Basic
/-!
# Programs that call a system

A program is a tree: it is done, it has failed, or it makes a call and goes on with the answer. Any
call may fail. What the system answers, and what others do to it between two calls, is a `Machine`.
-/

namespace Calls

/-- `Ret op` is what call `op` answers when it succeeds, `ω` how a call fails and `ε` how the program does. -/
inductive Prog (Op : Type) (Ret : Op → Type) (ω ε α : Type)
  | ok (a : α)
  | error (e : ε)
  | call (op : Op) (next : Except ω (Ret op) → Prog Op Ret ω ε α)

variable {Op : Type} {Ret : Op → Type} {ω ε α β S E : Type}

namespace Prog

def bind : Prog Op Ret ω ε α → (α → Prog Op Ret ω ε β) → Prog Op Ret ω ε β
  | ok a, f => f a
  | error e, _ => error e
  | call op next, f => call op fun r => (next r).bind f

instance : Monad (Prog Op Ret ω ε) where
  pure := ok
  bind := bind

def ofExcept : Except ε α → Prog Op Ret ω ε α
  | .ok a => ok a
  | .error e => error e

/-- A call whose failure the program looks at. -/
def attempted (op : Op) : Prog Op Ret ω ε (Except ω (Ret op)) := call op ok

/-- A call whose failure is the program's. -/
def ask (op : Op) : Prog Op Ret ω ω (Ret op) := call op ofExcept

/-- The result as a value, whether it is an error or not. -/
def attempt : Prog Op Ret ω ε α → Prog Op Ret ω ε (Except ε α)
  | ok a => ok (.ok a)
  | error e => ok (.error e)
  | call op next => call op fun r => (next r).attempt

/-- The program with its error changed. -/
def map_err {ε' : Type} (f : ε → ε') : Prog Op Ret ω ε α → Prog Op Ret ω ε' α
  | ok a => ok a
  | error e => error (f e)
  | call op next => call op fun r => (next r).map_err f

/-- The result when call `op` succeeds with `told op`. -/
def eval (told : (op : Op) → Ret op) : Prog Op Ret ω ε α → Except ε α
  | ok a => .ok a
  | error e => .error e
  | call op next => (next (.ok (told op))).eval told

theorem eval_bind (told : (op : Op) → Ret op) (p : Prog Op Ret ω ε α) (f : α → Prog Op Ret ω ε β) :
    (p.bind f).eval told = (p.eval told).bind fun a => (f a).eval told := by
  induction p with
  | ok a => rfl
  | error e => rfl
  | call op next ih => exact ih _

theorem bind_assoc {γ : Type} (p : Prog Op Ret ω ε α) (f : α → Prog Op Ret ω ε β) (g : β → Prog Op Ret ω ε γ) :
    (p >>= f) >>= g = p >>= fun a => f a >>= g := by
  induction p with
  | ok a => rfl
  | error e => rfl
  | call op next ih => exact congrArg (call op) (funext ih)

theorem bind_ok (p : Prog Op Ret ω ε α) : p >>= ok = p := by
  induction p with
  | ok a => rfl
  | error e => rfl
  | call op next ih => exact congrArg (call op) (funext ih)

/-- The result, and the state it is reached in, when every call is answered by `answer`. -/
def run (answer : S → (op : Op) → Except ω (Ret op) × S) : Prog Op Ret ω ε α → S → Except ε α × S
  | ok a, s => (.ok a, s)
  | error e, s => (.error e, s)
  | call op next, s => (next (answer s op).1).run answer (answer s op).2

section
variable {answer : S → (op : Op) → Except ω (Ret op) × S}

@[simp] theorem run_ok (a : α) (s : S) : (ok a : Prog Op Ret ω ε α).run answer s = (.ok a, s) := rfl
@[simp] theorem run_error (e : ε) (s : S) : (error e : Prog Op Ret ω ε α).run answer s = (.error e, s) := rfl
@[simp] theorem run_attempted (op : Op) (s : S) :
    (attempted op : Prog Op Ret ω ε _).run answer s = (.ok (answer s op).1, (answer s op).2) := rfl

@[simp] theorem run_attempted_bind (op : Op) (f : Except ω (Ret op) → Prog Op Ret ω ε β) (s : S) :
    (attempted op >>= f).run answer s = (f (answer s op).1).run answer (answer s op).2 := rfl

theorem run_call (op : Op) (next : Except ω (Ret op) → Prog Op Ret ω ε α) (s : S) :
    (call op next).run answer s = (next (answer s op).1).run answer (answer s op).2 := rfl

theorem run_bind_of_ok {p : Prog Op Ret ω ε α} {f : α → Prog Op Ret ω ε β} {s s' : S} {a : α}
    (hp : p.run answer s = (.ok a, s')) : (p >>= f).run answer s = (f a).run answer s' := by
  induction p generalizing s with
  | ok a' => cases hp; rfl
  | error e => cases hp
  | call op next ih => exact ih _ hp

theorem run_bind_of_error {p : Prog Op Ret ω ε α} {f : α → Prog Op Ret ω ε β} {s s' : S} {e : ε}
    (hp : p.run answer s = (.error e, s')) : (p >>= f).run answer s = (.error e, s') := by
  induction p generalizing s with
  | ok a' => cases hp
  | error e' => cases hp; rfl
  | call op next ih => exact ih _ hp

theorem run_bind_congr {p q : Prog Op Ret ω ε α} {f : α → Prog Op Ret ω ε β} {s : S} (h : p.run answer s = q.run answer s) :
    (p >>= f).run answer s = (q >>= f).run answer s := by
  rcases hp : p.run answer s with ⟨e | a, s'⟩
  · rw [run_bind_of_error hp, run_bind_of_error (h.symm.trans hp)]
  · rw [run_bind_of_ok hp, run_bind_of_ok (h.symm.trans hp)]

/-- A result comes after the first part's. -/
theorem run_bind_ok {p : Prog Op Ret ω ε α} {f : α → Prog Op Ret ω ε β} {s s' : S} {b : β}
    (h : (p >>= f).run answer s = (.ok b, s')) :
    ∃ a s₁, p.run answer s = (.ok a, s₁) ∧ (f a).run answer s₁ = (.ok b, s') := by
  induction p generalizing s with
  | ok a' => exact ⟨a', s, rfl, h⟩
  | error e' => cases h
  | call op next ih => exact ih _ h

end

def error? : Prog Op Ret ω ε α → Option ε
  | error e => some e
  | _ => none

theorem eq_error {p : Prog Op Ret ω ε α} {e : ε} (h : p.error? = some e) : p = error e := by
  cases p with
  | ok a => cases h
  | error e' => rw [Option.some.inj h]
  | call op next => cases h

@[simp] theorem ok_bind (a : α) (f : α → Prog Op Ret ω ε β) : (ok a >>= f) = f a := rfl
theorem call_bind (op : Op) (next : Except ω (Ret op) → Prog Op Ret ω ε α) (f : α → Prog Op Ret ω ε β) :
    (call op next >>= f) = call op fun r => next r >>= f := rfl
@[simp] theorem pure_bind (a : α) (f : α → Prog Op Ret ω ε β) : (pure a >>= f) = f a := rfl
@[simp] theorem error_bind (e : ε) (f : α → Prog Op Ret ω ε β) : (error e >>= f) = error e := rfl
@[simp] theorem pure_eq (a : α) : (pure a : Prog Op Ret ω ε α) = ok a := rfl

end Prog

/-- A call and its answer. -/
abbrev Event (Op : Type) (Ret : Op → Type) (ω : Type) := (op : Op) × Except ω (Ret op)

/-! ## Assertions

Histories have the last event first. -/

section
variable (answers : S → (op : Op) → Except ω (Ret op) → S → Prop)

/-- From state `s` with history `h`, every call `p` makes meets `D` and every result meets `Q`. -/
def Holds (D : S → List (Event Op Ret ω) → Op → Prop) (Q : S → List (Event Op Ret ω) → Except ε α → Prop) :
    S → List (Event Op Ret ω) → Prog Op Ret ω ε α → Prop
  | s, h, .ok a => Q s h (.ok a)
  | s, h, .error e => Q s h (.error e)
  | s, h, .call op next => D s h op ∧ ∀ r s', answers s op r s' → Holds D Q s' (⟨op, r⟩ :: h) (next r)

variable {answers} {D : S → List (Event Op Ret ω) → Op → Prop} {Q : S → List (Event Op Ret ω) → Except ε α → Prop}

theorem holds_mono {D' : S → List (Event Op Ret ω) → Op → Prop} {Q' : S → List (Event Op Ret ω) → Except ε α → Prop}
    {s : S} {h : List (Event Op Ret ω)} {p : Prog Op Ret ω ε α} (hp : Holds answers D Q s h p)
    (hD : ∀ s h op, D s h op → D' s h op) (hQ : ∀ s h r, Q s h r → Q' s h r) : Holds answers D' Q' s h p := by
  induction p generalizing s h with
  | ok a => exact hQ _ _ _ hp
  | error e => exact hQ _ _ _ hp
  | call op next ih =>
    obtain ⟨hd, hnext⟩ := hp
    exact ⟨hD _ _ _ hd, fun r s' ha => ih r (hnext r s' ha)⟩

/-- The rest of a program runs from wherever its first part ends. -/
theorem holds_bind {Q : S → List (Event Op Ret ω) → Except ε β → Prop} {s : S} {h : List (Event Op Ret ω)}
    {p : Prog Op Ret ω ε α} {f : α → Prog Op Ret ω ε β}
    (hp : Holds answers D (fun s h r => match r with
      | .ok a => Holds answers D Q s h (f a)
      | .error e => Q s h (.error e)) s h p) : Holds answers D Q s h (p >>= f) := by
  induction p generalizing s h with
  | ok a => exact hp
  | error e => exact hp
  | call op next ih => exact ⟨hp.1, fun r s' ha => ih r (hp.2 r s' ha)⟩

theorem holds_attempt {Q : S → List (Event Op Ret ω) → Except ε (Except ε α) → Prop} {s : S} {h : List (Event Op Ret ω)}
    {p : Prog Op Ret ω ε α} (hp : Holds answers D (fun s h r => Q s h (.ok r)) s h p) :
    Holds answers D Q s h p.attempt := by
  induction p generalizing s h with
  | ok a => exact hp
  | error e => exact hp
  | call op next ih => exact ⟨hp.1, fun r s' ha => ih r (hp.2 r s' ha)⟩

theorem holds_map_err {ε' : Type} {e' : ε → ε'} {Q : S → List (Event Op Ret ω) → Except ε' α → Prop} {s : S}
    {h : List (Event Op Ret ω)} {p : Prog Op Ret ω ε α}
    (hp : Holds answers D (fun s h r => Q s h (r.mapError e')) s h p) : Holds answers D Q s h (p.map_err e') := by
  induction p generalizing s h with
  | ok a => exact hp
  | error e => exact hp
  | call op next ih => exact ⟨hp.1, fun r s' ha => ih r (hp.2 r s' ha)⟩

/-- A history only grows. -/
theorem holds_suffix {s : S} {h h₀ : List (Event Op Ret ω)} {p : Prog Op Ret ω ε α} (hs : h₀ <:+ h)
    (hp : Holds answers D Q s h p) : Holds answers D (fun s h' r => h₀ <:+ h' ∧ Q s h' r) s h p := by
  induction p generalizing s h with
  | ok a => exact ⟨hs, hp⟩
  | error e => exact ⟨hs, hp⟩
  | call op next ih =>
    exact ⟨hp.1, fun r s' ha => ih r (hs.trans (List.suffix_cons _ _)) (hp.2 r s' ha)⟩

end

/-! ## Runs -/

/-- What a call can do to the state, and what others can do to it in between. -/
structure Machine (Op : Type) (Ret : Op → Type) (ω S E : Type) where
  answers : S → (op : Op) → Except ω (Ret op) → S → Prop
  edits : S → E → S → Prop

inductive Moment (Op : Type) (Ret : Op → Type) (ω E : Type)
  | called (event : Event Op Ret ω)
  | edited (edit : E)

/-- The calls of a run. -/
def calls : List (Moment Op Ret ω E) → List (Event Op Ret ω)
  | [] => []
  | .called event :: t => event :: calls t
  | .edited _ :: t => calls t

/-- How far program `p₀` can get from state `s₀`: what happened, the state, and the program left. -/
inductive Runs (m : Machine Op Ret ω S E) (s₀ : S) (p₀ : Prog Op Ret ω ε α) :
    List (Moment Op Ret ω E) → S → Prog Op Ret ω ε α → Prop
  | start : Runs m s₀ p₀ [] s₀ p₀
  | called {t : List (Moment Op Ret ω E)} {s s' : S} {op : Op} {next : Except ω (Ret op) → Prog Op Ret ω ε α}
      {r : Except ω (Ret op)} : Runs m s₀ p₀ t s (.call op next) → m.answers s op r s' →
      Runs m s₀ p₀ (.called ⟨op, r⟩ :: t) s' (next r)
  | edited {t : List (Moment Op Ret ω E)} {s s' : S} {p : Prog Op Ret ω ε α} {e : E} : Runs m s₀ p₀ t s p →
      m.edits s e s' → Runs m s₀ p₀ (.edited e :: t) s' p

/-- Up to `n` calls of a program, each answered by `answer`. -/
def play (answer : S → (op : Op) → Except ω (Ret op) × S) :
    Nat → List (Moment Op Ret ω E) × S × Prog Op Ret ω ε α → List (Moment Op Ret ω E) × S × Prog Op Ret ω ε α
  | n + 1, (t, s, .call op next) => play answer n (.called ⟨op, (answer s op).1⟩ :: t, (answer s op).2, next (answer s op).1)
  | _, x => x

theorem Runs.play {m : Machine Op Ret ω S E} {answer : S → (op : Op) → Except ω (Ret op) × S}
    (ha : ∀ s op, m.answers s op (answer s op).1 (answer s op).2) {s₀ s : S} {p₀ p : Prog Op Ret ω ε α}
    {t : List (Moment Op Ret ω E)} (hr : Runs m s₀ p₀ t s p) (n : Nat) :
    Runs m s₀ p₀ (play answer n (t, s, p)).1 (play answer n (t, s, p)).2.1 (play answer n (t, s, p)).2.2 := by
  induction n generalizing t s p with
  | zero => exact hr
  | succ n ih =>
    cases p with
    | ok a => exact hr
    | error e => exact hr
    | call op next => exact ih (.called hr (ha s op))

theorem play_append (answer : S → (op : Op) → Except ω (Ret op) × S) (n : Nat) (t t₀ : List (Moment Op Ret ω E)) (s : S)
    (p : Prog Op Ret ω ε α) :
    play answer n (t ++ t₀, s, p) = ((play answer n (t, s, p)).1 ++ t₀, (play answer n (t, s, p)).2) := by
  induction n generalizing t s p with
  | zero => rfl
  | succ n ih =>
    cases p with
    | ok a => rfl
    | error e => rfl
    | call op next => exact ih (.called ⟨op, (answer s op).1⟩ :: t) _ _

/-- Nobody else edits while a program is played. -/
theorem mem_play {answer : S → (op : Op) → Except ω (Ret op) × S} {n : Nat} {t : List (Moment Op Ret ω E)} {s : S}
    {p : Prog Op Ret ω ε α} {e : E} (h : .edited e ∈ (play answer n (t, s, p)).1) : .edited e ∈ t := by
  induction n generalizing t s p with
  | zero => exact h
  | succ n ih =>
    cases p with
    | ok a => exact h
    | error e => exact h
    | call op next =>
      rcases List.mem_cons.1 (ih h) with hcalled | hearlier
      · cases hcalled
      · exact hearlier

/-- Assertions that others' edits keep hold throughout a run. -/
theorem Runs.holds {m : Machine Op Ret ω S E} {D : S → List (Event Op Ret ω) → Op → Prop}
    {Q : S → List (Event Op Ret ω) → Except ε α → Prop} {s₀ s : S} {p₀ p : Prog Op Ret ω ε α}
    {t : List (Moment Op Ret ω E)} (hr : Runs m s₀ p₀ t s p)
    (he : ∀ s e s' h (q : Prog Op Ret ω ε α), m.edits s e s' → Holds m.answers D Q s h q → Holds m.answers D Q s' h q)
    (hp : Holds m.answers D Q s₀ [] p₀) : Holds m.answers D Q s (calls t) p := by
  induction hr with
  | start => exact hp
  | called _ ha ih => exact ih.2 _ _ ha
  | edited _ hedit ih => exact he _ _ _ _ _ hedit ih

/-- Assertions about a part of the state that others do not edit hold throughout a run. -/
theorem Runs.holds_view {V : Type} {m : Machine Op Ret ω S E} {answers : V → (op : Op) → Except ω (Ret op) → V → Prop}
    {D : V → List (Event Op Ret ω) → Op → Prop} {Q : V → List (Event Op Ret ω) → Except ε α → Prop} (view : S → V)
    (ha : ∀ s op r s', m.answers s op r s' → answers (view s) op r (view s')) (he : ∀ s e s', m.edits s e s' → view s' = view s)
    {s₀ s : S} {p₀ p : Prog Op Ret ω ε α} {t : List (Moment Op Ret ω E)} (hr : Runs m s₀ p₀ t s p)
    (hp : Holds answers D Q (view s₀) [] p₀) : Holds answers D Q (view s) (calls t) p := by
  induction hr with
  | start => exact hp
  | called _ hanswer ih => exact ih.2 _ _ (ha _ _ _ _ hanswer)
  | edited _ hedit ih =>
    rw [he _ _ _ hedit]
    exact ih

/-- What an edit brings about and every later step keeps, still holds; and each later call saw it. -/
theorem Runs.since_edit {m : Machine Op Ret ω S E} {P : S → Prop} {s₀ s : S} {p₀ p : Prog Op Ret ω ε α}
    {t t₁ t₂ : List (Moment Op Ret ω E)} {e : E} (hr : Runs m s₀ p₀ t s p) (ht : t = t₂ ++ .edited e :: t₁)
    (hset : ∀ s s', m.edits s e s' → P s')
    (hedits : ∀ s e' s', .edited e' ∈ t₂ → m.edits s e' s' → P s → P s')
    (hcalls : ∀ t' s op next r s', t' <:+ t → Runs m s₀ p₀ t' s (.call op next) → m.answers s op r s' → P s → P s') :
    P s ∧ ∀ event, .called event ∈ t₂ → ∃ s s', P s ∧ m.answers s event.1 event.2 s' := by
  induction hr generalizing t₂ with
  | start => simp at ht
  | called hrun ha ih =>
    cases t₂ with
    | nil => cases ht
    | cons moment t₂ =>
      obtain ⟨rfl, rfl⟩ := List.cons.inj ht
      obtain ⟨hp, hsaw⟩ := ih rfl (fun s e' s' he => hedits s e' s' (List.mem_cons_of_mem _ he))
        fun t' s op next r s' hs => hcalls t' s op next r s' (hs.trans (List.suffix_cons _ _))
      refine ⟨hcalls _ _ _ _ _ _ (List.suffix_cons _ _) hrun ha hp, fun event he => ?_⟩
      rcases List.mem_cons.1 he with hnow | he
      · obtain rfl := Moment.called.inj hnow
        exact ⟨_, _, hp, ha⟩
      · exact hsaw event he
  | edited hrun he ih =>
    cases t₂ with
    | nil =>
      obtain ⟨hhead, rfl⟩ := List.cons.inj ht
      obtain rfl := Moment.edited.inj hhead
      exact ⟨hset _ _ he, fun event hevent => (by cases hevent)⟩
    | cons moment t₂ =>
      obtain ⟨rfl, rfl⟩ := List.cons.inj ht
      obtain ⟨hp, hsaw⟩ := ih rfl (fun s e' s' hmem => hedits s e' s' (List.mem_cons_of_mem _ hmem))
        fun t' s op next r s' hs => hcalls t' s op next r s' (hs.trans (List.suffix_cons _ _))
      refine ⟨hedits _ _ _ List.mem_cons_self he hp, fun event hevent => ?_⟩
      rcases List.mem_cons.1 hevent with hnow | hevent
      · cases hnow
      · exact hsaw event hevent

theorem mem_calls {t : List (Moment Op Ret ω E)} {event : Event Op Ret ω} : event ∈ calls t ↔ .called event ∈ t := by
  induction t with
  | nil => simp [calls]
  | cons moment t ih => cases moment <;> simp [calls, ih]

theorem calls_suffix {t t' : List (Moment Op Ret ω E)} (h : t' <:+ t) : calls t' <:+ calls t := by
  obtain ⟨t₂, rfl⟩ := h
  induction t₂ with
  | nil => exact List.suffix_refl _
  | cons moment t₂ ih =>
    cases moment with
    | called _ => exact ih.trans (List.suffix_cons _ _)
    | edited _ => exact ih

/-! ## Assertions about calls alone -/

/-- Any answer may come. -/
def Anything (_ : Unit) (op : Op) (_ : Except ω (Ret op)) (_ : Unit) : Prop := True

/-- Whatever is answered, every call of `p` meets `D` and every result meets `Q`. -/
abbrev Always (D : List (Event Op Ret ω) → Op → Prop) (Q : List (Event Op Ret ω) → Except ε α → Prop)
    (h : List (Event Op Ret ω)) (p : Prog Op Ret ω ε α) : Prop :=
  Holds Anything (fun _ => D) (fun _ => Q) () h p

section
variable {D : List (Event Op Ret ω) → Op → Prop} {h : List (Event Op Ret ω)}

theorem always_mono {D' : List (Event Op Ret ω) → Op → Prop} {Q Q' : List (Event Op Ret ω) → Except ε α → Prop}
    {p : Prog Op Ret ω ε α} (hp : Always D Q h p) (hD : ∀ h op, D h op → D' h op) (hQ : ∀ h r, Q h r → Q' h r) :
    Always D' Q' h p :=
  holds_mono hp (fun _ => hD) fun _ => hQ

/-- A history only grows. -/
theorem always_suffix {Q : List (Event Op Ret ω) → Except ε α → Prop} {p : Prog Op Ret ω ε α} {h₀ : List (Event Op Ret ω)}
    (hs : h₀ <:+ h) (hp : Always D Q h p) :
    Always (fun h' op => h₀ <:+ h' ∧ D h' op) (fun h' r => h₀ <:+ h' ∧ Q h' r) h p := by
  induction p generalizing h with
  | ok a => exact ⟨hs, hp⟩
  | error e => exact ⟨hs, hp⟩
  | call op next ih => exact ⟨⟨hs, hp.1⟩, fun r s' ha => ih r (hs.trans (List.suffix_cons _ _)) (hp.2 r s' ha)⟩

theorem always_bind {Q : List (Event Op Ret ω) → Except ε β → Prop} {p : Prog Op Ret ω ε α} {f : α → Prog Op Ret ω ε β}
    (hp : Always D (fun h r => match r with | .ok a => Always D Q h (f a) | .error e => Q h (.error e)) h p) :
    Always D Q h (p >>= f) :=
  holds_bind hp

theorem always_ask {op : Op} {Q : List (Event Op Ret ω) → Except ω β → Prop} {f : Ret op → Prog Op Ret ω ω β}
    (hd : D h op) (herror : ∀ e, Q (⟨op, .error e⟩ :: h) (.error e))
    (hok : ∀ a, Always D Q (⟨op, .ok a⟩ :: h) (f a)) : Always D Q h (Prog.ask op >>= f) := by
  refine ⟨hd, fun r s' _ => ?_⟩
  cases r with
  | ok a => exact hok a
  | error e => exact herror e

theorem always_attempt {Q : List (Event Op Ret ω) → Except ε β → Prop} {p : Prog Op Ret ω ε α}
    {f : Except ε α → Prog Op Ret ω ε β} (hp : Always D (fun h r => Always D Q h (f r)) h p) :
    Always D Q h (p.attempt >>= f) :=
  holds_bind (holds_attempt hp)

theorem always_attempt_ask {op : Op} {Q : List (Event Op Ret ω) → Except ω β → Prop}
    {f : Except ω (Ret op) → Prog Op Ret ω ω β} (hd : D h op) (hf : ∀ r, Always D Q (⟨op, r⟩ :: h) (f r)) :
    Always D Q h ((Prog.ask op).attempt >>= f) := by
  refine ⟨hd, fun r s' _ => ?_⟩
  cases r with
  | ok a => exact hf (.ok a)
  | error e => exact hf (.error e)

end

theorem Runs.always {m : Machine Op Ret ω S E} {D : List (Event Op Ret ω) → Op → Prop}
    {Q : List (Event Op Ret ω) → Except ε α → Prop} {s₀ s : S} {p₀ p : Prog Op Ret ω ε α}
    {t : List (Moment Op Ret ω E)} (hr : Runs m s₀ p₀ t s p) (hp : Always D Q [] p₀) : Always D Q (calls t) p := by
  induction hr with
  | start => exact hp
  | called _ _ ih => exact ih.2 _ () trivial
  | edited _ _ ih => exact ih

end Calls
