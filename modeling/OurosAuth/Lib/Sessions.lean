import Mathlib.Data.List.Basic

namespace Sessions

/-!
# Sessions with a peer that may fail

A program talks to a peer by commands; the peer answers each, or an exception comes back in place of
the answer.  What a program does is the list of its **exchanges**, newest first.

* `issue`, `raise`, `recover`, `ensuring`, `within` — a command, `raise`, `except`, `finally` and a
  `with` block;
* `Triple` — from exchanges with `P` a program returns with `Q` or raises with `E`;
* `Triple.bind`, `Triple.issue`, `Triple.recover`, `Triple.ensuring`, `Triple.within` — one rule for
  each of them.
-/

universe u

variable {ι ε α β : Type u}

/-- A command and what came back: `none` for an answer. -/
abbrev Exchange (ι ε : Type u) := ι × Option ε

/-- What comes back for a command, after these exchanges. -/
abbrev Peer (ι ε : Type u) := List (Exchange ι ε) → ι → Option ε

/-- A program: from the exchanges so far to how it ends and the exchanges after it. -/
def Session (ι ε α : Type u) := List (Exchange ι ε) → Except ε α × List (Exchange ι ε)

instance : Monad (Session ι ε) where
  pure a := fun past => (.ok a, past)
  bind m f := fun past =>
    match m past with
    | (.ok a, past') => f a past'
    | (.error e, past') => (.error e, past')

/-- Send a command and wait for what comes back. -/
def issue (peer : Peer ι ε) (command : ι) : Session ι ε PUnit := fun past =>
  match peer past command with
  | none => (.ok ⟨⟩, (command, none) :: past)
  | some e => (.error e, (command, some e) :: past)

/-- `raise` -/
def raise (e : ε) : Session ι ε α := fun past => (.error e, past)

/-- `try: m` with a handler for the exceptions that `handled` names. -/
def recover (m : Session ι ε α) (handled : ε → Option α) : Session ι ε α := fun past =>
  match m past with
  | (.error e, past') =>
    match handled e with
    | some a => (.ok a, past')
    | none => (.error e, past')
  | r => r

/-- `try: m` with `final` in the `finally` block, and the exit of a `with` block: it runs however
    `m` ends, and an exception of its own takes the place of the one before. -/
def ensuring (m : Session ι ε α) (final : Session ι ε PUnit) : Session ι ε α := fun past =>
  match m past with
  | (r, past') =>
    match final past' with
    | (.ok _, past'') => (r, past'')
    | (.error e, past'') => (.error e, past'')

/-- `async with`: `m` in a block whose exit is told which exception `m` raised, if it did. -/
def within (m : Session ι ε α) (exit : Option ε → Session ι ε PUnit) : Session ι ε α := fun past =>
  match (m past).1 with
  | .ok _ => ensuring m (exit none) past
  | .error e => ensuring m (exit (some e)) past

/-! ### How a program runs -/

variable {past past' past'' : List (Exchange ι ε)} {m : Session ι ε α} {n : Session ι ε β}
  {f : β → Session ι ε α} {a : α} {b : β} {e : ε} {peer : Peer ι ε} {command : ι}
  {handled : ε → Option α} {final : Session ι ε PUnit} {r : Except ε α}

theorem bind_ok (h : n past = (.ok b, past')) : (n >>= f) past = f b past' := by
  simp only [Bind.bind, h]

theorem bind_error (h : n past = (.error e, past')) : (n >>= f) past = (.error e, past') := by
  simp only [Bind.bind, h]

theorem issue_answered (h : peer past command = none) :
    issue peer command past = (.ok ⟨⟩, (command, none) :: past) := by
  simp only [issue, h]

theorem issue_raised (h : peer past command = some e) :
    issue peer command past = (.error e, (command, some e) :: past) := by
  simp only [issue, h]

theorem recover_ok (h : m past = (.ok a, past')) : recover m handled past = (.ok a, past') := by
  simp only [recover, h]

theorem recover_handled (h : m past = (.error e, past')) (he : handled e = some a) :
    recover m handled past = (.ok a, past') := by
  simp only [recover, h, he]

theorem recover_raised (h : m past = (.error e, past')) (he : handled e = none) :
    recover m handled past = (.error e, past') := by
  simp only [recover, h, he]

theorem ensuring_ok (h : m past = (r, past')) {u : PUnit} (hfinal : final past' = (.ok u, past'')) :
    ensuring m final past = (r, past'') := by
  simp only [ensuring, h, hfinal]

theorem ensuring_error (h : m past = (r, past')) (hfinal : final past' = (.error e, past'')) :
    ensuring m final past = (.error e, past'') := by
  simp only [ensuring, h, hfinal]

theorem within_ok {exit : Option ε → Session ι ε PUnit} (h : m past = (.ok a, past')) :
    within m exit past = ensuring m (exit none) past := by
  simp only [within, h]

theorem within_error {exit : Option ε → Session ι ε PUnit} (h : m past = (.error e, past')) :
    within m exit past = ensuring m (exit (some e)) past := by
  simp only [within, h]

/-! ### Triples -/

/-- The two ways to end, each with its own postcondition. -/
def Ends (Q : α → List (Exchange ι ε) → Prop) (E : ε → List (Exchange ι ε) → Prop) :
    Except ε α × List (Exchange ι ε) → Prop
  | (.ok a, past) => Q a past
  | (.error e, past) => E e past

/-- From exchanges with `P` the program returns with `Q` or raises with `E`. -/
def Triple (P : List (Exchange ι ε) → Prop) (m : Session ι ε α)
    (Q : α → List (Exchange ι ε) → Prop) (E : ε → List (Exchange ι ε) → Prop) : Prop :=
  ∀ past, P past → Ends Q E (m past)

variable {P P' : List (Exchange ι ε) → Prop} {Q Q' : α → List (Exchange ι ε) → Prop}
  {E E' E₁ : ε → List (Exchange ι ε) → Prop}

/-- A triple says how the program ends, whichever way it does. -/
theorem triple_iff : Triple P m Q E ↔ ∀ past, P past →
    (∀ a past', m past = (.ok a, past') → Q a past') ∧
      ∀ e past', m past = (.error e, past') → E e past' := by
  refine forall₂_congr fun past _ => ?_
  constructor
  · intro h
    constructor
    · intro a past' hm
      rw [hm] at h
      exact h
    · intro e past' hm
      rw [hm] at h
      exact h
  · rintro ⟨hok, herror⟩
    rcases hm : m past with ⟨r, past'⟩
    cases r with
    | ok a => exact hok a past' hm
    | error e => exact herror e past' hm

/-- **Consequence.** -/
theorem Triple.mono (h : Triple P m Q E) (hP : ∀ past, P' past → P past)
    (hQ : ∀ a past, Q a past → Q' a past) (hE : ∀ e past, E e past → E' e past) :
    Triple P' m Q' E' := by
  rw [triple_iff] at h ⊢
  intro past hpast
  obtain ⟨hok, herror⟩ := h past (hP past hpast)
  exact ⟨fun a past' hm => hQ a past' (hok a past' hm),
    fun e past' hm => hE e past' (herror e past' hm)⟩

theorem Triple.pure (h : ∀ past, P past → Q a past) :
    Triple P (Pure.pure a : Session ι ε α) Q E := h

/-- **Sequence.** -/
theorem Triple.bind {R : β → List (Exchange ι ε) → Prop} (hn : Triple P n R E)
    (hf : ∀ b, Triple (R b) (f b) Q E) : Triple P (n >>= f) Q E := by
  intro past hpast
  obtain ⟨hok, herror⟩ := triple_iff.mp hn past hpast
  rcases hrun : n past with ⟨r, past'⟩
  cases r with
  | ok b =>
    rw [bind_ok hrun]
    exact hf b past' (hok b past' hrun)
  | error e =>
    rw [bind_error hrun]
    exact herror e past' hrun

/-- **A command**, answered or not. -/
theorem Triple.issue {Q : PUnit → List (Exchange ι ε) → Prop}
    (hok : ∀ past, P past → Q ⟨⟩ ((command, none) :: past))
    (herror : ∀ past e, P past → E e ((command, some e) :: past)) :
    Triple P (issue peer command) Q E := by
  intro past hpast
  cases hpeer : peer past command with
  | none =>
    rw [issue_answered hpeer]
    exact hok past hpast
  | some e =>
    rw [issue_raised hpeer]
    exact herror past e hpast

/-- **`except`.** -/
theorem Triple.recover (hm : Triple P m Q E₁)
    (hhandled : ∀ e a past, handled e = some a → E₁ e past → Q a past)
    (hraised : ∀ e past, handled e = none → E₁ e past → E e past) :
    Triple P (recover m handled) Q E := by
  intro past hpast
  obtain ⟨hok, herror⟩ := triple_iff.mp hm past hpast
  rcases hrun : m past with ⟨r, past'⟩
  cases r with
  | ok a =>
    rw [recover_ok hrun]
    exact hok a past' hrun
  | error e =>
    cases he : handled e with
    | some a =>
      rw [recover_handled hrun he]
      exact hhandled e a past' he (herror e past' hrun)
    | none =>
      rw [recover_raised hrun he]
      exact hraised e past' he (herror e past' hrun)

/-- **`finally`.** The block runs after either end, and only its own exception hides that end. -/
theorem Triple.ensuring {Q₁ : α → List (Exchange ι ε) → Prop} (hm : Triple P m Q₁ E₁)
    (hok : ∀ a, Triple (Q₁ a) final (fun _ => Q a) E)
    (herror : ∀ e, Triple (E₁ e) final (fun _ => E e) E) : Triple P (ensuring m final) Q E := by
  intro past hpast
  obtain ⟨hreturned, hraised⟩ := triple_iff.mp hm past hpast
  rcases hrun : m past with ⟨r, past'⟩
  rcases hfinal : final past' with ⟨r', past''⟩
  cases r' with
  | ok u =>
    rw [ensuring_ok hrun hfinal]
    cases r with
    | ok a => exact (triple_iff.mp (hok a) past' (hreturned a past' hrun)).1 u past'' hfinal
    | error e => exact (triple_iff.mp (herror e) past' (hraised e past' hrun)).1 u past'' hfinal
  | error e' =>
    rw [ensuring_error hrun hfinal]
    cases r with
    | ok a => exact (triple_iff.mp (hok a) past' (hreturned a past' hrun)).2 e' past'' hfinal
    | error e => exact (triple_iff.mp (herror e) past' (hraised e past' hrun)).2 e' past'' hfinal

/-- **`async with`.** -/
theorem Triple.within {exit : Option ε → Session ι ε PUnit} {A : α → List (Exchange ι ε) → Prop}
    {B : ε → List (Exchange ι ε) → Prop} (hm : Triple P m A B)
    (hok : ∀ a, Triple (A a) (exit none) (fun _ => Q a) E)
    (herror : ∀ e, Triple (B e) (exit (some e)) (fun _ => E e) E) :
    Triple P (within m exit) Q E := by
  intro past hpast
  obtain ⟨hreturned, hraised⟩ := triple_iff.mp hm past hpast
  rcases hrun : m past with ⟨r, past'⟩
  -- from these exchanges on the end of `m` is known, and so is the exit
  have honly : Triple (· = past) m (fun a past' => r = .ok a ∧ A a past')
      (fun e past' => r = .error e ∧ B e past') := by
    rw [triple_iff]
    rintro _ rfl
    rw [hrun]
    constructor
    · rintro a past' heq
      cases heq
      exact ⟨rfl, hreturned a _ hrun⟩
    · rintro e past' heq
      cases heq
      exact ⟨rfl, hraised e _ hrun⟩
  cases r with
  | ok a =>
    rw [within_ok hrun]
    exact honly.ensuring (fun b past' hb => hok b past' hb.2)
      (fun e past' he => absurd he.1 (by simp)) past rfl
  | error e =>
    rw [within_error hrun]
    refine honly.ensuring (fun b past' hb => absurd hb.1 (by simp)) (fun e' past' he => ?_) past rfl
    cases he.1
    exact herror e past' he.2

/-- **Branches.** -/
theorem Triple.ite {c : Prop} [Decidable c] {m' : Session ι ε α} (hm : c → Triple P m Q E)
    (hm' : ¬ c → Triple P m' Q E) : Triple P (if c then m else m') Q E := by
  split_ifs with hc
  · exact hm hc
  · exact hm' hc

end Sessions
