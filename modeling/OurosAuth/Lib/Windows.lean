import Mathlib.Order.Lattice
import Mathlib.Data.List.Basic
import Mathlib.Data.Nat.Notation

namespace Windows

/-!
# Fixed windows over a stream of attempts

Attempts arrive in time order, each admitted or not.  The first one opens a window of a given
length; an attempt before the end of the open window falls into it, and the next attempt opens
another.  A window can also be **closed** early.

* `windows` — the windows of a stream, newest first, with what fell into each;
* `openAt` — the window an attempt at a given time would fall into;
* `Within limit` — no window admitted more than `limit`;
* `Within.attempt` — admitting an attempt only as one of the first `limit` of its window keeps
  that;
* `Mark.Below`, `windows_below` — streams that differ only in what they admit.
-/

/-- A window: when it opened, how many attempts fell into it, how many of them were admitted, and
    whether it was closed early. -/
structure Window (τ : Type*) where
  opening : τ
  attempts : ℕ
  admitted : ℕ
  closed : Bool
  deriving DecidableEq

/-- What happens to the windows: an attempt, or the open window is closed. -/
inductive Mark (τ : Type*)
  | attempt (t : τ) (admitted : Bool)
  | close
  deriving DecidableEq

section Basic
variable {τ : Type*}

/-- The window one attempt opens. -/
def Window.one (t : τ) (admitted : Bool) : Window τ := ⟨t, 1, if admitted then 1 else 0, false⟩

/-- The window with one more attempt. -/
def Window.count (win : Window τ) (admitted : Bool) : Window τ :=
  { win with attempts := win.attempts + 1, admitted := win.admitted + if admitted then 1 else 0 }

/-- The windows when the newest of them is closed. -/
def close : List (Window τ) → List (Window τ)
  | [] => []
  | win :: rest => { win with closed := true } :: rest

/-- No window admitted more than `limit`, nor more than fell into it. -/
def Within (limit : ℕ) (wins : List (Window τ)) : Prop :=
  ∀ win ∈ wins, win.admitted ≤ win.attempts ∧ win.admitted ≤ limit

theorem within_nil (limit : ℕ) : Within limit ([] : List (Window τ)) := fun _ h =>
  absurd h List.not_mem_nil

theorem Within.close {limit : ℕ} {wins : List (Window τ)} (h : Within limit wins) :
    Within limit (close wins) := by
  cases wins with
  | nil => exact h
  | cons first rest =>
    intro win hwin
    rcases List.mem_cons.mp hwin with rfl | hwin
    · exact h first List.mem_cons_self
    · exact h win (List.mem_cons_of_mem _ hwin)

/-- Two marks that differ at most in an attempt only the second admits. -/
inductive Mark.Below : Mark τ → Mark τ → Prop
  | attempt (t : τ) {admitted admitted' : Bool} (h : admitted = true → admitted' = true) :
      Below (.attempt t admitted) (.attempt t admitted')
  | close : Below .close .close

/-- Two windows that differ at most in attempts only the second admitted. -/
structure Window.Below (win win' : Window τ) : Prop where
  opening : win.opening = win'.opening
  attempts : win.attempts = win'.attempts
  closed : win.closed = win'.closed
  admitted : win.admitted ≤ win'.admitted

/-- Closing both newest windows keeps two lists of windows comparable. -/
theorem close_below {wins wins' : List (Window τ)} (h : List.Forall₂ Window.Below wins wins') :
    List.Forall₂ Window.Below (close wins) (close wins') := by
  cases h with
  | nil => exact .nil
  | cons hfirst hrest =>
    exact .cons ⟨hfirst.opening, hfirst.attempts, rfl, hfirst.admitted⟩ hrest

/-- Who admits less stays within the same limit. -/
theorem Within.of_below {limit : ℕ} {wins wins' : List (Window τ)}
    (h : List.Forall₂ Window.Below wins wins') (hwithin : Within limit wins') :
    Within limit wins := by
  induction h with
  | nil => exact within_nil limit
  | cons hfirst _ ih =>
    intro win hwin
    rcases List.mem_cons.mp hwin with rfl | hwin
    · obtain ⟨hattempts, hlimit⟩ := hwithin _ List.mem_cons_self
      exact ⟨hfirst.admitted.trans (hattempts.trans hfirst.attempts.ge),
        hfirst.admitted.trans hlimit⟩
    · exact ih (fun win' hwin' => hwithin win' (List.mem_cons_of_mem _ hwin')) win hwin

end Basic

variable {τ : Type*} [Add τ] [LinearOrder τ]

/-- Is the window open at `t`? -/
def Window.isOpen (length : τ) (win : Window τ) (t : τ) : Bool :=
  !win.closed && decide (t < win.opening + length)

/-- The window an attempt at `t` falls into, if there is one. -/
def openAt (length : τ) (wins : List (Window τ)) (t : τ) : Option (Window τ) :=
  wins.head?.filter fun win => win.isOpen length t

/-- The window an attempt at `t` falls into or opens, with the attempt counted. -/
def hit (length : τ) (wins : List (Window τ)) (t : τ) (admitted : Bool) : Window τ :=
  match openAt length wins t with
  | some win => win.count admitted
  | none => Window.one t admitted

/-- The windows after one more attempt. -/
def attempt (length : τ) (wins : List (Window τ)) (t : τ) (admitted : Bool) : List (Window τ) :=
  hit length wins t admitted :: if (openAt length wins t).isSome then wins.tail else wins

/-- The windows after one more mark. -/
def mark (length : τ) (wins : List (Window τ)) : Mark τ → List (Window τ)
  | .attempt t admitted => attempt length wins t admitted
  | .close => close wins

/-- The windows of a stream given newest mark first. -/
def windows (length : τ) (marks : List (Mark τ)) : List (Window τ) :=
  marks.foldr (fun m wins => mark length wins m) []

variable {length t : τ} {wins : List (Window τ)} {win : Window τ} {admitted : Bool}

@[simp] theorem windows_nil : windows length [] = [] := rfl

@[simp] theorem windows_cons (m : Mark τ) (marks : List (Mark τ)) :
    windows length (m :: marks) = mark length (windows length marks) m := rfl

/-- The open window is among the windows. -/
theorem mem_of_openAt (h : openAt length wins t = some win) : win ∈ wins :=
  List.mem_of_mem_head? (Option.filter_eq_some_iff.mp h).1

@[simp] theorem openAt_nil : openAt length [] t = none := rfl

/-- A closed window takes no further attempt. -/
@[simp] theorem openAt_close : openAt length (close wins) t = none := by
  cases wins with
  | nil => rfl
  | cons first rest => simp [openAt, close, Window.isOpen, Option.filter]

/-- **The counting rule.** An attempt admitted only as one of the first `limit` of its window keeps
    every window within the limit. -/
theorem Within.attempt {limit : ℕ} (h : Within limit wins)
    (hcount : admitted = true → (hit length wins t admitted).attempts ≤ limit) :
    Within limit (attempt length wins t admitted) := by
  intro win hwin
  rcases List.mem_cons.mp hwin with rfl | hwin
  · unfold hit at hcount ⊢
    cases hopen : openAt length wins t with
    | none =>
      rw [hopen] at hcount
      cases admitted with
      | false => simp [Window.one]
      | true => simpa [Window.one] using hcount rfl
    | some first =>
      rw [hopen] at hcount
      obtain ⟨hattempts, hlimit⟩ := h first (mem_of_openAt hopen)
      cases admitted with
      | false => exact ⟨Nat.le_succ_of_le hattempts, hlimit⟩
      | true =>
        exact ⟨Nat.succ_le_succ hattempts,
          Nat.le_trans (Nat.succ_le_succ hattempts) (hcount rfl)⟩
  · split at hwin
    · exact h win (List.mem_of_mem_tail hwin)
    · exact h win hwin

/-- Something fell into every window. -/
theorem attempts_ne_zero {marks : List (Mark τ)} (hwin : win ∈ windows length marks) :
    win.attempts ≠ 0 := by
  induction marks generalizing win with
  | nil => exact absurd hwin List.not_mem_nil
  | cons m marks ih =>
    rw [windows_cons] at hwin
    cases m with
    | attempt t admitted =>
      rcases List.mem_cons.mp hwin with rfl | hwin
      · unfold hit
        cases openAt length (windows length marks) t with
        | none => exact Nat.one_ne_zero
        | some first => exact Nat.succ_ne_zero _
      · split at hwin
        · exact ih (List.mem_of_mem_tail hwin)
        · exact ih hwin
    | close =>
      rw [mark] at hwin
      cases hwins : windows length marks with
      | nil =>
        rw [hwins] at hwin
        exact absurd hwin List.not_mem_nil
      | cons first rest =>
        rw [hwins] at ih hwin
        rcases List.mem_cons.mp hwin with rfl | hwin
        · exact (ih List.mem_cons_self : first.attempts ≠ 0)
        · exact ih (List.mem_cons_of_mem _ hwin)

/-! ### Admitting less -/

theorem Window.Below.isOpen {win' : Window τ} (h : win.Below win') (length t : τ) :
    win.isOpen length t = win'.isOpen length t := by
  unfold Window.isOpen
  rw [h.opening, h.closed]

/-- One more attempt keeps two lists of windows comparable. -/
theorem attempt_below {wins' : List (Window τ)} (h : List.Forall₂ Window.Below wins wins')
    {admitted admitted' : Bool} (hadm : admitted = true → admitted' = true) :
    List.Forall₂ Window.Below (attempt length wins t admitted)
      (attempt length wins' t admitted') := by
  have hif : (if admitted then 1 else 0) ≤ (if admitted' then 1 else 0 : ℕ) := by
    cases admitted <;> cases admitted' <;> simp_all
  have hone : (Window.one t admitted).Below (Window.one t admitted') := ⟨rfl, rfl, rfl, hif⟩
  cases h with
  | nil => exact .cons hone .nil
  | @cons first first' rest rest' hfirst hrest =>
    unfold attempt hit openAt
    by_cases hopen : first.isOpen length t = true
    · have hopen' : first'.isOpen length t = true := hfirst.isOpen length t ▸ hopen
      simp only [List.head?_cons, Option.filter_some, hopen, hopen', if_true, Option.isSome_some,
        List.tail_cons]
      refine .cons ⟨hfirst.opening, ?_, hfirst.closed, ?_⟩ hrest
      · exact congrArg (· + 1) hfirst.attempts
      · exact Nat.add_le_add hfirst.admitted hif
    · have hopen' : ¬ first'.isOpen length t = true := hfirst.isOpen length t ▸ hopen
      simp only [List.head?_cons, Option.filter_some, hopen, hopen']
      exact .cons hone (.cons hfirst hrest)

/-- Streams that differ at most in what the second admits have comparable windows. -/
theorem windows_below {marks marks' : List (Mark τ)} (h : List.Forall₂ Mark.Below marks marks') :
    List.Forall₂ Window.Below (windows length marks) (windows length marks') := by
  induction h with
  | nil => exact .nil
  | cons hmark _ ih =>
    rw [windows_cons, windows_cons]
    cases hmark with
    | attempt t hadm => exact attempt_below ih hadm
    | close => exact close_below ih

end Windows
