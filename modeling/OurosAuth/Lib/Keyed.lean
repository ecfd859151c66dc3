import Mathlib.Data.List.Chain
import Mathlib.Order.Basic

namespace Keyed

/-!
# Stores whose keys do not interfere

A store answers a stream of calls, each about one key and made at one time.

* `Store.answers`, `Store.after` — the answers to a stream, and the store after it;
* `Independent` — a call is answered from its own key, and touches no other;
* `Independent.after_filter`, `Independent.answers_filter` — some of the keys cannot tell a stream
  from the part of it that is about them.
-/

/-- What a call answers and the store after it, with the key and the time of each call. -/
structure Store (σ κ τ ι ω : Type*) where
  step : σ → ι → ω × σ
  key : ι → κ
  time : ι → τ

variable {σ κ τ ι ω : Type*}

namespace Store

variable (S : Store σ κ τ ι ω)

/-- The answers to a stream of calls. -/
def answers : σ → List ι → List (ι × ω)
  | _, [] => []
  | s, c :: cs => (c, (S.step s c).1) :: answers (S.step s c).2 cs

/-- The store after a stream of calls. -/
def after : σ → List ι → σ
  | s, [] => s
  | s, c :: cs => after (S.step s c).2 cs

/-- Every call of the stream meets a condition on the store before it. -/
def Meets (fits : σ → ι → Prop) : σ → List ι → Prop
  | _, [] => True
  | s, c :: cs => fits s c ∧ Meets fits (S.step s c).2 cs

@[simp] theorem answers_nil (s : σ) : S.answers s [] = [] := rfl

@[simp] theorem answers_cons (s : σ) (c : ι) (cs : List ι) :
    S.answers s (c :: cs) = (c, (S.step s c).1) :: S.answers (S.step s c).2 cs := rfl

@[simp] theorem after_nil (s : σ) : S.after s [] = s := rfl

@[simp] theorem after_cons (s : σ) (c : ι) (cs : List ι) :
    S.after s (c :: cs) = S.after (S.step s c).2 cs := rfl

theorem after_append (s : σ) (cs cs' : List ι) :
    S.after s (cs ++ cs') = S.after (S.after s cs) cs' := by
  induction cs generalizing s with
  | nil => rfl
  | cons c cs ih => exact ih _

theorem meets_append (fits : σ → ι → Prop) (s : σ) (cs cs' : List ι) :
    S.Meets fits s (cs ++ cs') ↔ S.Meets fits s cs ∧ S.Meets fits (S.after s cs) cs' := by
  induction cs generalizing s with
  | nil => simp [Meets, after]
  | cons c cs ih => exact (and_congr_right fun _ => ih _).trans and_assoc.symm

/-- A condition that an invariant of the store guarantees is met. -/
theorem meets_of_invariant {fits : σ → ι → Prop} {I : σ → Prop} {cs : List ι}
    (hfits : ∀ s c, c ∈ cs → I s → fits s c) (hstep : ∀ s c, c ∈ cs → I s → I (S.step s c).2)
    {s : σ} (h : I s) : S.Meets fits s cs := by
  induction cs generalizing s with
  | nil => trivial
  | cons c cs ih =>
    refine ⟨hfits s c List.mem_cons_self h, ih ?_ ?_ (hstep s c List.mem_cons_self h)⟩
    · exact fun s c hc => hfits s c (List.mem_cons_of_mem _ hc)
    · exact fun s c hc => hstep s c (List.mem_cons_of_mem _ hc)

end Store

/-- A call that fits is answered from its own key and touches no other.  `same t k s s'`: from time
    `t` on, `k` cannot tell `s` from `s'`. -/
structure Independent [Preorder τ] (S : Store σ κ τ ι ω) (fits : σ → ι → Prop)
    (same : τ → κ → σ → σ → Prop) : Prop where
  equiv : ∀ t k, Equivalence (same t k)
  later : ∀ {t t' k s s'}, t ≤ t' → same t k s s' → same t' k s s'
  answer : ∀ {s s' c}, same (S.time c) (S.key c) s s' → (S.step s c).1 = (S.step s' c).1
  keep : ∀ {s s' c}, same (S.time c) (S.key c) s s' →
    same (S.time c) (S.key c) (S.step s c).2 (S.step s' c).2
  frame : ∀ {s c k}, fits s c → k ≠ S.key c → same (S.time c) k (S.step s c).2 s

namespace Independent

variable [Preorder τ] {S : Store σ κ τ ι ω} {fits : σ → ι → Prop} {same : τ → κ → σ → σ → Prop}
  {t t' : τ} {s s' : σ} {calls : List ι}

/-- One call, made on both sides, leaves a key that could not tell them apart as it was. -/
theorem step_both (h : Independent S fits same) {c : ι} {k : κ} (hfits : fits s c)
    (hfits' : fits s' c) (hsame : same (S.time c) k s s') :
    same (S.time c) k (S.step s c).2 (S.step s' c).2 := by
  by_cases hk : k = S.key c
  · subst hk
    exact h.keep hsame
  · have hequiv := h.equiv (S.time c) k
    exact hequiv.trans (h.frame hfits hk) (hequiv.trans hsame (hequiv.symm (h.frame hfits' hk)))

variable (keep : κ → Prop) [DecidablePred keep]

/-- **Projection of the store.** The kept keys cannot tell the store after a stream from the store
    after the calls about them. -/
theorem after_filter (h : Independent S fits same)
    (hchain : (t :: calls.map S.time ++ [t']).IsChain (· ≤ ·))
    (hfits : S.Meets fits s calls)
    (hfits' : S.Meets fits s' (calls.filter fun c => keep (S.key c)))
    (hsame : ∀ k, keep k → same t k s s') :
    ∀ k, keep k → same t' k (S.after s calls)
      (S.after s' (calls.filter fun c => keep (S.key c))) := by
  induction calls generalizing s s' t with
  | nil =>
    intro k hk
    have hle : t ≤ t' := by simpa using hchain
    exact h.later hle (hsame k hk)
  | cons c cs ih =>
    rw [List.map_cons, List.cons_append, List.cons_append, List.isChain_cons_cons] at hchain
    obtain ⟨hle, hchain⟩ := hchain
    obtain ⟨hfit, hrest⟩ := hfits
    by_cases hc : keep (S.key c)
    · rw [List.filter_cons_of_pos (by simpa using hc)] at hfits' ⊢
      obtain ⟨hfit', hrest'⟩ := hfits'
      refine ih hchain hrest hrest' fun k hk => ?_
      exact h.step_both hfit hfit' (h.later hle (hsame k hk))
    · rw [List.filter_cons_of_neg (by simpa using hc)] at hfits' ⊢
      refine ih hchain hrest hfits' fun k hk => ?_
      have hne : k ≠ S.key c := fun heq => hc (heq ▸ hk)
      exact (h.equiv _ _).trans (h.frame hfit hne) (h.later hle (hsame k hk))

/-- **Projection of the answers.** The calls about the kept keys are answered as if there were no
    others. -/
theorem answers_filter (h : Independent S fits same)
    (hchain : (t :: calls.map S.time).IsChain (· ≤ ·)) (hfits : S.Meets fits s calls)
    (hfits' : S.Meets fits s' (calls.filter fun c => keep (S.key c)))
    (hsame : ∀ k, keep k → same t k s s') :
    (S.answers s calls).filter (fun a => keep (S.key a.1)) =
      S.answers s' (calls.filter fun c => keep (S.key c)) := by
  induction calls generalizing s s' t with
  | nil => rfl
  | cons c cs ih =>
    rw [List.map_cons, List.isChain_cons_cons] at hchain
    obtain ⟨hle, hchain⟩ := hchain
    obtain ⟨hfit, hrest⟩ := hfits
    rw [Store.answers_cons]
    by_cases hc : keep (S.key c)
    · rw [List.filter_cons_of_pos (by simpa using hc)] at hfits'
      obtain ⟨hfit', hrest'⟩ := hfits'
      rw [List.filter_cons_of_pos (by simpa using hc), List.filter_cons_of_pos (by simpa using hc),
        Store.answers_cons, h.answer (h.later hle (hsame _ hc))]
      refine congrArg _ (ih hchain hrest hrest' fun k hk => ?_)
      exact h.step_both hfit hfit' (h.later hle (hsame k hk))
    · rw [List.filter_cons_of_neg (by simpa using hc)] at hfits'
      rw [List.filter_cons_of_neg (by simpa using hc), List.filter_cons_of_neg (by simpa using hc)]
      refine ih hchain hrest hfits' fun k hk => ?_
      have hne : k ≠ S.key c := fun heq => hc (heq ▸ hk)
      exact (h.equiv _ _).trans (h.frame hfit hne) (h.later hle (hsame k hk))

/-- Calls whose keys cannot tell two stores apart are answered alike by both. -/
theorem answers_eq (h : Independent S fits same)
    (hchain : (t :: calls.map S.time).IsChain (· ≤ ·)) (hfits : S.Meets fits s calls)
    (hfits' : S.Meets fits s' calls) (hsame : ∀ c ∈ calls, same t (S.key c) s s') :
    S.answers s calls = S.answers s' calls := by
  induction calls generalizing s s' t with
  | nil => rfl
  | cons c cs ih =>
    rw [List.map_cons, List.isChain_cons_cons] at hchain
    obtain ⟨hle, hchain⟩ := hchain
    rw [Store.answers_cons, Store.answers_cons,
      h.answer (h.later hle (hsame c List.mem_cons_self))]
    refine congrArg _ (ih hchain hfits.2 hfits'.2 fun c' hc' => ?_)
    exact h.step_both hfits.1 hfits'.1 (h.later hle (hsame c' (List.mem_cons_of_mem _ hc')))

end Independent

end Keyed
