import Mathlib.Data.List.Basic

namespace Traced

/-!
# Labelled systems that keep a history

A system is a partial step function on states; a step may **emit events**, and a
configuration is a state with every event emitted so far, newest first.

* `System.run` — a run along a list of labels (`none` when a label is not enabled);
* `System.Meets` — every step of a run meets a condition on the configuration before it;
* `System.invariant_run` — the invariant rule: an invariant of every step that meets the
  condition is an invariant of every run that meets it;
* `System.run_rel` — two systems in lockstep;
* `System.run_simulated` — what a system sees of the runs of a larger one, step by step;
* `System.CanReach` — what a party can bring about by steps of its own;
* `Justified` — a correspondence assertion over a history: each event is justified by
  the events before it (`Justified.of_append` reads it back at any position).
-/

variable {σ ι ε : Type*}

/-- A state together with the events emitted so far, newest first. -/
structure Config (σ ε : Type*) where
  state : σ
  history : List ε

/-- The configuration in which nothing has happened yet. -/
def Config.start (s : σ) : Config σ ε := ⟨s, []⟩

@[simp] theorem Config.start_state (s : σ) : (Config.start s : Config σ ε).state = s := rfl

@[simp] theorem Config.start_history (s : σ) : (Config.start s : Config σ ε).history = [] := rfl

/-- A labelled transition system: the state after a label and the events it emits. -/
structure System (σ ι ε : Type*) where
  step : σ → ι → Option (σ × List ε)

namespace System

variable (S : System σ ι ε)

/-- One step of a configuration. -/
def next (c : Config σ ε) (l : ι) : Option (Config σ ε) :=
  (S.step c.state l).map fun r => ⟨r.1, r.2 ++ c.history⟩

/-- A run along a list of labels. -/
def run : Config σ ε → List ι → Option (Config σ ε)
  | c, [] => some c
  | c, l :: ls => (S.next c l).bind fun c' => run c' ls

@[simp] theorem run_nil (c : Config σ ε) : S.run c [] = some c := rfl

theorem run_cons (c : Config σ ε) (l : ι) (ls : List ι) :
    S.run c (l :: ls) = (S.next c l).bind fun c' => S.run c' ls := rfl

/-- A run of two parts goes through the configuration between them. -/
theorem run_append (c : Config σ ε) (ls ls' : List ι) :
    S.run c (ls ++ ls') = (S.run c ls).bind fun c' => S.run c' ls' := by
  induction ls generalizing c with
  | nil => rfl
  | cons l ls ih =>
    rw [List.cons_append, run_cons, run_cons, Option.bind_assoc]
    exact congrArg _ (funext ih)

/-- Every step of the run from `c` along `ls` meets `cond` before it is taken. -/
def Meets (cond : Config σ ε → ι → Prop) : Config σ ε → List ι → Prop
  | _, [] => True
  | c, l :: ls => cond c l ∧ ∀ c', S.next c l = some c' → Meets cond c' ls

/-- A condition on the labels alone is met when it holds of every label. -/
theorem meets_of_forall {p : ι → Prop} (c : Config σ ε) {ls : List ι} (h : ∀ l ∈ ls, p l) :
    S.Meets (fun _ l => p l) c ls := by
  induction ls generalizing c with
  | nil => trivial
  | cons l ls ih =>
    exact ⟨h l List.mem_cons_self,
      fun c' _ => ih c' fun l' hl' => h l' (List.mem_cons_of_mem l hl')⟩

/-- Two conditions are met together. -/
theorem Meets.and {cond cond' : Config σ ε → ι → Prop} {c : Config σ ε} {ls : List ι}
    (h : S.Meets cond c ls) (h' : S.Meets cond' c ls) :
    S.Meets (fun c l => cond c l ∧ cond' c l) c ls := by
  induction ls generalizing c with
  | nil => trivial
  | cons l ls ih =>
    exact ⟨⟨h.1, h'.1⟩, fun c' hnext => ih (h.2 c' hnext) (h'.2 c' hnext)⟩

/-- A run meets a condition when each of its steps does, after the steps before it. -/
theorem meets_iff_forall_split {cond : Config σ ε → ι → Prop} {c : Config σ ε} {ls : List ι} :
    S.Meets cond c ls ↔
      ∀ ls₁ l ls₂ c₁, ls = ls₁ ++ l :: ls₂ → S.run c ls₁ = some c₁ → cond c₁ l := by
  induction ls generalizing c with
  | nil => simp [Meets]
  | cons l ls ih =>
    constructor
    · rintro ⟨hcond, hrest⟩ ls₁ l' ls₂ c₁ hsplit hrun
      cases ls₁ with
      | nil =>
        obtain ⟨rfl, -⟩ := List.cons.inj hsplit
        rw [run_nil, Option.some.injEq] at hrun
        exact hrun ▸ hcond
      | cons l₁ ls₁ =>
        obtain ⟨rfl, hsplit'⟩ := List.cons.inj hsplit
        rw [run_cons, Option.bind_eq_some_iff] at hrun
        obtain ⟨c', hnext, hrun'⟩ := hrun
        exact ih.mp (hrest c' hnext) ls₁ l' ls₂ c₁ hsplit' hrun'
    · intro h
      refine ⟨h [] l ls c rfl rfl, fun c' hnext => ih.mpr fun ls₁ l' ls₂ c₁ hsplit hrun => ?_⟩
      refine h (l :: ls₁) l' ls₂ c₁ (by rw [hsplit, List.cons_append]) ?_
      rw [run_cons, hnext, Option.bind_some, hrun]

/-- The first part of a run meets what the run meets. -/
theorem Meets.of_append {cond : Config σ ε → ι → Prop} {c : Config σ ε} {ls ls' : List ι}
    (h : S.Meets cond c (ls ++ ls')) : S.Meets cond c ls := by
  rw [meets_iff_forall_split] at h ⊢
  intro ls₁ l ls₂ c₁ hsplit hrun
  exact h ls₁ l (ls₂ ++ ls') c₁ (by rw [hsplit, List.append_assoc, List.cons_append]) hrun

/-- Along a concrete run a decidable condition can be evaluated. -/
instance Meets.decidable (cond : Config σ ε → ι → Prop) [∀ c l, Decidable (cond c l)] :
    ∀ c ls, Decidable (S.Meets cond c ls)
  | _, [] => isTrue trivial
  | c, l :: ls =>
    match h : S.next c l with
    | none => decidable_of_iff (cond c l) ⟨fun hc => ⟨hc, by simp [h]⟩, And.left⟩
    | some c' =>
      have := Meets.decidable cond c' ls
      decidable_of_iff (cond c l ∧ S.Meets cond c' ls)
        ⟨fun hc => ⟨hc.1, fun d hd => Option.some.inj (h.symm.trans hd) ▸ hc.2⟩,
          fun hc => ⟨hc.1, hc.2 c' h⟩⟩

/-- **Inversion of one step.** A step is a step of the underlying state, and the history
    grows by the events it emits. -/
theorem next_eq_some {c c' : Config σ ε} {l : ι} :
    S.next c l = some c' ↔
      ∃ es, S.step c.state l = some (c'.state, es) ∧ c'.history = es ++ c.history := by
  unfold next
  rw [Option.map_eq_some_iff]
  constructor
  · rintro ⟨⟨s, es⟩, hstep, rfl⟩
    exact ⟨es, hstep, rfl⟩
  · rintro ⟨es, hstep, hhist⟩
    exact ⟨(c'.state, es), hstep, by rw [← hhist]⟩

/-- A step forward. -/
theorem next_of_step {c : Config σ ε} {l : ι} {s' : σ} {es : List ε}
    (h : S.step c.state l = some (s', es)) : S.next c l = some ⟨s', es ++ c.history⟩ := by
  rw [next, h, Option.map_some]

/-- **Invariant rule.** What holds at the start and is kept by every step that meets
    `cond` holds at the end of every run whose steps meet it. -/
theorem invariant_run_of_meets {cond : Config σ ε → ι → Prop} {I : Config σ ε → Prop}
    (hstep : ∀ c l c', I c → cond c l → S.next c l = some c' → I c')
    {c c' : Config σ ε} {ls : List ι} (h0 : I c) (hmeets : S.Meets cond c ls)
    (hrun : S.run c ls = some c') : I c' := by
  induction ls generalizing c with
  | nil =>
    rw [run_nil, Option.some.injEq] at hrun
    exact hrun ▸ h0
  | cons l ls ih =>
    rw [run_cons, Option.bind_eq_some_iff] at hrun
    obtain ⟨c₁, hnext, hrest⟩ := hrun
    exact ih (hstep c l c₁ h0 hmeets.1 hnext) (hmeets.2 c₁ hnext) hrest

/-- The invariant rule for runs under no condition. -/
theorem invariant_run {I : Config σ ε → Prop}
    (hstep : ∀ c l c', I c → S.next c l = some c' → I c')
    {c c' : Config σ ε} {ls : List ι} (h0 : I c) (hrun : S.run c ls = some c') : I c' := by
  induction ls generalizing c with
  | nil =>
    rw [run_nil, Option.some.injEq] at hrun
    exact hrun ▸ h0
  | cons l ls ih =>
    rw [run_cons, Option.bind_eq_some_iff] at hrun
    obtain ⟨c₁, hnext, hrest⟩ := hrun
    exact ih (hstep c l c₁ h0 hnext) hrest

/-- **Lockstep rule.** When every step of one system is matched by a step of another, their runs
    are, and so are the events of the runs. -/
theorem run_rel {σ' ι' ε' : Type*} {S : System σ ι ε} {S' : System σ' ι' ε'}
    {R : σ → σ' → Prop} {L : ι → ι' → Prop} {E : List ε → List ε' → Prop}
    (happend : ∀ es es' past past', E es es' → E past past' → E (es ++ past) (es' ++ past'))
    (hstep : ∀ s s' l l', R s s' → L l l' →
      Option.Rel (fun r r' => R r.1 r'.1 ∧ E r.2 r'.2) (S.step s l) (S'.step s' l'))
    {ls : List ι} {ls' : List ι'} (hlabels : List.Forall₂ L ls ls') :
    ∀ {c : Config σ ε} {c' : Config σ' ε'}, R c.state c'.state → E c.history c'.history →
      Option.Rel (fun d d' => R d.state d'.state ∧ E d.history d'.history)
        (S.run c ls) (S'.run c' ls') := by
  induction hlabels with
  | nil => exact fun hstate hhist => .some ⟨hstate, hhist⟩
  | @cons l l' ls ls' hl _ ih =>
    intro c c' hstate hhist
    have hnext := hstep c.state c'.state l l' hstate hl
    rw [run_cons, run_cons, next, next]
    generalize S.step c.state l = r at hnext ⊢
    generalize S'.step c'.state l' = r' at hnext ⊢
    cases hnext with
    | none => exact .none
    | some h => exact ih h.1 (happend _ _ _ _ h.2 hhist)

/-- A run meets a condition when its two parts do. -/
theorem Meets.append {cond : Config σ ε → ι → Prop} {c : Config σ ε} {ls ls' : List ι}
    (h : S.Meets cond c ls) (h' : ∀ c', S.run c ls = some c' → S.Meets cond c' ls') :
    S.Meets cond c (ls ++ ls') := by
  induction ls generalizing c with
  | nil => exact h' c rfl
  | cons l ls ih =>
    refine ⟨h.1, fun c₁ hnext => ih (h.2 c₁ hnext) fun c' hrun => h' c' ?_⟩
    rw [run_cons, hnext]
    exact hrun

/-- **Simulation rule.** When a short run of one system matches every step of another, in the state
    and in what `f` keeps of the events, a run of it matches every run of the other.  The run meets
    `cond'` when the matching of steps under `cond` does. -/
theorem run_simulated {σ' ι' ε' : Type*} {S : System σ ι ε} {S' : System σ' ι' ε'}
    {R : Config σ ε → σ' → Prop} {f : List ε → List ε'} {cond : Config σ ε → ι → Prop}
    {cond' : Config σ' ε' → ι' → Prop}
    (hstep : ∀ c l c' d, R c d.state → d.history = f c.history → cond c l → S.next c l = some c' →
      ∃ ls' d', S'.Meets cond' d ls' ∧ S'.run d ls' = some d' ∧ R c' d'.state ∧
        d'.history = f c'.history)
    {ls : List ι} {c c' : Config σ ε} {d : Config σ' ε'} (hR : R c d.state)
    (hhist : d.history = f c.history) (hmeets : S.Meets cond c ls) (hrun : S.run c ls = some c') :
    ∃ ls' d', S'.Meets cond' d ls' ∧ S'.run d ls' = some d' ∧ R c' d'.state ∧
      d'.history = f c'.history := by
  induction ls generalizing c d with
  | nil =>
    obtain rfl := Option.some.inj hrun
    exact ⟨[], d, trivial, rfl, hR, hhist⟩
  | cons l ls ih =>
    rw [run_cons, Option.bind_eq_some_iff] at hrun
    obtain ⟨c₁, hnext, hrest⟩ := hrun
    obtain ⟨ls₁, d₁, hmeets₁, hrun₁, hR₁, hhist₁⟩ := hstep c l c₁ d hR hhist hmeets.1 hnext
    obtain ⟨ls₂, d', hmeets₂, hrun₂, hR', hhist'⟩ := ih hR₁ hhist₁ (hmeets.2 c₁ hnext) hrest
    refine ⟨ls₁ ++ ls₂, d', hmeets₁.append S' fun e he => ?_, ?_, hR', hhist'⟩
    · exact Option.some.inj (hrun₁.symm.trans he) ▸ hmeets₂
    · rw [run_append, hrun₁]
      exact hrun₂

/-- Some run leads from `c` to `c'`. -/
def Reaches (c c' : Config σ ε) : Prop := ∃ ls, S.run c ls = some c'

theorem Reaches.refl (c : Config σ ε) : S.Reaches c c := ⟨[], rfl⟩

theorem Reaches.trans {c c₁ c' : Config σ ε} (h : S.Reaches c c₁) (h' : S.Reaches c₁ c') :
    S.Reaches c c' := by
  obtain ⟨ls, hrun⟩ := h
  obtain ⟨ls', hrun'⟩ := h'
  exact ⟨ls ++ ls', by rw [run_append, hrun, Option.bind_some, hrun']⟩

/-- One step further. -/
theorem Reaches.step {c c' : Config σ ε} {l : ι} {s' : σ} {es : List ε} (h : S.Reaches c c')
    (hstep : S.step c'.state l = some (s', es)) : S.Reaches c ⟨s', es ++ c'.history⟩ :=
  h.trans S ⟨[l], by rw [run_cons, S.next_of_step hstep]; rfl⟩

/-- By steps of its own, those whose labels meet `P`, a party can get to where `Q` holds. -/
def CanReach (P : ι → Prop) (Q : Config σ ε → Prop) (c : Config σ ε) : Prop :=
  ∃ ls c', (∀ l ∈ ls, P l) ∧ S.run c ls = some c' ∧ Q c'

variable {P : ι → Prop} {Q : Config σ ε → Prop} {c c' : Config σ ε}

theorem CanReach.here (h : Q c) : S.CanReach P Q c :=
  ⟨[], c, fun _ hl => absurd hl List.not_mem_nil, rfl, h⟩

/-- One step before. -/
theorem CanReach.before {l : ι} (h : S.CanReach P Q c') (hnext : S.next c l = some c')
    (hl : P l) : S.CanReach P Q c := by
  obtain ⟨ls, c₁, hls, hrun, hQ⟩ := h
  refine ⟨l :: ls, c₁, List.forall_mem_cons.mpr ⟨hl, hls⟩, ?_, hQ⟩
  rw [run_cons, hnext]
  exact hrun

/-- A run of one step. -/
theorem run_one {l : ι} {s' : σ} {es : List ε} (h : S.step c.state l = some (s', es)) :
    S.run c [l] = some ⟨s', es ++ c.history⟩ := by
  rw [run_cons, S.next_of_step h]
  rfl

/-- Events are never forgotten. -/
theorem history_suffix_of_run {c c' : Config σ ε} {ls : List ι} (hrun : S.run c ls = some c') :
    c.history <:+ c'.history := by
  refine S.invariant_run (I := fun d => c.history <:+ d.history) ?_ (List.suffix_refl _) hrun
  intro d l d' hd hnext
  obtain ⟨es, -, hhist⟩ := S.next_eq_some.mp hnext
  rw [hhist]
  exact hd.trans (List.suffix_append _ _)

end System

/-! ### Correspondence assertions -/

/-- Every event of the history is justified by the events before it. -/
def Justified (J : List ε → ε → Prop) : List ε → Prop
  | [] => True
  | e :: past => J past e ∧ Justified J past

@[simp] theorem justified_nil (J : List ε → ε → Prop) : Justified J [] := trivial

@[simp] theorem justified_cons (J : List ε → ε → Prop) (e : ε) (past : List ε) :
    Justified J (e :: past) ↔ J past e ∧ Justified J past := Iff.rfl

/-- Read a correspondence assertion back at one event of the history. -/
theorem Justified.of_append {J : List ε → ε → Prop} {after past : List ε} {e : ε}
    (h : Justified J (after ++ e :: past)) : J past e := by
  induction after with
  | nil => exact h.1
  | cons a after ih => exact ih h.2

/-- New events keep a correspondence assertion when each is justified in turn. -/
theorem Justified.append {J : List ε → ε → Prop} {es past : List ε} (h : Justified J past)
    (hes : ∀ after e before, es = after ++ e :: before → J (before ++ past) e) :
    Justified J (es ++ past) := by
  induction es with
  | nil => exact h
  | cons e es ih =>
    refine ⟨hes [] e es rfl, ih fun after e' before heq => ?_⟩
    exact hes (e :: after) e' before (by rw [heq, List.cons_append])

end Traced
