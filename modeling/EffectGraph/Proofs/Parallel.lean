import Mathlib.Data.List.Forall2
import EffectGraph.Proofs.Moves

/-!
# Programs that are run side by side

Two programs may be built alike and differ in what their actions and continuations get hold of.  They
are run side by side from two worlds, and a relation `R` between worlds says what the two have in
common.  `Turn` says what it takes for two nodes to keep up with each other for one turn: they are of
the same variant, what they do themselves goes together in all worlds that are related (`Together`),
and the nodes that they lead to keep up in turn.  If this holds of every pair of a relation between
nodes, then machines that are started on such a pair take their steps together (`together_step`), under
any limit, so that both end in the same way with the same counters or neither of them ends
(`together_drive`).
-/

namespace EffectGraph

open Machine

/-- **Results that go together:** related values or the same signal, in related worlds. -/
inductive Together {α β : Type} (T : α → β → Prop) (R : World → World → Prop) :
    EStateM.Result Signal World α → EStateM.Result Signal World β → Prop where
  | ok {a b u w} (hab : T a b) (hw : R u w) : Together T R (.ok a u) (.ok b w)
  | error {u w} (signal : Signal) (hw : R u w) : Together T R (.error signal u) (.error signal w)

/-- A fault under a label that is told alike in related worlds, at the end of a run and when it is
recovered from. -/
structure ToldAlike (R : World → World → Prop) (fault : Fault Value) (label : Value) : Prop where
  truth {u w} : R u w → w.isTruthy label = u.isTruthy label
  words {u w} : R u w → words w fault label = words u fault label
  note {u w} (dropped : Nat) : R u w →
    Together Eq R (recoveryNote fault label dropped u) (recoveryNote fault label dropped w)

/-- **Answers that go together:** related values, or the same mishap if it is told alike.  The faults of
mishaps are among the values `P` that programs are given. -/
inductive Answered (R : World → World → Prop) (P : Value → Prop) (T : Value → Value → Prop) :
    Except Mishap Value → Except Mishap Value → Prop where
  | value {v v'} (hv : T v v') : Answered R P T (.ok v) (.ok v')
  | mishap {m : Mishap} (hm : ToldAlike R m.1 m.2) (hp : P (.fault m.1)) :
      Answered R P T (.error m) (.error m)

/-- Nodes of a relation, or finished nodes with the same value. -/
inductive Meets (P : Value → Prop) (S : Value → Value → Prop) : Value → Value → Prop where
  | pair {p q} (hpq : S p q) : Meets P S p q
  | done (i j : Nat) {v} (hv : P v) : Meets P S (.node i (.done v)) (.node j (.done v))

/-- Continuations that lead to such nodes from every value that programs are given. -/
def Follows (h : Host) (R : World → World → Prop) (P : Value → Prop) (S : Value → Value → Prop)
    (f g : Value) : Prop :=
  ∀ {v u w}, P v → R u w → Together (Answered R P (Meets P S)) R (applied h f v u) (applied h g v w)

/-- **Two nodes keep up with each other for one turn.** -/
inductive Turn (h : Host) (R : World → World → Prop) (P : Value → Prop) (S : Value → Value → Prop) :
    Value → Value → Prop where
  | done (i j : Nat) {v} (hv : P v) : Turn h R P S (.node i (.done v)) (.node j (.done v))
  | action (i j : Nat) {thunk thunk' label label'}
      (hrun : ∀ {u w}, R u w → Together (Answered R P fun a b => P a ∧ b = a) R
        (performed h thunk label u) (performed h thunk' label' w)) :
      Turn h R P S (.node i (.delay thunk label)) (.node j (.delay thunk' label'))
  | sequence (i j : Nat) {p q f g} (hsource : Meets P S p q) (hf : Follows h R P S f g) :
      Turn h R P S (.node i (.flatMap p f)) (.node j (.flatMap q g))
  | region (i j : Nat) {p q f g} (hsource : Meets P S p q) (hg : Follows h R P S f g) :
      Turn h R P S (.node i (.recover p f)) (.node j (.recover q g))
  | unknown {p q} (hp : p.isKnown = false) (hq : q.isKnown = false)
      (hname : q.typeName = p.typeName) : Turn h R P S p q

/-! ### Results -/

namespace Together

variable {α β γ δ : Type} {T : α → β → Prop} {T' : γ → δ → Prop} {R : World → World → Prop}
  {u w : World}

/-- What follows results that go together goes together if it does so from there. -/
theorem bind {x : Eff α} {y : Eff β} {f : α → Eff γ} {g : β → Eff δ} (hxy : Together T R (x u) (y w))
    (hfg : ∀ {a b u' w'}, T a b → R u' w' → Together T' R (f a u') (g b w')) :
    Together T' R ((x >>= f) u) ((y >>= g) w) := by
  cases hx : x u with
  | ok a u' =>
    cases hy : y w with
    | ok b w' =>
      rw [hx, hy] at hxy
      rw [Eff.bind_of_ok hx, Eff.bind_of_ok hy]
      cases hxy with
      | ok hab hw => exact hfg hab hw
    | error e w' =>
      rw [hx, hy] at hxy
      cases hxy
  | error e u' =>
    cases hy : y w with
    | ok b w' =>
      rw [hx, hy] at hxy
      cases hxy
    | error e' w' =>
      rw [hx, hy] at hxy
      rw [Eff.bind_of_error hx, Eff.bind_of_error hy]
      cases hxy with
      | error _ hw => exact .error _ hw

/-- Attempts go together if what is attempted does. -/
theorem attempt {x y : Eff α} (hxy : Together Eq R (x u) (y w)) :
    Together Eq R (Eff.attempt x u) (Eff.attempt y w) := by
  unfold Eff.attempt
  generalize x u = a at hxy ⊢
  generalize y w = b at hxy ⊢
  cases hxy with
  | ok hab hw => exact .ok (congrArg Except.ok hab) hw
  | error signal hw =>
    cases signal with
    | raised f => exact .ok rfl hw
    | exhausted => exact .error .exhausted hw

end Together

/-! ### Steps -/

/-- Frames that wait side by side. -/
inductive Frame.Abreast (h : Host) (R : World → World → Prop) (P : Value → Prop)
    (S : Value → Value → Prop) : Frame Value → Frame Value → Prop where
  | continuation {f g} (hf : Follows h R P S f g) : Abreast h R P S (.continuation f) (.continuation g)
  | boundary {f g} (hg : Follows h R P S f g) : Abreast h R P S (.boundary f) (.boundary g)

namespace Machine

/-- Stacks of such frames. -/
def Stack.Abreast (h : Host) (R : World → World → Prop) (P : Value → Prop) (S : Value → Value → Prop)
    (B C : Stack) : Prop :=
  List.Forall₂ (Frame.Abreast h R P S) B.frames C.frames

/-- **States of two machines that have kept up with each other so far.** -/
structure State.Abreast (h : Host) (R : World → World → Prop) (P : Value → Prop)
    (S : Value → Value → Prop) (s t : State) : Prop where
  current : Turn h R P S s.current t.current
  stack : s.stack.Abreast h R P S t.stack
  counters : t.counters = s.counters

/-- What steps of two machines lead to if they keep up with each other. -/
inductive Progress.Abreast (h : Host) (R : World → World → Prop) (P : Value → Prop)
    (S : Value → Value → Prop) : Progress → Progress → Prop where
  | next {s t : State} (hst : s.Abreast h R P S t) : Abreast h R P S (.next s) (.next t)
  | halted (e : Ending) {s t : State} (hcounters : t.counters = s.counters) :
      Abreast h R P S (.halted e s) (.halted e t)

variable {h : Host} {R : World → World → Prop} {P : Value → Prop} {S : Value → Value → Prop}

namespace Stack.Abreast

variable {B C : Stack}

theorem depth_eq (hBC : B.Abreast h R P S C) : C.depth = B.depth := by
  rw [B.depth_eq, C.depth_eq]
  exact (List.Forall₂.length_eq hBC).symm

theorem empty : Stack.empty.Abreast h R P S .empty := .nil

theorem push {f g : Frame Value} (hBC : B.Abreast h R P S C) (hfg : f.Abreast h R P S g) :
    (B.push f).Abreast h R P S (C.push g) := .cons hfg hBC

/-- Down to the nearest boundary the same frames are dropped from both. -/
theorem unwindFrames {fs gs : List (Frame Value)} (hfs : List.Forall₂ (Frame.Abreast h R P S) fs gs)
    (n : Nat) :
    (∃ dropped, Stack.unwindFrames fs n = (dropped, none) ∧ Stack.unwindFrames gs n = (dropped, none)) ∨
      ∃ dropped f g rest rest', Stack.unwindFrames fs n = (dropped, some (f, rest)) ∧
        Stack.unwindFrames gs n = (dropped, some (g, rest')) ∧ Follows h R P S f g ∧
          List.Forall₂ (Frame.Abreast h R P S) rest rest' := by
  induction hfs generalizing n with
  | nil => exact .inl ⟨n, rfl, rfl⟩
  | cons hfg hrest ih =>
    cases hfg with
    | continuation hf => exact ih (n + 1)
    | boundary hg => exact .inr ⟨n, _, _, _, _, rfl, rfl, hg, hrest⟩

/-- So both land nowhere, or on boundaries that wait side by side. -/
theorem unwind (hBC : B.Abreast h R P S C) :
    (∃ dropped, B.unwind = ⟨dropped, none⟩ ∧ C.unwind = ⟨dropped, none⟩) ∨
      ∃ dropped f g B' C', B.unwind = ⟨dropped, some (f, B')⟩ ∧ C.unwind = ⟨dropped, some (g, C')⟩ ∧
        Follows h R P S f g ∧ B'.Abreast h R P S C' := by
  unfold Stack.unwind
  rcases unwindFrames hBC 0 with ⟨dropped, hB, hC⟩ | ⟨dropped, f, g, rest, rest', hB, hC, hfg, hrest⟩
  · rw [hB, hC]
    exact .inl ⟨dropped, rfl, rfl⟩
  · rw [hB, hC]
    exact .inr ⟨dropped, f, g, _, _, rfl, rfl, hfg, hrest⟩

/-- The topmost frames are taken off both. -/
theorem pop? (hBC : B.Abreast h R P S C) :
    (B.pop? = none ∧ C.pop? = none) ∨
      ∃ f g B' C', B.pop? = some (f, B') ∧ C.pop? = some (g, C') ∧ f.Abreast h R P S g ∧
        B'.Abreast h R P S C' := by
  obtain ⟨frames, depth, hdepth⟩ := B
  obtain ⟨frames', depth', hdepth'⟩ := C
  cases hBC with
  | nil => exact .inl ⟨rfl, rfl⟩
  | cons hfg hrest => exact .inr ⟨_, _, _, _, rfl, rfl, hfg, hrest⟩

end Stack.Abreast

variable {settings : Settings} {s t : State} {u w : World}

/-- The same limit is exceeded by both or by neither. -/
theorem abreast_checkLimit (hst : s.Abreast h R P S t) :
    (checkLimit settings s).Abreast h R P S (checkLimit settings t) := by
  have hdepth := hst.stack.depth_eq
  have hcleared : t.cleared.counters = s.cleared.counters := by
    simp only [State.cleared, hst.counters, hdepth]
  unfold checkLimit
  rw [hdepth]
  split
  · exact .next hst
  · split
    · split
      · exact .halted _ hcleared
      · exact .halted _ hcleared
    · exact .next hst
  · exact .halted _ hst.counters

/-- **Mishaps that go together** are caught by both or end both runs in the same way. -/
theorem together_mishap {m : Mishap} (hstack : s.stack.Abreast h R P S t.stack)
    (hcounters : t.counters = s.counters) (hm : ToldAlike R m.1 m.2) (hp : P (.fault m.1))
    (hw : R u w) :
    Together (Progress.Abreast h R P S) R (mishap s m u) (mishap t m w) := by
  cases hfault : m.1.kind.isFailure with
  | false =>
    rw [mishap_of_interrupt hfault, mishap_of_interrupt hfault]
    exact .ok (.halted _ hcounters) hw
  | true =>
    rcases hstack.unwind with ⟨dropped, hs, ht⟩ | ⟨dropped, f, g, B, C, hs, ht, hfg, hBC⟩
    · have hworded : worded w m.1 m.2 t.counters.totalSteps dropped =
          worded u m.1 m.2 s.counters.totalSteps dropped := by
        simp only [worded, hm.truth hw, hm.words hw, hcounters]
      rw [mishap_of_no_landing hfault hs, mishap_of_no_landing hfault ht, hworded]
      exact .ok (.halted _ (by simp only [State.uncaught, hcounters])) hw
    · rw [mishap_of_landing hfault hs, mishap_of_landing hfault ht]
      refine (hm.note dropped hw).attempt.bind fun hr hw' => ?_
      cases hr
      split
      · refine .ok (.next ⟨.sequence 0 0 (.done 0 0 hp) hfg, hBC, ?_⟩) hw'
        simp only [State.recovered, hcounters]
      · exact .ok (.halted _ hcounters) hw'

variable (hS : ∀ {p q}, S p q → Turn h R P S p q)
include hS

theorem Turn.of_meets {p q : Value} (hpq : Meets P S p q) : Turn h R P S p q := by
  cases hpq with
  | pair hpq => exact hS hpq
  | done i j hv => exact .done i j hv

/-- Continuations that follow the same value go together. -/
theorem together_continueWith {f g v : Value} (hstack : s.stack.Abreast h R P S t.stack)
    (hcounters : t.counters = s.counters) (hfg : Follows h R P S f g) (hv : P v) (hw : R u w) :
    Together (Progress.Abreast h R P S) R (continueWith h settings s f v u)
      (continueWith h settings t g v w) := by
  rw [continueWith_eq, continueWith_eq]
  refine (hfg hv hw).bind fun hab hw' => ?_
  cases hab with
  | value hnode =>
    refine .ok (abreast_checkLimit ⟨Turn.of_meets hS hnode, hstack, ?_⟩) hw'
    simp only [hcounters]
  | mishap hm hp => exact together_mishap hstack (by simp only [hcounters]) hm hp hw'

/-- States that have kept up with each other so far do so for one more turn. -/
theorem together_dispatch (hst : s.Abreast h R P S t) (hw : R u w) :
    Together (Progress.Abreast h R P S) R (dispatch h settings s u) (dispatch h settings t w) := by
  obtain ⟨p, B, c⟩ := s
  obtain ⟨q, C, c'⟩ := t
  obtain ⟨hturn, hstack, rfl⟩ := hst
  cases hturn with
  | done i j hv =>
    rcases hstack.pop? with ⟨hB, hC⟩ | ⟨f, g, B', C', hB, hC, hfg, hrest⟩
    · simp only [dispatch, hB, hC]
      exact .ok (.halted _ rfl) hw
    · cases hfg with
      | continuation hf =>
        simp only [dispatch, hB, hC]
        exact together_continueWith hS hrest rfl hf hv hw
      | boundary hg =>
        simp only [dispatch, hB, hC]
        exact .ok (.next ⟨.done i j hv, hrest, rfl⟩) hw
  | action i j hrun =>
    simp only [dispatch, perform_eq]
    refine (hrun hw).bind fun hab hw' => ?_
    cases hab with
    | value hv =>
      obtain ⟨hv, rfl⟩ := hv
      exact .ok (abreast_checkLimit ⟨.done 0 0 hv, hstack, rfl⟩) hw'
    | mishap hm hp => exact together_mishap hstack rfl hm hp hw'
  | sequence i j hsource hf =>
    have hpushed := hstack.push (.continuation hf)
    refine .ok (abreast_checkLimit ⟨Turn.of_meets hS hsource, hpushed, ?_⟩) hw
    simp only [State.enter, hpushed.depth_eq]
  | region i j hsource hg =>
    have hpushed := hstack.push (.boundary hg)
    refine .ok (abreast_checkLimit ⟨Turn.of_meets hS hsource, hpushed, ?_⟩) hw
    simp only [State.enter, hpushed.depth_eq]
  | unknown hp hq hname =>
    rw [dispatch_unknown hp, dispatch_unknown hq, hname]
    have hdepth : C.depth = B.depth := hstack.depth_eq
    refine .ok (.halted _ ?_) hw
    simp only [State.cleared, hdepth]

/-! ### Runs -/

variable (htrace : ∀ w, World.isTruthy w settings.trace = false)
include htrace

/-- **Machines that have kept up with each other so far do so for one more step,** whatever the limit. -/
theorem together_step (hst : s.Abreast h R P S t) (hw : R u w) :
    Together (Progress.Abreast h R P S) R (step h settings s u) (step h settings t w) := by
  rw [step_of_untraced htrace, step_of_untraced htrace]
  refine together_dispatch hS ⟨hst.current, hst.stack, ?_⟩ hw
  simp only [State.counted, hst.counters]

/-- **They do so until the end,** if there is one: both end in the same way and with the same counters,
or both need more fuel.  The induction is on the fuel. -/
theorem together_drive (hst : s.Abreast h R P S t) (hw : R u w) (fuel : Nat) :
    Together (fun a b => b.1 = a.1 ∧ b.2.counters = a.2.counters) R
      (drive h settings fuel s u) (drive h settings fuel t w) := by
  induction fuel generalizing s t u w with
  | zero => exact .error .exhausted hw
  | succ fuel ih =>
    refine (together_step hS htrace hst hw).bind fun hab hw' => ?_
    cases hab with
    | next hst' => exact ih hst' hw'
    | halted e hcounters => exact .ok ⟨rfl, hcounters⟩ hw'

/-- **Programs that keep up with each other are run alike.** -/
theorem together_run {p q : Value} (hpq : Meets P S p q) (hw : R u w) (fuel : Nat) :
    Together (fun a b => b.1 = a.1 ∧ b.2.counters = a.2.counters) R
      (drive h settings fuel (.start p) u) (drive h settings fuel (.start q) w) :=
  together_drive hS htrace (s := .start p) (t := .start q) ⟨Turn.of_meets hS hpq, .empty, rfl⟩ hw fuel

end Machine
end EffectGraph
