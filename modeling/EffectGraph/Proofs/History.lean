import EffectGraph.Proofs.Current

/-!
# Histories of runs

A history lists the states that a run has passed through, the newest first (`History`), so that what
happened in a run can be counted.  What goes wrong in a step is a lapse: a fault, the label or name it
is blamed on, and the state in which it has to be dealt with (`lapse?`).  A step that does not go on
ends the run in one of the ways that `Halt` lists, and every run that ends does so in the last state
of a history (`exists_history_of_drive`).
-/

namespace EffectGraph
namespace Machine

variable {h : Host} {settings : Settings} {start a b : State × World} {s s' : State} {w w' : World}

/-! ### The states of a run -/

/-- **The states that a run has passed through before a state,** the newest first. -/
inductive History (h : Host) (settings : Settings) (start : State × World) :
    List (State × World) → State × World → Prop where
  | start : History h settings start [] start
  | next {past a b} (ha : History h settings start past a) (hab : Next h settings a b) :
      History h settings start (a :: past) b

/-- A state has a history if and only if it is reached. -/
theorem reaches_iff_history :
    Reaches h settings start b ↔ ∃ past, History h settings start past b := by
  constructor
  · intro hb
    induction hb with
    | refl => exact ⟨[], .start⟩
    | @tail a b _ hab ih =>
      obtain ⟨past, ha⟩ := ih
      exact ⟨a :: past, ha.next hab⟩
  · rintro ⟨past, hb⟩
    induction hb with
    | start => exact .refl
    | next _ hab ih => exact ih.tail hab

/-! ### What goes wrong -/

/-- What has gone wrong in a step. -/
structure Lapse where
  /-- The fault, with the label or name that it is blamed on. -/
  mishap : Mishap
  /-- The state in which the fault has to be dealt with; the frame that was invoked is off the stack. -/
  state : State
  /-- The world as the call has left it. -/
  world : World

/-- **What goes wrong when the node of a state is run in a world.**  A thunk that raises a fault is
blamed under its label, or its name if there is nothing to the label; a continuation that raises one,
or gives what is no node, is blamed under its name. -/
def lapse? (h : Host) (s : State) (w : World) : Option Lapse :=
  match s.current with
  | .node _ (.delay thunk label) =>
    match h.invoke thunk [] w with
    | .error (.raised fault) w' =>
      some ⟨(fault, if w'.isTruthy label then label else w'.callableName thunk), s, w'⟩
    | _ => none
  | .node _ (.done v) =>
    match s.stack.pop? with
    | some (.continuation f, rest) =>
      match h.invoke f [v] w with
      | .error (.raised fault) w' => some ⟨(fault, w'.callableName f), s.handed rest, w'⟩
      | .ok x w' =>
        if x.isNode then none
        else some ⟨((Complaint.continuationGave x.typeName).fault, w'.callableName f),
          s.handed rest, w'⟩
      | _ => none
    | _ => none
  | _ => none

/-- The lapse that the answer of a callback is, if it is one. -/
def lapseOf? {α : Type} (s : State) : EStateM.Result Signal World (Except Mishap α) → Option Lapse
  | .ok (.error mis) w => some ⟨mis, s, w⟩
  | _ => none

theorem eq_of_lapseOf? {α : Type} {r : EStateM.Result Signal World (Except Mishap α)} {l : Lapse}
    (hr : lapseOf? s r = some l) : r = .ok (.error l.mishap) l.world ∧ l.state = s := by
  unfold lapseOf? at hr
  split at hr
  · cases hr
    exact ⟨rfl, rfl⟩
  · cases hr

/-- A suspended action lapses if performing it comes to a mishap. -/
theorem lapse?_of_delay {i : Nat} {thunk label : Value}
    (hc : s.current = .node i (.delay thunk label)) :
    lapse? h s w = lapseOf? s (performed h thunk label w) := by
  simp only [lapse?, hc, performed, Eff.attempt, bind, EStateM.bind]
  cases h.invoke thunk [] w with
  | ok v w' => rfl
  | error signal w' => cases signal <;> rfl

/-- A finished node above a continuation lapses if that comes to a mishap. -/
theorem lapse?_of_done {i : Nat} {v f : Value} {rest : Stack}
    (hc : s.current = .node i (.done v)) (hs : s.stack = rest.push (.continuation f)) :
    lapse? h s w = lapseOf? (s.handed rest) (applied h f v w) := by
  simp only [lapse?, hc, hs, Stack.pop?_push, applied, Eff.attempt, bind, EStateM.bind]
  cases h.invoke f [v] w with
  | error signal w' => cases signal <;> rfl
  | ok x w' => cases hx : x.isNode <;> simp only [hx] <;> rfl

/-- Nothing lapses where nothing is invoked. -/
theorem lapse?_of_boundary {g : Value} {rest : Stack} (hs : s.stack = rest.push (.boundary g))
    {i : Nat} {v : Value} (hc : s.current = .node i (.done v)) : lapse? h s w = none := by
  simp only [lapse?, hc, hs, Stack.pop?_push]

theorem lapse?_of_empty (hs : s.stack = .empty) {i : Nat} {v : Value}
    (hc : s.current = .node i (.done v)) : lapse? h s w = none := by
  simp only [lapse?, hc, hs, Stack.pop?_empty]

theorem lapse?_of_flatMap {i : Nat} {source f : Value}
    (hc : s.current = .node i (.flatMap source f)) : lapse? h s w = none := by
  simp only [lapse?, hc]

theorem lapse?_of_recover {i : Nat} {source g : Value}
    (hc : s.current = .node i (.recover source g)) : lapse? h s w = none := by
  simp only [lapse?, hc]

/-- **What goes wrong** is an action that comes to a mishap, or a continuation that does once it has
been taken off the stack. -/
theorem exists_of_lapse? {l : Lapse} (hl : lapse? h s w = some l) :
    (∃ i thunk label, s.current = .node i (.delay thunk label) ∧
      performed h thunk label w = .ok (.error l.mishap) l.world ∧ l.state = s) ∨
    ∃ i v f rest, s.current = .node i (.done v) ∧ s.stack = rest.push (.continuation f) ∧
      applied h f v w = .ok (.error l.mishap) l.world ∧ l.state = s.handed rest := by
  have hfound := hl
  unfold lapse? at hfound
  split at hfound
  · next i thunk label hc =>
    rw [lapse?_of_delay hc] at hl
    exact .inl ⟨i, thunk, label, hc, eq_of_lapseOf? hl⟩
  · next i v hc =>
    split at hfound
    · next f rest hpop =>
      have hs := Stack.eq_push_of_pop? hpop
      rw [lapse?_of_done hc hs] at hl
      exact .inr ⟨i, v, f, rest, hc, hs, eq_of_lapseOf? hl⟩
    · cases hfound
  · cases hfound

/-! ### How a run ends -/

/-- **How a step can end a run,** its number counted and its node looked at.  Nothing is said about
interrupts, after which there is no report. -/
inductive Halt (h : Host) (settings : Settings) (s : State) (w : World) :
    Ending → State → World → Prop where
  | finished {i v} (hc : s.current = .node i (.done v)) (hs : s.stack = .empty) :
      Halt h settings s w (.finished v) s w
  /-- A fault that no boundary catches, and that can be put into words. -/
  | failed {l f} (hl : lapse? h s w = some l) (hfault : l.mishap.1.kind.isFailure = true)
      (hframes : ∀ k ∈ l.state.stack.frames, k.isBoundary = false)
      (hworded : worded l.world l.mishap.1 l.mishap.2 l.state.counters.totalSteps
        l.state.stack.depth = .ok f) :
      Halt h settings s w (.failed f) (l.state.uncaught l.state.stack.depth) l.world
  | unknown (hk : s.current.isKnown = false) :
      Halt h settings s w (.aborted (.unknownVariant s.current.typeName)) s.cleared w
  /-- A move that leaves more frames than the limit allows. -/
  | overflow {s' w' limit text} (hm : Move h s w s' w') (hbound : settings.bound = .atMost limit)
      (hdeep : limit < s'.stack.depth) (htext : settings.limitText = .ok text) :
      Halt h settings s w (.aborted (.overflow settings.limit text s'.stack.depth)) s'.cleared w'
  | interrupted {fault s' w'} : Halt h settings s w (.interrupted fault) s' w'

variable {e : Ending}

/-- A move that is not gone on with has exceeded the limit. -/
theorem halt_of_checkLimit {s₁ : State} (hm : Move h s w s₁ w')
    (hs : checkLimit settings s₁ = .halted e s') : Halt h settings s w e s' w' := by
  unfold checkLimit at hs
  split at hs
  · cases hs
  · next limit hbound =>
    split at hs
    · next hdeep =>
      split at hs
      · next text htext =>
        cases hs
        exact .overflow hm hbound hdeep htext
      · cases hs
        exact .interrupted
    · cases hs
  · cases hs
    exact .interrupted

/-- A lapse that ends a run is not caught, or is an interrupt. -/
theorem halt_of_mishap {l : Lapse} (hl : lapse? h s w = some l)
    (hm : mishap l.state l.mishap l.world = .ok (.halted e s') w') : Halt h settings s w e s' w' := by
  cases hfault : l.mishap.1.kind.isFailure with
  | false =>
    rw [mishap_of_interrupt hfault] at hm
    cases hm
    exact .interrupted
  | true =>
    rcases hunwind : l.state.stack.unwind with ⟨dropped, _ | ⟨g, rest⟩⟩
    · rw [mishap_of_no_landing hfault hunwind] at hm
      obtain ⟨hframes, rfl⟩ := Stack.forall_of_unwind hunwind
      cases hworded : worded l.world l.mishap.1 l.mishap.2 l.state.counters.totalSteps
          l.state.stack.depth with
      | ok f =>
        rw [hworded] at hm
        cases hm
        exact .failed hl hfault hframes hworded
      | error c =>
        rw [hworded] at hm
        cases hm
        exact .interrupted
    · rw [mishap_of_landing hfault hunwind] at hm
      obtain ⟨r, w₁, -, hm⟩ := Eff.exists_of_bind_ok hm
      cases r with
      | ok _ => cases hm
      | error refusal =>
        cases hm
        exact .interrupted

/-- How the step of a finished node ends a run. -/
theorem halt_of_done {i : Nat} {v : Value} (hc : s.current = .node i (.done v))
    (hs : dispatch h settings s w = .ok (.halted e s') w') : Halt h settings s w e s' w' := by
  simp only [dispatch, hc] at hs
  rcases hpop : s.stack.pop? with _ | ⟨f | g, rest⟩
  · rw [hpop] at hs
    cases hs
    exact .finished hc (Stack.eq_empty_of_pop? hpop)
  · rw [hpop] at hs
    simp only [continueWith_eq] at hs
    obtain ⟨answer, w₁, hf, hs⟩ := Eff.exists_of_bind_ok hs
    have hstack := Stack.eq_push_of_pop? hpop
    cases answer with
    | ok node =>
      obtain ⟨hnext, rfl⟩ := EStateM.Result.ok.inj hs
      exact halt_of_checkLimit (.hand hc hstack hf) hnext
    | error mis =>
      have hl : lapse? h s w = some ⟨mis, s.handed rest, w₁⟩ := by
        rw [lapse?_of_done hc hstack, hf]
        rfl
      rw [← hc] at hs
      exact halt_of_mishap hl hs
  · rw [hpop] at hs
    cases hs

/-- How the step of a suspended action ends a run. -/
theorem halt_of_delay {i : Nat} {thunk label : Value} (hc : s.current = .node i (.delay thunk label))
    (hs : dispatch h settings s w = .ok (.halted e s') w') : Halt h settings s w e s' w' := by
  simp only [dispatch, hc, perform_eq] at hs
  obtain ⟨answer, w₁, hrun, hs⟩ := Eff.exists_of_bind_ok hs
  cases answer with
  | ok v =>
    obtain ⟨hnext, rfl⟩ := EStateM.Result.ok.inj hs
    exact halt_of_checkLimit (.act hc hrun) hnext
  | error mis =>
    have hl : lapse? h s w = some ⟨mis, s, w₁⟩ := by
      rw [lapse?_of_delay hc, hrun]
      rfl
    exact halt_of_mishap hl hs

/-- How the step on a node ends a run. -/
theorem halt_of_dispatch (hs : dispatch h settings s w = .ok (.halted e s') w') :
    Halt h settings s w e s' w' := by
  cases hk : s.current.isKnown with
  | false =>
    rw [dispatch_unknown hk] at hs
    cases hs
    exact .unknown hk
  | true =>
    cases hc : s.current with
    | node i n =>
      cases n with
      | done v => exact halt_of_done hc hs
      | delay thunk label => exact halt_of_delay hc hs
      | flatMap source f =>
        simp only [dispatch, hc] at hs
        obtain ⟨hnext, rfl⟩ := EStateM.Result.ok.inj hs
        exact halt_of_checkLimit (.push hc) hnext
      | recover source g =>
        simp only [dispatch, hc] at hs
        obtain ⟨hnext, rfl⟩ := EStateM.Result.ok.inj hs
        exact halt_of_checkLimit (.guard hc) hnext
      | foreign variant =>
        rw [hc] at hk
        cases hk
    | _ =>
      rw [hc] at hk
      cases hk

/-- **A step that ends a run** does so in one of the listed ways. -/
theorem halt_of_step (hs : step h settings a.1 a.2 = .ok (.halted e s') w') :
    Halt h settings a.1.counted (settings.seen a.1 a.2) e s' w' := by
  by_cases hshows : settings.Shows a.1 a.2
  · rw [step_eq_dispatch hshows] at hs
    exact halt_of_dispatch hs
  · obtain ⟨fault, hstep⟩ := step_of_not_shows (h := h) hshows
    rw [hstep] at hs
    cases hs
    exact .interrupted

/-- **A run that ends has a history,** and its last step ends it. -/
theorem exists_history_of_drive {fuel : Nat} (hrun : drive h settings fuel a.1 a.2 = .ok (e, s) w) :
    ∃ past last, History h settings a past last ∧
      step h settings last.1 last.2 = .ok (.halted e s) w ∧
      Halt h settings last.1.counted (settings.seen last.1 last.2) e s w := by
  obtain ⟨last, hreached, hhalts⟩ := exists_reaches_of_drive hrun
  obtain ⟨past, hlast⟩ := reaches_iff_history.1 hreached
  exact ⟨past, last, hlast, hhalts, halt_of_step hhalts⟩

/-! ### Reports -/

/-- **A report is made of a driven run:** it has the outcome and the counters with which the loop ends,
and nothing is done to the world after it but to close the journal. -/
theorem exists_drive_of_report {fuel : Nat} {node : Value} {r : Report}
    (hrun : runReport h fuel settings node w = .ok r w') :
    ∃ description s₁ w₁, w.ticked.describe? node = .ok description ∧
      drive h settings fuel (.start node) (w.opened description) =
        .ok (r.outcome.ending, s₁) w₁ ∧
      s₁.counters = r.counters ∧ w' = w₁.closed (closing r.counters r.outcome) := by
  cases hnode : node.isNode with
  | false =>
    rw [runReport_of_not_isNode hnode] at hrun
    cases hrun
  | true =>
    cases hd : w.ticked.describe? node with
    | error c =>
      rw [runReport_of_undescribed hnode hd] at hrun
      cases hrun
    | ok description =>
      rw [runReport_of_described hnode hd] at hrun
      obtain ⟨⟨e, s₁⟩, w₁, hdrive, hend⟩ := Eff.exists_of_bind_ok hrun
      rcases e.eq_ending_or_interrupted with ⟨o, rfl⟩ | ⟨fault, rfl⟩
      · rw [concluded_of_outcome] at hend
        obtain ⟨rfl, rfl⟩ := EStateM.Result.ok.inj hend
        exact ⟨description, s₁, w₁, rfl, hdrive, rfl, rfl⟩
      · rw [concluded_of_interrupted] at hend
        cases hend

/-- **A report is made of the last step of a history:** its outcome and counters are those with which
that step ends the run, and nothing is done to the world after it but to close the journal. -/
theorem exists_history_of_runReport {fuel : Nat} {node : Value} {r : Report}
    (hrun : runReport h fuel settings node w = .ok r w') :
    ∃ description past last s₁ w₁, w.ticked.describe? node = .ok description ∧
      History h settings (.start node, w.opened description) past last ∧
      step h settings last.1 last.2 = .ok (.halted r.outcome.ending s₁) w₁ ∧
      Halt h settings last.1.counted (settings.seen last.1 last.2) r.outcome.ending s₁ w₁ ∧
      s₁.counters = r.counters ∧ w' = w₁.closed (closing r.counters r.outcome) := by
  obtain ⟨description, s₁, w₁, hd, hdrive, hcounters, hclosed⟩ := exists_drive_of_report hrun
  obtain ⟨past, last, hlast, hstep, hhalt⟩ :=
    exists_history_of_drive (a := (.start node, w.opened description)) hdrive
  exact ⟨description, past, last, s₁, w₁, hd, hlast, hstep, hhalt, hcounters, hclosed⟩

end Machine
end EffectGraph
