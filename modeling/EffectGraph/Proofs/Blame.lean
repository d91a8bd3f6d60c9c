import EffectGraph.Proofs.Ledger
import EffectGraph.Proofs.Tally

/-!
# What a failure report tells

A report names a failure exactly if something went wrong in the last step of the run and no boundary
was there to catch it; then the report is about this lapse, whatever the fault is, and whatever went
wrong and was caught before.  Without a named failure, a run that gives no value has given up itself,
because of an unknown variant or of its limit (`failure_reported`).
-/

namespace EffectGraph

open Machine

namespace Machine

variable {h : Host} {settings : Settings} {past : List (State × World)} {a : State × World}
  {s s' : State} {w w' : World} {l : Lapse}

/-! ### Lapses that do not end a run -/

/-- Nothing lapses in what is no node of a known variant. -/
theorem lapse?_of_unknown (hk : s.current.isKnown = false) : lapse? h s w = none := by
  unfold lapse?
  split <;> first | rfl | (next hc => rw [hc] at hk; cases hk)

/-- **Where a step goes on after a lapse, a boundary has caught it.** -/
theorem Move.exists_boundary (hm : Move h s w s' w') (hl : lapse? h s w = some l) :
    ∃ k ∈ l.state.stack.frames, k.isBoundary = true := by
  have hcaught : ∀ {dropped : Nat} {g : Value} {rest : Stack},
      l.state.stack.unwind = ⟨dropped, some (g, rest)⟩ →
        ∃ k ∈ l.state.stack.frames, k.isBoundary = true := by
    intro dropped g rest hlands
    obtain ⟨fs, hframes, -, -⟩ := Stack.exists_of_unwind hlands
    exact ⟨.boundary g, hframes ▸ List.mem_append_right _ List.mem_cons_self, rfl⟩
  cases hm with
  | push hc =>
    rw [lapse?_of_flatMap hc] at hl
    cases hl
  | guard hc =>
    rw [lapse?_of_recover hc] at hl
    cases hl
  | pass hc hs =>
    rw [lapse?_of_boundary hs hc] at hl
    cases hl
  | hand hc hs hf =>
    rw [lapse?_of_done hc hs, hf] at hl
    cases hl
  | act hc hrun =>
    rw [lapse?_of_delay hc, hrun] at hl
    cases hl
  | handCaught hc hs hf _ hlands =>
    rw [lapse?_of_done hc hs, hf] at hl
    cases hl
    exact hcaught hlands
  | actCaught hc hrun _ hlands =>
    rw [lapse?_of_delay hc, hrun] at hl
    cases hl
    exact hcaught hlands

/-! ### Failures and aborts -/

/-- A lapse ends a run as a failure: it is no interrupt, and no boundary waits for it. -/
structure Lapse.Uncaught (l : Lapse) : Prop where
  failure : l.mishap.1.kind.isFailure = true
  frames : ∀ k ∈ l.state.stack.frames, k.isBoundary = false

/-- **A failure report is about a lapse** after a history. -/
structure Blames (h : Host) (settings : Settings) (past : List (State × World)) (r : Report)
    (f : Failure) (l : Lapse) : Prop where
  /-- What the run gives is the fault that was raised. -/
  result : r.result = .error l.mishap.1
  cause : f.cause = l.mishap.1
  /-- The label of the action, or the name of what was invoked. -/
  label : f.label = l.mishap.2
  step : f.step = r.counters.totalSteps
  /-- The frames that were waiting, without the one that was invoked. -/
  discarded : f.discarded = l.state.stack.depth
  /-- All other frames that were dropped are those that earlier lapses have exposed. -/
  dropped : r.counters.discardedContinuations = f.discarded + losses h settings past

/-- **Why the machine gives up in a step,** which leaves a world behind. -/
inductive Aborts (h : Host) (settings : Settings) (a : State × World) (w : World) : Abort → Prop where
  | unknown (hk : a.1.current.isKnown = false) :
      Aborts h settings a w (.unknownVariant a.1.current.typeName)
  | overflow {s limit text} (hm : Move h a.1.counted (settings.seen a.1 a.2) s w)
      (hbound : settings.bound = .atMost limit) (hdeep : limit < s.stack.depth) :
      Aborts h settings a w (.overflow settings.limit text s.stack.depth)

/-- The report of a failure tells its step. -/
theorem step_of_worded {fault : Fault Value} {label : Value} {step discarded : Nat} {f : Failure}
    (hf : worded w fault label step discarded = .ok f) : f.step = step := by
  unfold worded at hf
  cases hwords : words w fault label with
  | error c =>
    rw [hwords] at hf
    cases hf
  | ok texts =>
    rw [hwords] at hf
    cases hf
    rfl

/-- A lapse is dealt with in the step in which it happens. -/
theorem counters_of_lapse? (hl : lapse? h s w = some l) :
    l.state.counters.totalSteps = s.counters.totalSteps ∧
      l.state.counters.discardedContinuations = s.counters.discardedContinuations := by
  rcases exists_of_lapse? hl with ⟨_, _, _, _, _, hstate⟩ | ⟨_, _, _, _, _, _, _, hstate⟩ <;>
    rw [hstate] <;> exact ⟨rfl, rfl⟩

/-- **How a reported run ends:** with a value where nothing lapses, with an uncaught lapse, or because
the machine gives up. -/
theorem Halt.cases_outcome {o : Outcome}
    (hhalt : Halt h settings a.1.counted (settings.seen a.1 a.2) o.ending s w) :
    (∃ v, o = .finished v ∧ lapseAt? h settings a = none) ∨
    (∃ l f, o = .failed f ∧ lapseAt? h settings a = some l ∧ l.Uncaught ∧
      worded l.world l.mishap.1 l.mishap.2 l.state.counters.totalSteps l.state.stack.depth = .ok f ∧
      s = l.state.uncaught l.state.stack.depth ∧ w = l.world) ∨
    ∃ reason, o = .aborted reason ∧ Aborts h settings a w reason ∧
      ∀ l, lapseAt? h settings a = some l → ¬ l.Uncaught := by
  generalize he : o.ending = e at hhalt
  cases hhalt with
  | finished hc hs =>
    cases o <;> cases he
    exact .inl ⟨_, rfl, lapse?_of_empty hs hc⟩
  | failed hl hfault hframes hworded =>
    cases o <;> cases he
    exact .inr (.inl ⟨_, _, rfl, hl, ⟨hfault, hframes⟩, hworded, rfl, rfl⟩)
  | unknown hk =>
    cases o <;> cases he
    refine .inr (.inr ⟨_, rfl, .unknown hk, fun l hl => ?_⟩)
    rw [lapseAt?, lapse?_of_unknown hk] at hl
    cases hl
  | overflow hm hbound hdeep htext =>
    cases o <;> cases he
    refine .inr (.inr ⟨_, rfl, .overflow hm hbound hdeep, fun l hl huncaught => ?_⟩)
    obtain ⟨k, hk, hboundary⟩ := hm.exists_boundary hl
    rw [huncaught.frames k hk] at hboundary
    cases hboundary
  | interrupted => exact absurd he (o.ending_ne_interrupted _)

end Machine

/-- **The failure report is exact.**  Whatever the host, the node, the world, the limit and the
tracing, a run that gives a report ended in the last step of a history.  The report names a failure
exactly if that step had a lapse that is a failure and found no boundary, and then it is about this
lapse, and nothing is done to the world after it but to close the journal.  A report without a value
and without a named failure means that the machine gave up in that step. -/
theorem failure_reported {h : Host} {settings : Settings} {node : Value} {w w' : World} {fuel : Nat}
    {r : Report} (hrun : runReport h fuel settings node w = .ok r w') :
    ∃ description past last s w₁,
      (w.ticked.describe? node = .ok description ∧
        History h settings (.start node, w.opened description) past last ∧
        step h settings last.1 last.2 = .ok (.halted r.outcome.ending s) w₁ ∧
        s.counters = r.counters ∧ w' = w₁.closed (closing r.counters r.outcome)) ∧
      (r.failure?.isSome ↔ ∃ l, lapseAt? h settings last = some l ∧ l.Uncaught) ∧
      (∀ e, r.result = .error e → r.failure? = none →
        ∃ reason, e = reason.fault ∧ Aborts h settings last w₁ reason) ∧
      ∀ f, r.failure? = some f → ∃ l, lapseAt? h settings last = some l ∧ l.Uncaught ∧
        Blames h settings past r f l ∧ w₁ = l.world := by
  obtain ⟨description, past, last, s, w₁, hd, hlast, hstep, hhalt, hcounters, hw⟩ :=
    exists_history_of_runReport hrun
  refine ⟨description, past, last, s, w₁, ⟨hd, hlast, hstep, hcounters, hw⟩, ?_⟩
  rcases hhalt.cases_outcome with ⟨v, ho, hnone⟩ | ⟨l, f, ho, hl, huncaught, hworded, hs, hworld⟩ |
    ⟨reason, ho, hgives, hnone⟩
  · have hresult : r.result = .ok v := by rw [Report.result, ho]
    have hfailure : r.failure? = none := by rw [Report.failure?, ho]
    refine ⟨⟨fun hf => ?_, fun ⟨l, hl, _⟩ => ?_⟩, fun e he _ => ?_, fun f hf => ?_⟩
    · rw [hfailure] at hf
      cases hf
    · rw [hnone] at hl
      cases hl
    · rw [hresult] at he
      cases he
    · rw [hfailure] at hf
      cases hf
  · have hresult : r.result = .error f.cause := by rw [Report.result, ho]
    have hfailure : r.failure? = some f := by rw [Report.failure?, ho]
    obtain ⟨⟨hcause, hlabel, hdiscarded⟩, -⟩ := worded_eq_ok hworded 0 0
    have hfstep := step_of_worded hworded
    obtain ⟨hsteps, hbefore⟩ := counters_of_lapse? hl
    have hblames : Blames h settings past r f l := by
      refine ⟨hresult.trans (congrArg _ hcause), hcause, hlabel, ?_, hdiscarded, ?_⟩
      · rw [hfstep, ← hcounters, hs]
        rfl
      · have hlosses := hlast.balanced.discarded
        have htotal : s.counters.discardedContinuations =
            l.state.counters.discardedContinuations + l.state.stack.depth := by rw [hs]; rfl
        rw [← hcounters, htotal, hbefore, hdiscarded, ← hlosses, Nat.add_comm]
        rfl
    refine ⟨⟨fun _ => ⟨l, hl, huncaught⟩, fun _ => hfailure ▸ rfl⟩, fun e _ hf => ?_, fun f' hf => ?_⟩
    · rw [hfailure] at hf
      cases hf
    · rw [hfailure] at hf
      cases hf
      exact ⟨l, hl, huncaught, hblames, hworld⟩
  · have hresult : r.result = .error reason.fault := by rw [Report.result, ho]
    have hfailure : r.failure? = none := by rw [Report.failure?, ho]
    refine ⟨⟨fun hf => ?_, fun ⟨l, hl, hu⟩ => absurd hu (hnone l hl)⟩, fun e he _ => ?_, fun f hf => ?_⟩
    · rw [hfailure] at hf
      cases hf
    · rw [hresult] at he
      cases he
      exact ⟨reason, rfl, hgives⟩
    · rw [hfailure] at hf
      cases hf

/-- An action that raises what another machine gave up with fails, as with any other fault. -/
theorem failure_reported_abort :
    let w := Script.SessionInput.recorded
    let settings := Script.settingsOf w .none (.bool false)
    let fault := (Abort.unknownVariant "int").fault
    let node := Value.sequenced (Graph.action (.raiseFault (.fault fault)) "inner") .wrapOk
    ∃ r w' f, runReport .spent 2 settings node w = .ok r w' ∧ r.result = .error fault ∧
      r.failure? = some f ∧ f.label = .str "inner" ∧ f.step = 2 ∧ f.discarded = 1 ∧
      ∃ past last l, lapseAt? .spent settings last = some l ∧ l.Uncaught ∧
        Blames .spent settings past r f l := by
  intro w settings fault node
  have hrun : ∃ r w' f, runReport .spent 2 settings node w = .ok r w' ∧ r.result = .error fault ∧
      r.failure? = some f ∧ f.label = .str "inner" ∧ f.step = 2 ∧ f.discarded = 1 :=
    ⟨_, _, _, rfl, rfl, rfl, rfl, rfl, rfl⟩
  obtain ⟨r, w', f, hrun, hresult, hfailure, hlabel, hstep, hdiscarded⟩ := hrun
  obtain ⟨_, past, last, _, _, -, -, -, hblame⟩ := failure_reported hrun
  obtain ⟨l, hl, huncaught, hblames, -⟩ := hblame f hfailure
  exact ⟨r, w', f, hrun, hresult, hfailure, hlabel, hstep, hdiscarded, past, last, l, hl, huncaught,
    hblames⟩

end EffectGraph
