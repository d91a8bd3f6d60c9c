import EffectGraph.Proofs.Adequacy
import EffectGraph.Proofs.Journal

/-!
# Reports agree with the meaning of a node

A run does more than drive the machine: it reads the clock, describes the node for the journal,
words a failure, and closes the journal.  `runReport_agrees` says what is left of the meaning of the
node behind all that.  Where nothing has to be worded, or the wording is accepted, a report names
exactly the verdict of the node and leaves the world that the node leaves, up to the clock and the
journal.  Two texts can be refused, because a number in them has too many digits: the description of
the node, which keeps it from being run at all, and the wording of a failure, in whose place the
complaint about the text is raised.

Nothing but these complaints and the interrupts of the node is raised, for no step of the machine
raises (`drive_ne_raised`): each fault becomes an ending.
-/

namespace EffectGraph

open Machine

/-! ### Steps do not raise -/

namespace Eff

variable {α β : Type}

/-- A computation that raises nothing. -/
def Calm (x : Eff α) : Prop := ∀ w fault w', x w ≠ .error (.raised fault) w'

namespace Calm

theorem pure (a : α) : Calm (Pure.pure a : Eff α) := fun _ _ _ h => nomatch h

theorem get : Calm (MonadState.get : Eff World) := fun _ _ _ h => nomatch h

theorem bind {x : Eff α} {f : α → Eff β} (hx : Calm x) (hf : ∀ a, Calm (f a)) : Calm (x >>= f) := by
  intro w fault w' h
  cases hxw : x w with
  | ok a w₁ =>
    rw [bind_of_ok hxw] at h
    exact hf a w₁ fault w' h
  | error signal w₁ =>
    rw [bind_of_error hxw] at h
    cases h
    exact hx w fault w' hxw

/-- What is attempted gives the fault as a value. -/
theorem attempt (x : Eff α) : Calm (Eff.attempt x) := by
  intro w fault w' h
  unfold Eff.attempt at h
  split at h <;> cases h

end Calm
end Eff

namespace Machine

open Eff

variable {h : Host} {settings : Settings}

theorem report_calm (fault : Fault Value) (label : Value) (step discarded : Nat) :
    Calm (report fault label step discarded) := fun _ _ _ h => nomatch h

theorem handleFault_calm (s : State) (fault : Fault Value) (label : Value) :
    Calm (handleFault s fault label) := by
  unfold handleFault
  split
  · exact .pure _
  · split
    · refine .bind (.attempt _) fun r => ?_
      cases r <;> exact .pure _
    · refine .bind (report_calm _ _ _ _) fun r => ?_
      cases r <;> exact .pure _

theorem continueWith_calm (s : State) (f v : Value) : Calm (continueWith h settings s f v) := by
  refine .bind (.attempt _) fun r => ?_
  cases r with
  | error fault => exact .bind .get fun w => handleFault_calm _ _ _
  | ok next =>
    simp only
    split
    · exact .pure _
    · exact .bind .get fun w => handleFault_calm _ _ _

theorem perform_calm (s : State) (thunk label : Value) : Calm (perform h settings s thunk label) := by
  refine .bind (.attempt _) fun r => ?_
  cases r with
  | error fault => exact .bind .get fun w => handleFault_calm _ _ _
  | ok value => exact .pure _

theorem dispatch_calm (s : State) : Calm (dispatch h settings s) := by
  unfold dispatch
  split
  · split
    · exact .pure _
    · exact .pure _
    · exact continueWith_calm _ _ _
  · exact perform_calm _ _ _
  all_goals exact .pure _

/-- A step deals with every fault itself. -/
theorem step_calm (s : State) : Calm (step h settings s) := by
  refine .bind .get fun w => ?_
  split
  · refine .bind .get fun w' => ?_
    split
    · exact .pure _
    · refine .bind (fun u fault u' hu => ?_) fun _ => dispatch_calm _
      rw [World.note_apply] at hu
      cases hu
  · exact dispatch_calm _

/-- **A drive ends or runs out of fuel;** it never raises. -/
theorem drive_calm (fuel : Nat) (s : State) : Calm (drive h settings fuel s) := by
  induction fuel generalizing s with
  | zero => exact fun _ _ _ h => nomatch h
  | succ fuel ih =>
    refine .bind (step_calm s) fun p => ?_
    cases p with
    | next s' => exact ih s'
    | halted ending s' => exact .pure _

/-! ### Reports -/

/-- The ending that an outcome reports. -/
def Outcome.ending : Outcome → Ending
  | .finished v => .finished v
  | .failed failure => .failed failure
  | .aborted reason => .aborted reason

/-- Every ending but an interrupt is reported. -/
theorem Ending.eq_ending_or_interrupted (e : Ending) :
    (∃ o : Outcome, e = o.ending) ∨ ∃ fault, e = .interrupted fault := by
  cases e with
  | finished v => exact .inl ⟨.finished v, rfl⟩
  | failed failure => exact .inl ⟨.failed failure, rfl⟩
  | aborted reason => exact .inl ⟨.aborted reason, rfl⟩
  | interrupted fault => exact .inr ⟨fault, rfl⟩

/-- What a run does once the machine has halted: an interrupt is raised again, and any other ending
becomes a report. -/
def concluded (startTime : Nat) : Ending × State → Eff Report
  | (.finished value, s) => finish s (.finished value)
  | (.failed failure, s) => finish s (.failed failure)
  | (.aborted reason, s) => finish s (.aborted reason)
  | (.interrupted fault, s) => do
    World.note fun _ => .ok ("Run interrupted after " ++ s.counters.totalSteps.repr ++ " steps")
    let _ ← World.tick
    Eff.raise fault
where
  finish (s : State) (outcome : Outcome) : Eff Report := do
    let endTime ← World.tick
    World.note fun _ => .ok (closing s.counters outcome)
    return ⟨outcome, s.counters, startTime, endTime⟩

theorem concluded_of_outcome (o : Outcome) (startTime : Nat) (s : State) (w : World) :
    concluded startTime (o.ending, s) w =
      .ok ⟨o, s.counters, startTime, w.ticked.journal.clock⟩ (w.closed (closing s.counters o)) := by
  have hfinish : concluded startTime (o.ending, s) = concluded.finish startTime s o := by
    cases o <;> rfl
  have hnote := World.note_apply (closing s.counters o) w.ticked
  rw [hfinish]
  exact (Eff.bind_of_ok (rfl : World.tick w = .ok _ w.ticked)).trans (Eff.bind_of_ok hnote)

theorem concluded_of_interrupted (fault : Fault Value) (startTime : Nat) (s : State) (w : World) :
    concluded startTime (.interrupted fault, s) w =
      .error (.raised fault) (w.brokenOff s.counters.totalSteps) :=
  Eff.bind_of_ok (World.note_apply _ w)

variable {fuel : Nat} {node : Value} {w : World} {description : String}

/-- Nothing but a node is run. -/
theorem runReport_of_not_isNode (hnode : node.isNode = false) :
    runReport h fuel settings node w =
      .error (.raised (Complaint.interpreterExpectsNode node.typeName).fault) w := by
  simp only [runReport, hnode]
  rfl

/-- What cannot be described is not run. -/
theorem runReport_of_undescribed (hnode : node.isNode = true) {c : Complaint}
    (hd : w.ticked.describe? node = .error c) :
    runReport h fuel settings node w = .error (.raised c.fault) w.ticked := by
  have hdescribe : Eff.ofExcept (w.ticked.describe? node) w.ticked =
      .error (.raised c.fault) w.ticked := by
    rw [hd]
    rfl
  have htick : World.tick w = .ok w.ticked.journal.clock w.ticked := rfl
  simp only [runReport, hnode]
  exact (Eff.bind_of_ok htick).trans ((Eff.bind_of_ok rfl).trans (Eff.bind_of_error hdescribe))

/-- Once it is described, a node is driven in the opened world. -/
theorem runReport_of_described (hnode : node.isNode = true)
    (hd : w.ticked.describe? node = .ok description) :
    runReport h fuel settings node w =
      (drive h settings fuel (.start node) >>= concluded w.ticked.journal.clock)
        (w.opened description) := by
  have hdescribe : Eff.ofExcept (w.ticked.describe? node) w.ticked = .ok description w.ticked :=
    Eff.ofExcept_of_ok hd
  have htick : World.tick w = .ok w.ticked.journal.clock w.ticked := rfl
  have hnote := World.note_apply ("Run started: " ++ description) w.ticked
  simp only [runReport, hnode]
  refine (Eff.bind_of_ok htick).trans ((Eff.bind_of_ok hdescribe).trans
    ((Eff.bind_of_ok hnote).trans ?_))
  refine congrFun (bind_congr fun r => ?_) _
  obtain ⟨e, s⟩ := r
  cases e <;> rfl

/-- A run from a world reports an outcome and leaves another world behind, up to the clock and the
journal. -/
def Reports (h : Host) (settings : Settings) (node : Value) (w : World) (o : Outcome) (w' : World) :
    Prop :=
  ∃ fuel r, runReport h fuel settings node w = .ok r (w'.closed (closing r.counters r.outcome)) ∧
    r.outcome = o

/-- A run from a world raises a fault and leaves another world behind, up to the clock and the
journal. -/
def Raises (h : Host) (settings : Settings) (node : Value) (w : World) (fault : Fault Value)
    (w' : World) : Prop :=
  ∃ fuel steps, runReport h fuel settings node w = .error (.raised fault) (w'.brokenOff steps)

/-- **A report is the ending of a run in the opened world.** -/
theorem reports_iff_runs (hnode : node.isNode = true)
    (hd : w.ticked.describe? node = .ok description) {o : Outcome} {w' : World} :
    Reports h settings node w o w' ↔
      ∃ c, Runs h settings node (w.opened description) o.ending c w' := by
  constructor
  · rintro ⟨fuel, r, hrun, rfl⟩
    rw [runReport_of_described hnode hd] at hrun
    obtain ⟨⟨e, s⟩, w₁, hdrive, hend⟩ := Eff.exists_of_bind_ok hrun
    rcases e.eq_ending_or_interrupted with ⟨o, rfl⟩ | ⟨fault, rfl⟩
    · rw [concluded_of_outcome] at hend
      obtain ⟨rfl, hw⟩ := EStateM.Result.ok.inj hend
      rw [World.closed_inj hw] at hdrive
      exact ⟨_, fuel, s, hdrive, rfl⟩
    · rw [concluded_of_interrupted] at hend
      cases hend
  · rintro ⟨c, fuel, s, hdrive, rfl⟩
    refine ⟨fuel, ⟨o, s.counters, w.ticked.journal.clock, w'.ticked.journal.clock⟩, ?_, rfl⟩
    rw [runReport_of_described hnode hd, Eff.bind_of_ok hdrive, concluded_of_outcome]

/-- A run that raises was interrupted in a step, after which nothing is done to the world but to close
the journal. -/
theorem exists_drive_of_raised (hnode : node.isNode = true) (hd : w.ticked.describe? node = .ok description)
    {fault : Fault Value} {w' : World}
    (hrun : runReport h fuel settings node w = .error (.raised fault) w') :
    ∃ s w₁, drive h settings fuel (.start node) (w.opened description) =
        .ok (.interrupted fault, s) w₁ ∧ w' = w₁.brokenOff s.counters.totalSteps := by
  rw [runReport_of_described hnode hd] at hrun
  cases hdrive : drive h settings fuel (.start node) (w.opened description) with
  | error signal w₁ =>
    rw [Eff.bind_of_error hdrive] at hrun
    cases hrun
    exact absurd hdrive (drive_calm _ _ _ _ _)
  | ok r w₁ =>
    obtain ⟨e, s⟩ := r
    rw [Eff.bind_of_ok hdrive] at hrun
    rcases e.eq_ending_or_interrupted with ⟨o, rfl⟩ | ⟨fault', rfl⟩
    · rw [concluded_of_outcome] at hrun
      cases hrun
    · rw [concluded_of_interrupted] at hrun
      cases hrun
      exact ⟨s, w₁, rfl, rfl⟩

/-- **What is raised is the interrupt that the run in the opened world ended with.** -/
theorem raises_iff_runs (hnode : node.isNode = true)
    (hd : w.ticked.describe? node = .ok description) {fault : Fault Value} {w' : World} :
    Raises h settings node w fault w' ↔
      ∃ c, Runs h settings node (w.opened description) (.interrupted fault) c w' := by
  constructor
  · rintro ⟨fuel, steps, hrun⟩
    obtain ⟨s, w₁, hdrive, hw⟩ := exists_drive_of_raised hnode hd hrun
    rw [← World.brokenOff_inj hw] at hdrive
    exact ⟨_, fuel, s, hdrive, rfl⟩
  · rintro ⟨c, fuel, s, hdrive, -⟩
    refine ⟨fuel, s.counters.totalSteps, ?_⟩
    rw [runReport_of_described hnode hd, Eff.bind_of_ok hdrive, concluded_of_interrupted]

end Machine

/-! ### Verdicts and reports -/

section agreement

variable {h : Host} {settings : Settings} (hp : settings.Plain) {node : Value}
  (hnode : node.isNode = true) {w : World} {description : String}
  (hd : w.ticked.describe? node = .ok description)
include hp hnode hd

/-- A report has the outcome of the verdict. -/
theorem reports_iff {o : Outcome} {w' : World} :
    Reports h settings node w o w' ↔ ∃ verdict k,
      Evaluates h node (w.opened description) verdict k w' ∧ verdict.ending w' k = o.ending := by
  rw [reports_iff_runs hnode hd]
  constructor
  · rintro ⟨c, hruns⟩
    obtain ⟨verdict, k, he, hending, -⟩ := (runs_iff hp).1 hruns
    exact ⟨verdict, k, he, hending⟩
  · rintro ⟨verdict, k, he, hending⟩
    exact ⟨_, hending ▸ he.runs hp⟩

/-- What is raised is the interrupt of the verdict. -/
theorem raises_iff {fault : Fault Value} {w' : World} :
    Raises h settings node w fault w' ↔ ∃ verdict k,
      Evaluates h node (w.opened description) verdict k w' ∧
        verdict.ending w' k = .interrupted fault := by
  rw [raises_iff_runs hnode hd]
  constructor
  · rintro ⟨c, hruns⟩
    obtain ⟨verdict, k, he, hending, -⟩ := (runs_iff hp).1 hruns
    exact ⟨verdict, k, he, hending⟩
  · rintro ⟨verdict, k, he, hending⟩
    exact ⟨_, hending ▸ he.runs hp⟩

end agreement

/-- The report of a failure names its cause. -/
theorem cause_of_worded {w : World} {fault : Fault Value} {label : Value} {step discarded : Nat}
    {f : Failure} (hf : worded w fault label step discarded = .ok f) : f.cause = fault := by
  unfold worded at hf
  cases hwords : words w fault label with
  | error c =>
    rw [hwords] at hf
    cases hf
  | ok texts =>
    rw [hwords] at hf
    cases hf
    rfl

/-- **A report agrees with the meaning of the node,** where the texts that it needs are accepted.
Whatever the host does, a node that cannot be described is not run.  Otherwise a run reports a value,
a failure or an unknown variant, and leaves a world behind, exactly if that is what the node
evaluates to from the opened world, the wording of the failure being accepted; and it raises what
interrupts the node, or the complaint that refuses the wording of its failure. -/
theorem runReport_agrees {h : Host} {settings : Settings} (hp : settings.Plain) {node : Value}
    (hnode : node.isNode = true) (w : World) :
    (∀ c, w.ticked.describe? node = .error c → ∀ fuel,
      runReport h fuel settings node w = .error (.raised c.fault) w.ticked) ∧
    ∀ description, w.ticked.describe? node = .ok description →
      (∀ v w', Reports h settings node w (.finished v) w' ↔
        ∃ k, Evaluates h node (w.opened description) (.value v) k w') ∧
      (∀ e w', (∃ f, Reports h settings node w (.failed f) w' ∧ f.cause = e) ↔
        ∃ label pending k f,
          Evaluates h node (w.opened description) (.failure e label pending) k w' ∧
            worded w' e label k.totalSteps pending = .ok f) ∧
      (∀ reason w', Reports h settings node w (.aborted reason) w' ↔
        ∃ typeName pending k, reason = .unknownVariant typeName ∧
          Evaluates h node (w.opened description) (.unknown typeName pending) k w') ∧
      ∀ fault w', Raises h settings node w fault w' ↔
        (∃ k, Evaluates h node (w.opened description) (.interrupt fault) k w') ∨
          ∃ e label pending k c,
            Evaluates h node (w.opened description) (.failure e label pending) k w' ∧
              worded w' e label k.totalSteps pending = .error c ∧ c.fault = fault := by
  refine ⟨fun c hc fuel => runReport_of_undescribed hnode hc, fun description hd => ?_⟩
  refine ⟨fun v w' => ?_, fun e w' => ?_, fun reason w' => ?_, fun fault w' => ?_⟩
  · rw [reports_iff hp hnode hd]
    constructor
    · rintro ⟨verdict, k, he, ho⟩
      exact ⟨k, Verdict.ending_eq_finished_iff.1 ho ▸ he⟩
    · rintro ⟨k, he⟩
      exact ⟨_, k, he, rfl⟩
  · constructor
    · rintro ⟨f, hreports, rfl⟩
      obtain ⟨verdict, k, he, ho⟩ := (reports_iff hp hnode hd).1 hreports
      obtain ⟨e, label, pending, rfl, hf⟩ := Verdict.ending_eq_failed_iff.1 ho
      rw [cause_of_worded hf]
      exact ⟨label, pending, k, f, he, hf⟩
    · rintro ⟨label, pending, k, f, he, hf⟩
      have ho := Verdict.ending_eq_failed_iff.2 ⟨e, label, pending, rfl, hf⟩
      exact ⟨f, (reports_iff hp hnode hd).2 ⟨_, k, he, ho⟩, cause_of_worded hf⟩
  · rw [reports_iff hp hnode hd]
    constructor
    · rintro ⟨verdict, k, he, ho⟩
      obtain ⟨typeName, pending, hreason, rfl⟩ := Verdict.ending_eq_aborted_iff.1 ho
      exact ⟨typeName, pending, k, hreason, he⟩
    · rintro ⟨typeName, pending, k, hreason, he⟩
      exact ⟨_, k, he, Verdict.ending_eq_aborted_iff.2 ⟨typeName, pending, hreason, rfl⟩⟩
  · rw [raises_iff hp hnode hd]
    constructor
    · rintro ⟨verdict, k, he, hending⟩
      rcases Verdict.ending_eq_interrupted_iff.1 hending with
        rfl | ⟨e, label, pending, c, rfl, hc⟩
      · exact .inl ⟨k, he⟩
      · exact .inr ⟨e, label, pending, k, c, he, hc⟩
    · rintro (⟨k, he⟩ | ⟨e, label, pending, k, c, he, hc⟩)
      · exact ⟨_, k, he, rfl⟩
      · exact ⟨_, k, he, Verdict.ending_eq_interrupted_iff.2 (.inr ⟨e, label, pending, c, rfl, hc⟩)⟩

/-- The failure inside an attempt is noted, caught, and reported as a value. -/
theorem runReport_agrees_attempt :
    let settings := Script.settingsOf Script.SessionInput.recorded .none (.bool false)
    let node := Graph.attempt (Graph.action (.raiseFault (.fault (.ofText "no"))) "fail(ValueError)")
    let opened := Script.SessionInput.recorded.opened
      "Recover(FlatMap, EffectNode.attempt.<locals>.<lambda>)"
    settings.Plain ∧ node.isNode = true ∧
      Reports .spent settings node Script.SessionInput.recorded
        (.finished (.failure (.fault (.ofText "no"))))
        (opened.noted
          "Recovering from ValueError in fail(ValueError) (1 continuation(s) discarded)") := by
  intro settings node opened
  have hp : settings.Plain := Settings.plain_settingsOf _
  have hd : Script.SessionInput.recorded.ticked.describe? node =
      .ok "Recover(FlatMap, EffectNode.attempt.<locals>.<lambda>)" := rfl
  have hfail := evaluates_raiseFault .spent (.ofText "no") rfl "fail(ValueError)" rfl opened
  have hsource := hfail.sequenceStopped (i := 0) (f := .ofCallback .wrapOk) rfl
  refine ⟨hp, rfl, (((runReport_agrees hp rfl _).2 _ hd).1 _ _).2 ?_⟩
  exact ⟨_, .rescue hsource rfl rfl .done⟩

end EffectGraph
