import EffectGraph.Proofs.Adequacy
import EffectGraph.Proofs.Journal

/-!
# What a run counts, part by part

The counters of the run of a sequence or of a guarded node follow from those of its parts, each run
alone in the world that it would see.  A run alone counts one step more for a value that it hands
out, and drops the continuations that still wait when it fails, so what the parts count is not simply
added: `counters_of_parts` says for each way that the parts can end what the whole counts, and that
it ends like its last part.

A handler runs only after the recovery was noted.  The note is never refused where the failing part
alone was reported, because a failure is reported under a label with something to it, or under a text
(`Evaluates.named`).
-/

namespace EffectGraph

open Machine

namespace Machine

/-- Endings that differ at most in the step for which a failure is reported. -/
inductive Ending.Alike : Ending → Ending → Prop where
  | finished (v : Value) : Alike (.finished v) (.finished v)
  | failed {f f' : Failure} (hcause : f'.cause = f.cause) (hlabel : f'.label = f.label)
      (hdiscarded : f'.discarded = f.discarded) : Alike (.failed f) (.failed f')
  | aborted (reason : Abort) : Alike (.aborted reason) (.aborted reason)
  | interrupted (fault : Fault Value) : Alike (.interrupted fault) (.interrupted fault)

/-- A report that was accepted is accepted for every step and number of frames. -/
theorem worded_eq_ok {w : World} {fault : Fault Value} {label : Value} {step discarded : Nat}
    {f : Failure} (hf : worded w fault label step discarded = .ok f) (step' discarded' : Nat) :
    (f.cause = fault ∧ f.label = label ∧ f.discarded = discarded) ∧
      ∃ f', worded w fault label step' discarded' = .ok f' ∧
        f'.cause = fault ∧ f'.label = label ∧ f'.discarded = discarded' := by
  unfold worded at hf ⊢
  cases hwords : words w fault label with
  | error c =>
    rw [hwords] at hf
    cases hf
  | ok texts =>
    rw [hwords] at hf
    cases hf
    exact ⟨⟨rfl, rfl, rfl⟩, _, rfl, rfl, rfl, rfl⟩

/-- A report that was refused is refused for every step and number of frames. -/
theorem worded_eq_error {w : World} {fault : Fault Value} {label : Value} {step discarded : Nat}
    {c : Complaint} (hc : worded w fault label step discarded = .error c) (step' discarded' : Nat) :
    worded w fault label step' discarded' = .error c := by
  unfold worded at hc ⊢
  cases hwords : words w fault label with
  | error c' =>
    rw [hwords] at hc
    exact hc
  | ok texts =>
    rw [hwords] at hc
    cases hc

end Machine

namespace Verdict

variable (verdict : Verdict) (w : World) (k k' : Counters)

/-- What was counted before the last part does not change how a run ends. -/
theorem ending_alike : (verdict.ending w k).Alike (verdict.ending w k') := by
  cases verdict with
  | value v => exact .finished v
  | unknown typeName pending => exact .aborted _
  | interrupt fault => exact .interrupted fault
  | failure fault label pending =>
    simp only [ending]
    cases hf : worded w fault label k.totalSteps pending with
    | ok f =>
      obtain ⟨⟨hcause, hlabel, hdiscarded⟩, f', hf', hcause', hlabel', hdiscarded'⟩ :=
        worded_eq_ok hf k'.totalSteps pending
      rw [hf']
      exact .failed (hcause'.trans hcause.symm) (hlabel'.trans hlabel.symm)
        (hdiscarded'.trans hdiscarded.symm)
    | error c =>
      rw [worded_eq_error hf]
      exact .interrupted _

end Verdict

/-! ### Labels of failures -/

/-- There is something to a value, or it is a text: whoever can word a failure under it can name it. -/
def World.Names (w : World) (label : Value) : Prop :=
  w.isTruthy label = true ∨ ∃ s, label = .str s

theorem World.names_callableName (w : World) (f : Value) : w.Names (w.callableName f) := by
  unfold callableName
  cases w.qualifiedName? f with
  | none => exact .inr ⟨_, rfl⟩
  | some name =>
    cases hname : w.isTruthy name with
    | true => exact .inl (by simp [hname])
    | false => exact .inr ⟨f.typeName, by simp [hname]⟩

namespace Machine

variable {h : Host} {mis : Mishap} {w w' : World}

/-- A continuation that fails is named. -/
theorem names_of_applied {f v : Value} (hf : applied h f v w = .ok (.error mis) w') :
    w'.Names mis.2 := by
  obtain ⟨answer, w₁, -, hf⟩ := Eff.exists_of_bind_ok hf
  cases answer with
  | error fault =>
    cases hf
    exact w'.names_callableName f
  | ok next =>
    simp only at hf
    split at hf
    · cases hf
    · cases hf
      exact w'.names_callableName f

/-- An action that fails is labelled or named. -/
theorem names_of_performed {thunk label : Value}
    (hrun : performed h thunk label w = .ok (.error mis) w') : w'.Names mis.2 := by
  obtain ⟨answer, w₁, -, hrun⟩ := Eff.exists_of_bind_ok hrun
  cases answer with
  | ok v => cases hrun
  | error fault =>
    cases hrun
    cases hlabel : w'.isTruthy label with
    | true => exact .inl (by simp [hlabel])
    | false => exact w'.names_callableName thunk

/-- **A recovery is noted wherever the failure can be worded.** -/
theorem recoveryNote_of_words {fault : Fault Value} {label : Value} {texts : String × String}
    (hlabel : w.Names label) (hwords : words w fault label = .ok texts) (dropped : Nat) :
    ∃ text, recoveryNote fault label dropped w = .ok () (w.noted text) := by
  cases htruth : w.isTruthy label with
  | true =>
    unfold words at hwords
    rw [if_pos htruth] at hwords
    cases hl : w.str? label with
    | ok text => exact ⟨_, recoveryNote_apply hl fault dropped⟩
    | error c =>
      rw [hl] at hwords
      cases hwords
  | false =>
    rcases hlabel with hlabel | ⟨s, rfl⟩
    · rw [hlabel] at htruth
      cases htruth
    · exact ⟨_, recoveryNote_apply rfl fault dropped⟩

end Machine

/-- A failure is reported under a name. -/
def Verdict.Named (w : World) : Verdict → Prop
  | failure _ label _ => w.Names label
  | _ => True

theorem Verdict.Named.ofMishap {w : World} {mis : Mishap} (hmis : w.Names mis.2) :
    (Verdict.ofMishap mis).Named w := by
  cases hm : mis.1.kind.isFailure with
  | true =>
    rw [ofMishap_of_failure hm]
    exact hmis
  | false =>
    rw [ofMishap_of_interrupt hm]
    trivial

theorem Verdict.Named.outward {w : World} {verdict : Verdict} (hv : verdict.Named w) :
    verdict.outward.Named w := by
  cases verdict <;> exact hv

/-- **A failure is reported under a name,** in the world in which it happens. -/
theorem Evaluates.named {h : Host} {node : Value} {w w' : World} {verdict : Verdict} {k : Counters}
    (he : Evaluates h node w verdict k w') : verdict.Named w' := by
  induction he with
  | done => trivial
  | action => trivial
  | actionMishap hrun => exact .ofMishap (names_of_performed hrun)
  | sequence _ _ _ _ ihnode => exact ihnode
  | sequenceMishap _ hf _ => exact .ofMishap (names_of_applied hf)
  | sequenceStopped _ _ ihsource => exact ihsource.outward
  | region => trivial
  | rescue _ _ _ _ _ ihnode => exact ihnode
  | rescueMishap _ _ hg _ => exact .ofMishap (names_of_applied hg)
  | rescueRefused => trivial
  | regionPassed _ _ ihsource => exact ihsource.outward
  | unknown => trivial

/-! ### Totals -/

namespace Verdict

variable (verdict : Verdict) (m n : Counters) (pending : Nat)

/-- A sequence after a source that alone counts one step more than its cost. -/
theorem total_chained : verdict.total (m.chained n) =
    { totalSteps := 1 + m.stepped.totalSteps + (verdict.total n).totalSteps
      totalEffects := m.stepped.totalEffects + (verdict.total n).totalEffects
      totalContinuations := m.stepped.totalContinuations + 1 + (verdict.total n).totalContinuations
      totalRecoveries := m.stepped.totalRecoveries + (verdict.total n).totalRecoveries
      maxStackDepth := max (1 + m.stepped.maxStackDepth) (verdict.total n).maxStackDepth
      discardedContinuations :=
        m.stepped.discardedContinuations + (verdict.total n).discardedContinuations } := by
  cases verdict <;> apply Counters.ext_counts <;>
    simp only [total, Counters.chained, Counters.stepped, Counters.dropping] <;> omega

/-- A recovery after a source that alone drops all that waited. -/
theorem total_rescued : verdict.total (m.rescued pending n) =
    { totalSteps := 3 + (m.dropping pending).totalSteps + (verdict.total n).totalSteps
      totalEffects := (m.dropping pending).totalEffects + (verdict.total n).totalEffects
      totalContinuations :=
        (m.dropping pending).totalContinuations + 1 + (verdict.total n).totalContinuations
      totalRecoveries := (m.dropping pending).totalRecoveries + 1 + (verdict.total n).totalRecoveries
      maxStackDepth := max (1 + (m.dropping pending).maxStackDepth) (verdict.total n).maxStackDepth
      discardedContinuations := (m.dropping pending).discardedContinuations +
        (verdict.total n).discardedContinuations } := by
  cases verdict <;> apply Counters.ext_counts <;>
    simp only [total, Counters.rescued, Counters.stepped, Counters.dropping] <;> omega

/-- A fault that has just happened has dropped nothing yet. -/
theorem total_ofMishap (mis : Mishap) : (ofMishap mis).total m = m := by
  cases hm : mis.1.kind.isFailure with
  | true =>
    rw [ofMishap_of_failure hm]
    rfl
  | false =>
    rw [ofMishap_of_interrupt hm]
    rfl

/-- Below one more frame a source that drops what waited for it drops that, too. -/
theorem framed_dropping : m.framed.dropping (pending + 1) =
    { m.dropping pending with
      totalSteps := 1 + (m.dropping pending).totalSteps
      maxStackDepth := 1 + (m.dropping pending).maxStackDepth
      discardedContinuations := (m.dropping pending).discardedContinuations + 1 } := by
  apply Counters.ext_counts <;> simp only [Counters.framed, Counters.dropping] <;> omega

/-- Below a boundary a value takes one more step. -/
theorem framed_stepped_stepped : m.framed.stepped.stepped =
    { m.stepped with
      totalSteps := m.stepped.totalSteps + 2
      maxStackDepth := 1 + m.stepped.maxStackDepth } := by
  apply Counters.ext_counts <;> simp only [Counters.framed, Counters.stepped]
  omega

end Verdict

/-! ### The counters of a whole -/

section tally

variable {h : Host} {settings : Settings} (hp : settings.Plain) {m f v : Value} {w w₁ : World}
  {cm : Counters}
include hp

/-- A source that hands out a value has evaluated to it. -/
theorem Machine.Runs.evaluates_value (hm : Runs h settings m w (.finished v) cm w₁) :
    ∃ k, Evaluates h m w (.value v) k w₁ ∧ cm = k.stepped := by
  obtain ⟨verdict, k, heval, hending, rfl⟩ := (runs_iff hp).1 hm
  obtain rfl := Verdict.ending_eq_finished_iff.1 hending
  exact ⟨k, heval, rfl⟩

/-- A source that fails with a report has evaluated to the failure. -/
theorem Machine.Runs.evaluates_failure {r : Failure} (hm : Runs h settings m w (.failed r) cm w₁) :
    ∃ k, Evaluates h m w (.failure r.cause r.label r.discarded) k w₁ ∧
      worded w₁ r.cause r.label k.totalSteps r.discarded = .ok r ∧ cm = k.dropping r.discarded := by
  obtain ⟨verdict, k, heval, hending, rfl⟩ := (runs_iff hp).1 hm
  obtain ⟨e, label, pending, rfl, hr⟩ := Verdict.ending_eq_failed_iff.1 hending
  obtain ⟨⟨rfl, rfl, rfl⟩, -⟩ := worded_eq_ok hr 0 0
  exact ⟨k, heval, hr, rfl⟩

/-- A sequence whose continuation gives a node. -/
theorem runs_sequence {n : Value} {w₂ w₃ : World} {e : Ending} {cn : Counters} (i : Nat)
    (hm : Runs h settings m w (.finished v) cm w₁) (hf : applied h f v w₁ = .ok (.ok n) w₂)
    (hn : Runs h settings n w₂ e cn w₃) :
    ∃ e', e.Alike e' ∧ Runs h settings (.node i (.flatMap m f)) w e'
      { totalSteps := 1 + cm.totalSteps + cn.totalSteps
        totalEffects := cm.totalEffects + cn.totalEffects
        totalContinuations := cm.totalContinuations + 1 + cn.totalContinuations
        totalRecoveries := cm.totalRecoveries + cn.totalRecoveries
        maxStackDepth := max (1 + cm.maxStackDepth) cn.maxStackDepth
        discardedContinuations := cm.discardedContinuations + cn.discardedContinuations } w₃ := by
  obtain ⟨km, hsource, rfl⟩ := hm.evaluates_value hp
  obtain ⟨verdict, kn, hnode, rfl, rfl⟩ := (runs_iff hp).1 hn
  rw [← Verdict.total_chained]
  exact ⟨_, verdict.ending_alike w₃ kn _, (Evaluates.sequence hsource hf hnode).runs hp⟩

/-- A sequence whose continuation raises or gives no node. -/
theorem runs_sequence_mishap {mis : Mishap} {w₂ : World} (i : Nat)
    (hm : Runs h settings m w (.finished v) cm w₁) (hf : applied h f v w₁ = .ok (.error mis) w₂) :
    ∃ c : Counters, c = { cm with
        totalSteps := 1 + cm.totalSteps
        totalContinuations := cm.totalContinuations + 1
        maxStackDepth := 1 + cm.maxStackDepth } ∧
      Runs h settings (.node i (.flatMap m f)) w ((Verdict.ofMishap mis).ending w₂ c) c w₂ := by
  obtain ⟨km, hsource, rfl⟩ := hm.evaluates_value hp
  refine ⟨km.chained .zero, ?_, ?_⟩
  · apply Counters.ext_counts <;> simp only [Counters.chained, Counters.stepped, Counters.zero] <;>
      omega
  · have hruns := (Evaluates.sequenceMishap (i := i) hsource hf).runs hp
    rwa [Verdict.total_ofMishap] at hruns

/-- A sequence whose source fails. -/
theorem runs_sequence_failed {r : Failure} (i : Nat) (hm : Runs h settings m w (.failed r) cm w₁) :
    ∃ r', (r'.cause = r.cause ∧ r'.label = r.label ∧ r'.discarded = r.discarded + 1) ∧
      Runs h settings (.node i (.flatMap m f)) w (.failed r')
        { cm with
          totalSteps := 1 + cm.totalSteps
          maxStackDepth := 1 + cm.maxStackDepth
          discardedContinuations := cm.discardedContinuations + 1 } w₁ := by
  obtain ⟨km, hsource, hr, rfl⟩ := hm.evaluates_failure hp
  obtain ⟨-, r', hr', hsame⟩ := worded_eq_ok hr km.framed.totalSteps (r.discarded + 1)
  have hruns := (Evaluates.sequenceStopped (i := i) (f := f) hsource rfl).runs hp
  rw [Verdict.outward, Verdict.ending_eq_failed_iff.2 ⟨_, _, _, rfl, hr'⟩] at hruns
  rw [← Verdict.framed_dropping]
  exact ⟨r', hsame, hruns⟩

/-- A sequence whose source makes the machine give up. -/
theorem runs_sequence_aborted {reason : Abort} (i : Nat)
    (hm : Runs h settings m w (.aborted reason) cm w₁) :
    Runs h settings (.node i (.flatMap m f)) w (.aborted reason)
      { cm with
        totalSteps := 1 + cm.totalSteps
        maxStackDepth := 1 + cm.maxStackDepth
        discardedContinuations := cm.discardedContinuations + 1 } w₁ := by
  obtain ⟨verdict, km, hsource, hending, rfl⟩ := (runs_iff hp).1 hm
  obtain ⟨typeName, pending, rfl, rfl⟩ := Verdict.ending_eq_aborted_iff.1 hending
  have hruns := (Evaluates.sequenceStopped (i := i) (f := f) hsource rfl).runs hp
  exact Verdict.framed_dropping km pending ▸ hruns

/-- A guarded node whose source hands out a value. -/
theorem runs_region {g : Value} (i : Nat) (hm : Runs h settings m w (.finished v) cm w₁) :
    Runs h settings (.node i (.recover m g)) w (.finished v)
      { cm with
        totalSteps := cm.totalSteps + 2
        maxStackDepth := 1 + cm.maxStackDepth } w₁ := by
  obtain ⟨km, hsource, rfl⟩ := hm.evaluates_value hp
  have hruns := (Evaluates.region (i := i) (g := g) hsource).runs hp
  exact Verdict.framed_stepped_stepped km ▸ hruns

/-- A guarded node whose source fails and whose handler gives a node.  The recovery is noted before
the handler is invoked. -/
theorem runs_rescue {g n : Value} {r : Failure} {w₂ w₃ w₄ : World} {e : Ending} {cn : Counters}
    (i : Nat) (hm : Runs h settings m w (.failed r) cm w₁)
    (hnote : recoveryNote r.cause r.label r.discarded w₁ = .ok () w₂)
    (hg : applied h g (.fault r.cause) w₂ = .ok (.ok n) w₃) (hn : Runs h settings n w₃ e cn w₄) :
    ∃ e', e.Alike e' ∧ Runs h settings (.node i (.recover m g)) w e'
      { totalSteps := 3 + cm.totalSteps + cn.totalSteps
        totalEffects := cm.totalEffects + cn.totalEffects
        totalContinuations := cm.totalContinuations + 1 + cn.totalContinuations
        totalRecoveries := cm.totalRecoveries + 1 + cn.totalRecoveries
        maxStackDepth := max (1 + cm.maxStackDepth) cn.maxStackDepth
        discardedContinuations := cm.discardedContinuations + cn.discardedContinuations } w₄ := by
  obtain ⟨km, hsource, -, rfl⟩ := hm.evaluates_failure hp
  obtain ⟨verdict, kn, hnode, rfl, rfl⟩ := (runs_iff hp).1 hn
  rw [← Verdict.total_rescued]
  exact ⟨_, verdict.ending_alike w₄ kn _, (Evaluates.rescue hsource hnote hg hnode).runs hp⟩

/-- Where a source fails with a report, the recovery is noted. -/
theorem exists_recoveryNote {r : Failure} (hm : Runs h settings m w (.failed r) cm w₁) :
    ∃ text, recoveryNote r.cause r.label r.discarded w₁ = .ok () (w₁.noted text) := by
  obtain ⟨km, hsource, hr, -⟩ := hm.evaluates_failure hp
  unfold worded at hr
  cases hwords : words w₁ r.cause r.label with
  | error c =>
    rw [hwords] at hr
    cases hr
  | ok texts => exact recoveryNote_of_words hsource.named hwords r.discarded

end tally

/-- **The counters of a run follow from those of its parts,** each run alone from the world that it
would see: the parts of a sequence whose continuation gives a node, or raises or gives no node, or is
not reached because the source fails or makes the machine give up; and the parts of a guarded node
whose source hands out a value, or fails and is recovered from.  The whole ends as its last part
does. -/
theorem counters_of_parts {h : Host} {settings : Settings} (hp : settings.Plain) (i : Nat)
    (m f : Value) (w w₁ : World) (cm : Counters) :
    (∀ v, Runs h settings m w (.finished v) cm w₁ →
      (∀ n w₂ e cn w₃, applied h f v w₁ = .ok (.ok n) w₂ → Runs h settings n w₂ e cn w₃ →
        ∃ e', e.Alike e' ∧ Runs h settings (.node i (.flatMap m f)) w e'
          { totalSteps := 1 + cm.totalSteps + cn.totalSteps
            totalEffects := cm.totalEffects + cn.totalEffects
            totalContinuations := cm.totalContinuations + 1 + cn.totalContinuations
            totalRecoveries := cm.totalRecoveries + cn.totalRecoveries
            maxStackDepth := max (1 + cm.maxStackDepth) cn.maxStackDepth
            discardedContinuations := cm.discardedContinuations + cn.discardedContinuations } w₃) ∧
      (∀ mis w₂, applied h f v w₁ = .ok (.error mis) w₂ →
        ∃ c : Counters, c = { cm with
            totalSteps := 1 + cm.totalSteps
            totalContinuations := cm.totalContinuations + 1
            maxStackDepth := 1 + cm.maxStackDepth } ∧
          Runs h settings (.node i (.flatMap m f)) w ((Verdict.ofMishap mis).ending w₂ c) c w₂) ∧
      Runs h settings (.node i (.recover m f)) w (.finished v)
        { cm with
          totalSteps := cm.totalSteps + 2
          maxStackDepth := 1 + cm.maxStackDepth } w₁) ∧
    (∀ r, Runs h settings m w (.failed r) cm w₁ →
      (∃ r', (r'.cause = r.cause ∧ r'.label = r.label ∧ r'.discarded = r.discarded + 1) ∧
        Runs h settings (.node i (.flatMap m f)) w (.failed r')
          { cm with
            totalSteps := 1 + cm.totalSteps
            maxStackDepth := 1 + cm.maxStackDepth
            discardedContinuations := cm.discardedContinuations + 1 } w₁) ∧
      ∃ text, recoveryNote r.cause r.label r.discarded w₁ = .ok () (w₁.noted text) ∧
        ∀ n w₂ e cn w₃, applied h f (.fault r.cause) (w₁.noted text) = .ok (.ok n) w₂ →
          Runs h settings n w₂ e cn w₃ →
          ∃ e', e.Alike e' ∧ Runs h settings (.node i (.recover m f)) w e'
            { totalSteps := 3 + cm.totalSteps + cn.totalSteps
              totalEffects := cm.totalEffects + cn.totalEffects
              totalContinuations := cm.totalContinuations + 1 + cn.totalContinuations
              totalRecoveries := cm.totalRecoveries + 1 + cn.totalRecoveries
              maxStackDepth := max (1 + cm.maxStackDepth) cn.maxStackDepth
              discardedContinuations :=
                cm.discardedContinuations + cn.discardedContinuations } w₃) ∧
    ∀ reason, Runs h settings m w (.aborted reason) cm w₁ →
      Runs h settings (.node i (.flatMap m f)) w (.aborted reason)
        { cm with
          totalSteps := 1 + cm.totalSteps
          maxStackDepth := 1 + cm.maxStackDepth
          discardedContinuations := cm.discardedContinuations + 1 } w₁ := by
  refine ⟨fun v hm => ⟨?_, ?_, runs_region hp i hm⟩, fun r hm => ⟨runs_sequence_failed hp i hm, ?_⟩,
    fun reason hm => runs_sequence_aborted hp i hm⟩
  · intro n w₂ e cn w₃ hf hn
    exact runs_sequence hp i hm hf hn
  · intro mis w₂ hf
    exact runs_sequence_mishap hp i hm hf
  · obtain ⟨text, hnote⟩ := exists_recoveryNote hp hm
    refine ⟨text, hnote, ?_⟩
    intro n w₂ e cn w₃ hg hn
    exact runs_rescue hp i hm hnote hg hn

/-- A failure below a continuation, caught and made a value. -/
theorem counters_of_parts_attempt :
    let w := Script.SessionInput.recorded
    let settings := Script.settingsOf w .none (.bool false)
    let m := Value.sequenced
      (Graph.action (.raiseFault (.fault (.ofText "no"))) "fail(ValueError)") .wrapOk
    settings.Plain ∧
      ∃ r w', Runs .spent settings m w (.failed r) ⟨2, 0, 0, 0, 1, 1⟩ w ∧
        Runs .spent settings (.node 0 (.recover m (.ofCallback .wrapErr))) w
          (.finished (.failure (.fault (.ofText "no")))) ⟨6, 0, 1, 1, 2, 1⟩ w' := by
  intro w settings m
  have hp : settings.Plain := Settings.plain_settingsOf _
  have hfail := evaluates_raiseFault .spent (.ofText "no") rfl "fail(ValueError)" rfl w
  have hm := (hfail.sequenceStopped (i := 0) (f := .ofCallback .wrapOk) rfl).runs hp
  obtain ⟨text, -, hrescue⟩ :=
    ((counters_of_parts hp 0 m (.ofCallback .wrapErr) w w ⟨2, 0, 0, 0, 1, 1⟩).2.1 _ hm).2
  have hn := (Evaluates.done (h := .spent) (i := 0)
    (v := .failure (.fault (.ofText "no"))) (w := w.noted text)).runs hp
  obtain ⟨e', hsame, hruns⟩ := hrescue _ _ _ _ _ rfl hn
  cases hsame
  exact ⟨hp, _, _, hm, hruns⟩

end EffectGraph
