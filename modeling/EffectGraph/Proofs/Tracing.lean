import EffectGraph.Proofs.Conduct
import EffectGraph.Proofs.Limit

/-!
# What tracing changes

A traced step describes the node it looks at for the journal, and only then does what an untraced
step does.  As long as the description is given, the two differ in a message, and messages are not
heeded (`agree_step_traced`).  A node whose description is refused, because a number in it has too many
digits to be written, is not looked at: the complaint ends the traced run as an interrupt, past every
boundary, where the untraced run goes on (`step_traced_of_refused`).

A traced run is therefore in lockstep with the untraced one up to the first state that cannot be
described, and ends there (`tracing_observes`).
-/

namespace EffectGraph

open Machine

namespace World

variable {w w' : World} {v : Value}

@[simp]
theorem describe?_retold (messages : Array String) (v : Value) :
    (w.retold messages).describe? v = w.describe? v := by
  rw [describe?, repr?_retold, describe?]

/-- A node has the same description whatever the messages are. -/
theorem Alike.describe?_eq (hw : w.Alike w') : w'.describe? v = w.describe? v := by
  obtain ⟨messages, rfl⟩ := hw
  exact describe?_retold messages v

end World

namespace Machine

variable {h : Host} {settings : Settings}

/-! ### Steps do not heed messages -/

/-- A fault is dealt with in the same way whatever the messages are. -/
theorem deaf_mishap (s : State) (m : Mishap) : Eff.Deaf (mishap s m) := by
  intro w w' hw
  cases hfault : m.1.kind.isFailure with
  | false =>
    rw [mishap_of_interrupt hfault, mishap_of_interrupt hfault]
    exact .ok rfl hw
  | true =>
    rcases hs : s.stack.unwind with ⟨dropped, _ | ⟨g, rest⟩⟩
    · rw [mishap_of_no_landing hfault hs, mishap_of_no_landing hfault hs, hw.worded_eq]
      exact .ok rfl hw
    · rw [mishap_of_landing hfault hs]
      have hlabel : w.Tells m.2 m.2 := .inl rfl
      have hnotes := agree_recoveryNote hw hlabel m.1 dropped dropped
      refine hnotes.attempt.bind fun r r' u u' hr hu => ?_
      cases hr
      cases r with
      | ok _ => exact .ok rfl hu
      | error refusal => exact .ok rfl hu

/-- **Whatever is done to a node, whatever the limit, does not depend on the messages.** -/
theorem deaf_dispatch (hh : h.Deaf) (s : State) : Eff.Deaf (dispatch h settings s) := by
  unfold dispatch
  split
  · split
    · exact .pure _
    · exact .pure _
    · rw [continueWith_eq]
      refine .bind (deaf_applied hh _ _) fun answer => ?_
      cases answer with
      | ok node => exact .pure _
      | error m => exact deaf_mishap _ m
  · rw [perform_eq]
    refine .bind (deaf_performed hh _ _) fun answer => ?_
    cases answer with
    | ok v => exact .pure _
    | error m => exact deaf_mishap _ m
  all_goals exact .pure _

/-! ### A traced step beside an untraced one -/

/-- **Settings that differ in nothing but tracing,** which is on in one and off in the other. -/
structure Settings.Traces (traced plain : Settings) : Prop where
  eq : traced = { plain with trace := traced.trace }
  on : ∀ w : World, w.isTruthy traced.trace = true
  off : ∀ w : World, w.isTruthy plain.trace = false

/-- An interpreter that traces differs from one that does not in nothing else. -/
theorem Settings.traces_settingsOf (w : World) (limit : Value) :
    (Script.settingsOf w limit (.bool true)).Traces (Script.settingsOf w limit (.bool false)) :=
  ⟨rfl, fun _ => rfl, fun _ => rfl⟩

section lockstep

variable {traced plain : Settings} (ht : traced.Traces plain) {s : State} {w w' : World}
include ht

/-- What is done to a node does not depend on tracing. -/
theorem dispatch_traced (s : State) : dispatch h traced s = dispatch h plain s := by
  rw [ht.eq]
  rfl

/-- **A traced step does what the untraced one does,** once its node is described. -/
theorem agree_step_traced (hh : h.Deaf) (hw : w.Alike w') {text : String}
    (hd : w.describe? s.current = .ok text) :
    Eff.Agree Eq (step h plain s w) (step h traced s w') := by
  have hshows : traced.Shows s w' := fun _ => ⟨text, hw.describe?_eq.trans hd⟩
  have hseen : w'.Alike (traced.seen s w') := by
    rcases described_seen traced s w' with hsame | ⟨message, hnoted⟩
    · rw [hsame]
      exact .refl w'
    · rw [hnoted]
      exact .noted_self w' message
  rw [step_of_untraced ht.off, step_eq_dispatch hshows, dispatch_traced ht]
  exact deaf_dispatch hh s.counted (hw.trans hseen)

/-- **A traced step ends the run** if its node cannot be described; nothing is done to the node. -/
theorem step_traced_of_refused (hw : w.Alike w') {c : Complaint}
    (hd : w.describe? s.current = .error c) :
    step h traced s w' = .ok (.halted (.interrupted c.fault) s.counted) w' := by
  have hcurrent : w'.describe? s.counted.current = .error c := hw.describe?_eq.trans hd
  rw [step, Eff.bind_get, ht.on]
  refine (Eff.bind_get).trans ?_
  rw [hcurrent]
  rfl

/-- A step of the untraced run from a node that is described is one of the traced run. -/
theorem exists_next_traced (hh : h.Deaf) (hw : w.Alike w') {text : String}
    (hd : w.describe? s.current = .ok text) {b : State × World} (hb : Next h plain (s, w) b) :
    ∃ u, Next h traced (s, w') (b.1, u) ∧ b.2.Alike u := by
  have hstep := agree_step_traced ht hh hw hd
  have hplain : step h plain s w = .ok (.next b.1) b.2 := hb
  rw [hplain] at hstep
  obtain ⟨p, u, htraced, hp, hu⟩ := hstep.exists_of_ok
  cases hp
  exact ⟨u, htraced, hu⟩

/-- **A run whose states can all be described is not changed by tracing.** -/
theorem agree_drive_traced (hh : h.Deaf) (hw : w.Alike w')
    (hd : ∀ b, Reaches h plain (s, w) b → ∃ text, b.2.describe? b.1.current = .ok text)
    (fuel : Nat) : Eff.Agree Eq (drive h plain fuel s w) (drive h traced fuel s w') := by
  induction fuel generalizing s w w' with
  | zero => exact .error .exhausted hw
  | succ fuel ih =>
    obtain ⟨text, htext⟩ := hd (s, w) .refl
    have hstep := agree_step_traced ht hh hw htext
    rw [drive, drive]
    cases hplain : step h plain s w with
    | error signal u =>
      rw [hplain] at hstep
      obtain ⟨u', htraced, hu⟩ := hstep.exists_of_error
      rw [Eff.bind_of_error hplain, Eff.bind_of_error htraced]
      exact .error signal hu
    | ok p u =>
      rw [hplain] at hstep
      obtain ⟨p', u', htraced, rfl, hu⟩ := hstep.exists_of_ok
      rw [Eff.bind_of_ok hplain, Eff.bind_of_ok htraced]
      cases p with
      | next s' =>
        have hnext : Next h plain (s, w) (s', u) := hplain
        exact ih hu fun b hb => hd b (.head hnext hb)
      | halted e s' => exact .ok rfl hu

end lockstep

/-! ### The first state that cannot be described -/

/-- One step from a node that can be described. -/
def DescribedNext (h : Host) (settings : Settings) (a b : State × World) : Prop :=
  (∃ text, a.2.describe? a.1.current = .ok text) ∧ Next h settings a b

/-- **Where a run first comes to a node that cannot be described:** it has come there through nodes
that can. -/
structure FirstRefusal (h : Host) (settings : Settings) (start a : State × World) (c : Complaint) :
    Prop where
  reached : Relation.ReflTransGen (DescribedNext h settings) start a
  refused : a.2.describe? a.1.current = .error c

variable {plain traced : Settings} {start a b : State × World}

/-- **A run that comes to a node that cannot be described first comes to one.** -/
theorem exists_firstRefusal (hb : Reaches h settings start b) {c : Complaint}
    (hc : b.2.describe? b.1.current = .error c) :
    ∃ a c', FirstRefusal h settings start a c' ∧ Reaches h settings a b := by
  induction hb using Relation.ReflTransGen.head_induction_on with
  | refl => exact ⟨b, c, ⟨.refl, hc⟩, .refl⟩
  | @head start next hnext hrest ih =>
    cases hd : start.2.describe? start.1.current with
    | ok text =>
      obtain ⟨a, c', hfirst, hab⟩ := ih
      exact ⟨a, c', ⟨.head ⟨⟨text, hd⟩, hnext⟩ hfirst.reached, hfirst.refused⟩, hab⟩
    | error c' => exact ⟨start, c', ⟨.refl, hd⟩, .head hnext hrest⟩

theorem FirstRefusal.reaches {c : Complaint} (ha : FirstRefusal h settings start a c) :
    Reaches h settings start a :=
  ha.reached.lift id fun _ _ hnext => hnext.2

/-- A step from a node that can be described leads to one state and world. -/
theorem describedNext_rightUnique : Relator.RightUnique (DescribedNext h settings) :=
  fun _ _ _ hab hac => next_rightUnique hab.2 hac.2

/-- Nowhere does a run go on from a node that cannot be described through nodes that can. -/
theorem FirstRefusal.eq_of_reaches {c : Complaint} (ha : FirstRefusal h settings start a c)
    (hab : Relation.ReflTransGen (DescribedNext h settings) a b) : a = b := by
  rcases hab.cases_head with hsame | ⟨next, ⟨⟨text, htext⟩, -⟩, -⟩
  · exact hsame
  · rw [ha.refused] at htext
    cases htext

/-- **There is one such node,** and one complaint about it. -/
theorem FirstRefusal.unique {c c' : Complaint} (ha : FirstRefusal h settings start a c)
    (hb : FirstRefusal h settings start b c') : a = b ∧ c = c' := by
  have hab : a = b := by
    rcases Relation.ReflTransGen.total_of_right_unique describedNext_rightUnique ha.reached
      hb.reached with hab | hba
    · exact ha.eq_of_reaches hab
    · exact (hb.eq_of_reaches hba).symm
  refine ⟨hab, Except.error.inj (ha.refused.symm.trans ?_)⟩
  rw [hab]
  exact hb.refused

/-- The traced run comes wherever the untraced one comes through nodes that can be described. -/
theorem exists_reaches_traced (ht : traced.Traces plain) (hh : h.Deaf)
    (ha : Relation.ReflTransGen (DescribedNext h plain) start a) :
    ∃ u, Reaches h traced start (a.1, u) ∧ a.2.Alike u := by
  induction ha with
  | refl => exact ⟨start.2, .refl, .refl start.2⟩
  | @tail a b _ hab ih =>
    obtain ⟨u, hreached, hu⟩ := ih
    obtain ⟨⟨text, htext⟩, hnext⟩ := hab
    obtain ⟨u', hnext', hu'⟩ := exists_next_traced ht hh hu htext hnext
    exact ⟨u', hreached.tail hnext', hu'⟩

/-! ### Traced runs -/

/-- What follows the machine does not heed messages either. -/
theorem deaf_concluded (startTime : Nat) (r : Ending × State) : Eff.Deaf (concluded startTime r) := by
  obtain ⟨e, s⟩ := r
  intro w w' hw
  rcases e.eq_ending_or_interrupted with ⟨o, rfl⟩ | ⟨fault, rfl⟩
  · rw [concluded_of_outcome, concluded_of_outcome]
    refine .ok ?_ (hw.closed _ _)
    obtain ⟨messages, rfl⟩ := hw
    rfl
  · rw [concluded_of_interrupted, concluded_of_interrupted]
    exact .error _ (hw.brokenOff _ _)

/-- A run that raises reports nothing, however long it goes on. -/
theorem Raises.ne_ok {node : Value} (hnode : node.isNode = true) {w u u' : World}
    {description : String} (hd : w.ticked.describe? node = .ok description) {fault : Fault Value}
    (hraises : Raises h settings node w fault u) {fuel : Nat} {r : Report} :
    runReport h fuel settings node w ≠ .ok r u' := by
  intro hrun
  obtain ⟨_, fuel', s', hdrive', -⟩ := (raises_iff_runs hnode hd).1 hraises
  rw [runReport_of_described hnode hd] at hrun
  obtain ⟨⟨e, s⟩, w₁, hdrive, hend⟩ := Eff.exists_of_bind_ok hrun
  cases (drive_unique hdrive hdrive').1
  rw [concluded_of_interrupted] at hend
  cases hend

section runs

variable (ht : traced.Traces plain) (hh : h.Deaf) {node : Value} (hnode : node.isNode = true)
  {w : World} {description : String} (hd : w.ticked.describe? node = .ok description)
include ht hh hnode hd

/-- **A run that can describe all its nodes reports the same,** traced or not. -/
theorem agree_runReport_traced
    (hdescribed : ∀ b, Reaches h plain (.start node, w.opened description) b →
      ∃ text, b.2.describe? b.1.current = .ok text) (fuel : Nat) :
    Eff.Agree Eq (runReport h fuel plain node w) (runReport h fuel traced node w) := by
  rw [runReport_of_described hnode hd, runReport_of_described hnode hd]
  refine (agree_drive_traced ht hh (.refl _) hdescribed fuel).bind fun r r' u u' hr hu => ?_
  obtain rfl := hr
  exact deaf_concluded _ r hu

/-- **Where a node cannot be described, the traced run is interrupted** by the complaint. -/
theorem FirstRefusal.exists_raises {c : Complaint}
    (ha : FirstRefusal h plain (.start node, w.opened description) a c) :
    ∃ u, a.2.Alike u ∧ Raises h traced node w c.fault u := by
  obtain ⟨u, hreached, hu⟩ := exists_reaches_traced ht hh ha.reached
  obtain ⟨fuel, hdrive⟩ := hreached.drive_halted (step_traced_of_refused ht hu ha.refused)
  exact ⟨u, hu, (raises_iff_runs hnode hd).2 ⟨_, fuel, _, hdrive, rfl⟩⟩

/-- **What a traced run reports, the untraced one reports,** after as many steps. -/
theorem exists_report_of_traced {fuel : Nat} {r : Report} {u : World}
    (hr : runReport h fuel traced node w = .ok r u) :
    ∃ u', runReport h fuel plain node w = .ok r u' ∧ u'.Alike u := by
  by_cases hdescribed : ∀ b, Reaches h plain (.start node, w.opened description) b →
      ∃ text, b.2.describe? b.1.current = .ok text
  · have hagree := agree_runReport_traced ht hh hnode hd hdescribed fuel
    rw [hr] at hagree
    obtain ⟨r', u', hr', rfl, hu⟩ := hagree.exists_of_ok_right
    exact ⟨u', hr', hu⟩
  · obtain ⟨b, hmissed⟩ := Classical.not_forall.1 hdescribed
    obtain ⟨hb, hrefused⟩ := Classical.not_imp.1 hmissed
    cases hc : b.2.describe? b.1.current with
    | ok text => exact absurd ⟨text, hc⟩ hrefused
    | error c =>
      obtain ⟨a, c', hfirst, -⟩ := exists_firstRefusal hb hc
      obtain ⟨u', -, hraises⟩ := hfirst.exists_raises ht hh hnode hd
      exact absurd hr (hraises.ne_ok hnode hd)

end runs
end Machine

/-! ### A value that no description can tell -/

/-- A number of too many digits is in no description. -/
theorem World.describe?_done_int {i : Int} {c : Complaint} (hi : Datum.intText? i = .error c)
    (w : World) : w.describe? (.done (.int i)) = .error c := by
  simp only [describe?, repr?, spellOut, spellWith, Value.done, Value.ofNode, nodeText, Datum.repr?, hi]
  rfl

section replace

variable {settings : Settings} (hp : settings.Plain) (v : Value) (w : World)

/-- The description of a node does not tell the value that it gives in the place of another. -/
theorem World.describe?_replace :
    Script.SessionInput.recorded.ticked.describe? (Graph.replace .unit v) =
      .ok "FlatMap(Done, EffectNode.as_.<locals>.<lambda>)" := by
  have hname : Script.SessionInput.recorded.ticked.callableName (.ofCallback (.replaceWith v)) =
      .str "EffectNode.as_.<locals>.<lambda>" := rfl
  simp only [describe?, repr?, spellOut, spellWith, Graph.replace, Value.sequenced, Value.ofNode,
    nodeText, callableText, hname]
  rfl

include hp

/-- A value that replaces another is first met as that of a finished node. -/
theorem Machine.firstRefusal_replace {c : Complaint} (hv : w.describe? (.done v) = .error c) :
    FirstRefusal .spent settings (.start (Graph.replace .unit v), w)
      (⟨.done v, .empty, (Counters.zero.entered 1).invoked⟩, w) c := by
  have hpush := next_sequence (h := .spent) hp 0 .unit (.ofCallback (.replaceWith v)) .empty .zero w
  have hgives : applied .spent (.ofCallback (.replaceWith v)) .none w = .ok (.ok (.done v)) w := rfl
  have hhand := next_continuation hp hgives 0 .empty (Counters.zero.entered 1)
  have hstart : DescribedNext .spent settings _ _ := ⟨⟨_, rfl⟩, hpush⟩
  have hunit : DescribedNext .spent settings _ _ := ⟨⟨_, rfl⟩, hhand⟩
  exact ⟨(Relation.ReflTransGen.single hstart).tail hunit, hv⟩

end replace

/-! ### The main result -/

/-- **What tracing changes.**  A node that cannot be described is not run, traced or not.  If every
node that the untraced run comes to can be described, the traced run reports the same, with the same
counters and times, or raises the same, or goes on as long, and leaves the same world but for the
messages.  But if the untraced run comes to a node that cannot be described, the traced run raises the
complaint about the first such node, in the world as it is there but for the messages.  In no case does
a traced run report anything else than the untraced one. -/
theorem tracing_observes {h : Host} (hh : h.Deaf) (w₀ : World) (limit : Value) {node : Value}
    (hnode : node.isNode = true) (w : World) :
    let plain := Script.settingsOf w₀ limit (.bool false)
    let traced := Script.settingsOf w₀ limit (.bool true)
    (∀ c, w.ticked.describe? node = .error c → ∀ fuel,
      runReport h fuel plain node w = .error (.raised c.fault) w.ticked ∧
        runReport h fuel traced node w = .error (.raised c.fault) w.ticked) ∧
    ∀ description, w.ticked.describe? node = .ok description →
      let start : State × World := (.start node, w.opened description)
      ((∀ b, Reaches h plain start b → ∃ text, b.2.describe? b.1.current = .ok text) →
        ∀ fuel, Eff.Agree Eq (runReport h fuel plain node w) (runReport h fuel traced node w)) ∧
      (∀ b c, Reaches h plain start b → b.2.describe? b.1.current = .error c →
        ∃ a c' u, FirstRefusal h plain start a c' ∧ Reaches h plain a b ∧ a.2.Alike u ∧
          Raises h traced node w c'.fault u) ∧
      ∀ fuel r u, runReport h fuel traced node w = .ok r u →
        ∃ u', runReport h fuel plain node w = .ok r u' ∧ u'.Alike u := by
  intro plain traced
  have ht : traced.Traces plain := Settings.traces_settingsOf w₀ limit
  refine ⟨fun c hc fuel => ?_, fun description hd => ⟨fun hdescribed fuel => ?_, fun b c hb hc => ?_,
    fun fuel r u hr => exists_report_of_traced ht hh hnode hd hr⟩⟩
  · exact ⟨runReport_of_undescribed hnode hc, runReport_of_undescribed hnode hc⟩
  · exact agree_runReport_traced ht hh hnode hd hdescribed fuel
  · obtain ⟨a, c', hfirst, hab⟩ := exists_firstRefusal hb hc
    obtain ⟨u, hu, hraises⟩ := hfirst.exists_raises ht hh hnode hd
    exact ⟨a, c', u, hfirst, hab, hu, hraises⟩

/-- A number of too many digits replaces a value.  The untraced run gives it as its value, and the
traced run of the same node raises the complaint about it. -/
theorem tracing_observes_replace :
    let w := Script.SessionInput.recorded
    let big : Value := .int (Nat.pow 10 Numeral.digitLimit)
    let node := Graph.replace .unit big
    Host.spent.Deaf ∧ node.isNode = true ∧
      Reports .spent (Script.settingsOf w .none (.bool false)) node w (.finished big)
        (w.opened "FlatMap(Done, EffectNode.as_.<locals>.<lambda>)") ∧
      ∃ u, Raises .spent (Script.settingsOf w .none (.bool true)) node w
        Complaint.tooManyDigits.fault u := by
  intro w big node
  have hp : (Script.settingsOf w .none (.bool false)).Plain := Settings.plain_settingsOf w
  have hd := World.describe?_replace big
  have hbig := World.describe?_done_int ((w.str?_int _).symm.trans (w.str?_of_le (Nat.le_refl _)))
    (w.opened "FlatMap(Done, EffectNode.as_.<locals>.<lambda>)")
  have hlast := firstRefusal_replace hp big _ hbig
  have hreached := hlast.reaches
  obtain ⟨fuel, hdrive⟩ := hreached.drive_halted (step_finished hp 0 big _ _)
  obtain ⟨a, c, u, hfirst, -, -, hraises⟩ :=
    ((tracing_observes Host.deaf_spent w .none rfl w).2 _ hd).2.1 _ _ hreached hbig
  obtain ⟨-, rfl⟩ := hfirst.unique hlast
  exact ⟨Host.deaf_spent, rfl, (reports_iff_runs rfl hd).2 ⟨_, fuel, _, hdrive, rfl⟩, u, hraises⟩

end EffectGraph
