import EffectGraph.Proofs.Conduct

/-!
# Runs that shadow others

How a run goes on depends neither on what it has counted so far nor on what tells its world from a kin
one.  States are level if they differ in what was counted only (`State.Level`).  Over a host that is
unaware of the kinship, machines on level states in kin worlds take their steps together (`level_step`,
`level_drive`), and so, if one run ends, the other ends in the same way (`Shadows`), and what is reported
of the one is reported of the other (`ReportedBy`).  A relation between numbers of actions may be kept on
the way.

Above any stack the machine arrives at the verdict of its node, and where it arrives at verdicts that
cannot be told apart, it goes on level (`Verdict.Agrees.shadows`).
-/

namespace EffectGraph

open Machine

namespace Machine

variable {h : Host} {settings : Settings} {E : Nat → Nat → Prop} {R : World → World → Prop}

/-! ### Comparisons -/

/-- **A comparison of numbers of actions.** -/
structure Reckoning (E : Nat → Nat → Prop) : Prop where
  refl (n : Nat) : E n n
  trans {l m n} (hl : E l m) (hm : E m n) : E l n
  add {l l' m m'} (hl : E l l') (hm : E m m') : E (l + m) (l' + m')

theorem Reckoning.succ (hE : Reckoning E) {m n : Nat} (hmn : E m n) : E (m + 1) (n + 1) :=
  hE.add hmn (hE.refl 1)

/-- Numbers are compared if they are the same. -/
theorem reckoning_same : Reckoning fun m n => n = m where
  refl _ := rfl
  trans hl hm := hm.trans hl
  add hl hm := by rw [hl, hm]

/-- Numbers need not be compared. -/
theorem reckoning_any : Reckoning fun _ _ => True := ⟨fun _ => trivial, fun _ _ => trivial,
  fun _ _ => trivial⟩

/-! ### Level states -/

/-- Endings that give the same: the value, the fault, the abort or the interrupt. -/
inductive Ending.Same : Ending → Ending → Prop where
  | finished (v : Value) : Same (.finished v) (.finished v)
  | failed {f f' : Failure} (hcause : f'.cause = f.cause) : Same (.failed f) (.failed f')
  | aborted (reason : Abort) : Same (.aborted reason) (.aborted reason)
  | interrupted (fault : Fault Value) : Same (.interrupted fault) (.interrupted fault)

theorem Ending.Same.trans {e e' e'' : Ending} (he : e.Same e') (he' : e'.Same e'') : e.Same e'' := by
  cases he with
  | finished v => exact he'
  | failed hcause =>
    cases he' with
    | failed hcause' => exact .failed (hcause'.trans hcause)
  | aborted reason => exact he'
  | interrupted fault => exact he'

/-- Values that are run alike: the same, or finished nodes with the same value. -/
inductive Resembles : Value → Value → Prop where
  | refl (v : Value) : Resembles v v
  | done (i j : Nat) (v : Value) : Resembles (.node i (.done v)) (.node j (.done v))

/-- **States that differ in what they have counted,** their numbers of actions being related. -/
structure State.Level (E : Nat → Nat → Prop) (s t : State) : Prop where
  current : Resembles s.current t.current
  stack : t.stack = s.stack
  totalEffects : E s.counters.totalEffects t.counters.totalEffects

/-- What steps from such states lead to. -/
inductive Progress.Level (E : Nat → Nat → Prop) : Progress → Progress → Prop where
  | next {s t : State} (hst : s.Level E t) : Level E (.next s) (.next t)
  | halted {e e' : Ending} {s t : State} (he : e.Same e')
      (hst : E s.counters.totalEffects t.counters.totalEffects) : Level E (.halted e s) (.halted e' t)

/-- Continuations on top of a stack are dropped with those that it drops itself. -/
theorem Stack.unwind_append {s B : Stack} {fs : List (Frame Value)}
    (hs : s.frames = fs ++ B.frames) (hfs : ∀ f ∈ fs, f.isBoundary = false) :
    s.unwind = ⟨B.unwind.dropped + fs.length, B.unwind.landing⟩ := by
  rw [unwind, hs, unwindFrames_append hfs, unwindFrames_add, Nat.add_zero, unwind]
  rcases unwindFrames B.frames 0 with ⟨dropped, _ | ⟨g, rest⟩⟩ <;> rfl

/-! ### Steps -/

section steps

variable (hR : World.Kinship R)
include hR

/-- **A fault is dealt with alike** above the same stack, under labels that stand for each other. -/
theorem level_mishap {s t : State} {B : Stack} {fs fs' : List (Frame Value)} {u w : World}
    {label label' : Value} (hs : s.stack.frames = fs ++ B.frames)
    (hfs : ∀ f ∈ fs, f.isBoundary = false) (ht : t.stack.frames = fs' ++ B.frames)
    (hfs' : ∀ f ∈ fs', f.isBoundary = false)
    (hcount : E s.counters.totalEffects t.counters.totalEffects) (hw : R u w)
    (hl : u.Tells label label') (fault : Fault Value) :
    Together (Progress.Level E) R (mishap s (fault, label) u) (mishap t (fault, label') w) := by
  have hunwind := Stack.unwind_append hs hfs
  have hunwind' := Stack.unwind_append ht hfs'
  cases hfault : fault.kind.isFailure with
  | false =>
    rw [mishap_of_interrupt hfault, mishap_of_interrupt hfault]
    exact .ok (.halted (.interrupted fault) hcount) hw
  | true =>
    rcases hlanding : B.unwind.landing with _ | ⟨g, rest⟩
    · rw [hlanding] at hunwind hunwind'
      rw [mishap_of_no_landing hfault hunwind, mishap_of_no_landing hfault hunwind']
      refine .ok (.halted ?_ hcount) hw
      rcases worded_kin hR hw hl fault s.counters.totalSteps t.counters.totalSteps
          (B.unwind.dropped + fs.length) (B.unwind.dropped + fs'.length) with
        ⟨f, f', hf, hf', hcause, hcause'⟩ | ⟨c, hc, hc'⟩
      · rw [hf, hf']
        exact .failed (hcause'.trans hcause.symm)
      · rw [hc, hc']
        exact .interrupted c.fault
    · rw [hlanding] at hunwind hunwind'
      have hnotes := together_recoveryNote hR hw hl fault (B.unwind.dropped + fs.length)
        (B.unwind.dropped + fs'.length)
      rw [mishap_of_landing hfault hunwind, mishap_of_landing hfault hunwind']
      refine hnotes.attempt.bind fun hr hu => ?_
      cases hr
      split
      · exact .ok (.next ⟨.refl _, rfl, hcount⟩) hu
      · exact .ok (.halted (.interrupted _) hcount) hu

/-- Above the same stack the same fault is dealt with alike. -/
theorem level_mishap_same {s t : State} (hstack : t.stack = s.stack)
    (hcount : E s.counters.totalEffects t.counters.totalEffects) (m : Mishap) {u w : World}
    (hw : R u w) : Together (Progress.Level E) R (mishap s m u) (mishap t m w) := by
  have hframes : s.stack.frames = [] ++ s.stack.frames := rfl
  have hframes' : t.stack.frames = [] ++ s.stack.frames := congrArg Stack.frames hstack
  exact level_mishap hR hframes nofun hframes' nofun hcount hw (.inl rfl) m.1

variable (hh : h.Unaware R) (hp : settings.Plain)
include hh hp

/-- The step of a finished node does not depend on what was counted, nor on which node it is. -/
theorem level_step_done (i j : Nat) (v : Value) (B : Stack) {c c' : Counters} {u w : World}
    (hc : E c.totalEffects c'.totalEffects) (hw : R u w) :
    Together (Progress.Level E) R (step h settings ⟨.node i (.done v), B, c⟩ u)
      (step h settings ⟨.node j (.done v), B, c'⟩ w) := by
  rcases hpop : B.pop? with _ | ⟨f | g, rest⟩
  · obtain rfl := Stack.eq_empty_of_pop? hpop
    rw [step_finished hp, step_finished hp]
    exact .ok (.halted (.finished v) hc) hw
  · obtain rfl := Stack.eq_push_of_pop? hpop
    rw [step_continuation hp, step_continuation hp]
    refine (hh.applied hw f v).bind fun {answer _ _ _} ha hu => ?_
    cases ha
    cases answer with
    | ok node => exact .ok (.next ⟨.refl node, rfl, hc⟩) hu
    | error m =>
      refine level_mishap_same hR ?_ ?_ m hu
      · rfl
      · exact hc
  · obtain rfl := Stack.eq_push_of_pop? hpop
    rw [next_boundary hp i v g rest c u, next_boundary hp j v g rest c' w]
    exact .ok (.next ⟨.done i j v, rfl, hc⟩) hw

variable (hE : Reckoning E)
include hE

/-- **Level states take their steps together** in kin worlds. -/
theorem level_step {s t : State} (hst : s.Level E t) {u w : World} (hw : R u w) :
    Together (Progress.Level E) R (step h settings s u) (step h settings t w) := by
  obtain ⟨v, B, c⟩ := s
  obtain ⟨v', B', c'⟩ := t
  obtain ⟨hcurrent, rfl, hc⟩ := hst
  cases hcurrent with
  | done i j v => exact level_step_done hR hh hp i j v B' hc hw
  | refl =>
    cases hk : v.isKnown with
    | false =>
      rw [step_unknown hp hk, step_unknown hp hk]
      exact .ok (.halted (.aborted _) hc) hw
    | true =>
      cases v with
      | node i n =>
        cases n with
        | done v => exact level_step_done hR hh hp i i v B' hc hw
        | delay thunk label =>
          rw [step_action hp, step_action hp]
          refine (hh.performed hw thunk label).bind fun {answer _ _ _} ha hu => ?_
          cases ha
          cases answer with
          | ok v => exact .ok (.next ⟨.refl _, rfl, hE.succ hc⟩) hu
          | error m =>
            refine level_mishap_same hR ?_ ?_ m hu
            · rfl
            · exact hc
        | flatMap source f =>
          rw [next_sequence hp i source f B' c u, next_sequence hp i source f B' c' w]
          exact .ok (.next ⟨.refl source, rfl, hc⟩) hw
        | recover source g =>
          rw [next_region hp i source g B' c u, next_region hp i source g B' c' w]
          exact .ok (.next ⟨.refl source, rfl, hc⟩) hw
        | foreign variant => cases hk
      | _ => cases hk

/-- **So do whole runs,** until both end in the same way, or both need more fuel. -/
theorem level_drive (fuel : Nat) {s t : State} (hst : s.Level E t) {u w : World} (hw : R u w) :
    Together (fun r r' => r.1.Same r'.1 ∧ E r.2.counters.totalEffects r'.2.counters.totalEffects) R
      (drive h settings fuel s u) (drive h settings fuel t w) := by
  induction fuel generalizing s t u w with
  | zero => exact .error .exhausted hw
  | succ fuel ih =>
    refine (level_step hR hh hp hE hst hw).bind fun hab hu => ?_
    cases hab with
    | next hst => exact ih hst hu
    | halted he hc => exact .ok ⟨he, hc⟩ hu

end steps

/-! ### Shadows -/

/-- **A state in a world is shadowed by another:** if a run from the first ends, then so does one from
the second, in the same way, with a related number of actions and in a related world. -/
def Shadows (h : Host) (settings : Settings) (E : Nat → Nat → Prop) (R : World → World → Prop)
    (a b : State × World) : Prop :=
  ∀ ⦃fuel e s u⦄, drive h settings fuel a.1 a.2 = .ok (e, s) u →
    ∃ fuel' e' s' u', drive h settings fuel' b.1 b.2 = .ok (e', s') u' ∧ e.Same e' ∧
      E s.counters.totalEffects s'.counters.totalEffects ∧ R u u'

namespace Shadows

variable {a a' b b' c : State × World}

theorem trans (hR : World.Kinship R) (hE : Reckoning E) (hab : Shadows h settings E R a b)
    (hbc : Shadows h settings E R b c) : Shadows h settings E R a c := by
  intro fuel e s u hrun
  obtain ⟨fuel', e', s', u', hrun', he, hs, hu⟩ := hab hrun
  obtain ⟨fuel'', e'', s'', u'', hrun'', he', hs', hu'⟩ := hbc hrun'
  exact ⟨fuel'', e'', s'', u'', hrun'', he.trans he', hE.trans hs hs', hR.trans hu hu'⟩

/-- States are shadowed if states that are reached from them are. -/
theorem of_reaches (hab : Reaches h settings a b) (hab' : Reaches h settings a' b')
    (hb : Shadows h settings E R b b') : Shadows h settings E R a a' := by
  intro fuel e s u hrun
  obtain ⟨fuel₁, -, hrun₁⟩ := hab.drive_rest hrun
  obtain ⟨fuel₂, e', s', u', hrun₂, hsame⟩ := hb hrun₁
  obtain ⟨fuel', hrun'⟩ := hab'.drive hrun₂
  exact ⟨fuel', e', s', u', hrun', hsame⟩

variable (hR : World.Kinship R) (hh : h.Unaware R) (hp : settings.Plain)
  (hE : Reckoning E)
include hR hh hp hE

theorem of_level {s t : State} {u w : World} (hst : s.Level E t) (hw : R u w) :
    Shadows h settings E R (s, u) (t, w) := by
  intro fuel e s' u' hrun
  have hdrive := level_drive hR hh hp hE fuel hst hw
  rw [hrun] at hdrive
  obtain ⟨r, w', hrun', ⟨he, ht⟩, hw'⟩ := hdrive.exists_of_ok
  exact ⟨fuel, r.1, r.2, w', hrun', he, ht, hw'⟩

/-- States are shadowed if their steps end level. -/
theorem of_step (hstep : Together (Progress.Level E) R (step h settings a.1 a.2)
    (step h settings b.1 b.2)) : Shadows h settings E R a b := by
  intro fuel e s u hrun
  cases fuel with
  | zero => cases hrun
  | succ fuel =>
    obtain ⟨p, w, hstepa, hrest⟩ := Eff.exists_of_bind_ok hrun
    rw [hstepa] at hstep
    obtain ⟨p', w', hstepb, hlevel, hw⟩ := hstep.exists_of_ok
    cases hlevel with
    | next hst =>
      obtain ⟨fuel', e', s', u', hrun', hsame⟩ := of_level hR hh hp hE hst hw hrest
      exact ⟨fuel' + 1, e', s', u', (drive_of_next hstepb).trans hrun', hsame⟩
    | halted he hs =>
      cases hrest
      exact ⟨1, _, _, w', drive_of_halted hstepb, he, hs, hw⟩

end Shadows

end Machine

/-! ### Reports -/

namespace Machine

variable {h : Host} {settings : Settings} {E : Nat → Nat → Prop} {R : World → World → Prop}

/-- Reports that give the same, the numbers of actions being related. -/
structure Report.Level (E : Nat → Nat → Prop) (r r' : Report) : Prop where
  result : r'.result = r.result
  totalEffects : E r.counters.totalEffects r'.counters.totalEffects

/-- **What a program in a world reports is reported by another one,** and so is what it raises. -/
structure ReportedBy (h : Host) (settings : Settings) (E : Nat → Nat → Prop)
    (R : World → World → Prop) (a b : Value × World) : Prop where
  report : ∀ ⦃fuel r u⦄, runReport h fuel settings a.1 a.2 = .ok r u →
    ∃ fuel' r' u', runReport h fuel' settings b.1 b.2 = .ok r' u' ∧ r.Level E r' ∧ R u u'
  raise : ∀ ⦃fuel fault u⦄, runReport h fuel settings a.1 a.2 = .error (.raised fault) u →
    ∃ fuel' u', runReport h fuel' settings b.1 b.2 = .error (.raised fault) u' ∧ R u u'

section reports

variable (hR : World.Kinship R)
include hR

/-- Endings that give the same are reported, or raised, alike in kin worlds. -/
theorem level_concluded {e e' : Ending} {s s' : State} {u w : World} (he : e.Same e')
    (hs : E s.counters.totalEffects s'.counters.totalEffects) (hw : R u w) (start start' : Nat) :
    Together (Report.Level E) R (concluded start (e, s) u) (concluded start' (e', s') w) := by
  have hclosed (o o' : Outcome) (hresult : ∀ stop stop',
      (Report.mk o' s'.counters start' stop').result = (Report.mk o s.counters start stop).result) :
      Together (Report.Level E) R (concluded start (o.ending, s) u)
        (concluded start' (o'.ending, s') w) := by
    rw [concluded_of_outcome, concluded_of_outcome]
    exact .ok ⟨hresult _ _, hs⟩ (hR.noted (hR.ticked hw) _ _)
  cases he with
  | finished v => exact hclosed (.finished v) (.finished v) fun _ _ => rfl
  | @failed f f' hcause => exact hclosed (.failed f) (.failed f') fun _ _ => congrArg Except.error hcause
  | aborted reason => exact hclosed (.aborted reason) (.aborted reason) fun _ _ => rfl
  | interrupted fault =>
    rw [concluded_of_interrupted, concluded_of_interrupted]
    exact .error _ (hR.ticked (hR.noted hw _ _))

/-- **Where the machine is shadowed, a run from a root is reported by the other.** -/
theorem Shadows.reportedBy {n n' : Value} {w w' : World} {description description' : String}
    (hn : n.isNode = true) (hn' : n'.isNode = true) (hd : w.ticked.describe? n = .ok description)
    (hd' : w'.ticked.describe? n' = .ok description')
    (hs : Shadows h settings E R (.start n, w.opened description) (.start n', w'.opened description')) :
    ReportedBy h settings E R (n, w) (n', w') where
  report fuel r u hrun := by
    rw [runReport_of_described hn hd] at hrun
    obtain ⟨⟨e, s⟩, w₁, hdrive, hend⟩ := Eff.exists_of_bind_ok hrun
    obtain ⟨fuel', e', s', w₁', hdrive', he, hcount, hw₁⟩ := hs hdrive
    have hends := level_concluded hR he hcount hw₁ w.ticked.journal.clock w'.ticked.journal.clock
    rw [hend] at hends
    obtain ⟨r', u', hend', hlevel, hu⟩ := hends.exists_of_ok
    refine ⟨fuel', r', u', ?_, hlevel, hu⟩
    rw [runReport_of_described hn' hd', Eff.bind_of_ok hdrive', hend']
  raise fuel fault u hrun := by
    obtain ⟨s, w₁, hdrive, rfl⟩ := exists_drive_of_raised hn hd hrun
    obtain ⟨fuel', e', s', w₁', hdrive', he, hcount, hw₁⟩ := hs hdrive
    cases he
    refine ⟨fuel', w₁'.brokenOff s'.counters.totalSteps, ?_, hR.ticked (hR.noted hw₁ _ _)⟩
    rw [runReport_of_described hn' hd', Eff.bind_of_ok hdrive', concluded_of_interrupted]

end reports
end Machine

section verdicts

variable {h : Host} {settings : Settings} {E : Nat → Nat → Prop} {R : World → World → Prop}
  (hR : World.Kinship R) (hh : h.Unaware R) (hp : settings.Plain) (hE : Reckoning E) {B : Stack}
  {c c' : Counters}
include hR hh hp hE

/-- **Where the machine arrives at verdicts that cannot be told apart,** it goes on level. -/
theorem Verdict.Agrees.shadows {a a' : State × World} {verdict verdict' : Verdict} {u u' : World}
    (ha : verdict.Agrees u verdict') (hu : R u u') (hc : E c.totalEffects c'.totalEffects)
    (harr : Arrives h settings a verdict B c u) (harr' : Arrives h settings a' verdict' B c' u') :
    Shadows h settings E R a a' := by
  cases ha with
  | value v =>
    obtain ⟨i, hi⟩ := harr
    obtain ⟨j, hj⟩ := harr'
    exact .of_reaches hi hj (.of_level hR hh hp hE ⟨.done i j v, rfl, hc⟩ hu)
  | failure fault pending pending' hlabel =>
    obtain ⟨-, b, s, fs, hr, hstep, hframes, -, hfs, rfl⟩ := harr
    obtain ⟨-, b', s', fs', hr', hstep', hframes', -, hfs', rfl⟩ := harr'
    refine .of_reaches hr hr' (.of_step hR hh hp hE ?_)
    rw [hstep, hstep']
    exact level_mishap hR hframes hfs hframes' hfs' hc hu hlabel fault
  | unknown typeName pending pending' =>
    obtain ⟨b, s, hr, hstep, -, hs⟩ := harr
    obtain ⟨b', s', hr', hstep', -, hs'⟩ := harr'
    refine .of_reaches hr hr' (.of_step hR hh hp hE ?_)
    rw [hstep, hstep']
    refine .ok (.halted (.aborted _) ?_) hu
    rw [hs, hs']
    exact hc
  | interrupt fault =>
    obtain ⟨b, s, hr, hstep, rfl⟩ := harr
    obtain ⟨b', s', hr', hstep', rfl⟩ := harr'
    refine .of_reaches hr hr' (.of_step hR hh hp hE ?_)
    rw [hstep, hstep']
    exact .ok (.halted (.interrupted fault) hc) hu

/-- Whatever was counted before, a run that ends also ends if it has counted the depth of its stack. -/
theorem Machine.exists_counted (n : Value) (B : Stack) (c : Counters) (w : World) : ∃ d : Counters,
    d.totalEffects = c.totalEffects ∧ B.depth ≤ d.maxStackDepth ∧
      Shadows h settings E R (⟨n, B, c⟩, w) (⟨n, B, d⟩, w) ∧
        Shadows h settings E R (⟨n, B, d⟩, w) (⟨n, B, c⟩, w) := by
  refine ⟨{ c with maxStackDepth := max c.maxStackDepth B.depth }, rfl, Nat.le_max_right _ _, ?_, ?_⟩
  · exact .of_level hR hh hp hE ⟨.refl n, rfl, hE.refl _⟩ (hR.refl w)
  · exact .of_level hR hh hp hE ⟨.refl n, rfl, hE.refl _⟩ (hR.refl w)

/-- **A node is shadowed in every context by one that comes to whatever it comes to,** up to what cannot
be told apart. -/
theorem Machine.shadows_of_evaluates {n n' : Value} {w w' : World}
    (hn : ∀ ⦃verdict k u⦄, Evaluates h n w verdict k u → ∃ verdict' k' u',
      Evaluates h n' w' verdict' k' u' ∧ verdict.Agrees u verdict' ∧
        E k.totalEffects k'.totalEffects ∧ R u u')
    (hc : E c.totalEffects c'.totalEffects) :
    Shadows h settings E R (⟨n, B, c⟩, w) (⟨n', B, c'⟩, w') := by
  -- the meaning of a node is about counters that know the depth of the stack
  obtain ⟨d, hd, hdepth, hfirst, -⟩ := exists_counted hR hh hp hE n B c w
  obtain ⟨d', hd', hdepth', -, hlast⟩ := exists_counted hR hh hp hE n' B c' w'
  refine hfirst.trans hR hE (.trans hR hE ?_ hlast)
  intro fuel e s u hrun
  obtain ⟨verdict, k, w₁, heval⟩ := meant hp fuel hdepth ⟨_, _, hrun⟩
  obtain ⟨verdict', k', w₁', heval', ha, hk, hw₁⟩ := hn heval
  have hcount : E (d.above B.depth k).totalEffects (d'.above B.depth k').totalEffects := by
    rw [← hd, ← hd'] at hc
    exact hE.add hc hk
  exact ha.shadows hR hh hp hE hw₁ hcount (heval.arrives hp B d hdepth)
    (heval'.arrives hp B d' hdepth') hrun

end verdicts
end EffectGraph
