import EffectGraph.Proofs.Calls
import EffectGraph.Proofs.Timeless

/-!
# Runs in runs

A thunk may run a node itself, on the same interpreter or on another, in the middle of the run that
performs it (`RunsNested`).  An action with such a thunk comes to what the node comes to: a value is
handed on, and a failure or an interrupt that the inner run raises again is what the thunk raises, so the
outer run deals with it as if the node had ended there itself (`RunsNested.evaluates`).  By induction on
the depth the same is true of runs in runs in runs (`Nested`).  Hence no run can tell a node from a nested
one, whatever frames are waiting (`nested_runs`).

An inner run begins with a description of its node and ends with the wording of its failure.  If either
is refused, the refusal is raised in place of what the node comes to, and the outer run takes it for a
failure (`RunsNested.evaluates_undescribed`, `RunsNested.evaluates_unworded`).  So the nodes must have
descriptions, and the verdict must be one that a run can pass on (`Verdict.Passes`).
-/

namespace EffectGraph

open Machine

/-! ### What an attempt to run gives -/

/-- The name that a fault of an action is reported under. -/
def World.actionName (w : World) (thunk label : Value) : Value :=
  if w.isTruthy label then label else w.callableName thunk

theorem World.Akin.actionName_eq {w w' : World} (hw : w.Akin w') (thunk label : Value) :
    w'.actionName thunk label = w.actionName thunk label := by
  obtain ⟨journal, -, rfl⟩ := hw
  rfl

/-- A refusal is a failure. -/
theorem Complaint.isFailure_fault (c : Complaint) : c.fault.kind.isFailure = true := by
  cases c <;> rfl

/-- What an attempt to run gives for an ending. -/
def Machine.Ending.answer : Ending → Except (Fault Value) Value
  | .finished v => .ok v
  | .failed f => .error f.cause
  | .aborted reason => .error reason.fault
  | .interrupted fault => .error fault

namespace Machine

variable {h : Host} {settings : Settings} {fuel : Nat} {n thunk label : Value} {w w₁ u : World}
  {answer : Except (Fault Value) Value} {description : String}

/-- What an action gives or fails with is what its thunk gives or raises. -/
theorem performed_of_attempt (hrun : Eff.attempt (h.invoke thunk []) w = .ok answer u) :
    performed h thunk label w =
      .ok (answer.mapError fun fault => (fault, u.actionName thunk label)) u := by
  refine (Eff.bind_of_ok hrun).trans ?_
  cases answer <;> rfl

/-- An action that ends has invoked its thunk. -/
theorem exists_attempt_of_performed {answer : Except Mishap Value}
    (hrun : performed h thunk label w = .ok answer u) :
    ∃ answer' u', Eff.attempt (h.invoke thunk []) w = .ok answer' u' := by
  obtain ⟨answer', u', hinvoke, -⟩ := Eff.exists_of_bind_ok hrun
  exact ⟨answer', u', hinvoke⟩

section described

variable (hn : n.isNode = true) (hd : w.ticked.describe? n = .ok description)
include hn hd

/-- Once the machine has halted, an attempt to run gives its ending. -/
theorem attempt_run_of_drive {e : Ending} {s : State}
    (hdrive : drive h settings fuel (.start n) (w.opened description) = .ok (e, s) w₁) :
    ∃ u, Eff.attempt (Machine.run h fuel settings n) w = .ok e.answer u ∧ w₁.Akin u := by
  have hreport : runReport h fuel settings n w = _ := runReport_of_described hn hd
  rw [Eff.bind_of_ok hdrive] at hreport
  rcases e.eq_ending_or_interrupted with ⟨o, rfl⟩ | ⟨fault, rfl⟩
  · rw [concluded_of_outcome] at hreport
    refine ⟨_, ?_, World.Akin.closed_self w₁ (closing s.counters o)⟩
    cases o with
    | finished v => exact Eff.attempt_of_ok (Eff.bind_of_ok hreport)
    | failed f => exact Eff.attempt_of_raised ((Eff.bind_of_ok hreport).trans rfl)
    | aborted reason => exact Eff.attempt_of_raised ((Eff.bind_of_ok hreport).trans rfl)
  · rw [concluded_of_interrupted] at hreport
    exact ⟨_, Eff.attempt_of_raised (Eff.bind_of_error hreport), .brokenOff_self w₁ _⟩

/-- If an attempt to run gives anything, the machine has halted. -/
theorem exists_drive_of_attempt (hrun : Eff.attempt (Machine.run h fuel settings n) w = .ok answer u) :
    ∃ r w₁, drive h settings fuel (.start n) (w.opened description) = .ok r w₁ := by
  cases hdrive : drive h settings fuel (.start n) (w.opened description) with
  | ok r w₁ => exact ⟨r, w₁, rfl⟩
  | error signal w₁ =>
    have hreport : runReport h fuel settings n w = _ := runReport_of_described hn hd
    rw [Eff.bind_of_error hdrive] at hreport
    have hstopped : Machine.run h fuel settings n w = .error signal w₁ := Eff.bind_of_error hreport
    cases signal with
    | raised fault => exact absurd hdrive (drive_calm _ _ _ _ _)
    | exhausted =>
      rw [Eff.attempt, hstopped] at hrun
      cases hrun

end described

/-- More fuel changes nothing about what an attempt to run gives. -/
theorem attempt_run_of_le {fuel' : Nat} (hn : n.isNode = true) (hle : fuel ≤ fuel')
    (hrun : Eff.attempt (Machine.run h fuel settings n) w = .ok answer u) :
    Eff.attempt (Machine.run h fuel' settings n) w = .ok answer u := by
  have hreport : runReport h fuel' settings n w = runReport h fuel settings n w := by
    cases hd : w.ticked.describe? n with
    | error c => rw [runReport_of_undescribed hn hd, runReport_of_undescribed hn hd]
    | ok description =>
      obtain ⟨r, w₁, hdrive⟩ := exists_drive_of_attempt hn hd hrun
      rw [runReport_of_described hn hd, runReport_of_described hn hd, Eff.bind_of_ok hdrive,
        Eff.bind_of_ok (drive_of_le hle hdrive)]
  have hsame : Machine.run h fuel' settings n w = Machine.run h fuel settings n w :=
    Eff.bind_eq_of_eq hreport
  rwa [Eff.attempt, hsame]

end Machine

/-! ### Verdicts that a run passes on -/

/-- **A verdict that a run passes on** from a world: a value, a failure whose label and cause have texts,
or an interrupt by what is no failure. -/
inductive Verdict.Passes (u : World) : Verdict → Prop where
  | value (v : Value) : Passes u (.value v)
  | failure (fault : Fault Value) (label : Value) (pending : Nat)
      (hlabel : ∃ text, u.str? label = .ok text) (hcause : ∃ text, u.str? (.fault fault) = .ok text) :
      Passes u (.failure fault label pending)
  | interrupt (fault : Fault Value) (hfault : fault.kind.isFailure = false) : Passes u (.interrupt fault)

namespace Verdict.Passes

variable {verdict verdict' : Verdict} {u u' : World}

/-- What cannot be told apart from a verdict that passes does so, too. -/
theorem of_agrees (hpass : verdict.Passes u) (ha : verdict.Agrees u verdict') : verdict'.Passes u := by
  cases hpass with
  | value v =>
    cases ha
    exact .value v
  | failure fault label pending hlabel hcause =>
    cases ha with
    | failure _ _ pending' htells =>
      rcases htells with rfl | ⟨-, hlabel'⟩
      · exact .failure fault _ pending' hlabel hcause
      · exact .failure fault _ pending' hlabel' hcause
  | interrupt fault hfault =>
    cases ha
    exact .interrupt fault hfault

theorem akin (hpass : verdict.Passes u) (hu : u.Akin u') : verdict.Passes u' := by
  have htext {v : Value} (hv : ∃ text, u.str? v = .ok text) : ∃ text, u'.str? v = .ok text := by
    rwa [World.kinship_akin.text hu]
  cases hpass with
  | value v => exact .value v
  | failure fault label pending hlabel hcause =>
    exact .failure fault label pending (htext hlabel) (htext hcause)
  | interrupt fault hfault => exact .interrupt fault hfault

end Verdict.Passes

/-! ### Programs that come to the same -/

/-- **Whatever a program in a world comes to, another one comes to,** up to what cannot be told apart and
in a world that is akin. -/
def Accords (h : Host) (a b : Value × World) : Prop :=
  ∀ ⦃verdict k u⦄, Evaluates h a.1 a.2 verdict k u →
    ∃ verdict' k' u', Evaluates h b.1 b.2 verdict' k' u' ∧ verdict.Agrees u verdict' ∧ u.Akin u'

namespace Accords

variable {h : Host} {a b c : Value × World}

theorem refl (a : Value × World) : Accords h a a :=
  fun verdict k u he => ⟨verdict, k, u, he, .refl u verdict, .refl u⟩

theorem trans (hab : Accords h a b) (hbc : Accords h b c) : Accords h a c := by
  intro verdict k u he
  obtain ⟨verdict', k', u', he', ha, hu⟩ := hab he
  obtain ⟨verdict'', k'', u'', he'', ha', hu'⟩ := hbc he'
  exact ⟨verdict'', k'', u'', he'', ha.trans (ha'.kin World.kinship_akin hu.symm), hu.trans hu'⟩

/-- A program comes to the same in akin worlds, over a timeless host. -/
theorem of_akin (hh : h.Timeless) (n : Value) {w w' : World} (hw : w.Akin w') :
    Accords h (n, w) (n, w') := by
  intro verdict k u he
  obtain ⟨u', he', hu⟩ := he.exists_kin World.kinship_akin hh.unaware hw
  exact ⟨verdict, k, u', he', .refl u verdict, hu⟩

/-- What a program comes to that comes to anything if the other does, this one comes to. -/
theorem symm_of_hasMeaning (hab : Accords h a b) (hm : HasMeaning h b.1 b.2 → HasMeaning h a.1 a.2) :
    Accords h b a := by
  intro verdict' k' u' he'
  obtain ⟨verdict, k, u, he⟩ := hm ⟨verdict', k', u', he'⟩
  obtain ⟨_, _, _, he'', ha, hu⟩ := hab he
  obtain ⟨rfl, rfl, rfl⟩ := he'.only he''
  exact ⟨verdict, k, u, he, (ha.kin World.kinship_akin hu).symm, hu.symm⟩

/-- Programs that come to the same shadow each other under any frames. -/
theorem shadows (hab : Accords h a b) (hh : h.Timeless) {settings : Settings} (hp : settings.Plain)
    (B : Stack) (c c' : Counters) : Shadows h settings (fun _ _ => True) World.Akin
      (⟨a.1, B, c⟩, a.2) (⟨b.1, B, c'⟩, b.2) := by
  refine shadows_of_evaluates World.kinship_akin hh.unaware hp reckoning_any ?_ trivial
  intro verdict k u he
  obtain ⟨verdict', k', u', he', ha, hu⟩ := hab he
  exact ⟨verdict', k', u', he', ha, trivial, hu⟩

end Accords

/-! ### Nested runs -/

/-- **A thunk that runs a node:** an attempt to invoke it ends as one to run the node does, with the same
value or the same fault and in the same world, and it never returns if no run does. -/
def RunsNested (h : Host) (settings : Settings) (n t : Value) : Prop :=
  ∀ w answer u, Eff.attempt (h.invoke t []) w = .ok answer u ↔
    ∃ fuel, Eff.attempt (Machine.run h fuel settings n) w = .ok answer u

namespace RunsNested

variable {h : Host} {settings : Settings} {n t label : Value} {w u : World} {verdict : Verdict}
  {k : Counters} {description : String}

/-- An action fails with the failure that its thunk raises. -/
theorem evaluates_of_raised (ht : RunsNested h settings n t) {fault : Fault Value} {fuel : Nat}
    (hrun : Eff.attempt (Machine.run h fuel settings n) w = .ok (.error fault) u)
    (hfault : fault.kind.isFailure = true) (i : Nat) : Evaluates h (.node i (.delay t label)) w
      (.failure fault (u.actionName t label) 0) Counters.zero.stepped u := by
  have hinvoke := (ht w _ u).mpr ⟨fuel, hrun⟩
  have hends : Evaluates h (.node i (.delay t label)) w (.ofMishap (fault, u.actionName t label))
    Counters.zero.stepped u := .actionMishap (performed_of_attempt hinvoke)
  rwa [Verdict.ofMishap_of_failure hfault] at hends

/-- **An inner run whose node cannot be described fails with the refusal,** and the node is not run. -/
theorem evaluates_undescribed (ht : RunsNested h settings n t) (hn : n.isNode = true) {c : Complaint}
    (hd : w.describe? n = .error c) (i : Nat) : Evaluates h (.node i (.delay t label)) w
      (.failure c.fault (w.actionName t label) 0) Counters.zero.stepped w.ticked := by
  have hticked : w.ticked.describe? n = .error c := (w.describe?_ticked n).trans hd
  have hrun : Machine.run h 0 settings n w = .error (.raised c.fault) w.ticked :=
    Eff.bind_of_error (runReport_of_undescribed hn hticked)
  exact ht.evaluates_of_raised (Eff.attempt_of_raised hrun) c.isFailure_fault i

variable (hh : h.Timeless) (hp : settings.Plain) (hn : n.isNode = true)
  (hd : w.describe? n = .ok description)
include hh hp hn hd

/-- What the node comes to is what an attempt to run it gives, if its failure can be worded. -/
theorem exists_attempt_run (he : Evaluates h n w verdict k u) : ∃ fuel u₁ u₂,
    Eff.attempt (Machine.run h fuel settings n) w = .ok (verdict.ending u₁ k).answer u₂ ∧
      u.Akin u₁ ∧ u.Akin u₂ := by
  have hticked := (w.describe?_ticked n).trans hd
  obtain ⟨u₁, he₁, hu₁⟩ := he.exists_kin World.kinship_akin hh.unaware (.opened_self w description)
  obtain ⟨fuel, s, hdrive, -⟩ := he₁.runs hp
  obtain ⟨u₂, hrun, hu₂⟩ := attempt_run_of_drive hn hticked hdrive
  exact ⟨fuel, u₁, u₂, hrun, hu₁, hu₁.trans hu₂⟩

variable (ht : RunsNested h settings n t)
include ht

/-- **An inner run whose failure cannot be worded fails with the refusal.** -/
theorem evaluates_unworded {fault : Fault Value} {name : Value} {pending : Nat} {c : Complaint}
    (he : Evaluates h n w (.failure fault name pending) k u)
    (hc : worded u fault name k.totalSteps pending = .error c) (i : Nat) : ∃ u₂,
    Evaluates h (.node i (.delay t label)) w (.failure c.fault (u.actionName t label) 0)
      Counters.zero.stepped u₂ ∧ u.Akin u₂ := by
  obtain ⟨fuel, u₁, u₂, hrun, hu₁, hu₂⟩ := exists_attempt_run hh hp hn hd he
  have hrefused : worded u₁ fault name k.totalSteps pending = .error c :=
    (worded_eq_of_kin World.kinship_akin hu₁ fault _ _).trans hc
  rw [Verdict.ending_eq_interrupted_iff.2 (.inr ⟨fault, name, pending, c, rfl, hrefused, rfl⟩)] at hrun
  rw [← hu₂.actionName_eq]
  exact ⟨u₂, ht.evaluates_of_raised hrun c.isFailure_fault i, hu₂⟩

/-- **An action that runs a node comes to what the node comes to,** if that passes. -/
theorem evaluates (he : Evaluates h n w verdict k u) (hpass : verdict.Passes u)
    (hname : ∀ ⦃fault name pending⦄, verdict = .failure fault name pending →
      ∃ text, u.str? (u.actionName t label) = .ok text) (i : Nat) :
    ∃ verdict' k' u', Evaluates h (.node i (.delay t label)) w verdict' k' u' ∧
      verdict.Agrees u verdict' ∧ u.Akin u' := by
  obtain ⟨fuel, u₁, u₂, hrun, hu₁, hu₂⟩ := exists_attempt_run hh hp hn hd he
  cases hpass with
  | value v =>
    exact ⟨_, _, u₂, .action (performed_of_attempt ((ht w _ u₂).mpr ⟨fuel, hrun⟩)), .value v, hu₂⟩
  | failure fault name pending hlabel hcause =>
    obtain ⟨text, htext⟩ := hlabel
    obtain ⟨cause, hcause⟩ := hcause
    obtain ⟨f, hf, rfl⟩ := (worded_of_text htext fault k.totalSteps pending).1 cause hcause
    have hworded : worded u₁ f.cause name k.totalSteps pending = .ok f :=
      (worded_eq_of_kin World.kinship_akin hu₁ f.cause _ _).trans hf
    rw [Verdict.ending_eq_failed_iff.2 ⟨f.cause, name, pending, rfl, hworded⟩] at hrun
    have hends : Evaluates h (.node i (.delay t label)) w (.failure f.cause (u₂.actionName t label) 0) _ u₂ :=
      ht.evaluates_of_raised hrun he.isFailure i
    rw [hu₂.actionName_eq] at hends
    exact ⟨_, _, u₂, hends, .failure f.cause _ _ (.inr ⟨⟨text, htext⟩, hname rfl⟩), hu₂⟩
  | interrupt fault hfault =>
    have hinvoke := (ht w _ u₂).mpr ⟨fuel, hrun⟩
    have hends : Evaluates h (.node i (.delay t label)) w
        (.ofMishap (fault, u₂.actionName t label)) _ u₂ := .actionMishap (performed_of_attempt hinvoke)
    rw [Verdict.ofMishap_of_interrupt hfault] at hends
    exact ⟨_, _, u₂, hends, .interrupt fault, hu₂⟩

/-- If it comes to anything, then so does the node. -/
theorem hasMeaning {i : Nat} (hm : HasMeaning h (.node i (.delay t label)) w) : HasMeaning h n w := by
  have hticked := (w.describe?_ticked n).trans hd
  obtain ⟨verdict, k, u, he⟩ := hm
  have hinvoked : ∃ answer u', Eff.attempt (h.invoke t []) w = .ok answer u' := by
    cases he with
    | action hrun => exact exists_attempt_of_performed hrun
    | actionMishap hrun => exact exists_attempt_of_performed hrun
    | unknown hv => cases hv
  obtain ⟨answer, u', hinvoke⟩ := hinvoked
  obtain ⟨fuel, hrun⟩ := (ht w answer u').mp hinvoke
  obtain ⟨r, w₁, hdrive⟩ := exists_drive_of_attempt hn hticked hrun
  obtain ⟨verdict', k', w₂, he'⟩ := meant hp fuel (Nat.le_refl 0) ⟨r, w₁, hdrive⟩
  obtain ⟨u₂, he₂, -⟩ := he'.exists_kin World.kinship_akin hh.unaware
    (World.Akin.opened_self w description).symm
  exact ⟨verdict', k', u₂, he₂⟩

end RunsNested

/-- **A node, nested to any depth:** itself, or an action whose thunk runs what the node is nested in.
What is run can be described, and the name of the action has a text where the node fails. -/
inductive Nested (h : Host) (m : Value) (w : World) : Value → Prop where
  | self : Nested h m w m
  | run {i n t label settings description} (hnested : Nested h m w n) (hp : settings.Plain)
      (ht : RunsNested h settings n t) (hd : w.describe? n = .ok description)
      (hname : ∀ ⦃fault name pending k u⦄, Evaluates h m w (.failure fault name pending) k u →
        ∃ text, u.str? (u.actionName t label) = .ok text) :
      Nested h m w (.node i (.delay t label))

namespace Nested

variable {h : Host} {m d : Value} {w : World}

theorem isNode (hm : m.isNode = true) (hd : Nested h m w d) : d.isNode = true := by
  cases hd with
  | self => exact hm
  | run => rfl

variable (hh : h.Timeless) (hm : m.isNode = true)
include hh hm

/-- **A node comes to the same at any depth.** -/
theorem accords (hpass : ∀ ⦃verdict k u⦄, Evaluates h m w verdict k u → verdict.Passes u)
    (hd : Nested h m w d) : Accords h (m, w) (d, w) := by
  induction hd with
  | self => exact .refl _
  | @run i n t label settings description hnested hp ht hdescribed hname ih =>
    intro verdict k u he
    obtain ⟨verdict₁, k₁, u₁, he₁, ha₁, hu₁⟩ := ih he
    have hpass₁ := ((hpass he).of_agrees ha₁).akin hu₁
    have hname₁ : ∀ ⦃fault name pending⦄, verdict₁ = .failure fault name pending →
        ∃ text, u₁.str? (u₁.actionName t label) = .ok text := by
      rintro fault name pending rfl
      cases ha₁ with
      | failure =>
        rw [hu₁.actionName_eq, World.kinship_akin.text hu₁]
        exact hname he
    obtain ⟨verdict₂, k₂, u₂, he₂, ha₂, hu₂⟩ :=
      ht.evaluates hh hp (hnested.isNode hm) hdescribed he₁ hpass₁ hname₁ i
    exact ⟨verdict₂, k₂, u₂, he₂, ha₁.trans (ha₂.kin World.kinship_akin hu₁.symm), hu₁.trans hu₂⟩

/-- If it comes to anything there, it does so at the root. -/
theorem hasMeaning (hd : Nested h m w d) (hmeaning : HasMeaning h d w) : HasMeaning h m w := by
  induction hd with
  | self => exact hmeaning
  | run hnested hp ht hdescribed _ ih =>
    exact ih (ht.hasMeaning hh hp (hnested.isNode hm) hdescribed hmeaning)

end Nested

/-! ### Transparency -/

/-- **Nested runs are transparent.**  Over a host that looks neither at the clock nor at the log, let a
node come to nothing but what a run can pass on, and nest it to any depth, in runs of any settings without
a limit and without tracing.  Then
- the node and the nested one come to the same from where they are reached: the same value, a failure with
  the same fault, which a boundary catches in the one case if it does in the other, the same interrupt, or
  nothing, as neither ever ends;
- under any frames, and whatever was counted before, a run from the one ends if a run from the other does,
  in the same way and in an akin world;
- as roots that can be described they are reported alike, and what a run of the one raises, a run of the
  other raises. -/
theorem nested_runs {h : Host} (hh : h.Timeless) {settings : Settings} (hp : settings.Plain)
    {m d : Value} {w : World} (hm : m.isNode = true)
    (hpass : ∀ ⦃verdict k u⦄, Evaluates h m w verdict k u → verdict.Passes u) (hd : Nested h m w d) :
    (Accords h (m, w) (d, w) ∧ Accords h (d, w) (m, w)) ∧
    (∀ (B : Stack) (c c' : Counters),
      Shadows h settings (fun _ _ => True) World.Akin (⟨m, B, c⟩, w) (⟨d, B, c'⟩, w) ∧
        Shadows h settings (fun _ _ => True) World.Akin (⟨d, B, c'⟩, w) (⟨m, B, c⟩, w)) ∧
    ∀ description description', w.describe? m = .ok description → w.describe? d = .ok description' →
      ReportedBy h settings (fun _ _ => True) World.Akin (m, w) (d, w) ∧
        ReportedBy h settings (fun _ _ => True) World.Akin (d, w) (m, w) := by
  have hforth : Accords h (m, w) (d, w) := hd.accords hh hm hpass
  have hback : Accords h (d, w) (m, w) := hforth.symm_of_hasMeaning (hd.hasMeaning hh hm)
  refine ⟨⟨hforth, hback⟩, fun B c c' => ⟨hforth.shadows hh hp B c c', hback.shadows hh hp B c' c⟩, ?_⟩
  intro description description' hdescribed hdescribed'
  have hticked {n : Value} {text : String} (hn : w.describe? n = .ok text) :
      w.ticked.describe? n = .ok text := (w.describe?_ticked n).trans hn
  -- each run begins in a world of its own, which tells of its node
  have hopened {a b : Value} (hab : Accords h (a, w) (b, w)) (text text' : String) :
      Accords h (a, w.opened text) (b, w.opened text') :=
    .trans (.of_akin hh a (World.Akin.opened_self w text).symm)
      (hab.trans (.of_akin hh b (World.Akin.opened_self w text')))
  have hd' := hd.isNode hm
  constructor
  · exact ((hopened hforth description description').shadows hh hp _ _ _).reportedBy World.kinship_akin
      hm hd' (hticked hdescribed) (hticked hdescribed')
  · exact ((hopened hback description' description).shadows hh hp _ _ _).reportedBy World.kinship_akin
      hd' hm (hticked hdescribed') (hticked hdescribed)

/-! ### A host that nests runs -/

namespace Machine

variable {h h' : Host} {settings : Settings} (hp : settings.Plain) {thunk label : Value}

include hp

/-- An action halts within two steps, in the same way if it is performed in the same way. -/
theorem drive_action {u : World} (hsame : performed h thunk label u = performed h' thunk label u)
    (i fuel : Nat) : drive h settings (fuel + 2) (.start (.node i (.delay thunk label))) u =
      drive h' settings 2 (.start (.node i (.delay thunk label))) u := by
  have hstep : step h settings (.start (.node i (.delay thunk label))) u =
      step h' settings (.start (.node i (.delay thunk label))) u := by
    rw [State.start, step_action hp, step_action hp]
    exact Eff.bind_eq_of_eq hsame
  have hperform := congrFun (step_action (h := h') hp i thunk label .empty .zero) u
  cases hrun : performed h' thunk label u with
  | error signal u' =>
    have hstops := hperform.trans (Eff.bind_of_error hrun)
    exact (Eff.bind_of_error (hstep.trans hstops)).trans (Eff.bind_of_error hstops).symm
  | ok answer u' =>
    have hgoes := hperform.trans (Eff.bind_of_ok hrun)
    cases answer with
    | ok v =>
      have hhalts {g : Host} {n : Nat} :
          drive g settings (n + 1) ⟨.done v, .empty, Counters.zero.acted⟩ u' =
            .ok (.finished v, ⟨.done v, .empty, Counters.zero.acted.stepped⟩) u' :=
        drive_of_halted (step_finished hp 0 v _ u')
      exact ((drive_of_next (hstep.trans hgoes)).trans hhalts).trans
        ((drive_of_next hgoes).trans hhalts).symm
    | error m =>
      obtain ⟨e, s, hmishap⟩ := exists_halted_of_mishap _ _ m u'
      have hhalts := hgoes.trans hmishap
      exact (drive_of_halted (hstep.trans hhalts)).trans (drive_of_halted hhalts).symm

/-- So an action that two hosts perform alike is run alike. -/
theorem run_action (hsame : ∀ u, performed h thunk label u = performed h' thunk label u) (i fuel : Nat) :
    Machine.run h (fuel + 2) settings (.node i (.delay thunk label)) =
      Machine.run h' 2 settings (.node i (.delay thunk label)) := by
  have hdrive := funext fun u => drive_action hp (hsame u) i fuel
  simp only [Machine.run, runReport, hdrive]

end Machine

/-- A thunk runs an action if it is run over another host that performs the action alike. -/
theorem RunsNested.of_action {h h' : Host} {settings : Settings} (hp : settings.Plain)
    {i : Nat} {thunk label t : Value}
    (hsame : ∀ u, performed h thunk label u = performed h' thunk label u)
    (ht : h.invoke t [] = Machine.run h' 2 settings (.node i (.delay thunk label))) :
    RunsNested h settings (.node i (.delay thunk label)) t := by
  intro w answer u
  rw [ht]
  constructor
  · intro hrun
    exact ⟨0 + 2, by rwa [run_action hp hsame]⟩
  · rintro ⟨fuel, hrun⟩
    rw [← run_action hp hsame i fuel]
    exact attempt_run_of_le rfl (Nat.le_add_right fuel 2) hrun

/-- The thunk that runs what is nested so deep. -/
def Value.runner (depth : Nat) : Value := .closure ⟨depth, some "<lambda>", [], .expr (.var "m"), []⟩

/-- It is reported under its own name where no script has given it another. -/
theorem World.actionName_runner {w : World} (hw : w.attributes = []) (depth : Nat) :
    w.actionName (.runner depth) .none = .str "<lambda>" := by
  have hgiven : w.given? (.runner depth) "__qualname__" = none := by
    rw [World.given?, hw]
    cases (Value.runner depth).identity? <;> rfl
  have hnamed : w.qualifiedName? (.runner depth) = some (.str "<lambda>") := by
    rw [World.qualifiedName?, hgiven]
    rfl
  have hnone : w.isTruthy .none = false := rfl
  rw [World.actionName, hnone, World.callableName, hnamed]
  rfl

/-- A node, nested so deep. -/
def Value.nested (m : Value) : Nat → Value
  | 0 => m
  | depth + 1 => .ofNode (.delay (.runner depth) .none)

/-- A host whose closures run what is nested less deep. -/
def Host.nesting (settings : Settings) (m : Value) : Nat → Host
  | 0 => .spent
  | depth + 1 =>
    { Host.spent with
      call := fun f args keywords => match f with
        | .closure c =>
          if c.stamp = depth then Machine.run (nesting settings m depth) 2 settings (m.nested depth)
          else (nesting settings m depth).call f args keywords
        | _ => Eff.exhausted }

namespace Host

variable (settings : Settings) (m : Value)

theorem timeless_nesting (hp : settings.Plain) (depth : Nat) :
    (Host.nesting settings m depth).Timeless := by
  induction depth with
  | zero => exact Host.observes_spent
  | succ depth ih =>
    refine { Host.observes_spent with call := fun f args keywords => ?_ }
    change Eff.timelessness.Obeys (match f with | .closure c => _ | _ => _)
    split
    · exact .ite (ih.run hp 2 _) (ih.call _ args keywords)
    · exact Eff.Timeless.exhausted

/-- Each closure runs what is nested so deep. -/
theorem call_nesting {j depth : Nat} (hj : j < depth) (args : List Value) (keywords : Keywords) :
    (nesting settings m depth).call (.runner j) args keywords =
      Machine.run (nesting settings m j) 2 settings (m.nested j) := by
  induction depth with
  | zero => cases hj
  | succ depth ih =>
    rcases Nat.lt_succ_iff_lt_or_eq.mp hj with hlt | rfl
    · exact (if_neg (Nat.ne_of_lt hlt)).trans (ih hlt)
    · exact if_pos rfl

end Host

/-- A node that any host performs alike is nested so deep over such a host. -/
theorem runsNested_nesting {settings : Settings} (hp : settings.Plain) {i : Nat} {thunk label : Value}
    (hsame : ∀ h h' u, performed h thunk label u = performed h' thunk label u) {j depth : Nat}
    (hj : j < depth) :
    RunsNested (.nesting settings (.node i (.delay thunk label)) depth) settings
      (Value.nested (.node i (.delay thunk label)) j) (.runner j) := by
  have hinvoke {k depth : Nat} (hk : k < depth) := Host.call_nesting settings
    (.node i (.delay thunk label)) hk [] []
  cases j with
  | zero => exact .of_action hp (hsame _ _) (hinvoke hj)
  | succ j =>
    refine .of_action hp (fun u => ?_) (hinvoke hj)
    have hcalls : (Host.nesting settings (.node i (.delay thunk label)) depth).invoke (.runner j) [] =
        (Host.nesting settings (.node i (.delay thunk label)) (j + 1)).invoke (.runner j) [] :=
      (hinvoke (Nat.lt_of_succ_lt hj)).trans (hinvoke (Nat.lt_succ_self j)).symm
    rw [performed, performed, hcalls]

/-- A failure that is raised again by two runs, the one in the other. -/
theorem nested_runs_fail :
    let w := Script.SessionInput.recorded
    let settings := Script.settingsOf w .none (.bool false)
    let fault := Fault.ofText "no"
    let m := Graph.action (.raiseFault (.fault fault)) "fail(ValueError)"
    let h := Host.nesting settings m 2
    h.Timeless ∧ settings.Plain ∧ m.isNode = true ∧ Nested h m w (m.nested 2) ∧
      (∃ label pending k u, Evaluates h (m.nested 2) w (.failure fault label pending) k u ∧ w.Akin u) ∧
      ReportedBy h settings (fun _ _ => True) World.Akin (m, w) (m.nested 2, w) := by
  intro w settings fault m h
  have hp : settings.Plain := Settings.plain_settingsOf _
  have hh : h.Timeless := Host.timeless_nesting settings m hp 2
  have hfails : Evaluates h m w (.failure fault (.str "fail(ValueError)") 0) _ w :=
    evaluates_raiseFault h fault rfl "fail(ValueError)" rfl w
  have hpass : ∀ ⦃verdict k u⦄, Evaluates h m w verdict k u → verdict.Passes u := by
    intro verdict k u he
    obtain ⟨rfl, -, rfl⟩ := hfails.only he
    exact .failure fault _ 0 ⟨_, rfl⟩ ⟨_, rfl⟩
  have hname (j : Nat) : ∀ ⦃fault name pending k u⦄, Evaluates h m w (.failure fault name pending) k u →
      ∃ text, u.str? (u.actionName (.runner j) .none) = .ok text := by
    intro _ _ _ _ u he
    obtain ⟨-, -, rfl⟩ := hfails.only he
    rw [World.actionName_runner rfl j]
    exact ⟨"<lambda>", rfl⟩
  have hsame (h h' : Host) (u : World) :
      performed h (.ofCallback (.raiseFault (.fault fault))) (.str "fail(ValueError)") u =
        performed h' (.ofCallback (.raiseFault (.fault fault))) (.str "fail(ValueError)") u := rfl
  have hruns (j : Nat) (hj : j < 2) : RunsNested h settings (m.nested j) (.runner j) :=
    runsNested_nesting hp hsame hj
  have honce : Nested h m w (m.nested 1) :=
    .run .self hp (hruns 0 (by decide)) (rfl : w.describe? m = .ok _) (hname 0)
  have hnested : Nested h m w (m.nested 2) :=
    .run honce hp (hruns 1 (by decide)) (rfl : w.describe? (m.nested 1) = .ok _) (hname 1)
  obtain ⟨⟨hforth, -⟩, -, hroot⟩ := nested_runs hh hp (w := w) (m := m) rfl hpass hnested
  obtain ⟨verdict, k, u, he, ha, hu⟩ := hforth hfails
  refine ⟨hh, hp, rfl, hnested, ?_, (hroot _ _ rfl rfl).1⟩
  cases ha with
  | failure _ _ pending => exact ⟨_, pending, k, u, he, hu⟩

end EffectGraph
