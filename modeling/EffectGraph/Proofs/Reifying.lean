import EffectGraph.Proofs.RecoveryLaws

/-!
# Outcomes as values

An attempt makes a value of what a node comes to: a success of its value, and a failure of the fault that
it fails with (`Conduct.Reified`).  It comes to nothing else but what passes every guard, so it never
fails.  Whatever the value of the node is, an outcome or a fault among others, the success holds it, and
no such value is taken for an outcome of the node.

Mapping a function that unwraps outcomes takes an attempt back (`behaveAlike_unwrap_attempt`): the node
fails again, with the same fault but under the name of the mapping.  An attempt at an attempt has nothing
to catch, so it is one attempt with a success around its outcome (`behaveAlike_attempt_attempt`).
-/

namespace EffectGraph

open Machine

/-! ### What an attempt comes to -/

namespace Conduct

/-- **What a conduct is reified to:** a success of its value, a failure with its fault, once that is
noted, or what passes two frames. -/
inductive Reified (P : Conduct) : Verdict → World → Prop where
  | success {v k u} (hp : P (.value v) k u) : Reified P (.value (.success v)) u
  | failure {fault label pending k w u} (hp : P (.failure fault label pending) k w)
      (hnote : recoveryNote fault label (pending + 1) w = .ok () u) :
      Reified P (.value (.failure (.fault fault))) u
  | refused {fault label pending refusal k w u} (hp : P (.failure fault label pending) k w)
      (hnote : recoveryNote fault label (pending + 1) w = .error (.raised refusal) u) :
      Reified P (.interrupt refusal) u
  | pass {verdict k u} (hp : P verdict k u) (hpass : verdict.escapes = true) :
      Reified P verdict.outward.outward u

/-- **A guard around a sequence reifies,** if both parts give what has come out as a value. -/
theorem exists_guard_chain_iff (P : Conduct) {verdict : Verdict} {u : World} :
    (∃ k, Guard (Chain P fun v w => Just (.value (.success v)) w)
      (fun fault w => Just (.value (.failure (.fault fault))) w) verdict k u) ↔
      Reified P verdict u := by
  constructor
  · rintro ⟨k, hg⟩
    cases hg with
    | value hc =>
      cases hc with
      | next hp hj =>
        obtain ⟨hv, rfl, rfl⟩ := hj
        cases hv
        exact .success hp
      | stop _ hstop hout => cases Verdict.isValue_of_eq_outward hout hstop
    | rescue hc hnote hj =>
      obtain ⟨rfl, rfl, rfl⟩ := hj
      cases hc with
      | next _ hv => cases hv.1
      | stop hp _ hout =>
        obtain ⟨pending, rfl, rfl⟩ := Verdict.exists_of_failure_eq_outward hout
        exact .failure hp hnote
    | refused hc hnote =>
      cases hc with
      | next _ hv => cases hv.1
      | stop hp _ hout =>
        obtain ⟨pending, rfl, rfl⟩ := Verdict.exists_of_failure_eq_outward hout
        exact .refused hp hnote
    | pass hc hpass hout =>
      subst hout
      cases hc with
      | next _ hv =>
        obtain ⟨rfl, -⟩ := hv
        cases hpass
      | stop hp _ hout =>
        subst hout
        rw [Verdict.escapes_outward] at hpass
        exact .pass hp hpass
  · intro hr
    cases hr with
    | success hp => exact ⟨_, .value (.next hp ⟨rfl, rfl, rfl⟩)⟩
    | failure hp hnote => exact ⟨_, .rescue (.stop hp rfl rfl) hnote ⟨rfl, rfl, rfl⟩⟩
    | refused hp hnote => exact ⟨_, .refused (.stop hp rfl rfl) hnote⟩
    | pass hp hpass =>
      have hstop := Verdict.isValue_of_escapes hpass
      have hpass' := Verdict.escapes_of_eq_outward rfl hpass
      exact ⟨_, .pass (.stop hp hstop rfl) hpass' rfl⟩

/-- What a conduct is reified to is no failure. -/
theorem Reified.not_failure {P : Conduct} {fault : Fault Value} {label : Value} {pending : Nat}
    {u : World} : ¬ Reified P (.failure fault label pending) u := by
  intro hr
  generalize hverdict : Verdict.failure fault label pending = verdict at hr
  cases hr with
  | success | failure | refused => cases hverdict
  | @pass verdict _ _ _ hpass =>
    have hpass' := Verdict.escapes_of_eq_outward hverdict ((Verdict.escapes_outward verdict).trans hpass)
    cases hpass'

theorem of_eq_just {P : Conduct} {verdict : Verdict} {w : World} (hp : P = Just verdict w) :
    P verdict .zero w := by
  rw [hp]
  exact ⟨rfl, rfl, rfl⟩

/-- A recovery that is noted under a text changes nothing but the journal. -/
theorem alike_of_recoveryNote {fault : Fault Value} {label : Value} {text : String} {pending : Nat}
    {w w' : World} (htext : w.str? label = .ok text)
    (hnote : recoveryNote fault label pending w = .ok () w') : w.Alike w' := by
  rw [recoveryNote_apply htext] at hnote
  cases hnote
  exact .noted_self w _

/-- **Going on with the value, or failing again,** takes an attempt back, if the failure has a label with a
text both times. -/
theorem chain_attempted_matches {P : Conduct} {K : Value → World → Conduct}
    (hlabel : ∀ {fault label pending k u}, P (.failure fault label pending) k u →
      ∃ text, u.str? label = .ok text)
    (hsuccess : ∀ v w, K (.success v) w = Just (.value v) w)
    (hfailure : ∀ {fault label pending k u}, P (.failure fault label pending) k u → ∀ w,
      ∃ name text, w.str? name = .ok text ∧
        K (.failure (.fault fault)) w = Just (.failure fault name 0) w) :
    (Chain (Attempted P) K).Matches P where
  refines := by
    intro verdict k u hc
    cases hc with
    | @next _ _ _ _ w' _ ha hk =>
      cases ha with
      | success hp =>
        rw [hsuccess] at hk
        obtain ⟨rfl, rfl, rfl⟩ := hk
        exact attains_of_cost hp rfl
      | @failure fault label pending _ _ _ hp hnote =>
        obtain ⟨text, htext⟩ := hlabel hp
        obtain ⟨name, text', hname, hfail⟩ := hfailure hp w'
        rw [hfail] at hk
        obtain ⟨rfl, rfl, rfl⟩ := hk
        have hnoted := alike_of_recoveryNote htext hnote
        refine ⟨_, _, _, hp, .failure fault 0 pending ?_, rfl, hnoted.symm⟩
        exact .inr ⟨⟨text', hname⟩, text, hnoted.str?_eq.trans htext⟩
      | pass _ hpass => cases hpass
    | stop ha hstop hout =>
      subst hout
      cases ha with
      | success | failure => cases hstop
      | refused hp hnote =>
        obtain ⟨text, htext⟩ := hlabel hp
        rw [recoveryNote_apply htext] at hnote
        cases hnote
      | pass hp => exact attains_of_agrees hp (.from_outward u hstop) rfl
  refined := by
    intro verdict k u hp
    cases verdict with
    | value v => exact attains_of_cost (.next (.success hp) (of_eq_just (hsuccess v u))) rfl
    | failure fault label pending =>
      obtain ⟨text, htext⟩ := hlabel hp
      have hnote := recoveryNote_apply htext fault pending
      have hnoted := alike_of_recoveryNote htext hnote
      obtain ⟨name, text', hname, hfail⟩ := hfailure hp _
      refine ⟨_, _, _, .next (.failure hp hnote) (of_eq_just hfail), ?_, rfl, hnoted⟩
      exact .failure fault pending 0 (.inr ⟨⟨text, htext⟩, text', hnoted.str?_eq.symm.trans hname⟩)
    | unknown typeName pending =>
      exact attains_of_agrees (.stop (.pass hp rfl) rfl rfl) (.to_outward u rfl) rfl
    | interrupt fault =>
      exact attains_of_agrees (.stop (.pass hp rfl) rfl rfl) (.to_outward u rfl) rfl

/-- **What never fails is attempted with success,** or passes. -/
theorem attempted_matches_chain {P : Conduct}
    (hcalm : ∀ {fault label pending k u}, ¬ P (.failure fault label pending) k u) :
    (Attempted P).Matches (Chain P fun v w => Just (.value (.success v)) w) where
  refines := by
    intro verdict k u ha
    cases ha with
    | success hp => exact attains_of_cost (.next hp ⟨rfl, rfl, rfl⟩) rfl
    | failure hp | refused hp => exact absurd hp hcalm
    | pass hp hpass =>
      have hstop := Verdict.isValue_of_escapes hpass
      exact attains_of_agrees (.stop hp hstop rfl) (.to_outward u hstop) rfl
  refined := by
    intro verdict k u hc
    cases hc with
    | next hp hj =>
      obtain ⟨rfl, rfl, rfl⟩ := hj
      exact attains_of_cost (.success hp) rfl
    | @stop verdict _ _ _ hp hstop hout =>
      subst hout
      cases verdict with
      | value v => cases hstop
      | failure fault label pending => exact absurd hp hcalm
      | unknown typeName pending => exact attains_of_agrees (.pass hp rfl) (.from_outward u rfl) rfl
      | interrupt fault => exact attains_of_agrees (.pass hp rfl) (.from_outward u rfl) rfl

end Conduct

/-! ### Functions on outcomes -/

namespace Machine

/-- **A function that unwraps outcomes:** it gives the value of a success, raises the fault of a failure,
and does nothing else. -/
structure Unwraps (h : Host) (f : Value) : Prop where
  success : ∀ v w, h.call f [.success v] [] w = .ok v w
  failure : ∀ fault w, h.call f [.failure (.fault fault)] [] w = .error (.raised fault) w

/-- A function that makes a success of a value, and does nothing else. -/
def Wraps (h : Host) (f : Value) : Prop := ∀ v w, h.call f [v] [] w = .ok (.success v) w

/-- A node that maps a function over the result of another, under a name with a text. -/
def Maps (h : Host) (n f r : Value) : Prop :=
  ∃ i j, r = .node i (.flatMap n (.callback j (.mapWith f))) ∧
    Nameable h (.callback j (.mapWith f))

/-- What a node fails in has a label with a text. -/
def Labelled (h : Host) (m : Value) : Prop :=
  ∀ ⦃w fault label pending k u⦄, Evaluates h m w (.failure fault label pending) k u →
    ∃ text, u.str? label = .ok text

/-- The library's mappings are some. -/
theorem maps_map (h : Host) {n f r : Value} (hr : Graph.map n f = .ok r) : Maps h n f r := by
  unfold Graph.map at hr
  split at hr
  · cases hr
    exact ⟨0, 0, rfl, nameable_of_unseen _ rfl⟩
  · cases hr

end Machine

section outcomes

variable {h : Host} {m n f r v v' : Value} {w u : World} {fault : Fault Value}

/-- A mapping gives the value that its function gives. -/
theorem called_mapWith (j : Nat) (hf : h.call f [v] [] w = .ok v' w) :
    Called h (.callback j (.mapWith f)) v w = Conduct.Just (.value v') w := by
  have hinvoke : h.invoke (.callback j (.mapWith f)) [v] w = .ok (.done v') w := Eff.bind_of_ok hf
  rw [called_of_node hinvoke rfl]
  exact evaluates_done h 0 v' w

/-- A mapping fails with what its function raises. -/
theorem exists_called_mapWith {j : Nat} (hname : Nameable h (.callback j (.mapWith f)))
    (hfault : fault.kind.isFailure = true) (hf : h.call f [v] [] w = .error (.raised fault) w) :
    ∃ name text, w.str? name = .ok text ∧
      Called h (.callback j (.mapWith f)) v w = Conduct.Just (.failure fault name 0) w := by
  have hinvoke : h.invoke (.callback j (.mapWith f)) [v] w = .error (.raised fault) w :=
    Eff.bind_of_error hf
  have happlied := applied_of_raised hinvoke
  obtain ⟨text, htext⟩ := hname _ _ _ _ happlied
  refine ⟨_, text, htext, ?_⟩
  rw [called_of_mishap happlied, Verdict.ofMishap_of_failure hfault]

/-- **An attempt comes to exactly what its source is reified to.** -/
theorem Machine.Attempts.exists_evaluates_iff (hn : Attempts n m) (w : World) {verdict : Verdict} :
    (∃ k, Evaluates h n w verdict k u) ↔ Conduct.Reified (Evaluates h m w) verdict u := by
  rw [hn.evaluates_eq]
  exact Conduct.exists_guard_chain_iff _

/-- An attempt never fails. -/
theorem Machine.Attempts.not_failure (hn : Attempts n m) {label : Value} {pending : Nat} {k : Counters} :
    ¬ Evaluates h n w (.failure fault label pending) k u :=
  fun he => ((hn.exists_evaluates_iff w).mp ⟨k, he⟩).not_failure

/-- A node that is made to fail has a label with a text. -/
theorem Machine.Fails.labelled (hm : Fails m fault) (h : Host) : Labelled h m := by
  intro w fault' label pending k u he
  obtain ⟨name, hmatch⟩ := hm.exists_matches h w
  obtain ⟨verdict, k', u', ⟨rfl, -, -⟩, hagrees, -⟩ := hmatch.refines he
  cases hagrees with
  | failure _ _ _ hlabel =>
    rcases hlabel with rfl | ⟨htext, -⟩
    · exact ⟨name, rfl⟩
    · exact htext

end outcomes

/-! ### The laws -/

section laws

variable {h : Host} (hh : h.Deaf) {settings : Settings} (hp : settings.Plain) {m n n' f r : Value}
include hh hp

/-- **An attempt that is unwrapped** behaves as its source. -/
theorem behaveAlike_unwrap_attempt (hn : Attempts n m) (hr : Maps h n f r) (hf : Unwraps h f)
    (hm : m.isNode = true) (hlabel : Labelled h m) : BehaveAlike h settings r m := by
  obtain ⟨i, j, rfl, hname⟩ := hr
  refine Conduct.behaveAlike_of_matches hh hp rfl hm fun w => ?_
  rw [evaluates_flatMap]
  have hattempt := (hn.matches_attempted h w).chain
    fun {v} _ _ _ _ _ _ hw => called_matches hh (.callback j (.mapWith f)) v hw
  refine hattempt.trans (Conduct.chain_attempted_matches (fun he => hlabel he) (fun v w => ?_) ?_)
  · exact called_mapWith j (hf.success v w)
  · exact fun he w => exists_called_mapWith hname he.isFailure (hf.failure _ w)

/-- **An attempt at an attempt** behaves as the attempt with a success around its outcome. -/
theorem behaveAlike_attempt_attempt (hn : Attempts n m) (hn' : Attempts n' n) (hr : Maps h n f r)
    (hf : Wraps h f) : BehaveAlike h settings n' r := by
  obtain ⟨i, j, rfl, -⟩ := hr
  have hnode : n'.isNode = true := by
    obtain ⟨i, j, k, l, rfl⟩ := hn'
    rfl
  refine Conduct.behaveAlike_of_matches hh hp hnode rfl fun w => ?_
  have hcalled : Called h (.callback j (.mapWith f)) = fun v w => Conduct.Just (.value (.success v)) w :=
    funext fun v => funext fun w => called_mapWith j (hf v w)
  rw [evaluates_flatMap, hcalled]
  exact (hn'.matches_attempted h w).trans (Conduct.attempted_matches_chain hn.not_failure)

end laws

/-- **The laws of attempts.**  Over a host that heeds no messages, and without a limit on the stack:

- from every world an attempt comes to exactly what its source is reified to, a success of the value or a
  failure with the fault, except for what passes all guards, and the machine arrives there above every
  stack;
- an attempt that is unwrapped behaves as its source in every context, and as a root that can be described;
- an attempt at an attempt behaves so as the attempt with a success around its outcome.

The source has to be one whose failures have labels with texts, for one that is refused a text is not
caught, but the refusal is raised past all guards in its place. -/
theorem attempt_laws {h : Host} (hh : h.Deaf) {settings : Settings} (hp : settings.Plain) :
    (∀ n m, Attempts n m → ∀ w verdict u,
      ((∃ k, Evaluates h n w verdict k u) ↔ Conduct.Reified (Evaluates h m w) verdict u) ∧
      (Conduct.Reified (Evaluates h m w) verdict u → ∀ (B : Stack) (c : Counters),
        B.depth ≤ c.maxStackDepth →
          ∃ c', Arrives h settings (⟨n, B, c⟩, w) verdict B c' u)) ∧
    (∀ n m f r, Attempts n m → Maps h n f r → Unwraps h f → m.isNode = true → Labelled h m →
      BehaveAlike h settings r m) ∧
    ∀ n n' m f r, Attempts n m → Attempts n' n → Maps h n f r → Wraps h f →
      BehaveAlike h settings n' r := by
  refine ⟨fun n m hn w verdict u => ⟨hn.exists_evaluates_iff w, fun hreified B c hdepth => ?_⟩,
    fun n m f r hn hr hf hm hlabel => ?_, fun n n' m f r hn hn' hr hf => ?_⟩
  · obtain ⟨k, he⟩ := (hn.exists_evaluates_iff w).mpr hreified
    exact ⟨_, he.arrives hp B c hdepth⟩
  · exact behaveAlike_unwrap_attempt hh hp hn hr hf hm hlabel
  · exact behaveAlike_attempt_attempt hh hp hn hn' hr hf

/-- The host with two functions of scripts: a closure that unwraps outcomes, and the class of successes. -/
def Host.ofOutcomes : Host :=
  { Host.spent with
    call := fun f args _ =>
      match f, args with
      | .closure _, [.ok _ v] => pure v
      | .closure _, [.err _ (.fault fault)] => Eff.raise fault
      | .blueprint .ok, [v] => pure (.success v)
      | _, _ => Eff.exhausted }

theorem Host.deaf_ofOutcomes : Host.ofOutcomes.Deaf where
  call f args keywords := by
    unfold Host.ofOutcomes
    simp only
    split
    · exact .pure _
    · exact .raise _
    · exact .pure _
    · exact .exhausted
  read := Host.deaf_spent.read
  openIterator := Host.deaf_spent.openIterator
  pull := Host.deaf_spent.pull
  send := Host.deaf_spent.send
  close := Host.deaf_spent.close

/-- The laws for a node that fails, and for a value that looks like the outcome of one. -/
theorem attempt_laws_fail :
    let settings := Script.settingsOf Script.SessionInput.recorded .none (.bool false)
    let fault := Fault.ofText "no"
    let outcome := Value.failure (.fault fault)
    let node := Graph.action (.raiseFault (.fault fault)) "fail(ValueError)"
    let unwrap := Value.closure ⟨0, none, ["r"], .expr (.var "r"), []⟩
    Host.ofOutcomes.Deaf ∧ settings.Plain ∧
      (∃ k, Evaluates .ofOutcomes (Graph.attempt (.done outcome)) Script.SessionInput.recorded
        (.value (.success outcome)) k Script.SessionInput.recorded) ∧
      BehaveAlike .ofOutcomes settings (.sequenced (Graph.attempt node) (.mapWith unwrap)) node ∧
      BehaveAlike .ofOutcomes settings (Graph.attempt (Graph.attempt node))
        (.sequenced (Graph.attempt node) (.mapWith (.blueprint .ok))) := by
  intro settings fault outcome node unwrap
  have hp : settings.Plain := Settings.plain_settingsOf _
  obtain ⟨hreified, hunwrap, htwice⟩ := attempt_laws Host.deaf_ofOutcomes hp
  have hnode : Fails node fault := fails_of_fail rfl
  refine ⟨Host.deaf_ofOutcomes, hp, ?_, ?_, ?_⟩
  · exact ((hreified _ _ (attempts_attempt _) _ _ _).1).mpr (.success .done)
  · exact hunwrap _ node unwrap _ (attempts_attempt node) (maps_map _ rfl)
      ⟨fun v w => rfl, fun e w => rfl⟩ rfl (hnode.labelled _)
  · exact htwice _ _ node (.blueprint .ok) _ (attempts_attempt node) (attempts_attempt _)
      (maps_map _ rfl) fun v w => rfl

end EffectGraph
