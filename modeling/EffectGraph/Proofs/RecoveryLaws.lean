import EffectGraph.Proofs.MonadLaws

/-!
# The laws of recovery

A guarded node whose source is finished behaves as its source, and one whose source fails behaves as
the suspended call of its handler.  Guards associate, and a sequence on a guarded node behaves as a
sequence on an attempt that goes on with the value or with the suspended handler (`recovery_laws`).
So a handler's own failure is left to the next guard outside, and what follows a guarded node is never
guarded by it.

Everything rests on one law of conducts: a guard attempts its source, and then either gives the value
back or goes on with the handler (`Conduct.guard_matches_attempted`).
-/

namespace EffectGraph

open Machine

/-! ### Guards -/

namespace Conduct

/-- A guard passes a value that is there at once. -/
theorem guard_just_value (v : Value) (w : World) (H : Fault Value → World → Conduct) :
    (Guard (Just (.value v) w) H).Matches (Just (.value v) w) where
  refines := by
    intro verdict k u hg
    cases hg with
    | value hfirst =>
      obtain ⟨hv, rfl, rfl⟩ := hfirst
      cases hv
      exact attains_of_cost ⟨rfl, rfl, rfl⟩ rfl
    | rescue hfirst => cases hfirst.1
    | refused hfirst => cases hfirst.1
    | pass hfirst hpass =>
      obtain ⟨rfl, -⟩ := hfirst
      cases hpass
  refined := by
    rintro _ _ _ ⟨rfl, rfl, rfl⟩
    exact attains_of_cost (.value ⟨rfl, rfl, rfl⟩) rfl

/-- A guard rescues a failure that is there at once, if its label has a text. -/
theorem guard_just_failure {w : World} {label : Value} {text : String}
    (htext : w.str? label = .ok text) (fault : Fault Value) (pending : Nat)
    {H : Fault Value → World → Conduct}
    (hh : ∀ w', w.Alike w' → (H fault w).Matches (H fault w')) :
    (Guard (Just (.failure fault label pending) w) H).Matches (H fault w) where
  refines := by
    intro verdict k u hg
    cases hg with
    | value hfirst => cases hfirst.1
    | rescue hfirst hnote hrest =>
      obtain ⟨hv, rfl, rfl⟩ := hfirst
      cases hv
      rw [recoveryNote_apply htext] at hnote
      cases hnote
      obtain ⟨verdict', k', u', hrest', ha, hk, hu⟩ := (hh _ (.noted_self _ _)).refined hrest
      exact ⟨verdict', k', u', hrest', ha, hk.trans (Nat.zero_add _).symm, hu⟩
    | refused hfirst hnote =>
      obtain ⟨hv, rfl, rfl⟩ := hfirst
      cases hv
      rw [recoveryNote_apply htext] at hnote
      cases hnote
    | pass hfirst hpass =>
      obtain ⟨rfl, -⟩ := hfirst
      cases hpass
  refined := by
    intro verdict k u hc
    obtain ⟨verdict', k', u', hc', ha, hk, hu⟩ := (hh _ (.noted_self w _)).refines hc
    exact ⟨verdict', _, u', .rescue ⟨rfl, rfl, rfl⟩ (recoveryNote_apply htext fault pending) hc', ha,
      (Nat.zero_add k'.totalEffects).trans hk, hu⟩

/-- **Guards associate:** the handler of the outer one guards that of the inner one. -/
theorem guard_guard (P : Conduct) (H H' : Fault Value → World → Conduct) :
    (Guard (Guard P H) H').Matches (Guard P fun fault w => Guard (H fault w) H') where
  refines := by
    intro verdict k u hg
    cases hg with
    | value hinner =>
      cases hinner with
      | value hp => exact attains_of_cost (.value hp) rfl
      | rescue hp hnote hh => exact attains_of_cost (.rescue hp hnote (.value hh)) rfl
      | pass _ hpass hout => cases Verdict.escapes_of_eq_outward hout hpass
    | rescue hinner hnote' hh' =>
      cases hinner with
      | rescue hp hnote hh =>
        exact attains_of_cost (.rescue hp hnote (.rescue hh hnote' hh')) (Nat.add_assoc _ _ _).symm
      | pass _ hpass hout => cases Verdict.escapes_of_eq_outward hout hpass
    | refused hinner hnote' =>
      cases hinner with
      | rescue hp hnote hh => exact attains_of_cost (.rescue hp hnote (.refused hh hnote')) rfl
      | pass _ hpass hout => cases Verdict.escapes_of_eq_outward hout hpass
    | pass hinner hpass hout =>
      subst hout
      cases hinner with
      | value hp => cases hpass
      | rescue hp hnote hh => exact attains_of_cost (.rescue hp hnote (.pass hh hpass rfl)) rfl
      | refused hp hnote => exact attains_of_cost (.refused hp hnote) rfl
      | pass hp hpass' hout =>
        have hstop := Verdict.isValue_of_escapes hpass
        exact attains_of_agrees (.pass hp hpass' hout) (.from_outward u hstop) rfl
  refined := by
    intro verdict k u hg
    cases hg with
    | value hp => exact attains_of_cost (.value (.value hp)) rfl
    | rescue hp hnote hinner =>
      cases hinner with
      | value hh => exact attains_of_cost (.value (.rescue hp hnote hh)) rfl
      | rescue hh hnote' hh' =>
        exact attains_of_cost (.rescue (.rescue hp hnote hh) hnote' hh') (Nat.add_assoc _ _ _)
      | refused hh hnote' => exact attains_of_cost (.refused (.rescue hp hnote hh) hnote') rfl
      | pass hh hpass hout => exact attains_of_cost (.pass (.rescue hp hnote hh) hpass hout) rfl
    | refused hp hnote => exact attains_of_cost (.pass (.refused hp hnote) rfl rfl) rfl
    | pass hp hpass hout =>
      have hpass' := Verdict.escapes_of_eq_outward hout hpass
      have hstop := Verdict.isValue_of_escapes hpass'
      exact attains_of_agrees (.pass (.pass hp hpass hout) hpass' rfl) (.to_outward u hstop) rfl

/-- **What an attempt comes to:** a value or a failure as the value that says so, once the failure is
noted; and any other verdict. -/
inductive Attempted (P : Conduct) : Conduct where
  | success {v m u} (hp : P (.value v) m u) : Attempted P (.value (.success v)) m u
  | failure {fault label pending m w u} (hp : P (.failure fault label pending) m w)
      (hnote : recoveryNote fault label pending w = .ok () u) :
      Attempted P (.value (.failure (.fault fault))) m u
  | refused {fault label pending refusal m w u} (hp : P (.failure fault label pending) m w)
      (hnote : recoveryNote fault label pending w = .error (.raised refusal) u) :
      Attempted P (.interrupt refusal) m u
  | pass {verdict m u} (hp : P verdict m u) (hpass : verdict.escapes = true) :
      Attempted P verdict m u

/-- How a guard goes on after an attempt: it gives the value back, or rescues the failure. -/
def resolved (H : Fault Value → World → Conduct) (r : Value) (w : World) : Conduct :=
  match r with
  | .ok _ v => Just (.value v) w
  | .err _ (.fault fault) => H fault w
  | _ => fun _ _ _ => False

/-- An attempt is a guard around a sequence: both parts give what has come out as a value. -/
theorem guard_chain_matches_attempted (P : Conduct) :
    (Guard (Chain P fun v w => Just (.value (.success v)) w)
      fun fault w => Just (.value (.failure (.fault fault))) w).Matches (Attempted P) where
  refines := by
    intro verdict k u hg
    cases hg with
    | value hc =>
      cases hc with
      | next hp hj =>
        obtain ⟨hv, rfl, rfl⟩ := hj
        cases hv
        exact attains_of_cost (.success hp) rfl
      | stop _ hstop hout => cases Verdict.isValue_of_eq_outward hout hstop
    | rescue hc hnote hj =>
      obtain ⟨rfl, rfl, rfl⟩ := hj
      cases hc with
      | next _ hv => cases hv.1
      | stop hp _ hout =>
        obtain ⟨pending, rfl, rfl⟩ := Verdict.exists_of_failure_eq_outward hout
        obtain ⟨u', hnote', hu⟩ := exists_recoveryNote_of_ok (.refl _) (.inl rfl) hnote pending
        exact attains_of_alike (.failure hp hnote') hu rfl
    | refused hc hnote =>
      cases hc with
      | next _ hv => cases hv.1
      | stop hp _ hout =>
        obtain ⟨pending, rfl, rfl⟩ := Verdict.exists_of_failure_eq_outward hout
        obtain ⟨u', hnote', hu⟩ := exists_recoveryNote_of_error (.refl _) (.inl rfl) hnote pending
        exact attains_of_alike (.refused hp hnote') hu rfl
    | pass hc hpass hout =>
      subst hout
      have hinner := Verdict.Agrees.from_outward u (Verdict.isValue_of_escapes hpass)
      cases hc with
      | next _ hv =>
        obtain ⟨rfl, -⟩ := hv
        cases hpass
      | stop hp hstop hout =>
        subst hout
        rw [Verdict.escapes_outward] at hpass
        exact attains_of_agrees (.pass hp hpass) (hinner.trans (.from_outward u hstop)) rfl
  refined := by
    intro verdict k u ha
    cases ha with
    | success hp => exact attains_of_cost (.value (.next hp ⟨rfl, rfl, rfl⟩)) rfl
    | @failure _ _ pending _ _ _ hp hnote =>
      obtain ⟨u', hnote', hu⟩ := exists_recoveryNote_of_ok (.refl _) (.inl rfl) hnote (pending + 1)
      exact attains_of_alike (.rescue (.stop hp rfl rfl) hnote' ⟨rfl, rfl, rfl⟩) hu rfl
    | @refused _ _ pending _ _ _ _ hp hnote =>
      obtain ⟨u', hnote', hu⟩ := exists_recoveryNote_of_error (.refl _) (.inl rfl) hnote (pending + 1)
      exact attains_of_alike (.refused (.stop hp rfl rfl) hnote') hu rfl
    | pass hp hpass =>
      have hstop := Verdict.isValue_of_escapes hpass
      have hpass' := Verdict.escapes_of_eq_outward rfl hpass
      have houter := Verdict.Agrees.to_outward u (Verdict.isValue_of_escapes hpass')
      exact attains_of_agrees (.pass (.stop hp hstop rfl) hpass' rfl)
        ((Verdict.Agrees.to_outward u hstop).trans houter) rfl

/-- **A guard attempts its source and goes on with what has come out.** -/
theorem guard_matches_attempted (P : Conduct) (H : Fault Value → World → Conduct) :
    (Guard P H).Matches (Chain (Attempted P) (resolved H)) where
  refines := by
    intro verdict k u hg
    cases hg with
    | value hp => exact attains_of_cost (.next (.success hp) ⟨rfl, rfl, rfl⟩) rfl
    | rescue hp hnote hh => exact attains_of_cost (.next (.failure hp hnote) hh) rfl
    | refused hp hnote => exact attains_of_cost (.stop (.refused hp hnote) rfl rfl) rfl
    | pass hp hpass hout =>
      have hstop := Verdict.isValue_of_escapes hpass
      exact attains_of_cost (.stop (.pass hp hpass) hstop hout) rfl
  refined := by
    intro verdict k u hc
    cases hc with
    | next ha hr =>
      cases ha with
      | success hp =>
        obtain ⟨rfl, rfl, rfl⟩ := hr
        exact attains_of_cost (.value hp) rfl
      | failure hp hnote => exact attains_of_cost (.rescue hp hnote hr) rfl
      | pass _ hpass => cases hpass
    | stop ha hstop hout =>
      cases ha with
      | success => cases hstop
      | failure => cases hstop
      | refused hp hnote =>
        subst hout
        exact attains_of_cost (.refused hp hnote) rfl
      | pass hp hpass => exact attains_of_cost (.pass hp hpass hout) rfl

end Conduct

/-! ### What the nodes are -/

namespace Machine

/-- **A node defers a call:** it is suspended, and what it calls when it is reached does what the call
does.  The callback around it has a text for a name. -/
def Defers (h : Host) (n f v : Value) : Prop :=
  ∃ i j thunk, n = .node i (.flatMap .unit (.callback j (.suspended (.apply thunk)))) ∧
    Nameable h (.callback j (.suspended (.apply thunk))) ∧
    ∀ w, h.call thunk [] [] w = h.invoke f [v] w

/-- A node that fails with a failure, under some label. -/
def Fails (n : Value) (fault : Fault Value) : Prop :=
  fault.kind.isFailure = true ∧ ∃ i j label, label.isEmpty = false ∧
    n = .node i (.delay (.callback j (.raiseFault (.fault fault))) (.str label))

/-- A node that attempts another. -/
def Attempts (n m : Value) : Prop :=
  ∃ i j k l, n = .node i (.recover (.node j (.flatMap m (.callback k .wrapOk))) (.callback l .wrapErr))

/-- A handler that guards what another one does: it gives the deferred call of `inner`, guarded by
`outer`. -/
def Guards (h : Host) (inner outer both : Value) : Prop :=
  ∀ fault w, ∃ i n, Defers h n inner (.fault fault) ∧
    h.invoke both [.fault fault] w = .ok (.node i (.recover n outer)) w

/-- **A continuation that goes on after an attempt:** with a success it does what `next` does, and for
a failure it gives the deferred call of the handler, followed by `next`. -/
structure Resumes (h : Host) (handler next after : Value) : Prop where
  success : ∀ v w, h.invoke after [.success v] w = h.invoke next [v] w
  failure : ∀ fault w, ∃ i n, Defers h n handler (.fault fault) ∧
    h.invoke after [.failure (.fault fault)] w = .ok (.node i (.flatMap n next)) w

/-- The nodes that the library makes to fail do so, under the label that names the fault. -/
theorem fails_of_fail {fault : Fault Value} {n : Value}
    (hn : Graph.fail (.fault fault) none = .ok n) : Fails n fault := by
  cases hfault : fault.kind.isFailure with
  | true =>
    simp only [Graph.fail, hfault, if_true] at hn
    cases hn
    exact ⟨hfault, 0, 0, "fail(" ++ fault.kind.name ++ ")", by simp, rfl⟩
  | false =>
    simp only [Graph.fail, hfault] at hn
    cases hn

/-- The library's attempts are some. -/
theorem attempts_attempt (m : Value) : Attempts (Graph.attempt m) m := ⟨0, 0, 0, 0, rfl⟩

end Machine

section nodes

variable {h : Host} {n m f v : Value} {fault : Fault Value}

/-- A suspended call comes to what the call comes to. -/
theorem Machine.Defers.matches_called (hn : Defers h n f v) (hf : Nameable h f) (w : World) :
    Conduct.Matches (Evaluates h n w) (Called h f v w) := by
  obtain ⟨i, j, thunk, rfl, hname, hsame⟩ := hn
  rw [evaluates_flatMap, Value.unit, evaluates_done]
  refine (Conduct.chain_just_value _ _ _).trans ?_
  exact called_renamed (hsame w).symm hname hf

theorem Machine.Defers.isNode (hn : Defers h n f v) : n.isNode = true := by
  obtain ⟨i, j, thunk, rfl, -⟩ := hn
  rfl

/-- A node that fails comes to its failure at once. -/
theorem Machine.Fails.exists_matches (hn : Fails n fault) (h : Host) (w : World) : ∃ label : String,
    Conduct.Matches (Evaluates h n w) (Conduct.Just (.failure fault (.str label) 0) w) := by
  obtain ⟨hfault, i, j, label, hlabel, rfl⟩ := hn
  refine ⟨label, ?_⟩
  rw [← Verdict.ofMishap_of_failure (m := (fault, .str label)) hfault]
  exact evaluates_raise_matches h i j fault hlabel w

/-- The conduct of an attempt is a guard around a sequence. -/
theorem Machine.Attempts.evaluates_eq (hn : Attempts n m) (h : Host) (w : World) :
    Evaluates h n w = Conduct.Guard
      (Conduct.Chain (Evaluates h m w) fun v w => Conduct.Just (.value (.success v)) w)
      fun fault w => Conduct.Just (.value (.failure (.fault fault))) w := by
  obtain ⟨i, j, k, l, rfl⟩ := hn
  have hok : Called h (.callback k .wrapOk) = fun v w => Conduct.Just (.value (.success v)) w :=
    funext fun v => funext fun w => (called_of_node rfl rfl).trans (evaluates_done h 0 _ w)
  have herr : (fun fault => Called h (.callback l .wrapErr) (.fault fault)) =
      fun fault w => Conduct.Just (.value (.failure (.fault fault))) w :=
    funext fun fault => funext fun w => (called_of_node rfl rfl).trans (evaluates_done h 0 _ w)
  rw [evaluates_recover, evaluates_flatMap, hok, herr]

/-- **An attempt comes to what attempting its source comes to.** -/
theorem Machine.Attempts.matches_attempted (hn : Attempts n m) (h : Host) (w : World) :
    Conduct.Matches (Evaluates h n w) (Conduct.Attempted (Evaluates h m w)) := by
  rw [hn.evaluates_eq]
  exact Conduct.guard_chain_matches_attempted _

end nodes

/-! ### The laws -/

section laws

variable {h : Host} (hh : h.Deaf) {settings : Settings} (hp : settings.Plain)
include hh hp

/-- **What is finished needs no guard.** -/
theorem behaveAlike_recover_done (i j : Nat) (v g : Value) :
    BehaveAlike h settings (.node i (.recover (.node j (.done v)) g)) (.node j (.done v)) := by
  refine Conduct.behaveAlike_of_matches hh hp rfl rfl fun w => ?_
  rw [evaluates_recover, evaluates_done]
  exact Conduct.guard_just_value v w _

/-- **A guarded node that fails behaves as the deferred call of its handler.** -/
theorem behaveAlike_recover_fail (i : Nat) {n s g : Value} {fault : Fault Value}
    (hn : Fails n fault) (hs : Defers h s g (.fault fault)) (hg : Nameable h g) :
    BehaveAlike h settings (.node i (.recover n g)) s := by
  refine Conduct.behaveAlike_of_matches hh hp rfl hs.isNode fun w => ?_
  obtain ⟨label, hfails⟩ := hn.exists_matches h w
  have hheed (e : Fault Value) (w w' : World) (hw : w.Alike w') :
      Conduct.Matches (Called h g (.fault e) w) (Called h g (.fault e) w') :=
    called_matches hh g (.fault e) hw
  have htext : w.str? (.str label) = .ok label := rfl
  rw [evaluates_recover]
  refine ((hfails.guard hheed).trans ?_).trans (hs.matches_called hg w).symm
  exact Conduct.guard_just_failure htext fault 0 fun w' hw => hheed fault w w' hw

/-- **Guards associate:** the outer handler guards the deferred call of the inner one. -/
theorem behaveAlike_recover_recover (i j i' : Nat) (m : Value) {inner outer both : Value}
    (hboth : Guards h inner outer both) (hinner : Nameable h inner) :
    BehaveAlike h settings (.node i (.recover (.node j (.recover m inner)) outer))
      (.node i' (.recover m both)) := by
  refine Conduct.behaveAlike_of_matches hh hp rfl rfl fun w => ?_
  rw [evaluates_recover, evaluates_recover, evaluates_recover]
  refine (Conduct.guard_guard _ _ _).trans (.guard (.refl _) fun fault w w' hw => ?_)
  refine .trans ?_ (called_matches hh both (.fault fault) hw)
  obtain ⟨k, n, hn, hinvoke⟩ := hboth fault w
  rw [called_of_node hinvoke rfl, evaluates_recover]
  exact .guard (hn.matches_called hinner w).symm fun e _ _ hw => called_matches hh outer (.fault e) hw

/-- **What follows a guarded node follows an attempt,** with the value or with the deferred call of the
handler. -/
theorem behaveAlike_flatMap_recover (i j i' : Nat) (m : Value) {n g k r : Value} (hn : Attempts n m)
    (hr : Resumes h g k r) (hg : Nameable h g) (hk : Nameable h k) (hrn : Nameable h r) :
    BehaveAlike h settings (.node i (.flatMap (.node j (.recover m g)) k))
      (.node i' (.flatMap n r)) := by
  refine Conduct.behaveAlike_of_matches hh hp rfl rfl fun w => ?_
  rw [evaluates_flatMap, evaluates_recover, evaluates_flatMap]
  have hguard := (Conduct.guard_matches_attempted (Evaluates h m w)
    fun fault => Called h g (.fault fault)).chain fun {v} _ _ _ _ _ _ hw => called_matches hh k v hw
  have hattempt := (hn.matches_attempted h w).chain
    fun {v} _ _ _ _ _ _ hw => called_matches hh r v hw
  have hleft := hguard.trans (Conduct.chain_chain _ _ _)
  refine (hleft.trans (.chain (.refl _) fun ha _ hw => ?_)).trans hattempt.symm
  refine .trans ?_ (called_matches hh r _ hw)
  cases ha with
  | @success v =>
    exact (Conduct.chain_just_value v _ _).trans (called_renamed (hr.success v _) hk hrn)
  | @failure fault =>
    obtain ⟨l, s, hs, hinvoke⟩ := hr.failure fault _
    rw [called_of_node hinvoke rfl, evaluates_flatMap]
    exact (hs.matches_called hg _).symm.chain fun _ _ hw => called_matches hh k _ hw
  | pass _ hpass => cases hpass

end laws

/-- **The laws of recovery.**  Over a host that heeds no messages, and without a limit on the stack, in
every context and as roots that can be described: a guarded node whose source is finished behaves as its
source; one whose source fails behaves as the deferred call of its handler; a guard around a guarded node
behaves as one whose handler guards the deferred call of the inner handler; and what follows a guarded
node behaves as what follows an attempt, with the value or with the deferred call of the handler.  The
continuations that are replaced by others need names with texts where they fail. -/
theorem recovery_laws {h : Host} (hh : h.Deaf) {settings : Settings} (hp : settings.Plain) :
    (∀ (i j : Nat) (v g : Value),
      BehaveAlike h settings (.node i (.recover (.node j (.done v)) g)) (.node j (.done v))) ∧
    (∀ (i : Nat) (n s g : Value) (fault : Fault Value), Fails n fault → Defers h s g (.fault fault) →
      Nameable h g → BehaveAlike h settings (.node i (.recover n g)) s) ∧
    (∀ (i j i' : Nat) (m inner outer both : Value), Guards h inner outer both → Nameable h inner →
      BehaveAlike h settings (.node i (.recover (.node j (.recover m inner)) outer))
        (.node i' (.recover m both))) ∧
    ∀ (i j i' : Nat) (m n g k r : Value), Attempts n m → Resumes h g k r → Nameable h g →
      Nameable h k → Nameable h r →
      BehaveAlike h settings (.node i (.flatMap (.node j (.recover m g)) k))
        (.node i' (.flatMap n r)) := by
  refine ⟨fun i j v g => ?_, fun i n s g fault hn hs hg => ?_,
    fun i j i' m inner outer both hboth hinner => ?_, fun i j i' m n g k r hn hr hg hk hrn => ?_⟩
  · exact behaveAlike_recover_done hh hp i j v g
  · exact behaveAlike_recover_fail hh hp i hn hs hg
  · exact behaveAlike_recover_recover hh hp i j i' m hboth hinner
  · exact behaveAlike_flatMap_recover hh hp i j i' m hn hr hg hk hrn

/-- A thunk that calls the handler which gives a failure as a value. -/
def giveFailure (error : Value) : Value := .preset 0 (.ofCallback .wrapErr) [error] []

/-- The host with one function of scripts.  On a fault it gives the deferred call of the handler that
gives a failure as a value, guarded by the same handler; after an attempt it gives a success as it is,
and for a failure the deferred call of the handler, followed by giving the value as a success. -/
def Host.ofHandler : Host :=
  { Host.spent with
    call := fun f args _ =>
      match f, args with
      | .preset _ target given _, [] => Host.spent.invoke target given
      | .closure _, [.fault fault] =>
        pure (.ofNode (.recover (.suspend (.apply (giveFailure (.fault fault))))
          (.ofCallback .wrapErr)))
      | .closure _, [.ok _ v] => pure (.done (.success v))
      | .closure _, [.err _ error] =>
        pure (.sequenced (.suspend (.apply (giveFailure error))) .wrapOk)
      | _, _ => Eff.exhausted }

theorem Host.deaf_ofHandler : Host.ofHandler.Deaf where
  call f args keywords := by
    unfold Host.ofHandler
    simp only
    split
    · exact Host.deaf_spent.invoke _ _
    · exact .pure _
    · exact .pure _
    · exact .pure _
    · exact .exhausted
  read := Host.deaf_spent.read
  openIterator := Host.deaf_spent.openIterator
  pull := Host.deaf_spent.pull
  send := Host.deaf_spent.send
  close := Host.deaf_spent.close

/-- The laws for a node that fails, and handlers that give the failure as a value. -/
theorem recovery_laws_fail :
    let settings := Script.settingsOf Script.SessionInput.recorded .none (.bool false)
    let fault := Fault.ofText "no"
    let node := Graph.action (.raiseFault (.fault fault)) "fail(ValueError)"
    let handler := Value.ofCallback .wrapErr
    let function := Value.closure ⟨0, none, ["x"], .expr (.var "x"), []⟩
    Host.ofHandler.Deaf ∧ settings.Plain ∧ Graph.fail (.fault fault) none = .ok node ∧
      BehaveAlike .ofHandler settings (.ofNode (.recover (.done .none) handler)) (.done .none) ∧
      BehaveAlike .ofHandler settings (.ofNode (.recover node handler))
        (.suspend (.apply (giveFailure (.fault fault)))) ∧
      BehaveAlike .ofHandler settings
        (.ofNode (.recover (.ofNode (.recover node handler)) handler))
        (.ofNode (.recover node function)) ∧
      BehaveAlike .ofHandler settings (.sequenced (.ofNode (.recover node handler)) .wrapOk)
        (.ofNode (.flatMap (Graph.attempt node) function)) := by
  intro settings fault node handler function
  have hp : settings.Plain := Settings.plain_settingsOf _
  obtain ⟨hdone, hfail, hguards, hattempt⟩ := recovery_laws Host.deaf_ofHandler hp
  have hnode : Graph.fail (.fault fault) none = .ok node := rfl
  have hdefers (e : Fault Value) :
      Defers .ofHandler (.suspend (.apply (giveFailure (.fault e)))) handler (.fault e) :=
    ⟨0, 0, _, rfl, nameable_of_unseen _ rfl, fun w => rfl⟩
  have hhandler : Nameable .ofHandler handler := nameable_of_unseen _ rfl
  have hfunction : Nameable .ofHandler function := nameable_of_unseen _ rfl
  have hboth : Guards .ofHandler handler handler function := fun e w => ⟨0, _, hdefers e, rfl⟩
  have hresumes : Resumes .ofHandler handler (.ofCallback .wrapOk) function :=
    ⟨fun v w => rfl, fun e w => ⟨0, _, hdefers e, rfl⟩⟩
  refine ⟨Host.deaf_ofHandler, hp, hnode, hdone 0 0 .none handler, ?_, ?_, ?_⟩
  · exact hfail 0 node _ handler fault (fails_of_fail hnode) (hdefers fault) hhandler
  · exact hguards 0 0 0 node handler handler function hboth hhandler
  · exact hattempt 0 0 0 node _ handler _ function (attempts_attempt node) hresumes hhandler
      (nameable_of_unseen _ rfl) hfunction

end EffectGraph
