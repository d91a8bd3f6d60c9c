import EffectGraph.Proofs.Context
import EffectGraph.Proofs.Correspondence

/-!
# Monad laws

Finished nodes and sequences obey the laws of a monad in every context: under any frames, and as the
root of a run (`monad_laws`).  As conducts the laws hold for chains (`Conduct.chain_just_value`,
`Conduct.chain_just`, `Conduct.chain_chain`); what is left is what calling a continuation stands for.

A call is no node.  That a sequence on a finished node behaves as the call of its continuation says
that it behaves as the node that the call gives, from the world that the call leaves; or, if the call
raises a fault, as an action that raises it there; and if the call never returns, that it never ends.

Continuations count as functions from a value and a world: what they give, and what they do to the
world.  So a continuation that only builds a node changes nothing (`IsUnit`, `Composes`); a host that
writes down in the world which nodes there are makes it one that does.
-/

namespace EffectGraph

open Machine

/-! ### Chains -/

namespace Conduct

/-- What follows a value that is there at once is the rest. -/
theorem chain_just_value (v : Value) (w : World) (K : Value → World → Conduct) :
    (Chain (Just (.value v) w) K).Matches (K v w) := (same_chain_just_value v w K).to_matches

/-- Nothing follows what stops at once. -/
theorem chain_just_stop {verdict : Verdict} (hstop : verdict.isValue = false) (w : World)
    (K : Value → World → Conduct) : (Chain (Just verdict w) K).Matches (Just verdict w) :=
  (same_chain_just_stop hstop w K).to_matches

/-- Giving the value back makes no difference. -/
theorem chain_just (P : Conduct) : (Chain P fun v w => Just (.value v) w).Matches P :=
  (same_chain_just P).to_matches

/-- **Chains associate.** -/
theorem chain_chain (P : Conduct) (K L : Value → World → Conduct) :
    (Chain (Chain P K) L).Matches (Chain P fun v w => Chain (K v w) L) :=
  (same_chain_chain P K L).to_matches

end Conduct

/-! ### Continuations -/

namespace Machine

/-- **What a call stands for,** as a program in a world: the node that it gives, in the world that it
leaves; or, if it raises a fault, an action that raises it there, under any label. -/
inductive StandsFor (h : Host) (f v : Value) (w : World) : Value × World → Prop where
  | node {n w'} (hf : h.invoke f [v] w = .ok n w') (hn : n.isNode = true) : StandsFor h f v w (n, w')
  | raised {fault label w'} (hf : h.invoke f [v] w = .error (.raised fault) w')
      (hlabel : label.isEmpty = false) :
      StandsFor h f v w (Graph.action (.raiseFault (.fault fault)) label, w')

/-- A continuation that gives back its value in a finished node, and does nothing else. -/
def IsUnit (h : Host) (f : Value) : Prop :=
  ∀ v w, ∃ i, h.invoke f [v] w = .ok (.node i (.done v)) w

/-- **A continuation composes two others:** it calls the first one, and puts the second one behind the
node that it gives; it raises what the first one raises, and never returns where that does not. -/
structure Composes (h : Host) (f g k : Value) : Prop where
  node : ∀ v w n w', h.invoke f [v] w = .ok n w' →
    n.isNode = true ∧ ∃ i, h.invoke k [v] w = .ok (.node i (.flatMap n g)) w'
  stopped : ∀ v w signal w', h.invoke f [v] w = .error signal w' → h.invoke k [v] w = .error signal w'

end Machine

section continuations

variable {h : Host} {f g k u v : Value} {w : World}

/-- What calls a unit comes to its value at once. -/
theorem called_unit (hu : IsUnit h u) (v : Value) (w : World) :
    Called h u v w = Conduct.Just (.value v) w := by
  obtain ⟨i, hinvoke⟩ := hu v w
  rw [called_of_node hinvoke rfl, evaluates_done]

/-- **A composed continuation comes to what the two come to,** one after the other. -/
theorem called_composed (hk : Composes h f g k) (hf : Nameable h f) (hkn : Nameable h k) (v : Value)
    (w : World) : Conduct.Matches (Called h k v w) (Conduct.Chain (Called h f v w) (Called h g)) := by
  cases hinvoke : h.invoke f [v] w with
  | ok n u =>
    obtain ⟨hn, i, hcomposed⟩ := hk.node v w n u hinvoke
    rw [called_of_node hcomposed rfl, called_of_node hinvoke hn, evaluates_flatMap]
    exact .refl _
  | error signal u =>
    have hstopped := hk.stopped v w signal u hinvoke
    cases signal with
    | raised fault =>
      have happlied := applied_of_raised hinvoke
      have happlied' := applied_of_raised hstopped
      have hnames : u.Tells (u.callableName k) (u.callableName f) :=
        .inr ⟨hkn v w _ u happlied', hf v w _ u happlied⟩
      rw [called_of_mishap happlied, called_of_mishap happlied']
      refine (Conduct.Matches.just (Verdict.agrees_ofMishap fault hnames) (.refl u)).trans ?_
      exact (Conduct.chain_just_stop (Verdict.isValue_ofMishap _) u _).symm
    | exhausted =>
      constructor
      · exact fun _ _ _ hc => absurd hc (not_called_of_exhausted hstopped)
      · intro verdict cost u' hc
        cases hc with
        | next hc => exact absurd hc (not_called_of_exhausted hinvoke)
        | stop hc => exact absurd hc (not_called_of_exhausted hinvoke)

/-- What a call stands for is a node. -/
theorem Machine.StandsFor.isNode {p : Value × World} (hp : StandsFor h f v w p) :
    p.1.isNode = true := by
  cases hp with
  | node _ hn => exact hn
  | raised => rfl

/-- A call comes to what it stands for. -/
theorem Machine.StandsFor.matches_called {p : Value × World} (hf : Nameable h f)
    (hp : StandsFor h f v w p) : Conduct.Matches (Called h f v w) (Evaluates h p.1 p.2) := by
  cases hp with
  | node hinvoke hn =>
    rw [called_of_node hinvoke hn]
    exact .refl _
  | @raised fault label w' hinvoke hlabel =>
    have happlied := applied_of_raised hinvoke
    have hnames : w'.Tells (w'.callableName f) (.str label) :=
      .inr ⟨hf v w _ w' happlied, label, rfl⟩
    rw [called_of_mishap happlied]
    refine (Conduct.Matches.just (Verdict.agrees_ofMishap fault hnames) (.refl w')).trans ?_
    exact (evaluates_raise_matches h 0 0 fault hlabel w').symm

end continuations

/-! ### The laws -/

namespace Machine

/-- **A node behaves as a call from a world:** as what the call stands for, in every context and as the
root of a run; and it never ends if the call never returns.  From a root the call is made once the
clock was read and the node described, so it has to leave the world as one in which a run is opened. -/
structure BehavesAsCall (h : Host) (settings : Settings) (n f v : Value) (w : World) : Prop where
  inContext : ∀ p, StandsFor h f v w p → Equivalent h settings (n, w) p
  diverges : ∀ w', h.invoke f [v] w = .error .exhausted w' → Diverges h settings (n, w)
  atRoot : ∀ n' w' u description description', w.ticked.describe? n = .ok description →
    w'.ticked.describe? n' = .ok description' → StandsFor h f v (w.opened description) (n', u) →
    u.Alike (w'.opened description') →
    ReportsAs h settings (n, w) (n', w') ∧ ReportsAs h settings (n', w') (n, w)

end Machine

section laws

variable {h : Host} (hh : h.Deaf) {settings : Settings} (hp : settings.Plain)
include hh hp

/-- **Left identity:** a sequence on a finished node behaves as the call of its continuation. -/
theorem behavesAsCall_flatMap_done (i j : Nat) {f : Value} (hf : Nameable h f) (a : Value)
    (w : World) : BehavesAsCall h settings (.node i (.flatMap (.node j (.done a)) f)) f a w := by
  have hcalled (w : World) : Conduct.Matches
      (Evaluates h (.node i (.flatMap (.node j (.done a)) f)) w) (Called h f a w) := by
    rw [evaluates_flatMap, evaluates_done]
    exact Conduct.chain_just_value a w (Called h f)
  constructor
  · intro p hstands
    exact ((hcalled w).trans (hstands.matches_called hf)).equivalent hh hp
  · intro w' hinvoke
    refine diverges_of_not_evaluates hh hp fun verdict k u he => ?_
    obtain ⟨_, _, _, hc, -⟩ := (hcalled w).refines he
    exact not_called_of_exhausted hinvoke hc
  · intro n' w' u description description' hd hd' hstands hu
    have hn' : n'.isNode = true := hstands.isNode
    have hmatch := ((hcalled (w.opened description)).trans (hstands.matches_called hf)).trans
      (evaluates_matches hh n' hu)
    exact hmatch.reportsAs hh hp rfl hn' hd hd'

/-- **Right identity:** a sequence whose continuation is a unit behaves as its source. -/
theorem behaveAlike_flatMap_unit (i : Nat) {m u : Value} (hm : m.isNode = true) (hu : IsUnit h u) :
    BehaveAlike h settings (.node i (.flatMap m u)) m := by
  refine Conduct.behaveAlike_of_matches hh hp rfl hm fun w => ?_
  have hcalled : Called h u = fun v w => Conduct.Just (.value v) w :=
    funext fun v => funext fun w => called_unit hu v w
  rw [evaluates_flatMap, hcalled]
  exact Conduct.chain_just _

/-- **Associativity:** a sequence on a sequence behaves as one sequence with the composed
continuation. -/
theorem behaveAlike_flatMap_flatMap (i j i' : Nat) (m : Value) {f g k : Value}
    (hk : Composes h f g k) (hf : Nameable h f) (hkn : Nameable h k) :
    BehaveAlike h settings (.node i (.flatMap (.node j (.flatMap m f)) g))
      (.node i' (.flatMap m k)) := by
  refine Conduct.behaveAlike_of_matches hh hp rfl rfl fun w => ?_
  rw [evaluates_flatMap, evaluates_flatMap, evaluates_flatMap]
  refine (Conduct.chain_chain _ _ _).trans (.chain (.refl _) fun _ _ hw => ?_)
  exact (called_composed hk hf hkn _ _).symm.trans (called_matches hh k _ hw)

end laws

/-- **The monad laws.**  Over a host that heeds no messages, and without a limit on the stack, a
sequence on a finished node behaves as the call of its continuation, a sequence whose continuation is a
unit behaves as its source, and a sequence on a sequence behaves as one sequence with the composed
continuation: in every context they come to the same value, fault, abort or interrupt, after as many
actions, in worlds that are alike, or never end; and as roots, if they can be described, they report the
same.  The continuations that are replaced by others need names with texts where they fail, for a name
that is refused one is raised in the place of the failure. -/
theorem monad_laws {h : Host} (hh : h.Deaf) {settings : Settings} (hp : settings.Plain) :
    (∀ (i j : Nat) (a f : Value), Nameable h f → ∀ w,
      BehavesAsCall h settings (.node i (.flatMap (.node j (.done a)) f)) f a w) ∧
    (∀ (i : Nat) (m u : Value), m.isNode = true → IsUnit h u →
      BehaveAlike h settings (.node i (.flatMap m u)) m) ∧
    ∀ (i j i' : Nat) (m f g k : Value), Composes h f g k → Nameable h f → Nameable h k →
      BehaveAlike h settings (.node i (.flatMap (.node j (.flatMap m f)) g))
        (.node i' (.flatMap m k)) := by
  refine ⟨fun i j a f hf w => ?_, fun i m u hm hu => ?_, fun i j i' m f g k hk hf hkn => ?_⟩
  · exact behavesAsCall_flatMap_done hh hp i j hf a w
  · exact behaveAlike_flatMap_unit hh hp i hm hu
  · exact behaveAlike_flatMap_flatMap hh hp i j i' m hk hf hkn

/-- The host whose scripts have nothing to call but the function that makes finished nodes. -/
def Host.ofUnit : Host :=
  { Host.spent with
    call := fun f args _ =>
      match f, args with
      | .operation .unit, [v] => pure (.done v)
      | _, _ => Eff.exhausted }

theorem Host.deaf_ofUnit : Host.ofUnit.Deaf where
  call f args keywords := by
    unfold Host.ofUnit
    simp only
    split
    · exact .pure _
    · exact .exhausted
  read := Host.deaf_spent.read
  openIterator := Host.deaf_spent.openIterator
  pull := Host.deaf_spent.pull
  send := Host.deaf_spent.send
  close := Host.deaf_spent.close

/-- The laws for a node that makes a cell, followed by a loop. -/
theorem monad_laws_loop :
    let settings := Script.settingsOf Script.SessionInput.recorded .none (.bool false)
    let cell := Graph.newCell (.int 1)
    let stop := Value.done (.bool false)
    let alone := Value.sequenced cell (.thenRun stop)
    Host.ofUnit.Deaf ∧ settings.Plain ∧
      BehavesAsCall .ofUnit settings (.sequenced (.done .none) (.thenRun cell))
        (.ofCallback (.thenRun cell)) .none Script.SessionInput.recorded ∧
      BehaveAlike .ofUnit settings (.ofNode (.flatMap cell (.operation .unit))) cell ∧
      BehaveAlike .ofUnit settings (.sequenced alone (.whileTest stop cell))
        (.sequenced cell (.suspended (.whileLoop stop cell))) := by
  intro settings cell stop alone
  have hp : settings.Plain := Settings.plain_settingsOf _
  obtain ⟨hleft, hright, hassoc⟩ := monad_laws Host.deaf_ofUnit hp
  have hunit : IsUnit .ofUnit (.operation .unit) := fun v w => ⟨0, rfl⟩
  have hcomposes : Composes .ofUnit (.ofCallback (.thenRun stop))
      (.ofCallback (.whileTest stop cell)) (.ofCallback (.suspended (.whileLoop stop cell))) := by
    constructor
    · intro v w n w' hinvoke
      cases hinvoke
      exact ⟨rfl, 0, rfl⟩
    · intro v w signal w' hinvoke
      cases hinvoke
  refine ⟨Host.deaf_ofUnit, hp, ?_, hright 0 cell _ rfl hunit, ?_⟩
  · exact hleft 0 0 .none _ (nameable_of_unseen _ rfl) _
  · exact hassoc 0 0 0 cell _ _ _ hcomposes (nameable_of_unseen _ rfl) (nameable_of_unseen _ rfl)

end EffectGraph
