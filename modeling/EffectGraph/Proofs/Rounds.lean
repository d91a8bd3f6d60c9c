import EffectGraph.Proofs.Calls

/-!
# Loops in rounds

A loop of the library is a suspended node that builds one round at a time.  A round is over, or it runs
one node, the next part of the loop, and goes on with its value.  `Loop` is the plain description: how
the loop starts and what it does with the value of each part, with the factory and the callbacks that
do the same in a graph.  `Loop.doWhile`, `Loop.whileLoop`, `Loop.forever`, `Loop.fold`,
`Loop.replicate` and `Loop.generate` describe the loops of the library.

Running the node of a loop comes to nothing else than going through its rounds
(`Loop.evaluates_node`): each part is evaluated once, from the world that the call before it has left,
and the first part that gives no value ends the loop as it ends itself.
-/

namespace EffectGraph

open Machine

/-! ### Rounds -/

/-- What a loop does next. -/
inductive Round (σ : Type) where
  /-- It is over and has nothing to give. -/
  | ended
  /-- It is over and gives a result. -/
  | finish (v : Value)
  /-- It runs a node, and goes on from a state with its value. -/
  | run (part : Value) (state : σ)

/-- The node of a round, with the callbacks that go on from each state. -/
def Round.node {σ : Type} (onward : σ → Callback Value) : Round σ → Value
  | ended => .unit
  | finish v => .done v
  | run part state => .sequenced part (onward state)

/-- The node of a round is one. -/
theorem Round.isNode_node {σ : Type} (onward : σ → Callback Value) (r : Round σ) :
    (r.node onward).isNode = true := by
  cases r <;> rfl

/-- **A loop:** how it starts, what it does with the value of each part, and the factory and callbacks
that do the same in a graph. -/
structure Loop (h : Host) where
  /-- Where a loop stands while a part is run. -/
  State : Type
  factory : Factory Value
  onward : State → Callback Value
  start : Eff (Round State)
  next : State → Value → Eff (Round State)
  build_eq : factory.build h = Round.node onward <$> start
  run_eq : ∀ s v, (onward s).run h [v] = Round.node onward <$> next s v

namespace Loop

variable (h : Host)

/-! ### The loops of the library -/

/-- Which of its two parts a conditional loop runs. -/
inductive Half where
  | body
  | condition

/-- A body and then a condition on its result, again while the condition yields true. -/
def doWhile (body condition : Value) : Loop h where
  State := Half
  factory := .doWhile body condition
  onward
    | .body => .doWhileCheck body condition
    | .condition => .doWhileAgain body condition
  start := pure (.run body .body)
  next
    | .body, v => do return .run (← h.call condition [v] []) .condition
    | .condition, again => do return if (← get).isTruthy again then .run body .body else .ended
  build_eq := rfl
  run_eq s v := by
    cases s with
    | body =>
      rw [map_bind]
      rfl
    | condition =>
      rw [map_bind]
      exact bind_congr fun w => by rw [map_pure]; split <;> rfl

/-- A condition, and a body as long as it yields true. -/
def whileLoop (condition body : Value) : Loop h where
  State := Half
  factory := .whileLoop condition body
  onward
    | .body => .whileNext condition body
    | .condition => .whileTest condition body
  start := pure (.run condition .condition)
  next
    | .body, _ => pure (.run condition .condition)
    | .condition, again => do return if (← get).isTruthy again then .run body .body else .ended
  build_eq := rfl
  run_eq s v := by
    cases s with
    | body => rfl
    | condition =>
      rw [map_bind]
      exact bind_congr fun w => by rw [map_pure]; split <;> rfl

/-- A node again and again. -/
def forever (node : Value) : Loop h where
  State := Unit
  factory := .forever node
  onward _ := .foreverNext node
  start := pure (.run node ())
  next _ _ := pure (.run node ())
  build_eq := rfl
  run_eq _ _ := rfl

/-- The next element of an iterator goes into a step; at the end the accumulator is the result. -/
def foldElement (step : FoldStep Value) (iterator accumulator : Value) : Eff (Round Value) := do
  match ← h.pull iterator with
  | none => return .finish accumulator
  | some element => return .run (← step.run h accumulator element) iterator

theorem foldRound_eq (step : FoldStep Value) (iterator accumulator : Value) :
    foldRound h iterator step accumulator =
      Round.node (.foldNext · step) <$> foldElement h step iterator accumulator := by
  rw [foldRound, foldElement, map_bind]
  refine bind_congr fun element => ?_
  cases element with
  | none => rfl
  | some element =>
    rw [map_bind]
    rfl

/-- The steps of the elements of an iterable, which is opened when the loop starts. -/
def fold (elements initial : Value) (step : FoldStep Value) : Loop h where
  State := Value
  factory := .fold elements initial step
  onward := (.foldNext · step)
  start := do foldElement h step (← h.openIterator elements) initial
  next := foldElement h step
  build_eq := by
    rw [map_bind]
    exact bind_congr fun iterator => foldRound_eq h step iterator initial
  run_eq := foldRound_eq h step

/-- A list of results is finished when there are enough of them. -/
def replicateAgain (count : Int) (node : Value) (results : Nat) : Eff (Round Nat) := do
  let size ← World.listSize results
  return if (size : Int) ≥ count then .finish (.list results) else .run node results

theorem replicateRound_eq (count : Int) (node : Value) (results : Nat) :
    replicateRound results count node =
      Round.node (.replicateNext · count node) <$> replicateAgain count node results := by
  rw [replicateRound, replicateAgain, map_bind]
  refine bind_congr fun size => ?_
  rw [map_pure]
  split <;> rfl

/-- A node so many times, its values being added to a list that is made when the loop starts. -/
def replicate (count : Int) (node : Value) : Loop h where
  State := Nat
  factory := .replicate count node
  onward := (.replicateNext · count node)
  start := do replicateAgain count node (← World.newListAddress)
  next results v := do
    World.pushItem results v
    replicateAgain count node results
  build_eq := by
    rw [map_bind]
    exact bind_congr fun results => replicateRound_eq count node results
  run_eq results v := by
    rw [map_bind]
    exact bind_congr fun _ => replicateRound_eq count node results

/-- What a generator does with a value: it returns, or yields a node to be run.  One that yields
anything else is closed and complained about. -/
def sendOn (generator sent : Value) : Eff (Round Value) := do
  match ← h.send generator sent with
  | .returned v => return .finish v
  | .yielded v =>
    if v.isNode then return .run v generator
    else
      h.close generator
      Eff.complain (.generatorYielded v.typeName)

theorem resumeGenerator_eq (generator sent : Value) :
    resumeGenerator h generator sent = Round.node .resume <$> sendOn h generator sent := by
  rw [resumeGenerator, sendOn, map_bind]
  refine bind_congr fun produced => ?_
  cases produced with
  | returned v => rfl
  | yielded v =>
    simp only []
    split
    · rfl
    · rw [map_bind]
      rfl

end Loop

/-- **Calls of a function give generators.** -/
def Host.Generates (h : Host) (f : Value) (args : List Value) (keywords : Keywords) : Prop :=
  ∀ w v w', h.call f args keywords w = .ok v w' → ∃ address, v = .generator address

namespace Loop

/-- The nodes that a generator yields, which is made when the loop starts; each value is sent back. -/
def generate {h : Host} {f : Value} {args : List Value} {keywords : Keywords}
    (hf : h.Generates f args keywords) : Loop h where
  State := Value
  factory := .generate f args keywords
  onward := .resume
  start := do sendOn h (← h.call f args keywords) .none
  next := sendOn h
  build_eq := by
    funext w
    rw [map_bind, Factory.build]
    cases hcall : h.call f args keywords w with
    | ok v w' =>
      obtain ⟨address, rfl⟩ := hf w v w' hcall
      rw [Eff.bind_of_ok hcall, Eff.bind_of_ok hcall]
      exact congrFun (resumeGenerator_eq h (.generator address) .none) w'
    | error signal w' => rw [Eff.bind_of_error hcall, Eff.bind_of_error hcall]
  run_eq := resumeGenerator_eq h

/-! ### Going through the rounds -/

end Loop

/-- A node that was run: the world that it was run from, and what that has cost. -/
structure Part where
  node : Value
  world : World
  cost : Counters

namespace Loop

variable {h : Host} (L : Loop h)

/-- **Going through the rounds of a loop,** from one of them: the parts that are run, how it ends, and
what it costs. -/
inductive Goes : Round L.State → World → List Part → Verdict → Counters → World → Prop where
  | ended {w} : Goes .ended w [] (.value .none) .zero w
  | finish {v w} : Goes (.finish v) w [] (.value v) .zero w
  /-- A part that gives no value ends the loop. -/
  | stopped {part s verdict m w w₁} (hpart : Evaluates h part w verdict m w₁)
      (hstop : verdict.isValue = false) :
      Goes (.run part s) w [⟨part, w, m⟩] verdict.outward m.framed w₁
  /-- What the loop does with the value of a part raises a fault. -/
  | raised {part s v fault m w w₁ w₂} (hpart : Evaluates h part w (.value v) m w₁)
      (hnext : L.next s v w₁ = .error (.raised fault) w₂) :
      Goes (.run part s) w [⟨part, w, m⟩]
        (.ofMishap (fault, w₂.callableName (.ofCallback (L.onward s)))) (m.chained .zero) w₂
  | round {part s v r parts verdict m n w w₁ w₂ w₃} (hpart : Evaluates h part w (.value v) m w₁)
      (hnext : L.next s v w₁ = .ok r w₂) (hrest : Goes r w₂ parts verdict n w₃) :
      Goes (.run part s) w (⟨part, w, m⟩ :: parts) verdict (m.chained n) w₃

/-- The callable that starts a loop. -/
def starter (j : Nat) : Value := .callback j (.suspended L.factory)

/-- The node of a loop. -/
def node (i j : Nat) : Value := .node i (.flatMap .unit (L.starter j))

/-- **Going through a whole loop.**  A fault at the start is blamed on the factory. -/
inductive Unrolls (j : Nat) : World → List Part → Verdict → Counters → World → Prop where
  | raised {fault w w₁} (hstart : L.start w = .error (.raised fault) w₁) :
      Unrolls j w [] (.ofMishap (fault, w₁.callableName (L.starter j)))
        (Counters.zero.chained .zero) w₁
  | started {r parts verdict n w w₁ w₂} (hstart : L.start w = .ok r w₁)
      (hrest : L.Goes r w₁ parts verdict n w₂) :
      Unrolls j w parts verdict (Counters.zero.chained n) w₂

variable {L}

/-- **A callable that does what a loop does** goes on with the node of a round, or has a mishap where
the loop raises a fault. -/
theorem applied_eq {f v : Value} {act : Eff (Round L.State)}
    (hf : h.invoke f [v] = Round.node L.onward <$> act) (w : World) :
    applied h f v w =
      match act w with
      | .ok r w' => .ok (.ok (r.node L.onward)) w'
      | .error (.raised fault) w' => .ok (.error (fault, w'.callableName f)) w'
      | .error .exhausted w' => .error .exhausted w' := by
  cases hact : act w with
  | ok r w' =>
    have hinvoke : h.invoke f [v] w = .ok (r.node L.onward) w' := by rw [hf, Eff.map_of_ok hact]
    exact applied_of_node hinvoke (r.isNode_node L.onward)
  | error signal w' =>
    have hinvoke : h.invoke f [v] w = .error signal w' := by rw [hf, Eff.map_of_error hact]
    cases signal with
    | raised fault => exact applied_of_raised hinvoke
    | exhausted => exact applied_of_exhausted hinvoke

theorem invoke_onward (s : L.State) (v : Value) :
    h.invoke (.ofCallback (L.onward s)) [v] = Round.node L.onward <$> L.next s v := L.run_eq s v

theorem invoke_starter (j : Nat) (v : Value) :
    h.invoke (L.starter j) [v] = Round.node L.onward <$> L.start := L.build_eq

section applied

variable {f v : Value} {act : Eff (Round L.State)} {w w' : World}
  (hf : h.invoke f [v] = Round.node L.onward <$> act)
include hf

theorem exists_of_applied_node {n : Value} (happlied : applied h f v w = .ok (.ok n) w') :
    ∃ r, act w = .ok r w' ∧ n = r.node L.onward := by
  rw [applied_eq hf] at happlied
  cases hact : act w with
  | ok r u =>
    simp only [hact] at happlied
    cases happlied
    exact ⟨r, rfl, rfl⟩
  | error signal u => cases signal <;> simp only [hact] at happlied <;> cases happlied

theorem exists_of_applied_mishap {mis : Mishap} (happlied : applied h f v w = .ok (.error mis) w') :
    ∃ fault, act w = .error (.raised fault) w' ∧ mis = (fault, w'.callableName f) := by
  rw [applied_eq hf] at happlied
  cases hact : act w with
  | ok r u => simp only [hact] at happlied; cases happlied
  | error signal u =>
    cases signal with
    | raised fault =>
      simp only [hact] at happlied
      cases happlied
      exact ⟨fault, rfl, rfl⟩
    | exhausted => simp only [hact] at happlied; cases happlied

theorem applied_of_round {r : Round L.State} (hact : act w = .ok r w') :
    applied h f v w = .ok (.ok (r.node L.onward)) w' := by
  rw [applied_eq hf, hact]

theorem applied_of_fault {fault : Fault Value} (hact : act w = .error (.raised fault) w') :
    applied h f v w = .ok (.error (fault, w'.callableName f)) w' := by
  rw [applied_eq hf, hact]

end applied

/-- **The node of a round comes to what going through the rounds from it comes to.**  The induction is
on the evaluation: the node that a callback returns is the node of the next round. -/
theorem goes_of_evaluates {n : Value} {r : Round L.State} {w w' : World} {verdict : Verdict}
    {k : Counters} (he : Evaluates h n w verdict k w') (hn : n = r.node L.onward) :
    ∃ parts, L.Goes r w parts verdict k w' := by
  induction he generalizing r with
  | done =>
    cases r with
    | ended => cases hn; exact ⟨[], .ended⟩
    | finish v => cases hn; exact ⟨[], .finish⟩
    | run part s => cases hn
  | sequence hsource hf _ _ ihnode =>
    cases r with
    | run part s =>
      cases hn
      obtain ⟨r', hnext, hnode⟩ := exists_of_applied_node (invoke_onward s _) hf
      obtain ⟨parts, hrest⟩ := ihnode hnode
      exact ⟨_, .round hsource hnext hrest⟩
    | ended | finish _ => cases hn
  | sequenceMishap hsource hf _ =>
    cases r with
    | run part s =>
      cases hn
      obtain ⟨fault, hnext, rfl⟩ := exists_of_applied_mishap (invoke_onward s _) hf
      exact ⟨_, .raised hsource hnext⟩
    | ended | finish _ => cases hn
  | sequenceStopped hsource hstop _ =>
    cases r with
    | run part s =>
      cases hn
      exact ⟨_, .stopped hsource hstop⟩
    | ended | finish _ => cases hn
  | unknown hv => cases r <;> cases hn <;> cases hv
  | action | actionMishap | region | rescue | rescueMishap | rescueRefused | regionPassed =>
    cases r <;> cases hn

/-- Going through the rounds evaluates the node of the first. -/
theorem Goes.evaluates {r : Round L.State} {w w' : World} {parts : List Part} {verdict : Verdict}
    {k : Counters} (hr : L.Goes r w parts verdict k w') :
    Evaluates h (r.node L.onward) w verdict k w' := by
  induction hr with
  | ended => exact .done
  | finish => exact .done
  | stopped hpart hstop => exact .sequenceStopped hpart hstop
  | raised hpart hnext => exact .sequenceMishap hpart (applied_of_fault (invoke_onward _ _) hnext)
  | round hpart hnext _ ih => exact .sequence hpart (applied_of_round (invoke_onward _ _) hnext) ih

/-- **The node of a loop comes to what going through the loop comes to,** and to nothing else. -/
theorem evaluates_node_iff {i j : Nat} {w w' : World} {verdict : Verdict} {k : Counters} :
    Evaluates h (L.node i j) w verdict k w' ↔ ∃ parts, L.Unrolls j w parts verdict k w' := by
  constructor
  · intro he
    cases he with
    | sequence hsource hf hnode =>
      cases hsource with
      | done =>
        obtain ⟨r, hstart, hr⟩ := exists_of_applied_node (invoke_starter j _) hf
        obtain ⟨parts, hrest⟩ := goes_of_evaluates hnode hr
        exact ⟨parts, .started hstart hrest⟩
    | sequenceMishap hsource hf =>
      cases hsource with
      | done =>
        obtain ⟨fault, hstart, rfl⟩ := exists_of_applied_mishap (invoke_starter j _) hf
        exact ⟨[], .raised hstart⟩
    | sequenceStopped hsource hstop =>
      cases hsource with
      | done => cases hstop
      | unknown hv => cases hv
    | unknown hv => cases hv
  · rintro ⟨parts, hu⟩
    cases hu with
    | raised hstart => exact .sequenceMishap .done (applied_of_fault (invoke_starter j _) hstart)
    | started hstart hrest =>
      exact .sequence .done (applied_of_round (invoke_starter j _) hstart) hrest.evaluates

end Loop
end EffectGraph
