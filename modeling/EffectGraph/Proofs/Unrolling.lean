import EffectGraph.Proofs.Bracketing
import EffectGraph.Proofs.Circling
import EffectGraph.Proofs.Store

/-!
# Loops and their unrollings

A loop that goes in circles is where its laps are (`WhileAt`, `DoWhileAt`, `ForeverAt`), ends as the last of
them does, and gives `None` if the test of that has yielded something false (`Loop.GoesInCircles`).

Each loop ends as its unrolling does.  What an unrolling does to the world besides, such as noting that a
node was built, has to be hidden from the condition and the body (`GoesRound`); and a condition that another
callback calls is blamed under another name, so that it needs a name with a text (`Condition`).
-/

namespace EffectGraph

open Machine Conduct

/-! ### One loop for another -/

/-- **A condition is called as the host calls it,** gives nodes, and has a text for a name wherever it
raises a fault. -/
structure Condition (h : Host) (condition : Value) : Prop where
  called (v : Value) (w : World) : h.invoke condition [v] w = h.call condition [v] [] w
  gives {v n : Value} {w u : World} : h.call condition [v] [] w = .ok n u → n.isNode = true
  named : Nameable h condition

section conditions

variable {h : Host} {condition v : Value} {u : World}

/-- A condition that is asked is called, but for the name that is blamed. -/
theorem Condition.concur (hc : Condition h condition) (body : Value) :
    Concur (Asked h (·.callableName (.ofCallback (.doWhileCheck body condition))) condition v u)
      (Called h condition v u) := by
  have hcalled := hc.called v u
  unfold Asked
  cases hcall : h.call condition [v] [] u with
  | ok test u' =>
    rw [hcall] at hcalled
    rw [called_of_node hcalled (hc.gives hcall)]
    exact (Same.refl _).concur
  | error signal u' =>
    rw [hcall] at hcalled
    cases signal with
    | raised fault =>
      have happlied := applied_of_raised hcalled
      rw [called_of_mishap happlied]
      have hnames : u'.Tells (u'.callableName (.ofCallback (.doWhileCheck body condition)))
          (u'.callableName condition) := .inr ⟨⟨_, rfl⟩, hc.named v u _ u' happlied⟩
      have hagrees := Verdict.agrees_ofMishap fault hnames
      constructor
      · rintro _ _ _ ⟨rfl, rfl, rfl⟩
        exact ⟨_, _, ⟨rfl, rfl, rfl⟩, hagrees, rfl⟩
      · rintro _ _ _ ⟨rfl, rfl, rfl⟩
        exact ⟨_, _, ⟨rfl, rfl, rfl⟩, hagrees.symm, rfl⟩
    | exhausted => exact (same_of_never id (not_called_of_exhausted hcalled)).concur

/-- **A body with a condition on its result** is a condition of its own. -/
theorem Condition.concur_loops (hc : Condition h condition) (body : Value) (i j k l i' j' : Nat)
    (w : World) : Concur (Evaluates h ((Loop.doWhile h body condition).node i j) w)
      (Evaluates h
        ((Loop.whileLoop h (.node k (.flatMap body condition)) (.node l (.done .none))).node i' j') w) := by
  let bound := Value.node k (.flatMap body condition)
  let unit := Value.node l (.done .none)
  have htests (u : World) : Concur (Tested h body condition u) (Evaluates h bound u) := by
    rw [evaluates_flatMap]
    exact .chain (Same.refl _).concur fun v u' => hc.concur body
  have hturns (u : World) : Concur (Nothing u) (Evaluates h unit u) :=
    (Same.of_eq (evaluates_done h l .none u).symm).concur
  have hcircles : Concur (Circles (Tested h body condition) Nothing w)
      (Circles (Evaluates h bound) (Evaluates h unit) w) :=
    ⟨echoes_circles (fun u => (htests u).forth) (fun u => (hturns u).forth) w,
      echoes_circles (fun u => (htests u).back) (fun u => (hturns u).back) w⟩
  exact ((same_doWhile h body condition i j w).concur.trans hcircles).trans
    (same_while h bound unit i' j' w).symm.concur

end conditions

/-- **A function goes round:** on something true it puts the loop behind its body, and on something false
it gives a node that does nothing.  What else it does to the world, neither the condition nor the body
takes notice of; with equalities for `T` and `R` there is nothing else. -/
structure GoesRound (h : Host) (c b f : Value) (T : Value → Value → Prop) (R : World → World → Prop) :
    Prop where
  unnoticed {part u w} : part = c ∨ part = b → R u w →
    Corresponds T R (Evaluates h part u) (Evaluates h part w)
  truthy {v v' u w} : T v v' → R u w → w.isTruthy v' = u.isTruthy v
  turns {v v' u w} : T v v' → R u w → w.isTruthy v' = true → ∃ loop turn i j i' j' w',
    Graph.whileLoop c b = .ok loop ∧ Graph.thenRun b (loop.identified i j) = .ok turn ∧
      h.invoke f [v'] w = .ok (turn.identified i' j') w' ∧ R u w'
  rests {v v' u w} : T v v' → R u w → w.isTruthy v' = false →
    ∃ i w', h.invoke f [v'] w = .ok (.node i (.done .none)) w' ∧ R u w'

section unrolling

variable {h : Host} {c b f loop turn : Value} {T : Value → Value → Prop} {R : World → World → Prop}
  {u w : World} {i j : Nat}

theorem Graph.eq_of_whileLoop (hn : whileLoop c b = .ok loop) : loop = .suspend (.whileLoop c b) := by
  obtain ⟨-, hrest⟩ := isNode_of_requireNode_bind hn
  obtain ⟨-, hrest⟩ := isNode_of_requireNode_bind hrest
  exact (Except.ok.inj hrest).symm

theorem Graph.isNode_of_thenRun (hn : thenRun b loop = .ok turn) (i j : Nat) :
    (turn.identified i j).isNode = true := by
  unfold thenRun at hn
  split at hn
  · cases hn
    rfl
  · cases hn

/-- The loop keeps step with itself where nothing else is noticed. -/
theorem GoesRound.keepsStep (hf : GoesRound h c b f T R) :
    (Loop.whileLoop h c b).KeepsStep (.whileLoop h c b) Eq T Eq R where
  nexts {s s' v v' u w} hs hv hw := by
    subst hs
    cases s with
    | body => exact .ok (.run rfl fun hw => hf.unnoticed (.inl rfl) hw) hw
    | condition =>
      rw [next_condition, next_condition, hf.truthy hv hw]
      refine .ok ?_ hw
      split
      · exact .run rfl fun hw => hf.unnoticed (.inr rfl) hw
      · exact .ended rfl
  named {s s' u w} hs _ := by
    subst hs
    cases s <;> rfl

/-- **A loop that tests first is its condition,** followed by the function. -/
theorem GoesRound.corresponds (hf : GoesRound h c b f T R) (hw : R u w) (i j k : Nat) :
    Corresponds Eq R (Evaluates h ((Loop.whileLoop h c b).node i j) u)
      (Evaluates h (.node k (.flatMap c f)) w) := by
  let L := Loop.whileLoop h c b
  have hloops {u w : World} (hw : R u w) (i' j' : Nat) :
      Corresponds Eq R (Evaluates h (L.node i j) u) (Evaluates h (L.node i' j') w) := by
    have hstart : L.StartsInStep L Eq T Eq R 0 0 u w :=
      ⟨.ok (.run rfl fun hw => hf.unnoticed (.inl rfl) hw) hw, fun _ => rfl⟩
    exact .after (Loop.same_nodes (L := L) rfl i j 0 0)
      (.before (Loop.corresponds hf.keepsStep hstart 0 0) (Loop.same_nodes (L := L) rfl 0 0 i' j'))
  rw [evaluates_flatMap]
  refine .after (same_lap_while h c b i j u) (.chain (hf.unnoticed (.inl rfl) hw) id ?_)
  intro v v' _ _ u' w' _ _ hv hw'
  have htruthy := hf.truthy hv hw'
  cases htrue : w'.isTruthy v' with
  | true =>
    obtain ⟨loop, turn, i', j', i'', j'', w'', hloop, hturn, hinvoke, hw''⟩ := hf.turns hv hw' htrue
    cases Graph.eq_of_whileLoop hloop
    rw [if_pos (htruthy.symm.trans htrue), called_of_node hinvoke (Graph.isNode_of_thenRun hturn _ _),
      evaluates_thenRun hturn]
    exact .chain (hf.unnoticed (.inr rfl) hw'') id fun _ _ _ hw => hloops hw i' j'
  | false =>
    obtain ⟨i', w'', hinvoke, hw''⟩ := hf.rests hv hw' htrue
    rw [if_neg (by simp [← htruthy, htrue]), called_of_node hinvoke rfl, evaluates_done]
    exact .just rfl hw''

end unrolling

/-! ### Where a loop is in its laps -/

section places

variable (h : Host) (c b body condition n : Value) (w : World)

/-- **A loop that tests first** is at its condition after some laps, at its body after the condition has
yielded something true, and over after it has yielded something false. -/
def WhileAt : Round Loop.Half → World → Prop
  | .run part .condition, u => part = c ∧ Lapped (Evaluates h c) (Evaluates h b) w u
  | .run part .body, u => part = b ∧ Yielded (Evaluates h c) (Evaluates h b) w true u
  | .ended, u => Yielded (Evaluates h c) (Evaluates h b) w false u
  | .finish _, _ => False

/-- **A loop that runs its body first** is at its body after some laps, then at the node that the condition
gives for the value of the body, and over after that has yielded something false. -/
def DoWhileAt : Round Loop.Half → World → Prop
  | .run part .body, u => part = body ∧ Lapped (Tested h body condition) Nothing w u
  | .run test .condition, u => ∃ u₀ v m u₁, Lapped (Tested h body condition) Nothing w u₀ ∧
      Evaluates h body u₀ (.value v) m u₁ ∧ h.call condition [v] [] u₁ = .ok test u
  | .ended, u => Yielded (Tested h body condition) Nothing w false u
  | .finish _, _ => False

/-- **An endless loop** is at its node after some laps. -/
def ForeverAt : Round Unit → World → Prop
  | .run part _, u => part = n ∧ Lapped Always (Evaluates h n) w u
  | .ended, _ | .finish _, _ => False

variable {h c b body condition n w} {u : World}

theorem comes_while_iff {r : Round (Loop.whileLoop h c b).State} :
    (Loop.whileLoop h c b).Comes w r u ↔ WhileAt h c b w r u := by
  let L := Loop.whileLoop h c b
  have hcondition {u : World} (hl : Lapped (Evaluates h c) (Evaluates h b) w u) :
      L.Comes w (.run c Loop.Half.condition) u := by
    refine hl.invariant (fun {u again m u' v n u''} hr hp htrue hq => ?_) (.first rfl)
    have hbody := hr.next hp (next_condition h c b again u')
    rw [if_pos htrue] at hbody
    exact hbody.next hq rfl
  have hyielded {truth : Bool} {u : World} (hy : Yielded (Evaluates h c) (Evaluates h b) w truth u) :
      L.Comes w (if truth then .run b Loop.Half.body else .ended) u := by
    obtain ⟨u₀, again, m, hl, hp, rfl⟩ := hy
    exact (hcondition hl).next hp (next_condition h c b again u)
  constructor
  · intro hr
    induction hr with
    | first hstart =>
      cases hstart
      exact ⟨rfl, lapped_refl⟩
    | @next part s v k r u u₁ u₂ _ hpart hnext ih =>
      cases s with
      | condition =>
        obtain ⟨rfl, hlapped⟩ := ih
        rw [next_condition] at hnext
        cases hnext
        cases htruth : u₁.isTruthy v with
        | true => exact ⟨rfl, _, _, _, hlapped, hpart, htruth⟩
        | false => exact ⟨_, _, _, hlapped, hpart, htruth⟩
      | body =>
        obtain ⟨rfl, hyielded⟩ := ih
        cases hnext
        exact ⟨rfl, hyielded.lapped hpart⟩
  · intro hat
    match r, hat with
    | .run _ .condition, ⟨hpart, hl⟩ =>
      rw [hpart]
      exact hcondition hl
    | .run _ .body, ⟨hpart, hy⟩ =>
      rw [hpart]
      exact hyielded hy
    | .ended, hy => exact hyielded hy

/-- A test that has yielded something has run the body, called the condition and run the node it gave. -/
theorem tested_value_iff {again : Value} {u u' : World} :
    (∃ m, Tested h body condition u (.value again) m u') ↔
      ∃ v k u₁ test u₂ m, Evaluates h body u (.value v) k u₁ ∧ h.call condition [v] [] u₁ = .ok test u₂ ∧
        Evaluates h test u₂ (.value again) m u' := by
  constructor
  · rintro ⟨_, ht⟩
    cases ht with
    | stop _ hstop hout => cases Verdict.isValue_of_eq_outward hout hstop
    | @next v _ k n u₁ _ hbody hasked =>
      cases hcall : h.call condition [v] [] u₁ with
      | ok test u₂ =>
        simp only [Asked, hcall] at hasked
        exact ⟨v, _, u₁, test, u₂, _, hbody, hcall, hasked⟩
      | error signal u₂ =>
        cases signal with
        | raised fault =>
          simp only [Asked, hcall] at hasked
          have hvalue := congrArg Verdict.isValue hasked.1
          rw [Verdict.isValue_ofMishap] at hvalue
          cases hvalue
        | exhausted =>
          simp only [Asked, hcall] at hasked
  · rintro ⟨v, k, u₁, test, u₂, m, hbody, hcall, htest⟩
    have hasked : Asked h (·.callableName (.ofCallback (.doWhileCheck body condition))) condition v u₁
        (.value again) m u' := by
      simp only [Asked, hcall]
      exact htest
    exact ⟨_, .next hbody hasked⟩

theorem comes_doWhile_iff {r : Round (Loop.doWhile h body condition).State} :
    (Loop.doWhile h body condition).Comes w r u ↔ DoWhileAt h body condition w r u := by
  let L := Loop.doWhile h body condition
  have htested {u₀ u : World} {again : Value} {m : Counters}
      (hr : L.Comes w (.run body Loop.Half.body) u₀)
      (hp : Tested h body condition u₀ (.value again) m u) :
      L.Comes w (if u.isTruthy again then .run body Loop.Half.body else .ended) u := by
    obtain ⟨v, k, u₁, test, u₂, m, hbody, hcall, htest⟩ := tested_value_iff.1 ⟨_, hp⟩
    exact (hr.next hbody (next_body h body condition hcall)).next htest
      (next_again h body condition again u)
  have hbody {u : World} (hl : Lapped (Tested h body condition) Nothing w u) :
      L.Comes w (.run body Loop.Half.body) u := by
    refine hl.invariant (fun {u again m u' v n u''} hr hp htrue hq => ?_) (.first rfl)
    have hagain := htested hr hp
    rw [if_pos htrue] at hagain
    obtain ⟨-, -, rfl⟩ := hq
    exact hagain
  constructor
  · intro hr
    induction hr with
    | first hstart =>
      cases hstart
      exact ⟨rfl, lapped_refl⟩
    | @next part s v k r u u₁ u₂ _ hpart hnext ih =>
      cases s with
      | body =>
        obtain ⟨rfl, hlapped⟩ := ih
        obtain ⟨test, u₂, hcall, hr⟩ := Eff.exists_of_bind_ok hnext
        cases hr
        exact ⟨_, _, _, _, hlapped, hpart, hcall⟩
      | condition =>
        obtain ⟨u₀, x, m, u', hlapped, hbody, hcall⟩ := ih
        obtain ⟨m', ht⟩ := tested_value_iff.2 ⟨_, _, _, _, _, _, hbody, hcall, hpart⟩
        rw [next_again] at hnext
        cases hnext
        cases htruth : u₁.isTruthy v with
        | true =>
          have hyielded : Yielded (Tested h body condition) Nothing w true u₁ :=
            ⟨_, _, _, hlapped, ht, htruth⟩
          exact ⟨rfl, hyielded.lapped ⟨rfl, rfl, rfl⟩⟩
        | false => exact ⟨_, _, _, hlapped, ht, htruth⟩
  · intro hat
    match r, hat with
    | .run _ .body, ⟨hpart, hl⟩ =>
      rw [hpart]
      exact hbody hl
    | .run _ .condition, ⟨u₀, v, m, u₁, hl, hev, hcall⟩ =>
      exact (hbody hl).next hev (next_body h body condition hcall)
    | .ended, ⟨u₀, again, m, hl, hp, hfalse⟩ =>
      have hended := htested (hbody hl) hp
      rw [hfalse] at hended
      exact hended

theorem comes_forever_iff {r : Round (Loop.forever h n).State} :
    (Loop.forever h n).Comes w r u ↔ ForeverAt h n w r u := by
  have hyielded {u : World} (hl : Lapped Always (Evaluates h n) w u) :
      Yielded Always (Evaluates h n) w true u := ⟨u, .bool true, .zero, hl, ⟨rfl, rfl, rfl⟩, rfl⟩
  constructor
  · intro hr
    induction hr with
    | first hstart =>
      cases hstart
      exact ⟨rfl, lapped_refl⟩
    | next _ hpart hnext ih =>
      obtain ⟨rfl, hl⟩ := ih
      cases hnext
      exact ⟨rfl, (hyielded hl).lapped hpart⟩
  · intro hat
    match r, hat with
    | .run _ _, ⟨hpart, hl⟩ =>
      subst hpart
      refine hl.invariant (fun {u again m u' v k u''} hr hp _ hq => ?_) (.first rfl)
      obtain ⟨-, -, rfl⟩ := hp
      exact hr.next hq rfl

end places

/-! ### Runs of loops -/

/-- **A loop goes in circles,** from a world.  The round it is at is told by its laps (`At`), and it ends
as the last of them does. -/
structure Loop.GoesInCircles {h : Host} (L : Loop h) (settings : Settings) (i j : Nat)
    (P Q : World → Conduct) (At : World → Round L.State → World → Prop) (w : World) : Prop where
  ends : EndsAs h (L.node i j) w (Circled P Q w)
  /-- The laps that are gone through are counted in one way. -/
  counted {k k' u u' v v' exit exit'} : Laps P Q k w u → LapEnds P Q u exit v →
    Laps P Q k' w u' → LapEnds P Q u' exit' v' → k = k' ∧ u = u'
  gives : ∀ v u, (∃ k, Runs h settings (L.node i j) w (.finished v) k u) ↔
    v = .none ∧ Yielded P Q w false u
  rounds : ∀ r u, L.Comes w r u ↔ At w r u
  /-- The machine comes to the node of each round, with nothing on its stack. -/
  running : ∀ r u, L.Comes w r u →
    ∃ c, Reaches h settings (.start (L.node i j), w) (⟨r.node L.onward, .empty, c⟩, u)
  /-- Every state of a run lies in the rounds. -/
  lying : ∀ b, Reaches h settings (.start (L.node i j), w) b → L.Lies settings (L.node i j) w b
  /-- A node that was just built has a text. -/
  described : i = 0 → j = 0 → ∃ text, w.ticked.describe? (L.node i j) = .ok text
  unreported : ∀ c, w.ticked.describe? (L.node i j) = .error c → ∀ fuel,
    runReport h fuel settings (L.node i j) w = .error (.raised c.fault) w.ticked
  reported : ∀ description, w.ticked.describe? (L.node i j) = .ok description →
    Reported h settings (L.node i j) w (Circled P Q (w.opened description))

/-- A loop whose conduct is to go in circles does so. -/
theorem Loop.goesInCircles {h : Host} {L : Loop h} {settings : Settings} (hp : settings.Plain) {i j : Nat}
    {P Q : World → Conduct} {At : World → Round L.State → World → Prop}
    (hsame : ∀ w, Same (Evaluates h (L.node i j) w) (Circles P Q w))
    (hP : ∀ w, (P w).Certain) (hQ : ∀ w, (Q w).Certain)
    (hat : ∀ {w r u}, L.Comes w r u ↔ At w r u) (w : World) :
    L.GoesInCircles settings i j P Q At w := by
  have hends (w : World) : EndsAs h (L.node i j) w (Circled P Q w) := fun exit u =>
    circles_exit_iff.trans (hsame w).exit_iff.symm
  refine ⟨hends w, laps_unique hP hQ, fun v u => ?_, fun _ _ => hat, fun r u hr => hr.reaches hp i j,
    fun b hb => lies_of_reaches hp hb, ?_, fun c hc fuel => runReport_of_undescribed rfl hc,
    fun description hd => (hends _).reported hp rfl hd⟩
  · rw [← circled_gives_iff, hends w]
    constructor
    · rintro ⟨_, hrun⟩
      obtain ⟨verdict, k, he, hend, -⟩ := (runs_iff hp).1 hrun
      exact ⟨verdict, k, he, congrArg Verdict.exit (Verdict.ending_eq_finished_iff.1 hend)⟩
    · rintro ⟨verdict, k, he, hexit⟩
      cases verdict with
      | value v =>
        cases hexit
        exact ⟨_, he.runs hp⟩
      | failure | unknown | interrupt => cases hexit
  · rintro rfl rfl
    exact ⟨_, World.describe?_suspend _ L.factory⟩

/-- **Loops go in circles.**  A loop that tests first has its condition for a test and its body for a turn;
one that runs its body first has both for a test, and nothing for a turn; an endless loop has its node for
a turn, and gives no value.  So the first `k` laps are those in which the test yields something true, an
`Err` counting as false, and the loop is over in the first one in which it does not, or something gives no
value.  A loop that tests first ends as its condition followed by a function that goes round; one that runs
its body first ends as one that tests first, with the body bound to the condition, if the name of the
condition has a text where it raises a fault; and an endless loop ends as its node followed by the loop. -/
theorem loops_circle {h : Host} {settings : Settings} (hp : settings.Plain) :
    (∀ c b loop, Graph.whileLoop c b = .ok loop → ∀ i j,
      loop.identified i j = (Loop.whileLoop h c b).node i j ∧
      (∀ w, (Loop.whileLoop h c b).GoesInCircles settings i j (Evaluates h c) (Evaluates h b)
        (WhileAt h c b) w) ∧
      ∀ f T R k u w, GoesRound h c b f T R → R u w → ToldTheSame h R (loop.identified i j) u →
        EndsAlike h settings R (loop.identified i j, u) (.node k (.flatMap c f), w)) ∧
    (∀ body condition loop, Graph.doWhile body condition = .ok loop → ∀ i j,
      loop.identified i j = (Loop.doWhile h body condition).node i j ∧
      (∀ w, (Loop.doWhile h body condition).GoesInCircles settings i j (Tested h body condition) Nothing
        (DoWhileAt h body condition) w) ∧
      (Condition h condition → ∀ k l tested,
        Graph.whileLoop (.node k (.flatMap body condition)) (.node l (.done .none)) = .ok tested →
          ∀ i' j' w, EndsAlike h settings Eq (loop.identified i j, w) (tested.identified i' j', w))) ∧
    (∀ n loop, Graph.forever n = .ok loop → ∀ i j,
      loop.identified i j = (Loop.forever h n).node i j ∧
      (∀ w, (Loop.forever h n).GoesInCircles settings i j Always (Evaluates h n) (ForeverAt h n) w) ∧
      (∀ w v k u, ¬ Runs h settings (loop.identified i j) w (.finished v) k u) ∧
      ∀ i' j' turn, Graph.thenRun n (loop.identified i' j') = .ok turn →
        ∀ k l w, EndsAlike h settings Eq (loop.identified i j, w) (turn.identified k l, w)) ∧
    ∀ w stamp error, World.isTruthy w (.err stamp error) = false := by
  have hevaluates (n : Value) (w : World) : Certain (Evaluates h n w) := fun _ _ _ he => he.only
  refine ⟨fun c b loop hloop i j => ?_, fun body condition loop hloop i j => ?_,
    fun n loop hloop i j => ?_, fun w stamp error => rfl⟩
  · cases Graph.eq_of_whileLoop hloop
    refine ⟨rfl, Loop.goesInCircles hp (same_while h c b i j) (hevaluates c) (hevaluates b) comes_while_iff,
      fun f T R k u w hf hw htold => ?_⟩
    exact (hf.corresponds hw i j k).endsAlike hp htold
  · obtain ⟨-, hrest⟩ := Graph.isNode_of_requireNode_bind hloop
    cases hrest
    refine ⟨rfl, Loop.goesInCircles hp (same_doWhile h body condition i j)
      (certain_tested h body condition) (fun _ => certain_just _ _) comes_doWhile_iff,
      fun hc k l tested htested i' j' w => ?_⟩
    cases Graph.eq_of_whileLoop htested
    exact (hc.concur_loops body i j k l i' j' w).endsAlike hp
  · obtain ⟨-, hrest⟩ := Graph.isNode_of_requireNode_bind hloop
    cases hrest
    have hcircles (w : World) := Loop.goesInCircles hp (same_forever h n i j) (fun _ => certain_just _ _)
      (hevaluates n) comes_forever_iff w
    refine ⟨rfl, hcircles, fun w v k u hrun => ?_, fun i' j' turn hturn k l w => ?_⟩
    · obtain ⟨-, u₀, again, m, -, ⟨hv, -⟩, hfalse⟩ := ((hcircles w).gives v u).1 ⟨k, hrun⟩
      cases hv
      cases hfalse
    · refine Concur.endsAlike hp (Same.concur ?_)
      rw [evaluates_thenRun hturn]
      refine (same_forever_then h n i j w).trans (.chain (.refl _) fun _ u => ?_)
      exact Loop.same_nodes (L := .forever h n) rfl i j i' j'

/-! ### A loop that sets a cell to zero -/

/-- What comes to a value corresponds to itself. -/
theorem Evaluates.corresponds {h : Host} {part v : Value} {u u' : World} {k : Counters}
    {T : Value → Value → Prop} {R : World → World → Prop} (he : Evaluates h part u (.value v) k u')
    (hv : T v v) (hu : R u' u') : Corresponds T R (Evaluates h part u) (Evaluates h part u) where
  forth := by
    intro verdict k' w' he'
    obtain ⟨rfl, rfl, rfl⟩ := he.only he'
    exact ⟨_, _, _, he, .value hv, rfl, hu⟩
  back := by
    intro verdict k' w' he'
    obtain ⟨rfl, rfl, rfl⟩ := he.only he'
    exact ⟨_, _, _, he, .value hv, rfl, hu⟩

namespace Script

/-- A value that scripts know. -/
def Settled (v : Value) : Prop := ∀ w, settle v w = .ok v w

/-- The function that gives one of two nodes. -/
def choice (turn rest : Value) : Value :=
  .closure ⟨0, none, ["again"], .expr (.cond (.var "again") (.var "turn") (.var "rest")),
    [.bound [("turn", turn), ("rest", rest)]]⟩

/-- It chooses by what its argument counts as. -/
theorem call_choice {turn rest : Value} (hturn : Settled turn) (hrest : Settled rest) (v : Value) :
    (host 1).call (choice turn rest) [v] [] = do
      let v ← settle v
      return if (← get).isTruthy v then turn else rest := by
  funext w
  change (do settle (← callValue (host 0) 0 (choice turn rest) [v] [])) w = _
  cases hv : settle v w with
  | ok v' w' =>
    have hall : settleAll [v] w = .ok [v'] w' := by
      rw [settleAll, Eff.bind_of_ok hv]
      rfl
    have hcall : callValue (host 0) 0 (choice turn rest) [v] [] w =
        .ok (if w'.isTruthy v' then turn else rest) w' := by
      let scope : Scope := [.bound [("again", v')], .bound [("turn", turn), ("rest", rest)]]
      have hcond : evaluate (host 0) scope (.cond (.var "again") (.var "turn") (.var "rest")) w' =
          .ok (if w'.isTruthy v' then turn else rest) w' := by
        have htest : evaluate (host 0) scope (.var "again") w' = .ok v' w' := rfl
        rw [evaluate, Eff.bind_of_ok htest, Eff.bind_get]
        split <;> rfl
      exact (Eff.bind_of_ok (x := settleAll [v]) hall).trans hcond
    have hsettled : Settled (if w'.isTruthy v' then turn else rest) := by split <;> assumption
    rw [Eff.bind_of_ok hcall, Eff.bind_of_ok hv, hsettled]
    rfl
  | error signal w' =>
    have hall : settleAll [v] w = .error signal w' := by rw [settleAll, Eff.bind_of_error hv]
    have hcall : callValue (host 0) 0 (choice turn rest) [v] [] w = .error signal w' :=
      Eff.bind_of_error (x := settleAll [v]) hall
    rw [Eff.bind_of_error hcall, Eff.bind_of_error hv]

/-- A function that gives one of two nodes is a condition. -/
theorem condition_choice {turn rest : Value} (hturn : Settled turn) (hrest : Settled rest)
    (hn : turn.isNode = true) (hn' : rest.isNode = true) : Condition (host 1) (choice turn rest) where
  called _ _ := rfl
  gives {v n w u} hcall := by
    rw [call_choice hturn hrest] at hcall
    obtain ⟨v', w', -, hchosen⟩ := Eff.exists_of_bind_ok hcall
    cases hchosen
    split <;> assumption
  named := nameable_of_unseen _ rfl

/-- Reads a cell. -/
def reading : Value := Graph.getCell 0 "Ref#1"

/-- Sets it to zero. -/
def clearing : Value := Graph.setCell 0 "Ref#1" (.int 0)

/-- Again, as long as the cell is not zero. -/
def clearingLoop : Value := .suspend (.whileLoop reading clearing)

def clearingTurn : Value :=
  (Value.sequenced clearing (.thenRun (clearingLoop.identified 5 6))).identified 7 8

/-- There is a number in the cell, and nothing changes but the cell. -/
def Numbering (u w : World) : Prop := w = u ∧ ∃ z, u.cells = #[.int z]

/-- The same value, that scripts know. -/
def Known (v v' : Value) : Prop := v' = v ∧ Settled v

/-- The function that puts the loop behind its body goes round. -/
theorem goesRound_clearing : GoesRound (host 1) reading clearing
    (choice clearingTurn .unit) Known Numbering where
  unnoticed {part u w} hpart hw := by
    obtain ⟨rfl, z, hz⟩ := hw
    rcases hpart with rfl | rfl
    · have hread : performed (host 1) (.method 0 (.cell 0) .readCell) (.str "Ref#1.get") w =
          .ok (.ok (.int z)) w := by
        have hcell : (host 1).invoke (.method 0 (.cell 0) .readCell) [] w = .ok (.int z) w := by
          change World.readCell 0 w = _
          rw [World.readCell, Eff.bind_get, hz]
          rfl
        exact performed_of_ok hcell _
      exact Evaluates.corresponds (.action hread) ⟨rfl, fun _ => rfl⟩ ⟨rfl, z, hz⟩
    · exact Evaluates.corresponds (.action rfl) ⟨rfl, fun _ => rfl⟩ ⟨rfl, 0, by simp [hz]⟩
  truthy hv hw := by rw [hv.1, hw.1]
  turns {v v' u w} hv hw htrue := by
    obtain ⟨rfl, hv⟩ := hv
    obtain ⟨rfl, hz⟩ := hw
    refine ⟨clearingLoop, _, 5, 6, 7, 8, w, rfl, rfl, ?_, rfl, hz⟩
    refine (congrFun (call_choice (fun _ => rfl) (fun _ => rfl) _) w).trans ?_
    rw [Eff.bind_of_ok (hv w), Eff.bind_get, if_pos htrue]
    rfl
  rests {v v' u w} hv hw hfalse := by
    obtain ⟨rfl, hv⟩ := hv
    obtain ⟨rfl, hz⟩ := hw
    refine ⟨1, w, ?_, rfl, hz⟩
    refine (congrFun (call_choice (fun _ => rfl) (fun _ => rfl) _) w).trans ?_
    rw [Eff.bind_of_ok (hv w), Eff.bind_get, if_neg (by simp [hfalse])]
    rfl

end Script

/-- A cell that is set to zero as long as it is not: the loop, its unrolling, and a loop that reads the cell
first and then runs the same unrolling. -/
theorem loops_circle_clearing :
    let h := Script.host 1
    let w := { Script.SessionInput.recorded with cells := #[.int 3] }
    let settings := Script.settingsOf w .none (.bool false)
    let function := Script.choice Script.clearingTurn .unit
    let unrolled := Value.node 10 (.flatMap Script.reading function)
    settings.Plain ∧
      (∃ k u, Runs h settings unrolled w (.finished .none) k u ∧ k.totalEffects = 3 ∧ u.cells = #[.int 0]) ∧
      (∃ tested k u, Graph.whileLoop unrolled .unit = .ok tested ∧
        Runs h settings tested w (.finished .none) k u ∧ k.totalEffects = 3 ∧ u.cells = #[.int 0]) ∧
      ∀ v k u, ¬ Runs h settings (.suspend (.forever Script.clearing)) w (.finished v) k u := by
  intro h w settings function unrolled
  have hp : settings.Plain := Settings.plain_settingsOf w
  obtain ⟨hwhile, hdoWhile, hforever, -⟩ := loops_circle (h := h) hp
  refine ⟨hp, ?_, ?_, ?_⟩
  · have hrun : ∃ k u, Runs h settings Script.clearingLoop w (.finished .none) k u ∧
        k.totalEffects = 3 ∧ u.cells = #[.int 0] := ⟨_, _, ⟨20, _, rfl, rfl⟩, rfl, rfl⟩
    obtain ⟨k, u, hrun, heffects, hcells⟩ := hrun
    obtain ⟨-, -, hunrolls⟩ := hwhile Script.reading Script.clearing Script.clearingLoop rfl 0 0
    have htold : ToldTheSame h Script.Numbering Script.clearingLoop w := by
      rintro fault label pending k u u' - ⟨rfl, -⟩
      rfl
    have hends := hunrolls function Script.Known Script.Numbering 10 w w Script.goesRound_clearing
      ⟨rfl, 3, rfl⟩ htold
    obtain ⟨e, k', u', hrun', hsame, heffects', rfl, -⟩ := hends.forth hrun
    cases hsame
    exact ⟨k', _, hrun', heffects'.trans heffects, hcells⟩
  · have hrun : ∃ k u,
        Runs h settings (.suspend (.doWhile Script.reading function)) w (.finished .none) k u ∧
        k.totalEffects = 3 ∧ u.cells = #[.int 0] := ⟨_, _, ⟨20, _, rfl, rfl⟩, rfl, rfl⟩
    obtain ⟨k, u, hrun, heffects, hcells⟩ := hrun
    obtain ⟨-, -, hunrolls⟩ := hdoWhile Script.reading function _ rfl 0 0
    have hcondition : Condition h function :=
      Script.condition_choice (fun _ => rfl) (fun _ => rfl) rfl rfl
    obtain ⟨e, k', u', hrun', hsame, heffects', rfl⟩ := (hunrolls hcondition 10 _ _ rfl 0 0 w).forth hrun
    cases hsame
    exact ⟨_, k', u, rfl, hrun', heffects'.trans heffects, hcells⟩
  · obtain ⟨-, -, hnever, -⟩ := hforever Script.clearing _ rfl 0 0
    exact hnever w

end EffectGraph
