import EffectGraph.Proofs.Endings
import EffectGraph.Proofs.Exits
import EffectGraph.Proofs.Lockstep

/-!
# Loops that go in circles

The loops of the library that have a condition, or none, go in circles: a lap begins with a test, and if
that yields something true, then a turn follows and another lap (`Conduct.Lap`).  `Conduct.Circles` is
the least conduct that goes on in laps.  For a loop that tests first, the test is its condition and the
turn is its body.  One that runs its body first has the body and the condition on its result for a test,
and nothing for a turn.  An endless loop has nothing for a test, and its node for a turn.

The node of each loop has the conduct of its circles: it unrolls into a lap, so it goes at least as far,
and no round of it leads anywhere else (`Loop.Goes.shows`).  So loops with the same laps are the same, and
a loop is over after the laps that it has gone through, in the first one that does not lead to another
(`Conduct.circles_exit_iff`).
-/

namespace EffectGraph

open Machine

namespace Conduct

/-! ### Laps -/

/-- **One lap:** a test, and if that yields something true, a turn and then whatever follows. -/
def Lap (P Q X : World → Conduct) (w : World) : Conduct :=
  Chain (P w) fun again u =>
    if u.isTruthy again then Chain (Q u) fun _ u' => X u' else Just (.value .none) u

/-- **Going in circles,** until a test yields something false, or something gives no value. -/
inductive Circles (P Q : World → Conduct) : World → Conduct where
  | ended {w again m u} (hp : P w (.value again) m u) (hfalse : u.isTruthy again = false) :
      Circles P Q w (.value .none) (m.chained .zero) u
  | stopped {w verdict m u} (hp : P w verdict m u) (hstop : verdict.isValue = false) :
      Circles P Q w verdict.outward m.framed u
  | halted {w again verdict m n u u'} (hp : P w (.value again) m u) (htrue : u.isTruthy again = true)
      (hq : Q u verdict n u') (hstop : verdict.isValue = false) :
      Circles P Q w verdict.outward (m.chained n.framed) u'
  | again {w again v verdict m n k u u' u''} (hp : P w (.value again) m u)
      (htrue : u.isTruthy again = true) (hq : Q u (.value v) n u')
      (hrest : Circles P Q u' verdict k u'') : Circles P Q w verdict (m.chained (n.chained k)) u''

/-- **So many laps were gone through:** each test yielded something true, and each turn a value. -/
inductive Laps (P Q : World → Conduct) : Nat → World → World → Prop where
  | none {w} : Laps P Q 0 w w
  | lap {k w u u' u'' again v m n} (hp : P w (.value again) m u) (htrue : u.isTruthy again = true)
      (hq : Q u (.value v) n u') (hrest : Laps P Q k u' u'') : Laps P Q (k + 1) w u''

/-- **How the last lap ends.** -/
inductive LapEnds (P Q : World → Conduct) (w : World) : PlainFold.Exit → World → Prop where
  | ended {again m u} (hp : P w (.value again) m u) (hfalse : u.isTruthy again = false) :
      LapEnds P Q w (.gives .none) u
  | stops {verdict m u} (hp : P w verdict m u) (hstop : verdict.isValue = false) :
      LapEnds P Q w verdict.exit u
  | halts {again verdict m n u u'} (hp : P w (.value again) m u) (htrue : u.isTruthy again = true)
      (hq : Q u verdict n u') (hstop : verdict.isValue = false) : LapEnds P Q w verdict.exit u'

/-- The laps that were gone through, and the last one. -/
def Circled (P Q : World → Conduct) (w : World) (exit : PlainFold.Exit) (u : World) : Prop :=
  ∃ k u₀, Laps P Q k w u₀ ∧ LapEnds P Q u₀ exit u

variable {P P' Q Q' X : World → Conduct} {w : World}

section laps

variable {again : Value} {m n : Counters} {u u' : World} {verdict : Verdict}

theorem lap_over (hp : P w (.value again) m u) (hfalse : u.isTruthy again = false) :
    Lap P Q X w (.value .none) (m.chained .zero) u := by
  refine .next hp ?_
  rw [if_neg (by simp [hfalse])]
  exact ⟨rfl, rfl, rfl⟩

theorem lap_turn (hp : P w (.value again) m u) (htrue : u.isTruthy again = true)
    (hq : Chain (Q u) (fun _ u' => X u') verdict n u') : Lap P Q X w verdict (m.chained n) u' := by
  refine .next hp ?_
  rw [if_pos htrue]
  exact hq

end laps

/-- **Going in circles is a lap and then going in circles.** -/
theorem circles_eq (P Q : World → Conduct) (w : World) : Circles P Q w = Lap P Q (Circles P Q) w := by
  refine ext fun verdict k u => ⟨fun hc => ?_, fun hl => ?_⟩
  · cases hc with
    | ended hp hfalse => exact lap_over hp hfalse
    | stopped hp hstop => exact .stop hp hstop rfl
    | halted hp htrue hq hstop => exact lap_turn hp htrue (.stop hq hstop rfl)
    | again hp htrue hq hrest => exact lap_turn hp htrue (.next hq hrest)
  · cases hl with
    | stop hp hstop hout => exact hout ▸ .stopped hp hstop
    | next hp hrest =>
      split at hrest
      next htrue =>
        cases hrest with
        | next hq hrest => exact .again hp htrue hq hrest
        | stop hq hstop hout => exact hout ▸ .halted hp htrue hq hstop
      next hfalse =>
        obtain ⟨rfl, rfl, rfl⟩ := hrest
        exact .ended hp (by simpa using hfalse)

/-- **It is the least conduct that does so.** -/
theorem mirrors_circles (hX : ∀ w, Mirrors Eq Eq (Lap P Q X w) (X w)) (w : World) :
    Mirrors Eq Eq (Circles P Q w) (X w) := by
  intro verdict k u hc
  induction hc with
  | ended hp hfalse => exact hX _ (lap_over hp hfalse)
  | stopped hp hstop => exact hX _ (.stop hp hstop rfl)
  | halted hp htrue hq hstop => exact hX _ (lap_turn hp htrue (.stop hq hstop rfl))
  | again hp htrue hq _ ih =>
    obtain ⟨verdict', k', _, hrest, hl, hk, rfl⟩ := ih
    obtain ⟨verdict'', k'', _, hx, hl', hk', rfl⟩ := hX _ (lap_turn hp htrue (.next hq hrest))
    refine ⟨verdict'', k'', _, hx, hl.trans hl' fun ha hb => ha.trans hb, ?_, rfl⟩
    rw [hk']
    simp only [Counters.chained, hk]

/-- **Circles with laps that concur** concur. -/
theorem echoes_circles (hp : ∀ w, (P w).Echoes (P' w)) (hq : ∀ w, (Q w).Echoes (Q' w)) (w : World) :
    (Circles P Q w).Echoes (Circles P' Q' w) := by
  intro verdict k u hc
  induction hc with
  | ended hpw hfalse =>
    obtain ⟨_, m', hpw', ha, hm⟩ := hp _ hpw
    cases ha with
    | value =>
      refine ⟨_, _, .ended hpw' hfalse, .value _, ?_⟩
      simp only [Counters.chained, hm]
  | stopped hpw hstop =>
    obtain ⟨_, m', hpw', ha, hm⟩ := hp _ hpw
    exact ⟨_, _, .stopped hpw' (ha.isValue_eq.trans hstop), ha.outward, hm⟩
  | halted hpw htrue hqu hstop =>
    obtain ⟨_, m', hpw', ha, hm⟩ := hp _ hpw
    obtain ⟨_, n', hqu', ha', hn⟩ := hq _ hqu
    cases ha with
    | value =>
      refine ⟨_, _, .halted hpw' htrue hqu' (ha'.isValue_eq.trans hstop), ha'.outward, ?_⟩
      simp only [Counters.chained, Counters.framed, hm, hn]
  | again hpw htrue hqu _ ih =>
    obtain ⟨_, m', hpw', ha, hm⟩ := hp _ hpw
    obtain ⟨_, n', hqu', ha', hn⟩ := hq _ hqu
    obtain ⟨verdict', k', hrest, ha'', hk⟩ := ih
    cases ha with
    | value =>
      cases ha' with
      | value =>
        refine ⟨verdict', _, .again hpw' htrue hqu' hrest, ha'', ?_⟩
        simp only [Counters.chained, hm, hn, hk]

/-! ### Counting laps -/

/-- **Going in circles ends in the last lap,** and so does every circle. -/
theorem circles_exit_iff {exit : PlainFold.Exit} {u : World} :
    Circled P Q w exit u ↔ ∃ verdict k, Circles P Q w verdict k u ∧ verdict.exit = exit := by
  constructor
  · rintro ⟨n, u₀, hlaps, hend⟩
    induction hlaps with
    | none =>
      cases hend with
      | ended hp hfalse => exact ⟨_, _, .ended hp hfalse, rfl⟩
      | stops hp hstop => exact ⟨_, _, .stopped hp hstop, Verdict.exit_outward _⟩
      | halts hp htrue hq hstop => exact ⟨_, _, .halted hp htrue hq hstop, Verdict.exit_outward _⟩
    | lap hp htrue hq _ ih =>
      obtain ⟨verdict, k, hc, hexit⟩ := ih hend
      exact ⟨verdict, _, .again hp htrue hq hc, hexit⟩
  · rintro ⟨verdict, k, hc, rfl⟩
    induction hc with
    | ended hp hfalse => exact ⟨0, _, .none, .ended hp hfalse⟩
    | stopped hp hstop =>
      rw [Verdict.exit_outward]
      exact ⟨0, _, .none, .stops hp hstop⟩
    | halted hp htrue hq hstop =>
      rw [Verdict.exit_outward]
      exact ⟨0, _, .none, .halts hp htrue hq hstop⟩
    | again hp htrue hq _ ih =>
      obtain ⟨n, u₀, hlaps, hend⟩ := ih
      exact ⟨n + 1, u₀, .lap hp htrue hq hlaps, hend⟩

/-- Some laps were gone through. -/
def Lapped (P Q : World → Conduct) (w u : World) : Prop := ∃ k, Laps P Q k w u

/-- After some laps the test has yielded something that counts as `truth`. -/
def Yielded (P Q : World → Conduct) (w : World) (truth : Bool) (u : World) : Prop :=
  ∃ u₀ again m, Lapped P Q w u₀ ∧ P u₀ (.value again) m u ∧ u.isTruthy again = truth

/-- One lap more. -/
theorem Laps.snoc {k : Nat} {u u' u'' : World} {again v : Value} {m n : Counters} (hlaps : Laps P Q k w u)
    (hp : P u (.value again) m u') (htrue : u'.isTruthy again = true) (hq : Q u' (.value v) n u'') :
    Laps P Q (k + 1) w u'' := by
  induction hlaps with
  | none => exact .lap hp htrue hq .none
  | lap hp' htrue' hq' _ ih => exact .lap hp' htrue' hq' (ih hp)

theorem lapped_refl : Lapped P Q w w := ⟨0, .none⟩

theorem Yielded.lapped {u u' : World} {v : Value} {n : Counters} (hy : Yielded P Q w true u)
    (hq : Q u (.value v) n u') : Lapped P Q w u' := by
  obtain ⟨u₀, again, m, ⟨k, hlaps⟩, hp, htrue⟩ := hy
  exact ⟨k + 1, hlaps.snoc hp htrue hq⟩

/-- **What a lap preserves,** laps do. -/
theorem Lapped.invariant {I : World → Prop} (hlap : ∀ {u again m u' v n u''}, I u →
    P u (.value again) m u' → u'.isTruthy again = true → Q u' (.value v) n u'' → I u'')
    {u : World} (hl : Lapped P Q w u) (hw : I w) : I u := by
  obtain ⟨k, hlaps⟩ := hl
  induction hlaps with
  | none => exact hw
  | lap hp htrue hq _ ih => exact ih (hlap hw hp htrue hq)

/-- **Nothing is given but `None`,** when a test has yielded something false. -/
theorem circled_gives_iff {v : Value} {u : World} :
    Circled P Q w (.gives v) u ↔ v = .none ∧ Yielded P Q w false u := by
  constructor
  · rintro ⟨k, u₀, hlaps, hend⟩
    generalize hexit : PlainFold.Exit.gives v = exit at hend
    cases hend with
    | ended hp hfalse =>
      cases hexit
      exact ⟨rfl, u₀, _, _, ⟨k, hlaps⟩, hp, hfalse⟩
    | stops _ hstop | halts _ _ _ hstop =>
      rw [Verdict.isValue_of_exit hexit.symm] at hstop
      cases hstop
  · rintro ⟨rfl, u₀, again, m, ⟨k, hlaps⟩, hp, hfalse⟩
    exact ⟨k, u₀, hlaps, .ended hp hfalse⟩

/-- Conducts that are the same end in the same ways. -/
theorem Same.exit_iff {P P' : Conduct} (hp : P.Same P') {exit : PlainFold.Exit} {u : World} :
    (∃ verdict k, P verdict k u ∧ verdict.exit = exit) ↔
      ∃ verdict k, P' verdict k u ∧ verdict.exit = exit := by
  have hlike {P P' : Conduct} (hp : Mirrors Eq Eq P P') :
      (∃ verdict k, P verdict k u ∧ verdict.exit = exit) →
        ∃ verdict k, P' verdict k u ∧ verdict.exit = exit := by
    rintro ⟨verdict, k, h, rfl⟩
    obtain ⟨verdict', k', _, h', hl, -, rfl⟩ := hp h
    refine ⟨verdict', k', h', ?_⟩
    cases hl with
    | value hv => exact hv ▸ rfl
    | failure | unknown | interrupt => rfl
  exact ⟨hlike hp.forth, hlike hp.back⟩

/-- Conducts that come to nothing are the same. -/
theorem same_of_never {P P' : Conduct} (hp : ∀ {verdict k u}, ¬ P verdict k u)
    (hp' : ∀ {verdict k u}, ¬ P' verdict k u) : P.Same P' :=
  ⟨fun _ _ _ h => absurd h hp, fun _ _ _ h => absurd h hp'⟩

/-- A conduct comes to one thing only, if to any. -/
def Certain (P : Conduct) : Prop := ∀ ⦃verdict k u⦄, P verdict k u → P.Only verdict k u

theorem certain_just (verdict : Verdict) (u : World) : (Just verdict u).Certain := by
  rintro _ _ _ ⟨rfl, rfl, rfl⟩
  exact only_just _ _

theorem Certain.chain {P : Conduct} {K : Value → World → Conduct} (hp : P.Certain)
    (hk : ∀ v u, (K v u).Certain) : (Chain P K).Certain := by
  intro verdict k u hc
  cases hc with
  | next hfirst hrest => exact (hp hfirst).chain_next (hk _ _ hrest)
  | stop hfirst hstop hout => exact hout ▸ (hp hfirst).chain_stop hstop

/-- **The laps are counted in one way only,** and the last one is found. -/
theorem laps_unique (hP : ∀ w, (P w).Certain) (hQ : ∀ w, (Q w).Certain) {k k' : Nat} {u u' v v' : World}
    {exit exit' : PlainFold.Exit} (hlaps : Laps P Q k w u) (hend : LapEnds P Q u exit v)
    (hlaps' : Laps P Q k' w u') (hend' : LapEnds P Q u' exit' v') : k = k' ∧ u = u' := by
  -- a lap that leads to another one is not the last
  have hlast {x y : World} {again value : Value} {m n : Counters} {z : World} {exit : PlainFold.Exit}
      (hend : LapEnds P Q x exit y) (hp : P x (.value again) m z) (htrue : z.isTruthy again = true)
      {z' : World} (hq : Q z (.value value) n z') : False := by
    cases hend with
    | ended hp' hfalse =>
      obtain ⟨hv, -, rfl⟩ := hP _ hp hp'
      cases hv
      rw [htrue] at hfalse
      cases hfalse
    | stops hp' hstop =>
      obtain ⟨rfl, -, -⟩ := hP _ hp hp'
      cases hstop
    | halts hp' _ hq' hstop =>
      obtain ⟨hv, -, rfl⟩ := hP _ hp hp'
      obtain ⟨rfl, -, -⟩ := hQ _ hq hq'
      cases hstop
  induction hlaps generalizing k' with
  | none =>
    cases hlaps' with
    | none => exact ⟨rfl, rfl⟩
    | lap hp htrue hq => exact (hlast hend hp htrue hq).elim
  | lap hp htrue hq _ ih =>
    cases hlaps' with
    | none => exact (hlast hend' hp htrue hq).elim
    | lap hp' _ hq' hrest' =>
      obtain ⟨-, -, rfl⟩ := hP _ hp hp'
      obtain ⟨-, -, rfl⟩ := hQ _ hq hq'
      obtain ⟨rfl, rfl⟩ := ih hend hrest'
      exact ⟨rfl, rfl⟩

end Conduct

open Conduct

/-! ### Rounds that go in circles -/

namespace Loop

/-- What a round comes to, if `After` says what follows the value of each part. -/
def Standing {h : Host} (L : Loop h) (After : L.State → Value → World → Conduct) :
    Round L.State → World → Conduct
  | .ended, w => Just (.value .none) w
  | .finish v, w => Just (.value v) w
  | .run part s, w => Chain (Evaluates h part w) (After s)

/-- **What follows a part follows from the next round,** or from the fault that the loop raises. -/
structure GoesOn {h : Host} (L : Loop h) (After : L.State → Value → World → Conduct) : Prop where
  next {s v w r w'} : L.next s v w = .ok r w' → Mirrors Eq Eq (L.Standing After r w') (After s v w)
  raised {s v w fault w'} : L.next s v w = .error (.raised fault) w' →
    Mirrors Eq Eq (Just (.ofMishap (fault, w'.callableName (.ofCallback (L.onward s)))) w') (After s v w)

variable {h : Host} {L : Loop h} {r : Round L.State} {w w' : World} {parts : List Part}
  {verdict : Verdict} {k : Counters} {u : World}

/-- **Going through the rounds leads nowhere else.** -/
theorem Goes.shows {After : L.State → Value → World → Conduct} (ha : L.GoesOn After)
    (hg : L.Goes r w parts verdict k u) : (L.Standing After r w).Shows Eq Eq verdict k u := by
  induction hg with
  | ended => exact shows_of_cost ⟨rfl, rfl, rfl⟩ rfl
  | finish => exact shows_of_cost ⟨rfl, rfl, rfl⟩ rfl
  | stopped hpart hstop => exact shows_of_cost (.stop hpart hstop rfl) rfl
  | raised hpart hnext =>
    obtain ⟨verdict', k', _, hafter, hl, hk, rfl⟩ := ha.raised hnext ⟨rfl, rfl, rfl⟩
    refine ⟨verdict', _, _, .next hpart hafter, hl, ?_, rfl⟩
    simp only [Counters.chained, hk]
  | round hpart hnext _ ih =>
    obtain ⟨verdict', k', _, hrest, hl, hk, rfl⟩ := ih
    obtain ⟨verdict'', k'', _, hafter, hl', hk', rfl⟩ := ha.next hnext hrest
    refine ⟨verdict'', _, _, .next hpart hafter, hl.trans hl' fun ha hb => ha.trans hb, ?_, rfl⟩
    simp only [Counters.chained, hk, hk']

/-- Nor does the node of the loop. -/
theorem mirrors_standing {After : L.State → Value → World → Conduct} (ha : L.GoesOn After)
    (hstart : L.start w = .ok r w') (i j : Nat) :
    Mirrors Eq Eq (Evaluates h (L.node i j) w) (L.Standing After r w') := by
  have hround : Mirrors Eq Eq (Evaluates h (r.node L.onward) w') (L.Standing After r w') := by
    intro verdict k u he
    obtain ⟨parts, hg⟩ := goes_of_evaluates he rfl
    exact hg.shows ha
  exact (same_node hstart i j).forth.after hround

/-- **A loop that unrolls into laps goes in circles,** if nothing else follows its first part. -/
theorem same_circles {After : L.State → Value → World → Conduct} {P Q : World → Conduct} {part : Value}
    {s : L.State} {i j : Nat} (hstart : ∀ w, L.start w = .ok (.run part s) w) (ha : L.GoesOn After)
    (hlap : ∀ w, Same (Evaluates h (L.node i j) w) (Lap P Q (Evaluates h (L.node i j)) w))
    (hfirst : ∀ w, Same (Circles P Q w) (Chain (Evaluates h part w) (After s))) (w : World) :
    Same (Evaluates h (L.node i j) w) (Circles P Q w) where
  forth := (mirrors_standing ha (hstart w) i j).after (hfirst w).back
  back := mirrors_circles (fun u => (hlap u).back) w

end Loop

/-! ### A loop that tests first -/

section whileLoop

variable (h : Host) (c b : Value) (i j : Nat)

/-- After the condition it is over, or the body is run; after the body it goes round. -/
def afterWhile : Loop.Half → Value → World → Conduct
  | .condition, again, u =>
    if u.isTruthy again then
      Chain (Evaluates h b u) fun _ u' => Circles (Evaluates h c) (Evaluates h b) u'
    else Just (.value .none) u
  | .body, _, u => Circles (Evaluates h c) (Evaluates h b) u

/-- What is done with the result of the condition. -/
theorem next_condition (again : Value) (u : World) : (Loop.whileLoop h c b).next .condition again u =
    .ok (if u.isTruthy again then .run b .body else .ended) u := rfl

theorem goesOn_while : (Loop.whileLoop h c b).GoesOn (afterWhile h c b) where
  next {s v w r w'} hnext := by
    cases s with
    | body =>
      cases hnext
      exact (Same.of_eq (circles_eq _ _ w).symm).forth
    | condition =>
      rw [next_condition] at hnext
      cases hnext
      refine (Same.of_eq ?_).forth
      by_cases htrue : w.isTruthy v = true
      · rw [if_pos htrue]
        exact (if_pos htrue).symm
      · rw [if_neg htrue]
        exact (if_neg htrue).symm
  raised {s v w fault w'} hnext := by cases s <;> cases hnext

/-- **The node unrolls** into a lap. -/
theorem same_lap_while (w : World) : Same (Evaluates h ((Loop.whileLoop h c b).node i j) w)
    (Lap (Evaluates h c) (Evaluates h b) (Evaluates h ((Loop.whileLoop h c b).node i j)) w) := by
  refine (Loop.same_run (L := .whileLoop h c b) rfl i j).trans (.chain (.refl _) fun again u => ?_)
  refine .trans (.of_eq (Loop.called_onward (next_condition h c b again u))) ?_
  split
  · refine .trans (.of_eq (Loop.evaluates_run (L := .whileLoop h c b) b Loop.Half.body u))
      (.chain (.refl _) fun v u' => ?_)
    have hcalled : Called h (.ofCallback (.whileNext c b)) v u' = _ :=
      Loop.called_onward (L := .whileLoop h c b) (s := .body) rfl
    exact (Same.of_eq hcalled).trans (Loop.same_node (L := .whileLoop h c b) rfl i j).symm
  · exact .of_eq (Loop.evaluates_ended _ u)

/-- **A loop that tests first goes in circles.** -/
theorem same_while (w : World) : Same (Evaluates h ((Loop.whileLoop h c b).node i j) w)
    (Circles (Evaluates h c) (Evaluates h b) w) :=
  Loop.same_circles (fun _ => rfl) (goesOn_while h c b) (same_lap_while h c b i j)
    (fun u => .of_eq (circles_eq _ _ u)) w

end whileLoop

/-! ### A loop that runs its body first -/

/-- **A condition is asked** about a value: the node that it gives is run, and what it raises is blamed on
a name. -/
def Asked (h : Host) (name : World → Value) (condition v : Value) (u : World) : Conduct :=
  match h.call condition [v] [] u with
  | .ok test u' => Evaluates h test u'
  | .error (.raised fault) u' => Just (.ofMishap (fault, name u')) u'
  | .error .exhausted _ => fun _ _ _ => False

/-- A body is run, and a condition is asked about its value.  The callback that asks is blamed. -/
def Tested (h : Host) (body condition : Value) (w : World) : Conduct :=
  Chain (Evaluates h body w)
    (Asked h (·.callableName (.ofCallback (.doWhileCheck body condition))) condition)

theorem certain_asked (h : Host) (name : World → Value) (condition v : Value) (u : World) :
    (Asked h name condition v u).Certain := by
  unfold Asked
  split
  · exact fun _ _ _ he => he.only
  · exact certain_just _ _
  · exact fun _ _ _ hnothing => hnothing.elim

theorem certain_tested (h : Host) (body condition : Value) (w : World) :
    (Tested h body condition w).Certain :=
  .chain (fun _ _ _ he => he.only) fun v u => certain_asked h _ condition v u

/-- Nothing is done. -/
abbrev Nothing (u : World) : Conduct := Just (.value .none) u

section doWhile

variable (h : Host) (body condition : Value) (i j : Nat)

/-- After the result of the condition it is over, or it goes round; after the body that is asked for. -/
def afterDoWhile : Loop.Half → Value → World → Conduct
  | .condition, again, u =>
    if u.isTruthy again then Chain (Nothing u) fun _ u' => Circles (Tested h body condition) Nothing u'
    else Just (.value .none) u
  | .body, v, u =>
    Chain (Asked h (·.callableName (.ofCallback (.doWhileCheck body condition))) condition v u)
      fun again u' =>
        if u'.isTruthy again then
          Chain (Nothing u') fun _ u'' => Circles (Tested h body condition) Nothing u''
        else Just (.value .none) u'

theorem next_again (again : Value) (u : World) :
    (Loop.doWhile h body condition).next .condition again u =
      .ok (if u.isTruthy again then .run body .body else .ended) u := rfl

theorem next_body {v test : Value} {u u' : World} (hcall : h.call condition [v] [] u = .ok test u') :
    (Loop.doWhile h body condition).next .body v u = .ok (.run test .condition) u' :=
  Eff.bind_of_ok hcall

/-- The body, then the condition, and then another lap. -/
theorem same_circles_tested (u : World) :
    Same (Circles (Tested h body condition) Nothing u)
      (Chain (Evaluates h body u) (afterDoWhile h body condition .body)) :=
  (Same.of_eq (circles_eq _ _ u)).trans (same_chain_chain _ _ _)

theorem goesOn_doWhile : (Loop.doWhile h body condition).GoesOn (afterDoWhile h body condition) where
  next {s v w r w'} hnext := by
    cases s with
    | body =>
      obtain ⟨test, u, hcall, hr⟩ := Eff.exists_of_bind_ok hnext
      cases hr
      refine (Same.of_eq ?_).forth
      simp only [afterDoWhile, Asked, hcall]
      rfl
    | condition =>
      rw [next_again] at hnext
      cases hnext
      by_cases htrue : w.isTruthy v = true
      · rw [if_pos htrue]
        have hafter : afterDoWhile h body condition .condition v w = _ := if_pos htrue
        rw [hafter]
        refine ((same_circles_tested h body condition w).symm.trans ?_).forth
        exact (same_chain_just_value .none w fun _ u => Circles (Tested h body condition) Nothing u).symm
      · rw [if_neg htrue]
        exact (Same.of_eq (if_neg htrue).symm).forth
  raised {s v w fault w'} hnext := by
    cases s with
    | body =>
      rcases Eff.of_bind_error hnext with hcall | ⟨test, u, -, hr⟩
      · simp only [afterDoWhile, Asked, hcall]
        exact (same_chain_just_stop (Verdict.isValue_ofMishap _) w' _).back
      · cases hr
    | condition => cases hnext

/-- After the result of the condition it goes round, or it is over. -/
theorem same_called_again (again : Value) (u : World) :
    Same (Called h (.ofCallback (.doWhileAgain body condition)) again u)
      (if u.isTruthy again then
        Chain (Nothing u) fun _ u' => Evaluates h ((Loop.doWhile h body condition).node i j) u'
      else Just (.value .none) u) := by
  refine .trans (.of_eq (Loop.called_onward (next_again h body condition again u))) ?_
  split
  · refine .trans ?_ (same_chain_just_value .none u _).symm
    exact (Loop.same_node (L := .doWhile h body condition) rfl i j).symm
  · exact .of_eq (Loop.evaluates_ended _ u)

/-- After the body the condition is asked. -/
theorem same_called_check (v : Value) (u : World) :
    Same (Called h (.ofCallback (.doWhileCheck body condition)) v u)
      (Chain (Asked h (·.callableName (.ofCallback (.doWhileCheck body condition))) condition v u)
        (Called h (.ofCallback (.doWhileAgain body condition)))) := by
  cases hcall : h.call condition [v] [] u with
  | ok test u' =>
    have hcalled : Called h (.ofCallback (.doWhileCheck body condition)) v u = _ :=
      Loop.called_onward (next_body h body condition hcall)
    have hrun := Loop.evaluates_run (L := .doWhile h body condition) test Loop.Half.condition u'
    simp only [Asked, hcall]
    exact .of_eq (hcalled.trans hrun)
  | error signal u' =>
    cases signal with
    | raised fault =>
      have hraised : h.invoke (.ofCallback (.doWhileCheck body condition)) [v] u =
          .error (.raised fault) u' :=
        Eff.bind_of_error hcall
      rw [called_of_mishap (applied_of_raised hraised)]
      simp only [Asked, hcall]
      exact (same_chain_just_stop (Verdict.isValue_ofMishap _) u' _).symm
    | exhausted =>
      have hspent : h.invoke (.ofCallback (.doWhileCheck body condition)) [v] u = .error .exhausted u' :=
        Eff.bind_of_error hcall
      refine same_of_never (not_called_of_exhausted hspent) fun hc => ?_
      simp only [Asked, hcall] at hc
      cases hc with
      | next hasked | stop hasked => exact hasked

/-- **The node unrolls** into a lap. -/
theorem same_lap_doWhile (w : World) : Same (Evaluates h ((Loop.doWhile h body condition).node i j) w)
    (Lap (Tested h body condition) Nothing
      (Evaluates h ((Loop.doWhile h body condition).node i j)) w) := by
  refine (Loop.same_run (L := .doWhile h body condition) rfl i j).trans
    (.trans (.chain (.refl _) fun v u => ?_) (same_chain_chain _ _ _).symm)
  exact (same_called_check h body condition v u).trans
    (.chain (.refl _) (same_called_again h body condition i j))

/-- **A loop that runs its body first goes in circles.** -/
theorem same_doWhile (w : World) : Same (Evaluates h ((Loop.doWhile h body condition).node i j) w)
    (Circles (Tested h body condition) Nothing w) :=
  Loop.same_circles (fun _ => rfl) (goesOn_doWhile h body condition)
    (same_lap_doWhile h body condition i j) (same_circles_tested h body condition) w

end doWhile

/-! ### An endless loop -/

/-- The test of an endless loop. -/
abbrev Always (u : World) : Conduct := Just (.value (.bool true)) u

section forever

variable (h : Host) (n : Value) (i j : Nat)

/-- It always goes round. -/
def afterForever (_ : Unit) (_ : Value) (u : World) : Conduct := Circles Always (Evaluates h n) u

/-- There is nothing before the node is run again. -/
theorem same_circles_always (u : World) : Same (Circles Always (Evaluates h n) u)
    (Chain (Evaluates h n u) (afterForever h n ())) :=
  (Same.of_eq (circles_eq _ _ u)).trans (same_chain_just_value (.bool true) u _)

theorem goesOn_forever : (Loop.forever h n).GoesOn (afterForever h n) where
  next {s v w r w'} hnext := by
    cases hnext
    exact (same_circles_always h n w).back
  raised hnext := by cases hnext

/-- **The node unrolls:** it is run, and then the loop again. -/
theorem same_forever_then (w : World) : Same (Evaluates h ((Loop.forever h n).node i j) w)
    (Chain (Evaluates h n w) fun _ u => Evaluates h ((Loop.forever h n).node i j) u) := by
  let L := Loop.forever h n
  refine (Loop.same_run (L := L) rfl i j).trans (.chain (.refl _) fun v u => ?_)
  have hcalled : Called h (.ofCallback (.foreverNext n)) v u = _ :=
    Loop.called_onward (L := L) (s := ()) rfl
  exact (Same.of_eq hcalled).trans (Loop.same_node (L := L) rfl i j).symm

/-- It unrolls into a lap whose test is nothing. -/
theorem same_lap_forever (w : World) : Same (Evaluates h ((Loop.forever h n).node i j) w)
    (Lap Always (Evaluates h n) (Evaluates h ((Loop.forever h n).node i j)) w) := by
  have hlap : Same (Lap Always (Evaluates h n) (Evaluates h ((Loop.forever h n).node i j)) w)
      (Chain (Evaluates h n w) fun _ u => Evaluates h ((Loop.forever h n).node i j) u) :=
    same_chain_just_value (.bool true) w _
  exact (same_forever_then h n i j w).trans hlap.symm

/-- **An endless loop goes in circles.** -/
theorem same_forever (w : World) : Same (Evaluates h ((Loop.forever h n).node i j) w)
    (Circles Always (Evaluates h n) w) :=
  Loop.same_circles (fun _ => rfl) (goesOn_forever h n) (same_lap_forever h n i j)
    (same_circles_always h n) w

end forever

end EffectGraph
