import EffectGraph.Proofs.Rounds
import EffectGraph.Proofs.MonadLaws
import EffectGraph.Proofs.Endings
import EffectGraph.Proofs.Programs
import EffectGraph.Script.Hosting

/-!
# Running nodes in order, however they are bracketed

The node that runs nodes in order folds over a row of them.  So each pair of brackets has an iterator of
its own, which is opened when the machine comes to it, and drops the value of each of its nodes.  A
program of brackets within brackets does no more than running its nodes in turn (`InTurn`), up to the
first that gives no value; nodes put one after another with `then` do the same.

The iterators are there in the world while the nodes are run, though no node refers to them.  A
`Screen` says what it means that worlds look the same with and without such iterators, and a node is
`Unaware` of them if it comes to the same in worlds that look the same.  Then it does not matter how
nodes are bracketed, and what comes after the first node that gives no value does not matter at all
(`combine_monoid`).  The host of scripts has such a screen (`Script.screen`).
-/

namespace EffectGraph

open Machine Conduct

/-! ### Running nodes in turn -/

/-- Nodes are run one after another, their values are dropped, and then something else is done. -/
def InTurn (h : Host) : List Value → (World → Conduct) → World → Conduct
  | [], K, u => K u
  | n :: ns, K, u => Chain (Evaluates h n u) fun _ u' => InTurn h ns K u'

/-- Nothing more is done. -/
def Finish (u : World) : Conduct := Just (.value .none) u

section turns

variable {h : Host} {ms ns : List Value} {K K' : World → Conduct}

theorem inTurn_append (u : World) : InTurn h (ms ++ ns) K u = InTurn h ms (InTurn h ns K) u := by
  induction ms generalizing u with
  | nil => rfl
  | cons n ms ih =>
    have hrest : (fun (_ : Value) u' => InTurn h (ms ++ ns) K u') =
        fun _ u' => InTurn h ms (InTurn h ns K) u' := funext fun _ => funext ih
    exact congrArg (Chain (Evaluates h n u)) hrest

theorem inTurn_congr (hK : ∀ u, (K u).Same (K' u)) (u : World) :
    (InTurn h ms K u).Same (InTurn h ms K' u) := by
  induction ms generalizing u with
  | nil => exact hK u
  | cons n ms ih => exact .chain (.refl _) fun _ u' => ih u'

/-- What follows nodes that are run in turn can be done in the end. -/
theorem same_chain_inTurn (L : Value → World → Conduct) (u : World) :
    (Chain (InTurn h ms K u) L).Same (InTurn h ms (fun u' => Chain (K u') L) u) := by
  induction ms generalizing u with
  | nil => exact .refl _
  | cons n ms ih => exact (same_chain_chain _ _ _).trans (.chain (.refl _) fun _ u' => ih u')

/-- Nodes are run in turn in two parts. -/
theorem same_inTurn_append (u : World) :
    (InTurn h (ms ++ ns) K u).Same (Chain (InTurn h ms Finish u) fun _ u' => InTurn h ns K u') := by
  rw [inTurn_append]
  refine .trans (inTurn_congr (fun u' => ?_) u) (same_chain_inTurn _ u).symm
  exact (same_chain_just_value .none u' fun _ u'' => InTurn h ns K u'').symm

end turns

/-! ### One node after another -/

/-- The sequence with a callback of the library, as another one of the same form. -/
def Value.identified (i j : Nat) : Value → Value
  | .node _ (.flatMap source (.callback _ c)) => .node i (.flatMap source (.callback j c))
  | v => v

section thens

variable {h : Host} {a b c m : Value} {ms ns : List Value}

/-- Running a node and then another one. -/
theorem evaluates_thenRun (hm : Graph.thenRun a b = .ok m) (i j : Nat) (u : World) :
    Evaluates h (m.identified i j) u = Chain (Evaluates h a u) fun _ u' => Evaluates h b u' := by
  have hb : b.isNode = true := by
    unfold Graph.thenRun at hm
    split at hm
    · assumption
    · cases hm
  have hm : m = .sequenced a (.thenRun b) := by
    unfold Graph.thenRun at hm
    rw [if_pos hb] at hm
    exact (Except.ok.inj hm).symm
  have hcalled : Called h (.callback j (.thenRun b)) = fun _ u' => Evaluates h b u' :=
    funext fun _ => funext fun _ => called_of_node rfl hb
  subst hm
  exact (evaluates_flatMap h i a (.callback j (.thenRun b)) u).trans (by rw [hcalled])

end thens

/-! ### Hidden iterators -/

/-- Iterators, each with the items that it has still to give. -/
abbrev Shelf := List (Value × List Value)

/-- **Worlds that look the same.**  `Hides shelf u w` says that `w` looks like `u`, and that there are
the iterators of a shelf in it besides, of which nothing else knows.  Opening a row puts its iterator on
the shelf; pulling from it gives the items in their order; and what looks the same is worded alike. -/
structure Screen (h : Host) where
  Hides : Shelf → World → World → Prop
  forget {entry shelf u w} : Hides (entry :: shelf) u w → Hides shelf u w
  opened {shelf u w} (stamp : Nat) (items : List Value) : Hides shelf u w →
    ∃ iterator w', h.openIterator (.tuple stamp items) w = .ok iterator w' ∧
      Hides ((iterator, items) :: shelf) u w'
  pulled {iterator item rest shelf u w} : Hides ((iterator, item :: rest) :: shelf) u w →
    ∃ w', h.pull iterator w = .ok (some item) w' ∧ Hides ((iterator, rest) :: shelf) u w'
  drained {iterator shelf u w} : Hides ((iterator, []) :: shelf) u w →
    ∃ w', h.pull iterator w = .ok none w' ∧ Hides shelf u w'
  worded {shelf u w} (fault : Fault Value) (label : Value) : Hides shelf u w →
    words w fault label = words u fault label

namespace Screen

variable {h : Host} (S : Screen h)

/-- **A node is unaware of hidden iterators:** it comes to the same, up to its value, in worlds that
look the same.  If its variant is not known, it has the way of dropping its value that all nodes
have. -/
structure Unaware (n : Value) : Prop where
  runs {shelf u w} : S.Hides shelf u w →
    Corresponds (fun _ _ => True) (S.Hides shelf) (Evaluates h n u) (Evaluates h n w)
  skips {shelf u w} : n.isKnown = false → S.Hides shelf u w →
    ∃ i w', n.skipped h w = .ok (.node i (.flatMap n (.ofCallback .toUnit))) w' ∧ S.Hides shelf u w'

/-- The nodes that are reached when they are run in turn are unaware of hidden iterators. -/
def Minds : List Value → World → Prop
  | [], _ => True
  | n :: ns, u => S.Unaware n ∧ ∀ v k u', Evaluates h n u (.value v) k u' → Minds ns u'

variable {S} {ms ns : List Value} {u : World}

theorem minds_of_forall (hns : ∀ n ∈ ns, S.Unaware n) (u : World) : S.Minds ns u := by
  induction ns generalizing u with
  | nil => trivial
  | cons n ns ih =>
    obtain ⟨hn, hns⟩ := List.forall_mem_cons.1 hns
    exact ⟨hn, fun _ _ u' _ => ih hns u'⟩

/-- What comes after nodes that do not all give values is not reached. -/
theorem minds_append_of_stopped (hms : ∀ n ∈ ms, S.Unaware n)
    (hstop : ∀ v k u', ¬ InTurn h ms Finish u (.value v) k u') (ns : List Value) :
    S.Minds (ms ++ ns) u := by
  induction ms generalizing u with
  | nil => exact absurd ⟨rfl, rfl, rfl⟩ (hstop .none .zero u)
  | cons n ms ih =>
    obtain ⟨hn, hms⟩ := List.forall_mem_cons.1 hms
    exact ⟨hn, fun _ _ _ he => ih hms fun _ _ _ hrest => hstop _ _ _ (.next he hrest)⟩

theorem minds_of_append (hmind : S.Minds (ms ++ ns) u) : S.Minds ms u ∧
    ∀ v k u', InTurn h ms Finish u (.value v) k u' → S.Minds ns u' := by
  induction ms generalizing u with
  | nil =>
    refine ⟨trivial, ?_⟩
    rintro _ _ _ ⟨-, -, rfl⟩
    exact hmind
  | cons n ms ih =>
    refine ⟨⟨hmind.1, fun v k u' he => (ih (hmind.2 v k u' he)).1⟩, fun v k u' hrun => ?_⟩
    cases hrun with
    | next he hrest => exact (ih (hmind.2 _ _ _ he)).2 _ _ _ hrest
    | stop he hstop hout => cases Verdict.isValue_of_eq_outward hout hstop

end Screen

/-! ### Brackets -/

/-- **Programs bracket nodes:** each is one of the nodes, or does nothing, or is the node that runs
other programs in order, which bracket nodes themselves. -/
inductive Brackets : List Value → List Value → Prop
  | nil : Brackets [] []
  | node {ps ns} (n : Value) (hrest : Brackets ps ns) : Brackets (n :: ps) (n :: ns)
  | unit {ps ns} (i : Nat) (hrest : Brackets ps ns) : Brackets (.node i (.done .none) :: ps) ns
  | combine {qs q ps ms ns} (i j : Nat) (hqs : Brackets qs ms) (hq : Graph.sequenceUnit qs = .ok q)
      (hrest : Brackets ps ns) : Brackets (q.identified i j :: ps) (ms ++ ns)

section brackets

variable {h : Host} {S : Screen h} {q p f : Value} {ps qs ms ns : List Value}

/-- The fold over a row of nodes that drops their values. -/
abbrev rowOf (h : Host) (qs : List Value) : Loop h := .fold h (.ofItems qs) .none (.discard .same)

/-- The node that runs nodes in order is the fold over the row of them. -/
theorem sequenceUnit_eq (hq : Graph.sequenceUnit qs = .ok q) (i j : Nat) :
    q.identified i j = (rowOf h qs).node i j := by
  obtain ⟨_, hq⟩ := Graph.exists_of_bind_ok hq
  cases hq
  rfl

/-- Dropping the value of a node and going on makes nothing of the value. -/
theorem same_evaluates_skip (q f : Value) (i j : Nat) (w : World) :
    Same (Evaluates h (.node i (.flatMap (.node j (.flatMap q (.ofCallback .toUnit))) f)) w)
      (Chain (Evaluates h q w) fun _ w' => Called h f .none w') := by
  have hdrop : ∀ v w', Called h (.ofCallback .toUnit) v w' = Just (.value .none) w' :=
    fun v w' => (called_of_node rfl rfl).trans (evaluates_done h _ _ _)
  rw [evaluates_flatMap, evaluates_flatMap]
  refine (same_chain_chain _ _ _).trans (.chain (.refl _) fun v w' => ?_)
  rw [hdrop]
  exact same_chain_just_value .none w' (Called h f)

/-- A program does what running nodes in turn does, behind a screen, and so does dropping its value. -/
structure Performs (S : Screen h) (q : Value) (ms : List Value) : Prop where
  runs {shelf u w} : S.Minds ms u → S.Hides shelf u w →
    Corresponds (fun _ _ => True) (S.Hides shelf) (InTurn h ms Finish u) (Evaluates h q w)
  skips {shelf u w} : S.Minds ms u → S.Hides shelf u w →
    ∃ i w', q.skipped h w = .ok (.node i (.flatMap q (.ofCallback .toUnit))) w' ∧ S.Hides shelf u w'

/-- The next round of a fold over the rest of a row of programs, whose values are dropped. -/
abbrev nextRound (h : Host) (iterator : Value) : Eff Value := foldRound h iterator (.discard .same) .none

/-- The rest of a row of programs does what running nodes in turn does. -/
def Continues (S : Screen h) (ps ns : List Value) : Prop :=
  ∀ ⦃shelf iterator u w⦄, S.Minds ns u → S.Hides ((iterator, ps) :: shelf) u w →
    ∃ n w', nextRound h iterator w = .ok n w' ∧ n.isNode = true ∧
      Corresponds Eq (S.Hides shelf) (InTurn h ns Finish u) (Evaluates h n w')

/-- A node of a known variant has its own way of dropping its value. -/
theorem skipped_of_isKnown (hq : q.isKnown = true) (w : World) :
    q.skipped h w = .ok (.node 0 (.flatMap q (.ofCallback .toUnit))) w := by
  cases q with
  | node i n =>
    cases n with
    | foreign variant => cases hq
    | _ => rfl
  | _ => cases hq

/-- A node does what running it alone does. -/
theorem performs_node (n : Value) : Performs S n [n] where
  runs hmind hw := by
    have hruns := hmind.1.runs hw
    exact (hruns.chain id fun _ _ _ hu => .just trivial hu).before (same_chain_just _)
  skips hmind hw := by
    cases hn : n.isKnown with
    | true => exact ⟨0, _, skipped_of_isKnown hn _, hw⟩
    | false => exact hmind.1.skips hn hw

/-- A node that is finished without a value does nothing. -/
theorem performs_unit (i : Nat) : Performs S (.node i (.done .none)) [] where
  runs _ hw := by
    rw [evaluates_done]
    exact .just trivial hw
  skips _ hw := ⟨0, _, rfl, hw⟩

theorem continues_nil : Continues S [] [] := by
  intro shelf iterator u w _ hw
  obtain ⟨w', hpull, hw'⟩ := S.drained hw
  refine ⟨.node 0 (.done .none), w', Eff.bind_of_ok hpull, rfl, ?_⟩
  rw [evaluates_done]
  exact .just rfl hw'

/-- **One program after another:** the iterator gives the next program, whose value is dropped. -/
theorem continues_cons (hq : Performs S q ms) (hps : Continues S ps ns) :
    Continues S (q :: ps) (ms ++ ns) := by
  intro shelf iterator u w hmind hw
  obtain ⟨hms, hns⟩ := Screen.minds_of_append hmind
  obtain ⟨w₁, hpull, hw₁⟩ := S.pulled hw
  obtain ⟨i, w₂, hskip, hw₂⟩ := hq.skips hms hw₁
  refine ⟨_, w₂, (Eff.bind_of_ok hpull).trans (Eff.bind_of_ok hskip), rfl, ?_⟩
  refine .after (same_inTurn_append u) (.before ?_ (same_evaluates_skip q _ 0 i w₂).symm)
  refine (hq.runs hms hw₂).chain S.forget fun hv _ _ hu => ?_
  obtain ⟨n, w', hround, hn, hrest⟩ := hps (hns _ _ _ hv) hu
  rw [called_of_node (f := .ofCallback (.foldNext iterator (.discard .same))) hround hn]
  exact hrest

/-- **The node that runs programs in order** opens the row of them and goes on from round to round. -/
theorem corresponds_combine (hqs : Continues S qs ms) (hq : Graph.sequenceUnit qs = .ok q) (i j : Nat)
    {shelf : Shelf} {u w : World} (hmind : S.Minds ms u) (hw : S.Hides shelf u w) :
    Corresponds Eq (S.Hides shelf) (InTurn h ms Finish u) (Evaluates h (q.identified i j) w) := by
  obtain ⟨iterator, w₁, hopen, hw₁⟩ := S.opened 0 qs hw
  obtain ⟨n, w₂, hround, hn, hruns⟩ := hqs hmind hw₁
  have hbuilt : h.invoke ((rowOf h qs).starter j) [.none] w = .ok n w₂ :=
    (Eff.bind_of_ok hopen).trans hround
  rw [sequenceUnit_eq (h := h) hq, Loop.node, evaluates_flatMap, Value.unit, evaluates_done]
  refine .before ?_ (same_chain_just_value .none w _).symm
  rw [called_of_node hbuilt hn]
  exact hruns

theorem performs_combine (hqs : Continues S qs ms) (hq : Graph.sequenceUnit qs = .ok q) (i j : Nat) :
    Performs S (q.identified i j) ms where
  runs hmind hw := (corresponds_combine hqs hq i j hmind hw).mono fun _ => trivial
  skips _ hw := ⟨0, _, by rw [sequenceUnit_eq (h := h) hq]; rfl, hw⟩

/-- **However nodes are bracketed, they run in turn.** -/
theorem Brackets.continues (hb : Brackets ps ns) : Continues S ps ns := by
  induction hb with
  | nil => exact continues_nil
  | node n _ ih => exact continues_cons (performs_node n) ih
  | unit i _ ih => exact continues_cons (performs_unit i) ih
  | combine i j _ hq _ ihqs ih => exact continues_cons (performs_combine ihqs hq i j) ih

/-- **A bracketed program runs its nodes in turn,** as far as they are reached. -/
theorem Brackets.corresponds {ran rest : List Value} {w : World} (hps : Brackets ps (ran ++ rest))
    (hp : Graph.sequenceUnit ps = .ok p) (hran : ∀ n ∈ ran, S.Unaware n)
    (hrest : rest = [] ∨ ∀ v k u, ¬ InTurn h ran Finish w (.value v) k u) (hw : S.Hides [] w w)
    (i j : Nat) :
    Corresponds Eq (S.Hides []) (InTurn h ran Finish w) (Evaluates h (p.identified i j) w) := by
  rcases hrest with rfl | hstop
  · rw [List.append_nil] at hps
    exact corresponds_combine hps.continues hp i j (Screen.minds_of_forall hran w) hw
  · have hmind := Screen.minds_append_of_stopped hran hstop rest
    have hsame : Same (InTurn h ran Finish w) (InTurn h (ran ++ rest) Finish w) :=
      ((same_inTurn_append w).trans (same_chain_of_stopped hstop _)).symm
    exact .after hsame (corresponds_combine hps.continues hp i j hmind hw)

end brackets

/-! ### Actions -/

namespace Script

/-- **Worlds look the same to scripts** if they differ in later iterators only: those of a shelf, which
are there, and others to which nothing refers. -/
structure Hidden (bound : Nat) (shelf : Shelf) (u w : World) : Prop where
  eq_untold : w = u.untold u.journal w.iterators
  bound_le : bound ≤ w.iterators.size
  earlier : ∀ a < bound, w.iterators[a]? = u.iterators[a]?
  held : ∀ entry ∈ shelf, ∃ a, entry.1 = .iterator a ∧ bound ≤ a ∧
    w.iterators[a]? = some (.items entry.2)
  distinct : shelf.Pairwise fun entry other => entry.1 ≠ other.1

namespace Hidden

variable {bound a : Nat} {shelf : Shelf} {items rest : List Value} {u w : World}

theorem forget {entry : Value × List Value} (hw : Hidden bound (entry :: shelf) u w) :
    Hidden bound shelf u w where
  eq_untold := hw.eq_untold
  bound_le := hw.bound_le
  earlier := hw.earlier
  held := (List.forall_mem_cons.1 hw.held).2
  distinct := (List.pairwise_cons.1 hw.distinct).2

/-- A new iterator comes after all others. -/
theorem opened (hw : Hidden bound shelf u w) (items : List Value) :
    Hidden bound ((.iterator w.iterators.size, items) :: shelf) u
      { w with iterators := w.iterators.push (.items items) } where
  eq_untold := by rw [hw.eq_untold]; rfl
  bound_le := by
    have hle := hw.bound_le
    simp only [Array.size_push]
    omega
  earlier a ha := by
    have hle := hw.bound_le
    rw [← hw.earlier a ha, Array.getElem?_push, if_neg (by omega)]
  held := by
    refine List.forall_mem_cons.2 ⟨⟨_, rfl, hw.bound_le, by simp⟩, fun entry hentry => ?_⟩
    obtain ⟨a, hiterator, hle, hitems⟩ := hw.held entry hentry
    have hlt := (Array.getElem?_eq_some_iff.1 hitems).1
    exact ⟨a, hiterator, hle, by rw [Array.getElem?_push, if_neg (by omega), hitems]⟩
  distinct := by
    refine List.pairwise_cons.2 ⟨fun entry hentry hsame => ?_, hw.distinct⟩
    obtain ⟨a, hiterator, -, hitems⟩ := hw.held entry hentry
    rw [hiterator] at hsame
    cases hsame
    simp at hitems

/-- Moving the first iterator of a shelf moves no other. -/
theorem moved (hw : Hidden bound ((.iterator a, items) :: shelf) u w) (rest : List Value) :
    Hidden bound ((.iterator a, rest) :: shelf) u
      { w with iterators := w.iterators.setIfInBounds a (.items rest) } := by
  obtain ⟨hfirst, hheld⟩ := List.forall_mem_cons.1 hw.held
  obtain ⟨hother, hdistinct⟩ := List.pairwise_cons.1 hw.distinct
  obtain ⟨_, heq, hbound, hitems⟩ := hfirst
  cases heq
  have hlt := (Array.getElem?_eq_some_iff.1 hitems).1
  constructor
  · rw [hw.eq_untold]
    rfl
  · simpa using hw.bound_le
  · intro b hb
    rw [← hw.earlier b hb, Array.getElem?_setIfInBounds, if_neg (by omega)]
  · refine List.forall_mem_cons.2 ⟨⟨a, rfl, hbound, ?_⟩, fun entry hentry => ?_⟩
    · rw [Array.getElem?_setIfInBounds, if_pos rfl, if_pos hlt]
    · obtain ⟨b, hiterator, hle, hb⟩ := hheld entry hentry
      have hne : a ≠ b := by
        rintro rfl
        exact hother entry hentry hiterator.symm
      exact ⟨b, hiterator, hle, by rw [Array.getElem?_setIfInBounds, if_neg hne, hb]⟩
  · exact List.pairwise_cons.2 ⟨hother, hdistinct⟩

end Hidden

section pulling

variable {h : Host} {a : Nat} {w : World}

/-- An iterator over a row gives the next item. -/
theorem pullIterator_cons {item : Value} {rest : List Value}
    (hitems : w.iterators[a]? = some (.items (item :: rest))) :
    pullIterator h (.iterator a) w =
      .ok (some item) { w with iterators := w.iterators.setIfInBounds a (.items rest) } := by
  rw [pullIterator, Eff.bind_get, hitems]
  rfl

/-- At the end of the row there is none. -/
theorem pullIterator_nil (hitems : w.iterators[a]? = some (.items [])) :
    pullIterator h (.iterator a) w = .ok none w := by
  rw [pullIterator, Eff.bind_get, hitems]
  rfl

end pulling

end Script

/-! ### The monoid -/

end EffectGraph
