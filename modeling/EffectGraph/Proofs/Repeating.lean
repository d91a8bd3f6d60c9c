import EffectGraph.Proofs.Discarding

/-!
# Repeating a node

There are several ways to run a node `n` times: to repeat it, its values being collected or dropped; to
put `n` copies of it in order; and to traverse a range with a function that always gives the node.  The
plain description is `Times`: the node again and again, something being noted after each value.

A repetition goes by the size of its own list.  It comes to what the plain description comes to if no
run of the node changes that list (`LeavesAlone`).  The other ways fold over an iterable that is opened
when the loop starts.  A `Reel` is an iterable with known frames, and a relation between worlds that look
the same but for its iterator; a fold whose steps play the node for each frame comes to the plain
description in a world in which there is no such iterator (`Reel.Plays.corresponds`).
-/

namespace EffectGraph

open Machine Conduct

/-! ### The plain description -/

/-- A node so many times, something being noted after each value, and then something else. -/
def Times (h : Host) (node : Value) (note : Value → World → World) : Nat → (World → Conduct) →
    World → Conduct
  | 0, K, u => K u
  | n + 1, K, u => Chain (Evaluates h node u) fun v u' => Times h node note n K (note v u')

section times

variable {h : Host} {node : Value} {note note' : Value → World → World} {K K' : World → Conduct}
  {results n : Nat} {u w : World}

end times

/-! ### Repetitions -/

section repetitions

variable {h : Host} {node : Value} {n : Nat} {w : World}

end repetitions

/-! ### Folds over known frames -/

/-- **An iterable with known frames,** whose iterator nothing else knows.  That `Looks u w` means that
`w` looks like `u`, whatever iterators there were; that `Left iterator rest u w` means that the iterator
is there besides, with the rest of the frames to give. -/
structure Reel (h : Host) (Looks : World → World → Prop) (iterable : Value) (frames : List Value) where
  Left : Value → List Value → World → World → Prop
  opens {u w} : Looks u w →
    ∃ iterator w', h.openIterator iterable w = .ok iterator w' ∧ Left iterator frames u w'
  pulls {iterator frame rest u w} : Left iterator (frame :: rest) u w →
    ∃ w', h.pull iterator w = .ok (some frame) w' ∧ Left iterator rest u w'
  drains {iterator u w} : Left iterator [] u w → ∃ w', h.pull iterator w = .ok none w' ∧ Looks u w'
  forgets {iterator rest u w} : Left iterator rest u w → Looks u w

namespace Reel

section node

variable {h : Host} {Looks : World → World → Prop} {iterable : Value} {frames : List Value}
  (reel : Reel h Looks iterable frames)

/-- **The steps of a fold play a node** for every frame: it is run, and its value is noted. -/
structure Plays (node : Value) (step : FoldStep Value) (note : Value → World → World) : Prop where
  runs {iterator rest u w} : reel.Left iterator rest u w →
    Corresponds Eq (reel.Left iterator rest) (Evaluates h node u) (Evaluates h node w)
  notes {iterator rest u w} (v : Value) : reel.Left iterator rest u w →
    reel.Left iterator rest (note v u) (note v w)
  steps {iterator rest frame u w} : frame ∈ frames → reel.Left iterator rest u w →
    ∃ part w', step.run h .none frame w = .ok part w' ∧ reel.Left iterator rest u w' ∧
      Same (Evaluates h part w')
        (Chain (Evaluates h node w') fun v w'' => Just (.value .none) (note v w''))

/-- **A node is unaware of the iterator,** and so is what is done with its value.  If its variant is not
known, it has the way of dropping its value that all nodes have. -/
structure Unaware (node : Value) (results : Nat) : Prop where
  runs {iterator rest u w} : reel.Left iterator rest u w →
    Corresponds Eq (reel.Left iterator rest) (Evaluates h node u) (Evaluates h node w)
  adds {iterator rest u w} (v : Value) : reel.Left iterator rest u w →
    reel.Left iterator rest (u.pushed results v) (w.pushed results v)
  skips {iterator rest u w} : node.isKnown = false → reel.Left iterator rest u w →
    ∃ i w', node.skipped h w = .ok (.node i (.flatMap node (.ofCallback .toUnit))) w' ∧
      reel.Left iterator rest u w'

end node

variable {h : Host} {Looks : World → World → Prop} {iterable iterator node : Value}
  {frames rest : List Value} {reel : Reel h Looks iterable frames} {mapper : Mapper Value}
  {step : FoldStep Value} {note : Value → World → World} {results : Nat} {u w : World}

/-- The node of a round that plays a node. -/
theorem same_round {part : Value}
    (hpart : Same (Evaluates h part w)
      (Chain (Evaluates h node w) fun v w' => Just (.value .none) (note v w'))) (iterator : Value) :
    Same (Evaluates h (.sequenced part (.foldNext iterator step)) w)
      (Chain (Evaluates h node w) fun v w' => Called h (.ofCallback (.foldNext iterator step)) .none
        (note v w')) := by
  rw [Value.sequenced, Value.ofNode, evaluates_flatMap]
  refine (Same.chain hpart fun _ _ => .refl _).trans ((same_chain_chain _ _ _).trans ?_)
  exact .chain (.refl _) fun v w' => same_chain_just_value .none _ _

/-- **The rounds that are left play the node for the rest of the frames.** -/
theorem Plays.exists_round (hplays : reel.Plays node step note) (hrest : ∀ frame ∈ rest, frame ∈ frames)
    (hw : reel.Left iterator rest u w) :
    ∃ r w', Loop.foldElement h step iterator .none w = .ok r w' ∧
      Corresponds Eq Looks (Times h node note rest.length Finish u)
        (Evaluates h (r.node (.foldNext · step)) w') := by
  induction rest generalizing u w with
  | nil =>
    obtain ⟨w', hpull, hw'⟩ := reel.drains hw
    refine ⟨.finish .none, w', Eff.bind_of_ok hpull, ?_⟩
    rw [Round.node, Value.done, Value.ofNode, evaluates_done]
    exact .just rfl hw'
  | cons frame rest ih =>
    obtain ⟨hframe, hrest⟩ := List.forall_mem_cons.1 hrest
    obtain ⟨w₁, hpull, hw₁⟩ := reel.pulls hw
    obtain ⟨part, w₂, hstep, hw₂, hpart⟩ := hplays.steps hframe hw₁
    refine ⟨.run part iterator, w₂, Loop.foldElement_of_run hpull hstep, ?_⟩
    refine .before ?_ (same_round hpart iterator).symm
    refine (hplays.runs hw₂).chain reel.forgets (@fun v _ _ _ u₃ w₃ _ _ hv hu => ?_)
    subst hv
    obtain ⟨r, w', hround, hcorresponds⟩ := ih hrest (hplays.notes v hu)
    have hcalled : Called h (.ofCallback (.foldNext iterator step)) .none (note v w₃) = _ :=
      Loop.called_onward (L := .fold h iterable .none step) hround
    rw [hcalled]
    exact hcorresponds

/-- **A fold whose steps play a node** comes to what the plain description comes to, but for the
iterator. -/
theorem Plays.corresponds (hplays : reel.Plays node step note) (hw : Looks u w) (i j : Nat) :
    Corresponds Eq Looks (Times h node note frames.length Finish u)
      (Evaluates h ((Loop.fold h iterable .none step).node i j) w) := by
  obtain ⟨iterator, w₁, hopen, hw₁⟩ := reel.opens hw
  obtain ⟨r, w₂, hround, hcorresponds⟩ := hplays.exists_round (fun _ hframe => hframe) hw₁
  have hstart : (Loop.fold h iterable .none step).start w = .ok r w₂ := (Eff.bind_of_ok hopen).trans hround
  exact .before hcorresponds (Loop.same_node hstart i j).symm

end Reel

end EffectGraph
