import EffectGraph.Proofs.Bracketing
import EffectGraph.Proofs.Lockstep
import EffectGraph.Proofs.Traversing

/-!
# Dropping values, and dropping a list of them

Going through items for their effects drops the value of each node.  A traversal whose value is dropped
adds the values to a list before, which nothing ever looks at.  If the list makes no difference to what
is done for the items (`Heedless`), then the two are loops in lockstep, whatever the items are: they open
and pull alike, build nodes that correspond, and end alike, and in the end the one world has a list more
than the other.
-/

namespace EffectGraph

open Machine Conduct

section skipping

variable (h : Host) (i j : Nat) (p : Value) (u : World)

/-- A node whose value is dropped. -/
theorem evaluates_skip : Evaluates h ((Graph.skip p).identified i j) u =
    Chain (Evaluates h p u) fun _ u' => Finish u' := by
  have hcalled : Called h (.callback j .toUnit) = fun _ u' => Finish u' := by
    funext v u'
    rw [called_of_node (f := .callback j .toUnit) (n := .unit) rfl rfl, Value.unit, evaluates_done]
    rfl
  rw [← hcalled]
  exact evaluates_flatMap h i p (.callback j .toUnit)  u

/-- A traversal makes its list, goes through the items, and gives the list. -/
theorem same_gather (items : Value) (mapper : Mapper Value) :
    Same (Evaluates h ((Loop.gather h items mapper).node i j) u)
      (Chain (Evaluates h ((Traversal.rounds h items mapper u.lists.size).node 0 0) u.listed) fun _ u' =>
        Just (.value (.list u.lists.size)) u') := by
  have hgiven : Called h (.ofCallback (.giveList u.lists.size)) = fun _ u' =>
      Just (.value (.list u.lists.size)) u' := by
    funext v u'
    rw [called_of_node (f := .ofCallback (.giveList u.lists.size)) (n := .done (.list u.lists.size)) rfl rfl,
      Value.done, Value.ofNode, evaluates_done]
  have hstart : (Loop.gather h items mapper).start u =
      .ok (.run (Graph.foldWith items .none (.collect u.lists.size mapper)) u.lists.size) u.listed := rfl
  rw [← hgiven]
  exact Loop.same_run hstart i j

end skipping

/-- **A list makes no difference** to going through items.  That `Hides u w` means that `w` looks like
`u`, though the list is there as well. -/
structure Heedless (h : Host) (items : Value) (mapper : Mapper Value) (results : Nat)
    (Hides : World → World → Prop) where
  /-- Iterators, items and nodes that stand for each other in worlds that look alike. -/
  Cursor : Value → Value → Prop
  Item : Value → Value → Prop
  Node : Value → Value → Prop
  opens {u w} : Hides u w → Together Cursor Hides (h.openIterator items u) (h.openIterator items w)
  pulls {iterator iterator' u w} : Cursor iterator iterator' → Hides u w →
    Together (Option.Rel Item) Hides (h.pull iterator u) (h.pull iterator' w)
  builds {item item' u w} : Item item item' → Hides u w →
    Together Node Hides (mapper.run h item u) (mapper.run h item' w)
  runs {node node' u w} : Node node node' → Hides u w →
    Corresponds (fun _ _ => True) Hides (Evaluates h node u) (Evaluates h node' w)
  /-- A node of an unknown variant has the way of dropping its value that all nodes have. -/
  skips {node node' u w} : Node node node' → node.isKnown = false → Hides u w →
    ∃ i u', node.skipped h u = .ok (.node i (.flatMap node (.ofCallback .toUnit))) u' ∧ Hides u' w
  adds {u w} (v : Value) : Hides u w → Hides u (w.pushed results v)

namespace Heedless

variable {h : Host} {items : Value} {mapper : Mapper Value} {results : Nat}
  {Hides : World → World → Prop} (H : Heedless h items mapper results Hides)

/-- Going through the items for their effects. -/
abbrev droppings (h : Host) (items : Value) (mapper : Mapper Value) : Loop h :=
  .fold h items .none (.discard mapper)

/-- Both have nothing to give. -/
abbrev Nothing (v v' : Value) : Prop := v = .none ∧ v' = .none

theorem exists_skipped {node node' : Value} {u w : World} (hnode : H.Node node node')
    (hw : Hides u w) :
    ∃ i u', node.skipped h u = .ok (.node i (.flatMap node (.ofCallback .toUnit))) u' ∧ Hides u' w := by
  cases hknown : node.isKnown with
  | true => exact ⟨0, u, skipped_of_isKnown hknown u, hw⟩
  | false => exact H.skips hnode hknown hw

/-- A value that is dropped corresponds to one that is added to the list. -/
theorem corresponds_parts {node node' : Value} (hnode : H.Node node node') (i : Nat) {u w : World}
    (hw : Hides u w) :
    Corresponds Nothing Hides (Evaluates h (.node i (.flatMap node (.ofCallback .toUnit))) u)
      (Evaluates h (Traversal.gathering results node') w) := by
  have hskip : Evaluates h (.node i (.flatMap node (.ofCallback .toUnit))) u =
      Chain (Evaluates h node u) fun _ u' => Finish u' := evaluates_skip h i 0 node u
  rw [hskip, Traversal.evaluates_gathering]
  exact (H.runs hnode hw).chain id fun _ _ _ hu => .just ⟨rfl, rfl⟩ (H.adds _ hu)

/-- Both steps build the node of an item, and the one drops its value at once. -/
theorem together_steps {item item' : Value} {u w : World} (hitem : H.Item item item') (hw : Hides u w) :
    Together (fun part part' => ∀ {u w}, Hides u w →
        Corresponds Nothing Hides (Evaluates h part u) (Evaluates h part' w)) Hides
      ((FoldStep.discard mapper).run h .none item u)
      ((FoldStep.collect results mapper).run h .none item' w) := by
  refine (H.builds hitem hw).bind fun hnode hw₁ => ?_
  obtain ⟨i, u', hskip, hw₂⟩ := H.exists_skipped hnode hw₁
  rw [hskip]
  exact .ok (fun hw => H.corresponds_parts hnode i hw) hw₂

/-- **The next rounds stand beside each other.** -/
theorem together_foldElement {iterator iterator' : Value} {u w : World}
    (hcursor : H.Cursor iterator iterator') (hw : Hides u w) :
    Together (Round.Beside h Nothing Nothing H.Cursor Hides) Hides
      (Loop.foldElement h (.discard mapper) iterator .none u)
      (Loop.foldElement h (.collect results mapper) iterator' .none w) := by
  refine (H.pulls hcursor hw).bind fun hitem hw₁ => ?_
  cases hitem with
  | none => exact .ok (.finish ⟨rfl, rfl⟩) hw₁
  | some hitem =>
    exact (H.together_steps hitem hw₁).bind fun hpart hw₂ => .ok (.run hcursor hpart) hw₂

theorem keepsStep : (droppings h items mapper).KeepsStep (Traversal.rounds h items mapper results)
    Nothing Nothing H.Cursor Hides where
  nexts hcursor hv hw := by
    obtain ⟨rfl, rfl⟩ := hv
    exact H.together_foldElement hcursor hw
  named _ _ := rfl

/-- **Going through items for their effects corresponds to a traversal whose value is dropped.** -/
theorem corresponds {w : World} (H : Heedless h items mapper w.lists.size Hides)
    (hw : Hides w w.listed) {i j i' j' k l : Nat}
    (hname : ∀ u u', Hides u u' →
      u.callableName ((droppings h items mapper).starter j) = .str Traversal.starts) :
    Corresponds Eq Hides (Evaluates h ((droppings h items mapper).node i j) w)
      (Evaluates h ((Graph.skip ((Loop.gather h items mapper).node i' j')).identified k l) w) := by
  have hstart : (droppings h items mapper).StartsInStep (Traversal.rounds h items mapper w.lists.size)
      Nothing Nothing H.Cursor Hides j 0 w w.listed :=
    ⟨(H.opens hw).bind fun hcursor hw₁ => H.together_foldElement hcursor hw₁,
      fun hu => (hname _ _ hu).symm⟩
  have hloops := Loop.corresponds H.keepsStep hstart i 0
  rw [evaluates_skip]
  refine .before ?_ (Same.chain (same_gather h i' j' w items mapper) fun _ u => .refl _).symm
  refine .before ?_ (same_chain_chain _ _ _).symm
  refine .after (same_chain_just _).symm ?_
  refine hloops.chain id fun _ _ hv hu => ?_
  obtain ⟨rfl, rfl⟩ := hv
  exact .before (.just rfl hu) (same_chain_just_value _ _ fun _ u => Finish u).symm

end Heedless
end EffectGraph
