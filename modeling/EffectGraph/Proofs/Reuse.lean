import EffectGraph.Proofs.Copies
import EffectGraph.Proofs.Space

/-!
# Running a node again

A loop that is run again starts anew: going through it starts with opening its iterable, with calling
its function for a generator, or with making a list, in the world that it is run from, and the node
holds none of these.  A node that collects results (`Collects`) makes a list of its own in each run,
which was not there before; all else that the run does to lists is done by what the node was given, the
iterable, the function and the nodes (`Episode`), so that a list of an earlier run stays as it is unless
one of these changes it.
-/

namespace EffectGraph

open Machine

/-- A computation leaves a world, with a value or without. -/
def Eff.Leaves {α : Type} (x : Eff α) (w w' : World) : Prop :=
  (∃ a, x w = .ok a w') ∨ ∃ signal, x w = .error signal w'

namespace Eff.Leaves

variable {α β : Type} {x : Eff α} {f : α → Eff β} {w w' : World}

theorem of_ok {a : α} (hx : x w = .ok a w') : x.Leaves w w' := .inl ⟨a, hx⟩

theorem of_error {signal : Signal} (hx : x w = .error signal w') : x.Leaves w w' := .inr ⟨signal, hx⟩

/-- A sequence ends where its first part stops, or where the rest ends. -/
theorem bind_cases (hx : (x >>= f).Leaves w w') :
    (∃ a w₁, x w = .ok a w₁ ∧ (f a).Leaves w₁ w') ∨ ∃ signal, x w = .error signal w' := by
  cases hw : x w with
  | ok a w₁ =>
    refine .inl ⟨a, w₁, rfl, ?_⟩
    unfold Eff.Leaves at hx
    rw [bind_of_ok hw] at hx
    exact hx
  | error signal w₁ =>
    refine .inr ⟨signal, ?_⟩
    unfold Eff.Leaves at hx
    rw [bind_of_error hw] at hx
    rcases hx with ⟨b, hb⟩ | ⟨_, hb⟩ <;> cases hb
    rfl

end Eff.Leaves

/-- What a node that collects results is given: a node to run again and again, or items and what
makes a node of each. -/
inductive Given where
  | node (part : Value)
  | items (items : Value) (mapper : Mapper Value)

/-- **Something that a collecting node was given does something:** its node is run, its iterable is
opened or pulled, or a node is made of an element or run. -/
inductive Episode (h : Host) : Given → World → World → Prop
  | repeated {part verdict k w w'} (he : Evaluates h part w verdict k w') :
      Episode h (.node part) w w'
  | opened {items mapper w w'} (ho : (h.openIterator items).Leaves w w') :
      Episode h (.items items mapper) w w'
  | pulled {items mapper iterator w w'} (hp : (h.pull iterator).Leaves w w') :
      Episode h (.items items mapper) w w'
  | mapped {items mapper element w w'} (hm : (Mapper.run h element mapper).Leaves w w') :
      Episode h (.items items mapper) w w'
  | ran {items mapper iterator element part verdict k u u₁ u₂ w w'}
      (hp : h.pull iterator u = .ok (some element) u₁)
      (hm : Mapper.run h element mapper u₁ = .ok part u₂) (he : Evaluates h part w verdict k w') :
      Episode h (.items items mapper) w w'

/-- The lists with an address below a bound are as they were, and none has gone. -/
def World.SparesBelow (n : Nat) (w w' : World) : Prop :=
  w.lists.size ≤ w'.lists.size ∧ ∀ a < n, w'.lists[a]? = w.lists[a]?

/-- **What happens in a part of a run,** as far as it concerns lists below a bound: the episodes, and
between them nothing that touches such a list. -/
inductive Passes (h : Host) (g : Given) (n : Nat) : List (World × World) → World → World → Prop
  | nil {w} : Passes h g n [] w w
  | own {episodes w w₁ w'} (hw : w.SparesBelow n w₁) (hrest : Passes h g n episodes w₁ w') :
      Passes h g n episodes w w'
  | given {episodes w w₁ w'} (he : Episode h g w w₁) (hrest : Passes h g n episodes w₁ w') :
      Passes h g n ((w, w₁) :: episodes) w w'

namespace Passes

variable {h : Host} {g : Given} {n : Nat} {w w₁ w' : World} {es es' : List (World × World)}

theorem append (hes : Passes h g n es w w₁) (hes' : Passes h g n es' w₁ w') :
    Passes h g n (es ++ es') w w' := by
  induction hes with
  | nil => exact hes'
  | own hw _ ih => exact .own hw (ih hes')
  | given he _ ih => exact .given he (ih hes')

theorem single (he : Episode h g w w') : Passes h g n [(w, w')] w w' := .given he .nil

theorem of_own (hw : w.SparesBelow n w') : Passes h g n [] w w' := .own hw .nil

theorem episode (hes : Passes h g n es w w') : ∀ e ∈ es, Episode h g e.1 e.2 := by
  induction hes with
  | nil => exact List.forall_mem_nil _
  | own _ _ ih => exact ih
  | given he _ ih => exact List.forall_mem_cons.mpr ⟨he, ih⟩

/-- A list that no episode changes is as it was. -/
theorem lists_eq (hes : Passes h g n es w w') {a : Nat} (ha : a < n)
    (hkept : ∀ e ∈ es, e.2.lists[a]? = e.1.lists[a]?) : w'.lists[a]? = w.lists[a]? := by
  induction hes with
  | nil => rfl
  | own hw _ ih => exact (ih hkept).trans (hw.2 a ha)
  | given _ _ ih =>
    obtain ⟨hfirst, hrest⟩ := List.forall_mem_cons.mp hkept
    exact (ih hrest).trans hfirst

/-- If no episode takes lists away, there are no fewer than before. -/
theorem size_le (hes : Passes h g n es w w')
    (hkept : ∀ e ∈ es, e.1.lists.size ≤ e.2.lists.size) : w.lists.size ≤ w'.lists.size := by
  induction hes with
  | nil => exact Nat.le_refl _
  | own hw _ ih => exact Nat.le_trans hw.1 (ih hkept)
  | given _ _ ih =>
    obtain ⟨hfirst, hrest⟩ := List.forall_mem_cons.mp hkept
    exact Nat.le_trans hfirst (ih hrest)

end Passes

/-! ### What the library does to lists itself -/

section lists

variable {n address : Nat} {w w' : World}

/-- The world with a new list. -/
theorem World.sparesBelow_newListAddress (w : World) :
    w.SparesBelow w.lists.size { w with lists := w.lists.push #[] } :=
  ⟨by simp, fun a ha => by simp [Array.getElem?_push, Nat.ne_of_lt ha]⟩

/-- An item that is added to a list changes no other. -/
theorem World.sparesBelow_pushItem (hn : n ≤ address) {item : Value}
    (hp : World.pushItem address item w = .ok () w') : w.SparesBelow n w' := by
  cases hp
  refine ⟨by simp, fun a ha => ?_⟩
  simp only [Array.getElem?_modify]
  rw [if_neg (by omega)]

end lists

/-! ### Replications -/

section replications

variable {h : Host} {n results : Nat} {count : Int} {part : Value} {u w' : World}

/-- A replication ends or goes on after a look at its list. -/
theorem Loop.replicateAgain_cases (count : Int) (part : Value) (results : Nat) (w : World) :
    ∃ r, Loop.replicateAgain count part results w = .ok r w ∧
      (r = .finish (.list results) ∨ r = .run part results) := by
  refine ⟨_, rfl, ?_⟩
  split
  · exact .inl rfl
  · exact .inr rfl

/-- A round of a replication adds to its own list only, and the last one gives this list. -/
theorem Loop.passes_replicate {r : Round (Loop.replicate h count part).State} {parts : List Part}
    {verdict : Verdict} {k : Counters}
    (hr : (Loop.replicate h count part).Goes r u parts verdict k w')
    (hround : r = .finish (.list results) ∨ r = .run part results) (hn : n ≤ results) :
    (∃ es, Passes h (.node part) n es u w') ∧ ∀ v, verdict = .value v → v = .list results := by
  have hnext : ∀ v w, ∃ r w', (Loop.replicate h count part).next results v w = .ok r w' ∧
      w.SparesBelow n w' ∧ (r = .finish (.list results) ∨ r = .run part results) := by
    intro v w
    obtain ⟨r, hr, hround⟩ := Loop.replicateAgain_cases count part results _
    exact ⟨r, _, hr, World.sparesBelow_pushItem hn rfl, hround⟩
  induction hr with
  | ended => rcases hround with hround | hround <;> cases hround
  | finish =>
    rcases hround with hround | hround <;> cases hround
    exact ⟨⟨_, .nil⟩, fun v hv => by cases hv; rfl⟩
  | stopped hpart hstop =>
    rcases hround with hround | hround <;> cases hround
    refine ⟨⟨_, .single (.repeated hpart)⟩, fun v hv => ?_⟩
    rw [← Verdict.isValue_outward, hv] at hstop
    cases hstop
  | @raised _ _ v _ _ _ w₁ _ hpart hraised =>
    rcases hround with hround | hround <;> cases hround
    obtain ⟨_, _, hok, -⟩ := hnext v w₁
    rw [hok] at hraised
    cases hraised
  | @round _ _ v _ _ _ _ _ _ w₁ _ _ hpart hgone _ ih =>
    rcases hround with hround | hround <;> cases hround
    obtain ⟨r, w₂, hok, hspared, hround⟩ := hnext v w₁
    rw [hok] at hgone
    cases hgone
    obtain ⟨⟨es, hes⟩, hvalue⟩ := ih hround
    exact ⟨⟨_, .given (.repeated hpart) (.own hspared hes)⟩, hvalue⟩

/-- **A run of a replication gives a list of its own.** -/
theorem Loop.passes_node_replicate {i j : Nat} {verdict : Verdict} {k : Counters} {w : World}
    (he : Evaluates h ((Loop.replicate h count part).node i j) w verdict k w') :
    (∃ es, Passes h (.node part) w.lists.size es { w with lists := w.lists.push #[] } w') ∧
      ∀ v, verdict = .value v → v = .list w.lists.size := by
  obtain ⟨r, hstart, hround⟩ :=
    Loop.replicateAgain_cases count part w.lists.size { w with lists := w.lists.push #[] }
  have hstarted : (Loop.replicate h count part).start w = .ok r { w with lists := w.lists.push #[] } :=
    (Eff.bind_of_ok rfl).trans hstart
  obtain ⟨parts, hu⟩ := Loop.evaluates_node_iff.1 he
  cases hu with
  | raised hraised =>
    rw [hstarted] at hraised
    cases hraised
  | started hgone hrest =>
    rw [hstarted] at hgone
    cases hgone
    exact Loop.passes_replicate hrest hround (Nat.le_refl _)

end replications

/-! ### Traversals -/

section traversals

variable {h : Host} {n results : Nat} {items : Value} {mapper : Mapper Value} {u w w' : World}

/-- The node of an element, with its value added to a list. -/
def collecting (results : Nat) (part : Value) : Value := .sequenced part (.appendTo results)

/-- A round of a traversal: it is over, or it runs the node that was made of an element. -/
inductive Collecting (h : Host) (mapper : Mapper Value) (results : Nat) : Round Value → Prop
  | finish (v) : Collecting h mapper results (.finish v)
  | run {iterator element part u u₁ u₂} (s) (hp : h.pull iterator u = .ok (some element) u₁)
      (hm : Mapper.run h element mapper u₁ = .ok part u₂) :
      Collecting h mapper results (.run (collecting results part) s)

/-- A pull and a call of the function come before each part of a traversal. -/
theorem Loop.passes_foldElement {iterator accumulator : Value}
    (hl : (Loop.foldElement h (.collect results mapper) iterator accumulator).Leaves u w') :
    ∃ es, Passes h (.items items mapper) n es u w' := by
  rcases Eff.Leaves.bind_cases hl with ⟨element, u₁, hpull, hl⟩ | ⟨signal, hpull⟩
  · have hpulled : Episode h (.items items mapper) u u₁ := .pulled (.of_ok hpull)
    cases element with
    | none =>
      rcases hl with ⟨_, hl⟩ | ⟨_, hl⟩ <;> cases hl
      exact ⟨_, .single hpulled⟩
    | some element =>
      simp only [FoldStep.run, bind_assoc] at hl
      rcases Eff.Leaves.bind_cases hl with ⟨part, u₂, hpart, hl⟩ | ⟨signal, hpart⟩
      · rcases hl with ⟨_, hl⟩ | ⟨_, hl⟩ <;> cases hl
        exact ⟨_, .given hpulled (.single (.mapped (.of_ok hpart)))⟩
      · exact ⟨_, .given hpulled (.single (.mapped (.of_error hpart)))⟩
  · exact ⟨_, .single (.pulled (.of_error hpull))⟩

theorem Loop.collecting_foldElement {iterator accumulator : Value} {r : Round Value}
    (hr : Loop.foldElement h (.collect results mapper) iterator accumulator u = .ok r w') :
    Collecting h mapper results r := by
  obtain ⟨element, u₁, hpull, hr⟩ := Eff.exists_of_bind_ok hr
  cases element with
  | none =>
    cases hr
    exact .finish _
  | some element =>
    simp only [FoldStep.run, bind_assoc] at hr
    obtain ⟨part, u₂, hpart, hr⟩ := Eff.exists_of_bind_ok hr
    cases hr
    exact .run iterator hpull hpart

/-- A node that is collected runs, and then its value is added. -/
theorem passes_collecting {iterator element part : Value} {verdict : Verdict} {k : Counters}
    {u₀ u₁ u₂ : World} (hn : n ≤ results) (hp : h.pull iterator u₀ = .ok (some element) u₁)
    (hm : Mapper.run h element mapper u₁ = .ok part u₂)
    (he : Evaluates h (collecting results part) u verdict k w') :
    ∃ es, Passes h (.items items mapper) n es u w' := by
  have happended : ∀ v w, ∃ w', applied h (.ofCallback (.appendTo results)) v w = .ok (.ok .unit) w' ∧
      w.SparesBelow n w' :=
    fun v w => ⟨_, applied_of_node rfl rfl, World.sparesBelow_pushItem hn rfl⟩
  cases he with
  | @sequence _ _ _ v _ _ _ _ _ w₁ _ _ hpart hf hnode =>
    obtain ⟨w₂, hok, hspared⟩ := happended v w₁
    rw [hok] at hf
    cases hf
    cases hnode with
    | done => exact ⟨_, .given (.ran hp hm hpart) (.of_own hspared)⟩
    | unknown hv => cases hv
  | @sequenceMishap _ _ _ v _ _ _ w₁ _ hpart hf =>
    obtain ⟨w₂, hok, -⟩ := happended v w₁
    rw [hok] at hf
    cases hf
  | sequenceStopped hpart _ => exact ⟨_, .single (.ran hp hm hpart)⟩
  | unknown hv => cases hv

/-- The rounds of a traversal. -/
theorem Loop.passes_traverse
    {r : Round (Loop.fold h items .none (.collect results mapper)).State} {parts : List Part}
    {verdict : Verdict} {k : Counters}
    (hr : (Loop.fold h items .none (.collect results mapper)).Goes r u parts verdict k w')
    (hround : Collecting h mapper results r) (hn : n ≤ results) :
    ∃ es, Passes h (.items items mapper) n es u w' := by
  induction hr with
  | ended => exact ⟨_, .nil⟩
  | finish => exact ⟨_, .nil⟩
  | stopped hpart _ =>
    cases hround with
    | run s hp hm => exact passes_collecting hn hp hm hpart
  | raised hpart hraised =>
    cases hround with
    | run s hp hm =>
      obtain ⟨es, hes⟩ := passes_collecting hn hp hm hpart
      obtain ⟨es', hes'⟩ := Loop.passes_foldElement (.of_error hraised)
      exact ⟨_, hes.append hes'⟩
  | round hpart hgone _ ih =>
    cases hround with
    | run s hp hm =>
      obtain ⟨es, hes⟩ := passes_collecting hn hp hm hpart
      obtain ⟨es', hes'⟩ := Loop.passes_foldElement (.of_ok hgone)
      obtain ⟨es'', hes''⟩ := ih (Loop.collecting_foldElement hgone)
      exact ⟨_, (hes.append hes').append hes''⟩

/-- The node that goes through the items of a traversal and adds to a list. -/
theorem Loop.passes_unrolls {parts : List Part} {verdict : Verdict} {k : Counters} {j : Nat}
    (hn : n ≤ results)
    (hu : (Loop.fold h items .none (.collect results mapper)).Unrolls j u parts verdict k w') :
    ∃ es, Passes h (.items items mapper) n es u w' := by
  cases hu with
  | raised hraised =>
    rcases Eff.Leaves.bind_cases (.of_error hraised) with ⟨iterator, u₁, hopen, hl⟩ | ⟨_, hopen⟩
    · obtain ⟨es, hes⟩ := Loop.passes_foldElement hl
      exact ⟨_, .given (.opened (.of_ok hopen)) hes⟩
    · exact ⟨_, .single (.opened (.of_error hopen))⟩
  | started hgone hrest =>
    obtain ⟨iterator, u₁, hopen, hfirst⟩ := Eff.exists_of_bind_ok hgone
    obtain ⟨es, hes⟩ := Loop.passes_foldElement (.of_ok hfirst)
    obtain ⟨es', hes'⟩ := Loop.passes_traverse hrest (Loop.collecting_foldElement hfirst) hn
    exact ⟨_, .given (.opened (.of_ok hopen)) (hes.append hes')⟩

end traversals

/-- What a traversal comes to when going through its items has come to something: its list, or what
has ended it. -/
def Verdict.gathered (results : Nat) : Verdict → Verdict
  | .value _ => .value (.list results)
  | verdict => verdict.outward

/-- What a traversal costs when going through its items has cost something. -/
def Verdict.gatheringCost (k : Counters) : Verdict → Counters
  | .value _ => k.chained .zero
  | _ => k.framed

section nodes

variable {h : Host} {i j : Nat} {items : Value} {mapper : Mapper Value} {verdict : Verdict}
  {k : Counters} {w w' : World}

/-- **A traversal makes a list and goes through its items,** adding to this list. -/
theorem evaluates_traverse_iff :
    Evaluates h (.node i (.flatMap .unit (.callback j (.suspended (.traverse items mapper))))) w
        verdict k w' ↔
      ∃ parts through n, (Loop.fold h items .none (.collect w.lists.size mapper)).Unrolls 0
          { w with lists := w.lists.push #[] } parts through n w' ∧
        verdict = through.gathered w.lists.size ∧
        k = Counters.zero.chained (through.gatheringCost n) := by
  have hbuilt : applied h (.callback j (.suspended (.traverse items mapper))) .none w =
      .ok (.ok (.sequenced (Graph.foldWith items .none (.collect w.lists.size mapper))
        (.giveList w.lists.size))) { w with lists := w.lists.push #[] } :=
    applied_of_node rfl rfl
  have hgiven : ∀ v u, applied h (.ofCallback (.giveList w.lists.size)) v u =
      .ok (.ok (.done (.list w.lists.size))) u := fun v u => applied_of_node rfl rfl
  have hthrough : ∀ {u verdict n u'},
      Evaluates h (Graph.foldWith items .none (.collect w.lists.size mapper)) u verdict n u' ↔
        ∃ parts, (Loop.fold h items .none (.collect w.lists.size mapper)).Unrolls 0 u parts verdict n u' :=
    Loop.evaluates_node_iff (L := Loop.fold h items .none (.collect w.lists.size mapper)) (i := 0)
  constructor
  · intro he
    obtain ⟨n, rfl, hnode⟩ : ∃ n, k = Counters.zero.chained n ∧
        Evaluates h (.sequenced (Graph.foldWith items .none (.collect w.lists.size mapper))
          (.giveList w.lists.size)) { w with lists := w.lists.push #[] } verdict n w' := by
      cases he with
      | sequence hsource hf hnode =>
        cases hsource
        rw [hbuilt] at hf
        cases hf
        exact ⟨_, rfl, hnode⟩
      | sequenceMishap hsource hf =>
        cases hsource
        rw [hbuilt] at hf
        cases hf
      | sequenceStopped hsource hstop =>
        cases hsource with
        | done => cases hstop
        | unknown hv => cases hv
      | unknown hv => cases hv
    cases hnode with
    | sequence hfold hf hdone =>
      rw [hgiven] at hf
      cases hf
      obtain ⟨parts, hu⟩ := hthrough.1 hfold
      cases hdone with
      | done => exact ⟨parts, _, _, hu, rfl, rfl⟩
      | unknown hv => cases hv
    | sequenceMishap hfold hf =>
      rw [hgiven] at hf
      cases hf
    | @sequenceStopped _ _ _ through n _ _ hfold hstop =>
      obtain ⟨parts, hu⟩ := hthrough.1 hfold
      refine ⟨parts, through, n, hu, ?_⟩
      cases through with
      | value v => cases hstop
      | _ => exact ⟨rfl, rfl⟩
    | unknown hv => cases hv
  · rintro ⟨parts, through, n, hu, rfl, rfl⟩
    have hfold := hthrough.2 ⟨parts, hu⟩
    refine .sequence .done hbuilt ?_
    cases through with
    | value v => exact .sequence hfold (hgiven v w') .done
    | _ => exact .sequenceStopped hfold rfl

/-- **A run of a traversal gives a list of its own.** -/
theorem passes_node_traverse
    (he : Evaluates h (.node i (.flatMap .unit (.callback j (.suspended (.traverse items mapper))))) w
      verdict k w') :
    (∃ es, Passes h (.items items mapper) w.lists.size es { w with lists := w.lists.push #[] } w') ∧
      ∀ v, verdict = .value v → v = .list w.lists.size := by
  obtain ⟨parts, through, n, hu, rfl, -⟩ := evaluates_traverse_iff.1 he
  refine ⟨Loop.passes_unrolls (Nat.le_refl _) hu, fun v hv => ?_⟩
  cases through with
  | value _ =>
    cases hv
    rfl
  | _ => cases hv

end nodes

/-! ### Nodes that collect -/

/-- **A node that collects results in a list,** and what it is given.  The node that runs the nodes of
an iterable in order is the traversal of its elements. -/
inductive Collects : Value → Given → Prop
  | replicate {count part node} (hn : Graph.replicate count part = .ok node) :
      Collects node (.node part)
  | traverse (items mapper) : Collects (Graph.traverse items mapper) (.items items mapper)
  /-- Which of several nodes of the same form it is does not matter. -/
  | identified {i j factory g} (i' j' : Nat)
      (hc : Collects (.node i (.flatMap .unit (.callback j (.suspended factory)))) g) :
      Collects (.node i' (.flatMap .unit (.callback j' (.suspended factory)))) g

/-- What a factory that collects is given. -/
inductive Factory.Collects : Factory Value → Given → Prop
  | replicate (count part) : Collects (.replicate count part) (.node part)
  | traverse (items mapper) : Collects (.traverse items mapper) (.items items mapper)

namespace Collects

variable {h : Host} {node : Value} {g : Given} {w w' : World}

/-- Such a node is a replication or a traversal. -/
theorem exists_factory (hc : Collects node g) :
    ∃ i j factory, node = .node i (.flatMap .unit (.callback j (.suspended factory))) ∧
      factory.Collects g := by
  induction hc with
  | replicate hn =>
    obtain ⟨-, hrest⟩ := Graph.isNode_of_requireNode_bind hn
    obtain ⟨n, hn⟩ := Graph.exists_of_bind_ok hrest
    cases hn
    exact ⟨0, 0, _, rfl, .replicate n _⟩
  | traverse items mapper => exact ⟨0, 0, _, rfl, .traverse items mapper⟩
  | identified i' j' _ ih =>
    obtain ⟨i, j, factory, hnode, hfactory⟩ := ih
    cases hnode
    exact ⟨i', j', _, rfl, hfactory⟩

theorem passes {verdict : Verdict} {k : Counters} (hc : Collects node g)
    (he : Evaluates h node w verdict k w') :
    (∃ es, Passes h g w.lists.size es { w with lists := w.lists.push #[] } w') ∧
      ∀ v, verdict = .value v → v = .list w.lists.size := by
  obtain ⟨i, j, factory, rfl, hfactory⟩ := hc.exists_factory
  cases hfactory with
  | replicate count part => exact Loop.passes_node_replicate he
  | traverse items mapper => exact passes_node_traverse he

/-- A run of a node that collects results gives the list that comes after those that there are. -/
theorem eq_list {settings : Settings} {v : Value} {c : Counters} (hp : settings.Plain)
    (hc : Collects node g) (hrun : Runs h settings node w (.finished v) c w') :
    v = .list w.lists.size := by
  obtain ⟨verdict, k, he, hending, -⟩ := (runs_iff hp).1 hrun
  refine (hc.passes he).2 v ?_
  cases verdict with
  | value u =>
    cases hending
    rfl
  | failure fault label pending =>
    simp only [Verdict.ending] at hending
    split at hending <;> cases hending
  | unknown | interrupt => cases hending

end Collects

/-- **Graphs can be run again.**  Two nodes that were built by the same expression are the same node,
whenever and in whatever worlds they were built, so what runs have left behind in the world has no part
in them.  Any run of a loop goes through the loop from its start, in the world that the run begins in:
it opens its iterable, calls its function for a generator or makes its list there; and so does any run
of a traversal.  A run of a node that collects results, however it ends, changes a list that there is
when it begins only where an iterable, a function or a node that the collecting node was given changes
it.  If it gives a value, this is a list that was not there before; and unless these take lists away,
no run of such a node that begins when it has ended, or later, gives the same list. -/
theorem graphs_reusable (h : Host) {settings : Settings} (hp : settings.Plain) :
    (∀ node copy, Script.Copies h node copy → copy = node) ∧
    (∀ node L, Repeats h node L → ∃ j, ∀ w e c w', Runs h settings node w e c w' ↔
      ∃ parts verdict k, L.Unrolls j w parts verdict k w' ∧ verdict.ending w' k = e ∧
        verdict.total k = c) ∧
    (∀ items mapper w e c w', Runs h settings (Graph.traverse items mapper) w e c w' ↔
      ∃ parts through n, (Loop.fold h items .none (.collect w.lists.size mapper)).Unrolls 0
          { w with lists := w.lists.push #[] } parts through n w' ∧
        (through.gathered w.lists.size).ending w'
          (Counters.zero.chained (through.gatheringCost n)) = e ∧
        (through.gathered w.lists.size).total (Counters.zero.chained (through.gatheringCost n)) = c) ∧
    ∀ node g, Collects node g → ∀ w e c w', Runs h settings node w e c w' →
      ∃ episodes : List (World × World), (∀ ep ∈ episodes, Episode h g ep.1 ep.2) ∧
        (∀ a < w.lists.size, (∀ ep ∈ episodes, ep.2.lists[a]? = ep.1.lists[a]?) →
          w'.lists[a]? = w.lists[a]?) ∧
        ∀ v, e = .finished v → v = .list w.lists.size ∧
          ((∀ ep ∈ episodes, ep.1.lists.size ≤ ep.2.lists.size) → ∀ later g' w₂ c₂ w₂',
            Collects later g' → w'.lists.size ≤ w₂.lists.size →
            ¬ Runs h settings later w₂ (.finished v) c₂ w₂') := by
  refine ⟨fun _ _ hc => hc.eq, fun node L hL => ?_, fun items mapper w e c w' => ?_,
    fun node g hc w e c w' hrun => ?_⟩
  · obtain ⟨i, j, rfl⟩ := hL.exists_node
    refine ⟨j, fun w e c w' => (runs_iff hp).trans ?_⟩
    constructor
    · rintro ⟨verdict, k, he, hend⟩
      obtain ⟨parts, hu⟩ := Loop.evaluates_node_iff.1 he
      exact ⟨parts, verdict, k, hu, hend⟩
    · rintro ⟨parts, verdict, k, hu, hend⟩
      exact ⟨verdict, k, Loop.evaluates_node_iff.2 ⟨parts, hu⟩, hend⟩
  · refine (runs_iff hp).trans ?_
    constructor
    · rintro ⟨verdict, k, he, hend⟩
      obtain ⟨parts, through, n, hu, rfl, rfl⟩ := evaluates_traverse_iff.1 he
      exact ⟨parts, through, n, hu, hend⟩
    · rintro ⟨parts, through, n, hu, hend⟩
      exact ⟨_, _, evaluates_traverse_iff.2 ⟨parts, through, n, hu, rfl, rfl⟩, hend⟩
  · obtain ⟨verdict, k, he, -⟩ := (runs_iff hp).1 hrun
    obtain ⟨⟨es, hes⟩, -⟩ := hc.passes he
    refine ⟨es, hes.episode, fun a ha hkept => ?_, fun v hv => ?_⟩
    · exact (hes.lists_eq ha hkept).trans (w.sparesBelow_newListAddress.2 a ha)
    · subst hv
      obtain rfl := hc.eq_list hp hrun
      refine ⟨rfl, fun hkept later g' w₂ c₂ w₂' hlater hle hagain => ?_⟩
      have hmade : w.lists.size < { w with lists := w.lists.push #[] }.lists.size := by simp
      have hsame : w.lists.size = w₂.lists.size := Value.list.inj (hlater.eq_list hp hagain)
      have hkeep := hes.size_le hkept
      omega

/-- A node that is replicated: the copy that is built in the world that a run has left is the same node,
and no run of it from there changes the list of the first run, or gives it again. -/
theorem graphs_reusable_replicate :
    let h := Script.host 2
    let w := Script.SessionInput.recorded
    let settings := Script.settingsOf w .none (.bool false)
    let build := Script.callValue h 1 (.operation .replicateM) [.int 2, .unit] []
    ∃ node copy c w', build w = .ok node w ∧ Runs h settings node w (.finished (.list 1)) c w' ∧
      build w' = .ok copy w' ∧ copy = node ∧
      ∀ e c' w'', Runs h settings copy w' e c' w'' →
        w''.lists[1]? = w'.lists[1]? ∧ e ≠ .finished (.list 1) := by
  intro h w settings build
  have hp : settings.Plain := Settings.plain_settingsOf w
  obtain ⟨hcopies, -, -, hcollects⟩ := graphs_reusable h hp
  let node : Value := .suspend (.replicate 2 .unit)
  have hnode : Collects node (.node .unit) := by
    have hbuilt : Graph.replicate (.int 2) .unit = .ok node := rfl
    exact .replicate hbuilt
  have hstays : ∀ {u u'}, Episode h (.node .unit) u u' → u' = u := by
    intro u u' hep
    cases hep with
    | repeated he =>
      cases he with
      | done => rfl
      | unknown hv => cases hv
  have hplain : ∀ op a, Value.operation .replicateM = .operation op →
      (Script.operationSignature op).bind [.int 2, .unit] [] = .ok a →
      Script.forwarded? w op a.places = none := by
    intro op a hop ha
    cases hop
    cases ha
    rfl
  obtain ⟨c, w', hfirst, hsize⟩ : ∃ c w', Runs h settings node w (.finished (.list 1)) c w' ∧
      1 < w'.lists.size := ⟨_, _, ⟨40, _, rfl, rfl⟩, Nat.lt_succ_self 1⟩
  have hbuilt : build w = .ok node w := rfl
  have hagain : build w' = .ok node w' := rfl
  have hseen : ∀ w, Script.foundBy h 1 (.operation .replicateM) [.int 2, .unit] [] w = .ok [] w :=
    fun _ => rfl
  have hcopy := hcopies _ _ (.built id 0 w w' (.operation rfl) hplain (fun p _ => .given p) (hseen w)
    (hseen w') hbuilt hagain)
  refine ⟨node, node, c, w', hbuilt, hfirst, hagain, hcopy, fun e c' w'' hsecond => ?_⟩
  obtain ⟨es, hes, -, hgives⟩ := hcollects node _ hnode w _ c w' hfirst
  obtain ⟨es', hes', hkeeps, -⟩ := hcollects node _ hnode w' _ c' w'' hsecond
  have hleft : ∀ ep ∈ es, ep.1.lists.size ≤ ep.2.lists.size :=
    fun ep hep => Nat.le_of_eq (congrArg (·.lists.size) (hstays (hes ep hep))).symm
  refine ⟨hkeeps 1 hsize fun ep hep => by rw [hstays (hes' ep hep)], fun he => ?_⟩
  subst he
  exact (hgives _ rfl).2 hleft node _ w' c' w'' hnode (Nat.le_refl _) hsecond

/-- Two things that reuse does not go so far as.  Nodes that are taken out of a list when they are put
in order stay as they were when the list grows, and a node that is built then takes in what has come;
and a function that a traversal was given may change a list that an earlier run of it has returned. -/
theorem reuse_limits :
    let settings := Script.settingsOf Script.SessionInput.recorded .none (.bool false)
    (let h := Script.host 2
      let w := { Script.SessionInput.recorded with lists := #[#[.unit]] }
      let later := { w with lists := #[#[.unit, .unit]] }
      let build := Script.callValue h 1 (.operation .sequence) [.list 0] []
      ∃ node copy, build w = .ok node w ∧ build later = .ok copy later ∧
        (∃ c w', Runs h settings node later (.finished (.list 1)) c w' ∧
          w'.listItems 1 = #[.none]) ∧
        ∃ c w', Runs h settings copy later (.finished (.list 1)) c w' ∧
          w'.listItems 1 = #[.none, .none]) ∧
    let h := Script.host 5
    let w := { Script.SessionInput.recorded with
      globals := [("first", .list 1)], lists := #[#[], #[.int 1]] }
    let body := .seq [.primitive .append [.var "first", .literal (.int 9)] [],
      .invoke "unit" [.var "x"] []]
    let node := Graph.traverse (.ofItems [.int 1]) (.apply (.closure ⟨3, none, ["x"], .expr body, []⟩))
    ∃ c w', Runs h settings node w (.finished (.list 2)) c w' ∧ w.listItems 1 = #[.int 1] ∧
      w'.listItems 1 = #[.int 1, .int 9] := by
  intro settings
  constructor
  · intro h w later build
    exact ⟨_, _, rfl, rfl, ⟨_, _, ⟨40, _, rfl, rfl⟩, rfl⟩, ⟨_, _, ⟨60, _, rfl, rfl⟩, rfl⟩⟩
  · intro h w body node
    exact ⟨_, _, ⟨40, _, rfl, rfl⟩, rfl, rfl⟩

end EffectGraph
