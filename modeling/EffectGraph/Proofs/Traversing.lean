import EffectGraph.Proofs.Exits
import EffectGraph.Script.Functions

/-!
# Traversing is a plain loop

`Traversal` is the loop that a traversal stands for: make an empty list; open the iterable; pull an
item; build its node; run the node; add its value to the list; pull again; at the end give the list.
A place in the loop knows the items that were pulled and the values that were added so far.
`Traversal.Acts` is a statement that leaves the list to itself, and `Traversal.Reached` says where the
loop comes to; adding is the only statement of the loop that changes its list.

In the machine the list is made by one suspended node, and a second one folds over the items with a
step that drops its accumulator.  So there are two loops in rounds, one of a single round
(`Loop.gather`) and one with a round for each item, and the places of the plain loop at which a node is
to be run are the rounds of the second (`Traversal.reached_running_iff`).  Putting nodes in order is a
traversal of the nodes that were there when it was asked for.
-/

namespace EffectGraph

open Machine Relation

/-! ### Lists of results -/

namespace World

/-- The world with a new list at the end. -/
def listed (w : World) : World := { w with lists := w.lists.push #[] }

/-- The world with one more item at the end of a list. -/
def pushed (w : World) (results : Nat) (v : Value) : World := { w with
  lists := w.lists.modify results (·.push v)
  unsettled :=
    if v.isSettled || w.unsettled.contains results then w.unsettled else results :: w.unsettled }

theorem getElem?_lists_listed (w : World) : w.listed.lists[w.lists.size]? = some #[] := by
  simp [listed]

theorem getElem?_lists_pushed {w : World} {results : Nat} {items : List Value} (v : Value)
    (hitems : w.lists[results]? = some items.toArray) :
    (w.pushed results v).lists[results]? = some (items ++ [v]).toArray := by
  simp [pushed, Array.getElem?_modify, hitems]

end World

/-! ### The plain loop -/

/-- **The loop that a traversal stands for:** what it goes through, and how the node of an item is
built. -/
structure Traversal where
  items : Value
  build : Value → Eff Value

namespace Traversal

/-- The traversal of an iterable with a mapper. -/
def of (h : Host) (items : Value) (mapper : Mapper Value) : Traversal := ⟨items, (mapper.run h ·)⟩

/-- The statement that is next.  The worker is the name that is blamed for what is raised. -/
inductive Point where
  | opening
  | pulling (worker : String) (iterator : Value)
  | building (worker : String) (iterator item : Value)
  | running (iterator node : Value)
  | adding (iterator v : Value)
  | over

/-- A place in the loop: the items that were pulled, the values that were added, and what is next. -/
structure Place where
  items : List Value
  values : List Value
  point : Point

/-- The name that is blamed until the first node is run. -/
def starts : String := "suspend.<locals>.<lambda>"

/-- The name that is blamed later. -/
def resumes : String := "fold_m.<locals>.go.<locals>.<lambda>"

section statements

variable (h : Host) (T : Traversal)

/-- **One statement of the loop** that leaves its list to itself. -/
inductive Acts : Place × World → Place × World → Prop where
  | opens {items values iterator u u'} (hopen : h.openIterator T.items u = .ok iterator u') :
      Acts (⟨items, values, .opening⟩, u) (⟨items, values, .pulling starts iterator⟩, u')
  | pulls {items values worker iterator item u u'} (hpull : h.pull iterator u = .ok (some item) u') :
      Acts (⟨items, values, .pulling worker iterator⟩, u)
        (⟨items ++ [item], values, .building worker iterator item⟩, u')
  | builds {items values worker iterator item node u u'} (hbuild : T.build item u = .ok node u') :
      Acts (⟨items, values, .building worker iterator item⟩, u)
        (⟨items, values, .running iterator node⟩, u')
  | runs {items values iterator node v k u u'} (hnode : Evaluates h node u (.value v) k u') :
      Acts (⟨items, values, .running iterator node⟩, u) (⟨items, values, .adding iterator v⟩, u')
  | drained {items values worker iterator u u'} (hpull : h.pull iterator u = .ok none u') :
      Acts (⟨items, values, .pulling worker iterator⟩, u) (⟨items, values, .over⟩, u')

/-- **The loop comes to a place.**  The list that it adds to is the one after those of its world. -/
inductive Reached (w : World) : Place → World → Prop where
  | begins : Reached w ⟨[], [], .opening⟩ w.listed
  | acts {p q u u'} (hp : Reached w p u) (hact : Acts h T (p, u) (q, u')) : Reached w q u'
  | adds {items values iterator v u} (hp : Reached w ⟨items, values, .adding iterator v⟩ u) :
      Reached w ⟨items, values ++ [v], .pulling resumes iterator⟩ (u.pushed w.lists.size v)

/-- **How the loop ends** at a place; its list is what it gives. -/
inductive Ends (results : Nat) : Place × World → PlainFold.Exit → World → Prop where
  | returns {items values u} : Ends results (⟨items, values, .over⟩, u) (.gives (.list results)) u
  | openRaises {items values fault u u'} (hopen : h.openIterator T.items u = .error (.raised fault) u') :
      Ends results (⟨items, values, .opening⟩, u) (.raised fault (.str starts)) u'
  | pullRaises {items values worker iterator fault u u'}
      (hpull : h.pull iterator u = .error (.raised fault) u') :
      Ends results (⟨items, values, .pulling worker iterator⟩, u) (.raised fault (.str worker)) u'
  | buildRaises {items values worker iterator item fault u u'}
      (hbuild : T.build item u = .error (.raised fault) u') :
      Ends results (⟨items, values, .building worker iterator item⟩, u)
        (.raised fault (.str worker)) u'
  | nodeStops {items values iterator node verdict k u u'} (hnode : Evaluates h node u verdict k u')
      (hstop : verdict.isValue = false) :
      Ends results (⟨items, values, .running iterator node⟩, u) verdict.exit u'

/-- **The loop comes to an end.** -/
def Completes (w : World) (exit : PlainFold.Exit) (w' : World) : Prop :=
  ∃ p u, Reached h T w p u ∧ Ends h T w.lists.size (p, u) exit w'

/-- Nothing that the loop opens, pulls, builds or runs changes its list. -/
def Quiet (w : World) : Prop := ∀ p u q u', Reached h T w p u → Acts h T (p, u) (q, u') →
  u'.lists[w.lists.size]? = u.lists[w.lists.size]?

end statements

/-- Is there an item whose value was not yet added? -/
def Point.pending : Point → Nat
  | .building _ _ _ | .running _ _ | .adding _ _ => 1
  | .opening | .pulling _ _ | .over => 0

section records

variable {h : Host} {T : Traversal} {w u : World} {p : Place}

/-- **There is one value for each item,** up to the item that is dealt with. -/
theorem length_items_of_reached (hp : Reached h T w p u) :
    p.items.length = p.values.length + p.point.pending := by
  induction hp with
  | begins => rfl
  | acts _ hact ih => cases hact <;> simpa [Point.pending] using ih
  | adds _ ih => simpa [Point.pending] using ih

/-- **The list holds the values in the order of the items,** if nothing else changes it. -/
theorem getElem?_lists_of_reached (hquiet : Quiet h T w) (hp : Reached h T w p u) :
    u.lists[w.lists.size]? = some p.values.toArray := by
  induction hp with
  | begins => exact w.getElem?_lists_listed
  | @acts p q u u' hp hact ih =>
    have hsame : q.values = p.values := by cases hact <;> rfl
    rw [hquiet p u q u' hp hact, ih, hsame]
  | adds _ ih => exact World.getElem?_lists_pushed _ ih

end records

/-! ### Two loops in rounds -/

end Traversal

namespace Loop

/-- The traversal as a loop of one round, which goes through the items. -/
def gather (h : Host) (items : Value) (mapper : Mapper Value) : Loop h where
  State := Nat
  factory := .traverse items mapper
  onward := (.giveList ·)
  start := do
    let results ← World.newListAddress
    return .run (Graph.foldWith items .none (.collect results mapper)) results
  next results _ := pure (.finish (.list results))
  build_eq := by
    rw [map_bind]
    rfl
  run_eq _ _ := rfl

end Loop

namespace Traversal

variable {h : Host} {items : Value} {mapper : Mapper Value}

/-- Going through the items in rounds. -/
abbrev rounds (h : Host) (items : Value) (mapper : Mapper Value) (results : Nat) : Loop h :=
  .fold h items .none (.collect results mapper)

/-- What is run in a round for the node of an item. -/
def gathering (results : Nat) (node : Value) : Value := .sequenced node (.appendTo results)

/-- A node is run, and its value is added to the list. -/
theorem evaluates_gathering (results : Nat) (node : Value) (u : World) :
    Evaluates h (gathering results node) u = Conduct.Chain (Evaluates h node u) fun v u' =>
      Conduct.Just (.value .none) (u'.pushed results v) := by
  have hcalled : Called h (.ofCallback (.appendTo results)) = fun v u' =>
      Conduct.Just (.value .none) (u'.pushed results v) := by
    funext v u'
    have happended : h.invoke (.ofCallback (.appendTo results)) [v] u' =
        .ok .unit (u'.pushed results v) := rfl
    rw [called_of_node happended rfl, Value.unit, evaluates_done]
  rw [gathering, Value.sequenced, Value.ofNode, evaluates_flatMap, hcalled]

/-- A round gives nothing but the world in which the value of its node was added. -/
theorem of_evaluates_gathering {results : Nat} {node x : Value} {k : Counters} {u u' : World}
    (he : Evaluates h (gathering results node) u (.value x) k u') :
    x = .none ∧ ∃ v k' u₁, Evaluates h node u (.value v) k' u₁ ∧ u' = u₁.pushed results v := by
  rw [evaluates_gathering] at he
  cases he with
  | next hnode hadd =>
    obtain ⟨hx, -, rfl⟩ := hadd
    cases hx
    exact ⟨rfl, _, _, _, hnode, rfl⟩
  | stop _ hstop hout => cases Verdict.isValue_of_eq_outward hout hstop

theorem evaluates_gathering_of_value {results : Nat} {node v : Value} {k : Counters} {u u' : World}
    (he : Evaluates h node u (.value v) k u') :
    Evaluates h (gathering results node) u (.value .none) (k.chained .zero) (u'.pushed results v) := by
  rw [evaluates_gathering]
  exact .next he ⟨rfl, rfl, rfl⟩

/-- **A round is to be begun with a pull.** -/
inductive Begins (h : Host) (items : Value) (mapper : Mapper Value) (w : World) :
    String → Value → World → Prop where
  | first {iterator u} (hopen : h.openIterator items w.listed = .ok iterator u) :
      Begins h items mapper w starts iterator u
  | later {iterator part k u u'}
      (hr : (rounds h items mapper w.lists.size).Comes w.listed (.run part iterator) u)
      (hpart : Evaluates h part u (.value .none) k u') : Begins h items mapper w resumes iterator u'

/-- **Where a place stands in the rounds.** -/
def Stage (h : Host) (items : Value) (mapper : Mapper Value) (w : World) (p : Place) (u : World) :
    Prop :=
  let L := rounds h items mapper w.lists.size
  match p.point with
  | .opening => u = w.listed
  | .pulling worker iterator => Begins h items mapper w worker iterator u
  | .building worker iterator item =>
    ∃ u₀, Begins h items mapper w worker iterator u₀ ∧ h.pull iterator u₀ = .ok (some item) u
  | .running iterator node => L.Comes w.listed (.run (gathering w.lists.size node) iterator) u
  | .adding iterator v => ∃ node k u₀,
    L.Comes w.listed (.run (gathering w.lists.size node) iterator) u₀ ∧
      Evaluates h node u₀ (.value v) k u
  | .over => L.Comes w.listed (.finish .none) u

/-- **A round as a place of the plain loop.**  The accumulator is always nothing. -/
def Heads (h : Host) (items : Value) (mapper : Mapper Value) (w : World) (r : Round Value) (u : World) :
    Prop :=
  match r with
  | .ended => False
  | .finish x => x = .none ∧ ∃ pulled values, Reached h (of h items mapper) w ⟨pulled, values, .over⟩ u
  | .run part iterator => ∃ node pulled values, part = gathering w.lists.size node ∧
      Reached h (of h items mapper) w ⟨pulled, values, .running iterator node⟩ u

variable {w u w' : World} {worker : String} {iterator : Value} {pulled values : List Value}

theorem heads_of_pulling {r : Round Value}
    (hp : Reached h (of h items mapper) w ⟨pulled, values, .pulling worker iterator⟩ u)
    (hr : Loop.foldElement h (.collect w.lists.size mapper) iterator .none u = .ok r w') :
    Heads h items mapper w r w' := by
  rcases Loop.of_foldElement_ok hr with ⟨hpull, rfl⟩ | ⟨item, part, u₁, hpull, hstep, rfl⟩
  · exact ⟨rfl, pulled, values, hp.acts (.drained hpull)⟩
  · obtain ⟨node, u₂, hbuild, hpart⟩ := Eff.exists_of_bind_ok hstep
    cases hpart
    exact ⟨node, _, values, rfl, (hp.acts (.pulls hpull)).acts (.builds hbuild)⟩

/-- **The rounds are places of the plain loop.** -/
theorem heads_of_comes {r : Round (rounds h items mapper w.lists.size).State}
    (hr : (rounds h items mapper w.lists.size).Comes w.listed r u) : Heads h items mapper w r u := by
  induction hr with
  | first hstart =>
    obtain ⟨iterator, u₁, hopen, hr⟩ := Eff.exists_of_bind_ok hstart
    exact heads_of_pulling (Reached.begins.acts (.opens hopen)) hr
  | next _ hpart hnext ih =>
    obtain ⟨node, pulled, values, rfl, hp⟩ := ih
    obtain ⟨rfl, v, k, u₁, hnode, rfl⟩ := of_evaluates_gathering hpart
    exact heads_of_pulling (hp.acts (.runs hnode)).adds hnext

/-- A round that is built is one that the loop comes to. -/
theorem Begins.comes {r : Round Value} (hb : Begins h items mapper w worker iterator u)
    (hr : Loop.foldElement h (.collect w.lists.size mapper) iterator .none u = .ok r w') :
    (rounds h items mapper w.lists.size).Comes w.listed r w' := by
  cases hb with
  | first hopen => exact .first ((Eff.bind_of_ok hopen).trans hr)
  | later hcomes hpart => exact .next hcomes hpart hr

/-- **Every place has its stage in the rounds.** -/
theorem stage_of_reached {p : Place} (hp : Reached h (of h items mapper) w p u) :
    Stage h items mapper w p u := by
  induction hp with
  | begins => rfl
  | acts _ hact ih =>
    cases hact with
    | opens hopen =>
      cases ih
      exact .first hopen
    | pulls hpull => exact ⟨_, ih, hpull⟩
    | builds hbuild =>
      obtain ⟨u₀, hbegins, hpull⟩ := ih
      exact hbegins.comes (Loop.foldElement_of_run hpull (Eff.bind_of_ok hbuild))
    | runs hnode => exact ⟨_, _, _, ih, hnode⟩
    | drained hpull =>
      have hbegins : Begins h items mapper w _ _ _ := ih
      exact hbegins.comes (Eff.bind_of_ok hpull)
  | adds _ ih =>
    obtain ⟨node, k, u₀, hcomes, hnode⟩ := ih
    exact .later hcomes (evaluates_gathering_of_value hnode)

/-- **The node of an item is run where the plain loop runs it.** -/
theorem reached_running_iff {node : Value} :
    (∃ pulled values, Reached h (of h items mapper) w ⟨pulled, values, .running iterator node⟩ u) ↔
      (rounds h items mapper w.lists.size).Comes w.listed
        (.run (gathering w.lists.size node) iterator) u := by
  constructor
  · rintro ⟨pulled, values, hp⟩
    exact stage_of_reached hp
  · intro hr
    obtain ⟨node', pulled, values, hpart, hp⟩ := heads_of_comes hr
    cases hpart
    exact ⟨pulled, values, hp⟩

/-! ### The ends of the plain loop -/

/-- What a traversal ends with when going through its items has ended: its list, or what has stopped
it. -/
def gathered (results : Nat) : PlainFold.Exit → PlainFold.Exit
  | .gives _ => .gives (.list results)
  | exit => exit

theorem gathered_raised (results : Nat) (fault : Fault Value) (place : Value) :
    gathered results (.raised fault place) = .raised fault place := by
  unfold PlainFold.Exit.raised
  split <;> rfl

theorem gathered_exit {verdict : Verdict} (results : Nat) (hstop : verdict.isValue = false) :
    gathered results verdict.exit = verdict.exit := by
  cases verdict with
  | value v => cases hstop
  | _ => rfl

/-- A round that cannot be built ends the loop, and its worker is blamed. -/
theorem Begins.over {fault : Fault Value} (hb : Begins h items mapper w worker iterator u)
    (hr : Loop.foldElement h (.collect w.lists.size mapper) iterator .none u =
      .error (.raised fault) w') :
    (rounds h items mapper w.lists.size).Over 0 w.listed (.raised fault (.str worker)) w' := by
  cases hb with
  | first hopen => exact .startRaises ((Eff.bind_of_ok hopen).trans hr)
  | later hcomes hpart => exact .nextRaises hcomes hpart hr

theorem completes_of_pulling {fault : Fault Value}
    (hp : Reached h (of h items mapper) w ⟨pulled, values, .pulling worker iterator⟩ u)
    (hr : Loop.foldElement h (.collect w.lists.size mapper) iterator .none u =
      .error (.raised fault) w') :
    Completes h (of h items mapper) w (.raised fault (.str worker)) w' := by
  rcases Loop.of_foldElement_raised hr with hpull | ⟨item, u₁, hpull, hstep⟩
  · exact ⟨_, u, hp, .pullRaises hpull⟩
  · rcases Eff.of_bind_error hstep with hbuild | ⟨node, u₂, -, hpart⟩
    · exact ⟨_, u₁, hp.acts (.pulls hpull), .buildRaises hbuild⟩
    · cases hpart

/-- **The plain loop ends as going through the items does,** and its list is what it gives. -/
theorem completes_iff_over {exit : PlainFold.Exit} :
    Completes h (of h items mapper) w exit w' ↔
      ∃ through, (rounds h items mapper w.lists.size).Over 0 w.listed through w' ∧
        exit = gathered w.lists.size through := by
  constructor
  · rintro ⟨p, u, hp, hend⟩
    have hstage := stage_of_reached hp
    cases hend with
    | returns => exact ⟨_, .finishes hstage, rfl⟩
    | openRaises hopen =>
      cases hstage
      exact ⟨_, .startRaises (Eff.bind_of_error hopen), (gathered_raised _ _ _).symm⟩
    | pullRaises hpull =>
      have hbegins : Begins h items mapper w _ _ _ := hstage
      exact ⟨_, hbegins.over (Eff.bind_of_error hpull), (gathered_raised _ _ _).symm⟩
    | @buildRaises _ _ _ _ item fault _ _ hbuild =>
      obtain ⟨u₀, hbegins, hpull⟩ := hstage
      have hstep : (FoldStep.collect w.lists.size mapper).run h .none item u = .error (.raised fault) w' :=
        Eff.bind_of_error hbuild
      have hraised := Loop.foldElement_of_raised hpull hstep
      exact ⟨_, hbegins.over hraised, (gathered_raised _ _ _).symm⟩
    | nodeStops hnode hstop =>
      have hpart : Evaluates h (gathering w.lists.size _) _ _ _ _ := .sequenceStopped hnode hstop
      have hover := Loop.Over.stops (j := 0) hstage hpart (by rw [Verdict.isValue_outward, hstop])
      rw [Verdict.exit_outward] at hover
      exact ⟨_, hover, (gathered_exit _ hstop).symm⟩
  · rintro ⟨through, hover, rfl⟩
    cases hover with
    | startRaises hstart =>
      rw [gathered_raised]
      rcases Eff.of_bind_error hstart with hopen | ⟨iterator, u, hopen, hr⟩
      · exact ⟨_, _, .begins, .openRaises hopen⟩
      · exact completes_of_pulling (Reached.begins.acts (.opens hopen)) hr
    | ends hr => exact (heads_of_comes hr).elim
    | finishes hr =>
      obtain ⟨rfl, pulled, values, hp⟩ := heads_of_comes hr
      exact ⟨_, _, hp, .returns⟩
    | stops hr hpart hstop =>
      obtain ⟨node, pulled, values, rfl, hp⟩ := heads_of_comes hr
      rw [gathered_exit _ hstop]
      rw [evaluates_gathering] at hpart
      cases hpart with
      | next _ hadd =>
        obtain ⟨rfl, -⟩ := hadd
        cases hstop
      | stop hnode hstop' hout =>
        rw [hout, Verdict.exit_outward]
        exact ⟨_, _, hp, .nodeStops hnode hstop'⟩
    | nextRaises hr hpart hnext =>
      obtain ⟨node, pulled, values, rfl, hp⟩ := heads_of_comes hr
      obtain ⟨rfl, v, k, u₁, hnode, rfl⟩ := of_evaluates_gathering hpart
      rw [gathered_raised]
      exact completes_of_pulling (hp.acts (.runs hnode)).adds hnext

/-- The one round of a traversal goes through the items, and then it is over with its list. -/
theorem of_comes_gather {r : Round (Loop.gather h items mapper).State}
    (hr : (Loop.gather h items mapper).Comes w r u) :
    (r = .run ((rounds h items mapper w.lists.size).node 0 0) w.lists.size ∧ u = w.listed) ∨
      r = .finish (.list w.lists.size) ∧ ∃ v k,
        Evaluates h ((rounds h items mapper w.lists.size).node 0 0) w.listed (.value v) k u := by
  induction hr with
  | first hstart =>
    cases hstart
    exact .inl ⟨rfl, rfl⟩
  | next _ hpart hnext ih =>
    rcases ih with ⟨hrun, rfl⟩ | ⟨hrun, -⟩
    · cases hrun
      cases hnext
      exact .inr ⟨rfl, _, _, hpart⟩
    · cases hrun

/-- **The plain loop ends as the traversal does.** -/
theorem completes_iff {j : Nat} {exit : PlainFold.Exit} :
    Completes h (of h items mapper) w exit w' ↔ (Loop.gather h items mapper).Over j w exit w' := by
  rw [completes_iff_over]
  have hmade : (Loop.gather h items mapper).Comes w
      (.run ((rounds h items mapper w.lists.size).node 0 0) w.lists.size) w.listed := .first rfl
  constructor
  · rintro ⟨through, hover, rfl⟩
    obtain ⟨verdict, k, he, rfl⟩ := Loop.over_iff.1 hover
    by_cases hstop : verdict.isValue = false
    · rw [gathered_exit _ hstop]
      exact .stops hmade he hstop
    · cases verdict with
      | value v => exact .finishes (.next hmade he rfl)
      | failure _ _ _ | unknown _ _ | interrupt _ => exact absurd rfl hstop
  · intro hover
    cases hover with
    | startRaises hstart => cases hstart
    | ends hr => rcases of_comes_gather hr with ⟨hr, -⟩ | ⟨hr, -⟩ <;> cases hr
    | finishes hr =>
      rcases of_comes_gather hr with ⟨hr, -⟩ | ⟨hr, v, k, he⟩
      · cases hr
      · cases hr
        exact ⟨.gives v, Loop.over_iff.2 ⟨_, k, he, rfl⟩, rfl⟩
    | stops hr hpart hstop =>
      rcases of_comes_gather hr with ⟨hrun, rfl⟩ | ⟨hrun, -⟩
      · injection hrun with hnode
        subst hnode
        exact ⟨_, Loop.over_iff.2 ⟨_, _, hpart, rfl⟩, (gathered_exit _ hstop).symm⟩
      · cases hrun
    | nextRaises _ _ hnext => cases hnext

/-- The loop gives nothing but its list, when there is nothing more to do. -/
theorem Ends.of_gives {T : Traversal} {results : Nat} {p : Place} {v : Value}
    (hend : Ends h T results (p, u) (.gives v) w') :
    v = .list results ∧ p.point = .over ∧ w' = u := by
  generalize hexit : PlainFold.Exit.gives v = exit at hend
  cases hend with
  | returns =>
    cases hexit
    exact ⟨rfl, rfl, rfl⟩
  | openRaises | pullRaises | buildRaises => exact absurd hexit.symm (PlainFold.Exit.raised_ne_gives _ _ _)
  | nodeStops _ hstop =>
    rw [Verdict.isValue_of_exit hexit.symm] at hstop
    cases hstop

/-! ### Runs of a traversal -/

/-- **The machine comes to the node of an item** where the plain loop runs it: what waits is that its
value is added, that the next item is pulled, and that the list is given. -/
theorem exists_reaches {settings : Settings} (hp : settings.Plain) {node : Value} (i j : Nat)
    (hr : Reached h (of h items mapper) w ⟨pulled, values, .running iterator node⟩ u) :
    ∃ c, Reaches h settings (.start ((Loop.gather h items mapper).node i j), w)
      (⟨node, ((Stack.empty.push (.continuation (.ofCallback (.giveList w.lists.size)))).push
        (.continuation (.ofCallback (.foldNext iterator (.collect w.lists.size mapper))))).push
          (.continuation (.ofCallback (.appendTo w.lists.size))), c⟩, u) := by
  have hmade : (Loop.gather h items mapper).Comes w
      (.run ((rounds h items mapper w.lists.size).node 0 0) w.lists.size) w.listed := .first rfl
  obtain ⟨c, hreach⟩ := hmade.reaches hp i j
  let B := Stack.empty.push (.continuation (.ofCallback (.giveList w.lists.size)))
  have hgive := next_sequence (h := h) hp 0 ((rounds h items mapper w.lists.size).node 0 0)
    (.ofCallback (.giveList w.lists.size)) .empty c w.listed
  obtain ⟨c', hround⟩ := (reached_running_iff.1 ⟨_, _, hr⟩).reaches_on hp 0 0 B
    (c.entered (Stack.empty.depth + 1))
  have hnext := next_sequence (h := h) hp 0 (gathering w.lists.size node)
    (.ofCallback (.foldNext iterator (.collect w.lists.size mapper))) B c' u
  have hadd := next_sequence (h := h) hp 0 node (.ofCallback (.appendTo w.lists.size))
    (B.push (.continuation (.ofCallback (.foldNext iterator (.collect w.lists.size mapper)))))
    (c'.entered (B.depth + 1)) u
  exact ⟨_, (((hreach.tail hgive).trans hround).tail hnext).tail hadd⟩

/-- **A node is run as a traversal** from a world. -/
structure Describes (h : Host) (settings : Settings) (items : Value) (mapper : Mapper Value)
    (node : Value) (w : World) : Prop where
  ends : EndsAs h node w (Completes h (of h items mapper) w)
  /-- From a world the loop is over in one way only. -/
  unique : ∀ exit exit' w' w'', Completes h (of h items mapper) w exit w' →
    Completes h (of h items mapper) w exit' w'' → exit = exit' ∧ w' = w''
  /-- What is given is the list of the loop, with one value for each item, in order, if nothing else
  changes it. -/
  gives : ∀ v w', Completes h (of h items mapper) w (.gives v) w' → v = .list w.lists.size ∧
    ∃ pulled values, Reached h (of h items mapper) w ⟨pulled, values, .over⟩ w' ∧
      pulled.length = values.length ∧
      (Quiet h (of h items mapper) w → w'.lists[w.lists.size]? = some values.toArray)
  /-- A fault of a pull or of building a node, and a node that gives no value, end the loop there. -/
  stops : ∀ p u exit w', Reached h (of h items mapper) w p u →
    Ends h (of h items mapper) w.lists.size (p, u) exit w' →
      ∀ exit' w'', Completes h (of h items mapper) w exit' w'' ↔ exit' = exit ∧ w'' = w'
  running : ∀ pulled values iterator part u,
    Reached h (of h items mapper) w ⟨pulled, values, .running iterator part⟩ u →
      ∃ c, Reaches h settings (.start node, w)
        (⟨part, ((Stack.empty.push (.continuation (.ofCallback (.giveList w.lists.size)))).push
          (.continuation (.ofCallback (.foldNext iterator (.collect w.lists.size mapper))))).push
            (.continuation (.ofCallback (.appendTo w.lists.size))), c⟩, u)

theorem describes {settings : Settings} (hp : settings.Plain) (i j : Nat) (w : World) :
    Describes h settings items mapper ((Loop.gather h items mapper).node i j) w := by
  have hends : EndsAs h ((Loop.gather h items mapper).node i j) w
      (Completes h (of h items mapper) w) := fun exit w' => completes_iff.trans Loop.over_iff
  constructor
  · exact hends
  · exact fun exit exit' w' w'' => hends.unique
  · rintro v w' ⟨⟨pulled, values, point⟩, u, hreached, hend⟩
    obtain ⟨rfl, rfl, rfl⟩ := hend.of_gives
    have hlength : pulled.length = values.length := length_items_of_reached hreached
    have hlist := fun hquiet => getElem?_lists_of_reached hquiet hreached
    exact ⟨rfl, pulled, values, hreached, hlength, hlist⟩
  · intro p u exit w' hreached hend exit' w''
    have hcompletes : Completes h (of h items mapper) w exit w' := ⟨p, u, hreached, hend⟩
    constructor
    · intro hcompletes'
      obtain ⟨rfl, rfl⟩ := hends.unique hcompletes hcompletes'
      exact ⟨rfl, rfl⟩
    · rintro ⟨rfl, rfl⟩
      exact hcompletes
  · exact fun pulled values iterator part u hreached => exists_reaches hp i j hreached

/-! ### Nodes in order -/

section alike

variable {T T' : Traversal} (hitems : T'.items = T.items)
  (hbuild : ∀ pulled values worker iterator item u,
    Reached h T w ⟨pulled, values, .building worker iterator item⟩ u → T'.build item u = T.build item u)
include hitems hbuild

/-- Loops over the same items that build the same nodes come to the same places. -/
theorem reached_congr {p : Place} : Reached h T' w p u ↔ Reached h T w p u := by
  constructor
  · intro hp
    induction hp with
    | begins => exact .begins
    | acts _ hact ih =>
      cases hact with
      | opens hopen => exact ih.acts (.opens (hitems ▸ hopen))
      | pulls hpull => exact ih.acts (.pulls hpull)
      | builds hbuilt => exact ih.acts (.builds ((hbuild _ _ _ _ _ _ ih).symm.trans hbuilt))
      | runs hnode => exact ih.acts (.runs hnode)
      | drained hpull => exact ih.acts (.drained hpull)
    | adds _ ih => exact ih.adds
  · intro hp
    induction hp with
    | begins => exact .begins
    | acts hp hact ih =>
      cases hact with
      | opens hopen => exact ih.acts (.opens (hitems.symm ▸ hopen))
      | pulls hpull => exact ih.acts (.pulls hpull)
      | builds hbuilt => exact ih.acts (.builds ((hbuild _ _ _ _ _ _ hp).trans hbuilt))
      | runs hnode => exact ih.acts (.runs hnode)
      | drained hpull => exact ih.acts (.drained hpull)
    | adds _ ih => exact ih.adds

/-- They end in the same way. -/
theorem completes_congr {exit : PlainFold.Exit} :
    Completes h T' w exit w' ↔ Completes h T w exit w' := by
  have hsame {p : Place} {u : World} (hp : Reached h T w p u) :
      Ends h T' w.lists.size (p, u) exit w' ↔ Ends h T w.lists.size (p, u) exit w' := by
    constructor
    · intro hend
      cases hend with
      | returns => exact .returns
      | openRaises hopen => exact .openRaises (hitems ▸ hopen)
      | pullRaises hpull => exact .pullRaises hpull
      | buildRaises hraised => exact .buildRaises ((hbuild _ _ _ _ _ _ hp).symm.trans hraised)
      | nodeStops hnode hstop => exact .nodeStops hnode hstop
    · intro hend
      cases hend with
      | returns => exact .returns
      | openRaises hopen => exact .openRaises (hitems.symm ▸ hopen)
      | pullRaises hpull => exact .pullRaises hpull
      | buildRaises hraised => exact .buildRaises ((hbuild _ _ _ _ _ _ hp).trans hraised)
      | nodeStops hnode hstop => exact .nodeStops hnode hstop
  constructor
  · rintro ⟨p, u, hp, hend⟩
    have hp := (reached_congr hitems hbuild).1 hp
    exact ⟨p, u, hp, (hsame hp).1 hend⟩
  · rintro ⟨p, u, hp, hend⟩
    exact ⟨p, u, (reached_congr hitems hbuild).2 hp, (hsame hp).2 hend⟩

end alike
end Traversal

/-- Nodes that are required are nodes. -/
theorem Graph.forall_isNode_of_requireNodes {operation : String} {vs : List Value} {ok : Unit}
    (hvs : Graph.requireNodes operation vs = .ok ok) : ∀ v ∈ vs, v.isNode = true := by
  induction vs with
  | nil => exact List.forall_mem_nil _
  | cons v vs ih =>
    obtain ⟨hv, hvs⟩ := Graph.isNode_of_requireNode_bind hvs
    exact List.forall_mem_cons.2 ⟨hv, ih hvs⟩

/-- **Putting nodes in order** takes a snapshot of them and traverses it. -/
theorem Script.exists_of_sequenceOf {h : Host} {fuel : Nat} {nodes node : Value} {w w' : World}
    (hs : Script.sequenceOf h fuel nodes w = .ok node w') :
    ∃ snapshot, Script.elements h fuel nodes w = .ok snapshot w' ∧ (∀ n ∈ snapshot, n.isNode = true) ∧
      node = Graph.traverse (.ofItems snapshot) .same := by
  obtain ⟨snapshot, w₁, helements, hrest⟩ := Eff.exists_of_bind_ok hs
  obtain ⟨_, w₂, hrequired, hnode⟩ := Eff.exists_of_bind_ok hrest
  cases hnode
  cases hchecked : Graph.requireNodes "sequence" snapshot with
  | error c =>
    rw [hchecked] at hrequired
    cases hrequired
  | ok _ =>
    rw [hchecked] at hrequired
    cases hrequired
    exact ⟨snapshot, helements, Graph.forall_isNode_of_requireNodes hchecked, rfl⟩

/-- **A traversal is the plain loop.**  Whatever the host does, the node of a traversal comes, from any
world, to what the plain loop over its items ends with, in the same world, and to nothing else: the
iterable is opened when the node is reached, an item is pulled when the value of the one before was
added, and the first fault, or the first node that gives no value, is the end.  What is given is a list
that was not there before, with one value for each item in order, if nothing that the loop opens,
pulls, builds or runs changes it.  The node of each item is run where the loop runs it.  A run reports
the value, the failure or the unknown variant that the loop ends with, and raises what interrupts it;
where there are no words for the failure, the complaint about that is raised, and what cannot be
described is not run.  Putting nodes in order, which takes a snapshot of them at once, is the traversal
of the snapshot with a function that gives each node back, in whatever world it is run. -/
theorem traverse_loops {h : Host} {settings : Settings} (hp : settings.Plain) :
    (∀ items mapper i j (w : World),
      let node : Value := .node i (.flatMap .unit (.callback j (.suspended (.traverse items mapper))))
      Traversal.Describes h settings items mapper node w ∧
      (∀ c, w.ticked.describe? node = .error c → ∀ fuel,
        runReport h fuel settings node w = .error (.raised c.fault) w.ticked) ∧
      ∀ description, w.ticked.describe? node = .ok description → Reported h settings node w
        (Traversal.Completes h (.of h items mapper) (w.opened description))) ∧
    (∀ items mapper (w : World), Graph.traverse items mapper =
        .node 0 (.flatMap .unit (.callback 0 (.suspended (.traverse items mapper)))) ∧
      ∃ text, w.ticked.describe? (Graph.traverse items mapper) = .ok text) ∧
    ∀ fuel nodes w node w', Script.sequenceOf h fuel nodes w = .ok node w' →
      ∃ snapshot, Script.elements h fuel nodes w = .ok snapshot w' ∧
        (∀ n ∈ snapshot, n.isNode = true) ∧ node = Graph.traverse (.ofItems snapshot) .same ∧
        ∀ f u, (∀ pulled values worker iterator item u',
            Traversal.Reached h (.of h (.ofItems snapshot) .same) u
              ⟨pulled, values, .building worker iterator item⟩ u' → h.call f [item] [] u' = .ok item u') →
          EndsAs h node u (Traversal.Completes h (.of h (.ofItems snapshot) (.apply f)) u) := by
  refine ⟨fun items mapper i j w => ?_, fun items mapper w => ⟨rfl, _, World.describe?_suspend _ _⟩,
    fun fuel nodes w node w' hs => ?_⟩
  · have hdescribes (w : World) : Traversal.Describes h settings items mapper
        ((Loop.gather h items mapper).node i j) w := Traversal.describes hp i j w
    refine ⟨hdescribes w, fun c hc fuel => runReport_of_undescribed rfl hc, fun description hd => ?_⟩
    exact (hdescribes (w.opened description)).ends.reported hp rfl hd
  · obtain ⟨snapshot, helements, hnodes, rfl⟩ := Script.exists_of_sequenceOf hs
    refine ⟨snapshot, helements, hnodes, rfl, fun f u hf => ?_⟩
    let T : Traversal := .of h (.ofItems snapshot) .same
    let T' : Traversal := .of h (.ofItems snapshot) (.apply f)
    have hends : EndsAs h (Graph.traverse (.ofItems snapshot) .same) u (T.Completes h u) :=
      (Traversal.describes hp 0 0 u).ends
    have hitems : T'.items = T.items := rfl
    exact fun exit u' => (Traversal.completes_congr hitems hf).trans (hends exit u')

/-- Nodes that are put in order and then taken out of their list: the first writes a cell and the second
gives a number; both are run, and the values are listed. -/
theorem traverse_loops_snapshot :
    let h := Script.host 1
    let first := Graph.setCell 0 "Ref#1" (.int 7)
    let second := Value.done (.int 2)
    let w := { Script.SessionInput.recorded with cells := #[.int 0], lists := #[#[first, second]] }
    let later := { w with lists := #[#[]] }
    let settings := Script.settingsOf w .none (.bool false)
    ∃ node u, Script.sequenceOf h 1 (.list 0) w = .ok node w ∧
      Reports h settings node later (.finished (.list 1)) u ∧
      u.lists = #[#[], #[.none, .int 2]] ∧ u.cells = #[.int 7] := by
  intro h first second w later settings
  have hp : settings.Plain := Settings.plain_settingsOf w
  obtain ⟨hruns, htext, hordered⟩ := traverse_loops (h := h) hp
  have hs : Script.sequenceOf h 1 (.list 0) w =
      .ok (Graph.traverse (.ofItems [first, second]) .same) w := rfl
  obtain ⟨snapshot, helements, -, hnode, -⟩ := hordered 1 (.list 0) w _ w hs
  cases helements
  obtain ⟨-, text, hd⟩ := htext (.ofItems [first, second]) .same later
  obtain ⟨-, -, hreported⟩ := hruns (.ofItems [first, second]) .same 0 0 later
  let T : Traversal := .of h (.ofItems [first, second]) .same
  -- the worlds after opening, after each pull, and after the first node
  let u : World := later.opened text
  let u₁ : World := { u.listed with iterators := #[.items [first, second]] }
  let u₂ : World := { u.listed with iterators := #[.items [second]] }
  let u₃ : World := { u₂ with cells := #[.int 7] }
  let u₄ : World := { u₃.pushed 1 .none with iterators := #[.items []] }
  let u₅ : World := u₄.pushed 1 (.int 2)
  have hopened : T.Reached h u ⟨[], [], .pulling Traversal.starts (.iterator 0)⟩ u₁ :=
    .acts .begins (.opens rfl)
  have hfirst : T.Reached h u ⟨[first], [], .running (.iterator 0) first⟩ u₂ :=
    .acts (.acts hopened (.pulls rfl)) (.builds rfl)
  have hadded : T.Reached h u ⟨[first], [.none], .pulling Traversal.resumes (.iterator 0)⟩
      (u₃.pushed 1 .none) := .adds (.acts hfirst (.runs (.action rfl)))
  have hsecond : T.Reached h u ⟨[first, second], [.none], .running (.iterator 0) second⟩ u₄ :=
    .acts (.acts hadded (.pulls rfl)) (.builds rfl)
  have hover : T.Reached h u ⟨[first, second], [.none, .int 2], .over⟩ u₅ :=
    .acts (.adds (.acts hsecond (.runs .done))) (.drained rfl)
  have hcompletes : T.Completes h u (.gives (.list 1)) u₅ := ⟨_, _, hover, .returns⟩
  exact ⟨_, u₅, hs, ((hreported text hd).gives _ _).2 hcompletes, rfl, rfl⟩

end EffectGraph
