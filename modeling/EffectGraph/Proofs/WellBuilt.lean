import EffectGraph.Proofs.Steps

/-!
# Values built from the library

The library looks at the node that a method is called on and at the nodes that most combinators take,
and at the node that a continuation gives.  Three of its callbacks put a value that a script's
function gave under a sequence without a look (`Callback.asks`): the round of a fold, the round that
collects results, and the test of a repetition.  `Value.WellBuilt` holds of the values that can be
made without writing a sequence or a guarded node by hand: in each of their parts, at any depth, the
source of a sequence or of a guarded node is a node, unless the sequence goes on with one of those
three callbacks.
-/

namespace EffectGraph

variable {w : World}

/-! ### What values are made of -/

/-- What a mapper closes over. -/
def Mapper.parts : Mapper Value → List Value
  | .apply f => [f]
  | .same => []
  | .scale cell => [cell]

/-- What a combiner closes over. -/
def Combiner.parts : Combiner Value → List Value
  | .apply f => [f]
  | .pair => []

/-- What a change of a cell closes over. -/
def Update.parts : Update Value → List Value
  | .apply f => [f]
  | .multiply factor => [factor]

/-- What the step of a fold closes over. -/
def FoldStep.parts : FoldStep Value → List Value
  | .apply f => [f]
  | .discard mapper => mapper.parts
  | .collect _ mapper => mapper.parts
  | .again node => [node]

namespace Factory

/-- What a suspended node closes over. -/
def parts : Factory Value → List Value
  | .apply f => [f]
  | .fold elements initial step => elements :: initial :: step.parts
  | .traverse items mapper => items :: mapper.parts
  | .replicate _ node => [node]
  | .doWhile body condition => [body, condition]
  | .whileLoop condition body => [condition, body]
  | .forever node => [node]
  | .generate f args keywords => f :: (args ++ keywords.map Prod.snd)

/-- What a suspended node takes for the source of a sequence without a further look. -/
def sources : Factory Value → List Value
  | .replicate _ node => [node]
  | .doWhile body _ => [body]
  | .whileLoop condition body => [condition, body]
  | .forever node => [node]
  | _ => []

end Factory

namespace Callback

/-- What a callback closes over. -/
def parts : Callback Value → List Value
  | .mapWith f => [f]
  | .thenRun other => [other]
  | .toUnit => []
  | .replaceWith value => [value]
  | .wrapOk => []
  | .wrapErr => []
  | .pairOuter second => [second]
  | .pairInner first => [first]
  | .suspended factory => factory.parts
  | .map2Outer second combiner => second :: combiner.parts
  | .map2Inner first combiner => first :: combiner.parts
  | .foldNext iterator step => iterator :: step.parts
  | .appendTo _ => []
  | .giveList _ => []
  | .replicateNext _ _ node => [node]
  | .doWhileCheck body condition => [body, condition]
  | .doWhileAgain body condition => [body, condition]
  | .whileTest condition body => [condition, body]
  | .whileNext condition body => [condition, body]
  | .foreverNext node => [node]
  | .resume generator => [generator]
  | .raiseFault fault => [fault]
  | .writeCell _ value => [value]
  | .updateCell _ update => update.parts
  | .newCell initial => [initial]
  | .parse => []
  | .times factor => [factor]
  | .factorialIn n => [n]
  | .reportCelsius console => [console]
  | .startDialogue console => [console]

/-- What a callback takes for the source of a sequence without a further look.  Whoever makes the
callback has looked at it. -/
def sources : Callback Value → List Value
  | .pairOuter second => [second]
  | .suspended factory => factory.sources
  | .map2Outer second _ => [second]
  | .replicateNext _ _ node => [node]
  | .doWhileCheck body _ => [body]
  | .doWhileAgain body _ => [body]
  | .whileTest condition body => [condition, body]
  | .whileNext condition body => [condition, body]
  | .foreverNext node => [node]
  | _ => []

/-- **Is this the continuation of a sequence whose source is whatever a script's function gave?** -/
def asks : Callback Value → Bool
  | .foldNext _ _ => true
  | .appendTo _ => true
  | .doWhileAgain _ _ => true
  | _ => false

end Callback

/-- The parts of a node. -/
def Node.parts : Node Value → List Value
  | .done value => [value]
  | .delay thunk label => [thunk, label]
  | .flatMap source f => [source, f]
  | .recover source handler => [source, handler]
  | .foreign _ => []

/-- The part of a frame. -/
def Frame.parts : Frame Value → List Value
  | .continuation f => [f]
  | .boundary handler => [handler]

/-- What a kind of fault carries besides its arguments. -/
def FaultDetail.parts : FaultDetail Value → List Value
  | .plain => []
  | .parse text refusal => text :: refusal
  | .suspended cause label step discarded => [cause, label, step, discarded]
  | .overflow maxDepth actualDepth => [maxDepth, actualDepth]
  | .system number text files => number :: text :: files
  | .lookup _ object => object

/-- What a fault carries. -/
def Fault.parts (f : Fault Value) : List Value := f.args ++ f.detail.parts

/-- The values of a layer that are bound for good. -/
def Layer.parts : Layer Value → List Value
  | .bound bindings => bindings.map Prod.snd
  | .shared _ => []

/-- Keys and values, in order. -/
def entryParts (entries : List (Value × Value)) : List Value := entries.flatMap fun e => [e.1, e.2]

namespace Value

/-- The values that a value is made of. -/
def parts : Value → List Value
  | .tuple _ items => items
  | .frozenDict _ entries => entryParts entries
  | .ok _ value => [value]
  | .err _ error => [error]
  | .fault f => f.parts
  | .node _ n => n.parts
  | .frame _ f => f.parts
  | .runResult _ result counters failure => [result, counters, failure]
  | .interpreter _ maxStackDepth traceSteps => [maxStackDepth, traceSteps]
  | .stream _ input output => [input, output]
  | .closure c => c.scope.flatMap Layer.parts
  | .callback _ c => c.parts
  | .program _ target => [target]
  | .preset _ target args keywords => target :: (args ++ keywords.map Prod.snd)
  | .method _ receiver _ => [receiver]
  | .relazy _ count f => [count, f]
  | .view _ _ source => [source]
  | _ => []

/-- Is this a callback that takes what a script's function gave? -/
def asks : Value → Bool
  | .callback _ c => c.asks
  | _ => false

/-- Can this value be made without a variant of one's own, without writing a sequence or a guarded
node by hand, and without the methods of nodes on what is none?  Its parts are another question. -/
def fits : Value → Bool
  | .node _ (.flatMap source f) => source.isNode || f.asks
  | .node _ (.recover source _) => source.isNode
  | .node _ (.foreign _) => false
  | .callback _ c => c.sources.all isNode
  | .blueprint .flatMap => false
  | .blueprint .recover => false
  | .blueprint (.foreign _) => false
  | .method _ receiver m => receiver.isNode || m.owner != "EffectNode"
  | .unbound m => m.owner != "EffectNode"
  | _ => true

/-- **A value that fits in all its parts,** at any depth. -/
inductive WellBuilt : Value → Prop
  | intro {v : Value} (fits : v.fits = true) (parts : ∀ p ∈ v.parts, WellBuilt p) : WellBuilt v

/-- A value is well built if it fits and its parts are well built. -/
theorem wellBuilt_iff {v : Value} :
    v.WellBuilt ↔ v.fits = true ∧ ∀ p ∈ v.parts, p.WellBuilt := by
  constructor
  · rintro ⟨hfits, hparts⟩
    exact ⟨hfits, hparts⟩
  · rintro ⟨hfits, hparts⟩
    exact ⟨hfits, hparts⟩

end Value

/-- A fault whose parts are well built. -/
def Fault.WellBuilt (f : Fault Value) : Prop := ∀ p ∈ f.parts, p.WellBuilt

namespace Value

variable {v source f second thunk label handler : Value}

/-! ### The shapes of well-built values -/

/-- What holds of both of two values. -/
theorem forall_mem_pair {P : Value → Prop} {a b : Value} : (∀ p ∈ [a, b], P p) ↔ P a ∧ P b :=
  List.forall_mem_cons.trans (and_congr_right fun _ => List.forall_mem_singleton)

/-- What fits is well built if its parts are. -/
theorem wellBuilt_iff_parts (hfits : v.fits = true) : v.WellBuilt ↔ ∀ p ∈ v.parts, p.WellBuilt :=
  wellBuilt_iff.trans (and_iff_right hfits)

/-- What fits and has no parts is well built. -/
theorem wellBuilt_of_parts_eq_nil (hfits : v.fits = true) (hparts : v.parts = []) : v.WellBuilt := by
  rw [wellBuilt_iff_parts hfits, hparts]
  exact List.forall_mem_nil _

@[simp]
theorem wellBuilt_none : none.WellBuilt := wellBuilt_of_parts_eq_nil rfl rfl

@[simp]
theorem wellBuilt_int (n : Int) : (int n).WellBuilt := wellBuilt_of_parts_eq_nil rfl rfl

@[simp]
theorem wellBuilt_float (stamp : Nat) (x : Float) : (float stamp x).WellBuilt :=
  wellBuilt_of_parts_eq_nil rfl rfl

@[simp]
theorem wellBuilt_str (s : String) : (str s).WellBuilt := wellBuilt_of_parts_eq_nil rfl rfl

@[simp]
theorem wellBuilt_list (address : Nat) : (list address).WellBuilt := wellBuilt_of_parts_eq_nil rfl rfl

@[simp]
theorem wellBuilt_range (stamp : Nat) (start stop : Int) : (range stamp start stop).WellBuilt :=
  wellBuilt_of_parts_eq_nil rfl rfl

@[simp]
theorem wellBuilt_cell (address : Nat) : (cell address).WellBuilt := wellBuilt_of_parts_eq_nil rfl rfl

@[simp]
theorem wellBuilt_generator (address : Nat) : (generator address).WellBuilt :=
  wellBuilt_of_parts_eq_nil rfl rfl

@[simp]
theorem wellBuilt_deque (address : Nat) : (deque address).WellBuilt :=
  wellBuilt_of_parts_eq_nil rfl rfl

@[simp]
theorem wellBuilt_tuple (stamp : Nat) (items : List Value) :
    (tuple stamp items).WellBuilt ↔ ∀ v ∈ items, v.WellBuilt :=
  wellBuilt_iff_parts rfl

@[simp]
theorem wellBuilt_ok (stamp : Nat) : (ok stamp v).WellBuilt ↔ v.WellBuilt :=
  (wellBuilt_iff_parts rfl).trans List.forall_mem_singleton

@[simp]
theorem wellBuilt_err (stamp : Nat) : (err stamp v).WellBuilt ↔ v.WellBuilt :=
  (wellBuilt_iff_parts rfl).trans List.forall_mem_singleton

@[simp]
theorem wellBuilt_fault (g : Fault Value) : (fault g).WellBuilt ↔ g.WellBuilt :=
  wellBuilt_iff_parts rfl

@[simp]
theorem wellBuilt_done (i : Nat) : (node i (.done v)).WellBuilt ↔ v.WellBuilt :=
  (wellBuilt_iff_parts rfl).trans List.forall_mem_singleton

@[simp]
theorem wellBuilt_delay (i : Nat) :
    (node i (.delay thunk label)).WellBuilt ↔ thunk.WellBuilt ∧ label.WellBuilt :=
  (wellBuilt_iff_parts rfl).trans forall_mem_pair

@[simp]
theorem wellBuilt_flatMap (i : Nat) :
    (node i (.flatMap source f)).WellBuilt ↔
      (source.isNode = true ∨ f.asks = true) ∧ source.WellBuilt ∧ f.WellBuilt :=
  wellBuilt_iff.trans (and_congr Bool.or_eq_true_iff forall_mem_pair)

@[simp]
theorem wellBuilt_recover (i : Nat) :
    (node i (.recover source handler)).WellBuilt ↔
      source.isNode = true ∧ source.WellBuilt ∧ handler.WellBuilt :=
  wellBuilt_iff.trans (and_congr_right fun _ => forall_mem_pair)

@[simp]
theorem not_wellBuilt_foreign (i : Nat) (variant : String) :
    ¬ (node i (.foreign variant)).WellBuilt :=
  fun hv => Bool.false_ne_true (wellBuilt_iff.mp hv).1

@[simp]
theorem wellBuilt_callback (stamp : Nat) (c : Callback Value) :
    (callback stamp c).WellBuilt ↔
      (∀ s ∈ c.sources, s.isNode = true) ∧ ∀ p ∈ c.parts, p.WellBuilt :=
  wellBuilt_iff.trans (and_congr_left fun _ => List.all_eq_true)

@[simp]
theorem wellBuilt_method (stamp : Nat) (m : Method) :
    (method stamp v m).WellBuilt ↔
      (v.isNode = true ∨ m.owner ≠ "EffectNode") ∧ v.WellBuilt := by
  refine wellBuilt_iff.trans (and_congr ?_ List.forall_mem_singleton)
  exact Bool.or_eq_true_iff.trans (or_congr_right bne_iff_ne)

@[simp]
theorem wellBuilt_stream (stamp : Nat) :
    (stream stamp v f).WellBuilt ↔ v.WellBuilt ∧ f.WellBuilt :=
  (wellBuilt_iff_parts rfl).trans forall_mem_pair

@[simp]
theorem wellBuilt_preset (stamp : Nat) (args : List Value) (keywords : Keywords) :
    (preset stamp f args keywords).WellBuilt ↔
      f.WellBuilt ∧ (∀ a ∈ args, a.WellBuilt) ∧ ∀ e ∈ keywords, e.2.WellBuilt := by
  refine (wellBuilt_iff_parts rfl).trans (List.forall_mem_cons.trans (and_congr_right fun _ => ?_))
  exact List.forall_mem_append.trans (and_congr_right fun _ => List.forall_mem_map)

/-- A sequence that the library makes is well built if its source is a node, or its continuation
takes anything. -/
theorem wellBuilt_sequenced {next : Callback Value} :
    (sequenced source next).WellBuilt ↔ (source.isNode = true ∨ next.asks = true) ∧
      source.WellBuilt ∧ (∀ s ∈ next.sources, s.isNode = true) ∧ ∀ p ∈ next.parts, p.WellBuilt := by
  rw [sequenced, ofNode, ofCallback, wellBuilt_flatMap, wellBuilt_callback]
  exact Iff.rfl

/-- A node that is built when it is reached is well built if what it closes over is. -/
theorem wellBuilt_suspend {factory : Factory Value} :
    (suspend factory).WellBuilt ↔
      (∀ s ∈ factory.sources, s.isNode = true) ∧ ∀ p ∈ factory.parts, p.WellBuilt := by
  rw [suspend, wellBuilt_sequenced]
  exact ⟨fun hs => hs.2.2, fun hs => ⟨.inl rfl, (wellBuilt_done 1).mpr wellBuilt_none, hs⟩⟩

/-- A node that is well built is of a variant that the machine knows. -/
theorem isKnown_of_wellBuilt (hv : v.WellBuilt) (hn : v.isNode = true) : v.isKnown = true := by
  cases v with
  | node i n =>
    cases n with
    | foreign variant => exact absurd hv (not_wellBuilt_foreign i variant)
    | done _ | delay _ _ | flatMap _ _ | recover _ _ => rfl
  | _ => cases hn

/-- What is no node is of no variant that the machine knows. -/
theorem isKnown_of_not_isNode (hn : v.isNode = false) : v.isKnown = false := by
  cases v with
  | node i n => cases hn
  | _ => rfl

end Value

/-- A complaint carries nothing but texts. -/
theorem Complaint.wellBuilt_fault (c : Complaint) : c.fault.WellBuilt := by
  intro p hp
  have hdetail : c.detail.parts = [] := by
    cases c <;> rfl
  rw [Fault.parts, fault, hdetail, List.append_nil, List.mem_singleton] at hp
  rw [hp]
  exact Value.wellBuilt_str _

/-- The amount of a number is well built. -/
theorem Number.wellBuilt_toValue (n : Number) : n.toValue.WellBuilt := by
  cases n <;> simp [Number.toValue, Value.ofFloat]

end EffectGraph
