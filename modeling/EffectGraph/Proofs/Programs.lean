import EffectGraph.Proofs.WellBuilt

/-!
# Programs built from the library

`Graph.Call args node` says that a method of a node or a function of the library gave `node` for the
arguments `args`, the receiver of a method first.  What such a call gives for well built arguments is
a node and well built (`Graph.Call.wellBuilt`), so every program that is built by such calls is.
-/

namespace EffectGraph
namespace Graph

/-- **The calls of the library that give a node:** its arguments and the node. -/
inductive Call (h : Host) : List Value → Value → Prop
  | unit (v) : Call h [v] (unit v)
  | delay {thunk label node} (hc : delay thunk label = .ok node) : Call h [thunk, label] node
  | suspend {f node} (hc : suspend f = .ok node) : Call h [f] node
  | fail {error label node} (hc : fail error label = .ok node) :
      Call h (error :: label.toList) node
  | map {v f node} (hv : v.isNode = true) (hc : map v f = .ok node) : Call h [v, f] node
  | flatMap {v f node} (hv : v.isNode = true) (hc : flatMap v f = .ok node) : Call h [v, f] node
  | thenRun {v other node} (hv : v.isNode = true) (hc : thenRun v other = .ok node) :
      Call h [v, other] node
  | skip {v} (hv : v.isNode = true) : Call h [v] (skip v)
  | replace {v} (hv : v.isNode = true) (value) : Call h [v, value] (replace v value)
  | recover {v f node} (hv : v.isNode = true) (hc : recover v f = .ok node) : Call h [v, f] node
  | attempt {v} (hv : v.isNode = true) : Call h [v] (attempt v)
  | pair {v other node} (hv : v.isNode = true) (hc : pair? v other = some node) :
      Call h [v, other] node
  | map2 {first second combiner node} (hc : map2 first second combiner = .ok node) :
      Call h (first :: second :: combiner.parts) node
  | fold {elements initial step node} (hc : fold elements initial step = .ok node) :
      Call h [elements, initial, step] node
  | foreach (elements mapper) : Call h (elements :: mapper.parts) (foreach elements mapper)
  | sequenceUnit {nodes node} (hc : sequenceUnit nodes = .ok node) : Call h nodes node
  | traverse (items mapper) : Call h (items :: mapper.parts) (traverse items mapper)
  | sequence {nodes} (hc : requireNodes "sequence" nodes = .ok ()) :
      Call h nodes (traverse (.ofItems nodes) .same)
  | replicate {count v node} (hc : replicate count v = .ok node) : Call h [count, v] node
  | replicateUnit {count v node} (hc : replicateUnit count v = .ok node) : Call h [count, v] node
  | doWhile {body condition node} (hc : doWhile body condition = .ok node) :
      Call h [body, condition] node
  | whileLoop {condition body node} (hc : whileLoop condition body = .ok node) :
      Call h [condition, body] node
  | forever {v node} (hc : forever v = .ok node) : Call h [v] node
  | whenever {condition v node w w'} (hc : Graph.when h condition v w = .ok node w') :
      Call h [v] node
  | generate (f args keywords) :
      Call h (f :: (args ++ keywords.map Prod.snd)) (generate f args keywords)
  | newCell (initial) : Call h [initial] (newCell initial)
  | getCell (address name) : Call h [] (getCell address name)
  | setCell (address name value) : Call h [value] (setCell address name value)
  | modifyCell {address name f node} (hc : modifyCell address name f = .ok node) : Call h [f] node
  | readLine {reader node} (hc : readLine reader = .ok node) : Call h [reader] node
  | printLine {writer node} (hc : printLine writer = .ok node) : Call h [writer] node
  | parseNumber (text) : Call h [text] (parseNumber text)

variable {h : Host} {v thunk label node : Value}

/-! ### What the calls look at -/

/-- What was required to be a node is one. -/
theorem isNode_of_requireNode_bind {α : Type} {operation : String} {r : α}
    {next : Unit → Except Complaint α} (hc : (requireNode operation v >>= next) = .ok r) :
    v.isNode = true ∧ next () = .ok r := by
  unfold requireNode at hc
  split at hc
  · next hv => exact ⟨hv, hc⟩
  · cases hc

/-- A call that goes on after a count was read gave what comes after it. -/
theorem exists_of_bind_ok {α β : Type} {r : Except Complaint α} {next : α → Except Complaint β}
    {b : β} (hc : (r >>= next) = .ok b) : ∃ a, next a = .ok b := by
  cases r with
  | error c => cases hc
  | ok a => exact ⟨a, hc⟩

/-- A call that looks at one thing and was not refused found it. -/
theorem of_ite_ok {α : Type} {c : Prop} [Decidable c] {a r : α} {refusal : Complaint}
    (hc : (if c then Except.ok a else Except.error refusal) = .ok r) : c ∧ a = r := by
  split at hc
  · next hholds => exact ⟨hholds, Except.ok.inj hc⟩
  · cases hc

/-- An action of the library is well built if its thunk has well built parts. -/
theorem wellBuilt_action {c : Callback Value} {name : String} (hs : c.sources = [])
    (hc : ∀ p ∈ c.parts, p.WellBuilt) :
    (action c name).isNode = true ∧ (action c name).WellBuilt := by
  refine ⟨rfl, (Value.wellBuilt_delay 0).mpr ⟨(Value.wellBuilt_callback 0 c).mpr ⟨?_, hc⟩, ?_⟩⟩
  · rw [hs]
    exact fun s hmem => absurd hmem List.not_mem_nil
  · exact Value.wellBuilt_str name

/-! ### What the calls give -/

/-- A node that is built when it is reached is well built if the library has looked at what it takes
for a source. -/
theorem wellBuilt_suspend {factory : Factory Value} (hs : ∀ s ∈ factory.sources, s.isNode = true)
    (hp : ∀ p ∈ factory.parts, p.WellBuilt) :
    (Value.suspend factory).isNode = true ∧ (Value.suspend factory).WellBuilt :=
  ⟨rfl, Value.wellBuilt_suspend.mpr ⟨hs, hp⟩⟩

/-- A fold looks at nothing but its step before it is reached. -/
theorem wellBuilt_foldWith {elements initial : Value} {step : FoldStep Value}
    (he : elements.WellBuilt) (hi : initial.WellBuilt) (hs : ∀ p ∈ step.parts, p.WellBuilt) :
    (foldWith elements initial step).isNode = true ∧ (foldWith elements initial step).WellBuilt :=
  wellBuilt_suspend (List.forall_mem_nil _)
    (List.forall_mem_cons.mpr ⟨he, List.forall_mem_cons.mpr ⟨hi, hs⟩⟩)

/-- A node and what the library does after it are well built if what is done after it is. -/
theorem wellBuilt_sequenced {next : Callback Value} (hv : v.isNode = true) (hw : v.WellBuilt)
    (hs : ∀ s ∈ next.sources, s.isNode = true) (hp : ∀ p ∈ next.parts, p.WellBuilt) :
    (Value.sequenced v next).isNode = true ∧ (Value.sequenced v next).WellBuilt :=
  ⟨rfl, Value.wellBuilt_sequenced.mpr ⟨.inl hv, hw, hs, hp⟩⟩

theorem wellBuilt_skip (hv : v.isNode = true) (hw : v.WellBuilt) :
    (Graph.skip v).isNode = true ∧ (Graph.skip v).WellBuilt :=
  wellBuilt_sequenced hv hw (List.forall_mem_nil _) (List.forall_mem_nil _)

/-- A node that is well built has its own way of dropping its value. -/
theorem skipped_of_wellBuilt (hv : v.isNode = true) (hw : v.WellBuilt) :
    v.skipped h = pure (Graph.skip v) := by
  cases v with
  | node i n =>
    cases n with
    | foreign variant => exact absurd hw (Value.not_wellBuilt_foreign i variant)
    | done _ | delay _ _ | flatMap _ _ | recover _ _ => rfl
  | _ => cases hv

theorem wellBuilt_when {condition : Bool} {w w' : World} (hw : v.WellBuilt)
    (hc : Graph.when h condition v w = .ok node w') : node.isNode = true ∧ node.WellBuilt := by
  obtain ⟨_, w₁, hrequired, hc⟩ := Eff.exists_of_bind_ok hc
  have hv : v.isNode = true := by
    unfold requireNode at hrequired
    split at hrequired
    · assumption
    · cases hrequired
  split at hc
  · rw [skipped_of_wellBuilt hv hw] at hc
    cases hc
    exact wellBuilt_skip hv hw
  · cases hc
    exact ⟨rfl, (Value.wellBuilt_done 1).mpr Value.wellBuilt_none⟩

/-- **The library gives well built nodes for well built arguments.** -/
theorem Call.wellBuilt {args : List Value} (hcall : Call h args node)
    (hargs : ∀ a ∈ args, a.WellBuilt) : node.isNode = true ∧ node.WellBuilt := by
  cases hcall with
  | unit v =>
    rw [List.forall_mem_singleton] at hargs
    exact ⟨rfl, (Value.wellBuilt_done 0).mpr hargs⟩
  | delay hc =>
    obtain ⟨-, rfl⟩ := of_ite_ok hc
    rw [List.forall_mem_cons, List.forall_mem_singleton] at hargs
    exact ⟨rfl, (Value.wellBuilt_delay 0).mpr hargs⟩
  | suspend hc =>
    obtain ⟨-, rfl⟩ := of_ite_ok hc
    exact wellBuilt_suspend (List.forall_mem_nil _) hargs
  | @fail error label node hc =>
    unfold Graph.fail at hc
    split at hc
    · next f =>
      obtain ⟨-, rfl⟩ := of_ite_ok hc
      rw [List.forall_mem_cons] at hargs
      refine ⟨rfl, (Value.wellBuilt_delay 0).mpr ⟨?_, ?_⟩⟩
      · simpa [Value.ofCallback, Callback.sources, Callback.parts] using hargs.1
      · cases label with
        | none => exact Value.wellBuilt_str _
        | some l => exact hargs.2 l (List.mem_singleton_self l)
    · cases hc
  | map hv hc =>
    obtain ⟨-, rfl⟩ := of_ite_ok hc
    rw [List.forall_mem_cons] at hargs
    exact wellBuilt_sequenced hv hargs.1 (List.forall_mem_nil _) hargs.2
  | flatMap hv hc =>
    obtain ⟨-, rfl⟩ := of_ite_ok hc
    rw [List.forall_mem_cons, List.forall_mem_singleton] at hargs
    exact ⟨rfl, (Value.wellBuilt_flatMap 0).mpr ⟨.inl hv, hargs⟩⟩
  | thenRun hv hc =>
    obtain ⟨-, rfl⟩ := of_ite_ok hc
    rw [List.forall_mem_cons] at hargs
    exact wellBuilt_sequenced hv hargs.1 (List.forall_mem_nil _) hargs.2
  | skip hv =>
    rw [List.forall_mem_singleton] at hargs
    exact wellBuilt_skip hv hargs
  | replace hv value =>
    rw [List.forall_mem_cons] at hargs
    exact wellBuilt_sequenced hv hargs.1 (List.forall_mem_nil _) hargs.2
  | recover hv hc =>
    obtain ⟨-, rfl⟩ := of_ite_ok hc
    rw [List.forall_mem_cons, List.forall_mem_singleton] at hargs
    exact ⟨rfl, (Value.wellBuilt_recover 0).mpr ⟨hv, hargs⟩⟩
  | attempt hv =>
    rw [List.forall_mem_singleton] at hargs
    have hsource : (Value.sequenced _ .wrapOk).WellBuilt :=
      (wellBuilt_sequenced hv hargs (List.forall_mem_nil _) (List.forall_mem_nil _)).2
    have hhandler : (Value.ofCallback .wrapErr).WellBuilt := by
      simp [Value.ofCallback, Callback.sources, Callback.parts]
    exact ⟨rfl, (Value.wellBuilt_recover 0).mpr ⟨rfl, hsource, hhandler⟩⟩
  | pair hv hc =>
    unfold Graph.pair? at hc
    split at hc
    · next hother =>
      obtain rfl := Option.some.inj hc
      rw [List.forall_mem_cons] at hargs
      exact wellBuilt_sequenced hv hargs.1 (List.forall_mem_singleton.mpr hother) hargs.2
    · cases hc
  | map2 hc =>
    obtain ⟨hfirst, hc⟩ := isNode_of_requireNode_bind hc
    obtain ⟨hsecond, hc⟩ := isNode_of_requireNode_bind hc
    obtain rfl := Except.ok.inj hc
    rw [List.forall_mem_cons] at hargs
    exact wellBuilt_sequenced hfirst hargs.1 (List.forall_mem_singleton.mpr hsecond) hargs.2
  | fold hc =>
    obtain ⟨-, rfl⟩ := of_ite_ok hc
    rw [List.forall_mem_cons, List.forall_mem_cons] at hargs
    exact wellBuilt_foldWith hargs.1 hargs.2.1 hargs.2.2
  | foreach elements mapper =>
    rw [List.forall_mem_cons] at hargs
    exact wellBuilt_foldWith hargs.1 Value.wellBuilt_none hargs.2
  | sequenceUnit hc =>
    obtain ⟨_, hc⟩ := exists_of_bind_ok hc
    obtain rfl := Except.ok.inj hc
    exact wellBuilt_foldWith ((Value.wellBuilt_tuple 0 _).mpr hargs) Value.wellBuilt_none
      (List.forall_mem_nil _)
  | traverse items mapper => exact wellBuilt_suspend (List.forall_mem_nil _) hargs
  | sequence _ =>
    refine wellBuilt_suspend (List.forall_mem_nil _) ?_
    exact List.forall_mem_singleton.mpr ((Value.wellBuilt_tuple 0 _).mpr hargs)
  | replicate hc =>
    obtain ⟨hv, hc⟩ := isNode_of_requireNode_bind hc
    obtain ⟨n, hc⟩ := exists_of_bind_ok hc
    obtain rfl := Except.ok.inj hc
    rw [List.forall_mem_cons] at hargs
    exact wellBuilt_suspend (List.forall_mem_singleton.mpr hv) hargs.2
  | @replicateUnit count v node hc =>
    obtain ⟨hv, hc⟩ := isNode_of_requireNode_bind hc
    obtain ⟨n, hc⟩ := exists_of_bind_ok hc
    obtain rfl := Except.ok.inj hc
    rw [List.forall_mem_cons] at hargs
    have hstep : ∀ p ∈ (FoldStep.again v).parts, p.WellBuilt := hargs.2
    have hloop := wellBuilt_foldWith (Value.wellBuilt_range 0 0 n) Value.wellBuilt_none hstep
    exact wellBuilt_skip hloop.1 hloop.2
  | doWhile hc =>
    obtain ⟨hbody, hc⟩ := isNode_of_requireNode_bind hc
    obtain rfl := Except.ok.inj hc
    exact wellBuilt_suspend (List.forall_mem_singleton.mpr hbody) hargs
  | whileLoop hc =>
    obtain ⟨hcondition, hc⟩ := isNode_of_requireNode_bind hc
    obtain ⟨hbody, hc⟩ := isNode_of_requireNode_bind hc
    obtain rfl := Except.ok.inj hc
    exact wellBuilt_suspend
      (List.forall_mem_cons.mpr ⟨hcondition, List.forall_mem_singleton.mpr hbody⟩) hargs
  | forever hc =>
    obtain ⟨hv, hc⟩ := isNode_of_requireNode_bind hc
    obtain rfl := Except.ok.inj hc
    exact wellBuilt_suspend (List.forall_mem_singleton.mpr hv) hargs
  | whenever hc =>
    rw [List.forall_mem_singleton] at hargs
    exact wellBuilt_when hargs hc
  | generate f args keywords => exact wellBuilt_suspend (List.forall_mem_nil _) hargs
  | newCell initial => exact wellBuilt_action rfl hargs
  | getCell address name =>
    have hthunk : (Value.method 0 (.cell address) .readCell).WellBuilt :=
      (Value.wellBuilt_method 0 _).mpr ⟨.inr (by decide), Value.wellBuilt_cell address⟩
    exact ⟨rfl, (Value.wellBuilt_delay 0).mpr ⟨hthunk, Value.wellBuilt_str _⟩⟩
  | setCell address name value => exact wellBuilt_action rfl hargs
  | modifyCell hc =>
    obtain ⟨-, rfl⟩ := of_ite_ok hc
    exact wellBuilt_action rfl hargs
  | readLine hc =>
    obtain ⟨-, rfl⟩ := of_ite_ok hc
    rw [List.forall_mem_singleton] at hargs
    exact ⟨rfl, (Value.wellBuilt_delay 0).mpr ⟨hargs, Value.wellBuilt_str _⟩⟩
  | printLine hc =>
    obtain ⟨-, rfl⟩ := of_ite_ok hc
    rw [List.forall_mem_singleton] at hargs
    exact ⟨rfl, (Value.wellBuilt_delay 0).mpr ⟨hargs, Value.wellBuilt_str _⟩⟩
  | parseNumber text =>
    have hparse : (Value.ofCallback .parse).WellBuilt :=
      (Value.wellBuilt_callback 0 _).mpr ⟨List.forall_mem_nil _, List.forall_mem_nil _⟩
    have hthunk := (Value.wellBuilt_preset 0 _ []).mpr ⟨hparse, hargs, List.forall_mem_nil _⟩
    exact ⟨rfl, (Value.wellBuilt_delay 0).mpr ⟨hthunk, Value.wellBuilt_str _⟩⟩

end Graph
end EffectGraph
