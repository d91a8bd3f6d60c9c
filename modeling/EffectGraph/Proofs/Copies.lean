import EffectGraph.Proofs.Construction

/-!
# Building the same node again

A call that builds a node looks at little besides its arguments: at the elements of the iterable of
nodes that are to run in order, at whether a condition or a label holds, at what a console offers, at
the name of a cell and at the function of a program (`foundBy`).  Where it finds the same in another
world, it gives the same node there (`follows_callValue`), whatever has happened in between.  So two
nodes that were built by the same expression, each of its calls in a world of its own, are the same
node (`Copies.eq`): what a run has left behind is in the world, and none of it is in the node.
-/

namespace EffectGraph

/-- What writes a value as a line to a console: its writer, which has the line already. -/
def Console.lineWriter (h : Host) (console value : Value) : Eff Value := do
  let write ← Console.writer h console
  let text ← Eff.ofExcept ((← get).str? value)
  Eff.ofExcept ((← get).preset write [.str text] [])

namespace Script

/-- **What a function of the library looks at** to build a node, besides its arguments. -/
def lookedUp (h : Host) (fuel : Nat) (op : Operation) (places : List (Option Value)) :
    Eff (List Value) := do
  match op, places with
  | .sequence, [some nodes] => elements h fuel nodes
  | .when, [some condition, some _] => return [.bool ((← get).isTruthy condition)]
  | .unlessM, [some condition, some _] => return [.bool ((← get).isTruthy condition)]
  | .fail, [some _, some label] => return [.bool ((← get).isTruthy label)]
  | .printLine, [some console, some text] => return [← Console.lineWriter h console text]
  | .printLineAlias, [some console, some text] => return [← Console.lineWriter h console text]
  | .readLine, [some console] => return [← Console.reader h console]
  | .readLineAlias, [some console] => return [← Console.reader h console]
  | _, _ => return []

/-- What a method looks at: those of cells at the name of their cell, or at what makes up for one. -/
def lookedAt (m : Method) (v : Value) : Eff (List Value) := do
  match m.isOfCell, v with
  | true, .cell address => return [.str (← World.cellName address)]
  | true, v => return [← readAttribute v "_read", ← cellLabel v "get"]
  | false, _ => return []

/-- **What a call that builds a node looks at** besides its arguments. -/
def foundBy (h : Host) (fuel : Nat) (f : Value) (args : List Value) (keywords : Keywords) :
    Eff (List Value) := do
  match f with
  | .operation op =>
    lookedUp h fuel op (← Eff.ofExcept ((operationSignature op).bind args keywords)).places
  | .method _ v m => lookedAt m v
  | .unbound m =>
    match (← Eff.ofExcept ((Signature.ofUnbound m).bind args keywords)).places with
    | some v :: _ => lookedAt m v
    | _ => return []
  | .program stamp target => return [(← get).wrappedBy (.program stamp target) target]
  | _ => return []

/-! ### What follows from what is found -/

/-- Two computations of a node in two worlds give the same one if the same is found there. -/
def Follows (w w' : World) (found found' : Eff (List Value)) (x x' : Eff Value) : Prop :=
  ∀ seen u u' node v copy v', found w = .ok seen u → found' w' = .ok seen u' →
    x w = .ok node v → x' w' = .ok copy v' → copy = node

namespace Follows

variable {α : Type} {w w' : World} {found found' : Eff (List Value)}

theorem ofExcept (c : Except Complaint Value) :
    Follows w w' found found' (Eff.ofExcept c) (Eff.ofExcept c) := by
  intro _ _ _ _ _ _ _ _ _ hx hx'
  cases c with
  | ok v =>
    cases hx
    cases hx'
    rfl
  | error c => cases hx

theorem pure (v : Value) : Follows w w' found found' (Pure.pure v) (Pure.pure v) := ofExcept (.ok v)

theorem refused {x x' : Eff Value} (hx : ∀ v u, x w ≠ .ok v u) : Follows w w' found found' x x' :=
  fun _ _ _ _ _ _ _ _ _ hxw _ => absurd hxw (hx _ _)

theorem bind {c : Except Complaint α} {f f' : α → Eff Value}
    (hf : ∀ a, Follows w w' found found' (f a) (f' a)) :
    Follows w w' found found' (Eff.ofExcept c >>= f) (Eff.ofExcept c >>= f') := by
  cases c with
  | ok a => exact hf a
  | error c =>
    refine refused fun v u hx => ?_
    cases hx

/-- Arguments that are distributed first, for what is found too. -/
theorem distributed {c : Except Complaint α} {found found' : α → Eff (List Value)}
    {f f' : α → Eff Value} (hf : ∀ a, c = .ok a → Follows w w' (found a) (found' a) (f a) (f' a)) :
    Follows w w' (Eff.ofExcept c >>= found) (Eff.ofExcept c >>= found') (Eff.ofExcept c >>= f)
      (Eff.ofExcept c >>= f') := by
  cases c with
  | ok a => exact hf a rfl
  | error c =>
    refine refused fun v u hx => ?_
    cases hx

/-- What goes on from what is looked at, which shows in what is found. -/
theorem looked {x x' : Eff α} {f f' : α → Eff Value} {g : α → List Value}
    (hg : ∀ {a b}, g a = g b → a = b)
    (hf : ∀ a u u', x w = .ok a u → Follows u u' (Pure.pure []) (Pure.pure []) (f a) (f' a)) :
    Follows w w' (g <$> x) (g <$> x') (x >>= f) (x' >>= f') := by
  intro seen u u' node v copy v' hs hs' hx hx'
  obtain ⟨a, w₁, ha, hnode⟩ := Eff.exists_of_bind_ok hx
  obtain ⟨b, w₁', hb, hcopy⟩ := Eff.exists_of_bind_ok hx'
  rw [Eff.map_of_ok ha] at hs
  rw [Eff.map_of_ok hb] at hs'
  cases hs
  obtain rfl : b = a := hg (EStateM.Result.ok.inj hs').1
  exact hf b _ _ ha [] _ _ node v copy v' rfl rfl hnode hcopy

end Follows

section operations

variable {h : Host} {op : Operation} {a : Arguments} {w w' : World}

/-- A truth that is found shows. -/
theorem eq_of_shown {b b' : Bool} (hb : [Value.bool b] = [Value.bool b']) : b = b' := by
  cases hb
  rfl

theorem eq_of_found {v v' : Value} (hv : [v] = [v']) : v = v' := by
  cases hv
  rfl

/-- Whether a condition holds. -/
def truth (condition : Value) : Eff Bool := do return (← get).isTruthy condition

/-- A node that runs only if a condition holds depends on whether it does. -/
theorem follows_when {b : Bool} {node : Value} {found found' : Eff (List Value)}
    (hnode : ∀ stamp variant, node = .node stamp (.foreign variant) → b = false) :
    Follows w w' found found' (Graph.when h b node) (Graph.when h b node) := by
  unfold Graph.when Graph.requireNode
  split
  case isFalse => exact .refused fun v u hx => by cases hx
  case isTrue hn =>
    cases b with
    | false => exact .pure _
    | true =>
      cases node with
      | node stamp n =>
        cases n with
        | foreign variant => exact absurd (hnode stamp variant rfl) nofun
        | _ => exact .pure _
      | _ => cases hn

theorem follows_whenHolds {condition node : Value}
    (hplain : forwarded? w .when [some condition, some node] = none) :
    Follows w w' ((fun b => [.bool b]) <$> truth condition) ((fun b => [.bool b]) <$> truth condition)
      (truth condition >>= fun b => Graph.when h b node)
      (truth condition >>= fun b => Graph.when h b node) := by
  refine .looked eq_of_shown fun b u u' hb => follows_when fun stamp variant hnode => ?_
  cases hb
  subst hnode
  cases hc : w.isTruthy condition with
  | false => rfl
  | true => simp [forwarded?, hc] at hplain

theorem follows_unless {condition node : Value}
    (hplain : forwarded? w .unlessM [some condition, some node] = none) :
    Follows w w' ((fun b => [.bool b]) <$> truth condition) ((fun b => [.bool b]) <$> truth condition)
      (truth condition >>= fun b => Graph.when h (!b) node)
      (truth condition >>= fun b => Graph.when h (!b) node) := by
  refine .looked eq_of_shown fun b u u' hb => follows_when fun stamp variant hnode => ?_
  cases hb
  subst hnode
  cases hc : w.isTruthy condition with
  | false => simp [forwarded?, hc] at hplain
  | true => rfl

/-- A label that does not hold is as good as none. -/
theorem follows_fail {error : Value} {label : Option Value} {fuel fuel' : Nat} :
    Follows w w' (lookedUp h fuel .fail [some error, label])
      (lookedUp h fuel' .fail [some error, label])
      (do Eff.ofExcept (Graph.fail error (label.filter (← get).isTruthy)))
      (do Eff.ofExcept (Graph.fail error (label.filter (← get).isTruthy))) := by
  cases label with
  | none => exact .ofExcept (Graph.fail error none)
  | some label =>
    have hlabelled : Follows w w' ((fun b => [.bool b]) <$> truth label)
        ((fun b => [.bool b]) <$> truth label)
        (truth label >>= fun b => Eff.ofExcept (Graph.fail error (if b then some label else none)))
        (truth label >>= fun b => Eff.ofExcept (Graph.fail error (if b then some label else none))) :=
      .looked eq_of_shown fun _ _ _ _ => .ofExcept _
    exact hlabelled

theorem follows_printLine {console text : Value} :
    Follows w w' (do return [← Console.lineWriter h console text])
      (do return [← Console.lineWriter h console text]) (Console.printLine h console text)
      (Console.printLine h console text) := by
  have hline : Console.printLine h console text =
      Console.lineWriter h console text >>= fun write => Eff.ofExcept (Graph.printLine write) := by
    simp only [Console.printLine, Console.lineWriter, bind_assoc]
  rw [hline]
  exact .looked eq_of_found fun _ _ _ _ => .ofExcept _

theorem follows_readLine {console : Value} :
    Follows w w' (do return [← Console.reader h console]) (do return [← Console.reader h console])
      (Console.readLine h console) (Console.readLine h console) :=
  .looked eq_of_found fun _ _ _ _ => .ofExcept _

theorem follows_sequence {nodes : Value} {fuel fuel' : Nat} :
    Follows w w' (elements h fuel nodes) (elements h fuel' nodes) (sequenceOf h fuel nodes)
      (sequenceOf h fuel' nodes) := by
  rw [← id_map (elements h fuel nodes), ← id_map (elements h fuel' nodes)]
  exact .looked id fun _ _ _ _ => .bind fun _ => .pure _

/-- **What a function gives follows from its arguments and what it finds,** in whatever world. -/
theorem follows_runOperation (hop : op.builds = true)
    (hplain : forwarded? w op a.places = none) (fuel fuel' : Nat) :
    Follows w w' (lookedUp h fuel op a.places) (lookedUp h fuel' op a.places)
      (runOperation h fuel op a) (runOperation h fuel' op a) := by
  obtain ⟨places, rest, named, others⟩ := a
  unfold runOperation
  dsimp only at hplain ⊢
  split
  -- functions that give no nodes, and functions that forward
  all_goals first | (cases hop; done) | (cases hplain; done) | skip
  all_goals first
    | exact .ofExcept _
    | exact .pure _
    | exact .bind fun _ => .pure _
    | exact .refused fun v u hx => by cases hx
    | exact follows_sequence
    | exact follows_whenHolds hplain
    | exact follows_unless hplain
    | exact follows_printLine
    | exact follows_readLine
    | exact follows_fail

end operations

section methods

variable {h : Host} {m : Method} {w w' : World} {fuel fuel' : Nat}

theorem eq_of_foundName {a b : String} (hab : [Value.str a] = [Value.str b]) : a = b := by
  cases hab
  rfl

/-- What makes up for a cell is asked for what reads it. -/
theorem follows_readOther (v : Value) :
    Follows w w' (do return [← readAttribute v "_read", ← cellLabel v "get"])
      (do return [← readAttribute v "_read", ← cellLabel v "get"])
      (do
        let read ← readAttribute v "_read"
        Eff.ofExcept (Graph.delay read (← cellLabel v "get")))
      (do
        let read ← readAttribute v "_read"
        Eff.ofExcept (Graph.delay read (← cellLabel v "get"))) := by
  have hboth : ∀ {p q : Value × Value}, [p.1, p.2] = [q.1, q.2] → p = q := fun {p q} hpq => by
    injection hpq with hread hrest
    injection hrest with hlabel
    exact Prod.ext hread hlabel
  let both : Eff (Value × Value) := do return (← readAttribute v "_read", ← cellLabel v "get")
  have hfound : (do return [← readAttribute v "_read", ← cellLabel v "get"] : Eff (List Value)) =
      (fun p => [p.1, p.2]) <$> both := by
    simp only [both, map_bind, map_pure]
  have hread : (do
      let read ← readAttribute v "_read"
      Eff.ofExcept (Graph.delay read (← cellLabel v "get")) : Eff Value) =
      both >>= fun p => Eff.ofExcept (Graph.delay p.1 p.2) := by
    simp only [both, bind_assoc, pure_bind]
  rw [hfound, hread]
  exact .looked hboth fun _ _ _ _ => .ofExcept _

theorem follows_getCell (v : Value) :
    Follows w w' (lookedAt .getCell v) (lookedAt .getCell v) (getCell v) (getCell v) := by
  cases v with
  | cell address => exact .looked eq_of_foundName fun _ _ _ _ => .pure _
  | _ => exact follows_readOther _

theorem follows_setCell (v value : Value) :
    Follows w w' (lookedAt .setCell v) (lookedAt .setCell v) (setCell v value) (setCell v value) := by
  cases v with
  | cell address => exact .looked eq_of_foundName fun _ _ _ _ => .pure _
  | _ =>
    refine .refused fun node u hx => ?_
    obtain ⟨_, _, _, hmissing⟩ := Eff.exists_of_bind_ok hx
    cases hmissing

theorem follows_modifyCell (v f : Value) :
    Follows w w' (lookedAt .modifyCell v) (lookedAt .modifyCell v) (modifyCell v f) (modifyCell v f) := by
  by_cases hf : f.isCallable = true
  · cases v with
    | cell address =>
      have hmodify : modifyCell (.cell address) f =
          World.cellName address >>= fun name => Eff.ofExcept (Graph.modifyCell address name f) := by
        simp only [modifyCell, hf]
        rfl
      rw [hmodify]
      exact .looked eq_of_foundName fun _ _ _ _ => .ofExcept _
    | _ =>
      refine .refused fun node u hx => ?_
      simp only [modifyCell, hf] at hx
      obtain ⟨_, _, _, hmissing⟩ := Eff.exists_of_bind_ok hx
      cases hmissing
  · refine .refused fun node u hx => ?_
    simp only [modifyCell, hf] at hx
    cases hx

/-- **What a method gives follows from its receiver, its arguments and what it finds.** -/
theorem follows_runMethod (hm : (m.isOfNode || m.isOfCell) = true) (v : Value) (a : Arguments) :
    Follows w w' (lookedAt m v) (lookedAt m v) (runMethod h fuel m v a) (runMethod h fuel' m v a) := by
  obtain ⟨places, rest, named, others⟩ := a
  cases m with
  | skip | attempt => exact .pure _
  | getCell => exact follows_getCell v
  | map | flatMap | thenRun | recover =>
    rcases places with _ | ⟨_ | f, _ | ⟨_, _⟩⟩
    case cons.some.nil => exact .ofExcept _
    all_goals exact .refused fun v u hx => by cases hx
  | replace | pair =>
    rcases places with _ | ⟨_ | f, _ | ⟨_, _⟩⟩
    case cons.some.nil => exact .pure _
    all_goals exact .refused fun v u hx => by cases hx
  | setCell =>
    rcases places with _ | ⟨_ | f, _ | ⟨_, _⟩⟩
    case cons.some.nil => exact follows_setCell v f
    all_goals exact .refused fun v u hx => by cases hx
  | modifyCell =>
    rcases places with _ | ⟨_ | f, _ | ⟨_, _⟩⟩
    case cons.some.nil => exact follows_modifyCell v f
    all_goals exact .refused fun v u hx => by cases hx
  | _ => cases hm

end methods

/-! ### Two builds of one expression -/

section calls

variable {h : Host} {f : Value} {args : List Value} {keywords : Keywords} {w w' : World}

/-- **What a call gives follows from its arguments and what it finds,** in whatever world. -/
theorem follows_callValue (hf : Builds f)
    (hplain : ∀ op a, f = .operation op → (operationSignature op).bind args keywords = .ok a →
      forwarded? w op a.places = none) (fuel fuel' : Nat) :
    Follows w w' (foundBy h fuel f args keywords) (foundBy h fuel' f args keywords)
      (callValue h fuel f args keywords) (callValue h fuel' f args keywords) := by
  cases hf with
  | operation hop =>
    show Follows w w' _ _ (callOperation h fuel _ args keywords) (callOperation h fuel' _ args keywords)
    rw [callOperation_eq hop, callOperation_eq hop]
    exact .distributed fun a ha => follows_runOperation hop (hplain _ a rfl ha) fuel fuel'
  | @method stamp v m hm =>
    show Follows w w' (lookedAt m v) (lookedAt m v) (callMethod h fuel v m args keywords)
      (callMethod h fuel' v m args keywords)
    rw [callMethod_eq hm, callMethod_eq hm]
    exact .bind fun a => follows_runMethod hm v a
  | @unbound m hm =>
    obtain ⟨refusal, hcall⟩ := callUnbound_eq hm args keywords
    show Follows w w' _ _ (callUnbound h fuel m args keywords) (callUnbound h fuel' m args keywords)
    rw [hcall, hcall]
    refine .distributed fun ⟨places, rest, named, others⟩ _ => ?_
    rcases places with _ | ⟨_ | v, places⟩
    case cons.some => exact follows_runMethod hm v _
    all_goals exact .refused fun v u hx => by cases hx
  | @program stamp target =>
    let wrapped : Eff Value := do return (← get).wrappedBy (.program stamp target) target
    have hwrapped : Follows w w' ((fun v => [v]) <$> wrapped) ((fun v => [v]) <$> wrapped)
        (wrapped >>= fun v => pure (Graph.generate v args keywords))
        (wrapped >>= fun v => pure (Graph.generate v args keywords)) :=
      .looked eq_of_found fun _ _ _ _ => .pure _
    exact .bind fun _ => hwrapped

/-- A callable whose receiver is replaced. -/
def calleeCopy (σ : Value → Value) (stamp : Nat) : Value → Value
  | .method _ v m => .method stamp (σ v) m
  | f => f

/-- **Two nodes that were built by the same expression.**  Each call of the expression may have been
made in any two worlds, as long as it found the same in both; what it is made of was given, or built
in the same way. -/
inductive Copies (h : Host) : Value → Value → Prop
  | given (v) : Copies h v v
  | built {f args keywords seen node copy u u' v v' fuel fuel'} (σ : Value → Value) (stamp : Nat)
      (w w' : World) (hf : Builds f)
      (hplain : ∀ op a, f = .operation op → (operationSignature op).bind args keywords = .ok a →
        forwarded? w op a.places = none)
      (hparts : ∀ p ∈ f.parts ++ args ++ keywords.map Prod.snd, Copies h p (σ p))
      (hseen : foundBy h fuel f args keywords w = .ok seen u)
      (hseen' : foundBy h fuel' f args keywords w' = .ok seen u')
      (hnode : callValue h fuel f args keywords w = .ok node v)
      (hcopy : callValue h fuel' (calleeCopy σ stamp f) (args.map σ)
        (keywords.map fun e => (e.1, σ e.2)) w' = .ok copy v') : Copies h node copy

/-- **Nodes that were built by the same expression are the same.** -/
theorem Copies.eq {node copy : Value} (hc : Copies h node copy) : copy = node := by
  induction hc with
  | given v => rfl
  | @built f args keywords _ node copy _ _ _ _ fuel fuel' σ stamp w w' hf hplain _ hseen hseen' hnode
      hcopy ih =>
    have hargs : args.map σ = args := by
      refine (List.map_congr_left fun v hv => ?_).trans (List.map_id args)
      exact ih v (List.mem_append_left _ (List.mem_append_right _ hv))
    have hkeywords : (keywords.map fun e => (e.1, σ e.2)) = keywords := by
      refine (List.map_congr_left fun e he => ?_).trans (List.map_id keywords)
      exact congrArg (e.1, ·) (ih e.2 (List.mem_append_right _ (List.mem_map_of_mem he)))
    have hcallee : callValue h fuel' (calleeCopy σ stamp f) args keywords w' =
        callValue h fuel' f args keywords w' := by
      cases f with
      | method stamp' v m =>
        have hv : σ v = v := ih v (List.mem_append_left _ (List.mem_append_left _ List.mem_cons_self))
        show callMethod h fuel' (σ v) m args keywords w' = callMethod h fuel' v m args keywords w'
        rw [hv]
      | _ => rfl
    rw [hargs, hkeywords, hcallee] at hcopy
    exact follows_callValue hf hplain fuel fuel' _ _ _ _ _ _ _ hseen hseen' hnode hcopy

end calls

end Script
end EffectGraph
