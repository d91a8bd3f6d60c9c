import EffectGraph.Proofs.Stamps
import EffectGraph.Proofs.Programs
import EffectGraph.Proofs.Journal

/-!
# Building nodes does nothing

The functions, methods and programs of the library that give nodes (`Builds`) only put their arguments
together.  Whatever the arguments are, a call gives a node or complains, leaves the world as it was but
for the identities of new values (`Inert`), and does the same over every host that reads attributes
and runs the methods of nodes as scripts do (`Host.Attentive`), so that it cannot have called, opened,
pulled or resumed anything that it was given.

There are two exceptions, and `construction_inert` says what they do.  A function that has a method of
the same name asks its first argument for it and calls what it is given, which is a method of nodes for
a node, but may be anything for anything else (`forwarded?`).  And the function that runs the nodes of
an iterable in order takes them when it is called, so that an iterable that has to be pulled is pulled
to its end.
-/

namespace EffectGraph

/-- Is this a function of the library that gives nodes? -/
def Operation.builds : Operation → Bool
  | asValue | attempt | combine | doWhile | flatMap | foldM | foldMUnit | foreachM | forever
  | map2 | map | product | recover | replicateM | replicateMUnit | sequence | sequenceUnit | skip
  | traverse | unlessM | when | whileM
  | printLine | readLine | printLineAlias | readLineAlias | parseNumber
  | delay | fail | pure | suspend | unit | newCell => true
  | _ => false

/-- Is this a method of nodes that gives nodes? -/
def Method.isOfNode : Method → Bool
  | map | flatMap | thenRun | skip | replace | recover | attempt | pair => true
  | _ => false

/-- Is this a method of cells that gives nodes? -/
def Method.isOfCell : Method → Bool
  | getCell | setCell | modifyCell => true
  | _ => false

/-- **A host that reads attributes and runs the methods of nodes as scripts do.**  What it does with
any other callable, and with iterables and generators, is open. -/
structure Host.Attentive (h : Host) : Prop where
  read : ∀ v name, h.read v name = Script.readAttribute v name
  call : ∀ stamp v m args keywords, m.isOfNode = true →
    h.call (.method stamp v m) args keywords = do
      Script.settle (← Script.callMethod .spent 0 v m args keywords)

namespace Script

/-- **The callables that give nodes:** functions of the library, methods of nodes and cells, with and
without a receiver, and effect programs. -/
inductive Builds : Value → Prop where
  | operation {op} (hop : op.builds = true) : Builds (.operation op)
  | method {stamp v m} (hm : (m.isOfNode || m.isOfCell) = true) : Builds (.method stamp v m)
  | unbound {m} (hm : (m.isOfNode || m.isOfCell) = true) : Builds (.unbound m)
  | program {stamp target} : Builds (.program stamp target)

/-- **A world in which some values have got their identity:** new ones, and the items of a list that
is looked at for the first time. -/
inductive Identified (w : World) : World → Prop where
  | restamped {w'} (hw : w.Restamped w') : Identified w w'
  | listed {address items w₁ w₂ w'} (hw : w.Restamped w₁)
      (hitems : settledItems address w₁ = .ok items w₂) (hw' : w₂.Restamped w') : Identified w w'

/-- **How building a node ends:** with a node, or, for the product with what is no node, by declining,
or with a complaint.  Nothing else has happened. -/
inductive Inert (w : World) : EStateM.Result Signal World Value → Prop where
  | built {v w'} (hv : v.isNode = true) (hw : Identified w w') : Inert w (.ok v w')
  | declined {w'} (hw : Identified w w') : Inert w (.ok (.constant .notImplemented) w')
  | refused {fault w'} (hw : Identified w w') : Inert w (.error (.raised fault) w')

section identified

variable {w w₁ w₂ : World}

theorem Identified.refl (w : World) : Identified w w := .restamped (.refl w)

theorem Identified.head (hw : w.Restamped w₁) (h₁ : Identified w₁ w₂) : Identified w w₂ := by
  cases h₁ with
  | restamped h₁ => exact .restamped (hw.trans h₁)
  | listed h₁ hitems h₂ => exact .listed (hw.trans h₁) hitems h₂

theorem Identified.tail (h₁ : Identified w w₁) (hw : w₁.Restamped w₂) : Identified w w₂ := by
  cases h₁ with
  | restamped h₁ => exact .restamped (h₁.trans hw)
  | listed h₁ hitems h₂ => exact .listed h₁ hitems (h₂.trans hw)

/-- Logs, counters, consoles, streams, cells, iterators, generators and all else are as they were. -/
theorem Identified.exists_eq (hw : Identified w w₁) :
    ∃ stamps lists unsettled, w.stamps ≤ stamps ∧ w₁ = { w with stamps, lists, unsettled } := by
  cases hw with
  | restamped hw =>
    obtain ⟨n, hn, rfl⟩ := hw
    exact ⟨n, _, _, hn, rfl⟩
  | @listed address items _ _ _ hw hitems hw' =>
    obtain ⟨n, hn, rfl⟩ := hw
    obtain ⟨_, n₂, lists, unsettled, hn₂, heq⟩ := exists_settledItems address { w with stamps := n }
    rw [heq] at hitems
    cases hitems
    obtain ⟨n₃, hn₃, rfl⟩ := hw'
    exact ⟨n₃, lists, unsettled, Nat.le_trans hn (Nat.le_trans hn₂ hn₃), rfl⟩

end identified

/-- What the library builds, if it does not refuse, is a node. -/
def GivesNode (c : Except Complaint Value) : Prop := ∀ v, c = .ok v → v.isNode = true

namespace GivesNode

variable {α : Type} {v : Value} {refusal : Complaint}

theorem ok (hv : v.isNode = true) : GivesNode (.ok v) := fun _ h => Except.ok.inj h ▸ hv

theorem error (refusal : Complaint) : GivesNode (.error refusal) := fun _ h => nomatch h

theorem ite {c : Prop} [Decidable c] (hv : v.isNode = true) :
    GivesNode (if c then .ok v else .error refusal) := by
  split
  · exact ok hv
  · exact error refusal

theorem bind {r : Except Complaint α} {next : α → Except Complaint Value}
    (hnext : ∀ a, GivesNode (next a)) : GivesNode (r >>= next) := by
  cases r with
  | ok a => exact hnext a
  | error c => exact error c

end GivesNode

namespace Inert

variable {α : Type} {w : World}

theorem ofExcept {c : Except Complaint Value} (hc : GivesNode c) (w : World) :
    Inert w (Eff.ofExcept c w) := by
  cases c with
  | ok v => exact .built (hc v rfl) (.refl w)
  | error c => exact .refused (.refl w)

theorem pure {v : Value} (hv : v.isNode = true) (w : World) : Inert w ((Pure.pure v : Eff Value) w) :=
  .built hv (.refl w)

theorem complain (c : Complaint) (w : World) : Inert w ((Eff.complain c : Eff Value) w) :=
  .refused (.refl w)

theorem missing (v : Value) (name : String) (w : World) :
    Inert w ((Script.missing v name : Eff Value) w) := .refused (.refl w)

/-- What is built in a world that has only got some identities is built. -/
theorem head {w₁ : World} {r : EStateM.Result Signal World Value} (hw : w.Restamped w₁)
    (hr : Inert w₁ r) : Inert w r := by
  cases hr with
  | built hv hw₁ => exact .built hv (hw₁.head hw)
  | declined hw₁ => exact .declined (hw₁.head hw)
  | refused hw₁ => exact .refused (hw₁.head hw)

/-- What is built after something quiet is built. -/
theorem bind {x : Eff α} {f : α → Eff Value} (hx : x.Quiet) (hf : ∀ a w, Inert w (f a w)) (w : World) :
    Inert w ((x >>= f) w) := by
  rcases hx w with ⟨a, w₁, hxw, hw⟩ | ⟨fault, w₁, hxw, hw⟩
  · rw [Eff.bind_of_ok hxw]
    exact (hf a w₁).head hw
  · rw [Eff.bind_of_error hxw]
    exact .refused (.restamped hw)

/-- A node that is given once a check has passed. -/
theorem checked {w₁ : World} {v : Value} (hw : Identified w w₁) (check : Except Complaint Unit)
    (hv : v.isNode = true) : Inert w ((do Eff.ofExcept check; return v : Eff Value) w₁) := by
  cases check with
  | ok _ => exact .built hv hw
  | error c => exact .refused hw

theorem get_bind {f : World → Eff Value} (hf : ∀ w₀ w, Inert w (f w₀ w)) (w : World) :
    Inert w ((get >>= f) w) := hf w w

/-- What is built stays so when it is handed to a script. -/
theorem settle {x : Eff Value} (hx : Inert w (x w)) : Inert w ((x >>= Script.settle) w) := by
  cases hr : x w with
  | ok v w₁ =>
    rw [hr] at hx
    rw [Eff.bind_of_ok hr]
    obtain ⟨v', w₂, hs, hw⟩ := settle_restamps.1 v w₁
    rw [hs]
    cases hx with
    | built hv hw₁ => exact .built (isNode_of_settle hv hs) (hw₁.tail hw)
    | declined hw₁ =>
      have hsame : Script.settle (.constant .notImplemented) w₁ =
          .ok (.constant .notImplemented) w₁ := rfl
      rw [hsame] at hs
      cases hs
      exact .declined hw₁
  | error signal w₁ =>
    rw [hr] at hx
    rw [Eff.bind_of_error hr]
    exact hx

end Inert

/-! ### Methods of nodes and cells -/

section methods

variable {m : Method} {h : Host} {fuel : Nat}

theorem quiet_cellName (address : Nat) : (World.cellName address).Quiet :=
  .get_bind fun _ => .ofExcept _

theorem quiet_cellLabel (v : Value) (action : String) : (cellLabel v action).Quiet :=
  .bind (quiet_readAttribute (by simp [asked]) v) fun _ =>
    .get_bind fun _ => .bind (.ofExcept _) fun _ => .pure _

theorem inert_getCell (v : Value) (w : World) : Inert w (getCell v w) := by
  unfold getCell
  split
  · exact .bind (quiet_cellName _) (fun _ => .pure rfl) w
  · exact .bind (quiet_readAttribute (by simp [asked]) v)
      (fun read => .bind (quiet_cellLabel v "get") fun label => .ofExcept (.ite rfl)) w

theorem inert_setCell (v value : Value) (w : World) : Inert w (setCell v value w) := by
  unfold setCell
  split
  · exact .bind (quiet_cellName _) (fun _ => .pure rfl) w
  · exact .bind (quiet_cellLabel v "set") (fun _ => .missing v _) w

theorem inert_modifyCell (v f : Value) (w : World) : Inert w (modifyCell v f w) := by
  unfold modifyCell
  split
  · exact .complain _ w
  · cases v with
    | cell address => exact .bind (quiet_cellName _) (fun _ => .ofExcept (.ite rfl)) w
    | _ => exact .bind (quiet_cellLabel _ "modify") (fun _ => .missing _ _) w

/-- **The methods of nodes and cells that give nodes are inert** on whatever they are called. -/
theorem inert_runMethod (hm : (m.isOfNode || m.isOfCell) = true) (v : Value) (a : Arguments)
    (w : World) : Inert w (runMethod h fuel m v a w) := by
  obtain ⟨places, rest, named, others⟩ := a
  cases m with
  | skip | attempt => exact .pure rfl w
  | getCell => exact inert_getCell v w
  | map | flatMap | thenRun | recover =>
    rcases places with _ | ⟨_ | f, _ | ⟨_, _⟩⟩
    case cons.some.nil => exact .ofExcept (.ite rfl) w
    all_goals exact .missing v _ w
  | replace =>
    rcases places with _ | ⟨_ | f, _ | ⟨_, _⟩⟩
    case cons.some.nil => exact .pure rfl w
    all_goals exact .missing v _ w
  | setCell =>
    rcases places with _ | ⟨_ | f, _ | ⟨_, _⟩⟩
    case cons.some.nil => exact inert_setCell v f w
    all_goals exact .missing v _ w
  | modifyCell =>
    rcases places with _ | ⟨_ | f, _ | ⟨_, _⟩⟩
    case cons.some.nil => exact inert_modifyCell v f w
    all_goals exact .missing v _ w
  | pair =>
    rcases places with _ | ⟨_ | other, _ | ⟨_, _⟩⟩
    case cons.some.nil =>
      by_cases ho : other.isNode = true
      · have hpair : Graph.pair? v other = some (.sequenced v (.pairOuter other)) := if_pos ho
        show Inert w (.ok ((Graph.pair? v other).getD (.constant .notImplemented)) w)
        rw [hpair]
        exact .built rfl (.refl w)
      · have hpair : Graph.pair? v other = none := if_neg ho
        show Inert w (.ok ((Graph.pair? v other).getD (.constant .notImplemented)) w)
        rw [hpair]
        exact .declined (.refl w)
    all_goals exact .missing v _ w
  | _ => cases hm

/-- They do not reach the host. -/
theorem runMethod_eq (hm : (m.isOfNode || m.isOfCell) = true) (h h' : Host) (fuel fuel' : Nat)
    (v : Value) (a : Arguments) : runMethod h fuel m v a = runMethod h' fuel' m v a := by
  obtain ⟨places, rest, named, others⟩ := a
  cases m with
  | skip | attempt | getCell => rfl
  | map | flatMap | thenRun | recover | replace | setCell | modifyCell | pair =>
    rcases places with _ | ⟨_ | f, _ | ⟨_, _⟩⟩ <;> rfl
  | _ => cases hm

/-- A call of such a method distributes its arguments and runs it. -/
theorem callMethod_eq (hm : (m.isOfNode || m.isOfCell) = true) (v : Value) (args : List Value)
    (keywords : Keywords) :
    callMethod h fuel v m args keywords =
      Eff.ofExcept ((Signature.ofMethod m).bind args keywords) >>= runMethod h fuel m v := by
  cases m with
  | builtin owner word => cases hm
  | special cls word => cases hm
  | _ => rfl

theorem inert_callMethod (hm : (m.isOfNode || m.isOfCell) = true) (v : Value) (args : List Value)
    (keywords : Keywords) (w : World) : Inert w (callMethod h fuel v m args keywords w) := by
  rw [callMethod_eq hm]
  exact .bind (.ofExcept _) (inert_runMethod hm v) w

theorem callMethod_congr (hm : (m.isOfNode || m.isOfCell) = true) (h h' : Host) (fuel fuel' : Nat)
    (v : Value) (args : List Value) (keywords : Keywords) :
    callMethod h fuel v m args keywords = callMethod h' fuel' v m args keywords := by
  rw [callMethod_eq hm, callMethod_eq hm]
  exact congrArg (_ >>= ·) (funext (runMethod_eq hm h h' fuel fuel' v))

/-- **The hosts of scripts read attributes and run the methods of nodes as scripts do.** -/
theorem attentive_host (fuel : Nat) : (host (fuel + 1)).Attentive where
  read _ _ := rfl
  call _ v m args keywords hm := by
    show (callMethod (host fuel) fuel v m args keywords >>= settle) = _
    rw [callMethod_congr (by rw [hm]; rfl) (host fuel) .spent fuel 0]

/-- A method that is called without a receiver takes it from its arguments. -/
theorem callUnbound_eq (hm : (m.isOfNode || m.isOfCell) = true) (args : List Value)
    (keywords : Keywords) :
    ∃ refusal, ∀ h fuel, callUnbound h fuel m args keywords =
      Eff.ofExcept ((Signature.ofUnbound m).bind args keywords) >>= fun a =>
        match a.places with
        | some v :: places => runMethod h fuel m v { a with places }
        | _ => Eff.complain refusal := by
  cases m with
  | builtin owner word => cases hm
  | special cls word => cases hm
  | _ => exact ⟨_, fun _ _ => rfl⟩

end methods

/-! ### What forwards -/

/-- Is this a method of a node that gives a node? -/
def isNodeMethod : Value → Bool
  | .method _ _ m => m.isOfNode
  | _ => false

/-- **What a function forwards to:** the argument that it asks for a method, the name of the method,
and what it calls this with.  A condition that holds drops the value of a node, and asks a node that
the library does not know to do that. -/
def forwarded? (w : World) (op : Operation) (places : List (Option Value)) :
    Option (Value × String × List Value) :=
  match op, places with
  | .asValue, [some node, some value] => some (node, "as_", [value])
  | .attempt, [some node] => some (node, "attempt", [])
  | .flatMap, [some node, some f] => some (node, "flat_map", [f])
  | .map, [some node, some f] => some (node, "map", [f])
  | .recover, [some node, some handler] => some (node, "recover", [handler])
  | .skip, [some node] => some (node, "skip", [])
  | .when, [some condition, some (.node stamp (.foreign variant))] =>
    if w.isTruthy condition then some (.node stamp (.foreign variant), "skip", []) else none
  | .unlessM, [some condition, some (.node stamp (.foreign variant))] =>
    if w.isTruthy condition then none else some (.node stamp (.foreign variant), "skip", [])
  | _, _ => none

section operations

variable {op : Operation} {a : Arguments} {w : World} {v : Value} {name : String}
  {given : List Value}

/-- Only names of methods of nodes are asked for. -/
theorem asked_of_forwarded {places : List (Option Value)}
    (hf : forwarded? w op places = some (v, name, given)) : name ∈ asked := by
  unfold forwarded? at hf
  split at hf
  case h_7 | h_8 =>
    split at hf <;> cases hf
    simp [asked]
  all_goals cases hf
  all_goals simp [asked]

/-- **A function that forwards does nothing else.** -/
theorem runOperation_of_forwarded (hf : forwarded? w op a.places = some (v, name, given)) (h : Host)
    (fuel : Nat) : runOperation h fuel op a w = h.callMethod v name given w := by
  obtain ⟨places, rest, named, others⟩ := a
  dsimp only at hf
  unfold forwarded? at hf
  split at hf
  case h_7 condition stamp variant =>
    split at hf <;> cases hf
    next hc =>
      show Graph.when h (w.isTruthy condition) (.node stamp (.foreign variant)) w = _
      rw [hc]
      rfl
  case h_8 condition stamp variant =>
    split at hf <;> cases hf
    next hc =>
      show Graph.when h (!w.isTruthy condition) (.node stamp (.foreign variant)) w = _
      rw [Bool.eq_false_iff.mpr hc]
      rfl
  all_goals cases hf
  all_goals rfl

/-- What is forwarded builds a node if it comes to a method of nodes; otherwise the host is called. -/
theorem callMethod_cases (hname : name ∈ asked) (v : Value) (given : List Value) (w : World) :
    (∃ answer, Inert w answer ∧ ∀ h : Host, h.Attentive → h.callMethod v name given w = answer) ∨
      ∃ callee w₁, readAttribute v name w = .ok callee w₁ ∧ w.Restamped w₁ ∧
        isNodeMethod callee = false ∧
        ∀ h : Host, h.Attentive → h.callMethod v name given w = h.call callee given [] w₁ := by
  have hstart : ∀ h : Host, h.Attentive →
      h.callMethod v name given w = (readAttribute v name >>= fun callee => h.call callee given []) w :=
    fun h hh => by rw [Host.callMethod, hh.read]
  rcases quiet_readAttribute hname v w with ⟨callee, w₁, hread, hw⟩ | ⟨fault, w₁, hread, hw⟩
  · have hcalled : ∀ h : Host, h.Attentive → h.callMethod v name given w = h.call callee given [] w₁ :=
      fun h hh => (hstart h hh).trans (Eff.bind_of_ok hread)
    by_cases hc : isNodeMethod callee = true
    · cases callee with
      | method stamp u m =>
        have hm : m.isOfNode = true := hc
        have hinert : Inert w₁ (callMethod .spent 0 u m given [] w₁) :=
          inert_callMethod (by rw [hm]; rfl) u given [] w₁
        exact .inl ⟨_, hinert.settle.head hw, fun h hh => by rw [hcalled h hh, hh.call _ _ _ _ _ hm]⟩
      | _ => cases hc
    · exact .inr ⟨callee, w₁, hread, hw, Bool.eq_false_iff.mpr hc, hcalled⟩
  · exact .inl ⟨_, .refused (.restamped hw), fun h hh => (hstart h hh).trans (Eff.bind_of_error hread)⟩

/-! ### What only builds -/

variable {h h' : Host}

/-- What an object offers for a console is looked up. -/
theorem quiet_offered (hh : h.Attentive) (hname : name ∈ asked) (v : Value) (own : Option Method) :
    (Console.offered h v name own).Quiet := by
  unfold Console.offered
  refine .get_bind fun w => ?_
  split
  · exact .pure _
  · exact .pure _
  · rw [hh.read]
    exact quiet_readAttribute hname v

theorem offered_eq (hh : h.Attentive) (hh' : h'.Attentive) :
    Console.offered h = Console.offered h' := by
  funext v name own
  unfold Console.offered
  rw [hh.read, hh'.read]

/-- Two computations that do the same in a world and are inert there. -/
def Concur (w : World) (x y : Eff Value) : Prop := x w = y w ∧ Inert w (x w)

theorem Concur.refl {x : Eff Value} (hx : ∀ w, Inert w (x w)) : Concur w x x := ⟨rfl, hx w⟩

theorem concur_readLine (hh : h.Attentive) (hh' : h'.Attentive) (console : Value) :
    Concur w (Console.readLine h console) (Console.readLine h' console) := by
  refine ⟨by unfold Console.readLine Console.reader; rw [offered_eq hh hh'], ?_⟩
  exact .bind (quiet_offered hh (by simp [asked]) console _) (fun _ => .ofExcept (.ite rfl)) w

theorem concur_printLine (hh : h.Attentive) (hh' : h'.Attentive) (console text : Value) :
    Concur w (Console.printLine h console text) (Console.printLine h' console text) := by
  refine ⟨by unfold Console.printLine Console.writer; rw [offered_eq hh hh'], ?_⟩
  refine .bind (quiet_offered hh (by simp [asked]) console _) (fun write => ?_) w
  refine .get_bind fun w₀ => .bind (.ofExcept _) fun line => ?_
  exact .get_bind fun w₁ => .bind (.ofExcept _) fun preset => .ofExcept (.ite rfl)

/-- A node that runs only if a condition holds is asked for nothing unless it is unknown. -/
theorem concur_when {condition : Bool} {node : Value}
    (hnode : ∀ stamp variant, node = .node stamp (.foreign variant) → condition = false) :
    Concur w (Graph.when h condition node) (Graph.when h' condition node) := by
  unfold Graph.when Graph.requireNode
  split
  case isFalse => exact .refl (.complain _)
  case isTrue hn =>
    cases condition with
    | false => exact .refl (.pure rfl)
    | true =>
      cases node with
      | node stamp n =>
        cases n with
        | foreign variant => exact absurd (hnode stamp variant rfl) nofun
        | _ => exact .refl (.pure rfl)
      | _ => cases hn

theorem concur_whenHolds {condition node : Value}
    (hf : forwarded? w .when [some condition, some node] = none) :
    Concur w (do Graph.when h ((← get).isTruthy condition) node)
      (do Graph.when h' ((← get).isTruthy condition) node) := by
  refine concur_when fun stamp variant hnode => ?_
  subst hnode
  cases hc : w.isTruthy condition with
  | false => rfl
  | true => simp [forwarded?, hc] at hf

theorem concur_unless {condition node : Value}
    (hf : forwarded? w .unlessM [some condition, some node] = none) :
    Concur w (do Graph.when h (!(← get).isTruthy condition) node)
      (do Graph.when h' (!(← get).isTruthy condition) node) := by
  refine concur_when fun stamp variant hnode => ?_
  subst hnode
  cases hc : w.isTruthy condition with
  | false => simp [forwarded?, hc] at hf
  | true => rfl

theorem givesNode_fail (error : Value) (label : Option Value) : GivesNode (Graph.fail error label) := by
  unfold Graph.fail
  split
  · exact .ite rfl
  · exact .error _

/-- **The other functions only build nodes.** -/
theorem concur_runOperation (hop : op.builds = true) (hseq : op ≠ .sequence)
    (hf : forwarded? w op a.places = none) (hh : h.Attentive) (hh' : h'.Attentive)
    (fuel fuel' : Nat) : Concur w (runOperation h fuel op a) (runOperation h' fuel' op a) := by
  obtain ⟨places, rest, named, others⟩ := a
  unfold runOperation
  dsimp only at hf ⊢
  split
  -- functions that give no nodes, functions that forward, and the one that takes nodes at once
  all_goals first | (cases hop; done) | (cases hf; done) | (exact absurd rfl hseq) | skip
  -- functions that look at the arguments and build, or build at once
  all_goals first
    | exact .refl (.ofExcept (.ite rfl))
    | exact .refl (.ofExcept (.bind fun _ => .ok rfl))
    | exact .refl (.ofExcept (.bind fun _ => .bind fun _ => .ok rfl))
    | exact .refl (.bind (.ofExcept _) fun _ => .pure rfl)
    | exact .refl (.pure rfl)
    | exact .refl (.complain _)
    | exact concur_readLine hh hh' _
    | exact .refl (.get_bind fun _ => .ofExcept (givesNode_fail _ _))
    | exact concur_printLine hh hh' _ _
    | exact concur_whenHolds hf
    | exact concur_unless hf

/-! ### What draws -/

/-- Listing an iterable gives its elements, or finds that they have to be pulled, or refuses. -/
theorem snapshot_cases (v : Value) (w : World) :
    (∃ items w₁, snapshot? v w = .ok (some items) w₁ ∧ Identified w w₁) ∨
      snapshot? v w = .ok none w ∨ ∃ fault, snapshot? v w = .error (.raised fault) w := by
  cases v with
  | list address =>
    obtain ⟨items, _, _, _, -, hitems⟩ := exists_settledItems address w
    exact .inl ⟨items.toList, _, Eff.bind_of_ok hitems, .listed (.refl w) hitems (.refl _)⟩
  | range stamp a b =>
    unfold snapshot?
    dsimp only
    split
    · exact .inr (.inr ⟨_, rfl⟩)
    · exact .inl ⟨_, w, rfl, .refl w⟩
  | tuple _ _ | str _ | dict _ | frozenDict _ _ | view _ _ _ | deque _ =>
    exact .inl ⟨_, w, rfl, .refl w⟩
  | _ => exact .inr (.inl rfl)

/-- Nodes that can be listed are only put together. -/
theorem sequenceOf_of_listed {items : List Value} {w₁ : World}
    (hs : snapshot? v w = .ok (some items) w₁) (h : Host) (fuel : Nat) :
    sequenceOf h fuel v w = (do
      Eff.ofExcept (Graph.requireNodes "sequence" items)
      return Graph.traverse (.ofItems items) .same : Eff Value) w₁ := by
  unfold sequenceOf elements
  rw [bind_assoc, Eff.bind_of_ok hs]
  rfl

theorem sequenceOf_of_refused {fault : Fault Value} (hs : snapshot? v w = .error (.raised fault) w)
    (h : Host) (fuel : Nat) : sequenceOf h fuel v w = .error (.raised fault) w := by
  unfold sequenceOf elements
  rw [bind_assoc, Eff.bind_of_error hs]

/-- **Nodes that have to be pulled are pulled to their end** before they are put together. -/
theorem sequenceOf_of_drawn (hs : snapshot? v w = .ok none w) (h : Host) (fuel : Nat) :
    sequenceOf h fuel v w = (do
      let items ← h.drain fuel (← h.openIterator v) #[]
      Eff.ofExcept (Graph.requireNodes "sequence" items.toList)
      return Graph.traverse (.ofItems items.toList) .same : Eff Value) w := by
  unfold sequenceOf elements
  rw [bind_assoc, Eff.bind_of_ok hs]
  simp only [bind_assoc, pure_bind]

end operations

/-! ### Every call -/

/-- **What a call of a function, method or program that gives nodes does** on attentive hosts. -/
inductive Constructs (f : Value) (args : List Value) (keywords : Keywords) (w : World) : Prop
  /-- It builds a node or refuses, and the host has no part in it. -/
  | inert {answer} (hinert : Inert w answer)
      (hcall : ∀ h : Host, h.Attentive → ∀ fuel, callValue h fuel f args keywords w = answer)
  /-- It calls what it found in an argument under the name of a method of nodes, and nothing else. -/
  | forwards {op a v name given callee w₁} (hf : f = .operation op)
      (ha : (operationSignature op).bind args keywords = .ok a)
      (hforward : forwarded? w op a.places = some (v, name, given))
      (hread : readAttribute v name w = .ok callee w₁) (hw : w.Restamped w₁)
      (hcallee : isNodeMethod callee = false)
      (hcall : ∀ h : Host, h.Attentive → ∀ fuel,
        callValue h fuel f args keywords w = h.call callee given [] w₁)
  /-- It opens an iterable that cannot be listed, pulls it to its end, and builds a node of that. -/
  | draws {a nodes} (hf : f = .operation .sequence)
      (ha : (operationSignature .sequence).bind args keywords = .ok a) (hplaces : a.places = [some nodes])
      (hs : snapshot? nodes w = .ok none w)
      (hcall : ∀ h : Host, h.Attentive → ∀ fuel, callValue h fuel f args keywords w = (do
        let items ← h.drain fuel (← h.openIterator nodes) #[]
        Eff.ofExcept (Graph.requireNodes "sequence" items.toList)
        return Graph.traverse (.ofItems items.toList) .same : Eff Value) w)

section calls

variable {op : Operation} {args : List Value} {keywords : Keywords} {w : World}

/-- Refused arguments are refused by every host. -/
theorem Constructs.of_refusal {f : Value} {c : Complaint}
    (hcall : ∀ h fuel, callValue h fuel f args keywords w = Eff.complain c w) :
    Constructs f args keywords w :=
  .inert (.refused (.refl w)) fun h _ fuel => hcall h fuel

/-- A call of a function that gives nodes distributes its arguments and runs it. -/
theorem callOperation_eq (hop : op.builds = true) (h : Host) (fuel : Nat) :
    callOperation h fuel op args keywords =
      Eff.ofExcept ((operationSignature op).bind args keywords) >>= runOperation h fuel op := by
  cases op with
  | length => cases hop
  | _ => rfl

theorem callOperation_of_bind (hop : op.builds = true) {a : Arguments}
    (ha : (operationSignature op).bind args keywords = .ok a) (h : Host) (fuel : Nat) :
    callOperation h fuel op args keywords w = runOperation h fuel op a w := by
  rw [callOperation_eq hop, ha]
  rfl

theorem constructs_sequence {a : Arguments}
    (ha : (operationSignature .sequence).bind args keywords = .ok a) :
    Constructs (.operation .sequence) args keywords w := by
  have hcalled : ∀ h fuel, callValue h fuel (.operation .sequence) args keywords w =
      runOperation h fuel .sequence a w := callOperation_of_bind rfl ha
  obtain ⟨places, rest, named, others⟩ := a
  rcases places with _ | ⟨_ | nodes, _ | ⟨_, _⟩⟩
  case cons.some.nil =>
    have hrun : ∀ h fuel, callValue h fuel (.operation .sequence) args keywords w =
        sequenceOf h fuel nodes w := hcalled
    rcases snapshot_cases nodes w with ⟨items, w₁, hs, hw⟩ | hs | ⟨fault, hs⟩
    · exact .inert (.checked hw (Graph.requireNodes "sequence" items) rfl) fun h _ fuel =>
        (hrun h fuel).trans (sequenceOf_of_listed hs h fuel)
    · exact .draws rfl ha rfl hs fun h _ fuel => (hrun h fuel).trans (sequenceOf_of_drawn hs h fuel)
    · exact .inert (.refused (.refl w)) fun h _ fuel =>
        (hrun h fuel).trans (sequenceOf_of_refused hs h fuel)
  all_goals exact .of_refusal hcalled

theorem constructs_operation (hop : op.builds = true) :
    Constructs (.operation op) args keywords w := by
  cases ha : (operationSignature op).bind args keywords with
  | error c =>
    refine .of_refusal (c := c) fun h fuel => ?_
    show callOperation h fuel op args keywords w = _
    rw [callOperation_eq hop, ha]
    rfl
  | ok a =>
    have hrun : ∀ h fuel, callValue h fuel (.operation op) args keywords w = runOperation h fuel op a w :=
      callOperation_of_bind hop ha
    cases hf : forwarded? w op a.places with
    | some forward =>
      obtain ⟨v, name, given⟩ := forward
      have hforward : ∀ h fuel, callValue h fuel (.operation op) args keywords w =
          h.callMethod v name given w :=
        fun h fuel => (hrun h fuel).trans (runOperation_of_forwarded hf h fuel)
      rcases callMethod_cases (asked_of_forwarded hf) v given w with
        ⟨answer, hinert, hsame⟩ | ⟨callee, w₁, hread, hw, hcallee, hsame⟩
      · exact .inert hinert fun h hh fuel => (hforward h fuel).trans (hsame h hh)
      · exact .forwards rfl ha hf hread hw hcallee fun h hh fuel =>
          (hforward h fuel).trans (hsame h hh)
    | none =>
      by_cases hseq : op = .sequence
      · subst hseq
        exact constructs_sequence ha
      · have hconcur {h : Host} (hh : h.Attentive) (fuel) :=
          concur_runOperation hop hseq hf hh (attentive_host 0) fuel 0
        exact .inert (hconcur (attentive_host 0) 0).2 fun h hh fuel =>
          (hrun h fuel).trans ((hconcur hh fuel).1.trans (hconcur (attentive_host 0) 0).1.symm)

theorem constructs_unbound {m : Method} (hm : (m.isOfNode || m.isOfCell) = true) :
    Constructs (.unbound m) args keywords w := by
  obtain ⟨refusal, hcall⟩ := callUnbound_eq hm args keywords
  have hinert : Inert w (callUnbound .spent 0 m args keywords w) := by
    rw [hcall]
    refine .bind (.ofExcept _) (fun ⟨places, rest, named, others⟩ w => ?_) w
    rcases places with _ | ⟨_ | v, places⟩
    case cons.some => exact inert_runMethod hm v _ w
    all_goals exact .complain _ w
  refine .inert hinert fun h _ fuel => ?_
  show callUnbound h fuel m args keywords w = _
  rw [hcall, hcall]
  refine congrFun (congrArg (_ >>= ·) (funext fun ⟨places, rest, named, others⟩ => ?_)) w
  rcases places with _ | ⟨_ | v, places⟩
  case cons.some => exact runMethod_eq hm h .spent fuel 0 v _
  all_goals rfl

/-- **Building nodes does nothing.**  The hosts of scripts are attentive; and whatever function of the
library, method of nodes or cells, or effect program that gives nodes is called, with whatever
arguments and in whatever world, it builds a node or refuses, and the host has no part in it; except
that a function which goes by the name of a method of nodes calls what an argument that is no node
has under that name, and that the nodes of an iterable that cannot be listed are pulled out of it. -/
theorem construction_inert {f : Value} (hf : Builds f) (args : List Value) (keywords : Keywords)
    (w : World) :
    (∀ fuel, (host (fuel + 1)).Attentive) ∧ Constructs f args keywords w := by
  refine ⟨attentive_host, ?_⟩
  cases hf with
  | operation hop => exact constructs_operation hop
  | method hm =>
    exact .inert (inert_callMethod hm _ args keywords w) fun h _ fuel =>
      congrFun (callMethod_congr hm h .spent fuel 0 _ args keywords) w
  | unbound hm => exact constructs_unbound hm
  | program =>
    exact .inert (.bind (.ofExcept _) (fun _ => .get_bind fun _ => .pure rfl) w) fun _ _ _ => rfl

/-- A traversal of a row that computes its elements, by a function that logs, is only built. -/
theorem construction_inert_traverse :
    let w := { SessionInput.recorded with iterators := #[.lazy 0 (.int 3) (.operation .pure)] }
    let f := Value.closure ⟨3, none, ["x"], .expr (.primitive .log [.var "x"] []), []⟩
    Builds (.operation .traverse) ∧
      ∃ answer, Inert w answer ∧ ∀ h : Host, h.Attentive → ∀ fuel,
        callValue h fuel (.operation .traverse) [.iterator 0, f] [] w = answer := by
  intro w f
  have hf : Builds (.operation .traverse) := .operation rfl
  refine ⟨hf, ?_⟩
  cases (construction_inert hf [.iterator 0, f] [] w).2 with
  | inert hinert hcall => exact ⟨_, hinert, hcall⟩
  | forwards hf ha hforward =>
    cases hf
    cases hforward
  | draws hf => cases hf

end calls

end Script
end EffectGraph
