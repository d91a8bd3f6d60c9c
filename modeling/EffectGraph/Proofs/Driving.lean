import EffectGraph.Proofs.Exits
import EffectGraph.Proofs.Stamps
import EffectGraph.Script.Hosting

/-!
# A generator is driven by a plain loop

`Driver` is the loop that a do block stands for, statement by statement: make a generator; send it
nothing at first; run the node that it yields; send the value back.  What it returns is the result,
node or not.  A generator that yields anything but a node is closed and complained about.
`Driver.Next` leads from one statement to the next one, each in the world that the one before it has
left, and `Driver.Ends` says how the loop is over.  Nothing of the machine is in it.

A round of the loop in the machine is one value sent (`Loop.sendOn`), so the rounds are the points of
the plain loop at which a node is to be run (`Driver.reached_running_iff`), and the loop of the machine
is over where the plain loop is (`Driver.completes_iff`).  A node that fails therefore ends the loop in
the world that it leaves: the generator is neither resumed nor told.
-/

namespace EffectGraph

open Machine Relation

/-! ### The plain loop -/

/-- **The loop that drives a generator.**  Faults before the first node are blamed on `starter`, later
ones on the continuation that resumes the generator. -/
structure Driver where
  function : Value
  arguments : List Value
  keywords : Keywords
  starter : Value

namespace Driver

/-- The statement that is next.  The worker is the callable that is blamed for what is raised. -/
inductive Point where
  | creating
  | sending (worker generator sent : Value)
  /-- What was yielded is no node. -/
  | closing (worker generator yielded : Value)
  | running (generator node : Value)

section statements

variable (h : Host) (D : Driver)

/-- **One statement of the loop.** -/
inductive Next : Point × World → Point × World → Prop where
  | creates {generator w w'} (hcall : h.call D.function D.arguments D.keywords w = .ok generator w') :
      Next (.creating, w) (.sending D.starter generator .none, w')
  | yields {worker generator sent node w w'} (hsend : h.send generator sent w = .ok (.yielded node) w')
      (hnode : node.isNode = true) :
      Next (.sending worker generator sent, w) (.running generator node, w')
  | refuses {worker generator sent yielded w w'}
      (hsend : h.send generator sent w = .ok (.yielded yielded) w') (hother : yielded.isNode = false) :
      Next (.sending worker generator sent, w) (.closing worker generator yielded, w')
  /-- The value of the node is sent back. -/
  | runs {generator node v k w w'} (hnode : Evaluates h node w (.value v) k w') :
      Next (.running generator node, w) (.sending (.ofCallback (.resume generator)) generator v, w')

/-- **A statement that ends the loop.** -/
inductive Ends : Point × World → PlainFold.Exit → World → Prop where
  | createRaises {fault w w'}
      (hcall : h.call D.function D.arguments D.keywords w = .error (.raised fault) w') :
      Ends (.creating, w) (.raised fault (w'.callableName D.starter)) w'
  /-- What is returned is the result, and is not run. -/
  | returns {worker generator sent v w w'} (hsend : h.send generator sent w = .ok (.returned v) w') :
      Ends (.sending worker generator sent, w) (.gives v) w'
  | sendRaises {worker generator sent fault w w'}
      (hsend : h.send generator sent w = .error (.raised fault) w') :
      Ends (.sending worker generator sent, w) (.raised fault (w'.callableName worker)) w'
  | closes {worker generator yielded w w'} (hclose : h.close generator w = .ok () w') :
      Ends (.closing worker generator yielded, w)
        (.raised (Complaint.generatorYielded yielded.typeName).fault (w'.callableName worker)) w'
  /-- What closing raises is raised in place of the complaint. -/
  | closeRaises {worker generator yielded fault w w'}
      (hclose : h.close generator w = .error (.raised fault) w') :
      Ends (.closing worker generator yielded, w) (.raised fault (w'.callableName worker)) w'
  | nodeStops {generator node verdict k w w'} (hnode : Evaluates h node w verdict k w')
      (hstop : verdict.isValue = false) : Ends (.running generator node, w) verdict.exit w'

/-- The loop comes to a point. -/
def Reached (w : World) (p : Point) (u : World) : Prop :=
  ReflTransGen (Next h D) (.creating, w) (p, u)

/-- **The loop comes to an end.** -/
def Completes (w : World) (exit : PlainFold.Exit) (w' : World) : Prop :=
  ∃ p u, Reached h D w p u ∧ Ends h D (p, u) exit w'

/-- **Where a state of a run lies in the loop** from a world. -/
inductive Lies (settings : Settings) (node : Value) (w : World) (b : State × World) : Prop where
  /-- Nothing was done yet. -/
  | before (hcurrent : b.1.current = node ∨ b.1.current = .unit) (hw : b.2 = w)
  /-- A node that was yielded is to be run. -/
  | between {generator part} (hp : Reached h D w (.running generator part) b.2)
      (hcurrent : b.1.current = .sequenced part (.resume generator)) (hstack : b.1.stack = .empty)
  /-- A node that was yielded is being run, as it is run alone. -/
  | inside {generator part u a n} (hp : Reached h D w (.running generator part) u)
      (ha : Reaches h settings (.start part, u) a)
      (hb : Above (.continuation (.ofCallback (.resume generator))) n a b)
  /-- The loop is over. -/
  | after {v} (hend : Completes h D w (.gives v) b.2) (hcurrent : b.1.current = .done v)
      (hstack : b.1.stack = .empty)

end statements

end Driver

/-! ### A value that is sent -/

namespace Loop

variable {h : Host} {generator sent v node yielded : Value} {fault : Fault Value} {u u₁ u' : World}
  {r : Round Value}

theorem sendOn_of_returned (hsend : h.send generator sent u = .ok (.returned v) u') :
    sendOn h generator sent u = .ok (.finish v) u' := Eff.bind_of_ok hsend

theorem sendOn_of_node (hsend : h.send generator sent u = .ok (.yielded node) u')
    (hnode : node.isNode = true) : sendOn h generator sent u = .ok (.run node generator) u' := by
  rw [sendOn, Eff.bind_of_ok hsend]
  simp only [hnode]
  rfl

theorem sendOn_of_other (hsend : h.send generator sent u = .ok (.yielded yielded) u₁)
    (hother : yielded.isNode = false) : sendOn h generator sent u =
      (h.close generator >>= fun _ => Eff.complain (.generatorYielded yielded.typeName)) u₁ := by
  rw [sendOn, Eff.bind_of_ok hsend]
  simp only [hother]
  rfl

/-- A round that a value sent has built is the end, or a node that was yielded. -/
theorem of_sendOn_ok (hr : sendOn h generator sent u = .ok r u') :
    (∃ v, h.send generator sent u = .ok (.returned v) u' ∧ r = .finish v) ∨
      ∃ node, h.send generator sent u = .ok (.yielded node) u' ∧ node.isNode = true ∧
        r = .run node generator := by
  obtain ⟨produced, u₁, hsend, -⟩ := Eff.exists_of_bind_ok hr
  cases produced with
  | returned v =>
    rw [sendOn_of_returned hsend] at hr
    cases hr
    exact .inl ⟨v, hsend, rfl⟩
  | yielded v =>
    by_cases hv : v.isNode = true
    · rw [sendOn_of_node hsend hv] at hr
      cases hr
      exact .inr ⟨v, hsend, hv, rfl⟩
    · rw [Bool.not_eq_true] at hv
      rw [sendOn_of_other hsend hv] at hr
      obtain ⟨_, u₂, -, hcomplain⟩ := Eff.exists_of_bind_ok hr
      cases hcomplain

/-- No round was built: the generator has raised the fault, or it has yielded what is no node and was
closed. -/
theorem of_sendOn_raised (hr : sendOn h generator sent u = .error (.raised fault) u') :
    h.send generator sent u = .error (.raised fault) u' ∨
      ∃ yielded u₁, h.send generator sent u = .ok (.yielded yielded) u₁ ∧ yielded.isNode = false ∧
        (h.close generator u₁ = .error (.raised fault) u' ∨
          h.close generator u₁ = .ok () u' ∧
            fault = (Complaint.generatorYielded yielded.typeName).fault) := by
  rcases Eff.of_bind_error hr with hsend | ⟨produced, u₁, hsend, -⟩
  · exact .inl hsend
  · refine .inr ?_
    cases produced with
    | returned v =>
      rw [sendOn_of_returned hsend] at hr
      cases hr
    | yielded v =>
      by_cases hv : v.isNode = true
      · rw [sendOn_of_node hsend hv] at hr
        cases hr
      · rw [Bool.not_eq_true] at hv
        rw [sendOn_of_other hsend hv] at hr
        refine ⟨v, u₁, hsend, hv, ?_⟩
        rcases Eff.of_bind_error hr with hclose | ⟨_, u₂, hclose, hcomplain⟩
        · exact .inl hclose
        · cases hcomplain
          exact .inr ⟨hclose, rfl⟩

end Loop

/-! ### The rounds of the machine are points of the plain loop -/

namespace Driver

variable {h : Host} {D : Driver} (hf : h.Generates D.function D.arguments D.keywords)

/-- The do block as a loop in rounds. -/
abbrev rounds : Loop h := .generate hf

/-- **A generator is to be sent a value:** nothing when it was just made, later the value of the node
that it has yielded. -/
inductive Sends (w : World) : Value → Value → Value → World → Prop where
  | first {generator u} (hcall : h.call D.function D.arguments D.keywords w = .ok generator u) :
      Sends w D.starter generator .none u
  | later {generator node v k u u'} (hr : (rounds hf).Comes w (.run node generator) u)
      (hnode : Evaluates h node u (.value v) k u') :
      Sends w (.ofCallback (.resume generator)) generator v u'

/-- **Where the plain loop stands in the rounds.** -/
def Stage (w : World) : Point × World → Prop
  | (.creating, u) => u = w
  | (.sending worker generator sent, u) => Sends hf w worker generator sent u
  | (.closing worker generator yielded, u) => ∃ sent u₀, Sends hf w worker generator sent u₀ ∧
      h.send generator sent u₀ = .ok (.yielded yielded) u ∧ yielded.isNode = false
  | (.running generator node, u) => (rounds hf).Comes w (.run node generator) u

/-- **A round as a point of the plain loop.**  No round is over without a value. -/
def Heads (w : World) (r : Round (rounds hf).State) (u : World) : Prop :=
  match r with
  | .ended => False
  | .finish v => Completes h D w (.gives v) u
  | .run node generator => Reached h D w (.running generator node) u

variable {hf} {w u w' : World} {worker generator sent : Value} {r : Round Value}

theorem heads_of_sending (hp : Reached h D w (.sending worker generator sent) u)
    (hr : Loop.sendOn h generator sent u = .ok r w') : Heads hf w r w' := by
  rcases Loop.of_sendOn_ok hr with ⟨v, hsend, rfl⟩ | ⟨node, hsend, hnode, rfl⟩
  · exact ⟨_, _, hp, .returns hsend⟩
  · exact hp.tail (.yields hsend hnode)

theorem completes_of_sending {fault : Fault Value} (hp : Reached h D w (.sending worker generator sent) u)
    (hr : Loop.sendOn h generator sent u = .error (.raised fault) w') :
    Completes h D w (.raised fault (w'.callableName worker)) w' := by
  rcases Loop.of_sendOn_raised hr with hsend | ⟨yielded, u₁, hsend, hother, hclose | ⟨hclose, rfl⟩⟩
  · exact ⟨_, _, hp, .sendRaises hsend⟩
  · exact ⟨_, _, hp.tail (.refuses hsend hother), .closeRaises hclose⟩
  · exact ⟨_, _, hp.tail (.refuses hsend hother), .closes hclose⟩

/-- **The rounds of the machine are points of the plain loop.** -/
theorem heads_of_comes {r : Round (rounds hf).State} (hr : (rounds hf).Comes w r u) :
    Heads hf w r u := by
  induction hr with
  | first hstart =>
    obtain ⟨generator, u₁, hcall, hsend⟩ := Eff.exists_of_bind_ok hstart
    exact heads_of_sending (.single (.creates hcall)) hsend
  | next _ hpart hnext ih => exact heads_of_sending (.tail ih (.runs hpart)) hnext

/-- A round that a value sent builds is one that the machine comes to. -/
theorem Sends.comes (hs : Sends hf w worker generator sent u)
    (hr : Loop.sendOn h generator sent u = .ok r w') : (rounds hf).Comes w r w' := by
  cases hs with
  | first hcall => exact .first ((Eff.bind_of_ok hcall).trans hr)
  | later hcomes hnode => exact .next hcomes hnode hr

/-- **Every point of the plain loop has its place in the rounds.** -/
theorem stage_of_reached {q : Point × World} (hq : ReflTransGen (Next h D) (.creating, w) q) :
    Stage hf w q := by
  induction hq with
  | refl => rfl
  | tail _ hnext ih =>
    cases hnext with
    | creates hcall =>
      cases ih
      exact .first hcall
    | yields hsend hnode =>
      have hs : Sends hf w _ _ _ _ := ih
      exact hs.comes (Loop.sendOn_of_node hsend hnode)
    | refuses hsend hother => exact ⟨_, _, ih, hsend, hother⟩
    | runs hnode => exact .later ih hnode

/-- **A node is run where the plain loop runs it.** -/
theorem reached_running_iff {node : Value} :
    Reached h D w (.running generator node) u ↔ (rounds hf).Comes w (.run node generator) u :=
  ⟨fun hp => stage_of_reached hp, heads_of_comes⟩

/-- A value that cannot be sent, or what is closed after it, ends the loop, and the worker is blamed. -/
theorem Sends.over {j : Nat} (hstarter : D.starter = (rounds hf).starter j) {fault : Fault Value}
    (hs : Sends hf w worker generator sent u)
    (hr : Loop.sendOn h generator sent u = .error (.raised fault) w') :
    (rounds hf).Over j w (.raised fault (w'.callableName worker)) w' := by
  cases hs with
  | first hcall =>
    rw [hstarter]
    exact .startRaises ((Eff.bind_of_ok hcall).trans hr)
  | later hcomes hnode => exact .nextRaises hcomes hnode hr

/-- **The plain loop ends as the loop of the machine.** -/
theorem completes_iff {j : Nat} (hstarter : D.starter = (rounds hf).starter j) {exit : PlainFold.Exit} :
    Completes h D w exit w' ↔ (rounds hf).Over j w exit w' := by
  constructor
  · rintro ⟨p, u, hp, hend⟩
    have hstage : Stage hf w (p, u) := stage_of_reached hp
    cases hend with
    | createRaises hcall =>
      cases hstage
      rw [hstarter]
      exact .startRaises (Eff.bind_of_error hcall)
    | returns hsend =>
      have hs : Sends hf w _ _ _ _ := hstage
      exact .finishes (hs.comes (Loop.sendOn_of_returned hsend))
    | sendRaises hsend =>
      have hs : Sends hf w _ _ _ _ := hstage
      exact hs.over hstarter (Eff.bind_of_error hsend)
    | closes hclose =>
      obtain ⟨sent, u₀, hs, hsend, hother⟩ := hstage
      have hrefused := (Loop.sendOn_of_other hsend hother).trans (Eff.bind_of_ok hclose)
      exact hs.over hstarter hrefused
    | closeRaises hclose =>
      obtain ⟨sent, u₀, hs, hsend, hother⟩ := hstage
      have hrefused := (Loop.sendOn_of_other hsend hother).trans (Eff.bind_of_error hclose)
      exact hs.over hstarter hrefused
    | nodeStops hnode hstop => exact .stops hstage hnode hstop
  · intro hover
    cases hover with
    | startRaises hstart =>
      rw [← hstarter]
      rcases Eff.of_bind_error hstart with hcall | ⟨generator, u, hcall, hr⟩
      · exact ⟨_, _, .refl, .createRaises hcall⟩
      · exact completes_of_sending (.single (.creates hcall)) hr
    | ends hr => exact (heads_of_comes hr).elim
    | finishes hr => exact heads_of_comes hr
    | stops hr hpart hstop => exact ⟨_, _, heads_of_comes hr, .nodeStops hpart hstop⟩
    | nextRaises hr hpart hnext =>
      have hp := heads_of_comes hr
      exact completes_of_sending (.tail hp (.runs hpart)) hnext

/-- Every state of a run lies in the plain loop. -/
theorem lies_of_lies {settings : Settings} {node : Value} {b : State × World}
    (hb : (rounds hf).Lies settings node w b) : Lies h D settings node w b := by
  cases hb with
  | before hcurrent hw => exact .before hcurrent hw
  | @between r hr hcurrent hstack =>
    have hheads := heads_of_comes hr
    cases r with
    | ended => exact hheads.elim
    | finish v => exact .after hheads hcurrent hstack
    | run part generator => exact .between hheads hcurrent hstack
  | inside hr ha habove => exact .inside (heads_of_comes hr) ha habove

end Driver

/-! ### Calls of effect programs -/

namespace Script

/-- A function of any arguments on a receiver takes every keyword but the name of the receiver. -/
theorem exists_placeKeywords {s : Signature} (hpositional : s.positional = [])
    (hany : s.anyKeyword = true) (keywords : Keywords)
    (hkeywords : ∀ e ∈ keywords, e.1 ≠ Signature.receiverName) (a : Arguments) :
    ∃ a', s.placeKeywords keywords a = .ok a' := by
  induction keywords generalizing a with
  | nil => exact ⟨a, rfl⟩
  | cons e more ih =>
    obtain ⟨name, value⟩ := e
    obtain ⟨hname, hmore⟩ := List.forall_mem_cons.1 hkeywords
    have hself : (name == Signature.receiverName) = false := beq_false_of_ne hname
    simp only [Signature.placeKeywords, hpositional, List.findIdx?_nil, hself, Bool.and_false,
      Bool.false_eq_true, if_false, hany, if_true]
    split
    · exact ih hmore _
    · exact ih hmore _

/-- **Calling an effect program runs nothing:** it gives a node, and leaves the world as it is. -/
theorem callValue_program (h : Host) (fuel stamp : Nat) (target : Value) (args : List Value)
    {keywords : Keywords} (hkeywords : ∀ e ∈ keywords, e.1 ≠ Signature.receiverName) (w : World) :
    callValue h fuel (.program stamp target) args keywords w =
      .ok (Graph.generate (w.wrappedBy (.program stamp target) target) args keywords) w := by
  let s := (Signature.plain "DoFunction.__call__" []).onReceiver.withRest.withAnyKeyword
  obtain ⟨a, ha⟩ := exists_placeKeywords (s := s) rfl rfl keywords hkeywords ⟨[], args, [], []⟩
  have hbind : s.bind args keywords = .ok a := by
    change (s.placeKeywords keywords ⟨[], args, [], []⟩ >>= _) = _
    rw [ha]
    rfl
  exact Eff.bind_of_ok (Eff.ofExcept_of_ok hbind)

section generators

variable {fuel address : Nat} {c : Closure Value} {body : List Stmt} (hbody : c.body = .generator body)
  {args : List Value} {keywords : Keywords} {v : Value} {w w' : World}
include hbody

/-- **Each call of a generator function makes a generator** that was not there before. -/
theorem exists_generator (hcall : (host (fuel + 1)).call (.closure c) args keywords w = .ok v w') :
    ∃ address, v = .generator address ∧ w.generators.size ≤ address ∧
      address < w'.generators.size := by
  obtain ⟨made, w₁, hmade, hsettle⟩ := Eff.exists_of_bind_ok hcall
  have hmade : callClosure (host fuel) c args keywords w = .ok made w₁ := hmade
  unfold callClosure at hmade
  cases keywords with
  | cons e rest =>
    obtain ⟨_, _, -, hrefused⟩ := Eff.exists_of_bind_ok hmade
    obtain ⟨_, _, hcomplain, -⟩ := Eff.exists_of_bind_ok hrefused
    cases hcomplain
  | nil =>
    by_cases hlength : args.length != c.params.length
    · simp only [hlength, if_true] at hmade
      obtain ⟨_, _, -, hrefused⟩ := Eff.exists_of_bind_ok hmade
      obtain ⟨_, _, hcomplain, -⟩ := Eff.exists_of_bind_ok hrefused
      cases hcomplain
    · simp only [hlength, hbody] at hmade
      obtain ⟨settled, w₂, hargs, hmade⟩ := Eff.exists_of_bind_ok hmade
      obtain ⟨_, _, hsettled, n, -, rfl⟩ := settle_restamps.2.2.2.2.1 args w
      rw [hsettled] at hargs
      cases hargs
      cases hmade
      cases hsettle
      exact ⟨_, rfl, Nat.le_refl _, by simp⟩

/-- A function with a generator body is a generator function. -/
theorem generates_closure : (host (fuel + 1)).Generates (.closure c) args keywords := by
  intro w v w' hcall
  obtain ⟨address, hv, -⟩ := exists_generator hbody hcall
  exact ⟨address, hv⟩

end generators
end Script

/-! ### Runs of a do block -/

namespace Driver

/-- **A node is run as a generator is driven** from a world. -/
structure Describes (h : Host) (settings : Settings) (D : Driver) (node : Value) (w : World) : Prop where
  ends : EndsAs h node w (Completes h D w)
  /-- From a world the loop is over in one way only. -/
  unique : ∀ exit exit' w' w'', Completes h D w exit w' → Completes h D w exit' w'' →
    exit = exit' ∧ w' = w''
  /-- A node that gives no value ends the loop where it ends. -/
  stops : ∀ generator part u verdict k w', Reached h D w (.running generator part) u →
    Evaluates h part u verdict k w' → verdict.isValue = false →
      ∀ exit w'', Completes h D w exit w'' ↔ exit = verdict.exit ∧ w'' = w'
  /-- Around the node a failure is caught. -/
  caught : ∀ fault place w' text, Completes h D w (.fails fault place) w' →
    w'.str? place = .ok text → Rescued h node fault w w'
  /-- Each node that is yielded is run where the loop runs it, above the one frame that resumes the
  generator. -/
  running : ∀ generator part u, Reached h D w (.running generator part) u →
    ∃ c, Reaches h settings (.start node, w)
      (⟨part, Stack.empty.push (.continuation (.ofCallback (.resume generator))), c⟩, u)
  /-- Every state of the run lies in the loop. -/
  lying : ∀ b, Reaches h settings (.start node, w) b → Lies h D settings node w b

theorem describes {h : Host} {D : Driver} {settings : Settings} (hp : settings.Plain)
    (hf : h.Generates D.function D.arguments D.keywords) {i j : Nat}
    (hstarter : D.starter = (rounds hf).starter j) (w : World) :
    Describes h settings D ((rounds hf).node i j) w := by
  have hends : EndsAs h ((rounds hf).node i j) w (Completes h D w) := fun exit w' =>
    (completes_iff hstarter).trans Loop.over_iff
  constructor
  · exact hends
  · exact fun exit exit' w' w'' => hends.unique
  · intro generator part u verdict k w' hreached hpart hstop exit w''
    have hcompletes : Completes h D w verdict.exit w' := ⟨_, u, hreached, .nodeStops hpart hstop⟩
    constructor
    · intro hcompletes'
      obtain ⟨rfl, rfl⟩ := hends.unique hcompletes hcompletes'
      exact ⟨rfl, rfl⟩
    · rintro ⟨rfl, rfl⟩
      exact hcompletes
  · exact fun fault place w' text hcompletes htext => hends.rescued hcompletes htext
  · intro generator part u hreached
    have hcomes : (rounds hf).Comes w (.run part generator) u := reached_running_iff.1 hreached
    obtain ⟨c, hreach⟩ := hcomes.reaches hp i j
    exact ⟨_, hreach.tail (next_sequence hp 0 part (.ofCallback (.resume generator)) .empty c u)⟩
  · exact fun b hb => lies_of_lies (Loop.lies_of_reaches hp hb)

end Driver

/-- **A do block is the loop that drives its generator.**  Whatever the host does, the node of a
generator function comes, from any world, to what the plain loop ends with, in the same world, and to
nothing else: the generator is made when the node is reached, each node that it yields is run once
where the loop runs it, and a node that gives no value ends the loop where it ends, so that the
generator is neither resumed nor told.  Around the node a failure is caught.  A run reports the value,
the failure or the unknown variant that the loop ends with, and raises what interrupts it; where there
are no words for the failure, the complaint about that is raised, and what cannot be described is not
run.  Calling an effect program gives this node and leaves the world as it is; and each call of a
generator function of a script makes a generator that was not there before. -/
theorem do_block_driven {h : Host} {settings : Settings} (hp : settings.Plain) {f : Value}
    {args : List Value} {keywords : Keywords} (hf : h.Generates f args keywords) {node : Value}
    (hn : Repeats h node (.generate hf)) :
    (∃ i starter, node = .node i (.flatMap .unit starter) ∧ ∀ w,
      Driver.Describes h settings ⟨f, args, keywords, starter⟩ node w ∧
      (∀ c, w.ticked.describe? node = .error c → ∀ fuel,
        runReport h fuel settings node w = .error (.raised c.fault) w.ticked) ∧
      ∀ description, w.ticked.describe? node = .ok description →
        Reported h settings node w
          (Driver.Completes h ⟨f, args, keywords, starter⟩ (w.opened description))) ∧
    (∀ fuel stamp target w, w.wrappedBy (.program stamp target) target = f →
      (∀ e ∈ keywords, e.1 ≠ Script.Signature.receiverName) →
        Script.callValue h fuel (.program stamp target) args keywords w =
            .ok (Graph.generate f args keywords) w ∧
          ∃ text, w.ticked.describe? (Graph.generate f args keywords) = .ok text) ∧
    ∀ fuel c body, f = .closure c → c.body = .generator body → ∀ u v u',
      (Script.host (fuel + 1)).call f args keywords u = .ok v u' →
        ∃ address, v = .generator address ∧ u.generators.size ≤ address ∧
          address < u'.generators.size := by
  obtain ⟨i, j, rfl⟩ := hn.exists_node
  refine ⟨⟨i, _, rfl, fun w => ?_⟩, fun fuel stamp target w hwrapped hkeywords => ?_,
    fun fuel c body hclosure hbody u v u' hcall => ?_⟩
  · let D : Driver := ⟨f, args, keywords, (Loop.generate hf).starter j⟩
    have hdescribes (w : World) : D.Describes h settings ((Loop.generate hf).node i j) w :=
      Driver.describes hp hf rfl w
    refine ⟨hdescribes w, fun c hc fuel => runReport_of_undescribed rfl hc, fun description hd => ?_⟩
    exact (hdescribes (w.opened description)).ends.reported hp rfl hd
  · rw [Script.callValue_program h fuel stamp target args hkeywords w, hwrapped]
    exact ⟨rfl, _, World.describe?_suspend _ _⟩
  · subst hclosure
    exact Script.exists_generator hbody hcall

/-- A generator that yields a node and then a number: the run fails with the complaint about the
number, the loop being over where the generator is closed, and around the node the complaint is
caught. -/
theorem do_block_driven_refusing :
    let h := Script.host 6
    let body : List Script.Stmt := [.yield (.invoke "unit" [.literal (.int 1)] []),
      .yield (.literal (.int 5))]
    let f : Value := .closure ⟨1, none, [], .generator body, []⟩
    let node := Graph.generate f [] []
    let w := Script.SessionInput.recorded
    let settings := Script.settingsOf w .none (.bool false)
    let fault := (Complaint.generatorYielded "int").fault
    settings.Plain ∧ h.Generates f [] [] ∧ ∃ failure description u,
      Reports h settings node w (.failed failure) u ∧ failure.cause = fault ∧
        u.generators = #[.finished] ∧ Rescued h node fault (w.opened description) u := by
  intro h body f node w settings fault
  have hp : settings.Plain := Settings.plain_settingsOf w
  have hf : h.Generates f [] [] := Script.generates_closure rfl
  obtain ⟨⟨i, starter, hnode, hruns⟩, hcalled, -⟩ := do_block_driven hp hf (.generate hf)
  obtain ⟨-, text, htext⟩ := hcalled 1 1 f w rfl (List.forall_mem_nil _)
  cases hnode
  obtain ⟨hdescribes, -⟩ := hruns (w.opened text)
  obtain ⟨-, -, hreported⟩ := hruns w
  -- the worlds after the call, after each value that is sent, and after closing
  let u : World := { w.opened text with layers := (w.opened text).layers.push [] }
  let u₁ : World := { u with generators := #[.script false none [.block body] [.shared 0]] }
  let u₂ : World := { u with
    stamps := u.stamps + 1
    generators := #[.script true none [.block [.yield (.literal (.int 5))]] [.shared 0]] }
  let u₃ : World := { u₂ with generators := #[.script true none [.block []] [.shared 0]] }
  let u₄ : World := { u₂ with generators := #[.finished] }
  let generator : Value := .generator 0
  let part : Value := .node u.stamps (.done (.int 1))
  have hcall : h.call f [] [] (w.opened text) = .ok generator u₁ := rfl
  have hyields : h.send generator .none u₁ = .ok (.yielded part) u₂ := rfl
  have hrefused : h.send generator (.int 1) u₂ = .ok (.yielded (.int 5)) u₃ := rfl
  have hclose : h.close generator u₃ = .ok () u₄ := rfl
  let D : Driver := ⟨f, [], [], .ofCallback (.suspended (.generate f [] []))⟩
  let worker : Value := .ofCallback (.resume generator)
  have hrunning : D.Reached h (w.opened text) (.running generator part) u₂ :=
    .tail (.single (.creates hcall)) (.yields hyields rfl)
  have hclosing : D.Reached h (w.opened text) (.closing worker generator (.int 5)) u₃ :=
    (hrunning.tail (.runs .done)).tail (.refuses hrefused rfl)
  have hcompletes : D.Completes h (w.opened text) (.fails fault (.str "_resume.<locals>.<lambda>")) u₄ :=
    ⟨_, _, hclosing, .closes hclose⟩
  have hwords : words u₄ fault (.str "_resume.<locals>.<lambda>") =
      .ok ("_resume.<locals>.<lambda>", "@do generators must yield EffectNode values; got int") := rfl
  obtain ⟨failure, hreports, hcause⟩ :=
    ((hreported text htext).fails fault u₄).2 ⟨_, hcompletes, _, hwords⟩
  exact ⟨hp, hf, failure, text, u₄, hreports, hcause, rfl, hdescribes.caught _ _ _ _ hcompletes rfl⟩

end EffectGraph
