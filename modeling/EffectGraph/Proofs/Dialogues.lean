import EffectGraph.Proofs.Factorials
import EffectGraph.Proofs.Transcripts

/-!
# The factorial dialogue answers every line

A round of the dialogue reads a line and answers it.  It is a generator that stops at each node that it
wants to be run, so a round is gone through from one stage to the next (`GoesOn`): what the generator is
asked at a stage, what the node then comes to, and what it is sent.  Whatever a line is, its round ends
with the truth value that says whether there is to be another one (`Scene.evaluates_round`).

So the dialogue takes lines until one of them ends it or there are no more, and writes one reply for each
line before that (`dialogue_answers`).  The induction is on the lines that are left.
-/

namespace EffectGraph

open Machine
open scoped Nat

namespace Sample

/-! ### What is expected -/

/-- Does a line end the dialogue? -/
def quits (line : String) : Bool := Blank.strip line == "q"

/-- The complaint about a text that asks for no factorial. -/
def complaint (text : String) : String := "Not a non-negative integer: " ++ Quoted.text text

/-- The reply to a text. -/
def replyTo (text : String) : String :=
  match Numeral.number? text with
  | some (.int i) => if i < 0 then complaint text else "factorial: " ++ toString (i.toNat !)
  | _ => complaint text

/-- **The reply to a line:** the factorial of the whole number that it is, or a complaint. -/
def reply (line : String) : String := replyTo (Blank.strip line)

/-- The lines before the first that ends the dialogue. -/
def answered (lines : List String) : List String := lines.takeWhile (!quits ·)

/-- The lines after the first that ends the dialogue. -/
def leftOver (lines : List String) : List String := (lines.dropWhile (!quits ·)).tail

/-- The factorial that a text asks for, if it does, can be written. -/
def Modest (text : String) : Prop :=
  ∀ i : Int, Numeral.number? text = some (.int i) → ¬ i < 0 → Datum.writable (i.toNat ! : Nat) = true

/-! ### The nodes of a round -/

variable {fuel : Nat} {κ : Console.Layout}

/-- A node that reads a line from a console. -/
def reading (κ : Console.Layout) : Value :=
  .ofNode (.delay (.method 0 κ.console .readScripted) (.str "ReadLine"))

/-- A node that writes a line to a console. -/
def writing (κ : Console.Layout) (text : String) : Value :=
  .ofNode (.delay (.preset 0 (.method 0 κ.console .writeScripted) [.str text] []) (.str "PrintLine"))

/-- **A scene of the dialogue:** the generators that there are, the cells that can be made, and what the
console shows.  The console has the methods of its own. -/
structure Scene (κ : Console.Layout) (generators : Array Generator) (cells : Nat) (t : Transcript)
    (u : World) : Prop where
  shows : κ.Shows t u
  reader : u.given? κ.console "read_line" = none
  writer : u.given? κ.console "write_line" = none
  nameable : u.Nameable cells
  generators : u.generators = generators

namespace Scene

variable {gs : Array Generator} {cells : Nat} {t : Transcript} {u u' : World} {h : Host}
  {rest written : List Value} {line : Value} {reads : Int}

theorem readLine (hs : Scene κ gs cells t u) : Console.readLine h κ.console u = .ok (reading κ) u :=
  κ.readLine_apply hs.reader h

theorem printLine (hs : Scene κ gs cells t u) (text : String) :
    Console.printLine h κ.console (.str text) u = .ok (writing κ text) u :=
  κ.printLine_apply hs.writer h rfl

/-- Messages do not change the scene. -/
theorem noted (hs : Scene κ gs cells t u) (text : String) : Scene κ gs cells t (u.noted text) :=
  ⟨hs.shows.of_same rfl rfl rfl, hs.reader, hs.writer, hs.nameable, hs.generators⟩

end Scene

/-- An attempt gives the value of a node as a success. -/
theorem evaluates_attempt {h : Host} {node v : Value} {m : Counters} {w w' : World}
    (he : Evaluates h node w (.value v) m w') :
    ∃ k, Evaluates h (Graph.attempt node) w (.value (.success v)) k w' :=
  ⟨_, .region (.sequence he rfl .done)⟩

/-- An attempt gives a failure under a label that is a text as a value, once this is noted. -/
theorem evaluates_attempt_failure {h : Host} {node : Value} {fault : Fault Value} {label : String}
    {m : Counters} {w w' : World} (he : Evaluates h node w (.failure fault (.str label) 0) m w') :
    ∃ k message, Evaluates h (Graph.attempt node) w (.value (.failure (.fault fault))) k
      (w'.noted message) :=
  ⟨_, _, .rescue (he.sequenceStopped rfl) (recoveryNote_apply rfl fault 1) rfl .done⟩

namespace Scene

variable {gs : Array Generator} {cells : Nat} {t : Transcript} {u : World} {h : Host}
  {rest written : List Value} {line : Value} {reads : Int}

theorem invoke_reading (h : Host) (κ : Console.Layout) (u : World) :
    h.invoke (.method 0 κ.console .readScripted) [] u = Console.readScripted h κ.address u := rfl

/-- A line is read if there is one. -/
theorem evaluates_reading (hs : Scene κ gs cells ⟨line :: rest, reads, written⟩ u) :
    ∃ k u', Evaluates h (Graph.attempt (reading κ)) u (.value (.success line)) k u' ∧
      Scene κ gs cells ⟨rest, reads + 1, written⟩ u' := by
  obtain ⟨change, changeRow, hread, hshows⟩ := hs.shows.read (h := h)
  have hinvoke := (invoke_reading h κ u).trans hread
  obtain ⟨k, he⟩ := evaluates_attempt (.action (i := 0) (performed_of_ok hinvoke (.str "ReadLine")))
  exact ⟨k, _, he, hshows, hs.reader, hs.writer, hs.nameable, hs.generators⟩

/-- If there is none, that is a failure. -/
theorem evaluates_reading_nil (hs : Scene κ gs cells ⟨[], reads, written⟩ u) :
    ∃ fault k u', Evaluates h (Graph.attempt (reading κ)) u (.value (.failure (.fault fault))) k u' ∧
      Scene κ gs cells ⟨[], reads, written⟩ u' := by
  have hlabel : "ReadLine" ≠ "" := by decide
  have hmissed := Command.performed_of_raised_str hlabel
    ((invoke_reading h κ u).trans hs.shows.missed)
  have he : Evaluates h (reading κ) u (.failure Complaint.noInput.fault (.str "ReadLine") 0) _ u :=
    .actionMishap (i := 0) hmissed
  obtain ⟨k, message, hattempt⟩ := evaluates_attempt_failure he
  exact ⟨_, k, _, hattempt, hs.noted message⟩

/-- A line is written. -/
theorem evaluates_writing (hs : Scene κ gs cells t u) (text : String) :
    ∃ k u', Evaluates h (writing κ text) u (.value .none) k u' ∧
      Scene κ gs cells { t with written := t.written ++ [.str text] } u' := by
  obtain ⟨hwrite, hshows⟩ := hs.shows.write (h := h) (.str text)
  have hinvoke : h.invoke (.preset 0 (.method 0 κ.console .writeScripted) [.str text] []) [] u = _ :=
    (Command.invoke_preset rfl).trans hwrite
  exact ⟨_, _, .action (performed_of_ok hinvoke _), hshows, hs.reader, hs.writer, hs.nameable,
    hs.generators⟩

/-- What comes of reading a text as a number. -/
def parsed (text : String) : Value :=
  match Numeral.number? text with
  | some n => .success n.toValue
  | none => .failure (.fault (Fault.notANumber (.str text) (Quoted.text text)
      [(Complaint.badFloat (Quoted.text (Blank.strip text))).fault]))

/-- A text is read as a number, or not. -/
theorem evaluates_parse (hs : Scene κ gs cells t u) (text : String) :
    ∃ k u', Evaluates h (Graph.attempt (Graph.parseNumber (.str text))) u (.value (parsed text)) k u' ∧
      Scene κ gs cells t u' := by
  have hinvoke : h.invoke (.preset 0 (.ofCallback .parse) [.str text] []) [] u =
      Value.parseNumber h (.str text) u := Command.invoke_preset rfl
  unfold parsed
  cases hn : Numeral.number? text with
  | some n =>
    have hparse : Value.parseNumber h (.str text) u = .ok n.toValue u := by
      simp only [Value.parseNumber, hn]
      rfl
    have hread : Evaluates h (Graph.parseNumber (.str text)) u (.value n.toValue) _ u :=
      .action (performed_of_ok (hinvoke.trans hparse) _)
    obtain ⟨k, he⟩ := evaluates_attempt hread
    exact ⟨k, u, he, hs⟩
  | none =>
    have hparse : Value.parseNumber h (.str text) u = .error (.raised (Fault.notANumber (.str text)
        (Quoted.text text) [(Complaint.badFloat (Quoted.text (Blank.strip text))).fault])) u := by
      simp only [Value.parseNumber, hn]
      rfl
    have hlabel : "ParseNumber" ≠ "" := by decide
    have hmissed := Command.performed_of_raised_str hlabel (hinvoke.trans hparse)
    have he : Evaluates h (Graph.parseNumber (.str text)) u (.failure _ (.str "ParseNumber") 0) _ u :=
      .actionMishap (i := 0) hmissed
    obtain ⟨k, message, hattempt⟩ := evaluates_attempt_failure he
    exact ⟨k, _, hattempt, hs.noted message⟩

/-- A factorial is computed in a cell that is made for it. -/
theorem evaluates_factorial (hs : Scene κ gs (cells + 1) t u) (n : Int) :
    ∃ k u', Evaluates (Script.host (fuel + 1)) (factorial (.int n)) u
        (.value (.int (n.toNat ! : Nat))) k u' ∧ Scene κ gs cells t u' := by
  have hone : u.Nameable 1 := fun k hk => hs.nameable k (by omega)
  obtain ⟨k, he, -⟩ := exists_evaluates_factorial hone fuel n
  exact ⟨k, _, he, hs.shows.of_same rfl rfl rfl, hs.reader, hs.writer, hs.nameable.push rfl rfl,
    hs.generators⟩

end Scene

/-! ### The generator of a round -/

/-- A call makes the generator of a round. -/
theorem call_startDialogue (fuel : Nat) (console : Value) (w : World) :
    (Script.host (fuel + 1)).call (.ofCallback (.startDialogue console)) [] [] w =
      .ok (.generator w.generators.size)
        { w with generators := w.generators.push (.dialogue console .start) } := rfl

theorem generates_startDialogue (fuel : Nat) (console : Value) :
    (Script.host (fuel + 1)).Generates (.ofCallback (.startDialogue console)) [] [] := by
  intro w v w' hcall
  rw [call_startDialogue] at hcall
  cases hcall
  exact ⟨_, rfl⟩

/-- A round as a loop over the nodes that its generator yields. -/
abbrev roundLoop (fuel : Nat) (κ : Console.Layout) : Loop (Script.host (fuel + 1)) :=
  Loop.generate (generates_startDialogue fuel κ.console)

/-- A value is sent into a round that waits at a stage; the first only starts it. -/
theorem send_dialogue {u : World} {g : Nat} {console sent : Value} {stage : DialogueStage}
    (hg : u.generators[g]? = some (.dialogue console stage)) (hsent : stage = .start → sent = .none) :
    (Script.host (fuel + 1)).send (.generator g) sent u =
      Script.sendDialogue (Script.host fuel) g console stage sent
        { u with generators := u.generators.setIfInBounds g .running } := by
  have htake : World.takeGenerator g u = .ok (.dialogue console stage)
      { u with generators := u.generators.setIfInBounds g .running } := by
    show EStateM.Result.ok _ _ = _
    rw [hg]
    rfl
  refine (Eff.bind_of_ok htake).trans ?_
  cases stage with
  | start =>
    obtain rfl := hsent rfl
    rfl
  | _ => rfl

/-- **A round goes on from a generator** that is sent a value: it gives a truth value, and leaves a
scene. -/
def GoesOn (fuel : Nat) (κ : Console.Layout) (g : Nat) (sent : Value) (u : World) (again : Bool)
    (cells : Nat) (t : Transcript) : Prop :=
  ∃ r u₁ parts k u' gs, Loop.sendOn (Script.host (fuel + 1)) (.generator g) sent u = .ok r u₁ ∧
    (roundLoop fuel κ).Goes r u₁ parts (.value (.bool again)) k u' ∧ Scene κ gs cells t u'

namespace Scene

variable {gs : Array Generator} {g cells cells' : Nat} {t t' : Transcript} {u : World} {sent : Value}
  {stage next : DialogueStage} {again : Bool} {node : Value}

/-- While a round is run, the scene is the same. -/
theorem running (hs : Scene κ gs cells t u) (gs' : Array Generator) :
    Scene κ gs' cells t { u with generators := gs' } :=
  ⟨hs.shows.of_same rfl rfl rfl, hs.reader, hs.writer, hs.nameable, rfl⟩

/-- **A stage that asks for a node** goes on with what the node comes to. -/
theorem goesOn_ask (hs : Scene κ gs cells t u) (hg : gs[g]? = some (.dialogue κ.console stage))
    (hsent : stage = .start → sent = .none)
    (hanswer : ∀ gs u, Scene κ gs cells t u →
      answer (Script.host fuel) κ.console stage sent u = .ok (.ask node next) u)
    (hnode : node.isNode = true)
    (hnext : ∀ gs u, Scene κ gs cells t u → gs[g]? = some (.dialogue κ.console next) →
      ∃ x k u', Evaluates (Script.host (fuel + 1)) node u (.value x) k u' ∧
        GoesOn fuel κ g x u' again cells' t') :
    GoesOn fuel κ g sent u again cells' t' := by
  let running := u.generators.setIfInBounds g .running
  have hwaits : u.generators[g]? = some (.dialogue κ.console stage) := hs.generators ▸ hg
  have hsize : g < u.generators.size := (Array.getElem?_eq_some_iff.1 hwaits).1
  have hsend : (Script.host (fuel + 1)).send (.generator g) sent u = .ok (.yielded node)
      { u with generators := running.setIfInBounds g (.dialogue κ.console next) } := by
    rw [send_dialogue hwaits hsent]
    exact (Eff.bind_of_ok (Eff.attempt_of_ok (hanswer _ _ (hs.running running)))).trans rfl
  have hon : Loop.sendOn (Script.host (fuel + 1)) (.generator g) sent u = .ok (.run node (.generator g))
      { u with generators := running.setIfInBounds g (.dialogue κ.console next) } := by
    refine (Eff.bind_of_ok hsend).trans ?_
    simp only [hnode]
    rfl
  obtain ⟨x, k, u', he, r, u₁, parts, k', u'', gs', hrest, hgoes, hscene⟩ :=
    hnext _ _ (hs.running (running.setIfInBounds g (.dialogue κ.console next)))
      (Array.getElem?_setIfInBounds_self_of_lt (by simpa [running] using hsize))
  exact ⟨_, _, _, _, u'', gs', hon, .round he hrest hgoes, hscene⟩

/-- **A stage that gives a truth value** ends the round. -/
theorem goesOn_give (hs : Scene κ gs cells t u) (hg : gs[g]? = some (.dialogue κ.console stage))
    (hsent : stage = .start → sent = .none)
    (hanswer : ∀ gs u, Scene κ gs cells t u →
      answer (Script.host fuel) κ.console stage sent u = .ok (.give (.bool again)) u) :
    GoesOn fuel κ g sent u again cells t := by
  let running := u.generators.setIfInBounds g .running
  have hwaits : u.generators[g]? = some (.dialogue κ.console stage) := hs.generators ▸ hg
  have hsend : (Script.host (fuel + 1)).send (.generator g) sent u = .ok (.returned (.bool again))
      { u with generators := running.setIfInBounds g .finished } := by
    rw [send_dialogue hwaits hsent]
    exact (Eff.bind_of_ok (Eff.attempt_of_ok (hanswer _ _ (hs.running running)))).trans rfl
  exact ⟨_, _, [], .zero, _, _, (Eff.bind_of_ok hsend).trans rfl, .finish, hs.running _⟩

/-! ### The stages of a round -/

theorem fewer (hs : Scene κ gs (cells + 1) t u) : Scene κ gs cells t u :=
  { hs with nameable := fun k hk => hs.nameable k (Nat.lt_succ_of_lt hk) }

/-- **A stage that writes a line** is the last one before the round asks for another. -/
theorem goesOn_writing (hs : Scene κ gs cells t u) (hg : gs[g]? = some (.dialogue κ.console stage))
    (hsent : stage = .start → sent = .none) {text : String}
    (hanswer : ∀ gs u, Scene κ gs cells t u →
      answer (Script.host fuel) κ.console stage sent u = .ok (.ask (writing κ text) .replied) u) :
    GoesOn fuel κ g sent u true cells { t with written := t.written ++ [.str text] } := by
  refine hs.goesOn_ask hg hsent hanswer rfl fun gs u hs hg => ?_
  obtain ⟨k, u', he, hs'⟩ := hs.evaluates_writing text
  exact ⟨.none, k, u', he, hs'.goesOn_give hg nofun fun _ _ _ => rfl⟩

/-- The complaint about a text is written. -/
theorem refusal_apply (hs : Scene κ gs cells t u) (text : String) :
    refusal (Script.host fuel) κ.console (.str text) u =
      .ok (.ask (writing κ (complaint text)) .replied) u :=
  Eff.bind_get.trans ((Eff.bind_of_ok (Eff.ofExcept_of_ok rfl)).trans
    (Eff.bind_of_ok (hs.printLine (complaint text))))

/-- A whole number asks for its factorial if it is not negative. -/
theorem answer_int (h : Host) (console text : Value) (i : Int) (u : World) :
    answer h console (.number text) (.success (.int i)) u =
      if i < 0 then refusal h console text u else .ok (.ask (factorial (.int i)) .result) u := by
  have hbelow : Arithmetic.isBelow (.int 0) (.int i) = .ok (decide (i < 0)) := rfl
  have hanswer : answer h console (.number text) (.success (.int i)) u =
      (do if ← Eff.ofExcept (Arithmetic.isBelow (.int 0) (.int i)) then refusal h console text
          else return .ask (factorial (.int i)) .result : Eff Answer) u := rfl
  rw [hanswer, hbelow]
  by_cases hi : i < 0
  · simp only [hi]
    rfl
  · simp only [hi]
    rfl

/-- A factorial that can be written is told. -/
theorem tellFactorial_apply (hs : Scene κ gs cells t u) {n : Nat} (hn : Datum.writable n = true) :
    tellFactorial (Script.host fuel) κ.console (.int n) u =
      .ok (.ask (writing κ ("factorial: " ++ toString n)) .replied) u := by
  have hshown : u.str? (.int n) = .ok (toString n) := if_pos hn
  refine Eff.bind_get.trans ?_
  rw [hshown]
  exact (Eff.bind_of_ok (hs.printLine _)).trans rfl

/-- **What was read as a number is answered** by its factorial or by a complaint. -/
theorem goesOn_number (hs : Scene κ gs (cells + 1) t u) {text : String}
    (hg : gs[g]? = some (.dialogue κ.console (.number (.str text)))) (hmodest : Modest text) :
    GoesOn fuel κ g (parsed text) u true cells
      { t with written := t.written ++ [.str (replyTo text)] } := by
  have hlater (sent : Value) : DialogueStage.number (.str text) = .start → sent = .none := by
    intro hstart
    cases hstart
  have hrefused (sent : Value)
      (hanswer : ∀ u, answer (Script.host fuel) κ.console (.number (.str text)) sent u =
        refusal (Script.host fuel) κ.console (.str text) u) :
      GoesOn fuel κ g sent u true cells { t with written := t.written ++ [.str (complaint text)] } :=
    hs.fewer.goesOn_writing hg (hlater _) fun gs u hs => (hanswer u).trans (hs.refusal_apply text)
  unfold parsed replyTo
  rcases hn : Numeral.number? text with _ | i | x
  · exact hrefused _ fun _ => rfl
  · by_cases hi : i < 0
    · simp only [if_pos hi]
      refine hrefused _ fun u => ?_
      rw [Number.toValue, answer_int, if_pos hi]
    · have hask (gs : Array Generator) (u : World) (_ : Scene κ gs (cells + 1) t u) :
          answer (Script.host fuel) κ.console (.number (.str text)) (.success (.int i)) u =
            .ok (.ask (factorial (.int i)) .result) u := by
        rw [answer_int, if_neg hi]
      simp only [if_neg hi]
      refine hs.goesOn_ask hg (hlater _) hask rfl fun gs u hs hg => ?_
      obtain ⟨k, u', he, hs'⟩ := hs.evaluates_factorial i
      refine ⟨_, k, u', he, hs'.goesOn_writing hg (fun hstart => ?_) fun _ _ hs => ?_⟩
      · cases hstart
      · exact hs.tellFactorial_apply (hmodest i hn hi)
  · exact hrefused _ fun _ => rfl

/-- A line ends the dialogue, or is read as a number. -/
theorem answer_line (h : Host) (console : Value) (line : String) (u : World) :
    answer h console .line (.success (.str line)) u =
      .ok (if quits line then .give (.bool false)
        else .ask (Graph.attempt (Graph.parseNumber (.str (Blank.strip line))))
          (.number (.str (Blank.strip line)))) u := by
  have hsame : u.equal? (.str (Blank.strip line)) (.str "q") = .ok (quits line) := rfl
  have hfine : isFailure h (.success (.str line)) = pure false := rfl
  have hcontent : contentOf h (.success (.str line)) = pure (.str line) := rfl
  have hstripped : stripped h (.str line) = pure (.str (Blank.strip line)) := rfl
  rw [answer, hfine, pure_bind, if_neg Bool.false_ne_true, hcontent, pure_bind, answerLine, hstripped,
    pure_bind]
  refine Eff.bind_get.trans ?_
  rw [hsame]
  cases quits line <;> rfl

/-- **A line that does not end the dialogue is replied to.** -/
theorem goesOn_line (hs : Scene κ gs (cells + 1) t u) {line : String}
    (hg : gs[g]? = some (.dialogue κ.console .line)) (hquits : quits line = false)
    (hmodest : Modest (Blank.strip line)) :
    GoesOn fuel κ g (.success (.str line)) u true cells
      { t with written := t.written ++ [.str (reply line)] } := by
  have hask (gs : Array Generator) (u : World) (_ : Scene κ gs (cells + 1) t u) :
      answer (Script.host fuel) κ.console .line (.success (.str line)) u =
        .ok (.ask (Graph.attempt (Graph.parseNumber (.str (Blank.strip line))))
          (.number (.str (Blank.strip line)))) u := by
    rw [answer_line, hquits]
    rfl
  refine hs.goesOn_ask hg nofun hask rfl fun gs u hs hg => ?_
  obtain ⟨k, u', he, hs'⟩ := hs.evaluates_parse (Blank.strip line)
  exact ⟨_, k, u', he, hs'.goesOn_number hg hmodest⟩

/-- **A line that ends the dialogue** is taken and not replied to. -/
theorem goesOn_quit (hs : Scene κ gs cells t u) {line : String}
    (hg : gs[g]? = some (.dialogue κ.console .line)) (hquits : quits line = true) :
    GoesOn fuel κ g (.success (.str line)) u false cells t := by
  refine hs.goesOn_give hg nofun fun gs u _ => ?_
  rw [answer_line, hquits]
  rfl

/-- A round starts with the attempt to read a line. -/
theorem goesOn_start (hs : Scene κ gs cells t u) (hg : gs[g]? = some (.dialogue κ.console .start))
    (hnext : ∀ gs u, Scene κ gs cells t u → gs[g]? = some (.dialogue κ.console .line) →
      ∃ x k u', Evaluates (Script.host (fuel + 1)) (Graph.attempt (reading κ)) u (.value x) k u' ∧
        GoesOn fuel κ g x u' again cells' t') :
    GoesOn fuel κ g .none u again cells' t' :=
  hs.goesOn_ask hg (fun _ => rfl) (fun _ _ hs => Eff.bind_of_ok hs.readLine) rfl hnext

end Scene

/-! ### A round -/

/-- A round of the dialogue. -/
def round (κ : Console.Layout) : Value :=
  Graph.generate (.ofCallback (.startDialogue κ.console)) [] []

namespace Scene

variable {gs : Array Generator} {cells cells' : Nat} {t t' : Transcript} {u : World} {again : Bool}
  {line : String} {rest written : List Value} {reads : Int}

/-- A round comes to what going on from its generator comes to. -/
theorem evaluates_round (hs : Scene κ gs cells t u)
    (hgoes : ∀ g gs u, Scene κ gs cells t u → gs[g]? = some (.dialogue κ.console .start) →
      GoesOn fuel κ g .none u again cells' t') :
    ∃ k gs' u', Evaluates (Script.host (fuel + 1)) (round κ) u (.value (.bool again)) k u' ∧
      Scene κ gs' cells' t' u' := by
  obtain ⟨r, u₁, parts, k, u', gs', hon, hrest, hs'⟩ := hgoes u.generators.size _ _
    (hs.running (u.generators.push (.dialogue κ.console .start))) Array.getElem?_push_size
  have hstart : (roundLoop fuel κ).start u = .ok r u₁ :=
    (Eff.bind_of_ok (call_startDialogue fuel κ.console u)).trans hon
  have he := Loop.evaluates_node_iff (i := 0) (j := 0).2 ⟨parts, .started hstart hrest⟩
  exact ⟨_, gs', u', he, hs'⟩

/-- **Without a line** there is no further round. -/
theorem evaluates_round_nil (fuel : Nat) (hs : Scene κ gs cells ⟨[], reads, written⟩ u) :
    ∃ k gs' u', Evaluates (Script.host (fuel + 1)) (round κ) u (.value (.bool false)) k u' ∧
      Scene κ gs' cells ⟨[], reads, written⟩ u' := by
  refine hs.evaluates_round fun g gs u hs hg => hs.goesOn_start hg fun gs u hs hg => ?_
  obtain ⟨fault, k, u', he, hs'⟩ := hs.evaluates_reading_nil (h := Script.host (fuel + 1))
  exact ⟨_, k, u', he, hs'.goesOn_give hg nofun fun _ _ _ => rfl⟩

/-- **After a line that ends the dialogue** there is none, either. -/
theorem evaluates_round_quit (fuel : Nat)
    (hs : Scene κ gs cells ⟨.str line :: rest, reads, written⟩ u) (hquits : quits line = true) :
    ∃ k gs' u', Evaluates (Script.host (fuel + 1)) (round κ) u (.value (.bool false)) k u' ∧
      Scene κ gs' cells ⟨rest, reads + 1, written⟩ u' := by
  refine hs.evaluates_round fun g gs u hs hg => hs.goesOn_start hg fun gs u hs hg => ?_
  obtain ⟨k, u', he, hs'⟩ := hs.evaluates_reading (h := Script.host (fuel + 1))
  exact ⟨_, k, u', he, hs'.goesOn_quit hg hquits⟩

/-- **Any other line is replied to,** and there is another round. -/
theorem evaluates_round_reply (fuel : Nat)
    (hs : Scene κ gs (cells + 1) ⟨.str line :: rest, reads, written⟩ u) (hquits : quits line = false)
    (hmodest : Modest (Blank.strip line)) :
    ∃ k gs' u', Evaluates (Script.host (fuel + 1)) (round κ) u (.value (.bool true)) k u' ∧
      Scene κ gs' cells ⟨rest, reads + 1, written ++ [.str (reply line)]⟩ u' := by
  refine hs.evaluates_round fun g gs u hs hg => hs.goesOn_start hg fun gs u hs hg => ?_
  obtain ⟨k, u', he, hs'⟩ := hs.evaluates_reading (h := Script.host (fuel + 1))
  exact ⟨_, k, u', he, hs'.goesOn_line hg hquits hmodest⟩

end Scene

/-! ### Rounds -/

/-- The rounds of the dialogue: one after the other, as long as they give true. -/
abbrev roundsLoop (fuel : Nat) (κ : Console.Layout) : Loop (Script.host (fuel + 1)) :=
  Loop.doWhile (Script.host (fuel + 1)) (round κ) (.operation .unit)

/-- What a round gives decides whether there is another one. -/
theorem goes_of_round {gs : Array Generator} {cells : Nat} {t : Transcript} {u u' : World} {again : Bool}
    {k : Counters} (he : Evaluates (Script.host (fuel + 1)) (round κ) u (.value (.bool again)) k u')
    (hs : Scene κ gs cells t u') {Left : World → Prop}
    (hnext : ∀ u, Scene κ gs cells t u → ∃ parts k u', (roundsLoop fuel κ).Goes
      (if again then .run (round κ) .body else .ended) u parts (.value .none) k u' ∧ Left u') :
    ∃ parts k u', (roundsLoop fuel κ).Goes (.run (round κ) .body) u parts (.value .none) k u' ∧
      Left u' := by
  let asked : World := { u' with stamps := u'.stamps + 1 }
  have hasked : Scene κ gs cells t asked :=
    ⟨hs.shows.of_same rfl rfl rfl, hs.reader, hs.writer, hs.nameable, hs.generators⟩
  have hunit : (Script.host (fuel + 1)).call (.operation .unit) [.bool again] [] u' =
      .ok (.node u'.stamps (.done (.bool again))) asked := rfl
  obtain ⟨parts, k', u'', hgoes, hleft⟩ := hnext asked hasked
  refine ⟨_, _, u'', .round he (Eff.bind_of_ok hunit) (.round .done ?_ hgoes), hleft⟩
  exact Eff.bind_get

/-- **The rounds reply to all lines before the one that ends them.**  The induction is on the lines that
are left to read. -/
theorem exists_goes_rounds (fuel : Nat) {gs : Array Generator} {lines : List String} {reads : Int}
    {written : List Value} {u : World}
    (hs : Scene κ gs lines.length ⟨lines.map .str, reads, written⟩ u)
    (hmodest : ∀ line ∈ answered lines, Modest (Blank.strip line)) :
    ∃ parts k u', (roundsLoop fuel κ).Goes (.run (round κ) .body) u parts (.value .none) k u' ∧
      κ.Shows ⟨(leftOver lines).map .str, reads + (lines.length - (leftOver lines).length),
        written ++ ((answered lines).map reply).map .str⟩ u' := by
  induction lines generalizing gs reads written u with
  | nil =>
    obtain ⟨k, gs', u', he, hs'⟩ := hs.evaluates_round_nil fuel
    refine goes_of_round he hs' fun u hs => ⟨_, _, u, .ended, ?_⟩
    simpa [answered, leftOver] using hs.shows
  | cons line lines ih =>
    cases hquits : quits line with
    | true =>
      obtain ⟨k, gs', u', he, hs'⟩ := hs.evaluates_round_quit fuel hquits
      refine goes_of_round he hs' fun u hs => ⟨_, _, u, .ended, ?_⟩
      simpa [answered, leftOver, hquits] using hs.shows
    | false =>
      have hanswered : answered (line :: lines) = line :: answered lines := by simp [answered, hquits]
      have hleft : leftOver (line :: lines) = leftOver lines := by simp [leftOver, hquits]
      rw [hanswered] at hmodest
      obtain ⟨hline, hlines⟩ := List.forall_mem_cons.1 hmodest
      obtain ⟨k, gs', u', he, hs'⟩ := hs.evaluates_round_reply fuel hquits hline
      refine goes_of_round he hs' fun u hs => ?_
      obtain ⟨parts, k, u', hgoes, hshows⟩ := ih hs hlines
      refine ⟨parts, k, u', hgoes, ?_⟩
      have hreads : reads + ((line :: lines).length - (leftOver lines).length : Int) =
          reads + 1 + (lines.length - (leftOver lines).length) := by
        rw [List.length_cons]
        omega
      rw [hanswered, hleft, hreads]
      simpa using hshows

/-! ### The main result -/

/-- The node of the dialogue on a console with methods of its own. -/
def dialogueNode (κ : Console.Layout) : Value :=
  .sequenced (writing κ dialogueHelp) (.thenRun (.suspend (.doWhile (round κ) (.operation .unit))))

theorem dialogue_apply {gs : Array Generator} {cells : Nat} {t : Transcript} {u : World}
    (hs : Scene κ gs cells t u) (h : Host) : dialogue h κ.console u = .ok (dialogueNode κ) u :=
  (Eff.bind_of_ok (hs.printLine dialogueHelp)).trans rfl

/-- What the node of the dialogue is called in the messages about its run. -/
theorem describe?_dialogue (κ : Console.Layout) (w : World) : w.describe? (dialogueNode κ) =
    .ok "FlatMap(Delay, EffectNode.then.<locals>.<lambda>)" := by
  have hrepr : w.repr? (dialogueNode κ) = .ok "FlatMap(Delay, EffectNode.then.<locals>.<lambda>)" := rfl
  rw [World.describe?, hrepr]
  rfl

/-- Lines are cut at the first that ends the dialogue, if there is one. -/
theorem lines_cut (lines : List String) :
    (∀ line ∈ answered lines, quits line = false) ∧
      (lines = answered lines ∧ leftOver lines = [] ∨
        ∃ line, quits line = true ∧ lines = answered lines ++ line :: leftOver lines) := by
  have hanswered : ∀ line ∈ answered lines, quits line = false := by
    intro line hline
    simpa using List.mem_takeWhile_imp hline
  have hcut : answered lines ++ lines.dropWhile (!quits ·) = lines := List.takeWhile_append_dropWhile
  refine ⟨hanswered, ?_⟩
  rcases hrest : lines.dropWhile (!quits ·) with _ | ⟨line, rest⟩
  · rw [hrest, List.append_nil] at hcut
    exact .inl ⟨hcut.symm, by rw [leftOver, hrest, List.tail_nil]⟩
  · have hquits : quits line = true := by
      have hhead := List.head?_dropWhile_not (!quits ·) lines
      rw [hrest] at hhead
      simpa using hhead
    rw [hrest] at hcut
    exact .inr ⟨line, hquits, by rw [leftOver, hrest, List.tail_cons, hcut]⟩

/-- **The factorial dialogue is right in every session.**  Let a console be made of any lines, with
methods of its own, in a world in which as many cells can be made, and let the factorials that are asked
for be such that they can be written.  Then the dialogue on it can be built, and a run of it without limit
and tracing gives nothing: no line makes it fail.  It has taken the lines up to and with the first that
says `q` between blanks, or all of them if none does, and left the others.  It has written the opening
words and then, for each line that it has taken but that one, the factorial of the whole number that the
line is if it is not negative, or a complaint that shows the line without the blanks around it. -/
theorem dialogue_answers (fuel : Nat) {settings : Settings} (hp : settings.Plain) (lines : List String)
    {w : World} (hreader : w.given? (Console.Layout.next w).console "read_line" = none)
    (hwriter : w.given? (Console.Layout.next w).console "write_line" = none)
    (hcells : w.Nameable lines.length)
    (hmodest : ∀ line ∈ answered lines, Modest (Blank.strip line)) :
    let κ := Console.Layout.next w
    let h := Script.host (fuel + 1)
    ∃ w' node, World.newConsole (lines.map .str) w = .ok κ.console w' ∧
      dialogue h κ.console w' = .ok node w' ∧
      (∃ steps r u, runReport h steps settings node w' = .ok r u ∧ r.outcome = .finished .none ∧
        κ.Shows ⟨(leftOver lines).map .str, lines.length - (leftOver lines).length,
          (dialogueHelp :: (answered lines).map reply).map .str⟩ u) ∧
      (∀ line ∈ answered lines, quits line = false) ∧
      (lines = answered lines ∧ leftOver lines = [] ∨
        ∃ line, quits line = true ∧ lines = answered lines ++ line :: leftOver lines) := by
  intro κ h
  obtain ⟨w', hmade, hshows, hattributes, hcells'⟩ := Console.Layout.shows_next (lines.map .str) w
  have hs : Scene κ w'.generators lines.length ⟨lines.map .str, 0, []⟩ w' := by
    refine ⟨hshows, ?_, ?_, ?_, rfl⟩
    · rw [World.given?, hattributes]
      exact hreader
    · rw [World.given?, hattributes]
      exact hwriter
    · intro k hk
      rw [World.given?, hattributes, hcells']
      exact hcells k hk
  have hd := describe?_dialogue κ w'.ticked
  obtain ⟨k, u, hopening, hs'⟩ := Scene.evaluates_writing (h := h)
    (u := w'.opened "FlatMap(Delay, EffectNode.then.<locals>.<lambda>)")
    ⟨hs.shows.of_same rfl rfl rfl, hs.reader, hs.writer, hs.nameable, rfl⟩ dialogueHelp
  obtain ⟨parts, k', u', hgoes, hleft⟩ := exists_goes_rounds fuel hs' hmodest
  have hrounds := Loop.evaluates_node_iff (i := 0) (j := 0).2
    ⟨parts, .started (rfl : (roundsLoop fuel κ).start u = .ok (.run (round κ) .body) u) hgoes⟩
  have hruns : Runs h settings (dialogueNode κ)
      (w'.opened "FlatMap(Delay, EffectNode.then.<locals>.<lambda>)")
      (Outcome.finished .none).ending _ u' := (Evaluates.sequence hopening rfl hrounds).runs hp
  obtain ⟨steps, r, hreport, houtcome, -⟩ := hruns.exists_runReport rfl hd
  refine ⟨w', dialogueNode κ, hmade, dialogue_apply hs h, ⟨steps, r, _, hreport, houtcome, ?_⟩,
    lines_cut lines⟩
  have hwritten : (dialogueHelp :: (answered lines).map reply).map Value.str =
      [] ++ [.str dialogueHelp] ++ ((answered lines).map reply).map .str := by simp
  have hreads : (lines.length - (leftOver lines).length : Int) =
      0 + (lines.length - (leftOver lines).length) := by omega
  rw [hwritten, hreads]
  exact hleft.of_same rfl rfl rfl

/-- A padded number, a word, a negative number and an end, after which a line is left. -/
theorem dialogue_answers_session :
    let w := Script.SessionInput.recorded
    let settings := Script.settingsOf w .none (.bool false)
    let κ := Console.Layout.next w
    let lines := [" 4 ", "x", "-1", "q ", "7"]
    settings.Plain ∧ ∃ w' node steps r u,
      World.newConsole (lines.map .str) w = .ok κ.console w' ∧
      dialogue (Script.host 1) κ.console w' = .ok node w' ∧
      runReport (Script.host 1) steps settings node w' = .ok r u ∧ r.outcome = .finished .none ∧
      κ.Shows ⟨[.str "7"], 4, [.str dialogueHelp, .str "factorial: 24",
        .str "Not a non-negative integer: 'x'", .str "Not a non-negative integer: '-1'"]⟩ u := by
  intro w settings κ lines
  have hp : settings.Plain := Settings.plain_settingsOf w
  have hcells : w.Nameable lines.length := by
    intro k hk
    refine ⟨rfl, ?_⟩
    have hsmall : k = 0 ∨ k = 1 ∨ k = 2 ∨ k = 3 ∨ k = 4 := by
      simp only [lines, List.length_cons, List.length_nil] at hk
      omega
    rcases hsmall with rfl | rfl | rfl | rfl | rfl <;> decide
  have hanswered : answered lines = [" 4 ", "x", "-1"] := by decide +kernel
  have hmodest : ∀ line ∈ answered lines, Modest (Blank.strip line) := by
    have hfour : Numeral.number? (Blank.strip " 4 ") = some (.int 4) := rfl
    have hword : Numeral.number? (Blank.strip "x") = none := rfl
    have hnegative : Numeral.number? (Blank.strip "-1") = some (.int (-1)) := rfl
    rw [hanswered]
    intro line hline i hi hsign
    simp only [List.mem_cons, List.not_mem_nil, or_false] at hline
    rcases hline with rfl | rfl | rfl
    · cases hfour.symm.trans hi
      decide
    · cases hword.symm.trans hi
    · cases hnegative.symm.trans hi
      exact absurd (by decide) hsign
  obtain ⟨w', node, hmade, hnode, ⟨steps, r, u, hreport, houtcome, hshows⟩, -⟩ :=
    dialogue_answers 0 hp lines rfl rfl hcells hmodest
  have hleft : leftOver lines = ["7"] := by decide +kernel
  have hreplies : (answered lines).map reply = ["factorial: 24", "Not a non-negative integer: 'x'",
      "Not a non-negative integer: '-1'"] := by
    rw [hanswered]
    decide +kernel
  rw [hleft, hreplies] at hshows
  exact ⟨hp, w', node, steps, r, u, hmade, hnode, hreport, houtcome, hshows⟩

end Sample
end EffectGraph
