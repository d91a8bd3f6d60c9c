import EffectGraph.Proofs.Cuts
import EffectGraph.Proofs.Parallel
import EffectGraph.Proofs.Showing
import EffectGraph.Proofs.Store

/-!
# Lines from a file and lines from the terminal

A program that is given the lines of a file reads them from a console on which they lie in a row, cut
from the text as a whole; a program at the terminal reads them off the stream, one after the other.
`Reads` says which lines a console gives until it says that there are no more.  For a text without
carriage returns both consoles give the same lines exactly if the line feed is the only separator in
it.  If so, the two consoles stay in step (`InStep`): what is left in the row is what would be read off
the stream, and what lies on the one is what the other has printed.  Reading and writing keep them in
step (`InStep.read`, `InStep.write`), so that programs which differ in their console alone
(`Exchange`) are run alike (`replay_as_typed`).
-/

namespace EffectGraph
namespace Command

open Machine

/-- Lines as values. -/
def lineValues (lines : List (List Char)) : List Value := lines.map fun line => .str (String.ofList line)

/-- **What a console gives:** some lines, one after the other, and then the complaint that there are no
more, which changes nothing. -/
inductive Reads (read : Eff Value) : World → List String → Prop where
  | ended {w} (hread : read w = .error (.raised Complaint.noInput.fault) w) : Reads read w []
  | line {w w' line lines} (hread : read w = .ok (.str line) w') (hrest : Reads read w' lines) :
      Reads read w (line :: lines)

/-- There is only one answer to that. -/
theorem Reads.unique {read : Eff Value} {w : World} {lines lines' : List String}
    (hlines : Reads read w lines) (hlines' : Reads read w lines') : lines' = lines := by
  induction hlines generalizing lines' with
  | ended hread =>
    cases hlines' with
    | ended => rfl
    | line hread' =>
      rw [hread] at hread'
      cases hread'
  | line hread _ ih =>
    cases hlines' with
    | ended hread' =>
      rw [hread] at hread'
      cases hread'
    | line hread' hrest' =>
      rw [hread] at hread'
      cases hread'
      rw [ih hrest']

/-! ### One line -/

section lines

variable {h : Host} {u w : World} {address pending : Nat} {written : Value} {reads : Int} {changes : Nat}

/-- A row gives its first item. -/
theorem takeFirst_of_cons {item : Value} {rest : List Value}
    (hrow : u.deques[pending]? = some ⟨item :: rest, changes⟩) :
    Console.takeFirst h (.deque pending) u =
      .ok item { u with deques := u.deques.modify pending fun d => ⟨rest, d.changes + 1⟩ } := by
  have hfirst : u.dequeAt pending = ⟨item :: rest, changes⟩ := by
    rw [World.dequeAt, hrow]
    rfl
  refine Eff.bind_get.trans ?_
  rw [hfirst]
  rfl

/-- The world in which a scripted console and a row have been changed. -/
def rearranged (u : World) (address pending : Nat) (change : ScriptedConsole → ScriptedConsole)
    (changeRow : Deque → Deque) : World :=
  { u with
    consoles := u.consoles.modify address change
    deques := u.deques.modify pending changeRow }

/-- The first line in the row of a console is given, and counted. -/
theorem readScripted_of_cons {line : Value} {rest : List Value}
    (hconsole : u.consoles[address]? = some ⟨.deque pending, written, .int reads⟩)
    (hrow : u.deques[pending]? = some ⟨line :: rest, changes⟩) :
    Console.readScripted h address u = .ok line (rearranged u address pending
      (fun c => { c with reads := .int (reads + 1) }) fun d => ⟨rest, d.changes + 1⟩) := by
  have hat : u.consoleAt address = ⟨.deque pending, written, .int reads⟩ := by
    rw [World.consoleAt, hconsole]
    rfl
  have htruth : u.isTruthy (.deque pending) = true := by
    rw [World.isTruthy, World.dequeAt, hrow]
    rfl
  have hincrease : Arithmetic.increase (.int reads) (.int 1) u = .ok (.int (reads + 1)) u := rfl
  have hcount : World.modifyConsole address (fun c => { c with reads := .int (reads + 1) }) u =
    .ok () { u with
      consoles := u.consoles.modify address fun c => { c with reads := .int (reads + 1) } } := rfl
  refine Eff.bind_get.trans ?_
  rw [hat]
  refine Eff.bind_get.trans ?_
  rw [htruth]
  exact (Eff.bind_of_ok hincrease).trans ((Eff.bind_of_ok hcount).trans (takeFirst_of_cons hrow))

/-- An empty row gives nothing. -/
theorem readScripted_of_nil
    (hconsole : u.consoles[address]? = some ⟨.deque pending, written, .int reads⟩)
    (hrow : u.deques[pending]? = some ⟨[], changes⟩) :
    Console.readScripted h address u = .error (.raised Complaint.noInput.fault) u := by
  have hat : u.consoleAt address = ⟨.deque pending, written, .int reads⟩ := by
    rw [World.consoleAt, hconsole]
    rfl
  have htruth : u.isTruthy (.deque pending) = false := by
    rw [World.isTruthy, World.dequeAt, hrow]
    rfl
  refine Eff.bind_get.trans ?_
  rw [hat]
  refine Eff.bind_get.trans ?_
  rw [htruth]
  rfl

/-- The next raw line of the stream is given without its terminator. -/
theorem readStream_of_takeRaw {console : Value} {raw rest : List Char}
    (hown : w.given? console "_stdin" = none) (htake : Lines.takeRaw w.ending w.input = (raw, rest))
    (hraw : raw ≠ []) :
    Console.readStream h console .none w =
      .ok (.str (String.ofList (Lines.stripTerminator raw))) { w with input := rest } := by
  refine Eff.bind_get.trans ?_
  rw [hown]
  refine Eff.bind_get.trans ?_
  simp only [htake]
  rw [List.isEmpty_eq_false_iff.mpr hraw]
  rfl

/-- A stream at its end gives nothing. -/
theorem readStream_of_nil {console : Value} (hown : w.given? console "_stdin" = none)
    (hinput : w.input = []) :
    Console.readStream h console .none w = .error (.raised Complaint.noInput.fault) w := by
  refine Eff.bind_get.trans ?_
  rw [hown]
  refine Eff.bind_get.trans ?_
  rw [hinput]
  rfl

/-- What is written to a scripted console comes last in its list. -/
theorem writeScripted_of_list {place : Nat} (hwritten : (u.consoleAt address).written = .list place)
    (line : String) :
    Console.writeScripted h address (.str line) u =
      .ok .none { u with lists := u.lists.modify place (·.push (.str line)) } := by
  refine Eff.bind_get.trans ?_
  rw [hwritten]
  rfl

/-- What is written to the stream is printed on a line. -/
theorem writeStream_of_str {console : Value} (hown : w.given? console "_stdout" = none)
    (line : String) :
    Console.writeStream h console .none (.str line) w = .ok .none (w.printed (line ++ "\n")) := by
  refine Eff.bind_get.trans ?_
  rw [hown]
  rfl

end lines

/-! ### Two consoles -/

/-- **A console that is made of a file and one at the terminal:** where the first lies, with its row of
lines and the list of what is written to it, and the stamp of the second. -/
structure Consoles where
  address : Nat
  pending : Nat
  written : Nat
  stamp : Nat

namespace Consoles

variable (σ : Consoles)

/-- The console that is made of a file. -/
def replay : Value := .scripted σ.address

/-- The console at the terminal. -/
def terminal : Value := .stream σ.stamp .none .none

/-- **The console that is made of a file has some lines left to give.** -/
structure Holds (lines : List (List Char)) (u : World) : Prop where
  console : ∃ reads : Int,
    u.consoles[σ.address]? = some ⟨.deque σ.pending, .list σ.written, .int reads⟩
  row : ∃ changes, u.deques[σ.pending]? = some ⟨lineValues lines, changes⟩

/-- A relation between worlds that does not depend on what happens at the consoles, nor on the messages
of the machine. -/
structure Backdrop (Rest : World → World → Prop) : Prop where
  read {u w} (change : ScriptedConsole → ScriptedConsole) (changeRow : Deque → Deque)
    (input : List Char) : Rest u w →
      Rest (rearranged u σ.address σ.pending change changeRow) { w with input }
  write {u w} (change : Array Value → Array Value) (text : String) : Rest u w →
    Rest { u with lists := u.lists.modify σ.written change } (w.printed text)
  note {u w} (text : String) : Rest u w → Rest (u.noted text) (w.noted text)

/-- **The consoles are in step** in two worlds: what is left in the row of the one is what would be read
off the stream of the other, and what was written to the one was printed by the other after `printed`.
Beside that, the worlds are related by `Rest`. -/
structure InStep (Rest : World → World → Prop) (printed : String) (u w : World) : Prop where
  rest : Rest u w
  text : '\r' ∉ w.input
  holds : σ.Holds (Lines.cut w.input) u
  untouched : ∀ name, w.given? σ.terminal name = none
  written : ∃ lines : List String, u.lists[σ.written]? = some (lines.map Value.str).toArray ∧
    w.output = printed ++ linesText lines

variable {σ} {h : Host} {u w : World}

/-- The first line of the row is given. -/
theorem Holds.exists_read {line : List Char} {lines : List (List Char)}
    (hholds : σ.Holds (line :: lines) u) :
    ∃ change changeRow, Console.readScripted h σ.address u = .ok (.str (String.ofList line))
        (rearranged u σ.address σ.pending change changeRow) ∧
      σ.Holds lines (rearranged u σ.address σ.pending change changeRow) := by
  obtain ⟨⟨reads, hconsole⟩, changes, hrow⟩ := hholds
  refine ⟨_, _, readScripted_of_cons hconsole hrow, ⟨reads + 1, ?_⟩, changes + 1, ?_⟩
  · rw [rearranged, Array.getElem?_modify, if_pos rfl, hconsole]
    rfl
  · rw [rearranged, Array.getElem?_modify, if_pos rfl, hrow]
    rfl

/-- **The console that is made of a file gives the lines in its row.** -/
theorem Holds.reads {lines : List (List Char)} (hholds : σ.Holds lines u) :
    Reads (Console.readScripted h σ.address) u (lines.map String.ofList) := by
  induction lines generalizing u with
  | nil =>
    obtain ⟨⟨reads, hconsole⟩, changes, hrow⟩ := hholds
    exact .ended (readScripted_of_nil hconsole hrow)
  | cons line lines ih =>
    obtain ⟨change, changeRow, hread, hholds'⟩ := hholds.exists_read
    exact .line hread (ih hholds')

/-- **The console at the terminal gives the lines between line feeds.**  The induction is on these. -/
theorem reads_terminal (htext : '\r' ∉ w.input) (hown : w.given? σ.terminal "_stdin" = none) :
    Reads (Console.readStream h σ.terminal .none) w ((Lines.cut w.input).map String.ofList) := by
  generalize hlines : Lines.cut w.input = lines
  induction lines generalizing w with
  | nil =>
    refine .ended (readStream_of_nil hown ?_)
    refine Classical.byContradiction fun hsome => ?_
    obtain ⟨raw, rest, -, -, -, hcut⟩ := Lines.exists_takeRaw w.ending htext hsome
    rw [hlines] at hcut
    cases hcut
  | cons line lines ih =>
    have hsome : w.input ≠ [] := by
      intro hnone
      rw [hnone] at hlines
      cases hlines
    obtain ⟨raw, rest, htake, hraw, hrest, hcut⟩ := Lines.exists_takeRaw w.ending htext hsome
    rw [hlines] at hcut
    cases hcut
    exact .line (readStream_of_takeRaw hown htake hraw) (ih (w := { w with input := rest }) hrest hown rfl)

/-! ### Everything else -/

/-- The worlds are the same in all that is not at the consoles. -/
structure SameElsewhere (σ : Consoles) (u w : World) : Prop where
  consoles (n : Nat) : n ≠ σ.address → w.consoles[n]? = u.consoles[n]?
  rows (n : Nat) : n ≠ σ.pending → w.deques[n]? = u.deques[n]?
  lists (n : Nat) : n ≠ σ.written → w.lists[n]? = u.lists[n]?
  others : w = { u with
    consoles := w.consoles, deques := w.deques, lists := w.lists, input := w.input, output := w.output }

theorem SameElsewhere.refl (σ : Consoles) (u : World) : σ.SameElsewhere u u :=
  ⟨fun _ _ => rfl, fun _ _ => rfl, fun _ _ => rfl, rfl⟩

/-- **What happens at the consoles happens nowhere else.** -/
theorem backdrop_sameElsewhere (σ : Consoles) : σ.Backdrop σ.SameElsewhere where
  read {u w} change changeRow input hsame := by
    refine ⟨fun n hn => ?_, fun n hn => ?_, hsame.lists, ?_⟩
    · rw [rearranged, Array.getElem?_modify, if_neg hn.symm]
      exact hsame.consoles n hn
    · rw [rearranged, Array.getElem?_modify, if_neg hn.symm]
      exact hsame.rows n hn
    · exact congrArg (fun v : World => { v with input }) hsame.others
  write {u w} change text hsame := by
    refine ⟨hsame.consoles, hsame.rows, fun n hn => ?_, ?_⟩
    · rw [Array.getElem?_modify, if_neg hn.symm]
      exact hsame.lists n hn
    · exact congrArg (World.printed · text) hsame.others
  note {u w} text hsame :=
    ⟨hsame.consoles, hsame.rows, hsame.lists, congrArg (World.noted · text) hsame.others⟩

/-! ### In step -/

namespace InStep

variable {Rest : World → World → Prop} {printed : String} (hrest : σ.Backdrop Rest)
  (hstep : σ.InStep Rest printed u w)
include hrest hstep

/-- A message keeps them in step. -/
theorem note (text : String) : σ.InStep Rest printed (u.noted text) (w.noted text) where
  rest := hrest.note text hstep.rest
  text := hstep.text
  holds := ⟨hstep.holds.console, hstep.holds.row⟩
  untouched := hstep.untouched
  written := hstep.written

/-- **A line that is read keeps them in step,** and at the end both complain. -/
theorem read :
    (Console.readScripted h σ.address u = .error (.raised Complaint.noInput.fault) u ∧
      Console.readStream h σ.terminal .none w = .error (.raised Complaint.noInput.fault) w) ∨
    ∃ line u' w', Console.readScripted h σ.address u = .ok (.str line) u' ∧
      Console.readStream h σ.terminal .none w = .ok (.str line) w' ∧ σ.InStep Rest printed u' w' := by
  have hholds := hstep.holds
  cases hinput : w.input with
  | nil =>
    rw [hinput] at hholds
    obtain ⟨⟨reads, hconsole⟩, changes, hrow⟩ := hholds
    exact .inl ⟨readScripted_of_nil hconsole hrow, readStream_of_nil (hstep.untouched _) hinput⟩
  | cons c input =>
    have hsome : w.input ≠ [] := by simp [hinput]
    obtain ⟨raw, rest, htake, hraw, htext, hcut⟩ := Lines.exists_takeRaw w.ending hstep.text hsome
    rw [hcut] at hholds
    obtain ⟨change, changeRow, hread, hholds'⟩ := hholds.exists_read
    refine .inr ⟨_, _, _, hread, readStream_of_takeRaw (hstep.untouched _) htake hraw, ?_⟩
    exact ⟨hrest.read change changeRow rest hstep.rest, htext, hholds', hstep.untouched, hstep.written⟩

/-- **So does a line that is written.** -/
theorem write (line : String) :
    ∃ u' w', Console.writeScripted h σ.address (.str line) u = .ok .none u' ∧
      Console.writeStream h σ.terminal .none (.str line) w = .ok .none w' ∧
      σ.InStep Rest printed u' w' := by
  obtain ⟨reads, hconsole⟩ := hstep.holds.console
  obtain ⟨lines, hlines, houtput⟩ := hstep.written
  have hwritten : (u.consoleAt σ.address).written = .list σ.written := by
    rw [World.consoleAt, hconsole]
    rfl
  refine ⟨_, _, writeScripted_of_list hwritten line, writeStream_of_str (hstep.untouched _) line, ?_⟩
  refine ⟨hrest.write _ _ hstep.rest, hstep.text, ⟨hstep.holds.console, hstep.holds.row⟩,
    hstep.untouched, lines ++ [line], ?_, ?_⟩
  · rw [Array.getElem?_modify, if_pos rfl, hlines]
    simp
  · rw [World.printed, houtput, linesText_append, String.append_assoc]

end InStep

end Consoles

/-! ### Actions at the consoles -/

section actions

variable {h : Host} {R : World → World → Prop} {P : Value → Prop} {u w u' w' : World}
  {thunk thunk' : Value} {label : String} {fault : Fault Value}

/-- A fault under a label that is a text is reported under it. -/
theorem performed_of_raised_str (hlabel : label ≠ "")
    (hrun : h.invoke thunk [] u = .error (.raised fault) u') :
    performed h thunk (.str label) u = .ok (.error (fault, .str label)) u' := by
  have htruth : u'.isTruthy (.str label) = true := by simp [World.isTruthy, hlabel]
  refine (Eff.bind_of_ok (Eff.attempt_of_raised hrun)).trans ?_
  refine Eff.bind_get.trans ?_
  rw [htruth]
  rfl

/-- **A refusal under such a label is told alike** in worlds that messages keep related. -/
theorem toldAlike_of_refusal {message : String} (hf : Refusal fault message) (label : String)
    (hnote : ∀ {u w} (text : String), R u w → R (u.noted text) (w.noted text)) :
    ToldAlike R fault (.str label) where
  truth _ := rfl
  words {u w} _ := by
    simp only [words, hf.str?]
    rfl
  note {u w} dropped hw := by
    rw [recoveryNote_apply (rfl : u.str? (.str label) = .ok label),
      recoveryNote_apply (rfl : w.str? (.str label) = .ok label)]
    exact .ok rfl (hnote _ hw)

end actions

/-! ### Programs that differ in their console -/

/-- **Two nodes that differ in their console alone:** both read a line, or both write the same line, or
they are alike in what they do themselves and differ so in the nodes that they lead to. -/
inductive Exchange (h : Host) (σ : Consoles) (R : World → World → Prop) (P : Value → Prop)
    (S : Value → Value → Prop) : Value → Value → Prop where
  | read (i j i' j' : Nat) {label : String} (hlabel : label ≠ "") :
      Exchange h σ R P S
        (.node i (.delay (.method j σ.replay .readScripted) (.str label)))
        (.node i' (.delay (.method j' σ.terminal .readStream) (.str label)))
  | write (i j k i' j' k' : Nat) (line : String) {label : Value}
      (hreplay : ∀ {u w}, R u w → u.given?
        (.preset j (.method k σ.replay .writeScripted) [.str line] []) "keywords" = none)
      (hterminal : ∀ {u w}, R u w → w.given?
        (.preset j' (.method k' σ.terminal .writeStream) [.str line] []) "keywords" = none) :
      Exchange h σ R P S
        (.node i (.delay (.preset j (.method k σ.replay .writeScripted) [.str line] []) label))
        (.node i' (.delay (.preset j' (.method k' σ.terminal .writeStream) [.str line] []) label))
  | alike {p q} (hpq : Turn h R P S p q) : Exchange h σ R P S p q

/-- **Programs that talk to their console only.**  They are given texts, nothing, and the complaint that
there are no more lines, and perhaps other values `P`, but differ in their console alone. -/
structure Conversation (h : Host) (σ : Consoles) (Rest : World → World → Prop) (printed : String)
    (P : Value → Prop) (S : Value → Value → Prop) : Prop where
  backdrop : σ.Backdrop Rest
  text (line : String) : P (.str line)
  nothing : P .none
  ended : P (.fault Complaint.noInput.fault)
  exchange {p q} : S p q → Exchange h σ (σ.InStep Rest printed) P S p q

section conversations

variable {h : Host} {σ : Consoles} {Rest : World → World → Prop} {printed : String} {P : Value → Prop}
  {S : Value → Value → Prop} {u w : World}

/-- What has arguments given in advance is invoked with these. -/
theorem invoke_preset {i : Nat} {f : Value} {args : List Value}
    (hgiven : w.given? (.preset i f args []) "keywords" = none) :
    h.invoke (.preset i f args []) [] w = h.invoke f args w := by
  refine Eff.bind_get.trans ?_
  rw [hgiven, List.append_nil]
  rfl

/-- **Such programs keep up with each other.** -/
theorem Conversation.turn (htalk : Conversation h σ Rest printed P S) {p q : Value} (hpq : S p q) :
    Turn h (σ.InStep Rest printed) P S p q := by
  cases htalk.exchange hpq with
  | @read i j i' j' label hlabel =>
    refine .action i i' fun {u w} hstep => ?_
    have hinvoke : h.invoke (.method j σ.replay .readScripted) [] u =
        Console.readScripted h σ.address u := rfl
    have hinvoke' : h.invoke (.method j' σ.terminal .readStream) [] w =
        Console.readStream h σ.terminal .none w := rfl
    rcases hstep.read (h := h) htalk.backdrop with ⟨hu, hw⟩ | ⟨line, u', w', hu, hw, hstep'⟩
    · rw [performed_of_raised_str hlabel (hinvoke.trans hu),
        performed_of_raised_str hlabel (hinvoke'.trans hw)]
      have htold := toldAlike_of_refusal (R := σ.InStep Rest printed) (Complaint.refusal .noInput) label
        fun text hstep => hstep.note htalk.backdrop text
      exact .ok (.mishap htold htalk.ended) hstep
    · rw [performed_of_ok (hinvoke.trans hu), performed_of_ok (hinvoke'.trans hw)]
      exact .ok (.value ⟨htalk.text line, rfl⟩) hstep'
  | write i j k i' j' k' line hreplay hterminal =>
    refine .action i i' fun {u w} hstep => ?_
    obtain ⟨u', w', hu, hw, hstep'⟩ := hstep.write (h := h) htalk.backdrop line
    have hinvoke : h.invoke (.preset j (.method k σ.replay .writeScripted) [.str line] []) [] u =
        .ok .none u' := (invoke_preset (hreplay hstep)).trans hu
    have hinvoke' : h.invoke (.preset j' (.method k' σ.terminal .writeStream) [.str line] []) [] w =
        .ok .none w' := (invoke_preset (hterminal hstep)).trans hw
    rw [performed_of_ok hinvoke, performed_of_ok hinvoke']
    exact .ok (.value ⟨htalk.nothing, rfl⟩) hstep'
  | alike hpq => exact hpq

end conversations

/-! ### The main result -/

section opened

variable {request : Request} {path : String} {bytes : List UInt8} {text : List Char} {w : World}

/-- The lines of a file lie in a row. -/
theorem openConsole_file (hinput : request.input = some (.just path))
    (hpath : path.toList.contains forbiddenInPath = false) (hdecode : Utf8.decode bytes = .ok text)
    (htext : '\r' ∉ text) (w : World) :
    openConsole request (.ok bytes) w = .ok (.scripted w.consoles.size) { w with
      deques := w.deques.push ⟨lineValues (Lines.split text), 0⟩
      lists := w.lists.push #[]
      consoles := w.consoles.push ⟨.deque w.deques.size, .list w.lists.size, .int 0⟩ } := by
  unfold openConsole
  rw [hinput]
  simp only [hpath, hdecode, Lines.normalize_of_not_mem htext]
  exact World.newConsole_apply _ w

/-- **Both consoles can be opened,** the one on a file and the other at the terminal. -/
theorem exists_consoles (hinput : request.input = some (.just path))
    (hpath : path.toList.contains forbiddenInPath = false) (hdecode : Utf8.decode bytes = .ok text)
    (htext : '\r' ∉ text) (w : World) :
    ∃ (σ : Consoles) (u₁ u : World), openConsole request (.ok bytes) w = .ok σ.replay u₁ ∧
      openConsole { request with input := none } (.ok bytes) u₁ = .ok σ.terminal u ∧
      σ.Holds (Lines.split text) u ∧ u.lists[σ.written]? = some #[] ∧ σ.stamp = w.stamps ∧
      u.input = w.input ∧ u.attributes = w.attributes := by
  refine ⟨⟨w.consoles.size, w.deques.size, w.lists.size, w.stamps⟩, _, _,
    openConsole_file hinput hpath hdecode htext w, rfl, ⟨⟨0, ?_⟩, 0, ?_⟩, ?_, rfl, rfl, rfl⟩
  · exact Array.getElem?_push_size
  · exact Array.getElem?_push_size
  · exact Array.getElem?_push_size

/-- **What is typed and what is replayed.**  For every text without carriage returns, the console that is
made of a file that holds the text gives the lines into which the text is cut as a whole, and the console
at the terminal gives those between line feeds; after that, both complain that there are no more.  These
are the same lines exactly if the line feed is the only separator in the text.  If it is, a program that
talks to the one console only and one that differs in its console alone are run alike, untraced and
whatever the limit: both end in the same way and with the same counters, after the same lines have been
read and written, or neither of them ends. -/
theorem replay_as_typed (hinput : request.input = some (.just path))
    (hpath : path.toList.contains forbiddenInPath = false) (hdecode : Utf8.decode bytes = .ok text)
    (htext : '\r' ∉ text) (hw : w.input = text)
    (hfresh : ∀ name, w.given? (.stream w.stamps .none .none) name = none) (h : Host) :
    ∃ (σ : Consoles) (u₁ u : World), openConsole request (.ok bytes) w = .ok σ.replay u₁ ∧
      openConsole { request with input := none } (.ok bytes) u₁ = .ok σ.terminal u ∧
      Reads (Console.readScripted h σ.address) u ((Lines.split text).map String.ofList) ∧
      Reads (Console.readStream h σ.terminal .none) u ((Lines.cut text).map String.ofList) ∧
      ((∃ lines, Reads (Console.readScripted h σ.address) u lines ∧
        Reads (Console.readStream h σ.terminal .none) u lines) ↔ Lines.OnlyFeeds text) ∧
      (Lines.OnlyFeeds text → ∀ {Rest P S}, Conversation h σ Rest u.output P S → Rest u u →
        ∀ {settings : Settings}, (∀ w : World, w.isTruthy settings.trace = false) →
          ∀ {p q}, S p q → ∀ fuel,
            Together (fun a b => b.1 = a.1 ∧ b.2.counters = a.2.counters)
              (σ.InStep Rest u.output)
              (drive h settings fuel (.start p) u) (drive h settings fuel (.start q) u)) := by
  obtain ⟨σ, u₁, u, hreplay, hterminal, hholds, hwritten, hstamp, htyped, hattributes⟩ :=
    exists_consoles hinput hpath hdecode htext w
  have huntouched (name : String) : u.given? σ.terminal name = none := by
    rw [World.given?, hattributes, Consoles.terminal, hstamp]
    exact hfresh name
  have hreads := hholds.reads (h := h)
  have hreads' := Consoles.reads_terminal (h := h) (w := u) (htyped.trans hw ▸ htext)
    (huntouched _)
  rw [htyped, hw] at hreads'
  refine ⟨σ, u₁, u, hreplay, hterminal, hreads, hreads', ⟨?_, fun hfeeds => ?_⟩, ?_⟩
  · rintro ⟨lines, hlines, hlines'⟩
    have hsame := (hreads.unique hlines).symm.trans (hreads'.unique hlines')
    exact (Lines.split_eq_cut_iff htext).mp (List.map_injective_iff.mpr
      (fun _ _ => String.ofList_injective) hsame)
  · rw [(Lines.split_eq_cut_iff htext).mpr hfeeds] at hreads
    exact ⟨_, hreads, hreads'⟩
  · intro hfeeds Rest P S htalk hrest settings htrace p q hpq fuel
    have hstep : σ.InStep Rest u.output u u := by
      refine ⟨hrest, ?_, ?_, huntouched, [], hwritten, ?_⟩
      · rw [htyped, hw]
        exact htext
      · rw [htyped, hw, ← (Lines.split_eq_cut_iff htext).mpr hfeeds]
        exact hholds
      · simp [linesText]
    exact together_run htalk.turn htrace (.pair hpq) hstep fuel

end opened

/-! ### A program that asks and answers -/

/-- A program that reads a line from a console and then writes one. -/
def asking (console : Value) (read write : Method) : Value :=
  .sequenced (.ofNode (.delay (.method 0 console read) (.str "ReadLine")))
    (.thenRun (.ofNode (.delay (.preset 0 (.method 0 console write) [.str "hi"] []) (.str "PrintLine"))))

/-- The nodes that it consists of, on the one console and on the other. -/
inductive Asks (σ : Consoles) : Value → Value → Prop where
  | read : Asks σ (.ofNode (.delay (.method 0 σ.replay .readScripted) (.str "ReadLine")))
      (.ofNode (.delay (.method 0 σ.terminal .readStream) (.str "ReadLine")))
  | write : Asks σ
      (.ofNode (.delay (.preset 0 (.method 0 σ.replay .writeScripted) [.str "hi"] []) (.str "PrintLine")))
      (.ofNode (.delay (.preset 0 (.method 0 σ.terminal .writeStream) [.str "hi"] []) (.str "PrintLine")))
  | both : Asks σ (asking σ.replay .readScripted .writeScripted)
      (asking σ.terminal .readStream .writeStream)

theorem conversation_asks (h : Host) (σ : Consoles) (printed : String) :
    Conversation h σ σ.SameElsewhere printed (fun _ => True) (Asks σ) where
  backdrop := σ.backdrop_sameElsewhere
  text _ := trivial
  nothing := trivial
  ended := trivial
  exchange {p q} hpq := by
    cases hpq with
    | read => exact .read 0 0 0 0 (by decide)
    | write => exact .write 0 0 0 0 0 0 "hi" (fun _ => rfl) (fun _ => rfl)
    | both => exact .alike (.sequence 0 0 (.pair .read) fun _ hw => .ok (.value (.pair .write)) hw)

/-- Three lines, one of them empty and the last without a line feed, are the same typed and replayed, and
the program answers alike. -/
theorem replay_as_typed_asking :
    let w := Script.SessionInput.world ⟨[], "a\n\nb", .feed, [], true⟩
    ∃ (σ : Consoles) (u : World), Reads (Console.readScripted .spent σ.address) u ["a", "", "b"] ∧
      Reads (Console.readStream .spent σ.terminal .none) u ["a", "", "b"] ∧
      ∀ fuel, Together (fun a b => b.1 = a.1 ∧ b.2.counters = a.2.counters)
        (σ.InStep σ.SameElsewhere u.output)
        (drive .spent (Script.settingsOf w (.int 1) (.bool false)) fuel
          (.start (asking σ.replay .readScripted .writeScripted)) u)
        (drive .spent (Script.settingsOf w (.int 1) (.bool false)) fuel
          (.start (asking σ.terminal .readStream .writeStream)) u) := by
  intro w
  have hdecode : Utf8.decode [97, 10, 10, 98] = .ok ['a', '\n', '\n', 'b'] := by rfl
  have hfeeds : Lines.OnlyFeeds ['a', '\n', '\n', 'b'] := (Lines.split_eq_cut_iff (by decide)).mp rfl
  obtain ⟨σ, u₁, u, -, -, hreads, hreads', -, htogether⟩ :=
    @replay_as_typed greetingRequest _ _ _ w rfl rfl hdecode (by decide) rfl (fun _ => rfl) .spent
  exact ⟨σ, u, hreads, hreads', fun fuel => htogether hfeeds (conversation_asks .spent σ u.output)
    (.refl σ u) (fun _ => rfl) .both fuel⟩

end Command
end EffectGraph
