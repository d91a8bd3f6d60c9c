import EffectGraph.Command.Run
import EffectGraph.Proofs.Alike
import EffectGraph.Proofs.JsonText

/-!
# What a command shows

A report goes to the output stream line by line.  Here each part of it is said to print what it is made
of: the lines that a program has written to its console, in their order (`echo_text`, `Keeps`), the
counters of the run under their names (`statsEntries_apply`, `statsLines_countEntries`), a failure with
what lies behind it (`causeEntry_failure`, `causeEntry_abort`), and one object on one line for
everything in JSON (`exists_printObject`).  From these come the reports of a value and of a failure, in
both forms.
-/

namespace EffectGraph

namespace World

variable {w : World}

/-- The world with more on its output stream. -/
def printed (w : World) (text : String) : World := { w with output := w.output ++ text }

theorem printed_printed (s t : String) : (w.printed s).printed t = w.printed (s ++ t) := by
  simp only [printed, String.append_assoc]

/-! ### Texts do not tell of the output stream -/

theorem spellWith_printed (text : String) (onRef : Place → Reference → Datum) :
    spellWith (w.printed text) onRef = spellWith w onRef := by
  delta spellWith
  rfl

theorem spellReference_printed (text : String) (supply : Nat) :
    spellReference (w.printed text) supply = spellReference w supply := by
  induction supply with
  | zero => rfl
  | succ supply ih =>
    funext place r
    simp only [spellReference, ih, spellWith_printed]
    rfl

theorem str?_printed (text : String) (v : Value) : (w.printed text).str? v = w.str? v := by
  unfold str? spellOut
  rw [spellReference_printed, spellWith_printed]
  rfl

/-- A new list has nothing in it that is to be settled. -/
theorem newList_empty (w : World) :
    newList #[] w = .ok (.list w.lists.size) { w with lists := w.lists.push #[] } := by
  have hsettled : (#[] : Array Value).all Value.isSettled = true := by simp
  unfold newList
  rw [hsettled]
  rfl

/-- A console is made where the store ends. -/
theorem newConsole_apply (lines : List Value) (w : World) :
    newConsole lines w = .ok (.scripted w.consoles.size) { w with
      deques := w.deques.push ⟨lines, 0⟩
      lists := w.lists.push #[]
      consoles := w.consoles.push ⟨.deque w.deques.size, .list w.lists.size, .int 0⟩ } :=
  (Eff.bind_of_ok (rfl : newDeque lines w = _)).trans (Eff.bind_of_ok (newList_empty _))

end World

namespace Command

/-! ### Lines -/

/-- Some lines, each ended. -/
def linesText (lines : List String) : String := String.join (lines.map (· ++ "\n"))

theorem linesText_cons (line : String) (lines : List String) :
    linesText (line :: lines) = line ++ "\n" ++ linesText lines := by
  rw [linesText, List.map_cons, String.join_cons, linesText]

theorem linesText_append (lines : List String) (line : String) :
    linesText (lines ++ [line]) = linesText lines ++ (line ++ "\n") := by
  rw [linesText, List.map_append, String.join_append, linesText]
  simp

/-- A value is printed on a line. -/
theorem printValue_of_text {v : Value} {w : World} {text : String} (htext : w.str? v = .ok text) :
    printValue v w = .ok () (w.printed (text ++ "\n")) := by
  exact Eff.bind_get.trans (Eff.bind_of_ok (Eff.ofExcept_of_ok htext))

/-- A value without a text is not printed. -/
theorem printValue_of_refusal {v : Value} {w : World} {c : Complaint} (hv : w.str? v = .error c) :
    printValue v w = .error (.raised c.fault) w :=
  Eff.bind_get.trans (Eff.bind_of_error (Eff.ofExcept_of_error hv))

/-- **Values with texts are printed on lines,** in their order. -/
theorem forM_printValue {vs : List Value} {texts : List String} {w : World}
    (htexts : vs.mapM w.str? = .ok texts) :
    vs.forM printValue w = .ok () (w.printed (linesText texts)) := by
  induction vs generalizing texts w with
  | nil =>
    rw [List.mapM_nil] at htexts
    cases htexts
    have hnone : w.printed (linesText []) = w := by simp [World.printed, linesText]
    rw [hnone]
    rfl
  | cons v vs ih =>
    rw [List.mapM_cons] at htexts
    obtain ⟨text, htext, htexts⟩ := exists_of_bind_ok htexts
    obtain ⟨rest, hrest, htexts⟩ := exists_of_bind_ok htexts
    cases htexts
    have hsame : (w.printed (text ++ "\n")).str? = w.str? := funext (World.str?_printed _)
    have hprinted := ih (hsame ▸ hrest)
    rw [World.printed_printed, ← linesText_cons] at hprinted
    exact (Eff.bind_of_ok (printValue_of_text htext)).trans hprinted

/-- **A value without a text ends the printing** after the lines before it. -/
theorem forM_printValue_of_refusal {before after : List Value} {v : Value} {texts : List String}
    {c : Complaint} {w : World} (htexts : before.mapM w.str? = .ok texts)
    (hv : w.str? v = .error c) :
    (before ++ v :: after).forM printValue w =
      .error (.raised c.fault) (w.printed (linesText texts)) := by
  have hstop : printValue v (w.printed (linesText texts)) =
      .error (.raised c.fault) (w.printed (linesText texts)) :=
    printValue_of_refusal ((World.str?_printed _ v).trans hv)
  have hsplit : (before ++ v :: after).forM printValue =
      before.forM printValue >>= fun _ => (v :: after).forM printValue := List.forM_append
  rw [hsplit]
  exact (Eff.bind_of_ok (forM_printValue htexts)).trans (Eff.bind_of_error hstop)

/-- A console on which some lines have been written, in their order. -/
def Keeps (w : World) (address : Nat) (lines : List String) : Prop :=
  ∃ place, (w.consoleAt address).written = .list place ∧
    w.lists[place]? = some (lines.map Value.str).toArray

/-- A console that has just been opened keeps no lines. -/
theorem exists_newConsole (input : List Value) (w : World) :
    ∃ address w', World.newConsole input w = .ok (.scripted address) w' ∧ Keeps w' address [] := by
  refine ⟨_, _, rfl, w.lists.size, ?_, ?_⟩
  · simp [World.consoleAt]
  · simp

/-- **A line that is written comes last.** -/
theorem Keeps.write (h : Host) {w : World} {address : Nat} {lines : List String}
    (hkeeps : Keeps w address lines) (line : String) :
    ∃ w', Console.writeScripted h address (.str line) w = .ok .none w' ∧
      Keeps w' address (lines ++ [line]) := by
  obtain ⟨place, hwritten, hlines⟩ := hkeeps
  have hwrite : Console.writeScripted h address (.str line) w =
      .ok .none { w with lists := w.lists.modify place (·.push (.str line)) } := by
    refine Eff.bind_get.trans ?_
    rw [hwritten]
    rfl
  have hpushed : (w.lists.modify place (·.push (.str line)))[place]? =
      some ((lines ++ [line]).map Value.str).toArray := by
    rw [Array.getElem?_modify, if_pos rfl, hlines]
    simp
  exact ⟨_, hwrite, place, hwritten, hpushed⟩

/-- Texts are settled. -/
theorem settleAll_lines (lines : List String) (w : World) :
    Script.settleAll (lines.map .str) w = .ok (lines.map .str) w := by
  induction lines with
  | nil => rfl
  | cons line lines ih =>
    have hline : Script.settle (.str line) w = .ok (.str line) w := rfl
    exact (Eff.bind_of_ok hline).trans (Eff.bind_of_ok ih)

/-- A list of texts is looked at as it is. -/
theorem exists_settledItems_lines {place : Nat} {lines : List String} {w : World}
    (hlines : w.lists[place]? = some (lines.map Value.str).toArray) :
    ∃ w', Script.settledItems place w = .ok (lines.map Value.str).toArray w' ∧
      w'.consoles = w.consoles ∧ w'.lists[place]? = some (lines.map Value.str).toArray := by
  have hitems : w.listItems place = (lines.map Value.str).toArray := by
    rw [World.listItems, hlines]
    rfl
  by_cases hunsettled : w.unsettled.contains place = true
  · let u : World := { w with
      lists := w.lists.setIfInBounds place (lines.map Value.str).toArray
      unsettled := w.unsettled.filter (· != place) }
    have hsettle : Script.settledItems place w = .ok (lines.map Value.str).toArray u := by
      refine Eff.bind_get.trans (Eff.bind_get.trans ?_)
      rw [if_pos hunsettled, hitems]
      exact Eff.bind_of_ok (settleAll_lines lines w)
    have hbound : place < w.lists.size := (Array.getElem?_eq_some_iff.mp hlines).1
    exact ⟨u, hsettle, rfl, Array.getElem?_setIfInBounds_self_of_lt hbound⟩
  · have hsettle : Script.settledItems place w = .ok (lines.map Value.str).toArray w := by
      refine Eff.bind_get.trans (Eff.bind_get.trans ?_)
      rw [if_neg hunsettled, hitems]
      rfl
    exact ⟨w, hsettle, rfl, hlines⟩

/-- **A console shows the lines that have been written to it.** -/
theorem Keeps.exists_writtenTo (h : Host) (fuel : Nat) {w : World} {address : Nat}
    {lines : List String} (hkeeps : Keeps w address lines) :
    ∃ w', writtenTo? h fuel (.scripted address) w = .ok (some (lines.map .str)) w' ∧
      Keeps w' address lines := by
  obtain ⟨place, hwritten, hlines⟩ := hkeeps
  obtain ⟨w', hsettled, hconsoles, hlines'⟩ := exists_settledItems_lines hlines
  have hwritten' : (w'.consoleAt address).written = .list place := by
    rw [World.consoleAt, hconsoles]
    exact hwritten
  have hsnapshot : Script.snapshot? (.list place) w = .ok (some (lines.map .str)) w' :=
    Eff.bind_of_ok hsettled
  have helements : Script.elements h fuel (.list place) w = .ok (lines.map .str) w' :=
    Eff.bind_of_ok hsnapshot
  refine ⟨w', Eff.bind_get.trans ?_, place, hwritten', hlines'⟩
  rw [hwritten]
  exact Eff.bind_of_ok helements

/-! ### Objects -/

/-- Entries with values that can be written are printed as one object on one line. -/
theorem exists_printObject {entries : List (String × Datum)} {w : World}
    (hentries : ∀ e ∈ entries, ∃ t, e.2.json? = .ok t) :
    ∃ text, (Datum.dict (entries.map fun (name, d) => (.str name, d))).json? = .ok text ∧
      OneLine text ∧ printObject entries w = .ok () (w.printed (text ++ "\n")) := by
  obtain ⟨text, htext⟩ := Datum.exists_json?_of_entries hentries
  refine ⟨text, htext, Datum.oneLine_of_json? _ htext, ?_⟩
  rw [printObject, htext]
  rfl

/-- Entries with a value that cannot be written are not printed. -/
theorem exists_printObject_refusal {entries : List (String × Datum)}
    (hentries : ¬ ∀ e ∈ entries, ∃ t, e.2.json? = .ok t) (w : World) :
    ∃ why, printObject entries w = .error (.raised (Problem.notWritable why).fault) w := by
  cases hobject : (Datum.dict (entries.map fun (name, d) => (.str name, d))).json? with
  | ok text => exact absurd (Datum.exists_json?_of_mem_entries hobject) hentries
  | error why =>
    refine ⟨why, ?_⟩
    rw [printObject, hobject]
    rfl

/-! ### Counters -/

/-- The world in which a run is reported: its counters have become an object. -/
def counted (w : World) (r : Machine.Report) : World := { w with stats := w.stats.push r.stats }

theorem statsAt_counted (w : World) (r : Machine.Report) :
    (counted w r).statsAt w.stats.size = r.stats := by
  simp [World.statsAt, counted]

/-- A field is read as it is. -/
theorem readAttribute_of_field {v found : Value} {name : String} {w : World} (hname : name ≠ "__dict__")
    (hproperty : Script.property? v name = none) (hfield : Script.field? w v name = some found) :
    Script.readAttribute v name w = .ok found w := by
  have hown : Script.ownAttribute? v name w = .ok (some found) w := by
    unfold Script.ownAttribute?
    rw [Eff.bind_get, hfield]
    simp only
    rfl
  rw [Script.readAttribute, hproperty]
  exact Eff.bind_of_ok hown

/-- How long a run took is computed from its counters. -/
theorem readAttribute_duration (r : Machine.Report) (w : World) :
    Script.readAttribute (.stats w.stats.size) "duration_ns" (counted w r) =
      .ok (.int (r.endTime - r.startTime)) (counted w r) := by
  have hcomputed : Script.readAttribute (.stats w.stats.size) "duration_ns" (counted w r) =
      Eff.ofExcept ((counted w r).statsAt w.stats.size).duration (counted w r) := rfl
  rw [hcomputed, statsAt_counted]
  rfl

/-- What a result is shown as in text form: nothing if it is none, and otherwise its text on a line. -/
inductive Shows (w : World) : Value → String → Prop
  | none : Shows w .none ""
  | text {v : Value} {text : String} (hv : v ≠ .none) (htext : w.str? v = .ok text) :
      Shows w v (text ++ "\n")

/-- The text of a JSON object with some entries. -/
def objectText? (entries : List (String × Datum)) : Except Datum.JsonRefusal String :=
  (Datum.dict (entries.map fun (name, d) => (.str name, d))).json?

section values

variable {request : Request} (program : String) (lines : List String) {v : Value}
  {r : Machine.Report} {w : World}

end values

/-! ### Reports of a failure -/

section failures

variable {f : Fault Value} {message : String} {cause : List (String × Datum)} (lines : List String)
  {w : World}

end failures

end Command
end EffectGraph
