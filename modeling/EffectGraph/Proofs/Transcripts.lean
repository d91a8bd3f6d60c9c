import EffectGraph.Proofs.Replay
import EffectGraph.Proofs.Traversing

/-!
# What a scripted console has to show

A scripted console is spread over three places: the console itself, which counts what was read, the row
of the lines that it has still to give, and the list of what was written to it (`Console.Layout`).  Taken
together they show a transcript (`Layout.Shows`).  Reading takes the first line off it, writing adds to
what was written, feeding adds lines at its end, and nothing else in the world matters for that
(`Shows.read`, `Shows.missed`, `Shows.write`, `Shows.feed`).
-/

namespace EffectGraph

/-- **What a scripted console has to show:** the lines still to give, how many were read, and what was
written. -/
structure Transcript where
  pending : List Value
  reads : Int
  written : List Value

namespace Console

/-- **Where a scripted console lies,** with the row of its lines and the list of what is written to
it. -/
structure Layout where
  address : Nat
  pending : Nat
  written : Nat

namespace Layout

/-- The place of the next console that is made. -/
def next (w : World) : Layout := ⟨w.consoles.size, w.deques.size, w.lists.size⟩

variable (κ : Layout)

/-- The console. -/
def console : Value := .scripted κ.address

/-- **The console shows a transcript** in a world. -/
structure Shows (t : Transcript) (u : World) : Prop where
  console : u.consoles[κ.address]? = some ⟨.deque κ.pending, .list κ.written, .int t.reads⟩
  row : ∃ changes, u.deques[κ.pending]? = some ⟨t.pending, changes⟩
  list : u.lists[κ.written]? = some t.written.toArray

/-- A console that was just made shows its lines. -/
theorem shows_next (lines : List Value) (w : World) :
    ∃ w', World.newConsole lines w = .ok (next w).console w' ∧ (next w).Shows ⟨lines, 0, []⟩ w' ∧
      w'.attributes = w.attributes ∧ w'.cells = w.cells := by
  refine ⟨_, World.newConsole_apply lines w, ⟨?_, ⟨0, ?_⟩, ?_⟩, rfl, rfl⟩
  · exact Array.getElem?_push_size
  · exact Array.getElem?_push_size
  · exact Array.getElem?_push_size

/-- A node that reads off a console with a method of its own. -/
theorem readLine_apply {u : World} (hreader : u.given? κ.console "read_line" = none) (h : Host) :
    Console.readLine h κ.console u =
      .ok (.ofNode (.delay (.method 0 κ.console .readScripted) (.str "ReadLine"))) u := by
  have hown : Console.reader h κ.console u = .ok (.method 0 κ.console .readScripted) u := by
    refine Eff.bind_get.trans ?_
    rw [hreader]
    rfl
  exact Eff.bind_of_ok hown

/-- A node that writes a value to it: its text is given in advance. -/
theorem printLine_apply {u : World} (hwriter : u.given? κ.console "write_line" = none) (h : Host)
    {value : Value} {text : String} (htext : u.str? value = .ok text) :
    Console.printLine h κ.console value u = .ok (.ofNode (.delay
      (.preset 0 (.method 0 κ.console .writeScripted) [.str text] []) (.str "PrintLine"))) u := by
  have hown : Console.writer h κ.console u = .ok (.method 0 κ.console .writeScripted) u := by
    refine Eff.bind_get.trans ?_
    rw [hwriter]
    rfl
  refine (Eff.bind_of_ok hown).trans (Eff.bind_get.trans ?_)
  rw [htext]
  rfl

namespace Shows

variable {κ} {h : Host} {u : World} {t : Transcript} {line : Value} {rest lines written : List Value}
  {reads : Int}

/-- Only the three places matter. -/
theorem of_same {u' : World} (ht : κ.Shows t u) (hconsoles : u'.consoles = u.consoles)
    (hdeques : u'.deques = u.deques) (hlists : u'.lists = u.lists) : κ.Shows t u' := by
  obtain ⟨hconsole, hrow, hlist⟩ := ht
  rw [← hconsoles] at hconsole
  rw [← hdeques] at hrow
  rw [← hlists] at hlist
  exact ⟨hconsole, hrow, hlist⟩

theorem consoleAt (ht : κ.Shows t u) :
    u.consoleAt κ.address = ⟨.deque κ.pending, .list κ.written, .int t.reads⟩ := by
  rw [World.consoleAt, ht.console]
  rfl

theorem items_dequeAt (ht : κ.Shows t u) : (u.dequeAt κ.pending).items = t.pending := by
  obtain ⟨changes, hrow⟩ := ht.row
  rw [World.dequeAt, hrow]
  rfl

theorem listItems (ht : κ.Shows t u) : u.listItems κ.written = t.written.toArray := by
  rw [World.listItems, ht.list]
  rfl

/-- **The first line is read** and counted. -/
theorem read (ht : κ.Shows ⟨line :: rest, reads, written⟩ u) :
    ∃ change changeRow, Console.readScripted h κ.address u =
        .ok line (Command.rearranged u κ.address κ.pending change changeRow) ∧
      κ.Shows ⟨rest, reads + 1, written⟩
        (Command.rearranged u κ.address κ.pending change changeRow) := by
  obtain ⟨hconsole, ⟨changes, hrow⟩, hlist⟩ := ht
  refine ⟨_, _, Command.readScripted_of_cons hconsole hrow, ?_, ⟨changes + 1, ?_⟩, hlist⟩
  · rw [Command.rearranged, Array.getElem?_modify, if_pos rfl, hconsole]
    rfl
  · rw [Command.rearranged, Array.getElem?_modify, if_pos rfl, hrow]
    rfl

/-- **Without a line nothing is read,** and nothing changes. -/
theorem missed (ht : κ.Shows ⟨[], reads, written⟩ u) :
    Console.readScripted h κ.address u = .error (.raised Complaint.noInput.fault) u := by
  obtain ⟨hconsole, ⟨changes, hrow⟩, -⟩ := ht
  exact Command.readScripted_of_nil hconsole hrow

/-- **What is written comes last.** -/
theorem write (ht : κ.Shows t u) (text : Value) :
    Console.writeScripted h κ.address text u = .ok .none (u.pushed κ.written text) ∧
      κ.Shows { t with written := t.written ++ [text] } (u.pushed κ.written text) := by
  refine ⟨?_, ht.console, ht.row, World.getElem?_lists_pushed text ht.list⟩
  refine Eff.bind_get.trans ?_
  rw [ht.consoleAt]
  rfl

/-- **Lines that are fed come last** among those still to give. -/
theorem feed (ht : κ.Shows t u) (lines : List Value) :
    ∃ changeRow, Console.feed h κ.address lines u =
        .ok .none { u with deques := u.deques.modify κ.pending changeRow } ∧
      κ.Shows { t with pending := t.pending ++ lines }
        { u with deques := u.deques.modify κ.pending changeRow } := by
  obtain ⟨changes, hrow⟩ := ht.row
  have hfeed : Console.feed h κ.address lines u = (do
      if !lines.isEmpty then
        World.changeDeque κ.pending (((← get).dequeAt κ.pending).items ++ lines)
      return Value.none : Eff Value) u := by
    refine Eff.bind_get.trans ?_
    rw [ht.consoleAt]
  cases lines with
  | nil =>
    have hrows : u.deques.modify κ.pending id = u.deques := by
      refine Array.ext_getElem? fun i => ?_
      simp [Array.getElem?_modify]
    have hsame : { u with deques := u.deques.modify κ.pending id } = u := by rw [hrows]
    refine ⟨id, ?_, ?_⟩
    · rw [hfeed, hsame]
      rfl
    · rw [hsame, List.append_nil]
      exact ht
  | cons line lines =>
    refine ⟨fun d => ⟨t.pending ++ line :: lines, d.changes + 1⟩, ?_, ht.console, ⟨changes + 1, ?_⟩,
      ht.list⟩
    · rw [hfeed, ← ht.items_dequeAt]
      rfl
    · rw [Array.getElem?_modify, if_pos rfl, hrow]
      rfl

end Shows
end Layout
end Console
end EffectGraph
