import EffectGraph.Proofs.Touching
import EffectGraph.Proofs.Transcripts

/-!
# A scripted console is a queue

What was done to a scripted console, and what came of it, is a list of operations: lines were fed to it,
a line was read off it, there was none to be read, a text was written to it.  Operations lead from one
transcript to another (`Transcript.Goes`), and the lines that were read and those still to give are always
the lines that there were at first and those that were fed, in their order (`Goes.order`).

Operations lead from one world to another if each does what a call of the console does, and between them
the places of the console are left alone (`Layout.Talked`).  What they do to the console there is what they
do to its transcript (`Talked.goes`), provided that no other console gives the same lines (`Layout.Sole`).
To do nothing to the console but such operations is a habit (`Layout.talking`), so whatever is invoked does
nothing else to it over a host whose functions do not.
-/

namespace EffectGraph

/-- **What was done to a scripted console,** and what came of it. -/
inductive ConsoleOp where
  /-- Lines were put behind those still to give. -/
  | fed (lines : List Value)
  /-- A line was read. -/
  | read (line : Value)
  /-- There was no line to be read. -/
  | missed
  /-- A text was written, that is, put behind all that was written before. -/
  | wrote (text : Value)

namespace ConsoleOp

/-- The lines that an operation feeds. -/
def fedLines : ConsoleOp → List Value
  | fed lines => lines
  | _ => []

/-- The line that an operation has read, if it has. -/
def linesRead : ConsoleOp → List Value
  | read line => [line]
  | _ => []

/-- The text that an operation has written, if it has. -/
def textsWritten : ConsoleOp → List Value
  | wrote text => [text]
  | _ => []

/-- All lines that some operations feed, in their order. -/
def allFed (ops : List ConsoleOp) : List Value := ops.flatMap fedLines

/-- All lines that they have read. -/
def allRead (ops : List ConsoleOp) : List Value := ops.flatMap linesRead

/-- All texts that they have written. -/
def allWritten (ops : List ConsoleOp) : List Value := ops.flatMap textsWritten

variable (op : ConsoleOp) (ops : List ConsoleOp)

theorem allFed_cons : allFed (op :: ops) = op.fedLines ++ allFed ops := List.flatMap_cons

theorem allRead_cons : allRead (op :: ops) = op.linesRead ++ allRead ops := List.flatMap_cons

theorem allWritten_cons : allWritten (op :: ops) = op.textsWritten ++ allWritten ops := List.flatMap_cons

end ConsoleOp

open ConsoleOp

/-! ### Transcripts -/

namespace Transcript

/-- **What an operation does to a transcript.**  A line can only be read if it is the first, and only
where there is none is nothing read. -/
inductive Step : Transcript → ConsoleOp → Transcript → Prop where
  | fed (t lines) : Step t (.fed lines) { t with pending := t.pending ++ lines }
  | read (line rest reads written) :
      Step ⟨line :: rest, reads, written⟩ (.read line) ⟨rest, reads + 1, written⟩
  | missed (reads written) : Step ⟨[], reads, written⟩ .missed ⟨[], reads, written⟩
  | wrote (t text) : Step t (.wrote text) { t with written := t.written ++ [text] }

/-- **What operations do to a transcript,** one after the other. -/
inductive Goes : Transcript → List ConsoleOp → Transcript → Prop where
  | nil {t} : Goes t [] t
  | cons {t op t' ops t''} (hs : Step t op t') (ht : Goes t' ops t'') : Goes t (op :: ops) t''

variable {t t' t'' : Transcript} {op : ConsoleOp} {ops ops' : List ConsoleOp}

namespace Step

/-- What is read comes off the front, what is fed is put at the end. -/
theorem order (hs : Step t op t') : op.linesRead ++ t'.pending = t.pending ++ op.fedLines := by
  cases hs with
  | fed => rfl
  | read line rest => exact (List.append_nil (line :: rest)).symm
  | missed => rfl
  | wrote => exact (List.append_nil t.pending).symm

theorem reads_eq (hs : Step t op t') : t'.reads = t.reads + op.linesRead.length := by
  cases hs with
  | read => rfl
  | _ => exact (Int.add_zero _).symm

theorem written_eq (hs : Step t op t') : t'.written = t.written ++ op.textsWritten := by
  cases hs with
  | wrote => rfl
  | _ => exact (List.append_nil _).symm

end Step

namespace Goes

theorem one (hs : Step t op t') : Goes t [op] t' := .cons hs .nil

theorem append (ht : Goes t ops t') (ht' : Goes t' ops' t'') : Goes t (ops ++ ops') t'' := by
  induction ht with
  | nil => exact ht'
  | cons hs _ ih => exact .cons hs (ih ht')

/-- What was done before the last of some operations can be told from them. -/
theorem split (ht : Goes t (ops ++ ops') t'') : ∃ t', Goes t ops t' ∧ Goes t' ops' t'' := by
  induction ops generalizing t with
  | nil => exact ⟨t, .nil, ht⟩
  | cons op ops ih =>
    obtain _ | ⟨hs, hrest⟩ := ht
    obtain ⟨t', hops, hops'⟩ := ih hrest
    exact ⟨t', .cons hs hops, hops'⟩

/-- **No line is lost, doubled or overtaken.** -/
theorem order (ht : Goes t ops t') : allRead ops ++ t'.pending = t.pending ++ allFed ops := by
  induction ht with
  | nil => exact (List.append_nil _).symm
  | cons hs _ ih => rw [allRead_cons, allFed_cons, List.append_assoc, ih, ← List.append_assoc, hs.order,
      List.append_assoc]

/-- Each line that is read is counted, and nothing else. -/
theorem reads_eq (ht : Goes t ops t') : t'.reads = t.reads + (allRead ops).length := by
  induction ht with
  | nil => exact (Int.add_zero _).symm
  | cons hs _ ih => rw [ih, hs.reads_eq, allRead_cons, List.length_append, Int.natCast_add, Int.add_assoc]

/-- **What is written stays,** whatever is read or fed in between. -/
theorem written_eq (ht : Goes t ops t') : t'.written = t.written ++ allWritten ops := by
  induction ht with
  | nil => exact (List.append_nil _).symm
  | cons hs _ ih => rw [ih, hs.written_eq, allWritten_cons, List.append_assoc]

/-- **Where there was no line to be read,** all lines had been read that there had been so far. -/
theorem of_missed (ht : Goes t (ops ++ .missed :: ops') t'') : allRead ops = t.pending ++ allFed ops := by
  obtain ⟨t', hops, hrest⟩ := ht.split
  obtain _ | ⟨⟨⟩, -⟩ := hrest
  have horder := hops.order
  rwa [List.append_nil] at horder

end Goes
end Transcript

/-! ### Worlds -/

namespace Console.Layout

variable (κ : Layout)

/-- **The console has its lines for itself.** -/
def Sole (w : World) : Prop :=
  ∀ address c, address ≠ κ.address → w.consoles[address]? = some c → c.pending ≠ .deque κ.pending

/-- **The console shows a transcript,** and has its lines for itself. -/
structure Holds (t : Transcript) (w : World) : Prop where
  shows : κ.Shows t w
  sole : κ.Sole w

/-- **Nothing is done to the console,** nor are its lines given to another. -/
structure Aside (w w' : World) : Prop where
  console : w'.consoles[κ.address]? = w.consoles[κ.address]?
  row : w'.deques[κ.pending]? = w.deques[κ.pending]?
  list : w'.lists[κ.written]? = w.lists[κ.written]?
  sole : κ.Sole w → κ.Sole w'

/-- **Operations on the console lead from one world to another.**  Each does what a call of the console
does, over whatever host. -/
inductive Talked : World → List ConsoleOp → World → Prop where
  | aside {w w'} (hw : κ.Aside w w') : Talked w [] w'
  | fed {w w'} (h : Host) (lines : List Value) (hrun : feed h κ.address lines w = .ok .none w') :
      Talked w [.fed lines] w'
  | read {w w'} (h : Host) {line : Value} (hrun : readScripted h κ.address w = .ok line w') :
      Talked w [.read line] w'
  | missed {w w'} (h : Host) {signal : Signal} (hrun : readScripted h κ.address w = .error signal w') :
      Talked w [.missed] w'
  | wrote {w w'} (h : Host) (text : Value) (hrun : writeScripted h κ.address text w = .ok .none w') :
      Talked w [.wrote text] w'
  | trans {w w₁ w' ops ops'} (hops : Talked w ops w₁) (hops' : Talked w₁ ops' w') :
      Talked w (ops ++ ops') w'

variable {κ} {t : Transcript} {w w' : World} {ops : List ConsoleOp}

namespace Aside

theorem refl (w : World) : κ.Aside w w := ⟨rfl, rfl, rfl, id⟩

/-- Nothing in the journal matters to the console. -/
theorem of_akin (hw : w.Akin w') : κ.Aside w w' := by
  obtain ⟨journal, -, rfl⟩ := hw
  exact ⟨rfl, rfl, rfl, id⟩

theorem holds (hw : κ.Aside w w') (ht : κ.Holds t w) : κ.Holds t w' := by
  obtain ⟨⟨hconsole, hrow, hlist⟩, hsole⟩ := ht
  refine ⟨⟨hw.console.trans hconsole, ?_, hw.list.trans hlist⟩, hw.sole hsole⟩
  rwa [hw.row]

end Aside

/-- A console that was just made shows its lines, and has them for itself if no other console of the world
goes beyond what there is. -/
theorem holds_next (lines : List Value) (hsole : (next w).Sole w) :
    ∃ w', World.newConsole lines w = .ok (next w).console w' ∧ (next w).Holds ⟨lines, 0, []⟩ w' := by
  have hmade := World.newConsole_apply lines w
  obtain ⟨w', hmade', hshows, -⟩ := shows_next lines w
  cases hmade.symm.trans hmade'
  refine ⟨_, hmade, hshows, fun address c haddress hc => ?_⟩
  rw [Array.getElem?_push] at hc
  exact hsole address c haddress ((if_neg haddress).symm.trans hc)

/-- What another console gives is its own. -/
theorem Sole.consoleAt (hsole : κ.Sole w) {address : Nat} (haddress : address ≠ κ.address) :
    (w.consoleAt address).pending ≠ .deque κ.pending := by
  cases hc : w.consoles[address]? with
  | none =>
    rw [World.consoleAt, hc]
    intro hsame
    cases hsame
  | some c =>
    rw [World.consoleAt, hc]
    exact hsole address c haddress hc

/-- If this console counts a read, the others are as they were. -/
theorem Sole.rearranged (hsole : κ.Sole w) (change : ScriptedConsole → ScriptedConsole)
    (changeRow : Deque → Deque) :
    κ.Sole (Command.rearranged w κ.address κ.pending change changeRow) := by
  intro address c haddress hc
  rw [Command.rearranged, Array.getElem?_modify, if_neg (Ne.symm haddress)] at hc
  exact hsole address c haddress hc

/-- If a console counts a read, none gets other lines by it. -/
theorem Sole.counted (hsole : κ.Sole w) (address : Nat) (reads : Value) :
    κ.Sole { w with consoles := w.consoles.modify address fun c => { c with reads } } := by
  intro other c hother hc
  rw [Array.getElem?_modify] at hc
  split at hc
  · obtain ⟨old, hold, rfl⟩ := Option.map_eq_some_iff.1 hc
    exact hsole other old hother hold
  · exact hsole other c hother hc

/-- **Operations do to the console what they do to its transcript.** -/
theorem Talked.goes (hw : κ.Talked w ops w') (ht : κ.Holds t w) :
    ∃ t', t.Goes ops t' ∧ κ.Holds t' w' := by
  induction hw generalizing t with
  | aside hw => exact ⟨t, .nil, hw.holds ht⟩
  | fed h lines hrun =>
    obtain ⟨changeRow, hfed, hshows⟩ := ht.shows.feed (h := h) lines
    cases hfed.symm.trans hrun
    exact ⟨_, .one (.fed t lines), hshows, ht.sole⟩
  | read h hrun =>
    obtain ⟨_ | ⟨first, rest⟩, reads, written⟩ := t
    · cases (ht.shows.missed (h := h)).symm.trans hrun
    · obtain ⟨change, changeRow, hread, hshows⟩ := ht.shows.read (h := h)
      cases hread.symm.trans hrun
      exact ⟨_, .one (.read _ rest reads written), hshows, ht.sole.rearranged change changeRow⟩
  | missed h hrun =>
    obtain ⟨_ | ⟨first, rest⟩, reads, written⟩ := t
    · cases (ht.shows.missed (h := h)).symm.trans hrun
      exact ⟨_, .one (.missed reads written), ht⟩
    · obtain ⟨change, changeRow, hread, -⟩ := ht.shows.read (h := h)
      cases hread.symm.trans hrun
  | wrote h text hrun =>
    obtain ⟨hwrite, hshows⟩ := ht.shows.write (h := h) text
    cases hwrite.symm.trans hrun
    exact ⟨_, .one (.wrote t text), hshows, ht.sole⟩
  | trans _ _ ih ih' =>
    obtain ⟨t₁, hops, ht₁⟩ := ih ht
    obtain ⟨t', hops', ht'⟩ := ih' ht₁
    exact ⟨t', hops.append hops', ht'⟩

/-- Nothing that is akin to the worlds matters. -/
theorem Talked.of_akin {u u' : World} (hops : κ.Talked u ops u') (hu : w.Akin u) (hu' : u'.Akin w') :
    κ.Talked w ops w' := by
  have hall := ((Talked.aside (.of_akin hu)).trans hops).trans (.aside (.of_akin hu'))
  rwa [List.nil_append, List.append_nil] at hall

/-! ### The habit -/

section habit

variable (κ) {α β : Type}

/-- **A computation that talks to the console** does nothing else to it. -/
def Talks (x : Eff α) : Prop :=
  ∀ (w : World) (t : Transcript), κ.Holds t w → ∃ ops, κ.Talked w ops (x.left w)

variable {κ}

/-- What leaves the console alone talks to it. -/
theorem Talks.of_aside {x : Eff α} (hx : ∀ w t, κ.Holds t w → κ.Aside w (x.left w)) : κ.Talks x :=
  fun w t ht => ⟨[], .aside (hx w t ht)⟩

theorem Talks.of_left {x : Eff α} (hx : ∀ w, x.left w = w) : κ.Talks x := by
  refine .of_aside fun w _ _ => ?_
  rw [hx w]
  exact .refl w

theorem Talks.bind {x : Eff α} {f : α → Eff β} (hx : κ.Talks x) (hf : ∀ a, κ.Talks (f a)) :
    κ.Talks (x >>= f) := by
  intro w t ht
  obtain ⟨ops, hops⟩ := hx w t ht
  cases hxw : x w with
  | ok a w₁ =>
    rw [Eff.left_of_ok hxw] at hops
    obtain ⟨t₁, -, ht₁⟩ := hops.goes ht
    obtain ⟨ops', hops'⟩ := hf a w₁ t₁ ht₁
    rw [Eff.left_bind_of_ok hxw]
    exact ⟨ops ++ ops', hops.trans hops'⟩
  | error signal w₁ =>
    rw [Eff.left_of_error hxw] at hops
    rw [Eff.left_of_error (Eff.bind_of_error hxw)]
    exact ⟨ops, hops⟩

variable (κ)

/-- **To talk to a console is a manner.** -/
def talkingManner : Eff.Manner where
  Obeys := κ.Talks
  pure _ := .of_left fun _ => rfl
  bind := .bind
  attempt {_ x} hx := by
    intro w t ht
    rw [Eff.Operates.left_attempt]
    exact hx w t ht
  raise _ := .of_left fun _ => rfl
  exhausted := .of_left fun _ => rfl
  get_bind _ hf := fun w => hf w w

variable {κ}

/-- **To put a value into a list** is to write it if the list is that of what is written, and else is no
matter to the console. -/
theorem talks_pushItem (results : Nat) (v : Value) : κ.Talks (World.pushItem results v) := by
  intro w t ht
  by_cases hown : results = κ.written
  · obtain ⟨hwrite, -⟩ := ht.shows.write (h := .spent) v
    subst hown
    exact ⟨[.wrote v], .wrote .spent v hwrite⟩
  · exact ⟨[], .aside ⟨rfl, rfl, Array.getElem?_modify.trans (if_neg hown), id⟩⟩

/-- Nor is it a row of lines that is not its own. -/
theorem talks_changeDeque {p : Nat} (hother : p ≠ κ.pending) (items : List Value) :
    κ.Talks (World.changeDeque p items) := by
  refine .of_aside fun w t ht => ⟨rfl, ?_, rfl, id⟩
  exact Array.getElem?_modify.trans (if_neg hother)

theorem ne_of_deque {row : Value} (hother : row ≠ .deque κ.pending) {p : Nat} (hp : row = .deque p) :
    p ≠ κ.pending := fun hsame => hother (hp.trans (congrArg Value.deque hsame))

theorem talks_takeFirst {h : Host} (hcall : ∀ v name args, κ.Talks (h.callMethod v name args))
    {row : Value} (hother : row ≠ .deque κ.pending) : κ.Talks (takeFirst h row) := by
  have htake : κ.talkingManner.Obeys (takeFirst h row) := by
    unfold takeFirst
    split
    · next p =>
      refine .get_bind (fun _ _ => rfl) fun w => ?_
      split
      · exact .complain _
      · exact .bind (talks_changeDeque (ne_of_deque hother rfl) _) fun _ => .pure _
    · exact hcall _ _ _
  exact htake

/-- **Reading off any console talks to this one,** by an operation on it or not at all. -/
theorem talks_readScripted {h : Host} (hcall : ∀ v name args, κ.Talks (h.callMethod v name args))
    (address : Nat) : κ.Talks (readScripted h address) := by
  intro w t ht
  by_cases haddress : address = κ.address
  · subst haddress
    obtain ⟨_ | ⟨first, rest⟩, reads, written⟩ := t
    · have hmissed := ht.shows.missed (h := h)
      rw [Eff.left_of_error hmissed]
      exact ⟨[.missed], .missed h hmissed⟩
    · obtain ⟨change, changeRow, hread, -⟩ := ht.shows.read (h := h)
      rw [Eff.left_of_ok hread]
      exact ⟨[.read first], .read h hread⟩
  · have hcount (reads : Value) : κ.Talks (World.modifyConsole address fun c => { c with reads }) := by
      refine .of_aside fun w t ht => ⟨?_, rfl, rfl, fun hsole => Sole.counted hsole address reads⟩
      exact Array.getElem?_modify.trans (if_neg haddress)
    have hother := ht.sole.consoleAt haddress
    have hread : κ.talkingManner.Obeys (do
        if !w.isTruthy (w.consoleAt address).pending then Eff.complain .noInput
        let reads ← Arithmetic.increase (w.consoleAt address).reads (.int 1)
        World.modifyConsole address fun c => { c with reads }
        takeFirst h (w.consoleAt address).pending) :=
      .ite (.complain_bind _) (.bind (Arithmetic.honours_increase _ _) fun reads =>
        .bind (hcount reads) fun _ => talks_takeFirst hcall hother)
    exact hread w t ht

/-- **Writing to any console talks to this one,** too. -/
theorem talks_writeScripted {h : Host} (hcall : ∀ v name args, κ.Talks (h.callMethod v name args))
    (address : Nat) (text : Value) : κ.Talks (writeScripted h address text) := by
  intro w t ht
  by_cases haddress : address = κ.address
  · subst haddress
    obtain ⟨hwrite, -⟩ := ht.shows.write (h := h) text
    rw [Eff.left_of_ok hwrite]
    exact ⟨[.wrote text], .wrote h text hwrite⟩
  · rw [writeScripted, Eff.left_congr Eff.bind_get]
    split
    · exact (talks_pushItem _ text).bind (fun _ => κ.talkingManner.pure _) w t ht
    · exact (hcall _ _ _).bind (fun _ => κ.talkingManner.pure _) w t ht

/-- **So does feeding any console.** -/
theorem talks_feed {h : Host} (hcall : ∀ v name args, κ.Talks (h.callMethod v name args))
    (address : Nat) (lines : List Value) : κ.Talks (feed h address lines) := by
  intro w t ht
  by_cases haddress : address = κ.address
  · subst haddress
    obtain ⟨changeRow, hfeed, -⟩ := ht.shows.feed (h := h) lines
    rw [Eff.left_of_ok hfeed]
    exact ⟨[.fed lines], .fed h lines hfeed⟩
  · have hother := ht.sole.consoleAt haddress
    rw [feed, Eff.left_congr Eff.bind_get]
    split
    · next p hp =>
      have hfeed : κ.talkingManner.Obeys (do
          if !lines.isEmpty then
            World.changeDeque p (((← get).dequeAt p).items ++ lines)
          return Value.none) := by
        refine .ite (.get_bind (fun _ _ => rfl) fun w => .bind ?_ fun _ => .pure _) (.pure _)
        exact talks_changeDeque (ne_of_deque hother hp) _
      exact hfeed w t ht
    · exact (hcall _ _ _).bind (fun _ => κ.talkingManner.pure _) w t ht

/-- Reading a line off the input of the session is no matter to the console. -/
theorem talks_readStandard : κ.Talks readStandard := by
  refine .of_aside fun w t ht => ?_
  unfold Eff.left readStandard
  rw [Eff.bind_get]
  rcases Lines.takeRaw w.ending w.input with ⟨raw, rest⟩
  simp only
  cases raw.isEmpty
  · exact ⟨rfl, rfl, rfl, id⟩
  · exact .refl w

/-- The list of what is written is not where a list is made. -/
theorem Holds.list_push (ht : κ.Holds t w) (items : Array Value) :
    (w.lists.push items)[κ.written]? = w.lists[κ.written]? := by
  have hlt : κ.written < w.lists.size := (Array.getElem?_eq_some_iff.1 ht.shows.list).1
  rw [Array.getElem?_push, if_neg (Nat.ne_of_lt hlt)]

variable (κ)

/-- **To talk to a console is a habit.**  What is made is made beside it. -/
def talking : Eff.Habit where
  toManner := κ.talkingManner
  newList _ := .of_aside fun _ _ ht => ⟨rfl, rfl, ht.list_push _, id⟩
  newListAddress := .of_aside fun _ _ ht => ⟨rfl, rfl, ht.list_push _, id⟩
  pushItem := talks_pushItem
  newGenerator _ := .of_aside fun _ _ _ => ⟨rfl, rfl, rfl, id⟩
  newCell _ := .of_aside fun _ _ _ => ⟨rfl, rfl, rfl, id⟩
  writeCell _ _ := .of_aside fun _ _ _ => ⟨rfl, rfl, rfl, id⟩
  print _ := .of_aside fun _ _ _ => ⟨rfl, rfl, rfl, id⟩
  readStandard := talks_readStandard
  readScripted _ address hcall := talks_readScripted hcall address
  writeScripted _ address text hcall := talks_writeScripted hcall address text

end habit

/-! ### What is seen of a queue -/

variable {u : World}

/-- The number of lines still to give is read off a console, whatever scripts have given to it. -/
theorem Shows.readAttribute_remaining (ht : κ.Shows t u) :
    Script.readAttribute κ.console "remaining" u = .ok (.int t.pending.length) u := by
  have hlength : u.length? (u.consoleAt κ.address).pending = .ok t.pending.length := by
    rw [ht.consoleAt, World.length?, ht.items_dequeAt]
  refine Eff.bind_get.trans (Eff.bind_get.trans ?_)
  rw [hlength]
  rfl

theorem Shows.ownFields_eq (ht : κ.Shows t u) : Script.ownFields u κ.console =
    [("_pending", .deque κ.pending), ("written", .list κ.written), ("reads", .int t.reads)] := by
  rw [Layout.console, Script.ownFields, ht.consoleAt]

/-- How many lines were read is read off it, unless scripts have given it another number. -/
theorem Shows.readAttribute_reads (ht : κ.Shows t u) (hgiven : u.given? κ.console "reads" = none) :
    Script.readAttribute κ.console "reads" u = .ok (.int t.reads) u := by
  have hfound : Script.field? u κ.console "reads" = some (.int t.reads) := by
    rw [Script.field?, hgiven, ht.ownFields_eq]
    rfl
  have hown : Script.ownAttribute? κ.console "reads" u = .ok (some (.int t.reads)) u := by
    refine Eff.bind_get.trans ?_
    rw [hfound]
    rfl
  exact Eff.bind_of_ok hown

/-- So is the list of what was written. -/
theorem Shows.readAttribute_written (ht : κ.Shows t u)
    (hgiven : u.given? κ.console "written" = none) :
    Script.readAttribute κ.console "written" u = .ok (.list κ.written) u := by
  have hfound : Script.field? u κ.console "written" = some (.list κ.written) := by
    rw [Script.field?, hgiven, ht.ownFields_eq]
    rfl
  have hown : Script.ownAttribute? κ.console "written" u = .ok (some (.list κ.written)) u := by
    refine Eff.bind_get.trans ?_
    rw [hfound]
    rfl
  exact Eff.bind_of_ok hown

/-- **A console as a queue,** given the lines that it was made with, what was done to it since, and the
lines that it has still to give. -/
structure QueueAt (κ : Layout) (lines : List Value) (ops : List ConsoleOp) (pending : List Value)
    (u : World) : Prop where
  /-- The lines that were read, and after them those still to give, are the lines that it was made with,
  and after them those that were fed. -/
  order : allRead ops ++ pending = lines ++ allFed ops
  remaining : Script.readAttribute κ.console "remaining" u = .ok (.int pending.length) u
  reads : u.given? κ.console "reads" = none →
    Script.readAttribute κ.console "reads" u = .ok (.int (allRead ops).length) u
  written : u.given? κ.console "written" = none →
    Script.readAttribute κ.console "written" u = .ok (.list κ.written) u
  texts : u.listItems κ.written = (allWritten ops).toArray
  /-- A read gives the first line still to give. -/
  gives (h : Host) (line : Value) :
    (∃ u', readScripted h κ.address u = .ok line u') ↔ ∃ rest, pending = line :: rest
  /-- A read fails if and only if there is no line, with the complaint that there is no input, and then
  it changes nothing. -/
  fails (h : Host) (signal : Signal) (u' : World) : readScripted h κ.address u = .error signal u' ↔
    pending = [] ∧ signal = .raised Complaint.noInput.fault ∧ u' = u
  /-- It has failed only where all lines had been read that there had been. -/
  failed (before after : List ConsoleOp) : ops = before ++ .missed :: after →
    allRead before = lines ++ allFed before
  feeds (h : Host) (more : List Value) : ∃ u', feed h κ.address more u = .ok .none u'
  writes (h : Host) (text : Value) : ∃ u', writeScripted h κ.address text u = .ok .none u'
  /-- The nodes that read off it and write to it call its methods, unless it was given others. -/
  readLine (h : Host) : u.given? κ.console "read_line" = none → Console.readLine h κ.console u =
    .ok (.ofNode (.delay (.method 0 κ.console .readScripted) (.str "ReadLine"))) u
  printLine (h : Host) (value : Value) (text : String) : u.given? κ.console "write_line" = none →
    u.str? value = .ok text → Console.printLine h κ.console value u = .ok (.ofNode (.delay
      (.preset 0 (.method 0 κ.console .writeScripted) [.str text] []) (.str "PrintLine"))) u

/-- **A console is a queue** wherever operations on it have led. -/
theorem Shows.queueAt {lines : List Value} (ht : κ.Shows t u)
    (hgoes : Transcript.Goes ⟨lines, 0, []⟩ ops t) : κ.QueueAt lines ops t.pending u := by
  obtain ⟨pending, reads, written⟩ := t
  obtain rfl : reads = (allRead ops).length := hgoes.reads_eq.trans (Int.zero_add _)
  obtain rfl : written = allWritten ops := hgoes.written_eq
  refine ⟨hgoes.order, ht.readAttribute_remaining, ht.readAttribute_reads, ht.readAttribute_written,
    ht.listItems, fun h line => ?_, fun h signal u' => ?_, ?_, fun h more => ?_,
    fun h text => ⟨_, (ht.write text).1⟩, fun h hreader => κ.readLine_apply hreader h,
    fun h value text hwriter htext => κ.printLine_apply hwriter h htext⟩
  · cases pending with
    | nil => simp [ht.missed (h := h)]
    | cons first rest =>
      obtain ⟨change, changeRow, hread, -⟩ := ht.read (h := h)
      simp [hread]
  · cases pending with
    | nil => simp [ht.missed (h := h), eq_comm]
    | cons first rest =>
      obtain ⟨change, changeRow, hread, -⟩ := ht.read (h := h)
      simp [hread]
  · rintro before after rfl
    exact hgoes.of_missed
  · obtain ⟨changeRow, hfeed, -⟩ := ht.feed (h := h) more
    exact ⟨_, hfeed⟩

end Console.Layout
end EffectGraph
