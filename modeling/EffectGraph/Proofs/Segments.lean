import EffectGraph.Proofs.Cells
import Mathlib.Logic.Function.Iterate

/-!
# A text, line by line

A stream console reads raw lines and takes one terminator off each, without knowing what ends a line of
its stream.  A piece of a text is a line with what ended it; `Segmented` says what the pieces of a text
are.  The first raw line of a text is a piece of it (`Lines.exists_piece`), and the console gives the line
of this piece.  So what it gives until it complains are the lines of the pieces of the text, and it
complains for ever after (`Supplies.reads_pieces`).

The stream is any object whose `readline` cuts the first raw line off the text that is left
(`Supplies`), the input of the session among them (`supplies_session`).
-/

namespace EffectGraph
namespace Lines

/-- What ends a line: a line feed, a carriage return and a line feed, a carriage return alone, or nothing
but the end of the text. -/
inductive Terminator where
  | feed
  | both
  | alone
  | missing
  deriving DecidableEq, Repr

namespace Terminator

def text : Terminator → List Char
  | feed => ['\n']
  | both => ['\r', '\n']
  | alone => ['\r']
  | missing => []

/-- May this end a line that is followed by another one? -/
def Inner (ending : LineEnding) : Terminator → Prop
  | feed | both => True
  | alone => ending = .any
  | missing => False

end Terminator

/-- A line of a text and what ends it. -/
structure Piece where
  line : List Char
  terminator : Terminator
  deriving DecidableEq, Repr

/-- What a piece takes up in the text. -/
def Piece.text (p : Piece) : List Char := p.line ++ p.terminator.text

/-- **Nothing in a line would end it.** -/
structure Unended (ending : LineEnding) (line : List Char) : Prop where
  feed : '\n' ∉ line
  carriage : ending = .any → '\r' ∉ line

/-- **A carriage return at the end of a line is part of what ends it.** -/
def Piece.Stripped (p : Piece) : Prop :=
  p.terminator = .feed ∨ p.terminator = .missing → p.line.getLast? ≠ some '\r'

/-- **The pieces of a text.**  They make up the whole of it; each has a line or a terminator, and every one
that is not the last ends as a line of this stream does. -/
structure Segmented (ending : LineEnding) (text : List Char) (pieces : List Piece) : Prop where
  whole : pieces.flatMap Piece.text = text
  some : ∀ p ∈ pieces, p.text ≠ []
  unended : ∀ p ∈ pieces, Unended ending p.line
  stripped : ∀ p ∈ pieces, p.Stripped
  inner : ∀ p ∈ pieces.dropLast, p.terminator.Inner ending

variable {ending : LineEnding} {acc text rest : List Char} {c : Char}

theorem Unended.nil : Unended ending [] := ⟨List.not_mem_nil, fun _ => List.not_mem_nil⟩

theorem Unended.reverse (h : Unended ending acc) : Unended ending acc.reverse where
  feed := fun hc => h.feed (List.mem_reverse.mp hc)
  carriage := fun hending hc => h.carriage hending (List.mem_reverse.mp hc)

theorem Unended.cons (h : Unended ending acc) (hfeed : c ≠ '\n')
    (hcarriage : ending = .any → c ≠ '\r') : Unended ending (c :: acc) where
  feed := List.not_mem_cons_of_ne_of_not_mem hfeed.symm h.feed
  carriage := fun hending =>
    List.not_mem_cons_of_ne_of_not_mem (hcarriage hending).symm (h.carriage hending)

theorem Unended.tail (h : Unended ending (c :: acc)) : Unended ending acc where
  feed := List.not_mem_of_not_mem_cons h.feed
  carriage := fun hending => List.not_mem_of_not_mem_cons (h.carriage hending)

/-! ### The first piece -/

/-- A terminator is taken off a line, unless a carriage return would go with it.  The line is that of the
characters read so far, last first. -/
theorem stripTerminator_append (terminator : Terminator) (hfeed : '\n' ∉ acc)
    (hcarriage : terminator = .feed ∨ terminator = .missing → acc.head? ≠ some '\r') :
    stripTerminator (acc.reverse ++ terminator.text) = acc.reverse := by
  unfold stripTerminator
  rw [List.reverse_append, List.reverse_reverse]
  cases terminator with
  | feed =>
    cases acc with
    | nil => rfl
    | cons c acc =>
      have hc : c ≠ '\r' := fun h => hcarriage (.inl rfl) (congrArg some h)
      simp [Terminator.text, hc]
  | both => rfl
  | alone => rfl
  | missing =>
    cases acc with
    | nil => rfl
    | cons c acc =>
      have hc : c ≠ '\r' := fun h => hcarriage (.inr rfl) (congrArg some h)
      have hc' : c ≠ '\n' := fun h => hfeed (h ▸ List.mem_cons_self)
      simp [Terminator.text, hc, hc']

/-- **A piece is cut off a text:** it comes first, its line is what is left of it without a terminator, and
if more follows it ends as a line of the stream does. -/
structure CutsOff (ending : LineEnding) (text : List Char) (p : Piece) (rest : List Char) : Prop where
  whole : p.text ++ rest = text
  strip : stripTerminator p.text = p.line
  some : p.text ≠ []
  unended : Unended ending p.line
  stripped : p.Stripped
  inner : rest ≠ [] → p.terminator.Inner ending

/-- The characters read so far, with a terminator, are cut off. -/
theorem cutsOff_reverse (terminator : Terminator) (rest : List Char) (hacc : Unended ending acc)
    (hcarriage : terminator = .feed ∨ terminator = .missing → acc.head? ≠ some '\r')
    (hsome : acc ≠ [] ∨ terminator.text ≠ []) (hinner : rest ≠ [] → terminator.Inner ending) :
    CutsOff ending (acc.reverse ++ (terminator.text ++ rest)) ⟨acc.reverse, terminator⟩ rest where
  whole := List.append_assoc _ _ _
  strip := stripTerminator_append terminator hacc.feed hcarriage
  some := by
    intro hnone
    obtain ⟨hacc', hterminator⟩ := List.append_eq_nil_iff.mp hnone
    exact hsome.elim (fun h => h (List.reverse_eq_nil_iff.mp hacc')) fun h => h hterminator
  unended := hacc.reverse
  stripped := fun h => by
    rw [List.getLast?_reverse]
    exact hcarriage h
  inner := hinner

/-- **The first piece of a text** is its first raw line.  The induction is on what is read; nothing read so
far has ended the line. -/
theorem exists_piece_onto (hacc : Unended ending acc) (hsome : acc ≠ [] ∨ text ≠ []) :
    ∃ p rest, takeRawOnto ending acc text = (p.text, rest) ∧
      CutsOff ending (acc.reverse ++ text) p rest := by
  fun_induction takeRawOnto ending acc text with
  | case1 acc =>
    -- The text has ended, perhaps after a carriage return.
    have hacc' : acc ≠ [] := hsome.resolve_right (absurd rfl)
    by_cases hlast : acc.head? = some '\r'
    · obtain ⟨line, rfl⟩ := List.head?_eq_some_iff.mp hlast
      refine ⟨⟨line.reverse, .alone⟩, [], by simp [Piece.text, Terminator.text], ?_⟩
      have hcut := cutsOff_reverse .alone [] hacc.tail (by simp) (.inr (by simp [Terminator.text]))
        (absurd rfl)
      simpa [Terminator.text] using hcut
    · refine ⟨⟨acc.reverse, .missing⟩, [], by simp [Piece.text, Terminator.text], ?_⟩
      exact cutsOff_reverse .missing [] hacc (fun _ => hlast) (.inl hacc') (absurd rfl)
  | case2 acc rest =>
    by_cases hlast : acc.head? = some '\r'
    · obtain ⟨line, rfl⟩ := List.head?_eq_some_iff.mp hlast
      refine ⟨⟨line.reverse, .both⟩, rest, by simp [Piece.text, Terminator.text], ?_⟩
      have hcut := cutsOff_reverse .both rest hacc.tail (by simp) (.inr (by simp [Terminator.text]))
        fun _ => trivial
      simpa [Terminator.text] using hcut
    · refine ⟨⟨acc.reverse, .feed⟩, rest, by simp [Piece.text, Terminator.text], ?_⟩
      exact cutsOff_reverse .feed rest hacc (fun _ => hlast) (.inr (by simp [Terminator.text]))
        fun _ => trivial
  | case3 acc rest =>
    refine ⟨⟨acc.reverse, .both⟩, rest, by simp [Piece.text, Terminator.text], ?_⟩
    exact cutsOff_reverse .both rest hacc (by simp) (.inr (by simp [Terminator.text])) fun _ => trivial
  | case4 acc rest hending =>
    refine ⟨⟨acc.reverse, .alone⟩, rest, by simp [Piece.text, Terminator.text], ?_⟩
    exact cutsOff_reverse .alone rest hacc (by simp) (.inr (by simp [Terminator.text])) fun _ => hending
  | case5 acc rest hending ih =>
    have hacc' : Unended ending ('\r' :: acc) :=
      hacc.cons (by decide) fun hany => by rw [hending] at hany; cases hany
    simpa [hending] using ih hacc' (.inl (List.cons_ne_nil _ _))
  | case6 acc c rest hfeed hcarriage ih =>
    have hacc' : Unended ending (c :: acc) := hacc.cons hfeed fun _ => hcarriage
    simpa using ih hacc' (.inl (List.cons_ne_nil _ _))

/-- **The first raw line of a text is its first piece.** -/
theorem exists_piece (ending : LineEnding) (hsome : text ≠ []) :
    ∃ p rest, takeRaw ending text = (p.text, rest) ∧ CutsOff ending text p rest :=
  exists_piece_onto Unended.nil (.inr hsome)

/-- There are no pieces of an empty text only. -/
theorem Segmented.eq_nil_iff {pieces : List Piece} (hpieces : Segmented ending text pieces) :
    pieces = [] ↔ text = [] := by
  constructor
  · rintro rfl
    exact hpieces.whole.symm
  · intro htext
    have hwhole := hpieces.whole
    rw [htext, List.flatMap_eq_nil_iff] at hwhole
    refine List.eq_nil_iff_forall_not_mem.mpr fun p hp => hpieces.some p hp (hwhole p hp)

theorem segmented_nil : Segmented ending [] [] :=
  ⟨rfl, List.forall_mem_nil _, List.forall_mem_nil _, List.forall_mem_nil _, List.forall_mem_nil _⟩

/-- **A piece that is cut off comes before the pieces of the rest.** -/
theorem CutsOff.segmented {p : Piece} {pieces : List Piece} (hp : CutsOff ending text p rest)
    (hrest : Segmented ending rest pieces) : Segmented ending text (p :: pieces) where
  whole := by rw [List.flatMap_cons, hrest.whole, hp.whole]
  some := List.forall_mem_cons.mpr ⟨hp.some, hrest.some⟩
  unended := List.forall_mem_cons.mpr ⟨hp.unended, hrest.unended⟩
  stripped := List.forall_mem_cons.mpr ⟨hp.stripped, hrest.stripped⟩
  inner := by
    cases pieces with
    | nil => exact List.forall_mem_nil _
    | cons q pieces =>
      have hsome : rest ≠ [] := fun h => List.cons_ne_nil _ _ (hrest.eq_nil_iff.mpr h)
      rw [List.dropLast_cons_cons]
      exact List.forall_mem_cons.mpr ⟨hp.inner hsome, hrest.inner⟩

end Lines

namespace Console

open Lines

/-! ### Reading until the input is at its end -/

/-- Reads the next raw line of a stream; none stands for that of the session. -/
def readRaw (h : Host) : Value → Eff Value
  | .none => do
    let w ← get
    let (raw, rest) := takeRaw w.ending w.input
    set { w with input := rest }
    return .str (String.ofList raw)
  | stream => h.callMethod stream "readline" []

/-- What a console makes of a raw line. -/
def lineOfRaw (h : Host) : Value → Eff Value
  | .str "" => Eff.complain .noInput
  | line => stripTerminator h line

/-- **A text lies before a console:** the stream that it reads from gives the first raw line of the text
that is left, and leaves the rest.  `Left text w` says that this text is left in this world. -/
structure Supplies (h : Host) (console input : Value) (ending : LineEnding)
    (Left : List Char → World → Prop) : Prop where
  readRaw {text w} (hleft : Left text w) : ∃ w',
    readRaw h ((w.given? console "_stdin").getD input) w =
      .ok (.str (String.ofList (takeRaw ending text).1)) w' ∧ Left (takeRaw ending text).2 w'

/-- **A console is read until it complains that there is no more input.** -/
inductive ReadsOut (read : Eff Value) : World → List String → World → Prop where
  | ended {w w'} (hread : read w = .error (.raised Complaint.noInput.fault) w') : ReadsOut read w [] w'
  | line {w w' w'' line lines} (hread : read w = .ok (.str line) w')
      (hrest : ReadsOut read w' lines w'') : ReadsOut read w (line :: lines) w''

variable {h : Host} {console input : Value} {ending : LineEnding} {Left : List Char → World → Prop}
  {text raw : List Char} {w : World}

/-- A raw line with something in it loses its terminator. -/
theorem lineOfRaw_of_ne_nil (hraw : raw ≠ []) :
    lineOfRaw h (.str (String.ofList raw)) = pure (.str (String.ofList (Lines.stripTerminator raw))) := by
  unfold lineOfRaw
  split
  · next hnone => exact absurd (by simpa using hnone) hraw
  · simp [stripTerminator]

/-- **A line that is read is a raw line without its terminator,** and an empty raw line is none. -/
theorem readLineFrom_eq (h : Host) (stream : Value) :
    readLineFrom h stream = readRaw h stream >>= lineOfRaw h := by
  cases stream with
  | none =>
    funext w
    have hraw : readRaw h .none w = .ok (.str (String.ofList (takeRaw w.ending w.input).1))
      { w with input := (takeRaw w.ending w.input).2 } := rfl
    refine Eff.bind_get.trans ((Eff.bind_of_ok hraw).trans ?_).symm
    by_cases hinput : w.input = []
    · have hsame : { w with input := [] } = w := by rw [← hinput]
      rw [hinput]
      exact congrArg (EStateM.Result.error (Signal.raised Complaint.noInput.fault)) hsame
    · obtain ⟨p, rest, htake, hp⟩ := exists_piece w.ending hinput
      rw [htake, lineOfRaw_of_ne_nil hp.some]
      dsimp only
      rw [List.isEmpty_eq_false_iff.mpr hp.some]
      rfl
  | _ => rfl

/-- At the end of its text a console complains, and stays at the end. -/
theorem Supplies.exists_read_nil (hsupplies : Supplies h console input ending Left) (hleft : Left [] w) :
    ∃ w', readStream h console input w = .error (.raised Complaint.noInput.fault) w' ∧ Left [] w' := by
  obtain ⟨w', hread, hleft'⟩ := hsupplies.readRaw hleft
  refine ⟨w', ?_, hleft'⟩
  refine Eff.bind_get.trans ?_
  rw [readLineFrom_eq]
  exact Eff.bind_of_ok hread

/-- **A console gives the line of the first piece of the text that is left.** -/
theorem Supplies.exists_read (hsupplies : Supplies h console input ending Left) (hleft : Left text w)
    (hsome : text ≠ []) :
    ∃ p rest w', takeRaw ending text = (p.text, rest) ∧ CutsOff ending text p rest ∧
      readStream h console input w = .ok (.str (String.ofList p.line)) w' ∧ Left rest w' := by
  obtain ⟨p, rest, htake, hp⟩ := exists_piece ending hsome
  obtain ⟨w', hread, hleft'⟩ := hsupplies.readRaw hleft
  rw [htake] at hread hleft'
  refine ⟨p, rest, w', htake, hp, ?_, hleft'⟩
  refine Eff.bind_get.trans ?_
  rw [readLineFrom_eq]
  refine (Eff.bind_of_ok hread).trans ?_
  rw [lineOfRaw_of_ne_nil hp.some, hp.strip]
  rfl

/-- **The whole of a text is read,** line by line.  The induction is on the length of what is left. -/
theorem Supplies.exists_readsOut (hsupplies : Supplies h console input ending Left) (text : List Char)
    {w : World} (hleft : Left text w) :
    ∃ pieces w', ReadsOut (readStream h console input) w (pieces.map fun p => String.ofList p.line) w' ∧
      Segmented ending text pieces ∧ Left [] w' := by
  by_cases hsome : text = []
  · subst hsome
    obtain ⟨w', hread, hleft'⟩ := hsupplies.exists_read_nil hleft
    exact ⟨[], w', .ended hread, segmented_nil, hleft'⟩
  · obtain ⟨p, rest, w', -, hp, hread, hleft'⟩ := hsupplies.exists_read hleft hsome
    have hshorter : rest.length < text.length := by
      have hlength := congrArg List.length hp.whole
      have hpositive := List.length_pos_iff.mpr hp.some
      rw [List.length_append] at hlength
      omega
    obtain ⟨pieces, w'', hreads, hpieces, hend⟩ := hsupplies.exists_readsOut rest hleft'
    exact ⟨p :: pieces, w'', .line hread hreads, hp.segmented hpieces, hend⟩
termination_by text.length

/-- At the end of its text a console stays there, however often it is read. -/
theorem Supplies.left_iterate (hsupplies : Supplies h console input ending Left) (hleft : Left [] w)
    (n : Nat) : Left [] ((readStream h console input).left^[n] w) := by
  induction n with
  | zero => exact hleft
  | succ n ih =>
    obtain ⟨w', hread, hleft'⟩ := hsupplies.exists_read_nil ih
    rw [Function.iterate_succ_apply', Eff.left_of_error hread]
    exact hleft'

/-- **A console segments its text without loss.**  Whatever text lies before it, and whatever ends a raw
line of its stream, reading comes to an end and gives the lines of the pieces of the text; there are none
exactly if the text is empty.  From then on every attempt to read fails in the same way.  A read before
that gives a line, which is empty if the raw line is a terminator and nothing else. -/
theorem Supplies.reads_pieces (hsupplies : Supplies h console input ending Left) (hleft : Left text w) :
    (∃ pieces w', ReadsOut (readStream h console input) w
        (pieces.map fun p => String.ofList p.line) w' ∧
      Segmented ending text pieces ∧ (pieces = [] ↔ text = []) ∧
      ∀ n, ∃ w'', readStream h console input ((readStream h console input).left^[n] w') =
        .error (.raised Complaint.noInput.fault) w'') ∧
    ∀ terminator : Terminator, terminator ≠ .missing → (takeRaw ending text).1 = terminator.text →
      ∃ w', readStream h console input w = .ok (.str "") w' ∧ Left (takeRaw ending text).2 w' := by
  constructor
  · obtain ⟨pieces, w', hreads, hpieces, hend⟩ := hsupplies.exists_readsOut text hleft
    refine ⟨pieces, w', hreads, hpieces, hpieces.eq_nil_iff, fun n => ?_⟩
    obtain ⟨w'', hread, -⟩ := hsupplies.exists_read_nil (hsupplies.left_iterate hend n)
    exact ⟨w'', hread⟩
  · intro terminator hterminator hraw
    have hsome : text ≠ [] := by
      rintro rfl
      cases terminator <;> first | exact hterminator rfl | cases hraw
    obtain ⟨p, rest, w', htake, hp, hread, hleft'⟩ := hsupplies.exists_read hleft hsome
    have htext : p.text = terminator.text := by rw [← hraw, htake]
    have hblank : p.line = [] := by
      rw [← hp.strip, htext]
      exact stripTerminator_append terminator List.not_mem_nil fun _ => nofun
    rw [hblank] at hread
    rw [htake]
    exact ⟨w', hread, hleft'⟩

/-- The input of the session lies before a console that nobody has given a stream. -/
theorem supplies_session (h : Host) (console : Value) (ending : LineEnding) :
    Supplies h console .none ending fun text w =>
      w.given? console "_stdin" = none ∧ w.ending = ending ∧ w.input = text where
  readRaw {text w} hleft := by
    obtain ⟨hown, rfl, rfl⟩ := hleft
    rw [hown]
    exact ⟨_, rfl, hown, rfl, rfl⟩

/-- Blank lines, carriage returns on their own and at the end: the text is read as the theorem says. -/
theorem reads_pieces_session :
    let text := ['a', '\r', '\n', '\n', '\r', 'b', '\r']
    let w := Script.SessionInput.world ⟨[], String.ofList text, .feed, [], true⟩
    let read := readStream .spent (.stream 0 .none .none) .none
    ∃ pieces w', ReadsOut read w (pieces.map fun p => String.ofList p.line) w' ∧
      Segmented .feed text pieces ∧ ∀ n, ∃ w'',
        read (read.left^[n] w') = .error (.raised Complaint.noInput.fault) w'' := by
  intro text w read
  obtain ⟨⟨pieces, w', hreads, hpieces, -, hover⟩, -⟩ :=
    @Supplies.reads_pieces .spent _ _ .feed _ text w (supplies_session .spent (.stream 0 .none .none) .feed)
      ⟨rfl, rfl, String.toList_ofList⟩
  exact ⟨pieces, w', hreads, hpieces, hover⟩

end Console
end EffectGraph
