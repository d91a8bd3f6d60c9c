import EffectGraph.Proofs.Segments

/-!
# Lines that are written and read again

A stream console ends each line that it writes with a line feed (`Lines.written`).  A console that reads
the text afterwards finds the same lines only if nothing in them ends a line before that, and if no
carriage return is the last character of one, since it would be taken for a part of the terminator
(`Lines.Clean`).  Otherwise what is read is another list, whatever the lines around are
(`Supplies.reads_back_iff`).

The streams are any objects: `Accepts` says of the one that what is written to it is added to its text,
and `Supplies` says of the other that raw lines are cut off the text that is left.
-/

namespace EffectGraph
namespace Lines

/-- **The text of some lines,** each with a line feed at its end. -/
def written (lines : List (List Char)) : List Char := lines.flatMap (· ++ ['\n'])

/-- **A line that is read as it was written:** there is no line feed in it, and no carriage return at its
end, or none at all where carriage returns end lines as well. -/
def Clean : LineEnding → List Char → Prop
  | .feed, line => '\n' ∉ line ∧ line.getLast? ≠ some '\r'
  | .any, line => '\n' ∉ line ∧ '\r' ∉ line

instance : (ending : LineEnding) → (line : List Char) → Decidable (Clean ending line)
  | .feed, _ => inferInstanceAs (Decidable (_ ∧ _))
  | .any, _ => inferInstanceAs (Decidable (_ ∧ _))

variable {ending : LineEnding} {line rest acc : List Char}

theorem clean_nil (ending : LineEnding) : Clean ending [] := by cases ending <;> decide

/-- A line is clean if nothing in it would end it and it does not end with a carriage return. -/
theorem clean_iff_unended : Clean ending line ↔ Unended ending line ∧ line.getLast? ≠ some '\r' := by
  cases ending with
  | feed => exact ⟨fun ⟨hfeed, hlast⟩ => ⟨⟨hfeed, nofun⟩, hlast⟩, fun ⟨hline, hlast⟩ => ⟨hline.feed, hlast⟩⟩
  | any =>
    refine ⟨fun ⟨hfeed, hcarriage⟩ => ⟨⟨hfeed, fun _ => hcarriage⟩, fun hlast => ?_⟩,
      fun ⟨hline, _⟩ => ⟨hline.feed, hline.carriage rfl⟩⟩
    exact hcarriage (List.mem_of_getLast? hlast)

/-- A raw line goes as far as to the first line feed if nothing before that ends it. -/
theorem takeRawOnto_written (hline : Unended ending line) (acc rest : List Char) :
    takeRawOnto ending acc (line ++ '\n' :: rest) = (acc.reverse ++ (line ++ ['\n']), rest) := by
  induction line generalizing acc with
  | nil => simp [takeRawOnto]
  | cons c line ih =>
    have hrest := ih hline.tail (c :: acc)
    have hfeed : c ≠ '\n' := fun h => hline.feed (h ▸ List.mem_cons_self)
    rw [List.reverse_cons, List.append_assoc, List.singleton_append] at hrest
    by_cases hc : c = '\r'
    · have hending : ending = .feed := by
        cases ending with
        | feed => rfl
        | any => exact absurd (hc ▸ List.mem_cons_self) (hline.carriage rfl)
      subst hending hc
      rw [List.cons_append, takeRawOnto]
      exact hrest
    · rw [List.cons_append, takeRawOnto]
      · exact hrest
      · exact hfeed
      · exact hc

theorem takeRaw_written (hline : Unended ending line) (rest : List Char) :
    takeRaw ending (line ++ '\n' :: rest) = (line ++ ['\n'], rest) :=
  takeRawOnto_written hline [] rest

/-- **A line is read as it was written** exactly if it does not end with a carriage return. -/
theorem stripTerminator_written_iff (hfeed : '\n' ∉ line) :
    stripTerminator (line ++ ['\n']) = line ↔ line.getLast? ≠ some '\r' := by
  constructor
  · intro hsame hlast
    obtain ⟨front, rfl⟩ := List.getLast?_eq_some_iff.mp hlast
    have hlength := congrArg List.length hsame
    simp [stripTerminator] at hlength
  · intro hlast
    have hfeed' : '\n' ∉ line.reverse := by simpa using hfeed
    have hstrip := stripTerminator_append .feed hfeed' fun _ => by rwa [List.head?_reverse]
    rwa [List.reverse_reverse] at hstrip

end Lines

namespace Console

open Lines

/-- The text that is written for some lines. -/
def writtenText (lines : List String) : List Char := written (lines.map String.toList)

/-! ### Writing -/

/-- Writes a text to a stream; none stands for that of the session. -/
def writeText (h : Host) (output : Value) (text : String) : Eff Value := do
  match output with
  | .none =>
    World.print text
    return .none
  | output =>
    let write ← h.read output "write"
    let _ ← h.call write [.str text] []
    let _ ← h.callMethod output "flush" []
    return .none

/-- **A console whose output is kept:** what is written to its stream is added to the text that has been
written so far.  `Got text w` says that this text has been written in this world. -/
structure Accepts (h : Host) (console output : Value) (Got : List Char → World → Prop) : Prop where
  writeText {text w} (hgot : Got text w) (more : String) : ∃ w',
    writeText h ((w.given? console "_stdout").getD output) more w = .ok .none w' ∧
      Got (text ++ more.toList) w'

/-- **Lines are written to a console,** one after the other. -/
inductive WritesOut (write : Value → Eff Value) : World → List String → World → Prop where
  | ended {w} : WritesOut write w [] w
  | line {w w' w'' line lines} (hwrite : write (.str line) w = .ok .none w')
      (hrest : WritesOut write w' lines w'') : WritesOut write w (line :: lines) w''

section writing

variable {h : Host} {console output : Value} {Got : List Char → World → Prop} {text : List Char} {w : World}

/-- A line is written with a line feed after it. -/
theorem writeLineTo_str (h : Host) (output : Value) (line : String) :
    writeLineTo h output (.str line) = writeText h output (line ++ "\n") := by
  cases output <;> rfl

/-- **All lines are written,** each with a line feed. -/
theorem Accepts.exists_writesOut (haccepts : Accepts h console output Got) (lines : List String)
    (hgot : Got text w) :
    ∃ w', WritesOut (writeStream h console output) w lines w' ∧ Got (text ++ writtenText lines) w' := by
  induction lines generalizing text w with
  | nil => exact ⟨w, .ended, by simpa [writtenText, written] using hgot⟩
  | cons line lines ih =>
    obtain ⟨w', hwrite, hgot'⟩ := haccepts.writeText hgot (line ++ "\n")
    obtain ⟨w'', hrest, hgot''⟩ := ih hgot'
    refine ⟨w'', .line ?_ hrest, ?_⟩
    · refine Eff.bind_get.trans ?_
      rw [writeLineTo_str]
      exact hwrite
    · have hall : text ++ (line ++ "\n").toList ++ writtenText lines =
          text ++ writtenText (line :: lines) := by simp [writtenText, written]
      rw [← hall]
      exact hgot''

end writing

/-! ### Reading again -/

section reading

variable {h : Host} {console input : Value} {ending : LineEnding} {Left : List Char → World → Prop}
  {read : Eff Value} {w u : World}

/-- There is only one answer to what a console gives until it complains. -/
theorem ReadsOut.unique {lines lines' : List String} {w' w'' : World} (hlines : ReadsOut read w lines w')
    (hlines' : ReadsOut read w lines' w'') : lines' = lines := by
  induction hlines generalizing lines' with
  | ended hread =>
    cases hlines' with
    | ended => rfl
    | line hread' =>
      rw [hread] at hread'
      cases hread'
  | line hread _ ih =>
    cases hlines' with
    | ended hread' =>
      rw [hread] at hread'
      cases hread'
    | line hread' hrest' =>
      rw [hread] at hread'
      cases hread'
      rw [ih hrest']

/-- Lines that nothing in them ends are read again, but for a carriage return at the end of each. -/
theorem Supplies.exists_readsOut_written (hsupplies : Supplies h console input ending Left)
    (lines : List (List Char)) (hlines : ∀ line ∈ lines, Unended ending line)
    (hleft : Left (written lines) u) :
    ∃ u', ReadsOut (readStream h console input) u
      (lines.map fun line => String.ofList (Lines.stripTerminator (line ++ ['\n']))) u' := by
  induction lines generalizing u with
  | nil =>
    obtain ⟨u', hread, -⟩ := hsupplies.exists_read_nil hleft
    exact ⟨u', .ended hread⟩
  | cons line lines ih =>
    obtain ⟨hline, hlines⟩ := List.forall_mem_cons.mp hlines
    have htext : written (line :: lines) = line ++ '\n' :: written lines := by simp [written]
    rw [htext] at hleft
    obtain ⟨p, rest, u₁, htake, hp, hread, hleft'⟩ := hsupplies.exists_read hleft (by simp)
    rw [takeRaw_written hline] at htake
    obtain ⟨hraw, rfl⟩ := Prod.mk.inj htake
    obtain ⟨u', hrest⟩ := ih hlines hleft'
    refine ⟨u', .line ?_ hrest⟩
    rw [hread, ← hp.strip, ← hraw]

/-- What comes back for a line in which nothing ends it. -/
def comesBack (line : String) : String :=
  String.ofList (Lines.stripTerminator (line.toList ++ ['\n']))

/-- A line in which nothing ends it comes back as it was written exactly if it is clean. -/
theorem comesBack_eq_iff {line : String} (hline : Unended ending line.toList) :
    comesBack line = line ↔ Clean ending line.toList := by
  rw [clean_iff_unended, ← stripTerminator_written_iff hline.feed, ← String.toList_inj, comesBack,
    String.toList_ofList]
  exact ⟨fun hsame => ⟨hline, hsame⟩, And.right⟩

/-- **Lines come back as they were written** exactly if all of them are clean.  What is read has no
terminator in it, so neither have the lines if they are what is read; and then each comes back on its
own. -/
theorem Supplies.reads_back_iff (hsupplies : Supplies h console input ending Left) (lines : List String)
    (hleft : Left (writtenText lines) u) :
    (∃ u', ReadsOut (readStream h console input) u lines u') ↔
      ∀ line ∈ lines, Clean ending line.toList := by
  have hback (hunended : ∀ line ∈ lines, Unended ending line.toList) :
      ∃ u', ReadsOut (readStream h console input) u (lines.map comesBack) u' := by
    have hreads := hsupplies.exists_readsOut_written (lines.map String.toList)
      (List.forall_mem_map.mpr hunended) hleft
    rwa [List.map_map] at hreads
  have hall : lines.map comesBack = lines ↔ ∀ line ∈ lines, comesBack line = line := by
    simpa using List.map_inj_left (l := lines) (f := comesBack) (g := id)
  constructor
  · rintro ⟨u', hreads⟩
    have hunended : ∀ line ∈ lines, Unended ending line.toList := by
      obtain ⟨pieces, u'', hpieces, hsegmented, -⟩ := hsupplies.exists_readsOut _ hleft
      rw [hpieces.unique hreads]
      refine List.forall_mem_map.mpr fun p hp => ?_
      rw [String.toList_ofList]
      exact hsegmented.unended p hp
    obtain ⟨u'', hagain⟩ := hback hunended
    have hsame := hall.mp (hagain.unique hreads).symm
    exact fun line hline => (comesBack_eq_iff (hunended line hline)).mp (hsame line hline)
  · intro hclean
    have hunended (line : String) (hline : line ∈ lines) : Unended ending line.toList :=
      (clean_iff_unended.mp (hclean line hline)).1
    obtain ⟨u', hreads⟩ := hback hunended
    have hsame := hall.mpr fun line hline =>
      (comesBack_eq_iff (hunended line hline)).mpr (hclean line hline)
    rw [hsame] at hreads
    exact ⟨u', hreads⟩

end reading

/-! ### The main result -/

/-- The output of the session keeps what a console prints that nobody has given a stream. -/
theorem accepts_session (h : Host) (console : Value) :
    Accepts h console .none fun text w =>
      w.given? console "_stdout" = none ∧ w.output.toList = text where
  writeText {text w} hgot more := by
    obtain ⟨hown, rfl⟩ := hgot
    rw [hown]
    exact ⟨_, rfl, hown, String.toList_append⟩

/-- **Writing and reading are inverse on clean lines, and on no others.**  Whatever the lines are, all of
them can be written, and the text of the stream is then each of them with a line feed.  A console before
which this text lies gives these lines, and then complains that there is no more input, exactly if each
of them is clean, as an empty line always is. -/
theorem writes_reads_iff_clean {h h' : Host} {console console' output input : Value} {ending : LineEnding}
    {Got Left : List Char → World → Prop} (haccepts : Accepts h console output Got)
    (hsupplies : Supplies h' console' input ending Left) (lines : List String) {w : World}
    (hgot : Got [] w) :
    (∃ w', WritesOut (writeStream h console output) w lines w' ∧ Got (writtenText lines) w') ∧
      (∀ u, Left (writtenText lines) u →
        ((∃ u', ReadsOut (readStream h' console' input) u lines u') ↔
          ∀ line ∈ lines, Clean ending line.toList)) ∧
      Clean ending "".toList :=
  ⟨haccepts.exists_writesOut lines hgot, fun _ hleft => hsupplies.reads_back_iff lines hleft,
    clean_nil ending⟩

/-- A blank line and a carriage return inside a line come back where only line feeds end lines; a
carriage return at the end of a line does not. -/
theorem writes_reads_iff_clean_session :
    let w := Script.SessionInput.world ⟨[], "", .feed, [], true⟩
    let console : Value := .stream 0 .none .none
    (∃ w', WritesOut (writeStream .spent console .none) w ["a\rb", "", "c"] w' ∧
      w'.output.toList = writtenText ["a\rb", "", "c"]) ∧
    (∃ u', ReadsOut (readStream .spent console .none)
      { w with input := writtenText ["a\rb", "", "c"] } ["a\rb", "", "c"] u') ∧
    ¬ ∃ u', ReadsOut (readStream .spent console .none)
      { w with input := writtenText ["a", "b\r"] } ["a", "b\r"] u' := by
  intro w console
  have haccepts := accepts_session .spent console
  have hsupplies := supplies_session .spent console .feed
  have hgot : w.given? console "_stdout" = none ∧ w.output.toList = [] := ⟨rfl, rfl⟩
  obtain ⟨⟨w', hwrites, hgot'⟩, hclean, -⟩ :=
    writes_reads_iff_clean haccepts hsupplies ["a\rb", "", "c"] hgot
  obtain ⟨-, hunclean, -⟩ := writes_reads_iff_clean haccepts hsupplies ["a", "b\r"] hgot
  refine ⟨⟨w', hwrites, hgot'.2⟩, (hclean _ ⟨rfl, rfl, rfl⟩).mpr (by decide), fun hreads => ?_⟩
  exact absurd ((hunclean _ ⟨rfl, rfl, rfl⟩).mp hreads) (by decide)

end Console
end EffectGraph
