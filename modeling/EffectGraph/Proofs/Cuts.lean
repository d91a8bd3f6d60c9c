import EffectGraph.Text.Lines

/-!
# Two ways to cut a text

A text that is read line by line is cut at line feeds (`Lines.cut`, `Lines.exists_takeRaw`).  A text that
is cut as a whole is cut at other characters as well, so that a line which is read may come out in
pieces.  For texts without carriage returns the two ways give the same lines exactly if no other
separator occurs (`Lines.split_eq_cut_iff`).
-/

namespace EffectGraph
namespace Lines

/-- The lines of a text between line feeds, `line` being the characters of the current one so far, last
first.  No empty line is made at the end. -/
def cutOnto : List Char → List Char → List (List Char)
  | [], [] => []
  | line, [] => [line.reverse]
  | line, c :: rest => if c = '\n' then line.reverse :: cutOnto [] rest else cutOnto (c :: line) rest

/-- **The lines of a text between line feeds.** -/
def cut (text : List Char) : List (List Char) := cutOnto [] text

/-- **Is the line feed the only separator in a text?** -/
def OnlyFeeds (text : List Char) : Prop := ∀ c ∈ text, isSeparator c = true → c = '\n'

variable {line text : List Char} {ending : LineEnding}

theorem cutOnto_nil (hline : line ≠ []) : cutOnto line [] = [line.reverse] := by
  cases line with
  | nil => exact absurd rfl hline
  | cons c line => rfl

/-- Without carriage returns there is nothing to be turned into line feeds. -/
theorem normalize_of_not_mem (htext : '\r' ∉ text) : normalize text = text := by
  induction text with
  | nil => rfl
  | cons c text ih =>
    have hc : c ≠ '\r' := (List.ne_of_not_mem_cons htext).symm
    rw [normalize, ih (List.not_mem_of_not_mem_cons htext)]
    · exact fun _ h _ => hc h
    · exact hc

/-! ### Reading line by line -/

/-- A line without a terminator stays as it is. -/
theorem stripTerminator_of_not_mem (hline : '\r' ∉ line) (hfeed : '\n' ∉ line) :
    stripTerminator line.reverse = line.reverse := by
  unfold stripTerminator
  rw [List.reverse_reverse]
  split
  · exact absurd List.mem_cons_self hfeed
  · exact absurd List.mem_cons_self hfeed
  · exact absurd List.mem_cons_self hline
  · rfl

/-- A line feed is taken off. -/
theorem stripTerminator_feed (hline : '\r' ∉ line) :
    stripTerminator ('\n' :: line).reverse = line.reverse := by
  unfold stripTerminator
  rw [List.reverse_reverse]
  split
  · next heq =>
    cases heq
    exact absurd List.mem_cons_self hline
  · next heq =>
    cases heq
    rfl
  · next heq => cases heq
  · next _ hother _ => exact absurd rfl (hother line)

/-- The first raw line of a text, without its terminator, is the first line between line feeds. -/
theorem exists_takeRawOnto (ending : LineEnding) (hline : '\r' ∉ line) (hfeed : '\n' ∉ line)
    (htext : '\r' ∉ text) (hsome : line ≠ [] ∨ text ≠ []) :
    ∃ raw rest, takeRawOnto ending line text = (raw, rest) ∧ raw ≠ [] ∧ '\r' ∉ rest ∧
      cutOnto line text = stripTerminator raw :: cut rest := by
  induction text generalizing line with
  | nil =>
    have hline' : line ≠ [] := hsome.resolve_right (absurd rfl)
    refine ⟨line.reverse, [], by rw [takeRawOnto], by simpa using hline', List.not_mem_nil, ?_⟩
    rw [stripTerminator_of_not_mem hline hfeed, cutOnto_nil hline']
    rfl
  | cons c text ih =>
    have hc : c ≠ '\r' := (List.ne_of_not_mem_cons htext).symm
    have htext' := List.not_mem_of_not_mem_cons htext
    by_cases hcut : c = '\n'
    · subst hcut
      refine ⟨('\n' :: line).reverse, text, by rw [takeRawOnto], by simp, htext', ?_⟩
      rw [stripTerminator_feed hline, cutOnto, if_pos rfl]
      rfl
    · have hline' : '\r' ∉ c :: line := List.not_mem_cons_of_ne_of_not_mem hc.symm hline
      have hfeed' : '\n' ∉ c :: line := List.not_mem_cons_of_ne_of_not_mem (Ne.symm hcut) hfeed
      obtain ⟨raw, rest, htake, hraw, hrest, hlines⟩ :=
        ih hline' hfeed' htext' (.inl (List.cons_ne_nil _ _))
      refine ⟨raw, rest, ?_, hraw, hrest, ?_⟩
      · rw [takeRawOnto, htake]
        · exact hcut
        · exact hc
      · rw [cutOnto, if_neg hcut, hlines]

/-- **A stream gives the lines between line feeds,** one after the other. -/
theorem exists_takeRaw (ending : LineEnding) (htext : '\r' ∉ text) (hsome : text ≠ []) :
    ∃ raw rest, takeRaw ending text = (raw, rest) ∧ raw ≠ [] ∧ '\r' ∉ rest ∧
      cut text = stripTerminator raw :: cut rest :=
  exists_takeRawOnto ending List.not_mem_nil List.not_mem_nil htext (.inr hsome)

/-! ### Cutting the whole text -/

/-- A character that is no carriage return separates lines or is part of one. -/
theorem splitOnto_cons {c : Char} (hc : c ≠ '\r') : splitOnto line (c :: text) =
    if isSeparator c then (line.reverse, [c]) :: splitOnto [] text else splitOnto (c :: line) text := by
  rw [splitOnto]
  exact fun _ h _ => hc h

/-- Where only line feeds separate, the text is cut at them. -/
theorem map_splitOnto (htext : '\r' ∉ text) (hfeeds : OnlyFeeds text) :
    (splitOnto line text).map (·.1) = cutOnto line text := by
  induction text generalizing line with
  | nil => cases line <;> rfl
  | cons c text ih =>
    have hc : c ≠ '\r' := (List.ne_of_not_mem_cons htext).symm
    have htext' := List.not_mem_of_not_mem_cons htext
    obtain ⟨hfeed, hfeeds⟩ := List.forall_mem_cons.mp hfeeds
    rw [splitOnto_cons hc, cutOnto]
    by_cases hcut : c = '\n'
    · have hseparator : isSeparator c = true := by rw [hcut]; decide
      rw [if_pos hseparator, if_pos hcut, List.map_cons, ih htext' hfeeds]
    · have hpart : ¬ isSeparator c = true := fun h => hcut (hfeed h)
      rw [if_neg hpart, if_neg hcut, ih htext' hfeeds]

/-- No line of a text that is cut as a whole holds a separator. -/
theorem isSeparator_of_mem_splitOnto (htext : '\r' ∉ text) (hline : ∀ c ∈ line, isSeparator c = false) :
    ∀ l ∈ (splitOnto line text).map (·.1), ∀ c ∈ l, isSeparator c = false := by
  induction text generalizing line with
  | nil =>
    cases line with
    | nil => exact List.forall_mem_nil _
    | cons d line =>
      exact List.forall_mem_singleton.mpr fun c hc => hline c (List.mem_reverse.mp hc)
  | cons c text ih =>
    have htext' := List.not_mem_of_not_mem_cons htext
    rw [splitOnto_cons (List.ne_of_not_mem_cons htext).symm]
    split
    · exact List.forall_mem_cons.mpr
        ⟨fun d hd => hline d (List.mem_reverse.mp hd), ih htext' (List.forall_mem_nil _)⟩
    · next hpart =>
      exact ih htext' (List.forall_mem_cons.mpr ⟨by simpa using hpart, hline⟩)

/-- Every character but the line feed is in a line between line feeds. -/
theorem exists_mem_cutOnto {c : Char} (hc : c ∈ line ∨ c ∈ text) (hfeed : c ≠ '\n') :
    ∃ l ∈ cutOnto line text, c ∈ l := by
  induction text generalizing line with
  | nil =>
    have hline := hc.resolve_right List.not_mem_nil
    have hsome : line ≠ [] := List.ne_nil_of_mem hline
    refine ⟨line.reverse, ?_, List.mem_reverse.mpr hline⟩
    rw [cutOnto_nil hsome]
    exact List.mem_singleton_self _
  | cons d text ih =>
    rw [cutOnto]
    split
    · next hd =>
      rcases hc with hline | htext
      · exact ⟨line.reverse, List.mem_cons_self, List.mem_reverse.mpr hline⟩
      · have hrest := (List.mem_cons.mp htext).resolve_left fun h => hfeed (h.trans hd)
        obtain ⟨l, hl, hcl⟩ : ∃ l ∈ cutOnto [] text, c ∈ l := ih (.inr hrest)
        exact ⟨l, List.mem_cons_of_mem _ hl, hcl⟩
    · refine ih ?_
      rcases hc with hline | htext
      · exact .inl (List.mem_cons_of_mem _ hline)
      · rcases List.mem_cons.mp htext with rfl | hrest
        · exact .inl List.mem_cons_self
        · exact .inr hrest

/-- **A text without carriage returns is cut in the same way** as a whole and line by line exactly if the
line feed is its only separator. -/
theorem split_eq_cut_iff (htext : '\r' ∉ text) : split text = cut text ↔ OnlyFeeds text := by
  constructor
  · intro hsame c hc hseparator
    refine Classical.byContradiction fun hfeed => ?_
    obtain ⟨l, hl, hcl⟩ : ∃ l ∈ cut text, c ∈ l := exists_mem_cutOnto (.inr hc) hfeed
    have hsplit : l ∈ (splitOnto [] text).map (·.1) := by
      rw [show (splitOnto [] text).map (·.1) = cut text from hsame]
      exact hl
    have hplain := isSeparator_of_mem_splitOnto htext (List.forall_mem_nil _) l hsplit c hcl
    rw [hseparator] at hplain
    cases hplain
  · intro hfeeds
    exact map_splitOnto htext hfeeds

/-- A vertical tab cuts a text, but not a line that is read. -/
example : split ['a', '\x0b', 'b', '\n'] = [['a'], ['b']] ∧
    cut ['a', '\x0b', 'b', '\n'] = [['a', '\x0b', 'b']] := by decide

end Lines
end EffectGraph
