import EffectGraph.Json

/-!
# JSON texts

A JSON text is one line: whatever a text, a number or a container holds, no line feed stands in what
`Datum.json?` writes (`Datum.oneLine_of_json?`).  A dictionary whose keys are texts is written if the
values are (`Datum.exists_json?_of_entries`).
-/

namespace EffectGraph

/-- An answer that depends on another one needs that. -/
theorem exists_of_bind_ok {ε α β : Type} {x : Except ε α} {f : α → Except ε β} {b : β}
    (hb : (x >>= f) = .ok b) : ∃ a, x = .ok a ∧ f a = .ok b := by
  cases x with
  | error e => cases hb
  | ok a => exact ⟨a, rfl, hb⟩

/-- **A text without line feeds.** -/
def OneLine (s : String) : Prop := '\n' ∉ s.toList

instance (s : String) : Decidable (OneLine s) := inferInstanceAs (Decidable ('\n' ∉ s.toList))

namespace OneLine

variable {s t : String} {texts : List String}

theorem append (hs : OneLine s) (ht : OneLine t) : OneLine (s ++ t) := by
  rw [OneLine, String.toList_append, List.mem_append]
  exact not_or.mpr ⟨hs, ht⟩

theorem ofList {cs : List Char} (hcs : '\n' ∉ cs) : OneLine (String.ofList cs) := by
  rwa [OneLine, String.toList_ofList]

theorem singleton {c : Char} (hc : '\n' ≠ c) : OneLine (String.singleton c) := by
  rwa [OneLine, String.toList_singleton, List.mem_singleton]

/-- Some of the characters of a line are a line. -/
theorem ofList_of_subset (hs : OneLine s) {cs : List Char} (hcs : ∀ c ∈ cs, c ∈ s.toList) :
    OneLine (String.ofList cs) := ofList fun hmem => hs (hcs _ hmem)

theorem ite {c : Prop} [Decidable c] (hs : OneLine s) (ht : OneLine t) :
    OneLine (if c then s else t) := by
  split
  · exact hs
  · exact ht

theorem intercalate (hs : OneLine s) (htexts : ∀ t ∈ texts, OneLine t) :
    OneLine (s.intercalate texts) := by
  induction texts with
  | nil => simp [OneLine]
  | cons t texts ih =>
    have ht := htexts t List.mem_cons_self
    have hrest := ih fun u hu => htexts u (List.mem_cons_of_mem _ hu)
    cases texts with
    | nil => rwa [String.intercalate_singleton]
    | cons u texts =>
      rw [String.intercalate_cons_cons]
      exact (ht.append hs).append hrest

theorem pushn (hs : OneLine s) (n : Nat) : OneLine (s.pushn '0' n) := by
  rw [String.pushn_eq_repeat_push]
  induction n with
  | zero => exact hs
  | succ n ih =>
    rw [Nat.repeat, OneLine, String.toList_push, List.mem_append]
    exact not_or.mpr ⟨ih, by decide⟩

/-- Numbers are written with digits. -/
theorem natRepr (n : Nat) : OneLine n.repr := by
  intro hmem
  rw [Nat.toList_repr] at hmem
  have hdigit := Nat.isDigit_of_mem_toDigits (by decide) (by decide) hmem
  exact absurd hdigit (by decide)

theorem intText (i : Int) : OneLine (toString i) := by
  cases i with
  | ofNat n => exact natRepr n
  | negSucc n => exact append (by decide) (natRepr n.succ)

end OneLine

/-! ### Texts and numbers -/

/-- A unit of UTF-16 is written with hexadecimal digits. -/
theorem AsciiString.not_mem_unit (n : Nat) : '\n' ∉ unit n := by
  have hdigit (k : Nat) : Nat.digitChar (k % 16) ≠ '\n' := by
    have hall : ∀ d < 16, Nat.digitChar d ≠ '\n' := by decide
    exact hall _ (Nat.mod_lt k (by decide))
  simp [unit, Ne.symm (hdigit _)]

/-- No character stands for itself or is escaped as a line feed. -/
theorem AsciiString.not_mem_escape (c : Char) : '\n' ∉ escape c := by
  unfold escape
  simp only
  -- seven characters have an escape of their own
  iterate 7
    split
    · decide
  split
  · next hvisible =>
    intro hmem
    obtain rfl := List.mem_singleton.mp hmem
    exact absurd hvisible (by decide)
  split
  · exact not_mem_unit _
  · rw [List.mem_append]
    exact not_or.mpr ⟨not_mem_unit _, not_mem_unit _⟩

theorem AsciiString.oneLine_text (s : String) : OneLine (text s) := by
  refine .ofList ?_
  have hescaped : '\n' ∉ s.toList.flatMap escape := by
    intro hmem
    obtain ⟨c, -, hc⟩ := List.mem_flatMap.mp hmem
    exact not_mem_escape c hc
  simp [hescaped]

theorem Layout.oneLine_write (layout : Layout) (significand : Nat) (place : Int) :
    OneLine (layout.write significand place) := by
  have htext := OneLine.natRepr significand
  have hzero : OneLine "" := by decide
  unfold write
  simp only
  split
  · split
    · exact (htext.append (hzero.pushn _)).append (by decide)
    · split
      · refine ((htext.ofList_of_subset fun c hc => List.mem_of_mem_take hc).append ?_).append ?_
        · decide
        · exact htext.ofList_of_subset fun c hc => List.mem_of_mem_drop hc
      · exact (OneLine.append (by decide) (hzero.pushn _)).append htext
  · refine OneLine.append (OneLine.append (OneLine.append ?_ (by decide)) ?_) ?_
    · split
      · decide
      · next d hd =>
        rw [OneLine, hd, List.mem_singleton] at htext
        exact .singleton htext
      · next d rest _ hd =>
        rw [OneLine, hd, List.mem_cons, not_or] at htext
        exact ((OneLine.singleton htext.1).append (by decide)).append (.ofList htext.2)
    · exact .ite (by decide) (by decide)
    · exact (hzero.pushn _).append (.natRepr _)

namespace Datum

theorem oneLine_jsonFloat (x : Float) : OneLine (jsonFloat x) := by
  unfold jsonFloat
  split
  · decide
  · exact .ite (by decide) (by decide)
  · next hx =>
    simp only [Layout.text, hx]
    have hbody {c : Prop} [Decidable c] (significand : Nat) (place : Int) :
        OneLine (if c then "0.0" else Layout.standard.write significand place) :=
      .ite (by decide) (Layout.oneLine_write _ _ _)
    exact .ite (OneLine.append (by decide) (hbody _ _)) (hbody _ _)

theorem oneLine_of_jsonInt? {i : Int} {t : String} (ht : jsonInt? i = .ok t) : OneLine t := by
  unfold jsonInt? at ht
  split at ht
  · cases ht
    exact .intText i
  · cases ht

theorem oneLine_bracketed {opening closing : String} {texts : List String} (hopening : OneLine opening)
    (hclosing : OneLine closing) (htexts : ∀ t ∈ texts, OneLine t) :
    OneLine (bracketed opening closing texts) :=
  (hopening.append (.intercalate (by decide) htexts)).append hclosing

/-! ### Data -/

mutual

/-- **A JSON text is one line.** -/
theorem oneLine_of_json? : ∀ (d : Datum) {t : String}, d.json? = .ok t → OneLine t
  | .none, t, ht => by
    rw [json?] at ht
    cases ht
    decide
  | .bool b, t, ht => by
    rw [json?] at ht
    cases ht
    exact .ite (by decide) (by decide)
  | .int i, t, ht => by
    rw [json?] at ht
    exact oneLine_of_jsonInt? ht
  | .float x, t, ht => by
    rw [json?] at ht
    cases ht
    exact oneLine_jsonFloat x
  | .str s, t, ht => by
    rw [json?] at ht
    cases ht
    exact AsciiString.oneLine_text s
  | .tuple items, t, ht => by
    rw [json?] at ht
    obtain ⟨texts, htexts, ht⟩ := exists_of_bind_ok ht
    cases ht
    exact oneLine_bracketed (by decide) (by decide) (oneLine_of_jsonAll? items htexts)
  | .list items, t, ht => by
    rw [json?] at ht
    obtain ⟨texts, htexts, ht⟩ := exists_of_bind_ok ht
    cases ht
    exact oneLine_bracketed (by decide) (by decide) (oneLine_of_jsonAll? items htexts)
  | .dict entries, t, ht => by
    rw [json?] at ht
    obtain ⟨texts, htexts, ht⟩ := exists_of_bind_ok ht
    cases ht
    exact oneLine_bracketed (by decide) (by decide) (oneLine_of_jsonEntries? entries htexts)
  | .frozenDict entries, t, ht => by
    rw [json?] at ht
    obtain ⟨texts, htexts, ht⟩ := exists_of_bind_ok ht
    cases ht
    exact oneLine_bracketed (by decide) (by decide) (oneLine_of_jsonEntries? entries htexts)
  | .again _, t, ht => by cases ht
  | .range _ _, t, ht => by cases ht
  | .ok _, t, ht => by cases ht
  | .err _, t, ht => by cases ht
  | .fault _ _ _ _, t, ht => by cases ht
  | .stats _ _ _, t, ht => by cases ht
  | .runState _ _ _, t, ht => by cases ht
  | .runResult _ _ _, t, ht => by cases ht
  | .object _ _, t, ht => by cases ht

theorem oneLine_of_jsonAll? : ∀ (items : List Datum) {texts : List String},
    jsonAll? items = .ok texts → ∀ t ∈ texts, OneLine t
  | [], texts, h => by
    cases h
    exact List.forall_mem_nil _
  | d :: rest, texts, h => by
    rw [jsonAll?] at h
    obtain ⟨first, hd, h⟩ := exists_of_bind_ok h
    obtain ⟨others, hrest, h⟩ := exists_of_bind_ok h
    cases h
    exact List.forall_mem_cons.mpr ⟨oneLine_of_json? d hd, oneLine_of_jsonAll? rest hrest⟩

theorem oneLine_of_jsonEntries? : ∀ (entries : List (Datum × Datum)) {texts : List String},
    jsonEntries? entries = .ok texts → ∀ t ∈ texts, OneLine t
  | [], texts, h => by
    cases h
    exact List.forall_mem_nil _
  | (k, v) :: rest, texts, h => by
    rw [jsonEntries?] at h
    obtain ⟨key, hk, h⟩ := exists_of_bind_ok h
    obtain ⟨value, hv, h⟩ := exists_of_bind_ok h
    obtain ⟨others, hrest, h⟩ := exists_of_bind_ok h
    cases h
    have hentry : OneLine (AsciiString.text key ++ ": " ++ value) :=
      ((AsciiString.oneLine_text key).append (by decide)).append (oneLine_of_json? v hv)
    exact List.forall_mem_cons.mpr ⟨hentry, oneLine_of_jsonEntries? rest hrest⟩

end

/-- Data that are written one by one are written together. -/
theorem exists_jsonAll? {items : List Datum} (hitems : ∀ d ∈ items, ∃ t, d.json? = .ok t) :
    ∃ texts, jsonAll? items = .ok texts := by
  induction items with
  | nil => exact ⟨[], rfl⟩
  | cons d rest ih =>
    obtain ⟨t, ht⟩ := hitems d List.mem_cons_self
    obtain ⟨texts, htexts⟩ := ih fun e he => hitems e (List.mem_cons_of_mem d he)
    refine ⟨t :: texts, ?_⟩
    rw [jsonAll?, ht, htexts]
    rfl

/-- A list is written exactly if its items are. -/
theorem exists_json?_list_iff {items : List Datum} :
    (∃ text, (list items).json? = .ok text) ↔ ∀ d ∈ items, ∃ t, d.json? = .ok t := by
  have hback : ∀ {items : List Datum} {texts : List String}, jsonAll? items = .ok texts →
      ∀ d ∈ items, ∃ t, d.json? = .ok t := by
    intro items texts hall
    induction items generalizing texts with
    | nil => exact List.forall_mem_nil _
    | cons d rest ih =>
      rw [jsonAll?] at hall
      obtain ⟨t, ht, hall⟩ := exists_of_bind_ok hall
      obtain ⟨others, hothers, -⟩ := exists_of_bind_ok hall
      exact List.forall_mem_cons.mpr ⟨⟨t, ht⟩, ih hothers⟩
  constructor
  · rintro ⟨text, htext⟩
    rw [json?] at htext
    obtain ⟨texts, hall, -⟩ := exists_of_bind_ok htext
    exact hback hall
  · intro hitems
    obtain ⟨texts, hall⟩ := exists_jsonAll? hitems
    refine ⟨bracketed "[" "]" texts, ?_⟩
    rw [json?, hall]
    rfl

/-- **A dictionary under texts is written** if what it holds is. -/
theorem exists_json?_of_entries {entries : List (String × Datum)}
    (hentries : ∀ e ∈ entries, ∃ t, e.2.json? = .ok t) :
    ∃ text, (dict (entries.map fun (name, d) => (str name, d))).json? = .ok text := by
  have hall : ∃ texts, jsonEntries? (entries.map fun (name, d) => (str name, d)) = .ok texts := by
    induction entries with
    | nil => exact ⟨[], rfl⟩
    | cons e rest ih =>
      obtain ⟨name, d⟩ := e
      obtain ⟨t, ht⟩ := hentries (name, d) List.mem_cons_self
      obtain ⟨texts, htexts⟩ := ih fun e he => hentries e (List.mem_cons_of_mem _ he)
      refine ⟨(AsciiString.text name ++ ": " ++ t) :: texts, ?_⟩
      rw [List.map_cons, jsonEntries?, htexts, ht]
      rfl
  obtain ⟨texts, htexts⟩ := hall
  refine ⟨bracketed "\x7b" "\x7d" texts, ?_⟩
  rw [json?, htexts]
  rfl

/-- If such a dictionary is written, all that it holds is. -/
theorem exists_json?_of_mem_entries {entries : List (String × Datum)} {text : String}
    (htext : (dict (entries.map fun (name, d) => (str name, d))).json? = .ok text) :
    ∀ e ∈ entries, ∃ t, e.2.json? = .ok t := by
  have hall : ∀ {entries : List (String × Datum)} {texts : List String},
      jsonEntries? (entries.map fun (name, d) => (str name, d)) = .ok texts →
        ∀ e ∈ entries, ∃ t, e.2.json? = .ok t := by
    intro entries texts hall
    induction entries generalizing texts with
    | nil => exact List.forall_mem_nil _
    | cons e rest ih =>
      rw [List.map_cons, jsonEntries?] at hall
      obtain ⟨key, -, hall⟩ := exists_of_bind_ok hall
      obtain ⟨t, ht, hall⟩ := exists_of_bind_ok hall
      obtain ⟨others, hothers, -⟩ := exists_of_bind_ok hall
      exact List.forall_mem_cons.mpr ⟨⟨t, ht⟩, ih hothers⟩
  rw [json?] at htext
  obtain ⟨texts, hentries, -⟩ := exists_of_bind_ok htext
  exact hall hentries

end Datum
end EffectGraph
