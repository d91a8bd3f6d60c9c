import EffectGraph.Proofs.Agreement
import EffectGraph.Proofs.Decimals
import EffectGraph.Proofs.Limit
import EffectGraph.Proofs.Replay
import EffectGraph.Proofs.Stamps
import EffectGraph.Proofs.Timeless

/-!
# Reading numbers as an effect

A node that reads a text as a number gives the whole number that stands between the blanks of the
text; if there is none, the decimal number that stands there; and if there is none either it fails with
a fault that carries the text as it is, blanks and all (`Numeral.Reads`).  Every text is read in exactly
one way (`Numeral.reads_iff`).

`parseNumber_reads` says that a run of the node comes to that over every host, with every kind of
tracing, and leaves the world as it was but for the clock and the journal; that to build the node does
nothing at all; and that the text of a whole number is read back, whatever blanks are around it.
-/

namespace EffectGraph

open Machine

namespace Numeral

variable {text : String} {r : Except (Fault Value) Value}

/-! ### What a text is read as -/

/-- The characters between the blanks of a text. -/
def between (text : String) : List Char := Blank.trimBoth Blank.isBlank text.toList

/-- The fault of a text that is no number: it carries the text as it is. -/
def unreadable (text : String) : Fault Value :=
  Fault.notANumber (.str text) (Quoted.text text)
    [(Complaint.badFloat (Quoted.text (Blank.strip text))).fault]

/-- **What a text is read as:** the whole number that it writes between its blanks, unless that has
more digits than are allowed; otherwise the decimal number; and if it writes neither, a fault. -/
inductive Reads (text : String) : Except (Fault Value) Value → Prop where
  | whole {i n} (hi : Whole (between text) i n) (hn : n ≤ digitLimit) : Reads text (.ok (.int i))
  | decimal {x} (hwhole : ∀ i n, Whole (between text) i n → digitLimit < n)
      (hx : Decimal (between text) x) : Reads text (.ok (.ofFloat x))
  | neither (hwhole : ∀ i n, Whole (between text) i n → digitLimit < n)
      (hdecimal : ∀ x, ¬ Decimal (between text) x) : Reads text (.error (unreadable text))

/-- What comes of reading a text. -/
def read (text : String) : Except (Fault Value) Value :=
  match number? text with
  | some n => .ok n.toValue
  | none => .error (unreadable text)

/-- **Each text is read in one way,** the one in which it is read. -/
theorem reads_iff : Reads text r ↔ r = read text := by
  have hint {i : Int} : int (Blank.strip text) = .ok i ↔
      ∃ n, Whole (between text) i n ∧ n ≤ digitLimit := by
    rw [int_eq_ok_iff, inner_strip, between]
  have hfloat {x : Float} : float? (Blank.strip text) = some x ↔ Decimal (between text) x := by
    rw [float?_eq_some_iff, inner_strip, between]
  unfold read number?
  simp only
  cases hi : int (Blank.strip text) with
  | ok i =>
    obtain ⟨n, hwhole, hn⟩ := hint.1 hi
    have hnot : ¬ ∀ i n, Whole (between text) i n → digitLimit < n := fun h =>
      Nat.not_lt.2 hn (h i n hwhole)
    constructor
    · rintro (⟨hi', hn'⟩ | ⟨hmany, -⟩ | ⟨hmany, -⟩)
      · have heq := hint.2 ⟨_, hi', hn'⟩
        rw [hi] at heq
        cases heq
        rfl
      · exact absurd hmany hnot
      · exact absurd hmany hnot
    · rintro rfl
      exact .whole hwhole hn
  | error refusal =>
    have hmany : ∀ i n, Whole (between text) i n → digitLimit < n := by
      refine fun i n hwhole => Nat.lt_of_not_le fun hn => ?_
      have heq := hint.2 ⟨n, hwhole, hn⟩
      rw [hi] at heq
      cases heq
    cases hx : float? (Blank.strip text) with
    | some x =>
      have hdecimal := hfloat.1 hx
      constructor
      · rintro (⟨hi', hn'⟩ | ⟨-, hx'⟩ | ⟨-, hnone⟩)
        · exact absurd (hmany _ _ hi') (Nat.not_lt.2 hn')
        · have heq := hfloat.2 hx'
          rw [hx] at heq
          cases heq
          rfl
        · exact absurd hdecimal (hnone x)
      · rintro rfl
        exact .decimal hmany hdecimal
    | none =>
      have hnone : ∀ x, ¬ Decimal (between text) x := by
        intro x hdecimal
        have heq := hfloat.2 hdecimal
        rw [hx] at heq
        cases heq
      constructor
      · rintro (⟨hi', hn'⟩ | ⟨-, hx'⟩ | -)
        · exact absurd (hmany _ _ hi') (Nat.not_lt.2 hn')
        · exact absurd hx' (hnone _)
        · rfl
      · rintro rfl
        exact .neither hmany hnone

/-- **What is read can be written.** -/
theorem writable_of_whole {cs : List Char} {i : Int} {n : Nat} (hi : Whole cs i n)
    (hn : n ≤ digitLimit) : Datum.writable i = true := by
  have hfew {k : Nat} (hk : n ≤ k) : i.natAbs < Nat.pow 10 k :=
    Nat.lt_of_lt_of_le hi.natAbs_lt_pow (Nat.pow_le_pow_right (by decide) hk)
  exact Datum.writable_iff.2 (hfew hn)

/-- **The text of a whole number is read back,** whatever blanks are around it. -/
theorem reads_toString {i : Int} (hi : Datum.writable i = true) {before after : String}
    (hbefore : ∀ c ∈ before.toList, Blank.isBlank c = true)
    (hafter : ∀ c ∈ after.toList, Blank.isBlank c = true) :
    Reads (before ++ toString i ++ after) (.ok (.int i)) := by
  obtain ⟨n, hwhole, hn⟩ := whole_toString i
  refine .whole (n := n) ?_ (hn hi)
  rw [between, String.toList_append, String.toList_append,
    Blank.trimBoth_surrounded hbefore hafter fun c => isBlank_of_mem_toString]
  exact hwhole

end Numeral

/-! ### Running the node -/

/-- A text that is no number is refused in these words, in every world. -/
theorem refusal_unreadable (text : String) :
    Refusal (Numeral.unreadable text) ("Not a number: " ++ Quoted.text text) :=
  ⟨rfl, fun _ => rfl⟩

/-- The verdict on the node. -/
def Numeral.verdict : Except (Fault Value) Value → Verdict
  | .ok v => .value v
  | .error fault => .failure fault (.str "ParseNumber") 0

/-- **The outcome of a run tells what a text was read as:** the number, or the failure of the node. -/
inductive Machine.Outcome.Tells : Except (Fault Value) Value → Outcome → Prop where
  | number {v} : Tells (.ok v) (.finished v)
  | failure {fault failure} (hcause : failure.cause = fault) (hlabel : failure.label = .str "ParseNumber") :
      Tells (.error fault) (.failed failure)

namespace Graph

/-- What reads a text as a number, its parts having any identity. -/
abbrev parserThunk (j k : Nat) (text : String) : Value :=
  .preset j (.callback k .parse) [.str text] []

/-- **The node that reads a text as a number.** -/
def parser (i j k : Nat) (text : String) : Value :=
  .node i (.delay (parserThunk j k text) (.str "ParseNumber"))

end Graph

/-- A limit on the stack, if there is one, admits an empty stack. -/
def Machine.Settings.AdmitsEmpty (settings : Settings) : Prop :=
  settings.bound = .unlimited ∨ ∃ L : Nat, settings.bound = .atMost L

section parser

variable {h : Host} {settings : Settings} {text : String} {i j k : Nat} {w : World}

/-- The node is described by its label. -/
theorem parser_described (w : World) : w.describe? (Graph.parser i j k text) = .ok "Delay(ParseNumber)" :=
  rfl

/-- A number that can be written has a description as the value of a finished node. -/
theorem describe?_done_of_repr? {v : Value} {d : Datum}
    (hd : ∀ place, World.spellWith w (w.spellReference (2 * w.referenceCount)) place v = d) {t : String}
    (ht : d.repr? = .ok t) : w.describe? (.done v) =
      .ok (World.shorten World.descriptionLimit ("Done(" ++ t ++ ")")) := by
  simp only [World.describe?, World.repr?, World.spellOut, World.spellWith, Value.done, Value.ofNode,
    World.nodeText, Datum.repr?, hd, ht]
  rfl

/-- The node finished with what is read can be described, for that can be written. -/
theorem exists_describe?_read {v : Value} (hv : Numeral.read text = .ok v) (w : World) :
    ∃ description, w.describe? (.done v) = .ok description := by
  cases Numeral.reads_iff.2 hv.symm with
  | @whole i n hi hn =>
    have hrepr : (Datum.int i).repr? = .ok (toString i) := by
      rw [Datum.repr?, Datum.intText?, if_pos (Numeral.writable_of_whole hi hn)]
    exact ⟨_, describe?_done_of_repr? (d := .int i) (fun _ => by rw [World.spellWith]) hrepr⟩
  | @decimal x _ _ =>
    have hrepr : (Datum.float x).repr? = .ok (Layout.standard.text x) := by rw [Datum.repr?]
    exact ⟨_, describe?_done_of_repr? (d := .float x)
      (fun _ => by rw [Value.ofFloat, World.spellWith]) hrepr⟩

/-- **The thunk of the node reads the text,** and touches nothing. -/
theorem parser_performed
    (hgiven : w.given? (Graph.parserThunk j k text) "keywords" = none) :
    performed h (Graph.parserThunk j k text) (.str "ParseNumber") w =
      .ok ((Numeral.read text).mapError fun fault => (fault, .str "ParseNumber")) w := by
  have hinvoke : h.invoke (Graph.parserThunk j k text) [] w =
      Value.parseNumber h (.str text) w := Command.invoke_preset hgiven
  unfold Numeral.read
  cases hn : Numeral.number? text with
  | some n =>
    have hparse : Value.parseNumber h (.str text) w = .ok n.toValue w := by
      simp only [Value.parseNumber, hn]
      rfl
    exact performed_of_ok (hinvoke.trans hparse) _
  | none =>
    have hparse : Value.parseNumber h (.str text) w =
        .error (.raised (Numeral.unreadable text)) w := by
      simp only [Value.parseNumber, hn]
      rfl
    have hlabel : "ParseNumber" ≠ "" := by decide
    exact Command.performed_of_raised_str hlabel (hinvoke.trans hparse)

/-- The fault of a text that is not read is the one about the text. -/
theorem eq_unreadable {fault : Fault Value} (hr : Numeral.read text = .error fault) :
    fault = Numeral.unreadable text := by
  cases Numeral.reads_iff.2 hr.symm
  rfl

/-- **What the node means:** the number that is read, or the fault, and nothing has changed. -/
theorem parser_evaluates
    (hgiven : w.given? (Graph.parserThunk j k text) "keywords" = none) :
    ∃ n, Evaluates h (Graph.parser i j k text) w (Numeral.verdict (Numeral.read text)) n w := by
  have hperformed := parser_performed (h := h) hgiven
  cases hr : Numeral.read text with
  | ok v =>
    rw [hr] at hperformed
    exact ⟨_, .action hperformed⟩
  | error fault =>
    obtain rfl := eq_unreadable hr
    rw [hr] at hperformed
    exact ⟨_, .actionMishap hperformed⟩

/-- A step whose node can be described looks at it in a world that is akin. -/
theorem exists_step_of_described {s : State} {description : String}
    (hd : w.describe? s.current = .ok description) (settings : Settings) :
    ∃ u, w.Akin u ∧ step h settings s w = dispatch h settings s.counted u := by
  have hshows : settings.Shows s w := fun _ => ⟨_, hd⟩
  obtain ⟨u, hu, hstep⟩ := step_of_shows (h := h) hshows
  refine ⟨u, ?_, hstep⟩
  rcases hu with rfl | ⟨message, rfl⟩
  · exact .refl u
  · exact .noted_self w message

/-- The first step reads the text. -/
theorem exists_parser_step
    (hgiven : w.given? (Graph.parserThunk j k text) "keywords" = none) (settings : Settings) :
    ∃ u, w.Akin u ∧ step h settings (.start (Graph.parser i j k text)) w =
      match Numeral.read text with
      | .ok v => .ok (checkLimit settings ⟨.done v, .empty, Counters.zero.acted⟩) u
      | .error fault =>
        mishap ⟨Graph.parser i j k text, .empty, Counters.zero.stepped⟩ (fault, .str "ParseNumber") u := by
  obtain ⟨u, hu, hstep⟩ := exists_step_of_described (h := h) (s := .start (Graph.parser i j k text))
    (parser_described w) settings
  refine ⟨u, hu, hstep.trans ?_⟩
  have hgiven' : u.given? (Graph.parserThunk j k text) "keywords" = none := by
    obtain ⟨journal, -, rfl⟩ := hu
    exact hgiven
  simp only [dispatch, State.start, State.counted, Graph.parser, perform_eq]
  rw [Eff.bind_of_ok (parser_performed hgiven')]
  cases Numeral.read text <;> rfl

/-- The failure is reported under the label of the node. -/
theorem exists_worded_unreadable (text : String) (w : World) (step discarded : Nat) :
    ∃ failure, worded w (Numeral.unreadable text) (.str "ParseNumber") step discarded = .ok failure ∧
      failure.cause = Numeral.unreadable text ∧ failure.label = .str "ParseNumber" := by
  unfold worded words
  rw [(refusal_unreadable text).str? w]
  exact ⟨_, rfl, rfl, rfl⟩

/-- The step that finishes a run whose value can be described. -/
theorem exists_step_done {v : Value} {description : String}
    (hd : w.describe? (.done v) = .ok description) (settings : Settings) (c : Counters) :
    ∃ u, w.Akin u ∧ step h settings ⟨.done v, .empty, c⟩ w =
      .ok (.halted (.finished v) ⟨.done v, .empty, c.stepped⟩) u := by
  obtain ⟨u, hu, hstep⟩ := exists_step_of_described (h := h) (s := ⟨.done v, .empty, c⟩) hd settings
  exact ⟨u, hu, hstep⟩

/-- **How the machine ends:** with the number or with the failure of the node. -/
theorem exists_parser_drive (hroom : settings.AdmitsEmpty)
    (hgiven : w.given? (Graph.parserThunk j k text) "keywords" = none) (fuel : Nat) :
    ∃ (o : Outcome) (s : State) (u : World),
      drive h settings (fuel + 2) (.start (Graph.parser i j k text)) w = .ok (o.ending, s) u ∧ w.Akin u ∧
        o.Tells (Numeral.read text) := by
  obtain ⟨u, hu, hstep⟩ := exists_parser_step (h := h) (i := i) hgiven settings
  cases hr : Numeral.read text with
  | ok v =>
    have hgoes : checkLimit settings ⟨.done v, .empty, Counters.zero.acted⟩ =
        .next ⟨.done v, .empty, Counters.zero.acted⟩ := by
      rcases hroom with hb | ⟨L, hb⟩
      · exact checkLimit_of_unbounded hb _
      · exact checkLimit_of_depth_le hb (Nat.zero_le L)
    simp only [hr, hgoes] at hstep
    obtain ⟨description, hd⟩ := exists_describe?_read hr u
    obtain ⟨u', hu', hdone⟩ := exists_step_done (h := h) hd settings Counters.zero.acted
    exact ⟨.finished v, _, u', (drive_of_next hstep).trans (drive_of_halted hdone), hu.trans hu', .number⟩
  | error fault =>
    obtain rfl := eq_unreadable hr
    simp only [hr] at hstep
    obtain ⟨failure, hworded, hcause, hlabel⟩ :=
      exists_worded_unreadable text u Counters.zero.stepped.totalSteps 0
    have hnone : Stack.empty.unwind = ⟨0, none⟩ := rfl
    rw [mishap_of_no_landing (refusal_unreadable text).isFailure hnone, hworded] at hstep
    exact ⟨.failed failure, _, u, drive_of_halted hstep, hu, .failure hcause hlabel⟩

/-- **What a run of the node reports:** the number, or the failure of the node, and nothing has
changed but the clock and the journal. -/
theorem exists_parser_report (hroom : settings.AdmitsEmpty)
    (hgiven : w.given? (Graph.parserThunk j k text) "keywords" = none) (fuel : Nat) :
    ∃ report w', runReport h (fuel + 2) settings (Graph.parser i j k text) w = .ok report w' ∧
      w.Akin w' ∧ report.outcome.Tells (Numeral.read text) := by
  have hopened := World.Akin.opened_self w "Delay(ParseNumber)"
  have hgiven' : (w.opened "Delay(ParseNumber)").given?
      (Graph.parserThunk j k text) "keywords" = none := hgiven
  obtain ⟨o, s, u, hdrive, hu, ho⟩ := exists_parser_drive (h := h) (i := i) hroom hgiven' fuel
  refine ⟨⟨o, s.counters, w.ticked.journal.clock, u.ticked.journal.clock⟩, u.closed (closing s.counters o),
    ?_, (hopened.trans hu).trans (.closed_self u _), ho⟩
  rw [runReport_of_described rfl (parser_described w.ticked), Eff.bind_of_ok hdrive, concluded_of_outcome]

end parser

/-! ### Building the node -/

section building

variable {text : String}

/-- The function that builds the node refuses no text, and does nothing. -/
theorem callOperation_parseNumber (h : Host) (fuel : Nat) (w : World) :
    Script.callOperation h fuel .parseNumber [.str text] [] w = .ok (Graph.parser 0 0 0 text) w := rfl

/-- A script that calls it gets the node, whose parts have got an identity. -/
theorem call_parseNumber (fuel : Nat) (w : World) : ∃ i j k w',
    (Script.host (fuel + 1)).call (.operation .parseNumber) [.str text] [] w =
      .ok (Graph.parser i j k text) w' ∧ w.Restamped w' := by
  obtain ⟨v, w', hv, hw⟩ := Script.settle_restamps.1 (Graph.parser 0 0 0 text) w
  have hsettled : Script.settle (Graph.parser 0 0 0 text) w = .ok (Graph.parser _ _ _ text) _ := rfl
  obtain ⟨rfl, -⟩ := EStateM.Result.ok.inj (hv.symm.trans hsettled)
  exact ⟨_, _, _, w', hv, hw⟩

end building

/-- **A text is read as the number that it writes.**  Every text is read in exactly one way
(`Numeral.Reads`): as a whole number, as a decimal number, or not at all.  Over every host the node
that reads it comes to that number, or fails with the fault that carries the whole text, and leaves
every world as it was; a run of it reports this, whatever is traced, and changes nothing but the clock
and the journal.  The text of a whole number is read back with whatever blanks around it.  To build the
node never fails and does nothing. -/
theorem parseNumber_reads (text : String) :
    ∃ r, (∀ r', Numeral.Reads text r' ↔ r' = r) ∧
      (∀ (h : Host) (i j k : Nat) (w : World),
        w.given? (Graph.parserThunk j k text) "keywords" = none →
        (∃ n, Evaluates h (Graph.parser i j k text) w (Numeral.verdict r) n w) ∧
        ∀ settings : Settings, settings.AdmitsEmpty → ∀ fuel, ∃ report w',
          runReport h (fuel + 2) settings (Graph.parser i j k text) w = .ok report w' ∧ w.Akin w' ∧
            report.outcome.Tells r) ∧
      (∀ fault, r = .error fault → fault.kind = .parseError ∧
        ∀ w : World, Script.attribute? (.fault fault) "text" w = .ok (some (.str text)) w) ∧
      (∀ before after i, Datum.writable i = true → text = before ++ toString i ++ after →
        (∀ c ∈ before.toList, Blank.isBlank c = true) → (∀ c ∈ after.toList, Blank.isBlank c = true) →
        r = .ok (.int i)) ∧
      (∀ (h : Host) (fuel : Nat) (w : World),
        Script.callOperation h fuel .parseNumber [.str text] [] w = .ok (Graph.parser 0 0 0 text) w) ∧
      ∀ (fuel : Nat) (w : World), ∃ i j k w', w.Restamped w' ∧
        (Script.host (fuel + 1)).call (.operation .parseNumber) [.str text] [] w =
          .ok (Graph.parser i j k text) w' := by
  refine ⟨Numeral.read text, fun _ => Numeral.reads_iff, ?_, ?_, ?_, ?_, ?_⟩
  · intro h i j k w hgiven
    exact ⟨parser_evaluates hgiven, fun settings hroom fuel => exists_parser_report hroom hgiven fuel⟩
  · intro fault hr
    obtain rfl := eq_unreadable hr
    exact ⟨rfl, fun _ => rfl⟩
  · rintro before after i hi rfl hbefore hafter
    exact (Numeral.reads_iff.1 (Numeral.reads_toString hi hbefore hafter)).symm
  · exact fun h fuel w => callOperation_parseNumber h fuel w
  · intro fuel w
    obtain ⟨i, j, k, w', hcall, hw⟩ := call_parseNumber fuel w
    exact ⟨i, j, k, w', hw, hcall⟩

/-- A number with blanks around it is read with tracing on, and a word is refused as it is. -/
theorem parseNumber_reads_padded :
    let w := Script.SessionInput.recorded
    (∃ report w', runReport .spent 2 (Script.settingsOf w (.int 0) (.bool true))
      (Graph.parser 0 0 0 " 1_000\n") w = .ok report w' ∧ report.outcome.Tells (.ok (.int 1000))) ∧
    ∃ n, Evaluates .spent (Graph.parser 0 0 0 " ten ") w
      (.failure (Numeral.unreadable " ten ") (.str "ParseNumber") 0) n w := by
  intro w
  have hwhole : Numeral.Reads " 1_000\n" (.ok (.int 1000)) :=
    .whole (n := 4) (.unsigned (Numeral.digits_iff.2 ⟨_, rfl, rfl, rfl⟩)) (by decide)
  have hneither : Numeral.Reads " ten " (.error (Numeral.unreadable " ten ")) := Numeral.reads_iff.2 rfl
  constructor
  · obtain ⟨r, hr, hmeaning, -⟩ := parseNumber_reads " 1_000\n"
    obtain ⟨-, hruns⟩ := hmeaning .spent 0 0 0 w rfl
    obtain ⟨report, w', hrun, -, htells⟩ := hruns (Script.settingsOf w (.int 0) (.bool true)) (.inr ⟨0, rfl⟩) 0
    obtain rfl := (hr _).1 hwhole
    exact ⟨report, w', hrun, htells⟩
  · obtain ⟨r, hr, hmeaning, -⟩ := parseNumber_reads " ten "
    obtain ⟨he, -⟩ := hmeaning .spent 0 0 0 w rfl
    obtain rfl := (hr _).1 hneither
    exact he

end EffectGraph
