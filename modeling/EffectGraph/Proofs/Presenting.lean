import EffectGraph.Proofs.Showing
import EffectGraph.Proofs.Speaking

/-!
# A result in JSON

A command that reports a result in JSON puts the result itself there if JSON can hold it, and else the
text that shows the whole result (`World.jsonSafe`).  Whatever it puts there can be written, and would be
put there again, so a result never keeps the object about it from being printed: the lines on the console
and the counters are all that can (`Command.reportSuccess_of_presented`).  The result itself is there
exactly if it is built finitely out of what JSON knows (`World.Native`); to occur more than once is no
hindrance.

The one thing that may be missing is the text.  It is there whenever nothing that it tells of stands in
its way (`World.Tellable`), and it is not for a program that is made of something without a name, which has
a text nowhere and so ends the report (`World.repr?_of_unnamed`).  The main result is
`World.jsonSafe_presents`.
-/

namespace EffectGraph

namespace World

variable {w : World} {v safe : Value}

/-- **JSON can hold the value as it is:** it is built finitely out of none, truth values, numbers and texts
with lists, tuples and dictionaries under such keys, no container in it contains itself, and no number in
it has too many digits. -/
structure Native (w : World) (v : Value) : Prop where
  plain : w.Plain v
  acyclic : ¬ w.Circular v
  legible : w.Legible v

theorem native_iff (hstamps : 0 < w.stamps) (hfrozen : w.Unfrozen v) :
    (∃ text, (w.spell v).json? = .ok text) ↔ w.Native v :=
  (exists_json?_spell_iff hstamps hfrozen).trans
    ⟨fun ⟨hplain, hacyclic, hlegible⟩ => ⟨hplain, hacyclic, hlegible⟩,
      fun h => ⟨h.plain, h.acyclic, h.legible⟩⟩

theorem jsonSafe_of_json {text : String} (htext : (w.spell v).json? = .ok text) :
    w.jsonSafe v = .ok v := by
  simp only [jsonSafe, htext]

theorem jsonSafe_of_no_json (hno : ¬ ∃ text, (w.spell v).json? = .ok text) :
    w.jsonSafe v = (w.repr? v).map .str := by
  cases hjson : (w.spell v).json? with
  | ok text => exact absurd ⟨text, hjson⟩ hno
  | error why => simp only [jsonSafe, hjson]

/-- **What is safe to write stays as it is.** -/
theorem jsonSafe_idempotent (hsafe : w.jsonSafe v = .ok safe) : w.jsonSafe safe = .ok safe := by
  obtain ⟨text, htext⟩ := Command.exists_json?_of_jsonSafe hsafe
  exact jsonSafe_of_json htext

/-- **A program made of something that has no name has no text:** its text is a look at that name. -/
theorem repr?_of_unnamed {stamp : Nat} {target : Value}
    (hunnamed : w.qualifiedName? (w.wrappedBy (.program stamp target) target) = none) :
    w.repr? (.program stamp target) =
      .error (.noAttribute (w.wrappedBy (.program stamp target) target).typePath "__qualname__") := by
  rw [repr?, spellOut, spellWith, Datum.repr?, programText]
  simp only [hunnamed]

end World

namespace Command

/-! ### The report -/

section reports

variable {w : World} {v safe : Value} {request : Request}

/-- What a report in JSON tells of a result. -/
def resultEntries (w : World) (program : String) (v safe : Value) : List (String × Datum) :=
  [("status", .str "ok"), ("program", .str program), ("result", w.spell safe),
    ("result_type", .str v.typeName)]

/-- What it tells besides: the lines on the console, and the counters if they are asked for. -/
def otherEntries (w : World) (request : Request) (output : Option (List Value))
    (stats : List (Value × Value)) : List (String × Datum) :=
  outputEntry w output ++ if request.stats then [("stats", statsDatum w stats)] else []

/-- **The result does not keep the object about it from being printed:** it is printed on one line if all
that it tells besides can be written, and refused if not. -/
structure Carries (w : World) (v safe : Value) (request : Request) (program : String)
    (output : Option (List Value)) (stats : List (Value × Value)) : Prop where
  printed : (∀ e ∈ otherEntries w request output stats, ∃ t, e.2.json? = .ok t) →
    ∃ text, objectText? (resultEntries w program v safe ++ otherEntries w request output stats) =
      .ok text ∧ OneLine text ∧
        reportSuccess request program output v stats w = .ok "" (w.printed (text ++ "\n"))
  refused : (¬ ∀ e ∈ otherEntries w request output stats, ∃ t, e.2.json? = .ok t) →
    ∃ why, reportSuccess request program output v stats w =
      .error (.raised (Problem.notWritable why).fault) w

theorem reportSuccess_of_presented (hformat : request.format = .json) (hsafe : w.jsonSafe v = .ok safe)
    (program : String) (output : Option (List Value)) (stats : List (Value × Value)) :
    Carries w v safe request program output stats := by
  have hresult : ∀ e ∈ resultEntries w program v safe, ∃ t, e.2.json? = .ok t := by
    obtain ⟨text, htext⟩ := exists_json?_of_jsonSafe hsafe
    simp only [resultEntries, List.forall_mem_cons]
    exact ⟨⟨_, rfl⟩, ⟨_, rfl⟩, ⟨_, htext⟩, ⟨_, rfl⟩, List.forall_mem_nil _⟩
  have hobject : successObject program request.stats output v stats w =
      printObject (resultEntries w program v safe ++ otherEntries w request output stats) w := by
    rw [otherEntries, ← List.append_assoc]
    exact Eff.bind_get.trans (Eff.bind_of_ok (Eff.ofExcept_of_ok hsafe))
  have hreport : reportSuccess request program output v stats w =
      (do successObject program request.stats output v stats; return "" : Eff String) w := by
    unfold reportSuccess
    rw [Eff.bind_of_ok (echo_json hformat output w), hformat]
    rfl
  refine ⟨fun hother => ?_, fun hother => ?_⟩
  · obtain ⟨text, htext, honeLine, hprint⟩ :=
      exists_printObject (w := w) (List.forall_mem_append.2 ⟨hresult, hother⟩)
    exact ⟨text, htext, honeLine, hreport.trans (Eff.bind_of_ok (hobject.trans hprint))⟩
  · have hall : ¬ ∀ e ∈ resultEntries w program v safe ++ otherEntries w request output stats,
        ∃ t, e.2.json? = .ok t := fun hall => hother (List.forall_mem_append.1 hall).2
    obtain ⟨why, hprint⟩ := exists_printObject_refusal hall w
    exact ⟨why, hreport.trans (Eff.bind_of_error (hobject.trans hprint))⟩

end reports

end Command

namespace World

variable {w : World} {v : Value}

/-- **What stands for a value in JSON** in a world in which something has been made.  It is the value itself
exactly if JSON can hold it as it is, and else the text that shows it, whole.  Whenever everything that
this text tells of can be told, there is something to stand for the value.  What stands for it can be
written, stands for itself, and does not keep a report from being printed.  Nothing stands for a program
that is made of something without a name. -/
theorem jsonSafe_presents (hstamps : 0 < w.stamps) (hfrozen : w.Unfrozen v) :
    (w.jsonSafe v = .ok v ↔ w.Native v) ∧
    (¬ w.Native v → w.jsonSafe v = (w.repr? v).map .str) ∧
    (w.Tellable v → ∃ safe, w.jsonSafe v = .ok safe) ∧
    (∀ safe, w.jsonSafe v = .ok safe →
      (∃ text, (w.spell safe).json? = .ok text) ∧ w.jsonSafe safe = .ok safe ∧
        ∀ (request : Command.Request) program output stats, request.format = .json →
          Command.Carries w v safe request program output stats) ∧
    ∀ stamp target, v = .program stamp target → w.qualifiedName? (w.wrappedBy v target) = none →
      w.jsonSafe v = .error (.noAttribute (w.wrappedBy v target).typePath "__qualname__") := by
  have hnative := native_iff hstamps hfrozen
  have hunnative : ¬ w.Native v → w.jsonSafe v = (w.repr? v).map .str :=
    fun hno => jsonSafe_of_no_json (mt hnative.1 hno)
  refine ⟨⟨fun hsafe => ?_, fun hv => ?_⟩, hunnative, fun hv => ?_, fun safe hsafe => ?_, ?_⟩
  · exact hnative.1 (Command.exists_json?_of_jsonSafe hsafe)
  · obtain ⟨text, htext⟩ := hnative.2 hv
    exact jsonSafe_of_json htext
  · by_cases hjson : ∃ text, (w.spell v).json? = .ok text
    · obtain ⟨text, htext⟩ := hjson
      exact ⟨v, jsonSafe_of_json htext⟩
    · obtain ⟨text, htext⟩ := hv.exists_repr?
      refine ⟨.str text, ?_⟩
      rw [jsonSafe_of_no_json hjson, htext]
      rfl
  · exact ⟨Command.exists_json?_of_jsonSafe hsafe, jsonSafe_idempotent hsafe,
      fun request program output stats hformat =>
        Command.reportSuccess_of_presented hformat hsafe program output stats⟩
  · rintro stamp target rfl hunnamed
    have hno : ¬ w.Native (.program stamp target) := fun hv => nomatch hv.plain
    rw [hunnative hno, repr?_of_unnamed hunnamed]
    rfl

/-- A list that holds another one twice, and one that holds itself. -/
def knotted : World :=
  { Script.SessionInput.recorded with lists := #[#[.list 1, .list 1], #[.int 1], #[.list 2]] }

/-- Sharing is kept, and a knot is told. -/
theorem jsonSafe_presents_knotted :
    0 < knotted.stamps ∧ knotted.Unfrozen (.list 0) ∧ knotted.Unfrozen (.list 2) ∧
      knotted.Native (.list 0) ∧ knotted.jsonSafe (.list 0) = .ok (.list 0) ∧
      ¬ knotted.Native (.list 2) ∧ knotted.jsonSafe (.list 2) = .ok (.str "[[...]]") := by
  have hstamps : 0 < knotted.stamps := by decide
  have hshapes {a : Nat} : ∀ y, knotted.Within (.list a) y → (∃ b, y = .list b) ∨ y = .int 1 := by
    intro y hy
    induction hy with
    | refl => exact .inl ⟨a, rfl⟩
    | tail _ hxy ih =>
      rcases ih with ⟨b, rfl⟩ | rfl
      · cases hxy with
        | list hv =>
          match b with
          | 0 => exact .inl ⟨1, by simpa [knotted, listItems] using hv⟩
          | 1 => exact .inr (by simpa [knotted, listItems] using hv)
          | 2 => exact .inl ⟨2, by simpa [knotted, listItems] using hv⟩
          | _ + 3 => exact absurd hv (Array.not_mem_empty _)
      · cases hxy
  have hunfrozen (a : Nat) : knotted.Unfrozen (.list a) := by
    intro y hy
    rcases hshapes y hy with ⟨b, rfl⟩ | rfl <;> rfl
  have hshared : knotted.jsonSafe (.list 0) = .ok (.list 0) := rfl
  have hknot : ¬ knotted.Native (.list 2) := by
    intro hv
    have hholds : knotted.Holds (.list 2) (.list 2) := .list (by simp [knotted, listItems])
    exact hv.acyclic ⟨.list 2, .list 2, .list 2, .refl, .single hholds, rfl, rfl, rfl⟩
  refine ⟨hstamps, hunfrozen 0, hunfrozen 2, (jsonSafe_presents hstamps (hunfrozen 0)).1.1 hshared,
    hshared, hknot, ?_⟩
  rw [(jsonSafe_presents hstamps (hunfrozen 2)).2.1 hknot]
  rfl

end World
end EffectGraph
