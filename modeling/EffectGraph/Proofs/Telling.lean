import EffectGraph.Proofs.Commands
import EffectGraph.Proofs.Stamps

/-!
# What a command tells of its failures

Whatever ends a request, an ending of the command is made of it, and only here: `execute` catches what
the carrying out of the request raises and reports it.  The report itself is made of three things that
the program may have had a hand in, the text of the fault, what lies behind the fault, and the values
that were written to a scripted console.  What lies behind a fault never gets in the way
(`exists_causeEntry`).  The other two can: a fault may have no text, and a value that was written may
have no place in a JSON report.  What is raised then is raised from the report, and nothing catches it
any more.

`Answers` says what comes of a failure that is to be reported, `Accounts` what comes of every way in
which a request can end, and `Accountable` in which of them the command gives a code (`failures_told`).
The reasons for which the library refuses to go on and those for which a command stops are told in every
case (`Refusal`).
-/

namespace EffectGraph

/-! ### Refusals -/

/-- A failure is none of the interrupts that a command treats in their own way. -/
theorem FaultKind.not_isA_of_isFailure {kind : FaultKind} (hkind : kind.isFailure = true) :
    kind.isA .keyboardInterrupt = false ∧ kind.isA .systemExit = false := by
  cases kind <;> first | exact ⟨rfl, rfl⟩ | cases hkind

/-- **A fault that says why the library or a command refuses to go on:** a failure with the same text
in every world. -/
structure Refusal (f : Fault Value) (message : String) : Prop where
  isFailure : f.kind.isFailure = true
  str? : ∀ u : World, u.str? (.fault f) = .ok message

/-- A fault that is made of a message alone has the message as its text. -/
theorem Refusal.of_message {kind : FaultKind} (hfailure : kind.isFailure = true)
    (hkey : kind.isA .keyError = false) {detail : FaultDetail Value}
    (hdetail : detail = .plain ∨ ∃ name object, detail = .lookup name object) (message : String) :
    Refusal ⟨kind, [.str message], detail, 0⟩ message := by
  have hmessage :
      World.faultMessage kind (.tuple [.str message]) .none .none [] [] false = .ok message := by
    simp only [World.faultMessage, Datum.message?, hkey, List.isEmpty_nil, Bool.not_true, Bool.or_false,
      Bool.and_false, Bool.false_eq_true, if_false]
    rfl
  refine ⟨hfailure, fun u => ?_⟩
  rcases hdetail with rfl | ⟨name, object, rfl⟩ <;> exact hmessage

theorem Complaint.refusal (c : Complaint) : Refusal c.fault c.message := by
  have hkind : c.kind.isFailure = true ∧ c.kind.isA .keyError = false := by
    cases c <;> exact ⟨rfl, rfl⟩
  have hdetail : c.detail = .plain ∨ ∃ name object, c.detail = .lookup name object := by
    unfold detail
    split
    · exact .inr ⟨_, _, rfl⟩
    · exact .inr ⟨_, _, rfl⟩
    · exact .inl rfl
  exact .of_message hkind.1 hkind.2 hdetail c.message

namespace Command

theorem Problem.refusal (p : Problem) : Refusal p.fault p.message := by
  have hkind : p.kind.isFailure = true ∧ p.kind.isA .keyError = false := by
    cases p with
    | unreadable path why => cases why <;> exact ⟨rfl, rfl⟩
    | notWritable why => cases why <;> exact ⟨rfl, rfl⟩
    | _ => exact ⟨rfl, rfl⟩
  exact .of_message hkind.1 hkind.2 (.inl rfl) p.message

/-- A refusal that nothing catches ends the command with its kind and its message. -/
theorem ofFault_of_refusal {f : Fault Value} {message : String} (hf : Refusal f message)
    (u : World) : Ending.ofFault u f = .escaped ⟨f.kind.name, message⟩ := by
  unfold Ending.ofFault Script.reportFaultValue
  rw [(FaultKind.not_isA_of_isFailure hf.isFailure).2, hf.str? u]
  rfl

/-! ### What lies behind a fault -/

/-- A fault has nothing of its own under this name, or something is found there. -/
theorem exists_ownAttribute?_cause (f : Fault Value) (w : World) :
    ∃ found, Script.ownAttribute? (.fault f) "cause" w = .ok found w := by
  obtain ⟨kind, args, detail, stamp⟩ := f
  cases hfield : Script.field? w (.fault ⟨kind, args, detail, stamp⟩) "cause" with
  | some v =>
    refine ⟨some v, ?_⟩
    unfold Script.ownAttribute?
    rw [Eff.bind_get, hfield]
    rfl
  | none =>
    have hkind : ∃ found, Script.kindField? ⟨kind, args, detail, stamp⟩ "cause" w = .ok found w := by
      unfold Script.kindField?
      by_cases hsystem : (!kind.isA .osError) = true
      · simp only [hsystem]
        exact ⟨none, rfl⟩
      · simp only [hsystem]
        cases detail <;> exact ⟨_, rfl⟩
    obtain ⟨found, hfound⟩ := hkind
    refine ⟨found, ?_⟩
    unfold Script.ownAttribute?
    rw [Eff.bind_get, hfield]
    exact hfound

/-- Reading it gives something, or the complaint that there is nothing, and takes at most stamps. -/
theorem readAttribute_cause (f : Fault Value) (w : World) :
    (∃ v w', Script.readAttribute (.fault f) "cause" w = .ok v w' ∧ w.Restamped w') ∨
      ∃ missed, Script.readAttribute (.fault f) "cause" w = .error (.raised missed) w ∧
        missed.kind.isA .attributeError = true := by
  obtain ⟨found, hown⟩ := exists_ownAttribute?_cause f w
  have hread : Script.readAttribute (.fault f) "cause" w = _ := Eff.bind_of_ok hown
  rw [hread]
  cases found with
  | some v => exact .inl ⟨v, w, rfl, .refl w⟩
  | none =>
    simp only
    rw [Eff.bind_get]
    cases hinherited : Script.inherited? w (Value.fault f).classOf "cause" with
    | none => exact .inr ⟨_, rfl, rfl⟩
    | some held =>
      cases held with
      | method m => exact .inl ⟨_, w, rfl, .refl w⟩
      | plain v => exact .inl (Script.settle_restamps.1 v w)

/-- **What lies behind a fault never stands in the way of its report:** there is nothing, or it has a
kind. -/
theorem exists_causeEntry (f : Fault Value) (w : World) :
    ∃ cause w', causeEntry f w = .ok cause w' ∧ w.Restamped w' ∧
      (cause = [] ∨ ∃ name, cause = [("cause", .str name)]) := by
  rcases readAttribute_cause f w with ⟨v, w', hread, hw'⟩ | ⟨missed, hread, hmissed⟩
  · have hattribute : Script.attribute? (.fault f) "cause" w = .ok (some v) w' :=
      Eff.bind_of_ok (Eff.attempt_of_ok hread)
    have hentry : causeEntry f w = _ := Eff.bind_of_ok hattribute
    rw [hentry]
    cases v with
    | none => exact ⟨[], w', rfl, hw', .inl rfl⟩
    | _ => exact ⟨_, w', rfl, hw', .inr ⟨_, rfl⟩⟩
  · have hattribute : Script.attribute? (.fault f) "cause" w = .ok none w := by
      refine (Eff.bind_of_ok (Eff.attempt_of_raised hread)).trans ?_
      simp only [hmissed]
      rfl
    exact ⟨[], w, Eff.bind_of_ok hattribute, .refl w, .inl rfl⟩

/-! ### The report of a failure -/

/-- Can what was written to a console be listed in JSON? -/
def Listable (u : World) (output : Option (List Value)) : Prop :=
  ∀ lines, output = some lines → ∀ line ∈ lines, ∃ text, (u.spell line).json? = .ok text

/-- What is told in JSON of a failure, with what lies behind it and what was written before. -/
def faultEntries (u : World) (f : Fault Value) (message : String) (cause : List (String × Datum))
    (output : Option (List Value)) : List (String × Datum) :=
  [("status", .str "error"), ("error", .str f.kind.name), ("message", .str message)] ++ cause ++
    outputEntry u output

/-- **A report that tells of a failure** and gives the code 1: as a text on the error stream, or in one
object on the output stream. -/
structure Tells (report : CommandReport) (format : Format) (f : Fault Value) (message : String)
    (output : Option (List Value)) (u : World) : Prop where
  text : format ≠ .json →
    Leaves report 1 u.output (debugText u ++ ("Error: " ++ message ++ "\n"))
  json : format = .json → ∃ cause text, (cause = [] ∨ ∃ name, cause = [("cause", .str name)]) ∧
    objectText? (faultEntries u f message cause output) = .ok text ∧ OneLine text ∧
    Leaves report 1 (u.output ++ (text ++ "\n")) (debugText u)

/-- A command from which a failure escapes: it gives no code and tells nothing. -/
structure Escapes (report : CommandReport) (kind : FaultKind) (message : String) (u : World) : Prop where
  ending : report.ending = .escaped ⟨kind.name, message⟩
  output : report.output = u.output
  errors : report.errors = debugText u

/-- **What comes of a failure that is to be reported:** it is told if it has a text and, in JSON, if what
was written can be listed.  Otherwise the refusal of the one or the other escapes. -/
structure Answers (report : CommandReport) (format : Format) (f : Fault Value)
    (output : Option (List Value)) (u : World) : Prop where
  told {message : String} : u.str? (.fault f) = .ok message → (format = .json → Listable u output) →
    Tells report format f message output u
  unlisted {message : String} : u.str? (.fault f) = .ok message → format = .json →
    ¬ Listable u output → ∃ why, let p := Problem.notWritable why; Escapes report p.kind p.message u
  unworded {c : Complaint} : u.str? (.fault f) = .error c → Escapes report c.kind c.message u

section reports

variable {format : Format} {f : Fault Value} {message : String} {cause : List (String × Datum)}
  {output : Option (List Value)} {u : World}

theorem forall_outputEntry_iff :
    (∀ e ∈ outputEntry u output, ∃ t, e.2.json? = .ok t) ↔ Listable u output := by
  cases output with
  | none => simp [outputEntry, Listable]
  | some lines =>
    simp only [outputEntry, List.forall_mem_singleton, Datum.exists_json?_list_iff,
      List.forall_mem_map, Listable, Option.some.injEq, forall_eq']

/-- The lines are all that may keep a failure out of JSON. -/
theorem listable_iff (f : Fault Value) (message : String)
    (hcause : cause = [] ∨ ∃ name, cause = [("cause", .str name)]) :
    (∀ e ∈ faultEntries u f message cause output, ∃ t, e.2.json? = .ok t) ↔ Listable u output := by
  have htexts : ∀ e ∈ [("status", Datum.str "error"), ("error", .str f.kind.name),
      ("message", .str message)] ++ cause, ∃ t, e.2.json? = .ok t := by
    rcases hcause with rfl | ⟨name, rfl⟩ <;>
      simp only [List.append_nil, List.cons_append, List.nil_append, List.forall_mem_cons] <;>
      exact ⟨⟨_, rfl⟩, ⟨_, rfl⟩, ⟨_, rfl⟩, by simp [Datum.json?]⟩
  rw [faultEntries, List.forall_mem_append, forall_outputEntry_iff]
  exact and_iff_right htexts

/-- The end of a command that has a failure to report. -/
def reportEnded (format : Format) (f : Fault Value) (output : Option (List Value)) (u : World) :
    CommandReport :=
  ended ((do return ⟨1, ← reportFailure format f output⟩ : Eff Exit) u)

theorem reportEnded_of_ok {text : String} {u' : World}
    (hreport : reportFailure format f output u = .ok text u') :
    Leaves (reportEnded format f output u) 1 u'.output (debugText u' ++ text) := by
  rw [reportEnded, Eff.bind_of_ok hreport]
  exact ⟨rfl, rfl, rfl⟩

theorem reportEnded_of_refusal {raised : Fault Value} {u' : World} (hraised : Refusal raised message)
    (hreport : reportFailure format f output u = .error (.raised raised) u') (hu : u.Restamped u') :
    Escapes (reportEnded format f output u) raised.kind message u := by
  rw [reportEnded, Eff.bind_of_error hreport]
  obtain ⟨n, -, rfl⟩ := hu
  exact ⟨ofFault_of_refusal hraised _, rfl, rfl⟩

/-- **What comes of a failure that is reported.** -/
theorem answers_reportEnded (format : Format) (f : Fault Value) (output : Option (List Value))
    (u : World) : Answers (reportEnded format f output u) format f output u := by
  obtain ⟨cause, u', hentry, hu', hcause⟩ := exists_causeEntry f u
  -- once the failure has a text, the report in JSON comes down to printing the object
  have hjson {message : String} (hmessage : u.str? (.fault f) = .ok message)
      (hformat : format = .json) : reportFailure format f output u =
        (do printObject (faultEntries u f message cause output); return "" : Eff String) u' := by
    rw [hformat]
    exact Eff.bind_get.trans ((Eff.bind_of_ok (Eff.ofExcept_of_ok hmessage)).trans
      (Eff.bind_of_ok hentry))
  refine ⟨fun {message} hmessage hlistable => ⟨fun hformat => ?_, fun hformat => ?_⟩,
    fun {message} hmessage hformat hlistable => ?_, fun {c} hrefused => ?_⟩
  · have hreport : reportFailure format f output u = .ok ("Error: " ++ message ++ "\n") u := by
      refine Eff.bind_get.trans ((Eff.bind_of_ok (Eff.ofExcept_of_ok hmessage)).trans ?_)
      rw [if_neg (by simpa using hformat)]
      rfl
    exact reportEnded_of_ok hreport
  · obtain ⟨text, htext, honeLine, hprint⟩ :=
      exists_printObject (w := u') ((listable_iff f message hcause).mpr (hlistable hformat))
    have hreport := (hjson hmessage hformat).trans (Eff.bind_of_ok hprint)
    have hleaves := reportEnded_of_ok hreport
    obtain ⟨n, -, rfl⟩ := hu'
    exact ⟨cause, text, hcause, htext, honeLine, hleaves.ending, hleaves.output,
      hleaves.errors.trans (String.append_empty)⟩
  · have hentries := (not_congr (listable_iff f message hcause)).mpr hlistable
    obtain ⟨why, hprint⟩ := exists_printObject_refusal hentries u'
    exact ⟨why, reportEnded_of_refusal (Problem.refusal _)
      ((hjson hmessage hformat).trans (Eff.bind_of_error hprint)) hu'⟩
  · have hreport : reportFailure format f output u = .error (.raised c.fault) u :=
      Eff.bind_get.trans (Eff.bind_of_error (Eff.ofExcept_of_error hrefused))
    exact reportEnded_of_refusal c.refusal hreport (.refl u)

/-- A failure that is answered gives the command a code exactly if it is told. -/
theorem Answers.code_iff {report : CommandReport} (hanswers : Answers report format f output u) :
    (∃ n, report.ending = .code n) ↔
      (∃ message, u.str? (.fault f) = .ok message) ∧ (format = .json → Listable u output) := by
  have hescapes {kind : FaultKind} {message : String} (h : Escapes report kind message u) :
      ¬ ∃ n, report.ending = .code n := by
    rintro ⟨n, hn⟩
    cases h.ending.symm.trans hn
  constructor
  · intro hcode
    cases hmessage : u.str? (.fault f) with
    | error c => exact absurd hcode (hescapes (hanswers.unworded hmessage))
    | ok message =>
      refine ⟨⟨message, rfl⟩, fun hformat => Classical.byContradiction fun hlistable => ?_⟩
      obtain ⟨why, hwhy⟩ := hanswers.unlisted hmessage hformat hlistable
      exact hescapes hwhy hcode
  · rintro ⟨⟨message, hmessage⟩, hlistable⟩
    have htells := hanswers.told hmessage hlistable
    by_cases hformat : format = .json
    · obtain ⟨cause, text, -, -, -, hleaves⟩ := htells.json hformat
      exact ⟨1, hleaves.ending⟩
    · exact ⟨1, (htells.text hformat).ending⟩

end reports

/-! ### Requests and their ends -/

/-- **What a command makes of the way its request ended.** -/
structure Accounts (report : CommandReport) (format : Format)
    (carried : EStateM.Result Signal World Conclusion) : Prop where
  reported {errorText : String} {u : World} : carried = .ok (.reported errorText) u →
    Leaves report 0 u.output (debugText u ++ errorText)
  failed {f : Fault Value} {output : Option (List Value)} {u : World} :
    carried = .ok (.failed f output) u →
      (∃ message, u.str? (.fault f) = .ok message) ∧ Answers report format f output u
  interrupted {f : Fault Value} {u : World} : carried = .error (.raised f) u →
    f.kind.isA .keyboardInterrupt = true →
      Leaves report 130 u.output (debugText u ++ "Interrupted\n")
  raised {f : Fault Value} {u : World} : carried = .error (.raised f) u → f.kind.isFailure = true →
    Answers report format f none u
  passed {f : Fault Value} {u : World} : carried = .error (.raised f) u →
    f.kind.isA .keyboardInterrupt = false → f.kind.isFailure = false →
      report = ⟨.ofFault u f, u.output, debugText u, u.log⟩

/-- **A way in which a request can end that is accounted for by a code:** a report, a failure of the
program whose lines can be listed where they have to be, an interrupt from the keyboard, or any other
failure with a text. -/
inductive Accountable (format : Format) : EStateM.Result Signal World Conclusion → Prop
  | reported {errorText u} : Accountable format (.ok (.reported errorText) u)
  | failed {f output u} (hlistable : format = .json → Listable u output) :
    Accountable format (.ok (.failed f output) u)
  | interrupted {f u} (hf : f.kind.isA .keyboardInterrupt = true) :
    Accountable format (.error (.raised f) u)
  | raised {f u message} (hf : f.kind.isFailure = true) (hmessage : u.str? (.fault f) = .ok message) :
    Accountable format (.error (.raised f) u)

section requests

variable {h : Host} {fuel : Nat} {catalog : Catalog} {contents : Except FileProblem (List UInt8)}
  {request : Request} {w : World}

/-- A run that has failed is left to be reported only once its failure has been put into words. -/
theorem worded_of_failed {f : Fault Value} {output : Option (List Value)} {u : World}
    (hperform : perform h fuel catalog contents request w = .ok (.failed f output) u) :
    ∃ message, u.str? (.fault f) = .ok message := by
  obtain ⟨console, w₁, -, hrest⟩ := Eff.exists_of_bind_ok hperform
  cases hprogram : request.program with
  | nothing =>
    rw [hprogram] at hrest
    cases hrest
  | just program =>
    rw [hprogram] at hrest
    obtain ⟨symbol, w₂, -, hrest⟩ := Eff.exists_of_bind_ok hrest
    obtain ⟨node, w₃, -, hrest⟩ := Eff.exists_of_bind_ok hrest
    obtain ⟨r, w₄, -, hconclude⟩ := Eff.exists_of_bind_ok hrest
    unfold conclude at hconclude
    cases hresult : r.result with
    | ok value =>
      rw [hresult] at hconclude
      obtain ⟨output, w₅, -, hrest⟩ := Eff.exists_of_bind_ok hconclude
      obtain ⟨stats, w₆, -, hrest⟩ := Eff.exists_of_bind_ok hrest
      obtain ⟨entries, w₇, -, hrest⟩ := Eff.exists_of_bind_ok hrest
      obtain ⟨errorText, w₈, -, hrest⟩ := Eff.exists_of_bind_ok hrest
      cases hrest
    | error cause =>
      rw [hresult] at hconclude
      obtain ⟨lines, w₅, -, hrest⟩ := Eff.exists_of_bind_ok hconclude
      obtain ⟨-, w₆, -, hrest⟩ := Eff.exists_of_bind_ok hrest
      rw [Eff.bind_get] at hrest
      obtain ⟨message, w₇, hmessage, hrest⟩ := Eff.exists_of_bind_ok hrest
      cases hrest
      obtain ⟨htext, hworld⟩ := Eff.of_ofExcept_ok hmessage
      rw [hworld]
      exact ⟨message, htext⟩

/-- **What a request ends with** is turned into a code or raised once more. -/
theorem accounts_execute :
    Accounts (ended (execute h fuel catalog contents request w)) request.format
      (perform h fuel catalog contents request w) := by
  cases hperform : perform h fuel catalog contents request w with
  | ok conclusion u =>
    have hattempt := Eff.attempt_of_ok hperform
    cases conclusion with
    | reported errorText =>
      refine ⟨?_, nofun, nofun, nofun, nofun⟩
      rintro _ _ ⟨⟩
      rw [execute, Eff.bind_of_ok hattempt]
      exact ⟨rfl, rfl, rfl⟩
    | failed f output =>
      refine ⟨nofun, ?_, nofun, nofun, nofun⟩
      rintro _ _ _ ⟨⟩
      rw [execute, Eff.bind_of_ok hattempt]
      exact ⟨worded_of_failed hperform, answers_reportEnded request.format f output u⟩
  | error signal u =>
    cases signal with
    | exhausted => exact ⟨nofun, nofun, nofun, nofun, nofun⟩
    | raised f =>
      have hattempt := Eff.attempt_of_raised hperform
      refine ⟨nofun, nofun, ?_, ?_, ?_⟩
      · rintro _ _ ⟨⟩ hinterrupt
        rw [execute, Eff.bind_of_ok hattempt]
        simp only [hinterrupt]
        exact ⟨rfl, rfl, rfl⟩
      · rintro _ _ ⟨⟩ hfailure
        rw [execute, Eff.bind_of_ok hattempt]
        simp only [(FaultKind.not_isA_of_isFailure hfailure).1, hfailure]
        exact answers_reportEnded request.format f none u
      · rintro _ _ ⟨⟩ hinterrupt hfailure
        rw [execute, Eff.bind_of_ok hattempt]
        simp only [hinterrupt, hfailure]
        rfl

theorem ofFault_ne_code (u : World) (f : Fault Value) (n : Nat) : Ending.ofFault u f ≠ .code n := by
  unfold Ending.ofFault
  split <;> nofun

/-- A command gives a code exactly if the end of its request is accountable, provided that there is
one. -/
theorem Accounts.code_iff {report : CommandReport} {format : Format}
    {carried : EStateM.Result Signal World Conclusion} (haccounts : Accounts report format carried)
    (hended : ∀ u, carried ≠ .error .exhausted u) :
    (∃ n, report.ending = .code n) ↔ Accountable format carried := by
  constructor
  · intro hcode
    cases carried with
    | ok conclusion u =>
      cases conclusion with
      | reported errorText => exact .reported
      | failed f output => exact .failed ((haccounts.failed rfl).2.code_iff.mp hcode).2
    | error signal u =>
      cases signal with
      | exhausted => exact absurd rfl (hended u)
      | raised f =>
        cases hinterrupt : f.kind.isA .keyboardInterrupt with
        | true => exact .interrupted hinterrupt
        | false =>
          cases hfailure : f.kind.isFailure with
          | true =>
            obtain ⟨⟨message, hmessage⟩, -⟩ := (haccounts.raised rfl hfailure).code_iff.mp hcode
            exact .raised hfailure hmessage
          | false =>
            obtain ⟨n, hn⟩ := hcode
            rw [haccounts.passed rfl hinterrupt hfailure] at hn
            exact absurd hn (ofFault_ne_code u f n)
  · intro haccountable
    cases haccountable with
    | reported => exact ⟨0, (haccounts.reported rfl).ending⟩
    | failed hlistable =>
      obtain ⟨hworded, hanswers⟩ := haccounts.failed rfl
      exact hanswers.code_iff.mpr ⟨hworded, hlistable⟩
    | interrupted hinterrupt => exact ⟨130, (haccounts.interrupted rfl hinterrupt).ending⟩
    | raised hfailure hmessage =>
      exact (haccounts.raised rfl hfailure).code_iff.mpr ⟨⟨_, hmessage⟩, fun _ => nofun⟩

end requests

section commands

variable {catalog : Catalog} {readFile : String → Except FileProblem (List UInt8)}
  {args : List String} {request : Request} {w : World}

/-- What the carrying out of a request comes to, over the files that can be read. -/
def carriedOut (catalog : Catalog) (readFile : String → Except FileProblem (List UInt8))
    (request : Request) (w : World) : EStateM.Result Signal World Conclusion :=
  perform (Script.host Script.ampleFuel) Script.ampleFuel catalog
    (match request.input with
      | some (.just path) => readFile path
      | _ => .ok [])
    request (recordMessages request.debug w)

/-- A command carries out its request and reports what that comes to. -/
theorem accounts_run (hrequest : Request.ofArguments args = .ok request) :
    Accounts (run catalog readFile args w) request.format
      (carriedOut catalog readFile request w) := by
  unfold run
  rw [hrequest]
  exact accounts_execute

/-- **No failure escapes a command but for two reasons.**  A command line that is accepted gives the
code 0 with what a run has to show, the code 130 for an interrupt from the keyboard, and the code 1 with
a report for every failure, whichever stage it comes from; other interrupts pass through.  The report is
made unless the failure has no text, or the program has written to a scripted console what has no place
in the JSON report that was asked for: then a failure escapes from the report itself.  The refusals of
the library and of the command are always told. -/
theorem failures_told (hrequest : Request.ofArguments args = .ok request) :
    let report := run catalog readFile args w
    let carried := carriedOut catalog readFile request w
    Accounts report request.format carried ∧
    ((∀ u, carried ≠ .error .exhausted u) →
      ((∃ n, report.ending = .code n) ↔ Accountable request.format carried)) ∧
    (∀ f message u, Refusal f message → carried = .error (.raised f) u →
      Tells report request.format f message none u) ∧
    (∀ c : Complaint, Refusal c.fault c.message) ∧ ∀ p : Problem, Refusal p.fault p.message := by
  intro report carried
  have haccounts : Accounts report request.format carried := accounts_run hrequest
  refine ⟨haccounts, haccounts.code_iff, ?_, Complaint.refusal, Problem.refusal⟩
  intro f message u hf hcarried
  exact (haccounts.raised hcarried hf.isFailure).told (hf.str? u) fun _ => nofun

end commands

/-! ### A fault without a text -/

/-- A fault about a number that is too long to be written. -/
def overlong : Fault Value := ⟨.valueError, [.int (Nat.pow 10 Numeral.digitLimit)], .plain, 0⟩

theorem str?_overlong (u : World) : u.str? (.fault overlong) = .error .tooManyDigits := by
  have htext {n : Int} (hn : Datum.writable n = false) :
      u.str? (.fault ⟨.valueError, [.int n], .plain, 0⟩) = .error .tooManyDigits := by
    have hnumber : u.str? (.fault ⟨.valueError, [.int n], .plain, 0⟩) = Datum.intText? n := rfl
    rw [hnumber, Datum.intText?, hn]
    rfl
  exact htext (by decide +kernel)

/-- A factory that takes nothing and raises a fault. -/
def raising (f : Fault Value) : Value := .callback 1 (.raiseFault (.fault f))

theorem nodeOf_raising (f : Fault Value) (path : String) (console : Value) (w : World) :
    nodeOf (Script.host Script.ampleFuel) path console (.value (raising f)) w =
      .error (.raised f) w := by
  have haccepts : acceptsArgument (raising f) = false := rfl
  have hcall : (Script.host Script.ampleFuel).call (raising f) [] [] w = .error (.raised f) w := rfl
  unfold nodeOf
  simp only [haccepts]
  exact Eff.bind_of_error hcall

/-- The fault of the factory cannot be told, and the refusal of its text escapes. -/
theorem failures_told_overlong :
    let report := run [⟨"p", [("m", .value (raising overlong))]⟩] (fun _ => .ok []) greetingLine
      Script.SessionInput.recorded
    Request.ofArguments greetingLine = .ok greetingRequest ∧ overlong.kind.isFailure = true ∧
      report.ending = .escaped ⟨"ValueError", Complaint.tooManyDigits.message⟩ ∧
      report.output = "" ∧ report.errors = "" := by
  intro report
  have hcarried : carriedOut [⟨"p", [("m", .value (raising overlong))]⟩] (fun _ => .ok [])
      greetingRequest Script.SessionInput.recorded = .error (.raised overlong) opened :=
    (Eff.bind_of_ok newConsole_recorded).trans ((Eff.bind_of_ok (find_held (raising overlong) opened)).trans
      (Eff.bind_of_error (nodeOf_raising overlong "p:m" (.scripted 1) opened)))
  have htold := @failures_told [⟨"p", [("m", .value (raising overlong))]⟩] (fun _ => .ok [])
    greetingLine greetingRequest Script.SessionInput.recorded ofArguments_greetingLine
  have hescapes := (htold.1.raised hcarried rfl).unworded (str?_overlong opened)
  exact ⟨ofArguments_greetingLine, rfl, hescapes.ending, hescapes.output, hescapes.errors⟩

end Command
end EffectGraph
