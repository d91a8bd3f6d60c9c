import EffectGraph.Proofs.Telling

/-!
# What becomes of the lines on a console

A program that runs on the lines of a file writes to a console that only the command can show.  The
command looks at that console once, after the run (`gather`), and makes a report of the run and of what
was written (`deliver`).  What a program has written is therefore lost if anything is raised before: a
factory that fails, a symbol that is no node, an option of the interpreter that is refused, an
interrupt (`Loses`).  After that, in text form the lines are printed first and nothing takes them back,
but a value without a text ends the printing; in JSON they are part of the one object, and go with it
when something else is reported in its place (`Delivers`).  The main result is `lines_shown`.
-/

namespace EffectGraph
namespace Command

/-! ### The stages of a request -/

section stages

variable (h : Host) (fuel : Nat) (catalog : Catalog) (request : Request) (program : String)

/-- **What a request comes to before anything is reported:** the report of the run, and what was written
to the console. -/
def gather (console : Value) : Eff (Machine.Report × Option (List Value)) := do
  let symbol ← catalog.find program
  let node ← nodeOf h program console symbol
  let r ← interpret h fuel request node
  return (r, ← writtenTo? h fuel console)

/-- **What is made of that.** -/
def deliver (r : Machine.Report) (output : Option (List Value)) : Eff Conclusion :=
  match r.result with
  | .error cause => do
    let f := reportedFault r cause
    echo request.format output
    let _ ← Eff.ofExcept ((← get).str? (.fault f))
    return .failed f output
  | .ok value => do
    let stats ← Script.statsEntries (← World.newStats r.stats)
    return .reported (← reportSuccess request program output value stats)

theorem conclude_eq (console : Value) (r : Machine.Report) :
    conclude h fuel request program console r =
      writtenTo? h fuel console >>= deliver request program r := by
  unfold conclude deliver
  cases r.result <;> rfl

/-- A request is carried out in these stages. -/
theorem perform_eq {request : Request} {program : String} (hprogram : request.program = .just program)
    (contents : Except FileProblem (List UInt8)) :
    perform h fuel catalog contents request = (do
      let console ← openConsole request contents
      let (r, output) ← gather h fuel catalog request program console
      deliver request program r output) := by
  unfold perform gather
  simp only [hprogram, conclude_eq, bind_assoc, pure_bind]

end stages

/-- A file that can be read becomes a console without lines. -/
theorem exists_openConsole {request : Request} {path : String} {bytes : List UInt8}
    {text : List Char} (hinput : request.input = some (.just path))
    (hpath : path.toList.contains forbiddenInPath = false) (htext : Utf8.decode bytes = .ok text)
    (w : World) :
    ∃ address w₁, openConsole request (.ok bytes) w = .ok (.scripted address) w₁ ∧
      Keeps w₁ address [] := by
  obtain ⟨address, w₁, hconsole, hkeeps⟩ := exists_newConsole
    ((Lines.split (Lines.normalize text)).map fun line => .str (String.ofList line)) w
  refine ⟨address, w₁, ?_, hkeeps⟩
  unfold openConsole
  rw [hinput]
  simp only [hpath, htext]
  exact hconsole

/-! ### The world that is reported -/

/-- The world in which a run is reported: the counters of a run that gave a value are an object by
then. -/
def reportWorld (w : World) (r : Machine.Report) : World :=
  match r.result with
  | .ok _ => counted w r
  | .error _ => w

/-- What can be read under each of some names can be read under all of them. -/
theorem exists_mapM {α β : Type} {f : α → Eff β} {w : World} {names : List α}
    (hf : ∀ name ∈ names, ∃ b, f name w = .ok b w) : ∃ bs, names.mapM f w = .ok bs w := by
  induction names with
  | nil => exact ⟨[], rfl⟩
  | cons name names ih =>
    obtain ⟨b, hb⟩ := hf name List.mem_cons_self
    obtain ⟨bs, hbs⟩ := ih fun n hn => hf n (List.mem_cons_of_mem _ hn)
    refine ⟨b :: bs, ?_⟩
    rw [List.mapM_cons, Eff.bind_of_ok hb, Eff.bind_of_ok hbs]
    rfl

/-- The counters can always be read, whatever scripts have given to them. -/
theorem exists_statsEntries (r : Machine.Report) (w : World) :
    ∃ stats, Script.statsEntries (.stats w.stats.size) (counted w r) = .ok stats (counted w r) := by
  refine exists_mapM fun name hname => ?_
  have hread : ∃ v, Script.readAttribute (.stats w.stats.size) name (counted w r) =
      .ok v (counted w r) := by
    rcases List.mem_append.mp hname with hfield | hduration
    · have hknown : ∀ name ∈ Stats.fieldNames.take 6, name ≠ "__dict__" ∧
          (Script.property? (.stats w.stats.size) name).isNone = true ∧
          ((Stats.fieldNames.zip r.stats.toList).lookup name).isSome = true := by
        simp only [Stats.fieldNames, List.take_succ_cons, List.take_zero, List.forall_mem_cons]
        exact ⟨⟨by decide, rfl, rfl⟩, ⟨by decide, rfl, rfl⟩, ⟨by decide, rfl, rfl⟩,
          ⟨by decide, rfl, rfl⟩, ⟨by decide, rfl, rfl⟩, ⟨by decide, rfl, rfl⟩, List.forall_mem_nil _⟩
      obtain ⟨hname, hproperty, hown⟩ := hknown name hfield
      obtain ⟨v, hv⟩ : ∃ v, Script.field? (counted w r) (.stats w.stats.size) name = some v := by
        rw [← Option.isSome_iff_exists, Script.field?, Script.ownFields, statsAt_counted,
          Option.isSome_or, hown, Bool.or_true]
      exact ⟨v, readAttribute_of_field hname (Option.isNone_iff_eq_none.mp hproperty) hv⟩
    · obtain rfl := List.mem_singleton.mp hduration
      exact ⟨_, readAttribute_duration r w⟩
  obtain ⟨v, hv⟩ := hread
  exact ⟨_, Eff.bind_of_ok hv⟩

/-- **A computation that comes to an end in a world,** whether it gives a value or raises a fault. -/
inductive EndsIn {α : Type} (w : World) : EStateM.Result Signal World α → Prop
  | value (a : α) : EndsIn w (.ok a w)
  | fault (f : Fault Value) : EndsIn w (.error (.raised f) w)

namespace EndsIn

variable {α β : Type} {x : Eff α} {w w₁ : World}

theorem ofExcept (a : Except Complaint α) : EndsIn w (Eff.ofExcept a w) := by
  cases a with
  | ok a => exact .value a
  | error c => exact .fault c.fault

theorem bind_of_ok {f : α → Eff β} {a : α} {u : World} (hx : x w = .ok a w₁)
    (hf : EndsIn u (f a w₁)) : EndsIn u ((x >>= f) w) := by
  rwa [Eff.bind_of_ok hx]

theorem bind_of_raised {f : α → Eff β} {fault : Fault Value} (hx : x w = .error (.raised fault) w₁) :
    EndsIn w₁ ((x >>= f) w) := by
  rw [Eff.bind_of_error hx]
  exact .fault fault

theorem map (hx : EndsIn w₁ (x w)) (f : α → β) : EndsIn w₁ ((do return f (← x) : Eff β) w) := by
  cases hxw : x w with
  | ok a u =>
    rw [hxw] at hx
    cases hx
    exact .bind_of_ok hxw (.value _)
  | error e u =>
    rw [hxw] at hx
    cases hx
    exact .bind_of_raised hxw

end EndsIn

/-! ### Lost lines -/

/-- **A report in which nothing of what was written appears:** the output stream holds what was on it, and
in JSON perhaps an object without such an entry. -/
structure Loses (report : CommandReport) (format : Format) (u : World) : Prop where
  text : format ≠ .json → report.output = u.output
  json : format = .json → report.output = u.output ∨ ∃ entries text, objectText? entries = .ok text ∧
    (∀ e ∈ entries, e.1 ≠ "output") ∧ report.output = u.output ++ (text ++ "\n")

section reports

variable {report : CommandReport} {format : Format} {f : Fault Value} {message : String}
  {cause : List (String × Datum)} {u : World}

theorem forall_faultEntries_ne (hcause : cause = [] ∨ ∃ name, cause = [("cause", .str name)]) :
    ∀ e ∈ faultEntries u f message cause none, e.1 ≠ "output" := by
  rcases hcause with rfl | ⟨name, rfl⟩ <;> simp [faultEntries, outputEntry]

theorem Answers.loses (hanswers : Answers report format f none u) : Loses report format u := by
  cases hmessage : u.str? (.fault f) with
  | error c =>
    have hescapes := hanswers.unworded hmessage
    exact ⟨fun _ => hescapes.output, fun _ => .inl hescapes.output⟩
  | ok message =>
    have htells := hanswers.told hmessage fun _ => nofun
    refine ⟨fun hformat => (htells.text hformat).output, fun hformat => .inr ?_⟩
    obtain ⟨cause, text, hcause, htext, -, hleaves⟩ := htells.json hformat
    exact ⟨_, text, htext, forall_faultEntries_ne hcause, hleaves.output⟩

/-- **What is raised before the console is looked at** takes with it what was written. -/
theorem Accounts.loses (haccounts : Accounts report format (.error (.raised f) u)) :
    Loses report format u := by
  cases hinterrupt : f.kind.isA .keyboardInterrupt with
  | true =>
    have hleaves := haccounts.interrupted rfl hinterrupt
    exact ⟨fun _ => hleaves.output, fun _ => .inl hleaves.output⟩
  | false =>
    cases hfailure : f.kind.isFailure with
    | true => exact (haccounts.raised rfl hfailure).loses
    | false =>
      rw [haccounts.passed rfl hinterrupt hfailure]
      exact ⟨fun _ => rfl, fun _ => .inl rfl⟩

/-- **In text form a report prints nothing more:** it goes to the error stream. -/
theorem Accounts.output_of_endsIn {carried : EStateM.Result Signal World Conclusion}
    (haccounts : Accounts report format carried) (hends : EndsIn u carried) (hformat : format ≠ .json) :
    report.output = u.output := by
  cases hends with
  | fault f => exact haccounts.loses.text hformat
  | value conclusion =>
    cases conclusion with
    | reported errorText => exact (haccounts.reported rfl).output
    | failed f output =>
      obtain ⟨⟨message, hmessage⟩, hanswers⟩ := haccounts.failed rfl
      exact ((hanswers.told hmessage fun h => absurd h hformat).text hformat).output

/-- A refusal is told without what was written. -/
theorem Accounts.tells_of_refusal (haccounts : Accounts report format (.error (.raised f) u))
    (hf : Refusal f message) : Tells report format f message none u :=
  (haccounts.raised rfl hf.isFailure).told (hf.str? u) fun _ => nofun

end reports

/-! ### Shown lines -/

/-- What is told in JSON of a value that a run has given. -/
def valueEntries (u : World) (request : Request) (program : String) (v safe : Value)
    (vs : List Value) (stats : List (Value × Value)) : List (String × Datum) :=
  [("status", .str "ok"), ("program", .str program), ("result", u.spell safe),
    ("result_type", .str v.typeName)] ++ outputEntry u (some vs) ++
  if request.stats then [("stats", statsDatum u stats)] else []

/-- Is there a place in JSON for all that was written, and for the counters if they are asked for? -/
def Presentable (u : World) (request : Request) (vs : List Value) (stats : List (Value × Value)) :
    Prop :=
  Listable u (some vs) ∧ (request.stats = true → ∃ text, (statsDatum u stats).json? = .ok text)

/-- The text of a result, if there is one, is all that follows the lines. -/
def Follows (u : World) (r : Machine.Report) (rest : String) : Prop :=
  rest = "" ∨ ∃ v, r.result = .ok v ∧ Shows u v rest

/-- **What becomes of the lines** once the run has been reported and the console has been looked at.

As a text, they are printed before anything else, up to the first value without a text; the command then
tells why that has none.  In JSON they are an entry of the object about a value or a failure if that is
printed.  If something stands in the way of the object about a value, that is told without the lines, as
it is when a failure has no text; if one of the lines stands in the way of the object about a failure,
nothing is told.  Where no form is asked for, the lines are left out. -/
structure Delivers (report : CommandReport) (request : Request) (program : String)
    (r : Machine.Report) (vs : List Value) (stats : List (Value × Value)) (u : World) : Prop where
  text {texts : List String} : request.format = .text → vs.mapM u.str? = .ok texts →
    ∃ rest, report.output = u.output ++ (linesText texts ++ rest) ∧ Follows u r rest
  stopped {before after : List Value} {v : Value} {texts : List String} {c : Complaint} :
    request.format = .text → vs = before ++ v :: after → before.mapM u.str? = .ok texts →
      u.str? v = .error c →
        Leaves report 1 (u.output ++ linesText texts) (debugText u ++ ("Error: " ++ c.message ++ "\n"))
  bare : request.format = .bare → ∃ rest, report.output = u.output ++ rest ∧ Follows u r rest
  failed {cause : Fault Value} {message : String} : request.format = .json →
    r.result = .error cause → u.str? (.fault (reportedFault r cause)) = .ok message →
      Answers report .json (reportedFault r cause) (some vs) u
  unworded {cause : Fault Value} {c : Complaint} : request.format = .json →
    r.result = .error cause → u.str? (.fault (reportedFault r cause)) = .error c →
      Tells report .json c.fault c.message none u
  value {v safe : Value} : request.format = .json → r.result = .ok v → u.jsonSafe v = .ok safe →
    Presentable u request vs stats →
      ∃ text, objectText? (valueEntries u request program v safe vs stats) = .ok text ∧
        OneLine text ∧ Leaves report 0 (u.output ++ (text ++ "\n")) (debugText u)
  unpresented {v safe : Value} : request.format = .json → r.result = .ok v →
    u.jsonSafe v = .ok safe → ¬ Presentable u request vs stats →
      ∃ why, let p := Problem.notWritable why; Tells report .json p.fault p.message none u
  unshown {v : Value} {c : Complaint} : request.format = .json → r.result = .ok v →
    u.jsonSafe v = .error c → Tells report .json c.fault c.message none u

section deliveries

variable {request : Request} {program : String} {r : Machine.Report} {vs : List Value}
  {stats : List (Value × Value)} {w u : World}

theorem deliver_of_fault {cause : Fault Value} (hresult : r.result = .error cause)
    (output : Option (List Value)) :
    deliver request program r output = (do
      echo request.format output
      let _ ← Eff.ofExcept ((← get).str? (.fault (reportedFault r cause)))
      return .failed (reportedFault r cause) output) := by
  unfold deliver
  rw [hresult]

theorem deliver_of_value {v : Value} (hresult : r.result = .ok v)
    (hstats : Script.statsEntries (.stats w.stats.size) (counted w r) = .ok stats (counted w r))
    (output : Option (List Value)) :
    deliver request program r output w =
      (do return .reported (← reportSuccess request program output v stats) : Eff Conclusion)
        (counted w r) := by
  have hnew : World.newStats r.stats w = .ok (.stats w.stats.size) (counted w r) := rfl
  unfold deliver
  rw [hresult]
  exact (Eff.bind_of_ok hnew).trans (Eff.bind_of_ok hstats)

theorem reportWorld_of_fault {cause : Fault Value} (hresult : r.result = .error cause) (w : World) :
    reportWorld w r = w := by
  rw [reportWorld, hresult]

theorem reportWorld_of_value {v : Value} (hresult : r.result = .ok v) (w : World) :
    reportWorld w r = counted w r := by
  rw [reportWorld, hresult]

/-- After the lines, a result comes to the output stream and nothing else. -/
theorem exists_reportSuccess_endsIn (program : String) (stats : List (Value × Value))
    (hformat : request.format ≠ .json) (v : Value) {output : Option (List Value)}
    (hecho : echo request.format output w = .ok () u) (hsame : u.str? = w.str?) :
    ∃ rest, (rest = "" ∨ Shows w v rest) ∧
      EndsIn (u.printed rest) (reportSuccess request program output v stats w) := by
  have hstats (u' : World) : EndsIn u' ((if request.stats = true then do
      Eff.ofExcept (statsLines (← get) stats) else pure "" : Eff String) u') := by
    split
    · exact .ofExcept _
    · exact .value ""
  have hblank : u.printed "" = u := by simp [World.printed]
  unfold reportSuccess
  rw [Eff.bind_of_ok hecho, beq_eq_false_iff_ne.mpr hformat]
  by_cases hnone : v = .none
  · subst hnone
    refine ⟨"", .inl rfl, ?_⟩
    rw [hblank]
    exact hstats u
  cases htext : w.str? v with
  | ok text =>
    refine ⟨text ++ "\n", .inr (.text hnone htext), ?_⟩
    have hprint : printValue v u = .ok () (u.printed (text ++ "\n")) :=
      printValue_of_text (hsame ▸ htext)
    cases v with
    | none => exact absurd rfl hnone
    | _ => exact EndsIn.bind_of_ok hprint (hstats _)
  | error c =>
    refine ⟨"", .inl rfl, ?_⟩
    rw [hblank]
    have hprint : printValue v u = .error (.raised c.fault) u :=
      printValue_of_refusal (hsame ▸ htext)
    cases v with
    | none => exact absurd rfl hnone
    | _ => exact EndsIn.bind_of_raised hprint

/-- What is made of a run whose lines have been printed prints nothing but its result. -/
theorem exists_deliver_endsIn (program : String) (hformat : request.format ≠ .json)
    (hecho : echo request.format (some vs) (reportWorld w r) = .ok () u)
    (hsame : u.str? = (reportWorld w r).str?) :
    ∃ rest, Follows (reportWorld w r) r rest ∧
      EndsIn (u.printed rest) (deliver request program r (some vs) w) := by
  cases hresult : r.result with
  | error cause =>
    rw [reportWorld_of_fault hresult] at hecho
    have hblank : u.printed "" = u := by simp [World.printed]
    refine ⟨"", .inl rfl, ?_⟩
    rw [hblank, deliver_of_fault hresult]
    exact .bind_of_ok hecho (.map (.ofExcept _) _)
  | ok v =>
    rw [reportWorld_of_value hresult] at hecho hsame ⊢
    obtain ⟨stats, hstats⟩ := exists_statsEntries r w
    obtain ⟨rest, hrest, hends⟩ :=
      exists_reportSuccess_endsIn program stats hformat v hecho hsame
    refine ⟨rest, hrest.imp_right fun hshows => ⟨v, hresult, hshows⟩, ?_⟩
    rw [deliver_of_value hresult hstats]
    exact hends.map _

/-- A line without a text ends everything. -/
theorem deliver_of_echo_raised {output : Option (List Value)} {f : Fault Value}
    (hecho : echo request.format output (reportWorld w r) = .error (.raised f) u) :
    deliver request program r output w = .error (.raised f) u := by
  cases hresult : r.result with
  | error cause =>
    rw [reportWorld_of_fault hresult] at hecho
    rw [deliver_of_fault hresult]
    exact Eff.bind_of_error hecho
  | ok v =>
    rw [reportWorld_of_value hresult] at hecho
    obtain ⟨stats, hstats⟩ := exists_statsEntries r w
    rw [deliver_of_value hresult hstats]
    exact Eff.bind_of_error (Eff.bind_of_error hecho)

/-! In JSON nothing is printed before the object. -/

theorem echo_json (hformat : request.format = .json) (output : Option (List Value)) (w : World) :
    echo request.format output w = .ok () w := by
  rw [hformat]
  rfl

theorem deliver_of_worded (hformat : request.format = .json) {cause : Fault Value} {message : String}
    (hresult : r.result = .error cause)
    (hmessage : w.str? (.fault (reportedFault r cause)) = .ok message) (output : Option (List Value)) :
    deliver request program r output w = .ok (.failed (reportedFault r cause) output) w := by
  rw [deliver_of_fault hresult]
  exact (Eff.bind_of_ok (echo_json hformat output w)).trans
    (Eff.bind_get.trans (Eff.bind_of_ok (Eff.ofExcept_of_ok hmessage)))

theorem deliver_of_unworded (hformat : request.format = .json) {cause : Fault Value} {c : Complaint}
    (hresult : r.result = .error cause)
    (hrefused : w.str? (.fault (reportedFault r cause)) = .error c) (output : Option (List Value)) :
    deliver request program r output w = .error (.raised c.fault) w := by
  rw [deliver_of_fault hresult]
  exact (Eff.bind_of_ok (echo_json hformat output w)).trans
    (Eff.bind_get.trans (Eff.bind_of_error (Eff.ofExcept_of_error hrefused)))

/-- What is safe to write can be written. -/
theorem exists_json?_of_jsonSafe {v safe : Value} (hsafe : u.jsonSafe v = .ok safe) :
    ∃ text, (u.spell safe).json? = .ok text := by
  unfold World.jsonSafe at hsafe
  cases hspell : (u.spell v).json? with
  | ok text =>
    simp only [hspell] at hsafe
    cases hsafe
    exact ⟨text, hspell⟩
  | error why =>
    simp only [hspell] at hsafe
    cases hshown : u.repr? v with
    | error c =>
      rw [hshown] at hsafe
      cases hsafe
    | ok text =>
      rw [hshown] at hsafe
      cases hsafe
      exact ⟨_, rfl⟩

/-- The lines and the counters are all that may keep a value out of JSON. -/
theorem presentable_iff (program : String) {v safe : Value} (hsafe : u.jsonSafe v = .ok safe) :
    (∀ e ∈ valueEntries u request program v safe vs stats, ∃ t, e.2.json? = .ok t) ↔
      Presentable u request vs stats := by
  obtain ⟨text, htext⟩ := exists_json?_of_jsonSafe hsafe
  have hbase : ∀ e ∈ [("status", Datum.str "ok"), ("program", .str program), ("result", u.spell safe),
      ("result_type", .str v.typeName)], ∃ t, e.2.json? = .ok t := by
    simp only [List.forall_mem_cons]
    exact ⟨⟨_, rfl⟩, ⟨_, rfl⟩, ⟨_, htext⟩, ⟨_, rfl⟩, List.forall_mem_nil _⟩
  have hcounts : (∀ e ∈ (if request.stats then [("stats", statsDatum u stats)] else []),
      ∃ t, e.2.json? = .ok t) ↔
        (request.stats = true → ∃ text, (statsDatum u stats).json? = .ok text) := by
    split
    · next hasked => simp [hasked]
    · next hasked => simp [hasked]
  rw [valueEntries, List.forall_mem_append, List.forall_mem_append, forall_outputEntry_iff, hcounts,
    Presentable]
  exact and_congr_left fun _ => and_iff_right hbase

/-- A value that is safe to write is told in one object. -/
theorem reportSuccess_of_safe (program : String) (stats : List (Value × Value))
    (hformat : request.format = .json) {v safe : Value} (hsafe : w.jsonSafe v = .ok safe) :
    reportSuccess request program (some vs) v stats w =
      (do printObject (valueEntries w request program v safe vs stats); return "" : Eff String) w := by
  have hobject : successObject program request.stats (some vs) v stats w =
      printObject (valueEntries w request program v safe vs stats) w :=
    Eff.bind_get.trans (Eff.bind_of_ok (Eff.ofExcept_of_ok hsafe))
  unfold reportSuccess
  rw [Eff.bind_of_ok (echo_json hformat _ w), hformat]
  exact Eff.bind_eq_of_eq hobject

theorem reportSuccess_of_unsafe (program : String) (stats : List (Value × Value))
    (hformat : request.format = .json) {v : Value} {c : Complaint} (hrefused : w.jsonSafe v = .error c)
    (output : Option (List Value)) :
    reportSuccess request program output v stats w = .error (.raised c.fault) w := by
  have hobject : successObject program request.stats output v stats w = .error (.raised c.fault) w :=
    Eff.bind_get.trans (Eff.bind_of_error (Eff.ofExcept_of_error hrefused))
  unfold reportSuccess
  rw [Eff.bind_of_ok (echo_json hformat output w), hformat]
  exact Eff.bind_of_error hobject

/-- **What becomes of the lines in the report,** whatever is made of it. -/
theorem exists_delivers {report : CommandReport}
    (haccounts : Accounts report request.format (deliver request program r (some vs) w)) :
    ∃ stats, Delivers report request program r vs stats (reportWorld w r) := by
  obtain ⟨stats, hstats⟩ := exists_statsEntries r w
  refine ⟨stats, fun {texts} hformat htexts => ?_, fun {_ _ _ texts c} hformat hvs htexts hv => ?_,
    fun hformat => ?_, fun hformat hresult hmessage => ?_, fun hformat hresult hrefused => ?_,
    fun {v safe} hformat hresult hsafe hpresentable => ?_,
    fun {v safe} hformat hresult hsafe hpresentable => ?_,
    fun hformat hresult hrefused => ?_⟩
  · have hplain : request.format ≠ .json := by simp [hformat]
    have hecho : echo request.format (some vs) (reportWorld w r) =
        .ok () ((reportWorld w r).printed (linesText texts)) := by
      rw [hformat]
      exact forM_printValue htexts
    obtain ⟨rest, hrest, hends⟩ := exists_deliver_endsIn program hplain hecho
      (funext (World.str?_printed _))
    rw [World.printed_printed] at hends
    exact ⟨rest, haccounts.output_of_endsIn hends hplain, hrest⟩
  · have hecho : echo request.format (some vs) (reportWorld w r) =
        .error (.raised c.fault) ((reportWorld w r).printed (linesText texts)) := by
      rw [hformat, hvs]
      exact forM_printValue_of_refusal htexts hv
    rw [deliver_of_echo_raised hecho] at haccounts
    exact (haccounts.tells_of_refusal c.refusal).text (by simp [hformat])
  · have hplain : request.format ≠ .json := by simp [hformat]
    have hecho : echo request.format (some vs) (reportWorld w r) = .ok () (reportWorld w r) := by
      rw [hformat]
      rfl
    obtain ⟨rest, hrest, hends⟩ := exists_deliver_endsIn program hplain hecho rfl
    exact ⟨rest, haccounts.output_of_endsIn hends hplain, hrest⟩
  · rw [reportWorld_of_fault hresult] at hmessage ⊢
    rw [deliver_of_worded hformat hresult hmessage] at haccounts
    exact hformat ▸ (haccounts.failed rfl).2
  · rw [reportWorld_of_fault hresult] at hrefused ⊢
    rw [deliver_of_unworded hformat hresult hrefused] at haccounts
    exact hformat ▸ haccounts.tells_of_refusal (Complaint.refusal _)
  · rw [reportWorld_of_value hresult] at hsafe hpresentable ⊢
    obtain ⟨text, htext, honeLine, hprint⟩ := exists_printObject (w := counted w r)
      ((presentable_iff program hsafe).mpr hpresentable)
    have hreport := (reportSuccess_of_safe program stats hformat hsafe).trans
      (Eff.bind_of_ok hprint)
    rw [deliver_of_value hresult hstats, Eff.bind_of_ok hreport] at haccounts
    have hleaves := haccounts.reported rfl
    exact ⟨text, htext, honeLine, hleaves.ending, hleaves.output, hleaves.errors.trans String.append_empty⟩
  · rw [reportWorld_of_value hresult] at hsafe hpresentable ⊢
    obtain ⟨why, hprint⟩ := exists_printObject_refusal
      ((not_congr (presentable_iff program hsafe)).mpr hpresentable) (counted w r)
    have hreport := (reportSuccess_of_safe program stats hformat hsafe).trans
      (Eff.bind_of_error hprint)
    rw [deliver_of_value hresult hstats, Eff.bind_of_error hreport] at haccounts
    exact ⟨why, hformat ▸ haccounts.tells_of_refusal (Problem.refusal _)⟩
  · rw [reportWorld_of_value hresult] at hrefused ⊢
    have hreport := reportSuccess_of_unsafe program stats hformat hrefused
      (some vs)
    rw [deliver_of_value hresult hstats, Eff.bind_of_error hreport] at haccounts
    exact hformat ▸ haccounts.tells_of_refusal (Complaint.refusal _)

end deliveries

section commands

variable {catalog : Catalog} {readFile : String → Except FileProblem (List UInt8)}
  {args : List String} {request : Request} {program path : String} {bytes : List UInt8}
  {text : List Char} {w : World}

/-- **What becomes of the lines that a program writes** to the console that is made of a file.  The
console is opened without lines, a line that is written comes last, and the command finds the lines there
in their order.  If anything is raised before it looks, none of them appears, whatever the code; an
interrupt from the keyboard among them gives the code 130.  Once the run has been reported and the
console has been looked at, the lines appear as `Delivers` tells: in text form all of them, in order and
once, before anything else, as far as they have texts; in JSON with the object that is about the run. -/
theorem lines_shown (hrequest : Request.ofArguments args = .ok request)
    (hprogram : request.program = .just program) (hinput : request.input = some (.just path))
    (hpath : path.toList.contains forbiddenInPath = false) (hread : readFile path = .ok bytes)
    (htext : Utf8.decode bytes = .ok text) :
    ∃ address w₁,
      openConsole request (.ok bytes) (recordMessages request.debug w) = .ok (.scripted address) w₁ ∧
      Keeps w₁ address [] ∧
      let report := run catalog readFile args w
      let gathered := gather (Script.host Script.ampleFuel) Script.ampleFuel catalog request program
        (.scripted address) w₁
      (∀ f u, gathered = .error (.raised f) u → Loses report request.format u ∧
        (f.kind.isA .keyboardInterrupt = true →
          Leaves report 130 u.output (debugText u ++ "Interrupted\n"))) ∧
      (∀ r vs u, gathered = .ok (r, some vs) u →
        ∃ stats, Delivers report request program r vs stats (reportWorld u r)) ∧
      ∀ (h : Host) (fuel : Nat) (u : World) (written : List String), Keeps u address written →
        (∀ line, ∃ u', Console.writeScripted h address (.str line) u = .ok .none u' ∧
          Keeps u' address (written ++ [line])) ∧
        ∃ u', writtenTo? h fuel (.scripted address) u = .ok (some (written.map .str)) u' ∧
          Keeps u' address written := by
  obtain ⟨address, w₁, hopen, hkeeps⟩ :=
    exists_openConsole hinput hpath htext (recordMessages request.debug w)
  have haccounts : Accounts (run catalog readFile args w) request.format
      (carriedOut catalog readFile request w) := accounts_run hrequest
  have hcarried : carriedOut catalog readFile request w =
      (gather (Script.host Script.ampleFuel) Script.ampleFuel catalog request program
        (.scripted address) >>= fun (r, output) => deliver request program r output) w₁ := by
    unfold carriedOut
    rw [perform_eq _ _ _ hprogram]
    simp only [hinput, hread]
    exact Eff.bind_of_ok hopen
  rw [hcarried] at haccounts
  refine ⟨address, w₁, hopen, hkeeps, fun f u hgathered => ?_, fun r vs u hgathered => ?_,
    fun h fuel u written hkeeps => ⟨hkeeps.write h, hkeeps.exists_writtenTo h fuel⟩⟩
  · rw [Eff.bind_of_error hgathered] at haccounts
    exact ⟨haccounts.loses, haccounts.interrupted rfl⟩
  · rw [Eff.bind_of_ok hgathered] at haccounts
    exact exists_delivers haccounts

end commands

/-! ### A factory that writes and makes no node -/

/-- A factory that writes a line to the console that it is given. -/
def writing : Value := .preset 1 (.unbound .writeScripted) [] [("text", .str "hi")]

/-- The line that the factory has written does not appear. -/
theorem lines_shown_writing :
    let report := run [⟨"p", [("m", .value writing)]⟩] (fun _ => .ok []) greetingLine
      Script.SessionInput.recorded
    ∃ w₁ u, gather (Script.host Script.ampleFuel) Script.ampleFuel [⟨"p", [("m", .value writing)]⟩]
        greetingRequest "p:m" (.scripted 1) w₁ = .error (.raised (Problem.notNode "p:m").fault) u ∧
      Keeps u 1 ["hi"] ∧ report.output = "" := by
  intro report
  let u : World := { opened with lists := opened.lists.modify 1 (·.push (.str "hi")) }
  have hnode : nodeOf (Script.host Script.ampleFuel) "p:m" (.scripted 1) (.value writing) opened =
      .error (.raised (Problem.notNode "p:m").fault) u := by
    have haccepts : acceptsArgument writing = true := by decide +kernel
    have hcall : (Script.host Script.ampleFuel).call writing [.scripted 1] [] opened = .ok .none u := rfl
    unfold nodeOf
    simp only [haccepts]
    exact Eff.bind_of_ok hcall
  have hgathered : gather (Script.host Script.ampleFuel) Script.ampleFuel
      [⟨"p", [("m", .value writing)]⟩] greetingRequest "p:m" (.scripted 1) opened =
        .error (.raised (Problem.notNode "p:m").fault) u :=
    (Eff.bind_of_ok (find_held writing opened)).trans (Eff.bind_of_error hnode)
  obtain ⟨address, w₁', hopen, -, hloses, -⟩ :=
    @lines_shown [⟨"p", [("m", .value writing)]⟩] (fun _ => .ok []) greetingLine greetingRequest _ _ _ _
      Script.SessionInput.recorded ofArguments_greetingLine rfl rfl rfl rfl rfl
  cases hopen.symm.trans newConsole_recorded
  have hlost := (hloses _ u hgathered).1
  exact ⟨opened, u, hgathered, ⟨1, rfl, rfl⟩, hlost.text nofun⟩

end Command
end EffectGraph
