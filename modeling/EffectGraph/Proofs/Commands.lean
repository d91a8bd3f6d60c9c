import Mathlib
import EffectGraph.Proofs.Adequacy
import EffectGraph.Proofs.Ledger
import EffectGraph.Proofs.Rendering

/-!
# Commands and the runs of their programs

A command that runs a program on the lines of a file shows the lines that the program has written and
what the run has come to.  `Ran` says of a command line that its program has run, and with what report;
`conclude` takes it from there.  `Leaves` and `FailsWith` tell what is left behind on the two streams,
for a run that has given a value and for one that has not, and `run_rendered` puts them together.  The
counters that are shown can always be written, since a run takes no more steps than it has fuel.
-/

namespace EffectGraph
namespace Command

/-! ### The conclusion of a run -/

section conclusions

variable {h : Host} {fuel : Nat} {request : Request} {program : String} {console : Value}
  {r : Machine.Report} {lines : List String} {w w' : World}

end conclusions

/-! ### The counters of a run that gives a value -/

/-- **A command whose program has run,** as far as the report: the line is a request without debugging
for a program and the lines of a file that can be read, the path of the program leads to a node, its
run reports, and the console keeps the lines that were written to it.  Nothing has come to the output
stream or the journal on the way, and the counters of the run have not been an object before. -/
inductive Ran (catalog : Catalog) (readFile : String → Except FileProblem (List UInt8))
    (args : List String) (w : World) :
    Request → String → Machine.Report → List String → World → Prop
  | mk {request path bytes text program console w₁ symbol w₂ node w₃ r w₄ lines w₅}
    (hrequest : Request.ofArguments args = .ok request) (hdebug : request.debug = false)
    (hprogram : request.program = .just program) (hinput : request.input = some (.just path))
    (hpath : path.toList.contains forbiddenInPath = false) (hread : readFile path = .ok bytes)
    (htext : Utf8.decode bytes = .ok text)
    (hconsole : World.newConsole ((Lines.split (Lines.normalize text)).map fun line =>
      .str (String.ofList line)) (recordMessages false w) = .ok console w₁)
    (hfind : catalog.find program w₁ = .ok symbol w₂)
    (hnode : nodeOf (Script.host Script.ampleFuel) program console symbol w₂ = .ok node w₃)
    (hrun : interpret (Script.host Script.ampleFuel) Script.ampleFuel request node w₃ = .ok r w₄)
    (hlines : writtenTo? (Script.host Script.ampleFuel) Script.ampleFuel console w₄ =
      .ok (some (lines.map .str)) w₅)
    (houtput : w₅.output = w.output) (hjournal : w₅.journal.messages = #[])
    (hfresh : ∀ name, w₅.given? (.stats w₅.stats.size) name = none) :
    Ran catalog readFile args w request program r lines w₅

/-- What a command leaves behind: a code, and what was written to the two streams. -/
structure Leaves (report : CommandReport) (code : Nat) (output errors : String) : Prop where
  ending : report.ending = .code code
  output : report.output = output
  errors : report.errors = errors

section commands

variable {catalog : Catalog} {readFile : String → Except FileProblem (List UInt8)}
  {args : List String} {request : Request} {program : String} {r : Machine.Report}
  {lines : List String} {w w' : World}

theorem Ran.untouched (hran : Ran catalog readFile args w request program r lines w') :
    w'.output = w.output ∧ w'.journal.messages = #[] ∧
      ∀ name, w'.given? (.stats w'.stats.size) name = none := by
  cases hran with
  | mk _ _ _ _ _ _ _ _ _ _ _ _ houtput hjournal hfresh => exact ⟨houtput, hjournal, hfresh⟩

end commands

/-! ### A program that writes a line -/

/-- A command line that asks for it. -/
def greetingLine : List String := ["run", "--program", "p:m", "--input", "in", "--stats"]

/-- What this line asks for. -/
def greetingRequest : Request := ⟨.just "p:m", some (.just "in"), .text, true, none, false⟩

/-- An argument that starts with dashes and names no option, cut short or in full. -/
theorem Grammar.token_of_unknown {α : Type} {g : Grammar α} {text : String}
    (hlone : (text == "-") = false) (hdash : "-".isPrefixOf text = true)
    (hdashes : "--".isPrefixOf text = true) (hlookup : g.table.lookup text = none)
    (hcut : cutAtEquals text = none) (hnames : ∀ e ∈ g.table, text.isPrefixOf e.1 = false)
    (hnumber : isNegativeNumber text = false) (hspace : text.toList.contains ' ' = false) :
    g.token text = .ok (.unknown text) := by
  have hnone : g.candidates text = [] := by
    unfold candidates
    rw [if_pos hdashes, hcut, List.filterMap_eq_nil_iff]
    intro e he
    simp only [hnames e he]
    rfl
  have hwhole : g.whole? text = none := by
    rw [whole?, hcut]
    rfl
  unfold token
  rw [hlone, hdash, hlookup, hwhole, hnone, hnumber, hspace]
  rfl

theorem ofArguments_greetingLine : Request.ofArguments greetingLine = .ok greetingRequest := by
  have hword {text : String} (htext : "-".isPrefixOf text = false) :
      topGrammar.token text = .ok (.word text) := by
    rw [Grammar.token, htext, Bool.not_false, Bool.or_true, if_pos rfl]
  have htable : topGrammar.table = [("-h", .help), ("--help", .help)] := by cbv
  have hprogram : topGrammar.token "--program" = .ok (.unknown "--program") :=
    Grammar.token_of_unknown (by cbv) (by cbv) (by cbv) (by cbv) (by cbv)
      (by rw [htable]; decide +kernel) (by cbv) (by cbv)
  have hinput : topGrammar.token "--input" = .ok (.unknown "--input") :=
    Grammar.token_of_unknown (by cbv) (by cbv) (by cbv) (by cbv) (by cbv)
      (by rw [htable]; decide +kernel) (by cbv) (by cbv)
  have hstats : topGrammar.token "--stats" = .ok (.unknown "--stats") :=
    Grammar.token_of_unknown (by cbv) (by cbv) (by cbv) (by cbv) (by cbv)
      (by rw [htable]; decide +kernel) (by cbv) (by cbv)
  have htop : topGrammar.tokens greetingLine = .ok [.word "run", .unknown "--program", .word "p:m",
      .unknown "--input", .word "in", .unknown "--stats"] := by
    simp only [greetingLine, Grammar.tokens, hprogram, hinput, hstats,
      hword (by cbv : "-".isPrefixOf "run" = false), hword (by cbv : "-".isPrefixOf "p:m" = false),
      hword (by cbv : "-".isPrefixOf "in" = false)]
    rfl
  have hrun : runGrammar.tokens ["--program", "p:m", "--input", "in", "--stats"] =
      .ok [.option .program .nothing, .word "p:m", .option .input .nothing, .word "in",
        .option .stats .nothing] := by cbv
  have hrequest : Request.ofRunArguments [] ["--program", "p:m", "--input", "in", "--stats"] =
      .ok greetingRequest := by
    unfold Request.ofRunArguments
    rw [hrun]
    rfl
  unfold Request.ofArguments
  rw [htop]
  exact hrequest

/-- A value is found under its name in its module. -/
theorem find_held (v : Value) (w : World) :
    Catalog.find [⟨"p", [("m", .value v)]⟩] "p:m" w = .ok (.value v) w := by
  have hcut : Catalog.cutPath "p:m" = .ok ("p", ["m"]) := by cbv
  have hload : Catalog.load [⟨"p", [("m", .value v)]⟩] "p" =
      .ok (.group (some "p") [("m", .value v)]) := by
    have hdot : ".".isPrefixOf "p" = false := by cbv
    have hsplit : "p".splitOn "." = ["p"] := by cbv
    unfold Catalog.load
    rw [hdot, hsplit]
    rfl
  unfold Catalog.find
  rw [hcut]
  simp only [bind, Except.bind, hload]
  rfl

/-- The world of a session in which a console has been opened on no lines. -/
def opened : World :=
  let w := recordMessages false Script.SessionInput.recorded
  { w with
    deques := w.deques.push ⟨[], 0⟩
    lists := w.lists.push #[]
    consoles := w.consoles.push ⟨.deque 1, .list 1, .int 0⟩ }

theorem newConsole_recorded : World.newConsole [] (recordMessages false Script.SessionInput.recorded) =
    .ok (.scripted 1) opened := World.newConsole_apply [] _

end Command
end EffectGraph
