import MeshConsole.Console.Probe
import MeshConsole.Proofs.Dashboard.Isolation
import MeshConsole.Proofs.Text.Lines

/-!
# What a report says of failures

A load leaves a diagnostic in each region whose fetch failed, and a report lists the regions that
have one. A region whose diagnostic is empty is taken for one that was loaded:

    exchange ──diagnosticOf──▶ diagnostic ──problems──▶ regions ──verdict──▶ last line

There is one failure with an empty diagnostic: an answer that went well and is blank decodes to
nothing, and its diagnostic is the blank body. So a report lists a region if and only if its fetch
failed and the answer was not blank (`problems_loadAll_iff`).
-/

namespace MeshConsole

/-! ## Fetches that fail -/

namespace Exchange

/-- A fetch fails if nothing came back, if the status is no success, or if the body is no payload.
-/
inductive Fails (α : Type) [Payload α] : Exchange → Prop
  | lost (fault : Fault) : Fails α (.error fault)
  | refused {answer : Answer} : answer.status.isSuccess = false → Fails α (.ok answer)
  | undecoded {answer : Answer} :
      (Payload.read? answer.body : Option α) = none → Fails α (.ok answer)

/-- An answer that went well and has an empty body. -/
def isBlank : Exchange → Bool
  | .error _ => false
  | .ok answer => answer.status.isSuccess && answer.body.isEmpty

end Exchange

/-- The diagnostic of an outcome, which is empty if there is a payload. -/
def Outcome.diagnostic {α : Type} : Outcome α → String
  | .ok _ => ""
  | .error failure => failure.diagnostic

namespace Exchange

variable (α : Type) [Payload α]

/-- What a fetch can come to: nothing came back, the status is no success, the body is no payload, or
there is a payload. -/
theorem json_cases (exchange : Exchange) :
    (∃ fault, exchange = .error fault ∧ exchange.json α = .error (.transport fault)) ∨
      (∃ answer, exchange = .ok answer ∧ answer.status.isSuccess = false ∧
        exchange.json α = .error (.http answer)) ∨
      (∃ answer, exchange = .ok answer ∧ answer.status.isSuccess = true ∧
        (Payload.read? answer.body : Option α) = none ∧
        exchange.json α = .error (.malformed answer.body)) ∨
      ∃ answer payload, exchange = .ok answer ∧ answer.status.isSuccess = true ∧
        Payload.read? answer.body = some payload ∧ exchange.json α = .ok payload := by
  cases exchange with
  | error fault => exact Or.inl ⟨fault, rfl, rfl⟩
  | ok answer =>
      right
      unfold json
      dsimp only
      cases hstatus : answer.status.isSuccess with
      | false => exact Or.inl ⟨answer, rfl, hstatus, rfl⟩
      | true =>
          right
          cases hread : (Payload.read? answer.body : Option α) with
          | none => exact Or.inl ⟨answer, rfl, hstatus, hread, rfl⟩
          | some payload => exact Or.inr ⟨answer, payload, rfl, hstatus, hread, rfl⟩

variable {α}

/-- An answer that is a payload is no failure. -/
theorem not_fails_of_read? {answer : Answer} {payload : α} (hstatus : answer.status.isSuccess = true)
    (hread : Payload.read? answer.body = some payload) : ¬ Fails α (.ok answer) := by
  intro hfails
  cases hfails with
  | refused hrefused =>
      rw [hstatus] at hrefused
      cases hrefused
  | undecoded hnone =>
      rw [hread] at hnone
      cases hnone

/-- A fetch shows a diagnostic if and only if it fails and its answer is not blank. -/
theorem diagnostic_json_ne_empty_iff {exchange : Exchange} :
    Outcome.diagnostic (exchange.json α) ≠ "" ↔
      exchange.Fails α ∧ exchange.isBlank = false := by
  rcases json_cases α exchange with ⟨fault, rfl, hjson⟩ | ⟨answer, rfl, hstatus, hjson⟩ |
    ⟨answer, rfl, hstatus, hread, hjson⟩ | ⟨answer, payload, rfl, hstatus, hread, hjson⟩
  · rw [hjson]
    exact iff_of_true (by simp [Outcome.diagnostic, Failure.diagnostic]) ⟨.lost fault, rfl⟩
  · have hshown : answer.text ≠ "" := by simp [Answer.text]
    rw [hjson]
    exact iff_of_true hshown ⟨.refused hstatus, by simp [isBlank, hstatus]⟩
  · -- The diagnostic is the body itself, so this is the one failure that may leave no text.
    have hblank : isBlank (.ok answer) = answer.body.isEmpty := by simp [isBlank, hstatus]
    have hfails : Fails α (.ok answer) := .undecoded hread
    rw [hjson, hblank, and_iff_right hfails]
    simp [Outcome.diagnostic, Failure.diagnostic]
  · rw [hjson]
    exact iff_of_false (fun hne => hne rfl) fun h => not_fails_of_read? hstatus hread h.1

end Exchange

/-! ## Regions -/

/-- A region that a report lists if something went wrong with it. -/
inductive Region where
  | status
  | connections
  | versions
deriving Repr, DecidableEq

namespace Region

/-- All regions, in the order in which a report lists them. -/
def all : List Region := [status, connections, versions]

theorem mem_all (region : Region) : region ∈ all := by
  cases region <;> decide

/-- The name of a region in a report. -/
def name : Region → String
  | status => "status"
  | connections => "connections"
  | versions => "versions"

/-- The part of a load that fills a region. -/
def part : Region → Part
  | status => .status
  | connections => .connections
  | versions => .versions

/-- What a dashboard shows in a region if something went wrong with it. -/
def diagnostic (dashboard : Dashboard) : Region → String
  | status => dashboard.overview.error.getD ""
  | connections => dashboard.connections.status
  | versions => dashboard.versions.status

/-- The fetch of a region fails. -/
def Fails (exchange : Exchange) : Region → Prop
  | status => exchange.Fails (Option Status)
  | connections => exchange.Fails (Option Connections)
  | versions => exchange.Fails Json

/-- The diagnostic that an exchange leaves in a region. -/
def diagnosticOf (exchange : Exchange) : Region → String
  | status => Outcome.diagnostic (exchange.json (Option Status))
  | connections => Outcome.diagnostic (exchange.json (Option Connections))
  | versions => Outcome.diagnostic (exchange.json Json)

theorem name_injective {region other : Region} (h : region.name = other.name) :
    region = other := by
  cases region <;> cases other <;> simp [name] at h ⊢

theorem diagnosticOf_ne_empty_iff {region : Region} {exchange : Exchange} :
    region.diagnosticOf exchange ≠ "" ↔ region.Fails exchange ∧ exchange.isBlank = false := by
  cases region <;> exact Exchange.diagnostic_json_ne_empty_iff

/-- A blank answer is a failure for every region: an empty text is no payload. -/
theorem fails_of_isBlank (region : Region) {exchange : Exchange} (h : exchange.isBlank = true) :
    region.Fails exchange := by
  cases exchange with
  | error fault => cases h
  | ok answer =>
      obtain ⟨hstatus, hempty⟩ := Bool.and_eq_true_iff.mp h
      have hbody : answer.body = "" := String.isEmpty_iff.mp hempty
      cases region <;> exact .undecoded (by rw [hbody]; rfl)

variable (thresholds : Thresholds) (answer : Endpoint → Exchange)

/-- The part that fills a region leaves its diagnostic there, or none. -/
theorem diagnostic_after_self (region : Region) (dashboard : Dashboard) :
    region.diagnostic (region.part.after thresholds answer dashboard) =
      region.diagnosticOf (answer region.part.endpoint) := by
  cases region with
  | status =>
      show Region.status.diagnostic (Part.status.after thresholds answer dashboard) =
        Outcome.diagnostic ((answer .status).json (Option Status))
      rw [Part.after_status]
      cases (answer .status).json (Option Status) with
      | error failure => rfl
      | ok found =>
          -- The overview of a status comes without an error.
          dsimp only
          rw [Dashboard.showStatus_eq]
          rfl
  | connections =>
      show Region.connections.diagnostic (Part.connections.after thresholds answer dashboard) =
        Outcome.diagnostic ((answer .connections).json (Option Connections))
      rw [Part.after_connections]
      cases (answer .connections).json (Option Connections) with
      | error failure => rfl
      | ok found =>
          rw [Dashboard.showConnections_ok]
          rfl
  | versions =>
      show Region.versions.diagnostic (Part.versions.after thresholds answer dashboard) =
        Outcome.diagnostic ((answer .versions).json Json)
      rw [Part.after_versions]
      cases (answer .versions).json Json <;> rfl

/-- The other parts leave a diagnostic as it is. -/
theorem diagnostic_after_of_ne {region : Region} {part : Part} (h : part ≠ region.part)
    (dashboard : Dashboard) :
    region.diagnostic (part.after thresholds answer dashboard) = region.diagnostic dashboard := by
  rw [Part.after_confined thresholds answer part dashboard]
  cases region with
  | status =>
      cases part with
      | status => exact absurd rfl h
      | _ => rfl
  | connections =>
      cases part with
      | connections => exact absurd rfl h
      | _ => rfl
  | versions =>
      cases part with
      | versions => exact absurd rfl h
      | _ => rfl

/-- Parts that are loaded one after the other leave the diagnostic of a region if the part that
fills it is among them. -/
theorem diagnostic_foldl_parts (region : Region) (parts : List Part) (dashboard : Dashboard) :
    region.diagnostic
        (parts.foldl (fun dashboard part => part.after thresholds answer dashboard) dashboard) =
      if region.part ∈ parts then region.diagnosticOf (answer region.part.endpoint)
      else region.diagnostic dashboard := by
  induction parts generalizing dashboard with
  | nil => rfl
  | cons part parts ih =>
      rw [List.foldl_cons, ih]
      by_cases hlater : region.part ∈ parts
      · -- A later load of the same part leaves the same diagnostic.
        rw [if_pos hlater, if_pos (List.mem_cons_of_mem part hlater)]
      · rw [if_neg hlater]
        by_cases hself : part = region.part
        · subst hself
          rw [if_pos List.mem_cons_self, diagnostic_after_self]
        · rw [diagnostic_after_of_ne thresholds answer hself, if_neg]
          exact fun hmem => (List.mem_cons.mp hmem).elim (fun heq => hself heq.symm) hlater

/-- A full load leaves in each region the diagnostic of its fetch, or none. -/
theorem diagnostic_loadAll {deliver : Endpoint → Delivery} {answer : Endpoint → Exchange}
    (h : Answers deliver answer) (thresholds : Thresholds) (order : LoadOrder) (region : Region)
    (dashboard : Dashboard) :
    region.diagnostic (dashboard.loadAll deliver thresholds order).dashboard =
      region.diagnosticOf (answer region.part.endpoint) := by
  have hpart : region.part ∈ order.parts := by
    rw [LoadOrder.mem_parts]
    cases region <;> decide
  rw [(Dashboard.loadAll_of_answers h thresholds order dashboard).1, diagnostic_foldl_parts,
    if_pos hpart]

end Region

/-! ## Reports -/

namespace Report

variable {report : Report}

theorem problems_eq (report : Report) :
    report.problems =
      (Region.all.map fun region => (region.name, region.diagnostic report.dashboard)).filter
        fun problem => !problem.2.isEmpty := rfl

/-- A report lists the regions whose diagnostic is not empty. -/
theorem mem_problems_iff {region : Region} :
    region.name ∈ report.problems.map Prod.fst ↔ region.diagnostic report.dashboard ≠ "" := by
  rw [problems_eq]
  constructor
  · intro hmem
    obtain ⟨problem, hproblem, hname⟩ := List.mem_map.mp hmem
    obtain ⟨hlisted, hdiagnostic⟩ := List.mem_filter.mp hproblem
    obtain ⟨other, -, rfl⟩ := List.mem_map.mp hlisted
    obtain rfl : other = region := Region.name_injective hname
    simpa using hdiagnostic
  · intro hne
    apply List.mem_map.mpr
    refine ⟨(region.name, region.diagnostic report.dashboard), ?_, rfl⟩
    exact List.mem_filter.mpr
      ⟨List.mem_map.mpr ⟨region, region.mem_all, rfl⟩, by simpa using hne⟩

theorem problems_eq_nil_iff :
    report.problems = [] ↔ ∀ region : Region, region.diagnostic report.dashboard = "" := by
  rw [problems_eq, List.filter_eq_nil_iff]
  constructor
  · intro hnone region
    simpa using hnone _ (List.mem_map.mpr ⟨region, region.mem_all, rfl⟩)
  · intro hempty problem hproblem
    obtain ⟨region, -, rfl⟩ := List.mem_map.mp hproblem
    simpa using hempty region

/-- Of each diagnostic a report shows one line. -/
theorem not_mem_problemText {problem : String × String} (h : '\n' ∉ problem.1.toList) :
    '\n' ∉ (problemText problem).toList := by
  have hline : '\n' ∉ ((Text.firstLine? problem.2).getD "").toList := by
    cases hfirst : Text.firstLine? problem.2 with
    | none => simp
    | some line => exact Text.not_mem_of_firstLine? hfirst
  unfold problemText
  simp [h, hline]

/-- The verdict is one line. -/
theorem not_mem_verdict (report : Report) : '\n' ∉ report.verdict.toList := by
  have hproblems : '\n' ∉ ("; ".intercalate (report.problems.map problemText)).toList := by
    apply Text.not_mem_intercalate (by decide)
    intro text htext
    obtain ⟨problem, hproblem, rfl⟩ := List.mem_map.mp htext
    apply not_mem_problemText
    rw [problems_eq] at hproblem
    obtain ⟨region, -, rfl⟩ := List.mem_map.mp (List.mem_filter.mp hproblem).1
    show '\n' ∉ region.name.toList
    cases region <;> decide
  unfold verdict
  split
  · decide +kernel
  · rw [String.toList_append, List.mem_append, not_or]
    exact ⟨by decide +kernel, hproblems⟩

theorem verdict_eq_allLoaded_iff :
    report.verdict = "all regions loaded" ↔ report.problems = [] := by
  unfold verdict
  cases report.problems with
  | nil => exact iff_of_true rfl rfl
  | cons problem later =>
      apply iff_of_false
      · intro heq
        have hlists := congrArg String.toList heq
        rw [List.isEmpty_cons, if_neg Bool.false_ne_true, String.toList_append] at hlists
        cases hlists
      · exact List.cons_ne_nil problem later

/-- A report ends with its verdict. -/
theorem getLast?_lines_text (report : Report) :
    (Text.lines report.text.toList).getLast? = some report.verdict.toList := by
  have hnonempty : report.verdict.toList ≠ [] := by
    unfold verdict
    split <;> simp
  unfold text
  dsimp only
  rw [String.intercalate_append_of_ne_nil (by simp) (by simp), String.intercalate_singleton,
    String.toList_append, String.toList_append, List.append_assoc]
  exact Text.getLast?_lines_append report.not_mem_verdict hnonempty _

end Report

/-! ## Loads -/

/-- **Failures in a report.** The report of a full load from the empty dashboard lists a region if
and only if its fetch failed and its answer was not blank. A blank answer is a failure too, so such
a region is missing from the list, and a report ends with the line that all regions are loaded if
and only if no fetch failed but with a blank answer. -/
theorem problems_loadAll_iff (node : Node) (thresholds : Thresholds) (order : LoadOrder)
    (hanswered : ∀ asked, node.script.reply asked ≠ .hang) :
    ∃ answer, Answers node.deliver answer ∧
      let run := Dashboard.initial.loadAll node.deliver thresholds order
      let report := Report.mk node.address.text run.dashboard
      let fails (region : Region) := region.Fails (answer region.part.endpoint)
      let isBlank (region : Region) := (answer region.part.endpoint).isBlank
      run.finished = true ∧
        (∀ region, region.name ∈ report.problems.map Prod.fst ↔
          fails region ∧ isBlank region = false) ∧
        (∀ region, isBlank region = true → fails region) ∧
        ((Text.lines report.text.toList).getLast? = some "all regions loaded".toList ↔
          ∀ region, fails region → isBlank region = true) := by
  obtain ⟨answer, hanswer⟩ := Node.exists_answers node hanswered
  refine ⟨answer, hanswer, ?_⟩
  intro run report fails isBlank
  have hdiagnostic (region : Region) :
      region.diagnostic report.dashboard ≠ "" ↔ fails region ∧ isBlank region = false := by
    have hloaded : region.diagnostic report.dashboard =
        region.diagnosticOf (answer region.part.endpoint) :=
      Region.diagnostic_loadAll hanswer thresholds order region .initial
    rw [hloaded]
    exact Region.diagnosticOf_ne_empty_iff
  refine ⟨(Dashboard.loadAll_of_answers hanswer thresholds order .initial).2, fun region => ?_,
    fun region => region.fails_of_isBlank, ?_⟩
  · rw [Report.mem_problems_iff]
    exact hdiagnostic region
  · rw [Report.getLast?_lines_text, Option.some_inj, String.toList_inj,
      Report.verdict_eq_allLoaded_iff, Report.problems_eq_nil_iff]
    apply forall_congr'
    intro region
    have hempty := not_congr (hdiagnostic region)
    rw [ne_eq, Classical.not_not, not_and, Bool.not_eq_false] at hempty
    exact hempty

/-- A node that answers the request for its status with nothing, drops the one for its connections
and tells its versions. -/
def Script.blankAndLost : Script :=
  [("status", .answer .ok []), ("connections", .close),
   ("versions", .answer .ok (Text.encode ['\x7b', '\x7d']))]

/-- Of a blank status and of connections that did not arrive only the latter are reported. -/
theorem problems_loadAll_iff_blankAndLost :
    let node := Node.atTest.withScript .blankAndLost
    let run := Dashboard.initial.loadAll node.deliver .standard .directoryFirst
    let report := Report.mk node.address.text run.dashboard
    (∀ asked, Script.blankAndLost.reply asked ≠ .hang) ∧
      run.finished = true ∧
      "status" ∉ report.problems.map Prod.fst ∧
      "connections" ∈ report.problems.map Prod.fst ∧
      "versions" ∉ report.problems.map Prod.fst ∧
      (Text.lines report.text.toList).getLast? ≠ some "all regions loaded".toList := by
  intro node run report
  have hanswered : ∀ asked, Script.blankAndLost.reply asked ≠ .hang := by
    intro asked
    cases asked <;> exact Reply.noConfusion
  obtain ⟨answer, hanswer, hfinished, hlisted, -, hverdict⟩ :=
    problems_loadAll_iff node .standard .directoryFirst hanswered
  have hstatus : (answer .status).isBlank = true := by
    rw [← Option.some.inj (hanswer .status)]
    rfl
  have hconnections : ∃ fault, answer .connections = .error fault :=
    ⟨_, (Option.some.inj (hanswer .connections)).symm⟩
  have hversions : answer .versions = .ok ⟨.ok, String.ofList ['\x7b', '\x7d']⟩ :=
    (Option.some.inj (hanswer .versions)).symm
  obtain ⟨fault, hfault⟩ := hconnections
  have hlost : Region.connections.Fails (answer .connections) := by
    rw [hfault]
    exact Exchange.Fails.lost fault
  have hnotBlank : (answer .connections).isBlank = false := by
    rw [hfault]
    rfl
  refine ⟨hanswered, hfinished, fun hmem => ?_, ?_, fun hmem => ?_, fun hlast => ?_⟩
  · have hblank := ((hlisted .status).mp hmem).2
    exact absurd (hstatus.symm.trans hblank) (by decide)
  · exact (hlisted .connections).mpr ⟨hlost, hnotBlank⟩
  · have hfails : Exchange.Fails Json (answer .versions) := ((hlisted .versions).mp hmem).1
    rw [hversions] at hfails
    cases hfails with
    | refused hrefused => cases hrefused
    | undecoded hread => exact absurd hread (by decide +kernel)
  · have hblank := hverdict.mp hlast .connections hlost
    exact absurd (hblank.symm.trans hnotBlank) (by decide)

/-- A node whose status is blank and that answers everything else. -/
def Script.blankStatus : Script :=
  let empty := Text.encode ['\x7b', '\x7d']
  [("capabilities", .answer .ok empty), ("status", .answer .ok []), ("nodedb", .answer .ok empty),
   ("connections", .answer .ok empty), ("versions", .answer .ok empty)]

/-- A status that could not be loaded is not reported if the answer is blank: nothing is listed, and
the report says that all regions are loaded. -/
theorem problems_loadAll_silent :
    let node := Node.atTest.withScript .blankStatus
    let run := Dashboard.initial.loadAll node.deliver .standard .directoryFirst
    let report := Report.mk node.address.text run.dashboard
    (∃ answer, node.deliver .status = .delivered (.ok answer) ∧
        Exchange.Fails (Option Status) (.ok answer)) ∧
      report.problems = [] ∧
      (Text.lines report.text.toList).getLast? = some "all regions loaded".toList := by
  intro node run report
  exact ⟨⟨⟨.ok, ""⟩, rfl, .undecoded rfl⟩, by decide +kernel, by decide +kernel⟩

end MeshConsole
