import MeshConsole.Proofs.Session.Recording

/-!
# The history of a session

A session is recorded without a look at the dashboard. Yet the dashboard shows in its tables what the
history tells (`Session.Recorded.steps`), for each update of the dashboard changes the tables in the
way in which its event changes what the history tells. Results of traces are among these updates,
whatever trace they find in the region, so this holds of sessions in which branches are started in one
step and finished in a later one.
-/

namespace MeshConsole

/-! ## What a history tells of a dashboard -/

/-- A history tells which rows a dashboard shows in its tables, and what later rows depend on. -/
structure History.Tells (history : History) (dashboard : Dashboard) : Prop where
  rows_eq : ∀ id, dashboard.rows id = history.rows id
  sortKeys_eq : ∀ id, dashboard.sortKeys id = history.key? id
  directory_eq : dashboard.directory = history.directory
  userRun_eq : dashboard.traceroute.userRun = history.traced

namespace History.Tells

variable {history : History} {dashboard : Dashboard}

theorem initial : History.Tells [] .initial := by
  refine ⟨fun id => ?_, fun id => rfl, rfl, rfl⟩
  cases id <;> rfl

/-- An update that leaves the tables and what later rows depend on brings no event. -/
theorem of_eq {after : Dashboard} (h : history.Tells dashboard)
    (hrows : after.rows = dashboard.rows) (hsortKeys : after.sortKeys = dashboard.sortKeys)
    (hdirectory : after.directory = dashboard.directory)
    (huserRun : after.traceroute.userRun = dashboard.traceroute.userRun) :
    history.Tells after := by
  refine ⟨fun id => ?_, fun id => ?_, hdirectory.trans h.directory_eq, huserRun.trans h.userRun_eq⟩
  · rw [hrows, h.rows_eq]
  · rw [hsortKeys, h.sortKeys_eq]

/-! ### Updates that bring an event -/

/-- A status brings rows for three tables, and for the trace unless the operator has run one. -/
theorem showStatus (h : history.Tells dashboard) (thresholds : Thresholds) (status : Status)
    (olsr2Info : String) :
    History.Tells (.status status :: history)
      (dashboard.showStatus thresholds status olsr2Info) := by
  rw [Dashboard.showStatus_eq, h.sortKeys_eq, h.sortKeys_eq, h.sortKeys_eq]
  refine ⟨fun id => ?_, h.sortKeys_eq, h.directory_eq, ?_⟩
  · cases id with
    | devices => rfl
    | links => rfl
    | neighbors => rfl
    | connections => exact h.rows_eq .connections
    | traceroute =>
        show (dashboard.traceroute.afterStatus status).rows =
          History.rows .traceroute (.status status :: history)
        unfold TraceRegion.afterStatus
        rw [h.userRun_eq]
        split
        · next hstays =>
            have hrendered : (Event.status status).rendered? history .traceroute = none :=
              if_pos hstays
            rw [History.rows_cons_of_none hrendered rfl]
            exact h.rows_eq .traceroute
        · next hshown =>
            have hrendered : (Event.status status).rendered? history .traceroute =
                some (Table.ofHops (Trace.ofUplink status.traceToUplink)).rows :=
              if_neg hshown
            rw [History.rows_cons_of_rendered hrendered]
            rfl
  · show (dashboard.traceroute.afterStatus status).userRun = history.traced
    unfold TraceRegion.afterStatus
    split
    · exact h.userRun_eq
    · next hshown =>
        rw [← h.userRun_eq]
        simp only [Bool.or_eq_true, not_or, Bool.not_eq_true] at hshown
        exact hshown.2.symm

theorem keepDirectory (h : history.Tells dashboard) (directory : Directory) :
    History.Tells (.directory directory :: history) (dashboard.keepDirectory directory) := by
  refine ⟨fun id => ?_, h.sortKeys_eq, rfl, h.userRun_eq⟩
  have hrows := h.rows_eq id
  cases id <;> exact hrows

/-- Ports are shown with the directory that the history tells. -/
theorem showConnections (h : history.Tells dashboard) (connections : Option Connections) :
    History.Tells (.ports (connections.getD .absent).ports :: history)
      (dashboard.showConnections (.ok connections)) := by
  rw [Dashboard.showConnections_ok]
  refine ⟨fun id => ?_, h.sortKeys_eq, h.directory_eq, h.userRun_eq⟩
  have hrows := h.rows_eq id
  cases id with
  | connections =>
      dsimp only [Dashboard.rows]
      rw [h.sortKeys_eq, h.directory_eq]
      rfl
  | _ => exact hrows

theorem awaitTrace (h : history.Tells dashboard) (target : String) :
    History.Tells (.began :: history) (dashboard.awaitTrace target) := by
  refine ⟨fun id => ?_, h.sortKeys_eq, h.directory_eq, rfl⟩
  have hrows := h.rows_eq id
  cases id with
  | traceroute => rfl
  | _ => exact hrows

theorem showTrace (h : history.Tells dashboard) (target output : String) :
    History.Tells (.output output :: history) (dashboard.showTrace target (.ok output)) := by
  refine ⟨fun id => ?_, h.sortKeys_eq, h.directory_eq, rfl⟩
  have hrows := h.rows_eq id
  cases id with
  | traceroute => rfl
  | _ => exact hrows

/-- The result of a trace brings its output, if it has one. -/
theorem showOutcome (h : history.Tells dashboard) (target : String) (outcome : Outcome String) :
    History.Tells (outcome.event?.toList ++ history) (dashboard.showTrace target outcome) := by
  cases outcome with
  | ok output => exact h.showTrace target output
  | error failure => exact h.of_eq rfl rfl rfl rfl

/-- A sort concerns its own table only. -/
theorem sort (h : history.Tells dashboard) (id : TableId) (key : String) :
    History.Tells (.sorted id key :: history) (dashboard.sort id key) := by
  have hself : (Event.sorted id key).key? id = some key := if_pos rfl
  have hother : ∀ {other}, other ≠ id → (Event.sorted id key).key? other = none :=
    fun hne => if_neg hne
  unfold Dashboard.sort Dashboard.arrange
  refine ⟨fun other => ?_, fun other => ?_, ?_, ?_⟩
  · by_cases heq : other = id
    · subst heq
      rw [Dashboard.rows_withRows, History.rows_cons_of_key rfl hself, ← h.rows_eq]
      cases other <;> rfl
    · rw [Dashboard.rows_withRows_of_ne heq, History.rows_cons_of_none rfl (hother heq),
        ← h.rows_eq]
      cases other <;> rfl
  · rw [Dashboard.sortKeys_withRows]
    by_cases heq : other = id
    · subst heq
      rw [History.key?_cons_of_some hself]
      exact if_pos rfl
    · rw [History.key?_cons_of_none (hother heq), ← h.sortKeys_eq]
      exact if_neg heq
  · cases id <;> exact h.directory_eq
  · cases id <;> exact h.userRun_eq

end History.Tells

/-- What a history tells of a dashboard is kept by all that happens in a session. -/
theorem History.Tells.invariant : OverlapInvariant History.Tells where
  quiet h hsame := h.of_eq hsame.rows_eq hsame.sortKeys_eq hsame.directory_eq
    (congrArg TraceRegion.userRun hsame.traceroute_eq)
  status thresholds _ olsr2Info _ h := h.showStatus thresholds _ olsr2Info
  directory _ h := h.keepDirectory _
  ports _ h := h.showConnections _
  requested h := h.of_eq rfl rfl rfl rfl
  began _ h := h.awaitTrace _
  traced outcome _ h := (h.awaitTrace _).showOutcome _ outcome
  sorted id key h := h.sort id key
  late target outcome h := h.showOutcome target outcome

/-! ## Sessions -/

/-- A session as its history tells it: the tables are those of the history, and what waits for an
answer are branches of jobs. -/
structure Session.Recorded (session : Session) (history : History) : Prop where
  tells : history.Tells session.console.dashboard
  waiting : ∀ entry ∈ session.waiting, ∃ job, (session.branch job).Suspends entry.2

namespace Session.Recorded

variable {session : Session} {history : History}

theorem initial (node : Node) (thresholds : Thresholds) :
    (Session.initial node thresholds).Recorded [] :=
  ⟨.initial, WaitsForJobs.initial node thresholds⟩

/-- **Sessions are as their histories tell them.** -/
theorem steps (h : session.Recorded history) (steps : List Step) :
    (session.steps steps).Recorded (session.recordAll steps history) := by
  have hwaits : session.WaitsForJobs := h.waiting
  exact ⟨History.Tells.invariant.steps h.tells hwaits steps, hwaits.steps steps⟩

end Session.Recorded

end MeshConsole
