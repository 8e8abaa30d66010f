import MeshConsole.Proofs.Dashboard.Isolation
import MeshConsole.Proofs.Text.Lines

/-!
# Traces that end in an HTTP error

A text endpoint delivers an answer with an error status as text: a line with the status, and then
the body. A trace reads that text like every other output. The status line stands where the header
of an output stands, so hops are looked for in the lines of the body:

    status line      passed over as a header
    body ──lines──▶ lines ──hopOfLine?──▶ "hops"

The region of the trace shows the whole text only if there are none. So an error stays visible if
and only if no line of its body has four words (`trace_showsError_iff`). A longer message is taken
apart into hops, and the status is gone.
-/

namespace MeshConsole

/-! ## The status line -/

theorem Decimal.not_mem_natural {c : Char} (h : c.isDigit = false) (n : Nat) : c ∉ natural n := by
  intro hmem
  have hdigit : c.isDigit = true := Nat.isDigit_of_mem_toDigits (by decide) (by decide) hmem
  rw [h] at hdigit
  cases hdigit

/-- The text of a status is one line. -/
theorem StatusCode.not_mem_text (code : StatusCode) : '\n' ∉ code.text.toList := by
  have hreasons : ∀ entry ∈ reasons, '\n' ∉ entry.2.toList := by decide +kernel
  have hreason : '\n' ∉ code.reason.toList := by
    unfold reason
    cases hlookup : reasons.lookup code.val with
    | none => decide +kernel
    | some found =>
        obtain ⟨before, after, hsplit, -⟩ := List.lookup_eq_some_iff.mp hlookup
        exact hreasons (code.val, found) (by rw [hsplit]; simp)
  have hdigits : '\n' ∉ Decimal.natural code.val := Decimal.not_mem_natural (by decide) code.val
  unfold text
  rw [String.toList_append, String.toList_append, String.toList_ofList]
  simp [hdigits, hreason]

/-- Behind its status line an answer has the lines of its body. -/
theorem Answer.lines_text (answer : Answer) :
    Text.lines answer.text.toList =
      Text.dropReturn ("HTTP " ++ answer.status.text).toList :: Text.lines answer.body.toList := by
  have hstatus : '\n' ∉ ("HTTP " ++ answer.status.text).toList := by
    rw [String.toList_append]
    simp [answer.status.not_mem_text]
  rw [← Text.lines_append_cons hstatus]
  unfold text
  simp

/-! ## Hops of an error -/

namespace Trace

/-- A line that is read as a hop, whatever its words say. -/
def isHopLine (line : List Char) : Bool := Nat.ble 4 (Text.words line).length

theorem isHopLine_eq_false_iff {line : List Char} :
    isHopLine line = false ↔ (Text.words line).length < 4 := by
  unfold isHopLine
  rw [← Bool.not_eq_true, Nat.ble_eq, Nat.not_le]

theorem isSome_hopOfLine? (line : List Char) : (hopOfLine? line).isSome = isHopLine line := by
  unfold hopOfLine? isHopLine
  rcases Text.words line with _ | ⟨hop, _ | ⟨hostname, _ | ⟨ip, _ | ⟨ping, later⟩⟩⟩⟩ <;> rfl

/-- An answer with an error status gives as many hops as its body has lines of four words. -/
theorem length_ofOutput_text (answer : Answer) :
    (ofOutput answer.text).length = (Text.lines answer.body.toList).countP isHopLine := by
  -- The status line is dropped as the header, so the lines that are left are those of the body.
  unfold ofOutput
  rw [answer.lines_text, List.drop_succ_cons, List.drop_zero, List.length_filterMap_eq_countP]
  exact List.countP_congr fun line _ => by rw [isSome_hopOfLine?]

theorem ofOutput_text_eq_nil_iff (answer : Answer) :
    ofOutput answer.text = [] ↔
      ∀ line ∈ Text.lines answer.body.toList, (Text.words line).length < 4 := by
  rw [← List.length_eq_zero_iff, length_ofOutput_text, List.countP_eq_zero]
  simp only [Bool.not_eq_true, isHopLine_eq_false_iff]

end Trace

/-! ## The region of a trace -/

namespace TraceRegion

variable (target output : String)

theorem length_rows_ofOutput :
    (ofOutput target output).rows.length = (Trace.ofOutput output).length :=
  List.length_map _

/-- An output is shown as it is if it gives no hops. -/
theorem ofOutput_shows_iff :
    (ofOutput target output).rows = [] ∧ (ofOutput target output).raw = some output ↔
      Trace.ofOutput output = [] := by
  constructor
  · rintro ⟨hrows, -⟩
    exact List.map_eq_nil_iff.mp hrows
  · intro hhops
    unfold ofOutput
    rw [hhops]
    exact ⟨rfl, rfl⟩

/-- An output that gives hops is shown as hops, and their number is all that is said of it. -/
theorem ofOutput_of_ne_nil (h : Trace.ofOutput output ≠ []) :
    (ofOutput target output).raw = none ∧
      (ofOutput target output).summary =
        "Traceroute: " ++ Trace.hopCount (Trace.ofOutput output).length := by
  have hhops : (Trace.ofOutput output).isEmpty = false := by simpa using h
  unfold ofOutput Trace.summary
  rw [hhops]
  exact ⟨rfl, rfl⟩

end TraceRegion

/-- The region of a trace whose request is answered with an error status. -/
theorem Branch.run_traceTo_of_error {deliver : Endpoint → Delivery} {target : String}
    {answer : Answer} (htarget : Text.trim target ≠ "")
    (hanswer : deliver (.traceroute (Text.trim target)) = .delivered (.ok answer))
    (herror : answer.status.isSuccess = false) (dashboard : Dashboard) :
    ((Branch.traceTo target).run deliver dashboard).finished = true ∧
      ((Branch.traceTo target).run deliver dashboard).dashboard.traceroute =
        .ofOutput (Text.trim target) answer.text := by
  have hnonempty : (Text.trim target).isEmpty = false := by simpa using htarget
  have htext : (Exchange.text (.ok answer)) = .ok answer.text := by
    unfold Exchange.text
    dsimp only
    rw [herror]
    rfl
  unfold traceTo
  dsimp only
  rw [if_neg (by simp [hnonempty])]
  unfold run run
  rw [hanswer]
  dsimp only
  rw [htext]
  exact ⟨rfl, rfl⟩

/-- **Errors of a trace.** A trace whose request is answered with an error status shows the status
and the body as they are, and no hop, if and only if no line of the body has four words. Otherwise
every such line is shown as a hop, and the answer itself is not shown. -/
theorem trace_showsError_iff (deliver : Endpoint → Delivery) (dashboard : Dashboard)
    (target : String) (answer : Answer) (htarget : Text.trim target ≠ "")
    (hanswer : deliver (.traceroute (Text.trim target)) = .delivered (.ok answer))
    (herror : answer.status.isSuccess = false) :
    let run := (Branch.traceTo target).run deliver dashboard
    let region := run.dashboard.traceroute
    let body := Text.lines answer.body.toList
    run.finished = true ∧
      (region.rows = [] ∧
          region.raw = some ("HTTP " ++ answer.status.text ++ "\n" ++ answer.body) ↔
        ∀ line ∈ body, (Text.words line).length < 4) ∧
      (¬ (∀ line ∈ body, (Text.words line).length < 4) →
        region.rows.length = body.countP Trace.isHopLine ∧ region.raw = none ∧
          region.summary = "Traceroute: " ++ Trace.hopCount region.rows.length) := by
  obtain ⟨hfinished, hregion⟩ := Branch.run_traceTo_of_error htarget hanswer herror dashboard
  have hnone := Trace.ofOutput_text_eq_nil_iff answer
  dsimp only
  rw [hregion]
  refine ⟨hfinished, ?_, fun hlines => ?_⟩
  · rw [← hnone]
    exact TraceRegion.ofOutput_shows_iff (Text.trim target) answer.text
  · obtain ⟨hraw, hsummary⟩ :=
      TraceRegion.ofOutput_of_ne_nil (Text.trim target) answer.text (mt hnone.mp hlines)
    have hlength := TraceRegion.length_rows_ofOutput (Text.trim target) answer.text
    refine ⟨hlength.trans (Trace.length_ofOutput_text answer), hraw, ?_⟩
    rw [hlength]
    exact hsummary

/-- A node whose answer to a trace is an error of the given text. -/
def Script.badGateway (body : String) : Script :=
  [("traceroute", .answer ⟨502, by decide⟩ (Text.encode body.toList))]

/-- A short message stays visible, with its status. -/
theorem trace_showsError_iff_short :
    let node := Node.atTest.withScript (.badGateway "no such node\n")
    let answer : Answer := ⟨⟨502, by decide⟩, "no such node\n"⟩
    let region := ((Branch.traceTo " 10.0.0.9 ").run node.deliver .initial).dashboard.traceroute
    Text.trim " 10.0.0.9 " ≠ "" ∧
      node.deliver (.traceroute (Text.trim " 10.0.0.9 ")) = .delivered (.ok answer) ∧
      answer.status.isSuccess = false ∧
      region.rows = [] ∧ region.raw = some "HTTP 502 Bad Gateway\nno such node\n" := by
  intro node answer region
  have htarget : Text.trim " 10.0.0.9 " ≠ "" := by decide +kernel
  have hanswer :
      node.deliver (.traceroute (Text.trim " 10.0.0.9 ")) = .delivered (.ok answer) := by
    rfl
  have herror : answer.status.isSuccess = false := by decide
  have hlines : ∀ line ∈ Text.lines answer.body.toList, (Text.words line).length < 4 := by
    decide +kernel
  obtain ⟨hrows, hraw⟩ :=
    (trace_showsError_iff node.deliver .initial " 10.0.0.9 " answer htarget hanswer
      herror).2.1.mpr hlines
  have htext : "HTTP " ++ answer.status.text ++ "\n" ++ answer.body =
      "HTTP 502 Bad Gateway\nno such node\n" := by decide +kernel
  exact ⟨htarget, hanswer, herror, hrows, hraw.trans (congrArg some htext)⟩

/-- A message of five words is taken for a hop, and the status is not shown. -/
theorem trace_not_showsError :
    let node := Node.atTest.withScript (.badGateway "upstream node did not respond")
    let answer : Answer := ⟨⟨502, by decide⟩, "upstream node did not respond"⟩
    let region := ((Branch.traceTo "10.0.0.9").run node.deliver .initial).dashboard.traceroute
    node.deliver (.traceroute "10.0.0.9") = .delivered (.ok answer) ∧
      answer.status.isSuccess = false ∧
      region.rows.map (·.map Cell.lines) = [[["upstream"], ["did"], ["node"], ["not"]]] ∧
      region.raw = none ∧ region.summary = "Traceroute: 1 hop(s)" := by
  intro node answer region
  exact ⟨rfl, by decide, by decide +kernel, by decide +kernel, by decide +kernel⟩

end MeshConsole
