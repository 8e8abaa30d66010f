import MeshConsole.Proofs.Text.Trim
import MeshConsole.Proofs.Text.Words
import MeshConsole.Proofs.Trace.HttpError

/-!
# Traces that are printed

An output of a traceroute is a header and lines, each of which prints a hop or has fewer than four
words. A hop may be printed in many layouts, and lines may end in two ways:

    hops ──Lists──▶ lines ──IsTextOf──▶ output ──ofOutput──▶ hops

Reading goes back from any such output to exactly the hops that were printed, in order. From any
output at all it gives one hop for each line behind the header that has four words, and a hop that
it gives can be printed (`ofOutput_printed`).
-/

namespace MeshConsole

open Text

/-! ## Texts of lines -/

namespace Text

/-- A text that consists of lines, each ended by a line feed with or without a carriage return in
front of it. Behind the last line the end may be missing. -/
inductive IsTextOf : List (List Char) → List Char → Prop
  | nil : IsTextOf [] []
  | last {line : List Char} : '\n' ∉ line → IsTextOf [line] line
  | cons {line lineEnd rest : List Char} {later : List (List Char)} :
      '\n' ∉ line → lineEnd = ['\n'] ∨ lineEnd = ['\r', '\n'] → IsTextOf later rest →
      IsTextOf (line :: later) (line ++ (lineEnd ++ rest))

theorem dropReturn_concat (line : List Char) : dropReturn (line ++ ['\r']) = line := by
  unfold dropReturn
  rw [if_pos List.getLast?_concat, List.dropLast_concat]

theorem words_dropReturn (line : List Char) : words (dropReturn line) = words line := by
  unfold dropReturn
  split
  · next hlast =>
      obtain ⟨front, rfl⟩ := List.getLast?_eq_some_iff.mp hlast
      rw [List.dropLast_concat, words_append_isSpace (by decide +kernel)]
  · rfl

/-- A line and its end are one line of a text. At most a carriage return of its own is lost. -/
theorem lines_append_lineEnd {line lineEnd : List Char} (hline : '\n' ∉ line)
    (hend : lineEnd = ['\n'] ∨ lineEnd = ['\r', '\n']) (rest : List Char) :
    ∃ shown, lines (line ++ (lineEnd ++ rest)) = shown :: lines rest ∧
      words shown = words line := by
  rcases hend with rfl | rfl
  · exact ⟨dropReturn line, lines_append_cons hline rest, words_dropReturn line⟩
  · refine ⟨line, ?_, rfl⟩
    have hreturn : '\n' ∉ line ++ ['\r'] := by simp [hline]
    have hlines := lines_append_cons hreturn rest
    rwa [dropReturn_concat, List.append_assoc] at hlines

/-- A text without a line feed is one line, or none if it is empty. -/
theorem lines_of_not_mem {line : List Char} (h : '\n' ∉ line) :
    lines line = if line.isEmpty then [] else [line] :=
  lines_of_splitOn (splitOn_of_not_mem h)

end Text

namespace Trace

/-! ## Hops of lines -/

theorem hopOfLine?_eq_none_iff {line : List Char} :
    hopOfLine? line = none ↔ (words line).length < 4 := by
  rw [← isHopLine_eq_false_iff, ← isSome_hopOfLine?, Option.isSome_eq_false_iff,
    Option.isNone_iff_eq_none]

theorem hopOfLine?_of_words {line line' : List Char} (h : words line = words line') :
    hopOfLine? line = hopOfLine? line' := by
  unfold hopOfLine?
  rw [h]

/-- The lines of a text give the hops that the lines it consists of give. -/
theorem filterMap_lines {given : List (List Char)} {cs : List Char} (h : IsTextOf given cs) :
    (lines cs).filterMap hopOfLine? = given.filterMap hopOfLine? := by
  induction h with
  | nil => rfl
  | @last line hline =>
      rw [lines_of_not_mem hline]
      cases line <;> rfl
  | cons hline hend _ ih =>
      obtain ⟨shown, hlines, hwords⟩ := lines_append_lineEnd hline hend _
      -- Only the words of a line are looked at, so it does not matter how the line ends.
      rw [hlines, List.filterMap_cons, List.filterMap_cons, ih, hopOfLine?_of_words hwords]

/-- The first of the lines is passed over. -/
theorem filterMap_drop_lines {header : List Char} {given : List (List Char)} {cs : List Char}
    (h : IsTextOf (header :: given) cs) :
    ((lines cs).drop 1).filterMap hopOfLine? = given.filterMap hopOfLine? := by
  cases h with
  | last hheader =>
      rw [lines_of_not_mem hheader]
      split <;> rfl
  | cons hheader hend hrest =>
      obtain ⟨shown, hlines, -⟩ := lines_append_lineEnd hheader hend _
      rw [hlines, List.drop_one, List.tail_cons, filterMap_lines hrest]

/-! ## Layouts -/

/-- How a hop is laid out on a line: the blanks in front of it and between its parts, and what
stands behind it. -/
structure Layout where
  indent : List Char
  afterHop : List Char
  afterName : List Char
  afterAddress : List Char
  trailer : List Char
  indent_isSpace : IsSpace indent
  afterHop_isGap : IsGap afterHop
  afterName_isGap : IsGap afterName
  afterAddress_isGap : IsGap afterAddress
  trailer_apart : ∀ c ∈ trailer.head?, isBlank c = true

end Trace

namespace Hop

/-- A hop whose parts can be printed as words. Parentheses around its address would be taken for
those that are printed around it. -/
structure IsPrintable (hop : Hop) : Prop where
  hop_isWord : IsWord hop.hop.toList
  hostname_isWord : IsWord hop.hostname.toList
  ip_isBlank : ∀ c ∈ hop.ip.toList, isBlank c = false
  ip_endsClear : EndsClear Trace.isParenthesis hop.ip.toList
  ping_isWord : IsWord hop.ping.toList

instance (hop : Hop) : Decidable hop.IsPrintable :=
  decidable_of_iff
    (IsWord hop.hop.toList ∧ IsWord hop.hostname.toList ∧
      hop.ip.toList.all (!isBlank ·) = true ∧
      EndsClear Trace.isParenthesis hop.ip.toList ∧ IsWord hop.ping.toList) <| by
    simp only [List.all_eq_true, Bool.not_eq_true']
    exact ⟨fun ⟨hhop, hhostname, hip, hends, hping⟩ => ⟨hhop, hhostname, hip, hends, hping⟩,
      fun h => ⟨h.hop_isWord, h.hostname_isWord, h.ip_isBlank, h.ip_endsClear, h.ping_isWord⟩⟩

/-- The line of a hop in a layout. -/
def line (layout : Trace.Layout) (hop : Hop) : List Char :=
  layout.indent ++
    (hop.hop.toList ++ (layout.afterHop ++
      (hop.hostname.toList ++ (layout.afterName ++
        (('(' :: (hop.ip.toList ++ [')'])) ++ (layout.afterAddress ++
          (hop.ping.toList ++ layout.trailer)))))))

/-- The first four words of the line of a hop are its parts. -/
theorem words_line (layout : Trace.Layout) {hop : Hop} (h : hop.IsPrintable) :
    words (hop.line layout) =
      hop.hop.toList :: hop.hostname.toList :: ('(' :: (hop.ip.toList ++ [')'])) ::
        hop.ping.toList :: words layout.trailer := by
  have haddress : IsWord ('(' :: (hop.ip.toList ++ [')'])) := by
    refine ⟨List.cons_ne_nil _ _, ?_⟩
    rw [List.forall_mem_cons, List.forall_mem_append, List.forall_mem_singleton]
    exact ⟨by decide, h.ip_isBlank, by decide⟩
  unfold line
  rw [words_append_of_isSpace layout.indent_isSpace,
    words_append_gap h.hop_isWord layout.afterHop_isGap,
    words_append_gap h.hostname_isWord layout.afterName_isGap,
    words_append_gap haddress layout.afterAddress_isGap,
    words_append_of_isWord h.ping_isWord layout.trailer_apart]

end Hop

namespace Trace

theorem trimParentheses_enclosed {ip : List Char} (h : EndsClear isParenthesis ip) :
    trimParentheses ('(' :: (ip ++ [')'])) = ip := by
  show trimEnds isParenthesis (['('] ++ (ip ++ [')'])) = ip
  exact trimEnds_append (List.forall_mem_singleton.mpr (by decide)) h
    (List.forall_mem_singleton.mpr (by decide))

/-- The line of a hop gives the hop back. -/
theorem hopOfLine?_line (layout : Layout) {hop : Hop} (h : hop.IsPrintable) :
    hopOfLine? (hop.line layout) = some hop := by
  unfold hopOfLine?
  rw [hop.words_line layout h]
  dsimp only
  rw [trimParentheses_enclosed h.ip_endsClear]
  simp only [String.ofList_toList]

/-- A hop that a line gives can be printed. -/
theorem isPrintable_of_hopOfLine? {line : List Char} {hop : Hop} (h : hopOfLine? line = some hop) :
    hop.IsPrintable := by
  unfold hopOfLine? at h
  split at h
  · next number hostname ip ping later hwords =>
      obtain rfl := Option.some.inj h
      have hall : ∀ word ∈ words line, IsWord word := fun _ => isWord_of_mem_words
      rw [hwords] at hall
      simp only [List.forall_mem_cons] at hall
      obtain ⟨hnumber, hhostname, hip, hping, -⟩ := hall
      constructor <;> rw [String.toList_ofList]
      · exact hnumber
      · exact hhostname
      · exact fun c hc => hip.isBlank c (mem_of_mem_trimEnds hc)
      · exact endsClear_trimEnds isParenthesis ip
      · exact hping
  · cases h

/-! ## Outputs -/

/-- Lines that print hops, in order, with other lines of fewer than four words between them. A
blank line is such a line, so the blanks in front of a hop may also begin on earlier lines. -/
inductive Lists : List Hop → List (List Char) → Prop
  | nil : Lists [] []
  | other {line : List Char} {hops : List Hop} {later : List (List Char)} :
      (words line).length < 4 → Lists hops later → Lists hops (line :: later)
  | hop (layout : Layout) {hop : Hop} {hops : List Hop} {later : List (List Char)} :
      hop.IsPrintable → Lists hops later → Lists (hop :: hops) (hop.line layout :: later)

/-- Lines give the hops that they print. -/
theorem Lists.filterMap_eq {hops : List Hop} {given : List (List Char)} (h : Lists hops given) :
    given.filterMap hopOfLine? = hops := by
  induction h with
  | nil => rfl
  | @other line hops later hshort _ ih =>
      rw [List.filterMap_cons, hopOfLine?_eq_none_iff.mpr hshort, ih]
  | hop layout hprintable _ ih =>
      rw [List.filterMap_cons, hopOfLine?_line layout hprintable, ih]

/-- **Printed traces.** An output whose lines print hops behind a header is read as these hops.
Every output gives as many hops as it has lines of at least four words behind the first one, and
every hop that is read can be printed. -/
theorem ofOutput_printed :
    (∀ (header : List Char) (hops : List Hop) (given : List (List Char)) (output : String),
      Lists hops given → IsTextOf (header :: given) output.toList → ofOutput output = hops) ∧
    ∀ output : String,
      (ofOutput output).length =
        ((lines output.toList).drop 1).countP (fun line => 4 ≤ (words line).length) ∧
      ∀ hop ∈ ofOutput output, hop.IsPrintable := by
  refine ⟨fun header hops given output hlists htext => ?_, fun output => ⟨?_, fun hop hmem => ?_⟩⟩
  · exact (filterMap_drop_lines htext).trans hlists.filterMap_eq
  · unfold ofOutput
    rw [List.length_filterMap_eq_countP]
    refine List.countP_congr fun line _ => ?_
    rw [isSome_hopOfLine?, isHopLine, Nat.ble_eq, decide_eq_true_iff]
  · obtain ⟨line, -, hline⟩ := List.mem_filterMap.mp hmem
    exact isPrintable_of_hopOfLine? hline

/-- A layout with blanks wherever they may stand, and with more times behind the first. -/
def Layout.wide : Layout where
  indent := "  ".toList
  afterHop := "  ".toList
  afterName := "\t".toList
  afterAddress := " \r ".toList
  trailer := " ms  0.470 ms".toList
  indent_isSpace := by decide +kernel
  afterHop_isGap := by decide +kernel
  afterName_isGap := by decide +kernel
  afterAddress_isGap := by decide +kernel
  trailer_apart c hc := by
    obtain rfl := Option.some.inj hc
    decide

/-- A layout with one blank between two parts. -/
def Layout.narrow : Layout where
  indent := []
  afterHop := [' ']
  afterName := ['\u00A0']
  afterAddress := [' ']
  trailer := []
  indent_isSpace := by decide +kernel
  afterHop_isGap := by decide +kernel
  afterName_isGap := by decide +kernel
  afterAddress_isGap := by decide +kernel
  trailer_apart _ hc := nomatch hc

/-- Two hops, one of them without an address, among an empty line and a short one. The last line is
not ended. -/
theorem ofOutput_printed_mixed :
    let gateway : Hop := ⟨"1", "gw.lan", "192.168.1.1", "0.512"⟩
    let target : Hop := ⟨"2", "*", "", "9ms"⟩
    let header := "traceroute to 10.0.0.9".toList
    let given := [[], gateway.line .wide, "? * *".toList, target.line .narrow]
    let output := "traceroute to 10.0.0.9\r\n\n" ++
      "  1  gw.lan\t(192.168.1.1) \r 0.512 ms  0.470 ms\n? * *\r\n2 *\u00A0() 9ms"
    Lists [gateway, target] given ∧ IsTextOf (header :: given) output.toList ∧
      ofOutput output = [gateway, target] := by
  intro gateway target header given output
  have hgateway : gateway.IsPrintable := by decide +kernel
  have htarget : target.IsPrintable := by decide +kernel
  have hlists : Lists [gateway, target] given :=
    .other (by decide) (.hop .wide hgateway (.other (by decide) (.hop .narrow htarget .nil)))
  have hspelled : output.toList = header ++ (['\r', '\n'] ++ ([] ++ (['\n'] ++
      (gateway.line .wide ++ (['\n'] ++ ("? * *".toList ++ (['\r', '\n'] ++
        target.line .narrow))))))) := by decide +kernel
  have htext : IsTextOf (header :: given) output.toList := by
    rw [hspelled]
    exact .cons (by decide) (.inr rfl) (.cons (by decide) (.inl rfl) (.cons (by decide) (.inl rfl)
      (.cons (by decide) (.inr rfl) (.last (by decide)))))
  exact ⟨hlists, htext, ofOutput_printed.1 header _ given output hlists htext⟩

end Trace

end MeshConsole
