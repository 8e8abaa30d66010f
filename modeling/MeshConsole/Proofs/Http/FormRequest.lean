import Mathlib.Data.List.TakeWhile
import MeshConsole.Console.Action
import MeshConsole.Proofs.Url.FormCoding

/-!
# Requests with a form

A browser that sends a form writes its pair behind the path:

    path ++ "?" ++ pair ──parse?──▶ Request ──parameter?──▶ the value of the pair

What a form writes may stand in a query, so such a request is read as it was meant, unless it is
longer than any request may be.
-/

namespace MeshConsole

/-! ## Written characters in a query -/

namespace Form

theorem isQueryChar_of_standsForItself {c : Char} (h : standsForItself c = true) :
    RequestTarget.isQueryChar c = true := by
  obtain ⟨hleast, hmost⟩ := bounds_of_standsForItself h
  have hplain : c ∉ ['"', '#', '<', '>'] := by
    intro hc
    simp only [List.mem_cons, List.not_mem_nil, or_false] at hc
    rcases hc with rfl | rfl | rfl | rfl <;> exact absurd h (by decide)
  refine Bool.or_eq_true_iff.mpr (Or.inr ?_)
  rw [RequestTarget.isPrintableBut, Nat.ble_eq.mpr hleast, Nat.ble_eq.mpr hmost]
  simpa using hplain

theorem isQueryChar_of_mem_encode {cs : List Char} {c : Char} (h : c ∈ encode cs) :
    RequestTarget.isQueryChar c = true := by
  obtain ⟨_, -, hwritten⟩ := List.mem_flatMap.mp h
  rcases mem_encodeChar hwritten with hself | rfl | rfl
  · exact isQueryChar_of_standsForItself hself
  · rfl
  · rfl

theorem isQueryChar_of_mem_encodePair {pair : Pair} {c : Char} (h : c ∈ encodePair pair) :
    RequestTarget.isQueryChar c = true := by
  rcases List.mem_append.mp h with hname | hvalue
  · exact isQueryChar_of_mem_encode hname
  · rcases List.mem_cons.mp hvalue with rfl | hvalue
    · rfl
    · exact isQueryChar_of_mem_encode hvalue

end Form

/-! ## From the text to the parameter -/

/-- A path and a query are read as such. -/
theorem RequestTarget.ofPathAndQuery?_append {path query : List Char} (hnonempty : path ≠ [])
    (hpath : ∀ c ∈ path, isPathChar c = true) (hquery : ∀ c ∈ query, isQueryChar c = true) :
    ofPathAndQuery? (path ++ '?' :: query) = some ⟨path, query⟩ := by
  have hinside : ∀ c ∈ path, (c != '?' && c != '#') = true := by
    intro c hc
    have hchar := hpath c hc
    rw [Bool.and_eq_true, bne_iff_ne, bne_iff_ne]
    constructor <;> rintro rfl <;> exact absurd hchar (by decide)
  have hwhole : query.takeWhile (· != '#') = query := by
    refine List.takeWhile_eq_self_iff.mpr fun c hc => bne_iff_ne.mpr ?_
    rintro rfl
    exact absurd (hquery _ hc) (by decide)
  unfold ofPathAndQuery?
  rw [List.takeWhile_append_of_pos hinside, List.dropWhile_append_of_pos hinside]
  simp [hwhole, hnonempty, List.all_eq_true.mpr hpath, List.all_eq_true.mpr hquery]

namespace Request

/-- A request with a form of one pair. -/
def ofForm (path : List Char) (pair : Form.Pair) : Request := ⟨"GET", ⟨path, Form.encodePair pair⟩⟩

/-- The text of the target of a request with a form. -/
def formText (path : List Char) (pair : Form.Pair) : String :=
  String.ofList (path ++ '?' :: Form.encodePair pair)

/-- A request with a form is read as one, unless it is too long. -/
theorem parse?_formText {path : List Char} (hslash : path.head? = some '/')
    (hpath : path.all RequestTarget.isPathChar = true) (pair : Form.Pair) :
    parse? "GET" (formText path pair) =
      if (formText path pair).utf8ByteSize > RequestTarget.longest then none
      else some (ofForm path pair) := by
  have hmethod : ("GET".isEmpty || !"GET".toList.all isMethodChar) = false := by decide
  obtain ⟨later, rfl⟩ := List.head?_eq_some_iff.mp hslash
  have hquery : ∀ c ∈ Form.encodePair pair, RequestTarget.isQueryChar c = true := fun _ hc =>
    Form.isQueryChar_of_mem_encodePair hc
  have htarget := RequestTarget.ofPathAndQuery?_append (List.cons_ne_nil _ _)
    (List.all_eq_true.mp hpath) hquery
  unfold parse?
  rw [hmethod, if_neg Bool.false_ne_true]
  unfold RequestTarget.parse?
  split
  · rfl
  · rw [formText, String.toList_ofList]
    exact congrArg (Option.map _) htarget

/-- The pair of a form gives the value of its name. -/
theorem parameter?_encodePair (name value : String) :
    parameter? (Form.encodePair (name, value)) name = .ok (some value) := by
  unfold parameter?
  rw [Form.pairs_encodePair]
  simp

end Request

end MeshConsole
