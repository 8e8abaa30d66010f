import MeshConsole.Proofs.Page.Delimiters
import Mathlib.Data.List.Infix

/-!
# Attributes of a page

How often does `id="…"` stand on a page? Texts could bring more of them, and at each joint between a
text and the markup around it another one could come about. Both are excluded by looking at the
markup alone, with the texts left blank:

    Markup ──sketch──▶ characters and blanks ──scan?──▶ values of the attribute

`scan?` gives an answer only if it does not depend on the blanks nor on what follows. Where it does,
the values are those on the page (`values_of_scan?`), and as often as a value is among them, as
often the attribute stands on the page with this value (`occurrences_written`).
-/

namespace MeshConsole

/-- How often a pattern stands in a text: at how many places the text goes on with it. -/
def Text.occurrences (pattern text : List Char) : Nat :=
  text.tails.countP fun rest => pattern.isPrefixOf rest

/-- A text is tame if it has no delimiter in it. -/
def Text.IsTame (text : List Char) : Prop := ∀ c ∈ text, Piece.isDelimiter c = false

theorem Text.isTame_escape (text : List Char) : IsTame (Piece.escape text) := fun _ hc =>
  Piece.not_isDelimiter_of_mem_escape hc

open Text

/-! ## Values -/

namespace Attribute

/-- The characters in front of the value of an attribute. -/
def opening (name : String) : List Char := name.toList ++ ['=', '"']

/-- An attribute with its value. -/
def written (name : String) (value : List Char) : List Char := opening name ++ value ++ ['"']

/-- The value behind an opening at the start of a text: the characters up to the next quote. There
is none if the text starts otherwise, or if a tag begins or ends in front of that quote. -/
def valueBehind? : List Char → List Char → Option (List Char)
  | _, [] => none
  | o :: opening, c :: cs => if o = c then valueBehind? opening cs else none
  | [], c :: cs =>
    if c = '"' then some []
    else if Piece.isDelimiter c then none
    else (valueBehind? [] cs).map (c :: ·)

/-- The values of the attributes of a name, in the order in which they stand. -/
def values (name : String) (text : List Char) : List (List Char) :=
  text.tails.filterMap (valueBehind? (opening name))

theorem quote_mem_opening (name : String) : '"' ∈ opening name := by simp [opening]

theorem values_cons (name : String) (c : Char) (cs : List Char) :
    values name (c :: cs) = (valueBehind? (opening name) (c :: cs)).toList ++ values name cs := by
  unfold values
  rw [List.tails_cons, List.filterMap_cons]
  cases valueBehind? (opening name) (c :: cs) <;> rfl

theorem valueBehind?_eq_some_iff {opening value text : List Char} :
    valueBehind? opening text = some value ↔
      IsTame value ∧ opening ++ value ++ ['"'] <+: text := by
  fun_induction valueBehind? opening text generalizing value with
  | case1 opening => simp
  | case2 opening c cs ih => simp [ih, List.cons_prefix_cons]
  | case3 o opening c cs hne => simp [List.cons_prefix_cons, hne]
  | case4 cs =>
      cases value with
      | nil => simp [IsTame, List.cons_prefix_cons]
      | cons v value =>
          -- A tame value does not begin with a quote.
          simp only [Option.some_inj, List.nil_append, List.cons_append, List.cons_prefix_cons,
            reduceCtorEq, false_iff, not_and]
          rintro htame rfl
          simpa [Piece.isDelimiter] using htame '"' List.mem_cons_self
  | case5 c cs hquote hdelimiter =>
      cases value with
      | nil => simp [List.cons_prefix_cons, Ne.symm hquote]
      | cons v value =>
          simp only [List.nil_append, List.cons_append, List.cons_prefix_cons, reduceCtorEq,
            false_iff, not_and]
          rintro htame rfl
          simp [htame v List.mem_cons_self] at hdelimiter
  | case6 c cs hquote hdelimiter ih =>
      cases value with
      | nil => simp [List.cons_prefix_cons, Ne.symm hquote]
      | cons v value =>
          simp only [Option.map_eq_some_iff, ih, List.nil_append, List.cons_append,
            List.cons_prefix_cons, List.cons.injEq, IsTame, List.forall_mem_cons]
          constructor
          · rintro ⟨_, ⟨htame, hprefix⟩, rfl, rfl⟩
            exact ⟨⟨by simpa using hdelimiter, htame⟩, rfl, hprefix⟩
          · rintro ⟨⟨-, htame⟩, rfl, hprefix⟩
            exact ⟨value, ⟨htame, hprefix⟩, rfl, rfl⟩

/-- An attribute stands in a text as often as its value is among the values. -/
theorem occurrences_written (name : String) {value : List Char} (h : IsTame value)
    (text : List Char) :
    occurrences (written name value) text = (values name text).count value := by
  unfold occurrences values
  rw [List.count_filterMap]
  apply List.countP_congr
  intro rest _
  rw [List.isPrefixOf_iff_prefix, beq_iff_eq, valueBehind?_eq_some_iff, and_iff_right h]
  rfl

/-- What is left of an opening that has begun, or is about to begin, in a tame text still has its
quote in it. So it ends behind the text, and there is no value if none is found there. -/
theorem valueBehind?_append_of_isTame {opening text rest behind : List Char} (h : IsTame text)
    (hbehind : ∀ rest, rest <:+ opening → rest ≠ opening → '"' ∈ rest →
      valueBehind? rest behind = none)
    (hrest : rest <:+ opening) (hquote : '"' ∈ rest) (hbegun : text ≠ [] ∨ rest ≠ opening) :
    valueBehind? rest (text ++ behind) = none := by
  induction text generalizing rest with
  | nil =>
      obtain hnil | hne := hbegun
      · exact absurd rfl hnil
      · exact hbehind rest hrest hne hquote
  | cons c text ih =>
      obtain ⟨hc, htext⟩ := List.forall_mem_cons.mp h
      cases rest with
      | nil => cases hquote
      | cons o rest =>
          rw [List.cons_append, valueBehind?]
          split
          · next heq =>
              subst heq
              have hlater : rest <:+ opening := (List.suffix_cons o rest).trans hrest
              have hshorter : rest ≠ opening := by
                rintro rfl
                have hlength := hrest.length_le
                simp only [List.length_cons] at hlength
                omega
              rcases List.mem_cons.mp hquote with rfl | hmem
              · simp [Piece.isDelimiter] at hc
              · exact ih htext hlater hmem (Or.inr hshorter)
          · rfl

/-- A tame text adds no value if none that begins in it goes on behind it. -/
theorem values_append_of_isTame {name : String} {text behind : List Char} (h : IsTame text)
    (hbehind : ∀ rest, rest <:+ opening name → rest ≠ opening name → '"' ∈ rest →
      valueBehind? rest behind = none) :
    values name (text ++ behind) = values name behind := by
  induction text with
  | nil => rfl
  | cons c text ih =>
      have hnone := valueBehind?_append_of_isTame h hbehind (List.suffix_refl _)
        (quote_mem_opening name) (Or.inl (List.cons_ne_nil c text))
      rw [List.cons_append] at hnone ⊢
      rw [values_cons, hnone, ih fun d hd => h d (List.mem_cons_of_mem c hd)]
      rfl

end Attribute

/-! ## Sketches -/

/-- A part of a page with its texts left blank. -/
def Markup.sketch (markup : Markup) : List (Option Char) :=
  markup.flatMap fun
    | .markup source => source.toList.map some
    | .text _ => [none]

/-- The texts that a sketch stands for: a tame text for each blank. -/
inductive Fills : List (Option Char) → List Char → Prop
  | nil : Fills [] []
  | char (c : Char) {later : List (Option Char)} {cs : List Char} :
      Fills later cs → Fills (some c :: later) (c :: cs)
  | blank {text : List Char} {later : List (Option Char)} {cs : List Char} :
      IsTame text → Fills later cs → Fills (none :: later) (text ++ cs)

/-- The characters of a part of a page fill its sketch. -/
theorem Markup.fills_sketch (markup : Markup) : Fills markup.sketch markup.chars := by
  induction markup with
  | nil => exact .nil
  | cons piece later ih =>
      cases piece with
      | text content => exact .blank (isTame_escape content.toList) ih
      | markup source =>
          show Fills (source.toList.map some ++ sketch later) (source.toList ++ chars later)
          induction source.toList with
          | nil => exact ih
          | cons c cs ihSource => exact .char c ihSource

namespace Attribute

/-- What a sketch says of the value behind an opening at its start; none if that depends on a blank
or on what follows. -/
def look? : List Char → List (Option Char) → Option (Option (List Char))
  | _, [] => none
  | _, none :: _ => none
  | o :: opening, some c :: later => if o = c then look? opening later else some none
  | [], some c :: later =>
    if c = '"' then some (some [])
    else if Piece.isDelimiter c then some none
    else (look? [] later).map (Option.map (c :: ·))

/-- No value that begins in a blank goes on behind it, where the sketch goes on as given. -/
def isClosed (opening : List Char) (later : List (Option Char)) : Bool :=
  (opening.tails.drop 1).all fun rest => rest.isEmpty || look? rest later == some none

/-- What a sketch says of the values in it. -/
def scan? (opening : List Char) : List (Option Char) → Option (List (List Char))
  | [] => some []
  | some c :: later => do
    let value ← look? opening (some c :: later)
    let values ← scan? opening later
    some (value.toList ++ values)
  | none :: later => if isClosed opening later then scan? opening later else none

theorem valueBehind?_of_look? {opening : List Char} {sketch : List (Option Char)}
    {value : Option (List Char)} {cs : List Char} (h : look? opening sketch = some value)
    (hfills : Fills sketch cs) (rest : List Char) : valueBehind? opening (cs ++ rest) = value := by
  fun_induction look? opening sketch generalizing value cs with
  | case1 => cases h
  | case2 => cases h
  | case3 opening c later ih =>
      cases hfills with
      | char _ hlater => simpa [valueBehind?] using ih h hlater
  | case4 o opening c later hne =>
      cases hfills with
      | char _ hlater => simp_all [valueBehind?]
  | case5 later =>
      cases hfills with
      | char _ hlater => simp_all [valueBehind?]
  | case6 c later hquote hdelimiter =>
      cases hfills with
      | char _ hlater => simp_all [valueBehind?]
  | case7 c later hquote hdelimiter ih =>
      cases hfills with
      | char _ hlater =>
          obtain ⟨found, hfound, rfl⟩ := Option.map_eq_some_iff.mp h
          simp [valueBehind?, hquote, hdelimiter, ih hfound hlater]

theorem valueBehind?_of_isClosed {opening rest : List Char} {later : List (Option Char)}
    {cs : List Char} (h : isClosed opening later = true) (hfills : Fills later cs)
    (hsuffix : rest <:+ opening) (hne : rest ≠ opening) (hquote : '"' ∈ rest)
    (behind : List Char) : valueBehind? rest (cs ++ behind) = none := by
  have hmem : rest ∈ opening.tails.drop 1 := by
    cases opening with
    | nil => exact absurd (List.suffix_nil.mp hsuffix) hne
    | cons o opening =>
        rcases List.suffix_cons_iff.mp hsuffix with heq | hshorter
        · exact absurd heq hne
        · simpa using hshorter
  have hlook := List.all_eq_true.mp h rest hmem
  have hnonempty : rest.isEmpty = false := by
    cases rest with
    | nil => cases hquote
    | cons o rest => rfl
  rw [hnonempty, Bool.false_or, beq_iff_eq] at hlook
  exact valueBehind?_of_look? hlook hfills behind

/-- What a scan says of a sketch holds of every text that it stands for, whatever follows. -/
theorem values_of_scan? {name : String} {sketch : List (Option Char)}
    {found : List (List Char)} {cs : List Char} (h : scan? (opening name) sketch = some found)
    (hfills : Fills sketch cs) (rest : List Char) :
    values name (cs ++ rest) = found ++ values name rest := by
  induction hfills generalizing found with
  | nil =>
      cases h
      rfl
  | @char c later cs hlater ih =>
      simp only [scan?, Option.bind_eq_bind, Option.bind_eq_some_iff, Option.some_inj] at h
      obtain ⟨value, hvalue, values, hvalues, rfl⟩ := h
      have hhere := valueBehind?_of_look? hvalue (.char c hlater) rest
      rw [List.cons_append] at hhere ⊢
      rw [values_cons, hhere, ih hvalues, List.append_assoc]
  | @blank text later cs htame hlater ih =>
      simp only [scan?, Option.ite_none_right_eq_some] at h
      obtain ⟨hclosed, hscan⟩ := h
      rw [List.append_assoc, values_append_of_isTame htame, ih hscan]
      intro left hsuffix hne hquote
      exact valueBehind?_of_isClosed hclosed hlater hsuffix hne hquote rest

end Attribute

/-! ## Parts of a page -/

namespace Markup

open Attribute

/-- A part of a page has the given values of an attribute, whatever follows. -/
structure HasValues (name : String) (found : List String) (markup : Markup) : Prop where
  values_append (rest : List Char) :
    values name (markup.chars ++ rest) = found.map String.toList ++ values name rest

namespace HasValues

variable {name : String} {found later : List String} {markup first second : Markup}

theorem of_scan? (h : scan? (opening name) markup.sketch = some (found.map String.toList)) :
    HasValues name found markup :=
  ⟨fun rest => values_of_scan? h markup.fills_sketch rest⟩

/-- A part whose sketch shows no value has none. -/
theorem none (h : scan? (opening name) markup.sketch = some []) : HasValues name [] markup :=
  of_scan? h

theorem nil : HasValues name [] [] := ⟨fun _ => rfl⟩

theorem append (hfirst : HasValues name found first) (hsecond : HasValues name later second) :
    HasValues name (found ++ later) (first ++ second) := by
  constructor
  intro rest
  rw [chars_append, List.append_assoc, hfirst.values_append, hsecond.values_append,
    List.map_append, List.append_assoc]

/-- A part without values may follow. -/
theorem behind (hfirst : HasValues name found first) (hsecond : HasValues name [] second) :
    HasValues name found (first ++ second) := by
  have hboth := hfirst.append hsecond
  rwa [List.append_nil] at hboth

/-- A part that is there or not has its values or none. -/
theorem ite (p : Prop) [Decidable p] (h : HasValues name found markup) :
    HasValues name (if p then found else []) (if p then markup else []) := by
  split
  · exact h
  · exact nil

/-- A part that is repeated has no values if it has none for each item. -/
theorem flatMap {α : Type} {items : List α} {content : α → Markup}
    (h : ∀ item ∈ items, HasValues name [] (content item)) :
    HasValues name [] (items.flatMap content) := by
  induction items with
  | nil => exact nil
  | cons item later ih =>
      obtain ⟨hitem, hlater⟩ := List.forall_mem_cons.mp h
      exact hitem.append (ih hlater)

/-- In front of markup that ends every value begun in a text, a text adds no value. -/
theorem text_cons (h : HasValues name found markup)
    (hclosed : isClosed (opening name) markup.sketch = true) (text : String) :
    HasValues name found (.text text :: markup) := by
  constructor
  intro rest
  show values name (Piece.escape text.toList ++ markup.chars ++ rest) = _
  rw [List.append_assoc, values_append_of_isTame (isTame_escape text.toList), h.values_append]
  intro left hsuffix hne hquote
  exact valueBehind?_of_isClosed hclosed markup.fills_sketch hsuffix hne hquote rest

/-! ### Parts that are laid out in lines -/

variable {indent : Nat}

theorem forEach {α : Type} {items : List α} {content : α → Markup}
    (hline : HasValues name [] (line indent []))
    (h : ∀ item ∈ items, HasValues name [] (content item)) :
    HasValues name [] (Markup.forEach indent items content) :=
  hline.append (flatMap fun item hitem => (h item hitem).append hline)

theorem shownIf (hline : HasValues name [] (line indent [])) (shown : Bool)
    (h : HasValues name found markup) :
    HasValues name (if shown then found else []) (Markup.shownIf indent shown markup) :=
  hline.append (ite (shown = true) (h.behind hline))

/-- A text between markup brings the values of the markup, unless it is empty. -/
theorem around {before text after : String} (hline : HasValues name [] (line indent []))
    (h : HasValues name found (line indent [.markup before, .text text, .markup after])) :
    HasValues name (if text.isEmpty then [] else found)
      (line indent (Markup.around before text after)) := by
  unfold Markup.around
  split
  · exact hline
  · exact h

theorem values_eq (h : HasValues name found markup) :
    values name markup.chars = found.map String.toList := by
  have hall := h.values_append []
  have hend : values name [] = [] := by
    cases hname : opening name <;> simp [values, valueBehind?, hname]
  rwa [hend, List.append_nil, List.append_nil] at hall

/-- A value of a part of a page stands there with its attribute. -/
theorem infix_chars (h : HasValues name found markup) {value : String} (hmem : value ∈ found) :
    written name value.toList <:+: markup.chars := by
  have hvalue : value.toList ∈ values name markup.chars := by
    rw [h.values_eq]
    exact List.mem_map_of_mem hmem
  obtain ⟨rest, hrest, hbehind⟩ := List.mem_filterMap.mp hvalue
  obtain ⟨-, hprefix⟩ := valueBehind?_eq_some_iff.mp hbehind
  exact hprefix.isInfix.trans ((List.mem_tails rest markup.chars).mp hrest).isInfix

end HasValues

end Markup

end MeshConsole
