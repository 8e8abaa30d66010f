import MeshConsole.Proofs.Page.Attributes

/-!
# Places for a pattern

A pattern with a delimiter in it can stand on a page only where the markup has that delimiter, since
texts have none. At such a place the piece of markup shows some characters on both sides. If they do
not agree with the pattern, the pattern does not stand there, whatever the pieces around it are:

    … text | a href="/?tab= | …          class="tab-pane active"
                   ▲                          ▲
                   └ href ≠ class             └ the delimiter that is looked for

So the places are counted piece by piece (`Markup.places`), and a pattern stands on a page at most
as often as there are places for it (`occurrences_le_places`).
-/

namespace MeshConsole

open Text

/-- A pattern with a delimiter in it. -/
structure Pattern where
  before : List Char
  delimiter : Char
  after : List Char
  isDelimiter : Piece.isDelimiter delimiter = true

/-- The characters of a pattern. -/
def Pattern.chars (pattern : Pattern) : List Char :=
  pattern.before ++ pattern.delimiter :: pattern.after

namespace Text

theorem occurrences_pos {pattern text : List Char} (h : pattern <:+: text) :
    0 < occurrences pattern text := by
  obtain ⟨rest, hprefix, hsuffix⟩ := List.infix_iff_prefix_suffix.mp h
  exact List.countP_pos_iff.mpr
    ⟨rest, (List.mem_tails rest text).mpr hsuffix, List.isPrefixOf_iff_prefix.mpr hprefix⟩

/-! ## Joints -/

/-- How often a text can be cut so that the first part ends with given characters and the second one
begins with others. What ends the first part is given in reverse, and so is what stands in front of
the text. -/
def joints (front back : List Char) : List Char → List Char → Nat
  | seen, [] => if front.isPrefixOf seen && back.isPrefixOf [] then 1 else 0
  | seen, c :: later =>
    (if front.isPrefixOf seen && back.isPrefixOf (c :: later) then 1 else 0) +
      joints front back (c :: seen) later

theorem joints_nil_front (back seen text : List Char) :
    joints [] back seen text = occurrences back text := by
  unfold occurrences
  induction text generalizing seen with
  | nil => simp [joints, List.countP_cons]
  | cons c later ih => simp [joints, ih, List.countP_cons, Nat.add_comm]

/-- A cut may be moved by one character. Where it is moved to the very start of the text, there is
no cut that it comes from. -/
theorem joints_cons_back (front back : List Char) (c : Char) (seen text : List Char) :
    joints front (c :: back) seen text +
        (if (c :: front).isPrefixOf seen && back.isPrefixOf text then 1 else 0) ≤
      joints (c :: front) back seen text := by
  induction text generalizing seen with
  | nil => simp [joints]
  | cons d later ih =>
      have hstep := ih (d :: seen)
      have hmoved : ((c :: front).isPrefixOf (d :: seen) && back.isPrefixOf later) =
          (front.isPrefixOf seen && (c :: back).isPrefixOf (d :: later)) := by
        rw [List.isPrefixOf_cons_cons, List.isPrefixOf_cons_cons]
        cases c == d <;> simp
      rw [hmoved] at hstep
      simp only [joints]
      omega

/-- A pattern stands in a text at most as often as the text can be cut inside of it. -/
theorem occurrences_le_joints (before back text : List Char) :
    occurrences (before ++ back) text ≤ joints before.reverse back [] text := by
  have hmove (front : List Char) : joints front (before ++ back) [] text ≤
      joints (before.reverse ++ front) back [] text := by
    induction before generalizing front with
    | nil => exact Nat.le_refl _
    | cons c before ih =>
        have hone := joints_cons_back front (before ++ back) c [] text
        have hrest := ih (c :: front)
        rw [List.reverse_cons, List.append_assoc, List.singleton_append]
        exact Nat.le_trans (Nat.le_trans (Nat.le_add_right _ _) hone) hrest
  have hall := hmove []
  rwa [joints_nil_front, List.append_nil] at hall

/-- Two texts agree if one of them goes on where the other ends. -/
def agree (first second : List Char) : Bool := first.isPrefixOf second || second.isPrefixOf first

theorem agree_of_whole {first second whole : List Char} (hfirst : first <+: whole)
    (hsecond : second <+: whole) : agree first second = true := by
  unfold agree
  rw [Bool.or_eq_true, List.isPrefixOf_iff_prefix, List.isPrefixOf_iff_prefix]
  exact List.prefix_or_prefix_of_prefix hfirst hsecond

end Text

/-! ## Places -/

namespace Pattern

variable (pattern : Pattern)

/-- How often the delimiter of the pattern stands in a text so that the characters around it agree
with the pattern. Those in front of the text are given in reverse. -/
def places : List Char → List Char → Nat
  | _, [] => 0
  | seen, c :: later =>
    (if c == pattern.delimiter && agree seen pattern.before.reverse && agree later pattern.after
      then 1 else 0) + places (c :: seen) later

theorem places_of_isTame {text : List Char} (h : IsTame text) (seen : List Char) :
    pattern.places seen text = 0 := by
  induction text generalizing seen with
  | nil => rfl
  | cons c later ih =>
      obtain ⟨hc, hlater⟩ := List.forall_mem_cons.mp h
      have hne : (c == pattern.delimiter) = false := by
        rw [beq_eq_false_iff_ne]
        rintro rfl
        cases hc.symm.trans pattern.isDelimiter
      rw [places, hne, ih hlater]
      rfl

/-- Every cut inside of the pattern is at a place for it, though the text shows only a part of what
is around it. -/
theorem joints_append_le {shown seen : List Char} (h : shown <+: seen) (text rest : List Char) :
    joints pattern.before.reverse (pattern.delimiter :: pattern.after) seen (text ++ rest) ≤
      pattern.places shown text +
        joints pattern.before.reverse (pattern.delimiter :: pattern.after)
          (text.reverse ++ seen) rest := by
  induction text generalizing shown seen with
  | nil => exact Nat.le_add_left _ _
  | cons c later ih =>
      have hlater := ih ((List.prefix_cons_inj c).mpr h)
      have hhere : (pattern.before.reverse.isPrefixOf seen &&
            (pattern.delimiter :: pattern.after).isPrefixOf (c :: (later ++ rest))) = true →
          (c == pattern.delimiter && agree shown pattern.before.reverse &&
            agree later pattern.after) = true := by
        rw [Bool.and_eq_true, List.isPrefixOf_iff_prefix, List.isPrefixOf_iff_prefix,
          List.cons_prefix_cons]
        rintro ⟨hfront, rfl, hback⟩
        rw [agree_of_whole h hfront, agree_of_whole (List.prefix_append later rest) hback,
          beq_self_eq_true]
        rfl
      rw [List.reverse_cons, List.append_assoc, List.singleton_append, List.cons_append]
      simp only [joints, places]
      split
      · next hcut =>
          rw [if_pos (hhere hcut)]
          omega
      · omega

end Pattern

/-- How many places a piece has for a pattern. -/
def Piece.places (pattern : Pattern) : Piece → Nat
  | .markup source => pattern.places [] source.toList
  | .text _ => 0

namespace Markup

/-- How many places a part of a page has for a pattern. -/
def places (pattern : Pattern) : Markup → Nat
  | [] => 0
  | piece :: later => piece.places pattern + places pattern later

variable (pattern : Pattern)

@[simp] theorem places_nil : places pattern [] = 0 := rfl

@[simp] theorem places_cons (piece : Piece) (markup : Markup) :
    places pattern (piece :: markup) = piece.places pattern + places pattern markup := rfl

@[simp] theorem places_append (first second : Markup) :
    places pattern (first ++ second) = places pattern first + places pattern second := by
  induction first with
  | nil => exact (Nat.zero_add _).symm
  | cons piece later ih => rw [List.cons_append, places_cons, ih, places_cons, Nat.add_assoc]

theorem joints_chars_le (markup : Markup) (seen : List Char) :
    joints pattern.before.reverse (pattern.delimiter :: pattern.after) seen markup.chars ≤
      markup.places pattern := by
  induction markup generalizing seen with
  | nil => simp [joints, List.isPrefixOf]
  | cons piece later ih =>
      have hpiece : pattern.places [] piece.chars = piece.places pattern := by
        cases piece with
        | markup source => rfl
        | text content => exact pattern.places_of_isTame (isTame_escape content.toList) []
      have hstep := pattern.joints_append_le (List.nil_prefix (l := seen)) piece.chars (chars later)
      rw [chars_cons, places_cons, ← hpiece]
      exact Nat.le_trans hstep (Nat.add_le_add_left (ih _) _)

/-- A pattern stands on a page at most as often as there are places for it. -/
theorem occurrences_le_places (markup : Markup) :
    occurrences pattern.chars markup.chars ≤ markup.places pattern :=
  Nat.le_trans (occurrences_le_joints pattern.before _ markup.chars)
    (markup.joints_chars_le pattern [])

end Markup

end MeshConsole
