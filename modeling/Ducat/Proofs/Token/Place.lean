import Ducat.Text.Position
import Mathlib.Data.List.DropRight

/-! Places in a text and what stands in front of them. Main statement: a place reached from the
start counts the line breaks in front of it and the characters since the last of them. -/

namespace Ducat

namespace Position

/-- The place behind `front`: its line counts the line breaks of `front`, its column the
characters behind the last one. -/
def ofFront (front : List Char) : Position where
  line := 1 + front.count '\n'
  column := 1 + (front.rtakeWhile (· ≠ '\n')).length

theorem advance_ofFront (front : List Char) (character : Char) :
    (ofFront front).advance character = ofFront (front ++ [character]) := by
  rw [advance]
  split
  next newline => simp [ofFront, newline, Nat.add_assoc]
  next other => simp [ofFront, other, Nat.add_assoc]

theorem advanceOver_ofFront (front characters : List Char) :
    (ofFront front).advanceOver characters = ofFront (front ++ characters) := by
  induction characters generalizing front with
  | nil => rw [advanceOver_nil, List.append_nil]
  | cons character rest induction =>
      rw [advanceOver_cons, advance_ofFront, induction, List.append_assoc, List.singleton_append]

theorem start_advanceOver (front : List Char) : start.advanceOver front = ofFront front :=
  advanceOver_ofFront [] front

def Before (earlier later : Position) : Prop :=
  earlier.line < later.line ∨ earlier.line = later.line ∧ earlier.column < later.column

theorem before_advance (position : Position) (character : Char) :
    position.Before (position.advance character) := by
  rw [advance]
  split
  · exact .inl (Nat.lt_succ_self _)
  · exact .inr ⟨rfl, Nat.lt_succ_self _⟩

theorem Before.trans {first second third : Position} (earlier : first.Before second)
    (later : second.Before third) : first.Before third := by
  unfold Before at *
  omega

theorem before_advanceOver {characters : List Char} (filled : characters ≠ [])
    (position : Position) : position.Before (position.advanceOver characters) := by
  induction characters generalizing position with
  | nil => exact absurd rfl filled
  | cons character rest induction =>
      have first := position.before_advance character
      cases rest with
      | nil => exact first
      | cons => exact first.trans (induction (List.cons_ne_nil _ _) _)

theorem eq_nil_of_advanceOver_eq {position : Position} {characters : List Char}
    (same : position.advanceOver characters = position) : characters = [] := by
  cases characters with
  | nil => rfl
  | cons character rest =>
      have before := before_advanceOver (List.cons_ne_nil character rest) position
      rw [same] at before
      unfold Before at before
      omega

/-- A place in a text determines what stands in front of it. -/
theorem front_eq_of_advanceOver_eq {position : Position}
    {front behind other otherBehind : List Char}
    (text : front ++ behind = other ++ otherBehind)
    (place : position.advanceOver front = position.advanceOver other) : front = other := by
  rcases List.append_eq_append_iff.mp text with ⟨between, rfl, _⟩ | ⟨between, rfl, _⟩
  · rw [advanceOver_append] at place
    rw [eq_nil_of_advanceOver_eq place.symm, List.append_nil]
  · rw [advanceOver_append] at place
    rw [eq_nil_of_advanceOver_eq place, List.append_nil]

end Position

end Ducat
