/-!
# Segments

A text is cut at every separator. The segments, joined with the separator, give the text back.
-/

namespace Conduit.Text

/-- The segments of a text between separators, at least one. -/
def segmentsOf (separator : Char) : List Char → List (List Char)
  | [] => [[]]
  | c :: rest =>
    if c = separator then [] :: segmentsOf separator rest
    else match segmentsOf separator rest with
      | [] => [[c]]
      | s :: more => (c :: s) :: more

def segments (separator : Char) (text : String) : List String :=
  (segmentsOf separator text.toList).map String.ofList

theorem segmentsOf_ne_nil (separator : Char) (text : List Char) :
    segmentsOf separator text ≠ [] := by
  cases text with
  | nil => simp [segmentsOf]
  | cons c rest =>
    simp only [segmentsOf]
    split
    · simp
    · split <;> simp

theorem intercalate_segmentsOf (separator : Char) (text : List Char) :
    [separator].intercalate (segmentsOf separator text) = text := by
  induction text with
  | nil => rfl
  | cons c rest ih =>
    simp only [segmentsOf]
    cases hs : segmentsOf separator rest with
    | nil => exact absurd hs (segmentsOf_ne_nil separator rest)
    | cons s more =>
      rw [hs] at ih
      split
      · next h =>
        subst h
        simpa [List.intercalate, List.intersperse] using ih
      · cases more <;> simpa [List.intercalate, List.intersperse] using ih

example : segments '.' "a..b" = ["a", "", "b"] := by decide +kernel

end Conduit.Text
