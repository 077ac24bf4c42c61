import MediaGateway.Proofs.Url.Percent

/-!
# Segments that come in

Segments that are no dots come in as they are, one behind another. A segment that
is put in as a whole comes in encoded, and what it says is what is left of it
without tabs and ends of lines: when that is dots, it leads to another place.
-/

namespace MediaGateway.Url

/-- Segments come in behind those that came in before them. -/
theorem settleAll_append (files : Bool) (ahead front : List String) {rest : List String}
    (h : rest ≠ []) :
    settleAll files ahead (front ++ rest) =
      settleAll files (front.foldl (enter files) ahead) rest := by
  induction front generalizing ahead with
  | nil => rfl
  | cons segment front ih =>
    obtain ⟨next, more, he⟩ :=
      List.exists_cons_of_ne_nil (List.append_ne_nil_of_right_ne_nil front h)
    rw [List.cons_append, he, settleAll, ← he, ih, List.foldl_cons]
    exact List.cons_ne_nil next more

/-- Whether a segment leads to another place. -/
def isDots (segment : String) : Bool := isDot segment || isDoubleDot segment

/-- A segment that is no dots comes in as it is. -/
theorem enter_of_not_dots {segment : String} (h : isDots segment = false) (ahead : List String) :
    enter false ahead segment = ahead ++ [segment] := by
  rw [isDots, Bool.or_eq_false_iff] at h
  simp only [enter, h.1, h.2, written, Bool.false_eq_true, false_and, if_false]

/-- A last segment that is no dots comes in as it is. -/
theorem settle_of_not_dots {segment : String} (h : isDots segment = false)
    (ahead : List String) : settle false ahead segment = ahead ++ [segment] := by
  rw [isDots, Bool.or_eq_false_iff] at h
  simp only [settle, h.1, h.2, written, Bool.false_eq_true, false_and, if_false]

/-- Segments that are no dots come in as they are. -/
theorem settleAll_of_not_dots {names : List String} (h : ∀ name ∈ names, isDots name = false)
    (ahead : List String) : settleAll false ahead names = ahead ++ names := by
  induction names generalizing ahead with
  | nil => rw [settleAll, List.append_nil]
  | cons name names ih =>
    have hn := h name (List.mem_cons_self ..)
    cases names with
    | nil => rw [settleAll, settle_of_not_dots hn]
    | cons next more =>
      rw [settleAll, enter_of_not_dots hn, ih fun other ho => h other (List.mem_cons_of_mem _ ho),
        List.append_assoc, List.singleton_append]
      exact List.cons_ne_nil next more

/-- The segments without an empty one at their end. -/
def withoutEnd (names : List String) : List String :=
  if names.getLast? = some "" then names.dropLast else names

/-- Nothing but an empty segment at the end comes and goes. -/
theorem withoutEnd_append (names : List String) : withoutEnd (names ++ [""]) = names := by
  simp only [withoutEnd, List.getLast?_append, List.getLast?_singleton, Option.some_or, if_true,
    List.dropLast_concat]

/-- A segment that is not empty leaves the same segments in the middle of a path as at its
end. -/
theorem enter_eq_withoutEnd {segment : String} (h : segment ≠ "") (ahead : List String) :
    enter false ahead segment = withoutEnd (settle false ahead segment) := by
  by_cases hu : isDoubleDot segment = true
  · simp only [enter, settle, hu, if_true, withoutEnd_append]
  · by_cases hd : isDot segment = true
    · simp only [enter, settle, hu, hd, if_true, withoutEnd_append, Bool.false_eq_true, if_false]
    · have hn : isDots segment = false := by
        simp only [isDots, Bool.eq_false_iff.mpr hu, Bool.eq_false_iff.mpr hd, Bool.or_self]
      have hl : (ahead ++ [segment]).getLast? ≠ some "" := by
        simpa only [List.getLast?_append, List.getLast?_singleton, Option.some_or, ne_eq,
          Option.some.injEq] using h
      rw [enter_of_not_dots hn, settle_of_not_dots hn, withoutEnd, if_neg hl]

/-- What is left of a segment without tabs and ends of lines. -/
def unbroken (segment : String) : List Char := segment.toList.filter fun char => !isBreak char

/-- A segment without tabs and ends of lines is left whole. -/
theorem unbroken_eq {segment : String} :
    unbroken segment = segment.toList ↔ ∀ char ∈ segment.toList, isBreak char = false := by
  simp only [unbroken, List.filter_eq_self, Bool.not_eq_true']

/-- The segment that a whole one becomes in an address of the web. -/
def wholeSegment (segment : String) : String :=
  percentEncode (reservedInSegment true) (unbroken segment)

/-- A whole segment decodes to what is left of it. -/
theorem percentDecode_wholeSegment (segment : String) :
    percentDecode (Bytes.ofText (wholeSegment segment)) =
      Bytes.ofText (String.ofList (unbroken segment)) :=
  percentDecode_percentEncode (reservedInSegment_reserving true) (unbroken segment)

/-- A segment that holds no tabs and no ends of lines does not become shorter. -/
theorem length_le_wholeSegment {segment : String}
    (h : ∀ char ∈ segment.toList, isBreak char = false) :
    segment.length ≤ (wholeSegment segment).length := by
  rw [wholeSegment, unbroken_eq.mpr h, ← String.length_toList]
  exact length_le_percentEncode _ _

/-- A whole segment is dots when dots are left of it. -/
theorem isDots_wholeSegment (segment : String) :
    isDots (wholeSegment segment) = true ↔
      unbroken segment = ['.'] ∨ unbroken segment = ['.', '.'] := by
  have hr := reservedInSegment_reserving true
  have hd : reservedInSegment true '.' = false := rfl
  rw [isDots, Bool.or_eq_true, wholeSegment, isDot_percentEncode hr hd,
    isDoubleDot_percentEncode hr hd]

/-- A whole segment comes in behind others, unless it is written as dots. -/
theorem appendSegment_eq {names : List String} (hn : names ≠ [""]) {segment : String}
    (h : segment ≠ "." ∧ segment ≠ "..") :
    appendSegment .web names segment = settle false names (wholeSegment segment) := by
  have ho : ¬(segment = "." ∨ segment = "..") := fun hs => hs.elim h.1 h.2
  have hf : Kind.web.isFile = false := rfl
  have hs : Kind.web.isSpecial = true := rfl
  simp only [appendSegment, if_neg ho, if_neg hn, hf, hs, wholeSegment, unbroken,
    Bool.false_eq_true, if_false]

end MediaGateway.Url
