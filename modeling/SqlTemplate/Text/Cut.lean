/-!
# Cutting a text at a marker
-/

namespace SqlTemplate.Text

/-- What follows `marker` at the start of a text. -/
def after? : (marker text : List Char) → Option (List Char)
  | [], text => some text
  | m :: marker, c :: text => if m = c then after? marker text else none
  | _ :: _, [] => none

def cutFrom? (marker before text : List Char) : Option (List Char × List Char) :=
  match after? marker text with
  | some after => some (before.reverse, after)
  | none =>
    match text with
    | [] => none
    | c :: rest => cutFrom? marker (c :: before) rest

/-- What stands before and after the first occurrence of `marker` in a text. -/
def cut? (marker text : List Char) : Option (List Char × List Char) :=
  cutFrom? marker [] text

theorem eq_append_of_after? {marker text after : List Char}
    (found : after? marker text = some after) : text = marker ++ after := by
  fun_induction after? marker text with
  | case1 text => exact Option.some.inj found
  | case2 m marker text inductionHypothesis => rw [inductionHypothesis found, List.cons_append]
  | case3 => cases found
  | case4 => cases found

theorem eq_append_of_cutFrom? {marker scanned text before after : List Char}
    (found : cutFrom? marker scanned text = some (before, after)) :
    scanned.reverse ++ text = before ++ (marker ++ after) := by
  fun_induction cutFrom? marker scanned text with
  | case1 scanned text rest atMarker =>
    obtain ⟨rfl, rfl⟩ := Prod.mk.inj (Option.some.inj found)
    rw [eq_append_of_after? atMarker]
  | case2 => cases found
  | case3 scanned c rest notHere inductionHypothesis =>
    rw [← inductionHypothesis found, List.reverse_cons, List.append_assoc, List.singleton_append]

theorem eq_append_of_cut? {marker text before after : List Char}
    (found : cut? marker text = some (before, after)) :
    text = before ++ (marker ++ after) :=
  eq_append_of_cutFrom? found

end SqlTemplate.Text
