import Mathlib.Data.List.Basic
import PacketRefusal.Proofs.Text.Separated
import PacketRefusal.Report.Console

/-!
# Reports with and without colour

A control sequence that selects a rendition is the escape character, a bracket, parameters and the
letter `m`. `eraseRenditions` erases every such sequence from a text and leaves all else as it is:
it skips a sequence that was selected (`eraseRenditions_selectRendition`) and keeps a text in which
no escape character stands (`eraseRenditions_append`).

Fields that contain neither line breaks nor escape characters (`Plain`) are reported on one line
each, with colour and without (`splitOn_output`, `count_output`), and the output with colour becomes
the one without when the control sequences are erased (`eraseRenditions_output`).
-/

set_option autoImplicit false
set_option relaxedAutoImplicit false

namespace PacketRefusal.Console

/-! ### Erasing control sequences -/

/-- The parameters of a control sequence are digits and punctuation up to the question mark. -/
def isParameter (char : Char) : Bool := '0' ≤ char && char ≤ '?'

/-- What follows the control sequence at the front of a text, if one that selects a rendition stands
there. -/
def behindRendition? : List Char → Option (List Char)
  | '\x1b' :: '[' :: text =>
    match text.dropWhile isParameter with
    | 'm' :: behind => some behind
    | _ => none
  | _ => none

theorem length_behindRendition? {text behind : List Char}
    (hbehind : behindRendition? text = some behind) : behind.length < text.length := by
  unfold behindRendition? at hbehind
  split at hbehind
  · next text =>
    split at hbehind
    · next rest hrest =>
      have hlength := (List.dropWhile_suffix (l := text) isParameter).length_le
      cases hbehind
      rw [hrest] at hlength
      simp only [List.length_cons] at hlength ⊢
      omega
    · cases hbehind
  · cases hbehind

/-- The text without the control sequences that select a rendition. -/
def eraseRenditions (text : List Char) : List Char :=
  match text with
  | [] => []
  | char :: rest =>
    match _hbehind : behindRendition? (char :: rest) with
    | some behind => eraseRenditions behind
    | none => char :: eraseRenditions rest
termination_by text.length
decreasing_by
  · exact length_behindRendition? ‹_›
  · exact Nat.lt_succ_self _

theorem toList_selectRendition (parameters : String) :
    (selectRendition parameters).toList = '\x1b' :: '[' :: (parameters.toList ++ ['m']) := by
  rw [selectRendition, String.toList_append, String.toList_append]
  rfl

/-- A control sequence is erased. -/
theorem eraseRenditions_selectRendition {parameters : String}
    (hparameters : parameters.toList.all isParameter) (rest : List Char) :
    eraseRenditions ((selectRendition parameters).toList ++ rest) = eraseRenditions rest := by
  have hbehind : behindRendition? ('\x1b' :: '[' :: (parameters.toList ++ 'm' :: rest)) =
      some rest := by
    rw [behindRendition?, List.dropWhile_append_of_pos (List.all_eq_true.mp hparameters),
      List.dropWhile_cons_of_neg (by decide)]
    rfl
  rw [toList_selectRendition, List.cons_append, List.cons_append, List.append_assoc,
    List.singleton_append, eraseRenditions]
  split
  · next behind hfound =>
    rw [Option.some.inj (hfound.symm.trans hbehind)]
  · next hfound => cases hfound.symm.trans hbehind

/-- A text without control sequences is kept. -/
theorem eraseRenditions_append {text : List Char} (hescape : '\x1b' ∉ text) (rest : List Char) :
    eraseRenditions (text ++ rest) = text ++ eraseRenditions rest := by
  induction text with
  | nil => rfl
  | cons char text ih =>
    rw [List.mem_cons, not_or] at hescape
    have hbehind : behindRendition? (char :: (text ++ rest)) = none := by
      unfold behindRendition?
      split
      · next hfront =>
        rw [List.cons.injEq] at hfront
        exact absurd hfront.1.symm hescape.1
      · rfl
    rw [List.cons_append, eraseRenditions]
    split
    · next hfound => cases hfound.symm.trans hbehind
    · rw [ih hescape.2, List.cons_append]

/-- Other control sequences stay. -/
example : eraseRenditions "\x1b[2J\x1b[38;5;9mBLOCK\x1b[0m".toList = "\x1b[2JBLOCK".toList := by cbv

/-! ### Lines -/

/-- Fields that are reported on one line and without control sequences. -/
structure Plain (fields : String) : Prop where
  noBreak : '\n' ∉ fields.toList
  noEscape : '\x1b' ∉ fields.toList

/-- A line without the line break that ends it. -/
def content (color : Bool) (fields : String) : String :=
  if color then selectColor red ++ "BLOCK " ++ selectColor white ++ fields ++ resetColors
  else "BLOCK " ++ fields

variable {fields : String} {reports : List String}

theorem line_eq (color : Bool) (fields : String) :
    line color fields = content color fields ++ "\n" := by
  cases color <;> rfl

theorem toList_output_cons (color : Bool) (fields : String) (reports : List String) :
    (output color (fields :: reports)).toList =
      (line color fields).toList ++ (output color reports).toList := by
  rw [output, List.map_cons, String.join_cons, String.toList_append]
  rfl

/-- The output is the lines, each with a line break behind it. -/
theorem toList_output (color : Bool) (reports : List String) :
    (output color reports).toList =
      (reports.map fun fields ↦ (content color fields).toList).flatMap (· ++ ['\n']) := by
  induction reports with
  | nil => rfl
  | cons fields reports ih =>
    rw [toList_output_cons, ih, line_eq, String.toList_append]
    rfl

/-- Nothing that is put around the fields contains a line break. -/
theorem Plain.noBreak_content (hplain : Plain fields) (color : Bool) :
    '\n' ∉ (content color fields).toList := by
  cases color with
  | false =>
    simp only [content, Bool.false_eq_true, if_false, String.toList_append, List.mem_append, not_or]
    exact ⟨by decide, hplain.noBreak⟩
  | true =>
    simp only [content, if_true, String.toList_append, List.mem_append, not_or]
    exact ⟨⟨⟨⟨by decide, by decide⟩, by decide⟩, hplain.noBreak⟩, by decide⟩

/-- A coloured line becomes the one without colour. -/
theorem Plain.eraseRenditions_line (hplain : Plain fields) (rest : List Char) :
    eraseRenditions ((line true fields).toList ++ rest) =
      (line false fields).toList ++ eraseRenditions rest := by
  have hcolor {index : Nat}
      (hindex : ("38;5;" ++ toString index).toList.all isParameter) (rest : List Char) :
      eraseRenditions ((selectColor index).toList ++ rest) = eraseRenditions rest :=
    eraseRenditions_selectRendition hindex rest
  have hreset (rest : List Char) :
      eraseRenditions (resetColors.toList ++ rest) = eraseRenditions rest :=
    eraseRenditions_selectRendition (by decide) rest
  simp only [line, if_true, Bool.false_eq_true, if_false, String.toList_append, List.append_assoc]
  rw [hcolor (by decide), eraseRenditions_append (by decide), hcolor (by decide),
    eraseRenditions_append hplain.noEscape, hreset, eraseRenditions_append (by decide)]

/-! ### The output -/

theorem noBreak_contents (hplain : ∀ fields ∈ reports, Plain fields) (color : Bool) :
    ∀ text ∈ reports.map fun fields ↦ (content color fields).toList, '\n' ∉ text := by
  intro text htext
  obtain ⟨fields, hfields, rfl⟩ := List.mem_map.mp htext
  exact (hplain fields hfields).noBreak_content color

/-- The output consists of one line for each report. -/
theorem splitOn_output (hplain : ∀ fields ∈ reports, Plain fields) (color : Bool) :
    (output color reports).toList.splitOn '\n' =
      (reports.map fun fields ↦ (content color fields).toList) ++ [[]] := by
  rw [toList_output, splitOn_flatMap_append (noBreak_contents hplain color)]

/-- There are as many line breaks as reports. -/
theorem count_output (hplain : ∀ fields ∈ reports, Plain fields) (color : Bool) :
    (output color reports).toList.count '\n' = reports.length := by
  rw [toList_output, count_flatMap_append (noBreak_contents hplain color), List.length_map]

/-- The coloured output becomes the one without colour. -/
theorem eraseRenditions_output (hplain : ∀ fields ∈ reports, Plain fields) :
    eraseRenditions (output true reports).toList = (output false reports).toList := by
  induction reports with
  | nil =>
    have hnil (color : Bool) : (output color []).toList = [] := rfl
    rw [hnil, hnil, eraseRenditions]
  | cons fields reports ih =>
    rw [List.forall_mem_cons] at hplain
    rw [toList_output_cons, hplain.1.eraseRenditions_line, ih hplain.2, toList_output_cons]

/-- A coloured line begins with red and ends with a reset. -/
theorem content_true (fields : String) :
    (selectColor red).toList <+: (content true fields).toList ∧
      resetColors.toList <:+ (content true fields).toList := by
  simp only [content, if_true, String.toList_append]
  refine ⟨?_, List.suffix_append _ _⟩
  simp only [List.append_assoc]
  exact List.prefix_append _ _

end PacketRefusal.Console
