import Coordination.DataSeller.Engine.Synth
import Coordination.Library.Separated

/-!
# The cells of a line

`splitCsvLine` reads back what a field may be written as: itself, where it contains neither a
comma nor a quote, or between quotes with the quotes in it doubled.
-/

namespace Coordination

namespace DataSeller

namespace Engine

open JavaScript Library

/-! ## The scanner -/

theorem scan_plain {c : Char} (hquote : c ≠ Char.ofNat 34) (hcomma : c ≠ ',')
    (field cs : List Char) :
    splitCsvLine.scan field false (c :: cs) = splitCsvLine.scan (c :: field) false cs := by
  cases cs <;> simp [splitCsvLine.scan, hquote, hcomma]

theorem scan_comma (field cs : List Char) : splitCsvLine.scan field false (',' :: cs) =
    String.ofList field.reverse :: splitCsvLine.scan [] false cs := by
  cases cs <;> rfl

theorem scan_open (field cs : List Char) : splitCsvLine.scan field false (Char.ofNat 34 :: cs) =
    splitCsvLine.scan field true cs := by
  cases cs <;> rfl

theorem scan_inside {c : Char} (hquote : c ≠ Char.ofNat 34) (field cs : List Char) :
    splitCsvLine.scan field true (c :: cs) = splitCsvLine.scan (c :: field) true cs := by
  cases cs <;> simp [splitCsvLine.scan, hquote]

theorem scan_doubled (field cs : List Char) :
    splitCsvLine.scan field true (Char.ofNat 34 :: Char.ofNat 34 :: cs) =
      splitCsvLine.scan (Char.ofNat 34 :: field) true cs := by
  cases cs <;> rfl

theorem scan_close {cs : List Char} (h : cs.head? ≠ some (Char.ofNat 34)) (field : List Char) :
    splitCsvLine.scan field true (Char.ofNat 34 :: cs) = splitCsvLine.scan field false cs := by
  cases cs with
  | nil => rfl
  | cons c cs =>
      have hc : c ≠ Char.ofNat 34 := fun heq => h (by rw [heq]; rfl)
      simp [splitCsvLine.scan, hc]

/-- A text that the reader takes for a cell of the given value: at its end it has the value added
to its field, outside the quotes. -/
def Spells (text value : List Char) : Prop :=
  ∀ field rest : List Char, rest.head? ≠ some (Char.ofNat 34) →
    splitCsvLine.scan field false (text ++ rest) =
      splitCsvLine.scan (value.reverse ++ field) false rest

theorem spells_plain {text : List Char} (h : Char.ofNat 34 ∉ text ∧ ',' ∉ text) :
    Spells text text := by
  induction text with
  | nil => exact fun _ _ _ => rfl
  | cons c text ih =>
      intro field rest hrest
      rw [List.mem_cons, List.mem_cons, not_or, not_or] at h
      rw [List.cons_append, scan_plain (Ne.symm h.1.1) (Ne.symm h.2.1),
        ih ⟨h.1.2, h.2.2⟩ _ _ hrest, List.reverse_cons, List.append_assoc, List.singleton_append]

theorem spells_quoted (s : String) : Spells (quoteCsv s).toList s.toList := by
  intro field rest hrest
  rw [quoteCsv, String.toList_ofList, List.cons_append, List.cons_append, scan_open,
    List.append_assoc, List.singleton_append]
  generalize s.toList = cs
  induction cs generalizing field with
  | nil => exact scan_close hrest field
  | cons c cs ih =>
      by_cases hc : c = Char.ofNat 34
      · rw [List.flatMap_cons, if_pos hc, hc, List.append_assoc, List.cons_append, List.cons_append,
          List.nil_append, scan_doubled, ih, List.reverse_cons, List.append_assoc,
          List.singleton_append]
      · rw [List.flatMap_cons, if_neg hc, List.append_assoc, List.singleton_append, scan_inside hc,
          ih, List.reverse_cons, List.append_assoc, List.singleton_append]

/-- Cells joined with commas are read back. -/
theorem scan_intercalate {text value : List Char} {texts values : List (List Char)}
    (hfirst : Spells text value) (h : List.Forall₂ Spells texts values) :
    splitCsvLine.scan [] false ([','].intercalate (text :: texts)) =
      (value :: values).map String.ofList := by
  induction h generalizing text value with
  | nil =>
      have hend := hfirst [] [] nofun
      rw [List.append_nil] at hend
      rw [List.intercalate_singleton, hend, List.append_nil, splitCsvLine.scan, List.reverse_reverse]
      rfl
  | cons hnext _ ih =>
      rw [intercalate_cons_cons_eq, hfirst [] _ (by rw [List.head?_cons]; decide), scan_comma,
        ih hnext, List.append_nil, List.reverse_reverse, List.map_cons (a := value)]

/-! ## Lines -/

/-- A text that is its own cell. -/
def Unquoted (s : String) : Prop :=
  Char.ofNat 34 ∉ s.toList ∧ ',' ∉ s.toList

instance : DecidablePred Unquoted := fun _ => inferInstanceAs (Decidable (_ ∧ _))

/-- Cells joined with commas are read back by `splitCsvLine`. -/
theorem splitCsvLine_intercalate {text value : String} {texts values : List String}
    (hfirst : Spells text.toList value.toList)
    (h : List.Forall₂ (fun t v => Spells t.toList v.toList) texts values) :
    splitCsvLine (String.intercalate "," (text :: texts)) = value :: values := by
  have hlists : List.Forall₂ Spells (texts.map String.toList) (values.map String.toList) := by
    rw [List.forall₂_map_left_iff, List.forall₂_map_right_iff]
    exact h
  rw [splitCsvLine, String.toList_intercalate, List.map_cons]
  refine (scan_intercalate hfirst hlists).trans ?_
  simp

theorem forall₂_unquoted {texts : List String} (h : ∀ t ∈ texts, Unquoted t) :
    List.Forall₂ (fun t v => Spells t.toList v.toList) texts texts :=
  List.forall₂_same.2 fun t ht => spells_plain (h t ht)

/-- How a field is written in a line: bare, or between quotes with the quotes in it doubled. -/
inductive Written (field : String) : String → Prop
  | bare : Unquoted field → Written field field
  | quoted : Written field (quoteCsv field)

theorem spells_of_written {field text : String} (h : Written field text) :
    Spells text.toList field.toList := by
  cases h with
  | bare hbare => exact spells_plain hbare
  | quoted => exact spells_quoted field

/-- The fields of a line are read back, however each of them is written. -/
theorem splitCsvLine_written {fields texts : List String} (hne : fields ≠ [])
    (h : List.Forall₂ Written fields texts) :
    splitCsvLine (String.intercalate "," texts) = fields := by
  cases h with
  | nil => exact absurd rfl hne
  | cons hfirst hrest =>
      refine splitCsvLine_intercalate (spells_of_written hfirst) ?_
      exact (hrest.imp fun _ _ hwritten => spells_of_written hwritten).flip

/-- Doubled quotes, an empty field, a comma between quotes and an empty last field. -/
theorem splitCsvLine_written_demo :
    splitCsvLine (String.intercalate "," [quoteCsv "a\"b", "", quoteCsv "1,370", ""]) =
      ["a\"b", "", "1,370", ""] :=
  splitCsvLine_written nofun (.cons .quoted (.cons (.bare (by decide)) (.cons .quoted
    (.cons (.bare (by decide)) .nil))))

end Engine

end DataSeller

end Coordination
