import Mathlib.Data.List.Basic
import NetworkLayer.Text.Blank
import NetworkLayer.Text.Pieces

/-! Text put together from pieces, and cut again at the marks between them. -/

namespace NetworkLayer.Text

variable {mark : Char} {text : List Char}

/-- A character of joined pieces is the mark between them or stands in one of them. -/
theorem mem_intercalate {pieces : List (List Char)} {c : Char}
    (listed : c ∈ [mark].intercalate pieces) : c = mark ∨ ∃ piece ∈ pieces, c ∈ piece := by
  -- Induction on the pieces; with one left there is no mark, so that case stands apart.
  induction pieces with
  | nil =>
    rw [List.intercalate_nil] at listed
    cases listed
  | cons piece rest ih =>
    cases rest with
    | nil =>
      rw [List.intercalate_singleton] at listed
      exact .inr ⟨piece, List.mem_cons_self, listed⟩
    | cons next rest =>
      rw [List.intercalate_cons_cons, List.append_assoc, List.mem_append, List.singleton_append,
        List.mem_cons] at listed
      rcases listed with here | rfl | later
      · exact .inr ⟨piece, List.mem_cons_self, here⟩
      · exact .inl rfl
      · exact (ih later).imp_right fun ⟨other, among, there⟩ =>
          ⟨other, List.mem_cons_of_mem _ among, there⟩

/-- There is nothing to cut exactly if there is no mark. -/
theorem cut_eq_none_iff : cut mark text = none ↔ mark ∉ text := by
  induction text with
  | nil => simp [cut]
  | cons c text ih =>
    rw [cut, List.mem_cons, not_or]
    by_cases same : c = mark
    · simp [same]
    · simp [same, ih, Ne.symm same]

/-- Text is cut at its first mark. -/
theorem cut_eq_some_iff {before after : List Char} : cut mark text = some (before, after) ↔
    text = before ++ mark :: after ∧ mark ∉ before := by
  -- Induction on the text: a mark in front cuts here, and any other character stays before the cut.
  induction text generalizing before with
  | nil => simp [cut]
  | cons c text ih =>
    rw [cut]
    by_cases same : c = mark
    case pos =>
      subst same
      rw [if_pos rfl]
      -- The text before a cut here is empty, since a character in it would be the mark.
      constructor
      · rintro ⟨⟩
        exact ⟨rfl, List.not_mem_nil⟩
      · rintro ⟨shape, absent⟩
        cases before with
        | nil =>
          cases shape
          rfl
        | cons d before =>
          cases shape
          exact absurd List.mem_cons_self absent
    case neg =>
      rw [if_neg same, Option.map_eq_some_iff]
      constructor
      · rintro ⟨⟨front, back⟩, rest, parts⟩
        cases parts
        obtain ⟨rfl, absent⟩ := ih.mp rest
        exact ⟨rfl, by simp [absent, Ne.symm same]⟩
      · rintro ⟨shape, absent⟩
        cases before with
        | nil =>
          cases shape
          exact absurd rfl same
        | cons d before =>
          cases shape
          rw [List.mem_cons, not_or] at absent
          exact ⟨(before, after), ih.mpr ⟨rfl, absent.2⟩, rfl⟩

/-- Text without white space stays as it is. -/
theorem trim_eq_self (plain : ∀ c ∈ text, isBlank c = false) : trim text = text := by
  -- Nothing is dropped from the front of such text, and so nothing from its back, which is the front of its
  -- reverse.
  have kept : ∀ {text : List Char}, (∀ c ∈ text, isBlank c = false) →
      text.dropWhile isBlank = text := by
    intro text plain
    cases text with
    | nil => rfl
    | cons c text => rw [List.dropWhile_cons_of_neg (by simp [plain c List.mem_cons_self])]
  rw [trim, kept plain, kept (fun c listed => plain c (List.mem_reverse.mp listed)),
    List.reverse_reverse]

/-- What is cut, with more text in front of it. -/
def prepend (front : List Char) (parts : List Char × List Char) : List Char × List Char :=
  (front ++ parts.1, parts.2)

/-- Text in front of more text is text in front. -/
theorem prepend_comp (front next : List Char) :
    prepend front ∘ prepend next = prepend (front ++ next) := by
  funext parts
  rw [Function.comp_apply, prepend, prepend, prepend, List.append_assoc]

/-- A character other than the mark takes part in no pair of marks. -/
theorem cutDouble_cons_of_ne {c : Char} (other : c ≠ mark) (rest : List Char) :
    cutDouble mark (c :: rest) = (cutDouble mark rest).map (prepend [c]) := by
  cases rest with
  | nil => rfl
  | cons d rest =>
    rw [cutDouble, if_neg fun both => other both.1]
    rfl

/-- Neither does text without the mark. -/
theorem cutDouble_append (absent : mark ∉ text) (rest : List Char) :
    cutDouble mark (text ++ rest) = (cutDouble mark rest).map (prepend text) := by
  -- Induction on the text, each character of which is no mark and is put in front.
  induction text with
  | nil =>
    rw [List.nil_append]
    exact (Option.map_id_apply ..).symm
  | cons c text ih =>
    rw [List.mem_cons, not_or] at absent
    rw [List.cons_append, cutDouble_cons_of_ne (Ne.symm absent.1), ih absent.2, Option.map_map,
      prepend_comp, List.singleton_append]

/-- A mark in front of another character makes no pair. -/
theorem cutDouble_mark {c : Char} (other : c ≠ mark) (rest : List Char) :
    cutDouble mark (mark :: c :: rest) = (cutDouble mark (c :: rest)).map (prepend [mark]) := by
  rw [cutDouble, if_neg fun both => other both.2]
  rfl

/-- Joined pieces start as the first of them. -/
theorem exists_intercalate_cons (mark c : Char) (piece : List Char) (pieces : List (List Char)) :
    ∃ more, [mark].intercalate ((c :: piece) :: pieces) = c :: more := by
  cases pieces with
  | nil => exact ⟨piece, List.intercalate_singleton⟩
  | cons next pieces =>
    exact ⟨piece ++ [mark] ++ [mark].intercalate (next :: pieces), List.intercalate_cons_cons⟩

/-- The marks between pieces that are not empty make no pair. -/
theorem cutDouble_intercalate {pieces : List (List Char)}
    (proper : ∀ piece ∈ pieces, piece ≠ [] ∧ mark ∉ piece) (rest : List Char) :
    cutDouble mark ([mark].intercalate pieces ++ rest) =
      (cutDouble mark rest).map (prepend ([mark].intercalate pieces)) := by
  -- Induction on the pieces. A mark between two is followed by a character of the next, which is not empty, so
  -- no pair starts there.
  induction pieces with
  | nil => exact cutDouble_append (List.not_mem_nil) rest
  | cons piece pieces ih =>
    obtain ⟨here, later⟩ := List.forall_mem_cons.mp proper
    cases pieces with
    | nil =>
      rw [List.intercalate_singleton]
      exact cutDouble_append here.2 rest
    | cons next pieces =>
      obtain ⟨⟨filled, absent⟩, -⟩ := List.forall_mem_cons.mp later
      obtain ⟨c, text, rfl⟩ := List.exists_cons_of_ne_nil filled
      obtain ⟨more, joined⟩ := exists_intercalate_cons mark c text pieces
      have other : c ≠ mark := fun same => absent (same ▸ List.mem_cons_self)
      rw [List.intercalate_cons_cons, List.append_assoc, List.append_assoc,
        cutDouble_append here.2, List.singleton_append, joined, List.cons_append,
        cutDouble_mark other, ← List.cons_append, ← joined, ih later, Option.map_map, Option.map_map,
        prepend_comp, prepend_comp]

end NetworkLayer.Text
