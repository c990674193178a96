import OracleIndexer.Text.Line
set_option autoImplicit false

/-!
# Dividing a text into lines

Texts joined by line feeds are divided into those texts again, if none of them holds a character
that ends a line.  That is more than a line feed: a text that holds any such character is cut there.
-/

namespace OracleIndexer.Text

/-- Text without carriage returns is read from a file as it stands. -/
theorem withLineFeeds_eq_self {text : List Char} (h : '\r' ∉ text) :
    withLineFeeds text = text := by
  induction text with
  | nil => rfl
  | cons c rest ih =>
    obtain ⟨hfirst, hrest⟩ := not_or.mp (mt List.mem_cons.mpr h)
    rw [withLineFeeds, if_neg (Ne.symm hfirst), ih hrest]
    rintro other rfl
    exact absurd rfl hfirst

/-- No character of the text ends a line. -/
def IsOneLine (text : List Char) : Prop := ∀ c ∈ text, isLineEnd c = false

instance (text : List Char) : Decidable (IsOneLine text) := List.decidableBAll _ text

/-- Behind the carriage return and the line feed, every character that ends a line ends it alone. -/
theorem linesFrom_cons_of_lineEnd {c : Char} (hend : isLineEnd c = true) (hreturn : c ≠ '\r')
    (line rest : List Char) : linesFrom line (c :: rest) = line.reverse :: linesFrom [] rest := by
  rw [linesFrom, if_pos hend]
  rintro other rfl
  exact absurd rfl hreturn

theorem linesFrom_cons_of_not_lineEnd {c : Char} (h : isLineEnd c = false)
    (line rest : List Char) : linesFrom line (c :: rest) = linesFrom (c :: line) rest := by
  rw [linesFrom, if_neg (by rw [h]; exact Bool.false_ne_true)]
  rintro other rfl
  exact absurd h (by decide)

theorem linesFrom_append {text : List Char} (h : IsOneLine text) (line rest : List Char) :
    linesFrom line (text ++ rest) = linesFrom (text.reverse ++ line) rest := by
  induction text generalizing line with
  | nil => rfl
  | cons c tail ih =>
    obtain ⟨hfirst, hrest⟩ := List.forall_mem_cons.mp h
    rw [List.cons_append, linesFrom_cons_of_not_lineEnd hfirst, ih hrest, List.reverse_cons,
      List.append_assoc, List.singleton_append]

/-- A line, and what stands behind its end. -/
theorem lines_append {text : List Char} (h : IsOneLine text) {c : Char}
    (hend : isLineEnd c = true) (hreturn : c ≠ '\r') (rest : List Char) :
    lines (text ++ c :: rest) = text :: lines rest := by
  rw [lines, linesFrom_append h, linesFrom_cons_of_lineEnd hend hreturn, List.append_nil,
    List.reverse_reverse, lines]

/-- The last line may go without an end. -/
theorem lines_of_isOneLine {text : List Char} (h : IsOneLine text) (hne : text ≠ []) :
    lines text = [text] := by
  have hlines := linesFrom_append h [] []
  rw [List.append_nil, List.append_nil] at hlines
  rw [lines, hlines, linesFrom, if_neg (by simpa using hne), List.reverse_reverse]

/-- A text that is no single line is cut at the first character that ends one. -/
theorem exists_cut {text : List Char} (h : ¬ IsOneLine text) :
    ∃ first c rest, text = first ++ c :: rest ∧ IsOneLine first ∧ isLineEnd c = true := by
  induction text with
  | nil => exact absurd (fun _ hmem => absurd hmem List.not_mem_nil) h
  | cons c rest ih =>
    cases hend : isLineEnd c with
    | true => exact ⟨[], c, rest, rfl, fun _ hmem => absurd hmem List.not_mem_nil, hend⟩
    | false =>
      have hrest : ¬ IsOneLine rest := fun hone => h (List.forall_mem_cons.mpr ⟨hend, hone⟩)
      obtain ⟨first, e, behind, rfl, hfirst, he⟩ := ih hrest
      exact ⟨c :: first, e, behind, rfl, List.forall_mem_cons.mpr ⟨hend, hfirst⟩, he⟩

/-! ## Texts joined by line feeds -/

/-- Texts, each but the last followed by a line feed. -/
def joinedByFeeds (texts : List (List Char)) : List Char := ['\n'].intercalate texts

theorem joinedByFeeds_singleton (text : List Char) : joinedByFeeds [text] = text :=
  List.intercalate_singleton

theorem joinedByFeeds_cons (text next : List Char) (rest : List (List Char)) :
    joinedByFeeds (text :: next :: rest) = text ++ '\n' :: joinedByFeeds (next :: rest) := by
  rw [joinedByFeeds, List.intercalate_cons_cons, List.append_assoc, List.singleton_append,
    joinedByFeeds]

/-- With a line feed behind the last as well, every text is followed by one. -/
theorem joinedByFeeds_append_feed {texts : List (List Char)} (hne : texts ≠ []) :
    joinedByFeeds texts ++ ['\n'] = texts.flatMap (· ++ ['\n']) := by
  induction texts with
  | nil => exact absurd rfl hne
  | cons text rest ih =>
    cases rest with
    | nil => rw [joinedByFeeds_singleton, List.flatMap_singleton]
    | cons next more =>
      have hothers := ih (List.cons_ne_nil next more)
      calc joinedByFeeds (text :: next :: more) ++ ['\n']
        _ = text ++ '\n' :: (joinedByFeeds (next :: more) ++ ['\n']) := by
          rw [joinedByFeeds_cons, List.append_assoc, List.cons_append]
        _ = text ++ ['\n'] ++ (next :: more).flatMap (· ++ ['\n']) := by
          rw [hothers, List.append_assoc, List.singleton_append]

/-- What may stand behind the last of joined texts. -/
def IsFinalFeed (ending : List Char) : Prop := ending = [] ∨ ending = ['\n']

theorem return_not_mem_joinedByFeeds {texts : List (List Char)} {ending : List Char}
    (h : ∀ text ∈ texts, '\r' ∉ text) (hending : IsFinalFeed ending) :
    '\r' ∉ joinedByFeeds texts ++ ending := by
  have hjoined : '\r' ∉ joinedByFeeds texts := by
    induction texts with
    | nil => exact List.not_mem_nil
    | cons text rest ih =>
      obtain ⟨hfirst, hothers⟩ := List.forall_mem_cons.mp h
      cases rest with
      | nil =>
        rw [joinedByFeeds_singleton]
        exact hfirst
      | cons next more =>
        rw [joinedByFeeds_cons, List.mem_append, List.mem_cons]
        rintro (hmem | hfeed | hmem)
        · exact hfirst hmem
        · cases hfeed
        · exact ih hothers hmem
  rcases hending with rfl | rfl
  · rwa [List.append_nil]
  · simpa using hjoined

theorem lines_joinedByFeeds {texts : List (List Char)} {ending : List Char} (hne : texts ≠ [])
    (hending : IsFinalFeed ending) (hone : ∀ text ∈ texts, IsOneLine text)
    (hfilled : ∀ text ∈ texts, text ≠ []) : lines (joinedByFeeds texts ++ ending) = texts := by
  induction texts with
  | nil => exact absurd rfl hne
  | cons text rest ih =>
    obtain ⟨hfirst, hrest⟩ := List.forall_mem_cons.mp hone
    obtain ⟨htext, hothers⟩ := List.forall_mem_cons.mp hfilled
    cases rest with
    | nil =>
      rw [joinedByFeeds_singleton]
      rcases hending with rfl | rfl
      · rw [List.append_nil, lines_of_isOneLine hfirst htext]
      · exact lines_append hfirst rfl (by decide) []
    | cons next more =>
      rw [joinedByFeeds_cons, List.append_assoc, List.cons_append,
        lines_append hfirst rfl (by decide), ih (List.cons_ne_nil _ _) hrest hothers]

/-- If a text among those joined is no single line, the lines are texts of those joined up to the
first that is not, and then the part of it in front of the first character that ends a line. -/
theorem exists_cut_of_joinedByFeeds {texts : List (List Char)} (ending : List Char)
    (hreturn : ∀ text ∈ texts, '\r' ∉ text) (h : ¬ ∀ text ∈ texts, IsOneLine text) :
    ∃ before first c rest others, (∀ text ∈ before, text ∈ texts) ∧
      first ++ c :: rest ∈ texts ∧ isLineEnd c = true ∧
      lines (joinedByFeeds texts ++ ending) = before ++ first :: others := by
  induction texts with
  | nil => exact absurd (fun _ hmem => absurd hmem List.not_mem_nil) h
  | cons text rest ih =>
    obtain ⟨hfirst, hothers⟩ := List.forall_mem_cons.mp hreturn
    by_cases hone : IsOneLine text
    · have hrest : ¬ ∀ text ∈ rest, IsOneLine text :=
        fun hall => h (List.forall_mem_cons.mpr ⟨hone, hall⟩)
      obtain ⟨before, first, c, behind, others, hbefore, hmem, hc, hlines⟩ := ih hothers hrest
      refine ⟨text :: before, first, c, behind, others, ?_, List.mem_cons_of_mem _ hmem, hc, ?_⟩
      · exact List.forall_mem_cons.mpr ⟨List.mem_cons_self,
          fun other hother => List.mem_cons_of_mem _ (hbefore other hother)⟩
      · cases rest with
        | nil => exact absurd hmem List.not_mem_nil
        | cons next more =>
          rw [joinedByFeeds_cons, List.append_assoc, List.cons_append,
            lines_append hone rfl (by decide), hlines, List.cons_append]
    · obtain ⟨first, c, behind, rfl, hline, hc⟩ := exists_cut hone
      have hnoReturn : c ≠ '\r' := by
        rintro rfl
        exact hfirst (List.mem_append_right _ List.mem_cons_self)
      obtain ⟨more, hmore⟩ : ∃ more, joinedByFeeds ((first ++ c :: behind) :: rest) ++ ending
          = first ++ c :: more := by
        cases rest with
        | nil => exact ⟨_, by rw [joinedByFeeds_singleton, List.append_assoc, List.cons_append]⟩
        | cons next others =>
          exact ⟨_, by rw [joinedByFeeds_cons, List.append_assoc, List.append_assoc,
            List.cons_append]⟩
      refine ⟨[], first, c, behind, lines more, fun _ hmem => absurd hmem List.not_mem_nil,
        List.mem_cons_self, hc, ?_⟩
      rw [hmore, lines_append hline hc hnoReturn, List.nil_append]

end OracleIndexer.Text
