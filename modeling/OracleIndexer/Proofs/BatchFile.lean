import Mathlib.Data.List.Forall2
import OracleIndexer.BatchFile
import OracleIndexer.Proofs.Json.Nested
import OracleIndexer.Proofs.Text.Lines
set_option autoImplicit false

/-!
# Batch files of several lines

A file of objects on lines of their own is read line by line, as the whole of it is no document.
Main result: when a file of joined texts is read as the objects that the texts are, and that it is
refused otherwise.
-/

namespace OracleIndexer

namespace Json

theorem exists_opensNested_of_read_object {levels : Nat} {text : List Char}
    {members : List (String × Json)} (h : read levels text = .ok (.object members)) :
    ∃ c ∈ text, opensNested c = true := by
  obtain ⟨c, tail, hhead, hc⟩ := isClosed_of_read_object h
  have hmem : c ∈ skip text := by
    rw [hhead]
    exact List.mem_cons_self
  exact ⟨c, (List.dropWhile_sublist isSpace).subset hmem, hc⟩

/-- A bracket is no blank of any kind, and ends no line. -/
theorem notBlank_of_opensNested {c : Char} (h : opensNested c = true) :
    Text.isBlank c = false ∧ isSpace c = false ∧ Text.isLineEnd c = false := by
  rw [opensNested, Bool.or_eq_true, beq_iff_eq, beq_iff_eq] at h
  rcases h with rfl | rfl <;> decide

theorem hasInk_of_opensNested {line : List Char} (h : ∃ c ∈ line, opensNested c = true) :
    Text.hasInk line = true := by
  obtain ⟨c, hc, hopens⟩ := h
  rw [Text.hasInk, List.any_eq_true]
  exact ⟨c, hc, by rw [(notBlank_of_opensNested hopens).1]; rfl⟩

/-- Besides the line feed and the carriage return, what ends a line is no blank of a document. -/
theorem isSpace_eq_false_of_isLineEnd {c : Char} (h : Text.isLineEnd c = true) (hfeed : c ≠ '\n')
    (hreturn : c ≠ '\r') : isSpace c = false := by
  have hblank : c ≠ ' ' := by
    rintro rfl
    exact absurd h (by decide)
  have htab : c ≠ '\t' := by
    rintro rfl
    exact absurd h (by decide)
  simp only [isSpace, beq_eq_false_iff_ne.mpr hblank, beq_eq_false_iff_ne.mpr htab,
    beq_eq_false_iff_ne.mpr hfeed, beq_eq_false_iff_ne.mpr hreturn, Bool.or_false]

/-- What ends a line belongs to no number. -/
theorem isNumberMark_of_isLineEnd {c : Char} (h : Text.isLineEnd c = true) :
    isNumberMark c = false := by
  have hmark : c ∉ ['.', 'e', 'E', '+', '-'] := by
    intro hmem
    simp only [List.mem_cons, List.not_mem_nil, or_false] at hmem
    rcases hmem with rfl | rfl | rfl | rfl | rfl <;> exact absurd h (by decide)
  have hdigit : Text.isDecimalDigit c = false := by
    rw [← Bool.not_eq_true, Text.isDecimalDigit, decide_eq_true_eq]
    simp only [Text.isLineEnd, Bool.or_eq_true, decide_eq_true_eq, beq_iff_eq] at h
    omega
  rw [isNumberMark, hdigit, Bool.false_or, ← Bool.not_eq_true, List.contains_iff_mem]
  exact hmark

/-- What stands in front of a cut through an object holds its opening bracket. -/
theorem exists_opensNested_of_cut {levels : Nat} {first rest : List Char} {c : Char}
    {members : List (String × Json)} (hc : isSpace c = false) (hcut : opensNested c = false)
    (h : read levels (first ++ c :: rest) = .ok (.object members)) :
    ∃ d ∈ first, opensNested d = true := by
  obtain ⟨d, tail, hhead, hd⟩ := isClosed_of_read_object h
  cases hfirst : skip first with
  | nil =>
    rw [skip_append_of_nil hfirst, skip_cons_of_not_space hc] at hhead
    rw [← (List.cons.inj hhead).1, hcut] at hd
    cases hd
  | cons e behind =>
    rw [skip_append_of_cons hfirst] at hhead
    have hmem : e ∈ skip first := by
      rw [hfirst]
      exact List.mem_cons_self
    exact ⟨e, (List.dropWhile_sublist isSpace).subset hmem, (List.cons.inj hhead).1 ▸ hd⟩

end Json

namespace BatchFile

/-! ## Lines -/

variable {levels : Nat}

theorem ofLines_of_each {lines : List (List Char)} {documents : List Json}
    (h : List.Forall₂ (fun line document => Json.read levels line = .ok document)
      lines documents) : ofLines levels lines = .ok documents := by
  induction h with
  | nil => rfl
  | cons hfirst _ ih =>
    rw [ofLines, hfirst, ih]
    rfl

/-- The first line that is refused decides. -/
theorem ofLines_of_refused {before others : List (List Char)} {line : List Char} {fault : Fault}
    (hbefore : ∀ text ∈ before, ∃ document, Json.read levels text = .ok document)
    (h : Json.read levels line = .error fault) :
    ofLines levels (before ++ line :: others) = .error fault := by
  induction before with
  | nil =>
    rw [List.nil_append, ofLines, h]
    rfl
  | cons text rest ih =>
    obtain ⟨⟨document, hfirst⟩, hrest⟩ := List.forall_mem_cons.mp hbefore
    rw [List.cons_append, ofLines, hfirst, ih hrest]
    rfl

/-- A file that is no document as a whole is read line by line. -/
theorem read_of_notJson {text : List Char} (hfeeds : '\r' ∉ text)
    (h : Json.read levels text = .error .notJson) :
    read levels text = ofLines levels ((Text.lines text).filter Text.hasInk) := by
  simp only [read, Text.withLineFeeds_eq_self hfeeds, h]

theorem read_of_ok {text : List Char} (hfeeds : '\r' ∉ text) {document : Json}
    (h : Json.read levels text = .ok document) :
    read levels text = .ok (ofDocument document) := by
  simp only [read, Text.withLineFeeds_eq_self hfeeds, h]

/-! ## Objects on lines -/

/-- Texts each of which is an object. -/
def AreObjects (levels : Nat) (texts : List (List Char))
    (objects : List (List (String × Json))) : Prop :=
  List.Forall₂ (fun text members => Json.read levels text = .ok (.object members)) texts objects

section Objects

variable {texts : List (List Char)} {objects : List (List (String × Json))} {ending : List Char}

theorem AreObjects.exists_of_mem (h : AreObjects levels texts objects) {text : List Char}
    (hmem : text ∈ texts) : ∃ members, Json.read levels text = .ok (.object members) := by
  induction h with
  | nil => exact absurd hmem List.not_mem_nil
  | cons hfirst _ ih =>
    rcases List.mem_cons.mp hmem with rfl | hrest
    · exact ⟨_, hfirst⟩
    · exact ih hrest

theorem AreObjects.ofLines (h : AreObjects levels texts objects) :
    ofLines levels texts = .ok (objects.map .object) :=
  ofLines_of_each (List.forall₂_map_right_iff.mpr h)

theorem AreObjects.hasInk (h : AreObjects levels texts objects) {text : List Char}
    (hmem : text ∈ texts) : Text.hasInk text = true := by
  obtain ⟨members, hread⟩ := h.exists_of_mem hmem
  exact Json.hasInk_of_opensNested (Json.exists_opensNested_of_read_object hread)

/-- One object is read as a whole, with or without a line feed behind it. -/
theorem read_of_one {text : List Char} (h : AreObjects levels [text] objects)
    (hreturn : '\r' ∉ text) (hending : Text.IsFinalFeed ending) :
    read levels (Text.joinedByFeeds [text] ++ ending) = .ok (objects.map .object) := by
  have hfeeds : '\r' ∉ Text.joinedByFeeds [text] ++ ending :=
    Text.return_not_mem_joinedByFeeds (List.forall_mem_singleton.mpr hreturn) hending
  have hblank : Json.skip ending = [] := by rcases hending with rfl | rfl <;> rfl
  obtain ⟨members, hread⟩ := h.exists_of_mem List.mem_cons_self
  have hwhole :
      Json.read levels (Text.joinedByFeeds [text] ++ ending) = .ok (.object members) := by
    rw [Text.joinedByFeeds_singleton, Json.read_append hread (Json.isClosed_of_read_object hread),
      hblank, List.isEmpty_nil, if_pos rfl]
  cases h with
  | cons hfirst hrest =>
    cases hrest
    rw [hread] at hfirst
    obtain rfl := Json.object.inj (Except.ok.inj hfirst)
    exact read_of_ok hfeeds hwhole

/-- Two objects or more are no document. -/
theorem read_joinedByFeeds_refused {text next : List Char} {rest : List (List Char)}
    (h : AreObjects levels (text :: next :: rest) objects) (ending : List Char) :
    Json.read levels (Text.joinedByFeeds (text :: next :: rest) ++ ending) = .error .notJson := by
  obtain ⟨members, hfirst⟩ := h.exists_of_mem List.mem_cons_self
  obtain ⟨_, hsecond⟩ := h.exists_of_mem (List.mem_cons_of_mem _ List.mem_cons_self)
  obtain ⟨c, hc, hopens⟩ := Json.exists_opensNested_of_read_object hsecond
  have hmore : ∃ more, Text.joinedByFeeds (text :: next :: rest) ++ ending
      = text ++ '\n' :: (next ++ more) := by
    cases rest with
    | nil =>
      exact ⟨ending, by rw [Text.joinedByFeeds_cons, Text.joinedByFeeds_singleton,
        List.append_assoc, List.cons_append]⟩
    | cons other others =>
      exact ⟨_, by rw [Text.joinedByFeeds_cons, Text.joinedByFeeds_cons, List.append_assoc,
        List.cons_append, List.append_assoc]⟩
  obtain ⟨more, hwhole⟩ := hmore
  -- The second object is more than blanks behind the first.
  have hkept : ¬ (Json.skip ('\n' :: (next ++ more))).isEmpty = true := by
    rw [List.isEmpty_iff, Json.skip, List.dropWhile_eq_nil_iff]
    intro hall
    have hspace := hall c (List.mem_cons_of_mem _ (List.mem_append_left _ hc))
    rw [(Json.notBlank_of_opensNested hopens).2.1] at hspace
    cases hspace
  rw [hwhole, Json.read_append hfirst (Json.isClosed_of_read_object hfirst), if_neg hkept]

/-- Objects on lines of their own are read one by one, if nothing within them ends a line. -/
theorem ofLines_joinedByFeeds (h : AreObjects levels texts objects) (hne : texts ≠ [])
    (hending : Text.IsFinalFeed ending) (hone : ∀ text ∈ texts, Text.IsOneLine text) :
    ofLines levels ((Text.lines (Text.joinedByFeeds texts ++ ending)).filter Text.hasInk)
      = .ok (objects.map .object) := by
  have hfilled : ∀ text ∈ texts, text ≠ [] := by
    rintro text hmem rfl
    exact absurd (h.hasInk hmem) Bool.false_ne_true
  rw [Text.lines_joinedByFeeds hne hending hone hfilled,
    List.filter_eq_self.mpr fun text hmem => h.hasInk hmem]
  exact h.ofLines

/-- Objects on lines of their own are read as they are, whether there is one or more. -/
theorem read_joinedByFeeds (h : AreObjects levels texts objects) (hne : texts ≠ [])
    (hending : Text.IsFinalFeed ending) (hone : ∀ text ∈ texts, Text.IsOneLine text) :
    read levels (Text.joinedByFeeds texts ++ ending) = .ok (objects.map .object) := by
  have hreturn : ∀ text ∈ texts, '\r' ∉ text := fun text hmem hin =>
    absurd (hone text hmem '\r' hin) (by decide)
  rcases texts with _ | ⟨text, _ | ⟨next, rest⟩⟩
  · exact absurd rfl hne
  · exact read_of_one h (hreturn text List.mem_cons_self) hending
  · have hlines := read_of_notJson (Text.return_not_mem_joinedByFeeds hreturn hending)
      (read_joinedByFeeds_refused h ending)
    exact hlines.trans (ofLines_joinedByFeeds h hne hending hone)

/-- An object that is cut by a character that ends a line leaves a piece that is no document. -/
theorem ofLines_joinedByFeeds_of_cut (h : AreObjects levels texts objects)
    (hplain : ∀ text ∈ texts, '\n' ∉ text ∧ '\r' ∉ text) (ending : List Char)
    (hone : ¬ ∀ text ∈ texts, Text.IsOneLine text) :
    ofLines levels ((Text.lines (Text.joinedByFeeds texts ++ ending)).filter Text.hasInk)
      = .error .notJson := by
  obtain ⟨before, first, c, rest, others, hbefore, hmem, hc, hlines⟩ :=
    Text.exists_cut_of_joinedByFeeds ending (fun text htext => (hplain text htext).2) hone
  obtain ⟨members, hread⟩ := h.exists_of_mem hmem
  -- What cuts the object is neither a blank of documents nor a bracket: it stands inside a text.
  have hcut : c ∈ first ++ c :: rest := List.mem_append_right _ List.mem_cons_self
  have hspace : Json.isSpace c = false := Json.isSpace_eq_false_of_isLineEnd hc
    (fun heq => (hplain _ hmem).1 (heq ▸ hcut)) (fun heq => (hplain _ hmem).2 (heq ▸ hcut))
  have hbracket : Json.opensNested c = false := by
    cases hopens : Json.opensNested c with
    | false => rfl
    | true =>
      rw [(Json.notBlank_of_opensNested hopens).2.2] at hc
      cases hc
  have hink : Text.hasInk first = true :=
    Json.hasInk_of_opensNested (Json.exists_opensNested_of_cut hspace hbracket hread)
  have hwhole : ∀ text ∈ before.filter Text.hasInk,
      ∃ document, Json.read levels text = .ok document := by
    intro text htext
    obtain ⟨found, hfound⟩ := h.exists_of_mem (hbefore text (List.mem_filter.mp htext).1)
    exact ⟨_, hfound⟩
  rw [hlines, List.filter_append, List.filter_cons_of_pos hink]
  exact ofLines_of_refused hwhole
    (Json.read_eq_notJson_of_cut hspace (Json.isNumberMark_of_isLineEnd hc) hread)

/-- Texts that are objects, joined by line feeds, are read as these objects exactly if there is only
one or none holds a character that ends a line; otherwise the file is refused. -/
theorem read_joined_iff (hne : texts ≠ [])
    (hplain : ∀ text ∈ texts, '\n' ∉ text ∧ '\r' ∉ text) (h : AreObjects levels texts objects)
    (hending : Text.IsFinalFeed ending) :
    let file := Text.joinedByFeeds texts ++ ending
    (read levels file = .ok (objects.map .object) ↔
      texts.length = 1 ∨ ∀ text ∈ texts, Text.IsOneLine text) ∧
    (¬ (texts.length = 1 ∨ ∀ text ∈ texts, Text.IsOneLine text) →
      read levels file = .error .notJson) := by
  have hfeeds : '\r' ∉ Text.joinedByFeeds texts ++ ending :=
    Text.return_not_mem_joinedByFeeds (fun text hmem => (hplain text hmem).2) hending
  rcases texts with _ | ⟨text, _ | ⟨next, rest⟩⟩
  · exact absurd rfl hne
  · intro file
    have hok : read levels file = .ok (objects.map .object) :=
      read_of_one h (hplain text List.mem_cons_self).2 hending
    exact ⟨⟨fun _ => .inl rfl, fun _ => hok⟩, fun hnot => absurd (.inl rfl) hnot⟩
  · intro file
    have hlines : read levels file = ofLines levels ((Text.lines file).filter Text.hasInk) :=
      read_of_notJson hfeeds (read_joinedByFeeds_refused h ending)
    have hmany : ¬ (text :: next :: rest).length = 1 := by
      rw [List.length_cons, List.length_cons]
      omega
    have herror : (¬ ∀ line ∈ text :: next :: rest, Text.IsOneLine line) →
        read levels file = .error .notJson :=
      fun hone => hlines.trans (ofLines_joinedByFeeds_of_cut h hplain ending hone)
    refine ⟨⟨fun hok => .inr ?_, ?_⟩, fun hnot => herror fun hone => hnot (.inr hone)⟩
    · by_contra hone
      rw [herror hone] at hok
      cases hok
    · rintro (hlength | hone)
      · exact absurd hlength hmany
      · exact read_joinedByFeeds h hne hending hone

/-- An object with no members. -/
private def emptyLine : List Char := ['{', '}']

/-- An object with a text between blanks. -/
private def letterLine : List Char := ['{', ' ', '"', 'a', '"', ':', '"', 'é', '"', ' ', '}']

/-- Two objects on lines of their own are read one by one. -/
theorem read_joined_letter :
    [letterLine, emptyLine] ≠ [] ∧
    (∀ text ∈ [letterLine, emptyLine], '\n' ∉ text ∧ '\r' ∉ text) ∧
    AreObjects 1 [letterLine, emptyLine] [[("a", .text "é")], []] ∧
    read 1 (Text.joinedByFeeds [letterLine, emptyLine] ++ ['\n'])
      = .ok [.object [("a", .text "é")], .object []] := by
  have hne : [letterLine, emptyLine] ≠ [] := List.cons_ne_nil _ _
  have hplain : ∀ text ∈ [letterLine, emptyLine], '\n' ∉ text ∧ '\r' ∉ text := by decide
  have hobjects : AreObjects 1 [letterLine, emptyLine] [[("a", .text "é")], []] :=
    .cons rfl (.cons rfl .nil)
  have hone : ∀ text ∈ [letterLine, emptyLine], Text.IsOneLine text := by decide
  exact ⟨hne, hplain, hobjects,
    (read_joined_iff hne hplain hobjects (.inr rfl)).1.mpr (.inr hone)⟩

/-- An object with a line separator in a text. -/
private def separatorLine : List Char := ['{', '"', 'a', '"', ':', '"', '\u2028', '"', '}']

/-- Each of two objects is read, but the file of both is refused: the first is cut at the line
separator in its text. -/
theorem read_separator_refused :
    (∀ text ∈ [separatorLine, emptyLine], '\n' ∉ text ∧ '\r' ∉ text) ∧
    AreObjects 1 [separatorLine, emptyLine] [[("a", .text "\u2028")], []] ∧
    read 1 (Text.joinedByFeeds [separatorLine, emptyLine]) = .error .notJson :=
  ⟨by decide, .cons rfl (.cons rfl .nil), rfl⟩

end Objects

end BatchFile

end OracleIndexer
