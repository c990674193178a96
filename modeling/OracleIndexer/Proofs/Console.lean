import OracleIndexer.Console
import OracleIndexer.Proofs.BatchFile
import OracleIndexer.Proofs.Conversion
import OracleIndexer.Proofs.Json.Printing
set_option autoImplicit false

/-!
# Reading back what a console shows

What a console shows is a batch file of its documents: as many lines as were counted, each of
printed ASCII characters, which are read as the documents shown.  The same documents printed as one
array are read as the same list.  A document with a number too long or with too many levels is not
shown, and a file that holds a number too long is refused.
-/

namespace OracleIndexer.Console

variable {levels : Nat}

/-- Shows the documents of call after call, up to the first that cannot be written. -/
def showCalls (levels : Nat) (console : Console) : List (List Json) → Console × Option Fault
  | [] => (console, none)
  | documents :: rest =>
    match console.showAll levels documents with
    | (next, none) => next.showCalls levels rest
    | refused => refused

/-- A console on which documents have been shown, each on a line of its own. -/
structure Shows (console : Console) (documents : List Json) (next : Console) : Prop where
  written : next.written = console.written + documents.length
  text : next.text.toList
    = console.text.toList ++ (documents.map Json.write).flatMap (· ++ ['\n'])

theorem Shows.nil (console : Console) : Shows console [] console where
  written := rfl
  text := (List.append_nil _).symm

theorem Shows.append {console next last : Console} {documents more : List Json}
    (h : Shows console documents next) (hmore : Shows next more last) :
    Shows console (documents ++ more) last where
  written := by rw [hmore.written, h.written, List.length_append, Nat.add_assoc]
  text := by rw [hmore.text, h.text, List.map_append, List.flatMap_append, List.append_assoc]

/-- A plain document is shown. -/
theorem put_of_plain {document : Json} (h : document.Plain levels) (console : Console) :
    ∃ next, console.put levels document = .ok next ∧ Shows console [document] next := by
  refine ⟨⟨console.text ++ document.line ++ "\n", console.written + 1⟩, ?_, rfl, ?_⟩
  · rw [put, Json.dump_of_plain h]
    rfl
  · rw [String.toList_append, String.toList_append, Json.line, String.toList_ofList,
      List.map_singleton, List.flatMap_singleton, List.append_assoc]
    rfl

theorem showAll_of_plain {documents : List Json} (h : ∀ document ∈ documents, document.Plain levels)
    (console : Console) :
    ∃ next, console.showAll levels documents = (next, none) ∧ Shows console documents next := by
  induction documents generalizing console with
  | nil => exact ⟨console, rfl, .nil console⟩
  | cons document rest ih =>
    obtain ⟨hfirst, hrest⟩ := List.forall_mem_cons.mp h
    obtain ⟨next, hput, hshown⟩ := put_of_plain hfirst console
    obtain ⟨last, hall, hothers⟩ := ih hrest next
    refine ⟨last, ?_, hshown.append hothers⟩
    simp only [showAll, hput, hall]

theorem showCalls_of_plain {calls : List (List Json)}
    (h : ∀ documents ∈ calls, ∀ document ∈ documents, document.Plain levels) (console : Console) :
    ∃ next, console.showCalls levels calls = (next, none) ∧ Shows console calls.flatten next := by
  induction calls generalizing console with
  | nil => exact ⟨console, rfl, .nil console⟩
  | cons documents rest ih =>
    obtain ⟨hfirst, hrest⟩ := List.forall_mem_cons.mp h
    obtain ⟨next, hcall, hshown⟩ := showAll_of_plain hfirst console
    obtain ⟨last, hall, hothers⟩ := ih hrest next
    refine ⟨last, ?_, hshown.append hothers⟩
    simp only [showCalls, hcall, hall]

/-- No printed character ends a line. -/
theorem isOneLine_of_printed {text : List Char} (h : Json.Printed text) : Text.IsOneLine text := by
  intro c hc
  have hrange := h c hc
  simp only [Text.isLineEnd, Bool.or_eq_false_iff, decide_eq_false_iff_not, beq_eq_false_iff_ne]
  omega

/-! ## Objects shown -/

/-- A plain object. -/
def IsPlainObject (levels : Nat) (document : Json) : Prop :=
  document.Plain levels ∧ ∃ members, document = .object members

theorem IsPlainObject.read_write {document : Json} (h : IsPlainObject levels document) :
    ∃ members, Json.read levels document.write = .ok (.object members) ∧
      document.arranged = .object members := by
  obtain ⟨hplain, members, rfl⟩ := h
  exact ⟨_, Json.read_of_spells (Json.spells_write hplain), Json.arranged.eq_2 members⟩

theorem exists_areObjects {documents : List Json}
    (h : ∀ document ∈ documents, IsPlainObject levels document) :
    ∃ objects, BatchFile.AreObjects levels (documents.map Json.write) objects ∧
      objects.map Json.object = documents.map Json.arranged := by
  induction documents with
  | nil => exact ⟨[], .nil, rfl⟩
  | cons document rest ih =>
    obtain ⟨hfirst, hrest⟩ := List.forall_mem_cons.mp h
    obtain ⟨members, hread, harranged⟩ := hfirst.read_write
    obtain ⟨objects, hobjects, heach⟩ := ih hrest
    refine ⟨members :: objects, .cons hread hobjects, ?_⟩
    rw [List.map_cons, List.map_cons, heach, harranged]

/-- The lines of objects are read as the objects, members in the order of their keys. -/
theorem read_lines {documents : List Json}
    (h : ∀ document ∈ documents, IsPlainObject levels document) :
    BatchFile.read levels ((documents.map Json.write).flatMap (· ++ ['\n']))
      = .ok (documents.map Json.arranged) := by
  cases documents with
  | nil => rfl
  | cons first rest =>
    have hne : (first :: rest).map Json.write ≠ [] := List.cons_ne_nil _ _
    have hone : ∀ text ∈ (first :: rest).map Json.write, Text.IsOneLine text :=
      List.forall_mem_map.mpr fun document hmem =>
        isOneLine_of_printed (Json.printed_write (h document hmem).1)
    obtain ⟨objects, hobjects, heach⟩ := exists_areObjects h
    rw [← Text.joinedByFeeds_append_feed hne, ← heach]
    exact BatchFile.read_joinedByFeeds hobjects hne (.inr rfl) hone

/-- A text that spells an array is read as its items. -/
theorem read_of_spells_array {documents : List Json} {text : List Char}
    (h : Json.Spells levels (.value (.array documents)) text) (hreturn : '\r' ∉ text) :
    BatchFile.read levels text = .ok documents :=
  BatchFile.read_of_ok hreturn (Json.read_of_spells h)

theorem return_not_mem_of_onLines {text : List Char} (h : Json.PrintedOnLines text) :
    '\r' ∉ text := fun hmem => absurd (h '\r' hmem) (by decide)

/-- An object with its keys out of order, a text beyond the sixteen-bit range and a number below
zero. -/
private def shownObject : Json :=
  .object [("b", .text "é𝄞"), ("a", .array [.int (-7), .null])]

/-- Three calls, the second with no outputs. -/
private def shownCalls : List (List Json) := [[shownObject], [], [.object []]]

/-- An array of one object with one number, as it is printed. -/
def printedNumber (n : Int) : List Char :=
  '[' :: '{' :: (Json.writeText "a" ++ ':' :: ' ' :: (Json.writeInt n ++ ['}', ']']))

theorem printed_printedNumber (n : Int) : Json.Printed (printedNumber n) := by
  have hmember : Json.Printed (':' :: ' ' :: (Json.writeInt n ++ ['}', ']'])) :=
    Json.printed_cons.mpr ⟨by decide, Json.printed_cons.mpr ⟨by decide,
      Json.printed_append.mpr ⟨Json.printed_writeInt n, by decide⟩⟩⟩
  exact Json.printed_cons.mpr ⟨by decide, Json.printed_cons.mpr ⟨by decide,
    Json.printed_append.mpr ⟨Json.printed_writeText "a", hmember⟩⟩⟩

/-- A number that is too long is met behind the brackets and the key. -/
theorem read_printedNumber {n : Int} (h : Text.Numeral.isWritable n = false) (inner : Nat) :
    BatchFile.read (inner + 2) (printedNumber n)
      = .error (.value (.longNumeral (Nat.toDigits 10 n.natAbs).length)) := by
  obtain ⟨c, tail, hdigits, hkind, hspace⟩ := Json.writeInt_eq_cons n
  have hends : Json.Ends ['}', ']'] := .inr ⟨'}', _, rfl, rfl⟩
  have hscalar := Json.readScalar_writeInt n hends
  rw [h, if_neg Bool.false_ne_true, hdigits, List.cons_append] at hscalar
  have hmembers : ∀ depth, Json.readMembers inner (depth + 2)
      (Json.writeText "a" ++ ':' :: ' ' :: (Json.writeInt n ++ ['}', ']']))
        = .error (.value (.longNumeral (Nat.toDigits 10 n.natAbs).length)) := by
    intro depth
    have hskip : Json.skip (' ' :: (c :: tail ++ ['}', ']'])) = c :: (tail ++ ['}', ']']) :=
      Json.skip_cons_of_not_space hspace _
    rw [Json.writeText_append, Json.readMembers, Json.readText_writeText, Outcome.ok_bind, hdigits]
    simp only [Json.skip_cons_of_not_space (c := ':') rfl, hskip, Json.readValue_scalar hkind,
      hscalar, Outcome.error_bind]
  have hvalue : ∀ depth, Json.readValue (inner + 2) (depth + 5) (printedNumber n)
      = .error (.value (.longNumeral (Nat.toDigits 10 n.natAbs).length)) := by
    intro depth
    have hkey : Json.skip (Json.writeText "a" ++ ':' :: ' ' :: (Json.writeInt n ++ ['}', ']']))
        = Json.writeText "a" ++ ':' :: ' ' :: (Json.writeInt n ++ ['}', ']']) :=
      Json.skip_cons_of_not_space rfl _
    rw [printedNumber, Json.readValue_array (Json.skip_cons_of_not_space rfl _) (by decide),
      Json.skip_cons_of_not_space rfl, Json.readItems, Json.readValue_object hkey (by decide), hkey,
      hmembers]
    rfl
  have hread : Json.read (inner + 2) (printedNumber n)
      = .error (.value (.longNumeral (Nat.toDigits 10 n.natAbs).length)) := by
    have hskip : Json.skip (printedNumber n) = printedNumber n :=
      Json.skip_cons_of_not_space rfl _
    rw [Json.read, hskip]
    obtain ⟨depth, hdepth⟩ : ∃ depth, 2 * (printedNumber n).length + 2 = depth + 5 :=
      ⟨2 * (printedNumber n).length - 3, by simp only [printedNumber, List.length_cons]; omega⟩
    rw [hdepth, hvalue]
    rfl
  have hfeeds : '\r' ∉ printedNumber n :=
    return_not_mem_of_onLines (printed_printedNumber n).onLines
  simp only [BatchFile.read, Text.withLineFeeds_eq_self hfeeds, hread]

theorem read_printedNumber_pow {k : Nat} (h : Text.Numeral.digitLimit ≤ k) (inner : Nat) :
    BatchFile.read (inner + 2) (printedNumber (10 ^ k))
      = .error (.value (.longNumeral (k + 1))) := by
  rw [read_printedNumber (Text.Numeral.isWritable_pow h), Int.natAbs_pow]
  exact congrArg (fun digits => Except.error (Fault.value (.longNumeral digits)))
    (Text.length_toDigits_pow k)

/-- Arrays in one another. -/
def nested : Nat → Json
  | 0 => .array []
  | n + 1 => .array [nested n]

theorem obstacle?_nested {n : Nat} (h : levels ≤ n) :
    Json.obstacle? levels (nested n).arranged = some .tooDeep := by
  induction levels generalizing n with
  | zero => cases n <;> rfl
  | succ inner ih =>
    cases n with
    | zero => omega
    | succ n =>
      have hinner := ih (Nat.le_of_succ_le_succ h)
      simp only [nested, Json.arranged, Json.arrangedItems, Json.obstacle?, Json.itemObstacle?,
        hinner, Option.some_or]

theorem obstacle?_one_member (inner : Nat) (value : Json) :
    Json.obstacle? (inner + 1) (Json.object [("a", value)]).arranged
      = Json.obstacle? inner value.arranged := by
  have horder : Json.inKeyOrder [("a", value.arranged)] = [("a", value.arranged)] :=
    List.mergeSort_singleton _
  rw [Json.arranged, Json.arrangedMembers, Json.arrangedMembers, horder, Json.obstacle?,
    Json.memberObstacle?, Json.memberObstacle?, Option.or_none]

/-- What cannot be written is not shown. -/
theorem showAll_of_obstacle {inner : Nat} {value : Json} {fault : Fault}
    (h : Json.obstacle? inner value.arranged = some fault) (console : Console) :
    console.showAll (inner + 1) [.object [("a", value)]] = (console, some fault) := by
  rw [← obstacle?_one_member] at h
  simp only [showAll, put, Json.dump, h, Outcome.map_error]

theorem obstacle?_of_not_isWritable {n : Int} (h : Text.Numeral.isWritable n = false) :
    Json.obstacle? levels (Json.int n).arranged = some (.value .unwritable) :=
  if_neg (by rw [h]; exact Bool.false_ne_true)

end OracleIndexer.Console
