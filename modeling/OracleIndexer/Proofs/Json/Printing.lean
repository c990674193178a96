import Mathlib.Data.List.Forall2
import OracleIndexer.Proofs.Json.Spelling
set_option autoImplicit false

/-!
# Printed documents

The one-line form of a document spells it with the members of every object in the order of their
keys, which is the same value; the indented form spells it as it stands.  Both hold for documents
without floating-point numbers, whose objects have distinct keys and whose numbers have no more
digits than are converted; where their arrays and objects do not lie too deep in one another,
nothing stands in the way of writing them.
-/

namespace OracleIndexer.Json

/-! ## Plain documents -/

/-- A document without floating-point numbers: objects have distinct keys, numbers are short enough
to be written, and no more than so many arrays and objects lie in one another. -/
inductive Plain : Nat → Json → Prop
  | null {levels : Nat} : Plain levels .null
  | bool {levels : Nat} (b : Bool) : Plain levels (.bool b)
  | int {levels : Nat} {n : Int} (short : Text.Numeral.isWritable n = true) : Plain levels (.int n)
  | text {levels : Nat} (s : String) : Plain levels (.text s)
  | array {inner : Nat} {items : List Json} (each : ∀ item ∈ items, Plain inner item) :
      Plain (inner + 1) (.array items)
  | object {inner : Nat} {members : List (String × Json)}
      (distinct : (members.map Prod.fst).Nodup) (each : ∀ m ∈ members, Plain inner m.2) :
      Plain (inner + 1) (.object members)

/-- The same value: items in order, members by their keys. -/
inductive Same : Json → Json → Prop
  | refl (value : Json) : Same value value
  | array {items others : List Json} (length : items.length = others.length)
      (each : ∀ (i : Nat) (a b : Json), items[i]? = some a → others[i]? = some b → Same a b) :
      Same (.array items) (.array others)
  | object {members others : List (String × Json)}
      (keys : ∀ key, (member? members key).isSome = (member? others key).isSome)
      (each : ∀ key a b, member? members key = some a → member? others key = some b → Same a b) :
      Same (.object members) (.object others)

/-! ## Members in the order of their keys -/

section KeyOrder

variable {α β : Type}

theorem inKeyOrder_perm (members : List (String × α)) : (inKeyOrder members).Perm members :=
  List.mergeSort_perm members _

/-- What the members hold does not matter to their order. -/
theorem inKeyOrder_map (f : α → β) (members : List (String × α)) :
    inKeyOrder (members.map fun m => (m.1, f m.2))
      = (inKeyOrder members).map fun m => (m.1, f m.2) := by
  rw [inKeyOrder, inKeyOrder, List.map_mergeSort]
  exact fun _ _ _ _ => rfl

end KeyOrder

theorem member?_eq_some_iff {members : List (String × Json)} (h : (members.map Prod.fst).Nodup)
    {key : String} {value : Json} :
    member? members key = some value ↔ (key, value) ∈ members := by
  induction members with
  | nil =>
    constructor
    · intro hfound
      cases hfound
    · exact fun hmem => absurd hmem List.not_mem_nil
  | cons first rest ih =>
    obtain ⟨k, v⟩ := first
    rw [List.map_cons, List.nodup_cons] at h
    rw [member?_cons, List.mem_cons]
    split
    · rename_i hkey
      subst hkey
      refine ⟨fun hfound => .inl (by rw [Option.some.inj hfound]), ?_⟩
      rintro (heq | hmem)
      · rw [(Prod.mk.inj heq).2]
      · exact absurd (List.mem_map_of_mem hmem) h.1
    · rename_i hkey
      rw [ih h.2]
      refine ⟨.inr, ?_⟩
      rintro (heq | hmem)
      · exact absurd (Prod.mk.inj heq).1 hkey
      · exact hmem

/-- With distinct keys, the order of the members does not matter to what is found. -/
theorem member?_of_perm {members others : List (String × Json)}
    (h : (members.map Prod.fst).Nodup) (hperm : others.Perm members) (key : String) :
    member? others key = member? members key := by
  have hothers : (others.map Prod.fst).Nodup := (hperm.map Prod.fst).nodup_iff.mpr h
  ext value
  rw [member?_eq_some_iff hothers, member?_eq_some_iff h, hperm.mem_iff]

theorem member?_map (f : Json → Json) (members : List (String × Json)) (key : String) :
    member? (members.map fun m => (m.1, f m.2)) key = (member? members key).map f := by
  induction members with
  | nil => rfl
  | cons first rest ih =>
    obtain ⟨k, v⟩ := first
    rw [List.map_cons, member?_cons, member?_cons, ih]
    split <;> rfl

theorem arrangedItems_eq (items : List Json) : arrangedItems items = items.map arranged := by
  induction items with
  | nil => rfl
  | cons item rest ih => rw [arrangedItems, ih, List.map_cons]

theorem arrangedMembers_eq (members : List (String × Json)) :
    arrangedMembers members = members.map fun m => (m.1, arranged m.2) := by
  induction members with
  | nil => rfl
  | cons first rest ih => rw [arrangedMembers, ih, List.map_cons]

/-- Arranging a document does not change its value. -/
theorem same_arranged {levels : Nat} {value : Json} (h : Plain levels value) :
    Same value (arranged value) := by
  induction h with
  | null | bool | int | text => exact .refl _
  | @array _ items each ih =>
    rw [arranged, arrangedItems_eq]
    refine .array (List.length_map arranged).symm ?_
    intro i a b ha hb
    rw [List.getElem?_map, ha] at hb
    rw [← Option.some.inj hb]
    exact ih a (List.mem_of_getElem? ha)
  | @object _ members distinct each ih =>
    have hfound : ∀ key, member? (inKeyOrder (arrangedMembers members)) key
        = (member? members key).map arranged := by
      intro key
      rw [arrangedMembers_eq, inKeyOrder_map, member?_map,
        member?_of_perm distinct (inKeyOrder_perm members)]
    rw [arranged]
    refine .object (fun key => by rw [hfound, Option.isSome_map]) ?_
    intro key a b ha hb
    rw [hfound, ha] at hb
    rw [← Option.some.inj hb]
    exact ih (key, a) ((member?_eq_some_iff distinct).mp ha)

/-! ## What is written -/

theorem itemObstacle?_eq_none_iff {levels : Nat} {items : List Json} :
    itemObstacle? levels items = none ↔ ∀ item ∈ items, obstacle? levels item = none := by
  induction items with
  | nil => exact ⟨fun _ _ hmem => absurd hmem List.not_mem_nil, fun _ => rfl⟩
  | cons item rest ih => rw [itemObstacle?, Option.or_eq_none_iff, ih, List.forall_mem_cons]

theorem memberObstacle?_eq_none_iff {levels : Nat} {members : List (String × Json)} :
    memberObstacle? levels members = none ↔ ∀ m ∈ members, obstacle? levels m.2 = none := by
  induction members with
  | nil => exact ⟨fun _ _ hmem => absurd hmem List.not_mem_nil, fun _ => rfl⟩
  | cons first rest ih =>
    rw [memberObstacle?, Option.or_eq_none_iff, ih, List.forall_mem_cons]

/-- Nothing stands in the way of writing a plain document. -/
theorem obstacle?_arranged {levels : Nat} {value : Json} (h : Plain levels value) :
    obstacle? levels (arranged value) = none := by
  induction h with
  | null | bool | text => rfl
  | int short => exact if_pos short
  | @array _ items each ih =>
    rw [arranged, arrangedItems_eq, obstacle?, itemObstacle?_eq_none_iff]
    exact List.forall_mem_map.mpr ih
  | @object _ members distinct each ih =>
    rw [arranged, arrangedMembers_eq, obstacle?, memberObstacle?_eq_none_iff]
    intro m hm
    obtain ⟨member, hmem, rfl⟩ := List.mem_map.mp ((inKeyOrder_perm _).mem_iff.mp hm)
    exact ih member hmem

theorem dump_of_plain {levels : Nat} {value : Json} (h : Plain levels value) :
    dump levels value = .ok (line value) := by
  rw [dump, obstacle?_arranged h]

/-! ## Parts between commas -/

/-- Parts with commas in between, and blanks behind each comma. -/
def separated (blank : List Char) : List (List Char) → List Char
  | [] => []
  | [part] => part
  | part :: next :: rest => part ++ ',' :: (blank ++ separated blank (next :: rest))

theorem joined_eq_separated (parts : List (List Char)) : joined parts = separated [' '] parts := by
  match parts with
  | [] => rfl
  | [part] => rfl
  | part :: next :: rest =>
    rw [joined, separated, joined_eq_separated (next :: rest), List.singleton_append]

theorem joinedLines_eq_separated (level : Nat) (part : List Char) (rest : List (List Char)) :
    joinedLines level (part :: rest)
      = newLine level ++ separated (newLine level) (part :: rest) := by
  induction rest generalizing part with
  | nil => rfl
  | cons next more ih => rw [joinedLines, separated, ih, List.append_assoc]

theorem blank_space : Blank [' '] := by
  intro c hc
  rw [List.mem_singleton.mp hc]
  rfl

theorem blank_newLine (level : Nat) : Blank (newLine level) := by
  intro c hc
  rcases List.mem_cons.mp hc with rfl | hspaces
  · rfl
  · rw [(List.mem_replicate.mp hspaces).2]
    rfl

/-- Blanks in front of a part. -/
theorem Spells.after {levels : Nat} {part : Part} {blank text : List Char} (hblank : Blank blank)
    (h : Spells levels part text) : Spells levels part (blank ++ text) := by
  have hpadded := Spells.padded hblank h blank_nil
  rwa [List.append_nil] at hpadded

section Separated

variable {levels : Nat} {α : Type} {value : α → Json} {written : α → List Char}
  {blank : List Char}

theorem spells_items_separated (hblank : Blank blank) {entries : List α} (hne : entries ≠ [])
    (h : ∀ a ∈ entries, Spells levels (.value (value a)) (written a)) :
    Spells levels (.items (entries.map value)) (separated blank (entries.map written)) := by
  induction entries with
  | nil => exact absurd rfl hne
  | cons first rest ih =>
    obtain ⟨hfirst, hrest⟩ := List.forall_mem_cons.mp h
    cases rest with
    | nil => exact .lastItem hfirst
    | cons next more =>
      have hothers := (ih (List.cons_ne_nil _ _) hrest).after hblank
      exact .item hfirst hothers

theorem spells_members_separated (hblank : Blank blank) (key : α → String) {entries : List α}
    (hne : entries ≠ []) (h : ∀ a ∈ entries, Spells levels (.value (value a)) (written a)) :
    Spells levels (.members (entries.map fun a => (key a, value a)))
      (separated blank (entries.map fun a => writeMember (key a, written a))) := by
  have hmember : ∀ a, writeMember (key a, written a)
      = writeText (key a) ++ [] ++ ':' :: ([' '] ++ written a) := by
    intro a
    rw [writeMember, List.append_nil, List.singleton_append]
  induction entries with
  | nil => exact absurd rfl hne
  | cons first rest ih =>
    obtain ⟨hfirst, hrest⟩ := List.forall_mem_cons.mp h
    cases rest with
    | nil =>
      have hlast := Spells.lastMember (key first) blank_nil (hfirst.after blank_space)
      rwa [← hmember] at hlast
    | cons next more =>
      have hothers := (ih (List.cons_ne_nil _ _) hrest).after hblank
      have hmore := Spells.member (key first) blank_nil (hfirst.after blank_space) hothers
      rwa [← hmember] at hmore

end Separated

/-! ## The one-line form -/

theorem writeItems_eq (items : List Json) : writeItems items = items.map write := by
  induction items with
  | nil => rfl
  | cons item rest ih => rw [writeItems, ih, List.map_cons]

theorem writeMembers_eq (members : List (String × Json)) :
    writeMembers members = members.map fun m => (m.1, write m.2) := by
  induction members with
  | nil => rfl
  | cons first rest ih => rw [writeMembers, ih, List.map_cons]

theorem write_object (members : List (String × Json)) :
    write (.object members)
      = '{' :: separated [' '] ((inKeyOrder members).map fun m => writeMember (m.1, write m.2))
        ++ ['}'] := by
  have hsorted : (writeMembers members).mergeSort keyLe
      = (inKeyOrder members).map fun m => (m.1, write m.2) := by
    rw [writeMembers_eq]
    exact inKeyOrder_map write members
  rw [write, hsorted, List.map_map, joined_eq_separated]
  rfl

/-- The one-line form spells the document with its members in the order of their keys. -/
theorem spells_write {levels : Nat} {value : Json} (h : Plain levels value) :
    Spells levels (.value (arranged value)) (write value) := by
  induction h with
  | null => exact .null
  | bool b => exact .bool b
  | int short => exact .int short
  | text s => exact .text s
  | @array _ items each ih =>
    rw [arranged, arrangedItems_eq, write, writeItems_eq, joined_eq_separated]
    cases items with
    | nil => exact .emptyArray blank_nil
    | cons first rest =>
      exact .array (spells_items_separated blank_space (List.cons_ne_nil first rest) ih)
  | @object _ members distinct each ih =>
    -- Both sides hold the same members in the same order, since the keys alone decide on it.
    have hperm := inKeyOrder_perm members
    rw [arranged, arrangedMembers_eq, inKeyOrder_map, write_object]
    cases hsorted : inKeyOrder members with
    | nil => exact .emptyObject blank_nil
    | cons first rest =>
      rw [hsorted] at hperm
      have hkeys : ((first :: rest).map Prod.fst).Nodup :=
        (hperm.map Prod.fst).nodup_iff.mpr distinct
      refine .object ?_ (spells_members_separated blank_space Prod.fst (List.cons_ne_nil first rest)
        fun m hm => ih m (hperm.mem_iff.mp hm))
      rw [List.map_map]
      exact hkeys

/-! ## The indented form -/

theorem indentedItems_eq (level : Nat) (items : List Json) :
    indentedItems level items = items.map (writeIndented level) := by
  induction items with
  | nil => rfl
  | cons item rest ih => rw [indentedItems, ih, List.map_cons]

theorem indentedMembers_eq (level : Nat) (members : List (String × Json)) :
    indentedMembers level members
      = members.map fun m => writeMember (m.1, writeIndented level m.2) := by
  induction members with
  | nil => rfl
  | cons first rest ih => rw [indentedMembers, ih, List.map_cons]

/-- The indented form spells the document as it stands. -/
theorem spells_writeIndented {levels : Nat} {value : Json} (h : Plain levels value)
    (level : Nat) : Spells levels (.value value) (writeIndented level value) := by
  induction h generalizing level with
  | null =>
    rw [writeIndented]
    exact .null
  | bool b =>
    rw [writeIndented]
    exact .bool b
  | int short =>
    rw [writeIndented]
    exact .int short
  | text s =>
    rw [writeIndented]
    exact .text s
  | @array inner items each ih =>
    cases items with
    | nil =>
      rw [writeIndented]
      exact .emptyArray blank_nil
    | cons first rest =>
      have hitems : Spells inner (.items ((first :: rest).map id))
          (separated (newLine (level + 1)) ((first :: rest).map (writeIndented (level + 1)))) :=
        spells_items_separated (blank_newLine (level + 1)) (List.cons_ne_nil first rest)
          fun item hitem => ih item hitem (level + 1)
      have hlines := Spells.padded (blank_newLine (level + 1)) hitems (blank_newLine level)
      rw [List.map_id] at hlines
      rw [writeIndented, indentedItems_eq, List.map_cons, joinedLines_eq_separated,
        List.cons_append]
      exact .array hlines
  | @object _ members distinct each ih =>
    cases members with
    | nil =>
      rw [writeIndented]
      exact .emptyObject blank_nil
    | cons first rest =>
      have hmembers := spells_members_separated (blank_newLine (level + 1)) Prod.fst
        (List.cons_ne_nil first rest) fun m hm => ih m hm (level + 1)
      have hlines := Spells.padded (blank_newLine (level + 1)) hmembers (blank_newLine level)
      have hself : ((first :: rest).map fun m => (m.1, m.2)) = first :: rest := List.map_id' _
      rw [hself] at hlines
      rw [writeIndented, indentedMembers_eq, List.map_cons, joinedLines_eq_separated,
        List.cons_append]
      exact .object distinct hlines

/-! ## The characters of both forms -/

theorem printed_writeInt (n : Int) : Printed (writeInt n) := by
  intro c hc
  rcases mem_writeInt hc with rfl | hdigit
  · decide
  · have hrange : 48 ≤ c.toNat ∧ c.toNat ≤ 57 := of_decide_eq_true hdigit
    omega

theorem printed_bool (b : Bool) : Printed (if b then "true".toList else "false".toList) := by
  cases b <;> decide

/-- What holds of the characters of each part, of the comma and of the blanks holds of all. -/
theorem forall_mem_separated {holds : Char → Prop} {blank : List Char} (hcomma : holds ',')
    (hblank : ∀ c ∈ blank, holds c) {parts : List (List Char)}
    (h : ∀ part ∈ parts, ∀ c ∈ part, holds c) : ∀ c ∈ separated blank parts, holds c := by
  match parts with
  | [] => exact fun c hc => absurd hc List.not_mem_nil
  | [part] => exact h part List.mem_cons_self
  | part :: next :: rest =>
    obtain ⟨hfirst, hrest⟩ := List.forall_mem_cons.mp h
    exact List.forall_mem_append.mpr ⟨hfirst, List.forall_mem_cons.mpr ⟨hcomma,
      List.forall_mem_append.mpr ⟨hblank, forall_mem_separated hcomma hblank hrest⟩⟩⟩

theorem printed_separated {parts : List (List Char)} (h : ∀ part ∈ parts, Printed part) :
    Printed (separated [' '] parts) :=
  forall_mem_separated (by decide) (printed_cons.mpr ⟨by decide, printed_nil⟩) h

theorem printed_between {first last : Char} (hfirst : 32 ≤ first.toNat ∧ first.toNat < 127)
    (hlast : 32 ≤ last.toNat ∧ last.toNat < 127) {text : List Char} (h : Printed text) :
    Printed (first :: text ++ [last]) :=
  printed_append.mpr ⟨printed_cons.mpr ⟨hfirst, h⟩, printed_cons.mpr ⟨hlast, printed_nil⟩⟩

/-- The one-line form holds printed ASCII characters alone. -/
theorem printed_write {levels : Nat} {value : Json} (h : Plain levels value) :
    Printed (write value) := by
  induction h with
  | null => decide
  | bool b => exact printed_bool b
  | int => exact printed_writeInt _
  | text s => exact printed_writeText s
  | @array _ items each ih =>
    rw [write, writeItems_eq, joined_eq_separated]
    exact printed_between (by decide) (by decide) (printed_separated (List.forall_mem_map.mpr ih))
  | @object _ members distinct each ih =>
    rw [write_object]
    refine printed_between (by decide) (by decide) (printed_separated ?_)
    refine List.forall_mem_map.mpr fun m hm => ?_
    have hmem := (inKeyOrder_perm members).mem_iff.mp hm
    exact printed_append.mpr ⟨printed_writeText m.1, printed_cons.mpr ⟨by decide,
      printed_cons.mpr ⟨by decide, ih m hmem⟩⟩⟩

/-- Printed ASCII characters and line feeds alone. -/
def PrintedOnLines (text : List Char) : Prop :=
  ∀ c ∈ text, c = '\n' ∨ (32 ≤ c.toNat ∧ c.toNat < 127)

instance (text : List Char) : Decidable (PrintedOnLines text) := List.decidableBAll _ text

theorem Printed.onLines {text : List Char} (h : Printed text) : PrintedOnLines text :=
  fun c hc => .inr (h c hc)

theorem printedOnLines_newLine (level : Nat) : PrintedOnLines (newLine level) := by
  intro c hc
  rcases List.mem_cons.mp hc with rfl | hspaces
  · exact .inl rfl
  · rw [(List.mem_replicate.mp hspaces).2]
    decide

theorem printedOnLines_between {first last : Char} (hfirst : PrintedOnLines [first])
    (hlast : PrintedOnLines [last]) (level : Nat) {parts : List (List Char)}
    (h : ∀ part ∈ parts, PrintedOnLines part) :
    PrintedOnLines (first :: (newLine (level + 1) ++ separated (newLine (level + 1)) parts)
      ++ newLine level ++ [last]) := by
  have hparts : PrintedOnLines (separated (newLine (level + 1)) parts) :=
    forall_mem_separated (by decide) (printedOnLines_newLine (level + 1)) h
  refine List.forall_mem_append.mpr ⟨List.forall_mem_append.mpr ⟨?_,
    printedOnLines_newLine level⟩, hlast⟩
  exact List.forall_mem_cons.mpr ⟨hfirst first List.mem_cons_self,
    List.forall_mem_append.mpr ⟨printedOnLines_newLine (level + 1), hparts⟩⟩

/-- The indented form holds printed ASCII characters and line feeds alone. -/
theorem printedOnLines_writeIndented {levels : Nat} {value : Json} (h : Plain levels value)
    (level : Nat) : PrintedOnLines (writeIndented level value) := by
  induction h generalizing level with
  | null =>
    rw [writeIndented]
    decide
  | bool b =>
    rw [writeIndented]
    exact (printed_bool b).onLines
  | int =>
    rw [writeIndented]
    exact (printed_writeInt _).onLines
  | text s =>
    rw [writeIndented]
    exact (printed_writeText s).onLines
  | @array _ items each ih =>
    cases items with
    | nil =>
      rw [writeIndented]
      decide
    | cons first rest =>
      rw [writeIndented, indentedItems_eq, List.map_cons, joinedLines_eq_separated]
      have hitem : ∀ item ∈ first :: rest, PrintedOnLines (writeIndented (level + 1) item) :=
        fun item hmem => ih item hmem (level + 1)
      exact printedOnLines_between (by decide) (by decide) level (List.forall_mem_map.mpr hitem)
  | @object _ members distinct each ih =>
    cases members with
    | nil =>
      rw [writeIndented]
      decide
    | cons first rest =>
      rw [writeIndented, indentedMembers_eq, List.map_cons, joinedLines_eq_separated]
      have hmember : ∀ m ∈ first :: rest,
          PrintedOnLines (writeMember (m.1, writeIndented (level + 1) m.2)) := fun m hm =>
        List.forall_mem_append.mpr ⟨(printed_writeText m.1).onLines, List.forall_mem_cons.mpr
          ⟨by decide, List.forall_mem_cons.mpr ⟨by decide, ih m hm (level + 1)⟩⟩⟩
      exact printedOnLines_between (by decide) (by decide) level (List.forall_mem_map.mpr hmember)

end OracleIndexer.Json
