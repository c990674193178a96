import OracleIndexer.Proofs.Json.Scalars
set_option autoImplicit false

/-!
# Reading values that hold others

How a value, items and members are taken from the front of an input, told without the depth that
bounds the reader.  Main results: the reader takes what this says and nothing else, its depth being
enough; and a whole text is a document exactly if a value stands at its front and only blanks
behind.
-/

namespace OracleIndexer.Json

/-- What may be read from the front of an input. -/
inductive Part where
  | value (value : Json)
  | items (values : List Json)
  | members (members : List (String × Json))

/-- A character that opens a value that holds others. -/
def opensNested (c : Char) : Bool := c == '[' || c == '{'

/-- A part stands at the front of an input, with a rest behind it, and in it no more than so many
arrays and objects lie in one another. -/
inductive Reads : Nat → Part → List Char → List Char → Prop
  | scalar {levels : Nat} {c : Char} {tail rest : List Char} {value : Json}
      (kind : opensNested c = false) (read : readScalar (c :: tail) = .ok (value, rest)) :
      Reads levels (.value value) (c :: tail) rest
  | emptyArray {inner : Nat} {input rest : List Char} (close : skip input = ']' :: rest) :
      Reads (inner + 1) (.value (.array [])) ('[' :: input) rest
  | array {inner : Nat} {input rest : List Char} {values : List Json}
      (items : Reads inner (.items values) (skip input) rest) :
      Reads (inner + 1) (.value (.array values)) ('[' :: input) rest
  | emptyObject {inner : Nat} {input rest : List Char} (close : skip input = '}' :: rest) :
      Reads (inner + 1) (.value (.object [])) ('{' :: input) rest
  | object {inner : Nat} {input rest : List Char} {pairs : List (String × Json)}
      (members : Reads inner (.members pairs) (skip input) rest) :
      Reads (inner + 1) (.value (objectOf pairs)) ('{' :: input) rest
  | lastItem {levels : Nat} {input behind rest : List Char} {value : Json}
      (item : Reads levels (.value value) input behind) (close : skip behind = ']' :: rest) :
      Reads levels (.items [value]) input rest
  | item {levels : Nat} {input behind next rest : List Char} {value : Json} {values : List Json}
      (item : Reads levels (.value value) input behind) (comma : skip behind = ',' :: next)
      (items : Reads levels (.items values) (skip next) rest) :
      Reads levels (.items (value :: values)) input rest
  | lastMember {levels : Nat} {input named valued behind rest : List Char} {key : String}
      {value : Json} (name : readText input = .ok (key, named))
      (colon : skip named = ':' :: valued)
      (member : Reads levels (.value value) (skip valued) behind)
      (close : skip behind = '}' :: rest) :
      Reads levels (.members [(key, value)]) ('"' :: input) rest
  | member {levels : Nat} {input named valued behind next rest : List Char} {key : String}
      {value : Json} {pairs : List (String × Json)} (name : readText input = .ok (key, named))
      (colon : skip named = ':' :: valued)
      (member : Reads levels (.value value) (skip valued) behind)
      (comma : skip behind = ',' :: next)
      (members : Reads levels (.members pairs) (skip next) rest) :
      Reads levels (.members ((key, value) :: pairs)) ('"' :: input) rest

/-- At a depth, the reader takes the part from the front of an input and leaves the rest. -/
def Part.TakenAt (levels depth : Nat) (input rest : List Char) : Part → Prop
  | .value document => readValue levels depth input = .ok (document, rest)
  | .items values => readItems levels depth input = .ok (values, rest)
  | .members pairs => readMembers levels depth input = .ok (pairs, rest)

/-! ## What the reader takes stands there -/

section Sound

variable {depth : Nat}
  (earlier : ∀ {levels part input rest}, Part.TakenAt levels depth input rest part →
    Reads levels part input rest)

include earlier

theorem reads_of_readValue {levels : Nat} {input rest : List Char} {value : Json}
    (h : readValue levels (depth + 1) input = .ok (value, rest)) :
    Reads levels (.value value) input rest := by
  rw [readValue.eq_def] at h
  simp only at h
  split at h
  · split at h
    · cases h
    · split at h
      · rename_i hclose
        obtain ⟨rfl, rfl⟩ := Prod.mk.inj (Except.ok.inj h)
        exact .emptyArray hclose
      · obtain ⟨_, hread, heq⟩ := Outcome.map_eq_ok_iff.mp h
        obtain ⟨rfl, rfl⟩ := Prod.mk.inj heq
        exact .array (earlier hread)
  · split at h
    · cases h
    · split at h
      · rename_i hclose
        obtain ⟨rfl, rfl⟩ := Prod.mk.inj (Except.ok.inj h)
        exact .emptyObject hclose
      · obtain ⟨_, hread, heq⟩ := Outcome.map_eq_ok_iff.mp h
        obtain ⟨rfl, rfl⟩ := Prod.mk.inj heq
        exact .object (earlier hread)
  · rename_i hbracket hbrace
    cases input with
    | nil => cases h
    | cons c tail =>
      refine .scalar ?_ h
      rw [opensNested, Bool.or_eq_false_iff, beq_eq_false_iff_ne, beq_eq_false_iff_ne]
      exact ⟨fun heq => hbracket tail (by rw [heq]), fun heq => hbrace tail (by rw [heq])⟩

theorem reads_of_readItems {levels : Nat} {input rest : List Char} {values : List Json}
    (h : readItems levels (depth + 1) input = .ok (values, rest)) :
    Reads levels (.items values) input rest := by
  rw [readItems] at h
  obtain ⟨⟨value, behind⟩, hitem, h⟩ := Outcome.bind_eq_ok_iff.mp h
  simp only at h
  split at h
  · rename_i hclose
    obtain ⟨rfl, rfl⟩ := Prod.mk.inj (Except.ok.inj h)
    exact .lastItem (earlier hitem) hclose
  · rename_i hcomma
    obtain ⟨_, hmore, h⟩ := Outcome.bind_eq_ok_iff.mp h
    obtain ⟨rfl, rfl⟩ := Prod.mk.inj (Except.ok.inj h)
    exact .item (earlier hitem) hcomma (earlier hmore)
  · cases h

theorem reads_of_readMembers {levels : Nat} {input rest : List Char}
    {pairs : List (String × Json)}
    (h : readMembers levels (depth + 1) input = .ok (pairs, rest)) :
    Reads levels (.members pairs) input rest := by
  rw [readMembers.eq_def] at h
  simp only at h
  split at h
  · obtain ⟨⟨key, named⟩, hname, h⟩ := Outcome.bind_eq_ok_iff.mp h
    simp only at h
    split at h
    · rename_i hcolon
      obtain ⟨⟨value, behind⟩, hmember, h⟩ := Outcome.bind_eq_ok_iff.mp h
      simp only at h
      split at h
      · rename_i hclose
        obtain ⟨rfl, rfl⟩ := Prod.mk.inj (Except.ok.inj h)
        exact .lastMember hname hcolon (earlier hmember) hclose
      · rename_i hcomma
        obtain ⟨_, hmore, h⟩ := Outcome.bind_eq_ok_iff.mp h
        obtain ⟨rfl, rfl⟩ := Prod.mk.inj (Except.ok.inj h)
        exact .member hname hcolon (earlier hmember) hcomma (earlier hmore)
      · cases h
    · cases h
  · cases h

end Sound

/-- Whatever the depth, the reader takes what stands at the front of the input. -/
theorem reads_of_takenAt {levels depth : Nat} {part : Part} {input rest : List Char}
    (h : part.TakenAt levels depth input rest) : Reads levels part input rest := by
  -- A value is read through its items or members and these through values, so the induction is on
  -- the depth, for all kinds of parts at once.
  induction depth generalizing levels part input rest with
  | zero => cases part <;> cases h
  | succ depth ih =>
    cases part with
    | value value => exact reads_of_readValue ih h
    | items values => exact reads_of_readItems ih h
    | members pairs => exact reads_of_readMembers ih h

/-! ## What stands there is taken -/

theorem readScalar_of_isStop {c : Char} (h : isStop c = true) (tail : List Char) :
    readScalar (c :: tail) = .error .notJson := by
  simp only [isStop, isSpace, Bool.or_eq_true, beq_iff_eq] at h
  rcases h with (((((rfl | rfl) | rfl) | rfl) | rfl) | rfl) | rfl
  all_goals
    rw [readScalar_number rfl]
    rfl

/-- A part does not start with what ends a value, and is not nothing. -/
theorem Reads.head {levels : Nat} {part : Part} {input rest : List Char}
    (h : Reads levels part input rest) :
    ∃ c tail, input = c :: tail ∧ isStop c = false := by
  induction h with
  | @scalar _ c tail _ _ kind read =>
    refine ⟨c, tail, rfl, ?_⟩
    rw [← Bool.not_eq_true]
    intro hstop
    rw [readScalar_of_isStop hstop] at read
    cases read
  | lastItem _ _ ih => exact ih
  | item _ _ _ ih _ => exact ih
  | emptyArray | array | emptyObject | object | lastMember | member => exact ⟨_, _, rfl, rfl⟩

theorem Reads.ne_nil {levels : Nat} {part : Part} {input rest : List Char}
    (h : Reads levels part input rest) :
    input ≠ [] := by
  obtain ⟨c, tail, rfl, _⟩ := h.head
  exact List.cons_ne_nil c tail

theorem isSpace_of_isStop {c : Char} (h : isStop c = false) : isSpace c = false := by
  simp only [isStop, Bool.or_eq_false_iff] at h
  exact h.1.1.1

theorem Reads.skip_eq {levels : Nat} {part : Part} {input rest : List Char}
    (h : Reads levels part input rest) :
    skip input = input := by
  obtain ⟨c, tail, rfl, hc⟩ := h.head
  exact skip_cons_of_not_space (isSpace_of_isStop hc) tail

theorem length_behind {input rest : List Char} {c : Char} (h : skip input = c :: rest) :
    rest.length < input.length := by
  have hskip := length_skip_le input
  rw [h, List.length_cons] at hskip
  omega

/-- A part takes at least a character. -/
theorem Reads.length_lt {levels : Nat} {part : Part} {input rest : List Char}
    (h : Reads levels part input rest) :
    rest.length < input.length := by
  induction h with
  | scalar kind read => exact length_readScalar_lt read
  | emptyArray close => exact Nat.lt_succ_of_lt (length_behind close)
  | emptyObject close => exact Nat.lt_succ_of_lt (length_behind close)
  | @array _ input rest _ _ ih =>
    have hskip := length_skip_le input
    rw [List.length_cons]
    omega
  | @object _ input rest _ _ ih =>
    have hskip := length_skip_le input
    rw [List.length_cons]
    omega
  | lastItem _ close ih => exact (length_behind close).trans ih
  | @item _ _ _ next _ _ _ _ comma _ ih ihs =>
    have hcomma := length_behind comma
    have hskip := length_skip_le next
    omega
  | @lastMember _ _ _ valued _ _ _ _ name colon _ close ih =>
    have hname := length_readText_lt name
    have hcolon := length_behind colon
    have hskip := length_skip_le valued
    have hclose := length_behind close
    rw [List.length_cons]
    omega
  | @member _ _ _ valued _ next _ _ _ _ name colon _ comma _ ih ihs =>
    have hname := length_readText_lt name
    have hcolon := length_behind colon
    have hvalued := length_skip_le valued
    have hcomma := length_behind comma
    have hnext := length_skip_le next
    rw [List.length_cons]
    omega

/-- What the reader may be asked for. -/
inductive Kind where
  | value
  | items
  | members

/-- A depth that is enough.  Items and members take one step to get to their first. -/
def Kind.depth (input : List Char) : Kind → Nat
  | .value => 2 * input.length
  | _ => 2 * input.length + 1

/-- What has to be asked for to get a part. -/
def Part.kind : Part → Kind
  | .value _ => .value
  | .items _ => .items
  | .members _ => .members

section Complete

variable {levels inner depth : Nat} {input rest : List Char}

theorem readValue_array {c : Char} {tail : List Char} (hskip : skip input = c :: tail)
    (hc : c ≠ ']') :
    readValue (inner + 1) (depth + 1) ('[' :: input)
      = (readItems inner depth (skip input)).map fun found => (.array found.1, found.2) := by
  rw [readValue]
  split
  · rename_i heq
    exact absurd (List.cons.inj (hskip.symm.trans heq)).1 hc
  · rfl

theorem readValue_object {c : Char} {tail : List Char} (hskip : skip input = c :: tail)
    (hc : c ≠ '}') :
    readValue (inner + 1) (depth + 1) ('{' :: input)
      = (readMembers inner depth (skip input)).map fun found => (objectOf found.1, found.2) := by
  rw [readValue]
  split
  · rename_i heq
    exact absurd (List.cons.inj (hskip.symm.trans heq)).1 hc
  · rfl

theorem ne_of_not_isStop {c d : Char} (hc : isStop c = false) (hd : isStop d = true) : c ≠ d := by
  rintro rfl
  rw [hc] at hd
  cases hd

theorem readValue_scalar {c : Char} (h : opensNested c = false) (tail : List Char) :
    readValue levels (depth + 1) (c :: tail) = readScalar (c :: tail) := by
  rw [readValue.eq_def]
  simp only
  split
  · rename_i heq
    rw [(List.cons.inj heq).1] at h
    cases h
  · rename_i heq
    rw [(List.cons.inj heq).1] at h
    cases h
  · rfl

end Complete

/-- A depth of twice the length is enough. -/
theorem takenAt_of_reads {levels : Nat} {part : Part} {input rest : List Char}
    (h : Reads levels part input rest) {depth : Nat} (hdepth : part.kind.depth input ≤ depth) :
    part.TakenAt levels depth input rest := by
  -- The next part starts behind a character that was taken, but the first item starts where the
  -- items do: that step is paid for by the one that `Kind.depth` allows them beyond a value.
  induction h generalizing depth with
  | scalar kind read =>
    simp only [Part.kind, Kind.depth, List.length_cons] at hdepth
    obtain ⟨depth, rfl⟩ : ∃ d, depth = d + 1 := Nat.exists_eq_add_one.mpr (by omega)
    exact (readValue_scalar kind _).trans read
  | emptyArray close =>
    simp only [Part.kind, Kind.depth, List.length_cons] at hdepth
    obtain ⟨depth, rfl⟩ : ∃ d, depth = d + 1 := Nat.exists_eq_add_one.mpr (by omega)
    simp only [Part.TakenAt, readValue, close]
  | @array _ input _ _ items ih =>
    have hskip := length_skip_le input
    simp only [Part.kind, Kind.depth, List.length_cons] at hdepth ih
    obtain ⟨depth, rfl⟩ : ∃ d, depth = d + 1 := Nat.exists_eq_add_one.mpr (by omega)
    obtain ⟨c, tail, hhead, hc⟩ := items.head
    have hitems : readItems _ depth (skip input) = _ := ih (by omega)
    rw [Part.TakenAt, readValue_array hhead (ne_of_not_isStop hc rfl), hitems, Outcome.map_ok]
  | emptyObject close =>
    simp only [Part.kind, Kind.depth, List.length_cons] at hdepth
    obtain ⟨depth, rfl⟩ : ∃ d, depth = d + 1 := Nat.exists_eq_add_one.mpr (by omega)
    simp only [Part.TakenAt, readValue, close]
  | @object _ input _ _ members ih =>
    have hskip := length_skip_le input
    simp only [Part.kind, Kind.depth, List.length_cons] at hdepth ih
    obtain ⟨depth, rfl⟩ : ∃ d, depth = d + 1 := Nat.exists_eq_add_one.mpr (by omega)
    obtain ⟨c, tail, hhead, hc⟩ := members.head
    have hmembers : readMembers _ depth (skip input) = _ := ih (by omega)
    rw [Part.TakenAt, readValue_object hhead (ne_of_not_isStop hc rfl), hmembers, Outcome.map_ok]
  | @lastItem _ input _ _ _ _ close ih =>
    simp only [Part.kind, Kind.depth] at hdepth ih
    obtain ⟨depth, rfl⟩ : ∃ d, depth = d + 1 := Nat.exists_eq_add_one.mpr (by omega)
    have hitem : readValue _ depth input = _ := ih (by omega)
    simp only [Part.TakenAt, readItems, hitem, Outcome.ok_bind, close, Outcome.pure_eq_ok]
  | @item _ input _ next _ _ _ item comma items ih ihs =>
    have hbehind := item.length_lt
    have hcomma := length_behind comma
    have hskip := length_skip_le next
    simp only [Part.kind, Kind.depth] at hdepth ih ihs
    obtain ⟨depth, rfl⟩ : ∃ d, depth = d + 1 := Nat.exists_eq_add_one.mpr (by omega)
    have hitem : readValue _ depth input = _ := ih (by omega)
    have hitems : readItems _ depth (skip next) = _ := ihs (by omega)
    simp only [Part.TakenAt, readItems, hitem, Outcome.ok_bind, comma, hitems,
      Outcome.pure_eq_ok]
  | @lastMember _ input named valued _ _ _ _ name colon member close ih =>
    have hname := length_readText_lt name
    have hcolon := length_behind colon
    have hskip := length_skip_le valued
    simp only [Part.kind, Kind.depth, List.length_cons] at hdepth ih
    obtain ⟨depth, rfl⟩ : ∃ d, depth = d + 1 := Nat.exists_eq_add_one.mpr (by omega)
    have hmember : readValue _ depth (skip valued) = _ := ih (by omega)
    simp only [Part.TakenAt, readMembers, name, Outcome.ok_bind, colon, hmember, close,
      Outcome.pure_eq_ok]
  | @member _ input named valued _ next _ _ _ _ name colon member comma members ih ihs =>
    have hname := length_readText_lt name
    have hcolon := length_behind colon
    have hvalued := length_skip_le valued
    have hbehind := member.length_lt
    have hcomma := length_behind comma
    have hnext := length_skip_le next
    simp only [Part.kind, Kind.depth, List.length_cons] at hdepth ih ihs
    obtain ⟨depth, rfl⟩ : ∃ d, depth = d + 1 := Nat.exists_eq_add_one.mpr (by omega)
    have hmember : readValue _ depth (skip valued) = _ := ih (by omega)
    have hmembers : readMembers _ depth (skip next) = _ := ihs (by omega)
    simp only [Part.TakenAt, readMembers, name, Outcome.ok_bind, colon, hmember, comma, hmembers,
      Outcome.pure_eq_ok]

/-- What stands at the front of a text is the document, unless more than blanks stand behind. -/
theorem read_of_reads {levels : Nat} {text rest : List Char} {value : Json}
    (h : Reads levels (.value value) (skip text) rest) :
    read levels text = if (skip rest).isEmpty then .ok value else .error .notJson := by
  have hdepth : Kind.value.depth (skip text) ≤ 2 * text.length + 2 := by
    have hskip := length_skip_le text
    simp only [Kind.depth]
    omega
  have hread : readValue levels (2 * text.length + 2) (skip text) = .ok (value, rest) :=
    takenAt_of_reads h hdepth
  rw [read, hread]
  rfl

/-- A text is a document exactly if a value stands at its front and only blanks behind. -/
theorem read_eq_ok_iff {levels : Nat} {text : List Char} {value : Json} :
    read levels text = .ok value ↔
      ∃ rest, Reads levels (.value value) (skip text) rest ∧ skip rest = [] := by
  constructor
  · intro h
    obtain ⟨⟨found, rest⟩, hread, h⟩ := Outcome.bind_eq_ok_iff.mp h
    simp only at h
    split at h
    · rename_i hblank
      obtain rfl : found = value := Except.ok.inj h
      have htaken : Part.TakenAt levels _ _ _ (.value found) := hread
      exact ⟨rest, reads_of_takenAt htaken, List.isEmpty_iff.mp hblank⟩
    · cases h
  · rintro ⟨rest, hreads, hblank⟩
    rw [read_of_reads hreads, hblank]
    rfl

/-! ## More input behind -/

/-- A part that ends with its own bracket. -/
def Part.IsClosed (input : List Char) : Part → Prop
  | .value _ => ∃ c tail, input = c :: tail ∧ opensNested c = true
  | _ => True

/-- What has been seen to end stays what it is in front of more input. -/
theorem Reads.append {levels : Nat} {part : Part} {input rest : List Char}
    (h : Reads levels part input rest) (hend : Stops rest ∨ part.IsClosed input)
    (more : List Char) : Reads levels part (input ++ more) (rest ++ more) := by
  -- Inside brackets every value is followed by a comma or a bracket, so only a scalar that is the
  -- whole part needs the stop.
  induction h with
  | @scalar _ c tail _ _ kind read =>
    rcases hend with hstop | ⟨_, _, hhead, hnested⟩
    · exact .scalar kind (readScalar_append read hstop more)
    · rw [← (List.cons.inj hhead).1, kind] at hnested
      cases hnested
  | emptyArray close => exact .emptyArray (skip_append_of_cons close more)
  | array items ih =>
    have hbehind := ih (.inr trivial)
    rw [← skip_append items.ne_nil] at hbehind
    exact .array hbehind
  | emptyObject close => exact .emptyObject (skip_append_of_cons close more)
  | object members ih =>
    have hbehind := ih (.inr trivial)
    rw [← skip_append members.ne_nil] at hbehind
    exact .object hbehind
  | lastItem item close ih =>
    exact .lastItem (ih (.inl (stops_of_skip close rfl))) (skip_append_of_cons close more)
  | item item comma items ih ihs =>
    have hitems := ihs (.inr trivial)
    rw [← skip_append items.ne_nil] at hitems
    exact .item (ih (.inl (stops_of_skip comma rfl))) (skip_append_of_cons comma more) hitems
  | lastMember name colon member close ih =>
    have hmember := ih (.inl (stops_of_skip close rfl))
    rw [← skip_append member.ne_nil] at hmember
    exact .lastMember (readText_append name more) (skip_append_of_cons colon more) hmember
      (skip_append_of_cons close more)
  | member name colon member comma members ih ihs =>
    have hmember := ih (.inl (stops_of_skip comma rfl))
    have hmembers := ihs (.inr trivial)
    rw [← skip_append member.ne_nil] at hmember
    rw [← skip_append members.ne_nil] at hmembers
    exact .member (readText_append name more) (skip_append_of_cons colon more) hmember
      (skip_append_of_cons comma more) hmembers

theorem ne_object_of_readScalar {input rest : List Char} {value : Json}
    (h : readScalar input = .ok (value, rest)) (members : List (String × Json)) :
    value ≠ .object members := by
  have hword : ∀ {word : String} {found : Json}, readWord word found input = .ok (value, rest) →
      value = found := fun hread => (readWord_eq_ok_iff.mp hread).2
  have hnumber : ∀ {negative : Bool} {digits : List Char},
      readNumber negative digits = .ok (value, rest) → value ≠ .object members := by
    intro negative digits hread
    obtain ⟨whole, _, fraction, _, exponent, _, _, _, _, rfl⟩ := readNumber_eq_ok hread
    rw [numberOf]
    split <;> exact Json.noConfusion
  rw [readScalar.eq_def] at h
  split at h
  case h_7 => exact hnumber h
  case h_8 =>
    obtain ⟨_, _, heq⟩ := Outcome.map_eq_ok_iff.mp h
    rw [← (Prod.mk.inj heq).1]
    exact Json.noConfusion
  case h_9 => exact hnumber h
  all_goals
    rw [hword h]
    exact Json.noConfusion

/-- An object stands between brackets. -/
theorem Reads.isClosed_of_object {levels : Nat} {members : List (String × Json)}
    {input rest : List Char} (h : Reads levels (.value (.object members)) input rest) :
    (Part.value (.object members)).IsClosed input := by
  generalize hvalue : Part.value (.object members) = part at h
  cases h with
  | scalar kind read =>
    obtain rfl := Part.value.inj hvalue
    exact absurd rfl (ne_object_of_readScalar read members)
  | emptyArray | array => cases hvalue
  | emptyObject | object => exact ⟨_, _, rfl, rfl⟩
  | lastItem | item | lastMember | member => cases hvalue

theorem isClosed_of_read_object {levels : Nat} {text : List Char} {members : List (String × Json)}
    (h : read levels text = .ok (.object members)) :
    (Part.value (.object members)).IsClosed (skip text) := by
  obtain ⟨rest, hreads, _⟩ := read_eq_ok_iff.mp h
  exact hreads.isClosed_of_object

/-- A text that holds a value between brackets is no document with something other than blanks
behind it; with blanks behind it, it holds the value that it did. -/
theorem read_append {levels : Nat} {text : List Char} {value : Json}
    (h : read levels text = .ok value) (hclosed : (Part.value value).IsClosed (skip text))
    (more : List Char) :
    read levels (text ++ more) = if (skip more).isEmpty then .ok value else .error .notJson := by
  obtain ⟨rest, hreads, hblank⟩ := read_eq_ok_iff.mp h
  have hlonger : Reads levels (.value value) (skip (text ++ more)) (rest ++ more) := by
    rw [skip_append hreads.ne_nil]
    exact hreads.append (.inr hclosed) more
  rw [read_of_reads hlonger, skip_append_of_nil hblank]

/-! ## Input refused for what it holds -/

/-- At a depth, an input is refused where something of a kind should stand. -/
def Kind.RefusedAt (levels depth : Nat) (input : List Char) (fault : Fault) : Kind → Prop
  | .value => readValue levels depth input = .error fault
  | .items => readItems levels depth input = .error fault
  | .members => readMembers levels depth input = .error fault

/-- Nothing is no part of any kind. -/
theorem Kind.refusedAt_nil (levels depth : Nat) (kind : Kind) :
    kind.RefusedAt levels depth [] .notJson := by
  have hvalue : readValue levels depth [] = .error .notJson := by cases depth <;> rfl
  cases kind with
  | value => exact hvalue
  | items =>
    cases depth with
    | zero => rfl
    | succ depth =>
      have hfirst : readValue levels depth [] = .error .notJson := by cases depth <;> rfl
      rw [RefusedAt, readItems, hfirst]
      rfl
  | members => cases depth <;> rfl

/-- So what is refused for what it holds is something. -/
theorem Kind.RefusedAt.ne_nil {levels depth : Nat} {input : List Char} {fault : Fault} {kind : Kind}
    (h : kind.RefusedAt levels depth input fault) (hfault : fault ≠ .notJson) : input ≠ [] := by
  rintro rfl
  have hnil := kind.refusedAt_nil levels depth
  cases kind <;> exact hfault (Except.error.inj (Eq.trans (Eq.symm h) hnil))

section Refused

variable {levels depth enough : Nat} {fault : Fault} {c : Char} {more : List Char}
  (hfault : fault ≠ .notJson) (hmark : isNumberMark c = false)
  (earlier : ∀ {levels enough input} {kind : Kind}, kind.RefusedAt levels depth input fault →
    kind.depth (input ++ c :: more) ≤ enough →
      kind.RefusedAt levels enough (input ++ c :: more) fault)

include hfault

/-- What stands at the front of an input, and what is refused behind it, in front of more. -/
theorem Kind.RefusedAt.skip_append {input : List Char} {kind : Kind}
    (h : kind.RefusedAt levels depth (skip input) fault) (more : List Char) :
    skip (input ++ more) = skip input ++ more :=
  Json.skip_append (h.ne_nil hfault) more

include earlier

theorem refused_items {input : List Char}
    (h : readItems levels (depth + 1) input = .error fault)
    (henough : 2 * (input ++ c :: more).length ≤ enough) :
    readItems levels (enough + 1) (input ++ c :: more) = .error fault := by
  rw [readItems] at h ⊢
  rcases Outcome.bind_eq_error_iff.mp h with hfirst | ⟨⟨value, behind⟩, hitem, h⟩
  · have hvalue : Kind.value.RefusedAt levels depth input fault := hfirst
    have hlonger : readValue levels enough _ = _ := earlier hvalue henough
    rw [hlonger]
    rfl
  · simp only at h
    split at h
    · cases h
    · rename_i next hcomma
      have hnext : Kind.items.RefusedAt levels depth (skip next) fault := by
        rcases Outcome.bind_eq_error_iff.mp h with hothers | ⟨_, _, h⟩
        · exact hothers
        · cases h
      have hreads : Reads levels (.value value) input behind := reads_of_takenAt hitem
      have hlonger : readValue levels enough _ = _ := takenAt_of_reads
        (hreads.append (.inl (stops_of_skip hcomma rfl)) (c :: more)) henough
      have hbehind := hreads.length_lt
      have hskip := length_skip_le next
      have hothers : readItems levels enough _ = _ := earlier hnext (by
        have hcommaLt := length_behind hcomma
        simp only [Kind.depth, List.length_append] at henough ⊢
        omega)
      simp only [hlonger, Outcome.ok_bind, skip_append_of_cons hcomma,
        hnext.skip_append hfault, hothers, Outcome.error_bind]
    · exact absurd (Except.error.inj h).symm hfault

theorem refused_members {input : List Char}
    (h : readMembers levels (depth + 1) input = .error fault)
    (henough : 2 * (input ++ c :: more).length ≤ enough) :
    readMembers levels (enough + 1) (input ++ c :: more) = .error fault := by
  rw [readMembers.eq_def] at h
  simp only at h
  split at h
  · rename_i quoted
    rw [List.cons_append, readMembers]
    rcases Outcome.bind_eq_error_iff.mp h with hname | ⟨⟨key, named⟩, hname, h⟩
    · rw [readText_refused_append hname hfault]
      rfl
    · have hnamed := length_readText_lt hname
      simp only at h
      split at h
      · rename_i valued hcolon
        have hcolonLt := length_behind hcolon
        have hvaluedLe := length_skip_le valued
        rw [readText_append hname]
        simp only [Outcome.ok_bind, skip_append_of_cons hcolon]
        rcases Outcome.bind_eq_error_iff.mp h with hvalue | ⟨⟨value, behind⟩, hmember, h⟩
        · have hrefused : Kind.value.RefusedAt levels depth (skip valued) fault := hvalue
          have hlonger : readValue levels enough _ = _ := earlier hrefused (by
            simp only [Kind.depth, List.length_append, List.length_cons] at henough ⊢
            omega)
          simp only [hrefused.skip_append hfault, hlonger, Outcome.error_bind]
        · simp only at h
          split at h
          · cases h
          · rename_i next hcomma
            have hnext : Kind.members.RefusedAt levels depth (skip next) fault := by
              rcases Outcome.bind_eq_error_iff.mp h with hothers | ⟨_, _, h⟩
              · exact hothers
              · cases h
            have hreads : Reads levels (.value value) (skip valued) behind :=
              reads_of_takenAt hmember
            have hbehind := hreads.length_lt
            have hcommaLt := length_behind hcomma
            have hnextLe := length_skip_le next
            have hlonger : readValue levels enough _ = _ := takenAt_of_reads
              (hreads.append (.inl (stops_of_skip hcomma rfl)) (c :: more)) (by
                simp only [Part.kind, Kind.depth, List.length_append, List.length_cons]
                  at henough ⊢
                omega)
            have hothers : readMembers levels enough _ = _ := earlier hnext (by
              simp only [Kind.depth, List.length_append, List.length_cons] at henough ⊢
              omega)
            simp only [Json.skip_append hreads.ne_nil, hlonger, Outcome.ok_bind,
              skip_append_of_cons hcomma, hnext.skip_append hfault, hothers, Outcome.error_bind]
          · exact absurd (Except.error.inj h).symm hfault
      · exact absurd (Except.error.inj h).symm hfault
  · exact absurd (Except.error.inj h).symm hfault

include hmark

theorem refused_value {input : List Char}
    (h : readValue levels (depth + 1) input = .error fault)
    (henough : 2 * (input ++ c :: more).length ≤ enough + 1) :
    readValue levels (enough + 1) (input ++ c :: more) = .error fault := by
  rw [readValue.eq_def] at h
  simp only at h
  split at h
  · rename_i rest
    split at h
    · rw [List.cons_append, readValue, h]
    · rename_i inner
      split at h
      · cases h
      · rename_i hopen
        have hitems : Kind.items.RefusedAt inner depth (skip rest) fault :=
          Outcome.map_eq_error_iff.mp h
        obtain ⟨d, tail, hhead⟩ := List.exists_cons_of_ne_nil (hitems.ne_nil hfault)
        have hskip := hitems.skip_append hfault (c :: more)
        have hne : d ≠ ']' := by
          rintro rfl
          exact hopen tail hhead
        have hlonger : readItems inner enough _ = _ := earlier hitems (by
          have hskipLe := length_skip_le rest
          simp only [Kind.depth, List.length_append, List.length_cons] at henough ⊢
          omega)
        rw [List.cons_append, readValue_array (by rw [hskip, hhead, List.cons_append]) hne, hskip,
          hlonger]
        rfl
  · rename_i rest
    split at h
    · rw [List.cons_append, readValue, h]
    · rename_i inner
      split at h
      · cases h
      · rename_i hopen
        have hmembers : Kind.members.RefusedAt inner depth (skip rest) fault :=
          Outcome.map_eq_error_iff.mp h
        obtain ⟨d, tail, hhead⟩ := List.exists_cons_of_ne_nil (hmembers.ne_nil hfault)
        have hskip := hmembers.skip_append hfault (c :: more)
        have hne : d ≠ '}' := by
          rintro rfl
          exact hopen tail hhead
        have hlonger : readMembers inner enough _ = _ := earlier hmembers (by
          have hskipLe := length_skip_le rest
          simp only [Kind.depth, List.length_append, List.length_cons] at henough ⊢
          omega)
        rw [List.cons_append, readValue_object (by rw [hskip, hhead, List.cons_append]) hne, hskip,
          hlonger]
        rfl
  · rename_i hbracket hbrace
    cases input with
    | nil => exact absurd (Except.error.inj h).symm hfault
    | cons d tail =>
      have hkind : opensNested d = false := by
        rw [opensNested, Bool.or_eq_false_iff, beq_eq_false_iff_ne, beq_eq_false_iff_ne]
        exact ⟨fun heq => hbracket tail (by rw [heq]), fun heq => hbrace tail (by rw [heq])⟩
      rw [List.cons_append, readValue_scalar hkind]
      exact readScalar_refused_append h hfault hmark more

end Refused

/-- What is refused for what it holds is refused in front of anything that belongs to no number. -/
theorem Kind.RefusedAt.append {levels depth : Nat} {input : List Char} {fault : Fault} {kind : Kind}
    (h : kind.RefusedAt levels depth input fault) (hfault : fault ≠ .notJson) {c : Char}
    (hmark : isNumberMark c = false) (more : List Char) {enough : Nat}
    (henough : kind.depth (input ++ c :: more) ≤ enough) :
    kind.RefusedAt levels enough (input ++ c :: more) fault := by
  induction depth generalizing levels input kind enough with
  | zero => cases kind <;> exact absurd (Except.error.inj h).symm hfault
  | succ depth ih =>
    obtain ⟨enough, rfl⟩ : ∃ d, enough = d + 1 := Nat.exists_eq_add_one.mpr (by
      cases kind <;> simp only [Kind.depth, List.length_append, List.length_cons] at henough <;>
        omega)
    cases kind with
    | value => exact refused_value hfault hmark (fun h henough => ih h henough) h henough
    | items =>
      exact refused_items hfault (fun h henough => ih h henough) h (Nat.le_of_succ_le_succ henough)
    | members =>
      exact refused_members hfault (fun h henough => ih h henough) h
        (Nat.le_of_succ_le_succ henough)

/-- A text that is refused for what it holds is refused in front of anything that belongs to no
number. -/
theorem read_append_of_refused {levels : Nat} {first : List Char} {fault : Fault}
    (h : read levels first = .error fault) (hfault : fault ≠ .notJson) {c : Char}
    (hmark : isNumberMark c = false) (more : List Char) :
    read levels (first ++ c :: more) = .error fault := by
  have hvalue : Kind.value.RefusedAt levels (2 * first.length + 2) (skip first) fault := by
    rcases Outcome.bind_eq_error_iff.mp h with hvalue | ⟨⟨_, rest⟩, _, hrest⟩
    · exact hvalue
    · simp only at hrest
      split at hrest
      · cases hrest
      · exact absurd (Except.error.inj hrest).symm hfault
  have hlonger : readValue levels (2 * (first ++ c :: more).length + 2) (skip first ++ c :: more)
      = .error fault := hvalue.append hfault hmark more (by
    have hskip := length_skip_le first
    simp only [Kind.depth, List.length_append]
    omega)
  rw [read, hvalue.skip_append hfault, hlonger]
  rfl

/-- An object that is cut at a character that is no blank and belongs to no number is no document
any more, and is refused for nothing else. -/
theorem read_eq_notJson_of_cut {levels : Nat} {first more : List Char} {c : Char}
    {members : List (String × Json)} (hspace : isSpace c = false) (hmark : isNumberMark c = false)
    (h : read levels (first ++ c :: more) = .ok (.object members)) :
    read levels first = .error .notJson := by
  cases hfirst : read levels first with
  | ok value =>
    obtain ⟨_, hreads, _⟩ := read_eq_ok_iff.mp hfirst
    obtain ⟨d, tail, hhead, _⟩ := hreads.head
    obtain ⟨e, behind, hwhole, he⟩ := isClosed_of_read_object h
    rw [skip_append_of_cons hhead] at hwhole
    -- The piece starts with the bracket of the whole, so it would be closed before the cut.
    have hclosed : (Part.value value).IsClosed (skip first) :=
      ⟨d, tail, hhead, (List.cons.inj hwhole).1 ▸ he⟩
    rw [read_append hfirst hclosed, skip_cons_of_not_space hspace] at h
    cases h
  | error fault =>
    by_contra hne
    have hfault : fault ≠ .notJson := fun heq => hne (heq ▸ rfl)
    rw [read_append_of_refused hfirst hfault hmark more] at h
    cases h

end OracleIndexer.Json
