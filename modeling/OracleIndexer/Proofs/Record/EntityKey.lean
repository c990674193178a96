import OracleIndexer.Proofs.Felt.Writing
import OracleIndexer.Proofs.Record.Columns
import OracleIndexer.Record.Randomness
set_option autoImplicit false

/-!
# Keys of updates

An update names the row that it changes by key columns, and a sink finds the row by comparing them
with the columns that were inserted.  The identifier of a request for random words becomes a number
in both, so it may be written differently in the two events.  The caller's address and the
identifier of an assertion are passed on as they are written, so an update finds its row exactly if
its event writes them as the first event did.
-/

namespace OracleIndexer

namespace Felt

/-- A felt that is the same as one writing is not the same as a writing of another number. -/
theorem same_eq_false_of_writes {felt a b : Json} {m n : Nat} (h : same felt a = .ok true)
    (ha : Writes m a) (hb : Writes n b) (hne : m ≠ n) : same felt b = .ok false := by
  have hfelt : felt ≠ .null := by
    rintro rfl
    cases h
  rw [same_of_ne_null hfelt (ne_null_of_writes ha)] at h
  rw [same_of_ne_null hfelt (ne_null_of_writes hb), value_of_writes hb]
  obtain ⟨x, hx, h⟩ := Outcome.bind_eq_ok_iff.mp h
  rw [value_of_writes ha, Outcome.ok_bind] at h
  have heq : x = m := by simpa using h
  rw [hx, heq]
  have hcast : (m : Int) ≠ n := fun hmn => hne (Int.ofNat_inj.mp hmn)
  simp [hcast]

theorem column_of_number {felt : Json} {n : Int} (h : number felt = .ok (.whole n)) :
    column felt = .ok (.int n) := by
  rw [column, h]
  rfl

end Felt

/-- A row that a key names: each column of the key is one of the row's. -/
def Columns.Names (key row : Columns) : Prop :=
  ∀ column ∈ key, row.lookup column.1 = some column.2

namespace Record

/-! ## Selectors -/

theorem writes_randomnessRequestSelector :
    Felt.Writes 0xe3e1c077138abb6d570b1a7ba425f5479b12f50a78a72be680167d4cf79c48
      (.text randomnessRequestSelector) :=
  .hex (.inl rfl) (by decide) (by decide)

theorem writes_statusChangeSelector :
    Felt.Writes 0x15510b399942790499934b72bc68b883f0905dee5da5aa36e489c9ffb096b8c
      (.text statusChangeSelector) :=
  .hex (.inl rfl) (by decide) (by decide)

theorem writes_assertionDisputedSelector :
    Felt.Writes 0x33efc8167fe91406d16c1680e593c3c2cad864220645cc2a48efd67e8f7ca73
      (.text assertionDisputedSelector) :=
  .hex (.inl rfl) (by decide) (by decide)

theorem writes_assertionSettledSelector :
    Felt.Writes 0xed635610f8859765fb89b19bec7866c02bbc2f03bb048acec6ba6536aa7cb9
      (.text assertionSettledSelector) :=
  .hex (.inl rfl) (by decide) (by decide)

/-! ## Requests for random words -/

/-- An event that requests random words under a number, whose felts can be read and whose row has an
identifier. -/
structure Requests (item : Block.Item) (request : Payload.RandomnessRequest) (id : Int) :
    Prop where
  selected : Felt.same item.event.selector (.text randomnessRequestSelector) = .ok true
  data : Payload.RandomnessRequest.ofData item.event.data = .ok request
  row : ∃ id, dataId item = .ok id
  requestId : Felt.number request.requestId = .ok (.whole id)
  readable : ∀ felt ∈ [request.seed, request.minimumBlockNumber, request.callbackFeeLimit,
    request.wordCount], ∃ column, Felt.column felt = .ok column

/-- An event that changes the status of the request under a number, and whose felts can be read. -/
structure Changes (event : Block.Event) (change : Payload.StatusChange) (id : Int) : Prop where
  selected : Felt.same event.selector (.text statusChangeSelector) = .ok true
  data : Payload.StatusChange.ofData event.data = .ok change
  requestId : Felt.number change.requestId = .ok (.whole id)
  readable : ∃ status, Felt.column change.status = .ok status

section

variable {item : Block.Item} {id : Int}

/-- A request is inserted under its number and the caller as it is written. -/
theorem insert_of_requests {request : Payload.RandomnessRequest}
    (h : Requests item request id) (header : Block.Header) (context : Context) :
    ∃ row : Columns, randomness header item context = .ok [.insert row] ∧
      row.lookup "request_id" = some (.int id) ∧
      row.lookup "requestor_address" = some request.callerAddress := by
  obtain ⟨rowId, hrowId⟩ := h.row
  obtain ⟨seed, hseed⟩ := h.readable request.seed (by simp)
  obtain ⟨minimum, hminimum⟩ := h.readable request.minimumBlockNumber (by simp)
  obtain ⟨limit, hlimit⟩ := h.readable request.callbackFeeLimit (by simp)
  obtain ⟨count, hcount⟩ := h.readable request.wordCount (by simp)
  simp only [randomness, h.selected, requestInsert, payload, h.data, hrowId,
    Felt.column_of_number h.requestId, hseed, hminimum, hlimit, hcount, Outcome.mapError_ok,
    Outcome.ok_bind, Outcome.pure_eq_ok, if_true]
  exact ⟨_, rfl, rfl, rfl⟩

/-- A change of a request is an update of the row with its number and the caller as it is written
there. -/
theorem update_of_changes {change : Payload.StatusChange} (h : Changes item.event change id)
    (header : Block.Header) (context : Context) :
    ∃ changes, randomness header item context = .ok [.update
      [("request_id", .int id), ("requestor_address", change.callerAddress)] changes] := by
  obtain ⟨status, hstatus⟩ := h.readable
  have hother := Felt.same_eq_false_of_writes h.selected writes_statusChangeSelector
    writes_randomnessRequestSelector (by decide)
  simp only [randomness, hother, h.selected, statusUpdate, payload, h.data,
    Felt.column_of_number h.requestId, hstatus, Outcome.mapError_ok, Outcome.ok_bind,
    Outcome.pure_eq_ok, if_true, Bool.false_eq_true, if_false]
  exact ⟨_, rfl⟩

end

/-- A change of a request's status names the request's row exactly if both events write the caller
alike.  The number may be written differently. -/
theorem changes_name_request_iff {item later : Block.Item} {request : Payload.RandomnessRequest}
    {change : Payload.StatusChange} {id : Int} (hrequest : Requests item request id)
    (hchange : Changes later.event change id) (header next : Block.Header)
    (context other : Context) :
    ∃ row key changes, randomness header item context = .ok [.insert row] ∧
      randomness next later other = .ok [.update key changes] ∧
      (Columns.Names key row ↔ change.callerAddress = request.callerAddress) := by
  obtain ⟨row, hinsert, hid, hcaller⟩ := insert_of_requests hrequest header context
  obtain ⟨changes, hupdate⟩ := update_of_changes hchange next other
  refine ⟨row, _, changes, hinsert, hupdate, ?_⟩
  rw [Columns.Names, List.forall_mem_cons, List.forall_mem_singleton, hid, hcaller]
  constructor
  · rintro ⟨_, heq⟩
    exact (Option.some.inj heq).symm
  · intro heq
    exact ⟨rfl, congrArg some heq.symm⟩

/-! ## Assertions -/

/-- An event that makes an assertion, and whose columns can be made. -/
structure Makes (header : Block.Header) (item : Block.Item) (context : Context)
    (made : Payload.AssertionMade) : Prop where
  selected : Felt.same item.event.selector (.text assertionMadeSelector) = .ok true
  data : Payload.AssertionMade.ofData item.event.data = .ok made
  readable : ∃ columns, assertionColumns made header item context = .ok columns

/-- An event that disputes or settles an assertion, and whose felts can be read. -/
inductive Answers (event : Block.Event) : Json → Prop
  | disputed {disputed : Payload.AssertionDisputed}
      (selected : Felt.same event.selector (.text assertionDisputedSelector) = .ok true)
      (data : Payload.AssertionDisputed.ofData event.data = .ok disputed) :
    Answers event disputed.assertionId
  | settled {settled : Payload.AssertionSettled}
      (selected : Felt.same event.selector (.text assertionSettledSelector) = .ok true)
      (data : Payload.AssertionSettled.ofData event.data = .ok settled)
      (readable : ∀ felt ∈ [settled.settlementResolution, settled.disputed],
        ∃ zero, Felt.isZero felt = .ok zero) :
    Answers event settled.assertionId

/-- An assertion is inserted with its columns. -/
theorem insert_of_makes {header : Block.Header} {item : Block.Item} {context : Context}
    {made : Payload.AssertionMade} (h : Makes header item context made) :
    ∃ row : Columns, assertion header item context = .ok [.insert row] ∧
      HoldsAssertion made item row := by
  obtain ⟨row, hrow⟩ := h.readable
  refine ⟨row, ?_, holdsAssertion_of_assertionColumns hrow⟩
  simp only [assertion, h.selected, assertionInsert, h.data, hrow, Outcome.ok_bind,
    Outcome.pure_eq_ok, if_true]

/-- A dispute and a settlement are updates of the row with the identifier as they write it. -/
theorem update_of_answers {item : Block.Item} {assertionId : Json}
    (h : Answers item.event assertionId) (header : Block.Header) (context : Context) :
    ∃ changes, assertion header item context
      = .ok [.update [("assertion_id", assertionId)] changes] := by
  cases h with
  | disputed selected data =>
    have hmade := Felt.same_eq_false_of_writes selected writes_assertionDisputedSelector
      writes_assertionMadeSelector (by decide)
    simp only [assertion, hmade, selected, disputeUpdate, payload, data, Outcome.mapError_ok,
      Outcome.ok_bind, Outcome.pure_eq_ok, if_true, Bool.false_eq_true, if_false]
    exact ⟨_, rfl⟩
  | @settled settled selected data readable =>
    have hmade := Felt.same_eq_false_of_writes selected writes_assertionSettledSelector
      writes_assertionMadeSelector (by decide)
    have hdisputed := Felt.same_eq_false_of_writes selected writes_assertionSettledSelector
      writes_assertionDisputedSelector (by decide)
    obtain ⟨refused, hrefused⟩ := readable settled.settlementResolution (by simp)
    obtain ⟨undisputed, hundisputed⟩ := readable settled.disputed (by simp)
    simp only [assertion, hmade, hdisputed, selected, settlementUpdate, payload, data, hrefused,
      hundisputed, Outcome.mapError_ok, Outcome.ok_bind, Outcome.pure_eq_ok, if_true,
      Bool.false_eq_true, if_false]
    exact ⟨_, rfl⟩

/-- A dispute and a settlement name the assertion's row exactly if both events write its identifier
alike. -/
theorem answers_name_assertion_iff {header : Block.Header} {item later : Block.Item}
    {context : Context} {made : Payload.AssertionMade} {assertionId : Json}
    (hmade : Makes header item context made) (hlater : Answers later.event assertionId)
    (next : Block.Header) (other : Context) :
    ∃ row key changes, assertion header item context = .ok [.insert row] ∧
      assertion next later other = .ok [.update key changes] ∧
      (Columns.Names key row ↔ assertionId = made.assertionId) := by
  obtain ⟨row, hinsert, hholds⟩ := insert_of_makes hmade
  obtain ⟨changes, hupdate⟩ := update_of_answers hlater next other
  refine ⟨row, _, changes, hinsert, hupdate, ?_⟩
  rw [Columns.Names, List.forall_mem_singleton, hholds.assertionId]
  constructor
  · intro heq
    exact (Option.some.inj heq).symm
  · intro heq
    exact congrArg some heq.symm

/-! ## All updates -/

/-- A change of a request and the request become an update and an insert, whose key names the
inserted row exactly if both events write the caller alike.  So do a dispute or a settlement and
the assertion, whose key names the row exactly if both events write its identifier alike. -/
theorem updates_name_inserts_iff (header next : Block.Header) (context other : Context) :
    (∀ {item later : Block.Item} {request : Payload.RandomnessRequest}
        {change : Payload.StatusChange} {id : Int}, Requests item request id →
      Changes later.event change id →
      ∃ row key changes, randomness header item context = .ok [.insert row] ∧
        randomness next later other = .ok [.update key changes] ∧
        (Columns.Names key row ↔ change.callerAddress = request.callerAddress)) ∧
    (∀ {item later : Block.Item} {made : Payload.AssertionMade} {assertionId : Json},
      Makes header item context made → Answers later.event assertionId →
      ∃ row key changes, assertion header item context = .ok [.insert row] ∧
        assertion next later other = .ok [.update key changes] ∧
        (Columns.Names key row ↔ assertionId = made.assertionId)) :=
  ⟨fun hrequest hchange => changes_name_request_iff hrequest hchange header next context other,
    fun hmade hlater => answers_name_assertion_iff hmade hlater next other⟩

/-- A request of a caller for random words. -/
private def requestOf (caller : String) : Payload.RandomnessRequest where
  requestId := .text "0x1"
  callerAddress := .text caller
  seed := .text "0x5"
  minimumBlockNumber := .text "0x7"
  callbackAddress := .text "0xcb"
  callbackFeeLimit := .text "0x64"
  wordCount := .text "0x1"

private def requestItem (caller : String) : Block.Item :=
  bareItem randomnessRequestSelector
    [.text "0x1", .text caller, .text "0x5", .text "0x7", .text "0xcb", .text "0x64", .text "0x1"]

private def changeItem (caller : String) : Block.Item :=
  bareItem statusChangeSelector [.text caller, .text "0x01", .text "0x2"]

/-- The felts of such a request are read whoever makes it. -/
private theorem number_one : Felt.number (.text "0x1") = .ok (.whole 1) := rfl

private theorem column_of_request :
    ∀ felt ∈ [Json.text "0x5", .text "0x7", .text "0x64", .text "0x1"],
      ∃ column, Felt.column felt = .ok column := by
  intro felt hfelt
  simp only [List.mem_cons, List.not_mem_nil, or_false] at hfelt
  rcases hfelt with rfl | rfl | rfl | rfl <;> exact ⟨_, rfl⟩

private theorem requests_requestItem (caller : String) :
    Requests (requestItem caller) (requestOf caller) 1 where
  selected := Felt.same_of_writes writes_randomnessRequestSelector writes_randomnessRequestSelector
  data := rfl
  row := ⟨_, dataId_bareItem _ _⟩
  requestId := number_one
  readable := column_of_request

private theorem number_padded : Felt.number (.text "0x01") = .ok (.whole 1) := rfl

private theorem column_of_status : ∃ status, Felt.column (.text "0x2") = .ok status := ⟨_, rfl⟩

private theorem changes_changeItem (caller : String) :
    Changes (changeItem caller).event ⟨.text caller, .text "0x01", .text "0x2"⟩ 1 where
  selected := Felt.same_of_writes writes_statusChangeSelector writes_statusChangeSelector
  data := rfl
  requestId := number_padded
  readable := column_of_status

/-- A new assertion without a claim. -/
private def madeAs (assertionId : String) : Payload.AssertionMade :=
  { Payload.AssertionMade.plain with assertionId := .text assertionId }

private def madeItem (assertionId : String) : Block.Item :=
  bareItem assertionMadeSelector ((madeAs assertionId).felts (.text "0x0") (.text "0x0") [])

private def disputeItem (assertionId : String) : Block.Item :=
  bareItem assertionDisputedSelector
    [.text assertionId, .text "0xca", .text "0xd1", .text "0x9"]

private theorem makes_madeItem (header : Block.Header) (context : Context) (assertionId : String) :
    Makes header (madeItem assertionId) context (madeAs assertionId) where
  selected := selected_bareItem _
  data := Payload.AssertionMade.ofData_felts Payload.AssertionMade.counted?_zero rfl _ _
  readable := by
    obtain ⟨columns, hcolumns, _⟩ := exists_assertionColumns (madeAs assertionId) claimWords_plain
      concatenated_bare (dataId_bareItem _ _) domainId_plain expiration_plain bond_plain
      identifier_plain header context
    exact ⟨columns, hcolumns⟩

private theorem answers_disputeItem (assertionId : String) :
    Answers (disputeItem assertionId).event (.text assertionId) :=
  have hselected := Felt.same_of_writes writes_assertionDisputedSelector
    writes_assertionDisputedSelector
  @Answers.disputed _ ⟨.text assertionId, .text "0xca", .text "0xd1", .text "0x9"⟩ hselected rfl

/-- Events that write the caller and the assertion alike: the update names the inserted row,
although the number of the request is written differently. -/
theorem updates_name_inserts_alike :
    (Requests (requestItem "0x1") (requestOf "0x1") 1 ∧
      Changes (changeItem "0x1").event ⟨.text "0x1", .text "0x01", .text "0x2"⟩ 1 ∧
      ∃ row key changes,
        randomness ⟨7, .null, .null⟩ (requestItem "0x1") ⟨"net", ⟨none, none⟩⟩
          = .ok [.insert row] ∧
        randomness ⟨8, .null, .null⟩ (changeItem "0x1") ⟨"net", ⟨none, none⟩⟩
          = .ok [.update key changes] ∧ Columns.Names key row) ∧
    (Makes ⟨7, .null, .null⟩ (madeItem "0xa55") ⟨"net", ⟨none, none⟩⟩ (madeAs "0xa55") ∧
      Answers (disputeItem "0xa55").event (.text "0xa55") ∧
      ∃ row key changes,
        assertion ⟨7, .null, .null⟩ (madeItem "0xa55") ⟨"net", ⟨none, none⟩⟩
          = .ok [.insert row] ∧
        assertion ⟨8, .null, .null⟩ (disputeItem "0xa55") ⟨"net", ⟨none, none⟩⟩
          = .ok [.update key changes] ∧ Columns.Names key row) := by
  obtain ⟨hrandomness, hassertion⟩ := updates_name_inserts_iff ⟨7, .null, .null⟩
    ⟨8, .null, .null⟩ ⟨"net", ⟨none, none⟩⟩ ⟨"net", ⟨none, none⟩⟩
  have hrequest := requests_requestItem "0x1"
  have hchange := changes_changeItem "0x1"
  have hmade := makes_madeItem ⟨7, .null, .null⟩ ⟨"net", ⟨none, none⟩⟩ "0xa55"
  have hdispute := answers_disputeItem "0xa55"
  obtain ⟨row, key, changes, hinsert, hupdate, hnames⟩ := hrandomness hrequest hchange
  obtain ⟨row', key', changes', hinsert', hupdate', hnames'⟩ := hassertion hmade hdispute
  exact ⟨⟨hrequest, hchange, row, key, changes, hinsert, hupdate, hnames.mpr rfl⟩,
    ⟨hmade, hdispute, row', key', changes', hinsert', hupdate', hnames'.mpr rfl⟩⟩

/-- A zero in front of the caller or of the assertion's identifier does not change the felt, but the
update no longer names the row. -/
theorem update_misses_insert :
    (Felt.same (.text "0x1") (.text "0x01") = .ok true ∧
      Requests (requestItem "0x1") (requestOf "0x1") 1 ∧
      Changes (changeItem "0x01").event ⟨.text "0x01", .text "0x01", .text "0x2"⟩ 1 ∧
      ∃ row key changes,
        randomness ⟨7, .null, .null⟩ (requestItem "0x1") ⟨"net", ⟨none, none⟩⟩
          = .ok [.insert row] ∧
        randomness ⟨8, .null, .null⟩ (changeItem "0x01") ⟨"net", ⟨none, none⟩⟩
          = .ok [.update key changes] ∧ ¬ Columns.Names key row) ∧
    (Felt.same (.text "0xa55") (.text "0x0a55") = .ok true ∧
      Makes ⟨7, .null, .null⟩ (madeItem "0xa55") ⟨"net", ⟨none, none⟩⟩ (madeAs "0xa55") ∧
      Answers (disputeItem "0x0a55").event (.text "0x0a55") ∧
      ∃ row key changes,
        assertion ⟨7, .null, .null⟩ (madeItem "0xa55") ⟨"net", ⟨none, none⟩⟩
          = .ok [.insert row] ∧
        assertion ⟨8, .null, .null⟩ (disputeItem "0x0a55") ⟨"net", ⟨none, none⟩⟩
          = .ok [.update key changes] ∧ ¬ Columns.Names key row) := by
  have hrequest := requests_requestItem "0x1"
  have hchange := changes_changeItem "0x01"
  have hmade := makes_madeItem ⟨7, .null, .null⟩ ⟨"net", ⟨none, none⟩⟩ "0xa55"
  have hdispute := answers_disputeItem "0x0a55"
  obtain ⟨row, key, changes, hinsert, hupdate, hnames⟩ := changes_name_request_iff hrequest hchange
    ⟨7, .null, .null⟩ ⟨8, .null, .null⟩ ⟨"net", ⟨none, none⟩⟩ ⟨"net", ⟨none, none⟩⟩
  obtain ⟨row', key', changes', hinsert', hupdate', hnames'⟩ := answers_name_assertion_iff hmade
    hdispute ⟨8, .null, .null⟩ ⟨"net", ⟨none, none⟩⟩
  refine ⟨⟨rfl, hrequest, hchange, row, key, changes, hinsert, hupdate, ?_⟩,
    ⟨rfl, hmade, hdispute, row', key', changes', hinsert', hupdate', ?_⟩⟩
  · rw [hnames]
    simp [requestOf]
  · rw [hnames']
    simp [madeAs]

end Record

end OracleIndexer
