import OracleIndexer.Indexer.Run
import OracleIndexer.Proofs.Block.Reading
import OracleIndexer.Proofs.Record.Misfit
import OracleIndexer.Proofs.Settings.Addresses
set_option autoImplicit false

/-!
# Leaving failing events out

Where failing events may be left out, a batch is still refused for three kinds of events: the sender
of an event does not read as a felt, or the event comes from the contract and its selector does not
read, or the event is wanted and does not fit its mapping.  The first such event ends the work.  A
batch without one gives its outputs, whatever else fails in it.
-/

namespace OracleIndexer

namespace Indexer

/-! ## Selectors and contracts that read -/

theorem exists_value_ofName (name : String) :
    ∃ n, Felt.value (.text (Selector.ofName name)) = .ok n := by
  have hne : Text.Numeral.hex (Selector.number name) ≠ [] := Nat.toDigits_ne_nil
  obtain ⟨n, hn⟩ := Felt.ofText_of_marked hne (Text.allHex_toDigits _) (.inl rfl)
  rw [List.append_nil] at hn
  refine ⟨n, ?_⟩
  rw [Felt.value_text, Selector.ofName, String.toList_ofList, hn]

/-- The selectors of registered indexers are felts. -/
theorem exists_value_of_selector {indexer : Indexer} (h : indexer ∈ all) {selector : String}
    (hselector : selector ∈ indexer.selectors) : ∃ n, Felt.value (.text selector) = .ok n := by
  have hrows : ∀ name, selector ∈ [Selector.ofName name] →
      ∃ n, Felt.value (.text selector) = .ok n := by
    intro name hname
    rw [List.mem_singleton.mp hname]
    exact exists_value_ofName name
  simp only [all, List.mem_cons, List.not_mem_nil, or_false] at h
  rcases h with rfl | rfl | rfl | rfl | rfl | rfl
  · exact hrows _ hselector
  · exact hrows _ hselector
  · exact hrows _ hselector
  · exact hrows _ hselector
  · have haddresses : ∀ s ∈ randomnessRequests.selectors, Settings.isAddress s = true := by decide
    exact Settings.exists_value_of_isAddress (haddresses selector hselector)
  · have haddresses : ∀ s ∈ assertionRequests.selectors, Settings.isAddress s = true := by decide
    exact Settings.exists_value_of_isAddress (haddresses selector hselector)

theorem selectors_ne_nil {indexer : Indexer} (h : indexer ∈ all) : indexer.selectors ≠ [] := by
  simp only [all, List.mem_cons, List.not_mem_nil, or_false] at h
  rcases h with rfl | rfl | rfl | rfl | rfl | rfl <;> exact List.cons_ne_nil _ _

/-- Against felts that read, a comparison fails only for the felt itself. -/
theorem value_of_sameAsAny_eq_error {felt : Json} {selectors : List String} {fault : Fault}
    (hread : ∀ s ∈ selectors, ∃ n, Felt.value (.text s) = .ok n)
    (h : sameAsAny felt selectors = .error fault) : Felt.value felt = .error fault := by
  induction selectors with
  | nil => contradiction
  | cons s rest ih =>
    obtain ⟨⟨n, hn⟩, hrest⟩ := List.forall_mem_cons.mp hread
    rcases Outcome.bind_eq_error_iff.mp h with hsame | ⟨same, _, hmore⟩
    · exact (Felt.same_eq_error_iff hn (by simp)).mp hsame
    · cases same with
      | true => contradiction
      | false => exact ih hrest hmore

theorem sameAsAny_eq_error_iff {felt : Json} {selectors : List String} {fault : Fault}
    (hne : selectors ≠ []) (hread : ∀ s ∈ selectors, ∃ n, Felt.value (.text s) = .ok n) :
    sameAsAny felt selectors = .error fault ↔ Felt.value felt = .error fault := by
  refine ⟨value_of_sameAsAny_eq_error hread, ?_⟩
  intro h
  cases selectors with
  | nil => exact absurd rfl hne
  | cons s rest =>
    obtain ⟨n, hn⟩ := hread s List.mem_cons_self
    refine Outcome.bind_eq_error_iff.mpr (.inl ?_)
    exact (Felt.same_eq_error_iff hn (by simp)).mpr h

/-- Whether an event is wanted cannot be told if its sender does not read, or if it comes from the
contract and its selector does not read. -/
theorem wants_eq_error_iff {indexer : Indexer} (hindexer : indexer ∈ all) {contract : String}
    {n : Int} (hcontract : Felt.value (.text contract) = .ok n) {event : Block.Event}
    {fault : Fault} :
    indexer.wants event (.text contract) = .error fault ↔
      Felt.value event.fromAddress = .error fault ∨
        (Felt.same event.fromAddress (.text contract) = .ok true ∧
          Felt.value event.selector = .error fault) := by
  rw [wants, Outcome.bind_eq_error_iff, Felt.same_eq_error_iff hcontract (by simp)]
  constructor
  · rintro (hsender | ⟨same, hsame, hselector⟩)
    · exact .inl hsender
    · cases same with
      | true =>
        exact .inr ⟨hsame,
          value_of_sameAsAny_eq_error (fun s hs => exists_value_of_selector hindexer hs) hselector⟩
      | false => cases hselector
  · rintro (hsender | ⟨hsame, hselector⟩)
    · exact .inl hsender
    · refine .inr ⟨true, hsame, ?_⟩
      exact (sameAsAny_eq_error_iff (selectors_ne_nil hindexer)
        fun s hs => exists_value_of_selector hindexer hs).mpr hselector

/-! ## One event -/

/-- The events that a batch is refused for, with the fault that is met. -/
inductive Escapes (indexer : Indexer) (contract : Json) (item : Block.Item) : Fault → Prop
  /-- the sender does not read -/
  | sender {fault : Fault} (unread : Felt.value item.event.fromAddress = .error fault) :
    Escapes indexer contract item fault
  /-- the event is the contract's, and its selector does not read -/
  | selector {fault : Fault} (sent : Felt.same item.event.fromAddress contract = .ok true)
      (unread : Felt.value item.event.selector = .error fault) :
    Escapes indexer contract item fault
  /-- the event is wanted and does not fit -/
  | misfit (wanted : indexer.wants item.event contract = .ok true)
      (misfit : Record.Misfit item indexer.mapping) : Escapes indexer contract item .wrongKind

/-- None of some events escapes. -/
def NoneEscapes (indexer : Indexer) (contract : Json) (items : List Block.Item) : Prop :=
  ∀ item ∈ items, ∀ fault, ¬ indexer.Escapes contract item fault

/-- The fault of the first of some events that escapes. -/
inductive FirstEscape (indexer : Indexer) (contract : Json) (items : List Block.Item)
    (fault : Fault) : Prop
  | found {front back : List Block.Item} {item : Block.Item}
      (items_eq : items = front ++ item :: back) (earlier : indexer.NoneEscapes contract front)
      (escapes : indexer.Escapes contract item fault)

/-- The outputs of an event that is wanted and does not fail; other events have none. -/
def kept (indexer : Indexer) (context : Record.Context) (contract : Json) (header : Block.Header)
    (item : Block.Item) : List Output :=
  match indexer.wants item.event contract, indexer.mapping.outputs header item context with
  | .ok true, .ok outputs => outputs
  | _, _ => []

/-- The note on an event that is wanted and fails. -/
def leftOut (indexer : Indexer) (context : Record.Context) (contract : Json)
    (header : Block.Header) (item : Block.Item) : List Note :=
  match indexer.wants item.event contract, indexer.mapping.outputs header item context with
  | .ok true, .error fault => [.skipped indexer.name item header.number fault]
  | _, _ => []

theorem skips_notes (mapping : Mapping) (item : Block.Item) (context : Record.Context) :
    (mapping.notes item context).filter Note.isSkip = [] := by
  rw [List.filter_eq_nil_iff]
  intro note hnote
  rw [Mapping.notes.eq_def] at hnote
  split at hnote
  · split at hnote
    · contradiction
    · rcases List.mem_cons.mp hnote with rfl | hnote
      · exact Bool.false_ne_true
      · split at hnote
        · contradiction
        · obtain ⟨remark, _, rfl⟩ := List.mem_map.mp hnote
          exact Bool.false_ne_true
  · contradiction

section

variable {indexer : Indexer} {context : Record.Context} {contract : String} {header : Block.Header}

theorem mapItem_of_ok {skipFailed : Bool} {item : Block.Item} {outputs : List Output}
    (h : indexer.mapping.outputs header item context = .ok outputs) :
    indexer.mapItem context skipFailed header item
      = ⟨indexer.mapping.notes item context, .ok outputs⟩ := by
  rw [mapItem, h]

theorem mapItem_of_skippable {item : Block.Item} {fault : Fault}
    (h : indexer.mapping.outputs header item context = .error fault)
    (hfault : fault.isSkippable = true) :
    indexer.mapItem context true header item
      = ⟨indexer.mapping.notes item context
          ++ [.skipped indexer.name item header.number fault], .ok []⟩ := by
  rw [mapItem, h]
  simp only [hfault, Bool.and_self, if_true]

theorem mapItem_of_misfit {skipFailed : Bool} {item : Block.Item}
    (h : Record.Misfit item indexer.mapping) :
    (indexer.mapItem context skipFailed header item).result = .error .wrongKind := by
  have houtputs : indexer.mapping.outputs header item context = .error .wrongKind :=
    Record.outputs_eq_wrongKind_iff.mpr h
  rw [mapItem, houtputs]
  cases skipFailed <;> rfl

variable {n : Int}

theorem transformItem_of_escapes (hindexer : indexer ∈ all)
    (hcontract : Felt.value (.text contract) = .ok n) {item : Block.Item} {fault : Fault}
    (h : indexer.Escapes (.text contract) item fault) :
    (indexer.transformItem context (some (.text contract)) true header item).result
      = .error fault := by
  have hwants : ∀ other, indexer.wants item.event (.text contract) = .error other →
      (indexer.transformItem context (some (.text contract)) true header item).result
        = .error other := by
    intro other hother
    rw [transformItem, wantsItem, hother]
  cases h with
  | sender unread => exact hwants _ ((wants_eq_error_iff hindexer hcontract).mpr (.inl unread))
  | selector sent unread =>
    exact hwants _ ((wants_eq_error_iff hindexer hcontract).mpr (.inr ⟨sent, unread⟩))
  | misfit wanted misfit =>
    rw [transformItem, wantsItem, wanted]
    exact mapItem_of_misfit misfit

theorem transformItem_of_not_escapes (hindexer : indexer ∈ all)
    (hcontract : Felt.value (.text contract) = .ok n) {item : Block.Item}
    (h : ∀ fault, ¬ indexer.Escapes (.text contract) item fault) :
    (indexer.transformItem context (some (.text contract)) true header item).result
        = .ok (indexer.kept context (.text contract) header item) ∧
      (indexer.transformItem context (some (.text contract)) true header item).skips
        = indexer.leftOut context (.text contract) header item := by
  rw [transformItem, wantsItem, kept, leftOut]
  cases hwants : indexer.wants item.event (.text contract) with
  | error fault =>
    rcases (wants_eq_error_iff hindexer hcontract).mp hwants with hsender | ⟨hsent, hselector⟩
    · exact absurd (.sender hsender) (h fault)
    · exact absurd (.selector hsent hselector) (h fault)
  | ok wanted =>
    cases wanted with
    | false => exact ⟨rfl, rfl⟩
    | true =>
      cases houtputs : indexer.mapping.outputs header item context with
      | ok outputs =>
        simp only [mapItem_of_ok houtputs]
        exact ⟨trivial, skips_notes indexer.mapping item context⟩
      | error fault =>
        have hskip : fault.isSkippable = true := by
          by_contra hnot
          obtain ⟨_, hmisfit⟩ :=
            (Record.outputs_eq_error_iff (Bool.eq_false_of_not_eq_true hnot)).mp houtputs
          exact h _ (.misfit hwants hmisfit)
        simp only [mapItem_of_skippable houtputs hskip]
        refine ⟨trivial, ?_⟩
        rw [Noted.skips, List.filter_append, skips_notes]
        rfl

/-! ## All events -/

/-- Events in front of one that escapes do not keep the work from ending there. -/
theorem transformItems_of_escapes (hindexer : indexer ∈ all)
    (hcontract : Felt.value (.text contract) = .ok n) {front back : List Block.Item}
    {item : Block.Item} {fault : Fault}
    (hfront : indexer.NoneEscapes (.text contract) front)
    (h : indexer.Escapes (.text contract) item fault) :
    (indexer.transformItems context (some (.text contract)) true header
      (front ++ item :: back)).result = .error fault := by
  induction front with
  | nil =>
    rw [List.nil_append, transformItems,
      Noted.bind_of_error (transformItem_of_escapes hindexer hcontract h)]
  | cons first rest ih =>
    obtain ⟨hfirst, hrest⟩ := List.forall_mem_cons.mp hfront
    obtain ⟨hresult, _⟩ := transformItem_of_not_escapes hindexer hcontract hfirst
    rw [List.cons_append, transformItems, Noted.bind_of_ok hresult,
      Noted.bind_of_error (ih hrest)]

theorem transformItems_of_not_escapes (hindexer : indexer ∈ all)
    (hcontract : Felt.value (.text contract) = .ok n) {items : List Block.Item}
    (h : indexer.NoneEscapes (.text contract) items) :
    (indexer.transformItems context (some (.text contract)) true header items).result
        = .ok (items.flatMap (indexer.kept context (.text contract) header)) ∧
      (indexer.transformItems context (some (.text contract)) true header items).skips
        = items.flatMap (indexer.leftOut context (.text contract) header) := by
  induction items with
  | nil => exact ⟨rfl, rfl⟩
  | cons first rest ih =>
    obtain ⟨hfirst, hrest⟩ := List.forall_mem_cons.mp h
    obtain ⟨hresult, hskips⟩ := transformItem_of_not_escapes hindexer hcontract hfirst
    obtain ⟨hmore, hmoreSkips⟩ := ih hrest
    rw [transformItems, Noted.bind_of_ok hresult, Noted.bind_of_ok hmore, List.flatMap_cons,
      List.flatMap_cons, ← hskips, ← hmoreSkips]
    refine ⟨rfl, ?_⟩
    simp only [Noted.skips, Noted.pure_notes, List.append_nil, List.filter_append]

end

/-- Either no event escapes or there is a first one. -/
theorem noneEscapes_or_firstEscape (indexer : Indexer) (contract : Json)
    (items : List Block.Item) :
    indexer.NoneEscapes contract items ∨ ∃ fault, indexer.FirstEscape contract items fault := by
  induction items with
  | nil => exact .inl (fun item hitem => absurd hitem List.not_mem_nil)
  | cons first rest ih =>
    by_cases hfirst : ∃ fault, indexer.Escapes contract first fault
    · obtain ⟨fault, hfault⟩ := hfirst
      exact .inr ⟨fault, .found rfl (fun item hitem => absurd hitem List.not_mem_nil) hfault⟩
    · have hnone : ∀ fault, ¬ indexer.Escapes contract first fault :=
        fun fault hfault => hfirst ⟨fault, hfault⟩
      rcases ih with hrest | ⟨fault, items_eq, hfront, hfault⟩
      · exact .inl (List.forall_mem_cons.mpr ⟨hnone, hrest⟩)
      · subst items_eq
        exact .inr ⟨fault, .found rfl (List.forall_mem_cons.mpr ⟨hnone, hfront⟩) hfault⟩

/-- A run under settings whose contract is known works on the events of the batch. -/
theorem runBatch_eq_transformItems {indexer : Indexer} {settings : Settings} {contract : String}
    {document : Json} {batch : Block.Batch}
    (hcontract : settings.contract indexer.role = .ok contract)
    (hbatch : Block.Batch.ofDocument document = .ok batch) :
    indexer.runBatch document settings
      = indexer.transformItems settings.context (some (.text contract)) settings.skipFailed
          batch.header batch.items := by
  rw [runBatch, hcontract, Noted.bind_of_ok rfl, transform, hbatch, Noted.bind_of_ok rfl]
  rfl

/-- With failing events left out, a run gives the outputs of all events that do not fail, and notes
those that do, exactly if no event escapes.  Otherwise it is refused for the first one that does. -/
theorem runBatch_of_skipFailed {indexer : Indexer} (hindexer : indexer ∈ all) {value : Yaml.Value}
    {settings : Settings} (hsettings : Settings.ofValue value = .ok settings)
    (hskip : settings.skipFailed = true) {contract : String}
    (hcontract : settings.contract indexer.role = .ok contract) {document : Json}
    {batch : Block.Batch} (hbatch : Block.Batch.ofDocument document = .ok batch) :
    ((∃ outputs, (indexer.runBatch document settings).result = .ok outputs) ↔
      indexer.NoneEscapes (.text contract) batch.items) ∧
    (indexer.NoneEscapes (.text contract) batch.items →
      (indexer.runBatch document settings).result = .ok (batch.items.flatMap
        (indexer.kept settings.context (.text contract) batch.header)) ∧
      (indexer.runBatch document settings).skips = batch.items.flatMap
        (indexer.leftOut settings.context (.text contract) batch.header)) ∧
    ∀ fault, (indexer.runBatch document settings).result = .error fault ↔
      indexer.FirstEscape (.text contract) batch.items fault := by
  obtain ⟨n, hn⟩ :=
    Settings.exists_value_of_isAddress (Settings.isAddress_of_contract hsettings hcontract)
  rw [runBatch_eq_transformItems hcontract hbatch, hskip]
  have hreturns : indexer.NoneEscapes (.text contract) batch.items →
      (indexer.transformItems settings.context (some (.text contract)) true batch.header
          batch.items).result = .ok (batch.items.flatMap
            (indexer.kept settings.context (.text contract) batch.header)) ∧
      (indexer.transformItems settings.context (some (.text contract)) true batch.header
          batch.items).skips = batch.items.flatMap
            (indexer.leftOut settings.context (.text contract) batch.header) :=
    transformItems_of_not_escapes hindexer hn
  have hrefused : ∀ fault, indexer.FirstEscape (.text contract) batch.items fault →
      (indexer.transformItems settings.context (some (.text contract)) true batch.header
        batch.items).result = .error fault := by
    rintro fault ⟨items_eq, hfront, hfault⟩
    rw [items_eq]
    exact transformItems_of_escapes hindexer hn hfront hfault
  refine ⟨⟨?_, fun h => ⟨_, (hreturns h).1⟩⟩, hreturns, fun fault => ⟨?_, hrefused fault⟩⟩
  · rintro ⟨outputs, houtputs⟩
    rcases noneEscapes_or_firstEscape indexer (.text contract) batch.items with h | ⟨fault, h⟩
    · exact h
    · rw [hrefused fault h] at houtputs
      cases houtputs
  · intro hfault
    rcases noneEscapes_or_firstEscape indexer (.text contract) batch.items with h | ⟨other, h⟩
    · rw [(hreturns h).1] at hfault
      cases hfault
    · rw [hrefused other h] at hfault
      obtain rfl := Except.error.inj hfault
      exact h

/-- Settings that leave failing events out and have a contract for requests, as a document. -/
def requestsDocument : Json :=
  .object [("network", .text "net"), ("skip_failed_events", .bool true),
    ("deployments", .object [("net", .object [("vrf", .text "0xC0")])])]

/-- The settings of the document. -/
def requestsSettings : Settings where
  network := "net"
  skipFailed := true
  sizeTable := .assetClassGated
  countRadix := .decimal
  deployments := [("net", ⟨fun role => (List.lookup role
    [(.oracle, none), (.checkpointOracle, none), (.futureOracle, none), (.vrf, some "0xC0"),
      (.oracleAssertions, none), (.mailbox, none)]).join⟩)]

/-- A batch of one request for random words that lacks its data, as a document. -/
private def requestDocument (sender : String) : Json :=
  Block.batchDocument 7 [Block.eventDocument sender Record.randomnessRequestSelector []]

/-- The request of the document. -/
private def requestItem (sender : String) : Block.Item where
  event := ⟨.text sender, [.text Record.randomnessRequestSelector], [], 0⟩
  transactionHash := .null
  senderAddress := .null

/-- A request without data is left out when it comes from the contract; when its sender does not
read, the batch is refused. -/
theorem runBatch_emptyRequest :
    Settings.ofJson requestsDocument = .ok requestsSettings ∧
    (randomnessRequests.runBatch (requestDocument "0x0c0") requestsSettings).result = .ok [] ∧
    (randomnessRequests.runBatch (requestDocument "0x0c0") requestsSettings).skips
      = [.skipped "vrf-requests" (requestItem "0x0c0") 7
          (.layout (.short "RandomnessRequest" 7 0))] ∧
    (randomnessRequests.runBatch (requestDocument "zz") requestsSettings).result
      = .error (.value (.notNumeral 10 "zz")) := by
  have hindexer : randomnessRequests ∈ all := by simp [all]
  have hsettings : Settings.ofValue (.ofJson requestsDocument) = .ok requestsSettings := rfl
  have hcontract : requestsSettings.contract randomnessRequests.role = .ok "0xC0" := rfl
  have hread : Block.Batch.ofDocument (requestDocument "0x0c0")
      = .ok ⟨⟨7, .null, .null⟩, [requestItem "0x0c0"]⟩ := rfl
  have hunread : Block.Batch.ofDocument (requestDocument "zz")
      = .ok ⟨⟨7, .null, .null⟩, [requestItem "zz"]⟩ := rfl
  obtain ⟨_, hreturns, _⟩ := runBatch_of_skipFailed hindexer hsettings rfl hcontract hread
  obtain ⟨_, _, hrefused⟩ := runBatch_of_skipFailed hindexer hsettings rfl hcontract hunread
  have hnone : randomnessRequests.NoneEscapes (.text "0xC0") [requestItem "0x0c0"] := by
    intro item hitem fault hescapes
    rw [List.mem_singleton.mp hitem] at hescapes
    cases hescapes with
    | sender unread => cases unread
    | selector sent unread => cases unread
    | misfit wanted misfit => cases misfit
  have hfirst : randomnessRequests.FirstEscape (.text "0xC0") [requestItem "zz"]
      (.value (.notNumeral 10 "zz")) :=
    .found (List.nil_append _).symm (fun item hitem => absurd hitem List.not_mem_nil) (.sender rfl)
  obtain ⟨hresult, hskips⟩ := hreturns hnone
  exact ⟨rfl, hresult, hskips, (hrefused _).mpr hfirst⟩

/-- Not all batches of texts give outputs when failing events are left out. -/
theorem runBatch_refused_despite_skipFailed :
    Settings.ofJson requestsDocument = .ok requestsSettings ∧
    requestsSettings.skipFailed = true ∧
    requestsSettings.contract randomnessRequests.role = .ok "0xC0" ∧
    Block.Batch.ofDocument (requestDocument "zz") = .ok ⟨⟨7, .null, .null⟩, [requestItem "zz"]⟩ ∧
    ¬ ∃ outputs,
      (randomnessRequests.runBatch (requestDocument "zz") requestsSettings).result
        = .ok outputs := by
  refine ⟨rfl, rfl, rfl, rfl, ?_⟩
  rintro ⟨outputs, houtputs⟩
  cases houtputs

end Indexer

end OracleIndexer
