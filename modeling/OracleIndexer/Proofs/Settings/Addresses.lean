import OracleIndexer.Proofs.Felt.Reading
import OracleIndexer.Proofs.Json.Members
import OracleIndexer.Proofs.Word256.Texts
import OracleIndexer.Settings.Validation
set_option autoImplicit false

/-!
# Addresses in settings

Settings that validate hold as contracts what stands in their document, under the names of the roles
in the last deployment of each name, and this has been checked to be an address.  An address always
reads as a felt.
-/

namespace OracleIndexer

/-! ## Values that validate -/

namespace Validated

variable {α β ι : Type}

theorem both_eq_ok_iff {first : Validated α} {second : Validated β} {a : α} {b : β} :
    first.both second = .ok (a, b) ↔ first = .ok a ∧ second = .ok b := by
  cases first <;> cases second <;> simp [both]

theorem under_eq_ok_iff {key : String} {value : Validated α} {a : α} :
    under key value = .ok a ↔ value = .ok a := Outcome.mapError_eq_ok_iff

/-- What has been read of some items was read of each in turn. -/
theorem each_eq_ok_iff {read : ι → Validated α} {items : List ι} {done : List α} :
    each read items = .ok done ↔ items.map read = done.map .ok := by
  induction items generalizing done with
  | nil => cases done <;> simp [each]
  | cons item rest ih =>
    rw [each, Outcome.map_eq_ok_iff]
    constructor
    · rintro ⟨⟨first, more⟩, hboth, rfl⟩
      obtain ⟨hfirst, hmore⟩ := both_eq_ok_iff.mp hboth
      rw [List.map_cons, List.map_cons, hfirst, ih.mp hmore]
    · intro h
      obtain ⟨first, more, rfl, hfirst, hmore⟩ := List.map_eq_cons_iff.mp h.symm
      exact ⟨(first, more), both_eq_ok_iff.mpr ⟨hfirst.symm, ih.mpr hmore.symm⟩, rfl⟩

section

variable {read : ι → Validated α}

theorem exists_of_mem_each {items : List ι} {done : List α} (h : each read items = .ok done) {a : α}
    (ha : a ∈ done) : ∃ item ∈ items, read item = .ok a := by
  have hmem : Except.ok a ∈ items.map read := by
    rw [each_eq_ok_iff.mp h]
    exact List.mem_map_of_mem ha
  exact List.mem_map.mp hmem

theorem exists_mem_of_each {items : List ι} {done : List α} (h : each read items = .ok done)
    {item : ι} (hitem : item ∈ items) : ∃ a ∈ done, read item = .ok a := by
  have hmem : read item ∈ done.map Except.ok := by
    rw [← each_eq_ok_iff.mp h]
    exact List.mem_map_of_mem hitem
  obtain ⟨a, ha, hread⟩ := List.mem_map.mp hmem
  exact ⟨a, ha, hread.symm⟩

/-- At the place of a value stands the item that it was read of. -/
theorem items_of_each {items : List ι} {front back : List α} {a : α}
    (h : each read items = .ok (front ++ a :: back)) :
    ∃ before item after, items = before ++ item :: after ∧ read item = .ok a ∧
      each read after = .ok back := by
  rw [each_eq_ok_iff, List.map_append, List.map_cons] at h
  obtain ⟨before, rest, rfl, _, hrest⟩ := List.map_eq_append_iff.mp h
  obtain ⟨item, after, rfl, hread, hafter⟩ := List.map_eq_cons_iff.mp hrest
  exact ⟨before, item, after, rfl, hread, each_eq_ok_iff.mpr hafter⟩

/-- At the place of an item stands what was read of it. -/
theorem values_of_each {before after : List ι} {item : ι} {done : List α}
    (h : each read (before ++ item :: after) = .ok done) :
    ∃ front a back, done = front ++ a :: back ∧ read item = .ok a ∧ each read after = .ok back := by
  rw [each_eq_ok_iff, List.map_append, List.map_cons] at h
  obtain ⟨front, rest, rfl, _, hrest⟩ := List.map_eq_append_iff.mp h.symm
  obtain ⟨a, back, rfl, hread, hback⟩ := List.map_eq_cons_iff.mp hrest
  exact ⟨front, a, back, rfl, hread.symm, each_eq_ok_iff.mpr hback.symm⟩

end

/-- What has been read for a key is found under it. -/
theorem lookup_of_each [BEq ι] [LawfulBEq ι] {read : ι → Validated α} {keys : List ι}
    {done : List (ι × α)}
    (h : each (fun key => (read key).map fun a => (key, a)) keys = .ok done) {key : ι}
    (hkey : key ∈ keys) : ∃ a, done.lookup key = some a ∧ read key = .ok a := by
  induction keys generalizing done with
  | nil => contradiction
  | cons first rest ih =>
    obtain ⟨entry, more, rfl, hentry, hmore⟩ := List.map_eq_cons_iff.mp (each_eq_ok_iff.mp h).symm
    obtain ⟨a, hread, rfl⟩ := Outcome.map_eq_ok_iff.mp hentry.symm
    by_cases hsame : key = first
    · subst hsame
      exact ⟨a, List.lookup_cons_self, hread⟩
    · rw [List.lookup_cons, beq_eq_false_iff_ne.mpr hsame]
      exact ih (each_eq_ok_iff.mpr hmore.symm) ((List.mem_cons.mp hkey).resolve_left hsame)

end Validated

/-! ## Contracts -/

namespace Settings

open Yaml (Value)
open Validated (both_eq_ok_iff under_eq_ok_iff lookup_of_each exists_of_mem_each
  exists_mem_of_each items_of_each values_of_each)

/-- A value is read under its key, or else is the one for an absent key. -/
theorem field_eq_ok_iff {α : Type} {entries : List (Value × Value)} {key : String} {default a : α}
    {read : Value → Validated α} :
    field entries key default read = .ok a ↔
      (Value.entry? key entries = none ∧ a = default) ∨
        ∃ value, Value.entry? key entries = some value ∧ read value = .ok a := by
  rw [field]
  cases Value.entry? key entries with
  | none => simp [eq_comm]
  | some value => simp [under_eq_ok_iff]

theorem addressOf_eq_ok_iff {s : String} {address : Option String} :
    addressOf s = .ok address ↔ address = some s ∧ isAddress s = true := by
  rw [addressOf]
  split
  · rename_i hchecked
    rw [Except.ok.injEq]
    exact ⟨fun h => ⟨h.symm, hchecked⟩, fun h => h.1.symm⟩
  · rename_i hchecked
    exact ⟨fun h => absurd h (by simp [Validated.broken]), fun h => absurd h.2 hchecked⟩

theorem readAddress_of_readText {value : Value} {s : String} (h : readText value = .ok s) :
    readAddress value = addressOf s := by
  rw [readAddress.eq_def]
  split
  · contradiction
  · rw [h]
    rfl

theorem readText_of_readAddress {value : Value} {s : String}
    (h : readAddress value = .ok (some s)) : readText value = .ok s ∧ isAddress s = true := by
  rw [readAddress.eq_def] at h
  split at h
  · cases h
  · obtain ⟨read, hread, haddress⟩ := Outcome.bind_eq_ok_iff.mp h
    obtain ⟨hsame, hchecked⟩ := addressOf_eq_ok_iff.mp haddress
    obtain rfl := Option.some.inj hsame
    exact ⟨hread, hchecked⟩

/-- The contract in a role is what is read under the name of the role. -/
theorem field_of_readDeployment {value : Value} {deployment : Deployment}
    (h : readDeployment value = .ok deployment) :
    ∃ fields, value = .mapping fields ∧
      ∀ role, field fields (Role.name role) none readAddress = .ok (deployment.address role) := by
  rw [readDeployment.eq_def] at h
  split at h
  · rename_i fields
    obtain ⟨addresses, heach, rfl⟩ := Outcome.map_eq_ok_iff.mp h
    refine ⟨fields, rfl, ?_⟩
    intro role
    have hrole : role ∈ Role.all := by cases role <;> decide
    obtain ⟨address, hlookup, hread⟩ := lookup_of_each heach hrole
    show field fields role.name none readAddress = .ok (addresses.lookup role).join
    rw [hread, hlookup, Option.join_some]
  · contradiction

/-- Of the deployments with one name the last is kept. -/
theorem lookup_byName (deployments : List (String × Deployment)) (name : String) :
    (byName deployments).lookup name = deployments.reverse.lookup name := by
  have hfold : ∀ done : List (String × Deployment),
      (deployments.foldl (fun done e => Json.putMember e.1 e.2 done) done).lookup name
        = (deployments.reverse.lookup name).or (done.lookup name) := by
    induction deployments with
    | nil => exact fun done => rfl
    | cons first rest ih =>
      intro done
      rw [List.foldl_cons, ih, Json.lookup_putMember, List.reverse_cons, List.lookup_append,
        Option.or_assoc, Json.lookup_cons_eq_ite]
      split <;> rfl
  rw [byName, hfold, List.lookup_nil, Option.or_none]

theorem lookup_byName_eq_some_iff {deployments : List (String × Deployment)} {name : String}
    {deployment : Deployment} :
    (byName deployments).lookup name = some deployment ↔
      ∃ front back, deployments = front ++ (name, deployment) :: back ∧
        ∀ later ∈ back, later.1 ≠ name := by
  rw [lookup_byName, List.lookup_eq_some_iff]
  constructor
  · rintro ⟨back, front, hsplit, hlast⟩
    refine ⟨front.reverse, back.reverse, ?_, ?_⟩
    · rw [← List.reverse_reverse deployments, hsplit, List.reverse_append, List.reverse_cons,
        List.append_assoc, List.singleton_append]
    · intro later hlater
      exact Ne.symm (bne_iff_ne.mp (hlast later (List.mem_reverse.mp hlater)))
  · rintro ⟨front, back, rfl, hlast⟩
    refine ⟨back.reverse, front.reverse, ?_, ?_⟩
    · rw [List.reverse_append, List.reverse_cons, List.append_assoc, List.singleton_append]
    · intro later hlater
      exact bne_iff_ne.mpr (Ne.symm (hlast later (List.mem_reverse.mp hlater)))

theorem readNamedDeployment_eq_ok_iff {entry : Value × Value} {name : String}
    {deployment : Deployment} :
    readNamedDeployment entry = .ok (name, deployment) ↔
      readText entry.1 = .ok name ∧ readDeployment entry.2 = .ok deployment := by
  rw [readNamedDeployment, under_eq_ok_iff, both_eq_ok_iff, under_eq_ok_iff]

/-- The deployment with a name is the one that stands last under it. -/
theorem lookup_of_readDeployments {named : List (Value × Value)}
    {deployments : List (String × Deployment)}
    (h : readDeployments (.mapping named) = .ok deployments) {name : String}
    {deployment : Deployment} :
    deployments.lookup name = some deployment ↔
      ∃ before key value after, named = before ++ (key, value) :: after ∧
        readText key = .ok name ∧ (∀ later ∈ after, readText later.1 ≠ .ok name) ∧
        readDeployment value = .ok deployment := by
  obtain ⟨done, heach, rfl⟩ := Outcome.map_eq_ok_iff.mp h
  rw [lookup_byName_eq_some_iff]
  constructor
  · rintro ⟨front, back, rfl, hlast⟩
    obtain ⟨before, ⟨key, value⟩, after, rfl, hread, hafter⟩ := items_of_each heach
    obtain ⟨hkey, hvalue⟩ := readNamedDeployment_eq_ok_iff.mp hread
    refine ⟨before, key, value, after, rfl, hkey, ?_, hvalue⟩
    intro later hlater hsame
    obtain ⟨result, hresult, hlaterRead⟩ := exists_mem_of_each hafter hlater
    have hname := (readNamedDeployment_eq_ok_iff.mp hlaterRead).1
    exact hlast result hresult (Except.ok.inj (hname.symm.trans hsame))
  · rintro ⟨before, key, value, after, rfl, hkey, hlast, hvalue⟩
    obtain ⟨front, result, back, rfl, hread, hback⟩ := values_of_each heach
    rw [readNamedDeployment_eq_ok_iff.mpr ⟨hkey, hvalue⟩] at hread
    obtain rfl := Except.ok.inj hread
    refine ⟨front, back, rfl, ?_⟩
    rintro ⟨other, kept⟩ hmem rfl
    obtain ⟨later, hlater, hlaterRead⟩ := exists_of_mem_each hback hmem
    exact hlast later hlater (readNamedDeployment_eq_ok_iff.mp hlaterRead).1

theorem exists_of_mem_deployments {named : List (Value × Value)}
    {deployments : List (String × Deployment)}
    (h : readDeployments (.mapping named) = .ok deployments) {key value : Value}
    (hmem : (key, value) ∈ named) : ∃ deployment, readDeployment value = .ok deployment := by
  obtain ⟨done, heach, _⟩ := Outcome.map_eq_ok_iff.mp h
  obtain ⟨result, _, hread⟩ := exists_mem_of_each heach hmem
  exact ⟨result.2, (readNamedDeployment_eq_ok_iff.mp hread).2⟩

/-- The contract that settings hold in a role of the deployment with a name. -/
def addressAt (settings : Settings) (name : String) (role : Role) : Option String :=
  (settings.deployments.lookup name).bind fun deployment => deployment.address role

theorem contract_eq_ok_iff {settings : Settings} {role : Role} {s : String} :
    settings.contract role = .ok s ↔ settings.addressAt settings.network role = some s := by
  rw [contract, contractOf, deployment, addressAt]
  cases settings.deployments.lookup settings.network with
  | none => simp
  | some deployment => cases haddress : deployment.address role <;> simp [haddress]

/-- Settings that validate were read from a mapping, their deployments under the key of these. -/
theorem field_of_ofValue {document : Value} {settings : Settings}
    (h : ofValue document = .ok settings) :
    ∃ entries, document = .mapping entries ∧
      field entries "deployments" [] readDeployments = .ok settings.deployments := by
  rw [ofValue] at h
  split at h
  · rename_i hread
    obtain rfl := Except.ok.inj h
    rw [read.eq_def] at hread
    split at hread
    · obtain ⟨⟨first, codec, deployments⟩, hboth, rfl⟩ := Outcome.map_eq_ok_iff.mp hread
      obtain ⟨_, hsecond⟩ := both_eq_ok_iff.mp hboth
      exact ⟨_, rfl, (both_eq_ok_iff.mp hsecond).2⟩
    · contradiction
  · contradiction

/-- A document gives a text as the contract in a role of the deployment with a name.  Of several
deployments with one name it gives the last. -/
inductive Gives (name : String) (role : Role) (s : String) : Value → Prop
  | contract {entries before after fields : List (Value × Value)} {key value : Value}
      (deployments : Value.entry? "deployments" entries
        = some (.mapping (before ++ (key, .mapping fields) :: after)))
      (named : readText key = .ok name) (last : ∀ later ∈ after, readText later.1 ≠ .ok name)
      (held : Value.entry? role.name fields = some value) (text : readText value = .ok s) :
      Gives name role s (.mapping entries)

section

variable {document : Value} {settings : Settings} {name : String} {role : Role} {s : String}

/-- A contract in settings that validate is given by their document, and was checked. -/
theorem gives_of_addressAt (h : ofValue document = .ok settings)
    (hs : settings.addressAt name role = some s) :
    Gives name role s document ∧ isAddress s = true := by
  obtain ⟨deployment, hdeployment, haddress⟩ := Option.bind_eq_some_iff.mp hs
  obtain ⟨entries, rfl, hfield⟩ := field_of_ofValue h
  rcases field_eq_ok_iff.mp hfield with ⟨_, hnone⟩ | ⟨value, hentry, hread⟩
  · rw [hnone] at hdeployment
    contradiction
  · cases value with
    | mapping named =>
      obtain ⟨before, key, value, after, rfl, hkey, hlast, hvalue⟩ :=
        (lookup_of_readDeployments hread).mp hdeployment
      obtain ⟨fields, rfl, hfields⟩ := field_of_readDeployment hvalue
      have hrole := hfields role
      rw [haddress] at hrole
      rcases field_eq_ok_iff.mp hrole with ⟨_, habsent⟩ | ⟨held, hheld, hreadHeld⟩
      · contradiction
      · obtain ⟨htext, hchecked⟩ := readText_of_readAddress hreadHeld
        exact ⟨.contract hentry hkey hlast hheld htext, hchecked⟩
    | _ => contradiction

/-- What a document gives as a contract the settings read from it hold. -/
theorem addressAt_of_gives (h : ofValue document = .ok settings)
    (hgives : Gives name role s document) : settings.addressAt name role = some s := by
  obtain ⟨entries, rfl, hfield⟩ := field_of_ofValue h
  cases hgives with
  | contract deployments named last held text =>
    rcases field_eq_ok_iff.mp hfield with ⟨habsent, _⟩ | ⟨value, hentry, hread⟩
    · rw [habsent] at deployments
      contradiction
    · obtain rfl := Option.some.inj (hentry.symm.trans deployments)
      obtain ⟨deployment, hdeployment⟩ := exists_of_mem_deployments hread
        (List.mem_append_right _ List.mem_cons_self)
      have hlookup := (lookup_of_readDeployments hread).mpr
        ⟨_, _, _, _, rfl, named, last, hdeployment⟩
      obtain ⟨fields, hfields, hroles⟩ := field_of_readDeployment hdeployment
      obtain rfl := Value.mapping.inj hfields
      rw [addressAt, hlookup, Option.bind_some]
      rcases field_eq_ok_iff.mp (hroles role) with ⟨habsent, _⟩ | ⟨value, hvalue, haddress⟩
      · rw [habsent] at held
        contradiction
      · obtain rfl := Option.some.inj (hvalue.symm.trans held)
        rw [readAddress_of_readText text] at haddress
        exact (addressOf_eq_ok_iff.mp haddress).1

end

/-- The contract of any role in settings that validated is an address. -/
theorem isAddress_of_contract {value : Value} {settings : Settings} {role : Role} {s : String}
    (h : ofValue value = .ok settings) (hs : settings.contract role = .ok s) :
    isAddress s = true :=
  (gives_of_addressAt h (contract_eq_ok_iff.mp hs)).2

/-- An address is the marker and as many digits as a word has room for, and behind them at most a
line feed. -/
theorem isAddress_iff {s : String} :
    isAddress s = true ↔ ∃ digits back, s.toList = '0' :: 'x' :: (digits ++ back) ∧
      Word256.Fits digits ∧ (back = [] ∨ back = ['\n']) := by
  rw [isAddress]
  constructor
  · intro h
    split at h
    · rename_i rest htext
      obtain ⟨hlength, htail⟩ := Bool.and_eq_true_iff.mp h
      obtain ⟨hnonempty, hwidth⟩ := of_decide_eq_true hlength
      have hsplit : rest.takeWhile Text.isHexDigit
          ++ rest.drop (rest.takeWhile Text.isHexDigit).length = rest :=
        List.prefix_iff_eq_append.mp (List.takeWhile_prefix _)
      refine ⟨_, _, by rw [htext, hsplit], ⟨?_, ?_, hwidth⟩, by simpa using htail⟩
      · exact List.all_eq_true.mp List.all_takeWhile
      · exact List.ne_nil_of_length_pos hnonempty
    · contradiction
  · rintro ⟨digits, back, htext, hfits, hback⟩
    have htake : (digits ++ back).takeWhile Text.isHexDigit = digits := by
      rw [List.takeWhile_append_of_pos hfits.hex]
      rcases hback with rfl | rfl <;> simp [show Text.isHexDigit '\n' = false by decide]
    have hpos := List.length_pos_of_ne_nil hfits.nonempty
    have hwidth := hfits.width
    simp only [htext, htake, List.drop_left, Bool.and_eq_true, decide_eq_true_eq]
    exact ⟨⟨hpos, hwidth⟩, by simpa using hback⟩

/-- An address is a felt. -/
theorem exists_value_of_isAddress {s : String} (h : isAddress s = true) :
    ∃ n, Felt.value (.text s) = .ok n := by
  obtain ⟨digits, back, htext, hfits, hback⟩ := isAddress_iff.mp h
  obtain ⟨n, hn⟩ := Felt.ofText_of_marked hfits.nonempty hfits.hex hback
  exact ⟨n, by rw [Felt.value_text, htext, hn]⟩

end Settings

end OracleIndexer
