import OracleIndexer.Indexer.Registry
import OracleIndexer.Proofs.Outcome
import OracleIndexer.Proofs.Settings.Addresses
set_option autoImplicit false

/-!
# Contracts that are asked for

Settings that validate hold nothing but well-formed addresses exactly if no text that their document
gives as a contract ends in a line feed: this is the one thing that the check of an address lets
pass.  The contract in a role goes into the filters of the runtime as it stands, its line feed with
it.
-/

namespace OracleIndexer

/-! ## Filters -/

/-- The runtime is asked for events of a contract as it stands, once for each selector. -/
def Indexer.AsksFor (indexer : Indexer) (contract : Json) : Prop :=
  ∃ events, (indexer.filter contract).part "events" = .ok (.array events) ∧
    events.length = indexer.selectors.length ∧
    ∀ event ∈ events, event.part "fromAddress" = .ok contract

theorem Indexer.asksFor (indexer : Indexer) (contract : Json) : indexer.AsksFor contract := by
  refine ⟨indexer.selectors.map (indexer.selectorFilter contract), rfl, List.length_map _, ?_⟩
  intro event hevent
  obtain ⟨selector, _, rfl⟩ := List.mem_map.mp hevent
  rfl

namespace Settings

open Yaml (Value)

/-! ## Well-formed addresses -/

/-- A well-formed address: the marker, between one and sixty-four hexadecimal digits, and nothing
else. -/
inductive WellFormed : String → Prop
  | marked {digits : List Char} (fits : Word256.Fits digits) :
    WellFormed (String.ofList ('0' :: 'x' :: digits))

theorem wellFormed_iff {s : String} :
    WellFormed s ↔ ∃ digits, s.toList = '0' :: 'x' :: digits ∧ Word256.Fits digits := by
  constructor
  · rintro ⟨fits⟩
    exact ⟨_, String.toList_ofList, fits⟩
  · rintro ⟨digits, htext, hfits⟩
    rw [← String.ofList_toList (s := s), htext]
    exact .marked hfits

/-- The characters of a well-formed address are all printed. -/
theorem not_mem_of_wellFormed {s : String} (h : WellFormed s) : '\n' ∉ s.toList := by
  obtain ⟨digits, htext, hfits⟩ := wellFormed_iff.mp h
  rw [htext]
  intro hmem
  rcases List.mem_cons.mp hmem with hzero | hmem
  · exact absurd hzero (by decide)
  · rcases List.mem_cons.mp hmem with hmarker | hmem
    · exact absurd hmarker (by decide)
    · exact absurd (hfits.hex '\n' hmem) (by decide)

/-- What passes as an address is well-formed unless it ends in a line feed. -/
theorem wellFormed_iff_of_isAddress {s : String} (h : isAddress s = true) :
    WellFormed s ↔ s.toList.getLast? ≠ some '\n' := by
  constructor
  · intro hwell hlast
    exact not_mem_of_wellFormed hwell (List.mem_of_getLast? hlast)
  · intro hlast
    obtain ⟨digits, back, htext, hfits, hback⟩ := isAddress_iff.mp h
    rcases hback with rfl | rfl
    · rw [List.append_nil] at htext
      exact wellFormed_iff.mpr ⟨digits, htext, hfits⟩
    · rw [htext, ← List.cons_append, ← List.cons_append] at hlast
      exact absurd List.getLast?_concat hlast

/-! ## Contracts -/

/-- Every contract of every deployment is absent or well-formed. -/
def HoldsWellFormed (settings : Settings) : Prop :=
  ∀ name deployment, settings.deployments.lookup name = some deployment →
    ∀ role s, deployment.address role = some s → WellFormed s

theorem holdsWellFormed_iff {settings : Settings} :
    settings.HoldsWellFormed ↔
      ∀ name role s, settings.addressAt name role = some s → WellFormed s := by
  constructor
  · intro h name role s hs
    obtain ⟨deployment, hdeployment, haddress⟩ := Option.bind_eq_some_iff.mp hs
    exact h name deployment hdeployment role s haddress
  · intro h name deployment hdeployment role s haddress
    exact h name role s (Option.bind_eq_some_iff.mpr ⟨deployment, hdeployment, haddress⟩)

/-- There is a contract in a role, or it is said what is missing: the deployment or the contract. -/
theorem contract_cases (settings : Settings) (role : Role) :
    settings.contract role = .error (.noDeployment settings.network) ∨
      settings.contract role = .error (.noContract role.name settings.network) ∨
      ∃ s, settings.contract role = .ok s := by
  rw [contract, contractOf, deployment]
  cases settings.deployments.lookup settings.network with
  | none => exact .inl rfl
  | some deployment =>
    rw [Outcome.ok_bind, Option.bind_some]
    cases deployment.address role with
    | none => exact .inr (.inl rfl)
    | some s => exact .inr (.inr ⟨s, rfl⟩)

/-- Settings that validate hold well-formed addresses alone exactly if their document gives no
contract that ends in a line feed.  A contract in a role is one that the document gives; it is
well-formed unless it ends in a line feed, and the runtime is asked for it as it stands. -/
theorem holdsWellFormed_iff_gives {document : Value} {settings : Settings}
    (h : ofValue document = .ok settings) :
    (settings.HoldsWellFormed ↔
        ∀ name role s, Gives name role s document → s.toList.getLast? ≠ some '\n') ∧
      ∀ role, settings.contract role = .error (.noDeployment settings.network) ∨
        settings.contract role = .error (.noContract role.name settings.network) ∨
        ∃ s, settings.contract role = .ok s ∧ Gives settings.network role s document ∧
          (WellFormed s ↔ s.toList.getLast? ≠ some '\n') ∧
          ∀ indexer : Indexer, indexer.AsksFor (.text s) := by
  refine ⟨?_, ?_⟩
  · rw [holdsWellFormed_iff]
    constructor
    · intro hwell name role s hgives
      have hs := addressAt_of_gives h hgives
      exact (wellFormed_iff_of_isAddress (gives_of_addressAt h hs).2).mp (hwell name role s hs)
    · intro hlast name role s hs
      obtain ⟨hgives, hchecked⟩ := gives_of_addressAt h hs
      exact (wellFormed_iff_of_isAddress hchecked).mpr (hlast name role s hgives)
  · intro role
    rcases settings.contract_cases role with hnone | hnone | ⟨s, hs⟩
    · exact .inl hnone
    · exact .inr (.inl hnone)
    · obtain ⟨hgives, hchecked⟩ := gives_of_addressAt h (contract_eq_ok_iff.mp hs)
      exact .inr (.inr ⟨s, hs, hgives, wellFormed_iff_of_isAddress hchecked,
        fun indexer => indexer.asksFor (.text s)⟩)

/-- A configuration with two contracts, the second of which ends in a line feed. -/
def twoContracts : Json :=
  .object [("network", .text "net"), ("deployments", .object
    [("net", .object [("oracle", .text "0x2a85"), ("vrf", .text "0x1\n")])])]

/-- Of two contracts the one that does not end in a line feed is well-formed. -/
theorem wellFormed_of_twoContracts :
    ∃ settings, ofJson twoContracts = .ok settings ∧ settings.contract .oracle = .ok "0x2a85" ∧
      WellFormed "0x2a85" ∧ Gives "net" .oracle "0x2a85" (.ofJson twoContracts) := by
  have hread : ∃ settings, ofJson twoContracts = .ok settings ∧
      settings.contract .oracle = .ok "0x2a85" ∧ settings.network = "net" := ⟨_, rfl, rfl, rfl⟩
  obtain ⟨settings, haccepted, hcontract, hnetwork⟩ := hread
  refine ⟨settings, haccepted, hcontract, ?_⟩
  rcases (holdsWellFormed_iff_gives haccepted).2 .oracle with
    hnone | hnone | ⟨s, hs, hgives, hwell, _⟩
  · rw [hcontract] at hnone
    cases hnone
  · rw [hcontract] at hnone
    cases hnone
  · obtain rfl := Except.ok.inj (hcontract.symm.trans hs)
    rw [hnetwork] at hgives
    exact ⟨hwell.mpr (by decide), hgives⟩

/-- Settings are accepted with the other one, and the runtime is asked for it. -/
theorem twoContracts_not_wellFormed :
    ∃ settings, ofJson twoContracts = .ok settings ∧ settings.contract .vrf = .ok "0x1\n" ∧
      ¬ WellFormed "0x1\n" ∧ ¬ settings.HoldsWellFormed ∧
      Indexer.randomnessRequests.AsksFor (.text "0x1\n") := by
  have hill : ¬ WellFormed "0x1\n" := fun hwell => not_mem_of_wellFormed hwell (by decide)
  refine ⟨_, rfl, rfl, hill, ?_, Indexer.asksFor _ _⟩
  intro hholds
  exact hill (holdsWellFormed_iff.mp hholds "net" .vrf "0x1\n" rfl)

end Settings

end OracleIndexer
