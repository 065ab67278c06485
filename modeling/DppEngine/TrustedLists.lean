import DppEngine.Reorderings

/-! What a trusted list says: providers, the services they are listed for, and the certificates
that identify each service. -/
namespace TrustedLists

open Reorderings

variable {History : Type}

structure ListedService (History : Type) where
  serviceType : String
  name : Option String
  history : History
  /-- Base64, as published. -/
  certificates : List String
  deriving DecidableEq, Repr

structure ListedProvider (History : Type) where
  name : Option String
  services : List (ListedService History)
  deriving DecidableEq, Repr

structure UnverifiedTrustedList (History : Type) where
  territory : Option String
  providers : List (ListedProvider History)
  deriving DecidableEq, Repr

structure TrustedListPointer where
  location : String
  territory : Option String
  tslType : Option String
  mimeType : Option String
  certificates : List String
  deriving DecidableEq, Repr

structure VerifiedTrustedList (History : Type) where
  content : UnverifiedTrustedList History
  signedBy : String
  deriving DecidableEq, Repr

def ListedProvider.servicesOfType (p : ListedProvider History) (serviceType : String) :
    List (ListedService History) :=
  p.services.filter fun s => s.serviceType = serviceType

/-- Providers without such a service are left out. -/
def UnverifiedTrustedList.providersOffering (l : UnverifiedTrustedList History)
    (serviceType : String) : List (ListedProvider History × List (ListedService History)) :=
  l.providers.filterMap fun p =>
    let services := p.servicesOfType serviceType
    if services.isEmpty then none else some (p, services)

theorem mem_servicesOfType {p : ListedProvider History} {serviceType : String}
    {s : ListedService History} :
    s ∈ p.servicesOfType serviceType ↔ s ∈ p.services ∧ s.serviceType = serviceType := by
  simp [ListedProvider.servicesOfType]

theorem of_mem_providersOffering {l : UnverifiedTrustedList History} {serviceType : String}
    {offering : ListedProvider History × List (ListedService History)}
    (h : offering ∈ l.providersOffering serviceType) :
    offering.1 ∈ l.providers ∧ offering.2 = offering.1.servicesOfType serviceType := by
  obtain ⟨p, hp, hsome⟩ := List.mem_filterMap.mp h
  dsimp only at hsome
  split at hsome
  next => cases hsome
  next =>
    cases hsome
    exact ⟨hp, rfl⟩

section Order

structure SameService (s s' : ListedService History) : Prop where
  serviceType : s.serviceType = s'.serviceType
  name : s.name = s'.name
  history : s.history = s'.history
  certificates : s.certificates.Perm s'.certificates

structure SameProvider (p p' : ListedProvider History) : Prop where
  name : p.name = p'.name
  services : Reordered SameService p.services p'.services

structure SameList (l l' : VerifiedTrustedList History) : Prop where
  territory : l.content.territory = l'.content.territory
  signedBy : l.signedBy = l'.signedBy
  providers : Reordered SameProvider l.content.providers l'.content.providers

/-- The same lists, with lists, providers, services and certificates in any order. -/
abbrev SameLists : List (VerifiedTrustedList History) → List (VerifiedTrustedList History) → Prop :=
  Reordered SameList

theorem SameService.refl (s : ListedService History) : SameService s s := ⟨rfl, rfl, rfl, .refl _⟩

theorem SameProvider.refl (p : ListedProvider History) : SameProvider p p :=
  ⟨rfl, .refl SameService.refl _⟩

theorem SameList.refl (l : VerifiedTrustedList History) : SameList l l :=
  ⟨rfl, rfl, .refl SameProvider.refl _⟩

end Order

end TrustedLists
