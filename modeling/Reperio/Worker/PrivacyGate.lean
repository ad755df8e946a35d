import Mathlib.Data.Finset.SDiff
import Mathlib.Data.List.Chain
import Reperio.Python.Value

/-!
# The privacy gate

`worker/privacy_gate.py`: whether a provider may be called, and whether a call
may follow a redirect. The gate refuses remote endpoints that were not
acknowledged, a redirect is refused when it leads from a remote endpoint to one
that is not. Nothing refuses a redirect that leads out of the network, so a
chain of allowed hops reaches remote endpoints without acknowledgment exactly
when it is a walk inside the network followed by one outside
(`neverRemote_iff`).
-/

namespace Reperio

open Python

/-! ## Endpoints and decisions -/

/-- Where an endpoint is. -/
structure EndpointClassification where
  endpoint : PyStr
  host : PyStr
  ip : Option PyStr
  endpointClass : PyStr
  reason : String
  warnings : List String := []
  deriving DecidableEq

def EndpointClassification.IsRemote (classification : EndpointClassification) : Prop :=
  classification.endpointClass = .ofString "remote"

instance : DecidablePred EndpointClassification.IsRemote :=
  fun classification => inferInstanceAs (Decidable (classification.endpointClass = _))

/-- What may be sent at all. -/
structure PrivacyPolicy where
  allowedCategories : Finset PyStr
  maxPayloadBytes : ℤ
  denyCategories : Finset PyStr := ∅

/-- What the operator agreed to. -/
structure ProviderAcknowledgment where
  acceptedEndpoint : PyStr
  endpointClass : PyStr
  state : PyStr

/-- Whether a call is allowed, and why not. -/
structure GateDecision where
  allowed : Bool
  endpointClass : PyStr
  reasons : List String
  deriving DecidableEq

namespace PrivacyGate

/-- `text.rstrip("/")`. -/
def rstripSlash (text : PyStr) : PyStr :=
  (text.reverse.dropWhile fun point => point = CodePoint.ofChar '/').reverse

def endpointMatches (accepted provider : PyStr) : Bool :=
  accepted = provider || rstripSlash accepted = rstripSlash provider

/-- Why the acknowledgment does not cover a call of a remote endpoint. -/
def acknowledgmentReasons (provider : PyStr) : Option ProviderAcknowledgment → List String
  | none => ["remote_not_acknowledged"]
  | some acknowledgment =>
    if acknowledgment.state ≠ .ofString "acknowledged" then ["remote_not_acknowledged"]
    else if acknowledgment.endpointClass ≠ .ofString "remote" then
      ["endpoint_class_promoted_requires_reacknowledgment"]
    else if acknowledgment.acceptedEndpoint ≠ provider ∧
        !endpointMatches acknowledgment.acceptedEndpoint provider then
      ["provider_acknowledgment_mismatch"]
    else []

def gateDecision (provider endpointClass : PyStr) (acknowledgment : Option ProviderAcknowledgment)
    (policy : PrivacyPolicy) (categories : Option (Finset PyStr)) (payloadBytes : ℤ) :
    GateDecision :=
  let deniedCategories := (categories.getD ∅ ∩ policy.denyCategories) \ policy.allowedCategories
  let reasons := (if deniedCategories ≠ ∅ then ["category_denied"] else []) ++
    (if policy.maxPayloadBytes < payloadBytes then ["payload_too_large"] else []) ++
      if endpointClass = .ofString "remote" then acknowledgmentReasons provider acknowledgment
      else []
  ⟨reasons.isEmpty, endpointClass, reasons.eraseDups⟩

def evaluateRedirect (original final : EndpointClassification) : GateDecision :=
  let reasons := if original.IsRemote ∧ ¬final.IsRemote then ["redirect_to_private"] else []
  ⟨reasons.isEmpty, final.endpointClass, reasons⟩

/-- The payload may be sent as far as the policy is concerned. -/
def Sendable (policy : PrivacyPolicy) (categories : Option (Finset PyStr)) (payloadBytes : ℤ) :
    Prop :=
  categories.getD ∅ ∩ policy.denyCategories ⊆ policy.allowedCategories ∧
    payloadBytes ≤ policy.maxPayloadBytes

/-- The gate lets a call without acknowledgment through. -/
theorem gateDecision_none_allowed (provider endpointClass : PyStr) (policy : PrivacyPolicy)
    (categories : Option (Finset PyStr)) (payloadBytes : ℤ) :
    (gateDecision provider endpointClass none policy categories payloadBytes).allowed = true ↔
      Sendable policy categories payloadBytes ∧ endpointClass ≠ .ofString "remote" := by
  unfold gateDecision Sendable acknowledgmentReasons
  dsimp only
  rw [List.isEmpty_iff, List.append_eq_nil_iff, List.append_eq_nil_iff]
  refine and_congr (and_congr ?_ ?_) ?_
  · rw [ite_eq_right_iff, ← Finset.sdiff_eq_empty_iff_subset]
    constructor
    · intro quiet
      by_contra denied
      cases quiet denied
    · exact fun none denied => absurd none denied
  · rw [ite_eq_right_iff]
    constructor
    · intro quiet
      by_contra large
      cases quiet (not_le.mp large)
    · exact fun small large => absurd small (not_le.mpr large)
  · rw [ite_eq_right_iff]
    constructor
    · intro quiet isRemote
      cases quiet isRemote
    · exact fun notRemote isRemote => absurd isRemote notRemote

theorem evaluateRedirect_allowed (original final : EndpointClassification) :
    (evaluateRedirect original final).allowed = true ↔ (original.IsRemote → final.IsRemote) := by
  unfold evaluateRedirect
  dsimp only
  split
  · rename_i refused
    exact ⟨nofun, fun follows => absurd (follows refused.1) refused.2⟩
  · rename_i allowed
    refine ⟨fun _ isRemote => ?_, fun _ => rfl⟩
    by_contra leaves
    exact allowed ⟨isRemote, leaves⟩

/-! ## Chains of redirects -/

/-- Every hop from one endpoint to the next is allowed. -/
def Follows (chain : List EndpointClassification) : Prop :=
  chain.IsChain fun original final => (evaluateRedirect original final).allowed = true

/-- If the gate lets the first endpoint through without acknowledgment and every hop is allowed,
then no endpoint of the chain is remote. -/
def NeverRemote (provider : PyStr) (policy : PrivacyPolicy) (categories : Option (Finset PyStr))
    (payloadBytes : ℤ) (first : EndpointClassification) (rest : List EndpointClassification) :
    Prop :=
  (gateDecision provider first.endpointClass none policy categories payloadBytes).allowed = true →
    Follows (first :: rest) → ∀ classification ∈ first :: rest, ¬classification.IsRemote

/-- The chain stays inside the network for a while and outside it from then on. -/
def LeavesNetwork (chain : List EndpointClassification) : Prop :=
  ∃ inside outside, chain = inside ++ outside ∧ inside ≠ [] ∧ outside ≠ [] ∧
    (∀ classification ∈ inside, ¬classification.IsRemote) ∧
      ∀ classification ∈ outside, classification.IsRemote

/-- Once a chain of allowed hops is outside the network, it stays there. -/
theorem Follows.remote {first : EndpointClassification} {rest : List EndpointClassification}
    (follows : Follows (first :: rest)) (isRemote : first.IsRemote) :
    ∀ classification ∈ first :: rest, classification.IsRemote := by
  induction rest generalizing first with
  | nil =>
    intro classification member
    rwa [List.mem_singleton.mp member]
  | cons next rest ih =>
    rcases List.isChain_cons_cons.mp follows with ⟨hop, later⟩
    intro classification member
    rcases List.mem_cons.mp member with rfl | inRest
    · exact isRemote
    · exact ih later ((evaluateRedirect_allowed _ _).mp hop isRemote) classification inRest

/-- Allowed hops lead along endpoints inside the network and then along endpoints outside. -/
theorem follows_iff (chain : List EndpointClassification) :
    Follows chain ↔ ∃ inside outside, chain = inside ++ outside ∧
      (∀ classification ∈ inside, ¬classification.IsRemote) ∧
        ∀ classification ∈ outside, classification.IsRemote := by
  constructor
  · intro follows
    induction chain with
    | nil => exact ⟨[], [], rfl, nofun, nofun⟩
    | cons first rest ih =>
      by_cases isRemote : first.IsRemote
      · exact ⟨[], first :: rest, rfl, nofun, follows.remote isRemote⟩
      · rcases ih (List.IsChain.tail follows) with ⟨inside, outside, rfl, before, after⟩
        refine ⟨first :: inside, outside, rfl, ?_, after⟩
        intro classification member
        rcases List.mem_cons.mp member with rfl | later
        · exact isRemote
        · exact before classification later
  · rintro ⟨inside, outside, rfl, before, after⟩
    unfold Follows
    induction inside with
    | nil =>
      refine List.Pairwise.isChain (List.pairwise_of_forall_mem_list ?_)
      intro original _ final member
      exact (evaluateRedirect_allowed _ _).mpr fun _ => after final member
    | cons first inside ih =>
      have rest :=
        ih fun classification member => before classification (List.mem_cons_of_mem _ member)
      rw [List.cons_append]
      refine List.isChain_cons.mpr ⟨fun next _ => ?_, rest⟩
      exact (evaluateRedirect_allowed _ _).mpr fun isRemote =>
        absurd isRemote (before first List.mem_cons_self)

/-- Calls without acknowledgment never become remote exactly when the payload is refused or the
chain does not leave the network for good. -/
theorem neverRemote_iff (provider : PyStr) (policy : PrivacyPolicy)
    (categories : Option (Finset PyStr)) (payloadBytes : ℤ) (first : EndpointClassification)
    (rest : List EndpointClassification) :
    NeverRemote provider policy categories payloadBytes first rest ↔
      ¬(Sendable policy categories payloadBytes ∧ LeavesNetwork (first :: rest)) := by
  unfold NeverRemote
  rw [gateDecision_none_allowed]
  constructor
  · rintro never ⟨sendable, inside, outside, split, nonempty, leaves, before, after⟩
    have firstInside : ¬first.IsRemote := by
      cases inside with
      | nil => exact absurd rfl nonempty
      | cons head inside =>
        rw [(List.cons.inj split).1]
        exact before head List.mem_cons_self
    have follows : Follows (first :: rest) :=
      (follows_iff _).mpr ⟨inside, outside, split, before, after⟩
    rcases List.exists_mem_of_ne_nil outside leaves with ⟨reached, member⟩
    refine never ⟨sendable, firstInside⟩ follows reached ?_ (after reached member)
    rw [split]
    exact List.mem_append_right inside member
  · rintro stays ⟨sendable, firstInside⟩ follows classification member isRemote
    rcases (follows_iff _).mp follows with ⟨inside, outside, split, before, after⟩
    refine stays ⟨sendable, inside, outside, split, ?_, ?_, before, after⟩
    · rintro rfl
      rw [List.nil_append] at split
      exact firstInside (after first (split ▸ List.mem_cons_self))
    · rintro rfl
      rw [List.append_nil] at split
      exact before classification (split ▸ member) isRemote

/-- A local endpoint that redirects to a public one. -/
theorem localRedirect_not_neverRemote : ¬∀ provider policy categories payloadBytes first rest,
      NeverRemote provider policy categories payloadBytes first rest := by
  intro never
  have remote := never (.ofString "ollama") ⟨∅, 1024, ∅⟩ none 512
    ⟨.ofString "http://localhost:11434", .ofString "localhost", none, .ofString "local",
      "localhost", []⟩
    [⟨.ofString "https://8.8.8.8", .ofString "8.8.8.8", some (.ofString "8.8.8.8"),
      .ofString "remote", "public_ip", []⟩]
  exact remote (by decide) (by unfold Follows; decide) _
    (List.mem_cons_of_mem _ List.mem_cons_self) rfl

end PrivacyGate

end Reperio
