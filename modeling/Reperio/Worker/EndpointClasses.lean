import Mathlib.Data.List.TakeWhile
import Reperio.Python.IpAddress
import Reperio.Python.Urls
import Reperio.Worker.PrivacyGate

/-!
# Local, LAN and remote endpoints

`classify_endpoint` of `worker/privacy_gate.py`: a host is taken from the text of an
endpoint, and classified by its name, its address, or the address that a resolver
answers with. What is classified is not always the host that is called: a port, a path
or a user name may be taken for a part of the host (`Misread`).
-/

namespace Reperio.PrivacyGate

open Python Urls IpAddress

/-- How a classification fails. -/
inductive EndpointError where
  | privacyGateError (code message : String)
  -- `urlsplit` raises a `ValueError`
  | valueError
  deriving DecidableEq

/-- `CLOUD_METADATA_HOSTS`. -/
def cloudMetadataHosts : List PyStr :=
  ["169.254.169.254", "metadata.google.internal", "metadata"].map PyStr.ofString

/-! ## The host of an endpoint -/

/-- `text.strip("[]")`. -/
def stripBrackets (text : PyStr) : PyStr :=
  let isBracket point := decide (point ∈ PyStr.ofString "[]")
  ((text.dropWhile isBracket).reverse.dropWhile isBracket).reverse

/-- `"://" in endpoint`. -/
def hasScheme (endpoint : PyStr) : Bool := decide (PyStr.ofString "://" <:+: endpoint)

section

variable (rules : UrlRules)

/-- The text that is classified. -/
def readHost (endpoint : PyStr) : Except EndpointError PyStr := do
  if hasScheme endpoint && !isSplittable rules endpoint then throw .valueError
  let location := if hasScheme endpoint then netloc endpoint else endpoint
  let name := if hasScheme endpoint then hostname rules location else none
  let host := if 1 < location.count (.ofChar ':') then location
    else match name with
      | some name => name
      | none => upTo ':' location
  return rules.lower (stripBrackets (behindLast '@' host))

/-! ## Classes -/

/-- `localhost`, or a name under it. -/
def isLocalName (host : PyStr) : Bool :=
  decide (host = .ofString "localhost") || (PyStr.ofString ".localhost").isSuffixOf host

/-- The address that a host is, or that the resolver answers with. -/
def addressOf (resolver : PyStr → Option PyStr) (host : PyStr) : Option IpAddress :=
  (parse host).or ((resolver host).bind fun answer => if answer = [] then none else parse answer)

/-- `address.is_private or address.is_link_local or address.is_reserved`. -/
def isNear (address : IpAddress) : Bool :=
  address.isPrivate || address.isLinkLocal || address.isReserved

variable (printAddress : IpAddress → PyStr) (resolver : PyStr → Option PyStr)

/-- What follows the reading of the host. -/
def classifyHost (endpoint host : PyStr) : EndpointClassification :=
  let classified ip endpointClass reason warnings : EndpointClassification :=
    ⟨endpoint, host, ip, .ofString endpointClass, reason, warnings⟩
  if host ∈ cloudMetadataHosts then classified (some host) "remote" "cloud_metadata_endpoint" []
  else if isLocalName host then classified none "local" "localhost" []
  else
    match addressOf resolver host with
    | none => classified none "remote" "unknown_public" ["unresolvable_hostname"]
    | some address =>
      if address.isLoopback then classified (some (printAddress address)) "local" "loopback" []
      else if isNear address then
        classified (some (printAddress address)) "lan" "private_or_link_local" []
      else classified (some (printAddress address)) "remote" "public_ip" []

def classifyEndpoint (endpoint : PyStr) : Except EndpointError EndpointClassification := do
  let host ← readHost rules endpoint
  if host = [] then throw (.privacyGateError "invalid_endpoint" "endpoint has no host")
  return classifyHost printAddress resolver endpoint host

end

/-! ## The host that is called -/

/-- The authority of an endpoint, with or without a scheme. -/
def authority (endpoint : PyStr) : PyStr := if hasScheme endpoint then netloc endpoint
  else if (PyStr.ofString "//").isPrefixOf endpoint then authorityPart (endpoint.drop 2)
  else authorityPart endpoint

/-- What is behind the last `@` of the authority, without a port and brackets. An address of version
6 may stand without brackets where there is no port. -/
def authorityHost (rules : UrlRules) (endpoint : PyStr) : PyStr :=
  let hostinfo := behindLast '@' (authority endpoint)
  let name :=
    if .ofChar '[' ∈ hostinfo ∨ hostinfo.count (.ofChar ':') ≤ 1 then hostPart hostinfo
    else hostinfo
  rules.lower (stripBrackets name)

/-- The location of an endpoint, all of it where there is no scheme. -/
def location (endpoint : PyStr) : PyStr := if hasScheme endpoint then netloc endpoint else endpoint

/-- What is taken for the host: all that is behind the last `@` where the location has two colons or
more, and what is in front of its colon otherwise. -/
def takenText (endpoint : PyStr) : PyStr := let location := location endpoint
  behindLast '@' (if 1 < location.count (.ofChar ':') then location else upTo ':' location)

def takenHost (rules : UrlRules) (endpoint : PyStr) : PyStr :=
  rules.lower (stripBrackets (takenText endpoint))

/-- A path, a query or a fragment follows. -/
def HasPath (endpoint : PyStr) : Prop := ∃ point ∈ endpoint, point ∈ PyStr.ofString "/?#"

/-- The text of an endpoint that is taken for its host is another one than the host. -/
def Misread (endpoint : PyStr) : Prop := let hostinfo := behindLast '@' (location endpoint)
  let enclosed := .ofChar '[' :: hostPart hostinfo ++ [.ofChar ']']
  if 1 < (location endpoint).count (.ofChar ':') then
    -- a port stays there, and without a scheme a path
    (if .ofChar '[' ∈ hostinfo then hostinfo ≠ enclosed else hostinfo.count (.ofChar ':') = 1) ∨
      hasScheme endpoint = false ∧ HasPath endpoint
  else if hasScheme endpoint then
    -- there is no host, and a user name stands in its place
    hostPart hostinfo = []
  else
    -- a path stays there, or it is cut at a colon of the user info
    HasPath endpoint ∨ .ofChar '@' ∈ behind ':' endpoint ∨
      .ofChar '[' ∈ hostinfo ∧ upTo ':' hostinfo ≠ enclosed

def metadataAddress : IpAddress := .v4 (netV4 169 254 169 254 32).1

/-- The host is local by its name, or it is or resolves to an address of the own network that is
not that of the cloud's metadata. -/
def IsOwnHost (resolver : PyStr → Option PyStr) (host : PyStr) : Prop :=
  isLocalName host = true ∨ ∃ address, addressOf resolver host = some address ∧
    (address.isLoopback = true ∨ isNear address = true) ∧ address ≠ metadataAddress

/-- The endpoint is called local or in the own network for this host. -/
def Trusts (resolver : PyStr → Option PyStr) (host : PyStr) : Prop :=
  host ∉ cloudMetadataHosts ∧ (isLocalName host = true ∨
    ∃ address, addressOf resolver host = some address ∧
      (address.isLoopback = true ∨ isNear address = true))

/-- The resolver is asked for the host, and answers with the address of the cloud's metadata. -/
def ResolvesToMetadata (resolver : PyStr → Option PyStr) (host : PyStr) : Prop :=
  host ∉ cloudMetadataHosts ∧ isLocalName host = false ∧ parse host = none ∧
    addressOf resolver host = some metadataAddress

/-! ## What is trusted -/

section

variable {rules : UrlRules} {printAddress : IpAddress → PyStr} {resolver : PyStr → Option PyStr}
  {endpoint host : PyStr}

theorem classifyHost_trusts : (classifyHost printAddress resolver endpoint host).endpointClass ∈
      ["local", "lan"].map PyStr.ofString ↔ Trusts resolver host := by
  have remote : PyStr.ofString "remote" ∉ ["local", "lan"].map PyStr.ofString := by decide
  have isLocalClass : PyStr.ofString "local" ∈ ["local", "lan"].map PyStr.ofString := by decide
  have isLanClass : PyStr.ofString "lan" ∈ ["local", "lan"].map PyStr.ofString := by decide
  rw [classifyHost, Trusts]
  by_cases isMetadata : host ∈ cloudMetadataHosts
  · rw [if_pos isMetadata]
    exact ⟨fun isOwn => absurd isOwn remote, fun trusts => absurd isMetadata trusts.1⟩
  rw [if_neg isMetadata, and_iff_right isMetadata]
  by_cases isLocal : isLocalName host = true
  · rw [if_pos isLocal]
    exact ⟨fun _ => Or.inl isLocal, fun _ => isLocalClass⟩
  rw [if_neg isLocal, or_iff_right isLocal]
  cases found : addressOf resolver host with
  | none =>
    refine ⟨fun isOwn => absurd isOwn remote, ?_⟩
    rintro ⟨address, isAddress, _⟩
    cases isAddress
  | some address =>
    dsimp only
    have only : (∃ other, some address = some other ∧
        (other.isLoopback = true ∨ isNear other = true)) ↔
          address.isLoopback = true ∨ isNear address = true := by
      simp only [Option.some.injEq, exists_eq_left']
    rw [only]
    by_cases loops : address.isLoopback = true
    · rw [if_pos loops]
      exact ⟨fun _ => Or.inl loops, fun _ => isLocalClass⟩
    rw [if_neg loops, or_iff_right loops]
    by_cases near : isNear address = true
    · rw [if_pos near]
      exact ⟨fun _ => near, fun _ => isLanClass⟩
    · rw [if_neg near]
      exact ⟨fun isOwn => absurd isOwn remote, fun isNear => absurd isNear near⟩

/-- The address of the cloud's metadata is near. -/
theorem isNear_metadataAddress : isNear metadataAddress = true := by decide

/-- Only the text in the list is read as the address of the cloud's metadata. -/
theorem mem_cloudMetadataHosts_of_parse (parsed : parse host = some metadataAddress) :
    host ∈ cloudMetadataHosts := by
  rw [parse_eq_v4 parsed]
  decide

/-- A host that is trusted is of the own network unless it resolves to the cloud's metadata. -/
theorem trusts_own_iff :
    (Trusts resolver host → IsOwnHost resolver host) ↔ ¬ ResolvesToMetadata resolver host := by
  constructor
  · rintro isOwn ⟨notMetadata, notLocal, _, isAddress⟩
    have trusts : Trusts resolver host :=
      ⟨notMetadata, Or.inr ⟨_, isAddress, Or.inr isNear_metadataAddress⟩⟩
    rcases isOwn trusts with isLocal | ⟨address, isOther, _, different⟩
    · rw [notLocal] at isLocal
      cases isLocal
    · rw [isAddress] at isOther
      exact different (Option.some.inj isOther).symm
  · rintro notResolved ⟨notMetadata, isLocal | ⟨address, isAddress, isOwn⟩⟩
    · exact Or.inl isLocal
    by_cases isLocal : isLocalName host = true
    · exact Or.inl isLocal
    refine Or.inr ⟨address, isAddress, isOwn, ?_⟩
    rintro rfl
    refine notResolved ⟨notMetadata, Bool.not_eq_true _ ▸ isLocal, ?_, isAddress⟩
    cases parsed : parse host with
    | none => rfl
    | some literal =>
      rw [addressOf, parsed, Option.some_or] at isAddress
      rw [Option.some.inj isAddress] at parsed
      exact absurd (mem_cloudMetadataHosts_of_parse parsed) notMetadata

theorem classifyEndpoint_trusts_iff {own : Prop} (read : readHost rules endpoint = .ok host) :
    (∀ classification, classifyEndpoint rules printAddress resolver endpoint = .ok classification →
      classification.endpointClass ∈ ["local", "lan"].map PyStr.ofString → own) ↔
    (host ≠ [] → Trusts resolver host → own) := by
  rw [classifyEndpoint, read]
  by_cases isEmpty : host = []
  · rw [isEmpty]
    refine iff_of_true (fun classification classified => ?_) fun some => absurd rfl some
    cases classified
  · simp only [bind, Except.bind, if_neg isEmpty]
    rw [forall_prop_of_true isEmpty]
    refine ⟨fun sound trusts => sound _ rfl (classifyHost_trusts.mpr trusts), ?_⟩
    rintro sound classification classified isOwnClass
    cases classified
    exact sound (classifyHost_trusts.mp isOwnClass)

end

/-! ## What is read -/

/-- What is known of lower case: it is lower case once and for all, also in front of a zone, and it
alters no mark of a location. -/
structure LowersText (lower : PyStr → PyStr) : Prop where
  again : ∀ name zone, (∀ point ∈ zone.head?, point = .ofChar '%') →
    lower (lower name ++ zone) = lower (name ++ zone)
  strips : ∀ text, lower (stripBrackets text) = stripBrackets (lower text)
  brings : ∀ text, .ofChar '@' ∈ lower text → .ofChar '@' ∈ text

section

variable {mark : Char} {text first second : PyStr}

theorem behindLast_append (outside : .ofChar mark ∉ second) :
    behindLast mark (first ++ second) = behindLast mark first ++ second := by
  rw [behindLast, List.reverse_append, List.takeWhile_append_of_pos, List.reverse_append,
    List.reverse_reverse, behindLast]
  intro point isIn
  refine decide_eq_true ?_
  rintro rfl
  exact outside (List.mem_reverse.mp isIn)

theorem behindLast_of_notMem (outside : .ofChar mark ∉ text) : behindLast mark text = text :=
  (behindLast_append outside : behindLast mark ([] ++ text) = _)

theorem notMem_behindLast : .ofChar mark ∉ behindLast mark text := by
  intro isIn
  have differs := List.mem_takeWhile_imp (List.mem_reverse.mp isIn)
  exact of_decide_eq_true differs rfl

theorem notMem_upTo : .ofChar mark ∉ upTo mark text := by
  intro isIn
  have differs := List.mem_takeWhile_imp isIn
  exact of_decide_eq_true differs rfl

theorem upTo_append (outside : .ofChar mark ∉ first)
    (begins : ∀ point ∈ second.head?, point = .ofChar mark) :
    upTo mark (first ++ second) = first := by
  rw [upTo, List.takeWhile_append_of_pos]
  · cases second with
    | nil => simp
    | cons point second => simp [begins point rfl]
  · rintro point isIn
    refine decide_eq_true ?_
    rintro rfl
    exact outside isIn

theorem upTo_of_notMem (outside : .ofChar mark ∉ text) : upTo mark text = text := by
  simpa using (upTo_append outside (by simp) : upTo mark (text ++ []) = text)

/-- The text from the first such character on begins with it. -/
theorem head?_dropWhile : ∀ point ∈ (text.dropWhile fun point => point ≠ .ofChar mark).head?,
    point = .ofChar mark := by
  intro point isHead
  have kept := List.head?_dropWhile_not (fun point => decide (point ≠ .ofChar mark)) text
  rw [isHead] at kept
  simpa using kept

/-- Where no `@` follows the first colon, it may be cut before the user info or after it. -/
theorem behindLast_upTo (outside : .ofChar '@' ∉ behind ':' text) :
    behindLast '@' (upTo ':' text) = upTo ':' (behindLast '@' text) := by
  let rest := text.dropWhile fun point => point ≠ .ofChar ':'
  have begins : ∀ point ∈ rest.head?, point = .ofChar ':' := head?_dropWhile
  have noMark : .ofChar '@' ∉ rest := by
    intro isIn
    cases isRest : rest with
    | nil => simp [isRest] at isIn
    | cons point others =>
      rw [isRest] at isIn begins
      rcases List.mem_cons.mp isIn with isPoint | isOther
      · rw [begins point rfl] at isPoint
        revert isPoint
        decide
      · refine outside ?_
        rw [behind, show text.dropWhile _ = rest from rfl, isRest]
        exact isOther
  have noColon : .ofChar ':' ∉ behindLast '@' (upTo ':' text) := by
    intro isIn
    exact notMem_upTo (List.mem_reverse.mp (List.takeWhile_subset _ (List.mem_reverse.mp isIn)))
  have whole : upTo ':' text ++ rest = text := List.takeWhile_append_dropWhile
  rw [← upTo_append noColon begins, ← behindLast_append noMark, whole]

theorem stripBrackets_enclosed :
    stripBrackets (.ofChar '[' :: text ++ [.ofChar ']']) = stripBrackets text := by
  let isBracket (point : CodePoint) : Bool := decide (point ∈ PyStr.ofString "[]")
  have opens : isBracket (.ofChar '[') = true := by decide
  have closes : isBracket (.ofChar ']') = true := by decide
  change ((List.dropWhile isBracket _).reverse.dropWhile isBracket).reverse =
    ((text.dropWhile isBracket).reverse.dropWhile isBracket).reverse
  rw [List.cons_append, List.dropWhile_cons_of_pos opens, List.dropWhile_append]
  split
  · rename_i isEmpty
    rw [List.isEmpty_iff.mp isEmpty, List.dropWhile_cons_of_pos closes]
    rfl
  · rw [List.reverse_append, List.reverse_singleton, List.singleton_append,
      List.dropWhile_cons_of_pos closes]

/-- The text that is taken is classified, but for a name that `urlsplit` has found. -/
theorem readHost_eq (rules : UrlRules) (endpoint : PyStr)
    (splits : hasScheme endpoint = true → isSplittable rules endpoint = true) :
    readHost rules endpoint = .ok
      (if 1 < (location endpoint).count (.ofChar ':') ∨ hasScheme endpoint = false ∨
          hostPart (behindLast '@' (location endpoint)) = [] then takenHost rules endpoint
        else rules.lower (stripBrackets (behindLast '@'
          (rules.lower (upTo '%' (hostPart (behindLast '@' (location endpoint)))) ++
            (hostPart (behindLast '@' (location endpoint))).dropWhile
              fun point => point ≠ .ofChar '%')))) := by
  unfold readHost takenHost takenText location hostname
  cases scheme : hasScheme endpoint with
  | false =>
    simp only [Bool.false_and, Bool.false_eq_true, if_false, true_or, or_true, if_true]
    split <;> rfl
  | true =>
    rw [splits scheme]
    simp only [Bool.not_true, Bool.and_false, Bool.false_eq_true, if_true, if_false]
    by_cases colons : 1 < (netloc endpoint).count (.ofChar ':')
    · simp only [colons, if_true, true_or]
      rfl
    · by_cases noHost : hostPart (behindLast '@' (netloc endpoint)) = []
      · simp only [colons, noHost, if_true, if_false, or_true]
        rfl
      · simp only [colons, noHost, if_false, or_false]
        rfl

theorem authority_eq_location {endpoint : PyStr}
    (noPath : ¬(hasScheme endpoint = false ∧ HasPath endpoint)) :
    authority endpoint = location endpoint := by
  unfold authority location
  split
  · rfl
  · rename_i noScheme
    have outside : ∀ point ∈ endpoint, point ∉ PyStr.ofString "/?#" := fun point isIn isMark =>
      noPath ⟨Bool.not_eq_true _ ▸ noScheme, point, isIn, isMark⟩
    rw [if_neg, authorityPart, List.takeWhile_eq_self_iff]
    · exact fun point isIn => decide_eq_true (outside point isIn)
    · intro isPrefix
      exact outside (.ofChar '/') ((List.isPrefixOf_iff_prefix.mp isPrefix).subset (by decide))
        (by decide)

theorem hostPart_subset : hostPart text ⊆ text := by
  unfold hostPart
  split
  · exact fun point isIn =>
      List.dropWhile_subset _ (List.mem_of_mem_tail (List.takeWhile_subset _ isIn))
  · exact List.takeWhile_subset _

/-- Brackets that enclose the host do not matter. -/
theorem stripBrackets_hostPart {host : PyStr}
    (enclosed : .ofChar '[' ∈ text → host = .ofChar '[' :: hostPart text ++ [.ofChar ']'])
    (plain : .ofChar '[' ∉ text → host = hostPart text) :
    stripBrackets host = stripBrackets (hostPart text) := by
  by_cases brackets : .ofChar '[' ∈ text
  · rw [enclosed brackets, stripBrackets_enclosed]
  · rw [plain brackets]

theorem readHost_of_misread (rules : UrlRules) {endpoint : PyStr}
    (splits : hasScheme endpoint = true → isSplittable rules endpoint = true)
    (misread : Misread endpoint) : readHost rules endpoint = .ok (takenHost rules endpoint) := by
  rw [readHost_eq rules endpoint splits, if_pos]
  by_cases colons : 1 < (location endpoint).count (.ofChar ':')
  · exact Or.inl colons
  · unfold Misread at misread
    rw [if_neg colons] at misread
    split at misread
    · exact Or.inr (Or.inr misread)
    · rename_i noScheme
      exact Or.inr (Or.inl (Bool.not_eq_true _ ▸ noScheme))

/-- A text that is not misread gives the host of the authority. -/
theorem readHost_of_not_misread {rules : UrlRules} (lowers : LowersText rules.lower)
    {endpoint : PyStr}
    (splits : hasScheme endpoint = true → isSplittable rules endpoint = true)
    (wellRead : ¬Misread endpoint) :
    readHost rules endpoint = .ok (authorityHost rules endpoint) := by
  let hostinfo := behindLast '@' (location endpoint)
  have few : hostinfo.count (.ofChar ':') ≤ (location endpoint).count (.ofChar ':') :=
    (List.reverse_sublist.mp ((List.reverse_reverse _).symm ▸ List.takeWhile_sublist _)).count_le _
  rw [readHost_eq rules endpoint splits]
  unfold Misread at wellRead
  by_cases colons : 1 < (location endpoint).count (.ofChar ':')
  · rw [if_pos colons, not_or] at wellRead
    rw [if_pos (Or.inl colons), takenHost, takenText, if_pos colons, authorityHost,
      authority_eq_location wellRead.2]
    refine congrArg (fun text => Except.ok (rules.lower text)) ?_
    by_cases isName : .ofChar '[' ∈ hostinfo ∨ hostinfo.count (.ofChar ':') ≤ 1
    · rw [if_pos isName]
      refine stripBrackets_hostPart (fun brackets => ?_) fun plain => ?_
      · have enclosed := wellRead.1
        rw [if_pos brackets] at enclosed
        exact not_not.mp enclosed
      · have noPort := wellRead.1
        rw [if_neg plain] at noPort
        have noColon : .ofChar ':' ∉ hostinfo := by
          refine List.count_eq_zero.mp (Nat.lt_one_iff.mp (lt_of_le_of_ne ?_ noPort))
          exact isName.resolve_left plain
        rw [hostPart, if_neg plain, upTo_of_notMem noColon]
    · rw [if_neg isName]
  · have isName : .ofChar '[' ∈ hostinfo ∨ hostinfo.count (.ofChar ':') ≤ 1 :=
      Or.inr (few.trans (Nat.le_of_not_lt colons))
    rw [if_neg colons] at wellRead
    cases scheme : hasScheme endpoint with
    | true =>
      rw [scheme, if_pos rfl] at wellRead
      rw [if_neg (by simp [colons, wellRead]), authorityHost,
        authority_eq_location (by simp [scheme]), if_pos isName]
      refine congrArg Except.ok ?_
      have noMark : .ofChar '@' ∉ rules.lower (upTo '%' (hostPart hostinfo)) ++
          (hostPart hostinfo).dropWhile fun point => point ≠ .ofChar '%' := by
        intro isIn
        refine notMem_behindLast (hostPart_subset ?_ : .ofChar '@' ∈ hostinfo)
        rcases List.mem_append.mp isIn with isName | isZone
        · exact List.takeWhile_subset _ (lowers.brings _ isName)
        · exact List.dropWhile_subset _ isZone
      rw [behindLast_of_notMem noMark, lowers.strips, lowers.again _ _ ?_, ← lowers.strips, upTo,
        List.takeWhile_append_dropWhile]
      exact head?_dropWhile
    | false =>
      rw [scheme, if_neg (by simp), not_or, not_or] at wellRead
      rw [if_pos (Or.inr (Or.inl rfl)), takenHost, takenText, if_neg colons, authorityHost,
        authority_eq_location fun path => wellRead.1 path.2, if_pos isName]
      have noMark : .ofChar '@' ∉ behind ':' (location endpoint) := by
        rw [location, scheme]
        exact wellRead.2.1
      rw [behindLast_upTo noMark]
      refine congrArg (fun text => Except.ok (rules.lower text)) ?_
      refine stripBrackets_hostPart (fun brackets => ?_) fun plain => ?_
      · by_contra beside
        exact wellRead.2.2 ⟨brackets, beside⟩
      · rw [hostPart, if_neg plain]

end

/-- A local or LAN endpoint is called in the own network exactly when, where the text is read as it
is meant, the host does not resolve to the cloud's metadata, and where it is misread, the text that
stands in the place of the host is not trusted unless the host is of the own network itself. -/
theorem classifyEndpoint_sound_iff (rules : UrlRules) (lowers : LowersText rules.lower)
    (printAddress : IpAddress → PyStr) (resolver : PyStr → Option PyStr) (endpoint : PyStr) :
    (∀ classification, classifyEndpoint rules printAddress resolver endpoint = .ok classification →
      classification.endpointClass ∈ ["local", "lan"].map PyStr.ofString →
        IsOwnHost resolver (authorityHost rules endpoint)) ↔
    ((hasScheme endpoint = true → isSplittable rules endpoint = true) →
      (Misread endpoint → takenHost rules endpoint ≠ [] →
        Trusts resolver (takenHost rules endpoint) →
          IsOwnHost resolver (authorityHost rules endpoint)) ∧
      (¬Misread endpoint → authorityHost rules endpoint ≠ [] →
        ¬ResolvesToMetadata resolver (authorityHost rules endpoint))) := by
  by_cases splits : hasScheme endpoint = true → isSplittable rules endpoint = true
  · rw [forall_prop_of_true splits]
    by_cases misread : Misread endpoint
    · rw [classifyEndpoint_trusts_iff (readHost_of_misread rules splits misread)]
      simp only [misread, forall_true_left, not_true_eq_false, false_implies, and_true]
    · rw [classifyEndpoint_trusts_iff (readHost_of_not_misread lowers splits misread)]
      simp only [misread, not_false_eq_true, forall_true_left, false_implies, true_and,
        trusts_own_iff]
  · refine iff_of_true (fun classification classified => ?_) fun splitting =>
      absurd splitting splits
    rw [classifyEndpoint, readHost, if_pos (by simpa using splits)] at classified
    cases classified

/-! ## Hosts behind a password -/

def asciiLower (point : CodePoint) : CodePoint :=
  if 0x41 ≤ point.val ∧ point.val ≤ 0x5A then point + 32 else point

/-- Rules of texts of ASCII. -/
def asciiRules : UrlRules where
  lower text := text.map asciiLower
  allowsNetloc _ := true

theorem asciiLower_cases (point : CodePoint) : asciiLower point = point ∨
      0x61 ≤ (asciiLower point).val ∧ (asciiLower point).val ≤ 0x7A ∧
        isAsciiLetter point = true := by
  unfold asciiLower
  split
  · rename_i upper
    have value : (point + 32).val = point.val + 32 := by
      rw [Fin.val_add]
      exact Nat.mod_eq_of_lt (by change point.val + 32 < _; omega)
    exact Or.inr ⟨by omega, by omega, by simp [isAsciiLetter, upper]⟩
  · exact Or.inl rfl

theorem asciiLower_eq_iff {point : CodePoint} {mark : Char}
    (notLetter : isAsciiLetter (.ofChar mark) = false) :
    asciiLower point = .ofChar mark ↔ point = .ofChar mark := by
  rcases asciiLower_cases point with same | ⟨low, high, letter⟩
  · rw [same]
  · refine iff_of_false ?_ ?_
    · intro isMark
      rw [isMark] at low high
      simp [isAsciiLetter, low, high] at notLetter
    · rintro rfl
      rw [letter] at notLetter
      cases notLetter

theorem lowersText_asciiRules : LowersText asciiRules.lower where
  again name zone _ := by
    have twice : asciiLower ∘ asciiLower = asciiLower := by
      funext point
      rcases asciiLower_cases point with same | ⟨low, high, _⟩
      · rw [Function.comp_apply, same, same]
      · exact if_neg (by omega)
    simp only [asciiRules, List.map_append, List.map_map, twice]
  strips text := by
    have sameBracket : (fun point => decide (point ∈ PyStr.ofString "[]")) ∘ asciiLower =
        fun point => decide (point ∈ PyStr.ofString "[]") := by
      funext point
      have brackets : PyStr.ofString "[]" = [.ofChar '[', .ofChar ']'] := by decide
      simp only [brackets, Function.comp_apply, List.mem_cons, List.not_mem_nil, or_false,
        asciiLower_eq_iff (show isAsciiLetter (.ofChar '[') = false by decide),
        asciiLower_eq_iff (show isAsciiLetter (.ofChar ']') = false by decide)]
    simp only [asciiRules, stripBrackets, List.dropWhile_map, ← List.map_reverse, sameBracket]
  brings text isIn := by
    rcases List.mem_map.mp isIn with ⟨point, isPoint, same⟩
    exact (asciiLower_eq_iff (by decide)).mp same ▸ isPoint

theorem lanHost_called_lan : IsOwnHost (fun _ => none)
      (authorityHost asciiRules (.ofString "http://admin:pw@192.168.1.5/v1")) := by
  have wellRead : ¬Misread (.ofString "http://admin:pw@192.168.1.5/v1") := by
    unfold Misread HasPath
    decide +kernel
  refine (classifyEndpoint_sound_iff asciiRules lowersText_asciiRules (fun _ => []) (fun _ => none)
    (.ofString "http://admin:pw@192.168.1.5/v1")).mpr
      (fun _ => ⟨fun misread => absurd misread wellRead, fun _ _ => ?_⟩)
      ⟨.ofString "http://admin:pw@192.168.1.5/v1", .ofString "192.168.1.5", some [],
        .ofString "lan", "private_or_link_local", []⟩ (by decide +kernel) (by decide)
  rintro ⟨_, _, notAddress, _⟩
  revert notAddress
  decide +kernel

theorem publicHost_called_local : (∃ classification,
      classifyEndpoint asciiRules (fun _ => []) (fun _ => none) (.ofString "localhost:pw@8.8.8.8") =
          .ok classification ∧
        classification.endpointClass = .ofString "local") ∧
      ¬ IsOwnHost (fun _ => none)
        (authorityHost asciiRules (.ofString "localhost:pw@8.8.8.8")) := by
  refine ⟨⟨⟨.ofString "localhost:pw@8.8.8.8", .ofString "localhost", none, .ofString "local",
    "localhost",
    []⟩, by decide +kernel, rfl⟩, ?_⟩
  have isHost : authorityHost asciiRules (.ofString "localhost:pw@8.8.8.8") =
      .ofString "8.8.8.8" := by
    decide +kernel
  have isAddress : addressOf (fun _ => none) (.ofString "8.8.8.8") =
      some (.v4 (netV4 8 8 8 8 32).1) := by decide +kernel
  rw [isHost]
  rintro (isLocal | ⟨address, isOther, isOwn, _⟩)
  · revert isLocal
    decide
  · rw [isAddress] at isOther
    rw [← Option.some.inj isOther] at isOwn
    revert isOwn
    decide +kernel

end Reperio.PrivacyGate
