import Reperio.Hostd.Protocol

/-!
# Paths in protocol messages

What an accepted message may still hold: two dots in the identifier of a request, and any
text in the keys of a result. What the checks raise beside a `ProtocolError`: the code of an
error is looked up in a set, which raises for a list or an object, and a message may be
nested deeper than the calls that go through it.
-/

namespace Reperio.Hostd.Protocol

open Python

/-! ## Crashes -/

/-- Another exception than a `ProtocolError`. -/
def Crashes {α : Type} (outcome : Checked α) : Prop := ∃ error, outcome = .error (.python error)

variable {α β : Type}

@[simp]
theorem not_crashes_ok (value : α) : ¬Crashes (.ok value : Checked α) := by
  rintro ⟨error, impossible⟩
  cases impossible

@[simp]
theorem not_crashes_pure (value : α) : ¬Crashes (pure value : Checked α) := not_crashes_ok value

@[simp]
theorem not_crashes_fail (message : PyStr) : ¬Crashes (fail message : Checked α) := by
  rintro ⟨error, impossible⟩
  cases impossible

@[simp]
theorem not_crashes_failWith (message : String) : ¬Crashes (failWith message : Checked α) :=
  not_crashes_fail _

@[simp]
theorem crashes_python (error : PyError) : Crashes (.error (.python error) : Checked α) :=
  ⟨error, rfl⟩

/-- A sequence crashes where its first part does, or its second part after that one. -/
theorem crashes_bind {first : Checked α} {second : α → Checked β} :
    Crashes (first >>= second) ↔ Crashes first ∨ ∃ value, first = .ok value ∧
      Crashes (second value) := by
  cases first with
  | ok value => simp [bind, Except.bind]
  | error failure => cases failure <;> simp [bind, Except.bind, Crashes]

/-- A check that does not crash itself. -/
theorem crashes_bind_of_not {first : Checked Unit} {second : Unit → Checked β}
    (safe : ¬Crashes first) :
    Crashes (first >>= second) ↔ first = .ok () ∧ Crashes (second ()) := by
  rw [crashes_bind]
  constructor
  · rintro (crashes | ⟨⟨⟩, isOk, crashes⟩)
    · exact absurd crashes safe
    · exact ⟨isOk, crashes⟩
  · rintro ⟨isOk, crashes⟩
    exact Or.inr ⟨(), isOk, crashes⟩

theorem not_crashes_requireKeys (message : PyDict) (required allowed : List String) (path : PyStr) :
    ¬Crashes (requireKeys message required allowed path) := by
  unfold requireKeys
  dsimp only
  split
  · exact not_crashes_fail _
  · split
    · exact not_crashes_fail _
    · exact not_crashes_ok ()

theorem not_crashes_validateSchemaVersion (value : PyValue) (path : String) :
    ¬Crashes (validateSchemaVersion value path) := by
  unfold validateSchemaVersion
  split
  · exact not_crashes_ok ()
  · exact not_crashes_fail _

theorem not_crashes_requireText (isMatch : PyStr → Bool) (message : PyStr) (value : PyValue) :
    ¬Crashes (requireText isMatch message value) := by
  unfold requireText
  split
  · split
    · exact not_crashes_ok ()
    · exact not_crashes_fail _
  · exact not_crashes_fail _

theorem not_crashes_validateRequestId (value : PyValue) : ¬Crashes (validateRequestId value) :=
  not_crashes_requireText _ _ _

theorem not_crashes_validateAuth (value : PyValue) : ¬Crashes (validateAuth value) := by
  unfold validateAuth
  split
  · rw [crashes_bind_of_not (not_crashes_requireKeys _ _ _ _)]
    rintro ⟨-, crashes⟩
    split at crashes
    · exact not_crashes_failWith _ crashes
    · split at crashes
      · exact not_crashes_failWith _ crashes
      · exact not_crashes_pure _ crashes
  · exact not_crashes_failWith _

theorem not_crashes_validateField (item : PyValue × PyValue) : ¬Crashes (validateField item) := by
  unfold validateField
  split
  · split
    · exact not_crashes_requireText _ _ _
    · split
      · split
        · split
          · exact not_crashes_ok ()
          · exact not_crashes_failWith _
        · exact not_crashes_failWith _
      · split
        · exact not_crashes_requireText _ _ _
        · split
          · exact not_crashes_requireText _ _ _
          · exact not_crashes_ok ()
  · exact not_crashes_ok ()

theorem not_crashes_forM (items : PyDict) : ¬Crashes (items.forM validateField) := by
  induction items with
  | nil => exact not_crashes_ok ()
  | cons item items ih =>
    change ¬Crashes (validateField item >>= fun _ => items.forM validateField)
    rw [crashes_bind_of_not (not_crashes_validateField item)]
    exact fun crashes => ih crashes.2

/-! ## The search for paths -/

/-- What the search stops at: a value that is too deep, or a path. -/
def stopsAt (limit : ℕ) (visit : ℕ × PyValue) : Bool := decide (limit ≤ visit.1) ||
    match visit.2 with
    | .text text => decide (IsPathlike text)
    | _ => false

/-- The search, by the first of the values that it stops at. -/
def Searched (limit : ℕ) (found : Option (ℕ × PyValue)) (outcome : Checked Unit) : Prop :=
  match found with
  | none => outcome = .ok ()
  | some visit =>
    if limit ≤ visit.1 then outcome = .error (.python .recursionError)
    else ∃ message, outcome = fail message

theorem Searched.bind {limit : ℕ} {first second : List (ℕ × PyValue)} {outcome : Checked Unit}
    {next : Unit → Checked Unit} (searched : Searched limit (first.find? (stopsAt limit)) outcome)
    (later : Searched limit (second.find? (stopsAt limit)) (next ())) :
    Searched limit ((first ++ second).find? (stopsAt limit)) (outcome >>= next) := by
  rw [List.find?_append]
  cases found : first.find? (stopsAt limit) with
  | none =>
    rw [found] at searched
    rw [show outcome = .ok () from searched]
    exact later
  | some visit =>
    rw [found] at searched
    unfold Searched at searched ⊢
    dsimp only [Option.some_or] at searched ⊢
    split at searched
    · rename_i deep
      rw [if_pos deep, searched]
      rfl
    · rename_i shallow
      rcases searched with ⟨message, isFailure⟩
      rw [if_neg shallow, isFailure]
      exact ⟨message, rfl⟩

/-- A value that is not too deep comes before the values in it. -/
theorem Searched.cons {limit depth : ℕ} {value : PyValue} {rest : List (ℕ × PyValue)}
    {outcome : Checked Unit} (container : ∀ text, value ≠ .text text)
    (searched : Searched limit (rest.find? (stopsAt limit)) outcome) :
    Searched limit (((depth, value) :: rest).find? (stopsAt limit))
      (if limit ≤ depth then .error (.python .recursionError) else outcome) := by
  rw [List.find?_cons]
  by_cases deep : limit ≤ depth
  · simp [stopsAt, Searched, deep]
  · have passes : stopsAt limit (depth, value) = false := by
      unfold stopsAt
      rw [decide_eq_false deep]
      cases value with
      | text text => exact absurd rfl (container text)
      | _ => rfl
    rw [passes, if_neg deep]
    exact searched

variable {limit : ℕ} {path : PyStr} {depth : ℕ} {params : PyDict} {required : List String}

theorem searched_items {items : List PyValue}
    (each : ∀ item ∈ items, ∀ depth path, Searched limit ((visits depth item).find? (stopsAt limit))
      (rejectPathlike limit depth path item)) (depth : ℕ) (path : PyStr) (index : ℕ) :
    Searched limit ((visitsItems depth items).find? (stopsAt limit))
      (rejectPathlikeItems limit depth path index items) := by
  induction items generalizing index with
  | nil => exact rfl
  | cons item items ih =>
    rw [List.forall_mem_cons] at each
    exact (each.1 depth _).bind (ih each.2 (index + 1))

theorem searched_pairs {items : List (PyValue × PyValue)}
    (each : ∀ item ∈ items, ∀ depth path, Searched limit
      ((visits depth item.2).find? (stopsAt limit)) (rejectPathlike limit depth path item.2))
    (depth : ℕ) (path : PyStr) :
    Searched limit ((visitsPairs depth items).find? (stopsAt limit))
      (rejectPathlikePairs limit depth path items) := by
  induction items with
  | nil => exact rfl
  | cons item items ih =>
    rw [List.forall_mem_cons] at each
    exact (each.1 depth _).bind (ih each.2)

/-- The search goes through the values in order, and stops at the first that it finds. -/
theorem searched_rejectPathlike (limit : ℕ) (value : PyValue) :
    ∀ (depth : ℕ) (path : PyStr), Searched limit ((visits depth value).find? (stopsAt limit))
      (rejectPathlike limit depth path value) := by
  induction value using PyValue.induct with
  | leaf value isLeaf =>
    intro depth path
    cases isLeaf with
    | text text =>
      by_cases deep : limit ≤ depth
      · simp [visits, rejectPathlike, stopsAt, Searched, deep]
      · by_cases pathlike : IsPathlike text <;>
          simp [visits, rejectPathlike, stopsAt, Searched, deep, pathlike]
    | _ =>
      by_cases deep : limit ≤ depth <;>
        simp [visits, rejectPathlike, stopsAt, Searched, deep]
  | list items ih =>
    intro depth path
    rw [visits, rejectPathlike]
    exact (searched_items ih (depth + 1) path 0).cons (by simp)
  | dict items ih =>
    intro depth path
    rw [visits, rejectPathlike]
    exact (searched_pairs (fun item member => (ih item member).2) (depth + 1) path).cons (by simp)

/-- Nested too deep, before any path is found. -/
def TooDeep (limit : ℕ) (value : PyValue) : Prop :=
  ∃ visit, (visits 0 value).find? (stopsAt limit) = some visit ∧ limit ≤ visit.1

theorem crashes_rejectPathlike {value : PyValue} :
    Crashes (rejectPathlike limit 0 path value) ↔ TooDeep limit value := by
  have searched := searched_rejectPathlike limit value 0 path
  unfold TooDeep
  cases found : (visits 0 value).find? (stopsAt limit) with
  | none =>
    rw [found] at searched
    have isOk : rejectPathlike limit 0 path value = .ok () := searched
    simp [isOk]
  | some visit =>
    rw [found] at searched
    unfold Searched at searched
    dsimp only at searched
    split at searched
    · rename_i deep
      simp [searched, deep]
    · rename_i shallow
      rcases searched with ⟨message, isFailure⟩
      simp [isFailure, shallow]

theorem rejectPathlike_eq_ok_iff {value : PyValue} : rejectPathlike limit 0 path value = .ok () ↔
      (visits 0 value).find? (stopsAt limit) = none := by
  have searched := searched_rejectPathlike limit value 0 path
  cases found : (visits 0 value).find? (stopsAt limit) with
  | none =>
    rw [found] at searched
    exact iff_of_true searched rfl
  | some visit =>
    rw [found] at searched
    unfold Searched at searched
    dsimp only at searched
    refine iff_of_false ?_ (by simp)
    split at searched
    · simp [searched]
    · rcases searched with ⟨message, isFailure⟩
      simp [isFailure, fail]

/-! ## Texts without paths -/

def NoPath : PyValue → Prop
  | .text text => ¬IsPathlike text
  | _ => True

def NoPathKeys : PyValue → Prop
  | .dict items => ∀ item ∈ items, NoPath item.1
  | _ => True

theorem mem_visitsItems {items : List PyValue} {visit : ℕ × PyValue} :
    visit ∈ visitsItems depth items ↔ ∃ item ∈ items, visit ∈ visits depth item := by
  induction items with
  | nil => simp [visitsItems]
  | cons item items ih => simp [visitsItems, ih]

theorem mem_visitsPairs {items : List (PyValue × PyValue)} {visit : ℕ × PyValue} :
    visit ∈ visitsPairs depth items ↔ ∃ item ∈ items, visit ∈ visits depth item.2 := by
  induction items with
  | nil => simp [visitsPairs]
  | cons item items ih => simp [visitsPairs, ih]

/-- Without a path among the values there is none at all, if there is none among the keys. -/
theorem everywhere_noPath_iff {value : PyValue} (textKeys : value.Everywhere PyValue.TextKeys)
    (searched : ∀ visit ∈ visits depth value, NoPath visit.2) :
    value.Everywhere NoPath ↔ value.Everywhere NoPathKeys := by
  induction value using PyValue.induct generalizing depth with
  | leaf value isLeaf =>
    cases isLeaf with
    | text text => exact iff_of_true (searched (depth, .text text) (by simp [visits])) trivial
    | _ => exact Iff.rfl
  | list items ih =>
    rw [PyValue.everywhere_list_iff] at textKeys ⊢
    rw [PyValue.everywhere_list_iff]
    refine and_congr Iff.rfl (forall₂_congr fun item member => ?_)
    have inside : ∀ visit ∈ visits (depth + 1) item, NoPath visit.2 := by
      intro visit isVisit
      apply searched
      rw [visits, List.mem_cons]
      exact Or.inr (mem_visitsItems.mpr ⟨item, member, isVisit⟩)
    exact ih item member (textKeys.2 item member) inside
  | dict items ih =>
    rw [PyValue.everywhere_dict_iff] at textKeys ⊢
    rw [PyValue.everywhere_dict_iff]
    have each : ∀ item ∈ items, (item.2.Everywhere NoPath ↔ item.2.Everywhere NoPathKeys) := by
      intro item member
      have inside : ∀ visit ∈ visits (depth + 1) item.2, NoPath visit.2 := by
        intro visit isVisit
        apply searched
        rw [visits, List.mem_cons]
        exact Or.inr (mem_visitsPairs.mpr ⟨item, member, isVisit⟩)
      exact (ih item member).2 (textKeys.2 item member).2 inside
    constructor
    · rintro ⟨-, all⟩
      refine ⟨fun item member => ?_, fun item member =>
        ⟨?_, (each item member).mp (all item member).2⟩⟩
      · rcases textKeys.1 item member with ⟨text, isText⟩
        have noPath := (all item member).1
        rw [isText] at noPath ⊢
        exact noPath
      · rcases textKeys.1 item member with ⟨text, isText⟩
        rw [isText]
        trivial
    · rintro ⟨keys, all⟩
      refine ⟨trivial, fun item member => ⟨?_, (each item member).mpr (all item member).2⟩⟩
      rcases textKeys.1 item member with ⟨text, isText⟩
      have noPath := keys item member
      rw [isText] at noPath ⊢
      exact noPath

theorem noPath_of_find?_eq_none {value : PyValue}
    (found : (visits 0 value).find? (stopsAt limit) = none) :
    ∀ visit ∈ visits 0 value, NoPath visit.2 := by
  intro visit isVisit
  have passes := List.find?_eq_none.mp found visit isVisit
  rcases visit with ⟨depth, value⟩
  cases value with
  | text text =>
    intro pathlike
    exact passes (by simp [stopsAt, pathlike])
  | _ => trivial

/-! ## Responses -/

variable {interpreter : Interpreter} {message : PyDict}

/-- An accepted response is free of paths if and only if its keys are. -/
theorem response_noPath_iff {accepted : PyDict}
    (textKeys : (PyValue.dict message).Everywhere PyValue.TextKeys)
    (isAccepted : validateResponse interpreter message = .ok accepted) :
    (PyValue.dict message).Everywhere NoPath ↔ (PyValue.dict message).Everywhere NoPathKeys := by
  unfold validateResponse at isAccepted
  rcases bind_eq_ok isAccepted with ⟨_, -, isAccepted⟩
  rcases bind_eq_ok isAccepted with ⟨_, -, isAccepted⟩
  rcases bind_eq_ok isAccepted with ⟨_, -, isAccepted⟩
  split at isAccepted
  · rcases bind_eq_ok isAccepted with ⟨_, -, isAccepted⟩
    rcases bind_eq_ok isAccepted with ⟨_, searched, -⟩
    exact everywhere_noPath_iff textKeys
      (noPath_of_find?_eq_none (rejectPathlike_eq_ok_iff.mp searched))
  · cases isAccepted

/-- What is checked of a response before what it comes with. -/
structure ResponseHead (message : PyDict) (isOk : Bool) : Prop where
  keys : requireKeys message ["schema_version", "request_id", "ok"] responseKeys
    (.ofString "response") = .ok ()
  version : validateSchemaVersion (message.get "schema_version") "response.schema_version" = .ok ()
  requestId : validateRequestId (message.get "request_id") = .ok ()
  isBool : message.get "ok" = .bool isOk

/-- A failure whose error has the right keys, and a list or an object as its code. -/
def UnhashableCode (message : PyDict) : Prop :=
  ∃ error, message.get? "error" = some (.dict error) ∧ message.get? "result" = none ∧
    requireKeys error errorKeys errorKeys (.ofString "response.error") = .ok () ∧
    (PyDict.get error "code").hashable = false

theorem crashes_validateError {value : PyValue} :
    Crashes (validateError value) ↔ ∃ error, value = .dict error ∧
      requireKeys error errorKeys errorKeys (.ofString "response.error") = .ok () ∧
      (PyDict.get error "code").hashable = false := by
  unfold validateError
  cases value with
  | dict error =>
    dsimp only
    rw [crashes_bind_of_not (not_crashes_requireKeys _ _ _ _)]
    cases hashable : (PyDict.get error "code").hashable with
    | false => simp [hashable]
    | true =>
      simp only [Bool.not_true, Bool.false_eq_true, if_false, PyValue.dict.injEq,
        exists_eq_left', hashable, Bool.true_eq_false, and_false, iff_false]
      rintro ⟨-, crashes⟩
      split at crashes
      · exact not_crashes_failWith _ crashes
      · split at crashes
        · split at crashes
          · exact not_crashes_pure _ crashes
          · exact not_crashes_failWith _ crashes
        · exact not_crashes_failWith _ crashes
  | _ => simp

theorem crashes_validateOutcome {isOk : Bool} :
    Crashes (validateOutcome message isOk) ↔ isOk = false ∧ UnhashableCode message := by
  unfold validateOutcome UnhashableCode
  cases isOk with
  | true =>
    simp only [if_true, Bool.true_eq_false, false_and, iff_false]
    split
    · exact not_crashes_ok ()
    · exact not_crashes_failWith _
    · exact not_crashes_failWith _
  | false =>
    simp only [Bool.false_eq_true, if_false, true_and]
    cases isError : message.get? "error" with
    | none => simp
    | some error =>
      cases isResult : message.get? "result" with
      | none => simp [crashes_validateError]
      | some result => simp

/-- What makes the check of a response crash: an error code that is a list or an object, or the
depth. -/
def ResponseCrash (interpreter : Interpreter) (message : PyDict) : Prop :=
  ∃ isOk, ResponseHead message isOk ∧ (isOk = false ∧ UnhashableCode message ∨
      validateOutcome message isOk = .ok () ∧ TooDeep interpreter.callDepth (.dict message))

theorem crashes_validateResponse :
    Crashes (validateResponse interpreter message) ↔ ResponseCrash interpreter message := by
  unfold validateResponse ResponseCrash
  rw [crashes_bind_of_not (not_crashes_requireKeys _ _ _ _),
    crashes_bind_of_not (not_crashes_validateSchemaVersion _ _),
    crashes_bind_of_not (not_crashes_validateRequestId _)]
  constructor
  · rintro ⟨keys, version, requestId, crashes⟩
    split at crashes
    · rename_i isOk isBool
      refine ⟨isOk, ⟨keys, version, requestId, isBool⟩, ?_⟩
      rw [crashes_bind] at crashes
      rcases crashes with crashes | ⟨⟨⟩, outcome, crashes⟩
      · exact Or.inl (crashes_validateOutcome.mp crashes)
      · rw [crashes_bind, crashes_rejectPathlike] at crashes
        rcases crashes with deep | ⟨⟨⟩, -, crashes⟩
        · exact Or.inr ⟨outcome, deep⟩
        · exact absurd crashes (not_crashes_pure _)
    · exact absurd crashes (not_crashes_failWith _)
  · rintro ⟨isOk, ⟨keys, version, requestId, isBool⟩, cause⟩
    refine ⟨keys, version, requestId, ?_⟩
    rw [isBool]
    dsimp only
    rw [crashes_bind]
    rcases cause with unhashable | ⟨outcome, deep⟩
    · exact Or.inl (crashes_validateOutcome.mpr unhashable)
    · refine Or.inr ⟨(), outcome, ?_⟩
      rw [crashes_bind, crashes_rejectPathlike]
      exact Or.inl deep

/-! ## Requests -/

variable {sourceGenerations : PyStr → Option ℤ}

/-- What is checked of a request before its method. -/
structure RequestHead (message : PyDict) : Prop where
  keys : requireKeys message requestKeys requestKeys (.ofString "request") = .ok ()
  version : validateSchemaVersion (message.get "schema_version") "request.schema_version" = .ok ()
  requestId : validateRequestId (message.get "request_id") = .ok ()
  auth : validateAuth (message.get "auth") = .ok ()

/-- A source that is known with another generation, where one of the two has too many digits to be
shown. -/
def Unprintable (sourceGenerations : PyStr → Option ℤ) (params : PyDict) : Prop :=
  ∃ sourceId observed current, params.get "source_id" = .text sourceId ∧
    (params.get "observed_generation").int? = some observed ∧
    sourceGenerations sourceId = some current ∧ observed ≠ current ∧
    ((∃ error, checkInt observed = .error error) ∨ ∃ error, checkInt current = .error error)

theorem crashes_intText {value : ℤ} : Crashes (intText value) ↔
    ∃ error, checkInt value = .error error := by
  unfold intText
  cases checkInt value <;> simp

theorem crashes_validateGeneration :
    Crashes (validateGeneration interpreter sourceGenerations params) ↔
      Unprintable sourceGenerations params := by
  unfold validateGeneration Unprintable
  split
  · rename_i sourceId observed isText isInt
    simp only [isText, isInt, PyValue.text.injEq, Option.some.injEq, exists_and_left,
      exists_eq_left']
    cases isCurrent : sourceGenerations sourceId with
    | none => simp
    | some current =>
      simp only [Option.some.injEq, exists_eq_left']
      by_cases stale : observed = current
      · simp [stale]
      · simp only [ne_eq, stale, not_false_iff, if_true, true_and]
        rw [crashes_bind, crashes_intText]
        constructor
        · rintro (crashes | ⟨_, -, crashes⟩)
          · exact Or.inl crashes
          · rw [crashes_bind, crashes_intText] at crashes
            rcases crashes with crashes | ⟨_, -, crashes⟩
            · exact Or.inr crashes
            · exact absurd crashes (not_crashes_fail _)
        · rintro (crashes | crashes)
          · exact Or.inl crashes
          · cases shown : intText observed with
            | error failure =>
              refine Or.inl (crashes_intText.mp ?_)
              unfold intText at shown ⊢
              split at shown
              · cases shown
              · exact crashes_python _
            | ok text =>
              refine Or.inr ⟨text, rfl, ?_⟩
              rw [crashes_bind, crashes_intText]
              exact Or.inl crashes
  · rename_i notBoth
    refine iff_of_false (not_crashes_ok ()) ?_
    rintro ⟨sourceId, observed, current, isText, isInt, -⟩
    exact notBoth sourceId observed isText isInt

/-- What of the parameters makes their check crash: their depth, or a number that cannot be shown.
-/
def ParamsCrash (interpreter : Interpreter) (sourceGenerations : PyStr → Option ℤ) (method : Method)
    (params : PyDict) : Prop :=
  requireKeys params (methodRequiredKeys method) (methodParamKeys method)
      (.ofString (method.text ++ ".params")) = .ok () ∧
    (TooDeep interpreter.callDepth (.dict params) ∨
      (visits 0 (.dict params)).find? (stopsAt interpreter.callDepth) = none ∧
        params.forM validateField = .ok () ∧ Unprintable sourceGenerations params)

theorem crashes_validateParams {method : Method} :
    Crashes (validateParams interpreter sourceGenerations method params) ↔
      ParamsCrash interpreter sourceGenerations method params := by
  unfold validateParams ParamsCrash
  dsimp only
  rw [crashes_bind_of_not (not_crashes_requireKeys _ _ _ _), crashes_bind, crashes_rejectPathlike]
  refine and_congr_right fun _ => or_congr_right ?_
  constructor
  · rintro ⟨⟨⟩, searched, crashes⟩
    rw [crashes_bind_of_not (not_crashes_forM params), crashes_validateGeneration] at crashes
    exact ⟨rejectPathlike_eq_ok_iff.mp searched, crashes⟩
  · rintro ⟨searched, fields, unprintable⟩
    refine ⟨(), rejectPathlike_eq_ok_iff.mpr searched, ?_⟩
    rw [crashes_bind_of_not (not_crashes_forM params), crashes_validateGeneration]
    exact ⟨fields, unprintable⟩

/-- What makes the check of a request crash: a method that cannot be shown, or the parameters. -/
def RequestCrash (interpreter : Interpreter) (sourceGenerations : PyStr → Option ℤ)
    (message : PyDict) : Prop :=
  RequestHead message ∧ match method? (message.get "method") with
    | none => ∃ error, reprOf interpreter (message.get "method") = .error error
    | some method => ∃ params, message.get "params" = .dict params ∧
        ParamsCrash interpreter sourceGenerations method params

theorem crashes_reprOf {value : PyValue} :
    Crashes (reprOf interpreter value) ↔ ∃ error, reprOf interpreter value = .error error := by
  constructor
  · rintro ⟨error, raised⟩
    exact ⟨_, raised⟩
  · rintro ⟨error, raised⟩
    unfold reprOf at raised ⊢
    split at raised
    · rename_i deep
      rw [if_pos deep]
      exact crashes_python _
    · rename_i shallow
      rw [if_neg shallow]
      split at raised
      · cases raised
      · exact crashes_python _

theorem crashes_validateRequest : Crashes (validateRequest interpreter sourceGenerations message) ↔
      RequestCrash interpreter sourceGenerations message := by
  unfold validateRequest RequestCrash
  rw [crashes_bind_of_not (not_crashes_requireKeys _ _ _ _),
    crashes_bind_of_not (not_crashes_validateSchemaVersion _ _),
    crashes_bind_of_not (not_crashes_validateRequestId _),
    crashes_bind_of_not (not_crashes_validateAuth _)]
  have head : RequestHead message ↔
      requireKeys message requestKeys requestKeys (.ofString "request") = .ok () ∧
      validateSchemaVersion (message.get "schema_version") "request.schema_version" = .ok () ∧
      validateRequestId (message.get "request_id") = .ok () ∧
      validateAuth (message.get "auth") = .ok () :=
    ⟨fun ⟨keys, version, requestId, auth⟩ => ⟨keys, version, requestId, auth⟩,
      fun ⟨keys, version, requestId, auth⟩ => ⟨keys, version, requestId, auth⟩⟩
  rw [head, and_assoc, and_assoc, and_assoc]
  refine and_congr_right fun _ => and_congr_right fun _ => and_congr_right fun _ =>
    and_congr_right fun _ => ?_
  cases method? (message.get "method") with
  | none =>
    dsimp only
    rw [crashes_bind, crashes_reprOf]
    simp
  | some method =>
    dsimp only
    cases message.get "params" with
    | dict params =>
      dsimp only
      rw [crashes_bind, crashes_validateParams]
      simp
    | _ => simp

/-! ### Accepted requests -/

theorem mem_keysOf {items : PyDict} {key : PyStr} :
    key ∈ keysOf items ↔ ∃ value, ((.text key, value) : PyValue × PyValue) ∈ items := by
  unfold keysOf
  rw [List.mem_filterMap]
  constructor
  · rintro ⟨⟨first, value⟩, member, isKey⟩
    cases first with
    | text other =>
      obtain rfl : other = key := Option.some.inj isKey
      exact ⟨value, member⟩
    | _ => cases isKey
  · rintro ⟨value, member⟩
    exact ⟨_, member, rfl⟩

/-- An object with the right keys has each of them, and no other. -/
theorem requireKeys_eq_ok {items : PyDict} {allowed : List String}
    (isOk : requireKeys items required allowed path = .ok ()) :
    (∀ name ∈ required, .ofString name ∈ keysOf items) ∧
      ∀ key ∈ keysOf items, ∃ name ∈ allowed, key = .ofString name := by
  unfold requireKeys at isOk
  dsimp only at isOk
  split at isOk
  · cases isOk
  · rename_i noneMissing
    split at isOk
    · cases isOk
    · rename_i noneExtra
      rw [not_not, List.filter_eq_nil_iff] at noneMissing noneExtra
      constructor
      · intro name member
        simpa using noneMissing (.ofString name) (List.mem_map_of_mem member)
      · intro key member
        have known : key ∈ allowed.map PyStr.ofString := by simpa using noneExtra key member
        rcases List.mem_map.mp known with ⟨name, isAllowed, rfl⟩
        exact ⟨name, isAllowed, rfl⟩

/-- The items of a checked object, one by one. -/
theorem forall_items {items : PyDict} {allowed : List String}
    (isOk : requireKeys items required allowed path = .ok ())
    (textKeys : (PyValue.dict items).TextKeys) (distinct : (PyValue.dict items).DistinctKeys)
    {holds : PyValue → Prop}
    (each : ∀ name ∈ allowed, holds (.str name) ∧
      ∀ value, items.get? name = some value → holds value) :
    ∀ item ∈ items, holds item.1 ∧ holds item.2 := by
  rintro ⟨key, value⟩ member
  rcases textKeys _ member with ⟨text, rfl⟩
  rcases (requireKeys_eq_ok isOk).2 text (mem_keysOf.mpr ⟨value, member⟩)
    with ⟨name, isAllowed, rfl⟩
  exact ⟨(each name isAllowed).1,
    (each name isAllowed).2 value ((PyDict.get?_eq_some_iff distinct).mpr member)⟩

theorem eq_of_eq_text {value : PyValue} {text : PyStr} (same : value.eq (.text text) = true) :
    value = .text text := by
  cases value with
  | text other => simpa [PyValue.eq] using same
  | _ => simp [PyValue.eq, PyValue.sortKey] at same

theorem exists_text_of_requireText {isMatch : PyStr → Bool} {failure : PyStr} {value : PyValue}
    (isOk : requireText isMatch failure value = .ok ()) :
    ∃ text, value = .text text ∧ isMatch text = true := by
  unfold requireText at isOk
  split at isOk
  · rename_i text
    split at isOk
    · rename_i matched
      exact ⟨text, rfl, matched⟩
    · cases isOk
  · cases isOk

theorem get_of_get? {items : PyDict} {name : String} {value : PyValue}
    (isValue : items.get? name = some value) : items.get name = value := by
  rw [PyDict.get, isValue]
  rfl

theorem noPath_text {text : PyStr} (free : ¬IsPathlike text) :
    (PyValue.text text).Everywhere NoPath := free

theorem noPath_of_schemaVersion {value : PyValue} {path : String}
    (isOk : validateSchemaVersion value path = .ok ()) : value.Everywhere NoPath := by
  unfold validateSchemaVersion at isOk
  split at isOk
  · rename_i isOne
    cases value with
    | text text => simp [PyValue.eq, PyValue.sortKey] at isOne
    | list items => simp [PyValue.eq, PyValue.sortKey] at isOne
    | dict items => simp [PyValue.eq, PyValue.sortKey] at isOne
    | _ => trivial
  · cases isOk

theorem noPath_of_validateAuth {value : PyValue} (textKeys : value.Everywhere PyValue.TextKeys)
    (distinct : value.Everywhere PyValue.DistinctKeys) (isOk : validateAuth value = .ok ()) :
    value.Everywhere NoPath := by
  unfold validateAuth at isOk
  split at isOk
  · rename_i auth
    rcases bind_eq_ok isOk with ⟨⟨⟩, keys, isOk⟩
    split at isOk
    · cases isOk
    · rename_i isKind
      split at isOk
      · cases isOk
      · rename_i isPrincipal
        rw [Bool.not_eq_true', Bool.not_eq_false] at isKind isPrincipal
        rw [PyValue.everywhere_dict_iff] at textKeys distinct ⊢
        refine ⟨trivial, forall_items keys textKeys.1 distinct.1 ?_⟩
        intro name member
        simp only [List.mem_cons, List.not_mem_nil, or_false] at member
        rcases member with rfl | rfl
        · refine ⟨noPath_text (by decide), fun value isValue => ?_⟩
          rw [get_of_get? isValue] at isKind
          rw [eq_of_eq_text isKind]
          exact noPath_text (by decide)
        · refine ⟨noPath_text (by decide), fun value isValue => ?_⟩
          rw [get_of_get? isValue] at isPrincipal
          rw [eq_of_eq_text isPrincipal]
          exact noPath_text (by decide)
  · cases isOk

/-- The fields that a check of their own is made of. -/
def checkedFields : List String :=
  opaqueIdFields ++ ["observed_generation", "resource_profile", "reason"]

theorem mem_checkedFields (method : Method) :
    ∀ name ∈ methodParamKeys method, name ∈ checkedFields := by
  cases method <;> decide

/-- A parameter is a text or an integer. -/
theorem scalar_of_validateField {name : String} (isChecked : name ∈ checkedFields) {value : PyValue}
    (isOk : validateField (.str name, value) = .ok ()) :
    (∃ text, value = .text text) ∨ ∃ number, value = .int number := by
  unfold validateField at isOk
  dsimp only [PyValue.str] at isOk
  split at isOk
  · rcases exists_text_of_requireText isOk with ⟨text, isText, -⟩
    exact Or.inl ⟨text, isText⟩
  · rename_i notOpaque
    rw [List.find?_eq_none] at notOpaque
    split at isOk
    · split at isOk
      · rename_i number
        exact Or.inr ⟨number, rfl⟩
      · cases isOk
    · rename_i notGeneration
      split at isOk
      · rcases exists_text_of_requireText isOk with ⟨text, isText, -⟩
        exact Or.inl ⟨text, isText⟩
      · rename_i notProfile
        split at isOk
        · rcases exists_text_of_requireText isOk with ⟨text, isText, -⟩
          exact Or.inl ⟨text, isText⟩
        · rename_i notReason
          rcases List.mem_append.mp isChecked with isOpaque | other
          · exact absurd (decide_eq_true rfl) (notOpaque name isOpaque)
          · simp only [List.mem_cons, List.not_mem_nil, or_false] at other
            rcases other with rfl | rfl | rfl
            · exact absurd rfl notGeneration
            · exact absurd rfl notProfile
            · exact absurd rfl notReason

theorem forM_eq_ok {items : PyDict} (isOk : items.forM validateField = .ok ()) :
    ∀ item ∈ items, validateField item = .ok () := by
  induction items with
  | nil => exact fun _ member => absurd member List.not_mem_nil
  | cons item items ih =>
    rcases bind_eq_ok
      (show (validateField item >>= fun _ => items.forM validateField) = .ok () from isOk)
      with ⟨⟨⟩, first, rest⟩
    exact List.forall_mem_cons.mpr ⟨first, ih rest⟩

theorem noPath_of_validateParams {method : Method}
    (textKeys : (PyValue.dict params).Everywhere PyValue.TextKeys)
    (isOk : validateParams interpreter sourceGenerations method params = .ok ()) :
    (PyValue.dict params).Everywhere NoPath := by
  unfold validateParams at isOk
  rcases bind_eq_ok isOk with ⟨⟨⟩, keys, isOk⟩
  rcases bind_eq_ok isOk with ⟨⟨⟩, searched, isOk⟩
  rcases bind_eq_ok isOk with ⟨⟨⟩, fields, -⟩
  have fields := forM_eq_ok fields
  have searched := noPath_of_find?_eq_none (rejectPathlike_eq_ok_iff.mp searched)
  refine (everywhere_noPath_iff textKeys searched).mpr ?_
  rw [PyValue.everywhere_dict_iff] at textKeys ⊢
  have named : ∀ item ∈ params, ∃ name ∈ methodParamKeys method, item.1 = .str name := by
    intro item member
    rcases textKeys.1 item member with ⟨text, isText⟩
    have isKey : text ∈ keysOf params := mem_keysOf.mpr ⟨item.2, by rw [← isText]; exact member⟩
    rcases (requireKeys_eq_ok keys).2 text isKey with ⟨name, isAllowed, rfl⟩
    exact ⟨name, isAllowed, isText⟩
  have namesFree : ∀ name ∈ checkedFields, ¬IsPathlike (.ofString name) := by decide
  constructor
  · intro item member
    rcases named item member with ⟨name, isAllowed, isName⟩
    rw [isName]
    exact namesFree name (mem_checkedFields method name isAllowed)
  · intro item member
    rcases named item member with ⟨name, isAllowed, isName⟩
    have field := fields item member
    rw [show item = (item.1, item.2) from rfl, isName] at field
    refine ⟨by rw [isName]; trivial, ?_⟩
    rcases scalar_of_validateField (mem_checkedFields method name isAllowed) field with
      ⟨text, isText⟩ | ⟨number, isNumber⟩
    · rw [isText]
      trivial
    · rw [isNumber]
      trivial

/-- Two dots are all of a path that the identifier of a request may have. -/
theorem isPathlike_requestId_iff {text : PyStr} (isId : matchesRequestId text = true) :
    IsPathlike text ↔ PyStr.ofString ".." <:+: text := by
  have characters : ∀ point ∈ text, isAlphanumeric point = true ∨ isIn "._:-" point = true := by
    unfold matchesRequestId matchesHead at isId
    split at isId
    · cases isId
    · simp only [Bool.and_eq_true, List.all_eq_true, Bool.or_eq_true] at isId
      exact List.forall_mem_cons.mpr ⟨Or.inl isId.1.1, isId.2⟩
  have never : ∀ point : CodePoint, isAlphanumeric point = false → isIn "._:-" point = false →
      ¬[point] <:+: text := by
    intro point notAlphanumeric notMark within
    rcases characters point (within.subset (List.mem_singleton_self point)) with isChar | isMark
    · rw [notAlphanumeric] at isChar
      cases isChar
    · rw [notMark] at isMark
      cases isMark
  constructor
  · rintro ⟨marker, isMarker, within⟩
    simp only [pathlikeMarkers, List.mem_cons, List.not_mem_nil, or_false] at isMarker
    rcases isMarker with rfl | rfl | rfl | rfl
    · exact absurd within (never (.ofChar '/') (by decide) (by decide))
    · exact absurd within (never (.ofChar '\\') (by decide) (by decide))
    · exact within
    · exact absurd within (never 0 (by decide) (by decide))
  · intro within
    exact ⟨_, by simp [pathlikeMarkers], within⟩

/-- An accepted request is free of paths if and only if its identifier has no two dots in a row. -/
theorem request_noPath_iff {accepted : PyDict}
    (textKeys : (PyValue.dict message).Everywhere PyValue.TextKeys)
    (distinct : (PyValue.dict message).Everywhere PyValue.DistinctKeys)
    (isAccepted : validateRequest interpreter sourceGenerations message = .ok accepted) :
    (PyValue.dict message).Everywhere NoPath ↔
      ∀ text, message.get "request_id" = .text text → ¬PyStr.ofString ".." <:+: text := by
  unfold validateRequest at isAccepted
  rcases bind_eq_ok isAccepted with ⟨⟨⟩, keys, isAccepted⟩
  rcases bind_eq_ok isAccepted with ⟨⟨⟩, version, isAccepted⟩
  rcases bind_eq_ok isAccepted with ⟨⟨⟩, requestId, isAccepted⟩
  rcases bind_eq_ok isAccepted with ⟨⟨⟩, auth, isAccepted⟩
  rcases exists_text_of_requireText requestId with ⟨id, isId, matched⟩
  have inside : ∀ name value, message.get? name = some value →
      value.Everywhere PyValue.TextKeys ∧ value.Everywhere PyValue.DistinctKeys := by
    intro name value isValue
    have member := (PyDict.get?_eq_some_iff (PyValue.everywhere_dict_iff.mp distinct).1).mp isValue
    exact ⟨((PyValue.everywhere_dict_iff.mp textKeys).2 _ member).2,
      ((PyValue.everywhere_dict_iff.mp distinct).2 _ member).2⟩
  constructor
  · intro noPath text isText within
    obtain rfl : text = id := PyValue.text.inj (isText.symm.trans isId)
    rcases mem_keysOf.mp ((requireKeys_eq_ok keys).1 "request_id" (by decide)) with ⟨value, member⟩
    have isValue := (PyDict.get?_eq_some_iff (PyValue.everywhere_dict_iff.mp distinct).1).mpr member
    have free := ((PyValue.everywhere_dict_iff.mp noPath).2 _ member).2
    rw [← get_of_get? isValue, isText] at free
    exact free ((isPathlike_requestId_iff matched).mpr within)
  · intro noDots
    rw [PyValue.everywhere_dict_iff] at textKeys distinct ⊢
    refine ⟨trivial, forall_items keys textKeys.1 distinct.1 ?_⟩
    intro name member
    simp only [requestKeys, List.mem_cons, List.not_mem_nil, or_false] at member
    rcases member with rfl | rfl | rfl | rfl | rfl
    · refine ⟨noPath_text (by decide), fun value isValue => ?_⟩
      rw [get_of_get? isValue] at version
      exact noPath_of_schemaVersion version
    · refine ⟨noPath_text (by decide), fun value isValue => ?_⟩
      rw [← get_of_get? isValue, isId]
      exact fun pathlike => noDots id isId ((isPathlike_requestId_iff matched).mp pathlike)
    · refine ⟨noPath_text (by decide), fun value isValue => ?_⟩
      rw [get_of_get? isValue] at auth
      exact noPath_of_validateAuth (inside _ _ isValue).1 (inside _ _ isValue).2 auth
    · refine ⟨noPath_text (by decide), fun value isValue => ?_⟩
      rw [get_of_get? isValue] at isAccepted
      cases found : method? value with
      | none =>
        rw [found] at isAccepted
        rcases bind_eq_ok isAccepted with ⟨shown, -, impossible⟩
        cases impossible
      | some method =>
        have same := List.find?_some found
        rw [eq_of_eq_text same]
        cases method <;> exact noPath_text (by decide)
    · refine ⟨noPath_text (by decide), fun value isValue => ?_⟩
      cases found : method? (message.get "method") with
      | none =>
        rw [found] at isAccepted
        rcases bind_eq_ok isAccepted with ⟨shown, -, impossible⟩
        cases impossible
      | some method =>
        rw [found, get_of_get? isValue] at isAccepted
        dsimp only at isAccepted
        split at isAccepted
        · rcases bind_eq_ok isAccepted with ⟨⟨⟩, params, -⟩
          exact noPath_of_validateParams (inside _ _ isValue).1 params
        · cases isAccepted

/-! ## Messages -/

/-- When an accepted message is free of paths, and when a check raises another exception than a
`ProtocolError`. -/
theorem messages_iff (interpreter : Interpreter) (sourceGenerations : PyStr → Option ℤ)
    (message : PyDict) (textKeys : (PyValue.dict message).Everywhere PyValue.TextKeys)
    (distinct : (PyValue.dict message).Everywhere PyValue.DistinctKeys) :
    (∀ accepted, validateRequest interpreter sourceGenerations message = .ok accepted →
      ((PyValue.dict message).Everywhere NoPath ↔
        ∀ text, message.get "request_id" = .text text → ¬PyStr.ofString ".." <:+: text)) ∧
    (∀ accepted, validateResponse interpreter message = .ok accepted →
      ((PyValue.dict message).Everywhere NoPath ↔ (PyValue.dict message).Everywhere NoPathKeys)) ∧
    (Crashes (validateRequest interpreter sourceGenerations message) ↔
      RequestCrash interpreter sourceGenerations message) ∧
    (Crashes (validateResponse interpreter message) ↔ ResponseCrash interpreter message) :=
  ⟨fun _ accepted => request_noPath_iff textKeys distinct accepted,
    fun _ accepted => response_noPath_iff textKeys accepted, crashes_validateRequest,
    crashes_validateResponse⟩

def sampleInterpreter : Interpreter where
  display := { isPrintable := fun _ => false, other := [] }
  callDepth := 900
  reprDepth := 900

/-- A success whose result has a device path for a key. -/
def pathKeyResponse : PyDict :=
  [(.str "schema_version", .int 1), (.str "request_id", .str "r"), (.str "ok", .bool true),
    (.str "result", .dict [(.str "/dev/sda", .int 1)])]

/-- A failure whose code is a list. -/
def listCodeResponse : PyDict :=
  [(.str "schema_version", .int 1), (.str "request_id", .str "r"), (.str "ok", .bool false),
    (.str "error", .dict [(.str "code", .list []), (.str "message", .str "m")])]

theorem accepts_pathKeyResponse :
    validateResponse sampleInterpreter pathKeyResponse = .ok pathKeyResponse := by rfl

theorem crashes_listCodeResponse : Crashes (validateResponse sampleInterpreter listCodeResponse) :=
  ⟨.typeError, by rfl⟩

theorem textKeys_pathKeyResponse : (PyValue.dict pathKeyResponse).Everywhere PyValue.TextKeys := by
  simp [pathKeyResponse, PyValue.TextKeys, PyValue.Everywhere, PyValue.EverywherePairs, PyValue.str]

theorem distinctKeys_pathKeyResponse :
    (PyValue.dict pathKeyResponse).Everywhere PyValue.DistinctKeys := by
  have keys : (["schema_version", "request_id", "ok", "result"].map PyStr.ofString).Nodup := by
    decide
  have distinct := keys.map fun _ _ => PyValue.text.inj
  simpa [pathKeyResponse, PyValue.DistinctKeys, PyValue.Everywhere, PyValue.EverywherePairs,
    PyValue.str] using distinct

theorem messages_iff_pathKeyResponse : (PyValue.dict pathKeyResponse).Everywhere NoPath ↔
      (PyValue.dict pathKeyResponse).Everywhere NoPathKeys :=
  (messages_iff sampleInterpreter (fun _ => none) pathKeyResponse textKeys_pathKeyResponse
    distinctKeys_pathKeyResponse).2.1 pathKeyResponse accepts_pathKeyResponse

theorem messages_leak_and_crash : (¬∀ (interpreter : Interpreter) (message accepted : PyDict),
      (PyValue.dict message).Everywhere PyValue.TextKeys →
      (PyValue.dict message).Everywhere PyValue.DistinctKeys →
      validateResponse interpreter message = .ok accepted →
        (PyValue.dict message).Everywhere NoPath) ∧
    ¬∀ (interpreter : Interpreter) (message : PyDict),
      ¬Crashes (validateResponse interpreter message) := by
  constructor
  · intro safe
    have free := safe sampleInterpreter pathKeyResponse pathKeyResponse textKeys_pathKeyResponse
      distinctKeys_pathKeyResponse accepts_pathKeyResponse
    simp only [pathKeyResponse, PyValue.everywhere_dict_iff, List.forall_mem_cons] at free
    have device : NoPath (.str "/dev/sda") := free.2.2.2.2.1.2.2.1.1
    exact device (by decide)
  · intro safe
    exact safe sampleInterpreter listCodeResponse crashes_listCodeResponse

end Reperio.Hostd.Protocol
