import Reperio.Python.JsonSoundness

/-!
# Reading back what was written

What the encoder writes, however it is laid out, spells the value up to surrogates that are
joined (`Json.spells_renderLaid`), and so is read back.
-/

namespace Reperio.Python

variable {rest : List Char} {limit : ℕ}

/-! ## Values -/

namespace Json

mutual

/-- The value that is read back. -/
def joined : Json → Json
  | text points => text points.joined
  | list items => list (joinedItems items)
  | object members => object (joinedMembers members)
  | json => json

def joinedItems : List Json → List Json
  | [] => []
  | item :: items => joined item :: joinedItems items

def joinedMembers : List (PyStr × Json) → List (PyStr × Json)
  | [] => []
  | (key, value) :: members => (key.joined, joined value) :: joinedMembers members

end

end Json

/-! ## Layouts -/

/-- Where the encoder puts blanks: before the first item of a level, after a comma, before the end
of what holds a level, and after a colon. -/
structure Layout where
  first : ℕ → List Char
  next : ℕ → List Char
  last : ℕ → List Char
  colon : List Char
  areBlank : ∀ level, first level ++ next level ++ last level ++ colon ⊆ blanks

namespace Json

variable (layout : Layout)

mutual

def renderLaid : ℕ → Json → List Char
  | level, list items =>
    '[' :: ((if items.isEmpty then [] else layout.first (level + 1)) ++
      renderLaidItems (level + 1) items)
  | level, object members =>
    '{' :: ((if members.isEmpty then [] else layout.first (level + 1)) ++
      renderLaidMembers (level + 1) members)
  | _, json => json.render

/-- The items of an array up to its end. -/
def renderLaidItems : ℕ → List Json → List Char
  | _, [] => [']']
  | level, [item] => renderLaid level item ++ (layout.last level ++ [']'])
  | level, item :: other :: items =>
    renderLaid level item ++ ',' :: (layout.next level ++ renderLaidItems level (other :: items))

/-- The members of an object up to its end. -/
def renderLaidMembers : ℕ → List (PyStr × Json) → List Char
  | _, [] => ['}']
  | level, [(key, value)] =>
    quote key ++ ':' :: (layout.colon ++ (renderLaid level value ++ (layout.last level ++ ['}'])))
  | level, (key, value) :: other :: members =>
    quote key ++ ':' :: (layout.colon ++ (renderLaid level value ++
      ',' :: (layout.next level ++ renderLaidMembers level (other :: members))))

end

end Json

/-! ### Blanks -/

variable {layout : Layout} {level : ℕ}

namespace Layout

theorem first_subset (layout : Layout) (level : ℕ) : layout.first level ⊆ blanks := fun _ isChar =>
  layout.areBlank level (by simp [isChar])

theorem next_subset (layout : Layout) (level : ℕ) : layout.next level ⊆ blanks := fun _ isChar =>
  layout.areBlank level (by simp [isChar])

theorem last_subset (layout : Layout) (level : ℕ) : layout.last level ⊆ blanks := fun _ isChar =>
  layout.areBlank level (by simp [isChar])

theorem colon_subset (layout : Layout) : layout.colon ⊆ blanks := fun _ isChar =>
  layout.areBlank 0 (by simp [isChar])

end Layout

/-! ### Reading back -/

namespace Json

variable {allowNan : Bool}

theorem spells_renderInt (value : ℤ) (ends : Ends rest) :
    Spells (.value (int value)) (renderInt value ++ rest) rest := by
  have magnitude : signed (decide (value < 0)) value.natAbs = value := by
    simp only [signed, decide_eq_true_eq]
    split <;> omega
  have spells := SpellsNumber.int (decide (value < 0)) value.natAbs ends
  simp only [magnitude, decide_eq_true_eq] at spells
  rw [renderInt, List.append_assoc]
  exact .number spells

theorem spells_renderFloat (value : PyFloat) (ends : Ends rest) :
    Spells (.value (float value)) (renderFloat value.val ++ rest) rest := by
  match value with
  | ⟨.nan, _⟩ => exact @Spells.literal ['N', 'a', 'N'] rest (.float .nan) (by simp [literals])
  | ⟨.infinity true, _⟩ =>
    exact @Spells.literal ['-', 'I', 'n', 'f', 'i', 'n', 'i', 't', 'y'] rest
      (.float (.infinity true)) (by simp [literals])
  | ⟨.infinity false, _⟩ =>
    exact @Spells.literal ['I', 'n', 'f', 'i', 'n', 'i', 't', 'y'] rest
      (.float (.infinity false)) (by simp [literals])
  | ⟨.finite negative digits exponent, readsBack⟩ =>
    have same : PyFloat.read negative digits exponent =
        ⟨.finite negative digits exponent, readsBack⟩ := Subtype.ext readsBack
    have tells := scanNumber_tells 0 (reprFinite negative digits exponent ++ rest)
    rw [scanNumber_reprFinite negative digits exponent ends, same] at tells
    exact (tells ends).1

theorem exists_units_quote (points : PyStr) (rest : List Char) :
    ∃ units, SpellsUnits (points.flatMap (fun point => escapePoint point.val) ++ '"' :: rest) units
      rest ∧ joinSurrogates units = points.joined := by
  have tells :=
    scanString_tells (points.flatMap (fun point => escapePoint point.val) ++ '"' :: rest)
  rw [scanString_quote] at tells
  exact tells

variable (layout)

mutual

/-- What the encoder writes spells the value. -/
theorem spells_renderLaid (json : Json) (level : ℕ) {rest : List Char} (ends : Ends rest) :
    Spells (.value json.joined) (json.renderLaid layout level ++ rest) rest := by
  match json with
  | null => exact @Spells.literal ['n', 'u', 'l', 'l'] rest .null (by simp [literals])
  | bool true => exact @Spells.literal ['t', 'r', 'u', 'e'] rest (.bool true) (by simp [literals])
  | bool false =>
    exact @Spells.literal ['f', 'a', 'l', 's', 'e'] rest (.bool false) (by simp [literals])
  | int value => exact spells_renderInt value ends
  | float value => exact spells_renderFloat value ends
  | text points =>
    rcases exists_units_quote points rest with ⟨units, spells, joined⟩
    change Spells (.value (text points.joined)) (quote points ++ rest) rest
    rw [quote, List.cons_append, List.append_assoc, List.singleton_append, ← joined]
    exact .text spells
  | list [] => exact .emptyList (List.nil_subset _)
  | object [] => exact .emptyObject (List.nil_subset _)
  | list (item :: items) =>
    rw [renderLaid, List.cons_append, List.append_assoc]
    exact .list (layout.first_subset _)
      (spells_renderLaidItems (item :: items) (List.cons_ne_nil _ _) (level + 1) rest)
  | object (member :: members) =>
    rw [renderLaid, List.cons_append, List.append_assoc]
    exact .object (layout.first_subset _)
      (spells_renderLaidMembers (member :: members) (List.cons_ne_nil _ _) (level + 1) rest)

theorem spells_renderLaidItems (items : List Json) (nonempty : items ≠ []) (level : ℕ)
    (rest : List Char) :
    Spells (.items (joinedItems items)) (renderLaidItems layout level items ++ rest) rest := by
  match items with
  | [] => exact absurd rfl nonempty
  | [item] =>
    have blank := layout.last_subset level
    rw [renderLaidItems, List.append_assoc, List.append_assoc, List.singleton_append]
    exact .lastItem blank (spells_renderLaid item level (ends_before blank (by decide)))
  | item :: other :: items =>
    rw [renderLaidItems, List.append_assoc, List.cons_append, List.append_assoc]
    exact @Spells.nextItem _ _ _ [] _ _ _ (layout.next_subset level)
      (spells_renderLaid item level (@ends_before [] _ _ (List.nil_subset _) (by decide)))
      (spells_renderLaidItems (other :: items) (List.cons_ne_nil _ _) level rest)

theorem spells_renderLaidMembers (members : List (PyStr × Json)) (nonempty : members ≠ [])
    (level : ℕ) (rest : List Char) :
    Spells (.members (joinedMembers members)) (renderLaidMembers layout level members ++ rest)
      rest := by
  match members with
  | [] => exact absurd rfl nonempty
  | [(key, value)] =>
    have blank := layout.last_subset level
    rcases exists_units_quote key (':' :: (layout.colon ++ (renderLaid layout level value ++
      (layout.last level ++ '\x7d' :: rest)))) with ⟨units, spells, joined⟩
    rw [renderLaidMembers, quote]
    simp only [List.cons_append, List.append_assoc, List.nil_append]
    rw [joinedMembers, ← joined]
    exact @Spells.lastMember _ _ _ [] _ _ _ _ (List.append_subset.mpr ⟨layout.colon_subset, blank⟩)
      spells (spells_renderLaid value level (ends_before blank (by decide)))
  | (key, value) :: other :: members =>
    rcases exists_units_quote key (':' :: (layout.colon ++ (renderLaid layout level value ++
      ',' :: (layout.next level ++ (renderLaidMembers layout level (other :: members) ++ rest)))))
      with ⟨units, spells, joined⟩
    rw [renderLaidMembers, quote]
    simp only [List.cons_append, List.append_assoc, List.nil_append]
    rw [joinedMembers, ← joined]
    refine @Spells.nextMember _ _ _ _ [] _ _ [] _ _ _ ?_ spells
      (spells_renderLaid value level (@ends_before [] _ _ (List.nil_subset _) (by decide)))
      (spells_renderLaidMembers (other :: members) (List.cons_ne_nil _ _) level rest)
    rw [List.nil_append, List.append_nil]
    exact List.append_subset.mpr ⟨layout.colon_subset, layout.next_subset level⟩

end

mutual

theorem Fits.joined {json : Json} {limit : ℕ} (fits : Fits allowNan limit json) :
    Fits true limit json.joined := by
  match json with
  | null | bool _ | text _ => trivial
  | int value => exact fits
  | float value =>
    change value.allowed true = true
    rw [PyFloat.allowed]
    split <;> rfl
  | list items => exact ⟨fits.1, FitsItems.joined fits.2⟩
  | object members => exact ⟨fits.1, FitsMembers.joined fits.2⟩

theorem FitsItems.joined {items : List Json} {limit : ℕ} (fits : FitsItems allowNan limit items) :
    FitsItems true limit (joinedItems items) := by
  match items with
  | [] => trivial
  | item :: items => exact ⟨Fits.joined fits.1, FitsItems.joined fits.2⟩

theorem FitsMembers.joined {members : List (PyStr × Json)} {limit : ℕ}
    (fits : FitsMembers allowNan limit members) :
    FitsMembers true limit (joinedMembers members) := by
  match members with
  | [] => trivial
  | (key, value) :: members => exact ⟨Fits.joined fits.1, FitsMembers.joined fits.2⟩

end

/-- The decoder reads back what the encoder wrote, blanks behind it or not. -/
theorem parse_renderLaid_append {json : Json} (fits : Fits allowNan limit json) (level : ℕ)
    {after : List Char} (areBlank : after ⊆ blanks) :
    parse limit (json.renderLaid layout level ++ after) = .ok json.joined := by
  have spells := spells_renderLaid layout json level (ends_of_blanks areBlank)
  exact parse_eq_ok_iff.mpr ⟨⟨[], _, after, List.nil_subset _, areBlank, rfl, spells⟩, fits.joined⟩

variable {layout}

/-- The decoder reads back what the encoder wrote. -/
theorem parse_renderLaid {json : Json} (fits : Fits allowNan limit json) :
    parse limit (json.renderLaid layout level) = .ok json.joined := by
  have read := parse_renderLaid_append layout fits level (List.nil_subset _)
  rwa [List.append_nil] at read

end Json

/-! ### Without blanks -/

def Layout.compact : Layout where
  first _ := []
  next _ := []
  last _ := []
  colon := []
  areBlank _ := by decide

namespace Json

mutual

theorem renderLaid_compact (json : Json) (level : ℕ) :
    json.renderLaid .compact level = json.render := by
  match json with
  | null | bool value | int value | float value | text points => rfl
  | list items =>
    rw [renderLaid, render, renderLaidItems_compact items (level + 1)]
    cases items <;> rfl
  | object members =>
    rw [renderLaid, render, renderLaidMembers_compact members (level + 1)]
    cases members <;> rfl

theorem renderLaidItems_compact (items : List Json) (level : ℕ) :
    renderLaidItems .compact level items = renderItems items := by
  match items with
  | [] => rfl
  | [item] =>
    rw [renderItems, renderLaidItems, renderLaid_compact item level]
    rfl
  | item :: other :: items =>
    rw [renderItems, renderLaidItems, renderLaid_compact item level,
      renderLaidItems_compact (other :: items) level]
    rfl

theorem renderLaidMembers_compact (members : List (PyStr × Json)) (level : ℕ) :
    renderLaidMembers .compact level members = renderMembers members := by
  match members with
  | [] => rfl
  | [(key, value)] =>
    rw [renderMembers, renderLaidMembers, renderLaid_compact value level]
    rfl
  | (key, value) :: other :: members =>
    rw [renderMembers, renderLaidMembers, renderLaid_compact value level,
      renderLaidMembers_compact (other :: members) level]
    rfl

end

/-- The decoder reads back what the encoder wrote. -/
theorem parse_render {json : Json} (fits : Fits allowNan limit json) :
    parse limit json.render = .ok json.joined :=
  renderLaid_compact json 0 ▸ parse_renderLaid fits

mutual

@[simp]
theorem render_joined (json : Json) : json.joined.render = json.render := by
  match json with
  | null => rfl
  | bool value => rfl
  | int value => rfl
  | float value => rfl
  | text points => exact quote_joined points
  | list items => rw [joined, render, renderItems_joined, render]
  | object members => rw [joined, render, renderMembers_joined, render]

theorem renderItems_joined (items : List Json) :
    renderItems (joinedItems items) = renderItems items := by
  match items with
  | [] => rfl
  | [item] => rw [joinedItems, joinedItems, renderItems, render_joined, renderItems]
  | item :: other :: items =>
    have rest := renderItems_joined (other :: items)
    rw [joinedItems] at rest
    rw [joinedItems, joinedItems, renderItems, render_joined, rest, renderItems]

theorem renderMembers_joined (members : List (PyStr × Json)) :
    renderMembers (joinedMembers members) = renderMembers members := by
  match members with
  | [] => rfl
  | [(key, value)] =>
    rw [joinedMembers, joinedMembers, renderMembers, render_joined, quote_joined, renderMembers]
  | (key, value) :: (next, other) :: members =>
    have rest := renderMembers_joined ((next, other) :: members)
    rw [joinedMembers] at rest
    rw [joinedMembers, joinedMembers, renderMembers, render_joined, quote_joined, rest,
      renderMembers]

end

/-- Two values with one text are read as the same value. -/
theorem joined_eq_of_render_eq {first second : Json} (firstFits : Fits allowNan limit first)
    (secondFits : Fits allowNan limit second) (same : first.render = second.render) :
    first.joined = second.joined := by
  have read := parse_render secondFits
  rw [← same, parse_render firstFits] at read
  exact Except.ok.inj read

end Json

end Reperio.Python
