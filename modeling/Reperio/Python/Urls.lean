import Mathlib.Data.List.Basic
import Reperio.Python.IpAddress
import Reperio.Python.Patterns
import Reperio.Python.Value

/-!
# Parts of a URL

What `urllib.parse.urlsplit` takes for the network location of a URL and for its host
name. The checks of a location that differ between versions of the interpreter are a
parameter, and so is lower case. A text can be encoded exactly when it has no surrogate.
-/

namespace Reperio.Python

/-- What the interpreter does with a URL. -/
structure UrlRules where
  lower : PyStr → PyStr
  -- `_check_bracketed_netloc` and `_checknetloc` do not raise
  allowsNetloc : PyStr → Bool

namespace Urls

/-- What is in front of the first such character. -/
def upTo (mark : Char) (text : PyStr) : PyStr := text.takeWhile fun point => point ≠ .ofChar mark

/-- What is behind the first such character. -/
def behind (mark : Char) (text : PyStr) : PyStr :=
  (text.dropWhile fun point => point ≠ .ofChar mark).tail

/-- What is behind the last such character, or the whole text. -/
def behindLast (mark : Char) (text : PyStr) : PyStr :=
  (text.reverse.takeWhile fun point => point ≠ .ofChar mark).reverse

def isAsciiLetter (point : CodePoint) : Bool :=
  decide (0x41 ≤ point.val ∧ point.val ≤ 0x5A) || decide (0x61 ≤ point.val ∧ point.val ≤ 0x7A)

def isSchemeChar (point : CodePoint) : Bool :=
  isAsciiLetter point || decide (0x30 ≤ point.val ∧ point.val ≤ 0x39) ||
    decide (point ∈ PyStr.ofString "+-.")

/-- The URL behind its scheme, if it has one. -/
def withoutScheme (url : PyStr) : PyStr := let scheme := upTo ':' url
  if .ofChar ':' ∈ url ∧ scheme.head?.any isAsciiLetter ∧
    scheme.all isSchemeChar then behind ':' url
  else url

/-- Up to the path, the query or the fragment. -/
def authorityPart (url : PyStr) : PyStr :=
  url.takeWhile fun point => decide (point ∉ PyStr.ofString "/?#")

/-- `urlsplit(url).netloc`, if the checks of it do not raise. -/
def netloc (url : PyStr) : PyStr :=
  let kept := (url.dropWhile fun point => decide (point.val ≤ 0x20)).filter fun point =>
    decide (point.val ∉ [9, 10, 13])
  let rest := withoutScheme kept
  if (PyStr.ofString "//").isPrefixOf rest then authorityPart (rest.drop 2) else []

/-- `urlsplit(url)` does not raise. -/
def isSplittable (rules : UrlRules) (url : PyStr) : Bool :=
  decide (.ofChar '[' ∈ netloc url ↔ .ofChar ']' ∈ netloc url) && rules.allowsNetloc (netloc url)

/-- The host of a network location without its port: between brackets, or up to a colon. -/
def hostPart (hostinfo : PyStr) : PyStr :=
  if .ofChar '[' ∈ hostinfo then upTo ']' (behind '[' hostinfo) else upTo ':' hostinfo

/-- `urlsplit(url).hostname`. -/
def hostname (rules : UrlRules) (netloc : PyStr) : Option PyStr :=
  let name := hostPart (behindLast '@' netloc)
  if name = [] then none
  else some (rules.lower (upTo '%' name) ++ name.dropWhile fun point => point ≠ .ofChar '%')

end Urls

/-! ## Texts without surrogates -/

/-- The text has no surrogate, so that it can be encoded. -/
def PyStr.IsScalar (text : PyStr) : Prop := ∀ point ∈ text, point.val < 0xD800 ∨ 0xE000 ≤ point.val

namespace Urls

theorem toString?_isSome_iff {text : PyStr} : text.toString?.isSome = true ↔ text.IsScalar := by
  unfold PyStr.toString?
  split
  · rename_i scalar
    rw [List.all_eq_true] at scalar
    exact ⟨fun _ point isIn => of_decide_eq_true (scalar point isIn), fun _ => rfl⟩
  · rename_i surrogate
    refine ⟨nofun, fun scalar => absurd ?_ surrogate⟩
    exact List.all_eq_true.mpr fun point isIn => decide_eq_true (scalar point isIn)

theorem isScalar_ofChars (chars : List Char) : (PyStr.ofChars chars).IsScalar := by
  intro point isIn
  obtain ⟨char, _, rfl⟩ := List.mem_map.mp isIn
  have valid := char.valid
  have value : (CodePoint.ofChar char).val = char.toNat :=
    Nat.mod_eq_of_lt (by rcases valid with valid | valid <;> simp only [Char.toNat] <;> omega)
  rw [value]
  rcases valid with valid | valid
  · exact Or.inl valid
  · exact Or.inr (Nat.le_of_lt_succ (Nat.succ_lt_succ valid.1))

theorem isScalar_ofString (text : String) : (PyStr.ofString text).IsScalar :=
  isScalar_ofChars text.toList

theorem isScalar_append {first second : PyStr} :
    (first ++ second).IsScalar ↔ first.IsScalar ∧ second.IsScalar :=
  List.forall_mem_append

end Urls

end Reperio.Python
