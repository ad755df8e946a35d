import Reperio.Encoding.Chunks
import Reperio.Python.Value

/-!
# Chunks of a text

`chunk_text` of `worker/ai_budget.py`: a text is cut into chunks that a provider takes, each
with some characters of the one before it. The chunks are overlapping windows that cover
the text (`exists_chunkText`).
-/

namespace Reperio.Worker

open Python Encoding

/-- `AiBudgetError`. -/
structure AiBudgetError where
  code : String
  message : String
  deriving DecidableEq

/-! ## Chunking -/

/-- The loop of `chunk_text` from a position on. The next position is never the same one, so that
the second exit of the loop is not taken. -/
def chunksFrom (text : PyStr) (maxChars overlap start : ℕ) : List PyStr :=
  if start < text.length then
    let stop := min (start + maxChars) text.length
    let chunk := (text.drop start).take (stop - start)
    let chunks := if chunk ≠ [] then [chunk] else []
    if text.length ≤ stop then chunks
    else
      let nextStart := max (start + 1) (stop - overlap)
      if nextStart ≤ start then chunks
      else chunks ++ chunksFrom text maxChars overlap nextStart
  else []
termination_by text.length - start
decreasing_by omega

def chunkText (text : PyStr) (maxChars overlap : ℤ) : Except AiBudgetError (List PyStr) :=
  if maxChars ≤ 0 ∨ overlap < 0 ∨ maxChars ≤ overlap then
    .error ⟨"invalid_chunk_limits", "chunk limits are invalid"⟩
  else if text = [] then .ok []
  else .ok (chunksFrom text maxChars.toNat overlap.toNat 0)

/-! ## Windows -/

section

variable {text : PyStr} {maxChars overlap start : ℕ}

/-- The loop ends with the text where a chunk reaches its end. -/
theorem chunksFrom_last (before : start < text.length) (reaches : text.length ≤ start + maxChars) :
    chunksFrom text maxChars overlap start = [Window.of text ⟨start, text.length⟩] := by
  have notEmpty : (text.drop start).take (text.length - start) ≠ [] := by
    rw [← List.length_pos_iff_ne_nil, List.length_take, List.length_drop]
    omega
  rw [chunksFrom, if_pos before]
  simp only [min_eq_right reaches, le_refl, if_true]
  rw [if_pos notEmpty]
  rfl

/-- Otherwise it goes on before the end of the chunk. -/
theorem chunksFrom_more (small : overlap < maxChars) (inside : start + maxChars < text.length) :
    chunksFrom text maxChars overlap start = Window.of text ⟨start, start + maxChars⟩ ::
      chunksFrom text maxChars overlap (start + maxChars - overlap) := by
  have notEmpty : (text.drop start).take (start + maxChars - start) ≠ [] := by
    rw [← List.length_pos_iff_ne_nil, List.length_take, List.length_drop]
    omega
  have next : max (start + 1) (start + maxChars - overlap) = start + maxChars - overlap := by omega
  rw [chunksFrom, if_pos (by omega)]
  simp only [min_eq_left inside.le]
  rw [if_pos notEmpty, if_neg (by omega), next, if_neg (by omega)]
  rfl

/-- The chunks are windows of at most that size which cover the rest of the text. -/
theorem exists_windows (small : overlap < maxChars) (before : start < text.length) :
    ∃ windows, chunksFrom text maxChars overlap start = windows.map (Window.of text) ∧
      Cover text.length overlap start windows ∧
      ∀ window ∈ windows, window.stop ≤ window.start + maxChars := by
  induction left : text.length - start using Nat.strong_induction_on generalizing start with
  | _ left ih =>
    by_cases reaches : text.length ≤ start + maxChars
    · refine ⟨[⟨start, text.length⟩], chunksFrom_last before reaches, .last before, ?_⟩
      intro window isLast
      rw [List.mem_singleton.mp isLast]
      exact reaches
    · have inside : start + maxChars < text.length := not_le.mp reaches
      obtain ⟨windows, same, cover, sized⟩ := ih (text.length - (start + maxChars - overlap))
        (by omega) (by omega) rfl
      refine ⟨⟨start, start + maxChars⟩ :: windows, ?_, ?_, ?_⟩
      · rw [chunksFrom_more small inside, same]
        rfl
      · exact .more (by omega) inside (by omega) cover
      · rw [List.forall_mem_cons]
        exact ⟨le_refl _, sized⟩

end

/-- What stands in the windows covers a text in chunks: none is empty or too long, the first begins
with the text and the last ends with it, each other one begins exactly so many characters before the
end of the one in front of it, and without these characters they are the text again. -/
structure CoversText (text : PyStr) (maxChars overlap : ℤ) (windows : List Window) : Prop where
  sized : ∀ window ∈ windows, window.of text ≠ [] ∧ ((window.of text).length : ℤ) ≤ maxChars ∧
    window.start + (window.of text).length = window.stop
  chained : windows.IsChain fun window next => (next.start : ℤ) = window.stop - overlap
  ends : text ≠ [] → windows.head?.map Window.start = some 0 ∧
    windows.getLast?.map Window.stop = some text.length
  whole : (windows.map (Window.of text)).head?.getD [] ++
    (windows.map (Window.of text)).tail.flatMap (List.drop overlap.toNat) = text

theorem exists_chunkText (text : PyStr) {maxChars overlap : ℤ} (positive : 0 < maxChars)
    (nonneg : 0 ≤ overlap) (small : overlap < maxChars) :
    ∃ windows, chunkText text maxChars overlap = .ok (windows.map (Window.of text)) ∧
      CoversText text maxChars overlap windows := by
  have accepted : ¬(maxChars ≤ 0 ∨ overlap < 0 ∨ maxChars ≤ overlap) := by omega
  rw [chunkText, if_neg accepted]
  by_cases empty : text = []
  · rw [if_pos empty]
    exact ⟨[], rfl, nofun, .nil, fun some => absurd empty some, empty.symm⟩
  · rw [if_neg empty]
    have lessOverlap : overlap.toNat < maxChars.toNat := by omega
    obtain ⟨windows, same, cover, sized⟩ :=
      exists_windows lessOverlap (List.length_pos_iff_ne_nil.mpr empty)
    refine ⟨windows, congrArg Except.ok same, ?_, ?_, fun _ => ⟨?_, cover.reaches_end⟩,
      cover.reassemble⟩
    · intro window isIn
      have inside := cover.inside window isIn
      have size := sized window isIn
      have length : (window.of text).length = window.stop - window.start :=
        Window.length_of inside.2
      refine ⟨?_, by omega, by omega⟩
      rw [← List.length_pos_iff_ne_nil]
      omega
    · refine cover.chained.imp fun window next isNext => ?_
      omega
    · obtain ⟨stop, rest, rfl⟩ := cover.exists_first
      rfl

/-- Seven characters in chunks of four with an overlap of two. -/
theorem exists_chunkText_seven : ∃ windows, chunkText (PyStr.ofString "abcdefg") 4 2 =
        .ok (windows.map (Window.of (PyStr.ofString "abcdefg"))) ∧
      CoversText (PyStr.ofString "abcdefg") 4 2 windows :=
  exists_chunkText (PyStr.ofString "abcdefg") (by decide) (by decide) (by decide)

end Reperio.Worker
