import Reperio.Hostd.LiveInspection
import Reperio.Python.PurePath

/-!
# The mount table as a text

How the kernel writes a mount, and when it is seen. A mount whose fields have no
white space is read as what it is if its path is accepted; the line of any other
mount is torn, and each of its pieces is taken for a line (`exists_readAs_iff`).
-/

namespace Reperio.Hostd

open Python

/-! ## The kernel -/

/-- A mount as the kernel knows it. -/
structure KernelMount where
  mountId : ℕ
  parentId : ℕ
  majorMinor : PyStr
  valid : validMajorMinor majorMinor = true
  root : PyStr
  mountPoint : PyStr
  isReadOnly : Bool
  flags : List PyStr := []
  optionalFields : List PyStr := []
  fstype : PyStr
  source : PyStr
  superOptions : PyStr

/-- Space, tab, newline and backslash are written in octal. -/
def escapePoint (point : CodePoint) : PyStr := if point.val = 32 then .ofString "\\040"
  else if point.val = 9 then .ofString "\\011"
  else if point.val = 10 then .ofString "\\012"
  else if point.val = 92 then .ofString "\\134"
  else [point]

def escapeMountinfo (value : PyStr) : PyStr := value.flatMap escapePoint

/-- The options of a mount, as one field. -/
def KernelMount.options (mount : KernelMount) : PyStr :=
  ((PyStr.ofString (if mount.isReadOnly then "ro" else "rw") :: mount.flags).intersperse
    (.ofString ",")).flatten

def KernelMount.fields (mount : KernelMount) : List PyStr :=
  [.ofChars (Nat.toDigits 10 mount.mountId), .ofChars (Nat.toDigits 10 mount.parentId),
    mount.majorMinor, escapeMountinfo mount.root, escapeMountinfo mount.mountPoint,
    mount.options] ++
  mount.optionalFields ++
  [.ofString "-", escapeMountinfo mount.fstype, escapeMountinfo mount.source, mount.superOptions]

/-- The line of a mount, with its newline. -/
def KernelMount.line (mount : KernelMount) : PyStr :=
  (mount.fields.intersperse (.ofString " ")).flatten ++ [.ofChar '\n']

/-! ## Escapes -/

/-- A character that is not a backslash, or the escape of one. -/
def IsToken (token : PyStr) : Prop := (∃ point, token = [point] ∧ point ≠ .ofChar '\\') ∨
    ∃ first second third, token = [.ofChar '\\', first, second, third] ∧
      first ≠ .ofChar '\\' ∧ second ≠ .ofChar '\\' ∧ third ≠ .ofChar '\\'

theorem not_isPrefixOf {code : PyStr} {first point : CodePoint} {rest : PyStr}
    (different : point ≠ first) : (first :: code).isPrefixOf (point :: rest) = false := by
  rw [List.isPrefixOf, beq_eq_false_iff_ne.mpr (Ne.symm different), Bool.false_and]

theorem replaceFrom_token {first second third decoded : CodePoint} {token : PyStr}
    (isToken : IsToken token) (rest : PyStr) :
    replaceFrom [.ofChar '\\', first, second, third] [decoded] 0 (token ++ rest) =
      (if token = [.ofChar '\\', first, second, third] then [decoded] else token) ++
        replaceFrom [.ofChar '\\', first, second, third] [decoded] 0 rest := by
  rcases isToken with ⟨point, rfl, different⟩ | ⟨one, two, three, rfl, notOne, notTwo, notThree⟩
  · have unequal : [point] ≠ [.ofChar '\\', first, second, third] := by
      intro same
      exact different (List.cons.inj same).1
    rw [if_neg unequal, List.singleton_append, replaceFrom, not_isPrefixOf different]
    rfl
  · by_cases same : [CodePoint.ofChar '\\', one, two, three] = [.ofChar '\\', first, second, third]
    · rw [if_pos same, same]
      simp [replaceFrom, List.isPrefixOf]
    · rw [if_neg same]
      have notPrefix : List.isPrefixOf [CodePoint.ofChar '\\', first, second, third]
          ([CodePoint.ofChar '\\', one, two, three] ++ rest) = false := by
        rw [Bool.eq_false_iff]
        intro isPrefix
        simp only [List.isPrefixOf, List.cons_append, List.nil_append, Bool.and_eq_true, beq_iff_eq,
          and_true] at isPrefix
        exact same (by rw [isPrefix.2.1, isPrefix.2.2.1, isPrefix.2.2.2])
      simp only [List.cons_append, List.nil_append] at notPrefix ⊢
      rw [replaceFrom, notPrefix, if_neg Bool.false_ne_true, replaceFrom, not_isPrefixOf notOne,
        if_neg Bool.false_ne_true, replaceFrom, not_isPrefixOf notTwo, if_neg Bool.false_ne_true,
        replaceFrom, not_isPrefixOf notThree, if_neg Bool.false_ne_true]

/-- One replacement in an escaped text undoes one of the escapes. -/
theorem replaceAll_flatMap {first second third decoded : CodePoint} {escape : CodePoint → PyStr}
    (tokens : ∀ point, IsToken (escape point)) (value : PyStr) :
    replaceAll [.ofChar '\\', first, second, third] [decoded] (value.flatMap escape) =
      value.flatMap fun point =>
        if escape point = [.ofChar '\\', first, second, third] then [decoded]
        else escape point := by
  induction value with
  | nil => rfl
  | cons point value ih =>
    rw [List.flatMap_cons, List.flatMap_cons, ← ih, replaceAll, replaceFrom_token (tokens point)]
    rfl

theorem isToken_escapePoint (point : CodePoint) : IsToken (escapePoint point) := by
  have escapes : ∀ text ∈ ["\\040", "\\011", "\\012", "\\134"], ∃ first second third,
      PyStr.ofString text = [.ofChar '\\', first, second, third] ∧ first ≠ .ofChar '\\' ∧
        second ≠ .ofChar '\\' ∧ third ≠ .ofChar '\\' := by
    simp only [List.forall_mem_cons]
    refine ⟨?_, ?_, ?_, ?_, nofun⟩
    · exact ⟨.ofChar '0', .ofChar '4', .ofChar '0', by decide, by decide, by decide, by decide⟩
    · exact ⟨.ofChar '0', .ofChar '1', .ofChar '1', by decide, by decide, by decide, by decide⟩
    · exact ⟨.ofChar '0', .ofChar '1', .ofChar '2', by decide, by decide, by decide, by decide⟩
    · exact ⟨.ofChar '1', .ofChar '3', .ofChar '4', by decide, by decide, by decide, by decide⟩
  unfold escapePoint
  split
  · exact Or.inr (escapes _ (by simp))
  · split
    · exact Or.inr (escapes _ (by simp))
    · split
      · exact Or.inr (escapes _ (by simp))
      · split
        · exact Or.inr (escapes _ (by simp))
        · rename_i notBackslash
          refine Or.inl ⟨point, rfl, ?_⟩
          rintro rfl
          exact notBackslash rfl

theorem isToken_ite {token code : PyStr} {decoded : CodePoint} (isToken : IsToken token)
    (notBackslash : decoded ≠ .ofChar '\\') :
    IsToken (if token = code then [decoded] else token) := by
  split
  · exact Or.inl ⟨decoded, rfl, notBackslash⟩
  · exact isToken

theorem unescapeMountinfo_escape (value : PyStr) :
    unescapeMountinfo (escapeMountinfo value) = value := by
  have space : PyStr.ofString "\\040" = [.ofChar '\\', .ofChar '0', .ofChar '4', .ofChar '0'] := by
    decide
  have tab : PyStr.ofString "\\011" = [.ofChar '\\', .ofChar '0', .ofChar '1', .ofChar '1'] := by
    decide
  have newline : PyStr.ofString "\\012" =
    [.ofChar '\\', .ofChar '0', .ofChar '1', .ofChar '2'] := by
    decide
  have backslash : PyStr.ofString "\\134" =
    [.ofChar '\\', .ofChar '1', .ofChar '3', .ofChar '4'] := by
    decide
  have decoded : PyStr.ofString " " = [.ofChar ' '] ∧ PyStr.ofString "\t" = [.ofChar '\t'] ∧
      PyStr.ofString "\n" = [.ofChar '\n'] ∧ PyStr.ofString "\\" = [.ofChar '\\'] := by
    decide
  have spaced := fun point => @isToken_ite _ (PyStr.ofString "\\040") (.ofChar ' ')
    (isToken_escapePoint point) (by decide)
  have tabbed := fun point => @isToken_ite _ (PyStr.ofString "\\011") (.ofChar '\t') (spaced point)
    (by decide)
  have broken := fun point => @isToken_ite _ (PyStr.ofString "\\012") (.ofChar '\n') (tabbed point)
    (by decide)
  simp only [space, tab, newline] at spaced tabbed broken
  unfold unescapeMountinfo escapeMountinfo
  simp only [List.foldl_cons, List.foldl_nil]
  rw [decoded.1, decoded.2.1, decoded.2.2.1, decoded.2.2.2, space, tab, newline, backslash,
    replaceAll_flatMap isToken_escapePoint, replaceAll_flatMap spaced, replaceAll_flatMap tabbed,
    replaceAll_flatMap broken, ← space, ← tab, ← newline, ← backslash]
  rw [← List.flatMap_singleton' value]
  simp only [List.flatMap_assoc, List.flatMap_singleton]
  refine List.flatMap_congr fun point _ => ?_
  by_cases isSpace : point.val = 32
  · obtain rfl : point = .ofChar ' ' := Fin.ext isSpace
    decide
  by_cases isTab : point.val = 9
  · obtain rfl : point = .ofChar '\t' := Fin.ext isTab
    decide
  by_cases isNewline : point.val = 10
  · obtain rfl : point = .ofChar '\n' := Fin.ext isNewline
    decide
  by_cases isBackslash : point.val = 92
  · obtain rfl : point = .ofChar '\\' := Fin.ext isBackslash
    decide
  have plain : escapePoint point = [point] := by
    rw [escapePoint, if_neg isSpace, if_neg isTab, if_neg isNewline, if_neg isBackslash]
  rw [plain]
  simp [space, tab, newline, backslash]

/-- A backslash and the three octal digits of a character. -/
def octalEscape (point : CodePoint) : PyStr :=
  .ofChar '\\' :: [64, 8, 1].map fun place => .ofChar (Nat.digitChar (point.val / place % 8))

/-- The characters that the kernel escapes. -/
def mangledPoints : PyStr := [.ofChar ' ', .ofChar '\t', .ofChar '\n', .ofChar '\\']

theorem escapePoint_eq_octal (point : CodePoint) :
    escapePoint point = if point ∈ mangledPoints then octalEscape point else [point] := by
  have escapes : ∀ point ∈ mangledPoints, escapePoint point = octalEscape point := by
    unfold mangledPoints
    simp only [List.forall_mem_cons]
    exact ⟨by decide, by decide, by decide, by decide, nofun⟩
  have values : mangledPoints.map Fin.val = [32, 9, 10, 92] := by decide
  split
  · rename_i isMangled
    exact escapes point isMangled
  · rename_i notMangled
    have notValue : point.val ∉ [32, 9, 10, 92] := by
      rw [← values]
      intro isValue
      obtain ⟨other, isMangled, same⟩ := List.mem_map.mp isValue
      rw [Fin.ext same] at isMangled
      exact notMangled isMangled
    simp only [List.mem_cons, List.not_mem_nil, or_false, not_or] at notValue
    rw [escapePoint, if_neg notValue.1, if_neg notValue.2.1, if_neg notValue.2.2.1,
      if_neg notValue.2.2.2]

/-- Whatever a text looks like, it is read back from what the kernel writes of it. -/
theorem unescapeMountinfo_octal (value : PyStr) : unescapeMountinfo (value.flatMap fun point =>
      if point ∈ mangledPoints then octalEscape point else [point]) = value := by
  simp only [← escapePoint_eq_octal]
  exact unescapeMountinfo_escape value

/-! ## Paths -/

/-- An absolute path of at most 4096 characters, none below 32. -/
def AcceptedPath (path : PyStr) : Prop :=
  path.head? = some (.ofChar '/') ∧ path.length ≤ 4096 ∧ ∀ point ∈ path, 32 ≤ point.val

theorem startsWith_slash (path : PyStr) :
    path.startsWith "/" = true ↔ path.head? = some (.ofChar '/') := by
  have slash : PyStr.ofString "/" = [.ofChar '/'] := by decide
  rw [PyStr.startsWith, slash]
  cases path with
  | nil => simp
  | cons point path =>
    rw [List.isPrefixOf, List.isPrefixOf, Bool.and_true, beq_iff_eq, List.head?_cons,
      Option.some_inj, eq_comm]

theorem normalizePath_eq_some_iff {path normal : PyStr} :
    normalizePath path = some normal ↔ AcceptedPath path ∧ normpath path = normal := by
  rw [normalizePath, AcceptedPath, ← startsWith_slash]
  split
  · rename_i accepted
    simp only [Bool.and_eq_true, decide_eq_true_iff, List.all_eq_true] at accepted
    rw [Option.some_inj]
    exact (and_iff_right ⟨accepted.1.1, accepted.1.2, accepted.2⟩).symm
  · rename_i refused
    refine ⟨nofun, fun both => absurd ?_ refused⟩
    simp only [Bool.and_eq_true, decide_eq_true_iff, List.all_eq_true]
    exact ⟨⟨both.1.1, both.1.2.1⟩, both.1.2.2⟩

/-- The characters of components, each with its slash. -/
def weight (components : List PyStr) : ℕ :=
  (components.map fun component => component.length + 1).sum

theorem weight_splitAt (path : PyStr) : weight (splitAt '/' path) = path.length + 1 := by
  unfold weight splitAt
  rw [List.splitOn_eq_splitOnP]
  induction path with
  | nil => rfl
  | cons point path ih =>
    rw [List.splitOnP_cons_eq_if_modifyHead]
    split
    · rw [List.map_cons, List.sum_cons, ih, List.length_cons, List.length_nil]
      omega
    · rcases List.exists_cons_of_ne_nil (List.splitOnP_ne_nil (· == CodePoint.ofChar '/') path) with
        ⟨first, rest, split⟩
      rw [split, List.map_cons, List.sum_cons] at ih
      rw [split, List.modifyHead_cons, List.map_cons, List.sum_cons, List.length_cons,
        List.length_cons]
      omega

theorem normalComponents_concat (components : List PyStr) (component : PyStr) :
    normalComponents (components ++ [component]) = normalComponents components ∨
      normalComponents (components ++ [component]) = (normalComponents components).dropLast ∨
      normalComponents (components ++ [component]) = normalComponents components ++
        [component] := by
  unfold normalComponents
  rw [List.foldl_append, List.foldl_cons, List.foldl_nil]
  split
  · exact Or.inl rfl
  · split
    · exact Or.inr (Or.inl rfl)
    · exact Or.inr (Or.inr rfl)

theorem weight_append (components more : List PyStr) :
    weight (components ++ more) = weight components + weight more := by
  rw [weight, List.map_append, List.sum_append]
  rfl

/-- Nothing is added to the components, and they get no longer. -/
theorem normalComponents_spec (components : List PyStr) :
    (∀ component ∈ normalComponents components, component ∈ components) ∧
      weight (normalComponents components) ≤ weight components := by
  induction components using List.reverseRecOn with
  | nil => exact ⟨fun _ => id, le_rfl⟩
  | append_singleton components component ih =>
    rcases ih with ⟨isIn, lighter⟩
    rw [weight_append]
    rcases normalComponents_concat components component with same | same | same
    · rw [same]
      exact ⟨fun other isKept => List.mem_append_left _ (isIn other isKept), by omega⟩
    · rw [same]
      refine ⟨fun other isKept => ?_, ?_⟩
      · exact List.mem_append_left _ (isIn other (List.dropLast_subset _ isKept))
      · have shorter := ((List.dropLast_sublist (normalComponents components)).map
          fun component => component.length + 1).sum_le_sum fun _ _ => Nat.zero_le _
        exact (shorter.trans lighter).trans (Nat.le_add_right _ _)
    · rw [same, weight_append]
      refine ⟨fun other isKept => ?_, by omega⟩
      rcases List.mem_append.mp isKept with isKept | isLast
      · exact List.mem_append_left _ (isIn other isKept)
      · exact List.mem_append_right _ isLast

theorem length_joined_le (components : List PyStr) :
    (components.intersperse (.ofString "/")).flatten.length ≤ weight components - 1 := by
  induction components with
  | nil => exact le_rfl
  | cons component components ih =>
    cases components with
    | nil => simp [weight]
    | cons next rest =>
      rw [List.intersperse_cons_cons, List.flatten_cons, List.flatten_cons, List.length_append,
        List.length_append, show (PyStr.ofString "/").length = 1 from rfl]
      simp only [weight, List.map_cons, List.sum_cons] at ih ⊢
      omega

theorem normalComponents_slash (path : PyStr) :
    normalComponents (splitAt '/' (.ofChar '/' :: path)) = normalComponents (splitAt '/' path) := by
  unfold splitAt
  rw [List.splitOn_eq_splitOnP, List.splitOnP_cons_eq_if_modifyHead, if_pos (by rfl),
    ← List.splitOn_eq_splitOnP]
  rfl

theorem length_normpath_le {path : PyStr} (isAbsolute : path.head? = some (.ofChar '/')) :
    (normpath path).length ≤ path.length := by
  have bound : ∀ path, weight (normalComponents (splitAt '/' path)) ≤ path.length + 1 :=
    fun path => (normalComponents_spec _).2.trans (weight_splitAt path).le
  have joined := length_joined_le (normalComponents (splitAt '/' path))
  rw [normpath, List.length_append]
  rcases path with _ | ⟨first, path⟩
  · cases isAbsolute
  obtain rfl := Option.some.inj isAbsolute
  rw [normalComponents_slash] at joined ⊢
  have short := bound path
  split
  · rename_i double
    rcases path with _ | ⟨second, path⟩
    · cases double
    have isSlash : second = .ofChar '/' := by
      have double := (Bool.and_eq_true_iff.mp double).1
      rw [PyStr.startsWith, show PyStr.ofString "//" = [.ofChar '/', .ofChar '/'] from rfl,
        List.isPrefixOf, List.isPrefixOf, List.isPrefixOf, Bool.and_true,
        Bool.and_eq_true] at double
      exact (beq_iff_eq.mp double.2).symm
    rw [isSlash, normalComponents_slash] at joined ⊢
    have shorter := bound path
    rw [show (PyStr.ofString "//").length = 2 from rfl, List.length_cons, List.length_cons]
    omega
  · rw [show (PyStr.ofString "/").length = 1 from rfl, List.length_cons]
    omega

theorem acceptedPath_normpath {path : PyStr} (accepted : AcceptedPath path) :
    AcceptedPath (normpath path) := by
  rcases accepted with ⟨isAbsolute, short, visible⟩
  refine ⟨?_, (length_normpath_le isAbsolute).trans short, fun point isPoint => ?_⟩
  · rw [normpath]
    split
    · rfl
    · rfl
  · rw [normpath] at isPoint
    have slash : 32 ≤ (CodePoint.ofChar '/').val := by decide
    rcases List.mem_append.mp isPoint with isSlash | isPoint
    · split at isSlash
      · simp only [show PyStr.ofString "//" = [.ofChar '/', .ofChar '/'] from rfl, List.mem_cons,
          List.not_mem_nil, or_false, or_self] at isSlash
        exact isSlash ▸ slash
      · exact List.mem_singleton.mp isSlash ▸ slash
    · refine @forall_mem_intercalate _ (fun point : CodePoint => 32 ≤ point.val) _ slash _
        (fun component isKept point inComponent => ?_) point isPoint
      have isPiece := (normalComponents_spec _).1 component isKept
      rw [splitAt, List.splitOn_eq_splitOnP] at isPiece
      exact visible point (forall_mem_of_mem_splitOnP isPiece point inComponent).1

/-! ## Pieces of a line -/

theorem splitOnP_eq_splitlines (text : PyStr) :
    text.splitOnP isLineBreak = splitlines text ∨
      text.splitOnP isLineBreak = splitlines text ++ [[]] := by
  induction text with
  | nil => exact Or.inr rfl
  | cons point text ih =>
    rw [List.splitOnP_cons_eq_if_modifyHead, splitlines]
    split
    · rcases ih with same | same
      · exact Or.inl (by rw [same])
      · exact Or.inr (by rw [same, List.cons_append])
    · rcases ih with same | same
      · rcases List.exists_cons_of_ne_nil (List.splitOnP_ne_nil isLineBreak text) with
          ⟨first, rest, split⟩
        rw [split] at same ⊢
        rw [← same]
        exact Or.inl rfl
      · rw [same]
        cases splitlines text with
        | nil => exact Or.inl rfl
        | cons first rest => exact Or.inr rfl

/-- A carriage return is a break as the newline that it becomes: the pieces are the same, but for
empty ones. -/
theorem filter_splitOnP_translateFrom (afterReturn : Bool) (text : PyStr) :
    ((translateFrom afterReturn text).splitOnP isLineBreak).filter (fun piece => piece ≠ []) =
        (text.splitOnP isLineBreak).filter (fun piece => piece ≠ []) ∧
      (afterReturn = false → ((translateFrom afterReturn text).splitOnP isLineBreak).head? =
        (text.splitOnP isLineBreak).head?) := by
  have newline : isLineBreak (.ofChar '\n') = true := by decide
  induction text generalizing afterReturn with
  | nil => exact ⟨rfl, fun _ => rfl⟩
  | cons point text ih =>
    rw [translateFrom]
    split
    · rename_i isReturn
      have isBreak : isLineBreak point = true := by
        rw [isLineBreak, isReturn]
        decide
      rw [List.splitOnP_cons_eq_if_modifyHead, List.splitOnP_cons_eq_if_modifyHead, if_pos newline,
        if_pos isBreak, List.filter_cons, List.filter_cons, (ih true).1]
      exact ⟨rfl, fun _ => rfl⟩
    · split
      · rename_i isBreak
        rcases Bool.and_eq_true_iff.mp isBreak with ⟨afterReturn, isNewline⟩
        have isBreak : isLineBreak point = true := by
          rw [isLineBreak, beq_iff_eq.mp isNewline]
          decide
        rw [List.splitOnP_cons_eq_if_modifyHead point, if_pos isBreak,
          List.filter_cons_of_neg (by simp)]
        exact ⟨(ih false).1, fun notAfter =>
          absurd afterReturn (by rw [notAfter]; exact Bool.false_ne_true)⟩
      · rcases ih false with ⟨pieces, head⟩
        rw [List.splitOnP_cons_eq_if_modifyHead, List.splitOnP_cons_eq_if_modifyHead]
        split
        · rw [List.filter_cons, List.filter_cons, pieces]
          exact ⟨rfl, fun _ => rfl⟩
        · rcases List.exists_cons_of_ne_nil (List.splitOnP_ne_nil isLineBreak text) with
            ⟨first, rest, isText⟩
          rcases List.exists_cons_of_ne_nil (List.splitOnP_ne_nil isLineBreak
            (translateFrom false text)) with ⟨other, others, isOther⟩
          rw [isText, isOther] at pieces head
          obtain rfl := Option.some.inj (head rfl)
          rw [isText, isOther, List.modifyHead_cons, List.modifyHead_cons, List.filter_cons,
            List.filter_cons]
          refine ⟨congrArg (_ :: ·) ?_, fun _ => rfl⟩
          rw [List.filter_cons, List.filter_cons] at pieces
          split at pieces
          · exact (List.cons.inj pieces).2
          · exact pieces

theorem mem_linesOf_iff {text line : PyStr} (some : line ≠ []) :
    line ∈ linesOf text ↔ line ∈ text.splitOnP isLineBreak := by
  have kept : ∀ pieces : List PyStr, line ∈ pieces ↔ line ∈ pieces.filter fun piece => piece ≠ [] :=
    fun pieces => by simp [some]
  rw [kept (text.splitOnP _), ← (filter_splitOnP_translateFrom false text).1, ← kept]
  rcases splitOnP_eq_splitlines (translateFrom false text) with same | same
  · rw [same]
    rfl
  · rw [same, List.mem_append, List.mem_singleton, or_iff_left some]
    rfl

/-- The pieces of a table are those of its mounts. -/
theorem mem_pieces_table {table : List KernelMount} {piece : PyStr} (some : piece ≠ []) :
    piece ∈ (table.flatMap KernelMount.line).splitOnP isLineBreak ↔
      ∃ mount ∈ table, piece ∈ mount.line.splitOnP isLineBreak := by
  have newline : isLineBreak (.ofChar '\n') = true := by decide
  induction table with
  | nil => simpa using some
  | cons mount table ih =>
    rw [List.flatMap_cons, KernelMount.line, List.append_assoc, List.singleton_append,
      List.splitOnP_append_cons _ _ newline, List.mem_append, List.exists_mem_cons_iff,
      KernelMount.line, List.splitOnP_append_cons _ _ newline, List.splitOnP_nil, List.mem_append,
      List.mem_singleton, or_iff_left some]
    exact or_congr_right ih

/-! ## Mounts that are seen -/

/-- The options name `rw`, or do not name `ro`. -/
def SaysReadWrite (options : PyStr) : Prop :=
  PyStr.ofString "rw" ∈ (splitAt ',' options).map PyStr.strip ∨
    PyStr.ofString "ro" ∉ (splitAt ',' options).map PyStr.strip

/-- The words look like those of a read-write mount of the device: a word stands behind the first
dash, the third word is the number of the device, the fifth an accepted path and the sixth the
options. -/
structure LooksReadWrite (fields : List PyStr) (node : PyStr) : Prop where
  dash : ∃ before fstype after, fields = before ++ .ofString "-" :: fstype :: after ∧
    .ofString "-" ∉ before
  number : fields[2]? = some node
  path : ∃ path, fields[4]? = some path ∧ AcceptedPath (unescapeMountinfo path)
  options : ∃ options, fields[5]? = some options ∧ SaysReadWrite options

/-- No field of the line has white space, or is empty. -/
def KernelMount.Unbroken (mount : KernelMount) : Prop :=
  ∀ field ∈ mount.fields, field ≠ [] ∧ ∀ point ∈ field, point.isSpace = false

/-- The mount is seen as a read-write mount of a device: as what it is, unless white space tears its
line, and otherwise as what a piece of the line looks like. -/
def KernelMount.Seen (mount : KernelMount) (node : PyStr) : Prop :=
  mount.Unbroken ∧ node = mount.majorMinor ∧ SaysReadWrite mount.options ∧
      AcceptedPath mount.mountPoint ∨
    ¬ mount.Unbroken ∧ ∃ piece ∈ mount.line.splitOnP isLineBreak, LooksReadWrite (words piece) node

/-- The interpreter reads a line as a read-write mount of the device. -/
def ReadAs (strings : Strings) (line node : PyStr) : Prop :=
  ∃ record, mountRecord strings line = some record ∧ ∃ shown,
    normalizeMount strings record = some shown ∧ shown.mode = .readWrite ∧ shown.majorMinor = node

variable {strings : Strings} {mount : KernelMount} {node : PyStr}

theorem exists_idxOf?_iff {fields : List PyStr} {mark : PyStr} :
    (∃ index behind, fields.idxOf? mark = some index ∧ fields[index + 1]? = some behind) ↔
      ∃ before behind after, fields = before ++ mark :: behind :: after ∧ mark ∉ before := by
  induction fields with
  | nil => simp
  | cons first fields ih =>
    rw [List.idxOf?_cons]
    by_cases same : first = mark
    · rw [if_pos (beq_iff_eq.mpr same)]
      constructor
      · rintro ⟨index, behind, isIndex, isBehind⟩
        obtain rfl := Option.some.inj isIndex
        rcases fields with _ | ⟨next, fields⟩
        · cases isBehind
        · exact ⟨[], next, fields, by rw [same]; rfl, List.not_mem_nil⟩
      · rintro ⟨before, behind, after, isFields, notBefore⟩
        rcases before with _ | ⟨other, before⟩
        · obtain rfl := (List.cons.inj isFields).2
          exact ⟨0, behind, rfl, rfl⟩
        · rw [← (List.cons.inj isFields).1, same] at notBefore
          exact absurd List.mem_cons_self notBefore
    · rw [if_neg (by simpa using same)]
      constructor
      · rintro ⟨index, behind, isIndex, isBehind⟩
        rcases Option.map_eq_some_iff.mp isIndex with ⟨place, isPlace, rfl⟩
        rcases ih.mp ⟨place, behind, isPlace, isBehind⟩ with ⟨before, behind, after, rfl, notBefore⟩
        refine ⟨first :: before, behind, after, rfl, ?_⟩
        exact List.not_mem_cons_of_ne_of_not_mem (Ne.symm same) notBefore
      · rintro ⟨before, behind, after, isFields, notBefore⟩
        rcases before with _ | ⟨other, before⟩
        · exact absurd (List.cons.inj isFields).1 same
        · rcases ih.mpr ⟨before, behind, after, (List.cons.inj isFields).2,
            fun isIn => notBefore (List.mem_cons_of_mem _ isIn)⟩
              with ⟨index, behind, isIndex, isBehind⟩
          exact ⟨index + 1, behind, by rw [isIndex]; rfl, isBehind⟩

theorem normalizeMount_eq_some_iff {record : PyDict} {majorMinor path : PyStr}
    {shown : StorageMount} (isNumber : strings.field record "major_minor" = majorMinor)
    (isPath : strings.field record "mount_point" = path) :
    normalizeMount strings record = some shown ↔ AcceptedPath path ∧
      validMajorMinor majorMinor = true ∧
      { majorMinor := majorMinor, mountPoint := normpath path, mode := mountMode strings record } =
        shown := by
  rw [normalizeMount, isNumber, isPath]
  cases normal : normalizePath path with
  | none =>
    refine ⟨nofun, fun both => ?_⟩
    rw [normalizePath_eq_some_iff.mpr ⟨both.1, rfl⟩] at normal
    cases normal
  | some found =>
    rcases normalizePath_eq_some_iff.mp normal with ⟨accepted, rfl⟩
    rw [and_iff_right accepted]
    dsimp only
    split
    · rename_i valid
      rw [and_iff_right valid, Option.some_inj]
    · rename_i invalid
      exact ⟨nofun, fun both => absurd both.1 invalid⟩

variable (majorMinor path : PyValue)

theorem mountMode_options (options : PyStr) :
    mountMode strings [(.str "major_minor", majorMinor), (.str "mount_point", path),
      (.str "options", .text options)] = .readWrite ↔ SaysReadWrite options := by
  have isOptions : PyDict.get [(.str "major_minor", majorMinor), (.str "mount_point", path),
      (.str "options", .text options)] "options" = .text options := rfl
  have readOnly : PyDict.get [(.str "major_minor", majorMinor), (.str "mount_point", path),
      (.str "options", .text options)] "read_only" = .none := rfl
  rw [mountMode, isOptions, readOnly, optionSet, SaysReadWrite]
  dsimp only
  split
  · rename_i both
    rw [decide_eq_false_iff_not] at both
    exact ⟨nofun, fun either => either.elim (fun writable => absurd writable both.2)
      fun noReadOnly => absurd both.1 noReadOnly⟩
  · rename_i notBoth
    rw [decide_eq_false_iff_not] at notBoth
    exact ⟨fun _ => by tauto, fun _ => rfl⟩

theorem mountMode_readOnly (flag : Bool) (fstype : PyValue) :
    mountMode strings [(.str "major_minor", majorMinor), (.str "mount_point", path),
      (.str "read_only", .bool flag), (.str "fstype", fstype)] =
        if flag then .readOnly else .readWrite := by
  cases flag <;> rfl

theorem readAs_iff {line : PyStr} :
    ReadAs strings line node ↔ LooksReadWrite (words line) node ∧ validMajorMinor node = true := by
  constructor
  · rintro ⟨record, isRecord, shown, isShown, writable, rfl⟩
    rcases Option.bind_eq_some_iff.mp isRecord with ⟨index, isIndex, isRecord⟩
    rcases Option.bind_eq_some_iff.mp isRecord with ⟨majorMinor, isNumber, isRecord⟩
    rcases Option.bind_eq_some_iff.mp isRecord with ⟨path, isPath, isRecord⟩
    rcases Option.bind_eq_some_iff.mp isRecord with ⟨options, isOptions, isRecord⟩
    rcases Option.bind_eq_some_iff.mp isRecord with ⟨fstype, isFstype, isRecord⟩
    rcases Option.bind_eq_some_iff.mp isRecord with ⟨first, isFirst, isRecord⟩
    obtain rfl := Option.some.inj isRecord
    rcases (normalizeMount_eq_some_iff rfl rfl).mp isFirst with ⟨accepted, valid, rfl⟩
    rcases (normalizeMount_eq_some_iff rfl rfl).mp isShown with ⟨_, _, rfl⟩
    refine ⟨⟨exists_idxOf?_iff.mp ⟨index, fstype, isIndex, isFstype⟩, isNumber,
      ⟨path, isPath, accepted⟩, options, isOptions, ?_⟩, valid⟩
    refine (@mountMode_options strings (.text majorMinor) (.text (unescapeMountinfo path)) _).mp ?_
    dsimp only at writable
    rw [mountMode_readOnly] at writable
    by_contra notWritable
    cases mode : mountMode strings [(.str "major_minor", .text majorMinor),
      (.str "mount_point", .text (unescapeMountinfo path)), (.str "options", .text options)] with
    | readOnly =>
      rw [mode] at writable
      cases writable
    | readWrite => exact notWritable mode
  · rintro ⟨⟨dash, isNumber, ⟨path, isPath, accepted⟩, options, isOptions, writable⟩, valid⟩
    rcases exists_idxOf?_iff.mpr dash with ⟨index, fstype, isIndex, isFstype⟩
    have mode :=
      (@mountMode_options strings (.text node) (.text (unescapeMountinfo path)) _).mpr writable
    have first := (@normalizeMount_eq_some_iff strings [(.str "major_minor", .text node),
      (.str "mount_point", .text (unescapeMountinfo path)), (.str "options", .text options)] _ _ _
        rfl
      rfl).mpr ⟨accepted, valid, rfl⟩
    refine ⟨_, Option.bind_eq_some_iff.mpr
      ⟨index, isIndex, Option.bind_eq_some_iff.mpr ⟨node, isNumber,
      Option.bind_eq_some_iff.mpr ⟨path, isPath, Option.bind_eq_some_iff.mpr ⟨options, isOptions,
      Option.bind_eq_some_iff.mpr
        ⟨fstype, isFstype, Option.bind_eq_some_iff.mpr ⟨_, first, rfl⟩⟩⟩⟩⟩⟩,
      _, (normalizeMount_eq_some_iff rfl rfl).mpr ⟨acceptedPath_normpath accepted, valid, rfl⟩, ?_,
        rfl⟩
    dsimp only
    rw [mountMode_readOnly, mode]
    rfl

/-! ## Lines that are not torn -/

theorem isSpace_of_isLineBreak {point : CodePoint} (isBreak : isLineBreak point = true) :
    point.isSpace = true := by
  rw [isLineBreak, decide_eq_true_iff] at isBreak
  rw [CodePoint.isSpace, Bool.or_eq_true]
  left
  refine decide_eq_true ?_
  simp only [List.mem_cons, List.not_mem_nil, or_false] at isBreak ⊢
  omega

theorem words_flatten {fields : List PyStr}
    (unbroken : ∀ field ∈ fields, field ≠ [] ∧ ∀ point ∈ field, point.isSpace = false) :
    words (fields.intersperse (.ofString " ")).flatten = fields := by
  unfold words
  induction fields with
  | nil => rfl
  | cons field fields ih =>
    rw [List.forall_mem_cons] at unbroken
    have kept : decide (field ≠ []) = true := decide_eq_true unbroken.1.1
    cases fields with
    | nil =>
      rw [List.intersperse_singleton, List.flatten_cons, List.flatten_nil, List.append_nil,
        List.splitOnP_eq_singleton unbroken.1.2, List.filter_cons, if_pos kept, List.filter_nil]
    | cons next rest =>
      have space : PyStr.ofString " " = [.ofChar ' '] := rfl
      rw [List.intersperse_cons_cons, List.flatten_cons, List.flatten_cons, space,
        List.singleton_append, List.splitOnP_append_cons_of_forall_mem unbroken.1.2 _ (by decide),
        List.filter_cons, if_pos kept, ← space, ih unbroken.2]

/-- The line is one piece, with nothing behind its newline. -/
theorem pieces_of_unbroken (unbroken : mount.Unbroken) :
    mount.line.splitOnP isLineBreak = [(mount.fields.intersperse (.ofString " ")).flatten, []] := by
  have whole : ∀ point ∈ (mount.fields.intersperse (.ofString " ")).flatten,
      isLineBreak point = false := by
    refine @forall_mem_intercalate _ (fun point => isLineBreak point = false) _ (by decide) _
      fun field isField point isPoint => ?_
    rw [Bool.eq_false_iff]
    intro isBreak
    have notSpace := (unbroken field isField).2 point isPoint
    rw [isSpace_of_isLineBreak isBreak] at notSpace
    cases notSpace
  rw [KernelMount.line, List.splitOnP_append_cons_of_forall_mem whole _ (by decide),
    List.splitOnP_nil]

theorem exists_idxOf? (before after : List PyStr) (separator next : PyStr) :
    ∃ index fstype, (before ++ separator :: next :: after).idxOf? separator = some index ∧
      (before ++ separator :: next :: after)[index + 1]? = some fstype := by
  induction before with
  | nil => exact ⟨0, next, by simp [List.idxOf?_cons], rfl⟩
  | cons first before ih =>
    rw [List.cons_append, List.idxOf?_cons]
    split
    · cases before with
      | nil => exact ⟨0, separator, rfl, rfl⟩
      | cons second before => exact ⟨0, second, rfl, rfl⟩
    · rcases ih with ⟨index, fstype, found, isFstype⟩
      exact ⟨index + 1, fstype, by rw [found]; rfl, isFstype⟩

theorem looksReadWrite_fields_iff : LooksReadWrite mount.fields node ↔
    node = mount.majorMinor ∧ SaysReadWrite mount.options ∧ AcceptedPath mount.mountPoint := by
  constructor
  · rintro ⟨_, number, ⟨path, isPath, accepted⟩, options, isOptions, writable⟩
    obtain rfl := Option.some.inj number
    obtain rfl := Option.some.inj isPath
    obtain rfl := Option.some.inj isOptions
    rw [unescapeMountinfo_escape] at accepted
    exact ⟨rfl, writable, accepted⟩
  · rintro ⟨rfl, writable, accepted⟩
    rw [← unescapeMountinfo_escape mount.mountPoint] at accepted
    refine ⟨exists_idxOf?_iff.mp ?_, rfl, ⟨_, rfl, accepted⟩, _, rfl, writable⟩
    exact exists_idxOf? _ _ _ _

theorem ne_nil_of_looks {line : PyStr} (looks : LooksReadWrite (words line) node) : line ≠ [] := by
  rintro rfl
  cases looks.number

theorem seen_iff : mount.Seen node ↔
    ∃ piece ∈ mount.line.splitOnP isLineBreak, LooksReadWrite (words piece) node := by
  rw [KernelMount.Seen]
  by_cases unbroken : mount.Unbroken
  · have fields : words (mount.fields.intersperse (.ofString " ")).flatten = mount.fields :=
      words_flatten unbroken
    rw [pieces_of_unbroken unbroken, ← looksReadWrite_fields_iff]
    constructor
    · rintro (⟨_, looks⟩ | ⟨torn, _⟩)
      · refine ⟨_, List.mem_cons_self, ?_⟩
        rwa [fields]
      · exact absurd unbroken torn
    · rintro ⟨piece, isPiece, looks⟩
      rcases List.mem_cons.mp isPiece with rfl | isEmpty
      · rw [fields] at looks
        exact Or.inl ⟨unbroken, looks⟩
      · exact absurd (List.mem_singleton.mp isEmpty) (ne_nil_of_looks looks)
  · exact ⟨fun either => (either.resolve_left fun whole => unbroken whole.1).2,
      fun looks => Or.inr ⟨unbroken, looks⟩⟩

/-- What is read of a table is what is seen of its mounts. -/
theorem exists_readAs_iff {table : List KernelMount} :
    (∃ line ∈ linesOf (table.flatMap KernelMount.line), ReadAs strings line node) ↔
      (∃ mount ∈ table, mount.Seen node) ∧ validMajorMinor node = true := by
  simp only [seen_iff]
  constructor
  · rintro ⟨line, isLine, isRead⟩
    rcases readAs_iff.mp isRead with ⟨looks, valid⟩
    have some := ne_nil_of_looks looks
    rcases (mem_pieces_table some).mp ((mem_linesOf_iff some).mp isLine)
      with ⟨mount, isMount, isPiece⟩
    exact ⟨⟨mount, isMount, line, isPiece, looks⟩, valid⟩
  · rintro ⟨⟨mount, isMount, line, isPiece, looks⟩, valid⟩
    have some := ne_nil_of_looks looks
    exact ⟨line, (mem_linesOf_iff some).mpr ((mem_pieces_table some).mpr ⟨mount, isMount, isPiece⟩),
      readAs_iff.mpr ⟨looks, valid⟩⟩

/-- A read-write mount whose line is not torn is lost exactly when its path is not accepted. -/
theorem seen_iff_acceptedPath (unbroken : mount.Unbroken) (isReadWrite : mount.isReadOnly = false) :
    mount.Seen mount.majorMinor ↔ AcceptedPath mount.mountPoint := by
  have writable : SaysReadWrite mount.options := by
    left
    rw [KernelMount.options, isReadWrite, splitAt]
    have word : PyStr.ofString (if false = true then "ro" else "rw") = [.ofChar 'r', .ofChar 'w'] :=
      rfl
    have plain : ∀ point ∈ [CodePoint.ofChar 'r', .ofChar 'w'], (point == .ofChar ',') = false :=
      List.forall_mem_cons.mpr ⟨by decide, List.forall_mem_singleton.mpr (by decide)⟩
    have comma : PyStr.ofString "," = [.ofChar ','] := rfl
    rw [word]
    cases mount.flags with
    | nil => decide
    | cons flag flags =>
      rw [List.intersperse_cons_cons, List.flatten_cons, List.flatten_cons, comma,
        List.singleton_append, List.splitOn_eq_splitOnP,
        List.splitOnP_append_cons_of_forall_mem plain _ (by decide), List.map_cons]
      exact List.mem_cons.mpr (Or.inl (by decide))
  rw [KernelMount.Seen]
  tauto

end Reperio.Hostd
