import Reperio.Python.JsonRoundTrip
import Reperio.Python.Operators
import Reperio.Storage.FileSystem

/-!
# The parser sandbox

`worker/parser_sandbox.py`: the command that runs a parser on a copied input. The
scratch directory is bound read-only at `/work`, two file systems in memory are
mounted beside it, and every profile passes `/work/input` and `/work/output`. The
output is never under a writable mount (`output_not_writable`), and the input is
the copied file only when that stands at `input` in the scratch directory
(`input_agrees_iff`).

How a quota of CPUs is written as a decimal number, and the lower case of a text,
are parameters.
-/

namespace Reperio.Worker

open Python Storage

/-! ## Profiles -/

/-- How building a command fails. -/
inductive SandboxError where
  | parserSandboxError (code message : String)
  -- of the interpreter: a path that does not resolve, a number that cannot be written
  | raised (error : PyError)
  deriving DecidableEq

/-- A tool with its arguments and limits. -/
structure ParserProfile where
  name : PyStr
  tool : PyStr
  args : List PyStr
  maxStdoutBytes : ℕ
  timeoutSeconds : ℕ

/-- The arguments that all profiles have in common. -/
def ParserProfile.jsonLines (name tool : String) (maxStdoutBytes timeoutSeconds : ℕ) :
    ParserProfile where
  name := .ofString name
  tool := .ofString tool
  args := ["--input", "/work/input", "--output", "/work/output", "--json-lines"].map PyStr.ofString
  maxStdoutBytes
  timeoutSeconds

/-- `PROFILES`. -/
def profiles : List ParserProfile :=
  [.jsonLines "metadata-json" "metadata-json" (64 * 1024) 30,
    .jsonLines "text-json" "text-json" (256 * 1024) 60,
    .jsonLines "tika-json" "apache-tika" (512 * 1024) 90,
    .jsonLines "exiftool-json" "exiftool" (512 * 1024) 60,
    .jsonLines "ffprobe-json" "ffprobe" (512 * 1024) 60,
    .jsonLines "libvips-thumbnail-json" "libvips-thumbnail" (512 * 1024) 60,
    .jsonLines "media-derivative-json" "ffmpeg-media-derivative" (512 * 1024) 120,
    .jsonLines "document-render-json" "pdf-office-render" (512 * 1024) 120,
    .jsonLines "ocr-json" "tesseract-ocrmypdf" (512 * 1024) 120,
    .jsonLines "local-transcription-json" "local-whisper-transcription" (512 * 1024) 120,
    .jsonLines "archive-inspect-json" "archive-inspect" (512 * 1024) 90,
    .jsonLines "copy-repair-json" "copy-repair" (512 * 1024) 120,
    .jsonLines "legacy-webcache" "legacy-webcache" (256 * 1024) 60]

def parserImage : String :=
  "reperio/parser-tools@sha256:2222222222222222222222222222222222222222222222222222222222222222"

def entrypoint : String := "/usr/local/bin/reperio-parser"

def nonRootUser : String := "65532:65532"

def allowedRuntimes : List PyStr := ["docker", "podman"].map PyStr.ofString

def deniedArgFragments : List PyStr :=
  ["/dev/", "docker.sock", "catalog.sqlite", "master.key", "secrets", "--privileged"].map
    PyStr.ofString

/-! ## Resources -/

/-- `True` is a positive number, too. -/
inductive PositiveInt where
  | int (number : ℤ) (positive : 0 < number)
  | true

namespace PositiveInt

def number : PositiveInt → ℤ
  | int number _ => number
  | true => 1

/-- `str(number)`. -/
def text : PositiveInt → Except SandboxError PyStr
  | int number _ => do return .ofChars (renderInt (← (checkInt number).mapError .raised))
  | true => .ok (.ofString "True")

end PositiveInt

/-- `_positive_int`. -/
def positiveInt (value : PyValue) (label : String) : Except SandboxError PositiveInt :=
  let invalid :=
    .error (.parserSandboxError "invalid_resource" (label ++ " must be a positive integer"))
  match value with
  | .int number => if positive : 0 < number then .ok (.int number positive) else invalid
  | .bool true => .ok .true
  | _ => invalid

/-- The resources of a container. -/
structure ParserResources where
  memoryLimitMib : PositiveInt
  pidsLimit : PositiveInt
  tmpfsLimitMib : PositiveInt
  outputLimitMib : PositiveInt
  cpuQuotaPercent : PositiveInt
  cpus : PyStr

/-- `_resources`. -/
def resourcesOf (formatCpus : ℤ → Except PyError PyStr) (resourceProfile : PyDict) :
    Except SandboxError ParserResources := do
  let memoryLimitMib ← positiveInt (resourceProfile.get "memory_limit_mib") "memory_limit_mib"
  let pidsLimit ← positiveInt (resourceProfile.get "pids_limit") "pids_limit"
  let tmpfsLimitMib ← positiveInt (resourceProfile.get "tmpfs_limit_mib") "tmpfs_limit_mib"
  let outputLimitMib ← positiveInt (resourceProfile.get "output_limit_mib") "output_limit_mib"
  let cpuQuotaPercent ← positiveInt (resourceProfile.get "cpu_quota_percent") "cpu_quota_percent"
  let cpus ← (formatCpus cpuQuotaPercent.number).mapError .raised
  return { memoryLimitMib, pidsLimit, tmpfsLimitMib, outputLimitMib, cpuQuotaPercent, cpus }

/-! ## Commands -/

/-- `fragment in text`. -/
def containsText (fragment : PyStr) : PyStr → Bool
  | [] => fragment.isEmpty
  | point :: points => fragment.isPrefixOf (point :: points) || containsText fragment points

section

variable (lower : PyStr → PyStr)

def validateArgs (args : List PyStr) : Except SandboxError Unit :=
  let joined := lower ((PyStr.ofString " ").intercalate args)
  if deniedArgFragments.any (containsText · joined) ||
      containsText (.ofString "--network=host") joined then
    .error (.parserSandboxError "forbidden_access" "parser arguments request forbidden access")
  else .ok ()

/-- `path.relative_to(root)` does not raise. -/
def under (path root : PurePath) : Bool :=
  decide (path.root = root.root) && root.parts.isPrefixOf path.parts

/-- A command with what it was made of. -/
structure ParserSpec where
  runtime : PyStr
  profile : PyStr
  -- the source of the one bind mount
  mountSource : PurePath
  tmpfs : List PyStr
  resources : ParserResources
  command : List PyStr
  maxStdoutBytes : ℕ
  timeoutSeconds : ℕ
  inputPath : PurePath

def commandOf (runtime : PyStr) (jobScratch : PurePath) (tmpfs outputTmpfs pids memory cpus : PyStr)
    (profile : ParserProfile) : List PyStr :=
  [runtime, .ofString "run", .ofString "--rm", .ofString "--network=none",
    .ofString "--cap-drop=ALL",
    .ofString "--security-opt=no-new-privileges:true", .ofString "--read-only",
    .ofString "--user=" ++ .ofString nonRootUser,
    .ofString "--mount=type=bind,source=" ++ jobScratch.text ++ .ofString ",target=/work,readonly",
    .ofString "--tmpfs=" ++ tmpfs, .ofString "--tmpfs=" ++ outputTmpfs,
    .ofString "--pids-limit=" ++ pids, .ofString "--memory=" ++ memory ++ .ofString "m",
    .ofString "--cpus=" ++ cpus, .ofString "--entrypoint", .ofString entrypoint,
    .ofString parserImage, .ofString "--profile", profile.name] ++ profile.args

/-- `validate_parser_spec`. What else it checks is the same in every specification that is made
here: the image, the user, the network, the capabilities and the kinds of the mounts. -/
def validateParserSpec (spec : ParserSpec) : Except SandboxError Unit :=
  if profiles.all fun profile => profile.name ≠ spec.profile then
    .error (.parserSandboxError "unknown_profile" "parser profile is not allowlisted")
  else validateArgs lower spec.command

variable (fileSystem : FileSystem) (formatCpus : ℤ → Except PyError PyStr)

/-- The command for resolved paths. -/
def assembleSpec (runtime : PyStr) (profile : ParserProfile) (copiedInput jobScratch : PurePath)
    (resourceProfile : PyDict) : Except SandboxError ParserSpec :=
  if !under copiedInput jobScratch then
    .error (.parserSandboxError "input_not_copied" "parser input must be a scratch copy")
  else do
    let resources ← resourcesOf formatCpus resourceProfile
    validateArgs lower profile.args
    let tmpfsSize ← resources.tmpfsLimitMib.text
    let outputSize ← resources.outputLimitMib.text
    let pids ← resources.pidsLimit.text
    let memory ← resources.memoryLimitMib.text
    let tmpfs := PyStr.ofString "/tmp:rw,noexec,nosuid,nodev,size=" ++ (tmpfsSize ++ .ofString "m")
    let outputTmpfs := PyStr.ofString "/work-output:rw,noexec,nosuid,nodev,size=" ++
      (outputSize ++ .ofString "m")
    let spec : ParserSpec :=
      { runtime
        profile := profile.name
        mountSource := jobScratch
        tmpfs := [tmpfs, outputTmpfs]
        resources
        command := commandOf runtime jobScratch tmpfs outputTmpfs pids memory resources.cpus profile
        maxStdoutBytes := profile.maxStdoutBytes
        timeoutSeconds := profile.timeoutSeconds
        inputPath := copiedInput }
    validateParserSpec lower spec
    return spec

/-- `path.resolve()`. -/
def resolved (path : PurePath) : Except SandboxError PurePath :=
  (fileSystem.resolve path).mapError fun _ => .raised .valueError

def buildParserSandbox (profileName : PyStr) (copiedInput jobScratch : PurePath)
    (resourceProfile : PyDict) (runtime : PyStr) : Except SandboxError ParserSpec :=
  if runtime ∉ allowedRuntimes then
    .error (.parserSandboxError "invalid_runtime" "runtime must be docker or podman")
  else
    match profiles.find? fun profile => profile.name = profileName with
    | none =>
      .error (.parserSandboxError "unknown_profile" "parser profile is not allowlisted")
    | some profile => do
        let copiedInput ← resolved fileSystem copiedInput
        let jobScratch ← resolved fileSystem jobScratch
        assembleSpec lower formatCpus runtime profile copiedInput jobScratch resourceProfile

end

/-! ## What a command does -/

/-- The argument after an option. -/
def argAfter (option : String) : List PyStr → Option PyStr
  | [] => none
  | arg :: args => if arg = .ofString option then args.head? else argAfter option args

/-- Where a `--tmpfs` argument mounts a file system. -/
def tmpfsTarget (arg : PyStr) : PurePath :=
  .ofText ((arg.drop 8).takeWhile fun point => point ≠ CodePoint.ofChar ':')

/-- Where a `--mount` argument binds a directory. -/
def bindTarget (arg : PyStr) : Option PurePath :=
  ((arg.splitOn (CodePoint.ofChar ',')).find? fun option => PyStr.startsWith option "target=").map
    fun option => .ofText (option.drop 7)

/-- The mount of an argument, if it can be written to: a file system in memory, or a directory that
is not bound read-only. -/
def writableMount (arg : PyStr) : Option PurePath :=
  if arg.startsWith "--tmpfs=" then some (tmpfsTarget arg)
  else if arg.startsWith "--mount=type=bind," && !(PyStr.ofString ",readonly").isSuffixOf arg then
    bindTarget arg
  else none

/-- In a container where the directory is bound at `/work`, the path shows a file of the host. -/
def Shows (jobScratch path file : PurePath) : Prop :=
  path.root = .ofString "/" ∧ ∃ rest, path.parts = .ofString "work" :: rest ∧
    file.root = jobScratch.root ∧ file.parts = jobScratch.parts ++ rest

/-- The parser reads the copied file, and may write where it is told to. -/
structure ParsesGivenInput (spec : ParserSpec) : Prop where
  input : ∃ arg, argAfter "--input" spec.command = some arg ∧
    Shows spec.mountSource (.ofText arg) spec.inputPath
  output : ∃ arg, argAfter "--output" spec.command = some arg ∧
    ∃ mount ∈ spec.command.filterMap writableMount, under (.ofText arg) mount = true

/-! ## Accepted calls -/

variable {option : String} {rest : PyStr}

section

variable {lower : PyStr → PyStr} {fileSystem : FileSystem} {formatCpus : ℤ → Except PyError PyStr}
variable {runtime name pids memory cpus tmpfsSize outputSize : PyStr} {spec : ParserSpec}
variable {copiedInput jobScratch : PurePath} {resourceProfile : PyDict} {profile : ParserProfile}

theorem resolved_eq_ok {path result : PurePath} (isResult : resolved fileSystem path = .ok result) :
    fileSystem.resolve path = .ok result := by
  unfold resolved at isResult
  cases found : fileSystem.resolve path with
  | error _ => simp [found, Except.mapError] at isResult
  | ok found => simpa [found, Except.mapError] using isResult

/-- The command with the two file systems in memory. -/
def sizedCommand (runtime : PyStr) (jobScratch : PurePath)
    (tmpfsSize outputSize pids memory cpus : PyStr) (profile : ParserProfile) : List PyStr :=
  commandOf runtime jobScratch
    (.ofString "/tmp:rw,noexec,nosuid,nodev,size=" ++ (tmpfsSize ++ .ofString "m"))
    (.ofString "/work-output:rw,noexec,nosuid,nodev,size=" ++ (outputSize ++ .ofString "m"))
    pids memory cpus profile

theorem assembleSpec_eq_ok
    (assembled : assembleSpec lower formatCpus runtime profile copiedInput jobScratch
      resourceProfile = .ok spec) :
    under copiedInput jobScratch = true ∧ spec.mountSource = jobScratch ∧
      spec.inputPath = copiedInput ∧ ∃ tmpfsSize outputSize pids memory cpus,
        spec.command = sizedCommand runtime jobScratch tmpfsSize outputSize pids memory cpus
          profile := by
  unfold assembleSpec at assembled
  split at assembled
  · cases assembled
  rename_i isUnder
  obtain ⟨resources, -, assembled⟩ := bind_eq_ok assembled
  obtain ⟨-, -, assembled⟩ := bind_eq_ok assembled
  obtain ⟨tmpfsSize, -, assembled⟩ := bind_eq_ok assembled
  obtain ⟨outputSize, -, assembled⟩ := bind_eq_ok assembled
  obtain ⟨pids, -, assembled⟩ := bind_eq_ok assembled
  obtain ⟨memory, -, assembled⟩ := bind_eq_ok assembled
  obtain ⟨-, -, assembled⟩ := bind_eq_ok assembled
  cases assembled
  exact ⟨by simpa using isUnder, rfl, rfl, tmpfsSize, outputSize, pids, memory, resources.cpus, rfl⟩

theorem buildParserSandbox_eq_ok
    (built : buildParserSandbox lower fileSystem formatCpus name copiedInput jobScratch
      resourceProfile runtime = .ok spec) :
    runtime ∈ allowedRuntimes ∧ fileSystem.resolve copiedInput = .ok spec.inputPath ∧
      fileSystem.resolve jobScratch = .ok spec.mountSource ∧
      under spec.inputPath spec.mountSource = true ∧
      ∃ profile ∈ profiles, ∃ tmpfsSize outputSize pids memory cpus,
        spec.command = sizedCommand runtime spec.mountSource tmpfsSize outputSize pids memory cpus
          profile := by
  unfold buildParserSandbox at built
  split at built
  · cases built
  rename_i isRuntime
  split at built
  · cases built
  rename_i profile found
  obtain ⟨input, isInput, built⟩ := bind_eq_ok built
  obtain ⟨scratch, isScratch, built⟩ := bind_eq_ok built
  obtain ⟨isUnder, rfl, rfl, command⟩ := assembleSpec_eq_ok built
  exact ⟨not_not.mp isRuntime, resolved_eq_ok isInput, resolved_eq_ok isScratch, isUnder, profile,
    List.mem_of_find?_eq_some found, command⟩

/-! ## Arguments -/

theorem append_ne_of_not_start {start : String}
    (notPrefix : ¬ PyStr.ofString start <+: PyStr.ofString option) :
    PyStr.ofString start ++ rest ≠ PyStr.ofString option :=
  fun equal => notPrefix (equal ▸ List.prefix_append _ rest)

theorem startsWith_append (start : String) (rest : PyStr) :
    PyStr.startsWith (.ofString start ++ rest) start = true :=
  List.isPrefixOf_iff_prefix.mpr (List.prefix_append _ rest)

theorem startsWith_append_eq_false {first start : String}
    (different : ¬ PyStr.ofString first <+: PyStr.ofString start ∧
      ¬ PyStr.ofString start <+: PyStr.ofString first) :
    PyStr.startsWith (.ofString first ++ rest) start = false := by
  apply Bool.eq_false_iff.mpr
  intro starts
  have isPrefix : PyStr.ofString start <+: PyStr.ofString first ++ rest :=
    List.isPrefixOf_iff_prefix.mp starts
  cases List.prefix_or_prefix_of_prefix isPrefix
    (List.prefix_append (PyStr.ofString first) rest) with
  | inl startsFirst => exact different.2 startsFirst
  | inr firstStarts => exact different.1 firstStarts

theorem argAfter_append_of_notMem {args rest : List PyStr} (notMem : PyStr.ofString option ∉ args) :
    argAfter option (args ++ rest) = argAfter option rest := by
  induction args with
  | nil => rfl
  | cons arg args ih =>
    rw [List.mem_cons, not_or] at notMem
    exact (if_neg (Ne.symm notMem.1)).trans (ih notMem.2)

/-- Every profile passes the same arguments. -/
theorem args_of_mem (isProfile : profile ∈ profiles) :
    profile.args = ["--input", "/work/input", "--output", "/work/output", "--json-lines"].map
      PyStr.ofString := by
  revert profile
  simp only [profiles, List.forall_mem_cons, List.not_mem_nil, false_implies, implies_true,
    and_true]
  exact ⟨rfl, rfl, rfl, rfl, rfl, rfl, rfl, rfl, rfl, rfl, rfl, rfl, rfl⟩

theorem name_notMem_of_mem (isProfile : profile ∈ profiles) :
    profile.name ∉ ["--input", "--output"].map PyStr.ofString := by
  revert profile
  simp only [profiles, List.forall_mem_cons, List.not_mem_nil, false_implies, implies_true,
    and_true]
  decide

/-- No argument before the profile's own is an option of the parser. -/
theorem argAfter_sizedCommand (isOption : option ∈ ["--input", "--output"])
    (isRuntime : runtime ∈ allowedRuntimes) (isProfile : profile ∈ profiles) :
    argAfter option
      (sizedCommand runtime jobScratch tmpfsSize outputSize pids memory cpus profile) =
      argAfter option profile.args := by
  have isName : PyStr.ofString option ≠ profile.name := fun equal =>
    name_notMem_of_mem isProfile (equal ▸ List.mem_map_of_mem isOption)
  unfold sizedCommand commandOf
  apply argAfter_append_of_notMem
  simp only [List.mem_cons, not_or, List.not_mem_nil, not_false_eq_true, and_true,
    List.append_assoc]
  have fixed (arg : String) (different : arg ∉ ["--input", "--output"]) :
      PyStr.ofString option ≠ PyStr.ofString arg := fun equal =>
    different (PyStr.ofString_injective equal ▸ isOption)
  have started (start : String) (rest : PyStr)
      (different : ∀ option ∈ ["--input", "--output"],
        ¬ PyStr.ofString start <+: PyStr.ofString option) :
      PyStr.ofString option ≠ PyStr.ofString start ++ rest :=
    (append_ne_of_not_start (different option isOption)).symm
  refine ⟨?_, fixed _ (by decide), fixed _ (by decide), fixed _ (by decide), fixed _ (by decide),
    fixed _ (by decide), fixed _ (by decide), started _ _ (by decide),
    started _ _ (by decide), started _ _ (by decide), started _ _ (by decide),
    started _ _ (by decide), started _ _ (by decide), started _ _ (by decide),
    fixed _ (by decide), fixed _ (by decide), fixed _ (by decide), fixed _ (by decide), isName⟩
  rintro rfl
  have : ∀ option ∈ ["--input", "--output"], PyStr.ofString option ∉ allowedRuntimes := by
    decide
  exact this option isOption isRuntime

theorem writableMount_append_eq_none {start : String}
    (different : ∀ option ∈ ["--tmpfs=", "--mount=type=bind,"],
      ¬ PyStr.ofString start <+: PyStr.ofString option ∧
        ¬ PyStr.ofString option <+: PyStr.ofString start) :
    writableMount (.ofString start ++ rest) = none := by
  unfold writableMount
  rw [startsWith_append_eq_false (different _ (by decide)),
    startsWith_append_eq_false (different _ (by decide))]
  rfl

theorem writableMount_readonly (rest : PyStr) :
    writableMount (.ofString "--mount=type=bind,source=" ++ rest ++
      .ofString ",target=/work,readonly") = none := by
  have isReadonly : (PyStr.ofString ",readonly").isSuffixOf
      (PyStr.ofString "--mount=type=bind,source=" ++ rest ++
        PyStr.ofString ",target=/work,readonly") = true := by
    apply List.isSuffixOf_iff_suffix.mpr
    exact List.IsSuffix.trans (by decide) (List.suffix_append _ _)
  unfold writableMount
  rw [isReadonly, List.append_assoc, startsWith_append_eq_false (by decide), Bool.not_true,
    Bool.and_false]
  rfl

theorem writableMount_tmpfs {target : String}
    (isTarget : CodePoint.ofChar ':' ∉ PyStr.ofString target) :
    writableMount (.ofString "--tmpfs=" ++ (.ofString target ++ (CodePoint.ofChar ':' :: rest))) =
      some (.ofText (.ofString target)) := by
  have dropped : (PyStr.ofString "--tmpfs=").length = 8 := by decide
  unfold writableMount tmpfsTarget
  rw [startsWith_append, if_pos rfl, List.drop_left' dropped, List.takeWhile_append_of_pos
    fun point isPoint => decide_eq_true (ne_of_mem_of_not_mem isPoint isTarget)]
  simp

/-- The mount of the argument is beside the directory, if it can be written to. -/
def MountsBeside (arg : PyStr) : Prop :=
  writableMount arg = none ∨ ∃ target ∈ ["/tmp", "/work-output"],
    writableMount arg = some (.ofText (.ofString target))

theorem mountsBeside_of_mem (isRuntime : runtime ∈ allowedRuntimes)
    (isProfile : profile ∈ profiles) :
    ∀ arg ∈ sizedCommand runtime jobScratch tmpfsSize outputSize pids memory cpus profile,
      MountsBeside arg := by
  have notRuntime : ∀ runtime ∈ allowedRuntimes, writableMount runtime = none := by decide
  have notName : ∀ profile ∈ profiles, writableMount profile.name = none := by
    simp only [profiles, List.forall_mem_cons, List.not_mem_nil, false_implies, implies_true,
      and_true]
    decide
  have notArg : ∀ arg ∈ ["--input", "/work/input", "--output", "/work/output", "--json-lines"].map
      PyStr.ofString, writableMount arg = none := by decide
  have fixed {arg : PyStr} (isNone : writableMount arg = none) : MountsBeside arg := .inl isNone
  have isTmp : PyStr.ofString "/tmp:rw,noexec,nosuid,nodev,size=" = PyStr.ofString "/tmp" ++
      CodePoint.ofChar ':' :: PyStr.ofString "rw,noexec,nosuid,nodev,size=" := by decide
  have isOutput : PyStr.ofString "/work-output:rw,noexec,nosuid,nodev,size=" =
      PyStr.ofString "/work-output" ++
        CodePoint.ofChar ':' :: PyStr.ofString "rw,noexec,nosuid,nodev,size=" := by decide
  unfold sizedCommand commandOf
  rw [args_of_mem isProfile, List.forall_mem_append]
  constructor
  · simp only [List.forall_mem_cons, List.not_mem_nil, false_implies, implies_true, and_true]
    refine ⟨.inl (notRuntime _ isRuntime), fixed (by decide), fixed (by decide),
      fixed (by decide), fixed (by decide), fixed (by decide),
      fixed (by decide), fixed (by decide), .inl (writableMount_readonly _), .inr ?_,
      .inr ?_, .inl (writableMount_append_eq_none (by decide)), .inl ?_,
      .inl (writableMount_append_eq_none (by decide)), fixed (by decide),
      fixed (by decide), fixed (by decide), fixed (by decide),
      .inl (notName _ isProfile)⟩
    · refine ⟨"/tmp", by decide, ?_⟩
      rw [isTmp, List.append_assoc, List.cons_append]
      exact writableMount_tmpfs (by decide)
    · refine ⟨"/work-output", by decide, ?_⟩
      rw [isOutput, List.append_assoc, List.cons_append]
      exact writableMount_tmpfs (by decide)
    · rw [List.append_assoc]
      exact writableMount_append_eq_none (by decide)
  · intro arg isArg
    exact .inl (notArg arg isArg)

/-! ## Agreement of the paths -/

theorem argAfter_built (isOption : option ∈ ["--input", "--output"])
    (built : buildParserSandbox lower fileSystem formatCpus name copiedInput jobScratch
      resourceProfile runtime = .ok spec) :
    argAfter option spec.command = argAfter option
      (["--input", "/work/input", "--output", "/work/output", "--json-lines"].map
        PyStr.ofString) := by
  obtain ⟨isRuntime, -, -, -, profile, isProfile, _, _, _, _, _, isCommand⟩ :=
    buildParserSandbox_eq_ok built
  rw [isCommand, argAfter_sizedCommand isOption isRuntime isProfile, args_of_mem isProfile]

/-- The input agrees when the copied file stands at `input` in the scratch directory. -/
theorem input_agrees_iff
    (built : buildParserSandbox lower fileSystem formatCpus name copiedInput jobScratch
      resourceProfile runtime = .ok spec) :
    (∃ arg, argAfter "--input" spec.command = some arg ∧
      Shows spec.mountSource (.ofText arg) spec.inputPath) ↔
      spec.inputPath.parts = spec.mountSource.parts ++ [.ofString "input"] := by
  have isArg : argAfter "--input" spec.command = some (.ofString "/work/input") :=
    argAfter_built (by decide) built
  have isPath : (PurePath.ofText (.ofString "/work/input")).parts =
      [PyStr.ofString "work", PyStr.ofString "input"] := by decide
  obtain ⟨-, -, -, isUnder, -⟩ := buildParserSandbox_eq_ok built
  have sameRoot : spec.inputPath.root = spec.mountSource.root :=
    of_decide_eq_true (Bool.and_eq_true_iff.mp isUnder).1
  constructor
  · rintro ⟨arg, isSome, -, rest, isRest, -, isInput⟩
    obtain rfl := Option.some.inj (isArg.symm.trans isSome)
    rw [isPath] at isRest
    rw [isInput, (List.cons.inj isRest).2]
  · intro isInput
    exact ⟨_, isArg, by decide, [.ofString "input"], isPath, sameRoot, isInput⟩

theorem output_not_writable
    (built : buildParserSandbox lower fileSystem formatCpus name copiedInput jobScratch
      resourceProfile runtime = .ok spec) {arg : PyStr} {mount : PurePath}
    (isArg : argAfter "--output" spec.command = some arg)
    (isMount : mount ∈ spec.command.filterMap writableMount) : under (.ofText arg) mount =
      false := by
  have isOutput : argAfter "--output" spec.command = some (.ofString "/work/output") :=
    argAfter_built (by decide) built
  obtain rfl := Option.some.inj (isOutput.symm.trans isArg)
  obtain ⟨isRuntime, -, -, -, profile, isProfile, _, _, _, _, _, isCommand⟩ :=
    buildParserSandbox_eq_ok built
  obtain ⟨mountArg, isMountArg, isMount⟩ := List.mem_filterMap.mp isMount
  rw [isCommand] at isMountArg
  cases mountsBeside_of_mem isRuntime isProfile mountArg isMountArg with
  | inl isNone => simp [isNone] at isMount
  | inr isTarget =>
    obtain ⟨target, isTarget, isSome⟩ := isTarget
    obtain rfl := Option.some.inj (isSome.symm.trans isMount)
    have outside : ∀ target ∈ ["/tmp", "/work-output"],
        under (.ofText (.ofString "/work/output")) (.ofText (.ofString target)) = false := by
      decide
    exact outside target isTarget

/-- No accepted call gives the parser a place for its output. -/
theorem not_parsesGivenInput
    (built : buildParserSandbox lower fileSystem formatCpus name copiedInput jobScratch
      resourceProfile runtime = .ok spec) : ¬ ParsesGivenInput spec := by
  intro parses
  obtain ⟨arg, isArg, mount, isMount, isUnder⟩ := parses.output
  rw [output_not_writable built isArg isMount] at isUnder
  cases isUnder

end

/-! ## An archive -/

/-- An uploaded archive in the scratch directory of a job, with half a CPU. -/
def uploadedArchive : Except SandboxError ParserSpec :=
  buildParserSandbox
    (List.map fun point =>
      if 65 ≤ point.val ∧ point.val ≤ 90 then Fin.ofNat 0x110000 (point.val + 32) else point)
    { node := fun _ => .ok none, resolve := .ok } (fun _ => .ok (.ofString "0.5"))
    (.ofString "archive-inspect-json") (.ofText (.ofString "/scratch/job/upload.zip"))
    (.ofText (.ofString "/scratch/job"))
    (["memory_limit_mib", "pids_limit", "tmpfs_limit_mib", "output_limit_mib",
      "cpu_quota_percent"].map fun label => (.str label, .int 50))
    (.ofString "docker")

theorem uploadedArchive_isOk : ∃ spec, uploadedArchive = .ok spec := by
  have isOk : uploadedArchive.isOk = true := by decide +kernel
  cases accepted : uploadedArchive with
  | error _ => simp [accepted, Except.isOk, Except.toBool] at isOk
  | ok spec => exact ⟨spec, rfl⟩

theorem uploadedArchive_not_parsesGivenInput :
    ∃ spec, uploadedArchive = .ok spec ∧ ¬ ParsesGivenInput spec := by
  obtain ⟨spec, built⟩ := uploadedArchive_isOk
  exact ⟨spec, built, not_parsesGivenInput built⟩

/-- Neither is the archive what the parser reads. -/
theorem uploadedArchive_disagrees :
    ¬ ∀ spec, uploadedArchive = .ok spec → ParsesGivenInput spec := by
  intro agrees
  obtain ⟨spec, built⟩ := uploadedArchive_isOk
  have isInput := (input_agrees_iff built).mp (agrees spec built).input
  obtain ⟨-, inputPath, mountSource, -⟩ := buildParserSandbox_eq_ok built
  rw [← Except.ok.inj inputPath, ← Except.ok.inj mountSource] at isInput
  revert isInput
  decide

end Reperio.Worker
