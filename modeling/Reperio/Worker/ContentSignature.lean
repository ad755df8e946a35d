import Mathlib.Data.List.Infix
import Reperio.Catalog.Schema
import Reperio.Python.PurePath
import Reperio.Python.Utf8

/-!
# Content signatures

`worker/content_signature.py`: the type of a file by the first bytes of it, at most
8192. The sample may end inside a character, and what is cut there is not UTF-8: a
text is found to be one exactly when the sample ends between two of its characters
(`text_iff`).

The lower case of an extension is a parameter.
-/

namespace Reperio.Worker.ContentSignature

open Python

def sampleBytes : ℕ := 8192

/-! ## Signatures -/

/-- What content is taken for. -/
inductive Signature where
  | empty
  | peExecutable
  | jpeg
  | pdf
  | png
  | gif
  | tiff
  | raw
  | heic
  | quicktime
  | mp4
  | mp3
  | wav
  | docx
  | xlsx
  | pptx
  | zip
  | sevenZip
  | rar
  | tar
  | gzip
  | rtf
  | email
  | text
  | random
  | unknown
  deriving DecidableEq, Repr

/-- What is said of a sample; the confidence is in hundredths. -/
structure Magic where
  signature : Signature
  mimeType : String
  confidence : ℕ
  deriving DecidableEq, Repr

/-- `sample.startswith(prefix)`. -/
def startsWith (start sample : List UInt8) : Bool := start.isPrefixOf sample

/-- `sample[first:last]`. -/
def slice (first last : ℕ) (sample : List UInt8) : List UInt8 := (sample.take last).drop first

/-- `fragment in sample`. -/
def contains (fragment : List UInt8) : List UInt8 → Bool
  | [] => fragment.isEmpty
  | byte :: bytes => fragment.isPrefixOf (byte :: bytes) || contains fragment bytes

/-- The brand of a file of the ISO base media format. -/
def brandMagic (brand : List UInt8) : Magic :=
  if brand ∈ [utf8 "heic", utf8 "heix", utf8 "hevc", utf8 "hevx"] then ⟨.heic, "image/heic", 92⟩
  else if brand = utf8 "qt  " then ⟨.quicktime, "video/quicktime", 92⟩
  else ⟨.mp4, "video/mp4", 90⟩

/-- What a ZIP archive is by the names in the sample. -/
def zipMagic (sample : List UInt8) : Magic :=
  if contains (utf8 "word/") (sample.take sampleBytes) then
    ⟨.docx, "application/vnd.openxmlformats-officedocument.wordprocessingml.document", 92⟩
  else if contains (utf8 "xl/") (sample.take sampleBytes) then
    ⟨.xlsx, "application/vnd.openxmlformats-officedocument.spreadsheetml.sheet", 92⟩
  else if contains (utf8 "ppt/") (sample.take sampleBytes) then
    ⟨.pptx, "application/vnd.openxmlformats-officedocument.presentationml.presentation", 92⟩
  else ⟨.zip, "application/zip", 90⟩

/-- The tests of `_magic` for formats that are not text. -/
def binaryMagic (sample : List UInt8) : Option Magic :=
  if sample = [] then some ⟨.empty, "application/x-empty", 100⟩
  else if startsWith (utf8 "MZ") sample then some ⟨.peExecutable, "application/x-msdownload", 98⟩
  else if startsWith [0xff, 0xd8, 0xff] sample then some ⟨.jpeg, "image/jpeg", 98⟩
  else if startsWith (utf8 "%PDF-") sample then some ⟨.pdf, "application/pdf", 98⟩
  else if startsWith (0x89 :: utf8 "PNG\r\n\x1a\n") sample then some ⟨.png, "image/png", 98⟩
  else if startsWith (utf8 "GIF87a") sample || startsWith (utf8 "GIF89a") sample then
    some ⟨.gif, "image/gif", 95⟩
  else if startsWith (utf8 "II*\x00") sample || startsWith (utf8 "MM\x00*") sample then
    some ⟨.tiff, "image/tiff", 95⟩
  else if startsWith (utf8 "RAW\x00") sample then some ⟨.raw, "image/x-dcraw", 80⟩
  else if 12 ≤ sample.length ∧
    slice 4 8 sample = utf8 "ftyp" then some (brandMagic (slice 8 12 sample))
  else if startsWith (utf8 "ID3") sample || sample.take 2 ∈
    [[0xff, 0xfb], [0xff, 0xf3], [0xff, 0xf2]] then
    some ⟨.mp3, "audio/mpeg", 90⟩
  else if startsWith (utf8 "RIFF") sample && slice 8 12 sample = utf8 "WAVE" then
    some ⟨.wav, "audio/wav", 92⟩
  else if startsWith (utf8 "PK\x03\x04") sample then some (zipMagic sample)
  else if startsWith [0x37, 0x7a, 0xbc, 0xaf, 0x27, 0x1c] sample then
    some ⟨.sevenZip, "application/x-7z-compressed", 95⟩
  else if startsWith (utf8 "Rar!\x1a\x07") sample then some ⟨.rar, "application/vnd.rar", 95⟩
  else if 262 < sample.length ∧ slice 257 262 sample = utf8 "ustar" then
    some ⟨.tar, "application/x-tar", 90⟩
  else if startsWith [0x1f, 0x8b] sample then some ⟨.gzip, "application/gzip", 90⟩
  else if startsWith (utf8 "\x7b\\rtf") sample then some ⟨.rtf, "application/rtf", 90⟩
  else none

/-- `bytes.lower()`. -/
def lowerByte (byte : UInt8) : UInt8 := if 0x41 ≤ byte ∧ byte ≤ 0x5a then byte + 0x20 else byte

def looksEmail (sample : List UInt8) : Bool := let header := (sample.take 1024).map lowerByte
  contains (utf8 "from:") header && contains (utf8 "\nsubject:") header

/-- A control byte other than tab, line feed, form feed and carriage return. -/
def isControl (byte : UInt8) : Bool := byte < 32 && byte ∉ [9, 10, 12, 13]

def looksText (sample : List UInt8) : Bool := if sample.length < 4 ∨ 0 ∈ sample then false
  else if (utf8Decode sample).isNone then false
  else sample.countP isControl ≤ max 1 (sample.length / 100)

def looksRandom (sample : List UInt8) : Bool := if sample.length < 512 then false
  else 200 < sample.eraseDups.length && sample.count 0 < sample.length / 100

def magic (sample : List UInt8) : Magic := match binaryMagic sample with
  | some found => found
  | none =>
    if looksEmail sample then ⟨.email, "message/rfc822", 86⟩
    else if looksText sample then ⟨.text, "text/plain", 80⟩
    else if looksRandom sample then ⟨.random, "application/octet-stream", 40⟩
    else ⟨.unknown, "application/octet-stream", 20⟩

def polyglotMarkers : List (List UInt8) :=
  [utf8 "MZ", utf8 "%PDF-", utf8 "PK\x03\x04", [0xff, 0xd8, 0xff], 0x89 :: utf8 "PNG\r\n\x1a\n"]

def isPolyglot (sample : List UInt8) : Bool :=
  1 < polyglotMarkers.countP fun marker => contains marker sample

/-! ## Detection -/

/-- An error with its code. -/
structure ContentSignatureError where
  code : String
  message : String
  deriving DecidableEq, Repr

/-- What a detection returns. -/
structure SignatureResult where
  mimeType : String
  signature : Signature
  confidence : ℕ
  extensionMime : Option String
  parserSafe : Bool
  evidence : List String
  sampleSha256 : String
  sampleSize : ℕ
  deriving DecidableEq, Repr

def detectContentSignatureBytes (runtime : Runtime) (sample : List UInt8)
    (extensionMime : Option String) : SignatureResult :=
  let found := magic sample
  let mismatch := extensionMime.any fun mime => mime ≠ found.mimeType
  let evidence := (if sample.isEmpty then ["empty_content"] else []) ++ (match extensionMime with
      | some mime => ("extension:" ++ mime) :: if mismatch then ["extension_mismatch"] else []
      | none => []) ++
    (if isPolyglot sample then ["polyglot_signature"] else []) ++
    if found.signature = .unknown ∧ ¬sample.isEmpty then ["unknown_magic"] else []
  { mimeType := found.mimeType
    signature := found.signature
    confidence := if isPolyglot sample then min found.confidence 65 else found.confidence
    extensionMime
    parserSafe := found.signature ∉ [.peExecutable, .unknown, .empty] && !isPolyglot sample &&
      !mismatch
    evidence := evidence.eraseDups
    sampleSha256 := runtime.sha256Hex sample
    sampleSize := sample.length }

/-- `EXTENSION_MIME`. -/
def extensionMime : List (String × String) :=
  [(".exe", "application/x-msdownload"), (".jpg", "image/jpeg"), (".jpeg", "image/jpeg"),
    (".gif", "image/gif"), (".pdf", "application/pdf"), (".png", "image/png"),
    (".heic", "image/heic"), (".tif", "image/tiff"), (".tiff", "image/tiff"),
    (".raw", "image/x-dcraw"), (".mp4", "video/mp4"), (".mov", "video/quicktime"),
    (".mp3", "audio/mpeg"), (".wav", "audio/wav"), (".zip", "application/zip"),
    (".7z", "application/x-7z-compressed"), (".rar", "application/vnd.rar"),
    (".tar", "application/x-tar"), (".gz", "application/gzip"),
    (".docx", "application/vnd.openxmlformats-officedocument.wordprocessingml.document"),
    (".xlsx", "application/vnd.openxmlformats-officedocument.spreadsheetml.sheet"),
    (".pptx", "application/vnd.openxmlformats-officedocument.presentationml.presentation"),
    (".rtf", "application/rtf"), (".txt", "text/plain"), (".eml", "message/rfc822")]

/-- `path.suffix`: the name from its last dot, unless that is the first or the last character. -/
def suffixOf (path : PurePath) : PyStr := let dot := CodePoint.ofChar '.'
  let last := path.name.reverse.takeWhile (· ≠ dot)
  if last = [] ∨ path.name.length ≤ last.length + 1 then [] else dot :: last.reverse

/-- What stands at a path. -/
structure File where
  path : PurePath
  isSymlink : Bool
  isFile : Bool
  content : List UInt8

def detectContentSignature (runtime : Runtime) (lower : PyStr → PyStr) (file : File)
    (originalName : Option PyStr) (sampleLimit : ℤ) :
    Except ContentSignatureError SignatureResult :=
  if sampleLimit ≤ 0 then .error ⟨"invalid_sample_limit", "sample limit must be positive"⟩
  else if file.isSymlink || !file.isFile then
    .error ⟨"invalid_content_path", "content path must be a regular file"⟩
  else
    let sample := file.content.take sampleLimit.toNat
    let name := match originalName with
      | some name => if name = [] then file.path.name else name
      | none => file.path.name
    let suffix := lower (suffixOf (.ofText name))
    let mime := extensionMime.find? fun item => PyStr.ofString item.1 = suffix
    .ok (detectContentSignatureBytes runtime sample (mime.map Prod.snd))

/-! ## What the sample shows of the content -/

variable {content : List UInt8}

theorem startsWith_take {start : List UInt8} {count : ℕ} (fits : start.length ≤ count)
    (content : List UInt8) : startsWith start (content.take count) = startsWith start content := by
  rw [startsWith, startsWith, Bool.eq_iff_iff, List.isPrefixOf_iff_prefix,
    List.isPrefixOf_iff_prefix, List.prefix_take_iff, and_iff_left fits]

theorem slice_take {first last count : ℕ} (fits : last ≤ count) (content : List UInt8) :
    slice first last (content.take count) = slice first last content := by
  rw [slice, slice, List.take_take, min_eq_left fits]

/-- All binary formats are found in the sample as they are in the content. -/
theorem binaryMagic_take (content : List UInt8) :
    binaryMagic (content.take sampleBytes) = binaryMagic content := by
  have isEmpty : content.take sampleBytes = [] ↔ content = [] := by
    rw [List.take_eq_nil_iff, or_iff_right (by decide)]
  have reaches : ∀ {length}, length ≤ sampleBytes →
      (length ≤ (content.take sampleBytes).length ↔ length ≤ content.length) := by
    intro length fits
    rw [List.length_take, le_min_iff, and_iff_right fits]
  have zips : zipMagic (content.take sampleBytes) = zipMagic content := by
    rw [zipMagic, zipMagic, List.take_take, min_self]
  unfold binaryMagic
  rw [startsWith_take (by decide), startsWith_take (by decide), startsWith_take (by decide),
    startsWith_take (by decide), startsWith_take (by decide), startsWith_take (by decide),
    startsWith_take (by decide), startsWith_take (by decide), startsWith_take (by decide),
    startsWith_take (by decide), startsWith_take (by decide), startsWith_take (by decide),
    startsWith_take (by decide), startsWith_take (by decide), startsWith_take (by decide),
    startsWith_take (by decide), slice_take (by decide), slice_take (by decide),
    slice_take (by decide),
    List.take_take, min_eq_left (by decide : 2 ≤ sampleBytes), zips]
  simp only [isEmpty, reaches (by decide : 12 ≤ sampleBytes),
    reaches (by decide : 263 ≤ sampleBytes), Nat.lt_iff_add_one_le]

theorem looksEmail_take (content : List UInt8) :
    looksEmail (content.take sampleBytes) = looksEmail content := by
  rw [looksEmail, looksEmail, List.take_take, min_eq_left (by decide : 1024 ≤ sampleBytes)]

/-- Whole content of a text: UTF-8 without control bytes, and none of the other formats. -/
structure IsPlainText (content : List UInt8) (text : String) : Prop where
  encoded : content = utf8 text
  long : 4 ≤ content.length
  noControl : ∀ byte ∈ content, isControl byte = false
  notBinary : binaryMagic content = none
  notPolyglot : isPolyglot content = false
  notEmail : looksEmail content = false

theorem IsPlainText.looksText_take_iff {text : String} (plain : IsPlainText content text) :
    looksText (content.take sampleBytes) = true ↔ CutsAt text sampleBytes := by
  have controls : (content.take sampleBytes).countP isControl = 0 := by
    rw [List.countP_eq_zero]
    intro byte isByte
    rw [plain.noControl byte (List.mem_of_mem_take isByte)]
    exact Bool.false_ne_true
  have long : ¬((content.take sampleBytes).length < 4 ∨ 0 ∈ content.take sampleBytes) := by
    rintro (short | isNul)
    · rw [List.length_take, min_lt_iff] at short
      rcases short with small | short
      · exact absurd small (by decide)
      · exact absurd plain.long (not_le.mpr short)
    · exact Bool.noConfusion (plain.noControl 0 (List.mem_of_mem_take isNul))
  rw [← isSome_utf8Decode_take_iff, ← plain.encoded, looksText, if_neg long, controls]
  cases utf8Decode (content.take sampleBytes) <;> simp

theorem IsPlainText.magic_take {text : String} (plain : IsPlainText content text) :
    (magic (content.take sampleBytes)).signature = .text ↔ CutsAt text sampleBytes := by
  rw [← plain.looksText_take_iff, magic, binaryMagic_take, plain.notBinary, looksEmail_take,
    plain.notEmail]
  dsimp only
  rw [if_neg Bool.false_ne_true]
  split
  · rename_i isText
    exact iff_of_true rfl isText
  · rename_i notText
    refine iff_of_false ?_ notText
    split
    · exact nofun
    · exact nofun

theorem signature_of_detect {runtime : Runtime} {lower : PyStr → PyStr} {file : File}
    {originalName : Option PyStr} {result : SignatureResult}
    (isResult : detectContentSignature runtime lower file originalName sampleBytes = .ok result) :
    result.signature = (magic (file.content.take sampleBytes)).signature := by
  unfold detectContentSignature at isResult
  rw [if_neg (by decide)] at isResult
  split at isResult
  · cases isResult
  · cases isResult
    rfl

/-- A text is found to be one exactly when the sample does not end inside one of its characters. -/
theorem text_iff (runtime : Runtime) (lower : PyStr → PyStr) {file : File} {text : String}
    (isRegular : file.isSymlink = false ∧ file.isFile = true)
    (plain : IsPlainText file.content text)
    (originalName : Option PyStr) :
    (∃ result, detectContentSignature runtime lower file originalName sampleBytes = .ok result ∧
      result.signature = .text) ↔ CutsAt text sampleBytes := by
  rw [← plain.magic_take]
  constructor
  · rintro ⟨result, isResult, isText⟩
    rwa [signature_of_detect isResult] at isText
  · intro isText
    unfold detectContentSignature
    rw [if_neg (by decide), isRegular.1, isRegular.2]
    exact ⟨_, rfl, isText⟩

/-! ## Long texts -/

theorem contains_of_notMem {byte : UInt8} {fragment content : List UInt8}
    (absent : byte ∉ content) : contains (byte :: fragment) content = false := by
  induction content with
  | nil => rfl
  | cons first content ih =>
    rw [List.mem_cons, not_or] at absent
    rw [contains, ih absent.2, Bool.or_false, List.isPrefixOf_cons_cons, beq_false_of_ne absent.1,
      Bool.false_and]

def scratchFile (text : String) : File where
  path := .ofText (.ofString "/scratch/notes.txt")
  isSymlink := false
  isFile := true
  content := utf8 text

/-- With what the binary formats begin. -/
def firstBytes : List UInt8 := [0x4d, 0xff, 0x25, 0x89, 0x47, 0x49, 0x52, 0x50, 0x37, 0x1f, 0x7b]

theorem binaryMagic_eq_none {byte : UInt8} {rest : List UInt8} (isFirst : byte ∉ firstBytes)
    (noBrand : 0x66 ∉ byte :: rest) (noArchive : 0x75 ∉ byte :: rest) :
    binaryMagic (byte :: rest) = none := by
  have starts : ∀ start : List UInt8, (∃ first ∈ start.head?, first ∈ firstBytes) →
      startsWith start (byte :: rest) = false := by
    rintro start ⟨first, isStart, isKnown⟩
    rcases List.head?_eq_some_iff.mp isStart with ⟨tail, rfl⟩
    have different : first ≠ byte := fun same => isFirst (same ▸ isKnown)
    rw [startsWith, List.isPrefixOf_cons_cons, beq_false_of_ne different, Bool.false_and]
  have slices : ∀ {part : UInt8} {first last parts}, part ∉ byte :: rest → part ∈ parts →
      slice first last (byte :: rest) ≠ parts := by
    rintro part first last _ absent isPart rfl
    exact absent (List.mem_of_mem_take (List.mem_of_mem_drop isPart))
  have notMark : byte ≠ 0xff := fun same => isFirst (same ▸ by decide)
  unfold binaryMagic
  rw [if_neg (List.cons_ne_nil byte rest), starts _ (by decide), starts _ (by decide),
    starts _ (by decide), starts _ (by decide), starts _ (by decide), starts _ (by decide),
    starts _ (by decide), starts _ (by decide), starts _ (by decide), starts _ (by decide),
    starts _ (by decide), starts _ (by decide), starts _ (by decide), starts _ (by decide),
    starts _ (by decide), starts _ (by decide)]
  simp [slices noBrand (by decide : 0x66 ∈ utf8 "ftyp"),
    slices noArchive (by decide : 0x75 ∈ utf8 "ustar"),
    notMark]

/-- The last character of the text takes two bytes, the others one. -/
def cutText (count : ℕ) : String := .ofList (List.replicate count 'a' ++ ['é'])

theorem utf8_replicate (count : ℕ) :
    utf8 (.ofList (List.replicate count 'a')) = List.replicate count 0x61 := by
  rw [utf8, String.toList_ofList]
  induction count with
  | zero => rfl
  | succ count ih =>
    rw [List.replicate_succ, List.flatMap_cons, ih, List.replicate_succ]
    rfl

theorem utf8_cutText (count : ℕ) : utf8 (cutText count) = List.replicate count 0x61 ++
    [0xc3, 0xa9] := by
  rw [cutText, String.ofList_append, utf8_append, utf8_replicate]
  rfl

theorem isPlainText_cutText {count : ℕ} (long : 2 ≤ count) :
    IsPlainText (scratchFile (cutText count)).content (cutText count) := by
  have bytes : ∀ byte ∈ utf8 (cutText count), byte = 0x61 ∨ byte = 0xc3 ∨ byte = 0xa9 := by
    intro byte isByte
    rw [utf8_cutText, List.mem_append, List.mem_replicate] at isByte
    simpa using isByte.imp_left And.right
  have absent : ∀ byte, byte ≠ 0x61 → byte ≠ 0xc3 → byte ≠ 0xa9 → byte ∉ utf8 (cutText count) := by
    intro byte notFirst notSecond notThird isByte
    rcases bytes byte isByte with isFirst | isSecond | isThird
    · exact notFirst isFirst
    · exact notSecond isSecond
    · exact notThird isThird
  refine ⟨rfl, ?_, ?_, ?_, ?_, ?_⟩
  · change 4 ≤ (utf8 (cutText count)).length
    rw [utf8_cutText, List.length_append, List.length_replicate]
    exact Nat.add_le_add_right long 2
  · intro byte isByte
    rcases bytes byte isByte with rfl | rfl | rfl
    · decide
    · decide
    · decide
  · change binaryMagic (utf8 (cutText count)) = none
    have noBrand := absent 0x66 (by decide) (by decide) (by decide)
    have noArchive := absent 0x75 (by decide) (by decide) (by decide)
    rcases Nat.exists_eq_add_of_le' long with ⟨more, rfl⟩
    rw [utf8_cutText, List.replicate_succ, List.cons_append] at noBrand noArchive ⊢
    exact binaryMagic_eq_none (by decide) noBrand noArchive
  · have markers : polyglotMarkers.countP (fun marker => contains marker (utf8 (cutText count))) =
      0 := by
      rw [List.countP_eq_zero]
      have each : ∀ marker ∈ polyglotMarkers, ∃ first rest, marker = first :: rest ∧
          first ≠ 0x61 ∧ first ≠ 0xc3 ∧ first ≠ 0xa9 := by
        simp only [polyglotMarkers, List.forall_mem_cons]
        exact ⟨⟨0x4d, _, rfl, by decide⟩, ⟨0x25, _, rfl, by decide⟩, ⟨0x50, _, rfl, by decide⟩,
          ⟨0xff, _, rfl, by decide⟩, ⟨0x89, _, rfl, by decide⟩,
          fun _ isNone => absurd isNone List.not_mem_nil⟩
      intro marker isMarker
      rcases each marker isMarker with ⟨first, rest, rfl, notFirst, notSecond, notThird⟩
      rw [contains_of_notMem (absent first notFirst notSecond notThird)]
      exact Bool.false_ne_true
    change isPolyglot (utf8 (cutText count)) = false
    rw [isPolyglot, markers]
    rfl
  · change looksEmail (utf8 (cutText count)) = false
    have absent : 0x66 ∉ ((utf8 (cutText count)).take 1024).map lowerByte := by
      intro isByte
      rcases List.mem_map.mp isByte with ⟨byte, isByte, isLower⟩
      rcases bytes byte (List.mem_of_mem_take isByte) with rfl | rfl | rfl
      · exact absurd isLower (by decide)
      · exact absurd isLower (by decide)
      · exact absurd isLower (by decide)
    have missing : contains (utf8 "from:") (((utf8 (cutText count)).take 1024).map lowerByte) =
        false :=
      contains_of_notMem absent
    rw [looksEmail, missing, Bool.false_and]

/-- The last character of this text begins where the sample ends. -/
theorem text_iff_longText :
    ∃ result, detectContentSignature Runtime.sample id (scratchFile (cutText sampleBytes)) none
      sampleBytes = .ok result ∧ result.signature = .text := by
  have plain := isPlainText_cutText (by decide : 2 ≤ sampleBytes)
  refine (text_iff Runtime.sample id ⟨rfl, rfl⟩ plain none).mpr (.inr ⟨_, _, String.ofList_append, ?_⟩)
  rw [utf8_replicate, List.length_replicate]

/-- The first byte of two is no text. -/
theorem utf8_ne_lead (text : String) : utf8 text ≠ [0xc3] := by
  intro encoded
  rw [utf8] at encoded
  cases isText : text.toList with
  | nil =>
    rw [isText] at encoded
    cases encoded
  | cons char chars =>
    rw [isText, List.flatMap_cons] at encoded
    rcases List.append_eq_singleton_iff.mp encoded with ⟨isNil, _⟩ | ⟨isLead, _⟩
    · exact String.utf8EncodeChar_ne_nil isNil
    · unfold String.utf8EncodeChar at isLead
      dsimp only at isLead
      split at isLead
      · rename_i ascii
        have same := congrArg UInt8.toNat (List.cons.inj isLead).1
        rw [UInt8.toNat_ofNat'] at same
        change char.val.toNat % 256 = 0xc3 at same
        omega
      · split at isLead
        · simp at isLead
        · split at isLead
          · simp at isLead
          · simp at isLead

theorem not_cutsAt_cutText (count : ℕ) : ¬CutsAt (cutText count) (count + 1) := by
  have letters := utf8_replicate count
  rintro (short | ⟨before, after, isText, isLength⟩)
  · rw [utf8_cutText, List.length_append, List.length_replicate] at short
    exact absurd short (by simp)
  · have encoded := utf8_cutText count
    rw [isText, utf8_append, ← letters, List.append_cons _ 0xc3 [0xa9]] at encoded
    have isBefore := List.append_inj_left encoded (by
      rw [isLength, letters, List.length_append, List.length_replicate]
      rfl)
    rcases exists_append_of_utf8_prefix ⟨[0xc3], isBefore.symm⟩ with ⟨last, rfl⟩
    rw [utf8_append, List.append_cancel_left_eq] at isBefore
    exact utf8_ne_lead last isBefore

theorem cutText_not_text : IsPlainText (scratchFile (cutText 8191)).content (cutText 8191) ∧
    ¬∃ result, detectContentSignature Runtime.sample id (scratchFile (cutText 8191)) none
    sampleBytes = .ok result ∧ result.signature = .text := by
  have plain := isPlainText_cutText (by omega : 2 ≤ 8191)
  refine ⟨plain, ?_⟩
  rintro ⟨result, isResult, isText⟩
  rw [signature_of_detect isResult] at isText
  exact not_cutsAt_cutText 8191 (plain.magic_take.mp isText)

end Reperio.Worker.ContentSignature
