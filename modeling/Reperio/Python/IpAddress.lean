import Reperio.Python.JsonText

/-!
# Addresses

`ipaddress.ip_address` and the networks that it knows, as of Python 3.12. Every address of
version 4 has one text (`parseV4_injective`).
-/

namespace Reperio.Python

/-- `ipaddress.ip_address(text)`. -/
inductive IpAddress where
  | v4 (value : BitVec 32)
  | v6 (value : BitVec 128) (scope : Option PyStr)
  deriving DecidableEq

namespace IpAddress

/-! ## Texts -/

def octetText (value : ℕ) : PyStr := .ofChars (Nat.toDigits 10 value)

/-- An octet has no leading zeros. -/
def octet? (text : PyStr) : Option ℕ := (List.range 256).find? fun value => octetText value = text

/-- The value of numbers of so many bits each, the first one highest. -/
def joinBits (width : ℕ) (numbers : List ℕ) : ℕ :=
  numbers.foldl (fun value number => value * 2 ^ width + number) 0

def parseV4 (text : PyStr) : Option (BitVec 32) :=
  match (text.splitOn (.ofChar '.')).mapM octet? with
  | some [first, second, third, fourth] =>
    some (BitVec.ofNat 32 (joinBits 8 [first, second, third, fourth]))
  | _ => none

/-- `str(address)`, of version 4. -/
def textV4 (value : BitVec 32) : PyStr := [CodePoint.ofChar '.'].intercalate
    ([value.toNat / 2 ^ 24, value.toNat / 2 ^ 16 % 256, value.toNat / 2 ^ 8 % 256,
      value.toNat % 256].map octetText)

def hexDigit? (point : CodePoint) : Option ℕ := hexValue? (Char.ofNat point.val)

/-- One to four hexadecimal digits. -/
def hextet? (text : PyStr) : Option ℕ := if text.isEmpty || decide (4 < text.length) then none
  else (text.mapM hexDigit?).map fun digits =>
    digits.foldl (fun value digit => 16 * value + digit) 0

/-- The groups at one side of a double colon, which may stand at the end of an address. -/
def hextets? (groups : List PyStr) : Option (List ℕ) :=
  if groups = [[]] then some [] else groups.mapM hextet?

/-- A last group in the form of version 4 stands for two. -/
def expandLast (groups : List PyStr) : Option (List PyStr) := match groups.getLast? with
  | none => some groups
  | some last =>
    if .ofChar '.' ∈ last then
      (parseV4 last).map fun value => groups.dropLast ++
        [value.toNat / 65536, value.toNat % 65536].map fun half =>
          PyStr.ofChars (Nat.toDigits 16 half)
    else some groups

/-- The groups of an address, zeros in place of a double colon. -/
def allHextets? (groups : List PyStr) : Option (List ℕ) := let inner := groups.tail.dropLast
  match inner.count [] with
  | 0 => if groups.length = 8 then groups.mapM hextet? else none
  | 1 => do
      let skipped := inner.idxOf [] + 1
      let before ← hextets? (groups.take skipped)
      let behind ← hextets? (groups.drop (skipped + 1))
      if 8 ≤ before.length + behind.length then none
      else some (before ++ List.replicate (8 - before.length - behind.length) 0 ++ behind)
  | _ => none

/-- The scope stands behind a percent sign. -/
def splitScope (text : PyStr) : Option (PyStr × Option PyStr) :=
  match text.dropWhile fun point => point ≠ .ofChar '%' with
  | [] => some (text, none)
  | _ :: scope =>
    if scope = [] ∨ .ofChar '%' ∈ scope then none
    else some (text.takeWhile fun point => point ≠ .ofChar '%', some scope)

def parseV6 (text : PyStr) : Option IpAddress := do
  if .ofChar '/' ∈ text then none
  else
    let (address, scope) ← splitScope text
    let groups ← expandLast (address.splitOn (.ofChar ':'))
    let hextets ← allHextets? groups
    return .v6 (BitVec.ofNat 128 (joinBits 16 hextets)) scope

/-- `ipaddress.ip_address(text)`, if it does not raise. -/
def parse (text : PyStr) : Option IpAddress := ((parseV4 text).map v4).or (parseV6 text)

/-! ## Networks -/

/-- The address is in the network of so many leading bits. -/
def inNetwork {width : ℕ} (value : BitVec width) (network : BitVec width × ℕ) : Bool :=
  value >>> (width - network.2) == network.1 >>> (width - network.2)

def netV4 (first second third fourth length : ℕ) : BitVec 32 × ℕ :=
  (BitVec.ofNat 32 (joinBits 8 [first, second, third, fourth]), length)

/-- A network whose address is zero behind its leading groups. -/
def netV6 (hextets : List ℕ) (length : ℕ) : BitVec 128 × ℕ :=
  (BitVec.ofNat 128 (joinBits 16 (hextets ++ List.replicate (8 - hextets.length) 0)), length)

def privateV4 : List (BitVec 32 × ℕ) :=
  [netV4 0 0 0 0 8, netV4 10 0 0 0 8, netV4 127 0 0 0 8, netV4 169 254 0 0 16, netV4 172 16 0 0 12,
    netV4 192 0 0 0 24, netV4 192 0 0 170 31, netV4 192 0 2 0 24, netV4 192 168 0 0 16,
    netV4 198 18 0 0 15, netV4 198 51 100 0 24, netV4 203 0 113 0 24, netV4 240 0 0 0 4,
    netV4 255 255 255 255 32]

def publicV4 : List (BitVec 32 × ℕ) := [netV4 192 0 0 9 32, netV4 192 0 0 10 32]

def privateV6 : List (BitVec 128 × ℕ) :=
  [netV6 [0, 0, 0, 0, 0, 0, 0, 1] 128, netV6 [] 128, netV6 [0, 0, 0, 0, 0, 0xFFFF] 96,
    netV6 [0x64, 0xFF9B, 1] 48, netV6 [0x100] 64, netV6 [0x2001] 23, netV6 [0x2001, 0xDB8] 32,
    netV6 [0x2002] 16, netV6 [0xFC00] 7, netV6 [0xFE80] 10]

def publicV6 : List (BitVec 128 × ℕ) :=
  [netV6 [0x2001, 1, 0, 0, 0, 0, 0, 1] 128, netV6 [0x2001, 1, 0, 0, 0, 0, 0, 2] 128,
    netV6 [0x2001, 3] 32, netV6 [0x2001, 4, 0x112] 48, netV6 [0x2001, 0x20] 28,
    netV6 [0x2001, 0x30] 28]

def reservedV6 : List (BitVec 128 × ℕ) :=
  [netV6 [] 8, netV6 [0x100] 8, netV6 [0x200] 7, netV6 [0x400] 6, netV6 [0x800] 5, netV6 [0x1000] 4,
    netV6 [0x4000] 3, netV6 [0x6000] 3, netV6 [0x8000] 3, netV6 [0xA000] 3, netV6 [0xC000] 3,
    netV6 [0xE000] 4, netV6 [0xF000] 5, netV6 [0xF800] 6, netV6 [0xFE00] 9]

/-- `address.is_loopback`. -/
def isLoopback : IpAddress → Bool
  | v4 value => inNetwork value (netV4 127 0 0 0 8)
  | v6 value _ => value == 1

def isPrivateV4 (value : BitVec 32) : Bool :=
  privateV4.any (inNetwork value) && !publicV4.any (inNetwork value)

/-- `address.is_private`: an address of version 4 that is written as one of version 6 is what it is.
-/
def isPrivate : IpAddress → Bool
  | v4 value => isPrivateV4 value
  | v6 value _ =>
    if value >>> 32 = 0xFFFF then isPrivateV4 (value.truncate 32)
    else privateV6.any (inNetwork value) && !publicV6.any (inNetwork value)

/-- `address.is_link_local`. -/
def isLinkLocal : IpAddress → Bool
  | v4 value => inNetwork value (netV4 169 254 0 0 16)
  | v6 value _ => inNetwork value (netV6 [0xFE80] 10)

/-- `address.is_reserved`. -/
def isReserved : IpAddress → Bool
  | v4 value => inNetwork value (netV4 240 0 0 0 4)
  | v6 value _ => reservedV6.any (inNetwork value)

/-! ## Reading back -/

theorem octet?_eq_some {text : PyStr} {value : ℕ} (isOctet : octet? text = some value) :
    value < 256 ∧ text = octetText value := by
  rw [octet?] at isOctet
  have same := List.find?_some isOctet
  rw [decide_eq_true_iff] at same
  exact ⟨List.mem_range.mp (List.mem_of_find?_eq_some isOctet), same.symm⟩

theorem mapM_octet?_eq_some {pieces : List PyStr} {values : List ℕ}
    (areOctets : pieces.mapM octet? = some values) :
    (∀ value ∈ values, value < 256) ∧ pieces = values.map octetText := by
  induction pieces generalizing values with
  | nil =>
    cases areOctets
    exact ⟨fun _ isValue => absurd isValue List.not_mem_nil, rfl⟩
  | cons piece pieces ih =>
    rw [List.mapM_cons] at areOctets
    rcases Option.bind_eq_some_iff.mp areOctets with ⟨value, isOctet, areOctets⟩
    rcases Option.bind_eq_some_iff.mp areOctets with ⟨rest, areRest, areOctets⟩
    cases areOctets
    rcases octet?_eq_some isOctet with ⟨small, rfl⟩
    rcases ih areRest with ⟨allSmall, rfl⟩
    exact ⟨List.forall_mem_cons.mpr ⟨small, allSmall⟩, rfl⟩

/-- An address of version 4 has one text. -/
theorem eq_textV4_of_parseV4 {text : PyStr} {value : BitVec 32}
    (parsed : parseV4 text = some value) : text = textV4 value := by
  rw [parseV4] at parsed
  split at parsed
  swap
  · cases parsed
  rename_i first second third fourth areOctets
  cases parsed
  rcases mapM_octet?_eq_some areOctets with ⟨small, pieces⟩
  simp only [List.forall_mem_cons] at small
  have joined : (BitVec.ofNat 32 (joinBits 8 [first, second, third, fourth])).toNat =
      ((first * 256 + second) * 256 + third) * 256 + fourth := by
    rw [BitVec.toNat_ofNat]
    simp only [joinBits, List.foldl_cons, List.foldl_nil]
    omega
  rw [textV4, joined, ← @List.intercalate_splitOn _ text _ _ (CodePoint.ofChar '.'), pieces]
  have firstOctet : (((first * 256 + second) * 256 + third) * 256 + fourth) / 2 ^ 24 =
      first := by omega
  have secondOctet : (((first * 256 + second) * 256 + third) * 256 + fourth) / 2 ^ 16 % 256 =
      second := by
    omega
  have thirdOctet : (((first * 256 + second) * 256 + third) * 256 + fourth) / 2 ^ 8 % 256 =
      third := by
    omega
  have fourthOctet : (((first * 256 + second) * 256 + third) * 256 + fourth) % 256 = fourth := by
      omega
  rw [firstOctet, secondOctet, thirdOctet, fourthOctet]

/-- No text of version 6 is read as an address of version 4. -/
theorem parse_eq_v4 {text : PyStr} {value : BitVec 32} (parsed : parse text = some (v4 value)) :
    text = textV4 value := by
  rw [parse] at parsed
  cases isV4 : parseV4 text with
  | some found =>
    rw [isV4] at parsed
    cases parsed
    exact eq_textV4_of_parseV4 isV4
  | none =>
    rw [isV4] at parsed
    have isV6 : parseV6 text = some (v4 value) := parsed
    rw [parseV6] at isV6
    split at isV6
    · cases isV6
    rcases Option.bind_eq_some_iff.mp isV6 with ⟨_, _, isV6⟩
    rcases Option.bind_eq_some_iff.mp isV6 with ⟨_, _, isV6⟩
    rcases Option.bind_eq_some_iff.mp isV6 with ⟨_, _, isV6⟩
    cases isV6

end IpAddress

end Reperio.Python
