import Reconciler.Text.Quoted

/-!
# Hosts in addresses

Which hosts an address may name. Brackets enclose a host of the sixth version of the protocol, or of a
later one; and no character of a host is another form of a delimiter of addresses.
-/

namespace Reconciler.Text

/-- Why a host is refused. -/
inductive HostFault where
  /-- There is only one of the two brackets. -/
  | unpairedBracket
  /-- The brackets enclose a malformed host of a later version. -/
  | malformedLater
  /-- The brackets enclose a host of the fourth version. -/
  | versionFour
  /-- The brackets enclose no host. -/
  | notHost (text : String)
  /-- The host holds another form of a delimiter. -/
  | delimiter (host : String)
deriving DecidableEq, Repr

/-- The message about a refused host. -/
def HostFault.message : HostFault → String
  | .unpairedBracket => "Invalid IPv6 URL"
  | .malformedLater => "IPvFuture address is invalid"
  | .versionFour => "An IPv4 address cannot be in brackets"
  | .notHost text => quoted text ++ " does not appear to be an IPv4 or IPv6 address"
  | .delimiter host =>
    "netloc '" ++ host ++ "' contains invalid characters under NFKC normalization"

namespace Host

/-- The character is a hexadecimal digit of the basic alphabet. -/
def isHexDigit (c : Char) : Bool :=
  ('0' ≤ c && c ≤ '9') || ('a' ≤ c && c ≤ 'f') || ('A' ≤ c && c ≤ 'F')

/-- The characters are a number below 256 without leading zeros. -/
def isOctet (cs : List Char) : Bool :=
  !cs.isEmpty && cs.length ≤ 3 && cs.all (fun c => '0' ≤ c && c ≤ '9') &&
    (cs == ['0'] || cs.head? != some '0') &&
    cs.foldl (fun n c => 10 * n + (c.toNat - 0x30)) 0 ≤ 255

/-- The characters are a host of the fourth version: four numbers. -/
def isVersionFour (cs : List Char) : Bool :=
  let octets := splitChars '.' cs
  octets.length == 4 && octets.all isOctet

/-- The characters are one of the groups of a host of the sixth version. -/
def isGroup (cs : List Char) : Bool :=
  !cs.isEmpty && cs.length ≤ 4 && cs.all isHexDigit

/-- The number of groups on one side of the gap. -/
def groupCount? (side : List (List Char)) : Option Nat :=
  if side == [[]] then some 0
  else if side.all isGroup then some side.length
  else none

/-- The groups of a host, of which the last two can be written like a host of the fourth version. -/
def groups? (parts : List (List Char)) : Option (List (List Char)) :=
  let last := parts.getLast?.getD []
  if !last.contains '.' then some parts
  else if isVersionFour last then some (parts.dropLast ++ [['0'], ['0']])
  else none

/-- Eight groups are written out, or fewer of them around a gap. -/
def areGroups (parts : List (List Char)) : Bool :=
  match (parts.drop 1).dropLast.findIdx? List.isEmpty with
  | none => parts.length == 8 && parts.all isGroup
  | some place =>
    match groupCount? (parts.take (place + 1)), groupCount? (parts.drop (place + 2)) with
    | some before, some after => before + after ≤ 7
    | _, _ => false

/-- The characters are a host of the sixth version, behind which a scope may stand. -/
def isVersionSix (cs : List Char) : Bool :=
  let host := cs.takeWhile (· != '%')
  let parts := splitChars ':' host
  let hasScope :=
    match cs.drop host.length with
    | [] => true
    | _ :: scope => !scope.isEmpty && !scope.contains '%'
  hasScope && 3 ≤ parts.length && (groups? parts).any areGroups

/-- The characters are a host of a later version: its number and a text. -/
def isLater (cs : List Char) : Bool :=
  let digits := (cs.drop 1).takeWhile isHexDigit
  match cs.drop (digits.length + 1) with
  | '.' :: rest => !digits.isEmpty && !rest.isEmpty
  | _ => false

/-- Refuses what brackets may not enclose. -/
def checkEnclosed (cs : List Char) : Except HostFault Unit :=
  if cs.head? == some 'v' then
    if isLater cs then .ok () else .error .malformedLater
  else if isVersionFour cs then .error .versionFour
  else if isVersionSix cs then .ok ()
  else .error (.notHost (String.ofList cs))

/-- The code points of the other forms of the delimiters, alone or within a sign. -/
def delimiterForms : List Nat :=
  [0x2047, 0x2048, 0x2049, 0x2100, 0x2101, 0x2105, 0x2106, 0x2A74, 0xFE13, 0xFE16, 0xFE55, 0xFE56,
    0xFE5F, 0xFE6B, 0xFF03, 0xFF0F, 0xFF1A, 0xFF1F, 0xFF20]

/-- Refuses what is no host. -/
def check (cs : List Char) : Except HostFault Unit := do
  if cs.contains '[' != cs.contains ']' then throw .unpairedBracket
  if cs.contains '[' then
    checkEnclosed (((cs.dropWhile (· != '[')).drop 1).takeWhile (· != ']'))
  if cs.any fun c => delimiterForms.contains c.toNat then throw (.delimiter (String.ofList cs))

end Host

end Reconciler.Text
