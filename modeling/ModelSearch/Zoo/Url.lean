import ModelSearch.Text.Lower
import ModelSearch.Text.Quote

/-!
# Model URLs

The path of a URL and the name of the artifact it leads to.  A URL is cut into scheme, host, path,
parameters, query and fragment; a host in brackets has to be an address of version 6 or of a later
one, and a host may not have a character that stands for one of the separators.

    artifactName url     the last part of the path, without an archive suffix
-/

namespace ModelSearch.Url

open Text

/-- Why a URL has no path. -/
inductive Fault where
  | brackets
  | futureAddress
  | oldAddress
  | address (host : String)
  | separator (host : String)
  deriving DecidableEq, Repr

def Fault.message : Fault → String
  | .brackets => "Invalid IPv6 URL"
  | .futureAddress => "IPvFuture address is invalid"
  | .oldAddress => "An IPv4 address cannot be in brackets"
  | .address host => quoted host ++ " does not appear to be an IPv4 or IPv6 address"
  | .separator host =>
    "netloc '" ++ host ++ "' contains invalid characters under NFKC normalization"

/-! ## Addresses -/

def isOctet (xs : List Char) : Bool :=
  !xs.isEmpty && xs.all isAsciiDigit && xs.length ≤ 3
    && (xs.length = 1 || xs.head? ≠ some '0')
    && xs.foldl (fun n c => n * 10 + (c.toNat - 48)) 0 ≤ 255

/-- An address of version 4: four octets. -/
def isAddress4 (xs : List Char) : Bool :=
  let octets := splitAt '.' xs
  octets.length = 4 && octets.all isOctet

def isHextet (xs : List Char) : Bool :=
  !xs.isEmpty && xs.length ≤ 4 && xs.all fun c => (hexValue? c).isSome

/-- The groups around the one run of zero groups that may be left out, none of them empty. -/
def groupsFit (parts : List (List Char)) : Bool :=
  let inner := (parts.drop 1).dropLast
  match inner.findIdx? (·.isEmpty) with
  | none => parts.length = 8 && parts.all isHextet
  | some i =>
    let before := parts.take (i + 1)
    let after := parts.drop (i + 2)
    let high := if before = [[]] then [] else before
    let low := if after = [[]] then [] else after
    high.length + low.length < 8 && high.all isHextet && low.all isHextet

/-- An address of version 6: groups of hexadecimal digits, the last two of which may be an address
of version 4, and an optional zone. -/
def isAddress6 (xs : List Char) : Bool :=
  let address :=
    match firstCut '%' xs with
    | none => some xs
    | some (a, zone) => if zone.isEmpty || zone.contains '%' then none else some a
  match address with
  | none => false
  | some a =>
    if xs.contains '/' then false
    else
      let parts := splitAt ':' a
      if parts.length < 3 then false
      else
        let last := parts.getLast?.getD []
        if last.contains '.' then
          isAddress4 last && parts.length ≤ 8 && groupsFit (parts.dropLast ++ [['0'], ['0']])
        else parts.length ≤ 9 && groupsFit parts

/-- An address of a later version: `v`, its number, a point and anything. -/
def isFutureAddress (xs : List Char) : Bool :=
  match xs with
  | 'v' :: rest =>
    let (version, tail) := cutWhere (fun c => (hexValue? c).isNone) rest
    !version.isEmpty
      && (match tail with
        | '.' :: c :: more => !(c :: more).contains '\n'
        | _ => false)
  | _ => false

/-! ## Hosts -/

def checkBracketed (host : List Char) : Except Fault Unit :=
  if host.head? = some 'v' then
    if isFutureAddress host then .ok () else .error .futureAddress
  else if isAddress4 host then .error .oldAddress
  else if isAddress6 host then .ok ()
  else .error (.address (.ofList host))

/-- A host with brackets: nothing stands before them, and a colon or nothing after them. -/
def checkBrackets (authority : List Char) : Except Fault Unit :=
  let opens := authority.contains '['
  let closes := authority.contains ']'
  if opens != closes then .error .brackets
  else if !opens then .ok ()
  else
    let site := match lastCut '@' authority with | some (_, s) => s | none => authority
    match firstCut '[' site with
    | none =>
      checkBracketed (match firstCut ':' site with | some (h, _) => h | none => site)
    | some (before, inside) =>
      if !before.isEmpty then .error .brackets
      else
        match firstCut ']' inside with
        | none => checkBracketed inside
        | some (h, after) =>
          if !after.isEmpty && after.head? ≠ some ':' then .error .brackets else checkBracketed h

/-- Characters that compatibility normalization turns into one of the separators of a URL. -/
def separatorLike : CharSet :=
  [(0x2047, 0x2049), (0x2100, 0x2101), (0x2105, 0x2106), (0x2A74, 0x2A74), (0xFE13, 0xFE13),
   (0xFE16, 0xFE16), (0xFE55, 0xFE56), (0xFE5F, 0xFE5F), (0xFE6B, 0xFE6B), (0xFF03, 0xFF03),
   (0xFF0F, 0xFF0F), (0xFF1A, 0xFF1A), (0xFF1F, 0xFF20)]

def checkSeparators (authority : List Char) : Except Fault Unit :=
  if authority.any separatorLike.has then .error (.separator (.ofList authority)) else .ok ()

/-! ## Paths -/

def isSchemeChar (c : Char) : Bool :=
  isAsciiLetter c || isAsciiDigit c || c = '+' || c = '-' || c = '.'

/-- The scheme in lower case, empty if there is none, and what follows it. -/
def splitScheme (url : List Char) : List Char × List Char :=
  match firstCut ':' url with
  | some (scheme, rest) =>
    if (scheme.head?.map isAsciiLetter).getD false && scheme.all isSchemeChar then
      (scheme.map Char.toLower, rest)
    else ([], url)
  | none => ([], url)

/-- The schemes whose paths have parameters. -/
def parameterSchemes : List String :=
  ["", "ftp", "hdl", "prospero", "http", "imap", "https", "shttp", "rtsp", "rtsps", "rtspu", "sip",
   "sips", "mms", "sftp", "tel"]

/-- The path without the parameters of its last part. -/
def dropParameters (path : List Char) : List Char :=
  match lastCut '/' path with
  | some (before, last) =>
    before ++ '/' :: (match firstCut ';' last with | some (l, _) => l | none => last)
  | none => match firstCut ';' path with | some (p, _) => p | none => path

/-- What stands before the first `sep`. -/
def upTo (sep : Char) (xs : List Char) : List Char :=
  match firstCut sep xs with | some (before, _) => before | none => xs

/-- The path of a URL. -/
def pathOf (url : List Char) : Except Fault (List Char) := do
  let url := url.dropWhile fun c => c.toNat ≤ 0x20
  let url := url.filter fun c => c ≠ '\t' && c ≠ '\r' && c ≠ '\n'
  let (scheme, rest) := splitScheme url
  let (authority, rest) :=
    match rest with
    | '/' :: '/' :: more => cutWhere (fun c => c = '/' || c = '?' || c = '#') more
    | more => ([], more)
  checkBrackets authority
  checkSeparators authority
  let path := upTo '?' (upTo '#' rest)
  return if parameterSchemes.contains (.ofList scheme) then dropParameters path else path

/-! ## Artifacts -/

/-- Suffixes of archives, the compound one first. -/
def archiveSuffixes : List String := [".tar.gz", ".tgz", ".tar", ".zip"]

/-- A file name without the first archive suffix that it ends with and is longer than. -/
def withoutArchiveSuffix (name : List Char) : List Char :=
  let low := lower name
  match archiveSuffixes.find? fun s =>
      s.toList.isSuffixOf low && s.toList.length < name.length with
  | some s => name.take (name.length - s.toList.length)
  | none => name

/-- The artifact that a URL leads to: the last part of its path, or of the whole URL if it has no
path. -/
def artifactName (url : String) : Except Fault String := do
  let path ← pathOf url.toList
  let path := dropRightWhile (· = '/') (if path.isEmpty then url.toList else path)
  let name := match lastCut '/' path with | some (_, last) => last | none => path
  return .ofList (withoutArchiveSuffix name)

end ModelSearch.Url
