import SwitchOps.Unified.Identity

/-!
# Protected identifiers and claims

`identity_protection.py` and `normalized_evidence.py`: identifiers are replaced by tokens that only
this installation can make, and what a provider reports is written as claims.
-/

namespace SwitchOps

/-- What an installation protects identifiers with: `hmac` is the first 24 hexadecimal digits of the
keyed digest of a text, `ipAddress` is `str(ipaddress.ip_address(value))`, if that is an address. -/
class Protector where
  hmac : Text → Text
  ipAddress : Text → Option Text

/-! ## `identity_protection.py` -/

def normalizeSerial (value : Text) : Text := Text.upper (value.filter fun c => !Text.isSpace c)

def isHexChar (c : Char) : Bool := ('0' ≤ c && c ≤ '9') || ('a' ≤ c && c ≤ 'f')

def normalizeHardwareMac (value : Text) : Text :=
  let compact := (Text.lower (Text.strip value)).filter fun c => !(c == '-' || c == ':' || c == '.')
  if compact.length = 12 ∧ compact.all isHexChar then compact else []

def hexValue (c : Char) : Nat :=
  if '0' ≤ c ∧ c ≤ '9' then c.toNat - '0'.toNat else c.toNat - 'a'.toNat + 10

/-- `is_globally_administered_device_mac`: neither a group address nor a local one. -/
def isGloballyAdministeredDeviceMac (value : Text) : Bool :=
  match normalizeHardwareMac value with
  | high :: low :: rest =>
    let normalized := high :: low :: rest
    if normalized = List.replicate 12 '0' ∨ normalized = List.replicate 12 'f' then false
    else
      let first := hexValue high * 16 + hexValue low
      first % 2 = 0 && first / 2 % 2 = 0
  | _ => false

/-- `safe_kind`: runs of other characters become one dash, but for those at the ends. -/
def safeKind (kind : Text) : Text :=
  let isPlain (c : Char) : Bool := ('a' ≤ c && c ≤ 'z') || ('0' ≤ c && c ≤ '9')
  let words := ((Text.lower kind).map fun c => if isPlain c then c else ' ')
  match Text.join "-" (Text.split words) with
  | [] => "value"
  | safe => safe

section protection

variable [Protector]

def protect (kind value : Text) : Text :=
  "pid-" ++ safeKind kind ++ "-" ++ Protector.hmac (kind ++ "|" ++ Text.lower (Text.strip value))

/-- `IdentityProtector.serial`. -/
def protectSerial (value : Text) : Option Text :=
  match normalizeSerial value with
  | [] => none
  | normalized => some (protect "serial" normalized)

/-- `IdentityProtector.hardware_mac`: chassis and device addresses share one namespace. -/
def protectHardwareMac (value : Text) : Option Text :=
  let normalized := normalizeHardwareMac value
  if isGloballyAdministeredDeviceMac normalized then some (protect "hardware-mac" normalized)
  else none

/-- `IdentityProtector.management_address`. -/
def protectManagementAddress (value : Text) : Option Text :=
  match Protector.ipAddress (Text.strip value) with
  | none | some [] => none
  | some normalized => some (protect "management-address" normalized)

end protection

/-! ## `normalized_evidence.py` -/

/-- A value of a provider's document as `str` gives it, absent if it is missing and empty if it is falsy. -/
abbrev RawField := Option Text

/-- `value or ""`. -/
def RawField.text (value : RawField) : Text := value.getD []

/-- `a or b`. -/
def RawField.or (a b : RawField) : RawField :=
  match a with
  | none | some [] => b
  | some text => some text

def safeText (value : RawField) (fallback : Text) (limit : Nat := 160) : Text :=
  let text := (Text.join " " (Text.split value.text)).filter fun c => 32 ≤ c.toNat
  match text.take limit with
  | [] => fallback
  | text => text

/-- The last part of a token, after its last dash. -/
def lastPart (token : Text) : Text := (token.reverse.takeWhile (· ≠ '-')).reverse

def providerRef [Protector] (provider : ProviderKind) (sourceKind value : Text) : Text :=
  provider.text ++ ":" ++ sourceKind ++ ":"
    ++ lastPart (protect (provider.text ++ ":" ++ sourceKind) value)

/-- `stable_claim_id`. -/
def stableClaimId [Digest] (provider : ProviderKind) (subjectRef : Text) (field : ClaimField)
    (objectRef : Option Text) (value : Option ClaimValue) : Text :=
  let key := provider.text ++ "|" ++ subjectRef ++ "|" ++ field.text ++ "|" ++ objectRef.getD []
    ++ "|" ++ (value.map (·.str)).getD "None".toList
  "claim-" ++ (Digest.sha256 key).take 20

/-- `claim`. -/
def claimOf [Digest] (provider : ProviderKind) (subjectRef : Text) (field : ClaimField)
    (value : ClaimValue) (objectRef : Option Text := none)
    (freshness : EvidenceFreshness := .current) : NormalizedClaim where
  id := stableClaimId provider subjectRef field objectRef (some value)
  provider := provider
  subjectRef := subjectRef
  field := field
  value := some value
  objectRef := objectRef
  freshness := freshness

/-- White space at the ends goes, and every other run of it becomes one space. -/
def normalizedName (value : Text) : Text := Text.join " " (Text.split (Text.lower (Text.strip value)))

/-- One end of a link, as the token of the link names it. -/
def endpoint (name port : Text) : Text := normalizedName name ++ "@" ++ normalizedName port

/-- An end of which nothing is known. -/
def unnamedEnd (endpoint : Text) : Bool :=
  endpoint = "@".toList || endpoint = "unknown@unknown".toList

section tokens

variable [Protector]

/-- The token of the link between two ends: the same from either of them. -/
def linkToken (left right : Text) : Option Text :=
  if [left, right].any unnamedEnd then none
  else some (protect "reciprocal-adjacency"
    (Text.join "|" ([left, right].insertionSort (Text.le · ·))))

def reciprocalAdjacencyToken (leftName leftPort rightName rightPort : Text) : Option Text :=
  linkToken (endpoint leftName leftPort) (endpoint rightName rightPort)

theorem linkToken_comm (left right : Text) : linkToken left right = linkToken right left := by
  have hany : [left, right].any unnamedEnd = [right, left].any unnamedEnd := by
    simp [Bool.or_comm]
  unfold linkToken
  rw [Text.insertionSort_swap, hany]

theorem linkToken_eq_none_iff {left right : Text} :
    linkToken left right = none ↔ unnamedEnd left = true ∨ unnamedEnd right = true := by
  unfold linkToken
  split
  · next h => simpa using h
  · next h => simpa using h

end tokens

end SwitchOps
