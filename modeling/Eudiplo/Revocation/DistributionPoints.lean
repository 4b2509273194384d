import Eudiplo.Network.Address
import Eudiplo.Shared.Der
import Eudiplo.Shared.Utf8Decoder

/-!
# CRL distribution points

How `extractUrlsFromRawCdp` finds URLs in the bytes of a `CRLDistributionPoints` extension, and
the encoding of such an extension (RFC 5280, section 4.2.1.13) with distribution points that are
named by URIs.
-/

namespace Eudiplo

namespace DistributionPoints

open Network (Text)

/-- `[\u0020-\u007E]`. -/
def isPrintable (char : Char) : Bool := decide (0x20 ≤ char.toNat) && decide (char.toNat ≤ 0x7E)

/-- `https?:\/\/`. -/
def schemes : List Text :=
  [['h', 't', 't', 'p', ':', '/', '/'], ['h', 't', 't', 'p', 's', ':', '/', '/']]

/-- A match of `/https?:\/\/[\u0020-\u007E]+/` at the start of the text, and what is left. -/
def matchUrl (text : Text) : Option (Text × Text) :=
  (schemes.find? fun scheme => scheme.isPrefixOf text).bind fun scheme =>
    if ((text.drop scheme.length).takeWhile isPrintable).isEmpty then none
    else some (scheme ++ (text.drop scheme.length).takeWhile isPrintable,
      (text.drop scheme.length).dropWhile isPrintable)

/-- The search for matches goes on after a match, or one character further. -/
def matchFrom : ℕ → Text → List Text
  | _, [] => []
  | skip + 1, _ :: text => matchFrom skip text
  | 0, char :: text =>
    match matchUrl (char :: text) with
    | some (url, _) => url :: matchFrom (url.length - 1) text
    | none => matchFrom 0 text

/-- `str.match(urlRegex)`. -/
def urlMatches (text : Text) : List Text := matchFrom 0 text

/-- `match.replace(/[^\u0020-\u007E]/g, "")`. -/
def cleanUrl (url : Text) : Text := url.filter isPrintable

def extractUrlsFromRawCdp (rawData : List UInt8) : List Text :=
  ((urlMatches (Utf8Decoder.decode rawData)).map cleanUrl).filter fun url =>
    schemes.any fun scheme => scheme.isPrefixOf url

/-! ## The encoding -/

structure IsUrl (url : Text) : Prop where
  printable : ∀ char ∈ url, isPrintable char = true
  scheme : ∃ scheme ∈ schemes, ∃ rest, rest ≠ [] ∧ url = scheme ++ rest

/-- A distribution point with the URIs of its `fullName`, and its `reasons` if it has any: the
content octets of a bit string of nine bits. -/
structure DistributionPoint where
  uris : List Text
  urls : ∀ uri ∈ uris, IsUrl uri
  reasons : Option (List UInt8)
  short : ∀ bits ∈ reasons, bits.length ≤ 3

/-- An octet of an `IA5String`. -/
def ia5 (char : Char) : UInt8 := UInt8.ofNat char.toNat

/-- `uniformResourceIdentifier [6]`. -/
def uriName (uri : Text) : List UInt8 := Der.tlv 0x86 (uri.map ia5)

/-- `reasons [1]`. -/
def reasonFlags (reasons : Option (List UInt8)) : List UInt8 := reasons.elim [] (Der.tlv 0x81)

/-- `distributionPoint [0]` with `fullName [0]`, then `reasons`. -/
def DistributionPoint.encode (point : DistributionPoint) : List UInt8 :=
  Der.tlv 0x30
    (Der.tlv 0xA0 (Der.tlv 0xA0 (point.uris.flatMap uriName)) ++ reasonFlags point.reasons)

def encodePoints (points : List DistributionPoint) : List UInt8 :=
  Der.tlv 0x30 (points.flatMap DistributionPoint.encode)

def encodeExtension (critical : Bool) (points : List DistributionPoint) : List UInt8 :=
  Der.tlv 0x30 ([0x06, 0x03, 0x55, 0x1D, 0x1F] ++ (if critical then [0x01, 0x01, 0xFF] else []) ++
    Der.tlv 0x04 (encodePoints points))

end DistributionPoints

end Eudiplo
