import Eudiplo.ConfigFormat.Documents
import Eudiplo.Shared.Base64

/-!
# Bundle archives

`ConfigBundleCodec` and `assertConfigBundle`: a bundle is a manifest with documents and assets, and
its archive has an entry for each of them.  The ZIP library, the text of JSON and the hash are
parameters; the offsets in the central directory of an archive belong to the first.
-/

namespace Eudiplo

open Portability

namespace ConfigFormat

/-! ## Bundles -/

/-- `ConfigBundle`: what the validator accepts has lists of documents and of assets. -/
structure ConfigBundle where
  manifest : Json
  documents : List Json
  assets : List Json

abbrev Bytes := List UInt8

structure CentralEntry where
  path : String
  uncompressedSize : Nat
  encrypted : Bool
  deriving DecidableEq

def expandedSize (entries : List (String × Bytes)) : Nat :=
  (entries.map fun entry => entry.2.length).sum

def maxEntries : Nat := 10000

def maxExpandedSize : Nat := 100 * 1024 * 1024

def maxArchiveSize : Nat := 50 * 1024 * 1024

/-- **What the codec relies on**: JSON that was read is read again from its text, an archive is
unzipped to the entries that were zipped, and its central directory lists them. -/
structure CodecWorld where
  Archive : Type
  byteLength : Archive → Nat
  sha256 : Bytes → String
  strToU8 : String → Bytes
  strFromU8 : Bytes → String
  parse : String → Option Json
  stringify : Json → String
  /-- `JSON.stringify(v, null, 2)`. -/
  stringifyIndented : Json → String
  zipSync : List (String × Bytes) → Archive
  unzipSync : Archive → Checked (List (String × Bytes))
  /-- The entries of the central directory, read from their offsets. -/
  centralDirectory : Archive → Checked (List CentralEntry)
  reads_stringify : ∀ text v, parse text = some v →
    parse (strFromU8 (strToU8 (stringify v))) = some v
  reads_indented : ∀ text v, parse text = some v →
    parse (strFromU8 (strToU8 (stringifyIndented v))) = some v
  unzips : ∀ entries, (entries.map (·.1)).Nodup →
    ∃ unzipped, unzipSync (zipSync entries) = .ok unzipped ∧ unzipped.Perm entries
  lists : ∀ entries, (entries.map (·.1)).Nodup → entries.length ≤ maxEntries →
    expandedSize entries ≤ maxExpandedSize →
      centralDirectory (zipSync entries) =
        .ok (entries.map fun entry => ⟨entry.1, entry.2.length, false⟩)

/-! ## Paths and manifests -/

def checkEach {κ : Type} [DecidableEq κ] (key : Json → Checked κ) (duplicate : κ → String)
    (check : Json → Checked Unit) : List Json → List κ → Checked Unit
  | [], _ => .ok ()
  | item :: items, seen => do
    let k ← key item
    if k ∈ seen then .error (duplicate k)
    else do
      check item
      checkEach key duplicate check items (k :: seen)

/-- Is a path without a root, a drive, control characters and empty or dotted parts? -/
def isSafePath (path : String) : Bool :=
  path != "" && !(['/'].isPrefixOf path.toList) &&
    !((path.toList.take 2).drop 1 == [':'] && path.toList.head?.any Char.isAlpha) &&
    !path.toList.contains '\\' && !(path.toList.any fun c => c.toNat < 32) &&
    !((path.toList.splitOn '/').any fun part => [[], ['.'], ['.', '.']].contains part)

def assertSafeBundlePath : Option Json → Checked String
  | some (.str path) =>
    if isSafePath path then .ok path else .error ("Unsafe bundle path: " ++ path)
  | _ => .error "Unsafe bundle path"

def textField (name : String) (v : Json) : Option String := (v.field? name).bind Json.str?

def listField (name : String) (v : Json) : Option (List Json) := (v.field? name).bind Json.arr?

def resourcesOf (manifest : Json) : List Json := (listField "resources" manifest).getD []

def assetsOf (manifest : Json) : List Json := (listField "assets" manifest).getD []

/-- `/^[a-f0-9]{64}$/`. -/
def isChecksum (s : String) : Bool :=
  s.toList.length == 64 &&
    s.toList.all fun c => c.isDigit || ('a' ≤ c && c ≤ 'f')

/-- Is a number one of the versions of the format? -/
def isFormatVersion : Json → Bool
  | .num mantissa exponent => mantissa == 10 ^ exponent || mantissa == 2 * 10 ^ exponent
  | _ => false

/-- The identity of a resource of the manifest; kinds have no slash, so that the text of the key has
one kind and one id. -/
def resourceKey (resource : Json) : Checked ResourceRef :=
  match textField "id" resource with
  | none | some "" => .error "Invalid manifest resource"
  | some id => do
    let identity ← resolveConfigIdentity resource
    if textField "kind" resource = some identity.kind.name then return ⟨identity.kind, id⟩
    else .error "Manifest kind conflicts with schema"

def duplicateResource (ref : ResourceRef) : String :=
  "Duplicate resource: " ++ ref.kind.name ++ "/" ++ ref.id

def entryPath (entry : Json) : Checked String := assertSafeBundlePath (entry.field? "path")

def pathText (entry : Json) : String := (textField "path" entry).getD "undefined"

def checkChecksum (entry : Json) : Checked Unit :=
  if (textField "sha256" entry).any isChecksum then .ok ()
  else .error ("Invalid checksum: " ++ pathText entry)

def assertBundleManifest (manifest : Json) : Checked Unit :=
  if textField "format" manifest = some "eudiplo.config-bundle" ∧
      (manifest.field? "formatVersion").any isFormatVersion = true ∧
      (listField "resources" manifest).isSome = true ∧ (listField "assets" manifest).isSome = true ∧
      (textField "tenant" manifest).isSome = true then do
    checkEach resourceKey duplicateResource (fun _ => .ok ()) (resourcesOf manifest) []
    checkEach entryPath ("Duplicate bundle path: " ++ ·) checkChecksum
      (resourcesOf manifest ++ assetsOf manifest) ["manifest.json"]
  else .error "Invalid configuration bundle manifest"

/-! ## `assertConfigBundle` -/

def documentKey (file : Json) : Checked ResourceRef := do
  let document ← normalizeDocument file
  let id ← resourceId file
  return ⟨document.kind, id⟩

/-- Is a resource of the manifest the one with this key? -/
def isResource (ref : ResourceRef) (resource : Json) : Bool :=
  textField "kind" resource == some ref.kind.name && textField "id" resource == some ref.id

def checkDocument (w : CodecWorld) (resources : List Json) (file : Json) : Checked Unit := do
  let ref ← documentKey file
  let document ← normalizeDocument file
  match resources.find? (isResource ref) with
  | none => .error ("Missing or mismatched manifest entry: " ++ ref.kind.name ++ "/" ++ ref.id)
  | some entry => do
    let identity ← resolveConfigIdentity entry
    if identity.version ≠ document.version then
      .error ("Missing or mismatched manifest entry: " ++ ref.kind.name ++ "/" ++ ref.id)
    else if textField "sha256" entry = some (w.sha256 (w.strToU8 (w.stringify file))) then .ok ()
    else .error ("Resource checksum mismatch: " ++ pathText entry)

def assetBytes (asset : Json) : Option Bytes :=
  (textField "data" asset).bind fun data => Base64.decode data.toList

def assetKey (asset : Json) : Checked String :=
  match assetBytes asset, textField "path" asset with
  | none, _ => .error "Invalid base64 asset"
  | some _, some path => .ok path
  | some _, none => .error "Missing or invalid asset: undefined"

def checkAsset (w : CodecWorld) (entries : List Json) (asset : Json) : Checked Unit :=
  match entries.find? fun entry => textField "path" entry == textField "path" asset with
  | none => .error ("Missing or invalid asset: " ++ pathText asset)
  | some entry =>
    if textField "sha256" entry = textField "sha256" asset ∧
        textField "sha256" asset = (assetBytes asset).map w.sha256 then .ok ()
    else .error ("Missing or invalid asset: " ++ pathText asset)

def assertConfigBundle (w : CodecWorld) (bundle : ConfigBundle) : Checked Unit := do
  assertBundleManifest bundle.manifest
  if bundle.documents.length ≠ (resourcesOf bundle.manifest).length ∨
      bundle.assets.length ≠ (assetsOf bundle.manifest).length then
    .error "Manifest counts do not match bundle contents"
  else do
    checkEach documentKey duplicateResource (checkDocument w (resourcesOf bundle.manifest))
      bundle.documents []
    checkEach assetKey ("Duplicate asset: " ++ ·) (checkAsset w (assetsOf bundle.manifest))
      bundle.assets []

/-! ## `encode` -/

/-- An object literal as a record of entries: assigning to `__proto__` sets no entry but the
prototype. -/
structure ZipRecord where
  own : List (String × Bytes)
  proto : Option Bytes := none

/-- `entries[path] = bytes`. -/
def ZipRecord.set (record : ZipRecord) (entry : String × Bytes) : ZipRecord :=
  if entry.1 = "__proto__" then { record with proto := some entry.2 }
  else { record with own := record.own.filter (fun other => other.1 != entry.1) ++ [entry] }

def ZipRecord.entries (record : ZipRecord) : List (String × Bytes) :=
  record.own ++ (((List.range (record.proto.getD []).length).map toString).filter
    fun name => !record.own.any fun entry => entry.1 == name).map fun name => (name ++ "/", [])

/-- `bundle.documents.find`, with a predicate that may throw. -/
def findDocument (matching : Json → Checked Bool) : List Json → Checked (Option Json)
  | [] => .ok none
  | file :: files => do
    if ← matching file then return some file else findDocument matching files

/-- Is a document the one of a resource? -/
def documentMatches (resource file : Json) : Checked Bool := do
  let document ← normalizeDocument file
  if textField "kind" resource ≠ some document.kind.name then return false
  else do
    let identity ← resolveConfigIdentity file
    let expected ← resolveConfigIdentity resource
    if identity.version ≠ expected.version then return false
    else do
      let id ← resourceId file
      return textField "id" resource == some id

def packResource (w : CodecWorld) (documents : List Json) (resource : Json) :
    Checked (String × Bytes) := do
  let path ← entryPath resource
  let found ← findDocument (documentMatches resource) documents
  match found with
  | none => .error ("Bundle document is missing for " ++
      (textField "kind" resource).getD "undefined" ++ " at " ++ path)
  | some file =>
    if textField "sha256" resource = some (w.sha256 (w.strToU8 (w.stringify file))) then
      return (path, w.strToU8 (w.stringify file))
    else .error ("Resource checksum mismatch while packing " ++ path)

/-- `Buffer.from(asset.data, "base64")` of an asset that was validated. -/
def packAsset (w : CodecWorld) (asset : Json) : Checked (String × Bytes) := do
  let path ← entryPath asset
  let bytes := (assetBytes asset).getD []
  if textField "sha256" asset = some (w.sha256 bytes) then return (path, bytes)
  else .error ("Asset checksum mismatch while packing " ++ path)

/-- The record of entries that `encode` zips. -/
def packBundle (w : CodecWorld) (bundle : ConfigBundle) : Checked ZipRecord := do
  assertConfigBundle w bundle
  let resources ← (resourcesOf bundle.manifest).mapM (packResource w bundle.documents)
  let assets ← bundle.assets.mapM (packAsset w)
  let manifest := ("manifest.json", w.strToU8 (w.stringifyIndented bundle.manifest))
  return (resources ++ assets).foldl ZipRecord.set { own := [manifest] }

def encode (w : CodecWorld) (bundle : ConfigBundle) : Checked w.Archive := do
  let record ← packBundle w bundle
  return w.zipSync record.entries

/-! ## `decode` -/

/-- The loop of `inspectCentralDirectory`. -/
def inspectEntries : List CentralEntry → Nat → List String → Checked Unit
  | [], _, _ => .ok ()
  | entry :: entries, total, paths =>
    if entry.encrypted then .error "Encrypted ZIP entries are not supported"
    else if maxExpandedSize < total + entry.uncompressedSize then
      .error "Expanded configuration ZIP exceeds 100 MiB"
    else if !isSafePath entry.path then .error ("Unsafe bundle path: " ++ entry.path)
    else if entry.path ∈ paths then
      .error ("Duplicate configuration ZIP path: " ++ entry.path)
    else inspectEntries entries (total + entry.uncompressedSize) (entry.path :: paths)

def inspectCentralDirectory (w : CodecWorld) (input : w.Archive) : Checked Unit := do
  let entries ← w.centralDirectory input
  if maxEntries < entries.length then .error "Configuration ZIP contains too many entries"
  else inspectEntries entries 0 []

/-- `entries[path]`, whose bytes are read.  The prototype has none, as the other inherited members,
for which the error is the missing one here. -/
def readEntry (entries : List (String × Bytes)) (path missing : String) : Checked Bytes :=
  if path = "__proto__" then .error "The data argument must be of type string or Buffer"
  else
    match entries.find? fun entry => entry.1 == path with
    | some entry => .ok entry.2
    | none => .error missing

def parseJson (w : CodecWorld) (bytes : Bytes) (path : String) : Checked Json :=
  match w.parse (w.strFromU8 bytes) with
  | some v => .ok v
  | none => .error ("Invalid JSON in " ++ path)

def readChecked (w : CodecWorld) (entries : List (String × Bytes))
    (missing mismatch : String → String) (entry : Json) : Checked (String × Bytes) := do
  let path ← entryPath entry
  let bytes ← readEntry entries path (missing path)
  if textField "sha256" entry = some (w.sha256 bytes) then return (path, bytes)
  else .error (mismatch path)

def readDocument (w : CodecWorld) (entries : List (String × Bytes)) (resource : Json) :
    Checked Json := do
  let (path, bytes) ← readChecked w entries ("Missing resource: " ++ ·)
    ("Resource checksum mismatch: " ++ ·) resource
  parseJson w bytes path

def setMember (name : String) (v : Json) : List (String × Json) → List (String × Json)
  | [] => [(name, v)]
  | member :: members =>
    if member.1 = name then (name, v) :: members else member :: setMember name v members

/-- `{ ...v, [name]: value }`, and the assignment `v[name] = value` to an object. -/
def setField (name : String) (value : Json) : Json → Json
  | .obj members => .obj (setMember name value members)
  | v => v

def readAsset (w : CodecWorld) (entries : List (String × Bytes)) (asset : Json) :
    Checked Json := do
  let (_, bytes) ← readChecked w entries ("Missing or invalid asset: " ++ ·)
    ("Missing or invalid asset: " ++ ·) asset
  return setField "data" (.str (String.ofList (Base64.encode bytes))) asset

def compactChecksums (w : CodecWorld) (manifest : Json) (documents : List Json) : Json :=
  setField "resources" (.arr (List.zipWith (fun resource file =>
    setField "sha256" (.str (w.sha256 (w.strToU8 (w.stringify file)))) resource)
      (resourcesOf manifest) documents)) manifest

def checkListed (manifest : Json) (entries : List (String × Bytes)) : Checked Unit :=
  match entries.find? fun entry => entry.1 != "manifest.json" &&
      !(resourcesOf manifest ++ assetsOf manifest).any
        fun listed => textField "path" listed == some entry.1 with
  | some entry => .error ("Unlisted ZIP entry: " ++ entry.1)
  | none => .ok ()

def readBundle (w : CodecWorld) (entries : List (String × Bytes)) : Checked ConfigBundle := do
  let _ ← entries.mapM fun entry => assertSafeBundlePath (some (.str entry.1))
  if maxExpandedSize < expandedSize entries then
    .error "Expanded configuration ZIP exceeds 100 MiB"
  else do
    let manifestBytes ← readEntry entries "manifest.json"
      "Configuration ZIP has no manifest.json"
    let manifest ← parseJson w manifestBytes "manifest.json"
    assertBundleManifest manifest
    let documents ← (resourcesOf manifest).mapM (readDocument w entries)
    let assets ← (assetsOf manifest).mapM (readAsset w entries)
    let bundle : ConfigBundle := ⟨compactChecksums w manifest documents, documents, assets⟩
    assertConfigBundle w bundle
    checkListed bundle.manifest entries
    return bundle

def decode (w : CodecWorld) (input : w.Archive) : Checked ConfigBundle :=
  if maxArchiveSize < w.byteLength input then .error "Configuration ZIP exceeds 50 MiB"
  else do
    inspectCentralDirectory w input
    match w.unzipSync input with
    | .ok entries => readBundle w entries
    | .error message => .error ("Invalid configuration ZIP: " ++ message)

end ConfigFormat

end Eudiplo
