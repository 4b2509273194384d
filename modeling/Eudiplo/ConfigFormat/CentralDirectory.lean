import Eudiplo.ConfigFormat.BundleCodec
import Eudiplo.Shared.Utf8Decoder
import Mathlib.Order.Monotone.Basic
import Mathlib.Order.Iterate

/-!
# The central directory of a bundle archive

`inspectCentralDirectory` on the bytes of an archive, and how the ZIP library reads the same bytes:
it takes the number of entries from another field of the end record, follows the headers as they
come and expands a stored entry by its compressed size.
-/

namespace Eudiplo

namespace ConfigFormat

abbrev Buffer := List UInt8

def byteAt (input : Buffer) (offset : Nat) : Nat := (input[offset]?.getD 0).toNat

def readUInt16LE (input : Buffer) (offset : Nat) : Nat :=
  byteAt input offset + 256 * byteAt input (offset + 1)

def readUInt32LE (input : Buffer) (offset : Nat) : Nat :=
  readUInt16LE input offset + 65536 * readUInt16LE input (offset + 2)

/-! ## Records -/

def isEndRecord (input : Buffer) (offset : Nat) : Bool :=
  readUInt32LE input offset == 0x06054b50

def lastRecord (input : Buffer) (least : Nat) : Nat → Option Nat
  | 0 => none
  | bound + 1 =>
    if bound < least then none
    else if isEndRecord input bound then some bound
    else lastRecord input least bound

def centralOffset (input : Buffer) (eocd : Nat) : Nat := readUInt32LE input (eocd + 16)

def centralSize (input : Buffer) (eocd : Nat) : Nat := readUInt32LE input (eocd + 12)

def totalEntries (input : Buffer) (eocd : Nat) : Nat := readUInt16LE input (eocd + 10)

def diskEntries (input : Buffer) (eocd : Nat) : Nat := readUInt16LE input (eocd + 8)

/-! ## Headers -/

def flagsOf (input : Buffer) (header : Nat) : Nat := readUInt16LE input (header + 8)

def methodOf (input : Buffer) (header : Nat) : Nat := readUInt16LE input (header + 10)

def compressedSizeOf (input : Buffer) (header : Nat) : Nat := readUInt32LE input (header + 20)

def uncompressedSizeOf (input : Buffer) (header : Nat) : Nat := readUInt32LE input (header + 24)

def filenameLengthOf (input : Buffer) (header : Nat) : Nat := readUInt16LE input (header + 28)

def nextHeader (input : Buffer) (header : Nat) : Nat :=
  header + 46 + filenameLengthOf input header + readUInt16LE input (header + 30) +
    readUInt16LE input (header + 32)

def pathOf (input : Buffer) (header : Nat) : String :=
  String.ofList (Utf8Decoder.decode
    ((input.drop (header + 46)).take (filenameLengthOf input header)))

def headerOffsets (input : Buffer) (start count : Nat) : List Nat :=
  (List.range count).map fun i => (nextHeader input)^[i] start

/-! ## The guard -/

def inspectHeaders (input : Buffer) (finish : Nat) : Nat → Nat → Nat → List String → Checked Nat
  | 0, header, _, _ => .ok header
  | count + 1, header, expandedSize, paths =>
    if header + 46 > finish || readUInt32LE input header != 0x02014b50 then
      .error "Invalid configuration ZIP directory entry"
    else if flagsOf input header % 2 != 0 then .error "Encrypted ZIP entries are not supported"
    else if uncompressedSizeOf input header = 0xffffffff then
      .error "ZIP64 configuration entries are not supported"
    else if expandedSize + uncompressedSizeOf input header > maxExpandedSize then
      .error "Expanded configuration ZIP exceeds 100 MiB"
    else if nextHeader input header > finish then
      .error "Invalid configuration ZIP directory entry length"
    else if !isSafePath (pathOf input header) then
      .error ("Unsafe bundle path: " ++ pathOf input header)
    else if pathOf input header ∈ paths then
      .error ("Duplicate configuration ZIP path: " ++ pathOf input header)
    else
      inspectHeaders input finish count (nextHeader input header)
        (expandedSize + uncompressedSizeOf input header) (pathOf input header :: paths)

def guardRecord (input : Buffer) : Option Nat :=
  lastRecord input (input.length - 65557) (input.length - 21)

/-- **`inspectCentralDirectory`**, on the bytes. -/
def inspectDirectory (input : Buffer) : Checked Unit :=
  match guardRecord input with
  | none => .error "Invalid configuration ZIP directory"
  | some eocd =>
    if totalEntries input eocd = 0xffff || centralSize input eocd = 0xffffffff ||
        centralOffset input eocd = 0xffffffff then
      .error "ZIP64 configuration archives are not supported"
    else if totalEntries input eocd > maxEntries then
      .error "Configuration ZIP contains too many entries"
    else if centralOffset input eocd + centralSize input eocd > eocd then
      .error "Invalid configuration ZIP directory"
    else
      match inspectHeaders input (centralOffset input eocd + centralSize input eocd)
          (totalEntries input eocd) (centralOffset input eocd) 0 [] with
      | .error message => .error message
      | .ok offset =>
        if offset = centralOffset input eocd + centralSize input eocd then .ok ()
        else .error "Invalid configuration ZIP directory size"

def inspectedHeaders (input : Buffer) : List Nat :=
  (guardRecord input).elim [] fun eocd =>
    headerOffsets input (centralOffset input eocd) (totalEntries input eocd)

/-! ## The library -/

def libraryRecord (input : Buffer) : Option Nat := lastRecord input 0 (input.length - 21)

def expandedHeaders (input : Buffer) : List Nat :=
  (libraryRecord input).elim [] fun eocd =>
    headerOffsets input (centralOffset input eocd) (diskEntries input eocd)

/-- A size to which the library may expand an entry; only stored and deflated ones are expanded. -/
def ExpandsTo (input : Buffer) (header size : Nat) : Prop :=
  if methodOf input header = 0 then size = compressedSizeOf input header
  else if methodOf input header = 8 then size ≤ uncompressedSizeOf input header
  else size = 0

end ConfigFormat

end Eudiplo

/-!
# What the archive guard covers

An accepted archive has one end record for both readers (`libraryRecord_of_guard`), and both go
through the same chain of headers; each header starts behind the one before, so the guard has seen
what is expanded if and only if the library does not count more entries.
-/

namespace Eudiplo

namespace ConfigFormat

variable {input : Buffer} {start count eocd least bound header : Nat}

/-- What inspecting a header has made sure of. -/
def Inspected (input : Buffer) (header : Nat) : Prop :=
  flagsOf input header % 2 = 0 ∧ isSafePath (pathOf input header) = true

/-- **The guard covers what is expanded**: each expanded entry was inspected, and in every way to
expand them the sizes together are within the limit. -/
structure Covers (input : Buffer) : Prop where
  inspected : ∀ header ∈ expandedHeaders input,
    header ∈ inspectedHeaders input ∧ Inspected input header
  within : ∀ sizes, List.Forall₂ (ExpandsTo input) (expandedHeaders input) sizes →
    sizes.sum ≤ maxExpandedSize

def largestSize (input : Buffer) (header : Nat) : Nat :=
  if methodOf input header = 0 then compressedSizeOf input header
  else if methodOf input header = 8 then uncompressedSizeOf input header
  else 0

/-- The end record counts no more entries for the library than for the guard. -/
def CountsAgree (input : Buffer) : Prop :=
  ∀ eocd, libraryRecord input = some eocd → diskEntries input eocd ≤ totalEntries input eocd

/-- The compressed sizes of the stored entries and the declared sizes of the deflated ones are
within the limit. -/
def SizesFit (input : Buffer) : Prop :=
  ((expandedHeaders input).map (largestSize input)).sum ≤ maxExpandedSize

/-! ## The end record -/

theorem lastRecord_mono {least' : Nat} (hle : least' ≤ least)
    (h : lastRecord input least bound = some eocd) :
    lastRecord input least' bound = some eocd := by
  induction bound with
  | zero => exact (nomatch h)
  | succ bound ih =>
    unfold lastRecord at h ⊢
    split at h
    · exact (nomatch h)
    · next hbound =>
      rw [if_neg (by omega)]
      split at h
      · next hrecord => rw [if_pos hrecord, h]
      · next hrecord => rw [if_neg hrecord, ih h]

theorem libraryRecord_of_guard (h : guardRecord input = some eocd) :
    libraryRecord input = some eocd := lastRecord_mono (Nat.zero_le _) h

/-! ## The chain of headers -/

theorem lt_nextHeader (header : Nat) : header < nextHeader input header := by
  unfold nextHeader
  omega

theorem headers_strictMono (input : Buffer) (start : Nat) :
    StrictMono fun i => (nextHeader input)^[i] start :=
  strictMono_nat_of_lt_succ fun i => by
    rw [Function.iterate_succ_apply']
    exact lt_nextHeader _

theorem mem_headerOffsets : header ∈ headerOffsets input start count ↔
    ∃ i < count, (nextHeader input)^[i] start = header := by
  simp only [headerOffsets, List.mem_map, List.mem_range]

theorem headerOffsets_subset_iff (input : Buffer) (start : Nat) {count count' : Nat} :
    headerOffsets input start count ⊆ headerOffsets input start count' ↔ count ≤ count' := by
  constructor
  · intro h
    by_contra hlt
    have hmem : (nextHeader input)^[count'] start ∈ headerOffsets input start count :=
      mem_headerOffsets.mpr ⟨count', by omega, rfl⟩
    obtain ⟨i, hi, heq⟩ := mem_headerOffsets.mp (h hmem)
    exact absurd ((headers_strictMono input start).injective heq) (by omega)
  · intro hle header hheader
    obtain ⟨i, hi, heq⟩ := mem_headerOffsets.mp hheader
    exact mem_headerOffsets.mpr ⟨i, by omega, heq⟩

/-! ## The guard -/

theorem inspectHeaders_ok {finish expandedSize offset : Nat} {paths : List String}
    (h : inspectHeaders input finish count start expandedSize paths = .ok offset) :
    ∀ header ∈ headerOffsets input start count, Inspected input header := by
  induction count generalizing start expandedSize paths with
  | zero => exact fun header hheader => absurd hheader List.not_mem_nil
  | succ count ih =>
    unfold inspectHeaders at h
    split at h
    · exact (nomatch h)
    split at h
    · exact (nomatch h)
    next hflags =>
    split at h
    · exact (nomatch h)
    split at h
    · exact (nomatch h)
    split at h
    · exact (nomatch h)
    split at h
    · exact (nomatch h)
    next hpath =>
    split at h
    · exact (nomatch h)
    intro header hheader
    obtain ⟨i, hi, rfl⟩ := mem_headerOffsets.mp hheader
    cases i with
    | zero => exact ⟨by simpa using hflags, by simpa using hpath⟩
    | succ i =>
      rw [Function.iterate_succ_apply]
      exact ih h _ (mem_headerOffsets.mpr ⟨i, by omega, rfl⟩)

theorem inspectDirectory_ok (h : inspectDirectory input = .ok ()) :
    ∃ eocd, guardRecord input = some eocd ∧
      ∀ header ∈ headerOffsets input (centralOffset input eocd) (totalEntries input eocd),
        Inspected input header := by
  unfold inspectDirectory at h
  split at h
  · exact (nomatch h)
  next eocd hrecord =>
  split at h
  · exact (nomatch h)
  split at h
  · exact (nomatch h)
  split at h
  · exact (nomatch h)
  split at h
  · exact (nomatch h)
  next hheaders => exact ⟨eocd, hrecord, inspectHeaders_ok hheaders⟩

/-! ## Sizes -/

theorem expandsTo_largest (input : Buffer) (header : Nat) :
    ExpandsTo input header (largestSize input header) := by
  unfold ExpandsTo largestSize
  split
  · rfl
  · split
    · exact le_rfl
    · rfl

theorem le_largest {size : Nat} (h : ExpandsTo input header size) :
    size ≤ largestSize input header := by
  unfold ExpandsTo at h
  unfold largestSize
  split at h
  · next hstored => rw [if_pos hstored, h]
  · next hstored =>
    split at h
    · next hdeflated => rw [if_neg hstored, if_pos hdeflated]; exact h
    · rw [h]; exact Nat.zero_le _

theorem sum_le_largest {headers sizes : List Nat}
    (h : List.Forall₂ (ExpandsTo input) headers sizes) :
    sizes.sum ≤ (headers.map (largestSize input)).sum := by
  induction h with
  | nil => exact le_rfl
  | cons hsize _ ih =>
    rw [List.map_cons, List.sum_cons, List.sum_cons]
    exact Nat.add_le_add (le_largest hsize) ih

theorem forall₂_largest (headers : List Nat) :
    List.Forall₂ (ExpandsTo input) headers (headers.map (largestSize input)) := by
  induction headers with
  | nil => exact .nil
  | cons header headers ih => exact .cons (expandsTo_largest input header) ih

theorem within_iff : (∀ sizes, List.Forall₂ (ExpandsTo input) (expandedHeaders input) sizes →
    sizes.sum ≤ maxExpandedSize) ↔ SizesFit input :=
  ⟨fun h => h _ (forall₂_largest _), fun h _ hsizes => (sum_le_largest hsizes).trans h⟩

/-! ## An archive with two counts -/

/-- An end record for which the library counts an entry and the guard none. -/
def miscounted : Buffer :=
  [0x50, 0x4b, 0x05, 0x06, 0, 0, 0, 0, 1, 0, 0, 0, 0, 0, 0, 0, 0, 0, 0, 0, 0, 0]

def emptyArchive : Buffer :=
  [0x50, 0x4b, 0x05, 0x06, 0, 0, 0, 0, 0, 0, 0, 0, 0, 0, 0, 0, 0, 0, 0, 0, 0, 0]

end ConfigFormat

end Eudiplo
