import Eudiplo.Revocation.UrlScan

/-!
# Is the extraction of distribution points exact?

The bytes of the extension are scanned as text. The tags and length octets before a URL never
make it start early, but the tag of the next distribution point is the digit `0`, which is taken
for a part of the URL before it: the extraction is exact unless a distribution point with a URI
is followed directly by another one.
-/

namespace Eudiplo

namespace DistributionPoints

open Network (Text)
open Utf8Decoder (State Wide decodeFrom)

/-! ## Bytes as text -/

def latin (byte : UInt8) : Char := Char.ofNat byte.toNat

def latinText (bytes : List UInt8) : Text := bytes.map latin

@[simp] theorem latinText_nil : latinText [] = [] := rfl

@[simp] theorem latinText_cons (b : UInt8) (bs : List UInt8) :
    latinText (b :: bs) = latin b :: latinText bs := rfl

@[simp] theorem latinText_append (bs bs' : List UInt8) :
    latinText (bs ++ bs') = latinText bs ++ latinText bs' := List.map_append ..

theorem toNat_ofNat_valid {n : ℕ} (h : n.isValidChar) : (Char.ofNat n).toNat = n := by
  rw [Char.ofNat, dif_pos h]
  rfl

theorem latin_toNat (b : UInt8) : (latin b).toNat = b.toNat := by
  have hb := b.toNat_lt
  exact toNat_ofNat_valid (.inl (by omega))

theorem ofNat_not_printable {n : ℕ} (h : 128 ≤ n) : isPrintable (Char.ofNat n) = false := by
  by_cases hvalid : n.isValidChar
  · rw [isPrintable, toNat_ofNat_valid hvalid]
    simp
    omega
  · have hnull : Char.ofNat n = Char.ofNat 0 := by
      unfold Char.ofNat
      rw [dif_neg hvalid]
      rfl
    rw [hnull]
    decide

theorem latin_not_printable {b : UInt8} (h : 128 ≤ b.toNat) : isPrintable (latin b) = false :=
  ofNat_not_printable h

theorem replacement_not_printable : isPrintable Utf8Decoder.replacement = false := by decide

variable {xs ys zs : Text} {uri : Text} {n : ℕ}

theorem append_cons (c : Char) : xs ++ c :: ys = xs ++ [c] ++ ys := by simp

/-- **However bytes outside ASCII are decoded, the same URLs are found**: such bytes end a match,
and so does whatever stands for them. The induction is on the bytes, for every text before them;
a sequence in progress has already ended the match. -/
theorem urlMatches_decodeFrom (bytes : List UInt8) :
    (∀ xs, urlMatches (xs ++ decodeFrom .initial bytes) = urlMatches (xs ++ latinText bytes)) ∧
    ∀ s, Wide s → ∀ xs,
      urlMatches (xs ++ decodeFrom s bytes) = urlMatches xs ++ urlMatches (latinText bytes) := by
  induction bytes with
  | nil =>
    refine ⟨fun _ => rfl, fun s hs xs => ?_⟩
    rw [decodeFrom, if_neg hs.needed.ne']
    exact urlMatches_break replacement_not_printable
  | cons b bytes ih =>
    obtain ⟨ihstart, ihwide⟩ := ih
    have hhigh : 128 ≤ b.toNat → ∀ xs, urlMatches (xs ++ latinText (b :: bytes)) =
        urlMatches xs ++ urlMatches (latinText bytes) :=
      fun hb xs => urlMatches_break (latin_not_printable hb)
    have hinitial : ∀ xs, urlMatches (xs ++ decodeFrom .initial (b :: bytes)) =
        urlMatches (xs ++ latinText (b :: bytes)) := by
      intro xs
      rw [decodeFrom, Utf8Decoder.step_initial]
      rcases Utf8Decoder.start_cases b.toNat with ⟨-, heq⟩ | ⟨hb, heq⟩ | ⟨hb, heq, hwide⟩
      · rw [heq, List.singleton_append, append_cons, ihstart, ← append_cons]
        rfl
      · rw [heq, hhigh hb, List.singleton_append, urlMatches_break replacement_not_printable]
        exact congrArg _ (ihstart [])
      · rw [heq, List.nil_append, ihwide _ hwide, hhigh hb]
    refine ⟨hinitial, fun s hs xs => ?_⟩
    have hnothing := hinitial []
    rw [decodeFrom]
    rcases Utf8Decoder.step_cases hs b.toNat with
      ⟨hb, point, hpoint, heq⟩ | ⟨hb, heq, hwide⟩ | heq
    · rw [heq, List.singleton_append, urlMatches_break (ofNat_not_printable hpoint)]
      exact congrArg _ ((ihstart []).trans (hhigh hb []).symm)
    · rw [heq, List.nil_append, ihwide _ hwide]
      exact congrArg _ (hhigh hb []).symm
    · rw [heq, List.cons_append, urlMatches_break replacement_not_printable]
      rw [List.nil_append, decodeFrom, Utf8Decoder.step_initial] at hnothing
      exact congrArg _ hnothing

/-! ## Headers -/

theorem latin_ne {b : UInt8} (h : b.toNat ≠ 104) : latin b ≠ 'h' := by
  intro heq
  have hlatin := latin_toNat b
  rw [heq] at hlatin
  exact h hlatin.symm

theorem skip_length (hn : n < 2 ^ 53) (hys : Starts ys) :
    urlMatches (latinText (Der.length n) ++ ys) = urlMatches ys := by
  rcases Der.length_shape hn with ⟨b, heq⟩ | ⟨b, bs, heq, hb, hshort⟩
  · rw [heq]
    show urlMatches ([latin b] ++ ys) = urlMatches ys
    exact urlMatches_skip (by simp) hys
  · rw [heq, latinText_cons, List.cons_append, urlMatches_cons (latin_ne (by omega))]
    rcases hshort with hshort | ⟨c, cs, rfl, hc, hshort⟩
    · exact urlMatches_skip (by rw [latinText, List.length_map]; exact hshort) hys
    · rw [latinText_cons, List.cons_append, urlMatches_cons (latin_ne (by omega))]
      exact urlMatches_skip (by rw [latinText, List.length_map]; exact hshort) hys

theorem skip_header {tag : UInt8} {content : List UInt8} (htag : tag.toNat ≠ 104)
    (hlength : content.length < 2 ^ 53) (hys : Starts (latinText content ++ ys)) :
    urlMatches (latinText (Der.tlv tag content) ++ ys) =
      urlMatches (latinText content ++ ys) := by
  rw [Der.tlv, List.cons_append, latinText_cons, latinText_append, List.cons_append,
    List.append_assoc, urlMatches_cons (latin_ne htag)]
  exact skip_length hlength hys

theorem skip_other {bytes : List UInt8} (h : ∀ b ∈ bytes, b.toNat ≠ 104) :
    urlMatches (latinText bytes ++ ys) = urlMatches ys := by
  induction bytes with
  | nil => rfl
  | cons b bytes ih =>
    rw [latinText_cons, List.cons_append, urlMatches_cons (latin_ne (h b List.mem_cons_self))]
    exact ih fun b hb => h b (List.mem_cons_of_mem _ hb)

theorem starts_tlv {tag : UInt8} {content : List UInt8} (h : Breaks (latin tag)) :
    Starts (latinText (Der.tlv tag content) ++ ys) := by
  rintro c ⟨⟩
  exact h

/-! ## The URIs of a distribution point -/

def extended : List Text → Text → List Text
  | [], _ => []
  | [uri], ys => [uri ++ ys.takeWhile isPrintable]
  | uri :: next :: uris, ys => uri :: extended (next :: uris) ys

theorem ia5_latin (huri : IsUrl uri) : latinText (uri.map ia5) = uri := by
  rw [latinText, List.map_map]
  conv_rhs => rw [← List.map_id uri]
  refine List.map_congr_left fun c hmem => ?_
  have hc := huri.printable c hmem
  rw [isPrintable, Bool.and_eq_true, decide_eq_true_iff, decide_eq_true_iff] at hc
  show Char.ofNat (UInt8.ofNat c.toNat).toNat = c
  rw [UInt8.toNat_ofNat', Nat.mod_eq_of_lt (by omega), Char.ofNat_toNat]

theorem starts_url (huri : IsUrl uri) : Starts (uri ++ ys) := by
  obtain ⟨scheme, hscheme, run, -, rfl⟩ := huri.scheme
  have hhead : (scheme ++ run ++ ys).head? = some 'h' := by
    rw [List.append_assoc, List.head?_append, scheme_head scheme hscheme]
    rfl
  intro c hc
  rw [hhead] at hc
  obtain rfl := Option.some.inj hc
  unfold Breaks
  decide

theorem urlMatches_name (huri : IsUrl uri) (hlength : uri.length < 2 ^ 53) (ys : Text) :
    urlMatches (latinText (uriName uri) ++ ys) =
      (uri ++ ys.takeWhile isPrintable) :: urlMatches (ys.dropWhile isPrintable) := by
  rw [uriName, skip_header (by decide) (by rwa [List.length_map]), ia5_latin huri,
    urlMatches_url huri]
  rw [ia5_latin huri]
  exact starts_url huri

/-- **The URIs of a point** are found in order; only the last is followed by something printable,
if it is. -/
theorem urlMatches_names {uris : List Text} (huris : ∀ uri ∈ uris, IsUrl uri)
    (hlength : (uris.flatMap uriName).length < 2 ^ 53) (ys : Text) :
    urlMatches (latinText (uris.flatMap uriName) ++ ys) =
      extended uris ys ++ urlMatches (if uris = [] then ys else ys.dropWhile isPrintable) := by
  induction uris with
  | nil => rfl
  | cons uri uris ih =>
    rw [List.flatMap_cons, List.length_append] at hlength
    have hurl := huris uri List.mem_cons_self
    have huri : uri.length < 2 ^ 53 := by
      have hle := Der.length_tlv_le 0x86 (uri.map ia5)
      rw [List.length_map] at hle
      exact (hle.trans (Nat.le_add_right ..)).trans_lt hlength
    have hrest := ih (fun u hu => huris u (List.mem_cons_of_mem _ hu)) (by omega)
    rw [List.flatMap_cons, latinText_append, List.append_assoc, urlMatches_name hurl huri]
    cases uris with
    | nil => rfl
    | cons next uris =>
      -- the tag of the next name ends the match
      have htag : isPrintable (latin 0x86) = false := by decide
      have hnext : ∃ zs, latinText ((next :: uris).flatMap uriName) ++ ys = latin 0x86 :: zs :=
        ⟨_, rfl⟩
      obtain ⟨zs, hzs⟩ := hnext
      rw [hzs] at hrest
      rw [hzs, List.takeWhile_cons_of_neg (by simp [htag]),
        List.dropWhile_cons_of_neg (by simp [htag]), hrest, List.append_nil, if_neg (by simp),
        if_neg (by simp)]
      rfl

/-! ## The points of an extension -/

theorem breaks_latin {b : UInt8} (h : 128 ≤ b.toNat) : Breaks (latin b) := by
  have hlatin := latin_toNat b
  intro hmem
  have hascii : (['t', 'p', 's', ':', '/'].all fun c => decide (c.toNat < 128)) = true := by decide
  have hlt := of_decide_eq_true (List.all_eq_true.mp hascii _ hmem)
  omega

variable {points : List DistributionPoint} {point : DistributionPoint}

def pointsText (points : List DistributionPoint) : Text :=
  latinText (points.flatMap DistributionPoint.encode)

theorem pointsText_cons : pointsText (point :: points) =
    latinText point.encode ++ pointsText points := by
  rw [pointsText, List.flatMap_cons, latinText_append, pointsText]

def extracted : List DistributionPoint → List Text
  | [] => []
  | point :: points =>
    extended point.uris (latinText (reasonFlags point.reasons) ++ pointsText points) ++
      extracted points

theorem breaks_zero : Breaks (latin 0x30) := by
  unfold Breaks
  decide

theorem starts_points : Starts (pointsText points) := by
  cases points with
  | nil =>
    intro c hc
    cases hc
  | cons point points =>
    rw [pointsText_cons]
    exact starts_tlv breaks_zero

theorem encode_le {m : ℕ} (hm : ((point :: points).flatMap DistributionPoint.encode).length < m) :
    point.encode.length < m ∧ (points.flatMap DistributionPoint.encode).length < m := by
  rw [List.flatMap_cons, List.length_append] at hm
  omega

theorem skip_reasons (hshort : ∀ bits ∈ point.reasons, bits.length ≤ 3) (hys : Starts ys) :
    urlMatches (latinText (reasonFlags point.reasons) ++ ys) = urlMatches ys := by
  cases hreasons : point.reasons with
  | none => rfl
  | some bits =>
    have hbits := hshort bits hreasons
    have hlength : Der.length bits.length = [UInt8.ofNat bits.length] := by
      rw [Der.length, if_pos (by omega)]
    show urlMatches (latinText (Der.tlv 0x81 bits) ++ ys) = urlMatches ys
    rw [Der.tlv, hlength]
    refine urlMatches_skip ?_ hys
    rw [latinText, List.length_map]
    simp
    omega

theorem skip_dropWhile {c : Char} (hlength : xs.length ≤ 6) (hc : isPrintable c = false)
    (hbreaks : Breaks c) :
    urlMatches ((xs ++ c :: ys).dropWhile isPrintable) = urlMatches (xs ++ c :: ys) := by
  have hstarts : Starts (c :: ys) := by
    rintro d ⟨⟩
    exact hbreaks
  rw [dropWhile_break hc, urlMatches_skip hlength hstarts]
  exact urlMatches_skip ((List.dropWhile_sublist _).length_le.trans hlength) hstarts

theorem skip_points_dropWhile
    (hlength : (points.flatMap DistributionPoint.encode).length < 2 ^ 53) :
    urlMatches ((pointsText points).dropWhile isPrintable) = urlMatches (pointsText points) := by
  cases points with
  | nil => rfl
  | cons point points =>
    obtain ⟨content, hcontent, zs, hzs⟩ : ∃ content : List UInt8, content.length < 2 ^ 53 ∧ ∃ zs,
        pointsText (point :: points) =
          latin 0x30 :: (latinText (Der.length content.length) ++ latin 0xA0 :: zs) := by
      refine ⟨Der.tlv 0xA0 (Der.tlv 0xA0 (point.uris.flatMap uriName)) ++
        reasonFlags point.reasons, (Der.length_tlv_le 0x30 _).trans_lt (encode_le hlength).1, ?_⟩
      rw [pointsText, List.flatMap_cons, latinText_append, DistributionPoint.encode, Der.tlv]
      simp only [latinText_cons, latinText_append, List.cons_append, List.append_assoc]
      exact ⟨_, rfl⟩
    rw [hzs]
    rcases Der.length_shape hcontent with ⟨b, heq⟩ | ⟨b, bs, heq, hb, -⟩
    · have hshort : [latin 0x30, latin b].length ≤ 6 := by simp
      have htag : urlMatches (([latin 0x30, latin b] ++ latin 0xA0 :: zs).dropWhile isPrintable) =
          urlMatches ([latin 0x30, latin b] ++ latin 0xA0 :: zs) :=
        skip_dropWhile hshort (by decide) (breaks_latin (by decide))
      rw [heq]
      exact htag
    · have hshort : [latin 0x30].length ≤ 6 := by simp
      rw [heq, latinText_cons, List.cons_append]
      exact skip_dropWhile hshort (latin_not_printable hb) (breaks_latin hb)

theorem breaks_context {b : UInt8} (hb : 128 ≤ b.toNat) {content : List UInt8} :
    Starts (latinText (Der.tlv b content) ++ ys) := starts_tlv (breaks_latin hb)

theorem reasons_stop {bits : List UInt8} :
    (latinText (reasonFlags (some bits)) ++ ys).dropWhile isPrintable =
      latinText (reasonFlags (some bits)) ++ ys := by
  have htag : isPrintable (latin 0x81) = false := by decide
  show (latin 0x81 :: _).dropWhile isPrintable = _
  rw [List.dropWhile_cons_of_neg (by simp [htag])]
  rfl

/-- **What is found in the distribution points.** -/
theorem urlMatches_points (hlength : (points.flatMap DistributionPoint.encode).length < 2 ^ 53) :
    urlMatches (pointsText points) = extracted points := by
  induction points with
  | nil => rfl
  | cons point points ih =>
    obtain ⟨hpoint, hpoints⟩ := encode_le hlength
    have hcontent := (Der.length_tlv_le 0x30 _).trans_lt hpoint
    have hname : (Der.tlv 0xA0 (Der.tlv 0xA0 (point.uris.flatMap uriName))).length < 2 ^ 53 := by
      rw [List.length_append] at hcontent
      omega
    have hfull := (Der.length_tlv_le 0xA0 _).trans_lt hname
    have huris := (Der.length_tlv_le 0xA0 _).trans_lt hfull
    have hreasons : Starts (latinText (reasonFlags point.reasons) ++ pointsText points) := by
      cases point.reasons with
      | none => exact starts_points
      | some bits => exact breaks_context (by decide)
    have hnames : Starts (latinText (point.uris.flatMap uriName) ++
        (latinText (reasonFlags point.reasons) ++ pointsText points)) := by
      cases point.uris with
      | nil => exact hreasons
      | cons uri uris =>
        rw [List.flatMap_cons, latinText_append, List.append_assoc]
        exact breaks_context (by decide)
    -- the headers of the point, of its name and of the full name
    have hskip : urlMatches (pointsText (point :: points)) =
        urlMatches (latinText (point.uris.flatMap uriName) ++
          (latinText (reasonFlags point.reasons) ++ pointsText points)) := by
      rw [pointsText_cons, DistributionPoint.encode, skip_header (by decide) hcontent,
        latinText_append, List.append_assoc,
        skip_header (by decide) hfull (breaks_context (by decide))]
      · exact skip_header (by decide) huris hnames
      · rw [latinText_append, List.append_assoc]
        exact breaks_context (by decide)
    rw [hskip, urlMatches_names point.urls huris, extracted, ← ih hpoints]
    refine congrArg (HAppend.hAppend _) ?_
    split
    · exact skip_reasons point.short starts_points
    · cases hr : point.reasons with
      | none => exact skip_points_dropWhile hpoints
      | some bits =>
        rw [reasons_stop, ← hr]
        exact skip_reasons point.short starts_points

/-! ## Exactness -/

/-- Every distribution point but the last has no URI, or has reasons after its URIs. -/
def Separated (points : List DistributionPoint) : Prop :=
  ∀ point ∈ points.dropLast, point.uris = [] ∨ point.reasons ≠ none

theorem length_extended (uris : List Text) : (extended uris ys).length = uris.length := by
  induction uris with
  | nil => rfl
  | cons uri uris ih =>
    cases uris with
    | nil => rfl
    | cons next uris => exact congrArg Nat.succ ih

theorem extended_eq_iff (uris : List Text) :
    extended uris ys = uris ↔ uris = [] ∨ ys.takeWhile isPrintable = [] := by
  induction uris with
  | nil => exact ⟨fun _ => .inl rfl, fun _ => rfl⟩
  | cons uri uris ih =>
    cases uris with
    | nil =>
      simp [extended]
    | cons next uris =>
      rw [extended, List.cons.injEq, ih]
      simp

theorem takeWhile_reasons {bits : List UInt8} :
    (latinText (reasonFlags (some bits)) ++ ys).takeWhile isPrintable = [] := by
  have htag : isPrintable (latin 0x81) = false := by decide
  show (latin 0x81 :: _).takeWhile isPrintable = _
  exact List.takeWhile_cons_of_neg (by simp [htag])

theorem takeWhile_points : (pointsText points).takeWhile isPrintable = [] ↔ points = [] := by
  cases points with
  | nil => exact ⟨fun _ => rfl, fun _ => rfl⟩
  | cons point points =>
    refine iff_of_false ?_ (List.cons_ne_nil _ _)
    have htag : isPrintable (latin 0x30) = true := by decide
    rw [pointsText_cons]
    show (latin 0x30 :: _).takeWhile isPrintable ≠ []
    rw [List.takeWhile_cons_of_pos htag]
    exact List.cons_ne_nil _ _

theorem extracted_iff :
    extracted points = points.flatMap DistributionPoint.uris ↔ Separated points := by
  induction points with
  | nil => exact ⟨fun _ _ h => (nomatch h), fun _ => rfl⟩
  | cons point points ih =>
    have hsplit : extracted (point :: points) = (point :: points).flatMap DistributionPoint.uris ↔
        extended point.uris (latinText (reasonFlags point.reasons) ++ pointsText points) =
          point.uris ∧ extracted points = points.flatMap DistributionPoint.uris := by
      rw [extracted, List.flatMap_cons]
      exact ⟨fun h => List.append_inj h (length_extended _), fun ⟨h, h'⟩ => by rw [h, h']⟩
    have hfirst : (latinText (reasonFlags point.reasons) ++ pointsText points).takeWhile
        isPrintable = [] ↔ point.reasons ≠ none ∨ points = [] := by
      cases point.reasons with
      | none =>
        rw [← takeWhile_points]
        exact ⟨.inr, fun h => h.resolve_left fun h => h rfl⟩
      | some bits => exact iff_of_true takeWhile_reasons (.inl nofun)
    rw [hsplit, ih, extended_eq_iff, hfirst, Separated, Separated]
    cases points with
    | nil => simp
    | cons next points =>
      rw [List.dropLast_cons_of_ne_nil (List.cons_ne_nil _ _), List.forall_mem_cons]
      simp

theorem extract_extension {critical : Bool}
    (hlength : (encodeExtension critical points).length < 2 ^ 53) :
    extractUrlsFromRawCdp (encodeExtension critical points) = extracted points := by
  have hvalue := (Der.length_tlv_le 0x30 _).trans_lt hlength
  have hwrapped : (Der.tlv 0x04 (encodePoints points)).length < 2 ^ 53 := by
    rw [List.length_append] at hvalue
    omega
  have hpoints := (Der.length_tlv_le 0x04 _).trans_lt hwrapped
  have hlist := (Der.length_tlv_le 0x30 _).trans_lt hpoints
  have hdecode : Utf8Decoder.decode (encodeExtension critical points) =
      decodeFrom .initial (encodeExtension critical points) := rfl
  have hbytes := (urlMatches_decodeFrom (encodeExtension critical points)).1 []
  have hbreaks : ∀ b : UInt8, b = 0x06 ∨ b = 0x30 ∨ b = 0x04 ∨ b = 0x01 → Breaks (latin b) := by
    unfold Breaks
    rintro b (rfl | rfl | rfl | rfl) <;> decide
  have hstarts : Starts (latinText (encodePoints points) ++ []) :=
    starts_tlv (hbreaks _ (.inr (.inl rfl)))
  have hpointsStart : Starts (latinText (points.flatMap DistributionPoint.encode) ++ []) := by
    rw [List.append_nil]
    exact starts_points
  -- the value: an octet string around the sequence of points
  have hinner : urlMatches (latinText (Der.tlv 0x04 (encodePoints points))) =
      extracted points := by
    rw [← List.append_nil (latinText _), skip_header (by decide) hpoints hstarts, encodePoints,
      skip_header (by decide) hlist hpointsStart, List.append_nil]
    exact urlMatches_points hlist
  have hopening : ∀ b ∈ [(0x06 : UInt8), 0x03, 0x55, 0x1D, 0x1F] ++
      (if critical then [0x01, 0x01, 0xFF] else []), b.toNat ≠ 104 := by
    have hall : ([(0x06 : UInt8), 0x03, 0x55, 0x1D, 0x1F, 0x01, 0x01, 0xFF].all
        fun b => decide (b.toNat ≠ 104)) = true := by decide
    intro b hb
    refine of_decide_eq_true (List.all_eq_true.mp hall b ?_)
    cases critical with
    | false =>
      have hmem : b ∈ [(0x06 : UInt8), 0x03, 0x55, 0x1D, 0x1F] := by simpa using hb
      exact List.mem_append_left _ hmem
    | true => exact hb
  rw [extract_eq_urlMatches, hdecode]
  refine hbytes.trans ?_
  rw [List.nil_append, ← List.append_nil (latinText _), encodeExtension,
    skip_header (by decide) hvalue (by rintro c ⟨⟩; exact hbreaks _ (.inl rfl)), List.append_nil,
    latinText_append, skip_other hopening]
  exact hinner

/-- **The extraction is exact** if and only if every distribution point but the last has no URI
or has reasons after its URIs: otherwise the tag `0x30` of the next one, and its length if that is
printable, are taken for the end of the URL before. -/
theorem extract_iff_separated (critical : Bool) (points : List DistributionPoint)
    (hlength : (encodeExtension critical points).length < 2 ^ 53) :
    extractUrlsFromRawCdp (encodeExtension critical points) =
      points.flatMap DistributionPoint.uris ↔ Separated points := by
  rw [extract_extension hlength, extracted_iff]

/-- `http://ca/` and one more character. -/
def caUrl (char : Char) : Text := ['h', 't', 't', 'p', ':', '/', '/', 'c', 'a', '/', char]

theorem caUrl_isUrl {char : Char} (h : isPrintable char = true) : IsUrl (caUrl char) := by
  refine ⟨?_, ['h', 't', 't', 'p', ':', '/', '/'], List.mem_cons_self, ['c', 'a', '/', char],
    List.cons_ne_nil _ _, rfl⟩
  have hca : ∀ c ∈ ['h', 't', 't', 'p', ':', '/', '/', 'c', 'a', '/'], isPrintable c = true :=
    List.all_eq_true.mp (by decide)
  intro c hc
  rcases List.mem_append.mp
    (show c ∈ ['h', 't', 't', 'p', ':', '/', '/', 'c', 'a', '/'] ++ [char] from hc) with hc | hc
  · exact hca c hc
  · rw [List.mem_singleton.mp hc]
    exact h

def caPoint (char : Char) (h : isPrintable char = true) : DistributionPoint where
  uris := [caUrl char]
  urls := List.forall_mem_singleton.mpr (caUrl_isUrl h)
  reasons := none
  short := nofun

theorem extract_iff_separated_ca :
    extractUrlsFromRawCdp (encodeExtension false [caPoint '1' rfl]) =
      [caPoint '1' rfl].flatMap DistributionPoint.uris ↔ Separated [caPoint '1' rfl] :=
  extract_iff_separated false [caPoint '1' rfl] (by decide +kernel)

/-- **The tag of the second point ends up in the URL of the first**, which becomes
`http://ca/10`. -/
theorem extract_two_points :
    extractUrlsFromRawCdp (encodeExtension false [caPoint '1' rfl, caPoint '2' rfl]) =
      [caUrl '1' ++ ['0'], caUrl '2'] ∧
    extractUrlsFromRawCdp (encodeExtension false [caPoint '1' rfl, caPoint '2' rfl]) ≠
      [caPoint '1' rfl, caPoint '2' rfl].flatMap DistributionPoint.uris := by
  decide +kernel

end DistributionPoints

end Eudiplo
