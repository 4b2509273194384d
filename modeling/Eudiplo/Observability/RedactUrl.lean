import Eudiplo.Auth.ClientCredentials
import Eudiplo.Shared.Splitting

/-!
# URLs in logs and traces

`redactUrl` replaces the values of the query parameters that may hold a secret.  A name is
compared as it is decoded, so an encoded `q` is one too.  Of a URL exactly these values are lost
(`redactUrl_eq_iff`), and nothing more is lost when it is redacted again
(`redactUrl_idempotent`).
-/

namespace Eudiplo

namespace RedactUrl

open RedirectUri

def REDACTED_QUERY_PARAMETERS : List String := ["q"]

def REDACTED : Text := "[redacted]".toList

/-- A name that cannot be decoded stands for itself. -/
def decodeName (name : Text) : String :=
  (ClientCredentials.formDecode name).getD (String.ofList name)

def nameOf (pair : Text) : Text := pair.takeWhile (· ≠ '=')

def isRedacted (pair : Text) : Bool :=
  REDACTED_QUERY_PARAMETERS.contains (decodeName (nameOf pair))

def redactPair (pair : Text) : Text :=
  if isRedacted pair then nameOf pair ++ '=' :: REDACTED else pair

/-- **`redactUrl`.** -/
def redactUrl (url : Text) : Text :=
  match url.dropWhile (· ≠ '?') with
  | [] => url
  | mark :: rest =>
    url.takeWhile (· ≠ '?') ++ mark ::
      ['&'].intercalate (((rest.takeWhile (· ≠ '#')).splitOn '&').map redactPair) ++
        rest.dropWhile (· ≠ '#')

/-! ## The parts of a URL -/

/-- The parts of a URL with a query: what is before it, its pairs, and the fragment. -/
structure QueryUrl where
  before : Text
  pairs : List Text
  fragment : Text
  before_plain : '?' ∉ before
  pairs_ne : pairs ≠ []
  pairs_plain : ∀ pair ∈ pairs, '&' ∉ pair ∧ '#' ∉ pair
  fragment_start : ∀ c ∈ fragment.head?, c = '#'

def QueryUrl.text (url : QueryUrl) : Text :=
  url.before ++ '?' :: ['&'].intercalate url.pairs ++ url.fragment

/-- The same pair, but for the value of a redacted parameter. -/
def SameButValue (pair pair' : Text) : Prop :=
  pair = pair' ∨ nameOf pair = nameOf pair' ∧ isRedacted pair = true

variable {url url' : QueryUrl} {pair pair' : Text}

theorem not_mem_intercalate {pairs : List Text} (h : ∀ pair ∈ pairs, '#' ∉ pair) :
    '#' ∉ ['&'].intercalate pairs := by
  induction pairs with
  | nil => simp [List.intercalate]
  | cons pair pairs ih =>
    have hpair := h pair List.mem_cons_self
    have ih := ih fun p hp => h p (List.mem_cons_of_mem pair hp)
    cases pairs with
    | nil => simpa using hpair
    | cons pair' pairs =>
      rw [List.intercalate_cons_cons, List.mem_append, List.mem_append, not_or, not_or]
      exact ⟨⟨hpair, by decide⟩, ih⟩

/-- **A URL has only one query.** -/
theorem text_parts (url : QueryUrl) :
    url.text.takeWhile (· ≠ '?') = url.before ∧
      url.text.dropWhile (· ≠ '?') = '?' :: (['&'].intercalate url.pairs ++ url.fragment) ∧
      (['&'].intercalate url.pairs ++ url.fragment).takeWhile (· ≠ '#') =
        ['&'].intercalate url.pairs ∧
      (['&'].intercalate url.pairs ++ url.fragment).dropWhile (· ≠ '#') = url.fragment ∧
      (['&'].intercalate url.pairs).splitOn '&' = url.pairs := by
  have hbefore : ∀ c ∈ url.before, (decide (c ≠ '?')) = true := fun c hc =>
    decide_eq_true fun h => url.before_plain (h ▸ hc)
  have hquery : ∀ c ∈ ['&'].intercalate url.pairs, (decide (c ≠ '#')) = true := fun c hc =>
    decide_eq_true fun h => not_mem_intercalate (fun p hp => (url.pairs_plain p hp).2) (h ▸ hc)
  have hfragment : url.fragment.takeWhile (· ≠ '#') = [] ∧
      url.fragment.dropWhile (· ≠ '#') = url.fragment := by
    have hstart := url.fragment_start
    cases hparts : url.fragment with
    | nil => exact ⟨rfl, rfl⟩
    | cons c fragment =>
      rw [hparts] at hstart
      obtain rfl := hstart c rfl
      exact ⟨rfl, rfl⟩
  rw [QueryUrl.text, List.append_assoc, List.takeWhile_append_of_pos hbefore,
    List.dropWhile_append_of_pos hbefore, List.takeWhile_append_of_pos hquery,
    List.dropWhile_append_of_pos hquery, hfragment.1, hfragment.2]
  exact ⟨List.append_nil _, rfl, List.append_nil _, rfl, List.splitOn_intercalate '&'
    (fun p hp => (url.pairs_plain p hp).1) url.pairs_ne⟩

theorem text_inj (h : url.text = url'.text) :
    url.before = url'.before ∧ url.pairs = url'.pairs ∧ url.fragment = url'.fragment := by
  obtain ⟨hbefore, hrest, hquery, hfragment, hpairs⟩ := text_parts url
  obtain ⟨hbefore', hrest', hquery', hfragment', hpairs'⟩ := text_parts url'
  rw [h] at hbefore hrest
  have hsame := (List.cons.inj (hrest.symm.trans hrest')).2
  rw [hsame] at hquery hfragment
  refine ⟨hbefore.symm.trans hbefore', ?_, hfragment.symm.trans hfragment'⟩
  rw [← hpairs, ← hpairs', hquery.symm.trans hquery']

/-- A URL with a question mark has the parts of one with a query. -/
theorem exists_queryUrl {text : Text} {mark : Char} {rest : Text}
    (h : text.dropWhile (· ≠ '?') = mark :: rest) : ∃ url : QueryUrl, url.text = text := by
  have hmark : mark = '?' := by
    have hhead := List.head?_dropWhile_not (fun c => decide (c ≠ '?')) text
    rw [h] at hhead
    simpa using hhead
  subst hmark
  have hpiece {pair : Text} (hpair : pair ∈ (rest.takeWhile (· ≠ '#')).splitOn '&') :
      '&' ∉ pair ∧ '#' ∉ pair := by
    refine ⟨fun hmem => (List.of_mem_splitOn hpair hmem).2 rfl, fun hmem => ?_⟩
    have htaken := List.mem_takeWhile_imp (List.of_mem_splitOn hpair hmem).1
    simp at htaken
  refine ⟨⟨text.takeWhile (· ≠ '?'), (rest.takeWhile (· ≠ '#')).splitOn '&',
    rest.dropWhile (· ≠ '#'), fun hmem => ?_, List.splitOn_ne_nil _ _, fun _ => hpiece,
    fun c hc => ?_⟩, ?_⟩
  · have htaken := List.mem_takeWhile_imp hmem
    simp at htaken
  · have hhead := List.head?_dropWhile_not (fun c => decide (c ≠ '#')) rest
    rw [Option.mem_def.mp hc] at hhead
    simpa using hhead
  · show text.takeWhile _ ++ '?' :: ['&'].intercalate (List.splitOn _ _) ++ _ = text
    rw [List.intercalate_splitOn, List.append_assoc, List.cons_append,
      List.takeWhile_append_dropWhile, ← h, List.takeWhile_append_dropWhile]

/-! ## What is redacted -/

theorem nameOf_redacted (pair : Text) :
    nameOf (nameOf pair ++ '=' :: REDACTED) = nameOf pair := by
  have hname : ∀ c ∈ nameOf pair, (decide (c ≠ '=')) = true := by
    intro c hc
    have htaken := List.mem_takeWhile_imp (show c ∈ pair.takeWhile (· ≠ '=') from hc)
    exact htaken
  rw [nameOf, List.takeWhile_append_of_pos hname]
  exact List.append_nil _

theorem redactPair_pos (h : isRedacted pair = true) :
    redactPair pair = nameOf pair ++ '=' :: REDACTED := if_pos h

theorem redactPair_neg (h : ¬isRedacted pair = true) : redactPair pair = pair := if_neg h

theorem isRedacted_redacted (h : isRedacted pair = true) :
    isRedacted (nameOf pair ++ '=' :: REDACTED) = true := by
  rw [isRedacted, nameOf_redacted]
  exact h

theorem redactPair_redactPair (pair : Text) : redactPair (redactPair pair) = redactPair pair := by
  by_cases h : isRedacted pair = true
  · rw [redactPair_pos h, redactPair_pos (isRedacted_redacted h), nameOf_redacted]
  · rw [redactPair_neg h, redactPair_neg h]

/-- **Of a pair exactly the value of a redacted parameter is lost.** -/
theorem redactPair_eq_iff : redactPair pair = redactPair pair' ↔ SameButValue pair pair' := by
  constructor
  · intro h
    by_cases hp : isRedacted pair = true <;> by_cases hp' : isRedacted pair' = true
    · rw [redactPair_pos hp, redactPair_pos hp'] at h
      refine .inr ⟨?_, hp⟩
      rw [← nameOf_redacted pair, h, nameOf_redacted]
    · rw [redactPair_pos hp, redactPair_neg hp'] at h
      exact absurd (h ▸ isRedacted_redacted hp) hp'
    · rw [redactPair_neg hp, redactPair_pos hp'] at h
      exact absurd (h ▸ isRedacted_redacted hp') hp
    · rw [redactPair_neg hp, redactPair_neg hp'] at h
      exact .inl h
  · rintro (rfl | ⟨hname, hp⟩)
    · rfl
    · have hp' : isRedacted pair' = true := by
        rw [isRedacted, ← hname]
        exact hp
      rw [redactPair_pos hp, redactPair_pos hp', hname]

theorem plain_redactPair (h : '&' ∉ pair ∧ '#' ∉ pair) :
    '&' ∉ redactPair pair ∧ '#' ∉ redactPair pair := by
  have hname {c : Char} (hc : c ∉ pair) (hredacted : c ∉ '=' :: REDACTED) :
      c ∉ nameOf pair ++ '=' :: REDACTED := fun hmem => (List.mem_append.mp hmem).elim
    (fun hmem => hc ((List.takeWhile_prefix _).subset hmem)) hredacted
  unfold redactPair
  split
  · exact ⟨hname h.1 (by decide), hname h.2 (by decide)⟩
  · exact h

def QueryUrl.redact (url : QueryUrl) : QueryUrl where
  before := url.before
  pairs := url.pairs.map redactPair
  fragment := url.fragment
  before_plain := url.before_plain
  pairs_ne := mt List.map_eq_nil_iff.mp url.pairs_ne
  pairs_plain := List.forall_mem_map.mpr fun p hp => plain_redactPair (url.pairs_plain p hp)
  fragment_start := url.fragment_start

theorem redactUrl_text (url : QueryUrl) : redactUrl url.text = url.redact.text := by
  obtain ⟨hbefore, hrest, hquery, hfragment, hpairs⟩ := text_parts url
  rw [redactUrl, hrest]
  show url.text.takeWhile _ ++ _ ++ _ = _
  rw [hbefore, hquery, hfragment, hpairs]
  rfl

end RedactUrl

open RedactUrl

/-- **Of a URL with a query exactly the values of the redacted parameters are lost**: two URLs
are the same in a log if and only if they are the same but for these. -/
theorem redactUrl_eq_iff (url url' : QueryUrl) : redactUrl url.text = redactUrl url'.text ↔
    url.before = url'.before ∧ List.Forall₂ SameButValue url.pairs url'.pairs ∧
      url.fragment = url'.fragment := by
  have hpairs : url.pairs.map redactPair = url'.pairs.map redactPair ↔
      List.Forall₂ SameButValue url.pairs url'.pairs := by
    rw [← List.forall₂_eq_eq_eq, List.forall₂_map_left_iff, List.forall₂_map_right_iff]
    simp only [redactPair_eq_iff]
  rw [redactUrl_text, redactUrl_text]
  constructor
  · intro h
    obtain ⟨hbefore, hsame, hfragment⟩ := text_inj h
    exact ⟨hbefore, hpairs.mp hsame, hfragment⟩
  · rintro ⟨hbefore, hsame, hfragment⟩
    have hsame := hpairs.mpr hsame
    show url.before ++ '?' :: ['&'].intercalate (url.pairs.map redactPair) ++ url.fragment =
      url'.before ++ '?' :: ['&'].intercalate (url'.pairs.map redactPair) ++ url'.fragment
    rw [hbefore, hsame, hfragment]

/-- **A redacted URL stays as it is** when it is redacted again. -/
theorem redactUrl_idempotent (url : List Char) :
    redactUrl (redactUrl url) = redactUrl url := by
  cases hrest : url.dropWhile (· ≠ '?') with
  | nil =>
    have hplain : redactUrl url = url := by rw [redactUrl, hrest]
    rw [hplain, hplain]
  | cons mark rest =>
    obtain ⟨parts, rfl⟩ := exists_queryUrl hrest
    rw [redactUrl_text, redactUrl_text]
    show parts.before ++ '?' :: ['&'].intercalate ((parts.pairs.map redactPair).map redactPair) ++
      parts.fragment = _
    have hagain : redactPair ∘ redactPair = redactPair := funext redactPair_redactPair
    rw [List.map_map, hagain]
    rfl

end Eudiplo
